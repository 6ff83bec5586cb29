import OrcaNet.HttpServer.ProxyEndpoints
import OrcaNet.Network.RequestCorrelation
import OrcaNet.Proxy.Authorization

/-! # Proxy sessions

    A session has a row at each of its two ends.  The provider makes its row
    when it handles an `HTTPProxyProvideRequest` and answers with the keys of
    the row; the client makes its own row from the answer, and shows the token
    to the provider's proxy from then on.

    Nothing ever takes a client row away or changes more of it than the counts of
    data and of unconfirmed payments, so the two rows agree however late the
    client looks, and a token belongs to one session for good. -/

namespace OrcaNet

open Transition HandlerM

/-! ## Section 1: The answer of the provider -/

namespace HandlerM

/-- What the computation returns has the property. -/
def Ensures {α : Type} (P : α → Prop) (x : HandlerM α) : Prop :=
  ∀ db a db', x db = .ok a db' → P a

variable {α β : Type}

theorem Ensures.pure {P : α → Prop} {a : α} (h : P a) : Ensures P (pure a) := by
  intro db a' db' hrun
  cases hrun
  exact h

theorem Ensures.throw (P : α → Prop) (f : Failure) : Ensures P (throw f) := by
  intro db a db' hrun
  cases hrun

theorem Ensures.bind {P : β → Prop} {x : HandlerM α} {f : α → HandlerM β}
    (h : ∀ a, Ensures P (f a)) : Ensures P (x >>= f) := by
  intro db b db' hrun
  rw [bind_run] at hrun
  split at hrun
  · exact h _ _ _ _ hrun
  · cases hrun

end HandlerM

namespace RequestHandlerLoop

/-- What a provider says about itself. -/
def proxy_metadata (cfg : OrcaNetConfig) : HTTPProxyMetadata F64 where
  proxy_address := cfg.ProxyProviderServerAddress
  fee_rate_per_kb := cfg.get_proxy_fee_rate
  recipient_address := cfg.get_btc_address

/-- The row of a new client. -/
def new_client (cfg : OrcaNetConfig) (env : Env) (from_peer : PeerId) : ProxyClientInfo :=
  .with_defaults (env.new_uuid 0) (env.new_uuid 1) from_peer.to_string env.get_unix_timestamp
    cfg.get_proxy_fee_rate

/-- The response offers no session. -/
def OffersNone (response : OrcaNetResponse F64) : Prop :=
  ∀ metadata client_id auth_token,
    response ≠ .HTTPProxyProvideResponse metadata client_id auth_token

/-- A session was opened: the row is in the table, and the answer has its keys. -/
structure Provides (cfg : OrcaNetConfig) (env : Env) (request : OrcaNetRequest F64)
    (from_peer : PeerId) (db db' : Database) (metadata : HTTPProxyMetadata F64)
    (client_id auth_token : String) : Prop where
  request : request = .HTTPProxyProvideRequest
  metadata : metadata = proxy_metadata cfg
  client_id : client_id = env.new_uuid 0
  auth_token : auth_token = env.new_uuid 1
  insert : ∃ t, db.proxy_clients.insert (new_client cfg env from_peer) = some t ∧
    db'.proxy_clients = t

section provides

variable {cfg : OrcaNetConfig} {env : Env} {from_peer : PeerId}

variable (cfg env from_peer) in
theorem handle_file_request_offers (request : OrcaNetRequest F64) :
    Ensures OffersNone (handle_file_request cfg env request from_peer) := by
  cases request with
  | FileMetadataRequest file_id =>
    refine .bind fun _ => .bind fun _ => .bind fun result => ?_
    cases result <;> exact .pure (by simp [OffersNone])
  | FileContentRequest file_id =>
    refine .bind fun _ => .bind fun _ => .bind fun result => ?_
    cases result with
    | error e => exact .pure (by simp [OffersNone])
    | ok file_info => exact .bind fun _ => .bind fun _ => .pure (by simp [OffersNone])
  | _ => exact .throw _ _

variable (cfg env from_peer) in
theorem handle_payment_request_offers (request : OrcaNetRequest F64) :
    Ensures OffersNone (handle_payment_request cfg env request from_peer) := by
  cases request with
  | HTTPProxyPrePaymentRequest client_id auth_token data_transferred_kb fee_owed =>
    refine .bind fun _ => .bind fun _ => .bind fun client_info => ?_
    dsimp only
    split
    · exact .bind fun _ => .pure (by simp [OffersNone])
    · split
      · exact .bind fun _ => .pure (by simp [OffersNone])
      · split
        · exact .bind fun _ => .pure (by simp [OffersNone])
        · exact .bind fun _ => .bind fun _ => .bind fun _ => .bind fun _ =>
            .pure (by simp [OffersNone])
  | HTTPProxyPostPaymentNotification client_id auth_token payment_notification =>
    refine .bind fun _ => .bind fun _ => .bind fun client_info => .bind fun _ =>
      .bind fun result => ?_
    cases result with
    | error e => exact .pure (by simp [OffersNone])
    | ok payment_info =>
      exact .bind fun _ => .bind fun _ => .bind fun _ => .bind fun _ =>
        .pure (by simp [OffersNone])
  | _ => exact .throw _ _

/-- An answer that was ensured to offer no session offers none. -/
theorem offersNone_of_ensures {x : HandlerM (OrcaNetResponse F64)} (h : Ensures OffersNone x)
    {db : Database} {response : OrcaNetResponse F64}
    (hresponse : RequestHandlerLoop.response (x db) = some response) : OffersNone response := by
  cases hrun : x db with
  | ok r db' =>
    rw [hrun] at hresponse
    exact Option.some.inj hresponse ▸ h db r db' hrun
  | error f db' =>
    rw [hrun] at hresponse
    cases f with
    | err message =>
      obtain rfl := Option.some.inj hresponse
      simp [OffersNone]
    | panic message => cases hresponse

theorem handle_http_proxy_request_provides {request : OrcaNetRequest F64} {db : Database}
    {metadata : HTTPProxyMetadata F64} {client_id auth_token : String}
    (h : response (handle_http_proxy_request cfg env request from_peer db) =
      some (.HTTPProxyProvideResponse metadata client_id auth_token)) :
    Provides cfg env request from_peer db
      (final (handle_http_proxy_request cfg env request from_peer db)) metadata client_id
      auth_token := by
  unfold handle_http_proxy_request at h ⊢
  cases hmode : cfg.get_proxy_config with
  | none => simp [hmode] at h
  | some mode =>
    cases mode with
    | ProxyClient session_id => simp [hmode] at h
    | ProxyProvider =>
      cases request with
      | HTTPProxyProvideRequest =>
        cases hconn : env.db_fault (.create_sqlite_connection .proxy_clients) with
        | some e =>
          simp [hmode, create_sqlite_connection_panic hconn, response] at h
        | none =>
          simp only [hmode, create_sqlite_connection_ok hconn, bind_run, pure_run, write_run,
            ProxyClientsTable.add_client, execute] at h ⊢
          cases hfault : env.db_fault .add_client with
          | some e => simp [hfault, response] at h
          | none =>
            cases hins : db.proxy_clients.insert (new_client cfg env from_peer) with
            | none =>
              simp only [new_client] at hins
              simp [hfault, hins, response] at h
            | some t =>
              simp only [new_client] at hins
              simp only [hfault, hins, question_ok, pure_run, response_ok, final_ok,
                Option.some.injEq, OrcaNetResponse.HTTPProxyProvideResponse.injEq] at h ⊢
              obtain ⟨rfl, rfl, rfl⟩ := h
              exact ⟨rfl, rfl, rfl, rfl, t, hins, rfl⟩
      | HTTPProxyMetadataRequest => simp [hmode] at h
      | _ => simp [hmode, response] at h

/-- Only the proxy requests are answered with a session. -/
theorem handle_request_offers (request : OrcaNetRequest F64) :
    handle_request cfg env request from_peer =
        handle_http_proxy_request cfg env request from_peer ∨
      Ensures OffersNone (handle_request cfg env request from_peer) := by
  cases request with
  | FileMetadataRequest file_id =>
    exact Or.inr (handle_file_request_offers cfg env from_peer (.FileMetadataRequest file_id))
  | FileContentRequest file_id =>
    exact Or.inr (handle_file_request_offers cfg env from_peer (.FileContentRequest file_id))
  | HTTPProxyMetadataRequest => exact Or.inl rfl
  | HTTPProxyProvideRequest => exact Or.inl rfl
  | HTTPProxyPrePaymentRequest client_id auth_token data_transferred_kb fee_owed =>
    exact Or.inr (handle_payment_request_offers cfg env from_peer
      (.HTTPProxyPrePaymentRequest client_id auth_token data_transferred_kb fee_owed))
  | HTTPProxyPostPaymentNotification client_id auth_token payment_notification =>
    exact Or.inr (handle_payment_request_offers cfg env from_peer
      (.HTTPProxyPostPaymentNotification client_id auth_token payment_notification))

theorem handle_request_provides {request : OrcaNetRequest F64} {db : Database}
    {metadata : HTTPProxyMetadata F64} {client_id auth_token : String}
    (h : response (handle_request cfg env request from_peer db) =
      some (.HTTPProxyProvideResponse metadata client_id auth_token)) :
    Provides cfg env request from_peer db (final (handle_request cfg env request from_peer db))
      metadata client_id auth_token := by
  rcases handle_request_offers request with hproxy | hnone
  · rw [hproxy] at h ⊢
    exact handle_http_proxy_request_provides h
  · exact absurd rfl (offersNone_of_ensures hnone h _ _ _)

end provides

end RequestHandlerLoop

/-! ## Section 2: The rows of clients -/

/-- The row is as it was, but for the counts of data and of unconfirmed payments. -/
def ProxyClientInfo.Kept (c c' : ProxyClientInfo) : Prop :=
  ∃ kb amount, c' = { c with
    data_transferred_kb := kb
    total_fee_received_unconfirmed := amount }

theorem ProxyClientInfo.Kept.refl (c : ProxyClientInfo) : c.Kept c := ⟨_, _, rfl⟩

theorem ProxyClientInfo.Kept.trans {c c' c'' : ProxyClientInfo} (h : c.Kept c')
    (h' : c'.Kept c'') : c.Kept c'' := by
  obtain ⟨kb, amount, rfl⟩ := h
  obtain ⟨kb', amount', rfl⟩ := h'
  exact ⟨kb', amount', rfl⟩

/-- No client row is lost. -/
def KeepsClients (db db' : Database) : Prop :=
  ∀ c ∈ db.proxy_clients.rows, ∃ c' ∈ db'.proxy_clients.rows, c.Kept c'

theorem keepsClients_of_eq {db db' : Database} (h : db'.proxy_clients = db.proxy_clients) :
    KeepsClients db db' :=
  fun c hc => ⟨c, h ▸ hc, .refl c⟩

theorem keepsClients_credit_client (db : Database) (client_id : String) (amount : F64) :
    KeepsClients db (RequestHandlerLoop.credit_client db client_id amount) := by
  simp only [KeepsClients, RequestHandlerLoop.credit_client, Table.mem_update]
  intro c hc
  refine ⟨_, ⟨c, hc, rfl⟩, ?_⟩
  split
  · exact ⟨_, _, rfl⟩
  · exact .refl c

theorem RequestHandlerLoop.Effect.keepsClients {cfg : OrcaNetConfig} {env : Env}
    {from_peer : PeerId} {db db' : Database} {request : OrcaNetRequest F64}
    {response : Option (OrcaNetResponse F64)}
    (h : Effect cfg env from_peer db request response db') : KeepsClients db db' := by
  cases h with
  | inert hresponse hclients hpayments => exact keepsClients_of_eq hclients
  | provide hinsert =>
    intro c hc
    refine ⟨c, ?_, .refl c⟩
    rw [(Table.insert_eq_some hinsert).2]
    exact List.mem_append_left _ hc
  | over_threshold | reference | mismatch | uncredited => exact keepsClients_of_eq rfl
  | @credited client_id auth_token n c r =>
    exact keepsClients_credit_client (confirm_payment db n r) _ _

/-- No client row is lost when an event is handled. -/
theorem HandlerLoop.handle_event_keepsClients (env : HandlerEnv) (s : HandlerLoop)
    (event : OrcaNetEvent) : KeepsClients s.db (handle_event env s event).loop.db := by
  cases hrequest : request_of event with
  | none =>
    obtain ⟨files, hdb⟩ := handle_event_files env s hrequest
    exact keepsClients_of_eq (by rw [hdb])
  | some r =>
    rw [handle_event_request hrequest]
    exact (RequestHandlerLoop.handle_request_effect s.config env.toEnv r.2.1 s.db
      r.1).keepsClients

namespace NodeLoops

theorem deliver_db (env : HandlerEnv) (s : State) (replies : List (Sender × Reply)) :
    (deliver env s replies).handler.db = s.handler.db := by
  rcases deliver_cases env s replies with hsame | ⟨-, after, hfinish⟩
  · rw [hsame]
  · rw [hfinish]
    exact HandlerLoop.finish_db env s.handler after

theorem respond_handler (s : State) (event : OrcaNetEvent)
    (response : Option (OrcaNetResponse F64)) : (respond s event response).handler = s.handler := by
  unfold respond
  split
  · split <;> rfl
  · rfl

/-- The database changes only when an event is handled. -/
theorem next_db {s s' : State} {l : Label} (h : next s l = some s') :
    s'.handler.db = s.handler.db ∨ ∃ env event, l = .handle env ∧
      s.handler_phase = .handle_event event ∧
      s'.handler.db = (HandlerLoop.handle_event env s.handler event).loop.db := by
  cases l with
  | network wake alive env =>
    obtain ⟨-, o, -, rfl⟩ := next_network h
    exact Or.inl (deliver_db env _ _)
  | local_event event env =>
    obtain ⟨-, -, rfl⟩ := next_local_event h
    exact Or.inl rfl
  | take_event env =>
    obtain ⟨-, ⟨_, _, _, -, rfl⟩ | ⟨_, _, _, -, rfl⟩⟩ := next_take_event h <;> exact Or.inl rfl
  | handle env =>
    obtain ⟨event, hph, rfl⟩ := next_handle h
    refine Or.inr ⟨env, event, rfl, hph, ?_⟩
    rw [respond_handler]
    rfl
  | take_command swarm alive env =>
    obtain ⟨c, o, -, -, ho, rfl⟩ := next_take_command h
    exact Or.inl (HandlerLoop.command_taken_db ho)
  | proxy_event_sent env =>
    obtain ⟨server, mode, -, rfl⟩ := next_proxy_event_sent h
    exact Or.inl (HandlerLoop.stop_proxy_db env s.handler mode)
  | network_gone wake env =>
    obtain ⟨-, message, rfl⟩ := next_network_gone h
    exact Or.inl rfl
  | handler_gone wake =>
    obtain ⟨-, message, rfl⟩ := next_handler_gone h
    exact Or.inl rfl

theorem next_keepsClients {s s' : State} {l : Label} (h : next s l = some s') :
    KeepsClients s.handler.db s'.handler.db := by
  rcases next_db h with hsame | ⟨env, event, -, -, hdb⟩
  · exact keepsClients_of_eq (congrArg _ hsame)
  · rw [hdb]
    exact HandlerLoop.handle_event_keepsClients env s.handler event

end NodeLoops

/-! ## Section 3: Sessions that were opened -/

namespace Requests

open RequestHandlerLoop

/-- The answer to the request offered a session. -/
def Handled.Opens (h : Handled) : Prop :=
  ∃ metadata client_id auth_token,
    h.response = some (.HTTPProxyProvideResponse metadata client_id auth_token)

/-- The client's row as it was inserted. -/
def Handled.client (h : Handled) : ProxyClientInfo := new_client h.config h.env h.from_peer

/-- The rows of two sessions have different keys. -/
def Apart (c c' : ProxyClientInfo) : Prop :=
  c.client_id ≠ c'.client_id ∧ c.auth_token ≠ c'.auth_token

/-- Sessions at one peer are apart. -/
def Handled.Apart (h h' : Handled) : Prop :=
  h.peer = h'.peer → h.Opens → h'.Opens → Requests.Apart h.client h'.client

instance : Std.Symm Handled.Apart :=
  ⟨fun _ _ h hpeer hopens hopens' => (h hpeer.symm hopens' hopens).imp Ne.symm Ne.symm⟩

/-- Every session still has its row, and keys of its own. -/
structure SessionInv (s : State) : Prop where
  rows : ∀ h ∈ s.handled, h.Opens →
    ∃ c ∈ (s.node h.peer).handler.db.proxy_clients.rows, h.client.Kept c
  apart : s.handled.Pairwise Handled.Apart

section steps

variable {s : State} {n' : NodeLoops.State} {l : Label}

theorem record_node (s : State) (l : Label) (n' : NodeLoops.State) :
    (record s l n').node = Function.update s.node l.peer n' := by
  simp only [record]
  split
  case h_4 => split <;> rfl
  all_goals rfl

theorem handle_of_act {n : NodeLoops.State} {request : OrcaNetRequest F64} {from_peer : PeerId}
    {channel : ResponseChannel} {env : Env}
    (h : act n l = .handle request from_peer channel env) :
    ∃ henv, l.step = .handle henv ∧ henv.toEnv = env ∧
      n.handler_phase = .handle_event (.Request request from_peer channel) := by
  unfold act at h
  split at h
  case h_4 henv hstep =>
    split at h
    · rename_i hph
      cases h
      exact ⟨henv, hstep, rfl, hph⟩
    · cases h
  case h_5 => split at h <;> cases h
  all_goals cases h

/-- The log grows when a handler handles a request. -/
theorem record_handled (h : NodeLoops.next (s.node l.peer) l.step = some n') :
    (record s l n').handled = s.handled ∨ ∃ request from_peer channel env,
      (record s l n').handled = ⟨l.peer, s.channels (l.peer, channel), from_peer, request,
        (s.node l.peer).handler.config, env, (s.node l.peer).handler.db⟩ :: s.handled ∧
      n'.handler.db = final (handle_request (s.node l.peer).handler.config env request from_peer
        (s.node l.peer).handler.db) := by
  cases hact : act (s.node l.peer) l with
  | handle request from_peer channel env =>
    refine Or.inr ⟨request, from_peer, channel, env, by simp only [record, hact], ?_⟩
    obtain ⟨henv, hstep, rfl, hph⟩ := handle_of_act hact
    rw [hstep] at h
    obtain ⟨event, hph', rfl⟩ := NodeLoops.next_handle h
    obtain rfl : event = .Request request from_peer channel := by
      simpa [hph] using hph'.symm
    rw [NodeLoops.respond_handler]
    simp only [NodeLoops.set_handler, HandlerLoop.handle_event]
    split <;> rfl
  | respond response channel =>
    refine Or.inl ?_
    simp only [record, hact]
    split <;> rfl
  | _ => exact Or.inl (by simp only [record, hact]; rfl)

theorem rows_of_keeps (hinv : SessionInv s)
    (hkeeps : KeepsClients (s.node l.peer).handler.db n'.handler.db) :
    ∀ h ∈ s.handled, h.Opens →
      ∃ c ∈ ((record s l n').node h.peer).handler.db.proxy_clients.rows, h.client.Kept c := by
  intro h hh hopens
  obtain ⟨c, hc, hkept⟩ := hinv.rows h hh hopens
  rw [record_node]
  by_cases hpeer : h.peer = l.peer
  · rw [hpeer] at hc ⊢
    obtain ⟨c', hc', hkept'⟩ := hkeeps c hc
    rw [Function.update_self]
    exact ⟨c', hc', hkept.trans hkept'⟩
  · rw [Function.update_of_ne hpeer]
    exact ⟨c, hc, hkept⟩

theorem sessionInv_step {s s' : State} {l : Label} (hinv : SessionInv s)
    (hnext : next s l = some s') : SessionInv s' := by
  obtain ⟨-, n', hn', rfl⟩ := next_eq_some hnext
  have hold := rows_of_keeps hinv (NodeLoops.next_keepsClients hn')
  rcases record_handled hn' with hsame | ⟨request, from_peer, channel, env, hnew, hdb⟩
  · refine ⟨?_, ?_⟩
    · rw [hsame]
      exact hold
    · rw [hsame]
      exact hinv.apart
  · -- the keys of a new row are in no other row
    have hprovides : ∀ h : Handled, h = ⟨l.peer, s.channels (l.peer, channel), from_peer, request,
        (s.node l.peer).handler.config, env, (s.node l.peer).handler.db⟩ → h.Opens →
        ∃ t, (s.node l.peer).handler.db.proxy_clients.insert h.client = some t ∧
          n'.handler.db.proxy_clients = t := by
      rintro _ rfl ⟨metadata, client_id, auth_token, hresponse⟩
      obtain ⟨t, hinsert, ht⟩ := (handle_request_provides hresponse).insert
      exact ⟨t, hinsert, hdb ▸ ht⟩
    refine ⟨fun h hh hopens => ?_, ?_⟩
    · rw [hnew] at hh
      rcases List.mem_cons.mp hh with heq | hh
      · obtain ⟨t, hinsert, ht⟩ := hprovides h heq hopens
        subst heq
        rw [record_node, Function.update_self, ht, (Table.insert_eq_some hinsert).2]
        exact ⟨_, List.mem_append_right _ (List.mem_singleton_self _), .refl _⟩
      · exact hold h hh hopens
    · rw [hnew]
      refine List.pairwise_cons.mpr ⟨fun h hh hpeer hopens hopens' => ?_, hinv.apart⟩
      obtain ⟨t, hinsert, -⟩ := hprovides _ rfl hopens
      have hfresh := (Table.insert_eq_some hinsert).1
      obtain ⟨c, hc, kb, amount, rfl⟩ := hinv.rows h hh hopens'
      rw [← hpeer] at hc
      have hid := Table.find_eq_none_iff.mp (hfresh ProxyClientInfo.client_id (by simp)) _ hc
      have htoken := Table.find_eq_none_iff.mp (hfresh ProxyClientInfo.auth_token (by simp)) _ hc
      exact ⟨Ne.symm hid, Ne.symm htoken⟩

theorem sessionInv_of_reachable {s : State} (h : system.Reachable s) : SessionInv s := by
  refine System.Reachable.invariant (J := SessionInv) (fun s hs => ?_)
    (fun s l s' _ hinv hnext => sessionInv_step hinv hnext) h
  obtain ⟨-, -, -, -, -, hhandled, -, -⟩ := hs
  constructor <;> simp [hhandled]

end steps

/-! ## Section 4: The two ends of a session -/

/-- The client's row `session_info` and the provider's row `c` are those of one
    session, and the provider's proxy serves it. -/
structure OpenAt (db : Database) (caller : PeerId) (session_info : ProxySessionInfo)
    (c : ProxyClientInfo) : Prop where
  row : c ∈ db.proxy_clients.rows
  client_id : c.client_id = session_info.client_id
  auth_token : c.auth_token = session_info.auth_token
  fee_rate_per_kb : c.fee_rate_per_kb = session_info.fee_rate_per_kb
  status : c.status = session_info.status
  client_peer_id : c.client_peer_id = caller.to_string
  serves : ∀ env method, env.NoFaults → ProxyProvider.ReadsHeaders env →
    ProxyProvider.IsText env (ProxyClient.authorization session_info) →
    (ProxyProvider.handle_request env method (ProxyClient.authorization session_info)
      db).phase.Serves c

/-- The client id picks the row. -/
theorem OpenAt.unique {db : Database} {caller : PeerId} {session_info : ProxySessionInfo}
    {c c' : ProxyClientInfo} (h : OpenAt db caller session_info c)
    (h' : OpenAt db caller session_info c') : c' = c :=
  Table.row_unique (c := ProxyClientInfo.client_id) (by simp) h'.row h.row
    (h'.client_id.trans h.client_id.symm)

/-- The call was asked for a session, and whatever row the caller makes of the
    answer has one counterpart at the peer. -/
def SessionOpen (s : State) (c : Call) (metadata : HTTPProxyMetadata F64)
    (client_id auth_token : String) : Prop :=
  c.request = .HTTPProxyProvideRequest ∧ ∀ env peer_id, ∃! client,
    OpenAt (s.node c.peer).handler.db c.caller
      (.from_proxy_connect_response env peer_id client_id auth_token metadata) client

/-- The caller got a session. -/
def GotSession (s : State) (c : Call) (metadata : HTTPProxyMetadata F64)
    (client_id auth_token : String) : Prop :=
  Returned s c (.HTTPProxyProvideResponse metadata client_id auth_token)

theorem Call.ticket_injective {c c' : Call} (h : c.ticket = c'.ticket) : c = c' := by
  cases c
  cases c'
  simp only [Call.ticket, Call.id, Call.abstract, RemoteCall.Ticket.mk.injEq, Prod.mk.injEq,
    RemoteCall.Call.mk.injEq] at h
  obtain ⟨⟨rfl, rfl⟩, ⟨-, rfl, rfl⟩, -, rfl⟩ := h
  rfl

/-- The request that a session comes from. -/
theorem handled_of_got {s : State} {t : Abstract} (ht : RemoteCall.system.Reachable t)
    (hrel : Refines s t) {c : Call} (hc : c ∈ s.calls) {metadata : HTTPProxyMetadata F64}
    {client_id auth_token : String} (h : GotSession s c metadata client_id auth_token) :
    ∃ e ∈ s.handled, e.id = some c.id ∧ e.peer = c.peer ∧ e.from_peer = c.caller ∧ e.Opens ∧
      c.request = .HTTPProxyProvideRequest ∧ metadata = proxy_metadata e.config ∧
      client_id = e.client.client_id ∧ auth_token = e.client.auth_token := by
  obtain ⟨e, hfilter, hpeer, hcaller, hrequest, hresponse⟩ := handledOnce_of_returned ht hrel hc h
  have he : e ∈ s.handled.filter fun h => h.id = some c.id :=
    hfilter ▸ List.mem_singleton_self e
  obtain ⟨hmem, hid⟩ := List.mem_filter.mp he
  have hprovides := handle_request_provides hresponse
  exact ⟨e, hmem, by simpa using hid, hpeer, hcaller, ⟨_, _, _, hresponse⟩,
    hrequest.symm.trans hprovides.request, hprovides.metadata, hprovides.client_id,
    hprovides.auth_token⟩

theorem sessionOpen_of_got {s : State} {t : Abstract} (ht : RemoteCall.system.Reachable t)
    (hrel : Refines s t) (hinv : SessionInv s) {c : Call} (hc : c ∈ s.calls)
    {metadata : HTTPProxyMetadata F64} {client_id auth_token : String}
    (h : GotSession s c metadata client_id auth_token) :
    SessionOpen s c metadata client_id auth_token := by
  obtain ⟨e, hmem, -, hpeer, hcaller, hopens, hrequest, rfl, rfl, rfl⟩ :=
    handled_of_got ht hrel hc h
  refine ⟨hrequest, fun env peer_id => ?_⟩
  obtain ⟨client, hrow, kb, amount, rfl⟩ := hinv.rows e hmem hopens
  rw [hpeer] at hrow
  refine existsUnique_of_exists_of_unique ⟨_, hrow, rfl, rfl, rfl, rfl, ?_,
    fun env method henv hreads htext => ?_⟩ fun _ _ hopen hopen' => hopen'.unique hopen
  · rw [← hcaller]
    rfl
  · refine ProxyProvider.handle_request_serves_iff method |>.mpr ?_
    refine (ProxyProvider.validate_auth_token_ok_iff hreads).mpr
      ⟨⟨rfl, hrow⟩, ⟨htext, henv _⟩, ⟨?_, ?_⟩, henv _⟩
    -- a new client is active
    · exact one_ne_zero
    · exact (by decide : (1 : ℤ) ≠ 2)

/-- Two calls that got a common key from one peer are one call. -/
theorem call_unique {s : State} {t : Abstract} (ht : RemoteCall.system.Reachable t)
    (hrel : Refines s t) (hinv : SessionInv s) {c c' : Call} (hc : c ∈ s.calls) (hc' : c' ∈ s.calls)
    {metadata metadata' : HTTPProxyMetadata F64}
    {client_id client_id' auth_token auth_token' : String}
    (h : GotSession s c metadata client_id auth_token)
    (h' : GotSession s c' metadata' client_id' auth_token') (hpeer : c.peer = c'.peer)
    (hkey : client_id = client_id' ∨ auth_token = auth_token') : c = c' := by
  obtain ⟨e, hmem, hid, hep, -, hopens, -, -, rfl, rfl⟩ := handled_of_got ht hrel hc h
  obtain ⟨e', hmem', hid', hep', -, hopens', -, -, rfl, rfl⟩ := handled_of_got ht hrel hc' h'
  have heq : e = e' := by
    by_contra hne
    obtain ⟨hids, htokens⟩ :=
      hinv.apart.forall hmem hmem' hne (by rw [hep, hep', hpeer]) hopens hopens'
    exact hkey.elim hids htokens
  subst heq
  have hticket := hrel.ledger.eq_of_id (List.mem_map_of_mem (f := Call.ticket) hc)
    (List.mem_map_of_mem (f := Call.ticket) hc') (Option.some.inj (hid.symm.trans hid'))
  exact Call.ticket_injective hticket

/-- **Sessions.**  In every reachable state of any number of nodes, a caller
    that got a session asked for one, and its peer has the row of a client with
    the keys, the rate and the status that the caller stores, made out to the
    caller; the peer's proxy serves requests with the token on behalf of that
    client.  No other call to the peer ever got the client id or the token. -/
theorem sessions_open (s : State) (h : system.Reachable s) :
    (∀ c ∈ s.calls, ∀ metadata client_id auth_token,
      GotSession s c metadata client_id auth_token →
        SessionOpen s c metadata client_id auth_token) ∧
      ∀ c ∈ s.calls, ∀ c' ∈ s.calls, ∀ metadata client_id auth_token metadata' client_id'
          auth_token', GotSession s c metadata client_id auth_token →
        GotSession s c' metadata' client_id' auth_token' → c.peer = c'.peer →
          client_id = client_id' ∨ auth_token = auth_token' → c = c' := by
  obtain ⟨t, ht, hrel⟩ := refines_of_reachable h
  have hinv := sessionInv_of_reachable h
  refine ⟨fun c hc metadata client_id auth_token hgot => ?_, fun c hc c' hc' metadata client_id
    auth_token metadata' client_id' auth_token' hgot hgot' => ?_⟩
  · exact sessionOpen_of_got ht hrel hinv hc hgot
  · exact call_unique ht hrel hinv hc hc' hgot hgot'

/-- A call that opens a session. -/
def connectRun : List Label :=
  let caller : PeerId := ⟨"caller"⟩
  let peer : PeerId := ⟨"peer"⟩
  let wake (p : PeerId) (w : NetworkEventLoop.Wake) : Label :=
    ⟨p, .network w (fun _ => true) .working, 4⟩
  [wake caller (.command (NetworkClient.send_request peer .HTTPProxyProvideRequest 1) sampleSwarm),
   wake peer (.swarm_event (.Request caller .HTTPProxyProvideRequest 7)),
   ⟨peer, .take_event .working, 0⟩, ⟨peer, .handle .working, 0⟩,
   ⟨peer, .take_command sampleSwarm (fun _ => true) .working, 0⟩,
   wake caller (.swarm_event (.Response 4 (.HTTPProxyProvideResponse
     (proxy_metadata OrcaNetConfig.sampleConfig) "uuid" "uuid")))]

theorem connectRun_isSome : (system.run idleNetwork connectRun).isSome := by with_unfolding_all rfl

def connectedNetwork : State := (system.run idleNetwork connectRun).get connectRun_isSome

theorem reachable_connectedNetwork : system.Reachable connectedNetwork :=
  .run connectRun (.init ⟨fun _ => ⟨⟨rfl, rfl⟩, rfl⟩, fun _ => rfl, fun _ => rfl, fun _ => rfl, rfl,
    rfl, rfl, rfl⟩) (Option.some_get connectRun_isSome).symm

theorem sessions_open_connectedNetwork :
    ∃ c ∈ connectedNetwork.calls, ∃ metadata client_id auth_token,
      GotSession connectedNetwork c metadata client_id auth_token ∧
        SessionOpen connectedNetwork c metadata client_id auth_token := by
  let c : Call := ⟨⟨"caller"⟩, ⟨"peer"⟩, .HTTPProxyProvideRequest, 4, 1⟩
  have hcalls : connectedNetwork.calls = [c] := by with_unfolding_all rfl
  have hanswers : connectedNetwork.answers = [((c.caller, c.sender),
      .response (.ok (.HTTPProxyProvideResponse (proxy_metadata OrcaNetConfig.sampleConfig) "uuid"
        "uuid")))] := by
    with_unfolding_all rfl
  have hc : c ∈ connectedNetwork.calls := hcalls ▸ List.mem_singleton_self c
  have hgot : GotSession connectedNetwork c (proxy_metadata OrcaNetConfig.sampleConfig) "uuid"
      "uuid" := by
    rw [GotSession, Returned, hanswers]
    exact List.mem_singleton_self _
  exact ⟨c, hc, _, _, _, hgot,
    (sessions_open connectedNetwork reachable_connectedNetwork).1 c hc _ _ _ hgot⟩

end Requests

end OrcaNet
