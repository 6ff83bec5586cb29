import OrcaNet.Payments.Protocol
import OrcaNet.Proxy.Sessions

/-! # Payments across the network

    Any number of nodes that talk by requests, each with any number of payment
    loops.  A session comes from an answer to `connect`; a loop reads its
    session, asks the provider for the amount, pays and notifies the provider,
    and both its requests go through the network loop of its node.  Requests,
    answers and the steps of all loops and handlers interleave freely, and
    everything may fail.

    Nothing is assumed of the two rows of a session: what `Protocol` starts
    from follows here from how sessions are opened.

    The proxy of a provider does not count data yet, its call is commented out;
    `provider_data` is there for one that does. -/

namespace OrcaNet

open Transition ProxyPaymentLoop

/-! ## Section 1: The database of a node -/

namespace HandlerM

open RequestHandlerLoop

/-- The computation leaves the session rows alone, also when it fails. -/
def KeepsSessions {α : Type} (x : HandlerM α) : Prop :=
  ∀ db, (final (x db)).proxy_sessions = db.proxy_sessions

variable {α β : Type}

theorem keepsSessions_pure (a : α) : KeepsSessions (pure a : HandlerM α) := fun _ => rfl

theorem keepsSessions_throw (f : Failure) : KeepsSessions (throw f : HandlerM α) := fun _ => rfl

theorem keepsSessions_read (q : Database → QueryResult α) : KeepsSessions (read q) := fun _ => rfl

theorem keepsSessions_write {q : Database → QueryResult α × Database}
    (h : ∀ db, (q db).2.proxy_sessions = db.proxy_sessions) : KeepsSessions (write q) := h

theorem keepsSessions_question (r : QueryResult α) : KeepsSessions (question r) := by
  cases r with
  | ok a => exact keepsSessions_pure a
  | error e => exact keepsSessions_throw _

theorem keepsSessions_connection (env : Env) (table : TableName) :
    KeepsSessions (create_sqlite_connection env table) := by
  unfold create_sqlite_connection
  split
  · exact keepsSessions_throw _
  · exact keepsSessions_pure _

theorem KeepsSessions.bind {x : HandlerM α} {f : α → HandlerM β} (hx : KeepsSessions x)
    (hf : ∀ a, KeepsSessions (f a)) : KeepsSessions (x >>= f) := by
  intro db
  have hdb := hx db
  rw [bind_run]
  cases hrun : x db with
  | ok a db' =>
    rw [hrun] at hdb
    exact (hf a db').trans hdb
  | error e db' =>
    rw [hrun] at hdb
    exact hdb

end HandlerM

namespace RequestHandlerLoop

open HandlerM

section sessions

variable (cfg : OrcaNetConfig) (env : Env) (from_peer : PeerId)

theorem handle_file_request_sessions (request : OrcaNetRequest F64) :
    KeepsSessions (handle_file_request cfg env request from_peer) := by
  have hcount : ∀ file_id, KeepsSessions
      (write (ProvidedFilesTable.increment_download_count env file_id)) := by
    intro file_id
    refine keepsSessions_write fun db => ?_
    simp only [ProvidedFilesTable.increment_download_count, execute]
    split <;> rfl
  cases request with
  | FileMetadataRequest file_id =>
    refine (keepsSessions_connection _ _).bind fun _ => (keepsSessions_read _).bind fun result => ?_
    cases result <;> exact keepsSessions_pure _
  | FileContentRequest file_id =>
    refine (keepsSessions_connection _ _).bind fun _ => (keepsSessions_read _).bind fun result => ?_
    cases result with
    | error e => exact keepsSessions_pure _
    | ok file_info =>
      exact (keepsSessions_question _).bind fun _ => (hcount _).bind fun _ => keepsSessions_pure _
  | _ => exact keepsSessions_throw _

theorem handle_http_proxy_request_sessions (request : OrcaNetRequest F64) :
    KeepsSessions (handle_http_proxy_request cfg env request from_peer) := by
  have hadd : ∀ client, KeepsSessions (write (ProxyClientsTable.add_client env client)) := by
    intro client
    refine keepsSessions_write fun db => ?_
    simp only [ProxyClientsTable.add_client, execute]
    split
    · rfl
    · split <;> rfl
  unfold handle_http_proxy_request
  split
  · cases request with
    | HTTPProxyMetadataRequest => exact keepsSessions_pure _
    | HTTPProxyProvideRequest =>
      exact (keepsSessions_connection _ _).bind fun _ => (hadd _).bind fun _ =>
        (keepsSessions_question _).bind fun _ => keepsSessions_pure _
    | _ => exact keepsSessions_throw _
  · exact keepsSessions_pure _

theorem handle_payment_request_sessions (request : OrcaNetRequest F64) :
    KeepsSessions (handle_payment_request cfg env request from_peer) := by
  have hinsert : ∀ info, KeepsSessions (write (PaymentsTable.insert_payment_info env info)) := by
    intro info
    refine keepsSessions_write fun db => ?_
    simp only [PaymentsTable.insert_payment_info, execute]
    split
    · rfl
    · split <;> rfl
  have hupdate : ∀ info, KeepsSessions (write (PaymentsTable.update_payment_info env info)) := by
    intro info
    refine keepsSessions_write fun db => ?_
    simp only [PaymentsTable.update_payment_info, execute]
    split <;> rfl
  have hcredit : ∀ client_id amount, KeepsSessions
      (write (ProxyClientsTable.update_total_fee_received_unconfirmed env client_id amount)) := by
    intro client_id amount
    refine keepsSessions_write fun db => ?_
    simp only [ProxyClientsTable.update_total_fee_received_unconfirmed, execute]
    split <;> rfl
  cases request with
  | HTTPProxyPrePaymentRequest client_id auth_token data_transferred_kb fee_owed =>
    refine (keepsSessions_connection _ _).bind fun _ => (keepsSessions_read _).bind fun _ =>
      (keepsSessions_question _).bind fun client_info => ?_
    dsimp only
    -- the four answers
    split
    · exact (keepsSessions_pure _).bind fun _ => keepsSessions_pure _
    · split
      · exact (keepsSessions_pure _).bind fun _ => keepsSessions_pure _
      · split
        · exact (keepsSessions_pure _).bind fun _ => keepsSessions_pure _
        · exact (keepsSessions_connection _ _).bind fun _ => (hinsert _).bind fun _ =>
            (keepsSessions_question _).bind fun _ => keepsSessions_pure _
  | HTTPProxyPostPaymentNotification client_id auth_token payment_notification =>
    refine (keepsSessions_connection _ _).bind fun _ => (keepsSessions_read _).bind fun _ =>
      (keepsSessions_question _).bind fun client_info => (keepsSessions_connection _ _).bind
        fun _ => (keepsSessions_read _).bind fun result => ?_
    cases result with
    | error e => exact keepsSessions_pure _
    | ok payment_info =>
      exact (hupdate _).bind fun _ => (keepsSessions_question _).bind fun _ =>
        (hcredit _ _).bind fun _ => (keepsSessions_question _).bind fun _ => keepsSessions_pure _
  | _ => exact keepsSessions_throw _

/-- No request touches a session row. -/
theorem handle_request_sessions (request : OrcaNetRequest F64) (db : Database) :
    (final (handle_request cfg env request from_peer db)).proxy_sessions = db.proxy_sessions := by
  unfold handle_request
  split
  · exact handle_file_request_sessions cfg env from_peer _ db
  · exact handle_file_request_sessions cfg env from_peer _ db
  · exact handle_http_proxy_request_sessions cfg env from_peer _ db
  · exact handle_http_proxy_request_sessions cfg env from_peer _ db
  · exact handle_payment_request_sessions cfg env from_peer _ db
  · exact handle_payment_request_sessions cfg env from_peer _ db

end sessions

end RequestHandlerLoop

namespace Requests

/-- A task of the node writes to the database. -/
def State.set_db (s : State) (peer : PeerId) (db : Database) : State :=
  { s with
    node := Function.update s.node peer
      { s.node peer with handler := { (s.node peer).handler with db := db } } }

end Requests

namespace PaymentNetwork

/-! ## Section 2: System -/

/-- A payment loop among those of all nodes. -/
abbrev LoopId : Type := PeerId × ℕ

/-- A loop that was not started yet is idle. -/
structure Loop where
  session_id : String
  phase : Phase
  /-- The oneshot channel of its last request, once the network loop has it. -/
  sender : Option Sender

/-- A command of a loop on its way to the network loop. -/
structure Command where
  loop : LoopId
  peer : PeerId
  request : OrcaNetRequest F64
  deriving DecidableEq

/-- A notification that a loop sent off. -/
structure Issued where
  caller : PeerId
  session_id : String
  peer : PeerId
  request : OrcaNetRequest F64

/-- A session that `connect` stored. -/
structure Opened where
  call : Requests.Call
  session_id : String
  metadata : HTTPProxyMetadata F64
  client_id : String
  auth_token : String

structure State where
  net : Requests.State
  loop : LoopId → Loop
  outbox : List Command
  /-- The notifications, newest first. -/
  issued : List Issued
  opened : List Opened

inductive Label where
  /-- A step of one node outside its payment loops. -/
  | network (l : Requests.Label)
  /-- `connect` takes the answer to its call. -/
  | connect (id : Requests.CallId) (env : Env) (fault : Option String) (peer_id : String)
  | client_data (peer : PeerId) (session_id : String) (kb : F64)
  | provider_data (peer : PeerId) (client_id : String) (kb : F64)
  | payment (id : LoopId) (env : Env) (ev : Event)
  /-- The network loop takes the command of a loop. -/
  | take_command (cmd : Command) (sender : Sender) (swarm : Swarm) (alive : Sender → Bool)
      (env : HandlerEnv)
  /-- A loop takes the answer to its request. -/
  | answer (id : LoopId) (env : Env)
  /-- A loop finds the network loop or its channel gone. -/
  | network_gone (id : LoopId)

def is_payment : OrcaNetRequest F64 → Bool
  | .HTTPProxyPrePaymentRequest .. | .HTTPProxyPostPaymentNotification .. => true
  | _ => false

/-- A payment request is sent. -/
def sends_payment : NodeLoops.Label → Bool
  | .network (.command (.Request request _ _) _) _ _ => is_payment request
  | _ => false

/-- A payment request that came in a stream is handled. -/
def streams_payment (n : NodeLoops.State) : NodeLoops.Label → Bool
  | .handle _ =>
    match n.handler_phase with
    | .handle_event (.StreamRequest request _) => is_payment request
    | _ => false
  | _ => false

/-- The phase waits for an answer of the network. -/
def waits : Phase → Bool
  | .pre_payment_step _ | .post_payment _ _ => true
  | _ => false

/-- What the answer is to the phase that waits for it. -/
def answered (resp : Except String (OrcaNetResponse F64)) : Phase → Event
  | .post_payment _ _ => .post_payment_result resp
  | _ => .pre_payment_result resp

/-- The event does not come from the network. -/
def is_local : Event → Bool
  | .pre_payment_result _ | .post_payment_result _ => false
  | _ => true

/-- The request of a segment goes into the outbox; the wallet is outside. -/
def command (id : LoopId) : ProxyPaymentLoop.Call → Option Command
  | .send_request peer request => some ⟨id, peer, request⟩
  | .send_to_address _ _ => none

/-- The notification of a segment. -/
def notice (id : LoopId) (session_id : String) : ProxyPaymentLoop.Call → Option Issued
  | .send_request peer (.HTTPProxyPostPaymentNotification client_id auth_token n) =>
    some ⟨id.1, session_id, peer, .HTTPProxyPostPaymentNotification client_id auth_token n⟩
  | _ => none

/-- The state after a segment of a loop. -/
def settle (s : State) (id : LoopId) (o : ProxyPaymentLoop.Outcome) : State :=
  { s with
    net := s.net.set_db id.1 o.db
    loop := Function.update s.loop id
      { s.loop id with
        phase := o.phase
        sender := if waits o.phase then none else (s.loop id).sender }
    outbox := o.calls.filterMap (command id) ++ s.outbox
    issued := o.calls.filterMap (notice id (s.loop id).session_id) ++ s.issued }

/-- The session that `connect` stored, if it came to that. -/
def stored (c : Requests.Call) (env : Env) (provide_resp : Except String (OrcaNetResponse F64)) :
    ProxyEndpoints.Stage → Option Opened
  | .send _ _ =>
    match provide_resp with
    | .ok (.HTTPProxyProvideResponse metadata client_id auth_token) =>
      some ⟨c, env.new_uuid 0, metadata, client_id, auth_token⟩
    | _ => none
  | _ => none

section next

-- `PeerId::from_str`
variable (parse : String → Option PeerId)

/-- The environment of a node that parses peer ids as all nodes do. -/
def parsing (env : Env) : Env := { env with parse_peer_id := parse }

/-- A segment of a loop, on the database and configuration of its node. -/
def segment (s : State) (id : LoopId) (env : Env) (ev : Event) :
    Option ProxyPaymentLoop.Outcome :=
  process_payment (s.net.node id.1).handler.config (parsing parse env) (s.loop id).session_id
    (s.net.node id.1).handler.db (s.loop id).phase ev

def next (s : State) : Label → Option State
  | .network l =>
    -- only the loops send payment requests, and never in a stream
    if sends_payment l.step || streams_payment (s.net.node l.peer) l.step then none
    else (Requests.next s.net l).map fun net => { s with net := net }
  | .connect id env fault peer_id =>
    match s.net.calls.find? fun c => c.id = id with
    | some c =>
      -- an answer is taken once, by the `connect` that made the call
      if parse peer_id = some c.peer ∧ !(s.opened.map fun o => o.call.id).contains id then
        match s.net.received c.caller c.sender with
        | some (.response provide_resp) =>
          let (stage, db) := ProxyEndpoints.connect_response env fault peer_id provide_resp
            (s.net.node c.caller).handler.db
          some { s with
            net := s.net.set_db c.caller db
            opened := (stored c env provide_resp stage).toList ++ s.opened }
        | _ => none
      else none
    | none => none
  | .client_data peer session_id kb =>
    some { s with
      net := s.net.set_db peer
        (ProxySessionsTable.update_data_transfer_info session_id kb (s.net.node peer).handler.db) }
  | .provider_data peer client_id kb =>
    some { s with
      net := s.net.set_db peer
        (ProxyClientsTable.update_data_transfer_info client_id kb (s.net.node peer).handler.db) }
  | .payment id env ev =>
    if is_local ev then (segment parse s id env ev).map (settle s id) else none
  | .take_command cmd sender swarm alive env =>
    if cmd ∈ s.outbox then
      (Requests.next s.net ⟨cmd.loop.1, .network (.command
        (NetworkClient.send_request cmd.peer cmd.request sender) swarm) alive env, 0⟩).map
        fun net => { s with
          net := net
          loop := Function.update s.loop cmd.loop { s.loop cmd.loop with sender := some sender }
          outbox := s.outbox.erase cmd }
    else none
  | .answer id env =>
    match (s.loop id).sender.bind (s.net.received id.1) with
    | some (.response resp) =>
      (segment parse s id env (answered resp (s.loop id).phase)).map (settle s id)
    | _ => none
  | .network_gone id =>
    if waits (s.loop id).phase then
      some { s with loop := Function.update s.loop id { s.loop id with phase := .panicked } }
    else none

/-- The nodes start with empty tables of clients and sessions, and no loop runs. -/
structure Init (s : State) : Prop where
  net : Requests.system.init s.net
  clients : ∀ peer, (s.net.node peer).handler.db.proxy_clients = .empty
  sessions : ∀ peer, (s.net.node peer).handler.db.proxy_sessions = .empty
  idle : ∀ id, (s.loop id).phase = .idle ∧ (s.loop id).sender = none
  outbox : s.outbox = []
  issued : s.issued = []
  opened : s.opened = []

def system : System State Label where
  init := Init
  next := next parse

end next

/-! ## Section 3: What a step can do -/

section served

variable {s s' : Requests.State} {l : Requests.Label} {peer : PeerId} {db : Database}

/-- The call that a step of the network issues. -/
def call_of (l : Requests.Label) : Option Requests.Call :=
  match l.step with
  | .network (.command (.Request request peer sender) swarm) _ _ =>
    some ⟨l.peer, peer, request, swarm.send_request, sender⟩
  | _ => none

theorem act_eq_call_iff {n : NodeLoops.State} {c : Requests.Call} :
    Requests.act n l = .call c ↔ call_of l = some c := by
  obtain ⟨p, step, id⟩ := l
  cases step with
  | network wake alive env =>
    cases wake with
    | command c swarm => cases c <;> simp [Requests.act, call_of]
    | swarm_event event => cases event <;> simp [Requests.act, call_of]
    | _ => simp [Requests.act, call_of]
  | handle env =>
    simp only [Requests.act, call_of]
    split <;> simp
  | take_command swarm alive env =>
    simp only [Requests.act, call_of]
    split <;> simp
  | _ => simp [Requests.act, call_of]

/-- Calls and answers are only added. -/
theorem next_logs (h : Requests.next s l = some s') :
    s'.calls = (call_of l).toList ++ s.calls ∧ ∃ new, s'.answers = new ++ s.answers := by
  obtain ⟨-, n, hn, rfl⟩ := Requests.next_eq_some h
  have hcall := fun c => act_eq_call_iff (l := l) (n := s.node l.peer) (c := c)
  cases hact : Requests.act (s.node l.peer) l with
  | call c =>
    rw [(hcall c).mp hact]
    exact ⟨by simp only [Requests.record, hact]; rfl, _, by simp only [Requests.record, hact]; rfl⟩
  | respond response channel =>
    have hnone : call_of l = none := by
      by_contra hne
      obtain ⟨c, hc⟩ := Option.ne_none_iff_exists'.mp hne
      cases hact.symm.trans ((hcall c).mpr hc)
    rw [hnone]
    simp only [Requests.record, hact]
    split <;> exact ⟨rfl, _, rfl⟩
  | _ =>
    have hnone : call_of l = none := by
      by_contra hne
      obtain ⟨c, hc⟩ := Option.ne_none_iff_exists'.mp hne
      cases hact.symm.trans ((hcall c).mpr hc)
    rw [hnone]
    exact ⟨by simp only [Requests.record, hact]; rfl, _, by simp only [Requests.record, hact]; rfl⟩

/-- The effect of a step of the network on the log of handled requests and on the
    tables of clients and sessions. -/
inductive Served (s s' : Requests.State) : Prop
  | quiet (handled : s'.handled = s.handled)
      (tables : ∀ p, (s'.node p).handler.db.proxy_clients = (s.node p).handler.db.proxy_clients ∧
        (s'.node p).handler.db.proxy_sessions = (s.node p).handler.db.proxy_sessions)
  /-- A request that came in a stream. -/
  | stream (peer : PeerId) (cfg : OrcaNetConfig) (env : Env) (request : OrcaNetRequest F64)
      (from_peer : PeerId) (hpay : is_payment request = false) (handled : s'.handled = s.handled)
      (db : (s'.node peer).handler.db = RequestHandlerLoop.final
        (RequestHandlerLoop.handle_request cfg env request from_peer (s.node peer).handler.db))
      (other : ∀ p, p ≠ peer → s'.node p = s.node p)
  | request (h : Requests.Handled) (handled : s'.handled = h :: s.handled)
      (start : (s.node h.peer).handler.db = h.db)
      (db : (s'.node h.peer).handler.db = RequestHandlerLoop.final
        (RequestHandlerLoop.handle_request h.config h.env h.request h.from_peer h.db))
      (other : ∀ p, p ≠ h.peer → s'.node p = s.node p)

theorem next_served (h : Requests.next s l = some s')
    (hstream : streams_payment (s.node l.peer) l.step = false) : Served s s' := by
  obtain ⟨-, n, hn, rfl⟩ := Requests.next_eq_some h
  obtain ⟨p, step, id⟩ := l
  have hother : ∀ q, q ≠ p → (Requests.record s ⟨p, step, id⟩ n).node q = s.node q := by
    intro q hq
    rw [Requests.record_node, Function.update_of_ne hq]
  have hself : (Requests.record s ⟨p, step, id⟩ n).node p = n := by
    rw [Requests.record_node, Function.update_self]
  have htables : ∀ files, n.handler.db = { (s.node p).handler.db with provided_files := files } →
      ∀ q, ((Requests.record s ⟨p, step, id⟩ n).node q).handler.db.proxy_clients =
          (s.node q).handler.db.proxy_clients ∧
        ((Requests.record s ⟨p, step, id⟩ n).node q).handler.db.proxy_sessions =
          (s.node q).handler.db.proxy_sessions := by
    intro files hdb q
    by_cases hq : q = p
    · subst hq
      rw [hself, hdb]
      exact ⟨rfl, rfl⟩
    · rw [hother q hq]
      exact ⟨rfl, rfl⟩
  have hquiet : (∀ request from_peer channel env,
      Requests.act (s.node p) ⟨p, step, id⟩ ≠ .handle request from_peer channel env) →
      (Requests.record s ⟨p, step, id⟩ n).handled = s.handled := by
    intro hne
    cases hact : Requests.act (s.node p) ⟨p, step, id⟩ with
    | handle request from_peer channel env => exact absurd hact (hne _ _ _ _)
    | respond response channel =>
      simp only [Requests.record, hact]
      split <;> rfl
    | _ => simp only [Requests.record, hact]; rfl
  by_cases hhandle : ∃ env, step = .handle env
  · obtain ⟨env, rfl⟩ := hhandle
    obtain ⟨event, hph, hn'⟩ := NodeLoops.next_handle hn
    have hdb : n.handler.db = (HandlerLoop.handle_event env (s.node p).handler event).loop.db := by
      rw [hn', NodeLoops.respond_handler]
      rfl
    cases hrequest : HandlerLoop.request_of event with
    | none =>
      obtain ⟨files, hfiles⟩ := HandlerLoop.handle_event_files env (s.node p).handler hrequest
      refine .quiet (hquiet fun request from_peer channel env' hact => ?_)
        (htables files (hdb.trans hfiles))
      obtain ⟨-, -, -, hph'⟩ := Requests.handle_of_act hact
      cases HandlerLoop.Phase.handle_event.inj (hph.symm.trans hph')
      cases hrequest
    | some r =>
      have hself' := (congrArg (fun m => m.handler.db) hself).trans
        (hdb.trans (HandlerLoop.handle_event_request hrequest))
      cases event with
      | Request request from_peer channel =>
        cases hrequest
        have hact : Requests.act (s.node p) ⟨p, .handle env, id⟩ =
            .handle request from_peer channel env.toEnv := by
          simp only [Requests.act, hph]
        refine .request ⟨p, s.channels (p, channel), from_peer, request,
          (s.node p).handler.config, env.toEnv, (s.node p).handler.db⟩ ?_ rfl hself' hother
        simp only [Requests.record, hact]
      | StreamRequest request from_peer =>
        cases hrequest
        simp only [streams_payment, hph] at hstream
        refine .stream p _ _ request from_peer hstream (hquiet ?_) hself' hother
        simp [Requests.act, hph]
      | _ => simp [HandlerLoop.request_of] at hrequest
  · rcases NodeLoops.next_db hn with hsame | ⟨env, event, rfl, -⟩
    · refine .quiet (hquiet fun request from_peer channel env hact => ?_) (htables _ hsame)
      obtain ⟨henv, hstep, -⟩ := Requests.handle_of_act hact
      exact hhandle ⟨henv, hstep⟩
    · exact absurd ⟨env, rfl⟩ hhandle

end served

/-! ## Section 4: Sessions -/

section sessions

variable {s s' : Requests.State} {peer : PeerId} {db db' : Database}

theorem db_set_db (s : Requests.State) (peer : PeerId) (db : Database) (p : PeerId) :
    ((s.set_db peer db).node p).handler.db = if p = peer then db else (s.node p).handler.db := by
  by_cases hp : p = peer
  · subst hp
    simp [Requests.State.set_db]
  · simp [Requests.State.set_db, hp]

/-- What the correlation of requests rests on has nothing to do with databases. -/
theorem refines_set_db {t : Requests.Abstract} (h : Requests.Refines s t) (peer : PeerId)
    (db : Database) : Requests.Refines (s.set_db peer db) t := by
  refine ⟨fun p => ?_, h.wire, h.ledger, h.handled⟩
  have hnode := h.nodes p
  by_cases hp : p = peer
  · subst hp
    simp only [Requests.State.set_db, Function.update_self]
    exact ⟨hnode.sending, hnode.handling, hnode.apart, hnode.responds, hnode.registers,
      hnode.awaits⟩
  · simp only [Requests.State.set_db, Function.update_of_ne hp]
    exact hnode

theorem sessionInv_set_db (h : Requests.SessionInv s)
    (hkeeps : KeepsClients (s.node peer).handler.db db) :
    Requests.SessionInv (s.set_db peer db) := by
  refine ⟨fun e he hopens => ?_, h.apart⟩
  obtain ⟨c, hc, hkept⟩ := h.rows e he hopens
  rw [db_set_db]
  split
  · rename_i hp
    rw [hp] at hc
    obtain ⟨c', hc', hkept'⟩ := hkeeps c hc
    exact ⟨c', hc', hkept.trans hkept'⟩
  · exact ⟨c, hc, hkept⟩

/-- The row is as it was, but for the counts of data and of unconfirmed payments. -/
def KeptSession (x x' : ProxySessionInfo) : Prop :=
  ∃ kb amount, x' = { x with
    data_transferred_kb := kb
    total_fee_sent_unconfirmed := amount }

/-- The sessions are the same ones. -/
structure SameSessions (db db' : Database) : Prop where
  kept : ∀ x ∈ db.proxy_sessions.rows, ∃ x' ∈ db'.proxy_sessions.rows, KeptSession x x'
  old : ∀ x' ∈ db'.proxy_sessions.rows, ∃ x ∈ db.proxy_sessions.rows, KeptSession x x'

theorem sameSessions_of_eq (h : db'.proxy_sessions = db.proxy_sessions) : SameSessions db db' :=
  ⟨fun x hx => ⟨x, h ▸ hx, _, _, rfl⟩, fun x hx => ⟨x, h ▸ hx, _, _, rfl⟩⟩

theorem sameSessions_update {k : String} {f : ProxySessionInfo → ProxySessionInfo}
    (hf : ∀ r, ∀ d ∈ [ProxySessionInfo.session_id], d (f r) = d r)
    (hkept : ∀ x, KeptSession x (f x))
    (h : db'.proxy_sessions = db.proxy_sessions.update ProxySessionInfo.session_id k f hf) :
    SameSessions db db' := by
  have hrow : ∀ x, KeptSession x (if x.session_id = k then f x else x) := by
    intro x
    split
    · exact hkept x
    · exact ⟨_, _, rfl⟩
  constructor
  · intro x hx
    exact ⟨_, h ▸ Table.mem_update.mpr ⟨x, hx, rfl⟩, hrow x⟩
  · intro x' hx'
    obtain ⟨x, hx, rfl⟩ := Table.mem_update.mp (h ▸ hx')
    exact ⟨x, hx, hrow x⟩

/-- The row is the one that `connect` made of the answer. -/
structure RowOf (parse : String → Option PeerId) (o : Opened) (x : ProxySessionInfo) : Prop where
  session_id : x.session_id = o.session_id
  client_id : x.client_id = o.client_id
  auth_token : x.auth_token = o.auth_token
  provider : parse x.provider_peer_id = some o.call.peer

theorem RowOf.kept {parse : String → Option PeerId} {o : Opened} {x x' : ProxySessionInfo}
    (h : RowOf parse o x) (hkept : KeptSession x x') : RowOf parse o x' := by
  obtain ⟨kb, amount, rfl⟩ := hkept
  exact ⟨h.session_id, h.client_id, h.auth_token, h.provider⟩

/-- Every session row comes from an answer of its provider, and every answer was
    taken once. -/
structure Linked (parse : String → Option PeerId) (s : Requests.State) (opened : List Opened) :
    Prop where
  calls : ∃ t, RemoteCall.system.Reachable t ∧ Requests.Refines s t
  clients : Requests.SessionInv s
  got : ∀ o ∈ opened, o.call ∈ s.calls ∧
    Requests.GotSession s o.call o.metadata o.client_id o.auth_token
  once : (opened.map fun o => o.call.id).Nodup
  rows : ∀ peer, ∀ x ∈ (s.node peer).handler.db.proxy_sessions.rows,
    ∃ o ∈ opened, o.call.caller = peer ∧ RowOf parse o x
  stored : ∀ o ∈ opened,
    ∃ x ∈ (s.node o.call.caller).handler.db.proxy_sessions.rows, RowOf parse o x

variable {parse : String → Option PeerId} {opened : List Opened}

/-- A task writes to its database. -/
theorem Linked.write (h : Linked parse s opened)
    (hclients : KeepsClients (s.node peer).handler.db db)
    (hsessions : SameSessions (s.node peer).handler.db db) :
    Linked parse (s.set_db peer db) opened where
  calls := by
    obtain ⟨t, ht, hrel⟩ := h.calls
    exact ⟨t, ht, refines_set_db hrel peer db⟩
  clients := sessionInv_set_db h.clients hclients
  got := h.got
  once := h.once
  rows p x hx := by
    rw [db_set_db] at hx
    split at hx
    · rename_i hp
      obtain ⟨x', hx', hkept⟩ := hsessions.old x hx
      obtain ⟨o, ho, hcaller, hrow⟩ := h.rows peer x' hx'
      exact ⟨o, ho, hcaller.trans hp.symm, hrow.kept hkept⟩
    · exact h.rows p x hx
  stored o ho := by
    obtain ⟨x, hx, hrow⟩ := h.stored o ho
    rw [db_set_db]
    split
    · rename_i hp
      rw [hp] at hx
      obtain ⟨x', hx', hkept⟩ := hsessions.kept x hx
      exact ⟨x', hx', hrow.kept hkept⟩
    · exact ⟨x, hx, hrow⟩

/-- A step of the network leaves the session rows alone. -/
theorem Served.sessions (h : Served s s') (p : PeerId) :
    (s'.node p).handler.db.proxy_sessions = (s.node p).handler.db.proxy_sessions := by
  cases h with
  | quiet handled tables => exact (tables p).2
  | stream peer cfg env request from_peer hpay handled hdb other =>
    by_cases hp : p = peer
    · subst hp
      rw [hdb, RequestHandlerLoop.handle_request_sessions]
    · rw [other p hp]
  | request e handled start hdb other =>
    by_cases hp : p = e.peer
    · subst hp
      rw [hdb, RequestHandlerLoop.handle_request_sessions, start]
    · rw [other p hp]

theorem gotSession_of_next {l : Requests.Label} (h : Requests.next s l = some s')
    {c : Requests.Call} {metadata : HTTPProxyMetadata F64} {client_id auth_token : String}
    (hgot : Requests.GotSession s c metadata client_id auth_token) :
    Requests.GotSession s' c metadata client_id auth_token := by
  obtain ⟨-, new, hanswers⟩ := next_logs h
  rw [Requests.GotSession, Requests.Returned, hanswers]
  exact List.mem_append_right _ hgot

theorem Linked.network (h : Linked parse s opened) {l : Requests.Label}
    (hnext : Requests.next s l = some s')
    (hstream : streams_payment (s.node l.peer) l.step = false) : Linked parse s' opened where
  calls := by
    obtain ⟨t, ht, hrel⟩ := h.calls
    obtain ⟨ks, t', hrun, hrel'⟩ := Requests.refines_step hrel hnext
    exact ⟨t', ht.run ks hrun, hrel'⟩
  clients := Requests.sessionInv_step h.clients hnext
  got o ho := by
    obtain ⟨hc, hgot⟩ := h.got o ho
    refine ⟨?_, gotSession_of_next hnext hgot⟩
    rw [(next_logs hnext).1]
    exact List.mem_append_right _ hc
  once := h.once
  rows p x hx := h.rows p x ((next_served hnext hstream).sessions p ▸ hx)
  stored o ho := by
    rw [(next_served hnext hstream).sessions]
    exact h.stored o ho

/-- What `connect` does with an answer: it stores a new session with no
    payments, or nothing. -/
theorem connect_response_cases (c : Requests.Call) (env : Env) (fault : Option String)
    (peer_id : String) (provide_resp : Except String (OrcaNetResponse F64)) (db : Database)
    {stage : ProxyEndpoints.Stage} {db' : Database}
    (h : ProxyEndpoints.connect_response env fault peer_id provide_resp db = (stage, db')) :
    (db' = db ∧ stored c env provide_resp stage = none) ∨
      ∃ metadata client_id auth_token t,
        provide_resp = .ok (.HTTPProxyProvideResponse metadata client_id auth_token) ∧
        stored c env provide_resp stage =
          some ⟨c, env.new_uuid 0, metadata, client_id, auth_token⟩ ∧
        db.proxy_sessions.insert (.from_proxy_connect_response env peer_id client_id auth_token
          metadata) = some t ∧ db' = { db with proxy_sessions := t } := by
  unfold ProxyEndpoints.connect_response at h
  split at h
  · rename_i metadata client_id auth_token
    split at h
    · obtain ⟨rfl, rfl⟩ := Prod.mk.inj h
      exact Or.inl ⟨rfl, rfl⟩
    · dsimp only [ProxySessionsTable.insert_session_info] at h
      cases hfault : fault with
      | some e =>
        obtain ⟨rfl, rfl⟩ := Prod.mk.inj (by simpa [hfault] using h)
        exact Or.inl ⟨rfl, rfl⟩
      | none =>
        cases hins : db.proxy_sessions.insert (.from_proxy_connect_response env peer_id client_id
            auth_token metadata) with
        | none =>
          simp only [hfault, hins, Prod.mk.injEq] at h
          obtain ⟨rfl, rfl⟩ := h
          exact Or.inl ⟨rfl, rfl⟩
        | some t =>
          simp only [hfault, hins, Prod.mk.injEq] at h
          obtain ⟨rfl, rfl⟩ := h
          exact Or.inr ⟨metadata, client_id, auth_token, t, rfl, rfl, hins, rfl⟩
  all_goals
    obtain ⟨rfl, rfl⟩ := Prod.mk.inj h
    exact Or.inl ⟨rfl, rfl⟩

/-- A session is stored. -/
theorem Linked.connect (h : Linked parse s opened) {c : Requests.Call} (hc : c ∈ s.calls)
    {env : Env} {peer_id : String} (hparse : parse peer_id = some c.peer)
    (hnew : c.id ∉ opened.map fun o => o.call.id) {metadata : HTTPProxyMetadata F64}
    {client_id auth_token : String} (hgot : Requests.GotSession s c metadata client_id auth_token)
    {t : Table ProxySessionInfo String [ProxySessionInfo.session_id]}
    (hinsert : (s.node c.caller).handler.db.proxy_sessions.insert
      (.from_proxy_connect_response env peer_id client_id auth_token metadata) = some t) :
    Linked parse (s.set_db c.caller { (s.node c.caller).handler.db with proxy_sessions := t })
      (⟨c, env.new_uuid 0, metadata, client_id, auth_token⟩ :: opened) := by
  let o : Opened := ⟨c, env.new_uuid 0, metadata, client_id, auth_token⟩
  have hrow : RowOf parse o
      (.from_proxy_connect_response env peer_id client_id auth_token metadata) :=
    ⟨rfl, rfl, rfl, hparse⟩
  have ht := (Table.insert_eq_some hinsert).2
  refine
    { calls := ?_, clients := sessionInv_set_db h.clients (keepsClients_of_eq rfl)
      got := fun o' ho' => ?_, once := List.nodup_cons.mpr ⟨hnew, h.once⟩
      rows := fun p x hx => ?_, stored := fun o' ho' => ?_ }
  · obtain ⟨t, ht, hrel⟩ := h.calls
    exact ⟨t, ht, refines_set_db hrel _ _⟩
  · rcases List.mem_cons.mp ho' with rfl | ho'
    · exact ⟨hc, hgot⟩
    · exact h.got o' ho'
  · rw [db_set_db] at hx
    split at hx
    · rename_i hp
      rw [ht] at hx
      rcases List.mem_append.mp hx with hx | hx
      · obtain ⟨o', ho', hcaller, hrow'⟩ := h.rows c.caller x hx
        exact ⟨o', List.mem_cons_of_mem _ ho', hcaller.trans hp.symm, hrow'⟩
      · obtain rfl := List.mem_singleton.mp hx
        exact ⟨o, List.mem_cons_self, hp.symm, hrow⟩
    · obtain ⟨o', ho', hcaller, hrow'⟩ := h.rows p x hx
      exact ⟨o', List.mem_cons_of_mem _ ho', hcaller, hrow'⟩
  · rw [db_set_db]
    rcases List.mem_cons.mp ho' with rfl | ho'
    · rw [if_pos rfl, ht]
      exact ⟨_, List.mem_append_right _ (List.mem_singleton_self _), hrow⟩
    · obtain ⟨x, hx, hrow'⟩ := h.stored o' ho'
      split
      · rename_i hp
        rw [hp] at hx
        rw [ht]
        exact ⟨x, List.mem_append_left _ hx, hrow'⟩
      · exact ⟨x, hx, hrow'⟩

end sessions

end PaymentNetwork

end OrcaNet
