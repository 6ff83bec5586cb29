import OrcaNet.Payments.Network

/-! # The ledgers of the network

    A session has a total at its client, of what was sent, and one at its
    provider, of what was received.  Both are sums over logs of the network: the
    notifications that the loops sent off, and the requests that the handler of
    the provider handled.  As every notification is a call that is handled at
    most once, and as its token belongs to one session, the provider never
    counts more than the client has sent for the session, and never less than
    what it has acknowledged. -/

namespace OrcaNet

open Transition ProxyPaymentLoop

namespace PaymentNetwork

/-! ## Section 1: Totals of logs -/

/-- What a request says was paid with the token. -/
def paid (auth_token : String) : OrcaNetRequest F64 → F64
  | .HTTPProxyPostPaymentNotification _ tok n =>
    if tok = auth_token then n.amount_transferred else 0
  | _ => 0

/-- What a request is to bring the peer for the token. -/
def due (peer : PeerId) (auth_token : String) (to_peer : PeerId) (request : OrcaNetRequest F64) :
    F64 :=
  if to_peer = peer then paid auth_token request else 0

/-- What a handled call brought the peer for the token. -/
def credit (peer : PeerId) (auth_token : String) (c : RemoteCall.Call PeerId (OrcaNetRequest F64))
    (result : Option (OrcaNetResponse F64)) : F64 :=
  if result = some .NullResponse then due peer auth_token c.peer c.request else 0

def credited (s : Requests.State) (peer : PeerId) (auth_token : String) : F64 :=
  (s.handled.map fun h => credit peer auth_token h.entry.2.1 h.entry.2.2).sum

/-- What the loops sent off for the session. -/
def sent (issued : List Issued) (caller : PeerId) (session_id : String) : F64 :=
  (issued.map fun i =>
    if i.caller = caller ∧ i.session_id = session_id then Protocol.amount_transferred i.request
    else 0).sum

/-- No loop sends less than nothing. -/
def Fair (request : OrcaNetRequest F64) : Prop := 0 ≤ Protocol.amount_transferred request

theorem paid_nonneg {request : OrcaNetRequest F64} (h : Fair request) (auth_token : String) :
    0 ≤ paid auth_token request := by
  unfold paid
  split
  · split
    · exact h
    · exact le_refl 0
  · exact le_refl 0

theorem due_nonneg {request : OrcaNetRequest F64} (h : Fair request) (peer : PeerId)
    (auth_token : String) (to_peer : PeerId) : 0 ≤ due peer auth_token to_peer request := by
  unfold due
  split
  · exact paid_nonneg h auth_token
  · exact le_refl 0

theorem paid_le {request : OrcaNetRequest F64} (h : Fair request) (auth_token : String) :
    paid auth_token request ≤ Protocol.amount_transferred request := by
  unfold paid
  split
  · split
    · exact le_refl _
    · exact h
  · exact h

theorem credit_le {c : RemoteCall.Call PeerId (OrcaNetRequest F64)} (h : Fair c.request)
    (peer : PeerId) (auth_token : String) (result : Option (OrcaNetResponse F64)) :
    credit peer auth_token c result ≤ due peer auth_token c.peer c.request := by
  unfold credit
  split
  · exact le_refl _
  · exact due_nonneg h peer auth_token c.peer

theorem credit_nonneg {c : RemoteCall.Call PeerId (OrcaNetRequest F64)} (h : Fair c.request)
    (peer : PeerId) (auth_token : String) (result : Option (OrcaNetResponse F64)) :
    0 ≤ credit peer auth_token c result := by
  unfold credit
  split
  · exact due_nonneg h peer auth_token c.peer
  · exact le_refl 0

/-- Any other request pays nothing. -/
theorem due_of_not_payment {request : OrcaNetRequest F64} (h : is_payment request = false)
    (peer : PeerId) (auth_token : String) (to_peer : PeerId) :
    due peer auth_token to_peer request = 0 := by
  cases request <;> simp_all [is_payment, due, paid]

theorem fair_of_not_payment {request : OrcaNetRequest F64} (h : is_payment request = false) :
    Fair request := by
  cases request <;> first | exact le_refl 0 | cases h

/-! ## Section 2: What the loops know -/

/-- The locals of a payment in progress. -/
def locals : Phase → Option Locals
  | .pre_payment_step loc => some loc
  | .send_to_address loc _ => some loc
  | .insert_payment_info loc _ _ => some loc
  | .update_total_fee_sent_unconfirmed loc _ _ => some loc
  | .post_payment loc _ => some loc
  | _ => none

/-- What the provider asked for. -/
def requested : Phase → Option (PaymentRequest F64)
  | .send_to_address _ payment_request => some payment_request
  | .insert_payment_info _ payment_request _ => some payment_request
  | .update_total_fee_sent_unconfirmed _ payment_request _ => some payment_request
  | .post_payment _ payment_request => some payment_request
  | _ => none

/-- The session is one of those that were stored, with its provider and token. -/
def Owns (opened : List Opened) (caller : PeerId) (session_id : String) (peer : PeerId)
    (auth_token : String) : Prop :=
  ∃ o ∈ opened, o.call.caller = caller ∧ o.session_id = session_id ∧ o.call.peer = peer ∧
    o.auth_token = auth_token

theorem Owns.mono {opened opened' : List Opened} (hsub : opened ⊆ opened') {caller peer : PeerId}
    {session_id auth_token : String} (h : Owns opened caller session_id peer auth_token) :
    Owns opened' caller session_id peer auth_token := by
  obtain ⟨o, ho, hspec⟩ := h
  exact ⟨o, hsub ho, hspec⟩

/-- A loop pays what its provider asked for, for its session. -/
structure LoopOk (s : Requests.State) (opened : List Opened) (id : LoopId) (lp : Loop) : Prop where
  sender : ∀ sender, lp.sender = some sender →
    ∃ c ∈ s.calls, c.caller = id.1 ∧ c.sender = sender
  session : ∀ loc, locals lp.phase = some loc →
    Owns opened id.1 lp.session_id loc.provider_peer loc.session_info.auth_token
  amount : ∀ payment_request, requested lp.phase = some payment_request →
    0 ≤ payment_request.amount_to_send

theorem LoopOk.mono {s s' : Requests.State} {opened opened' : List Opened} {id : LoopId}
    {lp : Loop} (h : LoopOk s opened id lp) (hcalls : s.calls ⊆ s'.calls)
    (hopened : opened ⊆ opened') : LoopOk s' opened' id lp where
  sender x hx := by
    obtain ⟨c, hc, hspec⟩ := h.sender x hx
    exact ⟨c, hcalls hc, hspec⟩
  session loc hloc := (h.session loc hloc).mono hopened
  amount := h.amount

section segments

variable {parse : String → Option PeerId} {cfg : OrcaNetConfig} {env : Env} {sid : String}
  {db : Database} {ph : Phase} {ev : Event} {o : ProxyPaymentLoop.Outcome}

theorem locals_of_quiescent (h : Quiescent ph) : locals ph = none := by
  rcases h with rfl | rfl | rfl <;> rfl

theorem requested_of_quiescent (h : Quiescent ph) : requested ph = none := by
  rcases h with rfl | rfl | rfl <;> rfl

/-- A payment starts from the row of its session, and goes to the peer in it. -/
theorem start_locals {loc : Locals} (h : locals (start env sid db).phase = some loc) :
    loc.session_info ∈ db.proxy_sessions.rows ∧ loc.session_info.session_id = sid ∧
      env.parse_peer_id loc.session_info.provider_peer_id = some loc.provider_peer := by
  unfold start at h
  split at h
  · cases h
  · split at h
    · cases h
    · rename_i session_info hinfo
      split at h
      · cases h
      · split at h
        · cases h
        · rename_i provider_peer hpeer
          obtain rfl := Option.some.inj h
          obtain ⟨hmem, hid⟩ := Table.find_mem (first_eq_ok.mp hinfo).2
          exact ⟨hmem, hid, hpeer⟩

/-- Later segments keep the locals. -/
theorem locals_of_segment (h : process_payment cfg env sid db ph ev = some o) {loc : Locals}
    (hloc : locals o.phase = some loc) :
    locals ph = some loc ∨ o = start env sid db := by
  have hseg := process_payment_segment h
  cases hseg with
  | cancelled => cases hloc
  | not_asked hph =>
    rw [locals_of_quiescent hph] at hloc
    cases hloc
  | asked hinfo howed => exact Or.inr (Option.some.inj h).symm
  | refused hph hresp =>
    rw [locals_of_quiescent hph] at hloc
    cases hloc
  | accepted => exact Or.inl hloc
  | not_sent => cases hloc
  | sent => exact Or.inl hloc
  | not_inserted hph hfail =>
    rw [locals_of_quiescent hph] at hloc
    cases hloc
  | inserted hsucc hinsert => exact Or.inl hloc
  | not_updated hph hfail =>
    rw [locals_of_quiescent hph] at hloc
    cases hloc
  | updated hsucc => exact Or.inl hloc
  | notified => cases hloc

/-- An amount comes with an accepting answer. -/
theorem requested_of_segment (h : Segment cfg env sid db ph ev o) {pr : PaymentRequest F64}
    (hpr : requested o.phase = some pr) :
    requested ph = some pr ∨
      ∃ d f, ev = .pre_payment_result (.ok (.HTTPProxyPrePaymentResponse d f (.Accepted pr))) := by
  cases h with
  | cancelled => cases hpr
  | not_asked hph =>
    rw [requested_of_quiescent hph] at hpr
    cases hpr
  | asked hinfo howed => cases hpr
  | refused hph hresp =>
    rw [requested_of_quiescent hph] at hpr
    cases hpr
  | @accepted loc d f pr' =>
    obtain rfl := Option.some.inj hpr
    exact Or.inr ⟨d, f, rfl⟩
  | not_sent => cases hpr
  | sent => exact Or.inl hpr
  | not_inserted hph hfail =>
    rw [requested_of_quiescent hph] at hpr
    cases hpr
  | inserted hsucc hinsert => exact Or.inl hpr
  | not_updated hph hfail =>
    rw [requested_of_quiescent hph] at hpr
    cases hpr
  | updated hsucc => exact Or.inl hpr
  | notified => cases hpr

/-- What a segment does to the sessions and sends off. -/
inductive Sends (sid : String) (db : Database) (ph : Phase) (o : ProxyPaymentLoop.Outcome) : Prop
  /-- Nothing, or a pre-payment request. -/
  | quiet (hsessions : o.db.proxy_sessions = db.proxy_sessions)
      (hcalls : ∀ peer request, ProxyPaymentLoop.Call.send_request peer request ∈ o.calls →
        ∃ client_id auth_token data fee,
          request = .HTTPProxyPrePaymentRequest client_id auth_token data fee)
  | notifies (loc : Locals) (pr : PaymentRequest F64) (n : PaymentNotification F64)
      (hloc : locals ph = some loc) (hpr : requested ph = some pr)
      (hdb : o.db = add_fee_sent db sid pr.amount_to_send)
      (hamount : n.amount_transferred = pr.amount_to_send)
      (hcalls : o.calls = [.send_request loc.provider_peer (.HTTPProxyPostPaymentNotification
        loc.session_info.client_id loc.session_info.auth_token n)])

theorem sends_of_segment (h : Segment cfg env sid db ph ev o) : Sends sid db ph o := by
  cases h with
  | updated hsucc => exact .notifies _ _ _ rfl rfl rfl rfl rfl
  | asked hinfo howed =>
    refine .quiet rfl fun peer request hmem => ?_
    obtain ⟨rfl, rfl⟩ := ProxyPaymentLoop.Call.send_request.inj (List.mem_singleton.mp hmem)
    exact ⟨_, _, _, _, rfl⟩
  | accepted => exact .quiet rfl (by simp)
  | _ => exact .quiet rfl (by simp)

theorem segment_clients (h : Segment cfg env sid db ph ev o) :
    o.db.proxy_clients = db.proxy_clients := by
  cases h <;> rfl

theorem segment_sessions (h : Segment cfg env sid db ph ev o) : SameSessions db o.db := by
  cases sends_of_segment h with
  | quiet hsessions hcalls => exact sameSessions_of_eq hsessions
  | notifies loc pr n hloc hpr hdb hamount hcalls =>
    rw [hdb]
    exact sameSessions_update (ProxySessionInfo.keys_of_payment pr.amount_to_send)
      (fun x => ⟨_, _, rfl⟩) rfl

end segments

/-! ## Section 3: What the providers received -/

/-- The row of every client counts what was credited with its token, and only
    tokens of clients were credited. -/
structure Accounts (s : Requests.State) : Prop where
  rows : ∀ peer, ∀ r ∈ (s.node peer).handler.db.proxy_clients.rows,
    r.total_fee_received_unconfirmed = credited s peer r.auth_token
  known : ∀ peer auth_token, credited s peer auth_token ≠ 0 →
    ∃ r ∈ (s.node peer).handler.db.proxy_clients.rows, r.auth_token = auth_token

section accounts

variable {s s' : Requests.State} {peer : PeerId} {db : Database}

/-- The tables of clients are as before. -/
theorem Accounts.of_eq (h : Accounts s) (hhandled : s'.handled = s.handled)
    (hclients : ∀ p, (s'.node p).handler.db.proxy_clients = (s.node p).handler.db.proxy_clients) :
    Accounts s' := by
  have hcredited : ∀ p tok, credited s' p tok = credited s p tok := by
    intro p tok
    rw [credited, credited, hhandled]
  constructor
  · intro p r hr
    rw [hcredited]
    exact h.rows p r (hclients p ▸ hr)
  · intro p tok hne
    rw [hcredited] at hne
    rw [hclients]
    exact h.known p tok hne

theorem db_proxy_clients_set_db (hclients : db.proxy_clients =
    (s.node peer).handler.db.proxy_clients) (p : PeerId) :
    ((s.set_db peer db).node p).handler.db.proxy_clients =
      (s.node p).handler.db.proxy_clients := by
  rw [db_set_db]
  split
  · rename_i hp
    rw [hp, hclients]
  · rfl

/-- The provider counts data. -/
theorem accounts_provider_data (h : Accounts s) (client_id : String) (kb : F64) :
    Accounts (s.set_db peer (ProxyClientsTable.update_data_transfer_info client_id kb
      (s.node peer).handler.db)) := by
  constructor
  · intro p r hr
    rw [db_set_db] at hr
    split at hr
    · rename_i hp
      simp only [ProxyClientsTable.update_data_transfer_info, Table.mem_update] at hr
      obtain ⟨r', hr', rfl⟩ := hr
      have hrow := h.rows peer r' hr'
      rw [hp]
      split <;> exact hrow
    · exact h.rows p r hr
  · intro p tok hne
    obtain ⟨r, hr, htok⟩ := h.known p tok hne
    rw [db_set_db]
    split
    · rename_i hp
      rw [hp] at hr
      simp only [ProxyClientsTable.update_data_transfer_info, Table.mem_update]
      refine ⟨_, ⟨r, hr, rfl⟩, ?_⟩
      split <;> exact htok
    · exact ⟨r, hr, htok⟩

/-- A request that adds nothing to any total: a new client begins with nothing. -/
theorem Accounts.uncredited (h : Accounts s) {cfg : OrcaNetConfig} {env : Env}
    {from_peer : PeerId} {request : OrcaNetRequest F64} {response : Option (OrcaNetResponse F64)}
    (heff : RequestHandlerLoop.Effect cfg env from_peer (s.node peer).handler.db request response
      (s'.node peer).handler.db)
    (hnone : response ≠ some .NullResponse)
    (hcredited : ∀ p tok, credited s' p tok = credited s p tok)
    (hother : ∀ p, p ≠ peer → s'.node p = s.node p) : Accounts s' := by
  have hsame : (s'.node peer).handler.db.proxy_clients =
      (s.node peer).handler.db.proxy_clients → Accounts s' := by
    intro hclients
    have hall : ∀ p, (s'.node p).handler.db.proxy_clients =
        (s.node p).handler.db.proxy_clients := by
      intro p
      by_cases hp : p = peer
      · rw [hp, hclients]
      · rw [hother p hp]
    constructor
    · intro p r hr
      rw [hcredited]
      exact h.rows p r (hall p ▸ hr)
    · intro p tok hne
      rw [hcredited] at hne
      rw [hall]
      exact h.known p tok hne
  generalize hdb : (s'.node peer).handler.db = db' at heff hsame
  cases heff with
  | inert hresp hclients hpayments => exact hsame hclients
  | over_threshold hask hover => exact hsame rfl
  | reference hask hwithin hstores hinsert => exact hsame rfl
  | mismatch hask hpay hrow => exact hsame rfl
  | uncredited hconfirm hfault => exact hsame rfl
  | credited hconfirm hcredit => exact absurd rfl hnone
  | provide hinsert =>
    obtain ⟨hnew, hrows⟩ := Table.insert_eq_some hinsert
    constructor
    · intro p r hr
      rw [hcredited]
      by_cases hp : p = peer
      · rw [hp, hdb] at hr
        rw [hp]
        rcases List.mem_append.mp (hrows ▸ hr) with hr | hr
        · exact h.rows peer r hr
        · -- nobody had the token before
          obtain rfl := List.mem_singleton.mp hr
          refine Eq.symm ?_
          by_contra hne
          obtain ⟨r', hr', htok⟩ := h.known peer _ hne
          exact Table.find_eq_none_iff.mp (hnew ProxyClientInfo.auth_token (by simp)) r' hr' htok
      · rw [hother p hp] at hr
        exact h.rows p r hr
    · intro p tok hne
      rw [hcredited] at hne
      obtain ⟨r, hr, htok⟩ := h.known p tok hne
      by_cases hp : p = peer
      · rw [hp] at hr ⊢
        rw [hdb]
        exact ⟨r, hrows ▸ List.mem_append_left _ hr, htok⟩
      · rw [hother p hp]
        exact ⟨r, hr, htok⟩

theorem credited_cons {e : Requests.Handled} (h : s'.handled = e :: s.handled) (p : PeerId)
    (tok : String) :
    credited s' p tok = credit p tok e.entry.2.1 e.entry.2.2 + credited s p tok := by
  rw [credited, h, List.map_cons, List.sum_cons]
  rfl

/-- Only a notification is answered with `NullResponse`. -/
theorem credited_of_nullResponse {cfg : OrcaNetConfig} {env : Env} {from_peer : PeerId}
    {db db' : Database} {request : OrcaNetRequest F64} {response : Option (OrcaNetResponse F64)}
    (h : RequestHandlerLoop.Effect cfg env from_peer db request response db')
    (hresp : response = some .NullResponse) :
    ∃ client_id tok n c r, request = .HTTPProxyPostPaymentNotification client_id tok n ∧
      db.proxy_clients.find ProxyClientInfo.auth_token tok = some c ∧
      db' = RequestHandlerLoop.credit_client (RequestHandlerLoop.confirm_payment db n r)
        c.client_id n.amount_transferred := by
  cases h with
  | inert hinert hclients hpayments => exact absurd hresp hinert.1
  | @credited client_id tok n c r hconfirm hcredit =>
    exact ⟨client_id, tok, n, c, r, rfl, (first_eq_ok.mp hconfirm.client).2, rfl⟩
  | provide hinsert => cases hresp
  | over_threshold hask hover => cases hresp
  | reference hask hwithin hstores hinsert => cases hresp
  | mismatch hask hpay hrow => cases hresp
  | uncredited hconfirm hfault => cases hresp

/-- A notification is credited to the client of its token. -/
theorem Accounts.credited (h : Accounts s) {e : Requests.Handled}
    (hhandled : s'.handled = e :: s.handled) (hstart : (s.node e.peer).handler.db = e.db)
    {client_id tok : String} {n : PaymentNotification F64} {c : ProxyClientInfo} {r : PaymentInfo}
    (hrequest : e.request = .HTTPProxyPostPaymentNotification client_id tok n)
    (hresponse : e.response = some .NullResponse)
    (hc : e.db.proxy_clients.find ProxyClientInfo.auth_token tok = some c)
    (hdb : (s'.node e.peer).handler.db = RequestHandlerLoop.credit_client
      (RequestHandlerLoop.confirm_payment e.db n r) c.client_id n.amount_transferred)
    (hother : ∀ p, p ≠ e.peer → s'.node p = s.node p) : Accounts s' := by
  obtain ⟨hcmem, hctok⟩ := Table.find_mem hc
  have hcredit : ∀ p tok', credit p tok' e.entry.2.1 e.entry.2.2 =
      if e.peer = p ∧ tok = tok' then n.amount_transferred else 0 := by
    intro p tok'
    simp only [credit, due, paid, Requests.Handled.entry, hresponse, hrequest, if_true]
    by_cases hp : e.peer = p <;> by_cases htok : tok = tok' <;> simp [hp, htok]
  constructor
  · intro p x hx
    rw [credited_cons hhandled, hcredit]
    by_cases hp : p = e.peer
    · rw [hp] at hx ⊢
      rw [hdb] at hx
      simp only [RequestHandlerLoop.credit_client, RequestHandlerLoop.confirm_payment,
        Table.mem_update] at hx
      obtain ⟨y, hy, rfl⟩ := hx
      have hrow := h.rows e.peer y (hstart ▸ hy)
      by_cases hid : y.client_id = c.client_id
      · obtain rfl : y = c := Table.row_unique (by simp) hy hcmem hid
        rw [if_pos hid, if_pos ⟨rfl, hctok.symm⟩]
        exact (congrArg (· + n.amount_transferred) hrow).trans (add_comm _ _)
      · -- another client has another token
        have htok : tok ≠ y.auth_token := by
          intro heq
          have hy' : y = c := Table.row_unique (c := ProxyClientInfo.auth_token) (by simp) hy hcmem
            (heq.symm.trans hctok.symm)
          exact hid (congrArg ProxyClientInfo.client_id hy')
        rw [if_neg hid, if_neg fun hand => htok hand.2, zero_add]
        exact hrow
    · rw [hother p hp] at hx
      rw [if_neg fun hand => hp hand.1.symm, zero_add]
      exact h.rows p x hx
  · intro p tok' hne
    rw [credited_cons hhandled, hcredit] at hne
    by_cases hp : p = e.peer
    · -- every row is still there under its token
      have hkeep : ∀ y ∈ e.db.proxy_clients.rows,
          ∃ x ∈ (s'.node p).handler.db.proxy_clients.rows, x.auth_token = y.auth_token := by
        intro y hy
        rw [hp, hdb]
        simp only [RequestHandlerLoop.credit_client, RequestHandlerLoop.confirm_payment,
          Table.mem_update]
        refine ⟨_, ⟨y, hy, rfl⟩, ?_⟩
        split <;> rfl
      by_cases htok : tok = tok'
      · obtain ⟨x, hx, hxtok⟩ := hkeep c hcmem
        exact ⟨x, hx, hxtok.trans (hctok.trans htok)⟩
      · rw [if_neg fun hand => htok hand.2, zero_add, hp] at hne
        obtain ⟨y, hy, hytok⟩ := h.known e.peer tok' hne
        obtain ⟨x, hx, hxtok⟩ := hkeep y (hstart ▸ hy)
        exact ⟨x, hx, hxtok.trans hytok⟩
    · rw [if_neg fun hand => hp hand.1.symm, zero_add] at hne
      rw [hother p hp]
      exact h.known p tok' hne

theorem accounts_served (h : Accounts s) (hserved : Served s s') : Accounts s' := by
  cases hserved with
  | quiet handled tables => exact h.of_eq handled fun p => (tables p).1
  | stream p cfg env request from_peer hpay handled hdb other =>
    have heff := RequestHandlerLoop.handle_request_effect cfg env from_peer
      (s.node p).handler.db request
    rw [← hdb] at heff
    refine h.uncredited heff (fun hnull => ?_) (fun q tok => ?_) other
    · obtain ⟨client_id, tok, n, c, r, rfl, -⟩ := credited_of_nullResponse heff hnull
      cases hpay
    · rw [credited, handled]
      rfl
  | request e handled start hdb other =>
    have heff := RequestHandlerLoop.handle_request_effect e.config e.env e.from_peer e.db e.request
    rw [← hdb] at heff
    by_cases hnull : e.response = some .NullResponse
    · obtain ⟨client_id, tok, n, c, r, hrequest, hc, hfinal⟩ := credited_of_nullResponse heff hnull
      exact h.credited handled start hrequest hnull hc hfinal other
    · rw [← start] at heff
      refine h.uncredited heff (by rw [start]; exact hnull) (fun q tok => ?_) other
      rw [credited_cons handled]
      show credit q tok _ e.response + _ = _
      rw [credit, if_neg hnull, zero_add]

end accounts

/-! ## Section 4: The joint invariant -/

/-- The entry is a notification for the session it names. -/
def Issued.Ok (opened : List Opened) (i : Issued) : Prop :=
  ∃ client_id auth_token n,
    i.request = .HTTPProxyPostPaymentNotification client_id auth_token n ∧
      0 ≤ n.amount_transferred ∧ Owns opened i.caller i.session_id i.peer auth_token

theorem Issued.Ok.mono {opened opened' : List Opened} (hsub : opened ⊆ opened') {i : Issued}
    (h : i.Ok opened) : i.Ok opened' := by
  obtain ⟨client_id, tok, n, hrequest, hamount, howns⟩ := h
  exact ⟨client_id, tok, n, hrequest, hamount, howns.mono hsub⟩

theorem Issued.Ok.fair {opened : List Opened} {i : Issued} (h : i.Ok opened) : Fair i.request := by
  obtain ⟨client_id, tok, n, hrequest, hamount, -⟩ := h
  rw [hrequest]
  exact hamount

structure Inv (parse : String → Option PeerId) (s : State) : Prop where
  linked : Linked parse s.net s.opened
  loops : ∀ id, LoopOk s.net s.opened id (s.loop id)
  accounts : Accounts s.net
  issued : ∀ i ∈ s.issued, i.Ok s.opened
  totals : ∀ peer, ∀ x ∈ (s.net.node peer).handler.db.proxy_sessions.rows,
    x.total_fee_sent_unconfirmed = sent s.issued peer x.session_id
  outbox : ∀ cmd ∈ s.outbox, Fair cmd.request
  calls : ∀ c ∈ s.net.calls, Fair c.request
  /-- What was sent off is on its way to the network loop, or was called. -/
  conserved : ∀ peer tok,
    (s.net.calls.map fun c => due peer tok c.peer c.request).sum +
        (s.outbox.map fun cmd => due peer tok cmd.peer cmd.request).sum =
      (s.issued.map fun i => due peer tok i.peer i.request).sum

section steps

variable {parse : String → Option PeerId} {s : State} {net : Requests.State}

theorem calls_subset_of_next {s s' : Requests.State} {l : Requests.Label}
    (h : Requests.next s l = some s') : s.calls ⊆ s'.calls := by
  rw [(next_logs h).1]
  exact List.subset_append_right _ _

theorem not_payment_of_call {l : Requests.Label} (hsend : sends_payment l.step = false)
    {c : Requests.Call} (hc : call_of l = some c) : is_payment c.request = false := by
  unfold call_of at hc
  split at hc
  · rename_i hstep
    rw [hstep] at hsend
    obtain rfl := Option.some.inj hc
    exact hsend
  · cases hc

/-- A step that is none of a loop's. -/
theorem inv_network (hinv : Inv parse s) {l : Requests.Label}
    (hsend : sends_payment l.step = false)
    (hstream : streams_payment (s.net.node l.peer) l.step = false)
    (hnext : Requests.next s.net l = some net) : Inv parse { s with net := net } := by
  have hserved := next_served hnext hstream
  have hcalls := (next_logs hnext).1
  refine
    { linked := hinv.linked.network hnext hstream
      loops := fun id => (hinv.loops id).mono (calls_subset_of_next hnext) (List.Subset.refl _)
      accounts := accounts_served hinv.accounts hserved, issued := hinv.issued
      totals := fun peer x hx => hinv.totals peer x (hserved.sessions peer ▸ hx)
      outbox := hinv.outbox, calls := fun c hc => ?_, conserved := fun peer tok => ?_ }
  · rw [hcalls] at hc
    rcases List.mem_append.mp hc with hc | hc
    · exact fair_of_not_payment (not_payment_of_call hsend (Option.mem_toList.mp hc))
    · exact hinv.calls c hc
  · show (net.calls.map _).sum + _ = _
    rw [hcalls, List.map_append, List.sum_append, ← hinv.conserved peer tok]
    cases hnew : call_of l with
    | none => simp
    | some c => simp [due_of_not_payment (not_payment_of_call hsend hnew)]

/-- The network loop takes a command. -/
theorem inv_take_command (hinv : Inv parse s) {cmd : Command} {sender : Sender} {swarm : Swarm}
    {alive : Sender → Bool} {env : HandlerEnv} (hcmd : cmd ∈ s.outbox)
    (hnext : Requests.next s.net ⟨cmd.loop.1, .network (.command
      (NetworkClient.send_request cmd.peer cmd.request sender) swarm) alive env, 0⟩ = some net) :
    Inv parse { s with
      net := net
      loop := Function.update s.loop cmd.loop { s.loop cmd.loop with sender := some sender }
      outbox := s.outbox.erase cmd } := by
  have hserved := next_served hnext rfl
  have hcalls : net.calls =
      ⟨cmd.loop.1, cmd.peer, cmd.request, swarm.send_request, sender⟩ :: s.net.calls :=
    (next_logs hnext).1
  have hsub := calls_subset_of_next hnext
  refine
    { linked := hinv.linked.network hnext rfl, loops := fun id => ?_
      accounts := accounts_served hinv.accounts hserved, issued := hinv.issued
      totals := fun peer x hx => hinv.totals peer x (hserved.sessions peer ▸ hx)
      outbox := fun c hc => hinv.outbox c (List.mem_of_mem_erase hc), calls := fun c hc => ?_
      conserved := fun peer tok => ?_ }
  · have hold := (hinv.loops id).mono hsub (List.Subset.refl s.opened)
    by_cases hid : id = cmd.loop
    · subst hid
      simp only [Function.update_self]
      refine ⟨fun x hx => ?_, hold.session, hold.amount⟩
      obtain rfl := Option.some.inj hx
      exact ⟨_, hcalls ▸ List.mem_cons_self, rfl, rfl⟩
    · simp only [Function.update_of_ne hid]
      exact hold
  · rw [hcalls] at hc
    rcases List.mem_cons.mp hc with rfl | hc
    · exact hinv.outbox cmd hcmd
    · exact hinv.calls c hc
  · show (net.calls.map _).sum + _ = _
    have herase := List.sum_map_erase (fun cmd => due peer tok cmd.peer cmd.request) hcmd
    rw [hcalls, List.map_cons, List.sum_cons, ← hinv.conserved peer tok, ← herase]
    ring

theorem sent_cons (i : Issued) (issued : List Issued) (caller : PeerId) (session_id : String) :
    sent (i :: issued) caller session_id =
      (if i.caller = caller ∧ i.session_id = session_id then
        Protocol.amount_transferred i.request else 0) + sent issued caller session_id := by
  rw [sent, List.map_cons, List.sum_cons]
  rfl

/-- The loop after a segment. -/
theorem loopOk_settle {id : LoopId} {env : Env} {ev : Event} {o : ProxyPaymentLoop.Outcome}
    (hlinked : Linked parse s.net s.opened) (hold : LoopOk s.net s.opened id (s.loop id))
    (ho : segment parse s id env ev = some o)
    (hamount : ∀ d f pr,
      ev = .pre_payment_result (.ok (.HTTPProxyPrePaymentResponse d f (.Accepted pr))) →
        0 ≤ pr.amount_to_send) :
    LoopOk s.net s.opened id { s.loop id with
      phase := o.phase
      sender := if waits o.phase then none else (s.loop id).sender } where
  sender x hx := by
    by_cases hwaits : waits o.phase = true
    · simp [hwaits] at hx
    · exact hold.sender x (by simpa [hwaits] using hx)
  session loc hloc := by
    rcases locals_of_segment ho hloc with hsame | rfl
    · exact hold.session loc hsame
    · -- the session was read from its row
      obtain ⟨hrow, hid, hpeer⟩ := start_locals hloc
      obtain ⟨opened, hopened, hcaller, hof⟩ := hlinked.rows id.1 _ hrow
      refine ⟨opened, hopened, hcaller, hof.session_id.symm.trans hid, ?_, hof.auth_token.symm⟩
      exact Option.some.inj (hof.provider.symm.trans hpeer)
  amount pr hpr := by
    rcases requested_of_segment (process_payment_segment ho) hpr with hsame | ⟨d, f, hev⟩
    · exact hold.amount pr hsame
    · exact hamount d f pr hev

/-- A segment of a loop. -/
theorem inv_settle (hinv : Inv parse s) {id : LoopId} {env : Env} {ev : Event}
    {o : ProxyPaymentLoop.Outcome} (ho : segment parse s id env ev = some o)
    (hamount : ∀ d f pr,
      ev = .pre_payment_result (.ok (.HTTPProxyPrePaymentResponse d f (.Accepted pr))) →
        0 ≤ pr.amount_to_send) : Inv parse (settle s id o) := by
  have hseg := process_payment_segment ho
  have hclients := segment_clients hseg
  have hlinked : Linked parse (settle s id o).net (settle s id o).opened :=
    hinv.linked.write (keepsClients_of_eq hclients) (segment_sessions hseg)
  have haccounts : Accounts (settle s id o).net :=
    hinv.accounts.of_eq rfl (db_proxy_clients_set_db hclients)
  have hloops : ∀ id', LoopOk (settle s id o).net (settle s id o).opened id'
      ((settle s id o).loop id') := by
    intro id'
    by_cases hid : id' = id
    · subst hid
      simp only [settle, Function.update_self]
      exact (loopOk_settle hinv.linked (hinv.loops id') ho hamount).mono (List.Subset.refl _)
        (List.Subset.refl _)
    · simp only [settle, Function.update_of_ne hid]
      exact (hinv.loops id').mono (List.Subset.refl _) (List.Subset.refl _)
  cases sends_of_segment hseg with
  | quiet hsessions hcalls =>
    have hnotices : o.calls.filterMap (notice id (s.loop id).session_id) = [] := by
      refine List.filterMap_eq_nil_iff.mpr fun call hcall => ?_
      cases call with
      | send_request peer request =>
        obtain ⟨client_id, tok, data, fee, rfl⟩ := hcalls peer request hcall
        rfl
      | send_to_address address amount => rfl
    have hcommands : ∀ cmd ∈ o.calls.filterMap (command id), Fair cmd.request ∧
        ∀ peer tok, due peer tok cmd.peer cmd.request = 0 := by
      intro cmd hcmd
      obtain ⟨call, hcall, hcommand⟩ := List.mem_filterMap.mp hcmd
      cases call with
      | send_request peer request =>
        obtain ⟨client_id, tok, data, fee, rfl⟩ := hcalls peer request hcall
        obtain rfl := Option.some.inj hcommand
        exact ⟨le_refl 0, fun p t => by simp [due, paid]⟩
      | send_to_address address amount => cases hcommand
    refine
      { linked := hlinked, loops := hloops, accounts := haccounts, issued := fun i hi => ?_
        totals := fun peer x hx => ?_, outbox := fun cmd hcmd => ?_, calls := hinv.calls
        conserved := fun peer tok => ?_ }
    · simp only [settle, hnotices, List.nil_append] at hi
      exact hinv.issued i hi
    · simp only [settle, hnotices, List.nil_append] at hx ⊢
      rw [db_set_db] at hx
      split at hx
      · rename_i hp
        rw [hsessions] at hx
        rw [hp]
        exact hinv.totals id.1 x hx
      · exact hinv.totals peer x hx
    · rcases List.mem_append.mp hcmd with hcmd | hcmd
      · exact (hcommands cmd hcmd).1
      · exact hinv.outbox cmd hcmd
    · have hzero : ((o.calls.filterMap (command id)).map fun cmd =>
          due peer tok cmd.peer cmd.request).sum = 0 := by
        refine List.sum_eq_zero fun a ha => ?_
        obtain ⟨cmd, hcmd, rfl⟩ := List.mem_map.mp ha
        exact (hcommands cmd hcmd).2 peer tok
      simp only [settle, hnotices, List.nil_append, List.map_append, List.sum_append, hzero,
        zero_add]
      exact hinv.conserved peer tok
  | notifies loc pr n hloc hpr hdb hn hcalls =>
    have hnonneg : 0 ≤ n.amount_transferred := hn ▸ (hinv.loops id).amount pr hpr
    have howns := (hinv.loops id).session loc hloc
    let request : OrcaNetRequest F64 := .HTTPProxyPostPaymentNotification
      loc.session_info.client_id loc.session_info.auth_token n
    have hissued : (settle s id o).issued =
        ⟨id.1, (s.loop id).session_id, loc.provider_peer, request⟩ :: s.issued := by
      simp only [settle, hcalls]
      rfl
    have houtbox : (settle s id o).outbox = ⟨id, loc.provider_peer, request⟩ :: s.outbox := by
      simp only [settle, hcalls]
      rfl
    refine
      { linked := hlinked, loops := hloops, accounts := haccounts, issued := fun i hi => ?_
        totals := fun peer x hx => ?_, outbox := fun cmd hcmd => ?_, calls := hinv.calls
        conserved := fun peer tok => ?_ }
    · rw [hissued] at hi
      rcases List.mem_cons.mp hi with rfl | hi
      · exact ⟨_, _, n, rfl, hnonneg, howns⟩
      · exact hinv.issued i hi
    · rw [hissued, sent_cons]
      simp only [settle] at hx
      rw [db_set_db] at hx
      split at hx
      · rename_i hp
        rw [hdb] at hx
        simp only [add_fee_sent, Table.mem_update] at hx
        obtain ⟨y, hy, rfl⟩ := hx
        have hrow := hinv.totals id.1 y hy
        by_cases hsid : y.session_id = (s.loop id).session_id
        · rw [if_pos hsid, if_pos ⟨hp.symm, hsid.symm⟩, hp]
          show y.total_fee_sent_unconfirmed + pr.amount_to_send = n.amount_transferred + _
          rw [hrow, hn, add_comm]
        · rw [if_neg hsid, if_neg fun h => hsid h.2.symm, hp, zero_add]
          exact hrow
      · rename_i hp
        rw [if_neg fun h => hp h.1.symm, zero_add]
        exact hinv.totals peer x hx
    · rw [houtbox] at hcmd
      rcases List.mem_cons.mp hcmd with rfl | hcmd
      · exact hnonneg
      · exact hinv.outbox cmd hcmd
    · rw [hissued, houtbox]
      simp only [List.map_cons, List.sum_cons]
      have hold := hinv.conserved peer tok
      show (s.net.calls.map _).sum + _ = _
      linarith

/-- A provider asks for what one of its clients owes. -/
theorem accepted_amount {cfg : OrcaNetConfig} {env : Env} {from_peer : PeerId} {db db' : Database}
    {request : OrcaNetRequest F64} {response : Option (OrcaNetResponse F64)} {d f : F64}
    {pr : PaymentRequest F64}
    (h : RequestHandlerLoop.Effect cfg env from_peer db request response db')
    (hresp : response = some (.HTTPProxyPrePaymentResponse d f (.Accepted pr))) :
    ∃ c ∈ db.proxy_clients.rows, pr.amount_to_send = c.get_fee_owed := by
  cases h with
  | inert hinert hclients hpayments => exact absurd hresp (hinert.2.2 _ _ _)
  | over_threshold hask hover =>
    cases hresp
    exact ⟨_, (Table.find_mem (first_eq_ok.mp hask.client).2).1, rfl⟩
  | reference hask hwithin hstores hinsert =>
    cases hresp
    exact ⟨_, (Table.find_mem (first_eq_ok.mp hask.client).2).1, rfl⟩
  | provide hinsert => cases hresp
  | mismatch hask hpay hrow => cases hresp
  | uncredited hconfirm hfault => cases hresp
  | credited hconfirm hcredit => cases hresp

/-- What a loop is asked to pay was asked by a handler. -/
theorem asked_of_answer (hinv : Inv parse s) {id : LoopId} {sender : Sender}
    {resp : Except String (OrcaNetResponse F64)} (hsender : (s.loop id).sender = some sender)
    (hreceived : s.net.received id.1 sender = some (.response resp)) {d f : F64}
    {pr : PaymentRequest F64}
    (hev : answered resp (s.loop id).phase =
      .pre_payment_result (.ok (.HTTPProxyPrePaymentResponse d f (.Accepted pr)))) :
    ∃ e ∈ s.net.handled, ∃ c ∈ e.db.proxy_clients.rows, pr.amount_to_send = c.get_fee_owed := by
  obtain rfl : resp = .ok (.HTTPProxyPrePaymentResponse d f (.Accepted pr)) := by
    unfold answered at hev
    split at hev
    · cases hev
    · exact Event.pre_payment_result.inj hev
  obtain ⟨c, hc, hcaller, rfl⟩ := (hinv.loops id).sender sender hsender
  obtain ⟨t, ht, hrel⟩ := hinv.linked.calls
  have hreturned : Requests.Returned s.net c (.HTTPProxyPrePaymentResponse d f (.Accepted pr)) := by
    rw [Requests.Returned, hcaller]
    exact Requests.State.mem_answers_of_received hreceived
  obtain ⟨e, hfilter, -, -, -, hresponse⟩ := Requests.handledOnce_of_returned ht hrel hc hreturned
  have he : e ∈ s.net.handled.filter fun h => h.id = some c.id :=
    hfilter ▸ List.mem_singleton_self e
  exact ⟨e, (List.mem_filter.mp he).1, accepted_amount
    (RequestHandlerLoop.handle_request_effect e.config e.env e.from_peer e.db e.request) hresponse⟩

theorem inv_answer (hinv : Inv parse s) {id : LoopId} {env : Env} {sender : Sender}
    {resp : Except String (OrcaNetResponse F64)} {o : ProxyPaymentLoop.Outcome}
    (hsender : (s.loop id).sender = some sender)
    (hreceived : s.net.received id.1 sender = some (.response resp))
    (ho : segment parse s id env (answered resp (s.loop id).phase) = some o) :
    Inv parse (settle s id o) := by
  refine inv_settle hinv ho fun d f pr hev => ?_
  obtain ⟨e, -, c, -, hamount⟩ := asked_of_answer hinv hsender hreceived hev
  rw [hamount]
  exact c.get_fee_owed_nonneg

/-- A task writes to its database, and all totals stay. -/
theorem Inv.write (hinv : Inv parse s) {peer : PeerId} {db : Database}
    (hclients : KeepsClients (s.net.node peer).handler.db db)
    (hsessions : SameSessions (s.net.node peer).handler.db db)
    (haccounts : Accounts (s.net.set_db peer db))
    (htotals : ∀ x ∈ db.proxy_sessions.rows,
      x.total_fee_sent_unconfirmed = sent s.issued peer x.session_id) :
    Inv parse { s with net := s.net.set_db peer db } where
  linked := hinv.linked.write hclients hsessions
  loops id := (hinv.loops id).mono (List.Subset.refl _) (List.Subset.refl _)
  accounts := haccounts
  issued := hinv.issued
  totals p x hx := by
    rw [db_set_db] at hx
    split at hx
    · rename_i hp
      exact hp ▸ htotals x hx
    · exact hinv.totals p x hx
  outbox := hinv.outbox
  calls := hinv.calls
  conserved := hinv.conserved

/-- A session that is stored has no payments yet. -/
theorem inv_connect (hinv : Inv parse s) {c : Requests.Call} (hc : c ∈ s.net.calls) {env : Env}
    {fault : Option String} {peer_id : String} (hparse : parse peer_id = some c.peer)
    (hnew : c.id ∉ s.opened.map fun o => o.call.id)
    {provide_resp : Except String (OrcaNetResponse F64)}
    (hreceived : s.net.received c.caller c.sender = some (.response provide_resp))
    {stage : ProxyEndpoints.Stage} {db : Database}
    (hconnect : ProxyEndpoints.connect_response env fault peer_id provide_resp
      (s.net.node c.caller).handler.db = (stage, db)) :
    Inv parse { s with
      net := s.net.set_db c.caller db
      opened := (stored c env provide_resp stage).toList ++ s.opened } := by
  rcases connect_response_cases c env fault peer_id provide_resp _ hconnect with
    ⟨rfl, hnone⟩ | ⟨metadata, client_id, auth_token, t, rfl, hstored, hinsert, rfl⟩
  · -- nothing is stored
    rw [hnone]
    exact hinv.write (keepsClients_of_eq rfl) (sameSessions_of_eq rfl)
      (hinv.accounts.of_eq rfl (db_proxy_clients_set_db rfl)) (hinv.totals c.caller)
  · have hgot : Requests.GotSession s.net c metadata client_id auth_token :=
      Requests.State.mem_answers_of_received hreceived
    have hlinked := hinv.linked.connect hc hparse hnew hgot hinsert
    obtain ⟨hfresh, hrows⟩ := Table.insert_eq_some hinsert
    rw [hstored]
    have hsub : s.opened ⊆
        (some (⟨c, env.new_uuid 0, metadata, client_id, auth_token⟩ : Opened)).toList ++ s.opened :=
      List.subset_append_right _ _
    refine
      { linked := hlinked
        loops := fun id => (hinv.loops id).mono (List.Subset.refl _) hsub
        accounts := hinv.accounts.of_eq rfl (db_proxy_clients_set_db rfl)
        issued := fun i hi => (hinv.issued i hi).mono hsub, totals := fun peer x hx => ?_
        outbox := hinv.outbox, calls := hinv.calls, conserved := hinv.conserved }
    rw [db_set_db] at hx
    split at hx
    · rename_i hp
      rw [hrows] at hx
      rcases List.mem_append.mp hx with hx | hx
      · exact hinv.totals peer x (hp ▸ hx)
      · -- no loop ran for the new session id
        obtain rfl := List.mem_singleton.mp hx
        refine Eq.symm (List.sum_eq_zero fun a ha => ?_)
        obtain ⟨i, hi, rfl⟩ := List.mem_map.mp ha
        refine if_neg fun hand => ?_
        obtain ⟨-, -, -, -, -, o, ho, hcaller, hsid, -⟩ := hinv.issued i hi
        obtain ⟨y, hy, hof⟩ := hinv.linked.stored o ho
        rw [hcaller, hand.1, hp] at hy
        refine Table.find_eq_none_iff.mp (hfresh ProxySessionInfo.session_id (by simp)) y hy ?_
        exact (hof.session_id.trans hsid).trans hand.2
    · exact hinv.totals peer x hx

theorem inv_client_data (hinv : Inv parse s) (peer : PeerId) (session_id : String) (kb : F64) :
    Inv parse { s with
      net := s.net.set_db peer (ProxySessionsTable.update_data_transfer_info session_id kb
        (s.net.node peer).handler.db) } := by
  refine hinv.write (keepsClients_of_eq rfl)
    (sameSessions_update (by simp) (fun x => ⟨x.data_transferred_kb + kb, _, rfl⟩) rfl)
    (hinv.accounts.of_eq rfl (db_proxy_clients_set_db rfl)) fun x hx => ?_
  simp only [ProxySessionsTable.update_data_transfer_info, Table.mem_update] at hx
  obtain ⟨y, hy, rfl⟩ := hx
  have hrow := hinv.totals peer y hy
  split <;> exact hrow

theorem inv_provider_data (hinv : Inv parse s) (peer : PeerId) (client_id : String) (kb : F64) :
    Inv parse { s with
      net := s.net.set_db peer (ProxyClientsTable.update_data_transfer_info client_id kb
        (s.net.node peer).handler.db) } := by
  have hkeeps : KeepsClients (s.net.node peer).handler.db
      (ProxyClientsTable.update_data_transfer_info client_id kb
        (s.net.node peer).handler.db) := by
    simp only [KeepsClients, ProxyClientsTable.update_data_transfer_info, Table.mem_update]
    intro c hc
    refine ⟨_, ⟨c, hc, rfl⟩, ?_⟩
    split
    · exact ⟨_, _, rfl⟩
    · exact .refl c
  exact hinv.write hkeeps (sameSessions_of_eq rfl)
    (accounts_provider_data hinv.accounts client_id kb) (hinv.totals peer)

theorem inv_network_gone (hinv : Inv parse s) (id : LoopId) :
    Inv parse { s with
      loop := Function.update s.loop id { s.loop id with phase := .panicked } } := by
  refine { hinv with loops := fun id' => ?_ }
  by_cases hid : id' = id
  · subst hid
    simp only [Function.update_self]
    exact ⟨(hinv.loops id').sender, nofun, nofun⟩
  · simp only [Function.update_of_ne hid]
    exact hinv.loops id'

theorem inv_step {s' : State} {l : Label} (hinv : Inv parse s) (h : next parse s l = some s') :
    Inv parse s' := by
  cases l with
  | network l =>
    obtain ⟨hpays, hnext⟩ := Option.ite_none_left_eq_some.mp h
    obtain ⟨net, hnet, rfl⟩ := Option.map_eq_some_iff.mp hnext
    obtain ⟨hsend, hstream⟩ := Bool.or_eq_false_iff.mp (Bool.eq_false_iff.mpr hpays)
    exact inv_network hinv hsend hstream hnet
  | connect id env fault peer_id =>
    simp only [next] at h
    split at h
    · rename_i c hfind
      obtain rfl : c.id = id := by simpa using List.find?_some hfind
      obtain ⟨⟨hparse, hcontains⟩, h⟩ := Option.ite_none_right_eq_some.mp h
      have hcall := List.mem_of_find?_eq_some hfind
      have hnew : c.id ∉ s.opened.map fun o => o.call.id := by simpa using hcontains
      split at h
      · rename_i provide_resp hreceived
        obtain rfl := Option.some.inj h
        exact inv_connect hinv hcall hparse hnew hreceived rfl
      · cases h
    · cases h
  | client_data peer session_id kb =>
    obtain rfl := Option.some.inj h
    exact inv_client_data hinv peer session_id kb
  | provider_data peer client_id kb =>
    obtain rfl := Option.some.inj h
    exact inv_provider_data hinv peer client_id kb
  | payment id env ev =>
    obtain ⟨hlocal, hsegment⟩ := Option.ite_none_right_eq_some.mp h
    obtain ⟨o, ho, rfl⟩ := Option.map_eq_some_iff.mp hsegment
    refine inv_settle hinv ho fun d f pr hev => ?_
    rw [hev] at hlocal
    cases hlocal
  | take_command cmd sender swarm alive env =>
    obtain ⟨hcmd, hnext⟩ := Option.ite_none_right_eq_some.mp h
    obtain ⟨net, hnet, rfl⟩ := Option.map_eq_some_iff.mp hnext
    exact inv_take_command hinv hcmd hnet
  | answer id env =>
    simp only [next] at h
    split at h
    · rename_i resp hbind
      obtain ⟨sender, hsender, hreceived⟩ := Option.bind_eq_some_iff.mp hbind
      obtain ⟨o, ho, rfl⟩ := Option.map_eq_some_iff.mp h
      exact inv_answer hinv hsender hreceived ho
    · cases h
  | network_gone id =>
    obtain ⟨-, h⟩ := Option.ite_none_right_eq_some.mp h
    obtain rfl := Option.some.inj h
    exact inv_network_gone hinv id

theorem inv_of_init (h : Init s) : Inv parse s := by
  obtain ⟨hnet, hclients, hsessions, hidle, houtbox, hissued, hopened⟩ := h
  have hrefines := Requests.refines_of_init hnet
  have hreachable := Requests.sessionInv_of_reachable (.init hnet)
  obtain ⟨-, -, -, -, hcalls, hhandled, -, -⟩ := hnet
  have hcredited : ∀ peer tok, credited s.net peer tok = 0 := by
    intro peer tok
    simp [credited, hhandled]
  refine
    { linked := ⟨⟨_, .init rfl, hrefines⟩, hreachable, ?_, ?_, ?_, ?_⟩, loops := fun id => ?_
      accounts := ⟨?_, ?_⟩, issued := ?_, totals := ?_, outbox := ?_, calls := ?_
      conserved := ?_ } <;> try simp [hclients, hsessions, houtbox, hissued, hopened, hcalls]
  · obtain ⟨hphase, hsender⟩ := hidle id
    refine ⟨fun sender hs => ?_, fun loc hs => ?_, fun pr hs => ?_⟩
    · rw [hsender] at hs
      cases hs
    · rw [hphase] at hs
      cases hs
    · rw [hphase] at hs
      cases hs
  · exact hcredited

theorem inv_of_reachable (h : (system parse).Reachable s) : Inv parse s :=
  System.Reachable.invariant (J := Inv parse) (fun _ hs => inv_of_init hs)
    (fun _ _ _ _ hinv hnext => inv_step hinv hnext) h

end steps

/-! ## Section 5: The two ends of a session -/

/-- The call is a notification for the token that was answered with `NullResponse`. -/
structure Acknowledged (s : Requests.State) (peer : PeerId) (auth_token : String)
    (c : Requests.Call) : Prop where
  call : c ∈ s.calls
  peer : c.peer = peer
  request : ∃ client_id n, c.request = .HTTPProxyPostPaymentNotification client_id auth_token n
  returned : Requests.Returned s c .NullResponse

section ledgers

variable {parse : String → Option PeerId} {s : State}

/-- A token belongs to one session. -/
theorem Linked.unique {s : Requests.State} {opened : List Opened} (h : Linked parse s opened)
    {o o' : Opened} (ho : o ∈ opened) (ho' : o' ∈ opened) (hpeer : o.call.peer = o'.call.peer)
    (htok : o.auth_token = o'.auth_token) : o = o' := by
  obtain ⟨t, ht, hrel⟩ := h.calls
  obtain ⟨hc, hgot⟩ := h.got o ho
  obtain ⟨hc', hgot'⟩ := h.got o' ho'
  have hcall := Requests.call_unique ht hrel h.clients hc hc' hgot hgot' hpeer (Or.inr htok)
  exact List.inj_on_of_nodup_map h.once ho ho' (congrArg Requests.Call.id hcall)

/-- The credits, in the log of the remote calls. -/
theorem credited_eq {s : Requests.State} {t : Requests.Abstract} (hrel : Requests.Refines s t)
    (peer : PeerId) (tok : String) :
    credited s peer tok = (t.served.map fun e => credit peer tok e.2.1 e.2.2).sum := by
  have hmap := congrArg (List.map fun e => credit peer tok e.2.1 e.2.2) hrel.handled
  rw [List.map_map, List.map_map] at hmap
  exact congrArg List.sum hmap

theorem fair_of_served (hinv : Inv parse s) {t : Requests.Abstract}
    (ht : RemoteCall.system.Reachable t) (hrel : Requests.Refines s.net t)
    {e : Requests.CallId × RemoteCall.Call PeerId (OrcaNetRequest F64) ×
      Option (OrcaNetResponse F64)} (he : e ∈ t.served) : Fair e.2.1.request := by
  have hstage := ((RemoteCall.logged_of_reachable ht).served e.1 e.2.1 e.2.2).mp he
  obtain ⟨ticket, hticket, -, hcall⟩ := hrel.ledger.ticket_of_served hstage
  obtain ⟨c, hc, rfl⟩ := List.mem_map.mp hticket
  rw [← hcall]
  exact hinv.calls c hc

theorem credited_nonneg (hinv : Inv parse s) (peer : PeerId) (tok : String) :
    0 ≤ credited s.net peer tok := by
  obtain ⟨t, ht, hrel⟩ := hinv.linked.calls
  rw [credited_eq hrel]
  refine List.sum_nonneg fun a ha => ?_
  obtain ⟨e, he, rfl⟩ := List.mem_map.mp ha
  exact credit_nonneg (fair_of_served hinv ht hrel he) peer tok e.2.2

/-- Every credit is a notification that was sent off, counted once. -/
theorem credited_le_issued (hinv : Inv parse s) (peer : PeerId) (tok : String) :
    credited s.net peer tok ≤ (s.issued.map fun i => due peer tok i.peer i.request).sum := by
  obtain ⟨t, ht, hrel⟩ := hinv.linked.calls
  have houtbox : 0 ≤ (s.outbox.map fun cmd => due peer tok cmd.peer cmd.request).sum := by
    refine List.sum_nonneg fun a ha => ?_
    obtain ⟨cmd, hcmd, rfl⟩ := List.mem_map.mp ha
    exact due_nonneg (hinv.outbox cmd hcmd) peer tok cmd.peer
  calc credited s.net peer tok
      = (t.served.map fun e => credit peer tok e.2.1 e.2.2).sum := credited_eq hrel peer tok
    _ ≤ (t.served.map fun e => due peer tok e.2.1.peer e.2.1.request).sum :=
        List.sum_le_sum fun e he => credit_le (fair_of_served hinv ht hrel he) peer tok e.2.2
    _ ≤ ((s.net.calls.map Requests.Call.ticket).map fun c =>
          due peer tok c.call.peer c.call.request).sum := by
        refine hrel.ledger.sum_served_le (RemoteCall.logged_of_reachable ht)
          (fun c => due peer tok c.peer c.request) fun ticket hticket => ?_
        obtain ⟨c, hc, rfl⟩ := List.mem_map.mp hticket
        exact due_nonneg (hinv.calls c hc) peer tok c.peer
    _ = (s.net.calls.map fun c => due peer tok c.peer c.request).sum := by
        rw [List.map_map]
        rfl
    _ ≤ (s.issued.map fun i => due peer tok i.peer i.request).sum := by
        rw [← hinv.conserved peer tok]
        exact le_add_of_nonneg_right houtbox

/-- What was sent off for a token was sent off for its session. -/
theorem due_le_sent (hinv : Inv parse s) {o : Opened} (ho : o ∈ s.opened) :
    (s.issued.map fun i => due o.call.peer o.auth_token i.peer i.request).sum ≤
      sent s.issued o.call.caller o.session_id := by
  refine List.sum_le_sum fun i hi => ?_
  obtain ⟨client_id, tok, n, hrequest, hamount, o', ho', hcaller, hsid, hpeer, htok⟩ :=
    hinv.issued i hi
  have hfair : Fair i.request := (hinv.issued i hi).fair
  by_cases hown : i.peer = o.call.peer ∧ tok = o.auth_token
  · -- the token tells the session
    obtain rfl := hinv.linked.unique ho' ho (hpeer.trans hown.1) (htok.trans hown.2)
    rw [if_pos ⟨hcaller.symm, hsid.symm⟩, due, if_pos hown.1]
    exact paid_le hfair _
  · have hzero : due o.call.peer o.auth_token i.peer i.request = 0 := by
      rw [due, hrequest, paid]
      by_cases hp : i.peer = o.call.peer
      · rw [if_pos hp, if_neg fun heq => hown ⟨hp, heq⟩]
      · rw [if_neg hp]
    rw [hzero]
    split
    · exact hfair
    · exact le_refl 0

/-- What was acknowledged was credited. -/
theorem acknowledged_le_credited (hinv : Inv parse s) {peer : PeerId} {tok : String}
    {calls : List Requests.Call} (hnodup : calls.Nodup)
    (hcalls : ∀ c ∈ calls, Acknowledged s.net peer tok c) :
    (calls.map fun c => Protocol.amount_transferred c.request).sum ≤ credited s.net peer tok := by
  obtain ⟨t, ht, hrel⟩ := hinv.linked.calls
  have hle := hrel.ledger.sum_returned_le (RemoteCall.logged_of_reachable ht)
    (hnodup.map fun _ _ => Requests.Call.ticket_injective) (some .NullResponse)
    (fun ticket hticket => ?_) (credit peer tok)
    fun e he => credit_nonneg (fair_of_served hinv ht hrel he) peer tok e.2.2
  · rw [← credited_eq hrel, List.map_map] at hle
    refine le_trans (le_of_eq (congrArg List.sum (List.map_congr_left fun c hc => ?_))) hle
    obtain ⟨-, hpeer, ⟨client_id, n, hrequest⟩, -⟩ := hcalls c hc
    simp [Requests.Call.ticket, Requests.Call.abstract, credit, due, paid, hpeer, hrequest,
      Protocol.amount_transferred]
  · obtain ⟨c, hc, rfl⟩ := List.mem_map.mp hticket
    exact ⟨List.mem_map_of_mem (hcalls c hc).call, _, (hcalls c hc).returned, rfl⟩

/-- The rows of a session at its two ends, and what their totals say. -/
structure Settled (s : State) (o : Opened) (x : ProxySessionInfo) (r : ProxyClientInfo) :
    Prop where
  session : x ∈ (s.net.node o.call.caller).handler.db.proxy_sessions.rows ∧
    x.session_id = o.session_id
  client : r ∈ (s.net.node o.call.peer).handler.db.proxy_clients.rows ∧
    r.client_id = x.client_id ∧ r.auth_token = x.auth_token
  sent : x.total_fee_sent_unconfirmed = sent s.issued o.call.caller o.session_id
  acknowledged : ∀ calls : List Requests.Call, calls.Nodup →
    (∀ c ∈ calls, Acknowledged s.net o.call.peer r.auth_token c) →
      (calls.map fun c => Protocol.amount_transferred c.request).sum ≤
        r.total_fee_received_unconfirmed
  received : r.total_fee_received_unconfirmed ≤ x.total_fee_sent_unconfirmed

theorem settled_of_inv (hinv : Inv parse s) {o : Opened} (ho : o ∈ s.opened) :
    ∃ x r, Settled s o x r := by
  obtain ⟨t, ht, hrel⟩ := hinv.linked.calls
  obtain ⟨hc, hgot⟩ := hinv.linked.got o ho
  obtain ⟨x, hx, hof⟩ := hinv.linked.stored o ho
  obtain ⟨e, he, -, hpeer, -, hopens, -, -, hid, htok⟩ := Requests.handled_of_got ht hrel hc hgot
  obtain ⟨r, hr, kb, amount, hkept⟩ := hinv.linked.clients.rows e he hopens
  have hrid : r.client_id = o.client_id := by rw [hkept, hid]
  have hrtok : r.auth_token = o.auth_token := by rw [hkept, htok]
  rw [hpeer] at hr
  have hsent := hinv.totals o.call.caller x hx
  have hreceived := hinv.accounts.rows o.call.peer r hr
  rw [hof.session_id] at hsent
  refine ⟨x, r, ⟨hx, hof.session_id⟩,
    ⟨hr, hrid.trans hof.client_id.symm, hrtok.trans hof.auth_token.symm⟩, hsent,
    fun calls hnodup hcalls => ?_, ?_⟩
  · rw [hreceived]
    exact acknowledged_le_credited hinv hnodup hcalls
  · calc r.total_fee_received_unconfirmed
        = credited s.net o.call.peer o.auth_token := by rw [hreceived, hrtok]
      _ ≤ (s.issued.map fun i => due o.call.peer o.auth_token i.peer i.request).sum :=
          credited_le_issued hinv o.call.peer o.auth_token
      _ ≤ PaymentNetwork.sent s.issued o.call.caller o.session_id := due_le_sent hinv ho
      _ = x.total_fee_sent_unconfirmed := hsent.symm

/-- **Ledgers of the network.**  In every reachable state of any number of
    nodes and payment loops, a session that was stored has its row at the client
    and its row at the provider.  The client's total is the sum of the
    notifications its loops sent off; the provider's is at least the sum of any
    notifications it acknowledged, and at most the client's. -/
theorem network_ledgers (parse : String → Option PeerId) (s : State)
    (h : (system parse).Reachable s) : ∀ o ∈ s.opened, ∃ x r, Settled s o x r :=
  fun _ ho => settled_of_inv (inv_of_reachable h) ho

end ledgers

/-- The nodes before anything happened; every loop is for the session `session`. -/
def quietNetwork : State where
  net := Requests.idleNetwork
  loop := fun _ => ⟨"session", .idle, none⟩
  outbox := []
  issued := []
  opened := []

/-- The way of a request from the network loop of its caller to the answer. -/
def exchange (request : OrcaNetRequest F64) (response : OrcaNetResponse F64) (n : ℕ) : List Label :=
  let env : HandlerEnv := { HandlerEnv.working with new_oneshot := n }
  let wake (p : PeerId) (w : NetworkEventLoop.Wake) : Label :=
    .network ⟨p, .network w (fun _ => true) env, n⟩
  [wake ⟨"peer"⟩ (.swarm_event (.Request ⟨"caller"⟩ request n)),
   .network ⟨⟨"peer"⟩, .take_event env, 0⟩, .network ⟨⟨"peer"⟩, .handle env, 0⟩,
   .network ⟨⟨"peer"⟩, .take_command sampleSwarm (fun _ => true) env, 0⟩,
   wake ⟨"caller"⟩ (.swarm_event (.Response n response))]

/-- A session is opened and the client counts data. -/
def sessionRun : List Label :=
  [.network ⟨⟨"caller"⟩, .network (.command
      (NetworkClient.send_request ⟨"peer"⟩ .HTTPProxyProvideRequest 4)
      sampleSwarm) (fun _ => true) .working, 0⟩] ++
    exchange .HTTPProxyProvideRequest (.HTTPProxyProvideResponse
      (RequestHandlerLoop.proxy_metadata OrcaNetConfig.sampleConfig) "uuid" "uuid") 4 ++
    [.connect (⟨"caller"⟩, 4) (.working fun _ => "session") none "peer",
      .client_data ⟨"caller"⟩ "session" 4]

/-- The client asks what it owes, pays the amount and notifies the provider. -/
def paymentRun (amount : F64) : List Label :=
  let caller : PeerId := ⟨"caller"⟩
  let env : Env := .working fun _ => "session"
  let ask : OrcaNetRequest F64 := .HTTPProxyPrePaymentRequest "uuid" "uuid" 4 4
  let notify : OrcaNetRequest F64 := .HTTPProxyPostPaymentNotification "uuid" "uuid"
    ⟨"address", "address", amount, "tx", "uuid"⟩
  let take (request : OrcaNetRequest F64) (n : ℕ) : Label :=
    .take_command ⟨(caller, 0), ⟨"peer"⟩, request⟩ n
      { sampleSwarm with send_request := n } (fun _ => true) .working
  let pay (ev : Event) : Label := .payment (caller, 0) env ev
  [pay .tick, take ask 5] ++
    exchange ask (.HTTPProxyPrePaymentResponse amount amount
      (.Accepted ⟨amount, "uuid", "address"⟩)) 5 ++
    [.answer (caller, 0) env, pay (.send_to_address_result (.ok "tx")), pay .insert_payment_info,
      pay .update_total_fee_sent_unconfirmed, take notify 6] ++
    exchange notify .NullResponse 6 ++ [.answer (caller, 0) env]

/-- The provider counts the data too. -/
def paidRun : List Label :=
  sessionRun ++ [.provider_data ⟨"peer"⟩ "uuid" 4] ++ paymentRun 4

theorem paidRun_isSome :
    ((system fun id => some ⟨id⟩).run quietNetwork paidRun).isSome := by with_unfolding_all rfl

def paidNetwork : State :=
  ((system fun id => some ⟨id⟩).run quietNetwork paidRun).get paidRun_isSome

theorem init_quietNetwork : Init quietNetwork where
  net := ⟨fun _ => ⟨⟨rfl, rfl⟩, rfl⟩, fun _ => rfl, fun _ => rfl, fun _ => rfl, rfl, rfl, rfl, rfl⟩
  clients _ := rfl
  sessions _ := rfl
  idle _ := ⟨rfl, rfl⟩
  outbox := rfl
  issued := rfl
  opened := rfl

theorem reachable_paidNetwork : (system fun id => some ⟨id⟩).Reachable paidNetwork :=
  .run paidRun (.init init_quietNetwork) (Option.some_get paidRun_isSome).symm

/-- The two totals after the payment. -/
theorem network_ledgers_paidNetwork :
    ∃ o ∈ paidNetwork.opened, ∃ x r, Settled paidNetwork o x r ∧
      x.total_fee_sent_unconfirmed = 4 := by
  have hmem : ∃ o, paidNetwork.opened = [o] ∧
      sent paidNetwork.issued o.call.caller o.session_id = 4 :=
    ⟨_, by with_unfolding_all rfl, by with_unfolding_all rfl⟩
  obtain ⟨o, ho, hsent⟩ := hmem
  have hopened : o ∈ paidNetwork.opened := ho ▸ List.mem_singleton_self o
  obtain ⟨x, r, hsettled⟩ := network_ledgers _ paidNetwork reachable_paidNetwork o hopened
  exact ⟨o, hopened, x, r, hsettled, hsettled.sent.trans hsent⟩

end PaymentNetwork

end OrcaNet
