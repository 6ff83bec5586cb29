import OrcaNet.Framework.TransferLedger
import OrcaNet.Payments.Provider
import OrcaNet.Proxy.ProxyPayment

/-! # The payment protocol

    One client and one provider, both running this code, with the messages
    between them.  A pre-payment request is handled or lost while the client
    waits for its answer; notifications are delayed arbitrarily or lost, and
    none is duplicated.  Every external call of the client may fail, the
    database of the provider works and its uuids are new.

    * Section 2 maps a state to an abstract transfer ledger, whose rules relate
      the two totals.
    * Section 3 is the joint invariant: what the client knows in each phase,
      and what the messages in flight say. -/

namespace OrcaNet

open Transition RequestHandlerLoop ProxyPaymentLoop OrcaNetConfig

namespace Protocol

/-! ## Section 1: System -/

structure State where
  client : Database
  phase : Phase
  provider : Database
  /-- The pre-payment request on its way. -/
  request : Option (OrcaNetRequest F64)
  /-- The answer on its way back. -/
  answer : Option (OrcaNetResponse F64)
  /-- Notifications on their way. -/
  notifications : Multiset (OrcaNetRequest F64)
  lost : Multiset (OrcaNetRequest F64)

inductive Label where
  | payment (cfg : OrcaNetConfig) (env : Env) (ev : Event)
  | client_data (kb : F64)
  | provider_data (client_id : String) (kb : F64)
  | handle_request (cfg : OrcaNetConfig) (env : Env) (from_peer : PeerId)
  | lose_request
  | deliver (cfg : OrcaNetConfig) (env : Env) (from_peer : PeerId) (req : OrcaNetRequest F64)
  | lose (req : OrcaNetRequest F64)

/-- A call to the network puts its message on the way; the wallet is outside. -/
def send (s : State) : Call → State
  | .send_request _ (.HTTPProxyPrePaymentRequest client_id tok data fee) =>
    { s with request := some (.HTTPProxyPrePaymentRequest client_id tok data fee) }
  | .send_request _ req => { s with notifications := req ::ₘ s.notifications }
  | .send_to_address _ _ => s

/-- The result of a pre-payment request is its answer, or a failure, which also
    ends the exchange. -/
def receive (s : State) : Event → Option State
  | .pre_payment_result (.ok resp) =>
    if s.answer = some resp then some { s with request := none, answer := none } else none
  | .pre_payment_result (.error _) => some { s with request := none, answer := none }
  | _ => some s

section next
variable (session_id auth_token : String)

def session (s : State) : Option ProxySessionInfo :=
  s.client.proxy_sessions.find ProxySessionInfo.session_id session_id

def account (s : State) : Option ProxyClientInfo :=
  s.provider.proxy_clients.find ProxyClientInfo.auth_token auth_token

def next (s : State) : Label → Option State
  | .payment cfg env ev =>
    match receive s ev, process_payment cfg env session_id s.client s.phase ev with
    | some s, some o => some (o.calls.foldl send { s with client := o.db, phase := o.phase })
    | _, _ => none
  | .client_data kb =>
    -- the provider records data no later than the client
    match session session_id s, account auth_token s with
    | some si, some ci =>
      if 0 ≤ kb ∧ si.data_transferred_kb + kb ≤ ci.data_transferred_kb then
        some { s with
          client := ProxySessionsTable.update_data_transfer_info session_id kb s.client }
      else none
    | _, _ => none
  | .provider_data client_id kb =>
    if 0 ≤ kb then
      some { s with
        provider := ProxyClientsTable.update_data_transfer_info client_id kb s.provider }
    else none
  | .handle_request cfg env from_peer =>
    match s.request with
    | some req =>
      if s.provider.payments.find PaymentInfo.payment_id (env.new_uuid 0) = none then
        let res := RequestHandlerLoop.handle_request cfg env.without_faults req from_peer s.provider
        some { s with provider := final res, request := none, answer := response res }
      else none
    | none => none
  | .lose_request => some { s with request := none, answer := none }
  | .deliver cfg env from_peer req =>
    if req ∈ s.notifications then
      let res := RequestHandlerLoop.handle_request cfg env.without_faults req from_peer s.provider
      some { s with provider := final res, notifications := s.notifications.erase req }
    else none
  | .lose req =>
    if req ∈ s.notifications then
      some { s with notifications := s.notifications.erase req, lost := req ::ₘ s.lost }
    else none

/-- A session and its client row before the first payment: the same rate, no
    payments, and no data that only the client has recorded. -/
structure NewSession (si : ProxySessionInfo) (ci : ProxyClientInfo) : Prop where
  token : si.auth_token = ci.auth_token
  rate : si.fee_rate_per_kb = ci.fee_rate_per_kb
  rate_nonneg : 0 ≤ si.fee_rate_per_kb
  fee_sent : si.total_fee_sent = 0 ∧ si.total_fee_sent_unconfirmed = 0
  fee_received : ci.total_fee_received = 0 ∧ ci.total_fee_received_unconfirmed = 0
  data_nonneg : 0 ≤ si.data_transferred_kb
  data_le : si.data_transferred_kb ≤ ci.data_transferred_kb

structure Init (s : State) : Prop where
  rows : ∃ si ci, session session_id s = some si ∧ account auth_token s = some ci ∧
    NewSession si ci
  phase : s.phase = .idle
  request : s.request = none
  answer : s.answer = none
  notifications : s.notifications = 0
  lost : s.lost = 0

def system : System State Label where
  init := Init session_id auth_token
  next := next session_id auth_token

end next

/-! ## Section 2: The transfer ledger -/

/-- The amount a notification states. -/
def amount_transferred : OrcaNetRequest F64 → F64
  | .HTTPProxyPostPaymentNotification _ _ n => n.amount_transferred
  | _ => 0

/-- The totals of the two rows as a transfer ledger. -/
def ledger (s : State) (si : ProxySessionInfo) (ci : ProxyClientInfo) :
    TransferLedger.State F64 where
  sent := si.total_fee_sent_unconfirmed
  received := ci.total_fee_received_unconfirmed
  flight := s.notifications.map amount_transferred
  lost := s.lost.map amount_transferred

/-! ## Section 3: The joint invariant -/

/-- A session row `x`, read now or earlier in this payment, against the rows
    now: it claims no more data and counts no fewer payments. -/
structure Snapshot (x si : ProxySessionInfo) (ci : ProxyClientInfo) : Prop where
  token : x.auth_token = ci.auth_token
  rate : x.fee_rate_per_kb = ci.fee_rate_per_kb
  rate_nonneg : 0 ≤ x.fee_rate_per_kb
  confirmed : ci.total_fee_received ≤ x.total_fee_sent
  unconfirmed : x.total_fee_sent_unconfirmed = si.total_fee_sent_unconfirmed
  data_nonneg : 0 ≤ x.data_transferred_kb
  data_le : x.data_transferred_kb ≤ ci.data_transferred_kb

/-- The provider asked for the amount, under a reference it has a row for. -/
structure Payable (provider : Database) (amount : F64) (payment_reference : String) : Prop where
  nonneg : 0 ≤ amount
  row : ∃ r, provider.payments.find PaymentInfo.payment_id payment_reference = some r

/-- What the locals of a payment say. -/
def PhaseOk (provider : Database) (si : ProxySessionInfo) (ci : ProxyClientInfo) : Phase → Prop
  | .pre_payment_step loc => Snapshot loc.session_info si ci
  | .send_to_address loc pr
  | .insert_payment_info loc pr _
  | .update_total_fee_sent_unconfirmed loc pr _ =>
    loc.session_info.auth_token = ci.auth_token ∧
      Payable provider pr.amount_to_send pr.payment_reference
  | _ => True

/-- A notification that the provider can credit. -/
def Creditable (provider : Database) (auth_token : String) (req : OrcaNetRequest F64) : Prop :=
  ∃ client_id n, req = .HTTPProxyPostPaymentNotification client_id auth_token n ∧
    Payable provider n.amount_transferred n.payment_reference

structure Inv (session_id auth_token : String) (s : State) (si : ProxySessionInfo)
    (ci : ProxyClientInfo) : Prop where
  session : session session_id s = some si
  account : account auth_token s = some ci
  current : Snapshot si si ci
  phase : PhaseOk s.provider si ci s.phase
  request : ∀ req, s.request = some req →
    ∃ loc, s.phase = .pre_payment_step loc ∧ req = pre_payment_request loc.session_info
  answer : ∀ d f pr, s.answer = some (.HTTPProxyPrePaymentResponse d f (.Accepted pr)) →
    Payable s.provider pr.amount_to_send pr.payment_reference
  notifications : ∀ req ∈ s.notifications, Creditable s.provider auth_token req
  balanced : TransferLedger.system.Reachable (ledger s si ci)

section rules

variable {sid tok : String} {s s' : State} {si si' : ProxySessionInfo} {ci ci' : ProxyClientInfo}
  {db db' : Database}

theorem Snapshot.fee_le {x : ProxySessionInfo} (h : Snapshot x si ci)
    (hle : ci.total_fee_received_unconfirmed ≤ si.total_fee_sent_unconfirmed) :
    x.get_fee_owed ≤ ci.get_fee_owed :=
  ProxySessionInfo.get_fee_owed_le h.rate h.rate_nonneg h.data_le h.confirmed (h.unconfirmed ▸ hle)

/-- The claims of a snapshot are within the termination threshold. -/
theorem Snapshot.within {x : ProxySessionInfo} (h : Snapshot x si ci)
    (hle : ci.total_fee_received_unconfirmed ≤ si.total_fee_sent_unconfirmed) :
    ¬ OverThreshold ci x.data_transferred_kb x.get_fee_owed := by
  -- both claims lie between zero and the provider's own values
  have hfee := Utils.get_percent_diff_le x.get_fee_owed_nonneg (h.fee_le hle)
  have hdata := Utils.get_percent_diff_le h.data_nonneg h.data_le
  unfold OverThreshold PROXY_TERMINATION_PD_THRESHOLD
  rintro (hover | hover) <;> linarith

theorem Payable.of_effect {cfg : OrcaNetConfig} {env : Env} {peer : PeerId}
    {req : OrcaNetRequest F64} {resp : Option (OrcaNetResponse F64)} {amount : F64}
    {reference : String} (h : Payable db amount reference)
    (heff : Effect cfg env peer db req resp db') : Payable db' amount reference := by
  obtain ⟨hnonneg, r, hr⟩ := h
  obtain ⟨r', hr', -⟩ := Provider.find_payment_of_effect heff hr
  exact ⟨hnonneg, r', hr'⟩

/-- What holds of the locals is kept when the rows only move on. -/
theorem PhaseOk.mono {ph : Phase} (h : PhaseOk db si ci ph)
    (hsnap : ∀ x, Snapshot x si ci → Snapshot x si' ci')
    (htok : ci'.auth_token = ci.auth_token)
    (hpay : ∀ amount reference, Payable db amount reference → Payable db' amount reference) :
    PhaseOk db' si' ci' ph := by
  cases ph with
  | pre_payment_step loc => exact hsnap _ h
  | send_to_address loc pr => exact ⟨h.1.trans htok.symm, hpay _ _ h.2⟩
  | insert_payment_info loc pr tx_id => exact ⟨h.1.trans htok.symm, hpay _ _ h.2⟩
  | update_total_fee_sent_unconfirmed loc pr tx_id => exact ⟨h.1.trans htok.symm, hpay _ _ h.2⟩
  | _ => trivial

theorem Inv.received_le (hinv : Inv sid tok s si ci) :
    ci.total_fee_received_unconfirmed ≤ si.total_fee_sent_unconfirmed :=
  TransferLedger.received_le_sent hinv.balanced

theorem Inv.token (hinv : Inv sid tok s si ci) : ci.auth_token = tok :=
  (Table.find_mem hinv.account).2

/-- No request is on its way unless the client waits for its answer. -/
theorem Inv.request_none (hinv : Inv sid tok s si ci)
    (h : ∀ loc, s.phase ≠ .pre_payment_step loc) : s.request = none := by
  cases hreq : s.request with
  | none => rfl
  | some req =>
    obtain ⟨loc, hloc, -⟩ := hinv.request req hreq
    exact absurd hloc (h loc)

/-- Losing the exchange keeps the invariant. -/
theorem Inv.clear (hinv : Inv sid tok s si ci) :
    Inv sid tok { s with request := none, answer := none } si ci :=
  { hinv with
    request := fun _ h => by cases h
    answer := fun _ _ _ h => by cases h }

/-- A segment that leaves the session rows alone and has no request on its way. -/
theorem Inv.advance (hinv : Inv sid tok s si ci) (hreq : s.request = none) (client : Database)
    (ph : Phase) (hclient : client.proxy_sessions = s.client.proxy_sessions)
    (hph : PhaseOk s.provider si ci ph) :
    Inv sid tok { s with client := client, phase := ph } si ci :=
  { hinv with
    session := by
      rw [← hinv.session]
      simp only [Protocol.session, hclient]
    phase := hph
    request := fun req h => by rw [hreq] at h; cases h }

theorem phaseOk_of_quiescent {ph : Phase} (h : Quiescent ph) : PhaseOk db si ci ph := by
  rcases h with rfl | rfl | rfl <;> trivial

theorem creditable_post_payment_notification {cfg : OrcaNetConfig} {loc : Locals}
    {pr : PaymentRequest F64} {tx_id : String} (htok : loc.session_info.auth_token = tok)
    (hpay : Payable db pr.amount_to_send pr.payment_reference) :
    Creditable db tok (post_payment_notification cfg loc pr tx_id) := by
  subst htok
  exact ⟨_, _, rfl, hpay⟩

/-- The notification after a transfer: both the session total and what is in
    flight grow by its amount. -/
theorem inv_updated {cfg : OrcaNetConfig} {loc : Locals} {pr : PaymentRequest F64} {tx_id : String}
    (hinv : Inv sid tok s si ci)
    (hph : s.phase = .update_total_fee_sent_unconfirmed loc pr tx_id) :
    Inv sid tok
      (send { s with client := add_fee_sent s.client sid pr.amount_to_send
                     phase := .post_payment loc pr }
        (.send_request loc.provider_peer (post_payment_notification cfg loc pr tx_id)))
      { si with
        total_fee_sent_unconfirmed := si.total_fee_sent_unconfirmed + pr.amount_to_send } ci := by
  have hreq := hinv.request_none (by simp [hph])
  obtain ⟨htok, hpay⟩ :
      PhaseOk s.provider si ci (.update_total_fee_sent_unconfirmed loc pr tx_id) :=
    hph ▸ hinv.phase
  have hsession := hinv.session
  have hsid := (Table.find_mem hsession).2
  refine
    { session := ?_, account := hinv.account, current := { hinv.current with unconfirmed := rfl },
      phase := trivial, request := fun req h => ?_, answer := hinv.answer,
      notifications := fun req hmem => ?_, balanced := ?_ }
  · simp only [Protocol.session] at hsession
    simp only [Protocol.session, send, post_payment_notification, add_fee_sent]
    rw [Table.find_update (by simp), hsession]
    simp [hsid]
  · rw [show s.request = some req from h] at hreq
    cases hreq
  · rcases Multiset.mem_cons.mp hmem with rfl | hmem
    · exact creditable_post_payment_notification (htok.trans hinv.token) hpay
    · exact hinv.notifications req hmem
  -- one step of the abstract ledger
  · have hledger := TransferLedger.reachable_send hinv.balanced hpay.nonneg
    simpa [ledger, send, post_payment_notification, amount_transferred] using hledger

/-- A segment of the client.  Only the start of a payment and the update of the
    total send something. -/
theorem inv_payment {cfg : OrcaNetConfig} {env : Env} {ev : Event} {o : Outcome} {s₁ : State}
    (hinv : Inv sid tok s si ci) (hrecv : receive s ev = some s₁)
    (hseg : Segment cfg env sid s.client s.phase ev o) :
    ∃ si',
      Inv sid tok (o.calls.foldl send { s₁ with client := o.db, phase := o.phase }) si' ci := by
  obtain ⟨client, phase, provider, request, answer, notifications, lost⟩ := s
  dsimp only at hseg
  cases hseg with
  | cancelled =>
    obtain rfl := Option.some.inj hrecv
    exact ⟨si, hinv.advance (hinv.request_none (by simp)) _ _ rfl trivial⟩
  | not_asked hq =>
    obtain rfl := Option.some.inj hrecv
    exact ⟨si, hinv.advance (hinv.request_none (by simp)) _ _ rfl (phaseOk_of_quiescent hq)⟩
  | @asked info peer hinfo howed =>
    obtain rfl := Option.some.inj hrecv
    -- the row just read is the current one
    obtain rfl := Option.some.inj (hinv.session.symm.trans (first_eq_ok.mp hinfo).2)
    exact ⟨si, { hinv with
      phase := hinv.current
      request := fun req h => ⟨_, rfl, (Option.some.inj h).symm⟩ }⟩
  | @refused loc resp ph hq hresp =>
    have hclear := hinv.clear.advance rfl client ph rfl
      (phaseOk_of_quiescent hq)
    cases resp with
    | error e =>
      obtain rfl := Option.some.inj hrecv
      exact ⟨si, hclear⟩
    | ok r =>
      obtain ⟨-, hs₁⟩ := Option.ite_none_right_eq_some.mp hrecv
      obtain rfl := Option.some.inj hs₁
      exact ⟨si, hclear⟩
  | @accepted loc d f pr =>
    -- the amount comes from an answer that the provider stored a row for
    obtain ⟨hanswer, hs₁⟩ := Option.ite_none_right_eq_some.mp hrecv
    obtain rfl := Option.some.inj hs₁
    have hsnap : Snapshot loc.session_info si ci := hinv.phase
    exact ⟨si, hinv.clear.advance rfl _ _ rfl ⟨hsnap.token, hinv.answer d f pr hanswer⟩⟩
  | not_sent =>
    obtain rfl := Option.some.inj hrecv
    exact ⟨si, hinv.advance (hinv.request_none (by simp)) _ _ rfl trivial⟩
  | sent =>
    obtain rfl := Option.some.inj hrecv
    exact ⟨si, hinv.advance (hinv.request_none (by simp)) _ _ rfl hinv.phase⟩
  | not_inserted hq =>
    obtain rfl := Option.some.inj hrecv
    exact ⟨si, hinv.advance (hinv.request_none (by simp)) _ _ rfl (phaseOk_of_quiescent hq)⟩
  | inserted hsucc hinsert =>
    obtain rfl := Option.some.inj hrecv
    exact ⟨si, hinv.advance (hinv.request_none (by simp)) _ _ rfl hinv.phase⟩
  | not_updated hq =>
    obtain rfl := Option.some.inj hrecv
    exact ⟨si, hinv.advance (hinv.request_none (by simp)) _ _ rfl (phaseOk_of_quiescent hq)⟩
  | updated hsucc =>
    obtain rfl := Option.some.inj hrecv
    -- the total and the notification change together
    exact ⟨_, inv_updated hinv rfl⟩
  | notified =>
    obtain rfl := Option.some.inj hrecv
    exact ⟨si, hinv.advance (hinv.request_none (by simp)) _ _ rfl trivial⟩

theorem inv_client_data {kb : F64} (hinv : Inv sid tok s si ci) (hkb : 0 ≤ kb)
    (hle : si.data_transferred_kb + kb ≤ ci.data_transferred_kb) :
    Inv sid tok
      { s with client := ProxySessionsTable.update_data_transfer_info sid kb s.client }
      { si with data_transferred_kb := si.data_transferred_kb + kb } ci := by
  have hsession := hinv.session
  have hsid := (Table.find_mem hsession).2
  refine { hinv with session := ?_, current := ?_, phase := ?_ }
  · simp only [Protocol.session] at hsession
    simp only [Protocol.session, ProxySessionsTable.update_data_transfer_info]
    rw [Table.find_update (by simp), hsession]
    simp [hsid]
  · exact { hinv.current with
      data_nonneg := add_nonneg hinv.current.data_nonneg hkb
      data_le := hle }
  · exact hinv.phase.mono (fun x h => { h with unconfirmed := h.unconfirmed }) rfl
      fun _ _ h => h

/-- A step of the provider that moves the client row on, keeps what is payable
    and may take notifications out. -/
theorem Inv.provider (hinv : Inv sid tok s si ci) (provider : Database)
    (notifications : Multiset (OrcaNetRequest F64))
    (haccount : provider.proxy_clients.find ProxyClientInfo.auth_token tok = some ci')
    (hsnap : ∀ x, Snapshot x si ci → Snapshot x si ci')
    (hpay : ∀ amount reference, Payable s.provider amount reference →
      Payable provider amount reference)
    (hsub : notifications ≤ s.notifications)
    (hbalanced : TransferLedger.system.Reachable
      (ledger { s with notifications := notifications } si ci')) :
    Inv sid tok { s with provider := provider, notifications := notifications } si ci' where
  session := hinv.session
  account := haccount
  current := hsnap _ hinv.current
  phase := by
    have htok : ci'.auth_token = ci.auth_token :=
      (Table.find_mem haccount).2.trans hinv.token.symm
    exact hinv.phase.mono hsnap htok hpay
  request := hinv.request
  answer := fun d f pr h => hpay _ _ (hinv.answer d f pr h)
  notifications := fun req hmem => by
    obtain ⟨client_id, n, hreq, h⟩ := hinv.notifications req (Multiset.mem_of_le hsub hmem)
    exact ⟨client_id, n, hreq, hpay _ _ h⟩
  balanced := hbalanced

theorem inv_provider_data (client_id : String) {kb : F64} (hinv : Inv sid tok s si ci)
    (hkb : 0 ≤ kb) :
    ∃ ci', Inv sid tok
      { s with provider := ProxyClientsTable.update_data_transfer_info client_id kb s.provider }
      si ci' := by
  have haccount := hinv.account
  simp only [Protocol.account] at haccount
  have hfind : (ProxyClientsTable.update_data_transfer_info client_id kb
      s.provider).proxy_clients.find ProxyClientInfo.auth_token tok =
        some (if ci.client_id = client_id then
          { ci with data_transferred_kb := ci.data_transferred_kb + kb } else ci) := by
    rw [ProxyClientsTable.update_data_transfer_info, Table.find_update (by simp), haccount]
    rfl
  by_cases hid : ci.client_id = client_id
  · rw [if_pos hid] at hfind
    refine ⟨_, hinv.provider _ s.notifications hfind (fun x h => ?_)
      (fun _ _ h => ⟨h.nonneg, h.row⟩) le_rfl hinv.balanced⟩
    exact { h with data_le := h.data_le.trans (le_add_of_nonneg_right hkb) }
  · rw [if_neg hid] at hfind
    exact ⟨ci, hinv.provider _ s.notifications hfind (fun _ h => h)
      (fun _ _ h => ⟨h.nonneg, h.row⟩) le_rfl hinv.balanced⟩

/-- The account as the handlers look it up. -/
theorem Inv.client (hinv : Inv sid tok s si ci) {env : Env} (henv : env.NoFaults) :
    ProxyClientsTable.get_client_by_auth_token env ci.auth_token s.provider = .ok ci := by
  have haccount := hinv.account
  rw [← hinv.token] at haccount
  exact first_eq_ok.mpr ⟨henv _, haccount⟩

/-- The pre-payment request on its way is accepted, under a reference that gets
    its row. -/
theorem Inv.request_accepted (hinv : Inv sid tok s si ci) (cfg : OrcaNetConfig) {env : Env}
    (peer : PeerId) {req : OrcaNetRequest F64} (hreq : s.request = some req)
    (henv : env.NoFaults)
    (hfresh : s.provider.payments.find PaymentInfo.payment_id (env.new_uuid 0) = none) :
    ∃ t, s.provider.payments.insert (reference_row cfg env ci.get_fee_owed peer) = some t ∧
      RequestHandlerLoop.handle_request cfg env req peer s.provider =
        .ok (accepted cfg env ci) { s.provider with payments := t } := by
  obtain ⟨loc, hloc, rfl⟩ := hinv.request req hreq
  have hsnap : Snapshot loc.session_info si ci := by
    have hphase := hinv.phase
    rwa [hloc] at hphase
  have hclient := hinv.client henv
  rw [← hsnap.token] at hclient
  exact pre_payment_accepted _ _ _ ⟨henv _, hclient⟩ ⟨henv _, henv _⟩
    (hsnap.within hinv.received_le) hfresh

theorem inv_handle_request {cfg : OrcaNetConfig} {env : Env} {peer : PeerId}
    {req : OrcaNetRequest F64} (hinv : Inv sid tok s si ci) (hreq : s.request = some req)
    (henv : env.NoFaults)
    (hfresh : s.provider.payments.find PaymentInfo.payment_id (env.new_uuid 0) = none) :
    Inv sid tok
      { s with
        provider := final (RequestHandlerLoop.handle_request cfg env req peer s.provider)
        request := none
        answer := response (RequestHandlerLoop.handle_request cfg env req peer s.provider) }
      si ci := by
  obtain ⟨t, ht, hrun⟩ := hinv.request_accepted cfg peer hreq henv hfresh
  rw [hrun]
  have hpay : ∀ amount reference, Payable s.provider amount reference →
      Payable { s.provider with payments := t } amount reference := by
    rintro amount reference ⟨hnonneg, r, hr⟩
    exact ⟨hnonneg, r, Table.find_insert_of_some ht hr⟩
  have hprov := hinv.provider { s.provider with payments := t } s.notifications hinv.account
    (fun _ h => h) hpay le_rfl hinv.balanced
  refine { hprov.clear with answer := fun d f pr h => ?_ }
  cases h
  exact ⟨ci.get_fee_owed_nonneg, _, Table.find_insert_self ht (by simp)⟩

/-- A delivered notification is credited: the amount moves from what is in
    flight to the total received. -/
theorem inv_deliver (cfg : OrcaNetConfig) {env : Env} (peer : PeerId)
    {req : OrcaNetRequest F64} (hinv : Inv sid tok s si ci) (hmem : req ∈ s.notifications)
    (henv : env.NoFaults) :
    ∃ ci', Inv sid tok
      { s with
        provider := final (RequestHandlerLoop.handle_request cfg env req peer s.provider)
        notifications := s.notifications.erase req } si ci' := by
  obtain ⟨client_id, n, rfl, hpay⟩ := hinv.notifications req hmem
  obtain ⟨r, hr⟩ := hpay.row
  have hclient := hinv.client henv
  rw [hinv.token] at hclient
  -- the token and the reference are known, so nothing stops the credit
  have hconfirm : Confirms env s.provider tok n ci r :=
    ⟨henv _, hclient, henv _, first_eq_ok.mpr ⟨henv _, hr⟩, henv _⟩
  have hrun := notification_credited cfg peer client_id hconfirm (henv _)
  have heff := handle_request_effect cfg env peer s.provider
    (.HTTPProxyPostPaymentNotification client_id tok n)
  refine ⟨{ ci with
      total_fee_received_unconfirmed := ci.total_fee_received_unconfirmed + n.amount_transferred },
    hinv.provider _ _ ?_ (fun x h => { h with }) (fun _ _ h => h.of_effect heff)
      (Multiset.erase_le _ _) ?_⟩
  · have haccount := hinv.account
    simp only [Protocol.account] at haccount
    rw [hrun, final_ok, credit_client, Table.find_update (by simp)]
    simp [confirm_payment, haccount]
  -- the abstract ledger delivers the same amount
  · have hledger := TransferLedger.reachable_deliver hinv.balanced
      (a := n.amount_transferred) (Multiset.mem_map_of_mem amount_transferred hmem)
    simp only [ledger] at hledger ⊢
    rwa [Multiset.map_erase_of_mem _ _ hmem]

theorem inv_lose {req : OrcaNetRequest F64} (hinv : Inv sid tok s si ci)
    (hmem : req ∈ s.notifications) :
    Inv sid tok { s with notifications := s.notifications.erase req, lost := req ::ₘ s.lost }
      si ci := by
  refine { hinv with
    notifications := fun x hx => hinv.notifications x (Multiset.mem_of_mem_erase hx)
    balanced := ?_ }
  have hledger := TransferLedger.reachable_lose hinv.balanced
    (Multiset.mem_map_of_mem amount_transferred hmem)
  simp only [ledger] at hledger ⊢
  rwa [Multiset.map_erase_of_mem _ _ hmem, Multiset.map_cons]

theorem inv_step {l : Label} (hinv : Inv sid tok s si ci) (hnext : next sid tok s l = some s') :
    ∃ si' ci', Inv sid tok s' si' ci' := by
  cases l with
  | payment cfg env ev =>
    simp only [next] at hnext
    split at hnext
    · rename_i s₁ o hrecv ho
      obtain rfl := Option.some.inj hnext
      obtain ⟨si', hinv'⟩ := inv_payment hinv hrecv (process_payment_segment ho)
      exact ⟨si', ci, hinv'⟩
    · cases hnext
  | client_data kb =>
    simp only [next, hinv.session, hinv.account] at hnext
    obtain ⟨⟨hkb, hle⟩, heq⟩ := Option.ite_none_right_eq_some.mp hnext
    obtain rfl := Option.some.inj heq
    exact ⟨_, ci, inv_client_data hinv hkb hle⟩
  | provider_data client_id kb =>
    obtain ⟨hkb, heq⟩ := Option.ite_none_right_eq_some.mp hnext
    obtain rfl := Option.some.inj heq
    obtain ⟨ci', hinv'⟩ := inv_provider_data client_id hinv hkb
    exact ⟨si, ci', hinv'⟩
  | handle_request cfg env peer =>
    simp only [next] at hnext
    split at hnext
    · rename_i req hreq
      obtain ⟨hfresh, heq⟩ := Option.ite_none_right_eq_some.mp hnext
      obtain rfl := Option.some.inj heq
      -- the provider records a payment to expect; no account changes
      exact ⟨si, ci, inv_handle_request hinv hreq env.noFaults_without_faults hfresh⟩
    · cases hnext
  | lose_request =>
    obtain rfl := Option.some.inj hnext
    exact ⟨si, ci, hinv.clear⟩
  | deliver cfg env peer req =>
    obtain ⟨hmem, heq⟩ := Option.ite_none_right_eq_some.mp hnext
    obtain rfl := Option.some.inj heq
    obtain ⟨ci', hinv'⟩ := inv_deliver cfg peer hinv hmem
      env.noFaults_without_faults
    exact ⟨si, ci', hinv'⟩
  | lose req =>
    obtain ⟨hmem, heq⟩ := Option.ite_none_right_eq_some.mp hnext
    obtain rfl := Option.some.inj heq
    exact ⟨si, ci, inv_lose hinv hmem⟩

theorem inv_of_init (h : Init sid tok s) : ∃ si ci, Inv sid tok s si ci := by
  obtain ⟨si, ci, hsession, haccount, hnew⟩ := h.rows
  refine ⟨si, ci,
    { session := hsession, account := haccount, current := ?_, phase := ?_, request := ?_,
      answer := ?_, notifications := ?_, balanced := ?_ }⟩
  · exact ⟨hnew.token, hnew.rate, hnew.rate_nonneg,
      (hnew.fee_received.1.trans hnew.fee_sent.1.symm).le, rfl, hnew.data_nonneg, hnew.data_le⟩
  · rw [h.phase]; trivial
  · simp [h.request]
  · simp [h.answer]
  · simp [h.notifications]
  · refine .init ⟨?_, ?_, ?_⟩
    · exact hnew.fee_sent.2.trans hnew.fee_received.2.symm
    · simp [ledger, h.notifications]
    · simp [ledger, h.lost]

theorem inv_of_reachable (h : (system sid tok).Reachable s) : ∃ si ci, Inv sid tok s si ci := by
  refine System.Reachable.invariant (J := fun t => ∃ si ci, Inv sid tok t si ci) ?_ ?_ h
  · exact fun t hinit => inv_of_init hinit
  · rintro t l t' _ ⟨si, ci, hinv⟩ hnext
    exact inv_step hinv hnext

end rules

/-! ## Section 4: Agreement of the two ledgers -/

/-- **Ledger agreement.**  In every reachable state the session counts as sent
    what the provider counts as received and the notifications that are in
    flight or lost; a pre-payment request on its way claims no more fee and data
    than the provider's own; and handling it is answered with a reference that
    has its row. -/
theorem ledgers_agree (session_id auth_token : String) (s : State)
    (h : (system session_id auth_token).Reachable s) :
    ∃ si ci, session session_id s = some si ∧ account auth_token s = some ci ∧
      si.total_fee_sent_unconfirmed = ci.total_fee_received_unconfirmed
        + (s.notifications.map amount_transferred).sum + (s.lost.map amount_transferred).sum ∧
      ∀ req, s.request = some req →
        (∃ client_id data fee,
          req = .HTTPProxyPrePaymentRequest client_id auth_token data fee ∧
            fee ≤ ci.get_fee_owed ∧ data ≤ ci.data_transferred_kb) ∧
        ∀ cfg env peer, env.NoFaults →
          s.provider.payments.find PaymentInfo.payment_id (env.new_uuid 0) = none →
          ∃ db, RequestHandlerLoop.handle_request cfg env req peer s.provider =
              .ok (accepted cfg env ci) db ∧
            db.payments.find PaymentInfo.payment_id (env.new_uuid 0) =
              some (reference_row cfg env ci.get_fee_owed peer) := by
  obtain ⟨si, ci, hinv⟩ := inv_of_reachable h
  refine ⟨si, ci, hinv.session, hinv.account,
    (TransferLedger.balanced_of_reachable hinv.balanced).conserved, fun req hreq => ⟨?_, ?_⟩⟩
  · obtain ⟨loc, hloc, rfl⟩ := hinv.request req hreq
    -- the request was made from a snapshot of the session that is not newer than now
    have hsnap : Snapshot loc.session_info si ci := by
      have hphase := hinv.phase
      rwa [hloc] at hphase
    refine ⟨loc.session_info.client_id, _, _, ?_, hsnap.fee_le hinv.received_le, hsnap.data_le⟩
    rw [pre_payment_request, hsnap.token, hinv.token]
  · intro cfg env peer henv hfresh
    obtain ⟨t, ht, hrun⟩ := hinv.request_accepted cfg peer hreq henv hfresh
    exact ⟨_, hrun, Table.find_insert_self ht (by simp)⟩

/-- Two kilobytes are used and paid, the notification is delayed, and two more
    kilobytes are used before the next payment asks. -/
def delayedRun : List Label :=
  [.payment sampleConfig (.working fun _ => "send") .tick,
   .handle_request sampleConfig (.working fun _ => "reference") ⟨"client peer"⟩,
   .payment sampleConfig (.working fun _ => "send")
     (.pre_payment_result (.ok (.HTTPProxyPrePaymentResponse 2 2
       (.Accepted ⟨2, "reference", "address"⟩)))),
   .payment sampleConfig (.working fun _ => "send") (.send_to_address_result (.ok "tx")),
   .payment sampleConfig (.working fun _ => "send") .insert_payment_info,
   .payment sampleConfig (.working fun _ => "send") .update_total_fee_sent_unconfirmed,
   .payment sampleConfig (.working fun _ => "send") (.post_payment_result (.error "timeout")),
   .provider_data "client" 2,
   .client_data 2,
   .payment sampleConfig (.working fun _ => "send") .tick]

def newProtocol : State where
  client := { Database.empty with proxy_sessions := ⟨[sampleSession 2 0], by simp⟩ }
  phase := .idle
  provider := { Database.empty with
    proxy_clients := ⟨[{ ProxyClientInfo.with_defaults "client" "token" "client peer" 0 1 with
      data_transferred_kb := 2 }], by simp⟩ }
  request := none
  answer := none
  notifications := 0
  lost := 0

theorem init_newProtocol : Init "session" "token" newProtocol where
  rows := ⟨sampleSession 2 0,
    { ProxyClientInfo.with_defaults "client" "token" "client peer" 0 1 with
      data_transferred_kb := 2 }, rfl, rfl,
    { token := rfl, rate := rfl, rate_nonneg := by decide +kernel, fee_sent := ⟨rfl, rfl⟩,
      fee_received := ⟨rfl, rfl⟩, data_nonneg := by decide +kernel, data_le := le_rfl }⟩
  phase := rfl
  request := rfl
  answer := rfl
  notifications := rfl
  lost := rfl

theorem delayedRun_isSome :
    ((system "session" "token").run newProtocol delayedRun).isSome := by
  with_unfolding_all rfl

/-- The state after `delayedRun`: a notification and a request are on their way. -/
def delayedProtocol : State :=
  ((system "session" "token").run newProtocol delayedRun).get delayedRun_isSome

theorem reachable_delayedProtocol : (system "session" "token").Reachable delayedProtocol :=
  .run delayedRun (.init init_newProtocol) (Option.some_get _).symm

theorem ledgers_agree_delayedProtocol :
    ∃ si ci, session "session" delayedProtocol = some si ∧
      account "token" delayedProtocol = some ci ∧
      si.total_fee_sent_unconfirmed = ci.total_fee_received_unconfirmed
        + (delayedProtocol.notifications.map amount_transferred).sum
        + (delayedProtocol.lost.map amount_transferred).sum ∧
      2 ≤ ci.get_fee_owed ∧ 4 ≤ ci.data_transferred_kb ∧
      ∃ db, RequestHandlerLoop.handle_request sampleConfig (.working fun _ => "reference2")
        (.HTTPProxyPrePaymentRequest "client" "token" 4 2) ⟨"client peer"⟩
        delayedProtocol.provider =
          .ok (accepted sampleConfig (.working fun _ => "reference2") ci) db := by
  obtain ⟨si, ci, hsession, haccount, htotal, hclaims⟩ :=
    ledgers_agree "session" "token" delayedProtocol reachable_delayedProtocol
  obtain ⟨⟨_, _, _, hreq, hfee, hdata⟩, hhandled⟩ :=
    hclaims (.HTTPProxyPrePaymentRequest "client" "token" 4 2) (by with_unfolding_all rfl)
  obtain ⟨db, hrun, -⟩ := hhandled sampleConfig (.working fun _ => "reference2") ⟨"client peer"⟩
    (fun _ => rfl) (by with_unfolding_all rfl)
  cases hreq
  exact ⟨si, ci, hsession, haccount, htotal, hfee, hdata, db, hrun⟩

end Protocol

end OrcaNet
