import OrcaNet.Payments.Provider

/-! # Provider solvency

    The provider credits a client with the amount that its notification
    states, before it has seen the transaction.  So its unconfirmed receipts
    are what the notifications state, and they are covered by the pending
    payments up to what the notifications overstate. -/

namespace OrcaNet

open Transition RequestHandlerLoop OrcaNetConfig

namespace Provider

/-! ## Section 1: The two sums -/

/-- The unconfirmed receipts of all clients. -/
def received_unconfirmed (db : Database) : F64 :=
  db.proxy_clients.sum ProxyClientInfo.total_fee_received_unconfirmed

/-- What a row adds to the pending receipts. -/
def pending_amount (r : PaymentInfo) : F64 :=
  if r.category = .Receive ∧ r.status = .TransactionPending then r.expected_amount_btc.getD 0
  else 0

def expected_pending (db : Database) : F64 := db.payments.sum pending_amount

def Solvent (db : Database) : Prop := received_unconfirmed db ≤ expected_pending db

/-- The amount that was requested with a reference. -/
def requested (db : Database) (payment_reference : String) : F64 :=
  ((db.payments.find PaymentInfo.payment_id payment_reference).bind
    PaymentInfo.expected_amount_btc).getD 0

/-- What a credited notification states beyond the requested amount. -/
def overstated (db : Database) (x : Credit) : F64 :=
  max 0 (x.amount - requested db x.payment_reference)

/-! ## Section 2: The ledger -/

/-- The row of a credited reference. -/
def Pending (db : Database) (payment_reference : String) : Prop :=
  ∃ r, db.payments.find PaymentInfo.payment_id payment_reference = some r ∧
    r.status = .TransactionPending

/-- A row that a pre-payment request created. -/
structure IsRequest (r : PaymentInfo) : Prop where
  category : r.category = .Receive
  amount : ∃ a, r.expected_amount_btc = some a ∧ 0 ≤ a

structure Ledger (s : State) : Prop where
  received : received_unconfirmed s.db = (s.credited.map Credit.amount).sum
  rows : ∀ r ∈ s.db.payments.rows, IsRequest r
  pending : ∀ x ∈ s.credited, Pending s.db x.payment_reference

theorem credited_after_of_ne {credited : List Credit} {req : OrcaNetRequest F64}
    {resp : Option (OrcaNetResponse F64)} (h : resp ≠ some .NullResponse) :
    credited_after credited req resp = credited := by
  unfold credited_after
  split
  · exact absurd rfl h
  · rfl

/-- A credit raises the receipts by its amount. -/
theorem received_credit_client {db : Database} {c : ProxyClientInfo} {tok : String}
    (hc : db.proxy_clients.find ProxyClientInfo.auth_token tok = some c) (amount : F64) :
    received_unconfirmed (credit_client db c.client_id amount) =
      received_unconfirmed db + amount := by
  have hid : db.proxy_clients.find ProxyClientInfo.client_id c.client_id = some c :=
    (Table.find_eq_some_iff (by simp)).mpr ⟨(Table.find_mem hc).1, rfl⟩
  rw [received_unconfirmed, credit_client, Table.sum_update (by simp) hid, received_unconfirmed]
  ring

theorem received_data_transferred (client_id : String) (kb : F64) (db : Database) :
    received_unconfirmed (ProxyClientsTable.update_data_transfer_info client_id kb db) =
      received_unconfirmed db := by
  rw [received_unconfirmed, ProxyClientsTable.update_data_transfer_info,
    Table.sum_update_of_eq]
  · rfl
  · exact fun _ => rfl

theorem isRequest_reference_row (cfg : OrcaNetConfig) (env : Env) (c : ProxyClientInfo)
    (peer : PeerId) : IsRequest (reference_row cfg env c.get_fee_owed peer) :=
  ⟨rfl, c.get_fee_owed, rfl, c.get_fee_owed_nonneg⟩

/-- A notification keeps every row a request. -/
theorem isRequest_confirm_payment {db : Database} {n : PaymentNotification F64} {x : PaymentInfo}
    (hx : db.payments.find PaymentInfo.payment_id n.payment_reference = some x)
    (h : ∀ r ∈ db.payments.rows, IsRequest r) :
    ∀ r ∈ (confirm_payment db n x).payments.rows, IsRequest r := by
  intro r hr
  have hfind := (Table.find_eq_some_iff (c := PaymentInfo.payment_id) (by simp)).mpr ⟨hr, rfl⟩
  rw [find_confirm_payment hx] at hfind
  split at hfind
  · obtain rfl := Option.some.inj hfind
    obtain ⟨hcat, hamount⟩ := h x (Table.find_mem hx).1
    exact ⟨hcat, hamount⟩
  · exact h r (Table.find_mem hfind).1

/-- A notification keeps pending rows pending, and makes its own row pending. -/
theorem pending_confirm_payment {db : Database} {n : PaymentNotification F64} {x : PaymentInfo}
    (hx : db.payments.find PaymentInfo.payment_id n.payment_reference = some x) {id : String}
    (h : id = n.payment_reference ∨ Pending db id) : Pending (confirm_payment db n x) id := by
  rw [Pending, find_confirm_payment hx]
  by_cases hid : id = n.payment_reference
  · exact ⟨_, if_pos hid, rfl⟩
  · rw [if_neg hid]
    exact h.resolve_left hid

/-- A request keeps the ledger. -/
theorem ledger_of_effect {cfg : OrcaNetConfig} {env : Env} {peer : PeerId} {s : State}
    {req : OrcaNetRequest F64} {resp : Option (OrcaNetResponse F64)} {db' : Database}
    {issued : List (String × String)} (hinv : Ledger s)
    (h : Effect cfg env peer s.db req resp db') :
    Ledger ⟨db', issued, credited_after s.credited req resp⟩ := by
  obtain ⟨hreceived, hrows, hpending⟩ := hinv
  cases h with
  | inert hinert hclients hpayments =>
    rw [credited_after_of_ne hinert.1]
    refine ⟨?_, by rwa [hpayments], ?_⟩
    · rw [received_unconfirmed, hclients]; exact hreceived
    · simpa only [Pending, hpayments] using hpending
  | provide hinsert =>
    refine ⟨?_, hrows, hpending⟩
    -- a new client has received nothing
    rw [received_unconfirmed, Table.sum_insert hinsert, credited_after_of_ne (by simp)]
    simpa [ProxyClientInfo.with_defaults, received_unconfirmed] using hreceived
  | over_threshold hask hover => exact ⟨hreceived, hrows, hpending⟩
  | reference hask hwithin hstores hinsert =>
    refine ⟨hreceived, ?_, ?_⟩
    · intro r hr
      -- the new row is a request, and not pending
      rw [(Table.insert_eq_some hinsert).2, List.mem_append, List.mem_singleton] at hr
      rcases hr with hr | rfl
      · exact hrows r hr
      · exact isRequest_reference_row cfg env _ peer
    · intro x hx
      obtain ⟨r, hr, hstatus⟩ := hpending x hx
      exact ⟨r, Table.find_insert_of_some hinsert hr, hstatus⟩
  | mismatch hask hpay hrow => exact ⟨hreceived, hrows, hpending⟩
  | uncredited hconfirm hfault =>
    have hx := (first_eq_ok.mp hconfirm.row).2
    exact ⟨hreceived, isRequest_confirm_payment hx hrows,
      fun x hmem => pending_confirm_payment hx (Or.inr (hpending x hmem))⟩
  | @credited client_id tok n c r hconfirm hcredit =>
    have hx := (first_eq_ok.mp hconfirm.row).2
    have hc := (first_eq_ok.mp hconfirm.client).2
    refine ⟨?_, isRequest_confirm_payment hx hrows, ?_⟩
    -- receipts and credits grow by the amount stated
    · have hsum : received_unconfirmed
          (credit_client (confirm_payment s.db n r) c.client_id n.amount_transferred) =
          received_unconfirmed s.db + n.amount_transferred :=
        received_credit_client hc n.amount_transferred
      rw [hsum]
      simp only [credited_after, List.map_cons, List.sum_cons, ← hreceived]
      exact add_comm _ _
    · intro x hmem
      rcases List.mem_cons.mp hmem with rfl | hmem
      · exact pending_confirm_payment hx (Or.inl rfl)
      · exact pending_confirm_payment hx (Or.inr (hpending x hmem))

theorem ledger_of_reachable {s : State} (h : system.Reachable s) : Ledger s := by
  refine System.Reachable.invariant ?_ ?_ h
  · rintro s rfl
    exact ⟨rfl, by simp [Database.empty], by simp⟩
  · intro s l s' _ hinv hnext
    cases l with
    | request cfg env req peer =>
      obtain rfl := Option.some.inj hnext
      exact ledger_of_effect hinv (handle_request_effect _ _ _ _ req)
    | data_transferred client_id kb =>
      obtain rfl := Option.some.inj hnext
      exact ⟨(received_data_transferred client_id kb s.db).trans hinv.received, hinv.rows,
        hinv.pending⟩

/-! ## Section 3: Solvency -/

theorem pending_amount_nonneg {r : PaymentInfo} (h : IsRequest r) : 0 ≤ pending_amount r := by
  obtain ⟨a, ha, hnonneg⟩ := h.amount
  unfold pending_amount
  split
  · simpa [ha] using hnonneg
  · exact le_rfl

/-- What was requested with distinct credited references is covered by the
    pending payments. -/
theorem requested_le_pending {s : State} (hinv : Ledger s)
    (hnodup : (s.credited.map Credit.payment_reference).Nodup) :
    (s.credited.map fun x => requested s.db x.payment_reference).sum ≤ expected_pending s.db := by
  -- distinct references have distinct rows
  refine Table.sum_le_of_find (c := PaymentInfo.payment_id) (by simp)
    (fun r hr => pending_amount_nonneg (hinv.rows r hr)) hnodup ?_
  intro x hx
  obtain ⟨r, hr, hstatus⟩ := hinv.pending x hx
  have hcat := (hinv.rows r (Table.find_mem hr).1).category
  exact ⟨r, hr, by simp [requested, hr, pending_amount, hcat, hstatus]⟩

/-- **Solvency up to overstatements.**  For every sequence of requests from any
    clients the unconfirmed receipts are what the credited notifications state,
    each of which names a pending payment that was requested; and while no
    reference is credited twice, the receipts exceed the pending payments by no
    more than what the notifications overstate. -/
theorem receipts_of_reachable (s : State) (h : system.Reachable s) :
    received_unconfirmed s.db = (s.credited.map Credit.amount).sum ∧
      (∀ x ∈ s.credited, ∃ r a,
        s.db.payments.find PaymentInfo.payment_id x.payment_reference = some r ∧
          r.category = .Receive ∧ r.status = .TransactionPending ∧
          r.expected_amount_btc = some a) ∧
      ((s.credited.map Credit.payment_reference).Nodup →
        received_unconfirmed s.db ≤
          expected_pending s.db + (s.credited.map (overstated s.db)).sum) := by
  have hinv := ledger_of_reachable h
  refine ⟨hinv.received, ?_, fun hnodup => ?_⟩
  · intro x hx
    obtain ⟨r, hr, hstatus⟩ := hinv.pending x hx
    -- the row of a credited payment is one of the rows that were requested
    obtain ⟨hcat, a, ha, -⟩ := hinv.rows r (Table.find_mem hr).1
    exact ⟨r, a, hr, hcat, hstatus, ha⟩
  · have hamount : ∀ x ∈ s.credited,
        x.amount ≤ requested s.db x.payment_reference + overstated s.db x := by
      intro x _
      have hover := le_max_right 0 (x.amount - requested s.db x.payment_reference)
      unfold overstated
      linarith
    calc received_unconfirmed s.db
        = (s.credited.map Credit.amount).sum := hinv.received
      _ ≤ (s.credited.map fun x =>
            requested s.db x.payment_reference + overstated s.db x).sum := List.sum_le_sum hamount
      _ = (s.credited.map fun x => requested s.db x.payment_reference).sum
            + (s.credited.map (overstated s.db)).sum := List.sum_map_add
      _ ≤ expected_pending s.db + (s.credited.map (overstated s.db)).sum := by
        gcongr
        exact requested_le_pending hinv hnodup

/-- The client states `amount` for its reference. -/
def notifies (amount : F64) : Label :=
  .request sampleConfig (.working fun _ => "unused")
    (.HTTPProxyPostPaymentNotification "client" "token"
      ⟨"sender", "address", amount, "tx", "reference"⟩) ⟨"peer"⟩

/-- The new client is asked for 4 and notifies `amount`. -/
def paidRun (amount : F64) : List Label :=
  sampleRun ++
    [.request sampleConfig (.working fun _ => "reference")
      (.HTTPProxyPrePaymentRequest "client" "token" 4 4) ⟨"peer"⟩, notifies amount]

/-- The provider after notifications credited `received`. -/
def paidProvider (received : F64) (credited : List Credit) : State where
  db := { Database.empty with
    proxy_clients := ⟨[{ ProxyClientInfo.with_defaults "client" "token" "peer" 0 1 with
      data_transferred_kb := 4, total_fee_received_unconfirmed := received }], by simp⟩
    payments := ⟨[{ reference_row sampleConfig (.working fun _ => "reference") 4 ⟨"peer"⟩ with
      tx_id := some "tx", from_address := some "sender", status := .TransactionPending }],
      by simp⟩ }
  issued := [("reference", "token")]
  credited := credited

theorem receipts_of_reachable_paidProvider :
    received_unconfirmed (paidProvider 5 [⟨"reference", 5⟩]).db ≤
      expected_pending (paidProvider 5 [⟨"reference", 5⟩]).db +
        ([⟨"reference", 5⟩].map (overstated (paidProvider 5 [⟨"reference", 5⟩]).db)).sum :=
  (receipts_of_reachable (paidProvider 5 [⟨"reference", 5⟩])
    (.run (paidRun 5) (.init rfl) (by with_unfolding_all rfl))).2.2 (List.nodup_singleton _)

theorem expected_pending_paidProvider (received : F64) (credited : List Credit) :
    expected_pending (paidProvider received credited).db = 4 := by
  with_unfolding_all rfl

theorem received_paidProvider (received : F64) (credited : List Credit) :
    received_unconfirmed (paidProvider received credited).db = received :=
  add_zero received

/-- Both an inflated amount and a repeated notification are credited in full:
    the receipts are 5 and 8 where 4 was requested. -/
theorem insolvent_paidProvider :
    (system.run ⟨Database.empty, [], []⟩ (paidRun 5) =
        some (paidProvider 5 [⟨"reference", 5⟩]) ∧
      ¬ Solvent (paidProvider 5 [⟨"reference", 5⟩]).db) ∧
    (system.run ⟨Database.empty, [], []⟩ (paidRun 4 ++ [notifies 4]) =
        some (paidProvider 8 [⟨"reference", 4⟩, ⟨"reference", 4⟩]) ∧
      ¬ Solvent (paidProvider 8 [⟨"reference", 4⟩, ⟨"reference", 4⟩]).db) := by
  refine ⟨⟨by with_unfolding_all rfl, ?_⟩, by with_unfolding_all rfl, ?_⟩
  · rw [Solvent, expected_pending_paidProvider, received_paidProvider]
    norm_num
  · rw [Solvent, expected_pending_paidProvider, received_paidProvider]
    norm_num

end Provider

end OrcaNet
