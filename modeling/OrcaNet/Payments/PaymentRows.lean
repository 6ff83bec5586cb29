import OrcaNet.Payments.Node

/-! # Payment rows

    What the rows of the `payments` table look like on a node that provides and
    pays at once.  A row is created by a pre-payment request or by the node's
    own payment and rewritten whole by notifications, which write back the row
    that they read.

    `Move` lists what a step can do to the table; the invariant and the terms
    that no step rewrites are both read off it. -/

namespace OrcaNet

open Transition RequestHandlerLoop ProxyPaymentLoop OrcaNetConfig

namespace Node

/-! ## Section 1: Rows -/

structure WellFormed (r : PaymentInfo) : Prop where
  awaiting : r.status = .AwaitingClientConfirmation ↔ r.tx_id = none
  pending : r.tx_id ≠ none → r.status = .TransactionPending
  receive : r.category = .Receive → r.expected_amount_btc.isSome ∧ r.from_peer.isSome
  send : r.category = .Send → r.tx_id.isSome ∧ r.amount_btc.isSome ∧ r.payment_reference.isSome

theorem wellFormed_reference_row (cfg : OrcaNetConfig) (env : Env) (amount_to_send : F64)
    (from_peer : PeerId) : WellFormed (reference_row cfg env amount_to_send from_peer) where
  awaiting := iff_of_true rfl rfl
  pending htx := absurd rfl htx
  receive _ := ⟨rfl, rfl⟩
  send hcat := by cases hcat

theorem wellFormed_send_row (env : Env) (loc : Locals) (payment_request : PaymentRequest F64)
    (tx_id : String) : WellFormed (send_row env loc payment_request tx_id) where
  awaiting := iff_of_false nofun nofun
  pending _ := rfl
  receive hcat := by cases hcat
  send _ := ⟨rfl, rfl, rfl⟩

/-- A notification sets the transaction and the status together. -/
theorem WellFormed.confirmed_row {r : PaymentInfo} (h : WellFormed r)
    (n : PaymentNotification F64) : WellFormed (confirmed_row n r) where
  awaiting := iff_of_false nofun nofun
  pending _ := rfl
  receive hcat := h.receive hcat
  send hcat := ⟨rfl, (h.send hcat).2⟩

/-! ## Section 2: What a step does to the table -/

/-- Everything that a step can do to the payment rows. -/
inductive Move (db db' : Database) : Prop where
  | keep (h : db'.payments = db.payments)
  | insert (r : PaymentInfo) (hr : WellFormed r) (h : db.payments.insert r = some db'.payments)
  | confirm (n : PaymentNotification F64) (r : PaymentInfo)
      (hr : db.payments.find PaymentInfo.payment_id n.payment_reference = some r)
      (h : db'.payments = (confirm_payment db n r).payments)

theorem move_of_effect {cfg : OrcaNetConfig} {env : Env} {peer : PeerId} {db db' : Database}
    {req : OrcaNetRequest F64} {resp : Option (OrcaNetResponse F64)}
    (h : Effect cfg env peer db req resp db') : Move db db' := by
  cases h with
  | inert hresp hclients hpayments => exact .keep hpayments
  | provide hinsert => exact .keep rfl
  | over_threshold hask hover => exact .keep rfl
  | reference hask hwithin hstores hinsert =>
    exact .insert _ (wellFormed_reference_row _ _ _ _) hinsert
  | mismatch hask hpay hrow => exact .keep rfl
  | uncredited hconfirm hfault => exact .confirm _ _ (first_eq_ok.mp hconfirm.row).2 rfl
  | credited hconfirm hcredit => exact .confirm _ _ (first_eq_ok.mp hconfirm.row).2 rfl

theorem move_of_segment {cfg : OrcaNetConfig} {env : Env} {sid : String} {db : Database}
    {ph : Phase} {ev : Event} {o : Outcome} (h : Segment cfg env sid db ph ev o) :
    Move db o.db := by
  cases h with
  | inserted hsucc hinsert => exact .insert _ (wellFormed_send_row _ _ _ _) hinsert
  | _ => exact .keep rfl

theorem move_of_next {s s' : State} {l : Label} (h : next s l = some s') :
    Move s.provider.db s'.provider.db := by
  cases l with
  | provider l =>
    obtain ⟨p, hp, rfl⟩ := Option.map_eq_some_iff.mp h
    cases l with
    | request cfg env req peer =>
      obtain rfl := Option.some.inj hp
      exact move_of_effect (handle_request_effect cfg env peer _ req)
    | data_transferred client_id kb =>
      obtain rfl := Option.some.inj hp
      exact .keep rfl
  | payment sid cfg env ev =>
    obtain ⟨o, ho, rfl⟩ := Option.map_eq_some_iff.mp h
    exact move_of_segment (process_payment_segment ho)
  | data_transferred sid kb =>
    obtain rfl := Option.some.inj h
    exact .keep rfl

/-- The rows after a confirmation: the one that was read is confirmed, and the
    others are as before. -/
theorem mem_confirm_payment {db : Database} {n : PaymentNotification F64} {r : PaymentInfo}
    (hr : db.payments.find PaymentInfo.payment_id n.payment_reference = some r)
    {x : PaymentInfo} : x ∈ (confirm_payment db n r).payments.rows ↔
      x = confirmed_row n r ∨ x ∈ db.payments.rows ∧ x.payment_id ≠ r.payment_id := by
  rw [confirm_payment, Table.mem_update_of_find (by simp) (Table.find_own hr),
    Provider.changeset_confirmed_row]

theorem Move.wellFormed {db db' : Database} (h : Move db db')
    (hinv : ∀ r ∈ db.payments.rows, WellFormed r) : ∀ r ∈ db'.payments.rows, WellFormed r := by
  intro x hx
  cases h with
  | keep h => exact hinv x (h ▸ hx)
  | insert r hr h =>
    rw [(Table.insert_eq_some h).2, List.mem_append, List.mem_singleton] at hx
    rcases hx with hx | rfl
    · exact hinv x hx
    · exact hr
  | confirm n r hr h =>
    rw [h, mem_confirm_payment hr] at hx
    rcases hx with rfl | ⟨hx, -⟩
    · exact (hinv r (Table.find_mem hr).1).confirmed_row n
    · exact hinv x hx

/-- A row stays, with its terms. -/
theorem Move.sameTerms {db db' : Database} (h : Move db db') {r : PaymentInfo}
    (hr : r ∈ db.payments.rows) : ∃ r' ∈ db'.payments.rows, Provider.SameTerms r r' := by
  cases h with
  | keep h => exact ⟨r, h ▸ hr, .refl r⟩
  | insert x hx h =>
    refine ⟨r, ?_, .refl r⟩
    rw [(Table.insert_eq_some h).2]
    exact List.mem_append_left _ hr
  | confirm n x hx h =>
    rw [h]
    by_cases hid : r.payment_id = x.payment_id
    · have heq : r = x :=
        Table.row_unique (c := PaymentInfo.payment_id) (by simp) hr (Table.find_mem hx).1 hid
      subst heq
      exact ⟨_, (mem_confirm_payment hx).mpr (Or.inl rfl), Provider.sameTerms_confirmed_row n r⟩
    · exact ⟨r, (mem_confirm_payment hx).mpr (Or.inr ⟨hr, hid⟩), .refl r⟩

/-! ## Section 3: Runs -/

structure PaymentRows (db : Database) : Prop where
  unique : (db.payments.rows.map PaymentInfo.payment_id).Nodup
  wellFormed : ∀ r ∈ db.payments.rows, WellFormed r

theorem wellFormed_of_reachable {s : State} (h : system.Reachable s) :
    ∀ r ∈ s.provider.db.payments.rows, WellFormed r := by
  refine System.Reachable.invariant
    (J := fun t => ∀ r ∈ t.provider.db.payments.rows, WellFormed r) ?_ ?_ h
  · intro t hinit r hr
    rw [hinit.payments] at hr
    cases hr
  · intro t l t' _ hinv hnext
    exact (move_of_next hnext).wellFormed hinv

theorem sameTerms_of_run {s s' : State} (ls : List Label) (hrun : system.run s ls = some s')
    {r : PaymentInfo} (hr : r ∈ s.provider.db.payments.rows) :
    ∃ r' ∈ s'.provider.db.payments.rows, Provider.SameTerms r r' := by
  refine system.run_invariant
    (J := fun t => ∃ r' ∈ t.provider.db.payments.rows, Provider.SameTerms r r') ?_ ls
    ⟨r, hr, .refl r⟩ hrun
  intro t l t' hinv hnext
  obtain ⟨x, hx, hterms⟩ := hinv
  obtain ⟨x', hx', hterms'⟩ := (move_of_next hnext).sameTerms hx
  exact ⟨x', hx', hterms.trans hterms'⟩

/-- **Payment rows.**  In every reachable state the payment rows are well formed,
    with ids of their own, and in every later state each of them is still there
    with its terms. -/
theorem paymentRows_of_reachable {s : State} (h : system.Reachable s) :
    PaymentRows s.provider.db ∧ ∀ ls s', system.run s ls = some s' →
      ∀ r ∈ s.provider.db.payments.rows,
        ∃ r' ∈ s'.provider.db.payments.rows, Provider.SameTerms r r' :=
  ⟨⟨s.provider.db.payments.unique _ (by simp), wellFormed_of_reachable h⟩,
    fun ls _ hrun _ hr => sameTerms_of_run ls hrun hr⟩

section samples

/-- A node with a session of its own. -/
def sampleNode : State :=
  { emptyNode with
    provider := { emptyNode.provider with
      db := { Database.empty with proxy_sessions := .single (sampleSession 2 0) } } }

/-- A client gets a reference and confirms it, the node pays for its session, and
    the client names the row of that payment. -/
def bothRun : List Label :=
  [.provider (.request sampleConfig (.working fun i => if i = 0 then "client" else "token")
      .HTTPProxyProvideRequest ⟨"peer"⟩),
    .provider (.request sampleConfig (.working fun _ => "reference")
      (.HTTPProxyPrePaymentRequest "client" "token" 0 0) ⟨"peer"⟩),
    .payment "session" sampleConfig (.working fun _ => "send") .tick,
    .payment "session" sampleConfig (.working fun _ => "send") (.pre_payment_result
      (.ok (.HTTPProxyPrePaymentResponse 2 2 (.Accepted ⟨2, "ref", "provider address"⟩)))),
    .payment "session" sampleConfig (.working fun _ => "send")
      (.send_to_address_result (.ok "tx")),
    .payment "session" sampleConfig (.working fun _ => "send") .insert_payment_info,
    .provider (.request sampleConfig (.working fun _ => "unused")
      (.HTTPProxyPostPaymentNotification "client" "token" ⟨"sender", "address", 0, "tx1",
        "reference"⟩) ⟨"peer"⟩),
    .provider (.request sampleConfig (.working fun _ => "unused")
      (.HTTPProxyPostPaymentNotification "client" "token" ⟨"sender", "address", 0, "tx2",
        "send"⟩) ⟨"peer"⟩)]

theorem paymentRows_bothRun :
    ∃ s, system.run sampleNode bothRun = some s ∧ s.provider.db.payments.rows.length = 2 ∧
      PaymentRows s.provider.db ∧ ∀ ls s', system.run s ls = some s' →
        ∀ r ∈ s.provider.db.payments.rows,
          ∃ r' ∈ s'.provider.db.payments.rows, Provider.SameTerms r r' := by
  have hinit : system.Reachable sampleNode := .init ⟨rfl, rfl, rfl, fun _ => rfl⟩
  obtain ⟨s, hrun, hrows⟩ : ∃ s, system.run sampleNode bothRun = some s ∧
      s.provider.db.payments.rows.length = 2 :=
    ⟨_, by with_unfolding_all rfl, by with_unfolding_all rfl⟩
  exact ⟨s, hrun, hrows, paymentRows_of_reachable (hinit.run bothRun hrun)⟩

end samples

end Node

end OrcaNet
