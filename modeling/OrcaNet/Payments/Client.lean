import OrcaNet.Proxy.ProxyPayment
import OrcaNet.RequestHandler
import OrcaNet.Framework.System

/-! # The paying client

    The payment loop of one session together with the node's wallet, as a
    transition system: segments of `process_payment` alternate with traffic
    accounting, the provider answers whatever it likes, and every external
    call may fail.

    * Section 2 bounds what a call transfers.
    * Section 3 relates the session total and the `payments` table to the
      transfers the wallet made. -/

namespace OrcaNet

open Transition ProxyPaymentLoop OrcaNetConfig

namespace Client

/-! ## Section 1: System -/

/-- A transaction that `send_to_address` created. -/
structure Transaction where
  tx_id : String
  amount : F64
  deriving DecidableEq, Repr

structure State where
  db : Database
  phase : Phase
  /-- The successful transfers, newest first. -/
  wallet : List Transaction

inductive Label where
  | payment (cfg : OrcaNetConfig) (env : Env) (ev : Event)
  | data_transferred (kb : F64)

/-- How many `Send` rows record the transaction. -/
def send_rows (db : Database) (tx_id : String) : ℕ :=
  db.payments.rows.countP fun r => decide (r.category = .Send ∧ r.tx_id = some tx_id)

/-- The wallet's side of a result: a successful transfer has a transaction id
    that is new to the node. -/
def wallet_after (s : State) (ev : Event) : Option (List Transaction) :=
  match s.phase, ev with
  | .send_to_address _ pr, .send_to_address_result (.ok tx_id) =>
    if tx_id ∉ s.wallet.map Transaction.tx_id ∧ send_rows s.db tx_id = 0 then
      some (⟨tx_id, pr.amount_to_send⟩ :: s.wallet)
    else none
  | _, _ => some s.wallet

/-- The calls that the segment run by a label makes. -/
def calls (session_id : String) (s : State) : Label → List Call
  | .payment cfg env ev =>
    match process_payment cfg env session_id s.db s.phase ev with
    | some o => o.calls
    | none => []
  | .data_transferred _ => []

def next (session_id : String) (s : State) : Label → Option State
  | .payment cfg env ev =>
    match wallet_after s ev, process_payment cfg env session_id s.db s.phase ev with
    | some wallet, some o => some ⟨o.db, o.phase, wallet⟩
    | _, _ => none
  | .data_transferred kb =>
    some { s with db := ProxySessionsTable.update_data_transfer_info session_id kb s.db }

/-- Payments of a session that starts with no call in progress. -/
def system (session_id : String) : System State Label where
  init := fun s => s.phase = .idle
  next := next session_id

theorem next_payment {sid : String} {s s' : State} {cfg : OrcaNetConfig} {env : Env} {ev : Event}
    (h : next sid s (.payment cfg env ev) = some s') :
    ∃ o wallet, process_payment cfg env sid s.db s.phase ev = some o ∧
      wallet_after s ev = some wallet ∧ s' = ⟨o.db, o.phase, wallet⟩ := by
  simp only [next] at h
  split at h
  · rename_i wallet o hw ho
    exact ⟨o, wallet, ho, hw, (Option.some.inj h).symm⟩
  · cases h

/-! ### A small session, for concrete runs -/

def sampleEnv : Env := .working fun _ => "uuid"

def sampleState (session_info : ProxySessionInfo) : State where
  db := { Database.empty with proxy_sessions := ⟨[session_info], by simp⟩ }
  phase := .idle
  wallet := []

/-! ## Section 2: The amount of a transfer -/

/-- Every transfer that the step asks for answers a pre-payment request and is at
    most what the session owed when that request was made. -/
def TransferBounded (session_id : String) (s : State) (l : Label) : Prop :=
  ∀ address amount, Call.send_to_address address amount ∈ calls session_id s l →
    ∃ loc, s.phase = .pre_payment_step loc ∧ amount ≤ loc.session_info.get_fee_owed

/-- An accepting answer to the pending pre-payment request asks for no more than
    the session owes. -/
def AnswerWithinClaim (s : State) (l : Label) : Prop :=
  ∀ cfg env d f pr loc,
    l = .payment cfg env
      (.pre_payment_result (.ok (.HTTPProxyPrePaymentResponse d f (.Accepted pr)))) →
    s.phase = .pre_payment_step loc → pr.amount_to_send ≤ loc.session_info.get_fee_owed

/-- A step is bounded exactly when the answer it takes in is. -/
theorem transferBounded_iff {sid : String} {s s' : State} {l : Label}
    (hnext : next sid s l = some s') :
    TransferBounded sid s l ↔ AnswerWithinClaim s l := by
  cases l with
  | data_transferred kb => simp [TransferBounded, AnswerWithinClaim, calls]
  | payment cfg env ev =>
    obtain ⟨o, -, ho, -, -⟩ := next_payment hnext
    have hseg := process_payment_segment ho
    simp only [TransferBounded, AnswerWithinClaim, calls, ho, Label.payment.injEq]
    generalize s.phase = ph at hseg
    cases hseg with
    -- the only segment that calls the wallet
    | @accepted loc d f pr =>
      constructor
      · rintro h _ _ _ _ _ loc' ⟨-, -, hev⟩ hloc
        cases hev
        obtain ⟨loc'', hloc'', hle⟩ := h _ _ (List.mem_singleton.mpr rfl)
        obtain rfl := Phase.pre_payment_step.inj (hloc''.symm.trans hloc)
        exact hle
      · intro h address amount hmem
        cases List.mem_singleton.mp hmem
        exact ⟨loc, rfl, h cfg env d f pr loc ⟨rfl, rfl, rfl⟩ rfl⟩
    -- any other answer asks for nothing
    | refused hquiet hresp =>
      refine iff_of_true (by simp) ?_
      rintro _ _ d f pr _ ⟨-, -, hev⟩
      exact absurd (Event.pre_payment_result.inj hev) (hresp d f pr)
    | _ => simp

/-- **Client payment bound.**  Over a run of payments from any state, every
    transfer is within what the session owed when it asked, exactly when every
    accepting answer asks for no more than that. -/
theorem transfers_bounded_iff (sid : String) (s : State) (ls : List Label) :
    (system sid).AllSteps (fun t l _ => TransferBounded sid t l) s ls ↔
      (system sid).AllSteps (fun t l _ => AnswerWithinClaim t l) s ls := by
  refine (system sid).allSteps_iff (J := fun _ => True) ?_ (fun _ _ _ _ _ _ => trivial) ls trivial
  intro t l t' _ hnext
  exact transferBounded_iff hnext

/-- A provider that lost the notification of an earlier payment of 1: it still
    counts 2 as owed, where the session counts 1. -/
def laggingProvider : Database :=
  { Database.empty with
    proxy_clients := ⟨[{ ProxyClientInfo.with_defaults "client" "token" "peer" 0 1 with
      data_transferred_kb := 2 }], by simp⟩ }

def laggingAnswer : OrcaNetResponse F64 :=
  .HTTPProxyPrePaymentResponse 2 2 (.Accepted ⟨2, "uuid", "address"⟩)

/-- The session after an earlier payment of 1, asking for a new payment and
    getting the lagging provider's honest answer. -/
def laggingRun : List Label :=
  [.payment sampleConfig sampleEnv .tick,
   .payment sampleConfig sampleEnv (.pre_payment_result (.ok laggingAnswer))]

/-- Even an honest provider makes the client transfer 2 where it owes 1. -/
theorem transfer_above_fee_owed :
    RequestHandlerLoop.response (RequestHandlerLoop.handle_request sampleConfig sampleEnv
        (pre_payment_request (sampleSession 2 1)) ⟨"peer"⟩ laggingProvider) = some laggingAnswer ∧
      (system "session").init (sampleState (sampleSession 2 1)) ∧
      ((system "session").run (sampleState (sampleSession 2 1)) laggingRun).isSome ∧
      ¬ (system "session").AllSteps (fun t l _ => TransferBounded "session" t l)
        (sampleState (sampleSession 2 1)) laggingRun := by
  refine ⟨by with_unfolding_all rfl, rfl, by with_unfolding_all rfl, fun h => ?_⟩
  have hask : (system "session").next (sampleState (sampleSession 2 1))
      (.payment sampleConfig sampleEnv .tick) =
        some { sampleState (sampleSession 2 1) with
          phase := .pre_payment_step ⟨sampleSession 2 1, ⟨"provider"⟩⟩ } := by
    with_unfolding_all rfl
  obtain ⟨-, hrest⟩ := ((system "session").allSteps_cons hask).mp h
  obtain ⟨hbound, -⟩ := hrest _ rfl
  obtain ⟨loc, hloc, hle⟩ := hbound "address" 2 (List.mem_singleton.mpr rfl)
  obtain rfl := Phase.pre_payment_step.inj hloc
  exact absurd hle (by decide +kernel)

/-! ## Section 3: Accounting of the transfers -/

/-- The session row exists and counts `amount` as sent. -/
def TotalIs (session_id : String) (db : Database) (amount : F64) : Prop :=
  ∃ info, db.proxy_sessions.find ProxySessionInfo.session_id session_id = some info ∧
    info.total_fee_sent_unconfirmed = amount

/-- Each transaction has exactly one `Send` row. -/
def Recorded (db : Database) (wallet : List Transaction) : Prop :=
  ∀ t ∈ wallet, send_rows db t.tx_id = 1

def spent (wallet : List Transaction) : F64 := (wallet.map Transaction.amount).sum

/-- Every transfer is in the session total and in `payments`. -/
structure Accounted (session_id : String) (s : State) : Prop where
  total : TotalIs session_id s.db (spent s.wallet)
  recorded : Recorded s.db s.wallet

/-- The ledger between two segments: while a call is between the transfer and
    its two writes, the newest transaction is still missing. -/
def LedgerInv (session_id : String) (s : State) : Prop :=
  match s.phase with
  | .insert_payment_info _ pr tx_id =>
    ∃ w, s.wallet = ⟨tx_id, pr.amount_to_send⟩ :: w ∧ TotalIs session_id s.db (spent w) ∧
      Recorded s.db w ∧ send_rows s.db tx_id = 0
  | .update_total_fee_sent_unconfirmed _ pr tx_id =>
    ∃ w, s.wallet = ⟨tx_id, pr.amount_to_send⟩ :: w ∧ TotalIs session_id s.db (spent w) ∧
      Recorded s.db s.wallet
  | _ => Accounted session_id s

/-- The two writes after a transfer succeed; a failed update does no harm to a
    transfer of zero. -/
def WritesSucceed (s : State) : Label → Prop
  | .payment _ env ev =>
    match s.phase, ev with
    | .insert_payment_info _ _ _, .insert_payment_info => InsertSucceeds env s.db
    | .update_total_fee_sent_unconfirmed _ pr _, .update_total_fee_sent_unconfirmed =>
      UpdateSucceeds env ∨ pr.amount_to_send = 0
    | _, _ => True
  | .data_transferred _ => True

theorem spent_cons (t : Transaction) (w : List Transaction) :
    spent (t :: w) = t.amount + spent w := by
  simp [spent]

theorem send_rows_insert {env : Env} {loc : Locals} {pr : PaymentRequest F64} {tx_id : String}
    {db : Database} {t : Table PaymentInfo String [PaymentInfo.payment_id]}
    (h : db.payments.insert (send_row env loc pr tx_id) = some t) (x : String) :
    send_rows { db with payments := t } x =
      send_rows db x + if tx_id = x then 1 else 0 := by
  simp [send_rows, (Table.insert_eq_some h).2, List.countP_append, List.countP_singleton,
    send_row]

theorem recorded_insert {env : Env} {loc : Locals} {pr : PaymentRequest F64} {tx_id : String}
    {db : Database} {t : Table PaymentInfo String [PaymentInfo.payment_id]} {w : List Transaction}
    (h : db.payments.insert (send_row env loc pr tx_id) = some t) (hw : Recorded db w)
    (hnew : send_rows db tx_id = 0) :
    Recorded { db with payments := t } (⟨tx_id, pr.amount_to_send⟩ :: w) := by
  intro x hx
  rw [send_rows_insert h]
  rcases List.mem_cons.mp hx with rfl | hx
  · simp [hnew]
  · have hrec := hw x hx
    have hne : tx_id ≠ x.tx_id := fun heq => by simp [heq, hrec] at hnew
    simp [hrec, hne]

theorem totalIs_add_fee_sent {sid : String} {db : Database} {x : F64} (amount : F64)
    (h : TotalIs sid db x) : TotalIs sid (add_fee_sent db sid amount) (x + amount) := by
  obtain ⟨info, hfind, rfl⟩ := h
  refine ⟨_, by rw [add_fee_sent, Table.find_update (by simp), hfind]; rfl, ?_⟩
  simp [(Table.find_mem hfind).2]

theorem totalIs_data_transferred {sid sid' : String} {db : Database} {x : F64} (kb : F64)
    (h : TotalIs sid db x) :
    TotalIs sid (ProxySessionsTable.update_data_transfer_info sid' kb db) x := by
  obtain ⟨info, hfind, rfl⟩ := h
  refine ⟨_, by
    rw [ProxySessionsTable.update_data_transfer_info, Table.find_update (by simp), hfind]; rfl, ?_⟩
  dsimp only
  split <;> rfl

theorem ledgerInv_of_quiescent {sid : String} {s : State} (hq : Quiescent s.phase) :
    LedgerInv sid s ↔ Accounted sid s := by
  rcases hq with hq | hq | hq <;> simp [LedgerInv, hq]

/-- A successful transfer puts its transaction, new to the node, into the wallet. -/
theorem wallet_after_sent {s : State} {loc : Locals} {pr : PaymentRequest F64} {tx_id : String}
    {w : List Transaction} (hph : s.phase = .send_to_address loc pr)
    (h : wallet_after s (.send_to_address_result (.ok tx_id)) = some w) :
    w = ⟨tx_id, pr.amount_to_send⟩ :: s.wallet ∧ send_rows s.db tx_id = 0 := by
  simp only [wallet_after, hph] at h
  split at h
  · rename_i hok
    exact ⟨(Option.some.inj h).symm, hok.2⟩
  · cases h

/-- Every other result leaves the wallet alone. -/
theorem wallet_after_of_ne {s : State} {ev : Event} {w : List Transaction}
    (hev : ∀ tx_id, ev ≠ .send_to_address_result (.ok tx_id))
    (h : wallet_after s ev = some w) : w = s.wallet := by
  unfold wallet_after at h
  split at h
  · exact absurd rfl (hev _)
  · exact (Option.some.inj h).symm

/-- A step whose writes succeed keeps the ledger. -/
theorem ledgerInv_step {sid : String} {s s' : State} {l : Label} (hinv : LedgerInv sid s)
    (hok : WritesSucceed s l) (hnext : next sid s l = some s') : LedgerInv sid s' := by
  cases l with
  | data_transferred kb =>
    obtain rfl := Option.some.inj hnext
    simp only [LedgerInv] at hinv ⊢
    split at hinv
    · obtain ⟨w, hw, htotal, hrec, hnew⟩ := hinv
      exact ⟨w, hw, totalIs_data_transferred kb htotal, hrec, hnew⟩
    · obtain ⟨w, hw, htotal, hrec⟩ := hinv
      exact ⟨w, hw, totalIs_data_transferred kb htotal, hrec⟩
    · exact ⟨totalIs_data_transferred kb hinv.total, hinv.recorded⟩
  | payment cfg env ev =>
    obtain ⟨o, wallet', ho, hwallet, rfl⟩ := next_payment hnext
    have hseg := process_payment_segment ho
    obtain ⟨db, ph, wallet⟩ := s
    cases hseg with
    | sent =>
      -- the new transaction is ahead of both writes
      obtain ⟨hw, hnew⟩ := wallet_after_sent rfl hwallet
      obtain ⟨htotal, hrec⟩ := (hinv : Accounted sid _)
      exact ⟨wallet, hw, htotal, hrec, hnew⟩
    | inserted hsucc hinsert =>
      obtain rfl := wallet_after_of_ne (by simp) hwallet
      -- it has its row now, and is still missing in the total
      obtain ⟨w, rfl, htotal, hrec, hnew⟩ := hinv
      exact ⟨w, rfl, htotal, recorded_insert hinsert hrec hnew⟩
    | updated hsucc =>
      obtain rfl := wallet_after_of_ne (by simp) hwallet
      obtain ⟨w, rfl, htotal, hrec⟩ := hinv
      -- the second write brings the total up to the wallet
      refine ⟨?_, hrec⟩
      rw [spent_cons, add_comm]
      exact totalIs_add_fee_sent _ htotal
    | not_inserted hq hfail => exact absurd hok hfail
    | not_updated hq hfail =>
      -- only a transfer of zero gets here, and it changes no total
      obtain rfl := wallet_after_of_ne (by simp) hwallet
      obtain ⟨w, rfl, htotal, hrec⟩ := hinv
      have hzero := (hok : UpdateSucceeds env ∨ _ = (0 : F64)).resolve_left hfail
      refine (ledgerInv_of_quiescent hq).mpr ⟨?_, hrec⟩
      rw [spent_cons, hzero, zero_add]
      exact htotal
    | not_asked hq =>
      obtain rfl := wallet_after_of_ne (by simp) hwallet
      exact (ledgerInv_of_quiescent hq).mpr ⟨hinv.total, hinv.recorded⟩
    | refused hq =>
      obtain rfl := wallet_after_of_ne (by simp) hwallet
      exact (ledgerInv_of_quiescent hq).mpr ⟨hinv.total, hinv.recorded⟩
    | _ =>
      obtain rfl := wallet_after_of_ne (by simp) hwallet
      exact ⟨hinv.total, hinv.recorded⟩

/-- A step whose writes fail ends the call with a transfer that the ledger lacks. -/
theorem not_accounted_of_write_failure {sid : String} {s s' : State} {l : Label}
    (hinv : LedgerInv sid s) (hfail : ¬ WritesSucceed s l) (hnext : next sid s l = some s') :
    Quiescent s'.phase ∧ ¬ Accounted sid s' := by
  cases l with
  | data_transferred kb => exact absurd trivial hfail
  | payment cfg env ev =>
    obtain ⟨o, wallet', ho, hwallet, rfl⟩ := next_payment hnext
    have hseg := process_payment_segment ho
    obtain ⟨db, ph, wallet⟩ := s
    cases hseg with
    | inserted hsucc => exact absurd hsucc hfail
    | updated hsucc => exact absurd (Or.inl hsucc) hfail
    | not_inserted hq =>
      -- the transaction is in the wallet, but no row names it
      obtain rfl := wallet_after_of_ne (by simp) hwallet
      obtain ⟨w, rfl, -, -, hnew⟩ := hinv
      refine ⟨hq, fun hacc => ?_⟩
      have hone := hacc.recorded _ (List.mem_cons_self ..)
      simp [hnew] at hone
    | not_updated hq =>
      -- the total misses the amount, which is not zero
      obtain rfl := wallet_after_of_ne (by simp) hwallet
      obtain ⟨w, rfl, ⟨info, hfind, htotal⟩, -⟩ := hinv
      refine ⟨hq, fun hacc => ?_⟩
      obtain ⟨info', hfind', htotal'⟩ := hacc.total
      obtain rfl := Option.some.inj (hfind.symm.trans hfind')
      rw [spent_cons, htotal] at htotal'
      exact hfail (Or.inr (by simpa using htotal'))
    | _ => exact absurd trivial hfail

/-- A session that has paid nothing yet. -/
def Fresh (session_id : String) (s : State) : Prop :=
  s.phase = .idle ∧ s.wallet = [] ∧ TotalIs session_id s.db 0

theorem ledgerInv_of_fresh {sid : String} {s : State} (h : Fresh sid s) : LedgerInv sid s := by
  obtain ⟨hph, hw, htotal⟩ := h
  refine (ledgerInv_of_quiescent (Or.inl hph)).mpr ⟨?_, ?_⟩
  · simpa [hw, spent] using htotal
  · simp [hw, Recorded]

/-- **Every spend is accounted.**  A run of payments that starts with a new
    session has all transfers accounted for whenever no call is in progress,
    exactly when both writes after each transfer succeed. -/
theorem spends_accounted_iff (sid : String) (s : State) (hs : Fresh sid s) (ls : List Label) :
    (system sid).AllSteps (fun _ _ t => Quiescent t.phase → Accounted sid t) s ls ↔
      (system sid).AllSteps (fun t l _ => WritesSucceed t l) s ls := by
  -- the ledger between two segments carries the induction over the run
  refine (system sid).allSteps_iff (J := LedgerInv sid) ?_ ?_ ls (ledgerInv_of_fresh hs)
  · intro t l t' hinv hnext
    constructor
    · intro hacc
      by_contra hfail
      obtain ⟨hq, hnot⟩ := not_accounted_of_write_failure hinv hfail hnext
      exact hnot (hacc hq)
    · intro hok hq
      exact (ledgerInv_of_quiescent hq).mp (ledgerInv_step hinv hok hnext)
  · intro t l t' hinv hok hnext
    exact ledgerInv_step hinv hok hnext

theorem fresh_sampleState : Fresh "session" (sampleState (sampleSession 1 0)) :=
  ⟨rfl, rfl, sampleSession 1 0, by with_unfolding_all rfl, rfl⟩

/-- A payment of 1 whose insert into `payments` fails after the transfer. -/
def lockedRun : List Label :=
  [.payment sampleConfig sampleEnv .tick,
   .payment sampleConfig sampleEnv
     (.pre_payment_result (.ok (.HTTPProxyPrePaymentResponse 1 1
       (.Accepted ⟨1, "reference", "address"⟩)))),
   .payment sampleConfig sampleEnv (.send_to_address_result (.ok "tx")),
   .payment sampleConfig
     { sampleEnv with
       db_fault := fun c => if c = .insert_payment_info then some "database is locked" else none }
     .insert_payment_info]

theorem spends_accounted_iff_lockedRun :
    (system "session").AllSteps (fun _ _ t => Quiescent t.phase → Accounted "session" t)
        (sampleState (sampleSession 1 0)) lockedRun ↔
      (system "session").AllSteps (fun t l _ => WritesSucceed t l)
        (sampleState (sampleSession 1 0)) lockedRun :=
  spends_accounted_iff "session" _ fresh_sampleState lockedRun

/-- The transfer is made, the call is over, and neither the session total nor
    `payments` knows of it. -/
theorem spend_unaccounted :
    Fresh "session" (sampleState (sampleSession 1 0)) ∧
      ∃ t, (system "session").run (sampleState (sampleSession 1 0)) lockedRun = some t ∧
        Quiescent t.phase ∧ ¬ Accounted "session" t := by
  refine ⟨fresh_sampleState, { sampleState (sampleSession 1 0) with wallet := [⟨"tx", 1⟩] },
    by with_unfolding_all rfl, Or.inl rfl, fun hacc => ?_⟩
  have hrow : send_rows (sampleState (sampleSession 1 0)).db "tx" = 1 :=
    hacc.recorded ⟨"tx", 1⟩ (List.mem_singleton.mpr rfl)
  exact absurd hrow (by decide)

end Client

end OrcaNet
