import OrcaNet.Payments.Provider
import OrcaNet.Proxy.ProxyPayment

/-! # A node that provides and pays

    One node answers the requests of its clients and runs the payment loops
    of its own sessions on one database.  The `payments` table then holds the
    `Receive` rows of the references it issued and the `Send` rows of its own
    payments side by side. -/

namespace OrcaNet

open Transition RequestHandlerLoop ProxyPaymentLoop OrcaNetConfig

namespace Node

/-! ## Section 1: System -/

structure State where
  provider : Provider.State
  /-- The payment loop of each session. -/
  loops : String → Phase

inductive Label where
  | provider (l : Provider.Label)
  | payment (session_id : String) (cfg : OrcaNetConfig) (env : Env) (ev : Event)
  | data_transferred (session_id : String) (kb : F64)

/-- Functional update on `loops`. -/
def setLoop (f : String → Phase) (session_id : String) (ph : Phase) : String → Phase :=
  fun i => if i = session_id then ph else f i

def next (s : State) : Label → Option State
  | .provider l => (Provider.next s.provider l).map fun p => { s with provider := p }
  | .payment session_id cfg env ev =>
    (process_payment cfg env session_id s.provider.db (s.loops session_id) ev).map fun o => {
      provider := { s.provider with db := o.db }
      loops := setLoop s.loops session_id o.phase }
  | .data_transferred session_id kb =>
    some { s with provider := { s.provider with
      db := ProxySessionsTable.update_data_transfer_info session_id kb s.provider.db } }

/-- The node starts without payments; it may have clients and sessions. -/
structure Init (s : State) : Prop where
  payments : s.provider.db.payments = .empty
  issued : s.provider.issued = []
  credited : s.provider.credited = []
  loops : ∀ session_id, s.loops session_id = .idle

def system : System State Label where
  init := Init
  next := next

/-! ## Section 2: Issued references -/

/-- Every issued reference has a `Receive` row. -/
def IssuedRows (s : Provider.State) : Prop :=
  ∀ p ∈ s.issued, ∃ r, s.db.payments.find PaymentInfo.payment_id p.1 = some r ∧
    r.category = .Receive

/-- A reference that a request issues has a `Receive` row. -/
theorem issued_of_effect {cfg : OrcaNetConfig} {env : Env} {peer : PeerId} {db db' : Database}
    {req : OrcaNetRequest F64} {resp : Option (OrcaNetResponse F64)}
    {issued : List (String × String)} (h : Effect cfg env peer db req resp db')
    {p : String × String} (hp : p ∈ Provider.issued_after db db' issued req resp) :
    p ∈ issued ∨ ∃ r, db'.payments.find PaymentInfo.payment_id p.1 = some r ∧
      r.category = .Receive := by
  unfold Provider.issued_after at hp
  split at hp
  · rename_i client_id tok data fee d f pr
    split at hp
    · rename_i hissue
      rcases List.mem_cons.mp hp with rfl | hold
      · obtain ⟨c, hask, href, hamount, ⟨-, rfl⟩ | ⟨-, -, hrow⟩⟩ := Provider.accepted_of_response h
        · -- beyond the threshold nothing is stored
          obtain ⟨hnone, hsome⟩ := hissue
          simp [Option.isNone_iff_eq_none.mp hnone] at hsome
        · exact Or.inr ⟨_, href ▸ hrow, rfl⟩
      · exact Or.inl hold
    · exact Or.inl hp
  · exact Or.inl hp

/-- A segment of a payment keeps every payment row. -/
theorem find_payment_of_segment {cfg : OrcaNetConfig} {env : Env} {sid : String} {db : Database}
    {ph : Phase} {ev : Event} {o : Outcome} (h : Segment cfg env sid db ph ev o) {id : String}
    {r : PaymentInfo} (hr : db.payments.find PaymentInfo.payment_id id = some r) :
    o.db.payments.find PaymentInfo.payment_id id = some r := by
  cases h with
  | inserted hsucc hinsert => exact Table.find_insert_of_some hinsert hr
  | _ => exact hr

theorem issuedRows_step {s s' : State} {l : Label} (hinv : IssuedRows s.provider)
    (hnext : next s l = some s') : IssuedRows s'.provider := by
  cases l with
  | provider l =>
    obtain ⟨p, hp, rfl⟩ := Option.map_eq_some_iff.mp hnext
    -- requests keep the rows of earlier references
    have hold : ∀ x ∈ s.provider.issued, ∃ r,
        p.db.payments.find PaymentInfo.payment_id x.1 = some r ∧ r.category = .Receive := by
      intro x hx
      obtain ⟨r, hr, hcat⟩ := hinv x hx
      obtain ⟨r', hr', hterms⟩ := Provider.find_payment_of_next hp hr
      exact ⟨r', hr', hterms.category.trans hcat⟩
    cases l with
    | request cfg env req peer =>
      obtain rfl := Option.some.inj hp
      intro x hx
      rcases issued_of_effect (handle_request_effect _ _ _ _ req) hx with hx | hx
      · exact hold x hx
      · exact hx
    | data_transferred client_id kb =>
      obtain rfl := Option.some.inj hp
      exact hold
  | payment sid cfg env ev =>
    obtain ⟨o, ho, rfl⟩ := Option.map_eq_some_iff.mp hnext
    intro x hx
    obtain ⟨r, hr, hcat⟩ := hinv x hx
    -- the node's own payments only add rows
    exact ⟨r, find_payment_of_segment (process_payment_segment ho) hr, hcat⟩
  | data_transferred sid kb =>
    obtain rfl := Option.some.inj hnext
    exact hinv

theorem issuedRows_of_reachable {s : State} (h : system.Reachable s) : IssuedRows s.provider := by
  refine System.Reachable.invariant (J := fun t => IssuedRows t.provider) ?_ ?_ h
  · intro s hinit
    simp [IssuedRows, hinit.issued]
  · intro s l s' _ hinv hnext
    exact issuedRows_step hinv hnext

/-! ## Section 3: Isolation of the clients -/

/-- Between the two databases only `Receive` rows changed whose reference was
    issued to a request with the token. -/
def Isolated (issued : List (String × String)) (auth_token : String) (db db' : Database) : Prop :=
  ∀ id r, db.payments.find PaymentInfo.payment_id id = some r →
    db'.payments.find PaymentInfo.payment_id id ≠ some r →
    (id, auth_token) ∈ issued ∧ r.category = .Receive

/-- **Payment isolation.**  In every reachable state a notification changes no
    row but those issued to its own token exactly when the reference it names,
    if it comes to rewriting that row at all, was issued to its token or already
    holds what the notification says. -/
theorem notification_isolated_iff (s : State) (h : system.Reachable s) (cfg : OrcaNetConfig)
    (env : Env) (peer : PeerId) (client_id tok : String) (n : PaymentNotification F64) :
    Isolated s.provider.issued tok s.provider.db
        (final (handle_request cfg env (.HTTPProxyPostPaymentNotification client_id tok n) peer
          s.provider.db)) ↔
      ∀ c r, Confirms env s.provider.db tok n c r →
        (n.payment_reference, tok) ∈ s.provider.issued ∨ confirmed_row n r = r := by
  constructor
  · intro hiso c r hconfirm
    have hr := (first_eq_ok.mp hconfirm.row).2
    by_cases hsame : confirmed_row n r = r
    · exact Or.inr hsame
    · refine Or.inl (hiso n.payment_reference r hr ?_).1
      -- the row is rewritten, and to something else
      rw [notification_payments_of_confirms hconfirm, Provider.find_confirm_payment hr, if_pos rfl]
      exact fun heq => hsame (Option.some.inj heq)
  · intro hcond id r hr hne
    rcases notification_payments cfg env peer s.provider.db client_id tok n with
      hsame | ⟨c, x, hconfirm⟩
    · rw [hsame] at hne
      exact absurd hr hne
    · have hx := (first_eq_ok.mp hconfirm.row).2
      rw [notification_payments_of_confirms hconfirm, Provider.find_confirm_payment hx] at hne
      by_cases hid : id = n.payment_reference
      · -- the row that the notification names
        subst hid
        obtain rfl := Option.some.inj (hr.symm.trans hx)
        rw [if_pos rfl] at hne
        have howned := (hcond c r hconfirm).resolve_right fun heq => hne (congrArg some heq)
        obtain ⟨r', hr', hcat⟩ := issuedRows_of_reachable h _ howned
        obtain rfl := Option.some.inj (hr.symm.trans hr')
        exact ⟨howned, hcat⟩
      · rw [if_neg hid] at hne
        exact absurd hr hne

/-- Two clients register, and the second one gets a reference. -/
def sharedRun : List Label :=
  [.provider (.request sampleConfig (.working fun i => if i = 0 then "clientA" else "tokenA")
    .HTTPProxyProvideRequest ⟨"peerA"⟩),
   .provider (.request sampleConfig (.working fun i => if i = 0 then "clientB" else "tokenB")
    .HTTPProxyProvideRequest ⟨"peerB"⟩),
   .provider (.request sampleConfig (.working fun _ => "referenceB")
    (.HTTPProxyPrePaymentRequest "clientB" "tokenB" 0 0) ⟨"peerB"⟩)]

def emptyNode : State := ⟨⟨Database.empty, [], []⟩, fun _ => .idle⟩

/-- The node after `sharedRun`. -/
def sharedNode : State where
  provider := {
    db := { Database.empty with
      proxy_clients := ⟨[.with_defaults "clientA" "tokenA" "peerA" 0 1,
        .with_defaults "clientB" "tokenB" "peerB" 0 1], by decide⟩
      payments := ⟨[reference_row sampleConfig (.working fun _ => "referenceB") 0 ⟨"peerB"⟩],
        by simp⟩ }
    issued := [("referenceB", "tokenB")]
    credited := [] }
  loops := fun _ => .idle

theorem reachable_sharedNode : system.Reachable sharedNode :=
  .run sharedRun (s := emptyNode) (.init ⟨rfl, rfl, rfl, fun _ => rfl⟩)
    (by with_unfolding_all rfl)

/-- A notification for the reference of the second client. -/
def notificationB : PaymentNotification F64 :=
  ⟨"sender", "address", 0, "tx", "referenceB"⟩

theorem notification_isolated_iff_sharedNode :
    Isolated sharedNode.provider.issued "tokenB" sharedNode.provider.db
        (final (handle_request sampleConfig (.working fun _ => "unused")
          (.HTTPProxyPostPaymentNotification "clientB" "tokenB" notificationB) ⟨"peerB"⟩
          sharedNode.provider.db)) ↔
      ∀ c r, Confirms (.working fun _ => "unused") sharedNode.provider.db "tokenB" notificationB
          c r →
        ("referenceB", "tokenB") ∈ sharedNode.provider.issued ∨
          confirmed_row notificationB r = r :=
  notification_isolated_iff sharedNode reachable_sharedNode sampleConfig
    (.working fun _ => "unused") ⟨"peerB"⟩ "clientB" "tokenB" notificationB

/-- The first client confirms the payment of the second. -/
theorem foreign_reference_confirmed :
    system.Reachable sharedNode ∧
      ¬ Isolated sharedNode.provider.issued "tokenA" sharedNode.provider.db
        (final (handle_request sampleConfig (.working fun _ => "unused")
          (.HTTPProxyPostPaymentNotification "clientA" "tokenA" notificationB) ⟨"peerA"⟩
          sharedNode.provider.db)) := by
  refine ⟨reachable_sharedNode, fun hiso => ?_⟩
  have howned : ("referenceB", "tokenA") ∈ sharedNode.provider.issued := by
    refine (hiso "referenceB" (reference_row sampleConfig (.working fun _ => "referenceB") 0
      ⟨"peerB"⟩) (by with_unfolding_all rfl) fun hsame => ?_).1
    -- the status changed
    have hstatus := congrArg (Option.map PaymentInfo.status) hsame
    exact absurd hstatus (by with_unfolding_all decide)
  exact absurd howned (by decide)

end Node

end OrcaNet
