import OrcaNet.RequestHandler
import OrcaNet.Framework.System

/-! # The provider

    The provider's side of the payment protocol as a transition system: any
    peers send any requests, in any order, and traffic accounting runs in
    between.  The state keeps two history variables, the references that
    pre-payment requests created and the credits that notifications got; no
    transition reads them. -/

namespace OrcaNet

open Transition RequestHandlerLoop OrcaNetConfig

namespace Provider

/-! ## Section 1: System -/

/-- A notification that was answered with `NullResponse`. -/
structure Credit where
  payment_reference : String
  amount : F64
  deriving DecidableEq, Repr

structure State where
  db : Database
  /-- References with the auth token of the request that created their row. -/
  issued : List (String × String)
  credited : List Credit

inductive Label where
  | request (cfg : OrcaNetConfig) (env : Env) (req : OrcaNetRequest F64) (from_peer : PeerId)
  | data_transferred (client_id : String) (kb : F64)

/-- A pre-payment request that is answered with a reference issues it if the
    reference had no row before and has one now. -/
def issued_after (before after : Database) (issued : List (String × String)) :
    OrcaNetRequest F64 → Option (OrcaNetResponse F64) → List (String × String)
  | .HTTPProxyPrePaymentRequest _ auth_token _ _,
      some (.HTTPProxyPrePaymentResponse _ _ (.Accepted pr)) =>
    if (before.payments.find PaymentInfo.payment_id pr.payment_reference).isNone
        ∧ (after.payments.find PaymentInfo.payment_id pr.payment_reference).isSome then
      (pr.payment_reference, auth_token) :: issued
    else issued
  | _, _ => issued

def credited_after (credited : List Credit) :
    OrcaNetRequest F64 → Option (OrcaNetResponse F64) → List Credit
  | .HTTPProxyPostPaymentNotification _ _ n, some .NullResponse =>
    ⟨n.payment_reference, n.amount_transferred⟩ :: credited
  | _, _ => credited

def next (s : State) : Label → Option State
  | .request cfg env req from_peer =>
    let res := handle_request cfg env req from_peer s.db
    some {
      db := final res
      issued := issued_after s.db (final res) s.issued req (response res)
      credited := credited_after s.credited req (response res) }
  | .data_transferred client_id kb =>
    some { s with db := ProxyClientsTable.update_data_transfer_info client_id kb s.db }

/-- The provider starts with empty tables. -/
def system : System State Label where
  init := fun s => s = ⟨Database.empty, [], []⟩
  next := next

/-! ## Section 2: Payment rows -/

/-- The columns of a payment row that no request rewrites. -/
structure SameTerms (r r' : PaymentInfo) : Prop where
  payment_id : r'.payment_id = r.payment_id
  to_address : r'.to_address = r.to_address
  expected_amount_btc : r'.expected_amount_btc = r.expected_amount_btc
  amount_btc : r'.amount_btc = r.amount_btc
  category : r'.category = r.category
  payment_reference : r'.payment_reference = r.payment_reference
  from_peer : r'.from_peer = r.from_peer
  to_peer : r'.to_peer = r.to_peer

theorem SameTerms.refl (r : PaymentInfo) : SameTerms r r := by constructor <;> rfl

theorem SameTerms.trans {r₁ r₂ r₃ : PaymentInfo} (h : SameTerms r₁ r₂) (h' : SameTerms r₂ r₃) :
    SameTerms r₁ r₃ where
  payment_id := h'.payment_id.trans h.payment_id
  to_address := h'.to_address.trans h.to_address
  expected_amount_btc := h'.expected_amount_btc.trans h.expected_amount_btc
  amount_btc := h'.amount_btc.trans h.amount_btc
  category := h'.category.trans h.category
  payment_reference := h'.payment_reference.trans h.payment_reference
  from_peer := h'.from_peer.trans h.from_peer
  to_peer := h'.to_peer.trans h.to_peer

theorem sameTerms_confirmed_row (n : PaymentNotification F64) (r : PaymentInfo) :
    SameTerms r (confirmed_row n r) := by constructor <;> rfl

/-- Writing a confirmed row back replaces the row by it. -/
@[simp] theorem changeset_confirmed_row (n : PaymentNotification F64) (r : PaymentInfo) :
    (confirmed_row n r).changeset r = confirmed_row n r := by
  simp [PaymentInfo.changeset, confirmed_row]

/-- After a notification rewrote row `r`, a lookup finds the old row, or the
    confirmed one if it was `r`. -/
theorem find_confirm_payment {db : Database} {n : PaymentNotification F64} {r : PaymentInfo}
    (hr : db.payments.find PaymentInfo.payment_id n.payment_reference = some r) (id : String) :
    (confirm_payment db n r).payments.find PaymentInfo.payment_id id =
      if id = n.payment_reference then some (confirmed_row n r)
      else db.payments.find PaymentInfo.payment_id id := by
  obtain ⟨-, hid⟩ := Table.find_mem hr
  rw [confirm_payment, Table.find_update (by simp)]
  by_cases h : id = n.payment_reference
  · rw [if_pos h, h, hr]
    simp
  · rw [if_neg h]
    cases hfind : db.payments.find PaymentInfo.payment_id id with
    | none => rfl
    | some x =>
      obtain ⟨-, hx⟩ := Table.find_mem hfind
      have hne : x.payment_id ≠ r.payment_id := by rw [hx, hid]; exact h
      simp [hne]

variable {cfg : OrcaNetConfig} {env : Env} {peer : PeerId} {db db' : Database}
  {req : OrcaNetRequest F64} {resp : Option (OrcaNetResponse F64)}

/-- No request removes a payment row or rewrites its terms. -/
theorem find_payment_of_effect (h : Effect cfg env peer db req resp db') {id : String}
    {r : PaymentInfo} (hr : db.payments.find PaymentInfo.payment_id id = some r) :
    ∃ r', db'.payments.find PaymentInfo.payment_id id = some r' ∧ SameTerms r r' := by
  have hconfirm : ∀ {n : PaymentNotification F64} {x : PaymentInfo},
      PaymentsTable.get_payment_info env n.payment_reference db = .ok x →
      ∃ r', (confirm_payment db n x).payments.find PaymentInfo.payment_id id = some r' ∧
        SameTerms r r' := by
    intro n x hx
    have hfind := (first_eq_ok.mp hx).2
    rw [find_confirm_payment hfind]
    by_cases hid : id = n.payment_reference
    · obtain rfl := Option.some.inj (hr.symm.trans (hid ▸ hfind))
      exact ⟨_, if_pos hid, sameTerms_confirmed_row n r⟩
    · exact ⟨r, by rw [if_neg hid, hr], .refl r⟩
  cases h with
  | inert hresp hclients hpayments => exact ⟨r, by rw [hpayments, hr], .refl r⟩
  | provide hinsert => exact ⟨r, hr, .refl r⟩
  | over_threshold hask hover => exact ⟨r, hr, .refl r⟩
  | reference hask hwithin hstores hinsert =>
    exact ⟨r, Table.find_insert_of_some hinsert hr, .refl r⟩
  | mismatch hask hpay hrow => exact ⟨r, hr, .refl r⟩
  -- a notification rewrites one row and keeps its terms
  | uncredited hcon hfault => exact hconfirm hcon.row
  | credited hcon hcredit => exact hconfirm hcon.row

theorem find_payment_of_next {s s' : State} {l : Label} (hnext : system.next s l = some s')
    {id : String} {r : PaymentInfo}
    (hr : s.db.payments.find PaymentInfo.payment_id id = some r) :
    ∃ r', s'.db.payments.find PaymentInfo.payment_id id = some r' ∧ SameTerms r r' := by
  cases l with
  | request cfg env req peer =>
    obtain rfl := Option.some.inj hnext
    exact find_payment_of_effect (handle_request_effect _ _ _ _ req) hr
  | data_transferred client_id kb =>
    obtain rfl := Option.some.inj hnext
    exact ⟨r, hr, .refl r⟩

/-- Over any later requests a payment row stays, with its terms. -/
theorem find_payment_of_run {s s' : State} (ls : List Label) (hrun : system.run s ls = some s')
    {id : String} {r : PaymentInfo}
    (hr : s.db.payments.find PaymentInfo.payment_id id = some r) :
    ∃ r', s'.db.payments.find PaymentInfo.payment_id id = some r' ∧ SameTerms r r' := by
  -- induction over the run; the row may be rewritten, so it is found anew in each state
  refine system.run_invariant (J := fun t => ∃ r',
    t.db.payments.find PaymentInfo.payment_id id = some r' ∧ SameTerms r r') ?_ ls
    ⟨r, hr, .refl r⟩ hrun
  rintro t l t' ⟨x, hx, hterms⟩ hnext
  obtain ⟨x', hx', hterms'⟩ := find_payment_of_next hnext hx
  exact ⟨x', hx', hterms.trans hterms'⟩

/-! ## Section 3: References -/

/-- A notification that is handled in `env` gets as far as the lookup of its
    payment row, and the lookup fails. -/
structure LookupFails (env : Env) : Prop where
  clients_connection : env.db_fault (.create_sqlite_connection .proxy_clients) = none
  get_client : env.db_fault .get_client_by_auth_token = none
  payments_connection : env.db_fault (.create_sqlite_connection .payments) = none
  get_payment_info : env.db_fault .get_payment_info ≠ none

/-- The reference can be redeemed in every later state: its row records the
    requested amount, and no notification that names it is answered with a
    mismatch when it is handled in `notified`. -/
structure Redeemable (notified : Env) (s : State) (pr : PaymentRequest F64) : Prop where
  row : ∀ ls s', system.run s ls = some s' →
    ∃ r, s'.db.payments.find PaymentInfo.payment_id pr.payment_reference = some r ∧
      r.expected_amount_btc = some pr.amount_to_send
  no_mismatch : ∀ ls s', system.run s ls = some s' →
    ∀ cfg peer client_id tok (n : PaymentNotification F64),
      n.payment_reference = pr.payment_reference →
      response (handle_request cfg notified (.HTTPProxyPostPaymentNotification client_id tok n)
        peer s'.db) ≠ some (.Error .PaymentReferenceMismatch)

/-- Every reference that the answer to a pre-payment request hands out can be
    redeemed from then on. -/
def HandsOutRedeemable (cfg : OrcaNetConfig) (env notified : Env) (peer : PeerId) (s : State)
    (client_id tok : String) (data fee : F64) : Prop :=
  ∀ s' d f pr,
    next s (.request cfg env (.HTTPProxyPrePaymentRequest client_id tok data fee) peer) = some s' →
    response (handle_request cfg env (.HTTPProxyPrePaymentRequest client_id tok data fee) peer
      s.db) = some (.HTTPProxyPrePaymentResponse d f (.Accepted pr)) →
    Redeemable notified s' pr

/-- A notification whose reference has a row is not answered with a mismatch. -/
theorem no_mismatch_of_find {client_id tok : String} {n : PaymentNotification F64} {r : PaymentInfo}
    (hlookup : ¬ LookupFails env)
    (hr : db.payments.find PaymentInfo.payment_id n.payment_reference = some r) :
    response (handle_request cfg env (.HTTPProxyPostPaymentNotification client_id tok n) peer db)
      ≠ some (.Error .PaymentReferenceMismatch) := by
  intro hresp
  have heff := handle_request_effect cfg env peer db
    (.HTTPProxyPostPaymentNotification client_id tok n)
  rw [hresp] at heff
  generalize final _ = db' at heff
  cases heff with
  | inert hinert => exact hinert.2.1 rfl
  | mismatch hask hpay herr =>
    refine hlookup ⟨hask.clients_connection, (first_eq_ok.mp hask.client).1, hpay, fun hwork => ?_⟩
    have hrow : PaymentsTable.get_payment_info env n.payment_reference db = .ok r :=
      first_eq_ok.mpr ⟨hwork, hr⟩
    cases hrow.symm.trans herr

/-- A notification whose lookup fails is answered with a mismatch, whatever row
    its reference has. -/
theorem mismatch_of_lookupFails {client_id tok : String} {n : PaymentNotification F64}
    {c : ProxyClientInfo} (hlookup : LookupFails env)
    (hc : db.proxy_clients.find ProxyClientInfo.auth_token tok = some c) :
    response (handle_request cfg env (.HTTPProxyPostPaymentNotification client_id tok n) peer db)
      = some (.Error .PaymentReferenceMismatch) := by
  obtain ⟨e, he⟩ := Option.ne_none_iff_exists'.mp hlookup.get_payment_info
  have hask : Asks env db tok c :=
    ⟨hlookup.clients_connection, first_eq_ok.mpr ⟨hlookup.get_client, hc⟩⟩
  have hrow : PaymentsTable.get_payment_info env n.payment_reference db = .error e := by
    simp [PaymentsTable.get_payment_info, first, he]
  rw [notification_mismatch cfg peer client_id hask hlookup.payments_connection hrow, response_ok]

/-- An accepting answer to a pre-payment request is the one with the fresh
    reference, and comes from one of the two accepting branches. -/
theorem accepted_of_response {client_id tok : String} {data fee d f : F64}
    {pr : PaymentRequest F64}
    (h : Effect cfg env peer db (.HTTPProxyPrePaymentRequest client_id tok data fee)
      (some (.HTTPProxyPrePaymentResponse d f (.Accepted pr))) db') :
    ∃ c, Asks env db tok c ∧
      pr.payment_reference = env.new_uuid 0 ∧ pr.amount_to_send = c.get_fee_owed ∧
      (OverThreshold c data fee ∧ db' = db ∨
        ¬ OverThreshold c data fee ∧ Stores env ∧
          db'.payments.find PaymentInfo.payment_id (env.new_uuid 0) =
            some (reference_row cfg env c.get_fee_owed peer)) := by
  generalize hresp : some (OrcaNetResponse.HTTPProxyPrePaymentResponse d f (.Accepted pr)) = resp
    at h
  cases h with
  | inert hinert => exact absurd hresp.symm (hinert.2.2 _ _ _)
  | over_threshold hask hover =>
    cases hresp
    exact ⟨_, hask, rfl, rfl, Or.inl ⟨hover, rfl⟩⟩
  | reference hask hwithin hstores hinsert =>
    cases hresp
    exact ⟨_, hask, rfl, rfl,
      Or.inr ⟨hwithin, hstores, Table.find_insert_self hinsert (by simp)⟩⟩

/-- A payment row makes its reference redeemable for the amount it expects. -/
theorem redeemable_of_find {s : State} {pr : PaymentRequest F64} {r : PaymentInfo}
    (hlookup : ¬ LookupFails env)
    (hr : s.db.payments.find PaymentInfo.payment_id pr.payment_reference = some r)
    (hamount : r.expected_amount_btc = some pr.amount_to_send) : Redeemable env s pr where
  row := fun ls s' hrun => by
    obtain ⟨r', hr', hterms⟩ := find_payment_of_run ls hrun hr
    exact ⟨r', hr', hterms.expected_amount_btc.trans hamount⟩
  no_mismatch := fun ls s' hrun cfg peer client_id tok n hn => by
    obtain ⟨r', hr', -⟩ := find_payment_of_run ls hrun hr
    exact no_mismatch_of_find hlookup (hn ▸ hr')

/-- **References are redeemable.**  When the uuid is new, a pre-payment request
    hands out nothing but redeemable references exactly when neither of its
    claims is beyond the termination threshold for the client of its token, and,
    if the row of the reference is stored, the lookup of the notification works. -/
theorem hands_out_redeemable_iff (cfg : OrcaNetConfig) (env notified : Env) (peer : PeerId)
    (s : State) (client_id tok : String) (data fee : F64)
    (hfresh : s.db.payments.find PaymentInfo.payment_id (env.new_uuid 0) = none) :
    HandsOutRedeemable cfg env notified peer s client_id tok data fee ↔
      ∀ c, Asks env s.db tok c →
        ¬ OverThreshold c data fee ∧ (Stores env → ¬ LookupFails notified) := by
  constructor
  · intro h c hask
    have hwithin : ¬ OverThreshold c data fee := fun hover => by
      have hrun : handle_request cfg env (.HTTPProxyPrePaymentRequest client_id tok data fee) peer
          s.db = .ok (accepted cfg env c) s.db :=
        pre_payment_over hask.clients_connection hask.client hover
      have hred := h _ _ _ _ rfl (congrArg response hrun)
      -- the answer left no row behind
      obtain ⟨r, hr, -⟩ := hred.row [] _ rfl
      rw [hrun] at hr
      exact absurd (hr.symm.trans hfresh) (by simp)
    refine ⟨hwithin, fun hstores hlookup => ?_⟩
    obtain ⟨t, -, hrun⟩ := pre_payment_accepted cfg peer client_id hask hstores
      hwithin hfresh
    have hred := h _ _ _ _ rfl (congrArg response hrun)
    -- the client that asked redeems its reference at once
    refine hred.no_mismatch [] _ rfl cfg peer client_id tok
      ⟨"", "", 0, "", env.new_uuid 0⟩ rfl (mismatch_of_lookupFails (c := c) hlookup ?_)
    rw [hrun]
    exact (first_eq_ok.mp hask.client).2
  · intro h s' d f pr hnext hresp
    have heff := handle_request_effect cfg env peer s.db
      (.HTTPProxyPrePaymentRequest client_id tok data fee)
    rw [hresp] at heff
    -- the condition rules out the branch that stores nothing
    obtain ⟨c, hask, href, hamount, ⟨hover, -⟩ | ⟨-, hstores, hrow⟩⟩ := accepted_of_response heff
    · exact absurd hover (h c hask).1
    · obtain rfl := Option.some.inj hnext
      refine redeemable_of_find (r := reference_row cfg env c.get_fee_owed peer)
        ((h c hask).2 hstores) ?_ ?_
      · rw [href]; exact hrow
      · rw [hamount]; rfl

/-- A new client that used 4 kilobytes. -/
def sampleRun : List Label :=
  [.request sampleConfig (.working fun i => if i = 0 then "client" else "token")
    .HTTPProxyProvideRequest ⟨"peer"⟩,
   .data_transferred "client" 4]

def sampleProvider : State where
  db := { Database.empty with
    proxy_clients := ⟨[{ ProxyClientInfo.with_defaults "client" "token" "peer" 0 1 with
      data_transferred_kb := 4 }], by simp⟩ }
  issued := []
  credited := []

theorem reachable_sampleProvider : system.Reachable sampleProvider :=
  .run sampleRun (.init rfl) (by with_unfolding_all rfl)

/-- Within the threshold the reference is redeemable. -/
theorem hands_out_redeemable_iff_sampleProvider :
    HandsOutRedeemable sampleConfig (.working fun _ => "reference") (.working fun _ => "unused")
      ⟨"peer"⟩ sampleProvider "client" "token" 4 4 := by
  refine (hands_out_redeemable_iff sampleConfig (.working fun _ => "reference")
    (.working fun _ => "unused") ⟨"peer"⟩ sampleProvider "client" "token" 4 4
    (by with_unfolding_all rfl)).mpr fun c hask => ⟨?_, fun _ h => h.get_payment_info rfl⟩
  have hc : ∃ x, sampleProvider.db.proxy_clients.find ProxyClientInfo.auth_token "token" = some x ∧
      x.get_fee_owed = 4 ∧ x.data_transferred_kb = 4 :=
    ⟨_, rfl, by with_unfolding_all rfl, rfl⟩
  obtain ⟨x, hx, howed, hdata⟩ := hc
  obtain rfl := Option.some.inj (hx.symm.trans (first_eq_ok.mp hask.client).2)
  norm_num [OverThreshold, Utils.get_percent_diff, howed, hdata, PROXY_TERMINATION_PD_THRESHOLD]

/-- A claim of 100 kilobytes where 4 were used is answered with a reference that
    has no row. -/
theorem unredeemable_reference :
    system.Reachable sampleProvider ∧
      ¬ HandsOutRedeemable sampleConfig (.working fun _ => "reference")
        (.working fun _ => "unused") ⟨"peer"⟩ sampleProvider "client" "token" 100 4 := by
  refine ⟨reachable_sampleProvider, fun h => ?_⟩
  have hred : Redeemable (.working fun _ => "unused") sampleProvider
      ⟨4, "reference", "address"⟩ :=
    h sampleProvider 4 4 ⟨4, "reference", "address"⟩ (by with_unfolding_all rfl)
      (by with_unfolding_all rfl)
  obtain ⟨r, hr, -⟩ := hred.row [] _ rfl
  cases hr

end Provider

end OrcaNet
