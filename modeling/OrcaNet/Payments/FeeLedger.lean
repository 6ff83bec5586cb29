import OrcaNet.RequestHandler
import OrcaNet.Proxy.ProxyPayment
import OrcaNet.Framework.UsageLedger

/-! # The fee ledger

    What a session or a client row says is owed, over any sequence of traffic
    and payments, when every payment is what is owed at the moment.

    Each row is an account of `Framework.UsageLedger`: a step on the database
    is a step of the account of every row, or none, so the rows owe and have
    paid what accounts do. -/

namespace OrcaNet

open Transition UsageLedger RequestHandlerLoop ProxyPaymentLoop OrcaNetConfig

/-! ## Section 1: Rows as accounts -/

def ProxySessionInfo.account (s : ProxySessionInfo) : Account F64 where
  used := s.data_transferred_kb
  rate := s.fee_rate_per_kb
  paid := s.total_fee_sent + s.total_fee_sent_unconfirmed

def ProxyClientInfo.account (c : ProxyClientInfo) : Account F64 where
  used := c.data_transferred_kb
  rate := c.fee_rate_per_kb
  paid := c.total_fee_received + c.total_fee_received_unconfirmed

theorem ProxySessionInfo.get_fee_owed_eq (s : ProxySessionInfo) :
    s.get_fee_owed = s.account.owed BTC_PRECISION := by
  show max (Utils.round _ _) 0 = _
  rw [sub_sub]
  rfl

theorem ProxyClientInfo.get_fee_owed_eq (c : ProxyClientInfo) :
    c.get_fee_owed = c.account.owed BTC_PRECISION := by
  show max (Utils.round _ _) 0 = _
  rw [sub_sub]
  rfl

/-- Adding what is owed to the unconfirmed total pays the account. -/
theorem ProxySessionInfo.account_payment (s : ProxySessionInfo) :
    account { s with
      total_fee_sent_unconfirmed := s.total_fee_sent_unconfirmed + s.get_fee_owed } =
    s.account.pay BTC_PRECISION := by
  rw [Account.pay, ← s.get_fee_owed_eq, account, ← add_assoc]
  rfl

theorem ProxyClientInfo.account_payment (c : ProxyClientInfo) :
    account { c with
      total_fee_received_unconfirmed := c.total_fee_received_unconfirmed + c.get_fee_owed } =
    c.account.pay BTC_PRECISION := by
  rw [Account.pay, ← c.get_fee_owed_eq, account, ← add_assoc]
  rfl

namespace FeeLedger

/-! ## Section 2: System -/

inductive Label where
  | session_data (session_id : String) (kb : F64)
  | session_payment (env : Env) (session_id : String)
  | client_data (client_id : String) (kb : F64)
  | client_payment (env : Env) (auth_token : String)

/-- A payment looks its row up and adds what that row owes; one that fails is not
    a step. -/
def next (db : Database) : Label → Option Database
  | .session_data session_id kb =>
    if 0 ≤ kb then some (ProxySessionsTable.update_data_transfer_info session_id kb db) else none
  | .session_payment env session_id =>
    match ProxySessionsTable.get_session_info env session_id db with
    | .error _ => none
    | .ok s =>
      match ProxySessionsTable.update_total_fee_sent_unconfirmed env session_id s.get_fee_owed db
      with
      | (.error _, _) => none
      | (.ok _, db') => some db'
  | .client_data client_id kb =>
    if 0 ≤ kb then some (ProxyClientsTable.update_data_transfer_info client_id kb db) else none
  | .client_payment env auth_token =>
    match ProxyClientsTable.get_client_by_auth_token env auth_token db with
    | .error _ => none
    | .ok c =>
      match ProxyClientsTable.update_total_fee_received_unconfirmed env c.client_id
        c.get_fee_owed db with
      | (.error _, _) => none
      | (.ok _, db') => some db'

/-- No row has seen data or payments, and no rate is negative. -/
structure Fresh (db : Database) : Prop where
  sessions : ∀ s ∈ db.proxy_sessions.rows, s.data_transferred_kb = 0 ∧ s.total_fee_sent = 0 ∧
    s.total_fee_sent_unconfirmed = 0 ∧ 0 ≤ s.fee_rate_per_kb
  clients : ∀ c ∈ db.proxy_clients.rows, c.data_transferred_kb = 0 ∧ c.total_fee_received = 0 ∧
    c.total_fee_received_unconfirmed = 0 ∧ 0 ≤ c.fee_rate_per_kb

def system : System Database Label where
  init := Fresh
  next := next

/-- What a payment does: the row that was found is rewritten, and it is the only
    one. -/
theorem session_payment_eq {db db' : Database} {env : Env} {session_id : String}
    (h : next db (.session_payment env session_id) = some db') :
    ∃ s, db.proxy_sessions.find ProxySessionInfo.session_id session_id = some s ∧
      db' = add_fee_sent db session_id s.get_fee_owed := by
  unfold next at h
  cases hs : ProxySessionsTable.get_session_info env session_id db with
  | error e => simp only [hs, reduceCtorEq] at h
  | ok s =>
    simp only [hs, ProxySessionsTable.update_total_fee_sent_unconfirmed, execute] at h
    cases hfault : env.db_fault .update_total_fee_sent_unconfirmed with
    | some e => simp only [hfault, reduceCtorEq] at h
    | none =>
      simp only [hfault, Option.some.injEq] at h
      exact ⟨s, (first_eq_ok.mp hs).2, h.symm⟩

theorem client_payment_eq {db db' : Database} {env : Env} {auth_token : String}
    (h : next db (.client_payment env auth_token) = some db') :
    ∃ c, db.proxy_clients.find ProxyClientInfo.auth_token auth_token = some c ∧
      db' = credit_client db c.client_id c.get_fee_owed := by
  unfold next at h
  cases hc : ProxyClientsTable.get_client_by_auth_token env auth_token db with
  | error e => simp only [hc, reduceCtorEq] at h
  | ok c =>
    simp only [hc, ProxyClientsTable.update_total_fee_received_unconfirmed, execute] at h
    cases hfault : env.db_fault .update_total_fee_received_unconfirmed with
    | some e => simp only [hfault, reduceCtorEq] at h
    | none =>
      simp only [hfault, Option.some.injEq] at h
      exact ⟨c, (first_eq_ok.mp hc).2, h.symm⟩

/-! ## Section 3: Rows step as accounts -/

variable {db db' : Database} {l : Label}

/-- The rows after a payment: the one that was found is paid, and the others are
    as before. -/
theorem mem_add_fee_sent {session_id : String} {amount : F64} {s s' : ProxySessionInfo}
    (hs : db.proxy_sessions.find ProxySessionInfo.session_id session_id = some s)
    (hs' : s' ∈ (add_fee_sent db session_id amount).proxy_sessions.rows) :
    s' = { s with total_fee_sent_unconfirmed := s.total_fee_sent_unconfirmed + amount } ∨
      s' ∈ db.proxy_sessions.rows := by
  rw [add_fee_sent, Table.mem_update_of_find (by simp) hs] at hs'
  exact hs'.imp_right And.left

theorem mem_credit_client {auth_token : String} {amount : F64} {c c' : ProxyClientInfo}
    (hc : db.proxy_clients.find ProxyClientInfo.auth_token auth_token = some c)
    (hc' : c' ∈ (credit_client db c.client_id amount).proxy_clients.rows) :
    c' = { c with
        total_fee_received_unconfirmed := c.total_fee_received_unconfirmed + amount } ∨
      c' ∈ db.proxy_clients.rows := by
  have hid : db.proxy_clients.find ProxyClientInfo.client_id c.client_id = some c :=
    (Table.find_eq_some_iff (by simp)).mpr ⟨(Table.find_mem hc).1, rfl⟩
  rw [credit_client, Table.mem_update_of_find (by simp) hid] at hc'
  exact hc'.imp_right And.left

/-- The row that was paid is found as before, with the payment. -/
theorem find_add_fee_sent {session_id : String} {amount : F64} {s : ProxySessionInfo}
    (hs : db.proxy_sessions.find ProxySessionInfo.session_id session_id = some s) :
    (add_fee_sent db session_id amount).proxy_sessions.find ProxySessionInfo.session_id
        session_id =
      some { s with total_fee_sent_unconfirmed := s.total_fee_sent_unconfirmed + amount } := by
  rw [add_fee_sent, Table.find_update (by simp), hs, Option.map_some,
    if_pos (Table.find_mem hs).2]

theorem find_credit_client {auth_token : String} {amount : F64} {c : ProxyClientInfo}
    (hc : db.proxy_clients.find ProxyClientInfo.auth_token auth_token = some c) :
    (credit_client db c.client_id amount).proxy_clients.find ProxyClientInfo.auth_token
        auth_token =
      some { c with
        total_fee_received_unconfirmed := c.total_fee_received_unconfirmed + amount } := by
  rw [credit_client, Table.find_update (by simp), hc, Option.map_some, if_pos rfl]

/-- Nothing happened to the account, or one of its steps. -/
def Moved (a a' : Account F64) : Prop :=
  a' = a ∨ ∃ k, (UsageLedger.system BTC_PRECISION).next a k = some a'

theorem session_of_next (h : next db l = some db') {s' : ProxySessionInfo}
    (hs' : s' ∈ db'.proxy_sessions.rows) :
    ∃ s ∈ db.proxy_sessions.rows, Moved s.account s'.account := by
  cases l with
  | session_data session_id kb =>
    obtain ⟨hkb, heq⟩ := Option.ite_none_right_eq_some.mp h
    obtain rfl := Option.some.inj heq
    rw [ProxySessionsTable.update_data_transfer_info, Table.mem_update] at hs'
    obtain ⟨s, hs, rfl⟩ := hs'
    refine ⟨s, hs, ?_⟩
    split
    · exact Or.inr ⟨.use kb, if_pos hkb⟩
    · exact Or.inl rfl
  | session_payment env session_id =>
    obtain ⟨s, hs, rfl⟩ := session_payment_eq h
    rcases mem_add_fee_sent hs hs' with rfl | hold
    · exact ⟨s, (Table.find_mem hs).1, Or.inr ⟨.pay, congrArg some s.account_payment.symm⟩⟩
    · exact ⟨s', hold, Or.inl rfl⟩
  | client_data client_id kb =>
    obtain ⟨-, heq⟩ := Option.ite_none_right_eq_some.mp h
    obtain rfl := Option.some.inj heq
    exact ⟨s', hs', Or.inl rfl⟩
  | client_payment env auth_token =>
    obtain ⟨c, -, rfl⟩ := client_payment_eq h
    exact ⟨s', hs', Or.inl rfl⟩

theorem client_of_next (h : next db l = some db') {c' : ProxyClientInfo}
    (hc' : c' ∈ db'.proxy_clients.rows) :
    ∃ c ∈ db.proxy_clients.rows, Moved c.account c'.account := by
  cases l with
  | session_data session_id kb =>
    obtain ⟨-, heq⟩ := Option.ite_none_right_eq_some.mp h
    obtain rfl := Option.some.inj heq
    exact ⟨c', hc', Or.inl rfl⟩
  | session_payment env session_id =>
    obtain ⟨s, -, rfl⟩ := session_payment_eq h
    exact ⟨c', hc', Or.inl rfl⟩
  | client_data client_id kb =>
    obtain ⟨hkb, heq⟩ := Option.ite_none_right_eq_some.mp h
    obtain rfl := Option.some.inj heq
    rw [ProxyClientsTable.update_data_transfer_info, Table.mem_update] at hc'
    obtain ⟨c, hc, rfl⟩ := hc'
    refine ⟨c, hc, ?_⟩
    split
    · exact Or.inr ⟨.use kb, if_pos hkb⟩
    · exact Or.inl rfl
  | client_payment env auth_token =>
    obtain ⟨c, hc, rfl⟩ := client_payment_eq h
    rcases mem_credit_client hc hc' with rfl | hold
    · exact ⟨c, (Table.find_mem hc).1, Or.inr ⟨.pay, congrArg some c.account_payment.symm⟩⟩
    · exact ⟨c', hold, Or.inl rfl⟩

theorem Moved.reachable {a a' : Account F64} (h : Moved a a')
    (ha : (UsageLedger.system BTC_PRECISION).Reachable a) :
    (UsageLedger.system BTC_PRECISION).Reachable a' := by
  rcases h with rfl | ⟨k, hk⟩
  · exact ha
  · exact .step ha hk

/-- Every row of a reachable database is a reachable account. -/
theorem accounts_reachable (h : system.Reachable db) :
    (∀ s ∈ db.proxy_sessions.rows, (UsageLedger.system BTC_PRECISION).Reachable s.account) ∧
      ∀ c ∈ db.proxy_clients.rows, (UsageLedger.system BTC_PRECISION).Reachable c.account := by
  refine System.Reachable.invariant (J := fun db =>
    (∀ s ∈ db.proxy_sessions.rows, (UsageLedger.system BTC_PRECISION).Reachable s.account) ∧
      ∀ c ∈ db.proxy_clients.rows, (UsageLedger.system BTC_PRECISION).Reachable c.account) ?_ ?_ h
  · intro db hfresh
    constructor
    · intro s hs
      obtain ⟨hdata, hsent, hunconfirmed, hrate⟩ := hfresh.sessions s hs
      exact .init ⟨hdata, by simp [ProxySessionInfo.account, hsent, hunconfirmed], hrate⟩
    · intro c hc
      obtain ⟨hdata, hreceived, hunconfirmed, hrate⟩ := hfresh.clients c hc
      exact .init ⟨hdata, by simp [ProxyClientInfo.account, hreceived, hunconfirmed], hrate⟩
  · intro db l db' _ hinv hnext
    constructor
    · intro s' hs'
      obtain ⟨s, hs, hmoved⟩ := session_of_next hnext hs'
      exact hmoved.reachable (hinv.1 s hs)
    · intro c' hc'
      obtain ⟨c, hc, hmoved⟩ := client_of_next hnext hc'
      exact hmoved.reachable (hinv.2 c hc)

/-! ## Section 4: No drift -/

/-- A row with the given account, whose `get_fee_owed` depends on the data
    transferred as given, owes whole units, owes more for more data, and is paid
    at most half a unit ahead. -/
structure NoDrift (fee_owed : F64 → F64) (a : Account F64) : Prop where
  multiple : ∃ n : ℕ, fee_owed a.used = n / 10 ^ BTC_PRECISION
  monotone : ∀ data, a.used ≤ data → fee_owed a.used ≤ fee_owed data
  ahead : a.paid - a.used * a.rate ≤ 1 / 2 / 10 ^ BTC_PRECISION

/-- Nothing is owed, and the price is paid up to half a unit. -/
structure PaidUp (fee_owed : F64) (a : Account F64) : Prop where
  owed : fee_owed = 0
  paid : |a.paid - a.used * a.rate| ≤ 1 / 2 / 10 ^ BTC_PRECISION

/-- The ledger of all rows, and after any payment. -/
structure Ledger (db : Database) : Prop where
  sessions : ∀ s ∈ db.proxy_sessions.rows,
    NoDrift (fun data => { s with data_transferred_kb := data }.get_fee_owed) s.account
  clients : ∀ c ∈ db.proxy_clients.rows,
    NoDrift (fun data => { c with data_transferred_kb := data }.get_fee_owed) c.account
  session_payment : ∀ env session_id db', next db (.session_payment env session_id) = some db' →
    ∃ s, db'.proxy_sessions.find ProxySessionInfo.session_id session_id = some s ∧
      PaidUp s.get_fee_owed s.account
  client_payment : ∀ env auth_token db', next db (.client_payment env auth_token) = some db' →
    ∃ c, db'.proxy_clients.find ProxyClientInfo.auth_token auth_token = some c ∧
      PaidUp c.get_fee_owed c.account

theorem noDrift_of_balanced {a : Account F64} (h : Balanced BTC_PRECISION a) :
    NoDrift (fun data => Account.owed BTC_PRECISION { a with used := data }) a where
  multiple := Decimal.max_roundTo_zero BTC_PRECISION (a.price - a.paid)
  monotone _ hdata := owed_le_owed_of_used_le h.rate hdata
  ahead := h.ahead

theorem paidUp_of_settled {a : Account F64} (h : Settled BTC_PRECISION a) :
    PaidUp (a.owed BTC_PRECISION) a :=
  ⟨h.owed, h.paid⟩

/-- **No drift.**  After any traffic and any payments of what is owed, no row is
    more than half a unit ahead, and a payment leaves nothing to pay. -/
theorem fee_ledger_of_reachable (h : system.Reachable db) : Ledger db where
  sessions s hs := by
    have hdrift := noDrift_of_balanced
      (balanced_of_reachable ((accounts_reachable h).1 s hs))
    -- the fee owed, as a function of the data transferred, is that of the account
    have hfee : (fun data => { s with data_transferred_kb := data }.get_fee_owed) =
        fun data => Account.owed BTC_PRECISION { s.account with used := data } :=
      funext fun data => ProxySessionInfo.get_fee_owed_eq _
    rw [hfee]
    exact hdrift
  clients c hc := by
    have hdrift := noDrift_of_balanced
      (balanced_of_reachable ((accounts_reachable h).2 c hc))
    have hfee : (fun data => { c with data_transferred_kb := data }.get_fee_owed) =
        fun data => Account.owed BTC_PRECISION { c.account with used := data } :=
      funext fun data => ProxyClientInfo.get_fee_owed_eq _
    rw [hfee]
    exact hdrift
  session_payment env session_id db' hnext := by
    obtain ⟨s, hs, rfl⟩ := session_payment_eq hnext
    have hbalanced := balanced_of_reachable ((accounts_reachable h).1 s (Table.find_mem hs).1)
    refine ⟨_, find_add_fee_sent hs, ?_⟩
    rw [ProxySessionInfo.get_fee_owed_eq, ProxySessionInfo.account_payment]
    exact paidUp_of_settled hbalanced.settled_pay
  client_payment env auth_token db' hnext := by
    obtain ⟨c, hc, rfl⟩ := client_payment_eq hnext
    have hbalanced := balanced_of_reachable ((accounts_reachable h).2 c (Table.find_mem hc).1)
    refine ⟨_, find_credit_client hc, ?_⟩
    rw [ProxyClientInfo.get_fee_owed_eq, ProxyClientInfo.account_payment]
    exact paidUp_of_settled hbalanced.settled_pay

section samples

/-- A new session and a new client, both at a third of a coin for a kilobyte. -/
def sampleLedger : Database :=
  { Database.empty with
    proxy_sessions := .single ⟨"session", "client", "token", "address", 0, none, 0, 0, 0, 1 / 3,
      "provider", "address", 1⟩
    proxy_clients := .single (ProxyClientInfo.with_defaults "client" "token" "peer" 0 (1 / 3)) }

/-- Two kilobytes, each paid on its own. -/
def sampleLabels : List Label :=
  [.session_data "session" 1, .session_payment (.working fun _ => "uuid") "session",
    .session_data "session" 1, .session_payment (.working fun _ => "uuid") "session",
    .client_data "client" 1, .client_payment (.working fun _ => "uuid") "token"]

theorem fee_ledger_sampleLabels :
    ∃ db, system.run sampleLedger sampleLabels = some db ∧
      db.proxy_sessions.rows.map ProxySessionInfo.total_fee_sent_unconfirmed =
        [66666667 / 100000000] ∧ Ledger db := by
  have hinit : system.Reachable sampleLedger := by
    refine .init ⟨?_, ?_⟩
    · intro s hs
      obtain rfl := List.mem_singleton.mp hs
      norm_num
    · intro c hc
      obtain rfl := List.mem_singleton.mp hc
      norm_num [ProxyClientInfo.with_defaults]
  obtain ⟨db, hrun, htotal⟩ : ∃ db, system.run sampleLedger sampleLabels = some db ∧
      db.proxy_sessions.rows.map ProxySessionInfo.total_fee_sent_unconfirmed =
        [66666667 / 100000000] :=
    ⟨_, by with_unfolding_all rfl, by with_unfolding_all rfl⟩
  exact ⟨db, hrun, htotal, fee_ledger_of_reachable (hinit.run sampleLabels hrun)⟩

end samples

end FeeLedger

end OrcaNet
