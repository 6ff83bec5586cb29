import OrcaNet.Payments.Provider

/-! # Failing payment requests

    What a payment request leaves behind when it fails.  A notification writes
    two tables with separate statements and returns early when the second one
    fails, so its reference may be used up without a credit. -/

namespace OrcaNet

open HandlerM RequestHandlerLoop OrcaNetConfig

namespace Atomicity

section effects

variable {cfg : OrcaNetConfig} {env : Env} {peer : PeerId} {db : Database}

/-- Clients and payments are as before. -/
def Untouched (db db' : Database) : Prop :=
  db'.proxy_clients = db.proxy_clients ∧ db'.payments = db.payments

/-- A request that returns an error changes neither clients nor payments. -/
def Atomic (cfg : OrcaNetConfig) (env : Env) (peer : PeerId) (db : Database)
    (req : OrcaNetRequest F64) : Prop :=
  ∀ e db', handle_payment_request cfg env req peer db = .error (.err e) db' → Untouched db db'

/-- Every failure that is not the credit's comes before the first write. -/
theorem untouched_of_effect {req : OrcaNetRequest F64} {e : String} {db' : Database}
    (h : Effect cfg env peer db req (some (.Error (.InternalServerError e))) db') :
    Untouched db db' ∨ ∃ client_id tok n c r,
      req = .HTTPProxyPostPaymentNotification client_id tok n ∧ Confirms env db tok n c r ∧
      env.db_fault .update_total_fee_received_unconfirmed = some e ∧
      db' = confirm_payment db n r := by
  generalize hresp : some (OrcaNetResponse.Error (.InternalServerError e)) = resp at h
  cases h with
  | inert hinert hclients hpayments => exact Or.inl ⟨hclients, hpayments⟩
  | provide hinsert => cases hresp
  | over_threshold hask hover => exact Or.inl ⟨rfl, rfl⟩
  | reference hask hwithin hstores hinsert => cases hresp
  | mismatch hask hpay hrow => exact Or.inl ⟨rfl, rfl⟩
  | uncredited hconfirm hfault =>
    obtain rfl := OrcaNetError.InternalServerError.inj (OrcaNetResponse.Error.inj
      (Option.some.inj hresp))
    exact Or.inr ⟨_, _, _, _, _, rfl, hconfirm, hfault, rfl⟩
  | credited hconfirm hcredit => cases hresp

/-- A notification whose row is rewritten fails when the credit fails. -/
theorem notification_uncredited {client_id tok : String} {n : PaymentNotification F64}
    {c : ProxyClientInfo} {r : PaymentInfo} {e : String} (h : Confirms env db tok n c r)
    (hfault : env.db_fault .update_total_fee_received_unconfirmed = some e) :
    handle_payment_request cfg env (.HTTPProxyPostPaymentNotification client_id tok n) peer db =
      .error (.err e) (confirm_payment db n r) := by
  simp only [handle_payment_request, handle_post_payment_notification,
    create_sqlite_connection_ok h.clients_connection,
    create_sqlite_connection_ok h.payments_connection, bind_run, pure_run, read_run, write_run,
    h.client, h.row, question_ok, PaymentsTable.update_payment_info, execute, h.update,
    ProxyClientsTable.update_total_fee_received_unconfirmed, hfault]
  rfl

/-- Rewriting a row that says the same already changes nothing. -/
theorem untouched_confirm_payment_iff {n : PaymentNotification F64} {r : PaymentInfo}
    (hr : db.payments.find PaymentInfo.payment_id n.payment_reference = some r) :
    Untouched db (confirm_payment db n r) ↔ confirmed_row n r = r := by
  constructor
  · intro h
    have hfind := Provider.find_confirm_payment hr n.payment_reference
    rw [h.2, hr, if_pos rfl] at hfind
    exact (Option.some.inj hfind).symm
  · intro hsame
    have hfix : (confirmed_row n r).changeset r = r :=
      (Provider.changeset_confirmed_row n r).trans hsame
    refine ⟨rfl, ?_⟩
    rw [confirm_payment, Table.update_eq_self (by simp) (Table.find_own hr) hfix]

variable (cfg env peer db) in
/-- **Atomicity.**  A payment request that fails leaves clients and payments as they
    were, exactly if it is no notification whose row is rewritten to something
    else before the credit fails. -/
theorem atomic_iff (req : OrcaNetRequest F64) :
    Atomic cfg env peer db req ↔ ∀ client_id tok n,
      req = .HTTPProxyPostPaymentNotification client_id tok n →
      ∀ c r, Confirms env db tok n c r →
        env.db_fault .update_total_fee_received_unconfirmed ≠ none → confirmed_row n r = r := by
  constructor
  · rintro h client_id tok n rfl c r hconfirm hfault
    obtain ⟨e, he⟩ := Option.ne_none_iff_exists'.mp hfault
    have huntouched := h e _ (notification_uncredited hconfirm he)
    exact (untouched_confirm_payment_iff (first_eq_ok.mp hconfirm.row).2).mp huntouched
  · intro h e db' herr
    have hpayment : Effect cfg env peer db req
        (response (handle_payment_request cfg env req peer db))
        (final (handle_payment_request cfg env req peer db)) := by
      cases req with
      | HTTPProxyPrePaymentRequest client_id tok data fee =>
        exact handle_pre_payment_request_effect client_id tok data fee
      | HTTPProxyPostPaymentNotification client_id tok n =>
        exact handle_post_payment_notification_effect client_id tok n
      | _ => exact .of_error _
    rw [herr] at hpayment
    rcases untouched_of_effect hpayment with hsame | ⟨client_id, tok, n, c, r, rfl, hconfirm,
      hfault, rfl⟩
    · exact hsame
    · refine (untouched_confirm_payment_iff (first_eq_ok.mp hconfirm.row).2).mpr ?_
      exact h client_id tok n rfl c r hconfirm (by simp [hfault])

end effects

section samples

/-- A provider that handed out one reference. -/
def sampleDatabase : Database :=
  { Database.empty with
    proxy_clients := .single (ProxyClientInfo.with_defaults "client" "token" "peer" 0 1)
    payments := .single (reference_row sampleConfig (.working fun _ => "reference") 0 ⟨"peer"⟩) }

/-- The credit of the client fails. -/
def sampleEnv : Env :=
  { Env.working fun _ => "uuid" with
    db_fault := fun c =>
      if c = .update_total_fee_received_unconfirmed then some "database is locked" else none }

def sampleNotification : OrcaNetRequest F64 :=
  .HTTPProxyPostPaymentNotification "client" "token" ⟨"sender", "address", 1, "tx", "reference"⟩

/-- The peer gets an error, and the reference is used up. -/
theorem not_atomic_sampleNotification :
    ¬ Atomic sampleConfig sampleEnv ⟨"peer"⟩ sampleDatabase sampleNotification := by
  intro h
  have hconfirm : Confirms sampleEnv sampleDatabase "token" ⟨"sender", "address", 1, "tx",
      "reference"⟩ (ProxyClientInfo.with_defaults "client" "token" "peer" 0 1)
      (reference_row sampleConfig (.working fun _ => "reference") 0 ⟨"peer"⟩) :=
    ⟨rfl, rfl, rfl, rfl, rfl⟩
  have huntouched := h "database is locked" _ (notification_uncredited hconfirm rfl)
  have hsame := (untouched_confirm_payment_iff (first_eq_ok.mp hconfirm.row).2).mp huntouched
  exact absurd (congrArg PaymentInfo.tx_id hsame) (by decide)

end samples

end Atomicity

end OrcaNet
