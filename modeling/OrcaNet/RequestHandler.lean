import OrcaNet.Db.DbClient

/-! # Request handler

    `RequestHandlerLoop::handle_request` and the handlers it dispatches to
    (`request_handler.rs`): file requests, proxy requests and the two steps of
    the proxy payment protocol.

    Each handler comes with one lemma that lists everything a call can do,
    guards included; every later result about requests is derived from these
    lists and never unfolds a handler. -/

namespace OrcaNet

open HandlerM OrcaNetConfig

namespace RequestHandlerLoop

/-! ## Section 1: Handlers -/

def handle_file_request (cfg : OrcaNetConfig) (env : Env) (request : OrcaNetRequest F64)
    (_from_peer : PeerId) : HandlerM (OrcaNetResponse F64) := do
  let file_id ← match request with
    | .FileMetadataRequest file_id => pure file_id
    | .FileContentRequest file_id => pure file_id
    | _ => throw (.panic "Expected file request")
  create_sqlite_connection env .provided_files
  match ← read (ProvidedFilesTable.get_provided_file_info env file_id) with
  -- any lookup error counts as a file that is not provided
  | .error _ =>
    return .Error (.NotAProvider "Not a provider of requested file")
  | .ok file_info =>
    let file_metadata : FileMetadata F64 := {
      file_id := file_id
      file_name := file_info.file_name
      fee_rate_per_kb := cfg.get_file_fee_rate
      recipient_address := cfg.get_btc_address }
    match request with
    | .FileMetadataRequest _ => return .FileMetadataResponse file_metadata
    | .FileContentRequest _ =>
      let content ← question (env.fs_read file_info.file_path)
      -- the result of the count is not looked at
      let _ ← write (ProvidedFilesTable.increment_download_count env file_id)
      return .FileContentResponse file_metadata content
    | _ => throw (.panic "Expected file request")

def handle_http_proxy_request (cfg : OrcaNetConfig) (env : Env) (request : OrcaNetRequest F64)
    (from_peer : PeerId) : HandlerM (OrcaNetResponse F64) := do
  match cfg.get_proxy_config with
  | some .ProxyProvider =>
    let metadata : HTTPProxyMetadata F64 := {
      proxy_address := cfg.ProxyProviderServerAddress
      fee_rate_per_kb := cfg.get_proxy_fee_rate
      recipient_address := cfg.get_btc_address }
    match request with
    | .HTTPProxyMetadataRequest => return .HTTPProxyMetadataResponse metadata
    | .HTTPProxyProvideRequest =>
      let client_id := env.new_uuid 0
      let auth_token := env.new_uuid 1
      create_sqlite_connection env .proxy_clients
      let proxy_client_info := ProxyClientInfo.with_defaults client_id auth_token
        from_peer.to_string env.get_unix_timestamp cfg.get_proxy_fee_rate
      question (← write (ProxyClientsTable.add_client env proxy_client_info))
      return .HTTPProxyProvideResponse metadata client_id auth_token
    | _ => throw (.panic "Expected only proxy requests in handle_proxy_requests")
  | _ => return .Error (.NotAProvider "Not a proxy provider")

/-- The row a pre-payment request leaves for the reference it hands out. -/
def reference_row (cfg : OrcaNetConfig) (env : Env) (amount_to_send : F64)
    (from_peer : PeerId) : PaymentInfo where
  payment_id := env.new_uuid 0
  tx_id := none
  from_address := none
  to_address := cfg.get_btc_address
  expected_amount_btc := some amount_to_send
  amount_btc := none
  category := .Receive
  status := .AwaitingClientConfirmation
  payment_reference := none
  from_peer := some from_peer.to_string
  to_peer := none

/-- The `HTTPProxyPrePaymentRequest` branch of `handle_payment_request`. -/
def handle_pre_payment_request (cfg : OrcaNetConfig) (env : Env) (auth_token : String)
    (data_transferred_kb_client fee_owed_client : F64) (from_peer : PeerId) :
    HandlerM (OrcaNetResponse F64) := do
  create_sqlite_connection env .proxy_clients
  let client_info ← question
    (← read (ProxyClientsTable.get_client_by_auth_token env auth_token))
  let fee_owed := client_info.get_fee_owed
  let fee_owed_percent_diff := Utils.get_percent_diff fee_owed_client fee_owed
  let data_trans_percent_diff :=
    Utils.get_percent_diff data_transferred_kb_client client_info.data_transferred_kb
  let pre_payment_response : PrePaymentResponse F64 ←
    if fee_owed_percent_diff > PROXY_TERMINATION_PD_THRESHOLD
        ∨ data_trans_percent_diff > PROXY_TERMINATION_PD_THRESHOLD then
      -- the source answers `Accepted` here, with a reference it stores nowhere
      pure (.Accepted {
        payment_reference := env.new_uuid 0
        amount_to_send := fee_owed
        recipient_address := cfg.get_btc_address })
    -- the source names the two rejections the other way round
    else if fee_owed_percent_diff > FEE_OWED_PD_ALLOWED then
      pure .RejectedDataTransferDiffers
    else if data_trans_percent_diff > DATA_TRANSFER_PD_ALLOWED then
      pure .RejectedFeeOwedDiffers
    else do
      let payment_reference := env.new_uuid 0
      let amount_to_send := fee_owed
      create_sqlite_connection env .payments
      let payment_info := reference_row cfg env amount_to_send from_peer
      question (← write (PaymentsTable.insert_payment_info env payment_info))
      pure (.Accepted {
        payment_reference := payment_reference
        amount_to_send := amount_to_send
        recipient_address := cfg.get_btc_address })
  return .HTTPProxyPrePaymentResponse client_info.data_transferred_kb fee_owed
    pre_payment_response

/-- A payment row as a notification rewrites it. -/
def confirmed_row (n : PaymentNotification F64) (payment_info : PaymentInfo) : PaymentInfo :=
  { payment_info with
    tx_id := some n.tx_id
    from_address := some n.sender_address
    status := .TransactionPending }

/-- The `HTTPProxyPostPaymentNotification` branch of `handle_payment_request`. -/
def handle_post_payment_notification (env : Env) (auth_token : String)
    (payment_notification : PaymentNotification F64) : HandlerM (OrcaNetResponse F64) := do
  create_sqlite_connection env .proxy_clients
  let client_info ← question
    (← read (ProxyClientsTable.get_client_by_auth_token env auth_token))
  create_sqlite_connection env .payments
  match ← read (PaymentsTable.get_payment_info env payment_notification.payment_reference) with
  -- any lookup error counts as an unknown reference
  | .error _ => return .Error .PaymentReferenceMismatch
  | .ok payment_info =>
    let payment_info := confirmed_row payment_notification payment_info
    question (← write (PaymentsTable.update_payment_info env payment_info))
    -- credited before the transaction was seen
    question (← write (ProxyClientsTable.update_total_fee_received_unconfirmed env
      client_info.client_id payment_notification.amount_transferred))
    return .NullResponse

def handle_payment_request (cfg : OrcaNetConfig) (env : Env) (request : OrcaNetRequest F64)
    (from_peer : PeerId) : HandlerM (OrcaNetResponse F64) :=
  match request with
  | .HTTPProxyPrePaymentRequest _ auth_token data_transferred_kb fee_owed =>
    handle_pre_payment_request cfg env auth_token data_transferred_kb fee_owed from_peer
  | .HTTPProxyPostPaymentNotification _ auth_token payment_notification =>
    handle_post_payment_notification env auth_token payment_notification
  | _ => throw (.panic "Expected payment request")

def handle_request (cfg : OrcaNetConfig) (env : Env) (request : OrcaNetRequest F64)
    (from_peer : PeerId) : HandlerM (OrcaNetResponse F64) :=
  match request with
  | .FileMetadataRequest _ | .FileContentRequest _ =>
    handle_file_request cfg env request from_peer
  | .HTTPProxyMetadataRequest | .HTTPProxyProvideRequest =>
    handle_http_proxy_request cfg env request from_peer
  | .HTTPProxyPrePaymentRequest .. | .HTTPProxyPostPaymentNotification .. =>
    handle_payment_request cfg env request from_peer

/-- What `handle_event` sends back for a request: the response, or the error
    text in an `InternalServerError`; `none` when the handler panicked. -/
def response : EStateM.Result Failure Database (OrcaNetResponse F64) →
    Option (OrcaNetResponse F64)
  | .ok r _ => some r
  | .error (.err e) _ => some (.Error (.InternalServerError e))
  | .error (.panic _) _ => none

/-- The database a handler leaves behind, also when it fails. -/
def final {α : Type} : EStateM.Result Failure Database α → Database
  | .ok _ db => db
  | .error _ db => db

@[simp] theorem response_ok (r : OrcaNetResponse F64) (db : Database) :
    response (.ok r db) = some r := rfl

@[simp] theorem final_ok {α : Type} (r : α) (db : Database) :
    final (.ok r db : EStateM.Result Failure Database α) = db := rfl

/-! ## Section 2: What a request can do -/

/-- One of the two claims is further off than the termination threshold. -/
def OverThreshold (c : ProxyClientInfo) (data_transferred_kb fee_owed : F64) : Prop :=
  Utils.get_percent_diff fee_owed c.get_fee_owed > PROXY_TERMINATION_PD_THRESHOLD
    ∨ Utils.get_percent_diff data_transferred_kb c.data_transferred_kb
        > PROXY_TERMINATION_PD_THRESHOLD

/-- The answer to a pre-payment request that hands out a reference. -/
def accepted (cfg : OrcaNetConfig) (env : Env) (c : ProxyClientInfo) : OrcaNetResponse F64 :=
  .HTTPProxyPrePaymentResponse c.data_transferred_kb c.get_fee_owed
    (.Accepted {
      payment_reference := env.new_uuid 0
      amount_to_send := c.get_fee_owed
      recipient_address := cfg.get_btc_address })

/-- A response that neither hands out a reference nor says anything about one. -/
def Inert (resp : Option (OrcaNetResponse F64)) : Prop :=
  resp ≠ some .NullResponse ∧ resp ≠ some (.Error .PaymentReferenceMismatch) ∧
    ∀ d f p, resp ≠ some (.HTTPProxyPrePaymentResponse d f p)

/-- The payment rows after a notification rewrote row `r`. -/
def confirm_payment (db : Database) (n : PaymentNotification F64) (r : PaymentInfo) : Database :=
  { db with
    payments := db.payments.update PaymentInfo.payment_id r.payment_id
      (confirmed_row n r).changeset (confirmed_row n r).changeset_payment_id }

/-- The client rows after a credit. -/
def credit_client (db : Database) (client_id : String) (amount : F64) : Database :=
  { db with
    proxy_clients := db.proxy_clients.update ProxyClientInfo.client_id client_id
      (fun r => { r with
        total_fee_received_unconfirmed := r.total_fee_received_unconfirmed + amount })
      (ProxyClientInfo.keys_of_credit amount) }

/-- A payment request gets past the lookup of its client. -/
structure Asks (env : Env) (db : Database) (auth_token : String) (c : ProxyClientInfo) :
    Prop where
  clients_connection : env.db_fault (.create_sqlite_connection .proxy_clients) = none
  client : ProxyClientsTable.get_client_by_auth_token env auth_token db = .ok c

/-- The row of a reference is stored. -/
structure Stores (env : Env) : Prop where
  payments_connection : env.db_fault (.create_sqlite_connection .payments) = none
  insert : env.db_fault .insert_payment_info = none

/-- A notification gets as far as the rewriting of its payment row. -/
structure Confirms (env : Env) (db : Database) (auth_token : String)
    (n : PaymentNotification F64) (c : ProxyClientInfo) (r : PaymentInfo) : Prop where
  clients_connection : env.db_fault (.create_sqlite_connection .proxy_clients) = none
  client : ProxyClientsTable.get_client_by_auth_token env auth_token db = .ok c
  payments_connection : env.db_fault (.create_sqlite_connection .payments) = none
  row : PaymentsTable.get_payment_info env n.payment_reference db = .ok r
  update : env.db_fault .update_payment_info = none

/-- The effects of one request: the response to the peer and the database
    afterwards.  Every constructor records the guards of its branch. -/
inductive Effect (cfg : OrcaNetConfig) (env : Env) (from_peer : PeerId) (db : Database) :
    OrcaNetRequest F64 → Option (OrcaNetResponse F64) → Database → Prop where
  /-- Clients and payments are as before. -/
  | inert {req resp db'} (hresp : Inert resp) (hclients : db'.proxy_clients = db.proxy_clients)
      (hpayments : db'.payments = db.payments) : Effect cfg env from_peer db req resp db'
  /-- A new client. -/
  | provide {metadata t} (hinsert : db.proxy_clients.insert
        (ProxyClientInfo.with_defaults (env.new_uuid 0) (env.new_uuid 1) from_peer.to_string
          env.get_unix_timestamp cfg.get_proxy_fee_rate) = some t) :
      Effect cfg env from_peer db .HTTPProxyProvideRequest
        (some (.HTTPProxyProvideResponse metadata (env.new_uuid 0) (env.new_uuid 1)))
        { db with proxy_clients := t }
  /-- A reference that is stored nowhere. -/
  | over_threshold {client_id tok data fee c} (hask : Asks env db tok c)
      (hover : OverThreshold c data fee) :
      Effect cfg env from_peer db (.HTTPProxyPrePaymentRequest client_id tok data fee)
        (some (accepted cfg env c)) db
  /-- A reference with its row. -/
  | reference {client_id tok data fee c t} (hask : Asks env db tok c)
      (hwithin : ¬ OverThreshold c data fee) (hstores : Stores env)
      (hinsert : db.payments.insert (reference_row cfg env c.get_fee_owed from_peer) = some t) :
      Effect cfg env from_peer db (.HTTPProxyPrePaymentRequest client_id tok data fee)
        (some (accepted cfg env c)) { db with payments := t }
  /-- No row was found for the reference. -/
  | mismatch {client_id tok n c e} (hask : Asks env db tok c)
      (hpay : env.db_fault (.create_sqlite_connection .payments) = none)
      (hrow : PaymentsTable.get_payment_info env n.payment_reference db = .error e) :
      Effect cfg env from_peer db (.HTTPProxyPostPaymentNotification client_id tok n)
        (some (.Error .PaymentReferenceMismatch)) db
  /-- The payment row was rewritten, but the credit failed. -/
  | uncredited {client_id tok n c r e} (hconfirm : Confirms env db tok n c r)
      (hfault : env.db_fault .update_total_fee_received_unconfirmed = some e) :
      Effect cfg env from_peer db (.HTTPProxyPostPaymentNotification client_id tok n)
        (some (.Error (.InternalServerError e))) (confirm_payment db n r)
  /-- The payment row was rewritten and the client credited. -/
  | credited {client_id tok n c r} (hconfirm : Confirms env db tok n c r)
      (hcredit : env.db_fault .update_total_fee_received_unconfirmed = none) :
      Effect cfg env from_peer db (.HTTPProxyPostPaymentNotification client_id tok n)
        (some .NullResponse)
        (credit_client (confirm_payment db n r) c.client_id n.amount_transferred)

section effects

variable {cfg : OrcaNetConfig} {env : Env} {peer : PeerId} {db : Database}

theorem inert_error (f : Failure) :
    Inert (response (.error f db)) := by
  cases f <;> simp [Inert, response]

/-- A handler that stops early without having written anything. -/
theorem Effect.of_error {req : OrcaNetRequest F64} (f : Failure) :
    Effect cfg env peer db req (response (.error f db)) db :=
  .inert (inert_error f) rfl rfl

theorem handle_file_request_effect (req : OrcaNetRequest F64) :
    Effect cfg env peer db req (response (handle_file_request cfg env req peer db))
      (final (handle_file_request cfg env req peer db)) := by
  cases hconn : env.db_fault (.create_sqlite_connection .provided_files) with
  | some e =>
    cases req <;>
      simp only [handle_file_request, create_sqlite_connection_panic hconn, bind_run, pure_run,
        throw_run] <;> exact .of_error _
  | none =>
    cases req with
    | FileMetadataRequest file_id =>
      simp only [handle_file_request, create_sqlite_connection_ok hconn, bind_run, pure_run,
        read_run]
      cases ProvidedFilesTable.get_provided_file_info env file_id db <;>
        exact .inert (by simp [Inert, response]) rfl rfl
    | FileContentRequest file_id =>
      simp only [handle_file_request, create_sqlite_connection_ok hconn, bind_run, pure_run,
        read_run]
      cases ProvidedFilesTable.get_provided_file_info env file_id db with
      | error e => exact .inert (by simp [Inert, response]) rfl rfl
      | ok file_info =>
        cases hread : env.fs_read file_info.file_path with
        | error e =>
          simp only [hread, question_error, bind_run, throw_run]
          exact .of_error _
        | ok content =>
          simp only [hread, question_ok, bind_run, pure_run, write_run,
            ProvidedFilesTable.increment_download_count, execute]
          -- the count is in a table of its own
          cases env.db_fault .increment_download_count <;>
            exact .inert (by simp [Inert]) rfl rfl
    | _ => exact .of_error _

theorem pre_payment_over {tok : String} {data fee : F64} {c : ProxyClientInfo}
    (hconn : env.db_fault (.create_sqlite_connection .proxy_clients) = none)
    (hc : ProxyClientsTable.get_client_by_auth_token env tok db = .ok c)
    (hover : OverThreshold c data fee) :
    handle_pre_payment_request cfg env tok data fee peer db = .ok (accepted cfg env c) db := by
  unfold OverThreshold at hover
  simp only [handle_pre_payment_request, create_sqlite_connection_ok hconn, bind_run, pure_run,
    read_run, hc, question_ok, if_pos hover, accepted]

variable (cfg peer) in
/-- Within the threshold the request stores the reference row.  The two reject
    branches are dead: their bounds are not below the threshold. -/
theorem pre_payment_within {tok : String} {data fee : F64} {c : ProxyClientInfo}
    (hconn : env.db_fault (.create_sqlite_connection .proxy_clients) = none)
    (hc : ProxyClientsTable.get_client_by_auth_token env tok db = .ok c)
    (hwithin : ¬ OverThreshold c data fee) :
    handle_pre_payment_request cfg env tok data fee peer db =
      (do
        create_sqlite_connection env .payments
        question (← write (PaymentsTable.insert_payment_info env
          (reference_row cfg env c.get_fee_owed peer)))
        return accepted cfg env c : HandlerM (OrcaNetResponse F64)) db := by
  have hfee : ¬ Utils.get_percent_diff fee c.get_fee_owed > FEE_OWED_PD_ALLOWED :=
    fun h => hwithin (Or.inl h)
  have hdata : ¬ Utils.get_percent_diff data c.data_transferred_kb > DATA_TRANSFER_PD_ALLOWED :=
    fun h => hwithin (Or.inr h)
  unfold OverThreshold at hwithin
  simp only [handle_pre_payment_request, create_sqlite_connection_ok hconn, bind_run, pure_run,
    read_run, hc, question_ok, if_neg hwithin, if_neg hfee, if_neg hdata, accepted]

theorem handle_pre_payment_request_effect (client_id tok : String) (data fee : F64) :
    Effect cfg env peer db (.HTTPProxyPrePaymentRequest client_id tok data fee)
      (response (handle_pre_payment_request cfg env tok data fee peer db))
      (final (handle_pre_payment_request cfg env tok data fee peer db)) := by
  cases hconn : env.db_fault (.create_sqlite_connection .proxy_clients) with
  | some e =>
    simp only [handle_pre_payment_request, create_sqlite_connection_panic hconn, bind_run,
      throw_run]
    exact .of_error _
  | none =>
    cases hc : ProxyClientsTable.get_client_by_auth_token env tok db with
    | error e =>
      simp only [handle_pre_payment_request, create_sqlite_connection_ok hconn, bind_run,
        pure_run, read_run, hc, question_error, throw_run]
      exact .of_error _
    | ok c =>
      by_cases hover : OverThreshold c data fee
      · rw [pre_payment_over hconn hc hover]
        exact .over_threshold ⟨hconn, hc⟩ hover
      · rw [pre_payment_within cfg peer hconn hc hover]
        -- the answer comes after the insert, so it is only sent with the row in place
        cases hpay : env.db_fault (.create_sqlite_connection .payments) with
        | some e =>
          simp only [create_sqlite_connection_panic hpay, bind_run, throw_run]
          exact .of_error _
        | none =>
          simp only [create_sqlite_connection_ok hpay, bind_run, pure_run, write_run,
            PaymentsTable.insert_payment_info, execute]
          cases hfault : env.db_fault .insert_payment_info with
          | some e => exact .of_error _
          | none =>
            cases hins : db.payments.insert (reference_row cfg env c.get_fee_owed peer) with
            | none => exact .of_error _
            | some t => exact .reference ⟨hconn, hc⟩ hover ⟨hpay, hfault⟩ hins

theorem handle_post_payment_notification_effect (client_id tok : String)
    (n : PaymentNotification F64) :
    Effect cfg env peer db (.HTTPProxyPostPaymentNotification client_id tok n)
      (response (handle_post_payment_notification env tok n db))
      (final (handle_post_payment_notification env tok n db)) := by
  cases hconn : env.db_fault (.create_sqlite_connection .proxy_clients) with
  | some e =>
    simp only [handle_post_payment_notification, create_sqlite_connection_panic hconn, bind_run,
      throw_run]
    exact .of_error _
  | none =>
    cases hc : ProxyClientsTable.get_client_by_auth_token env tok db with
    | error e =>
      simp only [handle_post_payment_notification, create_sqlite_connection_ok hconn, bind_run,
        pure_run, read_run, hc, question_error, throw_run]
      exact .of_error _
    | ok c =>
      cases hpay : env.db_fault (.create_sqlite_connection .payments) with
      | some e =>
        simp only [handle_post_payment_notification, create_sqlite_connection_ok hconn, bind_run,
          pure_run, read_run, hc, question_ok, create_sqlite_connection_panic hpay, throw_run]
        exact .of_error _
      | none =>
        simp only [handle_post_payment_notification, create_sqlite_connection_ok hconn, bind_run,
          pure_run, read_run, hc, question_ok, create_sqlite_connection_ok hpay]
        cases hrow : PaymentsTable.get_payment_info env n.payment_reference db with
        | error e => exact .mismatch ⟨hconn, hc⟩ hpay hrow
        | ok r =>
          cases hw : env.db_fault .update_payment_info with
          | some e =>
            simp only [bind_run, write_run, PaymentsTable.update_payment_info, execute, hw]
            exact .of_error _
          | none =>
            -- from here on the row is rewritten, whatever becomes of the credit
            simp only [bind_run, write_run, PaymentsTable.update_payment_info, execute, hw,
              question_ok, pure_run, ProxyClientsTable.update_total_fee_received_unconfirmed]
            cases hfault : env.db_fault .update_total_fee_received_unconfirmed with
            | some e => exact .uncredited (r := r) ⟨hconn, hc, hpay, hrow, hw⟩ hfault
            | none => exact .credited (r := r) ⟨hconn, hc, hpay, hrow, hw⟩ hfault

theorem handle_http_proxy_request_effect (req : OrcaNetRequest F64) :
    Effect cfg env peer db req (response (handle_http_proxy_request cfg env req peer db))
      (final (handle_http_proxy_request cfg env req peer db)) := by
  unfold handle_http_proxy_request
  cases hmode : cfg.get_proxy_config with
  | none => exact .inert (by simp [Inert]) rfl rfl
  | some mode =>
    cases mode with
    | ProxyClient session_id => exact .inert (by simp [Inert]) rfl rfl
    | ProxyProvider =>
      cases req with
      | HTTPProxyMetadataRequest => exact .inert (by simp [Inert]) rfl rfl
      | HTTPProxyProvideRequest =>
        cases hconn : env.db_fault (.create_sqlite_connection .proxy_clients) with
        | some e =>
          simp only [create_sqlite_connection_panic hconn, bind_run, throw_run]
          exact .of_error _
        | none =>
          simp only [create_sqlite_connection_ok hconn, bind_run, pure_run, write_run,
            ProxyClientsTable.add_client, execute]
          cases hfault : env.db_fault .add_client with
          | some e => exact .of_error _
          | none =>
            -- the new client's id or token may be taken
            cases hins : db.proxy_clients.insert (ProxyClientInfo.with_defaults (env.new_uuid 0)
              (env.new_uuid 1) peer.to_string env.get_unix_timestamp cfg.get_proxy_fee_rate) with
            | none => exact .of_error _
            | some t => exact .provide hins
      | _ => exact .of_error _

variable (cfg env peer db) in
theorem handle_request_effect (req : OrcaNetRequest F64) :
    Effect cfg env peer db req (response (handle_request cfg env req peer db))
      (final (handle_request cfg env req peer db)) := by
  cases req with
  | FileMetadataRequest file_id => exact handle_file_request_effect _
  | FileContentRequest file_id => exact handle_file_request_effect _
  | HTTPProxyMetadataRequest => exact handle_http_proxy_request_effect _
  | HTTPProxyProvideRequest => exact handle_http_proxy_request_effect _
  | HTTPProxyPrePaymentRequest client_id tok data fee =>
    exact handle_pre_payment_request_effect client_id tok data fee
  | HTTPProxyPostPaymentNotification client_id tok n =>
    exact handle_post_payment_notification_effect client_id tok n

variable (cfg peer) in
/-- A pre-payment request within the threshold is accepted, with a row for its
    reference, when the row can be stored and the uuid is new. -/
theorem pre_payment_accepted (client_id : String) {tok : String} {data fee : F64}
    {c : ProxyClientInfo} (hask : Asks env db tok c) (hstores : Stores env)
    (hwithin : ¬ OverThreshold c data fee)
    (hfresh : db.payments.find PaymentInfo.payment_id (env.new_uuid 0) = none) :
    ∃ t, db.payments.insert (reference_row cfg env c.get_fee_owed peer) = some t ∧
      handle_request cfg env (.HTTPProxyPrePaymentRequest client_id tok data fee) peer db =
        .ok (accepted cfg env c) { db with payments := t } := by
  have hsome : (db.payments.insert (reference_row cfg env c.get_fee_owed peer)).isSome :=
    Table.insert_isSome_iff.mpr (by simpa [reference_row] using hfresh)
  obtain ⟨t, ht⟩ := Option.isSome_iff_exists.mp hsome
  refine ⟨t, ht, ?_⟩
  have hrun := pre_payment_within cfg peer hask.clients_connection hask.client hwithin
  simp only [create_sqlite_connection_ok hstores.payments_connection, bind_run, pure_run,
    write_run, PaymentsTable.insert_payment_info, execute, hstores.insert, ht, question_ok] at hrun
  exact hrun

variable (cfg peer) in
/-- A notification whose row is not found is answered with a mismatch. -/
theorem notification_mismatch (client_id : String) {tok e : String} {n : PaymentNotification F64}
    {c : ProxyClientInfo} (hask : Asks env db tok c)
    (hpay : env.db_fault (.create_sqlite_connection .payments) = none)
    (hrow : PaymentsTable.get_payment_info env n.payment_reference db = .error e) :
    handle_request cfg env (.HTTPProxyPostPaymentNotification client_id tok n) peer db =
      .ok (.Error .PaymentReferenceMismatch) db := by
  simp only [handle_request, handle_payment_request, handle_post_payment_notification,
    create_sqlite_connection_ok hask.clients_connection, create_sqlite_connection_ok hpay,
    bind_run, pure_run, read_run, hask.client, hrow, question_ok]

variable (cfg peer) in
/-- A notification whose row is found is credited when the database works. -/
theorem notification_credited (client_id : String) {tok : String} {n : PaymentNotification F64}
    {c : ProxyClientInfo} {r : PaymentInfo} (h : Confirms env db tok n c r)
    (hcredit : env.db_fault .update_total_fee_received_unconfirmed = none) :
    handle_request cfg env (.HTTPProxyPostPaymentNotification client_id tok n) peer db =
      .ok .NullResponse
        (credit_client (confirm_payment db n r) c.client_id n.amount_transferred) := by
  simp only [handle_request, handle_payment_request, handle_post_payment_notification,
    create_sqlite_connection_ok h.clients_connection,
    create_sqlite_connection_ok h.payments_connection, bind_run, pure_run, read_run, write_run,
    h.client, h.row, question_ok, PaymentsTable.update_payment_info, execute, h.update,
    ProxyClientsTable.update_total_fee_received_unconfirmed, hcredit]
  rfl

/-- A notification that gets as far as the rewriting rewrites its payment row. -/
theorem notification_payments_of_confirms {client_id tok : String} {n : PaymentNotification F64}
    {c : ProxyClientInfo} {r : PaymentInfo} (h : Confirms env db tok n c r) :
    (final (handle_request cfg env (.HTTPProxyPostPaymentNotification client_id tok n) peer
      db)).payments = (confirm_payment db n r).payments := by
  simp only [handle_request, handle_payment_request, handle_post_payment_notification,
    create_sqlite_connection_ok h.clients_connection,
    create_sqlite_connection_ok h.payments_connection, bind_run, pure_run, read_run, write_run,
    h.client, h.row, question_ok, PaymentsTable.update_payment_info, execute, h.update,
    ProxyClientsTable.update_total_fee_received_unconfirmed]
  cases env.db_fault .update_total_fee_received_unconfirmed <;> rfl

variable (cfg env peer db) in
/-- Any other notification leaves the payment rows alone. -/
theorem notification_payments (client_id tok : String) (n : PaymentNotification F64) :
    (final (handle_request cfg env (.HTTPProxyPostPaymentNotification client_id tok n) peer
        db)).payments = db.payments ∨ ∃ c r, Confirms env db tok n c r := by
  have heff := handle_request_effect cfg env peer db
    (.HTTPProxyPostPaymentNotification client_id tok n)
  generalize final _ = db' at heff
  generalize response _ = resp at heff
  cases heff with
  | inert hresp hclients hpayments => exact Or.inl hpayments
  | mismatch hask hpay hrow => exact Or.inl rfl
  | uncredited hconfirm hfault => exact Or.inr ⟨_, _, hconfirm⟩
  | credited hconfirm hcredit => exact Or.inr ⟨_, _, hconfirm⟩

end effects

end RequestHandlerLoop

end OrcaNet
