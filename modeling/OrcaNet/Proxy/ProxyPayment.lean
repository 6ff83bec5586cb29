import OrcaNet.Db.DbClient

/-! # Proxy payment loop

    `ProxyPaymentLoop` of `proxy/proxy_payment.rs`.  A call of
    `process_payment` runs in segments: it is suspended in an external call
    (a request to the provider, the wallet, the database), the result of the
    call arrives as an `Event`, and the code runs on to its next external
    call.  `Phase` says which call is pending and holds the live locals, so
    everything else in the node can happen between two segments.

    The outgoing calls of a segment are its output, for the network and the
    wallet to answer. -/

namespace OrcaNet

namespace ProxyPaymentLoop

/-! ## Section 1: Segments of a payment -/

/-- The locals set before the first external request. -/
structure Locals where
  session_info : ProxySessionInfo
  provider_peer : PeerId
  deriving DecidableEq, Repr

/-- The pending call of `process_payment`. -/
inductive Phase where
  /-- No call in progress: `start_loop` waits for the next tick. -/
  | idle
  | pre_payment_step (loc : Locals)
  | send_to_address (loc : Locals) (payment_request : PaymentRequest F64)
  | insert_payment_info (loc : Locals) (payment_request : PaymentRequest F64) (tx_id : String)
  | update_total_fee_sent_unconfirmed (loc : Locals) (payment_request : PaymentRequest F64)
      (tx_id : String)
  | post_payment (loc : Locals) (payment_request : PaymentRequest F64)
  /-- The loop was cancelled. -/
  | returned
  /-- A segment panicked, which ends the task. -/
  | panicked
  deriving DecidableEq, Repr

/-- What ends a wait. -/
inductive Event where
  | cancelled
  | tick
  | pre_payment_result (resp : Except String (OrcaNetResponse F64))
  | send_to_address_result (tx_id : Except String String)
  | insert_payment_info
  | update_total_fee_sent_unconfirmed
  | post_payment_result (resp : Except String (OrcaNetResponse F64))

/-- Calls to the network and to the wallet. -/
inductive Call where
  | send_request (peer : PeerId) (request : OrcaNetRequest F64)
  | send_to_address (address : String) (btc_amount : F64)
  deriving DecidableEq, Repr

/-- Where a segment ends. -/
structure Outcome where
  phase : Phase
  db : Database
  calls : List Call

/-- The call ended, with `Ok` or `Err`; `start_loop` only logs which. -/
def finished (db : Database) : Outcome := ⟨.idle, db, []⟩

def panic (db : Database) : Outcome := ⟨.panicked, db, []⟩

/-- The claim a pre-payment request makes. -/
def pre_payment_request (session_info : ProxySessionInfo) : OrcaNetRequest F64 :=
  .HTTPProxyPrePaymentRequest session_info.client_id session_info.auth_token
    session_info.data_transferred_kb session_info.get_fee_owed

/-- From the start of `process_payment` to the pre-payment request. -/
def start (env : Env) (session_id : String) (db : Database) : Outcome :=
  match env.db_fault (.create_sqlite_connection .proxy_sessions) with
  | some _ => panic db
  | none =>
    match ProxySessionsTable.get_session_info env session_id db with
    | .error _ => finished db
    | .ok session_info =>
      if session_info.get_fee_owed = 0 then finished db
      else
        match env.parse_peer_id session_info.provider_peer_id with
        | none => panic db
        | some provider_peer =>
          ⟨.pre_payment_step ⟨session_info, provider_peer⟩, db,
            [.send_request provider_peer (pre_payment_request session_info)]⟩

/-- The answer to the pre-payment request, up to the transfer.  The values the
    server claims in it are only logged. -/
def on_pre_payment_result (loc : Locals) (resp : Except String (OrcaNetResponse F64))
    (db : Database) : Outcome :=
  match resp with
  | .ok (.HTTPProxyPrePaymentResponse _ _ pre_payment_response) =>
    match pre_payment_response with
    | .Accepted payment_request =>
      ⟨.send_to_address loc payment_request, db,
        [.send_to_address payment_request.recipient_address payment_request.amount_to_send]⟩
    -- the three other answers run into `todo!()`
    | .RejectedDataTransferDiffers => panic db
    | .RejectedFeeOwedDiffers => panic db
    | .ServerTerminatingConnection _ => panic db
  | .ok _ => finished db
  | .error _ => finished db

/-- The row that records a transfer. -/
def send_row (env : Env) (loc : Locals) (payment_request : PaymentRequest F64)
    (tx_id : String) : PaymentInfo where
  payment_id := env.new_uuid 0
  tx_id := some tx_id
  from_address := none
  to_address := payment_request.recipient_address
  expected_amount_btc := none
  amount_btc := some payment_request.amount_to_send
  category := .Send
  status := .TransactionPending
  payment_reference := some payment_request.payment_reference
  from_peer := none
  to_peer := some loc.session_info.provider_peer_id

/-- The insert into `payments`, after a transfer. -/
def on_insert_payment_info (env : Env) (loc : Locals) (payment_request : PaymentRequest F64)
    (tx_id : String) (db : Database) : Outcome :=
  match env.db_fault (.create_sqlite_connection .payments) with
  | some _ => panic db
  | none =>
    match PaymentsTable.insert_payment_info env (send_row env loc payment_request tx_id) db with
    | (.error _, db') => finished db'
    | (.ok _, db') => ⟨.update_total_fee_sent_unconfirmed loc payment_request tx_id, db', []⟩

/-- The notification about a transfer. -/
def post_payment_notification (cfg : OrcaNetConfig) (loc : Locals)
    (payment_request : PaymentRequest F64) (tx_id : String) : OrcaNetRequest F64 :=
  .HTTPProxyPostPaymentNotification loc.session_info.client_id loc.session_info.auth_token {
    sender_address := cfg.get_btc_address
    receiver_address := payment_request.recipient_address
    amount_transferred := payment_request.amount_to_send
    tx_id := tx_id
    payment_reference := payment_request.payment_reference }

/-- The update of the session total, up to the notification. -/
def on_update_total_fee_sent_unconfirmed (cfg : OrcaNetConfig) (env : Env) (session_id : String)
    (loc : Locals) (payment_request : PaymentRequest F64) (tx_id : String) (db : Database) :
    Outcome :=
  match env.db_fault (.create_sqlite_connection .proxy_sessions) with
  | some _ => panic db
  | none =>
    match ProxySessionsTable.update_total_fee_sent_unconfirmed env session_id
        payment_request.amount_to_send db with
    | (.error _, db') => finished db'
    | (.ok _, db') =>
      ⟨.post_payment loc payment_request, db',
        [.send_request loc.provider_peer
          (post_payment_notification cfg loc payment_request tx_id)]⟩

/-- The loop: one segment for each pending call and its result. -/
def process_payment (cfg : OrcaNetConfig) (env : Env) (session_id : String) (db : Database) :
    Phase → Event → Option Outcome
  | .idle, .cancelled => some ⟨.returned, db, []⟩
  | .idle, .tick => some (start env session_id db)
  | .pre_payment_step loc, .pre_payment_result resp =>
    some (on_pre_payment_result loc resp db)
  | .send_to_address _ _, .send_to_address_result (.error _) => some (finished db)
  | .send_to_address loc pr, .send_to_address_result (.ok tx_id) =>
    some ⟨.insert_payment_info loc pr tx_id, db, []⟩
  | .insert_payment_info loc pr tx_id, .insert_payment_info =>
    some (on_insert_payment_info env loc pr tx_id db)
  | .update_total_fee_sent_unconfirmed loc pr tx_id, .update_total_fee_sent_unconfirmed =>
    some (on_update_total_fee_sent_unconfirmed cfg env session_id loc pr tx_id db)
  -- the answer to the notification is not looked at
  | .post_payment _ _, .post_payment_result _ => some (finished db)
  | _, _ => none

/-- A session at rate 1. -/
def sampleSession (data_transferred_kb total_fee_sent_unconfirmed : F64) : ProxySessionInfo where
  session_id := "session"
  client_id := "client"
  auth_token := "token"
  proxy_address := "127.0.0.1:3000"
  start_timestamp := 0
  end_timestamp := none
  data_transferred_kb := data_transferred_kb
  total_fee_sent := 0
  total_fee_sent_unconfirmed := total_fee_sent_unconfirmed
  fee_rate_per_kb := 1
  provider_peer_id := "provider"
  recipient_address := "address"
  status := 1

/-! ## Section 2: What a segment can do -/

/-- The phases in which no call is in progress. -/
def Quiescent (ph : Phase) : Prop := ph = .idle ∨ ph = .returned ∨ ph = .panicked

/-- The insert after a transfer takes effect. -/
def InsertSucceeds (env : Env) (db : Database) : Prop :=
  env.db_fault (.create_sqlite_connection .payments) = none
    ∧ env.db_fault .insert_payment_info = none
    ∧ db.payments.find PaymentInfo.payment_id (env.new_uuid 0) = none

/-- The update of the session total takes effect. -/
def UpdateSucceeds (env : Env) : Prop :=
  env.db_fault (.create_sqlite_connection .proxy_sessions) = none
    ∧ env.db_fault .update_total_fee_sent_unconfirmed = none

/-- The session rows after `amount` was added to the total sent. -/
def add_fee_sent (db : Database) (session_id : String) (amount : F64) : Database :=
  { db with
    proxy_sessions := db.proxy_sessions.update ProxySessionInfo.session_id session_id
      (fun r => { r with total_fee_sent_unconfirmed := r.total_fee_sent_unconfirmed + amount })
      (ProxySessionInfo.keys_of_payment amount) }

/-- The effects of one segment, with the guards of its branch. -/
inductive Segment (cfg : OrcaNetConfig) (env : Env) (session_id : String) (db : Database) :
    Phase → Event → Outcome → Prop where
  | cancelled : Segment cfg env session_id db .idle .cancelled ⟨.returned, db, []⟩
  /-- Nothing is owed, or the session cannot be read. -/
  | not_asked {ph} (hph : Quiescent ph) : Segment cfg env session_id db .idle .tick ⟨ph, db, []⟩
  | asked {session_info peer}
      (hinfo : ProxySessionsTable.get_session_info env session_id db = .ok session_info)
      (howed : session_info.get_fee_owed ≠ 0) :
      Segment cfg env session_id db .idle .tick
        ⟨.pre_payment_step ⟨session_info, peer⟩, db,
          [.send_request peer (pre_payment_request session_info)]⟩
  /-- Anything but an accepting answer. -/
  | refused {loc resp ph} (hph : Quiescent ph)
      (hresp : ∀ d f pr, resp ≠ .ok (.HTTPProxyPrePaymentResponse d f (.Accepted pr))) :
      Segment cfg env session_id db (.pre_payment_step loc) (.pre_payment_result resp)
        ⟨ph, db, []⟩
  | accepted {loc d f pr} :
      Segment cfg env session_id db (.pre_payment_step loc)
        (.pre_payment_result (.ok (.HTTPProxyPrePaymentResponse d f (.Accepted pr))))
        ⟨.send_to_address loc pr, db, [.send_to_address pr.recipient_address pr.amount_to_send]⟩
  | not_sent {loc pr e} :
      Segment cfg env session_id db (.send_to_address loc pr) (.send_to_address_result (.error e))
        ⟨.idle, db, []⟩
  | sent {loc pr tx_id} :
      Segment cfg env session_id db (.send_to_address loc pr) (.send_to_address_result (.ok tx_id))
        ⟨.insert_payment_info loc pr tx_id, db, []⟩
  | not_inserted {loc pr tx_id ph} (hph : Quiescent ph) (hfail : ¬ InsertSucceeds env db) :
      Segment cfg env session_id db (.insert_payment_info loc pr tx_id) .insert_payment_info
        ⟨ph, db, []⟩
  | inserted {loc pr tx_id t} (hsucc : InsertSucceeds env db)
      (hinsert : db.payments.insert (send_row env loc pr tx_id) = some t) :
      Segment cfg env session_id db (.insert_payment_info loc pr tx_id) .insert_payment_info
        ⟨.update_total_fee_sent_unconfirmed loc pr tx_id, { db with payments := t }, []⟩
  | not_updated {loc pr tx_id ph} (hph : Quiescent ph) (hfail : ¬ UpdateSucceeds env) :
      Segment cfg env session_id db (.update_total_fee_sent_unconfirmed loc pr tx_id)
        .update_total_fee_sent_unconfirmed ⟨ph, db, []⟩
  | updated {loc pr tx_id} (hsucc : UpdateSucceeds env) :
      Segment cfg env session_id db (.update_total_fee_sent_unconfirmed loc pr tx_id)
        .update_total_fee_sent_unconfirmed
        ⟨.post_payment loc pr, add_fee_sent db session_id pr.amount_to_send,
          [.send_request loc.provider_peer (post_payment_notification cfg loc pr tx_id)]⟩
  | notified {loc pr resp} :
      Segment cfg env session_id db (.post_payment loc pr) (.post_payment_result resp)
        ⟨.idle, db, []⟩

section segments

variable {cfg : OrcaNetConfig} {env : Env} {sid : String} {db : Database}

theorem start_segment : Segment cfg env sid db .idle .tick (start env sid db) := by
  unfold start
  split
  · exact .not_asked (Or.inr (Or.inr rfl))
  · split
    · exact .not_asked (Or.inl rfl)
    · rename_i session_info hinfo
      split
      · exact .not_asked (Or.inl rfl)
      · split
        · exact .not_asked (Or.inr (Or.inr rfl))
        · exact .asked hinfo ‹_›

theorem on_pre_payment_result_segment (loc : Locals) (resp : Except String (OrcaNetResponse F64)) :
    Segment cfg env sid db (.pre_payment_step loc) (.pre_payment_result resp)
      (on_pre_payment_result loc resp db) := by
  unfold on_pre_payment_result
  split
  · split
    · exact .accepted
    all_goals exact .refused (Or.inr (Or.inr rfl)) (by simp)
  · rename_i hother
    exact .refused (Or.inl rfl) fun d f pr heq => hother d f _ (Except.ok.inj heq)
  · exact .refused (Or.inl rfl) (by simp)

theorem on_insert_payment_info_segment (loc : Locals) (pr : PaymentRequest F64) (tx_id : String) :
    Segment cfg env sid db (.insert_payment_info loc pr tx_id) .insert_payment_info
      (on_insert_payment_info env loc pr tx_id db) := by
  unfold on_insert_payment_info PaymentsTable.insert_payment_info execute
  cases hconn : env.db_fault (.create_sqlite_connection .payments) with
  | some e => exact .not_inserted (Or.inr (Or.inr rfl)) (by simp [InsertSucceeds, hconn])
  | none =>
    cases hfault : env.db_fault .insert_payment_info with
    | some e => exact .not_inserted (Or.inl rfl) (by simp [InsertSucceeds, hfault])
    | none =>
      cases hins : db.payments.insert (send_row env loc pr tx_id) with
      | some t =>
        have hnew := (Table.insert_eq_some hins).1 PaymentInfo.payment_id (by simp)
        exact .inserted ⟨hconn, hfault, hnew⟩ hins
      | none =>
        refine .not_inserted (Or.inl rfl) fun hsucc => ?_
        have hnew := hsucc.2.2
        have hsome : (db.payments.insert (send_row env loc pr tx_id)).isSome :=
          Table.insert_isSome_iff.mpr (by simpa [send_row] using hnew)
        simp [hins] at hsome

theorem on_update_segment (loc : Locals) (pr : PaymentRequest F64) (tx_id : String) :
    Segment cfg env sid db (.update_total_fee_sent_unconfirmed loc pr tx_id)
      .update_total_fee_sent_unconfirmed
      (on_update_total_fee_sent_unconfirmed cfg env sid loc pr tx_id db) := by
  unfold on_update_total_fee_sent_unconfirmed
    ProxySessionsTable.update_total_fee_sent_unconfirmed execute
  cases hconn : env.db_fault (.create_sqlite_connection .proxy_sessions) with
  | some e => exact .not_updated (Or.inr (Or.inr rfl)) (by simp [UpdateSucceeds, hconn])
  | none =>
    cases hfault : env.db_fault .update_total_fee_sent_unconfirmed with
    | some e => exact .not_updated (Or.inl rfl) (by simp [UpdateSucceeds, hfault])
    | none => exact .updated ⟨hconn, hfault⟩

theorem process_payment_segment {ph : Phase} {ev : Event} {o : Outcome}
    (h : process_payment cfg env sid db ph ev = some o) :
    Segment cfg env sid db ph ev o := by
  fun_cases process_payment cfg env sid db ph ev
  case case1 => obtain rfl := Option.some.inj h; exact .cancelled
  case case2 => obtain rfl := Option.some.inj h; exact start_segment
  case case3 loc resp =>
    obtain rfl := Option.some.inj h; exact on_pre_payment_result_segment loc resp
  case case4 => obtain rfl := Option.some.inj h; exact .not_sent
  case case5 => obtain rfl := Option.some.inj h; exact .sent
  case case6 loc pr tx_id =>
    obtain rfl := Option.some.inj h; exact on_insert_payment_info_segment loc pr tx_id
  case case7 loc pr tx_id =>
    obtain rfl := Option.some.inj h; exact on_update_segment loc pr tx_id
  case case8 => obtain rfl := Option.some.inj h; exact .notified
  case case9 => simp_all [process_payment]

end segments

end ProxyPaymentLoop

end OrcaNet
