import OrcaNet.Db.Schema
import OrcaNet.Framework.Table

/-! # Database client

    The tables of the node and the methods of `db/db_client.rs` that the
    payment and file handlers use.  Each method is a single SQL statement, so
    it either fails and leaves the database alone or takes effect at once.

    * `Env` collects what one call of a handler draws from outside: fresh
      uuids, the clock, the file system, and which database calls fail.
    * A read is a function of the database; a write also returns the database
      afterwards.
    * `HandlerM` is a computation that can fail and keeps its writes when it
      does, as the handlers do: none of them opens a transaction. -/

namespace OrcaNet

inductive TableName where
  | provided_files
  | proxy_clients
  | proxy_sessions
  | payments
  deriving DecidableEq, Repr

/-- The database calls that can fail. -/
inductive DbCall where
  | create_sqlite_connection (table : TableName)
  | insert_provided_file
  | remove_provided_file
  | get_provided_file_info
  | increment_download_count
  | set_provided_file_status
  | get_client_by_auth_token
  | add_client
  | update_total_fee_received_unconfirmed
  | get_session_info
  | update_total_fee_sent_unconfirmed
  | get_payment_info
  | insert_payment_info
  | update_payment_info
  deriving DecidableEq, Repr

/-- What one call draws from outside. -/
structure Env where
  /-- The uuids of this call, in the order it draws them. -/
  new_uuid : ℕ → String
  get_unix_timestamp : ℤ
  fs_read : String → Except String (List UInt8)
  /-- `PeerId::from_str`. -/
  parse_peer_id : String → Option PeerId
  /-- `HeaderValue::to_str`. -/
  to_str : List UInt8 → Option String
  /-- The error text of a database call that fails. -/
  db_fault : DbCall → Option String

/-- No database call fails. -/
def Env.NoFaults (env : Env) : Prop := ∀ c, env.db_fault c = none

/-- The environment with a database that works. -/
def Env.without_faults (env : Env) : Env := { env with db_fault := fun _ => none }

theorem Env.noFaults_without_faults (env : Env) : env.without_faults.NoFaults := fun _ => rfl

/-- The text of a value of visible ASCII characters. -/
def visible_ascii (value : List UInt8) : Option String :=
  if value.all fun b => 32 ≤ b && b < 127 || b == 9 then
    some (String.ofList (value.map fun b => Char.ofNat b.toNat))
  else none

/-- An environment in which every database call works. -/
def Env.working (new_uuid : ℕ → String) : Env where
  new_uuid := new_uuid
  get_unix_timestamp := 0
  fs_read := fun _ => .error "no such file"
  parse_peer_id := fun s => some ⟨s⟩
  to_str := visible_ascii
  db_fault := fun _ => none

/-- Tables with their PRIMARY KEY and UNIQUE columns. -/
structure Database where
  provided_files :
    Table ProvidedFileInfo String [ProvidedFileInfo.file_id, ProvidedFileInfo.file_path]
  proxy_clients :
    Table ProxyClientInfo String [ProxyClientInfo.client_id, ProxyClientInfo.auth_token]
  proxy_sessions : Table ProxySessionInfo String [ProxySessionInfo.session_id]
  payments : Table PaymentInfo String [PaymentInfo.payment_id]

/-- The database that `setup-node` creates. -/
def Database.empty : Database := ⟨.empty, .empty, .empty, .empty⟩

abbrev QueryResult (α : Type) : Type := Except String α

/-- Run a statement unless the environment lets it fail. -/
def execute {α : Type} (env : Env) (c : DbCall) (db : Database)
    (statement : QueryResult α × Database) : QueryResult α × Database :=
  match env.db_fault c with
  | some e => (.error e, db)
  | none => statement

/-- `.first()`: the row found, or diesel's `NotFound`. -/
def first {α : Type} (env : Env) (c : DbCall) (row : Option α) : QueryResult α :=
  match env.db_fault c, row with
  | some e, _ => .error e
  | none, some r => .ok r
  | none, none => .error "Record not found"

@[simp] theorem first_eq_ok {α : Type} {env : Env} {c : DbCall} {row : Option α} {r : α} :
    first env c row = .ok r ↔ env.db_fault c = none ∧ row = some r := by
  unfold first
  split <;> simp_all

namespace ProvidedFilesTable

def insert_provided_file (env : Env) (file_info : ProvidedFileInfo) (db : Database) :
    QueryResult Unit × Database :=
  execute env .insert_provided_file db
    (match db.provided_files.insert file_info with
     | some t => (.ok (), { db with provided_files := t })
     | none => (.error "UNIQUE constraint failed: provided_files", db))

def remove_provided_file (env : Env) (target_file_id : String) (db : Database) :
    QueryResult Unit × Database :=
  execute env .remove_provided_file db
    (.ok (), { db with
      provided_files := db.provided_files.remove ProvidedFileInfo.file_id target_file_id })

def set_provided_file_status (env : Env) (target_file_id : String) (status_val : Bool)
    (timestamp_val : Option ℤ) (db : Database) : QueryResult Unit × Database :=
  execute env .set_provided_file_status db
    (.ok (), { db with
      provided_files := db.provided_files.update ProvidedFileInfo.file_id target_file_id
        (fun r => { r with
          status := if status_val then 1 else 0
          provide_start_timestamp := timestamp_val }) (by simp) })

def get_provided_file_info (env : Env) (target_file_id : String) (db : Database) :
    QueryResult ProvidedFileInfo :=
  first env .get_provided_file_info (db.provided_files.find ProvidedFileInfo.file_id target_file_id)

def increment_download_count (env : Env) (target_file_id : String) (db : Database) :
    QueryResult Unit × Database :=
  execute env .increment_download_count db
    (.ok (), { db with
      provided_files := db.provided_files.update ProvidedFileInfo.file_id target_file_id
        (fun r => { r with downloads_count := r.downloads_count + 1 }) (by simp) })

/-- The number of rows that a statement about `target_file_id` touches, which is
    what its `execute` returns. -/
def affected_rows (target_file_id : String) (db : Database) : ℕ :=
  (db.provided_files.rows.filter fun r => r.file_id = target_file_id).length

theorem affected_rows_eq_zero_iff (target_file_id : String) (db : Database) :
    affected_rows target_file_id db = 0 ↔
      db.provided_files.find ProvidedFileInfo.file_id target_file_id = none := by
  rw [Table.find_eq_none_iff, affected_rows, List.length_eq_zero_iff, List.filter_eq_nil_iff]
  simp only [decide_eq_true_eq]

end ProvidedFilesTable

/-- The downloads of this node; no handler looks at them. -/
abbrev DownloadedFiles : Type := Table DownloadedFileInfo String [DownloadedFileInfo.id]

namespace DownloadedFilesTable

/-- `fault` is the error of the statement, if it fails. -/
def insert_downloaded_file (fault : Option String) (downloaded_file_info : DownloadedFileInfo)
    (downloaded_files : DownloadedFiles) : QueryResult Unit × DownloadedFiles :=
  match fault, downloaded_files.insert downloaded_file_info with
  | some e, _ => (.error e, downloaded_files)
  | none, some t => (.ok (), t)
  | none, none => (.error "UNIQUE constraint failed: downloaded_files.id", downloaded_files)

end DownloadedFilesTable

/-- A credit keeps the keys of a client row. -/
theorem ProxyClientInfo.keys_of_credit (amount : F64) (r : ProxyClientInfo) :
    ∀ d ∈ [ProxyClientInfo.client_id, ProxyClientInfo.auth_token],
      d { r with
        total_fee_received_unconfirmed := r.total_fee_received_unconfirmed + amount } = d r := by
  simp

namespace ProxyClientsTable

def get_client_by_auth_token (env : Env) (given_auth_token : String) (db : Database) :
    QueryResult ProxyClientInfo :=
  first env .get_client_by_auth_token
    (db.proxy_clients.find ProxyClientInfo.auth_token given_auth_token)

def add_client (env : Env) (client_info : ProxyClientInfo) (db : Database) :
    QueryResult Unit × Database :=
  execute env .add_client db
    (match db.proxy_clients.insert client_info with
     | some t => (.ok (), { db with proxy_clients := t })
     | none => (.error "UNIQUE constraint failed: proxy_clients", db))

/-- Traffic accounting; the proxy tasks call it outside the handlers. -/
def update_data_transfer_info (target_client_id : String) (transferred_kb : F64)
    (db : Database) : Database :=
  { db with
    proxy_clients := db.proxy_clients.update ProxyClientInfo.client_id target_client_id
      (fun r => { r with data_transferred_kb := r.data_transferred_kb + transferred_kb })
      (by simp) }

def update_total_fee_received_unconfirmed (env : Env) (target_client_id : String)
    (amount : F64) (db : Database) : QueryResult Unit × Database :=
  execute env .update_total_fee_received_unconfirmed db
    (.ok (), { db with
      proxy_clients := db.proxy_clients.update ProxyClientInfo.client_id target_client_id
        (fun r => { r with
          total_fee_received_unconfirmed := r.total_fee_received_unconfirmed + amount })
        (ProxyClientInfo.keys_of_credit amount) })

end ProxyClientsTable

/-- A payment keeps the key of a session row. -/
theorem ProxySessionInfo.keys_of_payment (amount : F64) (r : ProxySessionInfo) :
    ∀ d ∈ [ProxySessionInfo.session_id],
      d { r with total_fee_sent_unconfirmed := r.total_fee_sent_unconfirmed + amount } = d r := by
  simp

namespace ProxySessionsTable

def get_session_info (env : Env) (target_session_id : String) (db : Database) :
    QueryResult ProxySessionInfo :=
  first env .get_session_info (db.proxy_sessions.find ProxySessionInfo.session_id target_session_id)

/-- Traffic accounting; the proxy tasks call it outside the payment loop. -/
def update_data_transfer_info (target_session_id : String) (transferred_kb : F64)
    (db : Database) : Database :=
  { db with
    proxy_sessions := db.proxy_sessions.update ProxySessionInfo.session_id target_session_id
      (fun r => { r with data_transferred_kb := r.data_transferred_kb + transferred_kb })
      (by simp) }

def update_total_fee_sent_unconfirmed (env : Env) (target_session_id : String)
    (amount : F64) (db : Database) : QueryResult Unit × Database :=
  execute env .update_total_fee_sent_unconfirmed db
    (.ok (), { db with
      proxy_sessions := db.proxy_sessions.update ProxySessionInfo.session_id target_session_id
        (fun r => { r with total_fee_sent_unconfirmed := r.total_fee_sent_unconfirmed + amount })
        (ProxySessionInfo.keys_of_payment amount) })

end ProxySessionsTable

/-- The changeset of a payment row: `AsChangeset` leaves a column alone when the
    field is `None`. -/
def PaymentInfo.changeset (info r : PaymentInfo) : PaymentInfo where
  payment_id := r.payment_id
  tx_id := info.tx_id.or r.tx_id
  from_address := info.from_address.or r.from_address
  to_address := info.to_address
  expected_amount_btc := info.expected_amount_btc.or r.expected_amount_btc
  amount_btc := info.amount_btc.or r.amount_btc
  category := info.category
  status := info.status
  payment_reference := info.payment_reference.or r.payment_reference
  from_peer := info.from_peer.or r.from_peer
  to_peer := info.to_peer.or r.to_peer

theorem PaymentInfo.changeset_payment_id (info r : PaymentInfo) :
    ∀ d ∈ [PaymentInfo.payment_id], d (info.changeset r) = d r := by
  intro d hd
  obtain rfl := List.mem_singleton.mp hd
  rfl

namespace PaymentsTable

def get_payment_info (env : Env) (target_payment_id : String) (db : Database) :
    QueryResult PaymentInfo :=
  first env .get_payment_info (db.payments.find PaymentInfo.payment_id target_payment_id)

def insert_payment_info (env : Env) (payment_info : PaymentInfo) (db : Database) :
    QueryResult Unit × Database :=
  execute env .insert_payment_info db
    (match db.payments.insert payment_info with
     | some t => (.ok (), { db with payments := t })
     | none => (.error "UNIQUE constraint failed: payments.payment_id", db))

def update_payment_info (env : Env) (payment_info : PaymentInfo) (db : Database) :
    QueryResult Unit × Database :=
  execute env .update_payment_info db
    (.ok (), { db with
      payments := db.payments.update PaymentInfo.payment_id payment_info.payment_id
        payment_info.changeset payment_info.changeset_payment_id })

end PaymentsTable

/-! ### Handlers -/

/-- Why a handler stops early: an `Err` with its text, or a panic. -/
inductive Failure where
  | err (message : String)
  | panic (message : String)
  deriving DecidableEq, Repr

/-- A computation on the database that keeps its writes when it fails. -/
abbrev HandlerM (α : Type) : Type := EStateM Failure Database α

namespace HandlerM

/-- A read whose result is inspected. -/
def read {α : Type} (q : Database → QueryResult α) : HandlerM (QueryResult α) :=
  fun db => .ok (q db) db

/-- A write whose result is inspected. -/
def write {α : Type} (q : Database → QueryResult α × Database) : HandlerM (QueryResult α) :=
  fun db => .ok (q db).1 (q db).2

/-- The `?` operator. -/
def question {α : Type} (r : QueryResult α) : HandlerM α :=
  match r with
  | .ok a => pure a
  | .error e => throw (.err e)

section run
variable {α β : Type} (db : Database)

@[simp] theorem read_run (q : Database → QueryResult α) : read q db = .ok (q db) db := rfl

@[simp] theorem write_run (q : Database → QueryResult α × Database) :
    write q db = .ok (q db).1 (q db).2 := rfl

@[simp] theorem question_ok (a : α) : question (.ok a) = pure a := rfl

@[simp] theorem question_error (e : String) :
    (question (.error e) : HandlerM α) = throw (.err e) := rfl

@[simp] theorem pure_run (a : α) : (pure a : HandlerM α) db = .ok a db := rfl

@[simp] theorem throw_run (f : Failure) : (throw f : HandlerM α) db = .error f db := rfl

@[simp] theorem bind_run (x : HandlerM α) (f : α → HandlerM β) :
    (x >>= f) db = match x db with
      | .ok a db' => f a db'
      | .error e db' => .error e db' := by
  change EStateM.bind x f db = _
  unfold EStateM.bind
  cases x db <;> rfl

end run

end HandlerM

/-- `SomeTable::new`, which panics when the connection cannot be opened. -/
def create_sqlite_connection (env : Env) (table : TableName) : HandlerM Unit :=
  match env.db_fault (.create_sqlite_connection table) with
  | some _ => throw (.panic "Can't proceed without DB connection")
  | none => pure ()

theorem create_sqlite_connection_ok {env : Env} {table : TableName}
    (h : env.db_fault (.create_sqlite_connection table) = none) :
    create_sqlite_connection env table = pure () := by
  simp [create_sqlite_connection, h]

theorem create_sqlite_connection_panic {env : Env} {table : TableName} {e : String}
    (h : env.db_fault (.create_sqlite_connection table) = some e) :
    create_sqlite_connection env table = throw (.panic "Can't proceed without DB connection") := by
  simp [create_sqlite_connection, h]

end OrcaNet
