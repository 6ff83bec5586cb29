import OrcaNet.RequestHandler

/-! # Provided files

    The rows of `provided_files` as the operations of the node see them: what
    each statement does to the row of a file, and what a request does. -/

namespace OrcaNet

open HandlerM

/-! ## Section 1: Rows -/

/-- The row of a file. -/
def Database.provided_file (db : Database) (file_id : String) : Option ProvidedFileInfo :=
  db.provided_files.find ProvidedFileInfo.file_id file_id

/-- The file has a row with status 1. -/
def Database.Active (db : Database) (file_id : String) : Prop :=
  ∃ r, db.provided_file file_id = some r ∧ r.status = 1

theorem Database.any_status_iff (db : Database) (file_id : String) :
    ((db.provided_file file_id).any fun r => r.status = 1) = true ↔ db.Active file_id := by
  unfold Database.Active
  cases db.provided_file file_id <;> simp

instance (db : Database) (file_id : String) : Decidable (db.Active file_id) :=
  decidable_of_iff _ (db.any_status_iff file_id)

theorem Database.active_of_row {db : Database} {file_id : String} {r : ProvidedFileInfo}
    (h : db.provided_file file_id = some r) : db.Active file_id ↔ r.status = 1 := by
  simp [Database.Active, h]

theorem Database.not_active_of_none {db : Database} {file_id : String}
    (h : db.provided_file file_id = none) : ¬ db.Active file_id := by
  simp [Database.Active, h]

/-- Rows that keep their status keep the active files. -/
theorem Database.active_congr {db db' : Database} {file_id : String}
    (h : (db'.provided_file file_id).map ProvidedFileInfo.status =
      (db.provided_file file_id).map ProvidedFileInfo.status) :
    db'.Active file_id ↔ db.Active file_id := by
  have hactive : ∀ d : Database, d.Active file_id ↔
      (d.provided_file file_id).map ProvidedFileInfo.status = some 1 := by
    intro d
    simp [Database.Active]
  rw [hactive, hactive, h]

theorem Database.provided_file_id {db : Database} {file_id : String} {r : ProvidedFileInfo}
    (h : db.provided_file file_id = some r) : r.file_id = file_id :=
  (Table.find_mem h).2

namespace ProvidedFilesTable

variable {env : Env} {db : Database}

theorem insert_provided_file_eq_ok {r : ProvidedFileInfo} {db' : Database}
    (h : insert_provided_file env r db = (.ok (), db')) :
    db.provided_file r.file_id = none ∧
      ∀ j, db'.provided_file j = if j = r.file_id then some r else db.provided_file j := by
  unfold insert_provided_file execute at h
  split at h
  · cases h
  · split at h
    · rename_i t hinsert
      obtain rfl := congrArg Prod.snd h
      have hnew := (Table.insert_eq_some hinsert).1 ProvidedFileInfo.file_id (by simp)
      refine ⟨hnew, fun j => ?_⟩
      rw [Database.provided_file, Table.find_insert hinsert]
      by_cases hj : j = r.file_id
      · subst hj
        simp [hnew]
      · simp [hj, Ne.symm hj, Database.provided_file]
    · cases h

theorem insert_provided_file_eq_error {r : ProvidedFileInfo} {db' : Database} {e : String}
    (h : insert_provided_file env r db = (.error e, db')) : db' = db := by
  unfold insert_provided_file execute at h
  split at h
  · exact (congrArg Prod.snd h).symm
  · split at h
    · cases h
    · exact (congrArg Prod.snd h).symm

theorem remove_provided_file_row (hfault : env.db_fault .remove_provided_file = none)
    (file_id j : String) :
    (remove_provided_file env file_id db).2.provided_file j =
      if j = file_id then none else db.provided_file j := by
  unfold remove_provided_file execute
  rw [hfault]
  exact Table.find_remove _ _ _ _

/-- The row that a change of status leaves. -/
def with_status (status_val : Bool) (timestamp_val : Option ℤ) (r : ProvidedFileInfo) :
    ProvidedFileInfo :=
  { r with status := if status_val then 1 else 0, provide_start_timestamp := timestamp_val }

theorem set_provided_file_status_row (hfault : env.db_fault .set_provided_file_status = none)
    (file_id j : String) (status_val : Bool) (timestamp_val : Option ℤ) :
    (set_provided_file_status env file_id status_val timestamp_val db).2.provided_file j =
      (db.provided_file j).map fun r =>
        if r.file_id = file_id then with_status status_val timestamp_val r else r := by
  unfold set_provided_file_status execute
  simp only [hfault, Database.provided_file]
  rw [Table.find_update (by simp)]
  rfl

/-- The row that a counted download leaves. -/
def counted (r : ProvidedFileInfo) : ProvidedFileInfo :=
  { r with downloads_count := r.downloads_count + 1 }

theorem increment_download_count_row (hfault : env.db_fault .increment_download_count = none)
    (file_id j : String) :
    (increment_download_count env file_id db).2.provided_file j =
      (db.provided_file j).map fun r => if r.file_id = file_id then counted r else r := by
  unfold increment_download_count execute
  simp only [hfault, Database.provided_file]
  rw [Table.find_update (by simp)]
  rfl

end ProvidedFilesTable

/-! ## Section 2: Handlers that leave the files alone -/

namespace HandlerM

/-- The computation does not write `provided_files`. -/
def KeepsFiles {α : Type} (x : HandlerM α) : Prop :=
  ∀ db, (RequestHandlerLoop.final (x db)).provided_files = db.provided_files

variable {α β : Type}

theorem KeepsFiles.pure (a : α) : KeepsFiles (pure a) := fun _ => rfl

theorem KeepsFiles.throw (f : Failure) : KeepsFiles (throw f : HandlerM α) := fun _ => rfl

theorem KeepsFiles.read (q : Database → QueryResult α) : KeepsFiles (read q) := fun _ => rfl

theorem KeepsFiles.question (r : QueryResult α) : KeepsFiles (question r) := by
  cases r with
  | ok a => exact .pure a
  | error e => exact .throw _

theorem KeepsFiles.write {q : Database → QueryResult α × Database}
    (h : ∀ db, (q db).2.provided_files = db.provided_files) : KeepsFiles (write q) := h

theorem KeepsFiles.bind {x : HandlerM α} {f : α → HandlerM β} (hx : KeepsFiles x)
    (hf : ∀ a, KeepsFiles (f a)) : KeepsFiles (x >>= f) := by
  intro db
  have hfirst := hx db
  rw [bind_run]
  cases hrun : x db with
  | ok a db' =>
    rw [hrun] at hfirst
    exact (hf a db').trans hfirst
  | error e db' =>
    rw [hrun] at hfirst
    exact hfirst

theorem KeepsFiles.create_sqlite_connection (env : Env) (table : TableName) :
    KeepsFiles (create_sqlite_connection env table) := by
  unfold OrcaNet.create_sqlite_connection
  split
  · exact .throw _
  · exact .pure _

end HandlerM

/-- A statement on other tables. -/
theorem execute_provided_files {α : Type} (env : Env) (c : DbCall) (db : Database)
    {statement : QueryResult α × Database}
    (h : statement.2.provided_files = db.provided_files) :
    (execute env c db statement).2.provided_files = db.provided_files := by
  unfold execute
  split
  · rfl
  · exact h

namespace RequestHandlerLoop

theorem handle_http_proxy_request_keepsFiles (cfg : OrcaNetConfig) (env : Env)
    (request : OrcaNetRequest F64) (from_peer : PeerId) :
    KeepsFiles (handle_http_proxy_request cfg env request from_peer) := by
  unfold handle_http_proxy_request
  split
  · cases request with
    | HTTPProxyMetadataRequest => exact .pure _
    | HTTPProxyProvideRequest =>
      refine .bind (.create_sqlite_connection _ _) fun _ => .bind (.write fun db => ?_) fun _ =>
        .bind (.question _) fun _ => .pure _
      refine execute_provided_files env _ db ?_
      split <;> rfl
    | _ => exact .throw _
  · exact .pure _

theorem handle_payment_request_keepsFiles (cfg : OrcaNetConfig) (env : Env)
    (request : OrcaNetRequest F64) (from_peer : PeerId) :
    KeepsFiles (handle_payment_request cfg env request from_peer) := by
  cases request with
  | HTTPProxyPrePaymentRequest client_id auth_token data_transferred_kb fee_owed =>
    refine .bind (.create_sqlite_connection _ _) fun _ => .bind (.read _) fun _ =>
      .bind (.question _) fun client_info => ?_
    dsimp only
    split
    · exact .bind (.pure _) fun _ => .pure _
    · split
      · exact .bind (.pure _) fun _ => .pure _
      · split
        · exact .bind (.pure _) fun _ => .pure _
        · refine .bind (.create_sqlite_connection _ _) fun _ => .bind (.write fun db => ?_)
            fun _ => .bind (.question _) fun _ => .bind (.pure _) fun _ => .pure _
          -- the new payment row is in another table
          refine execute_provided_files env _ db ?_
          split <;> rfl
  | HTTPProxyPostPaymentNotification client_id auth_token payment_notification =>
    refine .bind (.create_sqlite_connection _ _) fun _ => .bind (.read _) fun _ =>
      .bind (.question _) fun client_info => .bind (.create_sqlite_connection _ _) fun _ =>
        .bind (.read _) fun row => ?_
    cases row with
    | error e => exact .pure _
    | ok payment_info =>
      exact .bind (.write fun db => execute_provided_files env _ db rfl) fun _ =>
        .bind (.question _) fun _ =>
          .bind (.write fun db => execute_provided_files env _ db rfl) fun _ =>
            .bind (.question _) fun _ => .pure _
  | _ => exact .throw _

/-! ## Section 3: File requests -/

/-- The file that a request is for. -/
def requested_file : OrcaNetRequest F64 → Option String
  | .FileMetadataRequest file_id | .FileContentRequest file_id => some file_id
  | _ => none

def file_metadata (cfg : OrcaNetConfig) (file_id : String) (r : ProvidedFileInfo) :
    FileMetadata F64 where
  file_id := file_id
  file_name := r.file_name
  fee_rate_per_kb := cfg.get_file_fee_rate
  recipient_address := cfg.get_btc_address

/-- The lookup of a file finds its row. -/
structure Finds (env : Env) (db : Database) (file_id : String) (r : ProvidedFileInfo) : Prop where
  connection : env.db_fault (.create_sqlite_connection .provided_files) = none
  lookup : ProvidedFilesTable.get_provided_file_info env file_id db = .ok r

theorem Finds.row {env : Env} {db : Database} {file_id : String} {r : ProvidedFileInfo}
    (h : Finds env db file_id r) : db.provided_file file_id = some r :=
  (first_eq_ok.mp h.lookup).2

/-- Everything that a request for a file can do. -/
inductive FileAnswer (cfg : OrcaNetConfig) (env : Env) (db : Database) (file_id : String) :
    OrcaNetRequest F64 → Option (OrcaNetResponse F64) → Database → Prop where
  | no_connection {req} {e : String}
      (hconn : env.db_fault (.create_sqlite_connection .provided_files) = some e) :
      FileAnswer cfg env db file_id req none db
  | not_a_provider {req e}
      (hlookup : ProvidedFilesTable.get_provided_file_info env file_id db = .error e) :
      FileAnswer cfg env db file_id req
        (some (.Error (.NotAProvider "Not a provider of requested file"))) db
  | metadata {r} (hfinds : Finds env db file_id r) :
      FileAnswer cfg env db file_id (.FileMetadataRequest file_id)
        (some (.FileMetadataResponse (file_metadata cfg file_id r))) db
  | unreadable {r e} (hfinds : Finds env db file_id r)
      (hread : env.fs_read r.file_path = .error e) :
      FileAnswer cfg env db file_id (.FileContentRequest file_id)
        (some (.Error (.InternalServerError e))) db
  | content {r content} (hfinds : Finds env db file_id r)
      (hread : env.fs_read r.file_path = .ok content) :
      FileAnswer cfg env db file_id (.FileContentRequest file_id)
        (some (.FileContentResponse (file_metadata cfg file_id r) content))
        (ProvidedFilesTable.increment_download_count env file_id db).2

/-- A request changes the status of no file. -/
theorem FileAnswer.active {cfg : OrcaNetConfig} {env : Env} (hnf : env.NoFaults) {db db' : Database}
    {file_id : String} {request : OrcaNetRequest F64} {resp : Option (OrcaNetResponse F64)}
    (h : FileAnswer cfg env db file_id request resp db') (j : String) :
    db'.Active j ↔ db.Active j := by
  cases h with
  | content hfinds hread =>
    apply Database.active_congr
    rw [ProvidedFilesTable.increment_download_count_row (hnf _), Option.map_map]
    refine congrArg (fun f => (db.provided_file j).map f) (funext fun r => ?_)
    show (if r.file_id = file_id then ProvidedFilesTable.counted r else r).status = r.status
    split <;> rfl
  | _ => exact Iff.rfl

theorem handle_request_file (cfg : OrcaNetConfig) (env : Env) {request : OrcaNetRequest F64}
    (from_peer : PeerId) (db : Database) {file_id : String}
    (h : requested_file request = some file_id) :
    FileAnswer cfg env db file_id request (response (handle_request cfg env request from_peer db))
      (final (handle_request cfg env request from_peer db)) := by
  cases hconn : env.db_fault (.create_sqlite_connection .provided_files) with
  | some e =>
    cases request <;> cases h <;>
      simp only [handle_request, handle_file_request, create_sqlite_connection_panic hconn,
        bind_run, pure_run, throw_run] <;> exact .no_connection hconn
  | none =>
    cases request <;> cases h <;>
      simp only [handle_request, handle_file_request, create_sqlite_connection_ok hconn, bind_run,
        pure_run, read_run]
    case FileMetadataRequest.refl =>
      cases hlookup : ProvidedFilesTable.get_provided_file_info env file_id db with
      | error e => exact .not_a_provider hlookup
      | ok r => exact .metadata ⟨hconn, hlookup⟩
    case FileContentRequest.refl =>
      cases hlookup : ProvidedFilesTable.get_provided_file_info env file_id db with
      | error e => exact .not_a_provider hlookup
      | ok r =>
        -- the count goes up only when the file could be read
        cases hread : env.fs_read r.file_path with
        | error e =>
          simp only [hread, question_error, bind_run, throw_run]
          exact .unreadable ⟨hconn, hlookup⟩ hread
        | ok content =>
          simp only [hread, question_ok, bind_run, pure_run, write_run]
          exact .content ⟨hconn, hlookup⟩ hread

/-- Other requests leave the files alone. -/
theorem handle_request_keepsFiles (cfg : OrcaNetConfig) (env : Env) {request : OrcaNetRequest F64}
    (from_peer : PeerId) (h : requested_file request = none) :
    KeepsFiles (handle_request cfg env request from_peer) := by
  cases request with
  | FileMetadataRequest file_id => cases h
  | FileContentRequest file_id => cases h
  | HTTPProxyMetadataRequest =>
    exact handle_http_proxy_request_keepsFiles cfg env .HTTPProxyMetadataRequest from_peer
  | HTTPProxyProvideRequest =>
    exact handle_http_proxy_request_keepsFiles cfg env .HTTPProxyProvideRequest from_peer
  | HTTPProxyPrePaymentRequest client_id auth_token data fee =>
    exact handle_payment_request_keepsFiles cfg env
      (.HTTPProxyPrePaymentRequest client_id auth_token data fee) from_peer
  | HTTPProxyPostPaymentNotification client_id auth_token notification =>
    exact handle_payment_request_keepsFiles cfg env
      (.HTTPProxyPostPaymentNotification client_id auth_token notification) from_peer

end RequestHandlerLoop

end OrcaNet
