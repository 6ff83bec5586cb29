import OrcaNet.Files.ProvidedFiles
import OrcaNet.HandlerLoop

/-! # File endpoints

    The endpoints of `http_server/endpoints/file_endpoints.rs` that take part in
    providing files, up to the call or event that they end with.  The digest of
    a file's content is a parameter. -/

namespace OrcaNet

namespace OrcaNetConfig

def MAX_FILE_SIZE_BYTES : ℕ := 10 * 1024 * 1024

end OrcaNetConfig

namespace FileEndpoints

/-- What `resume_providing` does after its statement. -/
inductive Resume where
  /-- `network_client.start_providing(file_id)`. -/
  | start_providing
  | error (message : String)
  | panicked (message : String)
  deriving DecidableEq

/-- `POST /resume-providing/<file_id>`. -/
def resume_providing (env : Env) (file_id : String) (db : Database) : Resume × Database :=
  match env.db_fault (.create_sqlite_connection .provided_files) with
  | some _ => (.panicked "Can't proceed without DB connection", db)
  | none =>
    match ProvidedFilesTable.set_provided_file_status env file_id true none db with
    | (.ok (), db') =>
      if ProvidedFilesTable.affected_rows file_id db = 0 then
        (.error s!"File id {file_id} is not provided", db')
      else (.start_providing, db')
    | (.error e, db') => (.error s!"Failed to resume providing file: {e}", db')

/-- The file was found exactly if it is announced, and then it is active. -/
theorem resume_providing_row {env : Env} (hfault : env.db_fault .set_provided_file_status = none)
    (file_id j : String) (db : Database) :
    (resume_providing env file_id db).2.provided_file j =
      if (resume_providing env file_id db).1 = .start_providing then
        (db.provided_file j).map fun r =>
          if r.file_id = file_id then ProvidedFilesTable.with_status true none r else r
      else db.provided_file j := by
  unfold resume_providing
  split
  · rfl
  · have hrow : (ProvidedFilesTable.set_provided_file_status env file_id true none
        db).2.provided_file j = _ :=
      ProvidedFilesTable.set_provided_file_status_row hfault file_id j true none
    have hok :
        (ProvidedFilesTable.set_provided_file_status env file_id true none db).1 = .ok () := by
      simp [ProvidedFilesTable.set_provided_file_status, execute, hfault]
    -- the statement succeeds, on however many rows
    obtain ⟨db', hset⟩ : ∃ db',
        ProvidedFilesTable.set_provided_file_status env file_id true none db = (.ok (), db') :=
      ⟨_, Prod.ext hok rfl⟩
    rw [hset] at hrow
    simp only [hset]
    by_cases hrows : ProvidedFilesTable.affected_rows file_id db = 0
    · -- without a row the statement changes nothing
      have hnone := (ProvidedFilesTable.affected_rows_eq_zero_iff file_id db).mp hrows
      simp only [hrows, if_true, reduceCtorEq, if_false]
      rw [hrow]
      cases hj : db.provided_file j with
      | none => rfl
      | some r =>
        have hne : r.file_id ≠ file_id := Table.find_eq_none_iff.mp hnone r (Table.find_mem hj).1
        simp [hne]
    · simp only [hrows, if_false, if_true]
      exact hrow

theorem provided_of_resume {env : Env} {file_id : String} {db : Database}
    (h : (resume_providing env file_id db).1 = .start_providing) :
    ∃ r, db.provided_file file_id = some r := by
  unfold resume_providing at h
  split at h
  · cases h
  · split at h
    · split at h
      · cases h
      · rename_i hrows
        exact Option.ne_none_iff_exists'.mp
          (mt (ProvidedFilesTable.affected_rows_eq_zero_iff file_id db).mpr hrows)
    · cases h

section provide

-- the SHA-256 digest of some bytes, in hexadecimal
variable (sha256_digest : List UInt8 → String)

/-- `POST /provide-file`, up to the event that it sends. -/
def provide_file (env : HandlerEnv) (metadata_len : ℕ) (file_path : String) :
    Except String OrcaNetEvent :=
  if ¬ env.path_exists file_path then
    .error "Path does not exist"
  else if metadata_len > OrcaNetConfig.MAX_FILE_SIZE_BYTES then
    .error s!"File size exceeds threshold of {OrcaNetConfig.MAX_FILE_SIZE_BYTES} bytes"
  else
    match env.fs_read file_path with
    | .ok content => .ok (.ProvideFile (sha256_digest content) file_path)
    | .error _ => .error "Error computing digest"

/-- The `providefile` command of the terminal. -/
def providefile (env : HandlerEnv) (file_path : String) : Option OrcaNetEvent :=
  if ¬ env.path_exists file_path then none
  else (env.fs_read file_path).toOption.map fun content =>
    .ProvideFile (sha256_digest content) file_path

/-- Both send the digest of the file that they name. -/
theorem provide_file_eq_ok {env : HandlerEnv} {metadata_len : ℕ} {file_path : String}
    {event : OrcaNetEvent} (h : provide_file sha256_digest env metadata_len file_path = .ok event) :
    ∃ content, env.fs_read file_path = .ok content ∧
      event = .ProvideFile (sha256_digest content) file_path := by
  unfold provide_file at h
  split at h
  · cases h
  · split at h
    · cases h
    · cases hread : env.fs_read file_path with
      | ok content =>
        rw [hread] at h
        exact ⟨content, rfl, (Except.ok.inj h).symm⟩
      | error e =>
        rw [hread] at h
        cases h

theorem providefile_eq_some {env : HandlerEnv} {file_path : String} {event : OrcaNetEvent}
    (h : providefile sha256_digest env file_path = some event) :
    ∃ content, env.fs_read file_path = .ok content ∧
      event = .ProvideFile (sha256_digest content) file_path := by
  unfold providefile at h
  split at h
  · cases h
  · cases hread : env.fs_read file_path with
    | ok content =>
      rw [hread] at h
      exact ⟨content, rfl, (Option.some.inj h).symm⟩
    | error e =>
      rw [hread] at h
      cases h

end provide

end FileEndpoints

end OrcaNet
