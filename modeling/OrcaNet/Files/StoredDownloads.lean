import OrcaNet.Files.SavePath

/-! # Stored downloads

    A download writes the content, pays for it and records it, in this order.
    The result of the write is only logged, so the payment and the record do not
    depend on it: what keeps them from a content that could not be written is
    only that they fail themselves. -/

namespace OrcaNet

namespace Downloads

/-! ## Section 1: Payment and record -/

/-- The wallet pays for the content. -/
def Pays (env : DownloadEnv) (metadata : FileMetadata F64) (content : List UInt8) : Prop :=
  ∃ tx_id, env.send_to_address metadata.recipient_address (cost_btc metadata content) = .ok tx_id

/-- The database takes a new row. -/
structure Records (env : DownloadEnv) (downloaded_files : DownloadedFiles) : Prop where
  connection : env.create_sqlite_connection = none
  statement : env.insert_downloaded_file = none
  fresh : downloaded_files.find DownloadedFileInfo.id env.new_uuid = none

/-- The content is under the path that it is saved under. -/
def Stored (env : DownloadEnv) (dest_path : Option String) (resp : OrcaNetResponse F64)
    (out : Returned × Node) : Prop :=
  ∃ metadata content path, resp = .FileContentResponse metadata content ∧
    save_path env metadata dest_path = some path ∧ out.2.disk path = some content

/-- Only what was stored is paid and recorded, and the record names its path. -/
structure OnlyStored (env : DownloadEnv) (dest_path : Option String) (resp : OrcaNetResponse F64)
    (n : Node) (out : Returned × Node) : Prop where
  paid : out.2.transfers ≠ n.transfers → Stored env dest_path resp out
  recorded : ∀ row, Recorded n out.2 row → ∃ metadata content,
    resp = .FileContentResponse metadata content ∧ out.2.disk row.file_path = some content

/-- Content that cannot be written is neither paid nor recorded for another
    reason. -/
def StoredOrRefused (env : DownloadEnv) (dest_path : Option String) (resp : OrcaNetResponse F64)
    (n : Node) : Prop :=
  ∀ metadata content path, resp = .FileContentResponse metadata content →
    save_path env metadata dest_path = some path →
      env.written content = some content ∨
        (¬ Pays env metadata content ∧ ¬ Records env n.downloaded_files)

section effects

variable {env : DownloadEnv} {peer_id : PeerId} {n : Node} {dest_path : Option String}
  {metadata : FileMetadata F64} {content : List UInt8} {path : String}

theorem send_to_address_transfers (env : DownloadEnv) (n : Node) (metadata : FileMetadata F64)
    (content : List UInt8) (comment : String) :
    (n.send_to_address env metadata.recipient_address (cost_btc metadata content)
      comment).2.transfers ≠ n.transfers ↔ Pays env metadata content := by
  unfold Node.send_to_address Pays
  split
  · rename_i tx_id htx
    simp [htx]
  · rename_i e hrefused
    simp [hrefused]

/-- The payment does not depend on the write. -/
theorem transfers_ne_iff (hpath : save_path env metadata dest_path = some path) :
    (handle_file_content_response env peer_id (.FileContentResponse metadata content) dest_path
      n).2.transfers ≠ n.transfers ↔ Pays env metadata content := by
  have hpays := send_to_address_transfers env (n.write env path content) metadata content
    s!"Payment for {metadata.file_id}"
  cases hconn : env.create_sqlite_connection with
  | some e =>
    simp only [handle_file_content_response, hpath, hconn]
    exact hpays
  | none =>
    simp only [handle_file_content_response, hpath, hconn]
    exact hpays

/-- Nor does the record. -/
theorem records_of_recorded (hpath : save_path env metadata dest_path = some path)
    {row : DownloadedFileInfo}
    (hrow : Recorded n (handle_file_content_response env peer_id
      (.FileContentResponse metadata content) dest_path n).2 row) :
    Records env n.downloaded_files ∧ row.file_path = path := by
  have hsaves := handle_file_content_response_saves env peer_id n dest_path metadata content
  generalize handle_file_content_response _ _ _ _ _ = out at hsaves hrow
  cases hsaves with
  | no_path hpath' => cases hpath.symm.trans hpath'
  | no_connection hpath' hpaid hconn =>
    exact absurd hrow (not_recorded_of_eq hpaid.downloaded_files)
  | @insert path' payment_tx_id n' hpath' hpaid hconn =>
    obtain rfl := Option.some.inj (hpath.symm.trans hpath')
    have hfiles : n'.downloaded_files = n.downloaded_files := hpaid.downloaded_files
    obtain ⟨info, hinfo⟩ : ∃ info, info = downloaded_file_info env peer_id metadata content path
      payment_tx_id := ⟨_, rfl⟩
    rw [hfiles, ← hinfo] at hrow
    unfold DownloadedFilesTable.insert_downloaded_file at hrow
    split at hrow
    · exact absurd hrow (not_recorded_of_eq rfl)
    · -- the only row that a call adds is the one of this file
      rename_i t hfault hinsert
      obtain ⟨hfresh, hrows⟩ := Table.insert_eq_some hinsert
      have hrow' : Recorded n { n' with downloaded_files := t } info := hrows
      obtain rfl := hrow.inj hrow'
      subst hinfo
      exact ⟨⟨hconn, hfault, hfresh _ (by simp)⟩, rfl⟩
    · exact absurd hrow (not_recorded_of_eq rfl)

end effects

/-! ## Section 2: Only what was stored -/

section stored

variable (env : DownloadEnv) (peer_id : PeerId) (n : Node) (dest_path : Option String)

/-- A response with content whose path is known. -/
theorem onlyStored_content_iff {metadata : FileMetadata F64} {content : List UInt8} {path : String}
    (hpath : save_path env metadata dest_path = some path) :
    OnlyStored env dest_path (.FileContentResponse metadata content) n
        (handle_file_content_response env peer_id (.FileContentResponse metadata content) dest_path
          n) ↔
      env.written content = some content ∨
        (¬ Pays env metadata content ∧ ¬ Records env n.downloaded_files) := by
  have hdisk : (handle_file_content_response env peer_id (.FileContentResponse metadata content)
      dest_path n).2.disk path = env.written content := by
    rw [disk_of_save_path env peer_id n hpath content]
    exact Function.update_self _ _ _
  constructor
  · intro honly
    by_contra hcon
    -- the file was not written whole, and something was paid or recorded
    obtain ⟨hwritten, heffect⟩ := not_or.mp hcon
    refine heffect ⟨fun hpays => ?_, fun hrecords => ?_⟩
    · obtain ⟨metadata', content', path', hresp, hpath', hstored⟩ :=
        honly.paid ((transfers_ne_iff hpath).mpr hpays)
      cases hresp
      obtain rfl := Option.some.inj (hpath.symm.trans hpath')
      exact hwritten (hdisk.symm.trans hstored)
    · obtain ⟨-, row, hrow⟩ := handle_file_content_response_recorded env peer_id n dest_path
        metadata content hpath hrecords.connection hrecords.statement hrecords.fresh
      obtain ⟨metadata', content', hresp, hstored⟩ := honly.recorded row hrow
      cases hresp
      rw [(records_of_recorded hpath hrow).2] at hstored
      exact hwritten (hdisk.symm.trans hstored)
  · intro hcond
    obtain hwritten | ⟨hnot_pays, hnot_records⟩ := hcond
    · have hstored := hdisk.trans hwritten
      refine ⟨fun _ => ⟨metadata, content, path, rfl, hpath, hstored⟩, fun row hrow => ?_⟩
      refine ⟨metadata, content, rfl, ?_⟩
      rw [(records_of_recorded hpath hrow).2]
      exact hstored
    · refine ⟨fun hpaid => absurd ((transfers_ne_iff hpath).mp hpaid) hnot_pays, fun row hrow => ?_⟩
      exact absurd (records_of_recorded hpath hrow).1 hnot_records

/-- A response that changes nothing. -/
theorem onlyStored_of_eq {resp : OrcaNetResponse F64} {out : Returned × Node} (h : out.2 = n) :
    OnlyStored env dest_path resp n out where
  paid := fun hpaid => absurd (congrArg Node.transfers h) hpaid
  recorded := fun _ hrow => absurd hrow (not_recorded_of_eq (congrArg Node.downloaded_files h))

/-- **Stored downloads.**  Only what was stored is paid and recorded if and only
    if the content can be written, or payment and record fail themselves. -/
theorem onlyStored_iff (resp : OrcaNetResponse F64) :
    OnlyStored env dest_path resp n (handle_file_content_response env peer_id resp dest_path n) ↔
      StoredOrRefused env dest_path resp n := by
  by_cases hresp : ∃ metadata content, resp = .FileContentResponse metadata content
  · obtain ⟨metadata, content, rfl⟩ := hresp
    cases hpath : save_path env metadata dest_path with
    | none =>
      refine ⟨fun _ metadata' content' path' heq hpath' => ?_, fun _ => onlyStored_of_eq _ _ _ ?_⟩
      · cases heq
        cases hpath.symm.trans hpath'
      · simp only [handle_file_content_response, hpath]
    | some path =>
      rw [onlyStored_content_iff env peer_id n dest_path hpath]
      constructor
      · intro hcond metadata' content' path' heq hpath'
        cases heq
        exact hcond
      · intro hcond
        exact hcond metadata content path rfl hpath
  · push Not at hresp
    have hsame :=
      congrArg Prod.snd (handle_file_content_response_other env peer_id n hresp dest_path)
    refine ⟨fun _ metadata content path heq => absurd heq (hresp metadata content), fun _ => ?_⟩
    exact onlyStored_of_eq _ _ _ hsame

/-- A node whose disk is full. -/
def fullDisk : DownloadEnv := { sampleEnv with fs_write := .error none }

/-- The download is paid and recorded all the same. -/
theorem not_onlyStored_fullDisk :
    ¬ OnlyStored fullDisk (some "file")
      (.FileContentResponse ⟨"id", "name", 1, "address"⟩ [97, 98, 99]) sampleNode
      (handle_file_content_response fullDisk ⟨"peer"⟩
        (.FileContentResponse ⟨"id", "name", 1, "address"⟩ [97, 98, 99]) (some "file")
        sampleNode) := by
  have hpath : save_path fullDisk ⟨"id", "name", 1, "address"⟩ (some "file") = some "file" := rfl
  rw [onlyStored_content_iff _ _ _ _ hpath]
  rintro (hwritten | ⟨-, hrecords⟩)
  · cases hwritten
  · exact hrecords ⟨rfl, rfl, rfl⟩

end stored

end Downloads

end OrcaNet
