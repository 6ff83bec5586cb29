import OrcaNet.Files.Downloads

/-! # Where downloads are saved

    Without a destination a download is saved under the data directory, in a
    file whose name is glued from the first 16 bytes of the file id and the file
    name of the response.  Both texts are the peer's, and nothing is taken out of
    them: a separator in either makes a path of the name, and an absolute one
    replaces the directory. -/

namespace OrcaNet

namespace Downloads

open UnixPath (Absolute DirectChild Idle)

/-- The download is written, and it is written to a direct child of the data
    directory. -/
def SavesInside (env : DownloadEnv) (peer_id : PeerId) (metadata : FileMetadata F64)
    (content : List UInt8) (n : Node) : Prop :=
  ∃ path, save_path env metadata none = some path ∧
    (handle_file_content_response env peer_id (.FileContentResponse metadata content) none
        n).2.disk =
      Function.update n.disk path (env.written content) ∧
    DirectChild env.AppDataPath.toList path.toList

/-- A response that stays inside: its file id can be cut, and neither the cut
    file id has a part before its last separator, nor the file name one after its
    first.  (Absolute paths are taken as they are, and so are all in an empty
    directory.) -/
def StaysInside (AppDataPath : String) (metadata : FileMetadata F64) : Prop :=
  ∃ file_id, first_bytes 16 metadata.file_id.toList = some file_id ∧
    if Absolute file_id ∨ AppDataPath = "" then
      DirectChild AppDataPath.toList (file_id ++ '_' :: metadata.file_name.toList)
    else
      (∀ part ∈ (file_id.splitOn '/').dropLast, Idle part) ∧
        ∀ part ∈ (metadata.file_name.toList.splitOn '/').tail, Idle part

theorem toList_name (file_id : List Char) (file_name : String) :
    s!"{String.ofList file_id}_{file_name}".toList = file_id ++ '_' :: file_name.toList := by
  simp [toString]

theorem save_path_eq_some {env : DownloadEnv} {metadata : FileMetadata F64} {path : String} :
    save_path env metadata none = some path ↔
      ∃ file_id, first_bytes 16 metadata.file_id.toList = some file_id ∧
        String.ofList (UnixPath.join env.AppDataPath.toList
          (file_id ++ '_' :: metadata.file_name.toList)) = path := by
  simp only [save_path, Option.map_eq_some_iff, toList_name]

/-- The 16 bytes are not none. -/
theorem first_bytes_ne_nil {n : ℕ} {cs file_id : List Char}
    (h : first_bytes (n + 1) cs = some file_id) : file_id ≠ [] := by
  cases cs with
  | nil => cases h
  | cons c cs =>
    simp only [first_bytes] at h
    split at h
    · obtain ⟨rest, -, rfl⟩ := Option.map_eq_some_iff.mp h
      simp
    · cases h

/-- Whether a name is saved inside is a matter of the two texts that it is glued
    from. -/
theorem directChild_iff (AppDataPath : String) {file_id : List Char} (hne : file_id ≠ [])
    (file_name : String) :
    DirectChild AppDataPath.toList
        (UnixPath.join AppDataPath.toList (file_id ++ '_' :: file_name.toList)) ↔
      if Absolute file_id ∨ AppDataPath = "" then
        DirectChild AppDataPath.toList (file_id ++ '_' :: file_name.toList)
      else
        (∀ part ∈ (file_id.splitOn '/').dropLast, Idle part) ∧
          ∀ part ∈ (file_name.toList.splitOn '/').tail, Idle part := by
  -- the file id is not empty, so it decides whether the name is absolute
  have habs : Absolute (file_id ++ '_' :: file_name.toList) ↔ Absolute file_id := by
    obtain ⟨c, cs, rfl⟩ := List.exists_cons_of_ne_nil hne
    simp [Absolute]
  split
  · rename_i hreplaces
    rw [UnixPath.join_eq_self]
    simpa [habs] using hreplaces
  · rename_i hreplaces
    obtain ⟨hrelative, hbase⟩ := not_or.mp hreplaces
    rw [UnixPath.directChild_join_iff (by simpa using hbase) (by simpa [habs] using hrelative)]
    exact UnixPath.names_eq_singleton_iff (by decide) (by decide) file_id file_name.toList

variable (env : DownloadEnv) (peer_id : PeerId) (n : Node)

/-- The download is written to its path, and nowhere else. -/
theorem disk_of_save_path {dest_path : Option String} {metadata : FileMetadata F64} {path : String}
    (hpath : save_path env metadata dest_path = some path) (content : List UInt8) :
    (handle_file_content_response env peer_id (.FileContentResponse metadata content) dest_path
      n).2.disk = Function.update n.disk path (env.written content) := by
  have hsaves := handle_file_content_response_saves env peer_id n dest_path metadata content
  generalize handle_file_content_response _ _ _ _ _ = out at hsaves
  cases hsaves with
  | no_path hpath' => cases hpath.symm.trans hpath'
  | no_connection hpath' hpaid hconn =>
    obtain rfl := Option.some.inj (hpath.symm.trans hpath')
    exact hpaid.disk
  | insert hpath' hpaid hconn =>
    obtain rfl := Option.some.inj (hpath.symm.trans hpath')
    exact hpaid.disk

/-- **Where downloads are saved.**  A download without a destination is written to
    a direct child of the data directory if and only if the peer's texts stay
    inside. -/
theorem savesInside_iff (metadata : FileMetadata F64) (content : List UInt8) :
    SavesInside env peer_id metadata content n ↔ StaysInside env.AppDataPath metadata := by
  unfold SavesInside StaysInside
  constructor
  · intro ⟨path, hpath, _, hchild⟩
    obtain ⟨file_id, hfile_id, rfl⟩ := save_path_eq_some.mp hpath
    refine ⟨file_id, hfile_id, (directChild_iff _ (first_bytes_ne_nil hfile_id) _).mp ?_⟩
    rwa [String.toList_ofList] at hchild
  · intro ⟨file_id, hfile_id, hinside⟩
    have hpath : save_path env metadata none = some _ :=
      save_path_eq_some.mpr ⟨file_id, hfile_id, rfl⟩
    have hchild := (directChild_iff _ (first_bytes_ne_nil hfile_id) _).mpr hinside
    refine ⟨_, hpath, disk_of_save_path env peer_id n hpath content, ?_⟩
    rwa [String.toList_ofList]

section samples

/-- A digest that is followed by a way up. -/
def climbing : FileMetadata F64 := ⟨"0123456789abcdef", "/../../.bashrc", 1, "address"⟩

/-- The download leaves the data directory; a file id that is too short makes the
    node panic. -/
theorem not_savesInside_climbing :
    ¬ SavesInside sampleEnv ⟨"peer"⟩ climbing [] sampleNode ∧
      save_path sampleEnv ⟨"short", "name", 1, "address"⟩ none = none := by
  refine ⟨?_, rfl⟩
  intro ⟨path, hpath, _, hchild⟩
  have hcut : first_bytes 16 climbing.file_id.toList = some "0123456789abcdef".toList := rfl
  obtain ⟨file_id, hfile_id, rfl⟩ := save_path_eq_some.mp hpath
  obtain rfl := Option.some.inj (hcut.symm.trans hfile_id)
  rw [String.toList_ofList, directChild_iff _ (by simp)] at hchild
  have hrelative : ¬ (Absolute "0123456789abcdef".toList ∨ sampleEnv.AppDataPath = "") := by
    decide
  rw [if_neg hrelative] at hchild
  exact absurd (hchild.2 ['.', '.'] (by decide)) (by decide)

end samples

end Downloads

end OrcaNet
