import OrcaNet.Files.Downloads

/-! # Downloading from any provider

    `NetworkClient::download_file`: the providers of a file are tried one after
    another until one of them delivers.

    A provider counts as having delivered as soon as it has answered anything:
    `handle_file_content_response` returns nothing, so an error of the peer and
    a failed write end the search as well. -/

namespace OrcaNet

namespace Downloads

/-! ## Section 1: `download_file` -/

/-- How a search ends, and the providers that were tried, in order. -/
structure Search where
  returned : Returned
  node : Node
  tried : List PeerId

section search

variable (env : PeerId → DownloadEnv)
  (peer : PeerId → OrcaNetRequest F64 → Except String (OrcaNetResponse F64)) (file_id : String)
  (dest_path : Option String)

/-- The loop over the providers, in the order in which the set is iterated. -/
def try_providers : List PeerId → Node → Search
  | [], n => ⟨.err s!"Could not get file from any provider for {file_id}", n, []⟩
  | peer_id :: providers, n =>
    match download_file_from_peer (env peer_id) (peer peer_id) file_id peer_id dest_path n with
    | (.err _, n) =>
      let search := try_providers providers n
      { search with tried := peer_id :: search.tried }
    | (.ok, n) => ⟨.ok, n, [peer_id]⟩
    | (.panicked message, n) => ⟨.panicked message, n, [peer_id]⟩

def download_file (providers : List PeerId) (n : Node) : Search :=
  if providers = [] then ⟨.err s!"No peer provides {file_id}", n, []⟩
  else try_providers env peer file_id dest_path providers n

/-! ## Section 2: What a search is for -/

/-- The provider answers with the content, and it is written to disk. -/
def Delivers (peer_id : PeerId) : Prop :=
  ∃ metadata content path,
    peer peer_id (.FileContentRequest file_id) = .ok (.FileContentResponse metadata content) ∧
      save_path (env peer_id) metadata dest_path = some path ∧
      (env peer_id).fs_write = .ok ()

/-- A search succeeds if and only if one of the providers that it tried has
    delivered, and fails only after it has tried all of them in vain. -/
structure Succeeds (providers : List PeerId) (search : Search) : Prop where
  ok_iff : search.returned = .ok ↔
    ∃ peer_id ∈ search.tried, Delivers env peer file_id dest_path peer_id
  err : ∀ message, search.returned = .err message → search.tried = providers ∧
    ∀ peer_id ∈ providers, ¬ Delivers env peer file_id dest_path peer_id

/-- The first provider that answers, and its answer. -/
def FirstAnswer (providers : List PeerId) (peer_id : PeerId) (resp : OrcaNetResponse F64) : Prop :=
  ∃ silent rest, providers = silent ++ peer_id :: rest ∧
    (∀ q ∈ silent, ∃ e, peer q (.FileContentRequest file_id) = .error e) ∧
    peer peer_id (.FileContentRequest file_id) = .ok resp

/-- The answer brings the content.  If there is a path for it, it can be written
    exactly if the table of downloads can be opened. -/
def Brings (env : DownloadEnv) (dest_path : Option String) (resp : OrcaNetResponse F64) : Prop :=
  ∃ metadata content, resp = .FileContentResponse metadata content ∧
    (save_path env metadata dest_path ≠ none →
      (env.fs_write = .ok () ↔ env.create_sqlite_connection = none))

end search

/-! ## Section 3: The first answer decides -/

section decides

variable {env : PeerId → DownloadEnv}
  {peer : PeerId → OrcaNetRequest F64 → Except String (OrcaNetResponse F64)} {file_id : String}
  {dest_path : Option String} {peer_id : PeerId} {providers : List PeerId} {n : Node}

theorem handle_file_content_response_ok_iff (env : DownloadEnv) (peer_id : PeerId)
    (metadata : FileMetadata F64) (content : List UInt8) (dest_path : Option String) (n : Node) :
    (handle_file_content_response env peer_id (.FileContentResponse metadata content) dest_path
        n).1 = .ok ↔
      save_path env metadata dest_path ≠ none ∧ env.create_sqlite_connection = none := by
  have hsaves := handle_file_content_response_saves env peer_id n dest_path metadata content
  generalize handle_file_content_response _ _ _ _ _ = out at hsaves
  cases hsaves with
  | no_path hpath => simp [hpath]
  | no_connection hpath hpaid hconn => simp [hconn]
  | insert hpath hpaid hconn => simp [hpath, hconn]

/-- The handling of an answer ends well exactly if the answer was delivered. -/
theorem ok_iff_delivers_iff {resp : OrcaNetResponse F64}
    (hresp : peer peer_id (.FileContentRequest file_id) = .ok resp) :
    ((handle_file_content_response (env peer_id) peer_id resp dest_path n).1 = .ok ↔
        Delivers env peer file_id dest_path peer_id) ↔ Brings (env peer_id) dest_path resp := by
  by_cases hcontent : ∃ metadata content, resp = .FileContentResponse metadata content
  · obtain ⟨metadata, content, rfl⟩ := hcontent
    have hdelivers : Delivers env peer file_id dest_path peer_id ↔
        save_path (env peer_id) metadata dest_path ≠ none ∧ (env peer_id).fs_write = .ok () := by
      constructor
      · intro ⟨metadata', content', path, hresp', hpath, hwrite⟩
        cases hresp.symm.trans hresp'
        exact ⟨by simp [hpath], hwrite⟩
      · intro ⟨hpath, hwrite⟩
        obtain ⟨path, hpath⟩ := Option.ne_none_iff_exists'.mp hpath
        exact ⟨metadata, content, path, hresp, hpath, hwrite⟩
    -- with content, both sides depend on the path, the write and the connection
    have hbrings : Brings (env peer_id) dest_path (.FileContentResponse metadata content) ↔
        (save_path (env peer_id) metadata dest_path ≠ none →
          ((env peer_id).fs_write = .ok () ↔ (env peer_id).create_sqlite_connection = none)) := by
      constructor
      · intro ⟨metadata', content', heq, h⟩
        cases heq
        exact h
      · intro h
        exact ⟨metadata, content, rfl, h⟩
    rw [handle_file_content_response_ok_iff, hdelivers, hbrings, and_congr_right_iff]
    exact forall_congr' fun _ => Iff.comm
  · -- the call returns, but nothing was delivered
    have hother : ∀ metadata content, resp ≠ .FileContentResponse metadata content := by
      intro metadata content heq
      exact hcontent ⟨metadata, content, heq⟩
    rw [handle_file_content_response_other (env peer_id) peer_id n hother dest_path]
    refine iff_of_false (fun h => ?_) fun ⟨metadata, content, heq, _⟩ => hother metadata content heq
    obtain ⟨metadata, content, path, hresp', -⟩ := h.mp rfl
    exact hother metadata content (Except.ok.inj (hresp.symm.trans hresp'))

/-- A provider that does not answer is passed over. -/
theorem firstAnswer_cons_of_error {e : String}
    (he : peer peer_id (.FileContentRequest file_id) = .error e) {q : PeerId}
    {resp : OrcaNetResponse F64} :
    FirstAnswer peer file_id (peer_id :: providers) q resp ↔
      FirstAnswer peer file_id providers q resp := by
  constructor
  · intro ⟨silent, rest, hsplit, hsilent, hresp⟩
    -- the first of the silent providers is this one
    cases silent with
    | nil =>
      obtain ⟨rfl, -⟩ := List.cons_eq_cons.mp hsplit
      cases he.symm.trans hresp
    | cons first silent =>
      obtain ⟨rfl, rfl⟩ := List.cons_eq_cons.mp hsplit
      exact ⟨silent, rest, rfl, fun p hp => hsilent p (List.mem_cons_of_mem _ hp), hresp⟩
  · intro ⟨silent, rest, hsplit, hsilent, hresp⟩
    refine ⟨peer_id :: silent, rest, by rw [hsplit]; rfl, fun p hp => ?_, hresp⟩
    obtain rfl | hp := List.mem_cons.mp hp
    · exact ⟨e, he⟩
    · exact hsilent p hp

theorem firstAnswer_cons_of_ok {first : OrcaNetResponse F64}
    (hfirst : peer peer_id (.FileContentRequest file_id) = .ok first) {q : PeerId}
    {resp : OrcaNetResponse F64} :
    FirstAnswer peer file_id (peer_id :: providers) q resp ↔ q = peer_id ∧ resp = first := by
  constructor
  · intro ⟨silent, rest, hsplit, hsilent, hresp⟩
    cases silent with
    | nil =>
      obtain ⟨rfl, -⟩ := List.cons_eq_cons.mp hsplit
      exact ⟨rfl, Except.ok.inj (hresp.symm.trans hfirst)⟩
    | cons p silent =>
      obtain ⟨rfl, -⟩ := List.cons_eq_cons.mp hsplit
      obtain ⟨e, he⟩ := hsilent _ List.mem_cons_self
      cases he.symm.trans hfirst
  · rintro ⟨rfl, rfl⟩
    exact ⟨[], providers, rfl, by simp, hfirst⟩

/-- A search that stopped at its first provider. -/
theorem succeeds_stopped_iff {returned : Returned} (hne : ∀ message, returned ≠ .err message) :
    Succeeds env peer file_id dest_path (peer_id :: providers) ⟨returned, n, [peer_id]⟩ ↔
      (returned = .ok ↔ Delivers env peer file_id dest_path peer_id) := by
  constructor
  · intro h
    simpa using h.ok_iff
  · intro h
    exact ⟨by simpa using h, fun message hmessage => absurd hmessage (hne message)⟩

/-- A search that went on after its first provider. -/
theorem succeeds_cons_iff (h : ¬ Delivers env peer file_id dest_path peer_id) (search : Search) :
    Succeeds env peer file_id dest_path (peer_id :: providers)
        { search with tried := peer_id :: search.tried } ↔
      Succeeds env peer file_id dest_path providers search := by
  constructor
  · intro hs
    refine ⟨by simpa [h] using hs.ok_iff, fun message hmessage => ?_⟩
    obtain ⟨htried, hall⟩ := hs.err message hmessage
    exact ⟨(List.cons_eq_cons.mp htried).2, fun q hq => hall q (List.mem_cons_of_mem _ hq)⟩
  · intro hs
    refine ⟨by simpa [h] using hs.ok_iff, fun message hmessage => ?_⟩
    obtain ⟨htried, hall⟩ := hs.err message hmessage
    exact ⟨congrArg _ htried, by simpa [h] using hall⟩

theorem try_providers_succeeds_iff (providers : List PeerId) (n : Node) :
    Succeeds env peer file_id dest_path providers
        (try_providers env peer file_id dest_path providers n) ↔
      ∀ p resp, FirstAnswer peer file_id providers p resp → Brings (env p) dest_path resp := by
  induction providers generalizing n with
  | nil =>
    refine ⟨fun _ p resp ⟨silent, rest, hsplit, _⟩ => ?_, fun _ => ⟨by simp [try_providers], ?_⟩⟩
    · simp at hsplit
    · simp [try_providers]
  | cons peer_id providers ih =>
    cases hresp : peer peer_id (.FileContentRequest file_id) with
    | error e =>
      -- a provider that does not answer is passed over
      have hnot : ¬ Delivers env peer file_id dest_path peer_id := by
        intro ⟨metadata, content, path, hresp', _⟩
        cases hresp.symm.trans hresp'
      simp only [try_providers, download_file_from_peer, hresp]
      rw [succeeds_cons_iff hnot, ih n]
      simp only [firstAnswer_cons_of_error hresp]
    | ok resp =>
      have hne := handle_file_content_response_ne_err (env peer_id) peer_id n resp dest_path
      have hdelivers :
          ((handle_file_content_response (env peer_id) peer_id resp dest_path n).1 = .ok ↔
            Delivers env peer file_id dest_path peer_id) ↔ Brings (env peer_id) dest_path resp :=
        ok_iff_delivers_iff hresp
      obtain ⟨returned, n', hout⟩ : ∃ returned n',
          handle_file_content_response (env peer_id) peer_id resp dest_path n = (returned, n') :=
        ⟨_, _, rfl⟩
      rw [hout] at hne hdelivers
      -- the first answer ends the search, whatever it brings
      have hstop : try_providers env peer file_id dest_path (peer_id :: providers) n =
          ⟨returned, n', [peer_id]⟩ := by
        simp only [try_providers, download_file_from_peer, hresp, hout]
        cases returned with
        | err message => exact absurd rfl (hne message)
        | ok => rfl
        | panicked message => rfl
      rw [hstop, succeeds_stopped_iff hne, hdelivers]
      simp only [firstAnswer_cons_of_ok hresp, and_imp, forall_eq_apply_imp_iff, forall_eq]

/-- **Downloading from any provider.**  A search does what it is for if and only
    if the first answer that it gets brings the content. -/
theorem download_file_succeeds_iff (providers : List PeerId) (n : Node) :
    Succeeds env peer file_id dest_path providers
        (download_file env peer file_id dest_path providers n) ↔
      ∀ p resp, FirstAnswer peer file_id providers p resp → Brings (env p) dest_path resp := by
  unfold download_file
  split
  · rename_i hnil
    subst hnil
    refine ⟨fun _ p resp ⟨silent, rest, hsplit, _⟩ => ?_, fun _ => ⟨by simp, by simp⟩⟩
    simp at hsplit
  · exact try_providers_succeeds_iff providers n

end decides

section samples

/-- The first provider has an error for every request, the others have content. -/
def samplePeers (peer_id : PeerId) : OrcaNetRequest F64 → Except String (OrcaNetResponse F64) :=
  if peer_id = ⟨"first"⟩ then
    fun _ => .ok (.Error (.NotAProvider "Not a provider of requested file"))
  else samplePeer

/-- The error of the first provider is a success, and the second one is not asked. -/
theorem not_succeeds_samplePeers :
    (download_file (fun _ => sampleEnv) samplePeers "id" (some "file") [⟨"first"⟩, ⟨"second"⟩]
      sampleNode).returned = .ok ∧
    Delivers (fun _ => sampleEnv) samplePeers "id" (some "file") ⟨"second"⟩ ∧
    ¬ Succeeds (fun _ => sampleEnv) samplePeers "id" (some "file") [⟨"first"⟩, ⟨"second"⟩]
      (download_file (fun _ => sampleEnv) samplePeers "id" (some "file") [⟨"first"⟩, ⟨"second"⟩]
        sampleNode) := by
  refine ⟨rfl, ⟨_, _, "file", rfl, rfl, rfl⟩, fun h => ?_⟩
  obtain ⟨peer_id, htried, metadata, content, path, hresp, -⟩ := h.ok_iff.mp rfl
  obtain rfl : peer_id = ⟨"first"⟩ := List.mem_singleton.mp htried
  cases hresp

end samples

end Downloads

end OrcaNet
