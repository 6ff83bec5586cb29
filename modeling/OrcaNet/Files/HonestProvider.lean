import OrcaNet.Files.Serving

/-! # Honest providers

    A file is provided under the digest of its content, which the HTTP server
    or the terminal takes before the event is sent.  As long as the file stays
    as it is, every content response carries the bytes with the requested
    digest, and the row of a file counts the responses given since it was
    inserted.

    The invariant is `Genuine`: the id of every row is the digest of the bytes
    behind its path, and its count is the number of responses.  An insert that
    the table rejects leaves it alone, whichever constraint it violates. -/

namespace OrcaNet

open Transition

namespace Files

/-! ## Section 1: Files that stay as they are -/

section honest

-- the digest of some bytes, and the bytes behind a path
variable (sha256_digest : List UInt8 → String) (disk : String → List UInt8)

/-- What is read from a path, if anything, is the file on disk. -/
def Unmodified (env : Env) (file_path : String) : Prop :=
  ∀ content, env.fs_read file_path = .ok content → content = disk file_path

/-- The digest in the event was taken by `provide_file` or `providefile`. -/
def Digested (file_id file_path : String) : Prop :=
  ∃ env metadata_len, Unmodified disk env.toEnv file_path ∧
    (FileEndpoints.provide_file sha256_digest env metadata_len file_path =
        .ok (.ProvideFile file_id file_path) ∨
      FileEndpoints.providefile sha256_digest env file_path =
        some (.ProvideFile file_id file_path))

theorem Digested.eq {file_id file_path : String}
    (h : Digested sha256_digest disk file_id file_path) :
    sha256_digest (disk file_path) = file_id := by
  obtain ⟨env, metadata_len, hread, h | h⟩ := h
  · obtain ⟨content, hcontent, hevent⟩ := FileEndpoints.provide_file_eq_ok sha256_digest h
    injection hevent with hid hpath
    rw [hid, hread content hcontent]
  · obtain ⟨content, hcontent, hevent⟩ := FileEndpoints.providefile_eq_some sha256_digest h
    injection hevent with hid hpath
    rw [hid, hread content hcontent]

/-- A step with a working database, files that stay as they are, and digests
    that were taken from them. -/
structure Honest (s : State) (l : Label) : Prop where
  faults : ∀ env ∈ l.env, env.NoFaults
  files : ∀ env ∈ l.env, ∀ file_id r, s.handler.db.provided_file file_id = some r →
    Unmodified disk env r.file_path
  digests : ∀ env file_id file_path, l = .handler env (.event (.ProvideFile file_id file_path)) →
    Digested sha256_digest disk file_id file_path

/-- The content that a step gives away is the one that was asked for, and the
    rows afterwards have counted it. -/
structure ServesHonestly (s : State) (l : Label) (s' : State) : Prop where
  content : ∀ env event file_id metadata content, Handles s l env event file_id →
    s.answer env event = some (.FileContentResponse metadata content) →
      metadata.file_id = file_id ∧ sha256_digest content = file_id
  count : ∀ file_id r, s'.handler.db.provided_file file_id = some r →
    r.downloads_count = s'.served file_id

/-! ## Section 2: The invariant -/

structure Genuine (s : State) : Prop where
  digest : ∀ file_id r, s.handler.db.provided_file file_id = some r →
    sha256_digest (disk r.file_path) = file_id
  count : ∀ file_id r, s.handler.db.provided_file file_id = some r →
    r.downloads_count = s.served file_id
  event : ∀ file_id file_path, s.phase = .handle_event (.ProvideFile file_id file_path) →
    sha256_digest (disk file_path) = file_id

/-- Every row comes from one with the same path that counted as many responses. -/
def Keeps (db : Database) (served : String → ℕ) (db' : Database) (served' : String → ℕ) : Prop :=
  ∀ file_id r', db'.provided_file file_id = some r' → ∃ r, db.provided_file file_id = some r ∧
    r'.file_path = r.file_path ∧ r'.downloads_count - r.downloads_count =
      served' file_id - served file_id

theorem Keeps.refl {db db' : Database} {served served' : String → ℕ}
    (hdb : db'.provided_files = db.provided_files) (hserved : served' = served) :
    Keeps db served db' served' := by
  intro file_id r' hr'
  refine ⟨r', ?_, rfl, by simp [hserved]⟩
  rw [Database.provided_file, hdb] at hr'
  exact hr'

variable {sha256_digest disk}

theorem Genuine.of_keeps {s s' : State} (hinv : Genuine sha256_digest disk s)
    (hkeeps : Keeps s.handler.db s.served s'.handler.db s'.served)
    (hevent : ∀ file_id file_path, s'.phase = .handle_event (.ProvideFile file_id file_path) →
      sha256_digest (disk file_path) = file_id) : Genuine sha256_digest disk s' where
  digest := by
    intro file_id r' hr'
    obtain ⟨r, hr, hpath, -⟩ := hkeeps file_id r' hr'
    rw [hpath]
    exact hinv.digest file_id r hr
  count := by
    intro file_id r' hr'
    obtain ⟨r, hr, -, hcount⟩ := hkeeps file_id r' hr'
    have hold := hinv.count file_id r hr
    omega
  event := hevent

/-! ## Section 3: Steps -/

theorem count_eq_served {s : State} {env : HandlerEnv} {ph : HandlerLoop.Phase}
    (hgiven : ∀ event, s.phase = .handle_event event → given event (s.answer env event) = none)
    (hop : ∀ file_id, operation ph ≠ some (file_id, true)) : count s env ph = s.served := by
  unfold count
  split
  · rename_i event hev
    have hnone := hgiven event hev
    unfold State.answer at hnone
    simp only [hnone]
  · rfl

theorem count_of_given {s : State} {env : HandlerEnv} {ph : HandlerLoop.Phase}
    {event : OrcaNetEvent} {file_id : String} (hev : s.phase = .handle_event event)
    (hgiven : given event (s.answer env event) = some file_id) :
    count s env ph = Function.update s.served file_id (s.served file_id + 1) := by
  unfold State.answer at hgiven
  simp only [count, hev, hgiven]

theorem count_of_provide {s : State} {env : HandlerEnv} {ph : HandlerLoop.Phase}
    {file_id file_path : String} (hev : s.phase = .handle_event (.ProvideFile file_id file_path))
    (hop : operation ph = some (file_id, true)) :
    count s env ph = Function.update s.served file_id 0 := by
  have hgiven : ∀ resp, given (.ProvideFile file_id file_path) resp = none :=
    given_of_no_request rfl
  simp only [count, hev, hop, hgiven]

/-- What a request does to the rows and to the counts. -/
theorem keeps_of_answer {s : State} {env : HandlerEnv} (hnf : env.toEnv.NoFaults)
    {event : OrcaNetEvent} {request : OrcaNetRequest F64} {from_peer : PeerId}
    {channel : Option ResponseChannel} {file_id : String} {ph : HandlerLoop.Phase} {db' : Database}
    (hev : s.phase = .handle_event event)
    (hrequest : HandlerLoop.request_of event = some (request, from_peer, channel))
    (hanswer : RequestHandlerLoop.FileAnswer s.handler.config env.toEnv s.handler.db file_id request
      (s.answer env event) db') (hop : operation ph = none) :
    Keeps s.handler.db s.served db' (count s env ph) := by
  have hgiven := given_of_request hrequest (s.answer env event)
  -- a response without content is not counted
  have hnothing : content_of request (s.answer env event) = none →
      count s env ph = s.served := by
    intro hnone
    refine count_eq_served (fun event' hev' => ?_) (by simp [hop])
    cases hev.symm.trans hev'
    exact hgiven.trans hnone
  generalize hresp : s.answer env event = resp at hanswer hnothing
  cases hanswer with
  | no_connection hconn => exact .refl rfl (hnothing (by cases request <;> rfl))
  | not_a_provider hlookup => exact .refl rfl (hnothing (by cases request <;> rfl))
  | metadata hfinds => exact .refl rfl (hnothing rfl)
  | unreadable hfinds hread => exact .refl rfl (hnothing rfl)
  | content hfinds hread =>
    -- content was given: the row and the count of the file go up together
    rw [hresp] at hgiven
    rw [count_of_given hev ((congrArg _ hresp).trans hgiven)]
    intro j r' hr'
    rw [ProvidedFilesTable.increment_download_count_row (hnf _)] at hr'
    obtain ⟨r, hr, rfl⟩ := Option.map_eq_some_iff.mp hr'
    have hid := Database.provided_file_id hr
    refine ⟨r, hr, ?_⟩
    by_cases hj : j = file_id
    · subst hj
      simp [hid, ProvidedFilesTable.counted]
    · rw [Function.update_of_ne hj, if_neg (hid.trans_ne hj)]
      simp

theorem genuine_handler {s s' : State} {env : HandlerEnv} {wake : HandlerLoop.Wake}
    (hinv : Genuine sha256_digest disk s)
    (hhonest : Honest sha256_digest disk s (.handler env wake))
    (h : next s (.handler env wake) = some s') : Genuine sha256_digest disk s' := by
  have hnf := hhonest.faults env.toEnv rfl
  obtain ⟨o, ho, -, hseg, rfl⟩ := next_handler hnf h
  -- the event to be handled next, if any, has just been taken
  have hevent : ∀ file_id file_path, o.phase = .handle_event (.ProvideFile file_id file_path) →
      sha256_digest (disk file_path) = file_id := by
    intro file_id file_path hph
    obtain ⟨-, rfl⟩ := HandlerLoop.resume_event ho (by rw [hph]; rfl)
    exact (hhonest.digests env file_id file_path rfl).eq
  generalize hph : s.phase = ph at hseg
  cases hseg with
  | idle hfiles hgiven hop =>
    refine hinv.of_keeps (.refl hfiles (count_eq_served ?_ (by simp [hop]))) hevent
    intro event hev
    exact hgiven event (hph.symm.trans hev)
  | request hrequest hfile hanswer hop =>
    exact hinv.of_keeps (keeps_of_answer hnf hph hrequest hanswer hop) hevent
  | provide hnew hrow hop =>
    rename_i file_id file_path file_name
    refine ⟨fun j r hr => ?_, fun j r hr => ?_, hevent⟩
    · rw [hrow] at hr
      by_cases hj : j = file_id
      · rw [if_pos hj] at hr
        obtain rfl := Option.some.inj hr
        rw [hj]
        exact hinv.event file_id file_path hph
      · rw [if_neg hj] at hr
        exact hinv.digest j r hr
    · rw [hrow] at hr
      show r.downloads_count = (count s env o.phase j : ℤ)
      rw [count_of_provide hph hop]
      by_cases hj : j = file_id
      · rw [if_pos hj] at hr
        obtain rfl := Option.some.inj hr
        rw [hj, Function.update_self]
        rfl
      · rw [if_neg hj] at hr
        rw [Function.update_of_ne hj]
        exact hinv.count j r hr
  | stop hrow hop =>
    rename_i file_id permanent
    refine hinv.of_keeps ?_ hevent
    intro j r' hr'
    have hserved : count s env o.phase = s.served := by
      refine count_eq_served (fun event hev => ?_) (by simp [hop])
      cases hph.symm.trans hev
      exact given_of_no_request rfl _
    rw [hserved]
    rw [hrow] at hr'
    split at hr'
    · split at hr'
      · cases hr'
      · obtain ⟨r, hr, rfl⟩ := Option.map_eq_some_iff.mp hr'
        exact ⟨r, hr, rfl, by simp [ProvidedFilesTable.with_status]⟩
    · exact ⟨r', hr', rfl, by simp⟩

theorem genuine_step {s s' : State} {l : Label} (hinv : Genuine sha256_digest disk s)
    (hhonest : Honest sha256_digest disk s l) (h : next s l = some s') :
    Genuine sha256_digest disk s' := by
  cases l with
  | handler env wake => exact genuine_handler hinv hhonest h
  | command_taken env swarm =>
    obtain ⟨c, provided, o, -, -, ho, rfl⟩ := next_command_taken h
    refine hinv.of_keeps (.refl (congrArg _ (command_taken_effect ho).1) rfl) ?_
    intro file_id file_path hph
    have hnone := (HandlerLoop.command_taken_phase ho).1
    rw [show o.phase = _ from hph] at hnone
    cases hnone
  | resume_providing env task file_id =>
    have hnf := hhonest.faults env rfl
    obtain ⟨outcome, db, hresume, -, hs'⟩ := next_resume_providing h
    -- resuming sets the status of a row and nothing else of it
    have hkeeps : Keeps s.handler.db s.served db s.served := by
      intro j r' hr'
      have hrow := FileEndpoints.resume_providing_row (hnf .set_provided_file_status) file_id j
        s.handler.db
      rw [hresume] at hrow
      rw [hrow] at hr'
      split at hr'
      · obtain ⟨r, hr, rfl⟩ := Option.map_eq_some_iff.mp hr'
        refine ⟨r, hr, ?_⟩
        split <;> exact ⟨rfl, by simp [ProvidedFilesTable.with_status]⟩
      · exact ⟨r', hr', rfl, by simp⟩
    obtain ⟨-, rfl⟩ | ⟨-, rfl⟩ := hs'
    · exact hinv.of_keeps hkeeps hinv.event
    · exact hinv.of_keeps hkeeps hinv.event
  | resume_command_taken task file_id sender swarm =>
    obtain ⟨-, provided, -, rfl⟩ := next_resume_command_taken h
    exact hinv.of_keeps (.refl rfl rfl) hinv.event
  | resume_reply task file_id =>
    obtain ⟨-, rfl⟩ := next_resume_reply h
    exact hinv.of_keeps (.refl rfl rfl) hinv.event

/-- The content that is given away is the one that was asked for. -/
theorem content_of_genuine {s : State} {l : Label} (hinv : Genuine sha256_digest disk s)
    (hhonest : Honest sha256_digest disk s l) {env : HandlerEnv} {event : OrcaNetEvent}
    {file_id : String} {metadata : FileMetadata F64} {content : List UInt8}
    (h : Handles s l env event file_id)
    (hanswer : s.answer env event = some (.FileContentResponse metadata content)) :
    metadata.file_id = file_id ∧ sha256_digest content = file_id := by
  obtain ⟨request, db', hfile⟩ := h.answer
  rw [hanswer] at hfile
  cases hfile with
  | content hfinds hread =>
    refine ⟨rfl, ?_⟩
    have henv : env.toEnv ∈ l.env := by rw [h.label]; rfl
    rw [hhonest.files env.toEnv henv file_id _ hfinds.row content hread]
    exact hinv.digest file_id _ hfinds.row

/-- **Honest provider.**  A node that starts with no provided file, and whose
    files stay as they are, only gives away the content that was asked for, and
    counts every time it does. -/
theorem servesHonestly_of_honest (sha256_digest : List UInt8 → String)
    (disk : String → List UInt8) {s : State} (hidle : Idle s)
    (hempty : ∀ file_id, s.handler.db.provided_file file_id = none) (labels : List Label)
    (hhonest : system.AllSteps (fun t l _ => Honest sha256_digest disk t l) s labels) :
    system.AllSteps (ServesHonestly sha256_digest) s labels := by
  refine system.allSteps_of_guard (J := Genuine sha256_digest disk) ?_ labels ⟨?_, ?_, ?_⟩ hhonest
  · intro t l t' hinv hguard hnext
    have hinv' := genuine_step hinv hguard hnext
    exact ⟨hinv', fun _ _ _ _ _ => content_of_genuine hinv hguard, hinv'.count⟩
  · intro file_id r hr
    cases (hempty file_id).symm.trans hr
  · intro file_id r hr
    cases (hempty file_id).symm.trans hr
  · intro file_id file_path hph
    cases hidle.phase.symm.trans hph

end honest

/-- A file is provided and a peer gets its content. -/
def contentRun : List Label :=
  provideRun ++ requestRun (.FileContentRequest sampleFile) ++ [.handler sampleEnv .run]

theorem servesHonestly_contentRun :
    system.AllSteps (ServesHonestly Utils.sampleDigest) sampleState contentRun := by
  refine servesHonestly_of_honest Utils.sampleDigest (fun _ => [97, 98, 99])
    ⟨rfl, rfl, fun _ => rfl⟩ (fun _ => rfl) contentRun (system.allSteps_of_forall ?_ sampleState)
  intro s l hl t
  simp only [contentRun, provideRun, requestRun, List.cons_append, List.nil_append,
    List.mem_cons, List.not_mem_nil, or_false] at hl
  have henv : ∀ env ∈ l.env, env = sampleEnv.toEnv := by
    rcases hl with rfl | rfl | rfl | rfl | rfl | rfl <;> exact fun env h => (Option.some.inj h).symm
  have hread : ∀ file_path, Unmodified (fun _ => [97, 98, 99]) sampleEnv.toEnv file_path := by
    intro file_path content hcontent
    exact (Except.ok.inj hcontent).symm
  refine ⟨fun env h => ?_, fun env h file_id r _ => ?_, fun env file_id file_path h => ?_⟩
  · rw [henv env h]
    exact fun _ => rfl
  · rw [henv env h]
    exact hread r.file_path
  · refine ⟨sampleEnv, 3, hread file_path, Or.inl ?_⟩
    subst h
    simp only [Label.handler.injEq, HandlerLoop.Wake.event.injEq, OrcaNetEvent.ProvideFile.injEq,
      reduceCtorEq, and_false, or_false] at hl
    obtain ⟨-, rfl, -⟩ := hl
    rfl

end Files

end OrcaNet
