import OrcaNet.Files.Serving

/-! # Providing a file

    `/provide-file` says that a file is provided once its event is sent.  The
    handler then inserts a new row and announces the file, and a row that the
    table refuses is only logged.  So a `ProvideFile` takes effect if the table
    has no row with the file's id or path, or if it was not needed. -/

namespace OrcaNet

open Transition

namespace Files

/-! ## Section 1: What a `ProvideFile` is for -/

/-- The file has an active row with the path. -/
def ActiveAt (db : Database) (file_id file_path : String) : Prop :=
  ∃ r, db.provided_file file_id = some r ∧ r.status = 1 ∧ r.file_path = file_path

/-- The file is provided, as the reply of `/provide-file` says. -/
structure TakesEffect (s : State) (file_id file_path : String) : Prop where
  row : ActiveAt s.handler.db file_id file_path
  advertised : Utils.get_key_with_ns file_id ∈ s.provided

/-- The constraints of the table accept a row with the id and the path. -/
structure Accepts (db : Database) (file_id file_path : String) : Prop where
  file_id : db.provided_file file_id = none
  file_path : db.provided_files.find ProvidedFileInfo.file_path file_path = none

theorem insert_isSome_iff_accepts (db : Database) (file_id file_path file_name : String)
    (now : ℤ) :
    (db.provided_files.insert (.with_defaults file_id file_path file_name now)).isSome ↔
      Accepts db file_id file_path := by
  rw [Table.insert_isSome_iff]
  simp only [List.forall_mem_cons, List.not_mem_nil, false_imp_iff, implies_true, and_true]
  constructor
  · intro h
    exact ⟨h.1, h.2⟩
  · intro h
    exact ⟨h.file_id, h.file_path⟩

/-- With a working database the constraints decide about an insert. -/
theorem insert_provided_file_of_accepts {env : Env} (hnf : env.NoFaults) {db : Database}
    {file_id file_path : String} (h : Accepts db file_id file_path) (file_name : String)
    (now : ℤ) : ∃ db', ProvidedFilesTable.insert_provided_file env
      (.with_defaults file_id file_path file_name now) db = (.ok (), db') := by
  obtain ⟨t, ht⟩ := Option.isSome_iff_exists.mp
    ((insert_isSome_iff_accepts db file_id file_path file_name now).mpr h)
  refine ⟨{ db with provided_files := t }, ?_⟩
  rw [ProvidedFilesTable.insert_provided_file, execute, hnf _, ht]

theorem insert_provided_file_of_not_accepts {env : Env} (hnf : env.NoFaults) {db : Database}
    {file_id file_path : String} (h : ¬ Accepts db file_id file_path) (file_name : String)
    (now : ℤ) : ∃ e, ProvidedFilesTable.insert_provided_file env
      (.with_defaults file_id file_path file_name now) db = (.error e, db) := by
  rw [← insert_isSome_iff_accepts db file_id file_path file_name now, Option.not_isSome_iff_eq_none]
    at h
  refine ⟨"UNIQUE constraint failed: provided_files", ?_⟩
  rw [ProvidedFilesTable.insert_provided_file, execute, hnf _, h]

/-- A call of `resume_providing` does not take a file away. -/
theorem ActiveAt.resume_providing {env : Env} (hnf : env.NoFaults) {db : Database}
    {file_id file_path : String} (h : ActiveAt db file_id file_path) (resumed : String) :
    ActiveAt (FileEndpoints.resume_providing env resumed db).2 file_id file_path := by
  obtain ⟨r, hr, hstatus, hpath⟩ := h
  rw [ActiveAt, FileEndpoints.resume_providing_row (hnf _) resumed file_id db, hr]
  split
  · by_cases hid : r.file_id = resumed
    · exact ⟨ProvidedFilesTable.with_status true none r, by simp [hid], rfl, hpath⟩
    · exact ⟨r, by simp [hid], hstatus, hpath⟩
  · exact ⟨r, rfl, hstatus, hpath⟩

/-! ## Section 2: Handling an event -/

/-- The labels lead to the next time that the handler waits for an event.  Calls
    of `resume_providing` may move on in between. -/
inductive Handling : State → List Label → State → Prop where
  | last {s s' : State} {l : Label} (hnext : next s l = some s') (hphase : s'.phase = .next_event) :
      Handling s [l] s'
  | cons {s t s' : State} {l : Label} {ls : List Label} (hnext : next s l = some t)
      (hphase : t.phase ≠ .next_event) (hrest : Handling t ls s') : Handling s (l :: ls) s'

/-- In the run of `labels` from `s` the handler handles a `ProvideFile` of an
    existing file, from state `t` to state `t'`. -/
def Provides (s : State) (labels : List Label) (file_id file_path : String) (t t' : State) :
    Prop :=
  ∃ earlier env handling later,
    labels = earlier ++ .handler env .run :: handling ++ later ∧
      system.run s earlier = some t ∧ t.phase = .handle_event (.ProvideFile file_id file_path) ∧
      env.path_exists file_path = true ∧ Handling t (.handler env .run :: handling) t'

/-- Where the handler is after it began to handle the event, unless it is done. -/
inductive Announcing (file_id file_path : String) (s : State) : Prop where
  | start_providing (sender : Sender)
      (hphase : s.phase = .start_providing file_id sender .done)
      (hrow : ActiveAt s.handler.db file_id file_path) : Announcing file_id file_path s
  | reply (sender : Sender) (hphase : s.phase = .start_providing_reply sender .done)
      (heffect : TakesEffect s file_id file_path) : Announcing file_id file_path s
  | panicked (message : String) (hphase : s.phase = .panicked message) :
      Announcing file_id file_path s

variable {file_id file_path : String}

theorem Announcing.phase_ne {s : State} (h : Announcing file_id file_path s) :
    s.phase ≠ .next_event := by
  cases h with
  | start_providing sender hphase hrow => simp [hphase]
  | reply sender hphase heffect => simp [hphase]
  | panicked message hphase => simp [hphase]

/-- The steps of others leave the handler where it is. -/
theorem Announcing.of_eq {s s' : State} (h : Announcing file_id file_path s)
    (hphase : s'.phase = s.phase)
    (hrow : ActiveAt s.handler.db file_id file_path → ActiveAt s'.handler.db file_id file_path)
    (hprovided : s.provided ⊆ s'.provided) : Announcing file_id file_path s' := by
  cases h with
  | start_providing sender hstart hactive =>
    exact .start_providing sender (hphase.trans hstart) (hrow hactive)
  | reply sender hreply heffect =>
    exact .reply sender (hphase.trans hreply) ⟨hrow heffect.row, hprovided heffect.advertised⟩
  | panicked message hpanic => exact .panicked message (hphase.trans hpanic)

/-- A segment of the handler ends the announcement or panics. -/
theorem Announcing.handler {s s' : State} {env : HandlerEnv} {wake : HandlerLoop.Wake}
    (h : Announcing file_id file_path s) (hnf : env.toEnv.NoFaults)
    (hnext : next s (.handler env wake) = some s') :
    Announcing file_id file_path s' ∨
      (s'.phase = .next_event ∧ TakesEffect s' file_id file_path) := by
  obtain ⟨o, ho, hwake, -, rfl⟩ := next_handler hnf hnext
  cases h with
  | start_providing sender hphase hrow =>
    -- the command was not taken, so the handler panicked over a closed channel
    obtain ⟨message, hpanic⟩ := panicked_of_operation (p := (file_id, true)) ho hwake
      (by rw [hphase]; rfl)
    exact Or.inl (.panicked message hpanic)
  | reply sender hphase heffect =>
    rw [hphase] at ho
    cases wake with
    | reply provided =>
      -- a sender that is dropped without a reply is a panic, too
      cases provided with
      | true =>
        obtain rfl := Option.some.inj ho
        exact Or.inr ⟨rfl, heffect.row, heffect.advertised⟩
      | false =>
        obtain rfl := Option.some.inj ho
        exact Or.inl (.panicked _ rfl)
    | _ => cases ho
  | panicked message hphase =>
    rw [hphase] at ho
    cases ho

theorem Announcing.command_taken {s s' : State} {env : HandlerEnv} {swarm : Swarm}
    (h : Announcing file_id file_path s) (hnext : next s (.command_taken env swarm) = some s') :
    Announcing file_id file_path s' := by
  obtain ⟨c, provided, o, hc, hhandled, ho, rfl⟩ := next_command_taken hnext
  cases h with
  | start_providing sender hphase hrow =>
    rw [hphase] at hc ho
    obtain rfl := Option.some.inj hc
    obtain rfl := Option.some.inj ho
    refine .reply sender rfl ⟨hrow, ?_⟩
    show Utils.get_key_with_ns file_id ∈ provided
    rw [NetworkEventLoop.handled_start_providing hhandled]
    exact Finset.mem_insert_self _ _
  | reply sender hphase heffect =>
    rw [hphase] at hc
    cases hc
  | panicked message hphase =>
    rw [hphase] at hc
    cases hc

/-- The step lemma: an announcement goes on, or the file is provided. -/
theorem Announcing.step {s s' : State} {l : Label} (h : Announcing file_id file_path s)
    (hfaults : ∀ env ∈ l.env, env.NoFaults) (hnext : next s l = some s') :
    Announcing file_id file_path s' ∨
      (s'.phase = .next_event ∧ TakesEffect s' file_id file_path) := by
  cases l with
  | handler env wake => exact h.handler (hfaults env.toEnv rfl) hnext
  | command_taken env swarm => exact Or.inl (h.command_taken hnext)
  | resume_providing env task resumed =>
    obtain ⟨outcome, db, hresume, -, hs'⟩ := next_resume_providing hnext
    -- other files may be resumed meanwhile
    have hrow : ActiveAt s.handler.db file_id file_path → ActiveAt db file_id file_path := by
      intro hactive
      have hkept := hactive.resume_providing (hfaults env rfl) resumed
      rwa [hresume] at hkept
    obtain ⟨-, rfl⟩ | ⟨-, rfl⟩ := hs'
    · exact Or.inl (h.of_eq rfl hrow (Finset.Subset.refl _))
    · exact Or.inl (h.of_eq rfl hrow (Finset.Subset.refl _))
  | resume_command_taken task resumed sender swarm =>
    obtain ⟨-, provided, hhandled, rfl⟩ := next_resume_command_taken hnext
    refine Or.inl (h.of_eq rfl id ?_)
    show s.provided ⊆ provided
    rw [NetworkEventLoop.handled_start_providing hhandled]
    exact Finset.subset_insert _ _
  | resume_reply task resumed =>
    obtain ⟨-, rfl⟩ := next_resume_reply hnext
    exact Or.inl (h.of_eq rfl id (Finset.Subset.refl _))

/-- The run lemma: an announcement that comes to its end provides the file. -/
theorem Announcing.run {s s' : State} {labels : List Label} (hrun : Handling s labels s')
    (h : Announcing file_id file_path s) (hnf : ∀ l ∈ labels, ∀ env ∈ l.env, env.NoFaults) :
    TakesEffect s' file_id file_path := by
  induction hrun with
  | last hnext hphase =>
    obtain hstill | ⟨-, heffect⟩ := h.step (hnf _ List.mem_cons_self) hnext
    · exact absurd hphase hstill.phase_ne
    · exact heffect
  | cons hnext hphase hrest ih =>
    obtain hstill | ⟨hdone, -⟩ := h.step (hnf _ List.mem_cons_self) hnext
    · exact ih hstill fun l hl => hnf l (List.mem_cons_of_mem _ hl)
    · exact absurd hdone hphase

/-- A handler that panicked is gone. -/
theorem panicked_step {s s' : State} {l : Label} {message : String}
    (hpanic : s.phase = .panicked message) (hnext : next s l = some s') :
    s'.phase = .panicked message := by
  cases l with
  | handler env wake => cases wake <;> simp [next, hpanic, HandlerLoop.resume] at hnext
  | command_taken env swarm => simp [next, hpanic, HandlerLoop.command] at hnext
  | resume_providing env task resumed =>
    obtain ⟨outcome, db, -, -, ⟨-, rfl⟩ | ⟨-, rfl⟩⟩ := next_resume_providing hnext
    · exact hpanic
    · exact hpanic
  | resume_command_taken task resumed sender swarm =>
    obtain ⟨-, provided, -, rfl⟩ := next_resume_command_taken hnext
    exact hpanic
  | resume_reply task resumed =>
    obtain ⟨-, rfl⟩ := next_resume_reply hnext
    exact hpanic

theorem not_handling_of_panicked {s s' : State} {labels : List Label}
    (hrun : Handling s labels s') {message : String} (hpanic : s.phase = .panicked message) :
    False := by
  induction hrun with
  | last hnext hphase => cases (panicked_step hpanic hnext).symm.trans hphase
  | cons hnext hphase hrest ih => exact ih (panicked_step hpanic hnext)

/-- An event that the first segment is done with. -/
theorem Handling.eq_of_next_event {s t s' : State} {l : Label} {labels : List Label}
    (hrun : Handling s (l :: labels) s') (hnext : next s l = some t)
    (hphase : t.phase = .next_event) : s' = t := by
  cases hrun with
  | last hnext' hphase' => exact Option.some.inj (hnext'.symm.trans hnext)
  | cons hnext' hphase' hrest =>
    obtain rfl := Option.some.inj (hnext'.symm.trans hnext)
    exact absurd hphase hphase'

/-- One that goes on after its first segment. -/
theorem Handling.rest {s t s' : State} {l : Label} {labels : List Label}
    (hrun : Handling s (l :: labels) s') (hnext : next s l = some t)
    (hphase : t.phase ≠ .next_event) : Handling t labels s' := by
  cases hrun with
  | last hnext' hphase' =>
    obtain rfl := Option.some.inj (hnext'.symm.trans hnext)
    exact absurd hphase' hphase
  | cons hnext' hphase' hrest =>
    obtain rfl := Option.some.inj (hnext'.symm.trans hnext)
    exact hrest

/-- The segment that handles an event. -/
theorem next_run {s s' : State} {env : HandlerEnv} {event : OrcaNetEvent}
    (hnf : env.toEnv.NoFaults) (hphase : s.phase = .handle_event event)
    (hnext : next s (.handler env .run) = some s') :
    s'.phase = (HandlerLoop.handle_event env s.handler event).phase ∧
      s'.handler = (HandlerLoop.handle_event env s.handler event).loop ∧
      s'.provided = s.provided := by
  obtain ⟨o, ho, -, -, rfl⟩ := next_handler hnf hnext
  rw [hphase] at ho
  obtain rfl := Option.some.inj ho
  exact ⟨rfl, rfl, rfl⟩

/-- How the handler starts on a `ProvideFile` of an existing file. -/
theorem handle_event_provideFile {env : HandlerEnv} (hnf : env.toEnv.NoFaults)
    (hexists : env.path_exists file_path = true) (file_id : String) (s : HandlerLoop) :
    let o := HandlerLoop.handle_event env s (.ProvideFile file_id file_path)
    (∃ message, o.phase = .panicked message) ∨
      (Accepts s.db file_id file_path ∧ o.phase = .start_providing file_id env.new_oneshot .done ∧
        ActiveAt o.loop.db file_id file_path) ∨
      (¬ Accepts s.db file_id file_path ∧ o.phase = .next_event ∧ o.loop = s) := by
  simp only [HandlerLoop.handle_event, hexists, hnf _, if_true]
  cases hname : env.get_file_name_from_path file_path with
  | none => exact Or.inl ⟨_, rfl⟩
  | some file_name =>
    refine Or.inr ?_
    -- the insert decides: it fails on a known id or path
    by_cases haccepts : Accepts s.db file_id file_path
    · obtain ⟨db', hinsert⟩ := insert_provided_file_of_accepts hnf haccepts file_name
        env.get_unix_timestamp
      have hrow := ((ProvidedFilesTable.insert_provided_file_eq_ok hinsert).2 file_id).trans
        (if_pos rfl)
      simp only [hinsert]
      exact Or.inl ⟨haccepts, rfl, _, hrow, rfl, rfl⟩
    · obtain ⟨e, hinsert⟩ := insert_provided_file_of_not_accepts hnf haccepts file_name
        env.get_unix_timestamp
      simp only [hinsert]
      exact Or.inr ⟨haccepts, rfl, rfl⟩

/-! ## Section 3: When it takes effect -/

/-- **Providing a file.**  In every run, a `ProvideFile` of an existing file
    takes effect if and only if the table had no row with its id and none with
    its path, or the file was provided from that path already. -/
theorem takesEffect_iff {s t t' : State} {labels : List Label}
    (hnf : ∀ l ∈ labels, ∀ env ∈ l.env, env.NoFaults)
    (h : Provides s labels file_id file_path t t') :
    TakesEffect t' file_id file_path ↔
      Accepts t.handler.db file_id file_path ∨ TakesEffect t file_id file_path := by
  obtain ⟨earlier, env, handling, later, rfl, -, hphase, hexists, hrun⟩ := h
  have hnf' : ∀ l ∈ .handler env .run :: handling, ∀ env ∈ l.env, env.NoFaults := by
    intro l hl
    exact hnf l (List.mem_append_left _ (List.mem_append_right _ hl))
  have hfault := hnf' _ List.mem_cons_self env.toEnv rfl
  obtain ⟨u, hnext⟩ : ∃ u, next t (.handler env .run) = some u := by
    cases hrun with
    | last hnext => exact ⟨_, hnext⟩
    | cons hnext => exact ⟨_, hnext⟩
  obtain ⟨hphase', hloop, hprovided⟩ := next_run hfault hphase hnext
  obtain ⟨message, hpanic⟩ | ⟨haccepts, hannounce, hrow⟩ | ⟨hrefused, hdone, hsame⟩ :=
    handle_event_provideFile hfault hexists file_id t.handler
  · -- a panic ends the run, so this was no handled event
    have hgone := hphase'.trans hpanic
    exact (not_handling_of_panicked (hrun.rest hnext (by simp [hgone])) hgone).elim
  · -- the row was inserted: the run ends with its record announced
    have hstarted : Announcing file_id file_path u :=
      .start_providing _ (hphase'.trans hannounce) (hloop ▸ hrow)
    have heffect := hstarted.run (hrun.rest hnext hstarted.phase_ne)
      fun l hl => hnf' l (List.mem_cons_of_mem _ hl)
    exact iff_of_true heffect (Or.inl haccepts)
  · -- the refused row is logged, and nothing else happens
    rw [hrun.eq_of_next_event hnext (hphase'.trans hdone), or_iff_right hrefused]
    have hsame' : u.handler = t.handler := hloop.trans hsame
    exact ⟨fun h => ⟨hsame' ▸ h.row, hprovided ▸ h.advertised⟩,
      fun h => ⟨hsame'.symm ▸ h.row, hprovided.symm ▸ h.advertised⟩⟩

section samples

/-- The handler provides a file that it provided and stopped, but not for good. -/
def provideAgainRun : List Label :=
  provideRun ++ stopRun false ++ [.handler sampleEnv (.event (.ProvideFile sampleFile "abc"))]

theorem noFaults_sampleEnv {labels : List Label}
    (h : ∀ l ∈ labels, ∀ env ∈ l.env, env = sampleEnv.toEnv) :
    ∀ l ∈ labels, ∀ env ∈ l.env, env.NoFaults := by
  intro l hl env henv call
  rw [h l hl env henv]
  rfl

/-- The first time a file is provided. -/
theorem takesEffect_provideRun : ∃ t t', Provides sampleState provideRun sampleFile "abc" t t' ∧
    Accepts t.handler.db sampleFile "abc" ∧ TakesEffect t' sampleFile "abc" := by
  have hprovides : ∃ t t', Provides sampleState provideRun sampleFile "abc" t t' ∧
      Accepts t.handler.db sampleFile "abc" := by
    have hstart : HandlerLoop.Phase.start_providing sampleFile 0 .done ≠ .next_event := by simp
    have hreply : HandlerLoop.Phase.start_providing_reply 0 .done ≠ .next_event := by simp
    refine ⟨_, _, ⟨[.handler sampleEnv (.event (.ProvideFile sampleFile "abc"))], sampleEnv,
      [.command_taken sampleEnv sampleSwarm, .handler sampleEnv (.reply true)], [], rfl, rfl, rfl,
      rfl, .cons rfl hstart (.cons rfl hreply (.last rfl rfl))⟩, rfl, rfl⟩
  obtain ⟨t, t', hprovides, haccepts⟩ := hprovides
  refine ⟨t, t', hprovides, haccepts, (takesEffect_iff ?_ hprovides).mpr (Or.inl haccepts)⟩
  exact noFaults_sampleEnv (by simp [provideRun, Label.env])

/-- After a stop that is not for good, providing the file again does nothing. -/
theorem not_takesEffect_provideAgainRun :
    ∃ t t', Idle sampleState ∧
      Provides sampleState (provideAgainRun ++ [.handler sampleEnv .run]) sampleFile "abc" t t' ∧
      (∀ l ∈ provideAgainRun ++ [.handler sampleEnv .run], ∀ env ∈ l.env, env.NoFaults) ∧
      ¬ TakesEffect t' sampleFile "abc" := by
  refine ⟨_, _, ⟨rfl, rfl, fun _ => rfl⟩, ⟨provideAgainRun, sampleEnv, [], [], rfl, rfl, rfl, rfl,
    .last rfl rfl⟩, ?_, ?_⟩
  · exact noFaults_sampleEnv (by simp [provideAgainRun, provideRun, stopRun, Label.env])
  · intro heffect
    obtain ⟨r, hr, hstatus, -⟩ := heffect.row
    obtain rfl := Option.some.inj hr
    cases hstatus

end samples

end Files

end OrcaNet
