import OrcaNet.Files.Serving
import OrcaNet.Framework.Mirror
import OrcaNet.Network.RecordKeys

/-! # Advertised files

    The provider records of the node are a mirror of the active rows: every
    operation on a file writes its row first and has its command taken later.
    As the commands of different tasks are taken in any order, the last one
    taken may disagree with the last one written.

    `Owners` says which operations are outstanding, and `mirror` is the view of
    one file that `Framework.Mirror` is about. -/

namespace OrcaNet

open Transition

namespace Files

/-! ## Section 1: Keys -/

/-- The hexadecimal digest of a file: 64 lower case digits. -/
def IsDigest (file_id : String) : Prop :=
  file_id.length = 64 ∧ ∀ c ∈ file_id.toList, c ∈ "0123456789abcdef".toList

instance (file_id : String) : Decidable (IsDigest file_id) := inferInstanceAs (Decidable (_ ∧ _))

theorem isDigest_sampleFile : IsDigest sampleFile := by
  unfold IsDigest sampleFile Utils.sampleDigest
  simp only [if_true]
  constructor
  · rfl
  · simp

/-- Digests, the key of proxies and their namespaced forms differ in length. -/
theorem key_ne_proxy {file_id : String} (h : IsDigest file_id) :
    Utils.get_key_with_ns OrcaNetConfig.PROXY_PROVIDER_KEY_DHT ≠ Utils.get_key_with_ns file_id := by
  have hproxy : OrcaNetConfig.PROXY_PROVIDER_KEY_DHT.length = 20 := rfl
  have hns : "/orcanet/".length = 9 := rfl
  have hdigest := h.1
  rw [Ne, RecordKeys.get_key_with_ns_eq_iff]
  rintro (heq | ⟨heq, -⟩ | ⟨heq, -⟩)
  · rw [heq] at hproxy
    omega
  · rw [heq, String.length_append] at hproxy
    omega
  · rw [heq, String.length_append] at hdigest
    omega

/-! ## Section 2: Outstanding operations -/

/-- An operation has written the row of a file and its command was not taken.
    (One that has not come so far, or only waits for a reply, changes nothing.) -/
def InProgress (s : State) (file_id : String) : Prop := s.outstanding file_id ≠ []

structure Owners (s : State) : Prop where
  /-- A panic of the handler leaves its operation unfinished. -/
  handler : ∀ file_id b, (Owner.handler, b) ∈ s.outstanding file_id →
    operation s.phase = some (file_id, b) ∨ ∃ message, s.phase = .panicked message
  issued : ∀ file_id b, operation s.phase = some (file_id, b) →
    (Owner.handler, b) ∈ s.outstanding file_id
  http : ∀ task file_id b, (Owner.http task, b) ∈ s.outstanding file_id →
    b = true ∧ (task, file_id) ∈ s.resuming
  keyed : Keyed s.phase

theorem Idle.owners {s : State} (h : Idle s) : Owners s where
  handler := by simp [h.outstanding]
  issued := by simp [h.phase, operation]
  http := by simp [h.outstanding]
  keyed := by simp [h.phase, Keyed]

theorem mem_issue (outstanding : String → List (Owner × Bool)) (owner : Owner)
    (op : Option (String × Bool)) (file_id : String) {p : Owner × Bool} :
    p ∈ issue outstanding owner op file_id ↔
      (∃ b, op = some (file_id, b) ∧ p = (owner, b)) ∨ p ∈ outstanding file_id := by
  cases op with
  | none => simp [issue]
  | some q =>
    obtain ⟨key, b⟩ := q
    by_cases hkey : file_id = key
    · subst hkey
      simp [issue]
    · simp [issue, Function.update_of_ne hkey, Ne.symm hkey]

theorem mem_withdraw (outstanding : String → List (Owner × Bool)) (owner : Owner)
    (op : Option (String × Bool)) (file_id : String) {p : Owner × Bool} :
    p ∈ withdraw outstanding owner op file_id ↔
      p ∈ outstanding file_id ∧ (p.1 = owner → ∀ b, op ≠ some (file_id, b)) := by
  cases op with
  | none => simp [withdraw]
  | some q =>
    obtain ⟨key, b⟩ := q
    by_cases hkey : file_id = key
    · subst hkey
      simp [withdraw]
    · simp [withdraw, Function.update_of_ne hkey, Ne.symm hkey]

theorem owners_handler {s s' : State} {env : HandlerEnv} {wake : HandlerLoop.Wake}
    (hnf : env.toEnv.NoFaults) (hown : Owners s) (h : next s (.handler env wake) = some s') :
    Owners s' := by
  obtain ⟨o, ho, hwake, -, rfl⟩ := next_handler hnf h
  refine ⟨fun file_id b hmem => ?_, fun file_id b hop => ?_, fun task file_id b hmem => ?_,
    resume_keyed ho⟩
  · obtain ⟨b', hop, heq⟩ | hold := (mem_issue _ _ _ _).mp hmem
    · cases heq
      exact Or.inl hop
    · obtain hop | ⟨message, hph⟩ := hown.handler file_id b hold
      · exact Or.inr (panicked_of_operation ho hwake hop)
      · rw [hph] at ho
        cases ho
  · exact (mem_issue _ _ _ _).mpr (Or.inl ⟨b, hop, rfl⟩)
  · obtain ⟨b', -, heq⟩ | hold := (mem_issue _ _ _ _).mp hmem
    · cases heq
    · exact hown.http task file_id b hold

theorem owners_command_taken {s s' : State} {env : HandlerEnv} {swarm : Swarm} (hown : Owners s)
    (h : next s (.command_taken env swarm) = some s') : Owners s' := by
  obtain ⟨c, provided, o, hc, -, ho, rfl⟩ := next_command_taken h
  have hnone := (command_taken_effect ho).2
  refine ⟨fun file_id b hmem => ?_, fun file_id b hop => ?_, fun task file_id b hmem => ?_,
    resume_keyed ho⟩
  · -- the handler had one operation, and that is done
    obtain ⟨hold, hdone⟩ := (mem_withdraw _ _ _ _).mp hmem
    obtain hop | ⟨message, hph⟩ := hown.handler file_id b hold
    · exact absurd hop (hdone rfl b)
    · rw [hph] at hc
      cases hc
  · cases hnone.symm.trans hop
  · exact hown.http task file_id b ((mem_withdraw _ _ _ _).mp hmem).1

theorem owners_step {s s' : State} {l : Label} (hfaults : ∀ env ∈ l.env, env.NoFaults)
    (hown : Owners s) (h : next s l = some s') : Owners s' := by
  cases l with
  | handler env wake => exact owners_handler (hfaults env.toEnv rfl) hown h
  | command_taken env swarm => exact owners_command_taken hown h
  | resume_providing env task file_id =>
    obtain ⟨outcome, db, -, htask, ⟨-, rfl⟩ | ⟨-, rfl⟩⟩ := next_resume_providing h
    · have hissued := mem_issue s.outstanding (.http task) (some (file_id, true))
      refine ⟨fun j b hmem => ?_, fun j b hop => ?_, fun t j b hmem => ?_, hown.keyed⟩
      · obtain ⟨b', -, heq⟩ | hold := (hissued _).mp hmem
        · cases heq
        · exact hown.handler j b hold
      · exact (hissued _).mpr (Or.inr (hown.issued j b hop))
      · obtain ⟨b', hop, heq⟩ | hold := (hissued _).mp hmem
        · cases hop
          cases heq
          exact ⟨rfl, List.mem_cons_self⟩
        · obtain ⟨hb, hmem'⟩ := hown.http t j b hold
          exact ⟨hb, List.mem_cons_of_mem _ hmem'⟩
    · exact ⟨hown.handler, hown.issued, hown.http, hown.keyed⟩
  | resume_command_taken task file_id sender swarm =>
    obtain ⟨-, provided, -, rfl⟩ := next_resume_command_taken h
    have hleft := mem_withdraw s.outstanding (.http task) (some (file_id, true))
    refine ⟨fun j b hmem => ?_, fun j b hop => ?_, fun t j b hmem => ?_, hown.keyed⟩
    · exact hown.handler j b ((hleft _).mp hmem).1
    · exact (hleft _).mpr ⟨hown.issued j b hop, nofun⟩
    · exact hown.http t j b ((hleft _).mp hmem).1
  | resume_reply task file_id =>
    obtain ⟨hdone, rfl⟩ := next_resume_reply h
    refine ⟨hown.handler, hown.issued, fun t j b hmem => ?_, hown.keyed⟩
    obtain ⟨rfl, hmem'⟩ := hown.http t j b hmem
    refine ⟨rfl, List.mem_filter.mpr ⟨hmem', ?_⟩⟩
    -- the call that got its reply has no command outstanding
    simp only [ne_eq, decide_eq_true_eq, Prod.mk.injEq, not_and]
    rintro rfl rfl
    exact hdone hmem

/-! ## Section 3: The mirror of one file -/

/-- The status of a file and its provider record. -/
def mirror (s : State) (file_id : String) : Mirror.State Owner Bool where
  value := decide (s.handler.db.Active file_id)
  mirror := decide (Utils.get_key_with_ns file_id ∈ s.provided)
  outstanding := s.outstanding file_id

/-- The operation whose command a step takes. -/
def taken (s : State) : Label → Option (Owner × String × Bool)
  | .command_taken _ _ => (operation s.phase).map fun p => (.handler, p)
  | .resume_command_taken task file_id _ _ => some (.http task, file_id, true)
  | _ => none

/-- A step with a working database that uses no other name of the file's key. -/
structure Proper (file_id : String) (s : State) (l : Label) : Prop where
  faults : ∀ env ∈ l.env, env.NoFaults
  keys : ∀ owner key b, taken s l = some (owner, key, b) →
    Utils.get_key_with_ns key = Utils.get_key_with_ns file_id → key = file_id

/-- A step that takes no command of a file out of order: if a contrary command
    of the file stays behind, then so does one that agrees with its row. -/
structure Orderly (file_id : String) (s : State) (l : Label) : Prop
    extends Proper file_id s l where
  balanced : ∀ owner b, taken s l = some (owner, file_id, b) →
    Mirror.Balanced (mirror s file_id).value (Mirror.others (mirror s file_id) owner)

theorem mirror_congr {s s' : State} {file_id : String}
    (hactive : s'.handler.db.Active file_id ↔ s.handler.db.Active file_id)
    (hprovided : Utils.get_key_with_ns file_id ∈ s'.provided ↔
      Utils.get_key_with_ns file_id ∈ s.provided)
    (houtstanding : s'.outstanding file_id = s.outstanding file_id) :
    mirror s' file_id = mirror s file_id := by
  simp only [mirror, houtstanding, hactive, hprovided]

theorem active_of_files {db db' : Database} (h : db'.provided_files = db.provided_files)
    (file_id : String) : db'.Active file_id ↔ db.Active file_id := by
  unfold Database.Active Database.provided_file
  rw [h]

theorem issue_of_ne {outstanding : String → List (Owner × Bool)} {owner : Owner}
    {key file_id : String} (b : Bool) (h : file_id ≠ key) :
    issue outstanding owner (some (key, b)) file_id = outstanding file_id :=
  Function.update_of_ne h _ _

theorem withdraw_of_ne {outstanding : String → List (Owner × Bool)} {owner : Owner}
    {key file_id : String} (b : Bool) (h : file_id ≠ key) :
    withdraw outstanding owner (some (key, b)) file_id = outstanding file_id :=
  Function.update_of_ne h _ _

/-- An operation on a file writes its row. -/
theorem mirror_write {s s' : State} {owner : Owner} {file_id : String} {b : Bool}
    (hactive : s'.handler.db.Active file_id ↔ b = true) (hprovided : s'.provided = s.provided)
    (houtstanding : s'.outstanding = issue s.outstanding owner (some (file_id, b))) :
    mirror s' file_id = Mirror.write (mirror s file_id) owner b := by
  simp [mirror, Mirror.write, hactive, hprovided, houtstanding, issue]

theorem mirror_handler {s s' : State} {env : HandlerEnv} {wake : HandlerLoop.Wake}
    (hnf : env.toEnv.NoFaults) (h : next s (.handler env wake) = some s') (file_id : String) :
    mirror s' file_id = mirror s file_id ∨
      ∃ b, mirror s' file_id = Mirror.write (mirror s file_id) .handler b := by
  obtain ⟨o, -, -, hseg, rfl⟩ := next_handler hnf h
  generalize s.phase = ph at hseg
  cases hseg with
  | idle hfiles hgiven hop =>
    refine Or.inl (mirror_congr (active_of_files hfiles _) Iff.rfl ?_)
    rw [hop]
    rfl
  | request hrequest hfile hanswer hop =>
    refine Or.inl (mirror_congr (hanswer.active hnf _) Iff.rfl ?_)
    rw [hop]
    rfl
  | provide hnew hrow hop =>
    rename_i key file_path file_name
    -- the event is about this file, or its row and its operations are not touched
    by_cases hkey : file_id = key
    · subst hkey
      refine Or.inr ⟨true, mirror_write ?_ rfl (by rw [hop])⟩
      have hactive := Database.active_of_row ((hrow file_id).trans (if_pos rfl))
      exact hactive.trans (by simp [ProvidedFileInfo.with_defaults])
    · refine Or.inl (mirror_congr ?_ Iff.rfl ?_)
      · apply Database.active_congr
        rw [hrow, if_neg hkey]
      · rw [hop]
        exact issue_of_ne true hkey
  | stop hrow hop =>
    rename_i key permanent
    by_cases hkey : file_id = key
    · subst hkey
      refine Or.inr ⟨false, mirror_write ?_ rfl (by rw [hop])⟩
      have hfile := (hrow file_id).trans (if_pos rfl)
      refine iff_of_false ?_ (by simp)
      -- the row is gone or inactive
      rintro ⟨r, hr, hstatus⟩
      rw [hr] at hfile
      split at hfile
      · cases hfile
      · obtain ⟨r', -, rfl⟩ := Option.map_eq_some_iff.mp hfile.symm
        cases hstatus
    · refine Or.inl (mirror_congr ?_ Iff.rfl ?_)
      · apply Database.active_congr
        rw [hrow, if_neg hkey]
      · rw [hop]
        exact issue_of_ne false hkey

theorem mirror_resume_providing {s s' : State} {env : Env} {task : ℕ} {key : String}
    (hnf : env.NoFaults) (h : next s (.resume_providing env task key) = some s')
    (file_id : String) :
    mirror s' file_id = mirror s file_id ∨
      ∃ b, mirror s' file_id = Mirror.write (mirror s file_id) (.http task) b := by
  obtain ⟨outcome, db, hresume, -, hs'⟩ := next_resume_providing h
  have hrow := FileEndpoints.resume_providing_row (hnf .set_provided_file_status) key file_id
    s.handler.db
  rw [hresume] at hrow
  obtain ⟨rfl, rfl⟩ | ⟨hne, rfl⟩ := hs'
  · rw [if_pos rfl] at hrow
    by_cases hkey : file_id = key
    · subst hkey
      refine Or.inr ⟨true, mirror_write ?_ rfl rfl⟩
      -- a row was found, and now it is active
      obtain ⟨r, hr⟩ := FileEndpoints.provided_of_resume (congrArg Prod.fst hresume)
      rw [hr, Option.map_some, if_pos (Database.provided_file_id hr)] at hrow
      exact (Database.active_of_row hrow).trans (by simp [ProvidedFilesTable.with_status])
    · refine Or.inl (mirror_congr ?_ Iff.rfl (issue_of_ne true hkey))
      apply Database.active_congr
      show (db.provided_file file_id).map _ = _
      rw [hrow]
      cases hr : s.handler.db.provided_file file_id with
      | none => rfl
      | some r => simp [(Database.provided_file_id hr).trans_ne hkey]
  · rw [if_neg hne] at hrow
    refine Or.inl (mirror_congr ?_ Iff.rfl rfl)
    apply Database.active_congr
    show (db.provided_file file_id).map _ = _
    rw [hrow]

/-- The command of an operation on a file is taken. -/
theorem mirror_publish {s s' : State} {owner : Owner} {file_id : String} {b : Bool}
    (hdb : s'.handler.db = s.handler.db)
    (hprovided : Utils.get_key_with_ns file_id ∈ s'.provided ↔ b = true)
    (houtstanding : s'.outstanding = withdraw s.outstanding owner (some (file_id, b))) :
    mirror s' file_id = Mirror.publish (mirror s file_id) owner b := by
  simp [mirror, Mirror.publish, Mirror.others, hdb, hprovided, houtstanding, withdraw]

/-- A command about another key. -/
theorem mirror_of_key_ne {s s' : State} {file_id key : String}
    (hdb : s'.handler.db = s.handler.db)
    (hkey : Utils.get_key_with_ns key ≠ Utils.get_key_with_ns file_id)
    (hprovided : s'.provided = insert (Utils.get_key_with_ns key) s.provided ∨
      s'.provided = s.provided.erase (Utils.get_key_with_ns key))
    (houtstanding : s'.outstanding file_id = s.outstanding file_id) :
    mirror s' file_id = mirror s file_id := by
  refine mirror_congr (by rw [hdb]) ?_ houtstanding
  obtain h | h := hprovided <;> simp [h, Ne.symm hkey]

/-- The command of an operation on any file is taken; the mirrors of other files
    do not change. -/
theorem mirror_taken {s s' : State} {owner : Owner} {key file_id : String} {b : Bool}
    (hkeys : Utils.get_key_with_ns key = Utils.get_key_with_ns file_id → key = file_id)
    (hdb : s'.handler.db = s.handler.db)
    (houtstanding : s'.outstanding = withdraw s.outstanding owner (some (key, b)))
    (hprovided : s'.provided = match b with
      | true => insert (Utils.get_key_with_ns key) s.provided
      | false => s.provided.erase (Utils.get_key_with_ns key)) :
    (mirror s' file_id = mirror s file_id ∧ key ≠ file_id) ∨ (key = file_id ∧
      mirror s' file_id = Mirror.publish (mirror s file_id) owner b) := by
  by_cases hkey : key = file_id
  · subst hkey
    refine Or.inr ⟨rfl, mirror_publish hdb ?_ houtstanding⟩
    rw [hprovided]
    cases b <;> simp
  · refine Or.inl ⟨mirror_of_key_ne hdb (mt hkeys hkey) ?_ ?_, hkey⟩
    · cases b with
      | true => exact Or.inl hprovided
      | false => exact Or.inr hprovided
    · rw [houtstanding]
      exact withdraw_of_ne b (Ne.symm hkey)

theorem mirror_command_taken {s s' : State} {env : HandlerEnv} {swarm : Swarm} {file_id : String}
    (hdigest : IsDigest file_id) (hkeyed : Keyed s.phase)
    (hkeys : ∀ owner key b, taken s (.command_taken env swarm) = some (owner, key, b) →
      Utils.get_key_with_ns key = Utils.get_key_with_ns file_id → key = file_id)
    (h : next s (.command_taken env swarm) = some s') :
    (mirror s' file_id = mirror s file_id ∧ ∀ b, operation s.phase ≠ some (file_id, b)) ∨
      ∃ b, operation s.phase = some (file_id, b) ∧
        mirror s' file_id = Mirror.publish (mirror s file_id) .handler b := by
  obtain ⟨c, provided, o, hc, hhandled, ho, hs'⟩ := next_command_taken h
  have hdb : s'.handler.db = s.handler.db := by
    rw [hs']
    exact (command_taken_effect ho).1
  have htaken : s'.provided = provided := by
    rw [hs']
  have houtstanding : s'.outstanding = withdraw s.outstanding .handler (operation s.phase) := by
    rw [hs']
  have hproxy := key_ne_proxy hdigest
  cases hph : s.phase with
  | respond response channel =>
    rw [hph] at hc houtstanding
    cases hc
    rw [NetworkEventLoop.handled_respond hhandled] at htaken
    refine Or.inl ⟨mirror_congr (by rw [hdb]) (by rw [htaken]) ?_, by simp [operation]⟩
    rw [houtstanding]
    rfl
  | start_providing key sender after =>
    rw [hph] at hc houtstanding
    cases hc
    rw [NetworkEventLoop.handled_start_providing hhandled] at htaken
    cases after with
    | done =>
      have hown := hkeys .handler key true (by simp [taken, hph, operation])
      obtain ⟨heq, hkey⟩ | ⟨rfl, heq⟩ := mirror_taken hown hdb houtstanding htaken
      · exact Or.inl ⟨heq, by simp [operation, hkey]⟩
      · exact Or.inr ⟨true, rfl, heq⟩
    | modify_config mode =>
      -- the command is about the record of proxies
      rw [hph] at hkeyed
      obtain rfl : key = _ := hkeyed
      refine Or.inl ⟨mirror_of_key_ne hdb hproxy (Or.inl htaken) ?_, by simp [operation]⟩
      rw [houtstanding]
      rfl
  | stop_providing key after =>
    rw [hph] at hc houtstanding
    cases hc
    rw [NetworkEventLoop.handled_stop_providing hhandled] at htaken
    cases after with
    | done =>
      have hown := hkeys .handler key false (by simp [taken, hph, operation])
      obtain ⟨heq, hkey⟩ | ⟨rfl, heq⟩ := mirror_taken hown hdb houtstanding htaken
      · exact Or.inl ⟨heq, by simp [operation, hkey]⟩
      · exact Or.inr ⟨false, rfl, heq⟩
    | modify_config mode =>
      rw [hph] at hkeyed
      obtain rfl : key = _ := hkeyed
      refine Or.inl ⟨mirror_of_key_ne hdb hproxy (Or.inr htaken) ?_, by simp [operation]⟩
      rw [houtstanding]
      rfl
  | _ =>
    rw [hph] at hc
    cases hc

theorem mirror_resume_command_taken {s s' : State} {task : ℕ} {key : String} {sender : Sender}
    {swarm : Swarm} {file_id : String}
    (hkeys : Utils.get_key_with_ns key = Utils.get_key_with_ns file_id → key = file_id)
    (h : next s (.resume_command_taken task key sender swarm) = some s') :
    (mirror s' file_id = mirror s file_id ∧ key ≠ file_id) ∨ (key = file_id ∧
      mirror s' file_id = Mirror.publish (mirror s file_id) (.http task) true) := by
  obtain ⟨-, provided, hhandled, rfl⟩ := next_resume_command_taken h
  have hprovided := NetworkEventLoop.handled_start_providing hhandled
  exact mirror_taken hkeys rfl rfl hprovided

/-! ## Section 4: Runs -/

theorem Owners.publishes_handler {s : State} (hown : Owners s) {file_id : String} {b : Bool}
    (hop : operation s.phase = some (file_id, b)) :
    Mirror.Publishes (mirror s file_id) .handler b where
  mem := hown.issued file_id b hop
  unique := by
    intro w hmem
    obtain hw | ⟨message, hph⟩ := hown.handler file_id w hmem
    · rw [hop] at hw
      cases hw
      rfl
    · rw [hph] at hop
      cases hop

theorem Owners.publishes_http {s : State} (hown : Owners s) {task : ℕ} {file_id : String}
    (hmem : (Owner.http task, true) ∈ s.outstanding file_id) :
    Mirror.Publishes (mirror s file_id) (.http task) true where
  mem := hmem
  unique := fun w hw => (hown.http task file_id w hw).1

/-- What a step does to the mirror of a file: nothing, or an operation writes
    its row, or the command of one is taken. -/
theorem mirror_step {s s' : State} {l : Label} {file_id : String} (hdigest : IsDigest file_id)
    (hown : Owners s) (hproper : Proper file_id s l) (h : next s l = some s') :
    (mirror s' file_id = mirror s file_id ∧ ∀ owner b, taken s l ≠ some (owner, file_id, b)) ∨
      (taken s l = none ∧
        ∃ owner b, mirror s' file_id = Mirror.write (mirror s file_id) owner b) ∨
      ∃ owner b, taken s l = some (owner, file_id, b) ∧
        Mirror.Publishes (mirror s file_id) owner b ∧
        mirror s' file_id = Mirror.publish (mirror s file_id) owner b := by
  cases l with
  | handler env wake =>
    obtain heq | ⟨b, heq⟩ := mirror_handler (hproper.faults env.toEnv rfl) h file_id
    · exact Or.inl ⟨heq, by simp [taken]⟩
    · exact Or.inr (Or.inl ⟨rfl, .handler, b, heq⟩)
  | command_taken env swarm =>
    -- the handler's command publishes, if it is about this file
    obtain ⟨heq, hop⟩ | ⟨b, hop, heq⟩ := mirror_command_taken hdigest hown.keyed hproper.keys h
    · exact Or.inl ⟨heq, by simp [taken, hop]⟩
    · have htaken : taken s (.command_taken env swarm) = some (.handler, file_id, b) := by
        simp [taken, hop]
      exact Or.inr (Or.inr ⟨.handler, b, htaken, hown.publishes_handler hop, heq⟩)
  | resume_providing env task key =>
    obtain heq | ⟨b, heq⟩ := mirror_resume_providing (hproper.faults env rfl) h file_id
    · exact Or.inl ⟨heq, by simp [taken]⟩
    · exact Or.inr (Or.inl ⟨rfl, .http task, b, heq⟩)
  | resume_command_taken task key sender swarm =>
    have hmem := (next_resume_command_taken h).1
    obtain ⟨heq, hkey⟩ | ⟨rfl, heq⟩ :=
      mirror_resume_command_taken (hproper.keys (.http task) key true rfl) h
    · exact Or.inl ⟨heq, by simp [taken, hkey]⟩
    · exact Or.inr (Or.inr ⟨.http task, true, rfl, hown.publishes_http hmem, heq⟩)
  | resume_reply task key =>
    obtain ⟨-, rfl⟩ := next_resume_reply h
    exact Or.inl ⟨rfl, by simp [taken]⟩

/-- The node announces the file exactly if it is active, unless an operation on
    it is in progress. -/
def Advertises (s : State) (file_id : String) : Prop :=
  ¬ InProgress s file_id →
    (Utils.get_key_with_ns file_id ∈ s.provided ↔ s.handler.db.Active file_id)

theorem advertises_of_converging {s : State} {file_id : String}
    (h : Mirror.Converging (mirror s file_id)) : Advertises s file_id := by
  intro hquiet
  have hmirror := h.finished (not_not.mp hquiet)
  simpa [mirror] using hmirror

theorem converging_step {s s' : State} {l : Label} {file_id : String} (hdigest : IsDigest file_id)
    (hown : Owners s) (hconv : Mirror.Converging (mirror s file_id)) (hord : Orderly file_id s l)
    (h : next s l = some s') : Mirror.Converging (mirror s' file_id) := by
  obtain ⟨heq, -⟩ | ⟨-, owner, b, heq⟩ | ⟨owner, b, htaken, hpublishes, heq⟩ :=
    mirror_step hdigest hown hord.toProper h
  · rw [heq]
    exact hconv
  · rw [heq]
    exact Mirror.converging_write _ _ _
  · rw [heq]
    exact Mirror.converging_publish hconv hpublishes (hord.balanced owner b htaken)

/-- **Advertised files.**  As long as no step takes a command of a file out of
    order, the file is announced exactly if it is active whenever no operation
    on it is in progress. -/
theorem advertises_of_orderly {file_id : String} (hdigest : IsDigest file_id) {s : State}
    (hidle : Idle s)
    (hstart : Utils.get_key_with_ns file_id ∈ s.provided ↔ s.handler.db.Active file_id)
    (labels : List Label) (horderly : system.AllSteps (fun t l _ => Orderly file_id t l) s labels) :
    system.AllSteps (fun _ _ t => Advertises t file_id) s labels := by
  refine system.allSteps_of_guard
    (J := fun t => Owners t ∧ Mirror.Converging (mirror t file_id)) ?_ labels ⟨?_, ?_⟩ horderly
  · intro t l t' hinv hord hnext
    have hconv := converging_step hdigest hinv.1 hinv.2 hord hnext
    exact ⟨⟨owners_step hord.faults hinv.1 hnext, hconv⟩, advertises_of_converging hconv⟩
  · exact hidle.owners
  · -- nothing is outstanding at the start, so there the mirror has converged
    have hnothing : (mirror s file_id).outstanding = [] := hidle.outstanding file_id
    refine ⟨?_, ?_⟩
    · intro hcontrary
      obtain ⟨p, hp, -⟩ := hcontrary
      rw [hnothing] at hp
      cases hp
    · intro _
      simp [mirror, hstart]

theorem Orderly.of_taken_none {file_id : String} {s : State} {l : Label}
    (hfaults : ∀ env ∈ l.env, env.NoFaults) (h : taken s l = none) : Orderly file_id s l where
  faults := hfaults
  keys := by simp [h]
  balanced := by simp [h]

/-- A file is provided while nothing else happens. -/
theorem advertises_provideRun :
    system.AllSteps (fun _ _ t => Advertises t sampleFile) sampleState provideRun := by
  refine advertises_of_orderly isDigest_sampleFile ⟨rfl, rfl, fun _ => rfl⟩
    (iff_of_false (Finset.notMem_empty _) (Database.not_active_of_none rfl)) provideRun ?_
  have hfaults : ∀ env ∈ some sampleEnv.toEnv, env.NoFaults := by
    intro env h
    obtain rfl := Option.some.inj h
    exact fun _ => rfl
  intro t₁ h₁
  refine ⟨.of_taken_none hfaults rfl, ?_⟩
  obtain rfl := Option.some.inj h₁
  intro t₂ h₂
  refine ⟨.of_taken_none hfaults rfl, ?_⟩
  obtain rfl := Option.some.inj h₂
  intro t₃ h₃
  refine ⟨⟨⟨hfaults, ?_⟩, ?_⟩, ?_⟩
  · intro owner key b htaken _
    cases htaken
    rfl
  · -- no other command is outstanding
    intro owner b htaken hcontrary
    cases htaken
    obtain ⟨p, hp, -⟩ := hcontrary
    cases hp
  obtain rfl := Option.some.inj h₃
  intro t₄ h₄
  exact ⟨.of_taken_none hfaults rfl, trivial⟩

/-- While a file is resumed it is stopped, and the network loop takes the command
    to stop it first. -/
def overlapRun : List Label :=
  provideRun ++ [.resume_providing sampleEnv.toEnv 7 sampleFile] ++ stopRun false ++
    [.resume_command_taken 7 sampleFile 1 sampleSwarm, .resume_reply 7 sampleFile]

/-- In the end the file is announced, but not active. -/
theorem not_advertises_overlapRun :
    IsDigest sampleFile ∧ (∀ l ∈ overlapRun, ∀ env ∈ l.env, env.NoFaults) ∧
      ∃ t, system.run sampleState overlapRun = some t ∧ ¬ Advertises t sampleFile := by
  refine ⟨isDigest_sampleFile, ?_, _, rfl, ?_⟩
  · have henv : ∀ l ∈ overlapRun, ∀ env ∈ l.env, env = sampleEnv.toEnv := by
      simp [overlapRun, provideRun, stopRun, Label.env]
    intro l hl env h
    rw [henv l hl env h]
    exact fun _ => rfl
  · intro h
    have hadvertises := h (fun hne => hne rfl)
    obtain ⟨r, hr, hstatus⟩ := hadvertises.mp (Finset.mem_insert_self _ _)
    obtain rfl := Option.some.inj hr
    cases hstatus

/-! ## Section 5: Commands out of order -/

/-- No operation on the file begins in a step. -/
structure Calm (file_id : String) (s : State) (l : Label) (s' : State) : Prop
    extends Proper file_id s l where
  length : (s'.outstanding file_id).length ≤ (s.outstanding file_id).length

theorem diverging_step {s s' : State} {l : Label} {file_id : String} (hdigest : IsDigest file_id)
    (hown : Owners s) (hdiv : Mirror.Diverging (mirror s file_id)) (hcalm : Calm file_id s l s')
    (h : next s l = some s') : Mirror.Diverging (mirror s' file_id) := by
  obtain ⟨heq, -⟩ | ⟨-, owner, b, heq⟩ | ⟨owner, b, htaken, hpublishes, heq⟩ :=
    mirror_step hdigest hown hcalm.toProper h
  · rw [heq]
    exact hdiv
  · have hgrows : (s'.outstanding file_id).length = (s.outstanding file_id).length + 1 :=
      congrArg (fun m => m.outstanding.length) heq
    have hlength := hcalm.length
    omega
  · rw [heq]
    exact Mirror.diverging_publish hdiv hpublishes

/-- Once a command of a file was taken out of order, the provider record will be
    wrong when all operations on the file are finished. -/
theorem not_advertises_of_disorder {file_id : String} (hdigest : IsDigest file_id)
    {s t u : State} {l : Label} (hown : Owners s) (hproper : Proper file_id s l)
    (hnext : next s l = some t) {owner : Owner} {b : Bool}
    (htaken : taken s l = some (owner, file_id, b))
    (hdisorder : ¬ Mirror.Balanced (mirror s file_id).value
      (Mirror.others (mirror s file_id) owner))
    {labels : List Label} (hcalm : system.AllSteps (Calm file_id) t labels)
    (hrun : system.run t labels = some u) (hquiet : ¬ InProgress u file_id) :
    ¬ (Utils.get_key_with_ns file_id ∈ u.provided ↔ u.handler.db.Active file_id) := by
  -- the step out of order leaves a mirror that will not converge any more
  have hdiv : Mirror.Diverging (mirror t file_id) := by
    obtain ⟨-, hnone⟩ | ⟨hnone, -⟩ | ⟨owner', b', htaken', hpublishes, heq⟩ :=
      mirror_step hdigest hown hproper hnext
    · exact absurd htaken (hnone owner b)
    · cases hnone.symm.trans htaken
    · rw [htaken] at htaken'
      cases htaken'
      rw [heq]
      exact Mirror.diverging_publish_of_not_balanced hdisorder
  have hend := hcalm.invariant
    (J := fun v => Owners v ∧ Mirror.Diverging (mirror v file_id))
    (fun v k v' hv hk hstep =>
      ⟨owners_step hk.faults hv.1 hstep, diverging_step hdigest hv.1 hv.2 hk hstep⟩)
    ⟨owners_step hproper.faults hown hnext, hdiv⟩ hrun
  have hwrong := hend.2.finished (not_not.mp hquiet)
  simpa [mirror] using hwrong

end Files

end OrcaNet
