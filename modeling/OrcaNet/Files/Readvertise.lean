import OrcaNet.Files.Advertised

/-! # Files across restarts

    The rows of `provided_files` outlive the process, and the provider records
    are kept in memory.  After a restart the terminal command `advertise`
    announces the active files again, one after the other, while the request
    handler and the HTTP server go on.

    An announcement of the command is one more operation on its file, which
    writes nothing: the file was active when the rows were read. -/

namespace OrcaNet

open Transition

namespace NetworkClient

/-- `advertise_provided_files`: the files that are announced, in this order, or
    the panic that ends the node.  `fault` is the error of the query, if it fails. -/
def advertise_provided_files (env : Env) (fault : Option String) (db : Database) :
    Except String (List String) :=
  match env.db_fault (.create_sqlite_connection .provided_files) with
  | some _ => .error "Can't proceed without DB connection"
  | none =>
    match fault with
    | none =>
      .ok ((db.provided_files.rows.filter fun file_info => file_info.status = 1).map
        ProvidedFileInfo.file_id)
    -- the error is only logged
    | some _ => .ok []

theorem advertise_provided_files_eq_ok {env : Env} {db : Database} {files : List String}
    (h : advertise_provided_files env none db = .ok files) (file_id : String) :
    file_id ∈ files ↔ db.Active file_id := by
  unfold advertise_provided_files at h
  split at h
  · cases h
  · obtain rfl := Except.ok.inj h
    have hcol : ProvidedFileInfo.file_id ∈
      [ProvidedFileInfo.file_id, ProvidedFileInfo.file_path] := by simp
    simp only [List.mem_map, List.mem_filter, decide_eq_true_eq, Database.Active,
      Database.provided_file, Table.find_eq_some_iff hcol]
    constructor
    · intro hmem
      obtain ⟨r, ⟨hr, hstatus⟩, rfl⟩ := hmem
      exact ⟨r, ⟨hr, rfl⟩, hstatus⟩
    · intro hactive
      obtain ⟨r, ⟨hr, rfl⟩, hstatus⟩ := hactive
      exact ⟨r, ⟨hr, hstatus⟩, rfl⟩

/-- No file is announced twice. -/
theorem nodup_advertise_provided_files {env : Env} {fault : Option String} {db : Database}
    {files : List String} (h : advertise_provided_files env fault db = .ok files) :
    files.Nodup := by
  unfold advertise_provided_files at h
  split at h
  · cases h
  · split at h
    · obtain rfl := Except.ok.inj h
      have hunique := db.provided_files.unique ProvidedFileInfo.file_id (by simp)
      exact (List.filter_sublist.map _).nodup hunique
    · obtain rfl := Except.ok.inj h
      exact List.nodup_nil

end NetworkClient

namespace Readvertise

/-! ## Section 1: System -/

structure State where
  node : Files.State
  /-- The files that `advertise` has still to announce; it is sending the
      command of the first. -/
  pending : List String
  /-- `advertise` waits for the reply to an announcement. -/
  waiting : Bool

inductive Label where
  | node (l : Files.Label)
  /-- The terminal takes the command `advertise`, up to its first announcement. -/
  | advertise (env : Env) (fault : Option String)
  /-- The network loop takes the announcement. -/
  | advertise_command_taken (sender : Sender) (swarm : Swarm)
  | advertise_reply
  /-- The process ends, wherever its tasks are, and the node is started again. -/
  | restart

/-- What a new process finds: the database and the config file. -/
def restarted (s : Files.State) : Files.State where
  handler := { s.handler with proxy_event_sender := none, spawned := 0 }
  phase := .next_event
  resuming := []
  provided := ∅
  outstanding := fun _ => []
  served := s.served

def next (s : State) : Label → Option State
  | .node l => (Files.next s.node l).map fun node => { s with node := node }
  | .advertise env fault =>
    -- the terminal takes one command after the other
    if s.pending = [] ∧ s.waiting = false then
      match NetworkClient.advertise_provided_files env fault s.node.handler.db with
      | .ok files => some { s with pending := files }
      -- a panic of the terminal ends the process
      | .error _ => none
    else none
  | .advertise_command_taken sender swarm =>
    match s.pending, s.waiting with
    | file_id :: files, false =>
      (NetworkEventLoop.handled swarm (.StartProviding file_id sender) s.node.provided).map
        fun provided => {
          node := { s.node with provided := provided }
          pending := files
          waiting := true }
    | _, _ => none
  | .advertise_reply =>
    if s.waiting then some { s with waiting := false } else none
  | .restart => some { node := restarted s.node, pending := [], waiting := false }

structure Idle (s : State) : Prop where
  node : Files.Idle s.node
  pending : s.pending = []

def system : System State Label where
  init := Idle
  next := next

theorem next_node {s s' : State} {l : Files.Label} (h : next s (.node l) = some s') :
    ∃ node, Files.next s.node l = some node ∧ s' = { s with node := node } := by
  obtain ⟨node, hnode, rfl⟩ := Option.map_eq_some_iff.mp h
  exact ⟨node, hnode, rfl⟩

theorem next_advertise {s s' : State} {env : Env} {fault : Option String}
    (h : next s (.advertise env fault) = some s') :
    s.pending = [] ∧ ∃ files,
      NetworkClient.advertise_provided_files env fault s.node.handler.db = .ok files ∧
      s' = { s with pending := files } := by
  simp only [next] at h
  split at h
  · rename_i hidle
    split at h
    · rename_i files hfiles
      exact ⟨hidle.1, files, hfiles, (Option.some.inj h).symm⟩
    · cases h
  · cases h

theorem next_advertise_command_taken {s s' : State} {sender : Sender} {swarm : Swarm}
    (h : next s (.advertise_command_taken sender swarm) = some s') :
    ∃ file_id files, s.pending = file_id :: files ∧
      s' = {
        node := { s.node with
          provided := insert (Utils.get_key_with_ns file_id) s.node.provided }
        pending := files
        waiting := true } := by
  simp only [next] at h
  split at h
  · rename_i file_id files hpending hwaiting
    obtain ⟨provided, hhandled, rfl⟩ := Option.map_eq_some_iff.mp h
    obtain rfl := NetworkEventLoop.handled_start_providing hhandled
    exact ⟨file_id, files, hpending, rfl⟩
  · cases h

theorem next_advertise_reply {s s' : State} (h : next s .advertise_reply = some s') :
    s' = { s with waiting := false } := by
  simp only [next] at h
  split at h
  · exact (Option.some.inj h).symm
  · cases h

/-! ## Section 2: The mirror of one file -/

/-- The terminal has the command of a file to send. -/
def announcing (s : State) (file_id : String) : List (Unit × Bool) :=
  if file_id ∈ s.pending then [((), true)] else []

/-- The status of a file and its provider record, with the announcements of
    `advertise` beside the operations on the file. -/
def mirror (s : State) (file_id : String) : Mirror.State (Files.Owner ⊕ Unit) Bool :=
  Mirror.join (Files.mirror s.node file_id) (announcing s file_id)

/-- An operation on the file or an announcement of it is not finished. -/
def InProgress (s : State) (file_id : String) : Prop := (mirror s file_id).outstanding ≠ []

/-- The operation whose command a step takes. -/
def taken (s : State) : Label → Option ((Files.Owner ⊕ Unit) × String × Bool)
  | .node l => (Files.taken s.node l).map fun p => (.inl p.1, p.2)
  | .advertise_command_taken _ _ => s.pending.head?.map fun file_id => (.inr (), file_id, true)
  | .advertise _ _ | .advertise_reply | .restart => none

/-- What a step draws from outside, where it works on the database. -/
def Label.env : Label → Option Env
  | .node l => l.env
  | .advertise env _ => some env
  | .advertise_command_taken _ _ | .advertise_reply | .restart => none

/-- A step with a working database that uses no other name of the file's key and
    takes no command of the file out of order (compare `Files.Orderly`). -/
structure Orderly (file_id : String) (s : State) (l : Label) : Prop where
  faults : ∀ env ∈ l.env, env.NoFaults
  query : ∀ env fault, l = .advertise env fault → fault = none
  keys : ∀ owner key b, taken s l = some (owner, key, b) →
    Utils.get_key_with_ns key = Utils.get_key_with_ns file_id → key = file_id
  balanced : ∀ owner b, taken s l = some (owner, file_id, b) →
    Mirror.Balanced (mirror s file_id).value (Mirror.others (mirror s file_id) owner)

structure Inv (s : State) : Prop where
  owners : Files.Owners s.node
  nodup : s.pending.Nodup

theorem Idle.inv {s : State} (h : Idle s) : Inv s where
  owners := h.node.owners
  nodup := by
    rw [h.pending]
    exact List.nodup_nil

theorem inv_step {s s' : State} {l : Label} (hfaults : ∀ env ∈ l.env, env.NoFaults) (hinv : Inv s)
    (h : next s l = some s') : Inv s' := by
  cases l with
  | node l =>
    obtain ⟨node, hnode, rfl⟩ := next_node h
    exact ⟨Files.owners_step hfaults hinv.owners hnode, hinv.nodup⟩
  | advertise env fault =>
    obtain ⟨-, files, hfiles, rfl⟩ := next_advertise h
    exact ⟨hinv.owners, NetworkClient.nodup_advertise_provided_files hfiles⟩
  | advertise_command_taken sender swarm =>
    obtain ⟨file_id, files, hpending, rfl⟩ := next_advertise_command_taken h
    have hnodup := hinv.nodup
    rw [hpending] at hnodup
    have howners := hinv.owners
    exact ⟨⟨howners.handler, howners.issued, howners.http, howners.keyed⟩, hnodup.tail⟩
  | advertise_reply =>
    obtain rfl := next_advertise_reply h
    exact ⟨hinv.owners, hinv.nodup⟩
  | restart =>
    obtain rfl := Option.some.inj h
    have hidle : Files.Idle (restarted s.node) := ⟨rfl, rfl, fun _ => rfl⟩
    exact ⟨hidle.owners, List.nodup_nil⟩

/-- The mirror converges, or it was lost and nothing was announced since. -/
def Recovering (s : State) (file_id : String) : Prop :=
  Mirror.Converging (mirror s file_id) ∨ Mirror.Cleared false (mirror s file_id)

/-- What a step does to the mirror of a file. -/
inductive Effect (file_id : String) (s : State) : Label → State → Prop where
  | keep {l s'} (heq : mirror s' file_id = mirror s file_id) : Effect file_id s l s'
  | write {l s'} (owner : Files.Owner ⊕ Unit) (b : Bool)
      (heq : mirror s' file_id = Mirror.write (mirror s file_id) owner b) : Effect file_id s l s'
  | publish {l s'} (owner : Files.Owner ⊕ Unit) (b : Bool)
      (htaken : taken s l = some (owner, file_id, b))
      (hpublishes : Mirror.Publishes (mirror s file_id) owner b)
      (heq : mirror s' file_id = Mirror.publish (mirror s file_id) owner b) :
      Effect file_id s l s'
  | advertise {env fault s'}
      (hcatch_up : Recovering s file_id → Mirror.Converging (mirror s' file_id)) :
      Effect file_id s (.advertise env fault) s'
  | restart {s'} (hclear : Mirror.Cleared false (mirror s' file_id)) :
      Effect file_id s .restart s'

theorem cleared_restarted (s : State) (file_id : String) :
    Mirror.Cleared false
      (mirror { node := restarted s.node, pending := [], waiting := false } file_id) where
  mirror := by simp [mirror, Mirror.join, Files.mirror, restarted]
  outstanding := rfl

theorem effect_node {s s' : State} {l : Files.Label} {file_id : String}
    (hdigest : Files.IsDigest file_id) (hinv : Inv s) (hord : Orderly file_id s (.node l))
    (h : next s (.node l) = some s') : Effect file_id s (.node l) s' := by
  obtain ⟨node, hnode, rfl⟩ := next_node h
  have hproper : Files.Proper file_id s.node l := by
    refine ⟨hord.faults, fun owner key b htaken => ?_⟩
    exact hord.keys (.inl owner) key b (by simp [taken, htaken])
  obtain ⟨heq, -⟩ | ⟨-, owner, b, heq⟩ | ⟨owner, b, htaken, hpublishes, heq⟩ :=
    Files.mirror_step hdigest hinv.owners hproper hnode
  · refine .keep ?_
    show Mirror.join (Files.mirror node file_id) _ = _
    rw [heq]
    rfl
  · refine .write (.inl owner) b ?_
    show Mirror.join (Files.mirror node file_id) _ = _
    rw [heq]
    rfl
  · refine .publish (.inl owner) b (by simp [taken, htaken]) (hpublishes.join _) ?_
    show Mirror.join (Files.mirror node file_id) _ = _
    rw [heq, Mirror.join_publish]
    rfl

/-- An advertise catches up, whatever was lost. -/
theorem converging_advertise {s s' : State} {env : Env} {file_id : String}
    (hrec : Recovering s file_id) (h : next s (.advertise env none) = some s') :
    Mirror.Converging (mirror s' file_id) := by
  obtain ⟨hpending, files, hfiles, rfl⟩ := next_advertise h
  have hmem := NetworkClient.advertise_provided_files_eq_ok hfiles file_id
  by_cases hactive : s.node.handler.db.Active file_id
  · -- the file will be announced
    refine Mirror.converging_of_agreeing ⟨(.inr (), true), ?_, ?_⟩
    · refine Mirror.mem_join_inr.mpr ?_
      simp [announcing, hmem.mpr hactive]
    · show true = decide (s.node.handler.db.Active file_id)
      rw [decide_eq_true hactive]
  · have hnot : file_id ∉ files := mt hmem.mp hactive
    have heq : mirror { s with pending := files } file_id = mirror s file_id := by
      simp [mirror, announcing, hpending, hnot]
    rw [heq]
    obtain hconv | hclear := hrec
    · exact hconv
    · exact hclear.converging (decide_eq_false hactive)

theorem effect_advertise_command_taken {s s' : State} {sender : Sender} {swarm : Swarm}
    {file_id : String} (hinv : Inv s)
    (hkeys : ∀ key, s.pending.head? = some key →
      Utils.get_key_with_ns key = Utils.get_key_with_ns file_id → key = file_id)
    (h : next s (.advertise_command_taken sender swarm) = some s') :
    Effect file_id s (.advertise_command_taken sender swarm) s' := by
  obtain ⟨key, files, hpending, rfl⟩ := next_advertise_command_taken h
  have hnodup := hinv.nodup
  rw [hpending, List.nodup_cons] at hnodup
  by_cases hkey : key = file_id
  · subst hkey
    have hannouncing : announcing s key = [((), true)] := by
      simp [announcing, hpending]
    refine .publish (.inr ()) true (by simp [taken, hpending]) ⟨?_, ?_⟩ ?_
    · refine Mirror.mem_join_inr.mpr ?_
      rw [hannouncing]
      exact List.mem_singleton_self _
    · intro w hw
      have hmem := Mirror.mem_join_inr.mp hw
      rw [hannouncing] at hmem
      cases List.mem_singleton.mp hmem
      rfl
    · -- the file is not announced a second time
      have hdone : (announcing s key).filter (fun q => q.1 ≠ ()) = [] := by
        simp [hannouncing]
      rw [mirror, mirror, ← Mirror.join_filter, hdone]
      simp [announcing, hnodup.1, Files.mirror]
  · refine .keep ?_
    have hne : Utils.get_key_with_ns key ≠ Utils.get_key_with_ns file_id :=
      mt (hkeys key (by simp [hpending])) hkey
    have hannouncing : (file_id ∈ files) ↔ file_id ∈ s.pending := by
      simp [hpending, Ne.symm hkey]
    simp [mirror, announcing, Files.mirror, hannouncing, hne.symm]

theorem effect {s s' : State} {l : Label} {file_id : String} (hdigest : Files.IsDigest file_id)
    (hinv : Inv s) (hord : Orderly file_id s l) (h : next s l = some s') :
    Effect file_id s l s' := by
  cases l with
  | node l => exact effect_node hdigest hinv hord h
  | advertise env fault =>
    obtain rfl := hord.query env fault rfl
    exact .advertise fun hrec => converging_advertise hrec h
  | advertise_command_taken sender swarm =>
    refine effect_advertise_command_taken hinv (fun key hhead => ?_) h
    exact hord.keys (.inr ()) key true (by simp [taken, hhead])
  | advertise_reply =>
    obtain rfl := next_advertise_reply h
    exact .keep rfl
  | restart =>
    obtain rfl := Option.some.inj h
    exact .restart (cleared_restarted s file_id)

/-! ## Section 3: Runs -/

theorem converging_step {s s' : State} {l : Label} {file_id : String}
    (hdigest : Files.IsDigest file_id) (hinv : Inv s)
    (hconv : Mirror.Converging (mirror s file_id)) (hord : Orderly file_id s l)
    (hrestart : l ≠ .restart) (h : next s l = some s') :
    Mirror.Converging (mirror s' file_id) := by
  have heffect := effect hdigest hinv hord h
  cases heffect with
  | keep heq =>
    rw [heq]
    exact hconv
  | write owner b heq =>
    rw [heq]
    exact Mirror.converging_write _ _ _
  | publish owner b htaken hpublishes heq =>
    rw [heq]
    exact Mirror.converging_publish hconv hpublishes (hord.balanced owner b htaken)
  | advertise hcatch_up => exact hcatch_up (Or.inl hconv)
  | restart hclear => exact absurd rfl hrestart

theorem recovering_step {s s' : State} {l : Label} {file_id : String}
    (hdigest : Files.IsDigest file_id) (hinv : Inv s) (hrec : Recovering s file_id)
    (hord : Orderly file_id s l) (h : next s l = some s') : Recovering s' file_id := by
  by_cases hrestart : l = .restart
  · subst hrestart
    obtain rfl := Option.some.inj h
    exact Or.inr (cleared_restarted s file_id)
  obtain hconv | hclear := hrec
  · exact Or.inl (converging_step hdigest hinv hconv hord hrestart h)
  · have heffect := effect hdigest hinv hord h
    cases heffect with
    | keep heq =>
      rw [Recovering, heq]
      exact Or.inr hclear
    | write owner b heq =>
      rw [Recovering, heq]
      exact Or.inl (Mirror.converging_write _ _ _)
    | publish owner b htaken hpublishes heq => exact absurd hpublishes hclear.not_publishes
    | advertise hcatch_up => exact Or.inl (hcatch_up (Or.inr hclear))
    | restart hclear' => exact Or.inr hclear'

/-- The node announces the file. -/
def Announced (s : State) (file_id : String) : Prop :=
  Utils.get_key_with_ns file_id ∈ s.node.provided

theorem announced_of_recovering {s : State} {file_id : String} (h : Recovering s file_id)
    (hquiet : ¬ InProgress s file_id) (hannounced : Announced s file_id) :
    s.node.handler.db.Active file_id := by
  have htrue : (mirror s file_id).mirror = true := decide_eq_true hannounced
  obtain hconv | hclear := h
  · have hvalue := hconv.finished (not_not.mp hquiet)
    exact of_decide_eq_true (hvalue.symm.trans htrue)
  · cases hclear.mirror.symm.trans htrue

theorem announced_of_converging {s : State} {file_id : String}
    (h : Mirror.Converging (mirror s file_id)) (hquiet : ¬ InProgress s file_id) :
    Announced s file_id ↔ s.node.handler.db.Active file_id := by
  have hmirror := h.finished (not_not.mp hquiet)
  simpa [Announced, mirror, Mirror.join, Files.mirror] using hmirror

/-- The terminal advertised the files since the last restart, or there was none. -/
def Advertised (labels : List Label) : Prop :=
  (∀ l ∈ labels, l ≠ .restart) ∨ ∃ before env fault later,
    labels = before ++ .advertise env fault :: later ∧ ∀ l ∈ later, l ≠ .restart

theorem converging_of_run {file_id : String} (hdigest : Files.IsDigest file_id) {s t : State}
    {labels : List Label} (hrestart : ∀ l ∈ labels, l ≠ .restart) (hinv : Inv s)
    (hconv : Mirror.Converging (mirror s file_id))
    (horderly : system.AllSteps (fun u l _ => Orderly file_id u l) s labels)
    (hrun : system.run s labels = some t) : Mirror.Converging (mirror t file_id) := by
  induction labels generalizing s with
  | nil =>
    obtain rfl := Option.some.inj hrun
    exact hconv
  | cons l labels ih =>
    obtain ⟨u, hnext, hrest⟩ := Option.bind_eq_some_iff.mp hrun
    obtain ⟨hord, hall⟩ := horderly u hnext
    have hstep := converging_step hdigest hinv hconv hord (hrestart l List.mem_cons_self) hnext
    exact ih (fun k hk => hrestart k (List.mem_cons_of_mem l hk))
      (inv_step hord.faults hinv hnext) hstep hall hrest

/-- **Files across restarts.**  Whenever nothing about a file is in progress, the
    node announces it only if it is active; and if the terminal advertised the
    files since the last restart, exactly if it is active. -/
theorem announced_of_orderly {file_id : String} (hdigest : Files.IsDigest file_id) {s t : State}
    (hidle : Idle s) (hstart : Announced s file_id ↔ s.node.handler.db.Active file_id)
    {labels : List Label}
    (horderly : system.AllSteps (fun u l _ => Orderly file_id u l) s labels)
    (hrun : system.run s labels = some t) (hquiet : ¬ InProgress t file_id) :
    (Announced t file_id → t.node.handler.db.Active file_id) ∧
      (Advertised labels → t.node.handler.db.Active file_id → Announced t file_id) := by
  have hconv : Mirror.Converging (mirror s file_id) := by
    have hnothing : (mirror s file_id).outstanding = [] := by
      simp [mirror, Mirror.join, Files.mirror, hidle.node.outstanding, announcing, hidle.pending]
    refine ⟨?_, ?_⟩
    · intro hcontrary
      obtain ⟨p, hp, -⟩ := hcontrary
      rw [hnothing] at hp
      cases hp
    · intro _
      show decide _ = decide _
      exact decide_eq_decide.mpr hstart
  have hrecovers : ∀ {ls : List Label} {u : State},
      system.AllSteps (fun u l _ => Orderly file_id u l) s ls → system.run s ls = some u →
        Inv u ∧ Recovering u file_id := by
    intro ls u hsteps hls
    exact hsteps.invariant (J := fun v => Inv v ∧ Recovering v file_id)
      (fun v l v' hv hord hnext => ⟨inv_step hord.faults hv.1 hnext,
        recovering_step hdigest hv.1 hv.2 hord hnext⟩) ⟨hidle.inv, Or.inl hconv⟩ hls
  constructor
  · exact announced_of_recovering (hrecovers horderly hrun).2 hquiet
  · intro hadvertised hactive
    refine (announced_of_converging ?_ hquiet).mpr hactive
    obtain hrestart | ⟨before, env, fault, later, rfl, hrestart⟩ := hadvertised
    · exact converging_of_run hdigest hrestart hidle.inv hconv horderly hrun
    · -- the run up to the advertise, the advertise itself, and the rest
      obtain ⟨u, hbefore, hrest⟩ := system.run_append hrun
      obtain ⟨v, hnext, hlater⟩ := Option.bind_eq_some_iff.mp hrest
      obtain ⟨hsteps, htail⟩ := horderly.append hbefore
      obtain ⟨hord, hall⟩ := htail v hnext
      obtain ⟨hinv, hrec⟩ := hrecovers hsteps hbefore
      obtain rfl := hord.query env fault rfl
      have hcaught := converging_advertise hrec hnext
      exact converging_of_run hdigest hrestart (inv_step hord.faults hinv hnext) hcaught hall hlater

section samples

open Files (sampleEnv sampleFile sampleState)

/-- A file is provided, the node is restarted, and the files are advertised. -/
def restartRun : List Label :=
  Files.provideRun.map .node ++ [.restart, .advertise sampleEnv.toEnv none,
    .advertise_command_taken 1 sampleSwarm, .advertise_reply]

theorem Orderly.of_taken_none {file_id : String} {s : State} {l : Label}
    (hfaults : ∀ env ∈ l.env, env.NoFaults)
    (hquery : ∀ env fault, l = .advertise env fault → fault = none) (h : taken s l = none) :
    Orderly file_id s l where
  faults := hfaults
  query := hquery
  keys := by simp [h]
  balanced := by simp [h]

/-- The only command of the file that is outstanding. -/
theorem Orderly.of_taken_only {file_id : String} {s : State} {l : Label}
    (owner : Files.Owner ⊕ Unit) (b : Bool) (hfaults : ∀ env ∈ l.env, env.NoFaults)
    (hquery : ∀ env fault, l = .advertise env fault → fault = none)
    (h : taken s l = some (owner, file_id, b))
    (honly : Mirror.others (mirror s file_id) owner = []) : Orderly file_id s l where
  faults := hfaults
  query := hquery
  keys := by
    intro owner' key b' htaken _
    rw [h] at htaken
    cases htaken
    rfl
  balanced := by
    intro owner' b' htaken hcontrary
    rw [h] at htaken
    cases htaken
    obtain ⟨p, hp, -⟩ := hcontrary
    rw [honly] at hp
    cases hp

theorem announced_of_orderly_restartRun :
    ∃ t, system.run ⟨sampleState, [], false⟩ restartRun = some t ∧
      t.node.handler.db.Active sampleFile ∧ Announced t sampleFile := by
  have hfaults : ∀ env ∈ some sampleEnv.toEnv, env.NoFaults := by
    intro env h
    obtain rfl := Option.some.inj h
    exact fun _ => rfl
  have horderly : system.AllSteps (fun u l _ => Orderly sampleFile u l) ⟨sampleState, [], false⟩
      restartRun := by
    intro t₁ h₁
    refine ⟨.of_taken_none hfaults nofun rfl, ?_⟩
    obtain rfl := Option.some.inj h₁
    intro t₂ h₂
    refine ⟨.of_taken_none hfaults nofun rfl, ?_⟩
    obtain rfl := Option.some.inj h₂
    intro t₃ h₃
    refine ⟨.of_taken_only (.inl .handler) true hfaults nofun rfl rfl, ?_⟩
    obtain rfl := Option.some.inj h₃
    intro t₄ h₄
    refine ⟨.of_taken_none hfaults nofun rfl, ?_⟩
    obtain rfl := Option.some.inj h₄
    intro t₅ h₅
    refine ⟨.of_taken_none nofun nofun rfl, ?_⟩
    obtain rfl := Option.some.inj h₅
    intro t₆ h₆
    refine ⟨.of_taken_none hfaults (by rintro _ _ ⟨⟩; rfl) rfl, ?_⟩
    obtain rfl := Option.some.inj h₆
    intro t₇ h₇
    refine ⟨.of_taken_only (.inr ()) true nofun nofun rfl rfl, ?_⟩
    obtain rfl := Option.some.inj h₇
    intro t₈ h₈
    exact ⟨.of_taken_none nofun nofun rfl, trivial⟩
  have hactive : ∃ t, system.run ⟨sampleState, [], false⟩ restartRun = some t ∧
      t.node.handler.db.Active sampleFile ∧ ¬ InProgress t sampleFile :=
    ⟨_, rfl, ⟨_, rfl, rfl⟩, fun h => h rfl⟩
  obtain ⟨t, hrun, hactive, hquiet⟩ := hactive
  refine ⟨t, hrun, hactive, ?_⟩
  exact (announced_of_orderly Files.isDigest_sampleFile
    ⟨⟨rfl, rfl, fun _ => rfl⟩, rfl⟩
    (iff_of_false (Finset.notMem_empty _) (Database.not_active_of_none rfl)) horderly hrun
    hquiet).2 (Or.inr ⟨Files.provideRun.map .node ++ [.restart], sampleEnv.toEnv, none,
      [.advertise_command_taken 1 sampleSwarm, .advertise_reply], rfl, by simp⟩) hactive

end samples

end Readvertise

end OrcaNet
