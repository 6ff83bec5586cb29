import OrcaNet.Network.LoopRuns

/-! # Callers of finished queries

    libp2p marks the last event of a query.  A caller that still has an entry
    in the maps then waits forever.  The loop removes the entry on events that
    carry a value and on those errors that it handles; a lookup that ends
    without a provider and a failed announcement are neither. -/

namespace OrcaNet

open Transition NetworkEventLoop ReplyCorrelation

namespace LoopRuns

/-! ## Section 1: Finished queries -/

/-- The last event of the operation was handled. -/
def Finished (s : State) (k : Key) : Prop :=
  ∃ event, (event, true) ∈ s.log ∧ event_key event = some k

/-- No map has an entry for the query. -/
structure NoEntry (s : NetworkEventLoop) (id : kad.QueryId) : Prop where
  start_providing : s.pending_start_providing id = none
  get_providers : s.pending_get_providers id = none
  put_kv : s.pending_put_kv id = none
  get_value : s.pending_get_value id = none

/-- Nobody waits on a finished query. -/
def NobodyLeft (s : State) : Prop :=
  ∀ kind id, Finished s (.query kind id) → NoEntry s.loop id

theorem noEntry_iff (s : NetworkEventLoop) (id : kad.QueryId) :
    NoEntry s id ↔ ∀ kind, lookup s (.query kind id) = none := by
  constructor
  · intro h kind
    cases kind with
    | StartProviding => exact h.start_providing
    | GetProviders => exact h.get_providers
    | PutKV => exact h.put_kv
    | GetValue => exact h.get_value
  · intro h
    exact ⟨h .StartProviding, h .GetProviders, h .PutKV, h .GetValue⟩

/-- Queries of all kinds share their ids, so a query has one kind. -/
theorem Waiting.kind_unique {s : State} (hinv : Waiting s) {kind kind' : QueryKind}
    {id : kad.QueryId} (h : .query kind id ∈ s.started.map Prod.fst)
    (h' : .query kind' id ∈ s.started.map Prod.fst) : kind = kind' := by
  have hpair : (s.started.map Prod.fst).Pairwise fun k k' => k.same_id k' = false :=
    List.pairwise_map.mpr hinv.fresh
  have hsymm : Std.Symm fun k k' : Key => k.same_id k' = false :=
    ⟨fun k k' hk => (same_id_comm k' k).trans hk⟩
  by_contra hne
  have hkeys : Key.query kind id ≠ .query kind' id := fun heq => hne (by simpa using heq)
  have hdiff := hpair.forall h h' hkeys
  simp [Key.same_id] at hdiff

/-- Somebody waits on a finished query exactly if it ended without an answer. -/
theorem Waiting.nobodyLeft_iff_answered {s : State} (hinv : Waiting s) :
    NobodyLeft s ↔ ∀ kind id, Finished s (.query kind id) → Answered s (.query kind id) := by
  constructor
  · intro h kind id hfinished
    obtain ⟨event, hmem, hkey⟩ := hfinished
    have hstarted := hinv.logged _ hmem _ hkey
    have hnone := (noEntry_iff _ _).mp (h kind id ⟨event, hmem, hkey⟩) kind
    by_contra hunanswered
    have hsome := (hinv.pending _).mpr ⟨hstarted, hunanswered⟩
    rw [hnone] at hsome
    cases hsome
  · intro h kind id hfinished
    have hanswered := h kind id hfinished
    obtain ⟨event, hmem, hkey⟩ := hfinished
    have hstarted := hinv.logged _ hmem _ hkey
    rw [noEntry_iff]
    intro kind'
    cases hlook : lookup s.loop (.query kind' id) with
    | none => rfl
    | some c =>
      obtain ⟨hstarted', hunanswered⟩ := (hinv.pending _).mp (by rw [hlook]; rfl)
      -- an entry under the same id would be one of the same query
      rw [hinv.kind_unique hstarted hstarted'] at hanswered
      exact absurd hanswered hunanswered

/-! ## Section 2: Steps -/

/-- The last event of a query carries a value or an error that is handled, or an
    earlier one did. -/
def EndsAnswered (s : State) (l : Label) : Prop :=
  ∀ event kind id, l.wake = .swarm_event event → l.last = true →
    event_key event = some (.query kind id) →
      answer event ≠ none ∨ Answered s (.query kind id)

theorem answered_cons {s s' : State} {e : SwarmEvent × Bool} (k : Key)
    (hlog : s'.log = e :: s.log) :
    Answered s' k ↔ (answer e.1).map Prod.fst = some k ∨ Answered s k := by
  simp [Answered, hlog]

theorem finished_cons {s s' : State} {e : SwarmEvent × Bool} (k : Key)
    (hlog : s'.log = e :: s.log) :
    Finished s' k ↔ (e.2 = true ∧ event_key e.1 = some k) ∨ Finished s k := by
  obtain ⟨event, last⟩ := e
  constructor
  · rintro ⟨event', hmem, hkey⟩
    rw [hlog, List.mem_cons, Prod.mk.injEq] at hmem
    rcases hmem with ⟨rfl, rfl⟩ | hmem
    · exact Or.inl ⟨rfl, hkey⟩
    · exact Or.inr ⟨event', hmem, hkey⟩
  · rintro (⟨hlast, hkey⟩ | ⟨event', hmem, hkey⟩)
    · exact ⟨event, by rw [hlog, ← hlast]; exact List.mem_cons_self, hkey⟩
    · exact ⟨event', by rw [hlog]; exact List.mem_cons_of_mem _ hmem, hkey⟩

theorem nobodyLeft_step {s s' : State} {l : Label} (hinv : Waiting s) (hs : NobodyLeft s)
    (h : next s l = some s') : NobodyLeft s' ↔ EndsAnswered s l := by
  have hinv' := waiting_step hinv h
  rw [hinv'.nobodyLeft_iff_answered]
  rw [hinv.nobodyLeft_iff_answered] at hs
  obtain ⟨o, hallowed, ho, rfl⟩ := next_cases h
  obtain ⟨wake, last⟩ := l
  cases wake with
  | swarm_event event =>
    -- the event is the newest entry of the log, so only its query may be finished now
    have hlog : (⟨o.loop, o.phase, new_operations (.swarm_event event) ++ s.started,
      new_events ⟨.swarm_event event, last⟩ ++ s.log⟩ : State).log = (event, last) :: s.log := rfl
    simp only [finished_cons _ hlog, answered_cons _ hlog]
    constructor
    · intro hends event' kind id hwake hlast hkey
      cases hwake
      rcases hends kind id (Or.inl ⟨hlast, hkey⟩) with hanswer | hanswered
      · exact Or.inl (by rintro hnone; simp [hnone] at hanswer)
      · exact Or.inr hanswered
    · rintro hends kind id (⟨hlast, hkey⟩ | hfinished)
      · rcases hends event kind id rfl hlast hkey with hanswer | hanswered
        · obtain ⟨⟨k, v⟩, hanswer⟩ := Option.ne_none_iff_exists'.mp hanswer
          have hk := (event_key_of_answer hanswer).symm.trans hkey
          exact Or.inl (by simpa [hanswer] using hk)
        · exact Or.inr hanswered
      · exact Or.inr (hs kind id hfinished)
  | _ =>
    -- no event, and nothing else answers or finishes a query
    refine ⟨fun _ event kind id hwake => ?_, fun _ => hs⟩
    cases hwake

/-- **Finished queries.**  In a run of the loop nobody is ever left waiting on a
    finished query if and only if every query ends with an event that carries an
    answer, or had one before. -/
theorem nobodyLeft_iff (labels : List Label) :
    system.AllSteps (fun _ _ t => NobodyLeft t) init labels ↔
      system.AllSteps (fun t l _ => EndsAnswered t l) init labels := by
  refine system.allSteps_iff (J := fun s => Waiting s ∧ NobodyLeft s) ?_ ?_ labels ⟨?_, ?_⟩
  · intro s l s' hinv h
    exact nobodyLeft_step hinv.1 hinv.2 h
  · intro s l s' hinv hends h
    exact ⟨waiting_step hinv.1 h, (nobodyLeft_step hinv.1 hinv.2 h).mpr hends⟩
  · exact waiting_init
  · intro kind id hfinished
    obtain ⟨event, hmem, -⟩ := hfinished
    cases hmem

/-- A lookup of a key that no peer provides. -/
def emptyLookup : List Label :=
  [⟨.command (.GetProviders "key" 10) sampleSwarm, false⟩,
   ⟨.swarm_event (.OutboundQueryProgressed 1
      (.GetProviders (.ok .FinishedWithNoAdditionalRecord))), true⟩]

/-- The caller of the lookup waits forever. -/
theorem not_nobodyLeft_emptyLookup :
    ∃ s, system.run init emptyLookup = some s ∧ Finished s (.query .GetProviders 1) ∧
      s.loop.pending_get_providers 1 = some 10 :=
  ⟨_, rfl, ⟨_, List.mem_cons_self, rfl⟩, rfl⟩

end LoopRuns

end OrcaNet
