import OrcaNet.Network.ReplyCorrelation

/-! # Runs of the network event loop

    The whole loop, with all commands, all swarm events and all streams, over
    what libp2p promises: an operation gets a fresh id; a result belongs to an
    operation that was started and has its kind and its record key; a request,
    a `StartProviding` and a `PutRecord` query have a single result.  Callers
    keep their receivers.

    The invariant says where the waiting callers are: an operation has an entry
    in the maps exactly while no answer to it has arrived. -/

namespace OrcaNet

open Transition NetworkEventLoop ReplyCorrelation

namespace LoopRuns

/-! ## Section 1: System -/

structure State where
  loop : NetworkEventLoop
  phase : Phase
  /-- The operations started by commands, with their record keys. -/
  started : List (Key × kad.RecordKey)
  /-- The swarm events that were handled, newest first, with libp2p's mark of
      the last event of a query. -/
  log : List (SwarmEvent × Bool)

structure Label where
  wake : Wake
  last : Bool

/-- The key under which a command stores or looks up a record. -/
def record_key : NetworkCommand → kad.RecordKey
  | .StartProviding key _ | .GetProviders key _ | .PutKV key _ _ | .GetValue key _ =>
    .new (Utils.get_key_with_ns key)
  | _ => []

def new_operations : Wake → List (Key × kad.RecordKey)
  | .command c swarm => ((started swarm c).map fun p => (p.1, record_key c)).toList
  | _ => []

def new_events (l : Label) : List (SwarmEvent × Bool) :=
  match l.wake with
  | .swarm_event event => [(event, l.last)]
  | _ => []

/-- The operation has no event yet. -/
def unreported (s : State) (k : Key) : Bool := s.log.all fun e => event_key e.1 ≠ some k

/-- What libp2p promises about the next step. -/
def allowed (s : State) : Wake → Bool
  | .command c swarm =>
    (started swarm c).all fun p => s.started.all fun q => !p.1.same_id q.1
  | .swarm_event event =>
    (event_key event).all fun k =>
      s.started.any (fun q => q.1 = k && (reported_key event).all fun key => key = q.2) &&
        (!k.single || unreported s k)
  | _ => true

def next (s : State) (l : Label) : Option State :=
  if allowed s l.wake then
    (resume (fun _ => true) s.loop s.phase l.wake).map fun o =>
      ⟨o.loop, o.phase, new_operations l.wake ++ s.started, new_events l ++ s.log⟩
  else none

def init : State := ⟨.new, .select, [], []⟩

def system : System State Label where
  init := fun s => s = init
  next := next

theorem next_cases {s s' : State} {l : Label} (h : next s l = some s') :
    ∃ o, allowed s l.wake = true ∧ resume (fun _ => true) s.loop s.phase l.wake = some o ∧
      s' = ⟨o.loop, o.phase, new_operations l.wake ++ s.started, new_events l ++ s.log⟩ := by
  unfold next at h
  split at h
  · rename_i hallowed
    obtain ⟨o, ho, rfl⟩ := Option.map_eq_some_iff.mp h
    exact ⟨o, hallowed, ho, rfl⟩
  · cases h

/-! ## Section 2: The maps -/

theorem lookup_pending_dial (s : NetworkEventLoop) (dials : Pending PeerId) :
    lookup { s with pending_dial := dials } = lookup s := by
  funext k
  fun_cases lookup s k <;> rfl

theorem lookup_pending_stream_requests (s : NetworkEventLoop) (streams : Pending String) :
    lookup { s with pending_stream_requests := streams } = lookup s := by
  funext k
  fun_cases lookup s k <;> rfl

/-- A command adds the caller of the operation that it starts. -/
theorem lookup_handle_command (s : NetworkEventLoop) (swarm : Swarm) (c : NetworkCommand) :
    lookup (handle_command (fun _ => true) s swarm c).loop =
      match started swarm c with
      | some (k, sender) => Correlator.set (lookup s) k (some sender)
      | none => lookup s := by
  cases hcaller : caller c with
  | some sender =>
    rcases handle_command_of_caller s swarm (c := c) (by simp [hcaller]) with
      ⟨k, sender, hstarted, -, -, hloop, -⟩ | ⟨hstarted, hloop, -⟩
    · rw [hloop, hstarted, lookup_insert_at]
    · rw [hloop, hstarted]
  | none =>
    cases c with
    | Dial peer_id peer_addr sender =>
      simp only [handle_command, started]
      split
      · split
        · exact lookup_pending_dial s _
        · rfl
      · rfl
    | Respond response channel =>
      simp only [handle_command, started]
      split <;> rfl
    | StartListening addr sender => rfl
    | StopProviding key => rfl
    | SendInStream peer_id stream_req sender => rfl
    | _ => cases hcaller

/-- An answering event removes the caller of its operation. -/
theorem lookup_handle_event (s : NetworkEventLoop) {event : SwarmEvent}
    (htext : key_is_text event = true) :
    lookup (handle_event (fun _ => true) s event).loop =
      match answer event with
      | some (k, _) => Correlator.set (lookup s) k none
      | none => lookup s := by
  cases hanswer : answer event with
  | some p =>
    obtain ⟨k, v⟩ := p
    rw [handle_event_of_answer s hanswer htext]
    cases hlook : lookup s k with
    | some c => exact lookup_remove_at s k
    -- there is nothing to remove
    | none => exact (Correlator.set_none_of_none hlook).symm
  | none =>
    have hdial : ∀ peer_id result,
        lookup (complete_dial (fun _ => true) s peer_id result).loop = lookup s := by
      intro peer_id result
      unfold complete_dial
      split
      · exact lookup_pending_dial s _
      · rfl
    cases event with
    | OutboundQueryProgressed id result =>
      -- a value or a handled error would be an answer
      fun_cases handle_kademlia_events (fun _ => true) s id result
      all_goals first
        | rfl
        | cases hanswer
    | Response request_id response => cases hanswer
    | OutboundFailure request_id error => cases hanswer
    | ConnectionEstablished peer_id is_dialer =>
      cases is_dialer with
      | true => exact hdial peer_id _
      | false => rfl
    | OutgoingConnectionError peer_id error =>
      cases peer_id with
      | some peer_id => exact hdial peer_id _
      | none => rfl
    | Request peer request channel => rfl
    | other => rfl

/-- Everything else leaves the operations alone. -/
theorem lookup_resume {s : NetworkEventLoop} {ph : Phase} {wake : Wake} {o : Outcome}
    (h : resume (fun _ => true) s ph wake = some o)
    (hcommand : ∀ c swarm, wake ≠ .command c swarm) (hevent : ∀ event, wake ≠ .swarm_event event) :
    lookup o.loop = lookup s := by
  fun_cases resume (fun _ => true) s ph wake
  case case1 event => exact absurd rfl (hevent event)
  case case2 c swarm => exact absurd rfl (hcommand c swarm)
  case case9 peer_id stream_req =>
    simp only [resume, Option.some.injEq] at h
    subst h
    unfold handle_stream_req
    split
    · rfl
    · split
      · exact lookup_pending_stream_requests s _
      · rfl
  case case16 peer_id stream_req sender =>
    simp only [resume, Option.some.injEq] at h
    subst h
    cases sender with
    | some sender => exact lookup_pending_stream_requests s _
    | none => rfl
  case case18 => simp_all [resume]
  all_goals cases h; rfl

/-! ## Section 3: Where callers wait -/

/-- An answer to the operation arrived. -/
def Answered (s : State) (k : Key) : Prop := ∃ e ∈ s.log, (answer e.1).map Prod.fst = some k

structure Waiting (s : State) : Prop where
  fresh : s.started.Pairwise fun p q => p.1.same_id q.1 = false
  text : ∀ p ∈ s.started, (p.2.from_utf8).isSome = true
  logged : ∀ e ∈ s.log, ∀ k, event_key e.1 = some k → k ∈ s.started.map Prod.fst
  pending : ∀ k, (lookup s.loop k).isSome = true ↔ k ∈ s.started.map Prod.fst ∧ ¬ Answered s k

theorem same_id_comm (k k' : Key) : k.same_id k' = k'.same_id k := by
  have hsymm : ∀ i j : ℕ, decide (i = j) = decide (j = i) :=
    fun i j => decide_eq_decide.mpr eq_comm
  cases k with
  | query kind i =>
    cases k' with
    | query kind' j => exact hsymm i j
    | request j => rfl
  | request i =>
    cases k' with
    | query kind' j => rfl
    | request j => exact hsymm i j

/-- What is allowed of an event of an operation. -/
theorem allowed_event_iff {s : State} {event : SwarmEvent} {k : Key}
    (hkey : event_key event = some k) :
    allowed s (.swarm_event event) = true ↔
      (∃ q ∈ s.started, q.1 = k ∧ ∀ key, reported_key event = some key → key = q.2) ∧
        (k.single = true → unreported s k = true) := by
  simp only [allowed, hkey, Option.all_some, Bool.and_eq_true, List.any_eq_true,
    decide_eq_true_eq, Option.all_eq_true, Bool.or_eq_true, Bool.not_eq_true']
  cases k.single <;> simp

/-- A reported key is one that a command was given. -/
theorem Waiting.key_is_text {s : State} {event : SwarmEvent} (hinv : Waiting s)
    (hallowed : allowed s (.swarm_event event) = true) : key_is_text event = true := by
  unfold ReplyCorrelation.key_is_text
  cases hreported : reported_key event with
  | none => rfl
  | some key =>
    have hkey : ∃ k, event_key event = some k := by
      fun_cases reported_key event <;> simp_all [event_key, reported_key]
    obtain ⟨k, hkey⟩ := hkey
    obtain ⟨⟨q, hmem, -, hq⟩, -⟩ := (allowed_event_iff hkey).mp hallowed
    rw [hq key hreported]
    exact hinv.text q hmem

theorem record_key_isText (c : NetworkCommand) : ((record_key c).from_utf8).isSome = true := by
  have hnew : ∀ text, ((kad.RecordKey.new text).from_utf8).isSome = true := by
    intro text
    rw [kad.RecordKey.new, kad.RecordKey.from_utf8, Bincode.from_utf8_utf8]
    rfl
  have hempty : record_key (.StopProviding "") = kad.RecordKey.new "" := rfl
  cases c <;> first | exact hnew _ | exact hempty ▸ hnew ""

/-- A new operation is none of the started ones. -/
theorem not_started_of_fresh {s : State} {k : Key}
    (h : ∀ q ∈ s.started, k.same_id q.1 = false) : k ∉ s.started.map Prod.fst := by
  intro hmem
  obtain ⟨q, hq, rfl⟩ := List.mem_map.mp hmem
  have hself := h q hq
  rw [same_id_self] at hself
  cases hself

/-- An operation that was not started has no result yet. -/
theorem Waiting.not_answered {s : State} (hinv : Waiting s) {k : Key}
    (hfresh : ∀ q ∈ s.started, k.same_id q.1 = false) : ¬ Answered s k := by
  rintro ⟨e, he, hanswered⟩
  obtain ⟨⟨k', v⟩, hanswer, rfl⟩ := Option.map_eq_some_iff.mp hanswered
  exact not_started_of_fresh hfresh (hinv.logged e he _ (event_key_of_answer hanswer))

theorem waiting_command {s s' : State} {c : NetworkCommand} {swarm : Swarm} {last : Bool}
    (hinv : Waiting s) (h : next s ⟨.command c swarm, last⟩ = some s') : Waiting s' := by
  obtain ⟨o, hallowed, ho, rfl⟩ := next_cases h
  obtain ⟨-, rfl⟩ := resume_command _ ho
  have hlookup := lookup_handle_command s.loop swarm c
  cases hstarted : started swarm c with
  | none =>
    -- no operation was started: the maps and the log stay
    rw [hstarted] at hlookup
    refine ⟨?_, ?_, ?_, fun k => ?_⟩
    · simpa [new_operations, hstarted] using hinv.fresh
    · simpa [new_operations, hstarted] using hinv.text
    · simpa [new_operations, new_events, hstarted] using hinv.logged
    · simpa [new_operations, new_events, hstarted, hlookup, Answered] using hinv.pending k
  | some p =>
    obtain ⟨k, sender⟩ := p
    rw [hstarted] at hlookup
    have hfresh : ∀ q ∈ s.started, k.same_id q.1 = false := by
      simpa [allowed, hstarted] using hallowed
    refine ⟨?_, ?_, ?_, fun i => ?_⟩
    · simpa [new_operations, hstarted] using ⟨fun a b hab => hfresh (a, b) hab, hinv.fresh⟩
    · have htext := record_key_isText c
      simpa [new_operations, hstarted, htext] using hinv.text
    · intro e he i hi
      have hold := hinv.logged e he i hi
      simpa [new_operations, hstarted] using Or.inr (List.mem_map.mp hold)
    · -- the new operation has no event yet
      have hunanswered := hinv.not_answered hfresh
      have hi := hinv.pending i
      by_cases hik : i = k
      · subst hik
        simpa [new_operations, new_events, hstarted, hlookup, Answered] using hunanswered
      · simpa [new_operations, new_events, hstarted, hlookup, Answered, hik] using hi

theorem waiting_swarm_event {s s' : State} {event : SwarmEvent} {last : Bool} (hinv : Waiting s)
    (h : next s ⟨.swarm_event event, last⟩ = some s') : Waiting s' := by
  obtain ⟨o, hallowed, ho, rfl⟩ := next_cases h
  obtain ⟨-, rfl⟩ := resume_swarm_event _ ho
  have hlookup := lookup_handle_event s.loop (hinv.key_is_text hallowed)
  refine ⟨hinv.fresh, hinv.text, ?_, fun k => ?_⟩
  · intro e he k hk
    rcases List.mem_cons.mp he with rfl | he
    · obtain ⟨⟨q, hq, rfl, -⟩, -⟩ := (allowed_event_iff hk).mp hallowed
      exact List.mem_map_of_mem hq
    · exact hinv.logged e he k hk
  · have hk := hinv.pending k
    cases hanswer : answer event with
    | none =>
      rw [hanswer] at hlookup
      simpa [new_operations, new_events, hlookup, Answered, hanswer] using hk
    | some p =>
      obtain ⟨k', v⟩ := p
      rw [hanswer] at hlookup
      by_cases hkk : k = k'
      · subst hkk
        simp [new_operations, new_events, hlookup, Answered, hanswer]
      · simpa [new_operations, new_events, hlookup, Answered, hanswer, hkk, Ne.symm hkk] using hk

theorem waiting_step {s s' : State} {l : Label} (hinv : Waiting s) (h : next s l = some s') :
    Waiting s' := by
  obtain ⟨wake, last⟩ := l
  cases wake with
  | command c swarm => exact waiting_command hinv h
  | swarm_event event => exact waiting_swarm_event hinv h
  | _ =>
    obtain ⟨o, hallowed, ho, rfl⟩ := next_cases h
    have hlookup : lookup o.loop = lookup s.loop := lookup_resume ho (by simp) (by simp)
    refine ⟨hinv.fresh, hinv.text, hinv.logged, fun k => ?_⟩
    simpa [new_operations, new_events, hlookup, Answered] using hinv.pending k

theorem waiting_init : Waiting init := by
  refine ⟨by simp [init], by simp [init], by simp [init], fun k => ?_⟩
  have hempty : lookup NetworkEventLoop.new k = none := by
    fun_cases lookup NetworkEventLoop.new k <;> rfl
  simp [init, hempty]

end LoopRuns

end OrcaNet
