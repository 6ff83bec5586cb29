import OrcaNet.Network.LoopRuns

/-! # Panics of the network event loop

    A panic ends all networking of the node.  The loop asserts that libp2p
    accepts what a command asks for, that a peer is dialed once at a time, that
    an answer finds its caller, that keys are text and that the request handler
    lives.  Which of these hold in every run follows from where the callers
    wait; the rest are conditions on the commands and on libp2p's answers. -/

namespace OrcaNet

open Transition NetworkEventLoop ReplyCorrelation

namespace LoopRuns

/-- The loop did not panic. -/
def NoPanic (s : State) : Prop := ∀ message, s.phase ≠ .panicked message

/-- Nobody waits for a dial of the peer that is dialed; libp2p accepts the
    record, the announcement and the response; the request handler is there. -/
def Accepted (s : State) (wake : Wake) : Prop :=
  match wake with
  | .command (.Dial peer_id _ _) _ => s.loop.pending_dial peer_id = none
  | .command (.StartProviding _ _) swarm => ∃ id, swarm.start_providing = .ok id
  | .command (.PutKV _ _ _) swarm => ∃ id, swarm.put_record = .ok id
  | .command (.Respond _ _) swarm => swarm.send_response = .ok ()
  | .event_receiver_dropped | .response none => False
  | _ => True

/-! ## Section 1: Events -/

/-- An answer that must find its caller is the first one, so it does. -/
theorem Waiting.finds_caller {s : State} {event : SwarmEvent} {k : Key} (hinv : Waiting s)
    (hallowed : allowed s (.swarm_event event) = true) (hkey : event_key event = some k)
    (hexpects : unexpected k ≠ .select) : (lookup s.loop k).isSome = true := by
  obtain ⟨⟨q, hmem, rfl, -⟩, hsingle⟩ := (allowed_event_iff hkey).mp hallowed
  have hunreported := hsingle (single_of_unexpected hexpects)
  refine (hinv.pending _).mpr ⟨List.mem_map_of_mem hmem, ?_⟩
  rintro ⟨e, he, hanswered⟩
  obtain ⟨⟨k, v⟩, hanswer, rfl⟩ := Option.map_eq_some_iff.mp hanswered
  have hnot := List.all_eq_true.mp hunreported e he
  simp [event_key_of_answer hanswer] at hnot

/-- What the loop asserts of a swarm event holds. -/
theorem Waiting.assertsEvent {s : State} {event : SwarmEvent} (hinv : Waiting s)
    (hallowed : allowed s (.swarm_event event) = true) :
    AssertsEvent (fun _ => true) s.loop event := by
  have htext := hinv.key_is_text hallowed
  have hrequest : ∀ {request_id}, event_key event = some (.request request_id) →
      (s.loop.pending_request request_id).isSome = true :=
    fun hkey => hinv.finds_caller hallowed hkey (by simp [unexpected])
  cases event with
  | OutboundQueryProgressed id result =>
    -- callers keep their receivers
    have hkept : ∀ pending : Pending kad.QueryId, Kept (fun _ => true) pending id :=
      fun _ _ _ => rfl
    fun_cases AssertsQuery (fun _ => true) s.loop id result
    case case5 key => exact ⟨htext, hkept _⟩
    case case7 key =>
      have hfound := hinv.finds_caller hallowed (k := .query .StartProviding id) rfl
        (by simp [unexpected])
      exact ⟨htext, hfound⟩
    all_goals simp_all [AssertsEvent, AssertsQuery]
  | Response request_id response => exact hrequest rfl
  | OutboundFailure request_id error => exact hrequest rfl
  | _ => trivial

/-! ## Section 2: Steps -/

/-- What the loop asserts of a step holds exactly when the step is accepted. -/
theorem Waiting.asserts_iff {s : State} {wake : Wake} (hinv : Waiting s)
    (hallowed : allowed s wake = true) :
    Asserts (fun _ => true) s.loop wake ↔ Accepted s wake := by
  cases wake with
  | command c swarm => cases c <;> exact Iff.rfl
  | swarm_event event => exact iff_of_true (hinv.assertsEvent hallowed) trivial
  | read content =>
    refine iff_of_true ?_ trivial
    obtain e | ⟨request_id, request | response⟩ := content
    · trivial
    · trivial
    · exact fun _ _ => rfl
  | response r => cases r <;> exact Iff.rfl
  | _ => exact Iff.rfl

/-- A step ends in a panic exactly when it is not accepted. -/
theorem noPanic_step {s s' : State} {l : Label} (hinv : Waiting s) (h : next s l = some s') :
    NoPanic s' ↔ Accepted s l.wake := by
  obtain ⟨o, hallowed, ho, rfl⟩ := next_cases h
  rw [← hinv.asserts_iff hallowed, ← not_iff_not, ← resume_panics_iff _ ho]
  simp [NoPanic]

/-- **Panic freedom.**  No step of a run of the loop ends in a panic if and only
    if every step is accepted: a peer is not dialed while its last dial is
    pending, libp2p accepts announcements, records and responses, and the request
    handler takes events and answers stream requests. -/
theorem noPanic_iff (labels : List Label) :
    system.AllSteps (fun _ _ t => NoPanic t) init labels ↔
      system.AllSteps (fun t l _ => Accepted t l.wake) init labels := by
  refine system.allSteps_iff (J := Waiting) ?_ ?_ labels waiting_init
  · intro s l s' hinv h
    exact noPanic_step hinv h
  · intro s l s' hinv _ h
    exact waiting_step hinv h

/-- Two callers send a stream request to one peer at a time: each dials it. -/
def secondDial : List Label :=
  [⟨.command (.Dial ⟨"peer"⟩ "addr" 10) sampleSwarm, false⟩,
   ⟨.command (.Dial ⟨"peer"⟩ "addr" 11) sampleSwarm, false⟩]

theorem panicked_secondDial :
    ∃ s, system.run init secondDial = some s ∧
      s.phase = .panicked "not yet implemented: Already dialing peer." :=
  ⟨_, rfl, rfl⟩

end LoopRuns

end OrcaNet
