import OrcaNet.Framework.System
import OrcaNet.Network.EventLoop

/-! # Who answers a stream request

    The network loop of one node among peers that may send anything in a
    stream.  A call of `send_stream_request` is made to one peer, but the loop
    remembers only the id of the call: the peer that a response comes from is
    never looked at.  And a loop that panics takes the entries of all calls with
    it, so that whoever can make an assertion of the loop fail answers them too.

    `Move` lists what a segment can do to the stream requests, and `Inv` says
    that each entry of the map belongs to one call. -/

namespace OrcaNet

open Transition NetworkEventLoop

namespace AddressedPeer

/-! ## Section 1: System -/

/-- A call of `send_stream_request`. -/
structure Call where
  peer_id : PeerId
  request_id : String
  sender : Sender

structure State where
  loop : NetworkEventLoop
  phase : Phase
  /-- The calls whose command was taken. -/
  calls : List Call
  /-- The oneshot channels made so far. -/
  oneshots : List Sender
  /-- What was sent to oneshot channels, newest first. -/
  answers : List (Sender × Reply)

structure Label where
  wake : Wake
  alive : Sender → Bool

/-- The call that a step takes. -/
def issued : Wake → Option Call
  | .command (.SendInStream peer_id stream_req (some sender)) _ =>
    some ⟨peer_id, stream_req.request_id, sender⟩
  | _ => none

/-- The oneshot channel of a command other than `SendInStream`. -/
def other_oneshot : Wake → Option Sender
  | .command (.SendInStream _ _ _) _ => none
  | .command c _ => c.sender
  | _ => none

def new_oneshot (wake : Wake) : Option Sender :=
  ((issued wake).map Call.sender).or (other_oneshot wake)

/-- A oneshot channel is new, and so is the uuid of a call.  Nothing is said
    about what arrives from other peers. -/
def allowed (s : State) (wake : Wake) : Bool :=
  (new_oneshot wake).all (fun sender => decide (sender ∉ s.oneshots)) &&
    (issued wake).all fun c => decide (c.request_id ∉ s.calls.map Call.request_id)

def next (s : State) (l : Label) : Option State :=
  if allowed s l.wake then
    (resume l.alive s.loop s.phase l.wake).map fun o =>
      { loop := o.loop
        phase := o.phase
        calls := (issued l.wake).toList ++ s.calls
        oneshots := (new_oneshot l.wake).toList ++ s.oneshots
        answers := o.replies ++ s.answers }
  else none

def init : State := ⟨.new, .select, [], [], []⟩

def system : System State Label where
  init := fun s => s = init
  next := next

theorem next_cases {s s' : State} {l : Label} (h : next s l = some s') :
    ∃ o, allowed s l.wake = true ∧ resume l.alive s.loop s.phase l.wake = some o ∧
      s' = ⟨o.loop, o.phase, (issued l.wake).toList ++ s.calls,
        (new_oneshot l.wake).toList ++ s.oneshots, o.replies ++ s.answers⟩ := by
  unfold next at h
  split at h
  · rename_i hallowed
    obtain ⟨o, ho, rfl⟩ := Option.map_eq_some_iff.mp h
    exact ⟨o, hallowed, ho, rfl⟩
  · cases h

/-! ## Section 2: What a segment does to stream requests -/

/-- A call whose request is being written. -/
def Writes (ph : Phase) (request_id : String) (sender : Sender) : Prop :=
  (∃ peer_id data, ph = .open_stream peer_id ⟨request_id, data⟩ (some sender)) ∨
    ∃ peer_id data, ph = .write_all peer_id ⟨request_id, data⟩ (some sender)

/-- Everything that a segment can do to the stream requests. -/
inductive Move (s : NetworkEventLoop) (ph : Phase) (wake : Wake) (o : Outcome) : Prop where
  | keep (hkeeps : s.KeepsStreams o (other_oneshot wake))
  | register {request_id sender} (hwrites : Writes ph request_id sender)
      (hloop : o.loop = { s with
        pending_stream_requests := s.pending_stream_requests.insert request_id sender })
      (hreplies : o.replies = [])
      (hwake : wake = .written (.ok ())) : Move s ph wake o
  | complete {peer_id request_id response sender} (hph : ph = .read_to_end peer_id)
      (hwake : wake = .read (.ok ⟨request_id, .Response response⟩))
      (hpending : s.pending_stream_requests request_id = some sender)
      (hloop : o.loop = { s with
        pending_stream_requests := s.pending_stream_requests.remove request_id })
      (hreplies : ∀ p ∈ o.replies, p = (sender, .response (.ok response))) : Move s ph wake o

theorem resume_move {alive : Sender → Bool} {s : NetworkEventLoop} {ph : Phase} {wake : Wake}
    {o : Outcome} (h : resume alive s ph wake = some o) : Move s ph wake o := by
  unfold resume at h
  split at h
  case h_1 event =>
    obtain rfl := Option.some.inj h
    exact .keep (handle_event_keepsStreams alive s event)
  case h_2 c swarm =>
    obtain rfl := Option.some.inj h
    cases c with
    | SendInStream peer_id stream_req sender => exact .keep (keepsStreams_of_idle s _ _ _)
    | _ => exact .keep (handle_command_keepsStreams alive s swarm (by simp))
  case h_9 peer_id stream_req =>
    obtain rfl := Option.some.inj h
    obtain ⟨request_id, data⟩ := stream_req
    cases data with
    | Request request => exact .keep (keepsStreams_of_idle s _ _ _)
    | Response response =>
      simp only [handle_stream_req]
      cases hpending : s.pending_stream_requests request_id with
      | none => exact .keep (keepsStreams_of_idle s _ _ _)
      | some sender =>
        simp only
        split <;> exact .complete rfl rfl hpending rfl (by simp)
  case h_16 peer_id stream_req sender =>
    obtain rfl := Option.some.inj h
    cases sender with
    | none => exact .keep (keepsStreams_of_idle s _ _ _)
    | some sender => exact .register (Or.inr ⟨peer_id, _, rfl⟩) rfl rfl rfl
  case h_18 => cases h
  all_goals
    obtain rfl := Option.some.inj h
    exact .keep (keepsStreams_of_idle s _ _ _)

theorem not_writes_of_settled {ph : Phase} (h : ph.Settled) (request_id : String)
    (sender : Sender) : ¬ Writes ph request_id sender := by
  intro hwrites
  obtain rfl | ⟨message, rfl⟩ := h <;> simp [Writes] at hwrites

/-- A request that is being written was being written before, or its command was
    just taken. -/
theorem writes_of_resume {alive : Sender → Bool} {s : NetworkEventLoop} {ph : Phase} {wake : Wake}
    {o : Outcome} (h : resume alive s ph wake = some o) {request_id : String} {sender : Sender}
    (hwrites : Writes o.phase request_id sender) :
    Writes ph request_id sender ∨
      ∃ c, issued wake = some c ∧ c.request_id = request_id ∧ c.sender = sender := by
  unfold resume at h
  split at h
  case h_1 event =>
    obtain rfl := Option.some.inj h
    cases event with
    | Request peer request channel => simp [handle_event, Writes] at hwrites
    | _ => exact absurd hwrites (not_writes_of_settled (handle_event_settled alive s (by simp)) _ _)
  case h_2 c swarm =>
    obtain rfl := Option.some.inj h
    -- only `SendInStream` leads to a write, and then it is the command's own
    obtain hsettled | ⟨peer_id, stream_req, caller, rfl, hph⟩ :=
      handle_command_settled alive s swarm c
    · exact absurd hwrites (not_writes_of_settled hsettled _ _)
    · rw [hph] at hwrites
      simp only [Writes, Phase.open_stream.injEq, reduceCtorEq, exists_false, or_false] at hwrites
      obtain ⟨_, _, -, rfl, rfl⟩ := hwrites
      exact Or.inr ⟨_, rfl, rfl, rfl⟩
  case h_9 peer_id stream_req =>
    obtain rfl := Option.some.inj h
    simp only [handle_stream_req] at hwrites
    repeat' split at hwrites
    all_goals simp [Writes] at hwrites
  case h_14 peer_id stream_req caller =>
    obtain rfl := Option.some.inj h
    simp only [Writes, Phase.write_all.injEq, reduceCtorEq, exists_false, false_or] at hwrites
    obtain ⟨_, _, -, rfl, rfl⟩ := hwrites
    exact Or.inl (Or.inl ⟨_, _, rfl⟩)
  case h_18 => cases h
  all_goals
    obtain rfl := Option.some.inj h
    simp [Writes] at hwrites

/-! ## Section 3: The invariant -/

structure Inv (s : State) : Prop where
  ids : (s.calls.map Call.request_id).Nodup
  senders : (s.calls.map Call.sender).Nodup
  made : ∀ c ∈ s.calls, c.sender ∈ s.oneshots
  pending : ∀ request_id sender,
    s.loop.pending_stream_requests request_id = some sender ∨ Writes s.phase request_id sender →
      ∃ c ∈ s.calls, c.request_id = request_id ∧ c.sender = sender
  other : ∀ sender, s.loop.AwaitsOther sender →
    sender ∈ s.oneshots ∧ ∀ c ∈ s.calls, c.sender ≠ sender

theorem inv_init : Inv init := by
  refine ⟨List.nodup_nil, List.nodup_nil, by simp [init], ?_, ?_⟩
  · rintro request_id sender (h | ⟨_, _, h⟩ | ⟨_, _, h⟩) <;> cases h
  · intro sender h
    cases h <;> rename_i h <;> cases h

theorem issued_of_other {wake : Wake} {sender : Sender} (h : other_oneshot wake = some sender) :
    issued wake = none := by
  cases wake with
  | command c swarm =>
    cases c with
    | SendInStream peer_id stream_req caller => cases h
    | _ => rfl
  | _ => rfl

theorem allowed_issued {s : State} {wake : Wake} (h : allowed s wake = true) {c : Call}
    (hissued : issued wake = some c) :
    c.request_id ∉ s.calls.map Call.request_id ∧ c.sender ∉ s.oneshots := by
  unfold allowed new_oneshot at h
  simp only [hissued, Option.map_some, Option.some_or, Option.all_some, Bool.and_eq_true,
    decide_eq_true_eq] at h
  exact ⟨h.2, h.1⟩

theorem allowed_other {s : State} {wake : Wake} (h : allowed s wake = true) {sender : Sender}
    (hother : other_oneshot wake = some sender) : sender ∉ s.oneshots := by
  unfold allowed new_oneshot at h
  simp only [issued_of_other hother, hother, Option.map_none, Option.none_or, Option.all_some,
    Bool.and_eq_true, decide_eq_true_eq] at h
  exact h.1

/-- A response is sent to the caller found under its id, and to nobody else. -/
theorem Inv.eq_of_pending {s : State} (hinv : Inv s) {request_id : String} {sender : Sender}
    (h : s.loop.pending_stream_requests request_id = some sender) {c : Call} (hc : c ∈ s.calls)
    (heq : c.request_id = request_id ∨ c.sender = sender) :
    c.request_id = request_id ∧ c.sender = sender := by
  obtain ⟨c', hc', rfl, rfl⟩ := hinv.pending request_id sender (Or.inl h)
  have hsame : c = c' := by
    rcases heq with hid | hsender
    · exact List.inj_on_of_nodup_map hinv.ids hc hc' hid
    · exact List.inj_on_of_nodup_map hinv.senders hc hc' hsender
  rw [hsame]
  exact ⟨rfl, rfl⟩

/-- Nobody but the caller of a stream request waits on its channel. -/
theorem Move.awaits {s : NetworkEventLoop} {ph : Phase} {wake : Wake} {o : Outcome}
    (h : Move s ph wake o) {sender : Sender} (hawaits : o.loop.AwaitsOther sender) :
    s.AwaitsOther sender ∨ other_oneshot wake = some sender := by
  cases h with
  | keep hkeeps => exact hkeeps.awaits sender hawaits
  | register hwrites hloop hreplies hwake => exact Or.inl (hloop ▸ hawaits).of_streams
  | complete hph hwake hpending hloop hreplies => exact Or.inl (hloop ▸ hawaits).of_streams

/-- A caller in the map was there before, or its request was being written. -/
theorem Move.pending {s : NetworkEventLoop} {ph : Phase} {wake : Wake} {o : Outcome}
    (h : Move s ph wake o) {request_id : String} {sender : Sender}
    (hpending : o.loop.pending_stream_requests request_id = some sender) :
    s.pending_stream_requests request_id = some sender ∨ Writes ph request_id sender := by
  cases h with
  | keep hkeeps => exact Or.inl (hkeeps.streams ▸ hpending)
  | @register id caller hwrites hloop hreplies hwake =>
    have hinsert : s.pending_stream_requests.insert id caller request_id = some sender := by
      rw [← hpending, hloop]
    by_cases hid : request_id = id
    · subst hid
      rw [Pending.insert_self] at hinsert
      obtain rfl := Option.some.inj hinsert
      exact Or.inr hwrites
    · rw [Pending.insert_ne _ _ hid] at hinsert
      exact Or.inl hinsert
  | complete hph hwake hp hloop hreplies =>
    rw [hloop] at hpending
    exact Or.inl (Pending.of_remove hpending)

theorem inv_step {s s' : State} {l : Label} (hinv : Inv s) (h : next s l = some s') : Inv s' := by
  obtain ⟨o, hallowed, ho, rfl⟩ := next_cases h
  have hmove := resume_move ho
  -- a caller has its call among the old ones, or is the one whose command was taken
  have hpending : ∀ request_id sender,
      o.loop.pending_stream_requests request_id = some sender ∨ Writes o.phase request_id sender →
        (∃ c ∈ s.calls, c.request_id = request_id ∧ c.sender = sender) ∨
          ∃ c, issued l.wake = some c ∧ c.request_id = request_id ∧ c.sender = sender := by
    intro request_id sender hold
    rcases hold with hold | hold
    · exact Or.inl (hinv.pending request_id sender (hmove.pending hold))
    · rcases writes_of_resume ho hold with hold | hnew
      · exact Or.inl (hinv.pending request_id sender (Or.inr hold))
      · exact Or.inr hnew
  cases hissued : issued l.wake with
  | none =>
    refine ⟨hinv.ids, hinv.senders, ?_, ?_, ?_⟩
    · intro c hc
      exact List.mem_append_right _ (hinv.made c hc)
    · intro request_id sender hold
      simpa [hissued] using hpending request_id sender hold
    · intro sender hawaits
      rcases hmove.awaits hawaits with hold | hnew
      · exact ⟨List.mem_append_right _ (hinv.other sender hold).1, (hinv.other sender hold).2⟩
      · refine ⟨by simp [new_oneshot, hissued, hnew], fun c hc heq => ?_⟩
        exact allowed_other hallowed hnew (heq ▸ hinv.made c hc)
  | some c =>
    obtain ⟨hid, hsender⟩ := allowed_issued hallowed hissued
    have hnew : (new_oneshot l.wake).toList = [c.sender] := by simp [new_oneshot, hissued]
    have hother : other_oneshot l.wake = none := by
      by_contra hne
      obtain ⟨sender, hsome⟩ := Option.ne_none_iff_exists'.mp hne
      rw [issued_of_other hsome] at hissued
      cases hissued
    refine ⟨?_, ?_, ?_, ?_, ?_⟩
    · exact List.nodup_cons.mpr ⟨hid, hinv.ids⟩
    · refine List.nodup_cons.mpr ⟨fun hmem => ?_, hinv.senders⟩
      obtain ⟨c', hc', heq⟩ := List.mem_map.mp hmem
      exact hsender (heq ▸ hinv.made c' hc')
    · intro c' hc'
      rw [hnew]
      rcases List.mem_cons.mp hc' with rfl | hc'
      · exact List.mem_cons_self
      · exact List.mem_cons_of_mem _ (hinv.made c' hc')
    · intro request_id sender hold
      rcases hpending request_id sender hold with ⟨c', hc', hspec⟩ | ⟨c', hc', hspec⟩
      · exact ⟨c', List.mem_cons_of_mem _ hc', hspec⟩
      · obtain rfl := Option.some.inj (hissued.symm.trans hc')
        exact ⟨c, List.mem_cons_self, hspec⟩
    · intro sender hawaits
      rcases hmove.awaits hawaits with hold | hnew'
      · obtain ⟨hmade, hne⟩ := hinv.other sender hold
        refine ⟨List.mem_append_right _ hmade, fun c' hc' heq => ?_⟩
        rcases List.mem_cons.mp hc' with rfl | hc'
        · exact hsender (heq ▸ hmade)
        · exact hne c' hc' heq
      · rw [hother] at hnew'
        cases hnew'

/-! ## Section 4: Who answers -/

/-- The loop owns its maps: it neither returned nor panicked. -/
def Runs (ph : Phase) : Prop := ph ≠ .returned ∧ ∀ message, ph ≠ .panicked message

/-- The entry of the call is in the map. -/
def Waits (s : State) (c : Call) : Prop :=
  s.loop.pending_stream_requests c.request_id = some c.sender

/-- A step in which the call is not answered: its entry stays in the map of a
    loop that runs, and nothing is sent to its channel. -/
structure Undisturbed (s s' : State) (c : Call) : Prop where
  pending : Waits s c → Waits s' c ∧ Runs s'.phase
  answers : ∀ reply, (c.sender, reply) ∈ s'.answers → (c.sender, reply) ∈ s.answers

/-- A response to the call is read from a stream of the peer it was made to. -/
def FromPeer (s : State) (l : Label) (c : Call) : Prop :=
  s.phase = .read_to_end c.peer_id ∧
    ∃ response, l.wake = .read (.ok ⟨c.request_id, .Response response⟩)

/-- Only the peer that a call was made to answers it. -/
def AnsweredByPeer (s : State) (l : Label) (s' : State) : Prop :=
  ∀ c ∈ s.calls, FromPeer s l c ∨ Undisturbed s s' c

/-- A response with the id of a waiting call comes from the peer of the call. -/
def FromAddressee (s : State) (l : Label) : Prop :=
  ∀ peer_id request_id response, s.phase = .read_to_end peer_id →
    l.wake = .read (.ok ⟨request_id, .Response response⟩) →
    ∀ c ∈ s.calls, c.request_id = request_id → Waits s c → c.peer_id = peer_id

/-- If another call waits than one that its peer answers, the loop goes on: what
    it asserts in the step holds, and there are more commands. -/
def GoesOn (s : State) (l : Label) : Prop :=
  (∃ c ∈ s.calls, Waits s c ∧ ¬ FromPeer s l c) →
    Asserts l.alive s.loop l.wake ∧ l.wake ≠ .commands_closed

theorem runs_iff {alive : Sender → Bool} {s : NetworkEventLoop} {ph : Phase} {wake : Wake}
    {o : Outcome} (h : resume alive s ph wake = some o) :
    Runs o.phase ↔ Asserts alive s wake ∧ wake ≠ .commands_closed := by
  have hpanics := resume_panics_iff alive h
  have hreturns := resume_returns_iff alive h
  unfold Runs
  rw [Ne, hreturns, ← not_exists, hpanics, not_not, and_comm]

/-- Any segment but the reading of a response keeps the entries and sends the
    calls nothing. -/
theorem keeps_of_move {s s' : State} {l : Label} {o : Outcome} (hinv : Inv s)
    (hallowed : allowed s l.wake = true) (hmove : Move s.loop s.phase l.wake o)
    (hs' : s' = ⟨o.loop, o.phase, (issued l.wake).toList ++ s.calls,
      (new_oneshot l.wake).toList ++ s.oneshots, o.replies ++ s.answers⟩)
    {c : Call} (hc : c ∈ s.calls) (hno : ∀ response,
      l.wake = .read (.ok ⟨c.request_id, .Response response⟩) → ¬ Waits s c) :
    (Waits s c → Waits s' c) ∧
      ∀ reply, (c.sender, reply) ∈ s'.answers → (c.sender, reply) ∈ s.answers := by
  subst hs'
  cases hmove with
  | keep hkeeps =>
    -- the entries stay; what is sent goes to callers of other commands
    refine ⟨fun h => (congrFun hkeeps.streams _).trans h, fun reply hmem => ?_⟩
    rcases List.mem_append.mp hmem with hnew | hold
    · -- the channels of other commands are not those of calls
      rcases hkeeps.replies _ _ hnew with hawaits | hother
      · exact absurd rfl ((hinv.other _ hawaits).2 c hc)
      · exact absurd (hinv.made c hc) (allowed_other hallowed hother)
    · exact hold
  | @register request_id sender hwrites hloop hreplies hwake =>
    refine ⟨fun h => ?_, fun reply hmem => by simpa [hreplies] using hmem⟩
    show o.loop.pending_stream_requests c.request_id = some c.sender
    rw [hloop]
    show s.loop.pending_stream_requests.insert request_id sender c.request_id = some c.sender
    by_cases hid : c.request_id = request_id
    · -- the entry was there already
      obtain ⟨c', hc', hid', hsender⟩ := hinv.pending request_id sender (Or.inr hwrites)
      obtain rfl : c = c' := List.inj_on_of_nodup_map hinv.ids hc hc' (hid.trans hid'.symm)
      rw [hid, Pending.insert_self, hsender]
    · rwa [Pending.insert_ne _ _ hid]
  | @complete peer_id request_id response sender hph hwake hpending hloop hreplies =>
    -- the completed entry is another call's, or this is the reading excluded by `hno`
    have hne : ¬ (c.request_id = request_id ∨ c.sender = sender) := by
      intro heq
      obtain ⟨rfl, rfl⟩ := hinv.eq_of_pending hpending hc heq
      exact hno response hwake hpending
    rw [not_or] at hne
    refine ⟨fun h => ?_, fun reply hmem => ?_⟩
    · show o.loop.pending_stream_requests c.request_id = some c.sender
      rw [hloop]
      exact (Pending.remove_ne _ hne.1).trans h
    · rcases List.mem_append.mp hmem with hnew | hold
      · exact absurd (congrArg Prod.fst (hreplies _ hnew)) hne.2
      · exact hold

/-- Reading a response takes the entry of the id away. -/
theorem pending_of_read {s s' : State} {l : Label} {peer_id : PeerId} {request_id : String}
    {response : OrcaNetResponse F64} (h : next s l = some s') (hph : s.phase = .read_to_end peer_id)
    (hwake : l.wake = .read (.ok ⟨request_id, .Response response⟩)) :
    s'.loop.pending_stream_requests request_id = none := by
  obtain ⟨o, -, ho, rfl⟩ := next_cases h
  rw [hph, hwake] at ho
  obtain rfl := Option.some.inj ho
  simp only [handle_stream_req]
  split
  · split <;> exact Pending.remove_self _ _
  · assumption

theorem answeredByPeer_iff {s s' : State} {l : Label} (hinv : Inv s) (h : next s l = some s') :
    AnsweredByPeer s l s' ↔ FromAddressee s l ∧ GoesOn s l := by
  obtain ⟨o, hallowed, ho, hs'⟩ := next_cases h
  have hruns : Runs s'.phase ↔ Asserts l.alive s.loop l.wake ∧ l.wake ≠ .commands_closed := by
    rw [hs']
    exact runs_iff ho
  constructor
  · intro hgood
    refine ⟨fun peer_id request_id response hph hwake c hc hid hwaits => ?_,
      fun ⟨c, hc, hwaits, hother⟩ => ?_⟩
    · subst hid
      rcases hgood c hc with ⟨hpeer, -⟩ | hundisturbed
      · exact Phase.read_to_end.inj (hpeer.symm.trans hph)
      · have hstays := (hundisturbed.pending hwaits).1
        rw [Waits, pending_of_read h hph hwake] at hstays
        cases hstays
    · have hundisturbed := (hgood c hc).resolve_left hother
      exact hruns.mp (hundisturbed.pending hwaits).2
  · intro ⟨haddressee, hgoes⟩ c hc
    by_cases hpeer : FromPeer s l c
    · exact Or.inl hpeer
    · -- a response with the id of the call would come from its peer
      have hno : ∀ response, l.wake = .read (.ok ⟨c.request_id, .Response response⟩) →
          ¬ Waits s c := by
        intro response hwake hwaits
        obtain ⟨peer_id, hph⟩ : ∃ peer_id, s.phase = .read_to_end peer_id := by
          rw [hwake] at ho
          obtain ⟨peer_id, hph, -⟩ := resume_read l.alive ho
          exact ⟨peer_id, hph⟩
        have heq := haddressee peer_id _ response hph hwake c hc rfl hwaits
        exact hpeer ⟨heq ▸ hph, response, hwake⟩
      obtain ⟨hpending, hanswers⟩ := keeps_of_move hinv hallowed (resume_move ho) hs' hc hno
      exact Or.inr ⟨fun hwaits => ⟨hpending hwaits, hruns.mpr (hgoes ⟨c, hc, hwaits, hpeer⟩)⟩,
        hanswers⟩

/-- **Addressed peer.**  In a run among arbitrary peers, every call is answered
    by the peer that it was made to, and left alone by all others, exactly if
    no other peer sends a response with the id of a call that waits, and the
    loop goes on while a call waits for its peer. -/
theorem answeredByPeer_iff_fromAddressee (ls : List Label) :
    system.AllSteps AnsweredByPeer init ls ↔
      system.AllSteps (fun s l _ => FromAddressee s l ∧ GoesOn s l) init ls :=
  system.allSteps_iff (fun _ _ _ => answeredByPeer_iff) (fun _ _ _ hinv _ => inv_step hinv) ls
    inv_init

section samples

def samplePeer : PeerId := ⟨"P"⟩

/-- A peer that was never asked. -/
def sampleIntruder : PeerId := ⟨"Q"⟩

/-- A request to `samplePeer` is written, and another peer opens a stream. -/
def sampleWakes : List Wake :=
  [.command (.SendInStream samplePeer ⟨"uuid", .Request .HTTPProxyMetadataRequest⟩ (some 7))
      sampleSwarm,
    .opened (.ok ()), .written (.ok ()), .closed, .incoming sampleIntruder]

def sampleLabels : List Label := sampleWakes.map fun wake => ⟨wake, fun _ => true⟩

/-- The response of the other peer. -/
def sampleResponse : Label :=
  ⟨.read (.ok ⟨"uuid", .Response .NullResponse⟩), fun _ => true⟩

/-- The response of another peer is given to the caller. -/
theorem not_answeredByPeer_sampleResponse :
    (∃ s, system.run init (sampleLabels ++ [sampleResponse]) = some s ∧
      s.answers = [(7, .response (.ok .NullResponse))]) ∧
    ¬ system.AllSteps AnsweredByPeer init (sampleLabels ++ [sampleResponse]) := by
  refine ⟨⟨_, rfl, rfl⟩, fun hall => ?_⟩
  obtain ⟨t, t', hrun, hnext, hcalls, hph, hpending, hpending'⟩ :
      ∃ t t', system.run init sampleLabels = some t ∧ system.next t sampleResponse = some t' ∧
        t.calls = [⟨samplePeer, "uuid", 7⟩] ∧ t.phase = .read_to_end sampleIntruder ∧
        t.loop.pending_stream_requests "uuid" = some 7 ∧
        t'.loop.pending_stream_requests "uuid" = none := ⟨_, _, rfl, rfl, rfl, rfl, rfl, rfl⟩
  have hgood : AnsweredByPeer t sampleResponse t' := hall.last hrun hnext
  rcases hgood ⟨samplePeer, "uuid", 7⟩ (by simp [hcalls]) with ⟨hpeer, -⟩ | hundisturbed
  · rw [hph] at hpeer
    exact absurd (Phase.read_to_end.inj hpeer) (by decide)
  · have hstays := (hundisturbed.pending hpending).1
    rw [Waits, hpending'] at hstays
    cases hstays

end samples

end AddressedPeer

end OrcaNet
