import OrcaNet.Network.CommandSenders

/-! # Provider lookups

    What `get_providers` returns for the events of its query, among any other
    events, commands and streams.  Each answering peer is reported by an event
    of its own; the loop hands the first report to the caller and removes its
    entry, so later reports find nobody.

    `Touch` lists what a segment of the loop can do to the entries of the maps. -/

namespace OrcaNet

open Transition NetworkEventLoop ReplyCorrelation CommandSenders

/-- The command of `get_providers`, which waits on the channel of `sender`. -/
def NetworkClient.get_providers (key : String) (sender : Sender) : NetworkCommand :=
  .GetProviders key sender

/-- `receiver.await`: the set that was sent to the channel. -/
def NetworkClient.await_providers : List Reply → Option (Finset PeerId)
  | .providers providers :: _ => some providers
  | _ => none

namespace ProviderLookup

/-! ## Section 1: What a segment does to the entries -/

/-- The sender that a wake-up brings along. -/
def wake_sender : Wake → Option Sender
  | .command c _ => c.sender
  | _ => none

/-- The sender that a suspended `SendInStream` holds. -/
def phase_sender : Phase → Option Sender
  | .open_stream _ _ sender => sender
  | .write_all _ _ sender => sender
  | _ => none

/-- Everything that a segment can do to the entries and send to callers. -/
inductive Touch (s : NetworkEventLoop) (ph : Phase) (wake : Wake) (o : Outcome) : Prop where
  /-- A command may answer its own caller. -/
  | keep (hentries : entry o.loop = entry s)
      (hreplies : ∀ x reply, (x, reply) ∈ o.replies → wake_sender wake = some x)
  /-- An event takes the entry of its operation and answers the caller. -/
  | take (slot : Slot) (x : Sender) (hentry : entry s slot = some x)
      (hslot : ∀ k, slot = .operation k → ∃ event, wake = .swarm_event event ∧
        event_key event = some k)
      (hentries : entry o.loop = Correlator.set (entry s) slot none)
      (hreplies : ∀ y reply, (y, reply) ∈ o.replies → y = x)
  | put (slot : Slot) (x : Sender)
      (hsender : wake_sender wake = some x ∨ phase_sender ph = some x)
      (hslot : ∀ k, slot = .operation k → ∃ c swarm, wake = .command c swarm ∧
        started swarm c = some (k, x))
      (hentries : entry o.loop = Correlator.set (entry s) slot (some x))
      (hreplies : o.replies = [])

section segments
variable (alive : Sender → Bool) (s : NetworkEventLoop) (ph : Phase)

/-- A segment without answers that leaves the maps alone. -/
theorem Touch.idle (wake : Wake) (ph' : Phase) (calls : List SwarmCall) :
    Touch s ph wake ⟨ph', s, [], calls⟩ :=
  .keep rfl (by simp)

theorem mem_send {x y : Sender} {reply reply' : Reply}
    (h : (y, reply') ∈ send alive x reply) : y = x := by
  unfold send at h
  split at h
  · exact (Prod.mk.inj (List.mem_singleton.mp h)).1
  · cases h

/-- An event that removes the entry of its operation and answers only the caller
    found there. -/
theorem touch_answer {k : Key} {event : SwarmEvent} {x : Sender} {o : Outcome}
    (hentry : lookup s k = some x) (hkey : event_key event = some k)
    (hloop : o.loop = remove_at s k) (hreplies : ∀ y reply, (y, reply) ∈ o.replies → y = x) :
    Touch s ph (.swarm_event event) o := by
  refine .take (.operation k) x hentry ?_ ?_ hreplies
  · intro k' hk'
    obtain rfl : k = k' := Slot.operation.inj hk'
    exact ⟨event, rfl, hkey⟩
  · rw [hloop, entry_remove_at]

theorem touch_send_expect {k : Key} {event : SwarmEvent} {x : Sender} (reply : Reply)
    (hentry : lookup s k = some x) (hkey : event_key event = some k) :
    Touch s ph (.swarm_event event) (send_expect alive (remove_at s k) x reply) := by
  refine touch_answer s ph hentry hkey (send_expect_loop alive _ x reply) ?_
  intro y reply' hmem
  rw [send_expect_replies] at hmem
  exact mem_send alive hmem

theorem touch_send {k : Key} {event : SwarmEvent} {x : Sender} (reply : Reply)
    (hentry : lookup s k = some x) (hkey : event_key event = some k) :
    Touch s ph (.swarm_event event) ⟨.select, remove_at s k, send alive x reply, []⟩ := by
  refine touch_answer s ph hentry hkey rfl ?_
  intro y reply' hmem
  exact mem_send alive hmem

theorem touch_kademlia_event (id : kad.QueryId) (result : kad.QueryResult) :
    Touch s ph (.swarm_event (.OutboundQueryProgressed id result))
      (handle_kademlia_events alive s id result) := by
  fun_cases handle_kademlia_events alive s id result
  case case1 sender h =>
    exact touch_send_expect (k := .query .GetProviders id) alive s ph _ h rfl
  case case3 sender h =>
    exact touch_send_expect (k := .query .GetProviders id) alive s ph _ h rfl
  case case5 sender h =>
    exact touch_send_expect (k := .query .GetValue id) alive s ph _ h rfl
  case case7 sender h =>
    exact touch_send_expect (k := .query .GetValue id) alive s ph _ h rfl
  case case10 sender h htext =>
    exact touch_send_expect (k := .query .PutKV id) alive s ph _ h rfl
  case case12 sender h =>
    exact touch_send_expect (k := .query .PutKV id) alive s ph _ h rfl
  case case15 sender h htext =>
    exact touch_send (k := .query .StartProviding id) alive s ph _ h rfl
  all_goals exact Touch.idle s ph _ _ _

theorem touch_complete_dial (peer_id : PeerId) (result : Except String Unit) {event : SwarmEvent} :
    Touch s ph (.swarm_event event) (complete_dial alive s peer_id result) := by
  unfold complete_dial
  split
  · rename_i sender hentry
    refine .take (.dial peer_id) sender hentry ?_ (entry_set_dial s peer_id none) ?_
    · intro k hk
      cases hk
    · intro y reply hmem
      exact mem_send alive hmem
  · exact .idle s ph _ _ _

theorem touch_event (event : SwarmEvent) :
    Touch s ph (.swarm_event event) (handle_event alive s event) := by
  have hrequest : ∀ request_id result, event_key event = some (.request request_id) →
      Touch s ph (.swarm_event event) (complete_request alive s request_id result) := by
    intro request_id result hkey
    unfold complete_request
    split
    · rename_i sender hentry
      exact touch_send (k := .request request_id) alive s ph _ hentry hkey
    · exact .idle s ph _ _ _
  cases event with
  | OutboundQueryProgressed id result => exact touch_kademlia_event alive s ph id result
  | Request peer request channel => exact .idle s ph _ _ _
  | Response request_id response => exact hrequest request_id _ rfl
  | OutboundFailure request_id error => exact hrequest request_id _ rfl
  | ConnectionEstablished peer_id is_dialer =>
    cases is_dialer with
    | true => exact touch_complete_dial alive s ph peer_id _
    | false => exact .idle s ph _ _ _
  | OutgoingConnectionError peer_id error =>
    cases peer_id with
    | some peer_id => exact touch_complete_dial alive s ph peer_id _
    | none => exact .idle s ph _ _ _
  | other => exact .idle s ph _ _ _

theorem touch_command (swarm : Swarm) (c : NetworkCommand) :
    Touch s ph (.command c swarm) (handle_command alive s swarm c) := by
  cases hcaller : caller c with
  | some sender =>
    have hsender : c.sender = some sender := by
      cases c <;> first | exact hcaller | cases hcaller
    -- a command that registers its caller does not look whether the caller is there
    have halive : handle_command alive s swarm c = handle_command (fun _ => true) s swarm c := by
      cases c <;> first | rfl | cases hcaller
    rw [halive]
    rcases handle_command_of_caller s swarm (c := c) (by simp [hcaller]) with
      ⟨k, x, hstarted, hx, -, hloop, hreplies⟩ | ⟨-, hloop, hreplies, -⟩
    · obtain rfl := Option.some.inj (hx.symm.trans hcaller)
      refine .put (.operation k) x (Or.inl hsender) ?_ ?_ hreplies
      · intro k' hk'
        obtain rfl : k = k' := Slot.operation.inj hk'
        exact ⟨c, swarm, rfl, hstarted⟩
      · rw [hloop, entry_insert_at]
    · -- libp2p refused, and the loop panicked with the caller's sender
      refine .keep (by rw [hloop]) ?_
      rw [hreplies]
      simp
  | none =>
    cases c with
    | StartListening addr sender =>
      refine .keep rfl ?_
      intro x reply hmem
      exact congrArg some (mem_send alive hmem).symm
    | Dial peer_id peer_addr sender =>
      simp only [handle_command]
      split
      · split
        · refine .put (.dial peer_id) sender (Or.inl rfl) ?_ (entry_set_dial s _ _) rfl
          intro k hk
          cases hk
        · refine .keep rfl ?_
          intro x reply hmem
          exact congrArg some (mem_send alive hmem).symm
      · exact .idle s ph _ _ _
    | StopProviding key => exact .idle s ph _ _ _
    | Respond response channel =>
      simp only [handle_command]
      split <;> exact .idle s ph _ _ _
    | SendInStream peer_id stream_req sender => exact .idle s ph _ _ _
    | _ => cases hcaller

/-- Every segment of the loop. -/
theorem touch_resume {wake : Wake} {o : Outcome} (h : resume alive s ph wake = some o) :
    Touch s ph wake o := by
  fun_cases resume alive s ph wake
  case case1 event =>
    cases h
    exact touch_event alive s _ event
  case case2 c swarm =>
    cases h
    exact touch_command alive s _ swarm c
  case case9 peer_id stream_req =>
    cases h
    unfold handle_stream_req
    split
    · exact .idle s _ _ _ _
    · split
      · -- the response of a stream request: its entry is taken and its caller answered
        rename_i sender hentry
        refine .take (.stream_request stream_req.request_id) sender hentry ?_ ?_ ?_
        · intro k hk
          cases hk
        · split <;> exact entry_set_stream_request s _ none
        · intro y reply hmem
          split at hmem
          · exact (Prod.mk.inj (List.mem_singleton.mp hmem)).1
          · cases hmem
      · exact .idle s _ _ _ _
  case case16 peer_id stream_req sender =>
    cases h
    cases sender with
    | some sender =>
      -- the request was written, and its caller waits from now on
      refine .put (.stream_request stream_req.request_id) sender (Or.inr rfl) ?_
        (entry_set_stream_request s _ _) rfl
      intro k hk
      cases hk
    | none => exact .idle s _ _ _ _
  case case18 => simp_all [resume]
  all_goals cases h; exact .idle s _ _ _ _

theorem phase_sender_of_settled {ph : Phase} (h : ph.Settled) : phase_sender ph = none := by
  rcases h with rfl | ⟨message, rfl⟩ <;> rfl

/-- A suspended `SendInStream` holds the sender of its command. -/
theorem phase_sender_resume {wake : Wake} {o : Outcome} (h : resume alive s ph wake = some o)
    {x : Sender} (hx : phase_sender o.phase = some x) :
    wake_sender wake = some x ∨ phase_sender ph = some x := by
  fun_cases resume alive s ph wake
  case case1 event =>
    cases h
    by_cases hrequest : ∃ peer request channel, event = .Request peer request channel
    · obtain ⟨peer, request, channel, rfl⟩ := hrequest
      cases hx
    · simp only [not_exists] at hrequest
      rw [phase_sender_of_settled (handle_event_settled alive s hrequest)] at hx
      cases hx
  case case2 c swarm =>
    cases h
    rcases handle_command_settled alive s swarm c with hsettled | ⟨_, _, sender, rfl, hphase⟩
    · rw [phase_sender_of_settled hsettled] at hx
      cases hx
    · rw [hphase] at hx
      exact Or.inl hx
  case case9 peer_id stream_req =>
    cases h
    unfold handle_stream_req at hx
    split at hx
    · cases hx
    · split at hx
      · split at hx <;> cases hx
      · cases hx
  case case14 peer_id stream_req sender =>
    cases h
    exact Or.inr hx
  case case18 => simp_all [resume]
  all_goals cases h; cases hx

end segments

/-! ## Section 2: System -/

/-- What an event of the query reports. -/
abbrev Report : Type := Except String kad.GetProvidersOk

structure State where
  loop : NetworkEventLoop
  phase : Phase
  /-- The reports of the query, oldest first. -/
  reports : List Report
  /-- What was sent to the channel of `get_providers`, oldest first. -/
  received : List Reply

section lookups
variable (alive : Sender → Bool) (id : kad.QueryId) (caller : Sender)

/-- The entry of the lookup. -/
def own : Slot := .operation (.query .GetProviders id)

def new_reports : Wake → List Report
  | .swarm_event (.OutboundQueryProgressed i (.GetProviders result)) =>
    if i = id then [result] else []
  | _ => []

/-- Other commands have channels and queries of their own. -/
def allowed : Wake → Bool
  | .command c swarm =>
    decide (c.sender ≠ some caller) &&
      decide ((started swarm c).map Prod.fst ≠ some (.query .GetProviders id))
  | _ => true

def next (s : State) (wake : Wake) : Option State :=
  if allowed id caller wake then
    (resume alive s.loop s.phase wake).map fun o =>
      { loop := o.loop
        phase := o.phase
        reports := s.reports ++ new_reports id wake
        received := s.received ++ (o.replies.filter fun r => r.1 = caller).map Prod.snd }
  else none

/-- The loop took the command of `get_providers`; the sender of its channel was
    nowhere before. -/
inductive Asked : State → Prop where
  | intro (s : NetworkEventLoop) (swarm : Swarm) (key : String) (hid : swarm.get_providers = id)
      (hmoved : ∀ slot, entry s slot ≠ some caller) :
      Asked {
        loop := (handle_command alive s swarm (NetworkClient.get_providers key caller)).loop
        phase := .select
        reports := []
        received := [] }

def system : System State Wake where
  init := Asked alive id caller
  next := next alive id caller

/-! ## Section 3: The first report is the answer -/

/-- The set that a report is answered with; the end of a query is not. -/
def answer_of : Report → Option (Finset PeerId)
  | .ok (.FoundProviders providers) => some providers
  | .error _ => some ∅
  | .ok .FinishedWithNoAdditionalRecord => none

/-- The caller waits under its query until the first report that is answered. -/
structure Awaiting (s : State) : Prop where
  elsewhere : ∀ slot, slot ≠ own id → entry s.loop slot ≠ some caller
  phase : phase_sender s.phase ≠ some caller
  waiting : s.reports.findSome? answer_of = none →
    entry s.loop (own id) = some caller ∧ s.received = []
  answered : ∀ providers, s.reports.findSome? answer_of = some providers →
    entry s.loop (own id) = none ∧ s.received = [.providers providers]

variable {alive id caller}

/-- A change to another entry, about another caller. -/
theorem Awaiting.frame {s : State} (hinv : Awaiting id caller s) {s' : NetworkEventLoop}
    {slot : Slot} {x : Option Sender} (hne : slot ≠ own id) (hx : x ≠ some caller)
    (hentries : entry s' = Correlator.set (entry s.loop) slot x) :
    entry s' (own id) = entry s.loop (own id) ∧
      ∀ slot', slot' ≠ own id → entry s' slot' ≠ some caller := by
  rw [hentries]
  refine ⟨Correlator.set_ne _ _ hne.symm, fun slot' hslot' => ?_⟩
  by_cases heq : slot' = slot
  · rw [heq, Correlator.set_self]
    exact hx
  · rw [Correlator.set_ne _ _ heq]
    exact hinv.elsewhere slot' hslot'

theorem awaiting_init {s : State} (h : Asked alive id caller s) : Awaiting id caller s := by
  obtain ⟨s, swarm, key, rfl, hmoved⟩ := h
  have hentries : entry (handle_command alive s swarm (NetworkClient.get_providers key caller)).loop
      = Correlator.set (entry s) (own swarm.get_providers) (some caller) :=
    entry_insert_at s caller (.query .GetProviders swarm.get_providers)
  refine ⟨?_, by simp [phase_sender], fun _ => ⟨?_, rfl⟩, by simp⟩
  · intro slot hslot
    simp only [hentries, Correlator.set_ne _ _ hslot]
    exact hmoved slot
  · simp only [hentries, Correlator.set_self]

theorem entry_remove_own (s : NetworkEventLoop) :
    entry (remove_at s (.query .GetProviders id)) = Correlator.set (entry s) (own id) none :=
  entry_remove_at s _

theorem next_cases {s s' : State} {wake : Wake} (h : next alive id caller s wake = some s') :
    ∃ o, allowed id caller wake = true ∧ resume alive s.loop s.phase wake = some o ∧
      s' = ⟨o.loop, o.phase, s.reports ++ new_reports id wake,
        s.received ++ (o.replies.filter fun r => r.1 = caller).map Prod.snd⟩ := by
  unfold next at h
  split at h
  · rename_i hallowed
    obtain ⟨o, ho, rfl⟩ := Option.map_eq_some_iff.mp h
    exact ⟨o, hallowed, ho, rfl⟩
  · cases h

/-- A report that is answered goes to the caller that waits. -/
theorem handle_report {s : NetworkEventLoop} {result : Report} {providers : Finset PeerId}
    (halive : alive caller = true) (hentry : entry s (own id) = some caller)
    (hanswer : answer_of result = some providers) :
    handle_kademlia_events alive s id (.GetProviders result) =
      ⟨.select, remove_at s (.query .GetProviders id), [(caller, .providers providers)], []⟩ := by
  have hpending : s.pending_get_providers id = some caller := hentry
  cases result with
  | error e =>
    obtain rfl := Option.some.inj hanswer
    simp only [handle_kademlia_events, hpending, send_expect, halive]
    rfl
  | ok result =>
    cases result with
    | FoundProviders found =>
      obtain rfl := Option.some.inj hanswer
      simp only [handle_kademlia_events, hpending, send_expect, halive]
      rfl
    | FinishedWithNoAdditionalRecord => cases hanswer

/-- Without a caller, or at the end of the query, nothing happens. -/
theorem handle_report_idle {s : NetworkEventLoop} {result : Report}
    (h : entry s (own id) = none ∨ answer_of result = none) :
    handle_kademlia_events alive s id (.GetProviders result) = ⟨.select, s, [], []⟩ := by
  rcases h with hentry | hanswer
  · have hpending : s.pending_get_providers id = none := hentry
    cases result with
    | error e => simp only [handle_kademlia_events, hpending]
    | ok result => cases result <;> simp only [handle_kademlia_events, hpending]
  · cases result with
    | error e => cases hanswer
    | ok result =>
      cases result with
      | FoundProviders found => cases hanswer
      | FinishedWithNoAdditionalRecord => rfl

/-- An event of the query, by what it reports. -/
theorem awaiting_report {s s' : State} {result : Report} (halive : alive caller = true)
    (hinv : Awaiting id caller s)
    (h : next alive id caller s
      (.swarm_event (.OutboundQueryProgressed id (.GetProviders result))) = some s') :
    Awaiting id caller s' := by
  obtain ⟨o, -, ho, rfl⟩ := next_cases h
  obtain ⟨-, rfl⟩ := resume_swarm_event _ ho
  have hreports : new_reports id
      (.swarm_event (.OutboundQueryProgressed id (.GetProviders result))) = [result] := if_pos rfl
  simp only [handle_event, hreports]
  -- answered already, or this report answers, or it does not
  cases hfirst : s.reports.findSome? answer_of with
  | some providers =>
    obtain ⟨hentry, hreceived⟩ := hinv.answered providers hfirst
    rw [handle_report_idle (Or.inl hentry)]
    refine ⟨hinv.elsewhere, by simp [phase_sender], ?_, ?_⟩
    · simp [List.findSome?_append, hfirst]
    · intro providers' hproviders'
      rw [List.findSome?_append, hfirst] at hproviders'
      obtain rfl := Option.some.inj hproviders'
      exact ⟨hentry, by simpa using hreceived⟩
  | none =>
    obtain ⟨hentry, hreceived⟩ := hinv.waiting hfirst
    cases hanswer : answer_of result with
    | some providers =>
      rw [handle_report halive hentry hanswer]
      refine ⟨?_, by simp [phase_sender], ?_, ?_⟩
      · intro slot hslot
        rw [entry_remove_own, Correlator.set_ne _ _ hslot]
        exact hinv.elsewhere slot hslot
      · simp [List.findSome?_append, hfirst, hanswer]
      · intro providers' hproviders'
        simp only [List.findSome?_append, hfirst, Option.none_or, List.findSome?_cons,
          hanswer] at hproviders'
        obtain rfl := Option.some.inj hproviders'
        refine ⟨?_, by simp [hreceived]⟩
        rw [entry_remove_own, Correlator.set_self]
    | none =>
      rw [handle_report_idle (Or.inr hanswer)]
      refine ⟨hinv.elsewhere, by simp [phase_sender],
        fun _ => ⟨hentry, by simpa using hreceived⟩, ?_⟩
      simp [List.findSome?_append, hfirst, hanswer]

/-- The events of a lookup report on it. -/
theorem new_reports_of_key {event : SwarmEvent}
    (h : event_key event = some (.query .GetProviders id)) :
    new_reports id (.swarm_event event) ≠ [] := by
  fun_cases event_key event <;> simp_all [new_reports, event_key]

/-- Any other step leaves the caller where it is. -/
theorem awaiting_other {s s' : State} {wake : Wake} (hinv : Awaiting id caller s)
    (hother : new_reports id wake = []) (h : next alive id caller s wake = some s') :
    Awaiting id caller s' := by
  obtain ⟨o, hallowed, ho, rfl⟩ := next_cases h
  have hsender : wake_sender wake ≠ some caller := by
    cases wake with
    | command c swarm =>
      simp only [allowed, Bool.and_eq_true, decide_eq_true_eq] at hallowed
      exact hallowed.1
    | _ => simp [wake_sender]
  have hphase : phase_sender o.phase ≠ some caller := by
    intro hx
    rcases phase_sender_resume alive s.loop s.phase ho hx with hwake | hheld
    · exact hsender hwake
    · exact hinv.phase hheld
  -- the step is about some other entry, and about some other caller
  have hframe : entry o.loop (own id) = entry s.loop (own id) ∧
      (∀ slot, slot ≠ own id → entry o.loop slot ≠ some caller) ∧
      ∀ x reply, (x, reply) ∈ o.replies → x ≠ caller := by
    cases touch_resume alive s.loop s.phase ho with
    | keep hentries hreplies =>
      rw [hentries]
      refine ⟨rfl, hinv.elsewhere, ?_⟩
      rintro x reply hmem rfl
      exact hsender (hreplies x reply hmem)
    | take slot x hentry hslot hentries hreplies =>
      have hne : slot ≠ own id := by
        intro heq
        obtain ⟨event, rfl, hkey⟩ := hslot _ heq
        exact new_reports_of_key hkey hother
      obtain ⟨hown, helsewhere⟩ := hinv.frame hne (by simp) hentries
      refine ⟨hown, helsewhere, ?_⟩
      rintro y reply hmem rfl
      obtain rfl := hreplies y reply hmem
      exact hinv.elsewhere slot hne hentry
    | put slot x hx hslot hentries hreplies =>
      have hne : slot ≠ own id := by
        intro heq
        obtain ⟨c, swarm, rfl, hstarted⟩ := hslot _ heq
        simp only [allowed, Bool.and_eq_true, decide_eq_true_eq, hstarted] at hallowed
        exact hallowed.2 rfl
      have hxne : x ≠ caller := by
        rintro rfl
        rcases hx with hwake | hheld
        · exact hsender hwake
        · exact hinv.phase hheld
      obtain ⟨hown, helsewhere⟩ := hinv.frame hne (by simpa using hxne) hentries
      refine ⟨hown, helsewhere, ?_⟩
      rw [hreplies]
      simp
  obtain ⟨hown, helsewhere, hreplies⟩ := hframe
  have hreceived : (o.replies.filter fun r => r.1 = caller) = [] := by
    rw [List.filter_eq_nil_iff]
    intro r hr
    simpa using hreplies r.1 r.2 hr
  simp only [hother, hreceived, List.append_nil, List.map_nil]
  exact ⟨helsewhere, hphase, fun hnone => by rw [hown]; exact hinv.waiting hnone,
    fun providers hsome => by rw [hown]; exact hinv.answered providers hsome⟩

theorem awaiting_of_reachable {s : State} (halive : alive caller = true)
    (h : (system alive id caller).Reachable s) : Awaiting id caller s := by
  refine System.Reachable.invariant (J := Awaiting id caller) (fun _ => awaiting_init) ?_ h
  intro s wake s' _ hinv hnext
  by_cases hother : new_reports id wake = []
  · exact awaiting_other hinv hother hnext
  · -- only an event of the query has a report
    fun_cases new_reports id wake
    case case1 result => exact awaiting_report halive hinv hnext
    all_goals exact absurd (by simp_all [new_reports]) hother

/-! ## Section 4: The union of the reports -/

/-- All providers that were reported. -/
def union (found : List (Finset PeerId)) : Finset PeerId := found.foldr (· ∪ ·) ∅

theorem mem_union {found : List (Finset PeerId)} {peer : PeerId} :
    peer ∈ union found ↔ ∃ providers ∈ found, peer ∈ providers := by
  induction found with
  | nil => simp [union]
  | cons providers found ih =>
    show peer ∈ providers ∪ union found ↔ _
    rw [Finset.mem_union, ih]
    simp

theorem union_cons_eq_self_iff {first : Finset PeerId} {rest : List (Finset PeerId)} :
    first = union (first :: rest) ↔ ∀ providers ∈ rest, providers ⊆ first := by
  constructor
  · intro h providers hmem peer hpeer
    rw [h, mem_union]
    exact ⟨providers, List.mem_cons_of_mem _ hmem, hpeer⟩
  · intro h
    refine Finset.Subset.antisymm Finset.subset_union_left ?_
    refine Finset.union_subset Finset.Subset.rfl ?_
    intro peer hpeer
    obtain ⟨providers, hmem, hin⟩ := mem_union.mp hpeer
    exact h providers hmem hin

/-- The event that ends a query: it finished, or failed. -/
def Final (report : Report) : Prop :=
  report = .ok .FinishedWithNoAdditionalRecord ∨ ∃ e, report = .error e

/-- The query reported the sets and then ended. -/
def Reported (s : State) (found : List (Finset PeerId)) (final : Report) : Prop :=
  Final final ∧ s.reports = found.map (fun providers => .ok (.FoundProviders providers)) ++ [final]

/-- The first event of the query is answered, with all that is ever reported. -/
def FirstHasAll : List (Finset PeerId) → Report → Prop
  | [], final => ∃ e, final = .error e
  | first :: rest, _ => ∀ providers ∈ rest, providers ⊆ first

/-- **All providers.**  For a query that ended, `get_providers` returns the union
    of the reported sets exactly if the first of them has all providers or, when
    none was reported, the query failed. -/
theorem await_providers_iff {s : State} (halive : alive caller = true)
    (h : (system alive id caller).Reachable s) {found : List (Finset PeerId)} {final : Report}
    (hreported : Reported s found final) :
    NetworkClient.await_providers s.received = some (union found) ↔ FirstHasAll found final := by
  have hinv := awaiting_of_reachable halive h
  obtain ⟨hfinal, hreports⟩ := hreported
  cases found with
  | nil =>
    rcases hfinal with rfl | ⟨e, rfl⟩
    · have hreceived := (hinv.waiting (by simp [hreports, answer_of])).2
      simp [hreceived, NetworkClient.await_providers, FirstHasAll]
    · have hreceived := (hinv.answered ∅ (by simp [hreports, answer_of])).2
      simp [hreceived, NetworkClient.await_providers, FirstHasAll, union]
  | cons first rest =>
    have hreceived := (hinv.answered first (by rw [hreports]; rfl)).2
    rw [hreceived]
    exact Option.some_inj.trans union_cons_eq_self_iff

end lookups

section samples

/-- Query 1 of the caller with sender 10. -/
def sampleLookup : State where
  loop := (handle_command (fun _ => true) .new sampleSwarm
    (NetworkClient.get_providers "key" 10)).loop
  phase := .select
  reports := []
  received := []

theorem asked_sampleLookup : Asked (fun _ => true) 1 10 sampleLookup :=
  .intro .new sampleSwarm "key" rfl fun slot => by simp [entry_new]

/-- The peers answer with these sets, in this order, and the query finishes. -/
def sampleReports (found : List (Finset PeerId)) : List Wake :=
  found.map (fun providers =>
    .swarm_event (.OutboundQueryProgressed 1 (.GetProviders (.ok (.FoundProviders providers))))) ++
  [.swarm_event (.OutboundQueryProgressed 1
    (.GetProviders (.ok .FinishedWithNoAdditionalRecord)))]

/-- The provider answers first. -/
theorem await_providers_iff_sampleLookup :
    ∃ s, (system (fun _ => true) 1 10).run sampleLookup (sampleReports [{⟨"peer"⟩}, ∅]) = some s ∧
      (NetworkClient.await_providers s.received = some (union [{⟨"peer"⟩}, ∅]) ↔
        FirstHasAll [{⟨"peer"⟩}, ∅] (.ok .FinishedWithNoAdditionalRecord)) := by
  obtain ⟨s, hrun, hreports⟩ : ∃ s,
      (system (fun _ => true) 1 10).run sampleLookup (sampleReports [{⟨"peer"⟩}, ∅]) = some s ∧
        Reported s [{⟨"peer"⟩}, ∅] (.ok .FinishedWithNoAdditionalRecord) :=
    ⟨_, rfl, Or.inl rfl, rfl⟩
  exact ⟨s, hrun, await_providers_iff rfl (.run _ (.init asked_sampleLookup) hrun) hreports⟩

/-- A peer that knows no provider answers first. -/
theorem not_await_providers_sampleLookup :
    ∃ s, (system (fun _ => true) 1 10).Reachable s ∧
      Reported s [∅, {⟨"peer"⟩}] (.ok .FinishedWithNoAdditionalRecord) ∧
      NetworkClient.await_providers s.received ≠ some (union [∅, {⟨"peer"⟩}]) := by
  obtain ⟨s, hrun, hreports, hreceived⟩ : ∃ s,
      (system (fun _ => true) 1 10).run sampleLookup (sampleReports [∅, {⟨"peer"⟩}]) = some s ∧
        Reported s [∅, {⟨"peer"⟩}] (.ok .FinishedWithNoAdditionalRecord) ∧
        s.received = [.providers ∅] :=
    ⟨_, rfl, ⟨Or.inl rfl, rfl⟩, rfl⟩
  refine ⟨s, .run _ (.init asked_sampleLookup) hrun, hreports, ?_⟩
  rw [hreceived]
  show some ∅ ≠ some (union [∅, {⟨"peer"⟩}])
  decide

end samples

end ProviderLookup

end OrcaNet
