import OrcaNet.Framework.Correlator
import OrcaNet.Network.EventLoop

/-! # Answers to network commands

    The loop starts a kademlia query or a request for a command, remembers
    the caller's sender, and answers it when libp2p reports a result.  The
    system here is the loop together with what libp2p promises: fresh ids,
    results with the id and kind of a query that was started, and a single
    result for a request, a `StartProviding` and a `PutRecord` query.

    The five maps of pending callers refine one abstract correlator whose
    keys are the started operations. -/

namespace OrcaNet

open Transition NetworkEventLoop

namespace ReplyCorrelation

/-! ## Section 1: Operations and their answers -/

inductive QueryKind where
  | StartProviding
  | GetProviders
  | PutKV
  | GetValue
  deriving DecidableEq

/-- An operation of libp2p. -/
inductive Key where
  | query (kind : QueryKind) (id : kad.QueryId)
  | request (id : OutboundRequestId)
  deriving DecidableEq

/-- The same id, as libp2p counts them: queries of all kinds share theirs. -/
def Key.same_id : Key → Key → Bool
  | .query _ i, .query _ j => i = j
  | .request i, .request j => i = j
  | _, _ => false

/-- The operation is reported at most once. -/
def Key.single : Key → Bool
  | .query .StartProviding _ => true
  | .query .PutKV _ => true
  | .request _ => true
  | _ => false

/-- The caller that waits for an operation. -/
def lookup (s : NetworkEventLoop) : Key → Option Sender
  | .query .StartProviding id => s.pending_start_providing id
  | .query .GetProviders id => s.pending_get_providers id
  | .query .PutKV id => s.pending_put_kv id
  | .query .GetValue id => s.pending_get_value id
  | .request id => s.pending_request id

def insert_at (s : NetworkEventLoop) (sender : Sender) : Key → NetworkEventLoop
  | .query .StartProviding id =>
    { s with pending_start_providing := s.pending_start_providing.insert id sender }
  | .query .GetProviders id =>
    { s with pending_get_providers := s.pending_get_providers.insert id sender }
  | .query .PutKV id => { s with pending_put_kv := s.pending_put_kv.insert id sender }
  | .query .GetValue id => { s with pending_get_value := s.pending_get_value.insert id sender }
  | .request id => { s with pending_request := s.pending_request.insert id sender }

def remove_at (s : NetworkEventLoop) : Key → NetworkEventLoop
  | .query .StartProviding id =>
    { s with pending_start_providing := s.pending_start_providing.remove id }
  | .query .GetProviders id =>
    { s with pending_get_providers := s.pending_get_providers.remove id }
  | .query .PutKV id => { s with pending_put_kv := s.pending_put_kv.remove id }
  | .query .GetValue id => { s with pending_get_value := s.pending_get_value.remove id }
  | .request id => { s with pending_request := s.pending_request.remove id }

/-- The operation that a command starts, with its caller. -/
def started (swarm : Swarm) : NetworkCommand → Option (Key × Sender)
  | .StartProviding _ sender =>
    swarm.start_providing.toOption.map fun id => (.query .StartProviding id, sender)
  | .GetProviders _ sender => some (.query .GetProviders swarm.get_providers, sender)
  | .PutKV _ _ sender => swarm.put_record.toOption.map fun id => (.query .PutKV id, sender)
  | .GetValue _ sender => some (.query .GetValue swarm.get_record, sender)
  | .Request _ _ sender => some (.request swarm.send_request, sender)
  | _ => none

/-- The operation that an event belongs to. -/
def event_key : SwarmEvent → Option Key
  | .OutboundQueryProgressed id (.StartProviding _) => some (.query .StartProviding id)
  | .OutboundQueryProgressed id (.GetProviders _) => some (.query .GetProviders id)
  | .OutboundQueryProgressed id (.PutRecord _) => some (.query .PutKV id)
  | .OutboundQueryProgressed id (.GetRecord _) => some (.query .GetValue id)
  | .Response id _ => some (.request id)
  | .OutboundFailure id _ => some (.request id)
  | _ => none

/-- The answer that an event carries: a value, or an error that is handled.  A
    failed `GetProviders` is the empty set, a failed `StartProviding` none. -/
def answer : SwarmEvent → Option (Key × Reply)
  | .OutboundQueryProgressed id (.StartProviding (.ok _)) =>
    some (.query .StartProviding id, .providing)
  | .OutboundQueryProgressed id (.GetProviders (.ok (.FoundProviders providers))) =>
    some (.query .GetProviders id, .providers providers)
  | .OutboundQueryProgressed id (.GetProviders (.error _)) =>
    some (.query .GetProviders id, .providers ∅)
  | .OutboundQueryProgressed id (.PutRecord result) =>
    some (.query .PutKV id, .stored (result.map fun _ => ()))
  | .OutboundQueryProgressed id (.GetRecord (.ok (.FoundRecord value))) =>
    some (.query .GetValue id, .value (.ok value))
  | .OutboundQueryProgressed id (.GetRecord (.error err)) =>
    some (.query .GetValue id, .value (.error err))
  | .Response id response => some (.request id, .response (.ok response))
  | .OutboundFailure id error => some (.request id, .response (.error error))
  | _ => none

/-- The record key that an event reports. -/
def reported_key : SwarmEvent → Option kad.RecordKey
  | .OutboundQueryProgressed _ (.StartProviding result) => result.toOption
  | .OutboundQueryProgressed _ (.PutRecord result) => result.toOption
  | _ => none

def key_is_text (event : SwarmEvent) : Bool :=
  (reported_key event).all fun key => key.from_utf8.isSome

/-! ## Section 2: System -/

structure State where
  loop : NetworkEventLoop
  phase : Phase
  /-- The operations started by commands. -/
  commands : List (Key × Sender)
  /-- The operations whose single result was reported. -/
  settled : List Key
  /-- The events that arrived, oldest first. -/
  log : List SwarmEvent
  /-- What the callers got, newest first. -/
  replies : List (Sender × Reply)

/-- The caller of a command that starts an operation. -/
def caller : NetworkCommand → Option Sender
  | .StartProviding _ sender => some sender
  | .GetProviders _ sender => some sender
  | .PutKV _ _ sender => some sender
  | .GetValue _ sender => some sender
  | .Request _ _ sender => some sender
  | _ => none

/-- A command of one of the five kinds, with a oneshot channel of its own, whose
    operation gets a fresh id. -/
def command_allowed (s : State) (c : NetworkCommand) (swarm : Swarm) : Bool :=
  (caller c).any (fun sender => sender ∉ s.commands.map Prod.snd) &&
    (started swarm c).all fun p => s.commands.all fun q => !p.1.same_id q.1

/-- An event for an operation that was started, and not yet reported if that
    happens only once.  The key it reports is text, as the keys of all commands
    are.  Other events are incoming requests and log entries. -/
def event_allowed (s : State) (event : SwarmEvent) : Bool :=
  match event_key event with
  | some k => k ∈ s.commands.map Prod.fst && !(k.single && k ∈ s.settled) && key_is_text event
  | none =>
    match event with
    | .ConnectionEstablished _ _ | .OutgoingConnectionError _ _ => false
    | _ => true

/-- The history after an event. -/
def log_event (s : State) (event : SwarmEvent) : State :=
  { s with
    log := s.log ++ [event]
    settled := (((event_key event).filter Key.single).toList) ++ s.settled }

/-- The history before the loop runs on. -/
def observe (s : State) : Wake → Option State
  | .command c swarm =>
    if command_allowed s c swarm then
      some { s with commands := (started swarm c).toList ++ s.commands }
    else none
  | .swarm_event event => if event_allowed s event then some (log_event s event) else none
  | .event_taken => some s
  | _ => none

/-- A wake-up of the loop; callers keep their receivers. -/
def next (s : State) (wake : Wake) : Option State :=
  match observe s wake, resume (fun _ => true) s.loop s.phase wake with
  | some t, some o =>
    some { t with loop := o.loop, phase := o.phase, replies := o.replies ++ t.replies }
  | _, _ => none

def init : State := ⟨.new, .select, [], [], [], []⟩

def system : System State Wake where
  init := fun s => s = init
  next := next

/-! ## Section 3: Handlers and the maps -/

theorem lookup_insert_at (s : NetworkEventLoop) (sender : Sender) (k : Key) :
    lookup (insert_at s sender k) = Correlator.set (lookup s) k (some sender) := by
  funext i
  by_cases hik : i = k
  · subst hik
    rcases i with ⟨kind, id⟩ | id
    · cases kind <;> simp [lookup, insert_at]
    · simp [lookup, insert_at]
  · rw [Correlator.set_ne _ _ hik]
    rcases k with ⟨kind, id⟩ | id <;> rcases i with ⟨kind', id'⟩ | id' <;>
      (try cases kind) <;> (try cases kind') <;> simp_all [lookup, insert_at]

theorem lookup_remove_at (s : NetworkEventLoop) (k : Key) :
    lookup (remove_at s k) = Correlator.set (lookup s) k none := by
  funext i
  by_cases hik : i = k
  · subst hik
    rcases i with ⟨kind, id⟩ | id
    · cases kind <;> simp [lookup, remove_at]
    · simp [lookup, remove_at]
  · rw [Correlator.set_ne _ _ hik]
    rcases k with ⟨kind, id⟩ | id <;> rcases i with ⟨kind', id'⟩ | id' <;>
      (try cases kind) <;> (try cases kind') <;> simp_all [lookup, remove_at]

/-- Where the loop goes when nobody waits for an answered operation. -/
def unexpected : Key → Phase
  | .query .StartProviding _ => .panicked "Completed query to be previously pending."
  | .request _ => .panicked "Request to still be pending."
  | _ => .select

/-- An answering event goes to the caller that waits for its operation. -/
theorem handle_event_of_answer (s : NetworkEventLoop) {event : SwarmEvent} {k : Key} {v : Reply}
    (h : answer event = some (k, v)) (htext : key_is_text event = true) :
    handle_event (fun _ => true) s event =
      match lookup s k with
      | some c => ⟨.select, remove_at s k, [(c, v)], []⟩
      | none => ⟨unexpected k, s, [], []⟩ := by
  -- one case for each kind of answer; each looks into its own map
  fun_cases answer event
  case case1 id key =>
    cases h
    -- the handler unwraps the key's text before it looks the caller up
    obtain ⟨text, hkey⟩ := Option.isSome_iff_exists.mp htext
    simp only [handle_event, handle_kademlia_events, lookup, hkey]
    cases s.pending_start_providing id <;> rfl
  case case2 id providers =>
    cases h
    simp only [handle_event, handle_kademlia_events, lookup]
    cases s.pending_get_providers id <;> rfl
  case case3 id err =>
    cases h
    simp only [handle_event, handle_kademlia_events, lookup]
    cases s.pending_get_providers id <;> rfl
  case case4 id result =>
    cases h
    cases result with
    | ok key =>
      obtain ⟨text, hkey⟩ := Option.isSome_iff_exists.mp htext
      simp only [handle_event, handle_kademlia_events, lookup, hkey]
      cases s.pending_put_kv id <;> rfl
    | error err =>
      simp only [handle_event, handle_kademlia_events, lookup]
      cases s.pending_put_kv id <;> rfl
  case case5 id value =>
    cases h
    simp only [handle_event, handle_kademlia_events, lookup]
    cases s.pending_get_value id <;> rfl
  case case6 id err =>
    cases h
    simp only [handle_event, handle_kademlia_events, lookup]
    cases s.pending_get_value id <;> rfl
  case case7 id response =>
    cases h
    simp only [handle_event, complete_request, lookup]
    cases s.pending_request id <;> rfl
  case case8 id error =>
    cases h
    simp only [handle_event, complete_request, lookup]
    cases s.pending_request id <;> rfl
  case case9 => simp_all [answer]

/-- Any other event that is allowed leaves the maps alone. -/
theorem handle_event_of_no_answer (s : State) {event : SwarmEvent} (h : answer event = none)
    (hallowed : event_allowed s event = true) :
    (handle_event (fun _ => true) s.loop event).loop = s.loop ∧
      (handle_event (fun _ => true) s.loop event).replies = [] ∧
      ∀ message, (handle_event (fun _ => true) s.loop event).phase ≠ .panicked message := by
  cases event with
  | OutboundQueryProgressed id result =>
    -- a value or a handled error would be an answer
    fun_cases handle_kademlia_events (fun _ => true) s.loop id result
    all_goals first
      | exact ⟨rfl, rfl, by simp [handle_event, handle_kademlia_events]⟩
      | cases h
  | Response request_id response => cases h
  | OutboundFailure request_id error => cases h
  | ConnectionEstablished peer_id is_dialer => cases hallowed
  | OutgoingConnectionError peer_id error => cases hallowed
  | _ => exact ⟨rfl, rfl, by simp [handle_event]⟩

/-- A command that starts an operation stores its caller; the other outcome of
    the five commands is a panic over a store error. -/
theorem handle_command_of_caller (s : NetworkEventLoop) (swarm : Swarm) {c : NetworkCommand}
    (h : (caller c).isSome) :
    (∃ k sender, started swarm c = some (k, sender) ∧ caller c = some sender ∧
      (handle_command (fun _ => true) s swarm c).phase = .select ∧
      (handle_command (fun _ => true) s swarm c).loop = insert_at s sender k ∧
      (handle_command (fun _ => true) s swarm c).replies = []) ∨
    (started swarm c = none ∧
      (handle_command (fun _ => true) s swarm c).loop = s ∧
      (handle_command (fun _ => true) s swarm c).replies = [] ∧
      ∃ message, (handle_command (fun _ => true) s swarm c).phase = .panicked message ∧
        (message = "No store error." ∨ message = "Failed to initiate put request")) := by
  cases c with
  | StartProviding key sender =>
    cases hres : swarm.start_providing with
    | ok id =>
      exact Or.inl ⟨.query .StartProviding id, sender, by
        simp [started, hres, Except.toOption, caller, handle_command, insert_at]⟩
    | error e => exact Or.inr (by simp [started, hres, Except.toOption, handle_command])
  | PutKV key value sender =>
    cases hres : swarm.put_record with
    | ok id =>
      exact Or.inl ⟨.query .PutKV id, sender, by
        simp [started, hres, Except.toOption, caller, handle_command, insert_at]⟩
    | error e => exact Or.inr (by simp [started, hres, Except.toOption, handle_command])
  | GetProviders key sender => exact Or.inl ⟨_, _, rfl, rfl, rfl, rfl, rfl⟩
  | GetValue key sender => exact Or.inl ⟨_, _, rfl, rfl, rfl, rfl, rfl⟩
  | Request request peer sender => exact Or.inl ⟨_, _, rfl, rfl, rfl, rfl, rfl⟩
  | _ => cases h

/-! ## Section 4: Refinement of the correlator -/

/-- The started operations, the answers and the replies as a correlator. -/
def abstract (s : State) : Correlator.State Key Sender Reply where
  pending := lookup s.loop
  started := s.commands
  answers := s.log.filterMap answer
  replies := s.replies

theorem event_key_of_answer {event : SwarmEvent} {k : Key} {v : Reply}
    (h : answer event = some (k, v)) : event_key event = some k := by
  fun_cases answer event <;> simp_all [answer, event_key]

/-- The operation of an allowed event was started, and not reported if that
    happens only once; its key is text. -/
theorem event_allowed_iff {s : State} {event : SwarmEvent} {k : Key}
    (hk : event_key event = some k) :
    event_allowed s event = true ↔
      k ∈ s.commands.map Prod.fst ∧ (k.single = true → k ∉ s.settled) ∧
        key_is_text event = true := by
  unfold event_allowed
  cases hsingle : k.single <;> simp [hk, hsingle, and_assoc]

/-- A wake-up is a command of one of the five kinds, an allowed event, or the
    handler taking a request. -/
theorem next_cases {s s' : State} {wake : Wake} (h : next s wake = some s') :
    (∃ c swarm, wake = .command c swarm ∧ command_allowed s c swarm = true ∧
      s.phase = .select ∧
      s' = { s with
        commands := (started swarm c).toList ++ s.commands
        loop := (handle_command (fun _ => true) s.loop swarm c).loop
        phase := (handle_command (fun _ => true) s.loop swarm c).phase
        replies := (handle_command (fun _ => true) s.loop swarm c).replies ++ s.replies }) ∨
    (∃ event, wake = .swarm_event event ∧ event_allowed s event = true ∧ s.phase = .select ∧
      s' = { log_event s event with
        loop := (handle_event (fun _ => true) s.loop event).loop
        phase := (handle_event (fun _ => true) s.loop event).phase
        replies := (handle_event (fun _ => true) s.loop event).replies ++ s.replies }) ∨
    (∃ phase, wake = .event_taken ∧ s' = { s with phase := phase } ∧
      ∀ message, phase ≠ .panicked message) := by
  unfold next at h
  split at h
  · rename_i t o ht ho
    obtain rfl := Option.some.inj h
    cases wake with
    | command c swarm =>
      obtain ⟨hallowed, heq⟩ := Option.ite_none_right_eq_some.mp ht
      obtain rfl := Option.some.inj heq
      obtain ⟨hph, rfl⟩ := resume_command _ ho
      exact Or.inl ⟨c, swarm, rfl, hallowed, hph, rfl⟩
    | swarm_event event =>
      obtain ⟨hallowed, heq⟩ := Option.ite_none_right_eq_some.mp ht
      obtain rfl := Option.some.inj heq
      obtain ⟨hph, rfl⟩ := resume_swarm_event _ ho
      exact Or.inr (Or.inl ⟨event, rfl, hallowed, hph, rfl⟩)
    | event_taken =>
      obtain rfl := Option.some.inj ht
      refine Or.inr (Or.inr ⟨o.phase, rfl, ?_⟩)
      -- in every phase the taken event leads to a wait, never to a panic
      cases hph : s.phase <;> simp [resume, hph] at ho <;> subst ho <;> simp
    | _ => cases ht
  · cases h

theorem same_id_self (k : Key) : k.same_id k = true := by
  cases k <;> simp [Key.same_id]

/-- The operation of an allowed command is new. -/
theorem command_allowed_new {s : State} {c : NetworkCommand} {swarm : Swarm} {k : Key}
    {sender : Sender} (h : command_allowed s c swarm = true)
    (hstarted : started swarm c = some (k, sender)) (hcaller : caller c = some sender) :
    k ∉ s.commands.map Prod.fst ∧ sender ∉ s.commands.map Prod.snd := by
  obtain ⟨hsender, hid⟩ := Bool.and_eq_true_iff.mp h
  rw [hcaller, Option.any_some, decide_eq_true_iff] at hsender
  refine ⟨fun hk => ?_, hsender⟩
  obtain ⟨q, hq, rfl⟩ := List.mem_map.mp hk
  rw [hstarted, Option.all_some, List.all_eq_true] at hid
  have hsame := hid q hq
  simp [same_id_self] at hsame

theorem caller_isSome_of_allowed {s : State} {c : NetworkCommand} {swarm : Swarm}
    (h : command_allowed s c swarm = true) : (caller c).isSome := by
  cases hcaller : caller c with
  | none => simp [command_allowed, hcaller] at h
  | some sender => rfl

/-- Every wake-up is at most one step of the correlator. -/
theorem simulates_step {s s' : State} {wake : Wake} (h : next s wake = some s') :
    ∃ ks, Correlator.system.run (abstract s) ks = some (abstract s') := by
  rcases next_cases h with ⟨c, swarm, rfl, hallowed, -, rfl⟩ | ⟨event, rfl, hallowed, -, rfl⟩ |
    ⟨phase, rfl, rfl, -⟩
  · rcases handle_command_of_caller s.loop swarm (caller_isSome_of_allowed hallowed) with
      ⟨k, sender, hstarted, hcaller, -, hloop, hreplies⟩ | ⟨hstarted, hloop, hreplies, -⟩
    -- the caller is stored under a key that was free
    · have hnew := command_allowed_new hallowed hstarted hcaller
      refine ⟨[.start k sender], ?_⟩
      simp [Correlator.system, Correlator.next, abstract, hloop, hreplies, hstarted,
        lookup_insert_at, -List.mem_map, hnew]
    · exact ⟨[], by simp [abstract, hloop, hreplies, hstarted]⟩
  · cases hanswer : answer event with
    | none =>
      obtain ⟨hloop, hreplies, -⟩ := handle_event_of_no_answer s hanswer hallowed
      exact ⟨[], by simp [abstract, log_event, hloop, hreplies, hanswer]⟩
    | some p =>
      obtain ⟨k, v⟩ := p
      obtain ⟨hstarted, -, htext⟩ := (event_allowed_iff (event_key_of_answer hanswer)).mp hallowed
      have hevent := handle_event_of_answer s.loop hanswer htext
      refine ⟨[.answer k v], ?_⟩
      cases hlook : lookup s.loop k with
      | some c =>
        rw [hlook] at hevent
        simp [Correlator.system, Correlator.next, abstract, log_event, hevent, hanswer, hlook,
          lookup_remove_at, -List.mem_map, hstarted]
      | none =>
        rw [hlook] at hevent
        simp [Correlator.system, Correlator.next, abstract, log_event, hevent, hanswer, hlook,
          -List.mem_map, hstarted]
  · exact ⟨[], rfl⟩

theorem abstract_init : abstract init = Correlator.init := by
  have hempty : lookup NetworkEventLoop.new = fun _ => none := by
    funext k
    fun_cases lookup NetworkEventLoop.new k <;> rfl
  simp [abstract, init, Correlator.init, hempty]

theorem correlated_of_reachable {s : State} (h : system.Reachable s) :
    Correlator.Correlated (abstract s) := by
  refine Correlator.correlated_of_reachable (System.Reachable.simulates abstract ?_ ?_ h)
  · rintro s rfl
    exact .init abstract_init
  · intro s wake s' hnext
    exact simulates_step hnext

/-! ## Section 5: No panic -/

/-- An operation whose answer must find its caller has one until it is reported. -/
structure Running (s : State) : Prop where
  outstanding : ∀ k ∈ s.commands.map Prod.fst, unexpected k ≠ .select → k ∉ s.settled →
    lookup s.loop k ≠ none
  phase : ∀ message, s.phase = .panicked message →
    message = "No store error." ∨ message = "Failed to initiate put request"

theorem single_of_unexpected {k : Key} (h : unexpected k ≠ .select) : k.single = true := by
  fun_cases unexpected k <;> simp_all [unexpected, Key.single]

theorem running_step {s s' : State} {wake : Wake} (hinv : Running s)
    (h : next s wake = some s') : Running s' := by
  rcases next_cases h with ⟨c, swarm, rfl, hallowed, hselect, rfl⟩ |
    ⟨event, rfl, hallowed, hselect, rfl⟩ | ⟨phase, rfl, rfl, hphase⟩
  · rcases handle_command_of_caller s.loop swarm (caller_isSome_of_allowed hallowed) with
      ⟨k, sender, hstarted, hcaller, hph, hloop, -⟩ | ⟨hstarted, hloop, -, message, hph, hmsg⟩
    -- a new operation has its caller
    · refine ⟨fun i hi hexpects hsettled => ?_, fun message hmessage => ?_⟩
      · simp only [hloop, lookup_insert_at]
        by_cases hik : i = k
        · simp [hik]
        · rw [Correlator.set_ne _ _ hik]
          refine hinv.outstanding i ?_ hexpects hsettled
          simpa [hstarted, hik] using hi
      · simp only [hph] at hmessage
        cases hmessage
    · refine ⟨fun i hi => ?_, fun message' hmessage => ?_⟩
      · simp only [hloop]
        exact hinv.outstanding i (by simpa [hstarted] using hi)
      · simp only [hph, Phase.panicked.injEq] at hmessage
        exact hmessage ▸ hmsg
  · cases hanswer : answer event with
    | none =>
      obtain ⟨hloop, -, hnopanic⟩ := handle_event_of_no_answer s hanswer hallowed
      refine ⟨fun i hi hexpects hsettled => ?_, fun message hmessage => ?_⟩
      · simp only [hloop]
        exact hinv.outstanding i hi hexpects fun hmem => hsettled (List.mem_append_right _ hmem)
      · exact absurd hmessage (hnopanic message)
    | some p =>
      obtain ⟨k, v⟩ := p
      have hkey := event_key_of_answer hanswer
      obtain ⟨hstarted, hsingle, htext⟩ := (event_allowed_iff hkey).mp hallowed
      have hevent := handle_event_of_answer s.loop hanswer htext
      have hmono : ∀ i, i ∉ (log_event s event).settled → i ∉ s.settled :=
        fun i hi hmem => hi (List.mem_append_right _ hmem)
      cases hlook : lookup s.loop k with
      | some c =>
        rw [hlook] at hevent
        refine ⟨fun i hi hexpects hsettled => ?_, fun message hmessage => ?_⟩
        · simp only [hevent, lookup_remove_at]
          by_cases hik : i = k
          · -- the operation is reported now
            refine absurd ?_ hsettled
            simp [log_event, hkey, hik, Option.filter, single_of_unexpected (hik ▸ hexpects)]
          · rw [Correlator.set_ne _ _ hik]
            exact hinv.outstanding i hi hexpects (hmono i hsettled)
        · simp only [hevent] at hmessage
          cases hmessage
      | none =>
        rw [hlook] at hevent
        -- an answer that must find its caller does, because it is the first one
        have hselect : unexpected k = .select := by
          by_contra hexpects
          exact hinv.outstanding k hstarted hexpects (hsingle (single_of_unexpected hexpects)) hlook
        refine ⟨fun i hi hexpects hsettled => ?_, fun message hmessage => ?_⟩
        · simp only [hevent]
          exact hinv.outstanding i hi hexpects (hmono i hsettled)
        · simp only [hevent, hselect] at hmessage
          cases hmessage
  · exact ⟨hinv.outstanding, fun message hmessage => absurd hmessage (hphase message)⟩

theorem running_of_reachable {s : State} (h : system.Reachable s) : Running s := by
  refine System.Reachable.invariant (J := Running) ?_ ?_ h
  · rintro s rfl
    exact ⟨by simp [init], by simp [init]⟩
  · intro s wake s' _ hinv hnext
    exact running_step hinv hnext

/-! ## Section 6: Correlation -/

/-- The first answer that libp2p reported for an operation. -/
def first_answer (s : State) (k : Key) : Option Reply :=
  Correlator.first_answer (s.log.filterMap answer) k

/-- An event for an operation that was answered leaves all maps alone. -/
theorem loop_of_answered {s s' : State} {event : SwarmEvent} {k : Key} {v : Reply}
    (hinv : Correlator.Correlated (abstract s)) (hnext : next s (.swarm_event event) = some s')
    (hkey : event_key event = some k) (hanswered : first_answer s k = some v) :
    s'.loop = s.loop := by
  rcases next_cases hnext with ⟨c, swarm, h, -⟩ | ⟨event, h, hallowed, -, rfl⟩ | ⟨phase, h, -⟩
  · cases h
  · cases h
    cases hanswer : answer event with
    | none => exact (handle_event_of_no_answer s hanswer hallowed).1
    | some p =>
      obtain ⟨k', x⟩ := p
      obtain rfl := Option.some.inj ((event_key_of_answer hanswer).symm.trans hkey)
      have hnone : lookup s.loop k' = none := by
        cases hlook : lookup s.loop k' with
        | none => rfl
        | some c =>
          have hfirst := ((hinv.pending k' c).mp hlook).2
          exact absurd (hanswered.symm.trans hfirst) (by simp)
      have htext := ((event_allowed_iff hkey).mp hallowed).2.2
      -- nobody waits under the id any more, so there is nothing to remove
      simp only [handle_event_of_answer s.loop hanswer htext, hnone]
  · cases h

/-- **Reply correlation.**  In every reachable state: an operation has one
    caller, a caller one operation and one place in the maps; no caller is
    answered twice; a caller is answered exactly with the first answer that was
    reported for its own operation; events for answered operations change no
    map; and the loop panics at most over a store error of libp2p. -/
theorem replies_correlated (s : State) (h : system.Reachable s) :
    (s.commands.map Prod.fst).Nodup ∧ (s.commands.map Prod.snd).Nodup ∧
      (∀ k k' c, lookup s.loop k = some c → lookup s.loop k' = some c → k = k') ∧
      (s.replies.map Prod.fst).Nodup ∧
      (∀ c v, (c, v) ∈ s.replies ↔ ∃ k, (k, c) ∈ s.commands ∧ first_answer s k = some v) ∧
      (∀ event s', next s (.swarm_event event) = some s' → ∀ k v, event_key event = some k →
        first_answer s k = some v → s'.loop = s.loop) ∧
      ∀ message, s.phase = .panicked message →
        message = "No store error." ∨ message = "Failed to initiate put request" := by
  have hinv := correlated_of_reachable h
  exact ⟨hinv.keys, hinv.callers, fun _ _ _ => hinv.pending_unique, hinv.once, hinv.replies,
    fun _ _ hnext _ _ => loop_of_answered hinv hnext, (running_of_reachable h).phase⟩

/-- Two lookups at once: the second one fails, then the first finds a provider
    and reports another one afterwards. -/
def lookupRun : List Wake :=
  [.command (.GetProviders "key" 10) sampleSwarm,
   .command (.GetProviders "other" 11) { sampleSwarm with get_providers := 5 },
   .swarm_event (.OutboundQueryProgressed 5 (.GetProviders (.error "timeout"))),
   .swarm_event (.OutboundQueryProgressed 1 (.GetProviders (.ok (.FoundProviders {⟨"peer"⟩})))),
   .swarm_event (.OutboundQueryProgressed 1 (.GetProviders (.ok (.FoundProviders ∅))))]

theorem lookupRun_isSome : (system.run init lookupRun).isSome := by with_unfolding_all rfl

def lookedUp : State := (system.run init lookupRun).get lookupRun_isSome

theorem replies_correlated_lookedUp :
    (lookedUp.commands.map Prod.fst).Nodup ∧ (lookedUp.commands.map Prod.snd).Nodup ∧
      (∀ k k' c, lookup lookedUp.loop k = some c → lookup lookedUp.loop k' = some c → k = k') ∧
      (lookedUp.replies.map Prod.fst).Nodup ∧
      (∀ c v, (c, v) ∈ lookedUp.replies ↔
        ∃ k, (k, c) ∈ lookedUp.commands ∧ first_answer lookedUp k = some v) ∧
      (∀ event s', next lookedUp (.swarm_event event) = some s' → ∀ k v,
        event_key event = some k → first_answer lookedUp k = some v →
          s'.loop = lookedUp.loop) ∧
      ∀ message, lookedUp.phase = .panicked message →
        message = "No store error." ∨ message = "Failed to initiate put request" :=
  replies_correlated lookedUp
    (.run lookupRun (.init rfl) (Option.some_get lookupRun_isSome).symm)

end ReplyCorrelation

end OrcaNet
