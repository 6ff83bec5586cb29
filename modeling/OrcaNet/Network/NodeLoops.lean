import OrcaNet.Framework.System
import OrcaNet.HandlerLoop

/-! # The two loops of a node

    The network loop and the request handler loop of one node.  They meet in
    two channels without capacity, one for events and one for commands, where
    a send ends only when the other side takes the message, and in oneshot
    channels.  Swarm events, incoming streams, commands of other
    `NetworkClient` clones and local events arrive in any order.

    Each loop calls the other from inside its handlers and waits, so the node
    deadlocks when both do it at once. -/

namespace OrcaNet

open Transition OrcaNetConfig

namespace NodeLoops

/-! ## Section 1: System -/

structure State where
  network : NetworkEventLoop
  network_phase : NetworkEventLoop.Phase
  handler : HandlerLoop
  handler_phase : HandlerLoop.Phase

inductive Label where
  /-- The network loop is woken by the swarm, a stream or another client. -/
  | network (wake : NetworkEventLoop.Wake) (alive : Sender → Bool) (env : HandlerEnv)
  /-- The handler takes an event of the HTTP server or the command line. -/
  | local_event (event : OrcaNetEvent) (env : HandlerEnv)
  /-- The handler takes the event of the network loop. -/
  | take_event (env : HandlerEnv)
  | handle (env : HandlerEnv)
  /-- The network loop takes the command of the handler. -/
  | take_command (swarm : Swarm) (alive : Sender → Bool) (env : HandlerEnv)
  | proxy_event_sent (env : HandlerEnv)
  /-- The handler notices that the network loop is gone. -/
  | network_gone (wake : HandlerLoop.Wake) (env : HandlerEnv)
  /-- The network loop notices that the handler is gone. -/
  | handler_gone (wake : NetworkEventLoop.Wake)

/-- The event that the network loop is sending to the handler. -/
def forwarded : NetworkEventLoop.Phase → Option OrcaNetEvent
  | .send_request_event request from_peer channel => some (.Request request from_peer channel)
  | .send_stream_request_event peer_id _ request => some (.StreamRequest request peer_id)
  | _ => none

/-- Wake-ups of the network loop that do not come from the handler. -/
def from_outside : NetworkEventLoop.Wake → Bool
  | .event_taken | .event_receiver_dropped | .response _ => false
  | _ => true

/-- Events that do not come from the network loop. -/
def is_local : OrcaNetEvent → Bool
  | .Request _ _ _ | .StreamRequest _ _ => false
  | _ => true

def set_network (s : State) (o : NetworkEventLoop.Outcome) : State :=
  { s with network := o.loop, network_phase := o.phase }

def set_handler (s : State) (o : HandlerLoop.Outcome) : State :=
  { s with handler := o.loop, handler_phase := o.phase }

/-- The handler goes on when its oneshot channel was sent to. -/
def deliver (env : HandlerEnv) (s : State) (replies : List (Sender × Reply)) : State :=
  match s.handler_phase with
  | .start_providing_reply sender after =>
    if sender ∈ replies.map Prod.fst then set_handler s (HandlerLoop.finish env s.handler after)
    else s
  | _ => s

/-- The response of the handler goes to the network loop that waits for it. -/
def respond (s : State) (event : OrcaNetEvent) (response : Option (OrcaNetResponse F64)) : State :=
  match event with
  | .StreamRequest _ _ =>
    match NetworkEventLoop.resume (fun _ => true) s.network s.network_phase
      (.response response) with
    | some o => set_network s o
    | none => s
  | _ => s

def next (s : State) : Label → Option State
  | .network wake alive env =>
    if from_outside wake then
      (NetworkEventLoop.resume alive s.network s.network_phase wake).map fun o =>
        deliver env (set_network s o) o.replies
    else none
  | .local_event event env =>
    if is_local event then
      (HandlerLoop.resume env s.handler s.handler_phase (.event event)).map (set_handler s)
    else none
  | .take_event env =>
    -- a rendezvous: both loops go on
    match forwarded s.network_phase with
    | some event =>
      match NetworkEventLoop.resume (fun _ => true) s.network s.network_phase .event_taken,
        HandlerLoop.resume env s.handler s.handler_phase (.event event) with
      | some o, some o' => some (set_handler (set_network s o) o')
      | _, _ => none
    | none => none
  | .handle env =>
    match s.handler_phase with
    | .handle_event event =>
      let o := HandlerLoop.handle_event env s.handler event
      some (respond (set_handler s o) event o.response)
    | _ => none
  | .take_command swarm alive env =>
    -- a rendezvous the other way
    match HandlerLoop.command s.handler_phase with
    | some c =>
      match NetworkEventLoop.resume alive s.network s.network_phase (.command c swarm),
        HandlerLoop.resume env s.handler s.handler_phase .command_taken with
      | some o, some o' => some (set_handler (set_network s o) o')
      | _, _ => none
    | none => none
  | .proxy_event_sent env =>
    (HandlerLoop.resume env s.handler s.handler_phase .proxy_event_sent).map (set_handler s)
  | .network_gone wake env =>
    match s.network_phase, wake with
    | .returned, .command_receiver_dropped | .panicked _, .command_receiver_dropped
    | .returned, .reply false | .panicked _, .reply false =>
      (HandlerLoop.resume env s.handler s.handler_phase wake).map (set_handler s)
    | _, _ => none
  | .handler_gone wake =>
    match s.handler_phase, wake with
    | .panicked _, .event_receiver_dropped | .panicked _, .response none =>
      (NetworkEventLoop.resume (fun _ => true) s.network s.network_phase wake).map (set_network s)
    | _, _ => none

/-- Both loops start in their `select!`. -/
def system : System State Label where
  init := fun s => s.network_phase = .select ∧ s.handler_phase = .next_event
  next := next

/-! ## Section 2: What a step can do -/

section steps

variable {s s' : State}

theorem next_network {wake : NetworkEventLoop.Wake} {alive : Sender → Bool} {env : HandlerEnv}
    (h : next s (.network wake alive env) = some s') :
    from_outside wake = true ∧ ∃ o,
      NetworkEventLoop.resume alive s.network s.network_phase wake = some o ∧
      s' = deliver env (set_network s o) o.replies := by
  obtain ⟨hwake, hresume⟩ := Option.ite_none_right_eq_some.mp h
  obtain ⟨o, ho, rfl⟩ := Option.map_eq_some_iff.mp hresume
  exact ⟨hwake, o, ho, rfl⟩

/-- Events are taken in the `select!` only. -/
theorem resume_event {env : HandlerEnv} {handler : HandlerLoop} {ph : HandlerLoop.Phase}
    {event : OrcaNetEvent} {o : HandlerLoop.Outcome}
    (h : HandlerLoop.resume env handler ph (.event event) = some o) :
    ph = .next_event ∧ o = HandlerLoop.suspend (.handle_event event) handler := by
  cases ph with
  | next_event => exact ⟨rfl, (Option.some.inj h).symm⟩
  | _ => cases h

theorem next_local_event {event : OrcaNetEvent} {env : HandlerEnv}
    (h : next s (.local_event event env) = some s') :
    is_local event = true ∧ s.handler_phase = .next_event ∧
      s' = { s with handler_phase := .handle_event event } := by
  obtain ⟨hlocal, hresume⟩ := Option.ite_none_right_eq_some.mp h
  obtain ⟨o, ho, rfl⟩ := Option.map_eq_some_iff.mp hresume
  obtain ⟨hph, rfl⟩ := resume_event ho
  exact ⟨hlocal, hph, rfl⟩

theorem next_take_event {env : HandlerEnv} (h : next s (.take_event env) = some s') :
    s.handler_phase = .next_event ∧
      ((∃ request from_peer channel,
          s.network_phase = .send_request_event request from_peer channel ∧
          s' = { s with
            network_phase := .select
            handler_phase := .handle_event (.Request request from_peer channel) }) ∨
        ∃ peer_id request_id request,
          s.network_phase = .send_stream_request_event peer_id request_id request ∧
          s' = { s with
            network_phase := .receive_response peer_id request_id
            handler_phase := .handle_event (.StreamRequest request peer_id) }) := by
  simp only [next] at h
  split at h
  · rename_i event hevent
    split at h
    · rename_i o o' ho ho'
      obtain rfl := Option.some.inj h
      obtain ⟨hph, rfl⟩ := resume_event ho'
      refine ⟨hph, ?_⟩
      -- the phases in which the network loop has an event for the handler
      cases hnet : s.network_phase with
      | send_request_event request from_peer channel =>
        rw [hnet] at ho hevent
        obtain rfl := Option.some.inj ho
        obtain rfl := Option.some.inj hevent
        exact Or.inl ⟨_, _, _, rfl, rfl⟩
      | send_stream_request_event peer_id request_id request =>
        rw [hnet] at ho hevent
        obtain rfl := Option.some.inj ho
        obtain rfl := Option.some.inj hevent
        exact Or.inr ⟨_, _, _, rfl, rfl⟩
      | _ => rw [hnet] at hevent; cases hevent
    · cases h
  · cases h

theorem next_handle {env : HandlerEnv} (h : next s (.handle env) = some s') :
    ∃ event, s.handler_phase = .handle_event event ∧
      s' = respond (set_handler s (HandlerLoop.handle_event env s.handler event)) event
        (HandlerLoop.handle_event env s.handler event).response := by
  simp only [next] at h
  split at h
  · rename_i event hph
    exact ⟨event, hph, (Option.some.inj h).symm⟩
  · cases h

theorem next_take_command {swarm : Swarm} {alive : Sender → Bool} {env : HandlerEnv}
    (h : next s (.take_command swarm alive env) = some s') :
    ∃ c o, HandlerLoop.command s.handler_phase = some c ∧ s.network_phase = .select ∧
      HandlerLoop.resume env s.handler s.handler_phase .command_taken = some o ∧
      s' = set_handler (set_network s (NetworkEventLoop.handle_command alive s.network swarm c))
        o := by
  simp only [next] at h
  split at h
  · rename_i c hc
    split at h
    · rename_i o o' ho ho'
      obtain rfl := Option.some.inj h
      obtain ⟨hph, rfl⟩ := NetworkEventLoop.resume_command _ ho
      exact ⟨c, o', hc, hph, ho', rfl⟩
    · cases h
  · cases h

theorem next_proxy_event_sent {env : HandlerEnv} (h : next s (.proxy_event_sent env) = some s') :
    ∃ server mode, s.handler_phase = .send_proxy_event server mode ∧
      s' = set_handler s (HandlerLoop.stop_proxy env s.handler mode) := by
  obtain ⟨o, ho, rfl⟩ := Option.map_eq_some_iff.mp h
  cases hph : s.handler_phase with
  | send_proxy_event server mode =>
    rw [hph] at ho
    obtain rfl := Option.some.inj ho
    exact ⟨server, mode, rfl, rfl⟩
  | _ => rw [hph] at ho; cases ho

/-- A loop that ended without the other one in its `select!` ends that one too. -/
theorem next_network_gone {wake : HandlerLoop.Wake} {env : HandlerEnv}
    (h : next s (.network_gone wake env) = some s') :
    (s.network_phase = .returned ∨ ∃ message, s.network_phase = .panicked message) ∧
      ∃ message, s' = { s with handler_phase := .panicked message } := by
  have hresume : ∀ w, w = .command_receiver_dropped ∨ w = .reply false →
      (HandlerLoop.resume env s.handler s.handler_phase w).map (set_handler s) = some s' →
      ∃ message, s' = { s with handler_phase := .panicked message } := by
    intro w hw hmap
    obtain ⟨o, ho, rfl⟩ := Option.map_eq_some_iff.mp hmap
    rcases hw with rfl | rfl <;> cases hph : s.handler_phase <;> rw [hph] at ho <;> cases ho <;>
      exact ⟨_, rfl⟩
  simp only [next] at h
  split at h
  · rename_i hph
    exact ⟨Or.inl hph, hresume _ (Or.inl rfl) h⟩
  · rename_i message hph
    exact ⟨Or.inr ⟨message, hph⟩, hresume _ (Or.inl rfl) h⟩
  · rename_i hph
    exact ⟨Or.inl hph, hresume _ (Or.inr rfl) h⟩
  · rename_i message hph
    exact ⟨Or.inr ⟨message, hph⟩, hresume _ (Or.inr rfl) h⟩
  · cases h

theorem next_handler_gone {wake : NetworkEventLoop.Wake}
    (h : next s (.handler_gone wake) = some s') :
    (∃ message, s.handler_phase = .panicked message) ∧
      ∃ message, s' = { s with network_phase := .panicked message } := by
  have hresume : ∀ w, w = .event_receiver_dropped ∨ w = .response none →
      (NetworkEventLoop.resume (fun _ => true) s.network s.network_phase w).map (set_network s) =
        some s' → ∃ message, s' = { s with network_phase := .panicked message } := by
    intro w hw hmap
    obtain ⟨o, ho, rfl⟩ := Option.map_eq_some_iff.mp hmap
    rcases hw with rfl | rfl <;> cases hph : s.network_phase <;> rw [hph] at ho <;> cases ho <;>
      exact ⟨_, rfl⟩
  simp only [next] at h
  split at h
  · rename_i message hph
    exact ⟨⟨message, hph⟩, hresume _ (Or.inl rfl) h⟩
  · rename_i message hph
    exact ⟨⟨message, hph⟩, hresume _ (Or.inr rfl) h⟩
  · cases h

/-- A step leaves the network loop where it is or runs one segment of it, which is
    woken from outside, by a command, or by the handler. -/
theorem next_network_phase {l : Label} (h : next s l = some s') :
    s'.network_phase = s.network_phase ∨ ∃ wake alive o,
      NetworkEventLoop.resume alive s.network s.network_phase wake = some o ∧
      s'.network_phase = o.phase ∧
      ((∃ env, l = .network wake alive env) ∨ (∃ c swarm, wake = .command c swarm) ∨
        from_outside wake = false) := by
  cases l with
  | network wake alive env =>
    obtain ⟨-, o, ho, rfl⟩ := next_network h
    refine Or.inr ⟨wake, alive, o, ho, ?_, Or.inl ⟨env, rfl⟩⟩
    -- replies reach the handler only
    unfold deliver
    split
    · split <;> rfl
    · rfl
  | local_event event env =>
    obtain ⟨-, -, rfl⟩ := next_local_event h
    exact Or.inl rfl
  | take_event env =>
    obtain ⟨-, ⟨_, _, _, hph, rfl⟩ | ⟨_, _, _, hph, rfl⟩⟩ := next_take_event h
    · exact Or.inr ⟨.event_taken, fun _ => true, _, by rw [hph]; rfl, rfl, Or.inr (Or.inr rfl)⟩
    · exact Or.inr ⟨.event_taken, fun _ => true, _, by rw [hph]; rfl, rfl, Or.inr (Or.inr rfl)⟩
  | handle env =>
    obtain ⟨event, -, rfl⟩ := next_handle h
    unfold respond
    split
    · split
      · rename_i o ho
        exact Or.inr ⟨_, _, o, ho, rfl, Or.inr (Or.inr rfl)⟩
      · exact Or.inl rfl
    · exact Or.inl rfl
  | take_command swarm alive env =>
    obtain ⟨c, _, -, hph, -, rfl⟩ := next_take_command h
    exact Or.inr ⟨.command c swarm, alive, _, by rw [hph]; rfl, rfl,
      Or.inr (Or.inl ⟨c, swarm, rfl⟩)⟩
  | proxy_event_sent env =>
    obtain ⟨_, _, -, rfl⟩ := next_proxy_event_sent h
    exact Or.inl rfl
  | network_gone wake env =>
    obtain ⟨-, _, rfl⟩ := next_network_gone h
    exact Or.inl rfl
  | handler_gone wake =>
    simp only [next] at h
    split at h
    · obtain ⟨o, ho, rfl⟩ := Option.map_eq_some_iff.mp h
      exact Or.inr ⟨_, _, o, ho, rfl, Or.inr (Or.inr rfl)⟩
    · obtain ⟨o, ho, rfl⟩ := Option.map_eq_some_iff.mp h
      exact Or.inr ⟨_, _, o, ho, rfl, Or.inr (Or.inr rfl)⟩
    · cases h

end steps

/-! ## Section 3: Waiting for each other -/

/-- The network loop is suspended on the handler. -/
def NetworkWaits : NetworkEventLoop.Phase → Prop
  | .send_request_event _ _ _ => True
  | .send_stream_request_event _ _ _ => True
  | .receive_response _ _ => True
  | _ => False

/-- The handler is suspended on the network loop. -/
def HandlerWaits : HandlerLoop.Phase → Prop
  | .respond _ _ => True
  | .start_providing _ _ _ => True
  | .start_providing_reply _ _ => True
  | .stop_providing _ _ => True
  | _ => False

def Deadlocked (s : State) : Prop := NetworkWaits s.network_phase ∧ HandlerWaits s.handler_phase

/-- The network loop takes in a request of another peer. -/
def TakesRequest : NetworkEventLoop.Phase → NetworkEventLoop.Wake → Prop
  | .select, .swarm_event (.Request _ _ _) => True
  | .read_to_end _, .read (.ok stream_req) => ∃ request, stream_req.stream_data = .Request request
  | _, _ => False

/-- Handling the event sends a command to the network loop. -/
def IssuesCommand (env : HandlerEnv) (s : HandlerLoop) : OrcaNetEvent → Prop
  | .Request request from_peer _ =>
    (RequestHandlerLoop.response
      (RequestHandlerLoop.handle_request s.config env.toEnv request from_peer s.db)).isSome
  | .StreamRequest _ _ => False
  | .ProvideFile file_id file_path =>
    ∃ file_name, env.get_file_name_from_path file_path = some file_name ∧
      env.path_exists file_path ∧
      env.db_fault (.create_sqlite_connection .provided_files) = none ∧
      (ProvidedFilesTable.insert_provided_file env.toEnv
        (.with_defaults file_id file_path file_name env.get_unix_timestamp) s.db).1 = .ok ()
  | .StopProvidingFile _ _ => env.db_fault (.create_sqlite_connection .provided_files) = none
  | .StartProxy mode => s.proxy_event_sender = none ∧ mode = .ProxyProvider
  | .StopProxy => s.config.get_proxy_config = some .ProxyProvider ∧ s.proxy_event_sender = none

/-- The network loop takes no request in while the handler waits for it, and the
    handler starts no command while the network loop waits for it. -/
def OneAtATime (s : State) : Label → Prop
  | .network wake _ _ => TakesRequest s.network_phase wake → ¬ HandlerWaits s.handler_phase
  | .handle env =>
    ∀ event, s.handler_phase = .handle_event event → IssuesCommand env s.handler event →
      ¬ NetworkWaits s.network_phase
  | .proxy_event_sent _ =>
    ∀ server, s.handler_phase = .send_proxy_event server .ProxyProvider →
      ¬ NetworkWaits s.network_phase
  | _ => True

/-! ## Section 4: When a step deadlocks -/

theorem not_networkWaits_of_settled {ph : NetworkEventLoop.Phase} (h : ph.Settled) :
    ¬ NetworkWaits ph := by
  rcases h with rfl | ⟨message, rfl⟩ <;> exact id

theorem not_networkWaits_of_command (alive : Sender → Bool) (s : NetworkEventLoop) (swarm : Swarm)
    (c : NetworkCommand) :
    ¬ NetworkWaits (NetworkEventLoop.handle_command alive s swarm c).phase := by
  rcases NetworkEventLoop.handle_command_settled alive s swarm c with
    h | ⟨peer_id, stream_req, sender, rfl, h⟩
  · exact not_networkWaits_of_settled h
  · rw [h]
    exact id

/-- From outside, only an incoming request makes the network loop wait for the
    handler, and that segment answers no caller. -/
theorem networkWaits_iff {alive : Sender → Bool} {s : NetworkEventLoop}
    {ph : NetworkEventLoop.Phase} {wake : NetworkEventLoop.Wake} {o : NetworkEventLoop.Outcome}
    (hwake : from_outside wake = true)
    (h : NetworkEventLoop.resume alive s ph wake = some o) :
    (NetworkWaits o.phase ↔ TakesRequest ph wake) ∧ (TakesRequest ph wake → o.replies = []) := by
  cases wake with
  | swarm_event event =>
    obtain ⟨rfl, rfl⟩ := NetworkEventLoop.resume_swarm_event _ h
    by_cases hreq : ∃ peer request channel, event = .Request peer request channel
    · obtain ⟨peer, request, channel, rfl⟩ := hreq
      exact ⟨Iff.rfl, fun _ => rfl⟩
    · -- any other event is handled without a suspension
      have hother : ¬ TakesRequest .select (.swarm_event event) := by
        cases event with
        | Request peer request channel => exact absurd ⟨_, _, _, rfl⟩ hreq
        | _ => exact id
      have hsettled := NetworkEventLoop.handle_event_settled alive s
        (fun peer request channel heq => hreq ⟨peer, request, channel, heq⟩)
      exact ⟨iff_of_false (not_networkWaits_of_settled hsettled) hother,
        fun ht => absurd ht hother⟩
  | command c swarm =>
    obtain ⟨rfl, rfl⟩ := NetworkEventLoop.resume_command _ h
    exact ⟨iff_of_false (not_networkWaits_of_command alive s swarm c) id, fun ht => ht.elim⟩
  | read content =>
    obtain ⟨peer_id, rfl, ⟨e, rfl, rfl⟩ | ⟨stream_req, rfl, rfl⟩⟩ :=
      NetworkEventLoop.resume_read _ h
    · exact ⟨Iff.rfl, fun _ => rfl⟩
    · -- a response that was read answers a caller and leaves the handler alone
      obtain ⟨request_id, request | response⟩ := stream_req
      · exact ⟨iff_of_true trivial ⟨request, rfl⟩, fun _ => rfl⟩
      · have hother : ¬ TakesRequest (.read_to_end peer_id)
            (.read (.ok ⟨request_id, .Response response⟩)) := fun ⟨_, heq⟩ => by cases heq
        refine ⟨iff_of_false ?_ hother, fun ht => absurd ht hother⟩
        simp only [NetworkEventLoop.handle_stream_req]
        split
        · split <;> exact id
        · exact id
  -- these three wakes come from the handler
  | event_taken => cases hwake
  | event_receiver_dropped => cases hwake
  | response response => cases hwake
  | opened result =>
    obtain ⟨peer_id, stream_req, sender, rfl, ⟨e, rfl, rfl⟩ | ⟨rfl, rfl⟩⟩ :=
      NetworkEventLoop.resume_opened _ h
    · exact ⟨Iff.rfl, fun _ => rfl⟩
    · exact ⟨Iff.rfl, fun _ => rfl⟩
  | written result =>
    obtain ⟨peer_id, stream_req, sender, rfl, ⟨e, rfl, rfl⟩ | ⟨rfl, rfl⟩⟩ :=
      NetworkEventLoop.resume_written _ h
    · exact ⟨Iff.rfl, fun _ => rfl⟩
    · exact ⟨Iff.rfl, fun _ => rfl⟩
  | commands_closed =>
    obtain ⟨rfl, rfl⟩ := NetworkEventLoop.resume_commands_closed _ h
    exact ⟨Iff.rfl, fun _ => rfl⟩
  | incoming peer_id =>
    obtain ⟨rfl, rfl⟩ := NetworkEventLoop.resume_incoming _ h
    exact ⟨Iff.rfl, fun _ => rfl⟩
  | closed =>
    obtain ⟨rfl, rfl⟩ := NetworkEventLoop.resume_closed _ h
    exact ⟨Iff.rfl, fun _ => rfl⟩

theorem not_handlerWaits_finish (env : HandlerEnv) (s : HandlerLoop) (after : HandlerLoop.After) :
    ¬ HandlerWaits (HandlerLoop.finish env s after).phase := by
  cases after with
  | done => exact id
  | modify_config mode =>
    simp only [HandlerLoop.finish]
    split <;> exact id

theorem stop_proxy_waits_iff (env : HandlerEnv) (s : HandlerLoop) (mode : ProxyMode) :
    HandlerWaits (HandlerLoop.stop_proxy env s mode).phase ↔ mode = .ProxyProvider := by
  cases mode with
  | ProxyProvider => exact iff_of_true trivial rfl
  | ProxyClient session_id =>
    exact iff_of_false (not_handlerWaits_finish env s _) (by simp)

/-- Handling an event waits for the network loop exactly when it sends a command. -/
theorem handle_event_waits_iff (env : HandlerEnv) (s : HandlerLoop) (event : OrcaNetEvent) :
    HandlerWaits (HandlerLoop.handle_event env s event).phase ↔ IssuesCommand env s event := by
  cases event with
  | Request request from_peer channel =>
    simp only [HandlerLoop.handle_event, IssuesCommand]
    split <;> simp_all [HandlerWaits, HandlerLoop.suspend]
  | StreamRequest request from_peer =>
    simp only [HandlerLoop.handle_event, IssuesCommand]
    split <;> simp [HandlerWaits, HandlerLoop.suspend]
  | ProvideFile file_id file_path =>
    simp only [HandlerLoop.handle_event, IssuesCommand]
    -- a command is sent only after the path, the connection and the insert went well
    cases hname : env.get_file_name_from_path file_path with
    | none => simp [HandlerWaits, HandlerLoop.suspend]
    | some file_name =>
      by_cases hpath : env.path_exists file_path
      · cases hconn : env.db_fault (.create_sqlite_connection .provided_files) with
        | some e => simp [HandlerWaits, HandlerLoop.suspend, hpath]
        | none =>
          simp only [hpath, if_true, Option.some.injEq, exists_eq_left', true_and]
          split
          · rename_i db hins
            simp [hins, HandlerWaits, HandlerLoop.suspend]
          · rename_i e db hins
            simp [hins, HandlerWaits, HandlerLoop.suspend]
      · simp [HandlerWaits, HandlerLoop.suspend, hpath]
  | StopProvidingFile file_id permanent =>
    simp only [HandlerLoop.handle_event, IssuesCommand, HandlerLoop.with_provided_files]
    split <;> simp_all [HandlerWaits, HandlerLoop.suspend]
  | StartProxy mode =>
    simp only [HandlerLoop.handle_event, IssuesCommand]
    cases hserver : s.proxy_event_sender with
    | some server => simp [HandlerWaits, HandlerLoop.suspend]
    | none =>
      cases mode with
      | ProxyProvider => simp [HandlerWaits, HandlerLoop.suspend]
      | ProxyClient session_id =>
        -- a client's end needs no record
        exact iff_of_false (not_handlerWaits_finish env _ _) (by simp)
  | StopProxy =>
    simp only [HandlerLoop.handle_event, IssuesCommand]
    cases hmode : s.config.get_proxy_config with
    | none => simp [HandlerWaits, HandlerLoop.suspend]
    | some mode =>
      cases hserver : s.proxy_event_sender with
      | some server => simp [HandlerWaits, HandlerLoop.suspend]
      | none => simpa using stop_proxy_waits_iff env s mode

/-- Replies reach the handler only where it waits for one, and end that wait. -/
theorem deliver_cases (env : HandlerEnv) (s : State) (replies : List (Sender × Reply)) :
    deliver env s replies = s ∨ replies ≠ [] ∧ ∃ after,
      deliver env s replies = set_handler s (HandlerLoop.finish env s.handler after) := by
  unfold deliver
  split
  · split
    · rename_i sender after _ hmem
      exact Or.inr ⟨List.ne_nil_of_mem (List.mem_map.mp hmem).choose_spec.1, after, rfl⟩
    · exact Or.inl rfl
  · exact Or.inl rfl

theorem network_phase_deliver (env : HandlerEnv) (s : State) (replies : List (Sender × Reply)) :
    (deliver env s replies).network_phase = s.network_phase := by
  rcases deliver_cases env s replies with h | ⟨-, after, h⟩
  · rw [h]
  · rw [h]
    rfl

theorem handler_phase_respond (s : State) (event : OrcaNetEvent)
    (response : Option (OrcaNetResponse F64)) :
    (respond s event response).handler_phase = s.handler_phase := by
  unfold respond
  split
  · split <;> rfl
  · rfl

/-- A response is sent for a stream request only, whose handling sends no command. -/
theorem respond_of_issuesCommand {env : HandlerEnv} {handler : HandlerLoop} {event : OrcaNetEvent}
    (h : IssuesCommand env handler event) (s : State) (response : Option (OrcaNetResponse F64)) :
    respond s event response = s := by
  cases event with
  | StreamRequest request from_peer => exact h.elim
  | _ => rfl

/-- A step ends in a deadlock exactly when it starts the second of two waits. -/
theorem not_deadlocked_iff {s s' : State} {l : Label} (h : next s l = some s') :
    ¬ Deadlocked s' ↔ OneAtATime s l := by
  cases l with
  | network wake alive env =>
    obtain ⟨hwake, o, ho, rfl⟩ := next_network h
    obtain ⟨hwaits, hreplies⟩ := networkWaits_iff hwake ho
    -- taking a request in sends no reply, so the handler stays where it is; every
    -- other wake-up leaves the network loop in no wait for the handler
    by_cases htakes : TakesRequest s.network_phase wake
    · have hsame : deliver env (set_network s o) o.replies = set_network s o :=
        (deliver_cases env _ _).resolve_right fun hne => hne.1 (hreplies htakes)
      rw [hsame]
      simp [Deadlocked, OneAtATime, set_network, htakes, hwaits]
    · refine iff_of_true (fun hdead => htakes (hwaits.mp ?_)) fun ht => absurd ht htakes
      have hw := hdead.1
      rwa [network_phase_deliver] at hw
  | local_event event env =>
    obtain ⟨-, -, rfl⟩ := next_local_event h
    exact iff_of_true (fun hdead => hdead.2) trivial
  | take_event env =>
    obtain ⟨-, ⟨_, _, _, -, rfl⟩ | ⟨_, _, _, -, rfl⟩⟩ := next_take_event h <;>
      exact iff_of_true (fun hdead => hdead.2) trivial
  | handle env =>
    obtain ⟨event, hph, rfl⟩ := next_handle h
    have hwaits := handle_event_waits_iff env s.handler event
    simp only [OneAtATime, hph, HandlerLoop.Phase.handle_event.injEq, forall_eq']
    -- a command is issued for events that are no stream requests, and these leave
    -- the network loop where it is
    by_cases hissues : IssuesCommand env s.handler event
    · rw [respond_of_issuesCommand hissues]
      simp [Deadlocked, set_handler, hissues, hwaits]
    · refine iff_of_true (fun hdead => hissues (hwaits.mp ?_)) fun hi => absurd hi hissues
      have hw := hdead.2
      rwa [handler_phase_respond] at hw
  | take_command swarm alive env =>
    obtain ⟨c, o, -, -, -, rfl⟩ := next_take_command h
    -- a command never makes the network loop wait for the handler
    exact iff_of_true (fun hdead => not_networkWaits_of_command alive s.network swarm c hdead.1)
      trivial
  | proxy_event_sent env =>
    obtain ⟨server, mode, hph, rfl⟩ := next_proxy_event_sent h
    have hwaits := stop_proxy_waits_iff env s.handler mode
    simp only [Deadlocked, set_handler, hwaits, OneAtATime, hph,
      HandlerLoop.Phase.send_proxy_event.injEq, not_and']
    exact ⟨fun hn _ hm => hn hm.2, fun hn hm => hn server ⟨rfl, hm⟩⟩
  | network_gone wake env =>
    obtain ⟨-, message, rfl⟩ := next_network_gone h
    exact iff_of_true (fun hdead => hdead.2) trivial
  | handler_gone wake =>
    obtain ⟨-, message, rfl⟩ := next_handler_gone h
    exact iff_of_true (fun hdead => hdead.1) trivial

/-! ## Section 5: Deadlock freedom -/

theorem resume_of_networkWaits {ph : NetworkEventLoop.Phase} (h : NetworkWaits ph)
    (alive : Sender → Bool) (s : NetworkEventLoop) {wake : NetworkEventLoop.Wake}
    (hwake : from_outside wake = true) : NetworkEventLoop.resume alive s ph wake = none := by
  cases ph with
  | send_request_event request from_peer channel => cases wake <;> first | rfl | cases hwake
  | send_stream_request_event peer_id id request => cases wake <;> first | rfl | cases hwake
  | receive_response peer_id request_id => cases wake <;> first | rfl | cases hwake
  | _ => exact h.elim

/-- A deadlock is final: neither loop takes another step. -/
theorem stuck_of_deadlocked {s : State} (h : Deadlocked s) (l : Label) : next s l = none := by
  obtain ⟨hnetwork, hhandler⟩ := h
  rw [Option.eq_none_iff_forall_ne_some]
  intro s' hnext
  cases l with
  | network wake alive env =>
    obtain ⟨hwake, o, ho, -⟩ := next_network hnext
    rw [resume_of_networkWaits hnetwork _ _ hwake] at ho
    cases ho
  | local_event event env =>
    obtain ⟨-, hph, -⟩ := next_local_event hnext
    rwa [hph] at hhandler
  | take_event env => rwa [(next_take_event hnext).1] at hhandler
  | handle env =>
    obtain ⟨event, hph, -⟩ := next_handle hnext
    rwa [hph] at hhandler
  | take_command swarm alive env =>
    obtain ⟨c, o, -, hph, -⟩ := next_take_command hnext
    rwa [hph] at hnetwork
  | proxy_event_sent env =>
    obtain ⟨server, mode, hph, -⟩ := next_proxy_event_sent hnext
    rwa [hph] at hhandler
  | network_gone wake env =>
    obtain ⟨hph | ⟨message, hph⟩, -⟩ := next_network_gone hnext <;> rwa [hph] at hnetwork
  | handler_gone wake =>
    obtain ⟨⟨message, hph⟩, -⟩ := next_handler_gone hnext
    rwa [hph] at hhandler

/-- **Deadlock freedom.**  A run never ends a step with both loops waiting for
    each other exactly when the network loop takes no request in while the
    handler waits for it, and the handler sends no command while the network
    loop waits for it. -/
theorem deadlock_free_iff (s : State) (ls : List Label) :
    system.AllSteps (fun _ _ t => ¬ Deadlocked t) s ls ↔
      system.AllSteps (fun t l _ => OneAtATime t l) s ls :=
  system.allSteps_iff (J := fun _ => True) (fun _ _ _ _ hnext => not_deadlocked_iff hnext)
    (fun _ _ _ _ _ _ => trivial) ls trivial

def idleNode : State where
  network := .new
  network_phase := .select
  handler := ⟨.empty, sampleConfig, none, 0⟩
  handler_phase := .next_event

/-- A stream comes in while the handler provides a file. -/
def crossingRun : List Label :=
  [.local_event (.ProvideFile "file" "path") .working,
   .handle .working,
   .network (.incoming ⟨"peer"⟩) (fun _ => true) .working,
   .network (.read (.ok ⟨"id", .Request (.FileMetadataRequest "other")⟩)) (fun _ => true)
     .working]

theorem crossingRun_isSome : (system.run idleNode crossingRun).isSome := by
  with_unfolding_all rfl

theorem deadlocked_crossingRun :
    ∃ s, system.Reachable s ∧ Deadlocked s :=
  ⟨(system.run idleNode crossingRun).get crossingRun_isSome,
    .run crossingRun (.init ⟨rfl, rfl⟩) (Option.some_get crossingRun_isSome).symm, by
      with_unfolding_all exact ⟨trivial, trivial⟩⟩

/-! ## Section 6: Handing a stream request over -/

/-- The network loop waits for a response exactly while the handler handles its
    stream request. -/
structure Synced (s : State) : Prop where
  handling : ∀ peer_id request_id, s.network_phase = .receive_response peer_id request_id →
    ∃ request, s.handler_phase.event = some (.StreamRequest request peer_id)
  waiting : ∀ request peer_id, s.handler_phase.event = some (.StreamRequest request peer_id) →
    ∃ request_id, s.network_phase = .receive_response peer_id request_id

/-- Neither loop is in the middle of a stream request. -/
theorem synced_of_no_request {s : State}
    (hnetwork : ∀ peer_id request_id, s.network_phase ≠ .receive_response peer_id request_id)
    (hhandler : ∀ request peer_id,
      s.handler_phase.event ≠ some (.StreamRequest request peer_id)) : Synced s :=
  ⟨fun _ _ h => absurd h (hnetwork _ _), fun _ _ h => absurd h (hhandler _ _)⟩

/-- While the handler handles no stream request, the network loop waits for no
    response. -/
theorem Synced.no_response {s : State} (h : Synced s)
    (hhandler : ∀ request peer_id,
      s.handler_phase.event ≠ some (.StreamRequest request peer_id)) (peer_id : PeerId)
    (request_id : String) : s.network_phase ≠ .receive_response peer_id request_id := by
  intro hph
  obtain ⟨request, hrequest⟩ := h.handling _ _ hph
  exact hhandler _ _ hrequest

/-- No wake-up from outside starts or ends the wait for a response. -/
theorem ne_receive_response {alive : Sender → Bool} {s : NetworkEventLoop}
    {ph : NetworkEventLoop.Phase} {wake : NetworkEventLoop.Wake} {o : NetworkEventLoop.Outcome}
    (hwake : from_outside wake = true) (h : NetworkEventLoop.resume alive s ph wake = some o)
    (peer_id : PeerId) (request_id : String) :
    ph ≠ .receive_response peer_id request_id ∧ o.phase ≠ .receive_response peer_id request_id := by
  constructor
  · rintro rfl
    have hwaits : NetworkWaits (.receive_response peer_id request_id) := trivial
    rw [resume_of_networkWaits hwaits alive s hwake] at h
    cases h
  · intro ho
    -- a segment that ends in a wait took a request in, and then it is still sending the event
    have htakes := (networkWaits_iff hwake h).1.mp (ho ▸ trivial)
    cases ph with
    | select =>
      cases wake with
      | swarm_event event =>
        cases event with
        | Request peer request channel =>
          obtain rfl := Option.some.inj h
          cases ho
        | _ => exact htakes.elim
      | _ => exact htakes.elim
    | read_to_end peer =>
      cases wake with
      | read content =>
        cases content with
        | ok stream_req =>
          obtain ⟨id, data⟩ := stream_req
          obtain ⟨request, rfl⟩ := htakes
          obtain rfl := Option.some.inj h
          cases ho
        | error e => exact htakes.elim
      | _ => exact htakes.elim
    | _ => exact htakes.elim

/-- The response to a stream request goes out in a stream of its own. -/
theorem respond_of_waiting {s : State} {request : OrcaNetRequest F64} {peer_id : PeerId}
    {request_id : String} (h : s.network_phase = .receive_response peer_id request_id)
    (response : Option (OrcaNetResponse F64)) :
    respond s (.StreamRequest request peer_id) response =
      { s with network_phase := match response with
        | some response => .open_stream peer_id ⟨request_id, .Response response⟩ none
        | none => .panicked "Sender not to be dropped" } := by
  cases response <;> simp [respond, h, NetworkEventLoop.resume, set_network]

/-- Replies reach no handler that handles an event. -/
theorem deliver_event (env : HandlerEnv) (s : State) (replies : List (Sender × Reply)) :
    (deliver env s replies).handler_phase.event = s.handler_phase.event := by
  unfold deliver
  split
  · rename_i sender after hph
    split
    · rw [hph]
      exact (HandlerLoop.finish_phase env s.handler after).1
    · rfl
  · rfl

theorem deliver_sender {env : HandlerEnv} {s : State} {replies : List (Sender × Reply)}
    {sender : Sender} (h : (deliver env s replies).handler_phase.sender = some sender) :
    s.handler_phase.sender = some sender := by
  rcases deliver_cases env s replies with hsame | ⟨-, after, hfinish⟩
  · rwa [hsame] at h
  · rw [hfinish] at h
    have hnone := (HandlerLoop.finish_phase env s.handler after).2
    exact absurd h (by simp [set_handler, hnone])

theorem deliver_network (env : HandlerEnv) (s : State) (replies : List (Sender × Reply)) :
    (deliver env s replies).network = s.network := by
  rcases deliver_cases env s replies with h | ⟨-, after, h⟩
  · rw [h]
  · rw [h]
    rfl

theorem deliver_nil (env : HandlerEnv) (s : State) : deliver env s [] = s :=
  (deliver_cases env s []).resolve_right fun h => h.1 rfl

theorem synced_step {s s' : State} {l : Label} (hinv : Synced s) (h : next s l = some s') :
    Synced s' := by
  cases l with
  | network wake alive env =>
    obtain ⟨hwake, o, ho, rfl⟩ := next_network h
    refine synced_of_no_request (fun peer_id request_id => ?_) fun request peer_id hevent => ?_
    · rw [network_phase_deliver]
      exact (ne_receive_response hwake ho peer_id request_id).2
    · rw [deliver_event] at hevent
      obtain ⟨request_id, hph⟩ := hinv.waiting _ _ hevent
      exact (ne_receive_response hwake ho peer_id request_id).1 hph
  | local_event event env =>
    obtain ⟨hlocal, hph, rfl⟩ := next_local_event h
    refine synced_of_no_request (hinv.no_response (by simp [hph, HandlerLoop.Phase.event])) ?_
    rintro request peer_id hevent
    obtain rfl := Option.some.inj hevent
    cases hlocal
  | take_event env =>
    obtain ⟨-, ⟨request, from_peer, channel, -, rfl⟩ | ⟨peer_id, request_id, request, -, rfl⟩⟩ :=
      next_take_event h
    · exact synced_of_no_request (by simp) (by simp [HandlerLoop.Phase.event])
    · refine ⟨fun _ _ hph => ?_, fun _ _ hevent => ?_⟩
      · cases hph
        exact ⟨request, rfl⟩
      · cases hevent
        exact ⟨request_id, rfl⟩
  | handle env =>
    obtain ⟨event, hph, rfl⟩ := next_handle h
    have hnone := (HandlerLoop.handle_event_phase env s.handler event).1
    refine synced_of_no_request (fun peer_id request_id hnetwork => ?_) fun request peer_id => ?_
    · cases event with
      -- the response ends the wait of the network loop
      | StreamRequest request from_peer =>
        obtain ⟨id, hwaiting⟩ := hinv.waiting request from_peer (by rw [hph]; rfl)
        rw [respond_of_waiting (by exact hwaiting)] at hnetwork
        simp only at hnetwork
        split at hnetwork <;> cases hnetwork
      | _ => exact hinv.no_response (by simp [hph, HandlerLoop.Phase.event]) _ _ hnetwork
    · rw [handler_phase_respond]
      simp [set_handler, hnone]
  | take_command swarm alive env =>
    obtain ⟨c, o, hc, -, ho, rfl⟩ := next_take_command h
    refine synced_of_no_request (fun peer_id request_id hph => ?_) fun request peer_id hevent => ?_
    · have hwaits := not_networkWaits_of_command alive s.network swarm c
      rw [show (NetworkEventLoop.handle_command alive s.network swarm c).phase = _ from hph]
        at hwaits
      exact hwaits trivial
    · simp [set_handler, (HandlerLoop.command_taken_phase ho).1] at hevent
  | proxy_event_sent env =>
    obtain ⟨server, mode, hph, rfl⟩ := next_proxy_event_sent h
    have hnone := (HandlerLoop.stop_proxy_phase env s.handler mode).1
    refine synced_of_no_request (hinv.no_response (by simp [hph, HandlerLoop.Phase.event])) ?_
    simp [set_handler, hnone]
  | network_gone wake env =>
    obtain ⟨hph, message, rfl⟩ := next_network_gone h
    refine synced_of_no_request (fun _ _ hresp => ?_) (by simp [HandlerLoop.Phase.event])
    rcases hph with hph | ⟨m, hph⟩ <;> rw [hph] at hresp <;> cases hresp
  | handler_gone wake =>
    obtain ⟨⟨m, hph⟩, message, rfl⟩ := next_handler_gone h
    exact synced_of_no_request (by simp) (by simp [hph, HandlerLoop.Phase.event])

end NodeLoops

end OrcaNet
