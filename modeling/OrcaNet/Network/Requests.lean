import OrcaNet.Framework.CallLedger
import OrcaNet.Network.StreamRequests

/-! # Requests between nodes

    The other way for two nodes to talk: libp2p's request-response protocol,
    which carries the proxy protocol and the metadata requests.  libp2p knows a
    call of `send_request` by its `OutboundRequestId`; the peer is given a
    `ResponseChannel` with the request, and what its handler sends into the
    channel comes back under the id.

    Any number of nodes, each with the two loops of `NodeLoops`, and what libp2p
    carries between them: it numbers the calls of a node, hands every request
    over at most once, with its true sender and a new channel, and every
    response at most once.  Everything may be lost, and libp2p may report a
    failure at any time.

    `Effect` lists what a step of one node can do to the requests that it has in
    hand. -/

namespace OrcaNet

open Transition

/-- The command of `send_request`. -/
def NetworkClient.send_request (peer : PeerId) (request : OrcaNetRequest F64) (sender : Sender) :
    NetworkCommand :=
  .Request request peer sender

/-! ## Section 1: Segments of the network loop -/

namespace NetworkEventLoop

/-- The sender that a suspended `SendInStream` has in hand. -/
def Phase.sender : Phase → Option Sender
  | .open_stream _ _ sender => sender
  | .write_all _ _ sender => sender
  | _ => none

/-- A caller of anything but a request waits for its answer. -/
inductive AwaitsElse (s : NetworkEventLoop) (sender : Sender) : Prop where
  | dial {k} (h : s.pending_dial k = some sender)
  | start_providing {k} (h : s.pending_start_providing k = some sender)
  | get_providers {k} (h : s.pending_get_providers k = some sender)
  | put_kv {k} (h : s.pending_put_kv k = some sender)
  | get_value {k} (h : s.pending_get_value k = some sender)
  | stream_request {k} (h : s.pending_stream_requests k = some sender)

def HoldsElse (s : NetworkEventLoop) (ph : Phase) (sender : Sender) : Prop :=
  s.AwaitsElse sender ∨ ph.sender = some sender

/-- The segment leaves the requests alone, and remembers and answers callers of
    other commands only. -/
structure KeepsRequests (s : NetworkEventLoop) (ph : Phase) (o : Outcome)
    (caller : Option Sender) : Prop where
  pending : o.loop.pending_request = s.pending_request
  phase : ∀ request from_peer channel, o.phase ≠ .send_request_event request from_peer channel
  holds : ∀ sender, HoldsElse o.loop o.phase sender → HoldsElse s ph sender ∨ caller = some sender
  replies : ∀ sender reply, (sender, reply) ∈ o.replies →
    HoldsElse s ph sender ∨ caller = some sender

/-- The oneshot channel that comes with a wake-up. -/
def Wake.sender : Wake → Option Sender
  | .command c _ => c.sender
  | _ => none

/-- The wake-up belongs to a request. -/
def Wake.of_request : Wake → Bool
  | .command (.Request _ _ _) _ => true
  | .swarm_event (.Request _ _ _) => true
  | .swarm_event (.Response _ _) => true
  | .swarm_event (.OutboundFailure _ _) => true
  | _ => false

/-- What a segment has to do with requests. -/
inductive RequestMove (alive : Sender → Bool) (s : NetworkEventLoop) (ph : Phase) :
    Wake → Outcome → Prop where
  | call {request peer sender swarm} (hph : ph = .select) :
      RequestMove alive s ph (.command (NetworkClient.send_request peer request sender) swarm)
        ⟨.select,
          { s with pending_request := s.pending_request.insert swarm.send_request sender }, [],
          [.send_request peer request]⟩
  | take_in {peer request channel} (hph : ph = .select) :
      RequestMove alive s ph (.swarm_event (.Request peer request channel))
        ⟨.send_request_event request peer channel, s, [], []⟩
  | response {request_id response} (hph : ph = .select) :
      RequestMove alive s ph (.swarm_event (.Response request_id response))
        (complete_request alive s request_id (.ok response))
  | failure {request_id error} (hph : ph = .select) :
      RequestMove alive s ph (.swarm_event (.OutboundFailure request_id error))
        (complete_request alive s request_id (.error error))
  | keep {wake o} (hkeeps : KeepsRequests s ph o wake.sender) (hwake : wake.of_request = false) :
      RequestMove alive s ph wake o

section segments

variable {alive : Sender → Bool} {s : NetworkEventLoop} {ph : Phase}

theorem sender_of_settled {ph : Phase} (h : ph.Settled) : ph.sender = none := by
  rcases h with rfl | ⟨message, rfl⟩ <;> rfl

theorem ne_send_request_event_of_settled {ph : Phase} (h : ph.Settled)
    (request : OrcaNetRequest F64) (from_peer : PeerId) (channel : ResponseChannel) :
    ph ≠ .send_request_event request from_peer channel := by
  rcases h with rfl | ⟨message, rfl⟩ <;> nofun

/-- A segment that only moves on, in a phase that holds no sender of its own. -/
theorem keepsRequests_of_idle {ph' : Phase} (calls : List SwarmCall) (caller : Option Sender)
    (hph' : ∀ request from_peer channel, ph' ≠ .send_request_event request from_peer channel)
    (hsender : ∀ sender, ph'.sender = some sender → ph.sender = some sender) :
    KeepsRequests s ph ⟨ph', s, [], calls⟩ caller where
  pending := rfl
  phase := hph'
  holds sender h := Or.inl (h.imp_right (hsender sender))
  replies := by simp

/-- The data of a segment that ends in the `select!` or with a panic. -/
theorem keepsRequests_of_settled {o : Outcome} {caller : Option Sender} (hsettled : o.phase.Settled)
    (hpending : o.loop.pending_request = s.pending_request)
    (hawaits : ∀ sender, o.loop.AwaitsElse sender → s.AwaitsElse sender ∨ caller = some sender)
    (hreplies : ∀ sender reply, (sender, reply) ∈ o.replies →
      s.AwaitsElse sender ∨ caller = some sender) : KeepsRequests s ph o caller where
  pending := hpending
  phase := ne_send_request_event_of_settled hsettled
  holds sender h := by
    rcases h with h | h
    · exact (hawaits sender h).imp_left Or.inl
    · rw [sender_of_settled hsettled] at h
      cases h
  replies sender reply h := (hreplies sender reply h).imp_left Or.inl

theorem handle_kademlia_events_keepsRequests (query_id : kad.QueryId) (result : kad.QueryResult) :
    KeepsRequests s ph (handle_kademlia_events alive s query_id result) none := by
  refine keepsRequests_of_settled (handle_kademlia_events_settled alive s query_id result) ?_ ?_ ?_
    <;> fun_cases handle_kademlia_events alive s query_id result <;>
    simp only [send_expect_loop, send_expect_replies] <;>
    grind [send, AwaitsElse, Pending.of_remove]

theorem complete_dial_keepsRequests (peer_id : PeerId) (result : Except String Unit) :
    KeepsRequests s ph (complete_dial alive s peer_id result) none := by
  refine keepsRequests_of_settled ?_ ?_ ?_ ?_ <;>
    fun_cases complete_dial alive s peer_id result <;>
    grind [send, AwaitsElse, Pending.of_remove, Phase.Settled]

/-- Any other event leaves the requests alone. -/
theorem handle_event_keepsRequests {event : SwarmEvent}
    (h : (Wake.swarm_event event).of_request = false) :
    KeepsRequests s ph (handle_event alive s event) none := by
  have hidle : KeepsRequests s ph ⟨.select, s, [], []⟩ none :=
    keepsRequests_of_idle [] none nofun nofun
  cases event with
  | OutboundQueryProgressed id result => exact handle_kademlia_events_keepsRequests id result
  | Request peer request channel => cases h
  | Response request_id response => cases h
  | OutboundFailure request_id error => cases h
  | ConnectionEstablished peer_id is_dialer =>
    simp only [handle_event]
    split
    · exact complete_dial_keepsRequests peer_id _
    · exact hidle
  | OutgoingConnectionError peer_id error =>
    simp only [handle_event]
    split
    · exact complete_dial_keepsRequests _ _
    · exact hidle
  | other => exact hidle

/-- Any other command leaves the requests alone. -/
theorem handle_command_keepsRequests (swarm : Swarm) {c : NetworkCommand}
    (h : (Wake.command c swarm).of_request = false) :
    KeepsRequests s ph (handle_command alive s swarm c) c.sender := by
  by_cases hstream : ∃ peer_id stream_req sender, c = .SendInStream peer_id stream_req sender
  · -- the sender goes into the phase
    obtain ⟨peer_id, stream_req, sender, rfl⟩ := hstream
    refine ⟨rfl, nofun, fun x hx => ?_, by simp [handle_command]⟩
    exact hx.imp_left Or.inl
  · have hsettled := handle_command_settled_of_ne alive s swarm (c := c)
      fun peer_id stream_req sender hc => hstream ⟨peer_id, stream_req, sender, hc⟩
    refine keepsRequests_of_settled hsettled ?_ ?_ ?_ <;>
      fun_cases handle_command alive s swarm c <;>
      first
      | exact absurd ⟨_, _, _, rfl⟩ hstream
      | grind [NetworkCommand.sender, Wake.of_request, send, AwaitsElse, Pending.of_insert]

theorem register_keepsRequests {peer_id : PeerId} {stream_req : StreamReq F64}
    {sender : Option Sender} :
    KeepsRequests s (.write_all peer_id stream_req sender)
      ⟨.close, register_stream_request s stream_req.request_id sender, [], []⟩ none := by
  cases sender with
  | none => exact keepsRequests_of_idle [] none nofun nofun
  | some caller =>
    refine ⟨rfl, nofun, fun x hx => Or.inl ?_, by simp⟩
    -- the sender goes from the phase into the map
    rcases hx with hx | hx
    · cases hx with
      | stream_request hx =>
        exact (Pending.of_insert hx).imp .stream_request (congrArg some)
      | dial hx => exact Or.inl (.dial hx)
      | start_providing hx => exact Or.inl (.start_providing hx)
      | get_providers hx => exact Or.inl (.get_providers hx)
      | put_kv hx => exact Or.inl (.put_kv hx)
      | get_value hx => exact Or.inl (.get_value hx)
    · cases hx

theorem handle_stream_req_keepsRequests (peer_id : PeerId) (stream_req : StreamReq F64) :
    KeepsRequests s ph (handle_stream_req alive s peer_id stream_req) none := by
  obtain ⟨request_id, request | response⟩ := stream_req
  · exact keepsRequests_of_idle [] none nofun nofun
  · refine keepsRequests_of_settled ?_ ?_ ?_ ?_ <;>
      fun_cases handle_stream_req alive s peer_id ⟨request_id, .Response response⟩ <;>
      grind [AwaitsElse, Pending.of_remove, Phase.Settled]

theorem resume_requestMove {wake : Wake} {o : Outcome} (h : resume alive s ph wake = some o) :
    RequestMove alive s ph wake o := by
  cases wake with
  | swarm_event event =>
    obtain ⟨hph, rfl⟩ := resume_swarm_event _ h
    cases event with
    | Request peer request channel => exact .take_in hph
    | Response request_id response => exact .response hph
    | OutboundFailure request_id error => exact .failure hph
    | _ => exact .keep (handle_event_keepsRequests rfl) rfl
  | command c swarm =>
    obtain ⟨hph, rfl⟩ := resume_command _ h
    cases c with
    | Request request peer sender => exact .call hph
    | _ => exact .keep (handle_command_keepsRequests swarm rfl) rfl
  | commands_closed =>
    obtain ⟨-, rfl⟩ := resume_commands_closed _ h
    exact .keep (keepsRequests_of_idle [] none nofun nofun) rfl
  | incoming peer_id =>
    obtain ⟨-, rfl⟩ := resume_incoming _ h
    exact .keep (keepsRequests_of_idle [] none nofun nofun) rfl
  | read content =>
    obtain ⟨peer_id, -, ⟨e, rfl, rfl⟩ | ⟨stream_req, rfl, rfl⟩⟩ := resume_read _ h
    · exact .keep (keepsRequests_of_idle [] none nofun nofun) rfl
    · exact .keep (handle_stream_req_keepsRequests peer_id stream_req) rfl
  | opened result =>
    obtain ⟨peer_id, stream_req, sender, rfl, ⟨e, rfl, rfl⟩ | ⟨rfl, rfl⟩⟩ := resume_opened _ h
    · exact .keep (keepsRequests_of_idle [] none nofun nofun) rfl
    · exact .keep (keepsRequests_of_idle [] none nofun fun _ hs => hs) rfl
  | written result =>
    obtain ⟨peer_id, stream_req, sender, rfl, ⟨e, rfl, rfl⟩ | ⟨rfl, rfl⟩⟩ := resume_written _ h
    · exact .keep (keepsRequests_of_idle [] none nofun nofun) rfl
    · exact .keep register_keepsRequests rfl
  | closed =>
    obtain ⟨-, rfl⟩ := resume_closed _ h
    exact .keep (keepsRequests_of_idle [] none nofun nofun) rfl
  -- the wake-ups that come from the handler
  | event_taken =>
    refine .keep ?_ rfl
    cases ph <;> cases h <;> exact keepsRequests_of_idle [] none nofun nofun
  | event_receiver_dropped =>
    refine .keep ?_ rfl
    cases ph <;> cases h <;> exact keepsRequests_of_idle [] none nofun nofun
  | response response =>
    refine .keep ?_ rfl
    cases ph <;> cases response <;> cases h <;>
      exact keepsRequests_of_idle _ none nofun nofun

end segments

end NetworkEventLoop

namespace Requests

/-! ## Section 2: System -/

/-- A call among those of all nodes. -/
abbrev CallId : Type := PeerId × OutboundRequestId

/-- A call of `send_request`. -/
structure Call where
  caller : PeerId
  peer : PeerId
  request : OrcaNetRequest F64
  request_id : OutboundRequestId
  sender : Sender

def Call.id (c : Call) : CallId := (c.caller, c.request_id)

/-- A request that a handler handled, and what it handled it with. -/
structure Handled where
  peer : PeerId
  /-- The call that the response channel belongs to. -/
  id : Option CallId
  from_peer : PeerId
  request : OrcaNetRequest F64
  config : OrcaNetConfig
  env : Env
  db : Database

/-- What `handle_request` produced. -/
def Handled.response (h : Handled) : Option (OrcaNetResponse F64) :=
  RequestHandlerLoop.response
    (RequestHandlerLoop.handle_request h.config h.env h.request h.from_peer h.db)

structure State where
  node : PeerId → NodeLoops.State
  /-- The requests on their way, with the peer that each is for. -/
  requests : CallId → Option (PeerId × OrcaNetRequest F64)
  /-- The call that each response channel of a node belongs to. -/
  channels : PeerId × ResponseChannel → Option CallId
  /-- The responses on their way. -/
  responses : CallId → Option (OrcaNetResponse F64)
  calls : List Call
  handled : List Handled
  /-- What was sent to oneshot channels, newest first. -/
  answers : List ((PeerId × Sender) × Reply)
  /-- The oneshot channels made so far. -/
  oneshots : List (PeerId × Sender)

/-- What the oneshot channel of a caller got. -/
def State.received (s : State) (peer : PeerId) (sender : Sender) : Option Reply :=
  (s.answers.find? fun p => p.1 = (peer, sender)).map Prod.snd

theorem State.mem_answers_of_received {s : State} {peer : PeerId} {sender : Sender} {reply : Reply}
    (h : s.received peer sender = some reply) : ((peer, sender), reply) ∈ s.answers := by
  obtain ⟨p, hfind, rfl⟩ := Option.map_eq_some_iff.mp h
  have hchannel : p.1 = (peer, sender) := by simpa using List.find?_some hfind
  exact hchannel ▸ List.mem_of_find?_eq_some hfind

/-- A step of one node. -/
structure Label where
  peer : PeerId
  step : NodeLoops.Label
  /-- Which request of its sender an incoming one is. -/
  request_id : OutboundRequestId

/-- What a step has to do with requests. -/
inductive Act where
  | call (c : Call)
  /-- libp2p hands a request over. -/
  | take_in (id : CallId) (request : OrcaNetRequest F64) (channel : ResponseChannel)
  | handle (request : OrcaNetRequest F64) (from_peer : PeerId) (channel : ResponseChannel)
      (env : Env)
  /-- The response is sent into its channel. -/
  | respond (response : OrcaNetResponse F64) (channel : ResponseChannel)
  /-- libp2p hands a response over. -/
  | complete (request_id : OutboundRequestId) (response : OrcaNetResponse F64)
  | other

def act (n : NodeLoops.State) (l : Label) : Act :=
  match l.step with
  | .network (.command (.Request request peer sender) swarm) _ _ =>
    .call ⟨l.peer, peer, request, swarm.send_request, sender⟩
  | .network (.swarm_event (.Request from_peer request channel)) _ _ =>
    .take_in (from_peer, l.request_id) request channel
  | .network (.swarm_event (.Response request_id response)) _ _ => .complete request_id response
  | .handle env =>
    match n.handler_phase with
    | .handle_event (.Request request from_peer channel) =>
      .handle request from_peer channel env.toEnv
    | _ => .other
  | .take_command swarm _ _ =>
    match n.handler_phase, swarm.send_response with
    | .respond response channel, .ok () => .respond response channel
    | _, _ => .other
  | _ => .other

/-- What holds of the steps of a node: a oneshot channel is new; so are the id
    of a call and the response channel of a request; what is handed over was on
    its way; and only the handler responds. -/
def allowed (s : State) (l : Label) : Bool :=
  (StreamRequests.new_oneshot l.step).all (fun sender => !s.oneshots.contains (l.peer, sender)) &&
  (match act (s.node l.peer) l with
  | .call c => decide (c.id ∉ s.calls.map Call.id)
  | .take_in id request channel =>
    decide (s.requests id = some (l.peer, request) ∧ s.channels (l.peer, channel) = none)
  | .complete request_id response =>
    decide (s.responses (l.peer, request_id) = some response)
  | _ => true) &&
  match l.step with
  | .network (.command (.Respond _ _) _) _ _ => false
  | _ => true

/-- The node takes the step, and what it sends to oneshot channels is noted. -/
def base (s : State) (l : Label) (n : NodeLoops.State) : State :=
  { s with
    node := Function.update s.node l.peer n
    answers := (StreamRequests.replies (s.node l.peer) l.step).map (fun p =>
      ((l.peer, p.1), p.2)) ++ s.answers
    oneshots := (StreamRequests.new_oneshot l.step).toList.map (fun sender =>
      (l.peer, sender)) ++ s.oneshots }

/-- The rest of the network is adjusted. -/
def record (s : State) (l : Label) (n : NodeLoops.State) : State :=
  match act (s.node l.peer) l with
  | .call c =>
    { base s l n with
      calls := c :: s.calls
      requests := Function.update s.requests c.id (some (c.peer, c.request)) }
  | .take_in id _ channel =>
    { base s l n with
      requests := Function.update s.requests id none
      channels := Function.update s.channels (l.peer, channel) (some id) }
  | .handle request from_peer channel env =>
    { base s l n with
      handled := ⟨l.peer, s.channels (l.peer, channel), from_peer, request,
        (s.node l.peer).handler.config, env, (s.node l.peer).handler.db⟩ :: s.handled }
  | .respond response channel =>
    match s.channels (l.peer, channel) with
    | some id => { base s l n with responses := Function.update s.responses id (some response) }
    | none => base s l n
  | .complete request_id _ =>
    { base s l n with responses := Function.update s.responses (l.peer, request_id) none }
  | .other => base s l n

def next (s : State) (l : Label) : Option State :=
  if allowed s l then (NodeLoops.next (s.node l.peer) l.step).map (record s l) else none

/-- A step of the network is a recorded step of one node. -/
theorem next_eq_some {s s' : State} {l : Label} (h : next s l = some s') :
    allowed s l = true ∧
      ∃ n', NodeLoops.next (s.node l.peer) l.step = some n' ∧ s' = record s l n' := by
  obtain ⟨hallowed, hmap⟩ := Option.ite_none_right_eq_some.mp h
  obtain ⟨n', hnext, rfl⟩ := Option.map_eq_some_iff.mp hmap
  exact ⟨hallowed, n', hnext, rfl⟩

/-- Every node starts with empty maps, each with its own database and
    configuration. -/
def system : System State Label where
  init := fun s => (∀ peer, NodeLoops.system.init (s.node peer) ∧ (s.node peer).network = .new) ∧
    (∀ id, s.requests id = none) ∧ (∀ p, s.channels p = none) ∧ (∀ id, s.responses id = none) ∧
    s.calls = [] ∧ s.handled = [] ∧ s.answers = [] ∧ s.oneshots = []
  next := next

def idleNetwork : State where
  node := fun _ => NodeLoops.idleNode
  requests := fun _ => none
  channels := fun _ => none
  responses := fun _ => none
  calls := []
  handled := []
  answers := []
  oneshots := []

/-! ## Section 3: What a node holds -/

/-- The response that the handler is sending, with its channel. -/
def responding : HandlerLoop.Phase → Option (OrcaNetResponse F64 × ResponseChannel)
  | .respond response channel => some (response, channel)
  | _ => none

theorem responding_finish (env : HandlerEnv) (s : HandlerLoop) (after : HandlerLoop.After) :
    responding (HandlerLoop.finish env s after).phase = none := by
  cases after with
  | done => rfl
  | modify_config mode =>
    simp only [HandlerLoop.finish]
    split <;> rfl

theorem responding_stop_proxy (env : HandlerEnv) (s : HandlerLoop) (mode : ProxyMode) :
    responding (HandlerLoop.stop_proxy env s mode).phase = none := by
  cases mode with
  | ProxyProvider => rfl
  | ProxyClient session_id => exact responding_finish env s _

/-- Only a request is responded to through a channel. -/
theorem responding_handle_event (env : HandlerEnv) (s : HandlerLoop) {event : OrcaNetEvent}
    (h : ∀ request from_peer channel, event ≠ .Request request from_peer channel) :
    responding (HandlerLoop.handle_event env s event).phase = none := by
  have hhandled := HandlerLoop.handle_event_handled env s event
  generalize HandlerLoop.handle_event env s event = o at hhandled ⊢
  cases hhandled with
  | respond response db => exact absurd rfl (h _ _ _)
  | start_client hsender => exact responding_finish env _ _
  | stop hconfig hsender => exact responding_stop_proxy env s _
  | _ => rfl

theorem responding_command_taken {env : HandlerEnv} {s : HandlerLoop} {ph : HandlerLoop.Phase}
    {o : HandlerLoop.Outcome} (h : HandlerLoop.resume env s ph .command_taken = some o) :
    responding o.phase = none := by
  cases ph with
  | respond response channel =>
    obtain rfl := Option.some.inj h
    rfl
  | start_providing key sender after =>
    obtain rfl := Option.some.inj h
    rfl
  | stop_providing key after =>
    obtain rfl := Option.some.inj h
    exact responding_finish env s after
  | _ => cases h

theorem responding_deliver {env : HandlerEnv} {n : NodeLoops.State}
    {replies : List (Sender × Reply)} {p : OrcaNetResponse F64 × ResponseChannel}
    (h : responding (NodeLoops.deliver env n replies).handler_phase = some p) :
    responding n.handler_phase = some p := by
  rcases NodeLoops.deliver_cases env n replies with hsame | ⟨-, after, hfinish⟩
  · rwa [hsame] at h
  · rw [hfinish, NodeLoops.set_handler, responding_finish] at h
    cases h

/-- The node holds the sender of something other than a request. -/
def HoldsElse (n : NodeLoops.State) (sender : Sender) : Prop :=
  n.network.HoldsElse n.network_phase sender ∨ n.handler_phase.sender = some sender

/-- The step has no part in a request, though it may drop one. -/
structure Quiet (n : NodeLoops.State) (l : Label) (n' : NodeLoops.State) : Prop where
  act : act n l = .other
  pending : n'.network.pending_request = n.network.pending_request
  sending : ∀ request from_peer channel,
    n'.network_phase = .send_request_event request from_peer channel →
      n.network_phase = .send_request_event request from_peer channel
  handling : ∀ request from_peer channel,
    n'.handler_phase.event = some (.Request request from_peer channel) →
      n.handler_phase.event = some (.Request request from_peer channel)
  responds : ∀ p, responding n'.handler_phase = some p → responding n.handler_phase = some p
  holds_network : ∀ sender, n'.network.HoldsElse n'.network_phase sender →
    HoldsElse n sender ∨ StreamRequests.new_oneshot l.step = some sender
  holds_handler : ∀ sender, n'.handler_phase.sender = some sender →
    HoldsElse n sender ∨ StreamRequests.new_oneshot l.step = some sender
  replies : ∀ sender reply, (sender, reply) ∈ StreamRequests.replies n l.step →
    HoldsElse n sender ∨ StreamRequests.new_oneshot l.step = some sender

/-- Everything that a step of one node can do. -/
inductive Effect (n : NodeLoops.State) : Label → NodeLoops.State → Prop where
  | quiet {l n'} (h : Quiet n l n') : Effect n l n'
  | call {peer to_peer request sender swarm alive env id} (hselect : n.network_phase = .select) :
      Effect n
        ⟨peer, .network (.command (NetworkClient.send_request to_peer request sender) swarm) alive
          env, id⟩
        { n with network := { n.network with
          pending_request := n.network.pending_request.insert swarm.send_request sender } }
  | take_in {peer from_peer request channel alive env id} (hselect : n.network_phase = .select) :
      Effect n
        ⟨peer, .network (.swarm_event (.Request from_peer request channel)) alive env, id⟩
        { n with network_phase := .send_request_event request from_peer channel }
  /-- The handler takes the request. -/
  | take {peer request from_peer channel env id}
      (hsending : n.network_phase = .send_request_event request from_peer channel) :
      Effect n ⟨peer, .take_event env, id⟩
        { n with
          network_phase := .select
          handler_phase := .handle_event (.Request request from_peer channel) }
  | handle {peer request from_peer channel env id n'}
      (hhandling : n.handler_phase = .handle_event (.Request request from_peer channel))
      (hnetwork : n'.network = n.network) (hphase : n'.network_phase = n.network_phase)
      (hevent : n'.handler_phase.event = none) (hsender : n'.handler_phase.sender = none)
      (hresponds : ∀ p, responding n'.handler_phase = some p → p.2 = channel ∧
        RequestHandlerLoop.response (RequestHandlerLoop.handle_request n.handler.config env.toEnv
          request from_peer n.handler.db) = some p.1) :
      Effect n ⟨peer, .handle env, id⟩ n'
  /-- The network loop takes the response. -/
  | respond {peer response channel swarm alive env id n'}
      (hresponding : n.handler_phase = .respond response channel)
      (hsent : swarm.send_response = .ok ()) (hnetwork : n'.network = n.network)
      (hphase : n'.network_phase = .select) (hhandler : n'.handler_phase = .next_event) :
      Effect n ⟨peer, .take_command swarm alive env, id⟩ n'
  /-- libp2p reports what became of a call. -/
  | complete {l n' request_id result}
      (hact : (∃ response, result = .ok response ∧ act n l = .complete request_id response) ∨
        (∃ error, result = .error error) ∧ act n l = .other)
      (hnew : StreamRequests.new_oneshot l.step = none) (hsettled : n'.network_phase.Settled)
      (hpending : n'.network.pending_request = n.network.pending_request.remove request_id)
      (hevent : n'.handler_phase.event = n.handler_phase.event)
      (hresponds : ∀ p, responding n'.handler_phase = some p → responding n.handler_phase = some p)
      (hholds : ∀ sender, HoldsElse n' sender → HoldsElse n sender)
      (hreplies : StreamRequests.replies n l.step = [] ∨ ∃ sender,
        n.network.pending_request request_id = some sender ∧
          StreamRequests.replies n l.step = [(sender, .response result)]) :
      Effect n l n'

section effects

variable {n n' : NodeLoops.State}

/-- A call is settled: its entry is gone, and its caller, if there is one, was
    told the result. -/
theorem complete_request_spec (alive : Sender → Bool) (s : NetworkEventLoop)
    (request_id : OutboundRequestId) (result : Except String (OrcaNetResponse F64)) :
    ∃ ph replies, NetworkEventLoop.complete_request alive s request_id result =
        ⟨ph, { s with pending_request := s.pending_request.remove request_id }, replies, []⟩ ∧
      ph.Settled ∧ (replies = [] ∨ ∃ sender, s.pending_request request_id = some sender ∧
        replies = [(sender, .response result)]) := by
  simp only [NetworkEventLoop.complete_request]
  cases hpending : s.pending_request request_id with
  | none =>
    rw [Pending.remove_of_none hpending]
    exact ⟨_, [], rfl, Or.inr ⟨_, rfl⟩, Or.inl rfl⟩
  | some sender =>
    by_cases halive : alive sender = true
    · exact ⟨.select, _, rfl, Or.inl rfl, Or.inr ⟨sender, rfl, by simp [NetworkEventLoop.send,
        halive]⟩⟩
    · exact ⟨.select, _, rfl, Or.inl rfl, Or.inl (by simp [NetworkEventLoop.send, halive])⟩

/-- What the node holds after the network loop took a segment. -/
theorem holdsElse_deliver {env : HandlerEnv} {o : NetworkEventLoop.Outcome}
    {replies : List (Sender × Reply)} {sender : Sender}
    (h : HoldsElse (NodeLoops.deliver env (NodeLoops.set_network n o) replies) sender) :
    o.loop.HoldsElse o.phase sender ∨ n.handler_phase.sender = some sender := by
  rcases h with h | h
  · rw [NodeLoops.deliver_network, NodeLoops.network_phase_deliver] at h
    exact Or.inl h
  · exact Or.inr (NodeLoops.deliver_sender h :)

theorem holdsElse_of_pending {s : NetworkEventLoop} {requests : Pending OutboundRequestId}
    {ph : NetworkEventLoop.Phase} {sender : Sender}
    (h : NetworkEventLoop.HoldsElse { s with pending_request := requests } ph sender) :
    s.HoldsElse ph sender := by
  refine h.imp_left fun h => ?_
  cases h with
  | dial h => exact .dial h
  | start_providing h => exact .start_providing h
  | get_providers h => exact .get_providers h
  | put_kv h => exact .put_kv h
  | get_value h => exact .get_value h
  | stream_request h => exact .stream_request h

theorem complete_effect {l : Label} {event : SwarmEvent} {alive : Sender → Bool}
    {env : HandlerEnv} {request_id : OutboundRequestId}
    {result : Except String (OrcaNetResponse F64)} {o : NetworkEventLoop.Outcome}
    (hl : l.step = .network (.swarm_event event) alive env) (hselect : n.network_phase = .select)
    (ho : NetworkEventLoop.handle_event alive n.network event = o)
    (hcomplete : o = NetworkEventLoop.complete_request alive n.network request_id result)
    (hact : (∃ response, result = .ok response ∧ act n l = .complete request_id response) ∨
      (∃ error, result = .error error) ∧ act n l = .other) :
    Effect n l (NodeLoops.deliver env (NodeLoops.set_network n o) o.replies) := by
  have hreplies : StreamRequests.replies n l.step = o.replies := by
    simp [StreamRequests.replies, hl, hselect, NetworkEventLoop.resume, ho]
  obtain ⟨ph, found, heq, hsettled, hfound⟩ :=
    complete_request_spec alive n.network request_id result
  obtain rfl := hcomplete.trans heq
  refine .complete hact (by rw [hl]; rfl) ?_ ?_ ?_ (fun p h => (responding_deliver h :))
    (fun sender h => ?_) (hreplies ▸ hfound)
  · rw [NodeLoops.network_phase_deliver]
    exact hsettled
  · rw [NodeLoops.deliver_network]
    rfl
  · rw [NodeLoops.deliver_event]
    rfl
  · rcases holdsElse_deliver h with h | h
    · rcases holdsElse_of_pending h with h | h
      · exact Or.inl (Or.inl h)
      · rw [NetworkEventLoop.sender_of_settled hsettled] at h
        cases h
    · exact Or.inr h

theorem new_oneshot_of_wake (wake : NetworkEventLoop.Wake) (alive : Sender → Bool)
    (env : HandlerEnv) : StreamRequests.new_oneshot (.network wake alive env) = wake.sender := by
  cases wake <;> rfl

theorem act_of_wake {l : Label} {wake : NetworkEventLoop.Wake} {alive : Sender → Bool}
    {env : HandlerEnv} (hl : l.step = .network wake alive env) (h : wake.of_request = false) :
    act n l = .other := by
  simp only [act, hl]
  cases wake with
  | swarm_event event => cases event <;> first | rfl | cases h
  | command c swarm => cases c <;> first | rfl | cases h
  | _ => rfl

/-- A segment of the network loop that leaves the requests alone. -/
theorem quiet_network {l : Label} {wake : NetworkEventLoop.Wake} {alive : Sender → Bool}
    {env : HandlerEnv} {o : NetworkEventLoop.Outcome} (hl : l.step = .network wake alive env)
    (ho : NetworkEventLoop.resume alive n.network n.network_phase wake = some o)
    (hkeeps : n.network.KeepsRequests n.network_phase o wake.sender)
    (hwake : wake.of_request = false) :
    Quiet n l (NodeLoops.deliver env (NodeLoops.set_network n o) o.replies) := by
  have hnew : StreamRequests.new_oneshot l.step = wake.sender := by
    rw [hl, new_oneshot_of_wake]
  refine ⟨act_of_wake hl hwake, ?_, fun request from_peer channel h => ?_,
    fun request from_peer channel h => ?_, fun p h => (responding_deliver h :), fun sender h => ?_,
    fun sender h => ?_, fun sender reply h => ?_⟩
  · rw [NodeLoops.deliver_network]
    exact hkeeps.pending
  · rw [NodeLoops.network_phase_deliver] at h
    exact absurd h (hkeeps.phase _ _ _)
  · rwa [NodeLoops.deliver_event] at h
  · rw [NodeLoops.deliver_network, NodeLoops.network_phase_deliver] at h
    exact (hkeeps.holds sender h).imp Or.inl hnew.trans
  · exact Or.inl (Or.inr (NodeLoops.deliver_sender h :))
  · simp only [StreamRequests.replies, hl, ho] at h
    exact (hkeeps.replies sender reply h).imp Or.inl hnew.trans

theorem network_effect {l : Label} {wake : NetworkEventLoop.Wake} {alive : Sender → Bool}
    {env : HandlerEnv} {o : NetworkEventLoop.Outcome} (hl : l.step = .network wake alive env)
    (ho : NetworkEventLoop.resume alive n.network n.network_phase wake = some o) :
    Effect n l (NodeLoops.deliver env (NodeLoops.set_network n o) o.replies) := by
  obtain ⟨peer, step, id⟩ := l
  obtain rfl : step = .network wake alive env := hl
  have hmove := NetworkEventLoop.resume_requestMove ho
  cases hmove with
  | call hselect => exact NodeLoops.deliver_nil env _ ▸ hselect ▸ .call hselect
  | take_in hselect => exact NodeLoops.deliver_nil env _ ▸ .take_in hselect
  | response hselect => exact complete_effect rfl hselect rfl rfl (Or.inl ⟨_, rfl, rfl⟩)
  | failure hselect => exact complete_effect rfl hselect rfl rfl (Or.inr ⟨⟨_, rfl⟩, rfl⟩)
  | keep hkeeps hwake => exact .quiet (quiet_network rfl ho hkeeps hwake)

/-- A step of the handler alone that has nothing to do with requests. -/
theorem quiet_handler {l : Label} (hact : act n l = .other)
    (hreplies : StreamRequests.replies n l.step = []) (hnetwork : n'.network = n.network)
    (hphase : n'.network_phase = n.network_phase)
    (hevent : ∀ request from_peer channel,
      n'.handler_phase.event ≠ some (.Request request from_peer channel))
    (hresponds : responding n'.handler_phase = none)
    (hsender : n'.handler_phase.sender = none) : Quiet n l n' where
  act := hact
  pending := by rw [hnetwork]
  sending _ _ _ h := hphase ▸ h
  handling _ _ _ h := absurd h (hevent _ _ _)
  responds p h := by
    rw [hresponds] at h
    cases h
  holds_network sender h := by
    rw [hnetwork, hphase] at h
    exact Or.inl (Or.inl h)
  holds_handler sender h := by
    rw [hsender] at h
    cases h
  replies := by simp [hreplies]

/-- The network loop sends a response to a stream request, or panics. -/
theorem respond_event_cases (n : NodeLoops.State) (event : OrcaNetEvent)
    (response : Option (OrcaNetResponse F64)) :
    (NodeLoops.respond n event response).network = n.network ∧
      ((NodeLoops.respond n event response).network_phase = n.network_phase ∨
        (NodeLoops.respond n event response).network_phase.sender = none ∧
          ∀ request from_peer channel, (NodeLoops.respond n event response).network_phase ≠
            .send_request_event request from_peer channel) := by
  cases event with
  | StreamRequest request from_peer =>
    cases hph : n.network_phase with
    | receive_response peer_id request_id =>
      cases response <;>
        simp [NodeLoops.respond, hph, NetworkEventLoop.resume, NodeLoops.set_network,
          NetworkEventLoop.Phase.sender]
    | _ => simp [NodeLoops.respond, hph, NetworkEventLoop.resume]
  | _ => exact ⟨rfl, Or.inl rfl⟩

theorem handle_effect {peer : PeerId} {env : HandlerEnv} {id : OutboundRequestId}
    (h : NodeLoops.next n (.handle env) = some n') : Effect n ⟨peer, .handle env, id⟩ n' := by
  obtain ⟨event, hph, rfl⟩ := NodeLoops.next_handle h
  obtain ⟨hevent, hsender⟩ := HandlerLoop.handle_event_phase env n.handler event
  by_cases hrequest : ∃ request from_peer channel, event = .Request request from_peer channel
  · obtain ⟨request, from_peer, channel, rfl⟩ := hrequest
    refine .handle hph rfl rfl hevent ?_ fun p hp => ?_
    · simp only [NodeLoops.respond, NodeLoops.set_handler, HandlerLoop.handle_event]
      split <;> rfl
    · simp only [NodeLoops.respond, NodeLoops.set_handler, HandlerLoop.handle_event] at hp
      split at hp
      · rename_i response hresponse
        obtain rfl := Option.some.inj hp
        exact ⟨rfl, hresponse⟩
      · cases hp
  · have hnot : ∀ request from_peer channel, event ≠ .Request request from_peer channel :=
      fun request from_peer channel heq => hrequest ⟨request, from_peer, channel, heq⟩
    have hact : act n ⟨peer, .handle env, id⟩ = .other := by
      simp only [act, hph]
      cases event with
      | Request request from_peer channel => exact absurd rfl (hnot _ _ _)
      | _ => rfl
    obtain ⟨hnetwork, hphase⟩ := respond_event_cases
      (NodeLoops.set_handler n (HandlerLoop.handle_event env n.handler event)) event
      (HandlerLoop.handle_event env n.handler event).response
    refine .quiet ⟨hact, by rw [hnetwork]; rfl, fun request from_peer channel hs => ?_,
      fun request from_peer channel hs => ?_, fun p hp => ?_, fun sender hs => ?_,
      fun sender hs => Or.inr ?_, by simp [StreamRequests.replies]⟩
    · rcases hphase with hsame | ⟨-, hne⟩
      · exact hsame ▸ hs
      · exact absurd hs (hne _ _ _)
    · rw [NodeLoops.handler_phase_respond, NodeLoops.set_handler, hevent] at hs
      cases hs
    · rw [NodeLoops.handler_phase_respond, NodeLoops.set_handler,
        responding_handle_event env n.handler hnot] at hp
      cases hp
    · rw [hnetwork] at hs
      rcases hphase with hsame | ⟨hnone, -⟩
      · exact Or.inl (Or.inl (hsame ▸ hs))
      · rcases hs with hs | hs
        · exact Or.inl (Or.inl (Or.inl hs))
        · rw [hnone] at hs
          cases hs
    · rw [NodeLoops.handler_phase_respond] at hs
      exact congrArg some (hsender sender hs).symm

theorem take_command_effect {peer : PeerId} {swarm : Swarm} {alive : Sender → Bool}
    {env : HandlerEnv} {id : OutboundRequestId}
    (h : NodeLoops.next n (.take_command swarm alive env) = some n') :
    Effect n ⟨peer, .take_command swarm alive env, id⟩ n' := by
  obtain ⟨c, o, hc, hselect, ho, rfl⟩ := NodeLoops.next_take_command h
  by_cases hresponse : ∃ response channel, n.handler_phase = .respond response channel ∧
      swarm.send_response = .ok ()
  · obtain ⟨response, channel, hph, hsent⟩ := hresponse
    rw [hph] at hc ho
    obtain rfl := Option.some.inj hc
    obtain rfl := Option.some.inj ho
    refine .respond hph hsent ?_ ?_ rfl <;>
      simp [NodeLoops.set_handler, NodeLoops.set_network, NetworkEventLoop.handle_command, hsent]
  · -- any other command of the handler, or a response that cannot be sent
    have hact : act n ⟨peer, .take_command swarm alive env, id⟩ = .other := by
      simp only [act]
      split
      · rename_i response channel hph hsent
        exact absurd ⟨response, channel, hph, hsent⟩ hresponse
      · rfl
    obtain ⟨hchannel, hstream⟩ := HandlerLoop.sender_of_command hc
    have hwake : (NetworkEventLoop.Wake.command c swarm).of_request = false := by
      cases hph : n.handler_phase <;> rw [hph] at hc <;> cases hc <;> rfl
    have hkeeps : n.network.KeepsRequests n.network_phase
        (NetworkEventLoop.handle_command alive n.network swarm c) c.sender :=
      NetworkEventLoop.handle_command_keepsRequests swarm hwake
    have hown : ∀ sender, n.network.HoldsElse n.network_phase sender ∨ c.sender = some sender →
        HoldsElse n sender := fun sender hs => hs.imp_right fun hs => hchannel ▸ hs
    obtain ⟨hevent, hsender⟩ := HandlerLoop.command_taken_phase ho
    refine .quiet ⟨hact, hkeeps.pending, fun _ _ _ hs => absurd hs (hkeeps.phase _ _ _),
      fun _ _ _ hs => ?_, fun p hp => ?_, fun sender hs => Or.inl (hown _ (hkeeps.holds sender hs)),
      fun sender hs => Or.inl (Or.inr (hsender sender hs)), fun sender reply hs => Or.inl ?_⟩
    · rw [NodeLoops.set_handler, hevent] at hs
      cases hs
    · rw [NodeLoops.set_handler, responding_command_taken ho] at hp
      cases hp
    · simp only [StreamRequests.replies, hc] at hs
      exact hown _ (hkeeps.replies sender reply hs)

/-- A step of one node has one of the effects. -/
theorem next_effect {l : Label} (h : NodeLoops.next n l.step = some n') : Effect n l n' := by
  obtain ⟨peer, step, id⟩ := l
  cases step with
  | network wake alive env =>
    obtain ⟨-, o, ho, rfl⟩ := NodeLoops.next_network h
    exact network_effect rfl ho
  | local_event event env =>
    obtain ⟨hlocal, hph, rfl⟩ := NodeLoops.next_local_event h
    refine .quiet (quiet_handler rfl rfl rfl rfl (fun _ _ _ hevent => ?_) rfl rfl)
    obtain rfl := Option.some.inj hevent
    cases hlocal
  | take_event env =>
    obtain ⟨-, ⟨request, from_peer, channel, hsending, rfl⟩ |
      ⟨peer_id, request_id, request, hsending, rfl⟩⟩ := NodeLoops.next_take_event h
    · exact .take hsending
    · refine .quiet ⟨rfl, rfl, by simp, by simp [HandlerLoop.Phase.event], by simp [responding],
        fun sender hs => Or.inl (Or.inl (hs.imp_right fun hs => ?_)),
        by simp [HandlerLoop.Phase.sender], by simp [StreamRequests.replies]⟩
      cases hs
  | handle env => exact handle_effect h
  | take_command swarm alive env => exact take_command_effect h
  | proxy_event_sent env =>
    obtain ⟨server, mode, -, rfl⟩ := NodeLoops.next_proxy_event_sent h
    obtain ⟨hevent, hsender⟩ := HandlerLoop.stop_proxy_phase env n.handler mode
    refine .quiet (quiet_handler rfl rfl rfl rfl ?_ (responding_stop_proxy env n.handler mode)
      hsender)
    simp [NodeLoops.set_handler, hevent]
  | network_gone wake env =>
    obtain ⟨-, message, rfl⟩ := NodeLoops.next_network_gone h
    exact .quiet (quiet_handler rfl rfl rfl rfl (by simp [HandlerLoop.Phase.event]) rfl rfl)
  | handler_gone wake =>
    obtain ⟨-, message, rfl⟩ := NodeLoops.next_handler_gone h
    refine .quiet ⟨rfl, rfl, by simp, fun _ _ _ hs => hs, fun _ hp => hp,
      fun sender hs => Or.inl (Or.inl (hs.imp_right fun hs => ?_)),
      fun sender hs => Or.inl (Or.inr hs), by simp [StreamRequests.replies]⟩
    cases hs

end effects

end Requests

end OrcaNet
