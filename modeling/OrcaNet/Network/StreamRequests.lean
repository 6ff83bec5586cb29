import OrcaNet.Framework.RemoteCall
import OrcaNet.Network.NodeLoops

/-! # Stream requests between nodes

    Any number of nodes, each with the two loops of `NodeLoops`, and the
    streams between them.  A call of `send_stream_request` goes out in a
    stream, is handed to the handler of the peer, and its response comes back
    in a stream of the other direction, where only its id tells which caller
    it is for.

    `Effect` lists what a step of one node can do to the stream requests that it
    has in hand; everything later is derived from it. -/

namespace OrcaNet

open Transition

/-- The command of `send_stream_request`; the peer was dialed by an earlier one. -/
def NetworkClient.send_stream_request (peer_id : PeerId) (orca_net_request : OrcaNetRequest F64)
    (request_id : String) (sender : Sender) : NetworkCommand :=
  .SendInStream peer_id ⟨request_id, .Request orca_net_request⟩ (some sender)

namespace StreamRequests

/-! ## Section 1: System -/

/-- A call of `send_stream_request`. -/
structure Call where
  caller : PeerId
  peer : PeerId
  request : OrcaNetRequest F64
  request_id : String
  sender : Sender

/-- The content of one stream. -/
structure Message where
  from_peer : PeerId
  to_peer : PeerId
  stream_req : StreamReq F64
  deriving DecidableEq

/-- A stream request that a handler handled, and what it handled it with.  The
    id is the one that the network loop waits with. -/
structure Handled where
  peer : PeerId
  request_id : Option String
  from_peer : PeerId
  request : OrcaNetRequest F64
  config : OrcaNetConfig
  env : Env
  db : Database

/-- What `handle_request` produced. -/
def Handled.response (h : Handled) : Option (OrcaNetResponse F64) :=
  RequestHandlerLoop.response
    (RequestHandlerLoop.handle_request h.config h.env h.request h.from_peer h.db)

structure State where
  node : PeerId → NodeLoops.State
  /-- Streams whose writing began and that were not read yet. -/
  in_flight : List Message
  calls : List Call
  handled : List Handled
  /-- What was sent to oneshot channels, newest first. -/
  answers : List ((PeerId × Sender) × Reply)
  /-- The oneshot channels made so far. -/
  oneshots : List (PeerId × Sender)

/-- A step of one node. -/
structure Label where
  peer : PeerId
  step : NodeLoops.Label

/-- The call that a step issues. -/
def issued (peer : PeerId) : NodeLoops.Label → Option Call
  | .network (.command (.SendInStream peer_id ⟨request_id, .Request request⟩ (some sender)) _)
      _ _ =>
    some ⟨peer, peer_id, request, request_id, sender⟩
  | _ => none

/-- The message that a step starts to write. -/
def sent (peer : PeerId) (n : NodeLoops.State) : NodeLoops.Label → Option Message
  | .network (.opened (.ok ())) _ _ =>
    match n.network_phase with
    | .open_stream peer_id stream_req _ => some ⟨peer, peer_id, stream_req⟩
    | _ => none
  | _ => none

/-- The message that a step read to its end. -/
def received (peer : PeerId) (n : NodeLoops.State) : NodeLoops.Label → Option Message
  | .network (.read (.ok stream_req)) _ _ =>
    match n.network_phase with
    | .read_to_end peer_id => some ⟨peer_id, peer, stream_req⟩
    | _ => none
  | _ => none

/-- The id that the network loop waits for a response with. -/
def awaited_id : NetworkEventLoop.Phase → Option String
  | .receive_response _ request_id => some request_id
  | _ => none

/-- The stream request that a step handles. -/
def handled_by (peer : PeerId) (n : NodeLoops.State) : NodeLoops.Label → Option Handled
  | .handle env =>
    match n.handler_phase.event with
    | some (.StreamRequest request from_peer) =>
      some ⟨peer, awaited_id n.network_phase, from_peer, request, n.handler.config, env.toEnv,
        n.handler.db⟩
    | _ => none
  | _ => none

/-- The oneshot channels that a step makes. -/
def new_oneshot : NodeLoops.Label → Option Sender
  | .network (.command c _) _ _ => c.sender
  | .handle env => some env.new_oneshot
  | _ => none

/-- What a step sends to oneshot channels. -/
def replies (n : NodeLoops.State) : NodeLoops.Label → List (Sender × Reply)
  | .network wake alive _ =>
    match NetworkEventLoop.resume alive n.network n.network_phase wake with
    | some o => o.replies
    | none => []
  | .take_command swarm alive _ =>
    match HandlerLoop.command n.handler_phase with
    | some c => (NetworkEventLoop.handle_command alive n.network swarm c).replies
    | none => []
  | _ => []

/-- What holds of the steps of a node: a oneshot channel is new, and so is the
    uuid of a call; only `send_stream_request` sends in a stream; and a stream
    that was read is one that was sent. -/
def allowed (s : State) (peer : PeerId) (l : NodeLoops.Label) : Bool :=
  (new_oneshot l).all (fun sender => decide ((peer, sender) ∉ s.oneshots)) &&
  (received peer (s.node peer) l).all (fun m => decide (m ∈ s.in_flight)) &&
  match l with
  | .network (.command (.SendInStream _ _ _) _) _ _ =>
    (issued peer l).any fun c => decide (c.request_id ∉ s.calls.map Call.request_id)
  | _ => true

/-- The node takes the step, and the rest of the network is adjusted. -/
def record (s : State) (l : Label) (n : NodeLoops.State) : State where
  node := Function.update s.node l.peer n
  in_flight := (sent l.peer (s.node l.peer) l.step).toList ++
    match received l.peer (s.node l.peer) l.step with
    | some m => s.in_flight.erase m
    | none => s.in_flight
  calls := (issued l.peer l.step).toList ++ s.calls
  handled := (handled_by l.peer (s.node l.peer) l.step).toList ++ s.handled
  answers := (replies (s.node l.peer) l.step).map (fun p => ((l.peer, p.1), p.2)) ++ s.answers
  oneshots := (new_oneshot l.step).toList.map (fun sender => (l.peer, sender)) ++ s.oneshots

def next (s : State) (l : Label) : Option State :=
  if allowed s l.peer l.step then (NodeLoops.next (s.node l.peer) l.step).map (record s l)
  else none

/-- Every node starts with empty maps, each with its own database and
    configuration. -/
def system : System State Label where
  init := fun s => (∀ peer, NodeLoops.system.init (s.node peer) ∧ (s.node peer).network = .new) ∧
    s.in_flight = [] ∧ s.calls = [] ∧ s.handled = [] ∧ s.answers = [] ∧ s.oneshots = []
  next := next

def idleNetwork : State where
  node := fun _ => NodeLoops.idleNode
  in_flight := []
  calls := []
  handled := []
  answers := []
  oneshots := []

/-! ## Section 2: What a node holds -/

/-- The response that a caller got, if it got one. -/
def response_of : Reply → Option (Option (OrcaNetResponse F64))
  | .response (.ok response) => some (some response)
  | _ => none

abbrev Stage : Type :=
  RemoteCall.Stage PeerId (OrcaNetRequest F64) (Option (OrcaNetResponse F64))

/-- The request of a call is at the node, as its caller or as its peer. -/
inductive Holds (peer : PeerId) (n : NodeLoops.State) (request_id : String) : Stage → Prop where
  | calling {peer_id request sender}
      (h : n.network_phase = .open_stream peer_id ⟨request_id, .Request request⟩ sender) :
      Holds peer n request_id (.calling ⟨peer, peer_id, request⟩)
  | sending_event {peer_id request}
      (h : n.network_phase = .send_stream_request_event peer_id request_id request) :
      Holds peer n request_id (.serving ⟨peer_id, peer, request⟩)
  | handling {peer_id request} (h : n.network_phase = .receive_response peer_id request_id)
      (hevent : n.handler_phase.event = some (.StreamRequest request peer_id)) :
      Holds peer n request_id (.serving ⟨peer_id, peer, request⟩)

/-- The node is about to send a response. -/
def Responds (n : NodeLoops.State) (peer_id : PeerId) (request_id : String)
    (response : OrcaNetResponse F64) : Prop :=
  ∃ sender, n.network_phase = .open_stream peer_id ⟨request_id, .Response response⟩ sender

/-- The caller waits for its response, or will when the request is written. -/
inductive Registers (n : NodeLoops.State) (request_id : String) (sender : Sender) : Prop where
  | pending (h : n.network.pending_stream_requests request_id = some sender)
  | opening {peer_id stream_data}
      (h : n.network_phase = .open_stream peer_id ⟨request_id, stream_data⟩ (some sender))
  | writing {peer_id stream_data}
      (h : n.network_phase = .write_all peer_id ⟨request_id, stream_data⟩ (some sender))

/-- The channel belongs to something other than a stream request. -/
def AwaitsOther (n : NodeLoops.State) (sender : Sender) : Prop :=
  n.network.AwaitsOther sender ∨ n.handler_phase.sender = some sender

theorem Holds.holder {peer : PeerId} {n : NodeLoops.State} {request_id : String} {st : Stage}
    (h : Holds peer n request_id st) : st.holder = some peer := by
  cases h <;> rfl

/-- The step has no part in a stream request, though it may drop one. -/
structure Quiet (peer : PeerId) (n n' : NodeLoops.State) (l : NodeLoops.Label) : Prop where
  issued : issued peer l = none
  sent : sent peer n l = none
  received : received peer n l = none
  handled : handled_by peer n l = none
  holds : ∀ id st, Holds peer n' id st → Holds peer n id st
  responds : ∀ peer_id id response, Responds n' peer_id id response →
    Responds n peer_id id response
  registers : ∀ id sender, Registers n' id sender → Registers n id sender
  awaits : ∀ sender, AwaitsOther n' sender → AwaitsOther n sender ∨ new_oneshot l = some sender
  replies : ∀ sender reply, (sender, reply) ∈ replies n l →
    AwaitsOther n sender ∨ new_oneshot l = some sender

/-- The network loop is nowhere in the middle of a stream. -/
def Streamless : NetworkEventLoop.Phase → Prop
  | .send_stream_request_event _ _ _ => False
  | .receive_response _ _ => False
  | .open_stream _ _ _ => False
  | .write_all _ _ _ => False
  | _ => True

theorem streamless_of_settled {ph : NetworkEventLoop.Phase} (h : ph.Settled) : Streamless ph := by
  rcases h with rfl | ⟨message, rfl⟩ <;> trivial

section quiet

variable {peer : PeerId} {n n' : NodeLoops.State}

theorem not_holds_of_streamless (h : Streamless n.network_phase) (request_id : String)
    (st : Stage) : ¬ Holds peer n request_id st := by
  intro hholds
  cases hholds with
  | calling hph => rwa [hph] at h
  | sending_event hph => rwa [hph] at h
  | handling hph _ => rwa [hph] at h

theorem not_responds_of_streamless (h : Streamless n.network_phase) (peer_id : PeerId)
    (request_id : String) (response : OrcaNetResponse F64) :
    ¬ Responds n peer_id request_id response := by
  rintro ⟨sender, hph⟩
  rwa [hph] at h

theorem pending_of_streamless (h : Streamless n.network_phase) {request_id : String}
    {sender : Sender} (hregisters : Registers n request_id sender) :
    n.network.pending_stream_requests request_id = some sender := by
  cases hregisters with
  | pending hpending => exact hpending
  | opening hph =>
    rw [hph] at h
    exact h.elim
  | writing hph =>
    rw [hph] at h
    exact h.elim

/-- A step that ends outside a stream. -/
theorem quiet_of_streamless {l : NodeLoops.Label} (hissued : issued peer l = none)
    (hsent : sent peer n l = none) (hreceived : received peer n l = none)
    (hhandled : handled_by peer n l = none) (hphase : Streamless n'.network_phase)
    (hregisters : ∀ request_id sender,
      n'.network.pending_stream_requests request_id = some sender → Registers n request_id sender)
    (hawaits : ∀ sender, AwaitsOther n' sender →
      AwaitsOther n sender ∨ new_oneshot l = some sender)
    (hreplies : ∀ sender reply, (sender, reply) ∈ replies n l →
      AwaitsOther n sender ∨ new_oneshot l = some sender) : Quiet peer n n' l where
  issued := hissued
  sent := hsent
  received := hreceived
  handled := hhandled
  holds _ _ h := absurd h (not_holds_of_streamless hphase _ _)
  responds _ _ _ h := absurd h (not_responds_of_streamless hphase _ _ _)
  registers _ _ h := hregisters _ _ (pending_of_streamless hphase h)
  awaits := hawaits
  replies := hreplies

/-- A segment of the network loop that ends outside a stream. -/
theorem quiet_network {wake : NetworkEventLoop.Wake} {alive : Sender → Bool} {env : HandlerEnv}
    {o : NetworkEventLoop.Outcome}
    (ho : NetworkEventLoop.resume alive n.network n.network_phase wake = some o)
    (hissued : issued peer (.network wake alive env) = none)
    (hsent : sent peer n (.network wake alive env) = none)
    (hreceived : received peer n (.network wake alive env) = none)
    (hphase : Streamless o.phase)
    (hregisters : ∀ request_id sender, o.loop.pending_stream_requests request_id = some sender →
      Registers n request_id sender)
    (hawaits : ∀ sender, o.loop.AwaitsOther sender →
      n.network.AwaitsOther sender ∨ new_oneshot (.network wake alive env) = some sender)
    (hreplies : ∀ sender reply, (sender, reply) ∈ o.replies →
      n.network.AwaitsOther sender ∨ new_oneshot (.network wake alive env) = some sender) :
    Quiet peer n (NodeLoops.deliver env (NodeLoops.set_network n o) o.replies)
      (.network wake alive env) := by
  refine quiet_of_streamless hissued hsent hreceived rfl ?_ (fun request_id sender h => ?_)
    (fun sender h => ?_) fun sender reply h => ?_
  · rw [NodeLoops.network_phase_deliver]
    exact hphase
  · rw [NodeLoops.deliver_network] at h
    exact hregisters request_id sender h
  · rcases h with h | h
    · rw [NodeLoops.deliver_network] at h
      exact (hawaits sender h).imp_left Or.inl
    · exact Or.inl (Or.inr (NodeLoops.deliver_sender h :))
  · simp only [replies, ho] at h
    exact (hreplies sender reply h).imp_left Or.inl

/-- The same when the segment belongs to another command or event. -/
theorem quiet_of_keepsStreams {wake : NetworkEventLoop.Wake} {alive : Sender → Bool}
    {env : HandlerEnv} {o : NetworkEventLoop.Outcome}
    (ho : NetworkEventLoop.resume alive n.network n.network_phase wake = some o)
    (hissued : issued peer (.network wake alive env) = none)
    (hsent : sent peer n (.network wake alive env) = none)
    (hreceived : received peer n (.network wake alive env) = none)
    (hphase : Streamless o.phase)
    (hkeeps : n.network.KeepsStreams o (new_oneshot (.network wake alive env))) :
    Quiet peer n (NodeLoops.deliver env (NodeLoops.set_network n o) o.replies)
      (.network wake alive env) :=
  quiet_network ho hissued hsent hreceived hphase
    (fun _ _ h => .pending (hkeeps.streams ▸ h)) hkeeps.awaits hkeeps.replies

/-- A step of the handler alone, while the network loop waits for no response. -/
theorem quiet_handler {l : NodeLoops.Label} (hissued : issued peer l = none)
    (hsent : sent peer n l = none) (hreceived : received peer n l = none)
    (hhandled : handled_by peer n l = none) (hreplies : replies n l = [])
    (hwaits : ∀ peer_id request_id, n.network_phase ≠ .receive_response peer_id request_id)
    (hnetwork : n'.network = n.network) (hphase : n'.network_phase = n.network_phase)
    (hsender : ∀ sender, n'.handler_phase.sender = some sender →
      n.handler_phase.sender = some sender ∨ new_oneshot l = some sender) :
    Quiet peer n n' l := by
  refine ⟨hissued, hsent, hreceived, hhandled, fun request_id st h => ?_,
    fun _ _ _ ⟨sender, h⟩ => ⟨sender, hphase ▸ h⟩, fun request_id sender h => ?_,
    fun sender h => ?_, by simp [hreplies]⟩
  · cases h with
    | calling hph => exact .calling (hphase ▸ hph)
    | sending_event hph => exact .sending_event (hphase ▸ hph)
    | handling hph _ => exact absurd (hphase ▸ hph) (hwaits _ _)
  · cases h with
    | pending hpending => exact .pending (hnetwork ▸ hpending)
    | opening hph => exact .opening (hphase ▸ hph)
    | writing hph => exact .writing (hphase ▸ hph)
  · rcases h with h | h
    · exact Or.inl (Or.inl (hnetwork ▸ h))
    · exact (hsender sender h).imp_left Or.inr

/-- Everything that a step of one node can do. -/
inductive Effect (peer : PeerId) (n : NodeLoops.State) :
    NodeLoops.Label → NodeLoops.State → Prop where
  | quiet {l n'} (h : Quiet peer n n' l) : Effect peer n l n'
  /-- The network loop takes the command of `send_stream_request`. -/
  | call {peer_id request request_id sender swarm alive env} (hselect : n.network_phase = .select) :
      Effect peer n
        (.network (.command
          (NetworkClient.send_stream_request peer_id request request_id sender) swarm) alive env)
        { n with
          network_phase := .open_stream peer_id ⟨request_id, .Request request⟩ (some sender) }
  /-- The stream is open. -/
  | send {peer_id stream_req sender alive env}
      (hopen : n.network_phase = .open_stream peer_id stream_req sender) :
      Effect peer n (.network (.opened (.ok ())) alive env)
        { n with network_phase := .write_all peer_id stream_req sender }
  /-- A request was read. -/
  | receive {peer_id request_id request alive env}
      (hread : n.network_phase = .read_to_end peer_id) :
      Effect peer n (.network (.read (.ok ⟨request_id, .Request request⟩)) alive env)
        { n with network_phase := .send_stream_request_event peer_id request_id request }
  /-- The handler handled a request. -/
  | handle {peer_id request_id request env n'}
      (hwait : n.network_phase = .receive_response peer_id request_id)
      (hevent : n.handler_phase.event = some (.StreamRequest request peer_id))
      (hnetwork : n'.network = n.network)
      (hphase : n'.network_phase = match RequestHandlerLoop.response
          (RequestHandlerLoop.handle_request n.handler.config env.toEnv request peer_id
            n.handler.db) with
        | some response => .open_stream peer_id ⟨request_id, .Response response⟩ none
        | none => .panicked "Sender not to be dropped")
      (hsender : ∀ sender, n'.handler_phase.sender = some sender → sender = env.new_oneshot) :
      Effect peer n (.handle env) n'
  /-- A response was read. -/
  | answer {peer_id request_id response alive env n'}
      (hread : n.network_phase = .read_to_end peer_id) (hphase : Streamless n'.network_phase)
      (hpending : n'.network.pending_stream_requests =
        n.network.pending_stream_requests.remove request_id)
      (hawaits : ∀ sender, AwaitsOther n' sender → AwaitsOther n sender)
      (hreplies :
        replies n (.network (.read (.ok ⟨request_id, .Response response⟩)) alive env) = [] ∨
        ∃ sender, n.network.pending_stream_requests request_id = some sender ∧
          replies n (.network (.read (.ok ⟨request_id, .Response response⟩)) alive env) =
            [(sender, .response (.ok response))]) :
      Effect peer n (.network (.read (.ok ⟨request_id, .Response response⟩)) alive env) n'

theorem handle_event_streamless (alive : Sender → Bool) (s : NetworkEventLoop)
    (event : SwarmEvent) : Streamless (NetworkEventLoop.handle_event alive s event).phase := by
  by_cases h : ∃ peer request channel, event = .Request peer request channel
  · obtain ⟨peer, request, channel, rfl⟩ := h
    trivial
  · exact streamless_of_settled (NetworkEventLoop.handle_event_settled alive s
      fun peer request channel heq => h ⟨peer, request, channel, heq⟩)

/-- The end of a write registers the caller. -/
theorem registers_of_register {peer_id : PeerId} {stream_req : StreamReq F64}
    {caller : Option Sender} (h : n.network_phase = .write_all peer_id stream_req caller)
    {request_id : String} {sender : Sender}
    (hpending : (NetworkEventLoop.register_stream_request n.network stream_req.request_id
      caller).pending_stream_requests request_id = some sender) :
    Registers n request_id sender := by
  cases caller with
  | none => exact .pending hpending
  | some caller =>
    by_cases hid : request_id = stream_req.request_id
    · subst hid
      obtain rfl : caller = sender := by
        simpa [NetworkEventLoop.register_stream_request] using hpending
      exact .writing h
    · exact .pending (by simpa [NetworkEventLoop.register_stream_request, hid] using hpending)

theorem awaitsOther_of_register {s : NetworkEventLoop} {request_id : String}
    {caller : Option Sender} {sender : Sender}
    (h : (NetworkEventLoop.register_stream_request s request_id caller).AwaitsOther sender) :
    s.AwaitsOther sender := by
  cases caller with
  | none => exact h
  | some caller => exact h.of_streams

/-- A response that was read goes to the caller found under its id, if there is
    one. -/
theorem handle_stream_req_response (alive : Sender → Bool) (s : NetworkEventLoop)
    (peer_id : PeerId) (request_id : String) (response : OrcaNetResponse F64) :
    ∃ phase replies, NetworkEventLoop.handle_stream_req alive s peer_id
        ⟨request_id, .Response response⟩ =
      ⟨phase, { s with pending_stream_requests := s.pending_stream_requests.remove request_id },
        replies, []⟩ ∧ Streamless phase ∧
      (replies = [] ∨ ∃ sender, s.pending_stream_requests request_id = some sender ∧
        replies = [(sender, .response (.ok response))]) := by
  simp only [NetworkEventLoop.handle_stream_req]
  cases hpending : s.pending_stream_requests request_id with
  | none =>
    rw [Pending.remove_of_none hpending]
    exact ⟨.select, [], rfl, trivial, Or.inl rfl⟩
  | some sender =>
    by_cases halive : alive sender = true
    · simp only [halive, if_true]
      exact ⟨.select, _, rfl, trivial, Or.inr ⟨sender, rfl, rfl⟩⟩
    · simp only [halive]
      exact ⟨_, [], rfl, trivial, Or.inl rfl⟩

theorem answer_effect {peer_id : PeerId} {request_id : String} {response : OrcaNetResponse F64}
    {alive : Sender → Bool} {env : HandlerEnv} (hread : n.network_phase = .read_to_end peer_id)
    {o : NetworkEventLoop.Outcome}
    (ho : o = NetworkEventLoop.handle_stream_req alive n.network peer_id
      ⟨request_id, .Response response⟩) :
    Effect peer n (.network (.read (.ok ⟨request_id, .Response response⟩)) alive env)
      (NodeLoops.deliver env (NodeLoops.set_network n o) o.replies) := by
  have hreplies : replies n (.network (.read (.ok ⟨request_id, .Response response⟩)) alive env) =
      o.replies := by
    simp [replies, hread, NetworkEventLoop.resume, ho]
  obtain ⟨phase, found, heq, hphase, hfound⟩ :=
    handle_stream_req_response alive n.network peer_id request_id response
  obtain rfl := ho.trans heq
  refine .answer hread ?_ ?_ (fun sender h => ?_) (hreplies ▸ hfound)
  · rw [NodeLoops.network_phase_deliver]
    exact hphase
  · rw [NodeLoops.deliver_network]
    rfl
  · rcases h with h | h
    · rw [NodeLoops.deliver_network] at h
      exact Or.inl h.of_streams
    · exact Or.inr (NodeLoops.deliver_sender h :)

/-- A segment that only moves on, and not into or out of a stream. -/
theorem idle_effect {wake : NetworkEventLoop.Wake} {alive : Sender → Bool} {env : HandlerEnv}
    {ph : NetworkEventLoop.Phase}
    (ho : NetworkEventLoop.resume alive n.network n.network_phase wake =
      some ⟨ph, n.network, [], []⟩)
    (hissued : issued peer (.network wake alive env) = none)
    (hsent : sent peer n (.network wake alive env) = none)
    (hreceived : received peer n (.network wake alive env) = none) (hphase : Streamless ph) :
    Effect peer n (.network wake alive env)
      (NodeLoops.deliver env (NodeLoops.set_network n ⟨ph, n.network, [], []⟩) []) :=
  .quiet (quiet_of_keepsStreams ho hissued hsent hreceived hphase
    (NetworkEventLoop.keepsStreams_of_idle n.network ph [] _))

/-- A command is a call, or has nothing to do with streams. -/
theorem command_effect {c : NetworkCommand} {swarm : Swarm} {alive : Sender → Bool}
    {env : HandlerEnv} {o : NetworkEventLoop.Outcome}
    (ho : NetworkEventLoop.resume alive n.network n.network_phase (.command c swarm) = some o)
    (hcommand : (∃ peer_id request request_id sender,
        c = NetworkClient.send_stream_request peer_id request request_id sender) ∨
      ∀ peer_id stream_req sender, c ≠ .SendInStream peer_id stream_req sender) :
    Effect peer n (.network (.command c swarm) alive env)
      (NodeLoops.deliver env (NodeLoops.set_network n o) o.replies) := by
  obtain ⟨hselect, rfl⟩ := NetworkEventLoop.resume_command _ ho
  rcases hcommand with ⟨peer_id, request, request_id, sender, rfl⟩ | hother
  · exact NodeLoops.deliver_nil env _ ▸ .call hselect
  · have hissued : issued peer (.network (.command c swarm) alive env) = none := by
      cases c with
      | SendInStream peer_id stream_req sender => exact absurd rfl (hother _ _ _)
      | _ => rfl
    have hsettled := NetworkEventLoop.handle_command_settled_of_ne alive n.network swarm hother
    exact .quiet (quiet_of_keepsStreams ho hissued rfl rfl (streamless_of_settled hsettled)
      (NetworkEventLoop.handle_command_keepsStreams alive _ swarm hother))

theorem read_effect {content : Except String (StreamReq F64)} {alive : Sender → Bool}
    {env : HandlerEnv} {o : NetworkEventLoop.Outcome}
    (ho : NetworkEventLoop.resume alive n.network n.network_phase (.read content) = some o) :
    Effect peer n (.network (.read content) alive env)
      (NodeLoops.deliver env (NodeLoops.set_network n o) o.replies) := by
  obtain ⟨peer_id, hph, ⟨e, rfl, rfl⟩ | ⟨stream_req, rfl, rfl⟩⟩ :=
    NetworkEventLoop.resume_read _ ho
  · exact idle_effect ho rfl rfl rfl trivial
  · obtain ⟨request_id, request | response⟩ := stream_req
    · exact NodeLoops.deliver_nil env _ ▸ .receive hph
    -- a response is looked up by its id
    · exact answer_effect hph rfl

theorem opened_effect {result : Except String Unit} {alive : Sender → Bool} {env : HandlerEnv}
    {o : NetworkEventLoop.Outcome}
    (ho : NetworkEventLoop.resume alive n.network n.network_phase (.opened result) = some o) :
    Effect peer n (.network (.opened result) alive env)
      (NodeLoops.deliver env (NodeLoops.set_network n o) o.replies) := by
  obtain ⟨peer_id, stream_req, sender, hph, ⟨e, rfl, rfl⟩ | ⟨rfl, rfl⟩⟩ :=
    NetworkEventLoop.resume_opened _ ho
  · exact idle_effect ho rfl rfl rfl trivial
  · exact NodeLoops.deliver_nil env _ ▸ .send hph

/-- The request is registered once it was written. -/
theorem written_effect {result : Except String Unit} {alive : Sender → Bool} {env : HandlerEnv}
    {o : NetworkEventLoop.Outcome}
    (ho : NetworkEventLoop.resume alive n.network n.network_phase (.written result) = some o) :
    Effect peer n (.network (.written result) alive env)
      (NodeLoops.deliver env (NodeLoops.set_network n o) o.replies) := by
  obtain ⟨peer_id, stream_req, sender, hph, ⟨e, rfl, rfl⟩ | ⟨rfl, rfl⟩⟩ :=
    NetworkEventLoop.resume_written _ ho
  · exact idle_effect ho rfl rfl rfl trivial
  · exact .quiet (quiet_network ho rfl rfl rfl trivial
      (fun _ _ h => registers_of_register hph h)
      (fun _ h => Or.inl (awaitsOther_of_register h)) (by simp))

theorem network_effect {wake : NetworkEventLoop.Wake} {alive : Sender → Bool} {env : HandlerEnv}
    {o : NetworkEventLoop.Outcome} (hwake : NodeLoops.from_outside wake = true)
    (ho : NetworkEventLoop.resume alive n.network n.network_phase wake = some o)
    (hcommand : ∀ c swarm, wake = .command c swarm →
      (∃ peer_id request request_id sender,
        c = NetworkClient.send_stream_request peer_id request request_id sender) ∨
      ∀ peer_id stream_req sender, c ≠ .SendInStream peer_id stream_req sender) :
    Effect peer n (.network wake alive env)
      (NodeLoops.deliver env (NodeLoops.set_network n o) o.replies) := by
  cases wake with
  | swarm_event event =>
    obtain ⟨-, rfl⟩ := NetworkEventLoop.resume_swarm_event _ ho
    exact .quiet (quiet_of_keepsStreams ho rfl rfl rfl (handle_event_streamless alive _ event)
      (NetworkEventLoop.handle_event_keepsStreams alive _ event))
  | command c swarm => exact command_effect ho (hcommand c swarm rfl)
  | commands_closed =>
    obtain ⟨-, rfl⟩ := NetworkEventLoop.resume_commands_closed _ ho
    exact idle_effect ho rfl rfl rfl trivial
  | incoming peer_id =>
    obtain ⟨-, rfl⟩ := NetworkEventLoop.resume_incoming _ ho
    exact idle_effect ho rfl rfl rfl trivial
  | read content => exact read_effect ho
  -- the handler's wakes are not from outside
  | event_taken => cases hwake
  | event_receiver_dropped => cases hwake
  | response response => cases hwake
  | opened result => exact opened_effect ho
  | written result => exact written_effect ho
  | closed =>
    obtain ⟨-, rfl⟩ := NetworkEventLoop.resume_closed _ ho
    exact idle_effect ho rfl rfl rfl trivial

/-- An event that the handler takes is in its hands then: a request was in the
    network loop's before. -/
theorem take_event_quiet {env : HandlerEnv} (h : NodeLoops.next n (.take_event env) = some n') :
    Quiet peer n n' (.take_event env) := by
  obtain ⟨-, ⟨request, from_peer, channel, -, rfl⟩ | ⟨peer_id, request_id, request, hph, rfl⟩⟩ :=
    NodeLoops.next_take_event h
  · refine quiet_of_streamless rfl rfl rfl rfl trivial (fun _ _ h => .pending h)
      (fun sender h => ?_) (by simp [replies])
    exact Or.inl (Or.inl (h.resolve_right (by simp [HandlerLoop.Phase.sender])))
  · refine ⟨rfl, rfl, rfl, rfl, fun id st h => ?_, fun peer_id id response h => ?_,
      fun id sender h => ?_, fun sender h => ?_, by simp [replies]⟩
    · -- the request is handed over from the network loop to the handler
      cases h with
      | handling hwait hevent =>
        cases hwait
        cases hevent
        exact .sending_event hph
      | calling h => cases h
      | sending_event h => cases h
    · obtain ⟨sender, h⟩ := h
      cases h
    · cases h with
      | pending h => exact .pending h
      | opening h => cases h
      | writing h => cases h
    · exact Or.inl (Or.inl (h.resolve_right (by simp [HandlerLoop.Phase.sender])))

/-- The commands of the handler have nothing to do with streams. -/
theorem take_command_quiet {swarm : Swarm} {alive : Sender → Bool} {env : HandlerEnv}
    (h : NodeLoops.next n (.take_command swarm alive env) = some n') :
    Quiet peer n n' (.take_command swarm alive env) := by
  obtain ⟨c, o, hc, -, ho, rfl⟩ := NodeLoops.next_take_command h
  obtain ⟨hchannel, hother⟩ := HandlerLoop.sender_of_command hc
  have hkeeps := NetworkEventLoop.handle_command_keepsStreams alive n.network swarm hother
  have hsettled := NetworkEventLoop.handle_command_settled_of_ne alive n.network swarm hother
  refine quiet_of_streamless rfl rfl rfl rfl (streamless_of_settled hsettled)
    (fun _ _ h => .pending (hkeeps.streams ▸ h)) (fun sender h => Or.inl ?_)
    fun sender reply h => Or.inl ?_
  · rcases h with h | h
    · exact (hkeeps.awaits sender h).imp_right fun h => hchannel ▸ h
    · exact Or.inr ((HandlerLoop.command_taken_phase ho).2 sender h)
  · simp only [replies, hc] at h
    exact (hkeeps.replies sender reply h).imp_right fun h => hchannel ▸ h

/-- A step of one node, with its loops in step, has one of the effects. -/
theorem next_effect {l : NodeLoops.Label} (hsync : NodeLoops.Synced n)
    (hcommand : ∀ c swarm alive env, l = .network (.command c swarm) alive env →
      (∃ peer_id request request_id sender,
        c = NetworkClient.send_stream_request peer_id request request_id sender) ∨
      ∀ peer_id stream_req sender, c ≠ .SendInStream peer_id stream_req sender)
    (h : NodeLoops.next n l = some n') : Effect peer n l n' := by
  cases l with
  | network wake alive env =>
    obtain ⟨hwake, o, ho, rfl⟩ := NodeLoops.next_network h
    exact network_effect hwake ho fun c swarm hc => hcommand c swarm alive env (hc ▸ rfl)
  | local_event event env =>
    obtain ⟨-, hph, rfl⟩ := NodeLoops.next_local_event h
    refine .quiet (quiet_handler rfl rfl rfl rfl rfl (hsync.no_response ?_) rfl rfl ?_)
    · simp [hph, HandlerLoop.Phase.event]
    · simp [HandlerLoop.Phase.sender]
  | take_event env =>
    exact .quiet (take_event_quiet h)
  | handle env =>
    obtain ⟨event, hph, rfl⟩ := NodeLoops.next_handle h
    have hsender := (HandlerLoop.handle_event_phase env n.handler event).2
    cases event with
    | StreamRequest request from_peer =>
      have hevent : n.handler_phase.event = some (.StreamRequest request from_peer) := by
        rw [hph]
        rfl
      -- the network loop still waits for this response, with the id of the request
      obtain ⟨request_id, hwait⟩ := hsync.waiting request from_peer hevent
      rw [NodeLoops.respond_of_waiting (by exact hwait), HandlerLoop.handle_event_response]
      exact .handle hwait hevent rfl rfl hsender
    | _ =>
      refine .quiet (quiet_handler rfl rfl rfl (by simp [handled_by, hph, HandlerLoop.Phase.event])
        rfl (hsync.no_response (by simp [hph, HandlerLoop.Phase.event])) rfl rfl fun sender h => ?_)
      exact Or.inr (congrArg some (hsender sender h).symm)
  | take_command swarm alive env =>
    exact .quiet (take_command_quiet h)
  | proxy_event_sent env =>
    obtain ⟨server, mode, hph, rfl⟩ := NodeLoops.next_proxy_event_sent h
    refine .quiet (quiet_handler rfl rfl rfl rfl rfl (hsync.no_response ?_) rfl rfl ?_)
    · simp [hph, HandlerLoop.Phase.event]
    · simp [NodeLoops.set_handler, HandlerLoop.stop_proxy_phase]
  | network_gone wake env =>
    obtain ⟨hph, message, rfl⟩ := NodeLoops.next_network_gone h
    refine .quiet (quiet_handler rfl rfl rfl rfl rfl (fun _ _ hresp => ?_) rfl rfl ?_)
    · rcases hph with hph | ⟨m, hph⟩ <;> rw [hph] at hresp <;> cases hresp
    · simp [HandlerLoop.Phase.sender]
  | handler_gone wake =>
    obtain ⟨-, message, rfl⟩ := NodeLoops.next_handler_gone h
    exact .quiet (quiet_of_streamless rfl rfl rfl rfl trivial (fun _ _ h => .pending h)
      (fun _ h => Or.inl h) (by simp [replies]))

end quiet

end StreamRequests

end OrcaNet
