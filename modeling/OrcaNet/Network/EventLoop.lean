import Mathlib.Data.Finset.Basic
import Mathlib.Data.Rat.Defs
import OrcaNet.Common.Utils
import OrcaNet.Framework.Bincode

/-! # Network event loop

    `NetworkEventLoop` of `network/event_loop.rs`.  The loop owns the maps of
    callers that wait for an answer and is suspended in one place at a time:
    in its `select!`, or in an `await` inside one of its handlers.  `Phase`
    says where, `Wake` is what ends the wait, and `resume` runs the code from
    there to its next suspension.

    What libp2p answers to the calls of a command is a parameter (`Swarm`);
    the calls themselves are part of the outcome.  A oneshot channel is known
    by the number of its sender. -/

namespace OrcaNet

/-! ## Section 1: Messages of the loop -/

abbrev kad.QueryId : Type := ℕ
abbrev OutboundRequestId : Type := ℕ
abbrev ResponseChannel : Type := ℕ
abbrev Multiaddr : Type := String

/-- The sending half of a oneshot channel. -/
abbrev Sender : Type := ℕ

/-- What a oneshot channel of a `NetworkClient` call carries. -/
inductive Reply where
  | listening (result : Except String Unit)
  | dialed (result : Except String Unit)
  | providing
  | providers (providers : Finset PeerId)
  | response (result : Except String (OrcaNetResponse F64))
  | stored (result : Except String Unit)
  | value (result : Except String (List UInt8))

inductive NetworkCommand where
  | StartListening (addr : Multiaddr) (sender : Sender)
  | Dial (peer_id : PeerId) (peer_addr : Multiaddr) (sender : Sender)
  | StartProviding (key : String) (sender : Sender)
  | StopProviding (key : String)
  | GetProviders (key : String) (sender : Sender)
  | PutKV (key : String) (value : List UInt8) (sender : Sender)
  | GetValue (key : String) (sender : Sender)
  | Request (request : OrcaNetRequest F64) (peer : PeerId) (sender : Sender)
  | Respond (response : OrcaNetResponse F64) (channel : ResponseChannel)
  | SendInStream (peer_id : PeerId) (stream_req : StreamReq F64) (sender : Option Sender)

/-- The oneshot channel that the caller of a command waits on. -/
def NetworkCommand.sender : NetworkCommand → Option Sender
  | .StartListening _ sender | .Dial _ _ sender | .StartProviding _ sender
  | .GetProviders _ sender | .PutKV _ _ sender | .GetValue _ sender
  | .Request _ _ sender => some sender
  | .SendInStream _ _ sender => sender
  | .StopProviding _ | .Respond _ _ => none

namespace kad

inductive GetProvidersOk where
  | FoundProviders (providers : Finset PeerId)
  | FinishedWithNoAdditionalRecord

inductive GetRecordOk where
  | FoundRecord (value : List UInt8)
  | FinishedWithNoAdditionalRecord

/-- The bytes of a record's key. -/
abbrev RecordKey : Type := List UInt8

/-- `key_with_ns.into_bytes().into()`. -/
def RecordKey.new (key : String) : RecordKey := Bincode.utf8 key

/-- `std::str::from_utf8(key.as_ref())`. -/
def RecordKey.from_utf8 (key : RecordKey) : Option String := Bincode.from_utf8 key

/-- The progress of a kademlia query. -/
inductive QueryResult where
  | GetProviders (result : Except String GetProvidersOk)
  | GetRecord (result : Except String GetRecordOk)
  | PutRecord (result : Except String RecordKey)
  | StartProviding (result : Except String RecordKey)
  | other

end kad

inductive SwarmEvent where
  | OutboundQueryProgressed (id : kad.QueryId) (result : kad.QueryResult)
  | Request (peer : PeerId) (request : OrcaNetRequest F64) (channel : ResponseChannel)
  | Response (request_id : OutboundRequestId) (response : OrcaNetResponse F64)
  | OutboundFailure (request_id : OutboundRequestId) (error : String)
  | ConnectionEstablished (peer_id : PeerId) (is_dialer : Bool)
  | OutgoingConnectionError (peer_id : Option PeerId) (error : String)
  | other

/-- What libp2p returns to the calls of one command. -/
structure Swarm where
  listen_on : Except String Unit
  dial : Except String Unit
  start_providing : Except String kad.QueryId
  get_providers : kad.QueryId
  put_record : Except String kad.QueryId
  get_record : kad.QueryId
  send_request : OutboundRequestId
  send_response : Except (OrcaNetResponse F64) Unit

/-- A libp2p that accepts every command. -/
def sampleSwarm : Swarm := ⟨.ok (), .ok (), .ok 0, 1, .ok 2, 3, 4, .ok ()⟩

/-- The calls that a segment makes to libp2p. -/
inductive SwarmCall where
  | listen_on (addr : Multiaddr)
  | add_address (peer_id : PeerId) (addr : Multiaddr)
  | dial (addr : Multiaddr)
  | start_providing (key : String)
  | stop_providing (key : String)
  | get_providers (key : String)
  | put_record (key : String) (value : List UInt8)
  | get_record (key : String)
  | send_request (peer : PeerId) (request : OrcaNetRequest F64)
  | send_response (channel : ResponseChannel) (response : OrcaNetResponse F64)
  | open_stream (peer_id : PeerId)

/-- A map of callers that wait for an answer. -/
abbrev Pending (K : Type) : Type := K → Option Sender

namespace Pending

variable {K : Type} [DecidableEq K]

def empty : Pending K := fun _ => none

def insert (m : Pending K) (k : K) (sender : Sender) : Pending K :=
  fun i => if i = k then some sender else m i

def remove (m : Pending K) (k : K) : Pending K := fun i => if i = k then none else m i

@[simp] theorem insert_self (m : Pending K) (k : K) (sender : Sender) :
    m.insert k sender k = some sender := by
  simp [insert]

@[simp] theorem insert_ne (m : Pending K) {i k : K} (sender : Sender) (h : i ≠ k) :
    m.insert k sender i = m i := by
  simp [insert, h]

@[simp] theorem remove_self (m : Pending K) (k : K) : m.remove k k = none := by simp [remove]

@[simp] theorem remove_ne (m : Pending K) {i k : K} (h : i ≠ k) : m.remove k i = m i := by
  simp [remove, h]

theorem remove_of_none {m : Pending K} {k : K} (h : m k = none) : m.remove k = m := by
  funext i
  by_cases hi : i = k
  · rw [hi, remove_self, h]
  · rw [remove_ne _ hi]

theorem of_remove {m : Pending K} {k i : K} {sender : Sender}
    (h : m.remove k i = some sender) : m i = some sender := by
  by_cases hi : i = k
  · simp [hi] at h
  · simpa [hi] using h

theorem of_insert {m : Pending K} {k i : K} {caller sender : Sender}
    (h : m.insert k caller i = some sender) : m i = some sender ∨ caller = sender := by
  by_cases hi : i = k
  · subst hi
    simpa using Or.inr h
  · simpa [hi] using Or.inl h

end Pending

/-- The loop's own data. -/
structure NetworkEventLoop where
  pending_dial : Pending PeerId
  pending_start_providing : Pending kad.QueryId
  pending_get_providers : Pending kad.QueryId
  pending_request : Pending OutboundRequestId
  pending_put_kv : Pending kad.QueryId
  pending_get_value : Pending kad.QueryId
  pending_stream_requests : Pending String

namespace NetworkEventLoop

def new : NetworkEventLoop :=
  ⟨.empty, .empty, .empty, .empty, .empty, .empty, .empty⟩

/-- Where the loop is suspended. -/
inductive Phase where
  /-- In the `select!` of `run`. -/
  | select
  /-- `event_sender.send(OrcaNetEvent::Request ..)`. -/
  | send_request_event (request : OrcaNetRequest F64) (from_peer : PeerId)
      (channel : ResponseChannel)
  /-- Reading a stream to its end. -/
  | read_to_end (peer_id : PeerId)
  /-- `event_sender.send(OrcaNetEvent::StreamRequest ..)`. -/
  | send_stream_request_event (peer_id : PeerId) (request_id : String)
      (request : OrcaNetRequest F64)
  /-- Waiting for the handler's response. -/
  | receive_response (peer_id : PeerId) (request_id : String)
  | open_stream (peer_id : PeerId) (stream_req : StreamReq F64) (sender : Option Sender)
  | write_all (peer_id : PeerId) (stream_req : StreamReq F64) (sender : Option Sender)
  | close
  /-- The command channel was closed. -/
  | returned
  /-- The task panicked. -/
  | panicked (message : String)

/-- What ends a wait. -/
inductive Wake where
  | swarm_event (event : SwarmEvent)
  | command (command : NetworkCommand) (swarm : Swarm)
  | commands_closed
  | incoming (peer_id : PeerId)
  /-- The stream was read and deserialized, or an error was logged. -/
  | read (content : Except String (StreamReq F64))
  /-- The request handler took the event. -/
  | event_taken
  /-- The request handler is gone. -/
  | event_receiver_dropped
  /-- The handler's response, or `none` when it dropped its sender. -/
  | response (response : Option (OrcaNetResponse F64))
  | opened (result : Except String Unit)
  | written (result : Except String Unit)
  | closed

/-- Where a segment ends: the next suspension, the maps, the oneshot channels
    that were sent to, and the calls to libp2p. -/
structure Outcome where
  phase : Phase
  loop : NetworkEventLoop
  replies : List (Sender × Reply)
  calls : List SwarmCall

/-! ## Section 2: Handlers -/

section handlers
variable (alive : Sender → Bool)

/-- `let _ = sender.send(..)`: nothing happens when the receiver is gone. -/
def send (sender : Sender) (reply : Reply) : List (Sender × Reply) :=
  if alive sender then [(sender, reply)] else []

/-- `sender.send(..).expect(..)`. -/
def send_expect (loop : NetworkEventLoop) (sender : Sender) (reply : Reply) : Outcome :=
  if alive sender then ⟨.select, loop, [(sender, reply)], []⟩
  else ⟨.panicked "Receiver not to be dropped", loop, [], []⟩

def handle_kademlia_events (s : NetworkEventLoop) (query_id : kad.QueryId) :
    kad.QueryResult → Outcome
  | .GetProviders (.ok (.FoundProviders providers)) =>
    match s.pending_get_providers query_id with
    | some sender =>
      send_expect alive { s with pending_get_providers := s.pending_get_providers.remove query_id }
        sender (.providers providers)
    | none => ⟨.select, s, [], []⟩
  | .GetProviders (.error _) =>
    match s.pending_get_providers query_id with
    | some sender =>
      send_expect alive { s with pending_get_providers := s.pending_get_providers.remove query_id }
        sender (.providers ∅)
    | none => ⟨.select, s, [], []⟩
  | .GetRecord (.ok (.FoundRecord value)) =>
    match s.pending_get_value query_id with
    | some sender =>
      send_expect alive { s with pending_get_value := s.pending_get_value.remove query_id }
        sender (.value (.ok value))
    | none => ⟨.select, s, [], []⟩
  | .GetRecord (.error err) =>
    match s.pending_get_value query_id with
    | some sender =>
      send_expect alive { s with pending_get_value := s.pending_get_value.remove query_id }
        sender (.value (.error err))
    | none => ⟨.select, s, [], []⟩
  | .PutRecord (.ok key) =>
    match key.from_utf8, s.pending_put_kv query_id with
    | none, _ => ⟨.panicked "called `Result::unwrap()` on an `Err` value", s, [], []⟩
    | some _, some sender =>
      send_expect alive { s with pending_put_kv := s.pending_put_kv.remove query_id }
        sender (.stored (.ok ()))
    | some _, none => ⟨.select, s, [], []⟩
  | .PutRecord (.error err) =>
    match s.pending_put_kv query_id with
    | some sender =>
      send_expect alive { s with pending_put_kv := s.pending_put_kv.remove query_id }
        sender (.stored (.error err))
    | none => ⟨.select, s, [], []⟩
  | .StartProviding (.ok key) =>
    match key.from_utf8, s.pending_start_providing query_id with
    | none, _ => ⟨.panicked "called `Result::unwrap()` on an `Err` value", s, [], []⟩
    | some _, some sender =>
      ⟨.select, { s with pending_start_providing := s.pending_start_providing.remove query_id },
        send alive sender .providing, []⟩
    | some _, none => ⟨.panicked "Completed query to be previously pending.", s, [], []⟩
  -- a failed `StartProviding` is only logged
  | .StartProviding (.error _) => ⟨.select, s, [], []⟩
  | .GetProviders (.ok .FinishedWithNoAdditionalRecord) => ⟨.select, s, [], []⟩
  | .GetRecord (.ok .FinishedWithNoAdditionalRecord) => ⟨.select, s, [], []⟩
  | .other => ⟨.select, s, [], []⟩

/-- Answers a request sent with `send_request`. -/
def complete_request (s : NetworkEventLoop) (request_id : OutboundRequestId)
    (result : Except String (OrcaNetResponse F64)) : Outcome :=
  match s.pending_request request_id with
  | some sender =>
    ⟨.select, { s with pending_request := s.pending_request.remove request_id },
      send alive sender (.response result), []⟩
  | none => ⟨.panicked "Request to still be pending.", s, [], []⟩

/-- Answers a dial. -/
def complete_dial (s : NetworkEventLoop) (peer_id : PeerId) (result : Except String Unit) :
    Outcome :=
  match s.pending_dial peer_id with
  | some sender =>
    ⟨.select, { s with pending_dial := s.pending_dial.remove peer_id },
      send alive sender (.dialed result), []⟩
  | none => ⟨.select, s, [], []⟩

def handle_event (s : NetworkEventLoop) : SwarmEvent → Outcome
  | .OutboundQueryProgressed id result => handle_kademlia_events alive s id result
  | .Request peer request channel => ⟨.send_request_event request peer channel, s, [], []⟩
  | .Response request_id response => complete_request alive s request_id (.ok response)
  | .OutboundFailure request_id error => complete_request alive s request_id (.error error)
  | .ConnectionEstablished peer_id is_dialer =>
    if is_dialer then complete_dial alive s peer_id (.ok ()) else ⟨.select, s, [], []⟩
  | .OutgoingConnectionError peer_id error =>
    match peer_id with
    | some peer_id => complete_dial alive s peer_id (.error error)
    | none => ⟨.select, s, [], []⟩
  | .other => ⟨.select, s, [], []⟩

def handle_command (s : NetworkEventLoop) (swarm : Swarm) : NetworkCommand → Outcome
  | .StartListening addr sender =>
    ⟨.select, s, send alive sender (.listening swarm.listen_on), [.listen_on addr]⟩
  | .Dial peer_id peer_addr sender =>
    match s.pending_dial peer_id with
    | none =>
      match swarm.dial with
      | .ok () =>
        ⟨.select, { s with pending_dial := s.pending_dial.insert peer_id sender }, [],
          [.add_address peer_id peer_addr, .dial peer_addr]⟩
      | .error e =>
        ⟨.select, s, send alive sender (.dialed (.error e)),
          [.add_address peer_id peer_addr, .dial peer_addr]⟩
    | some _ => ⟨.panicked "not yet implemented: Already dialing peer.", s, [], []⟩
  | .StartProviding key sender =>
    match swarm.start_providing with
    | .ok query_id =>
      ⟨.select,
        { s with pending_start_providing := s.pending_start_providing.insert query_id sender },
        [], [.start_providing (Utils.get_key_with_ns key)]⟩
    | .error _ =>
      ⟨.panicked "No store error.", s, [], [.start_providing (Utils.get_key_with_ns key)]⟩
  | .StopProviding key => ⟨.select, s, [], [.stop_providing (Utils.get_key_with_ns key)]⟩
  | .GetProviders key sender =>
    ⟨.select,
      { s with
        pending_get_providers := s.pending_get_providers.insert swarm.get_providers sender },
      [], [.get_providers (Utils.get_key_with_ns key)]⟩
  | .Request request peer sender =>
    ⟨.select, { s with pending_request := s.pending_request.insert swarm.send_request sender },
      [], [.send_request peer request]⟩
  | .Respond response channel =>
    match swarm.send_response with
    | .ok () => ⟨.select, s, [], [.send_response channel response]⟩
    | .error _ =>
      ⟨.panicked "Connection to peer to be still open.", s, [],
        [.send_response channel response]⟩
  | .PutKV key value sender =>
    match swarm.put_record with
    | .ok query_id =>
      ⟨.select, { s with pending_put_kv := s.pending_put_kv.insert query_id sender }, [],
        [.put_record (Utils.get_key_with_ns key) value]⟩
    | .error _ =>
      ⟨.panicked "Failed to initiate put request", s, [],
        [.put_record (Utils.get_key_with_ns key) value]⟩
  | .GetValue key sender =>
    ⟨.select, { s with pending_get_value := s.pending_get_value.insert swarm.get_record sender },
      [], [.get_record (Utils.get_key_with_ns key)]⟩
  | .SendInStream peer_id stream_req sender =>
    ⟨.open_stream peer_id stream_req sender, s, [], [.open_stream peer_id]⟩

/-- The rest of `SendInStream` after the write: the caller is registered. -/
def register_stream_request (s : NetworkEventLoop) (request_id : String) :
    Option Sender → NetworkEventLoop
  | some sender =>
    { s with pending_stream_requests := s.pending_stream_requests.insert request_id sender }
  | none => s

/-- The part of `handle_stream_req` after the stream was read. -/
def handle_stream_req (s : NetworkEventLoop) (peer_id : PeerId) (stream_req : StreamReq F64) :
    Outcome :=
  match stream_req.stream_data with
  | .Request request =>
    ⟨.send_stream_request_event peer_id stream_req.request_id request, s, [], []⟩
  | .Response response =>
    match s.pending_stream_requests stream_req.request_id with
    | some sender =>
      let s := { s with
        pending_stream_requests := s.pending_stream_requests.remove stream_req.request_id }
      if alive sender then ⟨.select, s, [(sender, .response (.ok response))], []⟩
      else ⟨.panicked "Send to work", s, [], []⟩
    | none => ⟨.select, s, [], []⟩

/-- One segment: from the end of a wait to the next suspension. -/
def resume (s : NetworkEventLoop) : Phase → Wake → Option Outcome
  | .select, .swarm_event event => some (handle_event alive s event)
  | .select, .command command swarm => some (handle_command alive s swarm command)
  | .select, .commands_closed => some ⟨.returned, s, [], []⟩
  | .select, .incoming peer_id => some ⟨.read_to_end peer_id, s, [], []⟩
  | .send_request_event _ _ _, .event_taken => some ⟨.select, s, [], []⟩
  | .send_request_event _ _ _, .event_receiver_dropped =>
    some ⟨.panicked "Event receiver not to be dropped.", s, [], []⟩
  | .send_stream_request_event _ _ _, .event_receiver_dropped =>
    some ⟨.panicked "Command receiver not to be dropped", s, [], []⟩
  | .read_to_end _, .read (.error _) => some ⟨.select, s, [], []⟩
  | .read_to_end peer_id, .read (.ok stream_req) =>
    some (handle_stream_req alive s peer_id stream_req)
  | .send_stream_request_event peer_id request_id _, .event_taken =>
    some ⟨.receive_response peer_id request_id, s, [], []⟩
  | .receive_response peer_id request_id, .response (some response) =>
    some ⟨.open_stream peer_id ⟨request_id, .Response response⟩ none, s, [], [.open_stream peer_id]⟩
  | .receive_response _ _, .response none =>
    some ⟨.panicked "Sender not to be dropped", s, [], []⟩
  -- without a stream, or when the write fails, the caller's sender is dropped
  | .open_stream _ _ _, .opened (.error _) => some ⟨.select, s, [], []⟩
  | .open_stream peer_id stream_req sender, .opened (.ok ()) =>
    some ⟨.write_all peer_id stream_req sender, s, [], []⟩
  | .write_all _ _ _, .written (.error _) => some ⟨.select, s, [], []⟩
  | .write_all _ stream_req sender, .written (.ok ()) =>
    some ⟨.close, register_stream_request s stream_req.request_id sender, [], []⟩
  | .close, .closed => some ⟨.select, s, [], []⟩
  | _, _ => none

/-- The loop is back in its `select!`, or panicked. -/
def Phase.Settled (ph : Phase) : Prop := ph = .select ∨ ∃ message, ph = .panicked message

theorem handle_kademlia_events_settled (s : NetworkEventLoop) (query_id : kad.QueryId)
    (result : kad.QueryResult) :
    (handle_kademlia_events alive s query_id result).phase.Settled := by
  fun_cases handle_kademlia_events alive s query_id result <;> simp only [send_expect] <;>
    (try split) <;> simp [Phase.Settled]

/-- Only an incoming request suspends the handling of a swarm event. -/
theorem handle_event_settled (s : NetworkEventLoop) {event : SwarmEvent}
    (h : ∀ peer request channel, event ≠ .Request peer request channel) :
    (handle_event alive s event).phase.Settled := by
  cases event with
  | OutboundQueryProgressed id result => exact handle_kademlia_events_settled alive s id result
  | Request peer request channel => exact absurd rfl (h peer request channel)
  | Response request_id response =>
    simp only [handle_event, complete_request]
    split <;> simp [Phase.Settled]
  | OutboundFailure request_id error =>
    simp only [handle_event, complete_request]
    split <;> simp [Phase.Settled]
  | ConnectionEstablished peer_id is_dialer =>
    simp only [handle_event, complete_dial]
    split
    · split <;> simp [Phase.Settled]
    · exact Or.inl rfl
  | OutgoingConnectionError peer_id error =>
    simp only [handle_event, complete_dial]
    split
    · split <;> simp [Phase.Settled]
    · exact Or.inl rfl
  | other => exact Or.inl rfl

/-- Only `SendInStream` suspends the handling of a command. -/
theorem handle_command_settled (s : NetworkEventLoop) (swarm : Swarm) (c : NetworkCommand) :
    (handle_command alive s swarm c).phase.Settled ∨
      ∃ peer_id stream_req sender, c = .SendInStream peer_id stream_req sender ∧
        (handle_command alive s swarm c).phase = .open_stream peer_id stream_req sender := by
  cases c with
  | SendInStream peer_id stream_req sender => exact Or.inr ⟨_, _, _, rfl, rfl⟩
  | Dial peer_id peer_addr sender =>
    simp only [handle_command]
    split
    · split <;> simp [Phase.Settled]
    · simp [Phase.Settled]
  | StartProviding key sender =>
    simp only [handle_command]
    split <;> simp [Phase.Settled]
  | PutKV key value sender =>
    simp only [handle_command]
    split <;> simp [Phase.Settled]
  | Respond response channel =>
    simp only [handle_command]
    split <;> simp [Phase.Settled]
  | _ => exact Or.inl (Or.inl rfl)

/-- Any other command is handled in one segment. -/
theorem handle_command_settled_of_ne (s : NetworkEventLoop) (swarm : Swarm) {c : NetworkCommand}
    (h : ∀ peer_id stream_req sender, c ≠ .SendInStream peer_id stream_req sender) :
    (handle_command alive s swarm c).phase.Settled := by
  rcases handle_command_settled alive s swarm c with hsettled | ⟨_, _, _, hc, -⟩
  · exact hsettled
  · exact absurd hc (h _ _ _)

/-- Commands are taken in the `select!` only. -/
theorem resume_command {s : NetworkEventLoop} {ph : Phase} {c : NetworkCommand} {swarm : Swarm}
    {o : Outcome} (h : resume alive s ph (.command c swarm) = some o) :
    ph = .select ∧ o = handle_command alive s swarm c := by
  cases ph with
  | select => exact ⟨rfl, (Option.some.inj h).symm⟩
  | _ => cases h

/-- Events are taken in the `select!` only. -/
theorem resume_swarm_event {s : NetworkEventLoop} {ph : Phase} {event : SwarmEvent} {o : Outcome}
    (h : resume alive s ph (.swarm_event event) = some o) :
    ph = .select ∧ o = handle_event alive s event := by
  cases ph with
  | select => exact ⟨rfl, (Option.some.inj h).symm⟩
  | _ => cases h

theorem resume_commands_closed {s : NetworkEventLoop} {ph : Phase} {o : Outcome}
    (h : resume alive s ph .commands_closed = some o) :
    ph = .select ∧ o = ⟨.returned, s, [], []⟩ := by
  cases ph with
  | select => exact ⟨rfl, (Option.some.inj h).symm⟩
  | _ => cases h

theorem resume_incoming {s : NetworkEventLoop} {ph : Phase} {peer_id : PeerId} {o : Outcome}
    (h : resume alive s ph (.incoming peer_id) = some o) :
    ph = .select ∧ o = ⟨.read_to_end peer_id, s, [], []⟩ := by
  cases ph with
  | select => exact ⟨rfl, (Option.some.inj h).symm⟩
  | _ => cases h

/-- A stream that cannot be read is dropped. -/
theorem resume_read {s : NetworkEventLoop} {ph : Phase} {content : Except String (StreamReq F64)}
    {o : Outcome} (h : resume alive s ph (.read content) = some o) :
    ∃ peer_id, ph = .read_to_end peer_id ∧
      ((∃ e, content = .error e ∧ o = ⟨.select, s, [], []⟩) ∨
        ∃ stream_req, content = .ok stream_req ∧
          o = handle_stream_req alive s peer_id stream_req) := by
  cases ph with
  | read_to_end peer_id =>
    refine ⟨peer_id, rfl, ?_⟩
    cases content with
    | error e => exact Or.inl ⟨e, rfl, (Option.some.inj h).symm⟩
    | ok stream_req => exact Or.inr ⟨stream_req, rfl, (Option.some.inj h).symm⟩
  | _ => cases h

theorem resume_opened {s : NetworkEventLoop} {ph : Phase} {result : Except String Unit}
    {o : Outcome} (h : resume alive s ph (.opened result) = some o) :
    ∃ peer_id stream_req sender, ph = .open_stream peer_id stream_req sender ∧
      ((∃ e, result = .error e ∧ o = ⟨.select, s, [], []⟩) ∨
        result = .ok () ∧ o = ⟨.write_all peer_id stream_req sender, s, [], []⟩) := by
  cases ph with
  | open_stream peer_id stream_req sender =>
    refine ⟨peer_id, stream_req, sender, rfl, ?_⟩
    cases result with
    | error e => exact Or.inl ⟨e, rfl, (Option.some.inj h).symm⟩
    | ok _ => exact Or.inr ⟨rfl, (Option.some.inj h).symm⟩
  | _ => cases h

/-- The caller of a request is remembered once it was written. -/
theorem resume_written {s : NetworkEventLoop} {ph : Phase} {result : Except String Unit}
    {o : Outcome} (h : resume alive s ph (.written result) = some o) :
    ∃ peer_id stream_req sender, ph = .write_all peer_id stream_req sender ∧
      ((∃ e, result = .error e ∧ o = ⟨.select, s, [], []⟩) ∨
        result = .ok () ∧
          o = ⟨.close, register_stream_request s stream_req.request_id sender, [], []⟩) := by
  cases ph with
  | write_all peer_id stream_req sender =>
    refine ⟨peer_id, stream_req, sender, rfl, ?_⟩
    cases result with
    | error e => exact Or.inl ⟨e, rfl, (Option.some.inj h).symm⟩
    | ok _ => exact Or.inr ⟨rfl, (Option.some.inj h).symm⟩
  | _ => cases h

theorem resume_closed {s : NetworkEventLoop} {ph : Phase} {o : Outcome}
    (h : resume alive s ph .closed = some o) : ph = .close ∧ o = ⟨.select, s, [], []⟩ := by
  cases ph with
  | close => exact ⟨rfl, (Option.some.inj h).symm⟩
  | _ => cases h

/-! ## Section 3: Callers of other commands -/

/-- A caller of anything but a stream request waits for its answer. -/
inductive AwaitsOther (s : NetworkEventLoop) (sender : Sender) : Prop where
  | dial {k} (h : s.pending_dial k = some sender)
  | start_providing {k} (h : s.pending_start_providing k = some sender)
  | get_providers {k} (h : s.pending_get_providers k = some sender)
  | request {k} (h : s.pending_request k = some sender)
  | put_kv {k} (h : s.pending_put_kv k = some sender)
  | get_value {k} (h : s.pending_get_value k = some sender)

/-- The segment leaves the stream requests alone, and remembers and answers
    callers of other commands only. -/
structure KeepsStreams (s : NetworkEventLoop) (o : Outcome) (caller : Option Sender) : Prop where
  streams : o.loop.pending_stream_requests = s.pending_stream_requests
  awaits : ∀ sender, AwaitsOther o.loop sender → AwaitsOther s sender ∨ caller = some sender
  replies : ∀ sender reply, (sender, reply) ∈ o.replies →
    AwaitsOther s sender ∨ caller = some sender

/-- The callers of other commands are in other maps than those of stream requests. -/
theorem AwaitsOther.of_streams {s : NetworkEventLoop} {streams : Pending String} {sender : Sender}
    (h : AwaitsOther { s with pending_stream_requests := streams } sender) :
    s.AwaitsOther sender := by
  cases h with
  | dial h => exact .dial h
  | start_providing h => exact .start_providing h
  | get_providers h => exact .get_providers h
  | request h => exact .request h
  | put_kv h => exact .put_kv h
  | get_value h => exact .get_value h

theorem send_expect_loop (s : NetworkEventLoop) (sender : Sender) (reply : Reply) :
    (send_expect alive s sender reply).loop = s := by
  simp only [send_expect]
  split <;> rfl

theorem send_expect_replies (s : NetworkEventLoop) (sender : Sender) (reply : Reply) :
    (send_expect alive s sender reply).replies = send alive sender reply := by
  simp only [send_expect, send]
  split <;> rfl

theorem handle_kademlia_events_keepsStreams (s : NetworkEventLoop) (query_id : kad.QueryId)
    (result : kad.QueryResult) :
    KeepsStreams s (handle_kademlia_events alive s query_id result) none := by
  fun_cases handle_kademlia_events alive s query_id result <;> constructor <;>
    simp only [send_expect_loop, send_expect_replies] <;>
    grind [send, AwaitsOther, Pending.of_remove]

theorem complete_request_keepsStreams (s : NetworkEventLoop) (request_id : OutboundRequestId)
    (result : Except String (OrcaNetResponse F64)) :
    KeepsStreams s (complete_request alive s request_id result) none := by
  fun_cases complete_request alive s request_id result <;> constructor <;>
    grind [send, AwaitsOther, Pending.of_remove]

theorem complete_dial_keepsStreams (s : NetworkEventLoop) (peer_id : PeerId)
    (result : Except String Unit) :
    KeepsStreams s (complete_dial alive s peer_id result) none := by
  fun_cases complete_dial alive s peer_id result <;> constructor <;>
    grind [send, AwaitsOther, Pending.of_remove]

/-- A segment without answers that leaves the data alone. -/
theorem keepsStreams_of_idle (s : NetworkEventLoop) (ph : Phase) (calls : List SwarmCall)
    (caller : Option Sender) : KeepsStreams s ⟨ph, s, [], calls⟩ caller :=
  ⟨rfl, fun _ h => Or.inl h, by simp⟩

theorem handle_event_keepsStreams (s : NetworkEventLoop) (event : SwarmEvent) :
    KeepsStreams s (handle_event alive s event) none := by
  cases event with
  | OutboundQueryProgressed id result => exact handle_kademlia_events_keepsStreams alive s id result
  | Request peer request channel => exact keepsStreams_of_idle s _ _ none
  | Response request_id response => exact complete_request_keepsStreams alive s request_id _
  | OutboundFailure request_id error => exact complete_request_keepsStreams alive s request_id _
  | ConnectionEstablished peer_id is_dialer =>
    simp only [handle_event]
    split
    · exact complete_dial_keepsStreams alive s peer_id _
    · exact keepsStreams_of_idle s _ _ none
  | OutgoingConnectionError peer_id error =>
    simp only [handle_event]
    split
    · exact complete_dial_keepsStreams alive s _ _
    · exact keepsStreams_of_idle s _ _ none
  | other => exact keepsStreams_of_idle s _ _ none

theorem handle_command_keepsStreams (s : NetworkEventLoop) (swarm : Swarm) {c : NetworkCommand}
    (h : ∀ peer_id stream_req sender, c ≠ .SendInStream peer_id stream_req sender) :
    KeepsStreams s (handle_command alive s swarm c) c.sender := by
  fun_cases handle_command alive s swarm c <;>
    first
    | exact absurd rfl (h _ _ _)
    | exact keepsStreams_of_idle s _ _ _
    | constructor <;> grind [NetworkCommand.sender, send, AwaitsOther, Pending.of_insert]

/-! ## Section 4: Assertions -/

/-- The caller in a map, if there is one, kept its receiver. -/
def Kept {K : Type} (pending : Pending K) (k : K) : Prop :=
  ∀ sender, pending k = some sender → alive sender = true

/-- What the loop asserts of a command and of libp2p's answer to it. -/
def AssertsCommand (s : NetworkEventLoop) (swarm : Swarm) : NetworkCommand → Prop
  | .Dial peer_id _ _ => s.pending_dial peer_id = none
  | .StartProviding _ _ => ∃ id, swarm.start_providing = .ok id
  | .PutKV _ _ _ => ∃ id, swarm.put_record = .ok id
  | .Respond _ _ => swarm.send_response = .ok ()
  | _ => True

/-- What it asserts of the progress of a query. -/
def AssertsQuery (s : NetworkEventLoop) (id : kad.QueryId) : kad.QueryResult → Prop
  | .GetProviders (.ok (.FoundProviders _)) | .GetProviders (.error _) =>
    Kept alive s.pending_get_providers id
  | .GetRecord (.ok (.FoundRecord _)) | .GetRecord (.error _) => Kept alive s.pending_get_value id
  | .PutRecord (.ok key) => key.from_utf8.isSome ∧ Kept alive s.pending_put_kv id
  | .PutRecord (.error _) => Kept alive s.pending_put_kv id
  | .StartProviding (.ok key) => key.from_utf8.isSome ∧ (s.pending_start_providing id).isSome
  | _ => True

/-- What it asserts of an event. -/
def AssertsEvent (s : NetworkEventLoop) : SwarmEvent → Prop
  | .OutboundQueryProgressed id result => AssertsQuery alive s id result
  | .Response request_id _ | .OutboundFailure request_id _ => (s.pending_request request_id).isSome
  | _ => True

/-- What it asserts of anything that ends a wait. -/
def Asserts (s : NetworkEventLoop) : Wake → Prop
  | .swarm_event event => AssertsEvent alive s event
  | .command c swarm => AssertsCommand s swarm c
  | .read (.ok ⟨request_id, .Response _⟩) => Kept alive s.pending_stream_requests request_id
  | .event_receiver_dropped | .response none => False
  | _ => True

theorem send_expect_panics_iff (s : NetworkEventLoop) (sender : Sender) (reply : Reply) :
    (∃ message, (send_expect alive s sender reply).phase = .panicked message) ↔
      alive sender ≠ true := by
  unfold send_expect
  split <;> simp_all

theorem handle_kademlia_events_panics_iff (s : NetworkEventLoop) (id : kad.QueryId)
    (result : kad.QueryResult) :
    (∃ message, (handle_kademlia_events alive s id result).phase = .panicked message) ↔
      ¬ AssertsQuery alive s id result := by
  fun_cases handle_kademlia_events alive s id result <;>
    simp_all [send_expect_panics_iff, AssertsQuery, Kept]

theorem handle_event_panics_iff (s : NetworkEventLoop) (event : SwarmEvent) :
    (∃ message, (handle_event alive s event).phase = .panicked message) ↔
      ¬ AssertsEvent alive s event := by
  have hrequest : ∀ request_id result,
      (∃ message, (complete_request alive s request_id result).phase = .panicked message) ↔
        ¬ (s.pending_request request_id).isSome := by
    intro request_id result
    unfold complete_request
    split <;> simp_all
  have hdial : ∀ peer_id result message,
      (complete_dial alive s peer_id result).phase ≠ .panicked message := by
    intro peer_id result message
    unfold complete_dial
    split <;> simp
  cases event with
  | OutboundQueryProgressed id result => exact handle_kademlia_events_panics_iff alive s id result
  | Response request_id response => exact hrequest _ _
  | OutboundFailure request_id error => exact hrequest _ _
  | ConnectionEstablished peer_id is_dialer =>
    cases is_dialer <;> simp [handle_event, AssertsEvent, hdial]
  | OutgoingConnectionError peer_id error =>
    cases peer_id <;> simp [handle_event, AssertsEvent, hdial]
  | Request peer request channel => simp [handle_event, AssertsEvent]
  | other => simp [handle_event, AssertsEvent]

theorem handle_command_panics_iff (s : NetworkEventLoop) (swarm : Swarm) (c : NetworkCommand) :
    (∃ message, (handle_command alive s swarm c).phase = .panicked message) ↔
      ¬ AssertsCommand s swarm c := by
  fun_cases handle_command alive s swarm c <;> simp_all [AssertsCommand]

theorem handle_stream_req_panics_iff (s : NetworkEventLoop) (peer_id : PeerId)
    (stream_req : StreamReq F64) :
    (∃ message, (handle_stream_req alive s peer_id stream_req).phase = .panicked message) ↔
      ¬ Asserts alive s (.read (.ok stream_req)) := by
  obtain ⟨request_id, data⟩ := stream_req
  cases data with
  | Request request => simp [handle_stream_req, Asserts]
  | Response response =>
    simp only [handle_stream_req, Asserts, Kept]
    cases hpending : s.pending_stream_requests request_id with
    | none => simp
    | some sender => cases halive : alive sender <;> simp [halive]

/-- A segment ends in a panic exactly when something that it asserts is false. -/
theorem resume_panics_iff {s : NetworkEventLoop} {ph : Phase} {wake : Wake} {o : Outcome}
    (h : resume alive s ph wake = some o) :
    (∃ message, o.phase = .panicked message) ↔ ¬ Asserts alive s wake := by
  unfold resume at h
  split at h
  case h_1 event =>
    obtain rfl := Option.some.inj h
    exact handle_event_panics_iff alive s event
  case h_2 c swarm =>
    obtain rfl := Option.some.inj h
    exact handle_command_panics_iff alive s swarm c
  case h_9 peer_id stream_req =>
    obtain rfl := Option.some.inj h
    exact handle_stream_req_panics_iff alive s peer_id stream_req
  case h_18 => cases h
  all_goals
    obtain rfl := Option.some.inj h
    simp [Asserts]

/-- The loop returns when there are no more commands. -/
theorem resume_returns_iff {s : NetworkEventLoop} {ph : Phase} {wake : Wake} {o : Outcome}
    (h : resume alive s ph wake = some o) : o.phase = .returned ↔ wake = .commands_closed := by
  constructor
  · intro hreturned
    unfold resume at h
    split at h
    case h_1 event =>
      obtain rfl := Option.some.inj h
      by_cases hrequest : ∃ peer request channel, event = .Request peer request channel
      · obtain ⟨peer, request, channel, rfl⟩ := hrequest
        cases hreturned
      · push Not at hrequest
        obtain hph | ⟨message, hph⟩ := handle_event_settled alive s hrequest <;>
          cases hreturned.symm.trans hph
    case h_2 c swarm =>
      obtain rfl := Option.some.inj h
      obtain (hph | ⟨message, hph⟩) | ⟨_, _, _, -, hph⟩ :=
        handle_command_settled alive s swarm c <;> cases hreturned.symm.trans hph
    case h_3 => rfl
    case h_9 peer_id stream_req =>
      obtain rfl := Option.some.inj h
      unfold handle_stream_req at hreturned
      repeat' split at hreturned
      all_goals cases hreturned
    case h_18 => cases h
    all_goals
      obtain rfl := Option.some.inj h
      cases hreturned
  · rintro rfl
    obtain ⟨-, rfl⟩ := resume_commands_closed alive h
    rfl

end handlers

end NetworkEventLoop

end OrcaNet
