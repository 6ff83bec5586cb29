import OrcaNet.Framework.WaitsFor
import OrcaNet.Network.StreamRequests

/-! # Flow control of streams

    The network of `StreamRequests` over a transport with a flow-control
    window: `write_all` returns only when the reader of the peer has consumed
    all but a window's worth of the stream.  A network loop writes and reads
    whole streams inline, so while it waits for a reader it reads nothing.

    The nodes form a waits-for graph, and the only step that adds an edge to it
    is the start of a write that is longer than the window. -/

namespace OrcaNet

open Transition WaitsFor Relation

namespace FlowControl

/-! ## Section 1: System -/

structure State where
  network : StreamRequests.State
  /-- How much of the stream that a node is writing its peer has consumed. -/
  consumed : PeerId → ℕ

inductive Label where
  | step (l : StreamRequests.Label)
  /-- The reader takes some bytes of the stream that the writer is writing. -/
  | consume (reader writer : PeerId) (bytes : ℕ)

section transport

-- the length of `bincode::serialize`, and the window of a stream
variable (serialized_len : StreamReq F64 → ℕ) (window : ℕ)

/-- A write returns when no more than the window is left to be consumed, and a
    stream has an end when its writer is done with it. -/
def permitted (s : State) (l : StreamRequests.Label) : Bool :=
  match l.step, (s.network.node l.peer).network_phase with
  | .network (.written (.ok ())) _ _, .write_all _ stream_req _ =>
    serialized_len stream_req ≤ s.consumed l.peer + window
  | .network (.read (.ok stream_req)) _ _, .read_to_end peer_id =>
    match (s.network.node peer_id).network_phase with
    | .write_all reader written _ => ¬ (reader = l.peer ∧ written = stream_req)
    | _ => true
  | _, _ => true

/-- The message that a step starts to write. -/
def starts_writing (s : State) : Label → Option StreamRequests.Message
  | .step l => StreamRequests.sent l.peer (s.network.node l.peer) l.step
  | .consume _ _ _ => none

/-- A new stream starts with nothing consumed. -/
def start (s : State) (m : Option StreamRequests.Message) : PeerId → ℕ :=
  match m with
  | some m => Function.update s.consumed m.from_peer 0
  | none => s.consumed

def next (s : State) : Label → Option State
  | .step l =>
    if permitted serialized_len window s l then
      (StreamRequests.next s.network l).map fun n => ⟨n, start s (starts_writing s (.step l))⟩
    else none
  | .consume reader writer bytes =>
    match (s.network.node reader).network_phase, (s.network.node writer).network_phase with
    | .read_to_end peer_id, .write_all peer_id' stream_req _ =>
      if peer_id = writer ∧ peer_id' = reader ∧
          s.consumed writer + bytes ≤ serialized_len stream_req then
        some { s with
          consumed := Function.update s.consumed writer (s.consumed writer + bytes) }
      else none
    | _, _ => none

def system : System State Label where
  init := fun s => StreamRequests.system.init s.network
  next := next serialized_len window

/-! ## Section 2: Waiting for a reader -/

/-- `writer` is suspended writing a stream that only `reader` could read on. -/
def Waits (s : State) (writer reader : PeerId) : Prop :=
  ∃ stream_req sender,
    (s.network.node writer).network_phase = .write_all reader stream_req sender ∧
      s.consumed writer + window < serialized_len stream_req

/-- No node waits, through any number of others, for itself. -/
def NoCircularWait (s : State) : Prop := Acyclic (Waits serialized_len window s)

/-- A write longer than the window is started only to a peer that does not
    already wait, directly or through others, for the writer. -/
def Unobstructed (s : State) (l : Label) : Prop :=
  ∀ m, starts_writing s l = some m → window < serialized_len m.stream_req →
    ¬ ReflTransGen (Waits serialized_len window s) m.to_peer m.from_peer

end transport

/-! ## Section 3: What a step does to the waiting -/

/-- Only the answer of `open_stream` starts a write. -/
theorem resume_write_all {alive : Sender → Bool} {s : NetworkEventLoop}
    {ph : NetworkEventLoop.Phase} {wake : NetworkEventLoop.Wake} {o : NetworkEventLoop.Outcome}
    (h : NetworkEventLoop.resume alive s ph wake = some o) {peer_id : PeerId}
    {stream_req : StreamReq F64} {sender : Option Sender}
    (hwrite : o.phase = .write_all peer_id stream_req sender) :
    wake = .opened (.ok ()) ∧ ph = .open_stream peer_id stream_req sender := by
  -- a phase that writes is not streamless, which rules out most segments at once
  have hstreamless : ¬ StreamRequests.Streamless o.phase := by
    rw [hwrite]
    exact id
  cases wake with
  | swarm_event event =>
    obtain ⟨-, rfl⟩ := NetworkEventLoop.resume_swarm_event _ h
    exact absurd (StreamRequests.handle_event_streamless alive s event) hstreamless
  | command c swarm =>
    obtain ⟨-, rfl⟩ := NetworkEventLoop.resume_command _ h
    rcases NetworkEventLoop.handle_command_settled alive s swarm c with
      hsettled | ⟨_, _, _, -, hopen⟩
    · exact absurd (StreamRequests.streamless_of_settled hsettled) hstreamless
    · -- `SendInStream` opens a stream first
      rw [hopen] at hwrite
      cases hwrite
  | read content =>
    obtain ⟨peer_id, -, ⟨e, -, rfl⟩ | ⟨stream_req, -, rfl⟩⟩ := NetworkEventLoop.resume_read _ h
    · exact absurd trivial hstreamless
    · obtain ⟨request_id, request | response⟩ := stream_req
      · cases hwrite
      · obtain ⟨phase, replies, heq, hphase, -⟩ :=
          StreamRequests.handle_stream_req_response alive s peer_id request_id response
        rw [heq] at hstreamless
        exact absurd hphase hstreamless
  | opened result =>
    obtain ⟨_, _, _, rfl, ⟨e, -, rfl⟩ | ⟨rfl, rfl⟩⟩ := NetworkEventLoop.resume_opened _ h
    · cases hwrite
    · cases hwrite
      exact ⟨rfl, rfl⟩
  | written result =>
    obtain ⟨_, _, _, -, ⟨e, -, rfl⟩ | ⟨-, rfl⟩⟩ := NetworkEventLoop.resume_written _ h
    · cases hwrite
    · cases hwrite
  | response response =>
    cases ph with
    | receive_response peer_id request_id => cases response <;> cases h <;> cases hwrite
    | _ => cases h
  | _ => cases ph <;> cases h <;> cases hwrite

/-- A node that writes after a step did so before, or its stream was opened. -/
theorem next_write_all {n n' : NodeLoops.State} {l : NodeLoops.Label}
    (h : NodeLoops.next n l = some n') {peer_id : PeerId} {stream_req : StreamReq F64}
    {sender : Option Sender} (hwrite : n'.network_phase = .write_all peer_id stream_req sender) :
    n.network_phase = .write_all peer_id stream_req sender ∨
      n.network_phase = .open_stream peer_id stream_req sender ∧
        ∃ alive env, l = .network (.opened (.ok ())) alive env := by
  rcases NodeLoops.next_network_phase h with hsame | ⟨wake, alive, o, ho, hphase, hwake⟩
  · exact Or.inl (hsame ▸ hwrite)
  · obtain ⟨rfl, hopen⟩ := resume_write_all ho (hphase ▸ hwrite)
    rcases hwake with ⟨env, rfl⟩ | ⟨c, swarm, hc⟩ | hinside
    · exact Or.inr ⟨hopen, alive, env, rfl⟩
    · cases hc
    · cases hinside

theorem node_of_next {s s' : StreamRequests.State} {l : StreamRequests.Label}
    (h : StreamRequests.next s l = some s') :
    ∃ n, NodeLoops.next (s.node l.peer) l.step = some n ∧
      s'.node = Function.update s.node l.peer n := by
  obtain ⟨-, hmap⟩ := Option.ite_none_right_eq_some.mp h
  obtain ⟨n, hnext, rfl⟩ := Option.map_eq_some_iff.mp hmap
  exact ⟨n, hnext, rfl⟩

/-- A message that starts to be written is the one its stream was opened for. -/
theorem sent_eq_some {peer : PeerId} {n n' : NodeLoops.State} {l : NodeLoops.Label}
    {m : StreamRequests.Message} (hsent : StreamRequests.sent peer n l = some m)
    (h : NodeLoops.next n l = some n') :
    m.from_peer = peer ∧ ∃ sender,
      n.network_phase = .open_stream m.to_peer m.stream_req sender ∧
        n'.network_phase = .write_all m.to_peer m.stream_req sender := by
  unfold StreamRequests.sent at hsent
  split at hsent
  · rename_i alive env
    split at hsent
    · rename_i peer_id stream_req sender hopen
      obtain rfl := Option.some.inj hsent
      obtain ⟨-, o, ho, rfl⟩ := NodeLoops.next_network h
      rw [hopen] at ho
      obtain rfl := Option.some.inj ho
      refine ⟨rfl, sender, hopen, ?_⟩
      rw [NodeLoops.network_phase_deliver]
      rfl
    · cases hsent
  · cases hsent

section waiting

variable {serialized_len : StreamReq F64 → ℕ} {window : ℕ} {s s' : State} {l : Label}

theorem next_step {l : StreamRequests.Label}
    (h : next serialized_len window s (.step l) = some s') :
    permitted serialized_len window s l = true ∧
      s'.consumed = start s (starts_writing s (.step l)) ∧
      ∃ n, NodeLoops.next (s.network.node l.peer) l.step = some n ∧
        s'.network.node = Function.update s.network.node l.peer n := by
  obtain ⟨hpermitted, hmap⟩ := Option.ite_none_right_eq_some.mp h
  obtain ⟨network, hnetwork, rfl⟩ := Option.map_eq_some_iff.mp hmap
  exact ⟨hpermitted, rfl, node_of_next hnetwork⟩

/-- Only the reader of a stream consumes it. -/
theorem next_consume {reader writer : PeerId} {bytes : ℕ}
    (h : next serialized_len window s (.consume reader writer bytes) = some s') :
    (s.network.node reader).network_phase = .read_to_end writer ∧
      (∃ stream_req sender,
        (s.network.node writer).network_phase = .write_all reader stream_req sender) ∧
      s'.network = s.network ∧
      s'.consumed = Function.update s.consumed writer (s.consumed writer + bytes) := by
  simp only [next] at h
  split at h
  · rename_i peer_id peer_id' stream_req sender hread hwrite
    obtain ⟨⟨rfl, rfl, -⟩, heq⟩ := Option.ite_none_right_eq_some.mp h
    obtain rfl := Option.some.inj heq
    exact ⟨hread, ⟨stream_req, sender, hwrite⟩, rfl, rfl⟩
  · cases h

theorem waits_congr (s s' : State) {x : PeerId} (hnode : s'.network.node x = s.network.node x)
    (hconsumed : s'.consumed x = s.consumed x) (y : PeerId) :
    Waits serialized_len window s' x y ↔ Waits serialized_len window s x y := by
  simp only [Waits, hnode, hconsumed]

/-- A step that starts no write lets no node wait that did not wait before. -/
theorem waits_of_no_start (h : next serialized_len window s l = some s')
    (hstart : starts_writing s l = none) {x y : PeerId}
    (hwaits : Waits serialized_len window s' x y) : Waits serialized_len window s x y := by
  cases l with
  | step l =>
    obtain ⟨-, hconsumed, n, hnext, hnode⟩ := next_step h
    rw [hstart] at hconsumed
    by_cases hx : x = l.peer
    · subst hx
      obtain ⟨stream_req, sender, hwrite, hlen⟩ := hwaits
      rw [hnode, Function.update_self] at hwrite
      rw [hconsumed] at hlen
      rcases next_write_all hnext hwrite with hwas | ⟨hopen, alive, env, hl⟩
      · exact ⟨stream_req, sender, hwas, hlen⟩
      · simp [starts_writing, StreamRequests.sent, hl, hopen] at hstart
    · refine (waits_congr s s' ?_ ?_ y).mp hwaits
      · rw [hnode, Function.update_of_ne hx]
      · rw [hconsumed]
        rfl
  | consume reader writer bytes =>
    -- what was consumed only grows
    obtain ⟨-, -, hnetwork, hconsumed⟩ := next_consume h
    obtain ⟨stream_req, sender, hwrite, hlen⟩ := hwaits
    rw [hnetwork] at hwrite
    refine ⟨stream_req, sender, hwrite, lt_of_le_of_lt ?_ hlen⟩
    by_cases hx : x = writer
    · rw [hconsumed, hx, Function.update_self]
      omega
    · rw [hconsumed, Function.update_of_ne hx]

/-- A step that starts a write makes its writer wait, if it is longer than the
    window. -/
theorem waits_iff_of_start (h : next serialized_len window s l = some s')
    {m : StreamRequests.Message} (hstart : starts_writing s l = some m) (x y : PeerId) :
    Waits serialized_len window s' x y ↔
      Waits serialized_len window s x y ∨
        window < serialized_len m.stream_req ∧ x = m.from_peer ∧ y = m.to_peer := by
  cases l with
  | consume reader writer bytes => cases hstart
  | step l =>
    obtain ⟨-, hconsumed, n, hnext, hnode⟩ := next_step h
    obtain ⟨hfrom, sender, hopen, hwrite⟩ := sent_eq_some hstart hnext
    rw [hstart] at hconsumed
    by_cases hx : x = m.from_peer
    · -- the writer waited for its stream to open, so it was not writing
      have hidle : ¬ Waits serialized_len window s x y := by
        rintro ⟨_, _, hwrote, -⟩
        rw [hx, hfrom, hopen] at hwrote
        cases hwrote
      have hnow : (s'.network.node x).network_phase = .write_all m.to_peer m.stream_req sender := by
        rw [hnode, hx, hfrom, Function.update_self]
        exact hwrite
      -- and of the new message nothing is read yet
      have hzero : s'.consumed x = 0 := by
        rw [hconsumed, hx]
        exact Function.update_self _ _ _
      constructor
      · rintro ⟨stream_req, _, hph, hlen⟩
        rw [hnow] at hph
        cases hph
        rw [hzero, Nat.zero_add] at hlen
        exact Or.inr ⟨hlen, hx, rfl⟩
      · rintro (hold | ⟨hlen, -, rfl⟩)
        · exact absurd hold hidle
        · exact ⟨m.stream_req, sender, hnow, by rw [hzero, Nat.zero_add]; exact hlen⟩
    · rw [waits_congr s s' ?_ ?_ y]
      · simp [hx]
      · rw [hnode, Function.update_of_ne (hfrom ▸ hx)]
      · rw [hconsumed]
        exact Function.update_of_ne hx _ _

/-- A step keeps the nodes from waiting in a circle exactly when it is unobstructed. -/
theorem noCircularWait_iff (hinv : NoCircularWait serialized_len window s)
    (h : next serialized_len window s l = some s') :
    NoCircularWait serialized_len window s' ↔ Unobstructed serialized_len window s l := by
  cases hstart : starts_writing s l with
  | none =>
    refine iff_of_true (hinv.mono fun x y => waits_of_no_start h hstart) fun m hm => ?_
    rw [hstart] at hm
    cases hm
  | some m =>
    by_cases hlong : window < serialized_len m.stream_req
    -- a long write adds the edge from its writer to its reader
    · have hedge : ∀ x y, Waits serialized_len window s' x y ↔
          Waits serialized_len window s x y ∨ x = m.from_peer ∧ y = m.to_peer := by
        simpa [hlong] using waits_iff_of_start h hstart
      refine (acyclic_add_edge_iff hinv hedge).trans ?_
      simp [Unobstructed, hstart, hlong]
    -- a short write never waits
    · have hsame : ∀ x y, Waits serialized_len window s' x y →
          Waits serialized_len window s x y := by
        simpa [hlong] using fun x y => (waits_iff_of_start h hstart x y).mp
      refine iff_of_true (hinv.mono hsame) fun m' hm' hlong' => ?_
      obtain rfl := Option.some.inj (hstart.symm.trans hm')
      exact absurd hlong' hlong

/-- A node that is writing goes on writing until the write is over. -/
theorem next_of_write_all {n n' : NodeLoops.State} {l : NodeLoops.Label}
    (h : NodeLoops.next n l = some n') {peer_id : PeerId} {stream_req : StreamReq F64}
    {sender : Option Sender} (hwrite : n.network_phase = .write_all peer_id stream_req sender) :
    n'.network_phase = .write_all peer_id stream_req sender ∨
      ∃ result alive env, l = .network (.written result) alive env := by
  rcases NodeLoops.next_network_phase h with hsame | ⟨wake, alive, o, ho, -, hwake⟩
  · exact Or.inl (hsame.trans hwrite)
  · -- a loop that writes is woken by the end of the write only
    rw [hwrite] at ho
    cases wake with
    | written result =>
      rcases hwake with ⟨env, rfl⟩ | ⟨c, swarm, hc⟩ | hinside
      · exact Or.inr ⟨result, alive, env, rfl⟩
      · cases hc
      · cases hinside
    | _ => cases ho

/-- A node that waits for a node that waits goes on waiting, unless its write fails. -/
theorem waits_persists (h : next serialized_len window s l = some s')
    (herror : ∀ peer error alive env,
      l ≠ .step ⟨peer, .network (.written (.error error)) alive env⟩)
    {x y z : PeerId} (hxy : Waits serialized_len window s x y)
    (hyz : Waits serialized_len window s y z) : Waits serialized_len window s' x y := by
  have hwaits := hxy
  obtain ⟨stream_req, sender, hwrite, hlen⟩ := hxy
  cases l with
  | step l =>
    obtain ⟨hpermitted, hconsumed, n, hnext, hnode⟩ := next_step h
    by_cases hx : x = l.peer
    · subst hx
      rcases next_of_write_all hnext hwrite with hstays | ⟨result, alive, env, hl⟩
      · have hidle : starts_writing s (.step l) = none := by
          cases hstart : starts_writing s (.step l) with
          | none => rfl
          | some m =>
            obtain ⟨-, _, hopen, -⟩ := sent_eq_some hstart hnext
            rw [hwrite] at hopen
            cases hopen
        refine ⟨stream_req, sender, ?_, ?_⟩
        · rw [hnode, Function.update_self]
          exact hstays
        · rw [hconsumed, hidle]
          exact hlen
      · cases result with
        | error error => exact absurd (by rw [← hl]) (herror l.peer error alive env)
        | ok _ =>
          -- the write is over only when its reader has read on
          have hread : serialized_len stream_req ≤ s.consumed l.peer + window := by
            simpa [permitted, hl, hwrite] using hpermitted
          exact absurd hlen (not_lt.mpr hread)
    · refine (waits_congr s s' ?_ ?_ y).mpr hwaits
      · rw [hnode, Function.update_of_ne hx]
      · rw [hconsumed]
        cases hstart : starts_writing s (.step l) with
        | none => rfl
        | some m =>
          obtain ⟨hfrom, -⟩ := sent_eq_some hstart hnext
          exact Function.update_of_ne (hfrom ▸ hx) _ _
  | consume reader writer bytes =>
    -- the reader of a waiting node would have to read while it waits itself
    obtain ⟨hread, ⟨_, _, hwriter⟩, hnetwork, hconsumed⟩ := next_consume h
    obtain ⟨_, _, hreader, -⟩ := hyz
    have hx : x ≠ writer := by
      rintro rfl
      rw [hwrite] at hwriter
      cases hwriter
      rw [hread] at hreader
      cases hreader
    refine (waits_congr s s' ?_ ?_ y).mpr hwaits
    · rw [hnetwork]
    · rw [hconsumed, Function.update_of_ne hx]

/-- A circle of waiting nodes stays, as long as no write fails. -/
theorem circularWait_persists (h : next serialized_len window s l = some s')
    (herror : ∀ peer error alive env,
      l ≠ .step ⟨peer, .network (.written (.error error)) alive env⟩)
    (hcircle : ¬ NoCircularWait serialized_len window s) :
    ¬ NoCircularWait serialized_len window s' :=
  not_acyclic_of_waiting hcircle fun _ _ _ hxy hyz => waits_persists h herror hxy hyz

end waiting

/-! ## Section 4: No circular wait -/

/-- **No circular wait.**  A run from a state where no nodes wait for each other
    in a circle never gets into one exactly when it starts every write that is
    longer than the window to a peer that does not already wait, directly or
    through others, for the writer. -/
theorem no_circular_wait_iff (serialized_len : StreamReq F64 → ℕ) (window : ℕ) (s : State)
    (ls : List Label) (h : system serialized_len window |>.init s) :
    (system serialized_len window).AllSteps
        (fun _ _ t => NoCircularWait serialized_len window t) s ls ↔
      (system serialized_len window).AllSteps
        (fun t l _ => Unobstructed serialized_len window t l) s ls := by
  refine System.allSteps_iff _ (J := NoCircularWait serialized_len window)
    (fun _ _ _ hinv hnext => noCircularWait_iff hinv hnext)
    (fun _ _ _ hinv hg hnext => (noCircularWait_iff hinv hnext).mpr hg) ls ?_
  -- at the start nobody writes
  refine acyclic_of_no_edge fun x y hwaits => ?_
  obtain ⟨stream_req, sender, hwrite, -⟩ := hwaits
  rw [(h.1 x).1.1] at hwrite
  cases hwrite

/-! ## Section 5: Two files that cross -/

/-- The length of what `bincode` serializes: lengths of strings and vectors take
    8 bytes, variant indexes 4, and an `f64` 8. -/
def string_len (s : String) : ℕ := 8 + s.utf8ByteSize

def metadata_len (m : FileMetadata F64) : ℕ :=
  string_len m.file_id + string_len m.file_name + 8 + string_len m.recipient_address

def proxy_metadata_len (m : HTTPProxyMetadata F64) : ℕ :=
  string_len m.proxy_address + 8 + string_len m.recipient_address

def payment_request_len (p : PaymentRequest F64) : ℕ :=
  8 + string_len p.payment_reference + string_len p.recipient_address

def error_len : OrcaNetError → ℕ
  | .AuthorizationFailed message | .NotAProvider message | .InternalServerError message =>
    4 + string_len message
  | .PaymentReferenceMismatch | .SessionTerminatedByProvider => 4

def request_len : OrcaNetRequest F64 → ℕ
  | .FileMetadataRequest file_id | .FileContentRequest file_id => 4 + string_len file_id
  | .HTTPProxyMetadataRequest | .HTTPProxyProvideRequest => 4
  | .HTTPProxyPrePaymentRequest client_id auth_token _ _ =>
    4 + string_len client_id + string_len auth_token + 8 + 8
  | .HTTPProxyPostPaymentNotification client_id auth_token n =>
    4 + string_len client_id + string_len auth_token + string_len n.sender_address +
      string_len n.receiver_address + 8 + string_len n.tx_id + string_len n.payment_reference

def response_len : OrcaNetResponse F64 → ℕ
  | .FileMetadataResponse metadata => 4 + metadata_len metadata
  | .FileContentResponse metadata content => 4 + metadata_len metadata + 8 + content.length
  | .HTTPProxyMetadataResponse metadata => 4 + proxy_metadata_len metadata
  | .HTTPProxyProvideResponse metadata client_id auth_token =>
    4 + proxy_metadata_len metadata + string_len client_id + string_len auth_token
  | .HTTPProxyPrePaymentResponse _ _ pre_payment_response =>
    4 + 8 + 8 + 4 + match pre_payment_response with
      | .Accepted p | .ServerTerminatingConnection p => payment_request_len p
      | .RejectedDataTransferDiffers | .RejectedFeeOwedDiffers => 0
  | .Error error => 4 + error_len error
  | .NullResponse => 4

def bincode_len (stream_req : StreamReq F64) : ℕ :=
  string_len stream_req.request_id + 4 + match stream_req.stream_data with
    | .Request request => request_len request
    | .Response response => response_len response

/-- Files can be read. -/
def fileEnv : HandlerEnv := .reading (List.replicate 40 0)

/-- Every node provides the same file. -/
def providers : State where
  network := { StreamRequests.idleNetwork with
    node := fun _ => { NodeLoops.idleNode with
      handler := { NodeLoops.idleNode.handler with
        db := (ProvidedFilesTable.insert_provided_file fileEnv.toEnv
          (.with_defaults "file" "path" "name" 0) .empty).2 } } }
  consumed := fun _ => 0

/-- A node asks another one for the file. -/
def ask (p q : PeerId) (id : String) : List Label :=
  let wake (w : NetworkEventLoop.Wake) : Label := .step ⟨p, .network w (fun _ => true) fileEnv⟩
  let request : OrcaNetRequest F64 := .FileContentRequest "file"
  [wake (.command (NetworkClient.send_stream_request q request id 1) sampleSwarm),
   wake (.opened (.ok ())), wake (.written (.ok ())), wake .closed]

/-- The other one starts to write it. -/
def respond (p q : PeerId) (id : String) : List Label :=
  let wake (w : NetworkEventLoop.Wake) : Label := .step ⟨p, .network w (fun _ => true) fileEnv⟩
  [wake (.incoming q), wake (.read (.ok ⟨id, .Request (.FileContentRequest "file")⟩)),
   .step ⟨p, .take_event fileEnv⟩, .step ⟨p, .handle fileEnv⟩, wake (.opened (.ok ()))]

/-- One file, which the node that asked for it can read. -/
def askedFile : List Label :=
  ask ⟨"alice"⟩ ⟨"bob"⟩ "1" ++ respond ⟨"bob"⟩ ⟨"alice"⟩ "1"

/-- Two nodes ask each other for the file, and each writes it to the other. -/
def crossingFiles : List Label :=
  ask ⟨"alice"⟩ ⟨"bob"⟩ "1" ++ ask ⟨"bob"⟩ ⟨"alice"⟩ "2" ++
    respond ⟨"alice"⟩ ⟨"bob"⟩ "2" ++ respond ⟨"bob"⟩ ⟨"alice"⟩ "1"

theorem crossingFiles_isSome : ((system bincode_len 64).run providers crossingFiles).isSome := by
  with_unfolding_all rfl

theorem init_providers : (system bincode_len 64).init providers :=
  ⟨fun _ => ⟨⟨rfl, rfl⟩, rfl⟩, rfl, rfl, rfl, rfl, rfl⟩

/-- Only the start of a write can be obstructed. -/
theorem allUnobstructed_cons {serialized_len : StreamReq F64 → ℕ} {window : ℕ} {s s' : State}
    {l : Label} {labels : List Label} (hstart : starts_writing s l = none)
    (hnext : next serialized_len window s l = some s')
    (h : (system serialized_len window).AllSteps
      (fun t l _ => Unobstructed serialized_len window t l) s' labels) :
    (system serialized_len window).AllSteps
      (fun t l _ => Unobstructed serialized_len window t l) s (l :: labels) := by
  refine (System.allSteps_cons _ hnext).mpr ⟨fun m hm => ?_, h⟩
  rw [hstart] at hm
  cases hm

theorem no_circular_wait_iff_askedFile :
    (∃ s, (system bincode_len 64).run providers askedFile = some s ∧
      Waits bincode_len 64 s ⟨"bob"⟩ ⟨"alice"⟩) ∧
    (system bincode_len 64).AllSteps (fun _ _ t => NoCircularWait bincode_len 64 t) providers
      askedFile := by
  refine ⟨⟨_, by with_unfolding_all rfl, _, _, by with_unfolding_all rfl,
    by with_unfolding_all decide⟩, ?_⟩
  refine (no_circular_wait_iff bincode_len 64 providers _ init_providers).mpr ?_
  refine allUnobstructed_cons rfl (by with_unfolding_all rfl) ?_
  refine (System.allSteps_cons _ (by with_unfolding_all rfl)).mpr ⟨?_, ?_⟩
  · -- the request is shorter than the window
    rintro m hm hlen
    cases hm
    exact absurd hlen (by decide)
  iterate 6 refine allUnobstructed_cons rfl (by with_unfolding_all rfl) ?_
  refine (System.allSteps_cons _ (by with_unfolding_all rfl)).mpr ⟨?_, trivial⟩
  -- the file is longer, and its reader writes nothing
  rintro m hm - hwaits
  cases hm
  rcases hwaits.cases_head with heq | ⟨y, ⟨_, _, hwrite, _⟩, _⟩
  · exact absurd heq (by decide)
  · cases hwrite

theorem circular_wait_crossingFiles :
    ∃ s, (system bincode_len 64).Reachable s ∧ ¬ NoCircularWait bincode_len 64 s := by
  let s := ((system bincode_len 64).run providers crossingFiles).get crossingFiles_isSome
  have halice : Waits bincode_len 64 s ⟨"alice"⟩ ⟨"bob"⟩ :=
    ⟨_, _, by with_unfolding_all rfl, by with_unfolding_all decide⟩
  have hbob : Waits bincode_len 64 s ⟨"bob"⟩ ⟨"alice"⟩ :=
    ⟨_, _, by with_unfolding_all rfl, by with_unfolding_all decide⟩
  refine ⟨s, .run crossingFiles (.init init_providers)
    (Option.some_get crossingFiles_isSome).symm, fun hacyc => ?_⟩
  exact hacyc ⟨"alice"⟩ (.tail (.single halice) hbob)

end FlowControl

end OrcaNet
