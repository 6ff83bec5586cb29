import OrcaNet.Common.TcpStream
import OrcaNet.Proxy.ProxyPayment

/-! # Connecting to the remote proxy

    `ProxyClient::connect_to_proxy` of `proxy/proxy_handlers.rs`: a CONNECT
    request by hand over a TCP stream, which is the tunnel from then on.

    The head of the response is read in whole buffers, and what a buffer holds
    beyond the head is dropped with it.  Where the head ends in the buffers is
    up to the network; the verdict is not, because the status line of an
    accepting response is complete long before its head can end. -/

namespace OrcaNet

open Utils

namespace ProxyClient

/-! ## Section 1: `connect_to_proxy` -/

/-- What `connect_to_proxy` draws from outside. -/
structure ConnectEnv where
  /-- `TcpStream::connect`, and `write_all` on the connection: the stream then
      reads what the peer answers. -/
  connect : String → Except String (List UInt8 → Except String TcpStream)
  /-- The order in which a hash map is iterated. -/
  iter : List (String × String) → List (String × String)

/-- The CONNECT request. -/
def req_str (env : ConnectEnv) (session_info : ProxySessionInfo) (target_uri : String) : String :=
  let bearer_token := "Bearer " ++ session_info.auth_token
  let headers := env.iter [("proxy-authorization", bearer_token), ("connection", "keep-alive"),
    ("proxy-connection", "keep-alive")]
  let lines := "\r\n".intercalate (headers.map fun p => p.1 ++ ": " ++ p.2)
  s!"CONNECT {target_uri} HTTP/1.1\r\n{lines}\r\n\r\n"

/-- `b"HTTP/1.1 200"`. -/
def HTTP_OK : List UInt8 := [72, 84, 84, 80, 47, 49, 46, 49, 32, 50, 48, 48]

inductive Connected where
  | ok (proxy_stream : TcpStream)
  | err (message : String)
  | panicked (message : String)
  deriving DecidableEq, Repr

/-- With at most `fuel` reads of the response. -/
def connect_to_proxy (fuel : ℕ) (env : ConnectEnv) (session_info : ProxySessionInfo)
    (target_uri : String) : Option Connected :=
  match env.connect session_info.proxy_address with
  | .error e => some (.err e)
  | .ok write_all =>
    match write_all (req_str env session_info target_uri).toUTF8.toList with
    | .error e => some (.err e)
    | .ok proxy_stream =>
      match read_stream_to_end fuel proxy_stream with
      | none => none
      | some (.panicked message, _) => some (.panicked message)
      | some (.data response, proxy_stream) =>
        if HTTP_OK <+: response then some (.ok proxy_stream)
        else some (.err "Failed to connect to proxy")

section connect

variable (env : ConnectEnv) (session_info : ProxySessionInfo) (target_uri : String)

/-- `connect_to_proxy` returns. -/
def Returns (result : Connected) : Prop :=
  ∃ fuel, connect_to_proxy fuel env session_info target_uri = some result

/-- The proxy can be connected to, takes the request and answers `proxy_stream`. -/
def Answers (proxy_stream : TcpStream) : Prop :=
  ∃ write_all, env.connect session_info.proxy_address = .ok write_all ∧
    write_all (req_str env session_info target_uri).toUTF8.toList = .ok proxy_stream

def Accepts : Prop := ∃ proxy_stream, Returns env session_info target_uri (.ok proxy_stream)

/-- What follows the first `CRLFCRLF`. -/
def after_head (bytes : List UInt8) : Option (List UInt8) :=
  (ReadUntil.shortest HasEnd bytes).map fun head => bytes.drop head.length

/-- The tunnel reads what follows the head. -/
def HandsOver (answer : TcpStream) : Prop :=
  ∀ proxy_stream, Returns env session_info target_uri (.ok proxy_stream) →
    after_head answer.bytes = some proxy_stream.bytes

/-- An accepting answer. -/
structure Accepting (answer : TcpStream) : Prop where
  starts : HTTP_OK <+: answer.bytes
  ends : HasEnd answer.bytes

/-- One of the reads ends where the head ends. -/
def CutAtHead (answer : TcpStream) : Prop :=
  ∃ j, ReadUntil.shortest HasEnd answer.bytes = some (answer.reads.take j).flatten

end connect

/-! ## Section 2: The verdict -/

/-- An accepting answer has its status line before the end of its head. -/
theorem starts_iff {bytes response : List UInt8} (hinitial : response <+: bytes)
    (hend : HasEnd response) : HTTP_OK <+: response ↔ HTTP_OK <+: bytes := by
  constructor
  · intro h
    exact h.trans hinitial
  · intro h
    obtain hle | hle := List.prefix_or_prefix_of_prefix h hinitial
    · exact hle
    · -- there is no room for the end of a head in the status line
      have hstatus : HasEnd HTTP_OK := lasting_hasEnd _ _ hle hend
      exact absurd hstatus (by decide)

section verdict

variable {env : ConnectEnv} {session_info : ProxySessionInfo} {target_uri : String}
  {answer : TcpStream}

theorem connect_to_proxy_of_answers (h : Answers env session_info target_uri answer) (fuel : ℕ) :
    connect_to_proxy fuel env session_info target_uri =
      match read_stream_to_end fuel answer with
      | none => none
      | some (.panicked message, _) => some (.panicked message)
      | some (.data response, proxy_stream) =>
        if HTTP_OK <+: response then some (.ok proxy_stream)
        else some (.err "Failed to connect to proxy") := by
  obtain ⟨write_all, hconnect, hwrite⟩ := h
  unfold connect_to_proxy
  rw [hconnect]
  simp only [hwrite]

/-- The result does not depend on how many reads are allowed for. -/
theorem connect_to_proxy_mono (h : Answers env session_info target_uri answer) {fuel fuel' : ℕ}
    {r : Connected} (hr : connect_to_proxy fuel env session_info target_uri = some r)
    (hle : fuel ≤ fuel') : connect_to_proxy fuel' env session_info target_uri = some r := by
  rw [connect_to_proxy_of_answers h] at hr ⊢
  cases hread : read_stream_to_end fuel answer with
  | none =>
    rw [hread] at hr
    cases hr
  | some out =>
    have hread' : read_stream_to_end fuel' answer = some out := read_loop_mono hread hle
    rw [hread] at hr
    rw [hread']
    exact hr

theorem Returns.unique (h : Answers env session_info target_uri answer) {r r' : Connected}
    (hr : Returns env session_info target_uri r) (hr' : Returns env session_info target_uri r') :
    r = r' := by
  obtain ⟨fuel, hr⟩ := hr
  obtain ⟨fuel', hr'⟩ := hr'
  have hmax := connect_to_proxy_mono h hr (le_max_left fuel fuel')
  have hmax' := connect_to_proxy_mono h hr' (le_max_right fuel fuel')
  exact Option.some.inj (hmax.symm.trans hmax')

/-- Only an accepting answer is accepted. -/
theorem accepting_of_returns (h : Answers env session_info target_uri answer)
    {proxy_stream : TcpStream} (hr : Returns env session_info target_uri (.ok proxy_stream)) :
    Accepting answer := by
  obtain ⟨fuel, hr⟩ := hr
  rw [connect_to_proxy_of_answers h] at hr
  split at hr
  · cases hr
  · cases hr
  · rename_i response rest hread
    split at hr
    · rename_i hok
      obtain ⟨hend, hinitial⟩ := read_loop_data hread
      have hinitial' : response <+: answer.bytes := hinitial
      exact ⟨hok.trans hinitial', lasting_hasEnd _ _ hinitial' hend⟩
    · cases hr

/-- An answer with a head in it is read to the first read that completes it, and
    accepted if it is accepting. -/
theorem returns_of_hasEnd (h : Answers env session_info target_uri answer)
    (hend : HasEnd answer.bytes) :
    ∃ k, ReadUntil.Stops HasEnd [] answer.reads k ∧
      (∃ fuel, read_stream_to_end fuel answer =
        some (.data (answer.reads.take k).flatten, ⟨answer.reads.drop k, answer.ending⟩)) ∧
      Returns env session_info target_uri
        (if HTTP_OK <+: answer.bytes then .ok ⟨answer.reads.drop k, answer.ending⟩
          else .err "Failed to connect to proxy") := by
  obtain ⟨k, hstops, hread⟩ := read_stream_to_end_of_hasEnd answer hend
  refine ⟨k, hstops, ⟨_, hread⟩, answer.reads.length, ?_⟩
  have hinitial : (answer.reads.take k).flatten <+: answer.bytes :=
    ReadUntil.flatten_take_initial answer.reads k
  have hgot : HasEnd (answer.reads.take k).flatten := by simpa using hstops.holds
  rw [connect_to_proxy_of_answers h, hread]
  simp only [starts_iff hinitial hgot]
  split <;> rfl

end verdict

/-! ## Section 3: Hand-over -/

section handover

variable {env : ConnectEnv} {session_info : ProxySessionInfo} {target_uri : String}
  {answer : TcpStream}

/-- **Hand-over.**  The tunnel reads what follows the head of an accepting answer
    if and only if one of the reads ends where the head ends. -/
theorem hands_over_iff (h : Answers env session_info target_uri answer) :
    HandsOver env session_info target_uri answer ↔ (Accepting answer → CutAtHead answer) := by
  by_cases hacc : Accepting answer
  · obtain ⟨k, hstops, -, hreturns⟩ := returns_of_hasEnd h hacc.ends
    rw [if_pos hacc.starts] at hreturns
    obtain ⟨head, hhead⟩ :=
      Option.isSome_iff_exists.mp ((ReadUntil.shortest_isSome_iff _ lasting_hasEnd).mpr hacc.ends)
    have hshortest := (ReadUntil.shortest_eq_some_iff _).mp hhead
    have hrest := hstops.rest_eq_iff lasting_hasEnd not_hasEnd_nil hshortest
    -- the head is what the reader looks for: the shortest text with an end
    have hcut : CutAtHead answer ↔ ∃ j, (answer.reads.take j).flatten = head := by
      unfold CutAtHead
      rw [hhead]
      simp only [Option.some.injEq, eq_comm]
    have hover : HandsOver env session_info target_uri answer ↔
        (answer.reads.drop k).flatten = answer.bytes.drop head.length := by
      unfold HandsOver after_head
      rw [hhead]
      constructor
      · intro hall
        exact (Option.some.inj (hall _ hreturns)).symm
      · intro heq proxy_stream hr
        obtain rfl := Connected.ok.inj (Returns.unique h hr hreturns)
        exact congrArg some heq.symm
    rw [hover, hcut]
    exact hrest.trans ⟨fun hj _ => hj, fun himp => himp hacc⟩
  · constructor
    · intro _ hacc'
      exact absurd hacc' hacc
    · intro _ proxy_stream hr
      exact absurd (accepting_of_returns h hr) hacc

end handover

section samples

/-- A proxy that takes every request and answers `proxy_stream`. -/
def sampleConnect (proxy_stream : TcpStream) : ConnectEnv where
  connect := fun _ => .ok fun _ => .ok proxy_stream
  iter := id

/-- An accepting head and the first byte of the tunnel behind it, in one read. -/
def sampleAnswer : TcpStream := ⟨[HTTP_OK ++ CRLFCRLF ++ [22]], .silent⟩

/-- The byte is lost with the head. -/
theorem not_hands_over_sampleAnswer :
    Accepting sampleAnswer ∧ ¬ HandsOver (sampleConnect sampleAnswer)
      (ProxyPaymentLoop.sampleSession 0 0) "example.org:443" sampleAnswer := by
  refine ⟨⟨⟨CRLFCRLF ++ [22], rfl⟩, by decide⟩, fun h => ?_⟩
  have hreturns : Returns (sampleConnect sampleAnswer) (ProxyPaymentLoop.sampleSession 0 0)
      "example.org:443" (.ok ⟨[], .silent⟩) := ⟨1, rfl⟩
  exact absurd (h _ hreturns) (by decide)

/-- The same bytes, with the byte in a read of its own. -/
theorem hands_over_sampleAnswer :
    Accepting ⟨[HTTP_OK ++ CRLFCRLF, [22]], .silent⟩ ∧
    HandsOver (sampleConnect ⟨[HTTP_OK ++ CRLFCRLF, [22]], .silent⟩)
      (ProxyPaymentLoop.sampleSession 0 0) "example.org:443"
      ⟨[HTTP_OK ++ CRLFCRLF, [22]], .silent⟩ :=
  ⟨⟨⟨CRLFCRLF ++ [22], rfl⟩, by decide⟩,
    (hands_over_iff ⟨_, rfl, rfl⟩).mpr fun _ => ⟨1, by decide⟩⟩

end samples

/-! ## Section 4: Segmentation -/

/-- What `connect_to_proxy` makes of a stream that is read in segments. -/
structure FollowsStream (env : ConnectEnv) (session_info : ProxySessionInfo) (target_uri : String)
    {stream : List UInt8} (segments : TcpStream.Segmentation stream) (ending : Ending) : Prop where
  /-- Reading stops after the first read with which the data has the end of a head. -/
  stops : ∃ k, ReadUntil.Stops HasEnd [] segments.reads k ∧
    ∃ fuel, read_stream_to_end fuel (segments.toStream ending) =
      some (.data (segments.reads.take k).flatten, ⟨segments.reads.drop k, ending⟩)
  accepts : Accepts env session_info target_uri ↔ HTTP_OK <+: stream
  rejects : ¬ HTTP_OK <+: stream →
    Returns env session_info target_uri (.err "Failed to connect to proxy")

section segmentation

variable {session_info : ProxySessionInfo} {target_uri : String} {stream : List UInt8}

theorem followsStream_of_hasEnd {env : ConnectEnv} (hend : HasEnd stream)
    (segments : TcpStream.Segmentation stream) (ending : Ending)
    (h : Answers env session_info target_uri (segments.toStream ending)) :
    FollowsStream env session_info target_uri segments ending := by
  have hbytes : (segments.toStream ending).bytes = stream := segments.flatten
  obtain ⟨k, hstops, hread, hreturns⟩ := returns_of_hasEnd h (hbytes.symm ▸ hend)
  rw [hbytes] at hreturns
  refine ⟨⟨k, hstops, hread⟩, ⟨?_, ?_⟩, ?_⟩
  · intro ⟨proxy_stream, hr⟩
    exact hbytes ▸ (accepting_of_returns h hr).starts
  · intro hok
    rw [if_pos hok] at hreturns
    exact ⟨_, hreturns⟩
  · intro hnot
    rw [if_neg hnot] at hreturns
    exact hreturns

/-- **Segmentation.**  However the network cuts a stream that has a head, it is
    read up to the first read that completes the head, and the verdict is the
    same: the stream is accepted if and only if it starts with the status. -/
theorem verdict_of_stream (hend : HasEnd stream) (a b : TcpStream.Segmentation stream)
    (ending_a ending_b : Ending) {env_a env_b : ConnectEnv}
    (ha : Answers env_a session_info target_uri (a.toStream ending_a))
    (hb : Answers env_b session_info target_uri (b.toStream ending_b)) :
    FollowsStream env_a session_info target_uri a ending_a ∧
      FollowsStream env_b session_info target_uri b ending_b ∧
      (Accepts env_a session_info target_uri ↔ Accepts env_b session_info target_uri) := by
  have hfollows_a := followsStream_of_hasEnd hend a ending_a ha
  have hfollows_b := followsStream_of_hasEnd hend b ending_b hb
  exact ⟨hfollows_a, hfollows_b, hfollows_a.accepts.trans hfollows_b.accepts.symm⟩

/-- One read, or two with the end of the head across them. -/
theorem verdict_of_stream_sampleAnswer :
    Accepts (sampleConnect sampleAnswer) (ProxyPaymentLoop.sampleSession 0 0) "example.org:443" ↔
      Accepts (sampleConnect ⟨[HTTP_OK ++ [13, 10], [13, 10, 22]], .closed⟩)
        (ProxyPaymentLoop.sampleSession 0 0) "example.org:443" :=
  (@verdict_of_stream _ _ (HTTP_OK ++ CRLFCRLF ++ [22]) (by decide)
    ⟨[HTTP_OK ++ CRLFCRLF ++ [22]], by decide, by decide, by decide⟩
    ⟨[HTTP_OK ++ [13, 10], [13, 10, 22]], by decide, by decide, by decide⟩ .silent .closed _ _
    ⟨_, rfl, rfl⟩ ⟨_, rfl, rfl⟩).2.2

end segmentation

end ProxyClient

end OrcaNet
