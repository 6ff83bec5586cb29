import Mathlib.Data.List.TakeDrop
import OrcaNet.Framework.ReadUntil

/-! # TCP streams

    A `tokio` TCP stream as its reader sees it, and `Utils::read_stream_to_end`
    of `common/utils.rs`, which reads the head of a response.

    The loop looks for the end of the head in everything that it has read, and
    at nothing else: a read of zero bytes, which says that the peer has closed
    the stream, is a read like any other. -/

namespace OrcaNet

/-- What the reads after the last bytes of a peer return. -/
inductive Ending where
  /-- The peer has closed its side: `Ok(0)`, however often one reads. -/
  | closed
  | error (message : String)
  /-- The peer says nothing more, and the read does not return. -/
  | silent
  deriving DecidableEq, Repr

/-- What the next reads return. -/
structure TcpStream where
  reads : List (List UInt8)
  ending : Ending
  deriving DecidableEq, Repr

namespace TcpStream

/-- The bytes that the peer sends. -/
def bytes (stream : TcpStream) : List UInt8 := stream.reads.flatten

/-- `read`; `none` if it does not return. -/
def read (stream : TcpStream) : Option (Except String (List UInt8) × TcpStream) :=
  match stream.reads, stream.ending with
  | chunk :: reads, _ => some (.ok chunk, { stream with reads := reads })
  | [], .closed => some (.ok [], stream)
  | [], .error message => some (.error message, stream)
  | [], .silent => none

/-- A read takes the first bytes of what the peer sends. -/
theorem read_bytes {stream stream' : TcpStream} {chunk : List UInt8}
    (h : stream.read = some (.ok chunk, stream')) : stream.bytes = chunk ++ stream'.bytes := by
  obtain ⟨reads, ending⟩ := stream
  cases reads with
  | cons first reads =>
    cases h
    rfl
  | nil =>
    cases ending <;> cases h
    rfl

/-- The size of the buffers that are read into. -/
def BUFFER_SIZE : ℕ := 1024

/-- Reads that return the bytes of a stream, each some of them and no more than
    a buffer holds. -/
structure Segmentation (stream : List UInt8) where
  reads : List (List UInt8)
  flatten : reads.flatten = stream
  nonempty : ∀ chunk ∈ reads, chunk ≠ []
  bounded : ∀ chunk ∈ reads, chunk.length ≤ BUFFER_SIZE

/-- The stream of a peer whose bytes are read so. -/
def Segmentation.toStream {stream : List UInt8} (segments : Segmentation stream)
    (ending : Ending) : TcpStream := ⟨segments.reads, ending⟩

end TcpStream

namespace Utils

/-- `b"\r\n\r\n"`. -/
def CRLFCRLF : List UInt8 := [13, 10, 13, 10]

/-- `data.windows(n)`. -/
def windows (n : ℕ) (data : List UInt8) : List (List UInt8) :=
  (List.range (data.length + 1 - n)).map fun i => (data.drop i).take n

/-- The data contains the end of a head. -/
def HasEnd (data : List UInt8) : Prop := ∃ w ∈ windows 4 data, w = CRLFCRLF

instance : DecidablePred HasEnd := fun data => inferInstanceAs (Decidable (∃ w ∈ windows 4 data, _))

/-- How `read_stream_to_end` ends. -/
inductive ReadToEnd where
  | data (data : List UInt8)
  | panicked (message : String)
  deriving DecidableEq, Repr

/-- The loop of `read_stream_to_end` for at most `fuel` reads; `none` if it has
    not ended by then. -/
def read_loop : ℕ → List UInt8 → TcpStream → Option (ReadToEnd × TcpStream)
  | 0, _, _ => none
  | fuel + 1, data, stream =>
    match stream.read with
    | none => none
    | some (.error _, stream) => some (.panicked "Response to be read from TCP stream", stream)
    | some (.ok chunk, stream) =>
      let data := data ++ chunk
      if HasEnd data then some (.data data, stream) else read_loop fuel data stream

def read_stream_to_end (fuel : ℕ) (stream : TcpStream) : Option (ReadToEnd × TcpStream) :=
  read_loop fuel [] stream

/-- The loop ends after finitely many reads. -/
def Ends (stream : TcpStream) : Prop := ∃ fuel, (read_stream_to_end fuel stream).isSome

/-! ## The end of a head -/

theorem hasEnd_iff (data : List UInt8) : HasEnd data ↔ CRLFCRLF <:+: data := by
  unfold HasEnd windows
  simp only [List.mem_map, List.mem_range, exists_exists_and_eq_and]
  constructor
  · intro ⟨i, _, hi⟩
    have htake : CRLFCRLF <+: data.drop i := hi ▸ List.take_prefix 4 (data.drop i)
    exact htake.isInfix.trans (List.drop_suffix i data).isInfix
  · intro ⟨head, rest, hdata⟩
    refine ⟨head.length, ?_, ?_⟩
    · have hlen := congrArg List.length hdata
      simp only [List.length_append, CRLFCRLF, List.length_cons, List.length_nil] at hlen
      omega
    · rw [← hdata]
      simp [CRLFCRLF]

theorem lasting_hasEnd : ReadUntil.Lasting HasEnd := by
  intro p q hpq hp
  rw [hasEnd_iff] at hp ⊢
  exact ReadUntil.lasting_infix CRLFCRLF p q hpq hp

theorem not_hasEnd_nil : ¬ HasEnd [] := by decide

/-! ## The loop -/

/-- A loop that has ended has ended with more fuel, too. -/
theorem read_loop_mono {fuel fuel' : ℕ} {data : List UInt8} {stream : TcpStream}
    {out : ReadToEnd × TcpStream} (h : read_loop fuel data stream = some out)
    (hle : fuel ≤ fuel') : read_loop fuel' data stream = some out := by
  -- both loops read the same chunk and go on with one unit of fuel less
  induction fuel generalizing fuel' data stream with
  | zero => cases h
  | succ fuel ih =>
    obtain ⟨fuel', rfl⟩ : ∃ n, fuel' = n + 1 := ⟨fuel' - 1, by omega⟩
    unfold read_loop at h ⊢
    split at h
    · cases h
    · exact h
    · rename_i chunk rest hread
      dsimp only at h ⊢
      split at h
      · rename_i hend
        rw [if_pos hend]
        exact h
      · rename_i hend
        rw [if_neg hend]
        exact ih h (by omega)

/-- What was read ends a head, and it is the first part of the stream. -/
theorem read_loop_data {fuel : ℕ} {data got : List UInt8} {stream rest : TcpStream}
    (h : read_loop fuel data stream = some (.data got, rest)) :
    HasEnd got ∧ got <+: data ++ stream.bytes := by
  -- a chunk moves from the stream to the data, so their concatenation stays
  induction fuel generalizing data stream with
  | zero => cases h
  | succ fuel ih =>
    unfold read_loop at h
    split at h
    · cases h
    · cases h
    · rename_i chunk stream' hread
      have hbytes : data ++ stream.bytes = (data ++ chunk) ++ stream'.bytes := by
        rw [TcpStream.read_bytes hread, List.append_assoc]
      rw [hbytes]
      dsimp only at h
      split at h
      · rename_i hend
        cases h
        exact ⟨hend, List.prefix_append _ _⟩
      · exact ih h

section loop

variable {data : List UInt8} {reads : List (List UInt8)} {ending : Ending}

/-- The loop is the reader of the library; one unit of fuel for each read is
    enough. -/
theorem read_loop_of_readUntil {fuel : ℕ} {got : List UInt8} {rest : List (List UInt8)}
    (h : ReadUntil.readUntil HasEnd data reads = some (got, rest)) (hfuel : reads.length ≤ fuel) :
    read_loop fuel data ⟨reads, ending⟩ = some (.data got, ⟨rest, ending⟩) := by
  induction reads generalizing data fuel with
  | nil => cases h
  | cons chunk reads ih =>
    obtain ⟨fuel, rfl⟩ : ∃ n, fuel = n + 1 := ⟨fuel - 1, by simp at hfuel; omega⟩
    simp only [ReadUntil.readUntil] at h
    simp only [read_loop, TcpStream.read]
    split at h
    · rename_i hchunk
      rw [if_pos hchunk]
      cases h
      rfl
    · rename_i hchunk
      rw [if_neg hchunk]
      exact ih h (by simpa using hfuel)

/-- A reader that never stops: the loop reads zero bytes for ever once the peer
    has closed. -/
theorem read_loop_of_closed (hdata : ¬ HasEnd data)
    (h : ReadUntil.readUntil HasEnd data reads = none) (fuel : ℕ) :
    read_loop fuel data ⟨reads, .closed⟩ = none := by
  induction fuel generalizing data reads with
  | zero => rfl
  | succ fuel ih =>
    cases reads with
    | nil =>
      simp only [read_loop, TcpStream.read, List.append_nil, if_neg hdata]
      exact ih hdata rfl
    | cons chunk reads =>
      simp only [ReadUntil.readUntil] at h
      split at h
      · cases h
      · rename_i hchunk
        simp only [read_loop, TcpStream.read, if_neg hchunk]
        exact ih hchunk h

end loop

/-- A stream with the end of a head in it is read up to the first read that
    completes it. -/
theorem read_stream_to_end_of_hasEnd (stream : TcpStream) (h : HasEnd stream.bytes) :
    ∃ k, ReadUntil.Stops HasEnd [] stream.reads k ∧
      read_stream_to_end stream.reads.length stream =
        some (.data (stream.reads.take k).flatten, ⟨stream.reads.drop k, stream.ending⟩) := by
  have hbytes : HasEnd ([] ++ stream.reads.flatten) := h
  obtain ⟨k, hk⟩ := ReadUntil.exists_stops not_hasEnd_nil hbytes
  exact ⟨k, hk, read_loop_of_readUntil (ReadUntil.readUntil_of_stops hk) le_rfl⟩

/-- A closed stream without it is read for ever. -/
theorem read_stream_to_end_of_not_hasEnd {reads : List (List UInt8)} (h : ¬ HasEnd reads.flatten)
    (fuel : ℕ) : read_stream_to_end fuel ⟨reads, .closed⟩ = none := by
  have hall : ¬ HasEnd ([] ++ reads.flatten) := h
  exact read_loop_of_closed not_hasEnd_nil (ReadUntil.readUntil_eq_none lasting_hasEnd hall) fuel

/-- **End of stream.**  A stream that the peer closes is read in finitely many
    reads if and only if it contains the end of a head. -/
theorem ends_iff_hasEnd (reads : List (List UInt8)) :
    Ends ⟨reads, .closed⟩ ↔ HasEnd reads.flatten := by
  constructor
  · intro ⟨fuel, hfuel⟩
    by_contra hend
    rw [read_stream_to_end_of_not_hasEnd hend fuel] at hfuel
    cases hfuel
  · intro hend
    obtain ⟨k, -, hread⟩ := read_stream_to_end_of_hasEnd ⟨reads, .closed⟩ hend
    exact ⟨reads.length, by rw [hread]; rfl⟩

/-- A peer that hangs up after half a status line. -/
theorem not_ends_sampleReads : ¬ Ends ⟨[[72, 84, 84, 80]], .closed⟩ := by
  intro ⟨fuel, hfuel⟩
  have hend : ¬ HasEnd [[72, 84, 84, 80]].flatten := by decide
  rw [read_stream_to_end_of_not_hasEnd hend fuel] at hfuel
  cases hfuel

end Utils

end OrcaNet
