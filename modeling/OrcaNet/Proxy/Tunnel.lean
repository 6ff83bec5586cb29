import Mathlib.Logic.Function.Basic
import OrcaNet.Common.TcpStream
import OrcaNet.Framework.System

/-! # Tunnels

    `custom_copy_bidirectional` of `proxy/proxy_handlers.rs`: one loop that
    copies in both directions of a tunnel.  In every round `tokio::select!`
    takes one of the two reads; what it reads is written before the next round.

    What is copied is copied faithfully.  But the loop ends with the first end
    of stream that it reads, whatever the other side still has to say, and the
    `shutdown` that is to pass the end on is a future that nobody polls. -/

namespace OrcaNet

open Transition

namespace Tunnel

/-! ## Section 1: `custom_copy_bidirectional` -/

/-- The two streams. -/
inductive Side where
  | a
  | b
  deriving DecidableEq, Repr

/-- What came from one side. -/
structure Direction where
  /-- The chunks that were read, oldest first. -/
  reads : List (List UInt8)
  /-- What was written to the other side. -/
  written : List UInt8
  /-- `a_to_b` or `b_to_a`. -/
  count : ℕ
  /-- The other side was shut down. -/
  shutdown : Bool
  deriving DecidableEq, Repr

/-- The bytes that were read. -/
def Direction.bytes (d : Direction) : List UInt8 := d.reads.flatten

def Direction.empty : Direction := ⟨[], [], 0, false⟩

/-- `shutdown()`: the future does its work when it is polled. -/
def Direction.call_shutdown (polled : Bool) (d : Direction) : Direction :=
  { d with shutdown := d.shutdown || polled }

/-- How a branch of the `select!` ends. -/
inductive Exit where
  | next_round
  | break
  /-- `?`. -/
  | err (message : String)
  | panicked (message : String)

/-- A branch: what `read` returned, and the error of `write_all` with the number
    of bytes that it had written.  The counts are those of a build with overflow
    checks; a release build goes on with a count that wrapped. -/
def branch (read : Except String (List UInt8)) (write_all : Option (ℕ × String)) (d : Direction) :
    Direction × Exit :=
  match read with
  | .error e => (d, .err e)
  | .ok [] =>
    -- `let _ = b.shutdown();` drops the future
    (d.call_shutdown false, .break)
  | .ok chunk =>
    let d := { d with reads := d.reads ++ [chunk] }
    match write_all with
    | some (n, e) => ({ d with written := d.written ++ chunk.take n }, .err e)
    | none =>
      let d := { d with written := d.written ++ chunk }
      -- `u64`
      if d.count + chunk.length < 2 ^ 64 then
        ({ d with count := d.count + chunk.length }, .next_round)
      else (d, .panicked "attempt to add with overflow")

inductive Phase where
  | loop_head
  | ok (a_to_b b_to_a : ℕ)
  | err (message : String)
  | panicked (message : String)
  deriving DecidableEq, Repr

structure State where
  /-- What came from each side. -/
  dir : Side → Direction
  phase : Phase

/-- The branch that is taken; a read whose branch is not taken reads nothing. -/
structure Label where
  side : Side
  read : Except String (List UInt8)
  write_all : Option (ℕ × String)

/-- A read fills the buffer at most. -/
def Label.Fits (l : Label) : Prop :=
  ∀ chunk, l.read = .ok chunk → chunk.length ≤ TcpStream.BUFFER_SIZE

instance (l : Label) : Decidable l.Fits :=
  match h : l.read with
  | .ok chunk => decidable_of_iff (chunk.length ≤ TcpStream.BUFFER_SIZE) (by simp [Label.Fits, h])
  | .error e => .isTrue (by simp [Label.Fits, h])

def Exit.phase (dir : Side → Direction) : Exit → Phase
  | .next_round => .loop_head
  | .break => .ok (dir .a).count (dir .b).count
  | .err message => .err message
  | .panicked message => .panicked message

/-- One round. -/
def next (s : State) (l : Label) : Option State :=
  if s.phase = .loop_head ∧ l.Fits then
    let (d, exit) := branch l.read l.write_all (s.dir l.side)
    let dir := Function.update s.dir l.side d
    some ⟨dir, exit.phase dir⟩
  else none

def start : State := ⟨fun _ => .empty, .loop_head⟩

def system : System State Label where
  init := fun s => s = start
  next := next

/-- The bytes that the read of a round returned, if it was a read of this side. -/
def Label.chunk (side : Side) (l : Label) : Option (List UInt8) :=
  match l.read with
  | .ok (byte :: rest) => if l.side = side then some (byte :: rest) else none
  | _ => none

/-- What the reads of a side returned in a run, oldest first. -/
def received (side : Side) (ls : List Label) : List (List UInt8) :=
  ls.filterMap (Label.chunk side)

/-! ## Section 2: Faithfulness -/

/-- All that was read was written and counted. -/
structure Direction.Copied (d : Direction) : Prop where
  written : d.written = d.bytes
  count : d.count = d.written.length

/-- Only a part of the last chunk may be missing. -/
structure Direction.Truncated (d : Direction) : Prop where
  initial : d.written <+: d.bytes
  most : d.reads.dropLast.flatten <+: d.written

theorem Direction.copied_empty : Direction.empty.Copied := ⟨rfl, rfl⟩

theorem Direction.Copied.truncated {d : Direction} (h : d.Copied) : d.Truncated where
  initial := by rw [h.written]
  most := by
    rw [h.written]
    exact List.IsPrefix.flatten <| List.dropLast_prefix d.reads

/-- What a branch leaves of a direction that was copied so far. -/
structure Branched (d d' : Direction) (exit : Exit) : Prop where
  copied : exit = .next_round ∨ exit = .break → d'.Copied
  truncated : ∀ e, exit = .err e → d'.Truncated
  shutdown : d'.shutdown = d.shutdown

theorem branch_branched {d : Direction} (h : d.Copied) (read : Except String (List UInt8))
    (write_all : Option (ℕ × String)) :
    Branched d (branch read write_all d).1 (branch read write_all d).2 := by
  unfold branch
  split
  · exact ⟨by simp, fun e _ => h.truncated, rfl⟩
  · -- the direction is as it was: the future does nothing
    have hsame : d.call_shutdown false = d := by simp [Direction.call_shutdown]
    rw [hsame]
    exact ⟨fun _ => h, by simp, rfl⟩
  · rename_i chunk hne
    -- a failed write may have written a part of the chunk
    cases write_all with
    | some p =>
      refine ⟨by simp, fun e _ => ⟨?_, ?_⟩, rfl⟩
      · show d.written ++ chunk.take p.1 <+: (d.reads ++ [chunk]).flatten
        rw [h.written, Direction.bytes, List.flatten_append, List.flatten_singleton]
        exact (List.prefix_append_right_inj _).mpr (List.take_prefix p.1 chunk)
      · show (d.reads ++ [chunk]).dropLast.flatten <+: d.written ++ chunk.take p.1
        rw [h.written, Direction.bytes, List.dropLast_concat]
        exact List.prefix_append _ _
    | none =>
      -- the chunk was written, and its length is added to the count if it fits
      dsimp only
      split
      · refine ⟨fun _ => ⟨?_, ?_⟩, by simp, rfl⟩
        · simp [Direction.bytes, h.written]
        · simp [h.count]
      · exact ⟨by simp, by simp, rfl⟩

/-- Everything that one round can do. -/
theorem next_cases {s s' : State} {l : Label} (h : next s l = some s') :
    s.phase = .loop_head ∧
      s'.dir = Function.update s.dir l.side (branch l.read l.write_all (s.dir l.side)).1 ∧
      s'.phase = (branch l.read l.write_all (s.dir l.side)).2.phase s'.dir := by
  unfold next at h
  split at h
  · rename_i hcond
    obtain rfl := Option.some.inj h
    exact ⟨hcond.1, rfl, rfl⟩
  · cases h

/-- A round over directions that were copied so far. -/
theorem next_branched {s s' : State} {l : Label} (hcopied : ∀ side, (s.dir side).Copied)
    (h : next s l = some s') :
    ∃ d exit, branch l.read l.write_all (s.dir l.side) = (d, exit) ∧
      Branched (s.dir l.side) d exit ∧ s'.dir = Function.update s.dir l.side d ∧
      s'.phase = exit.phase s'.dir := by
  obtain ⟨-, hdir, hphase⟩ := next_cases h
  exact ⟨_, _, rfl, branch_branched (hcopied l.side) l.read l.write_all, hdir, hphase⟩

/-- What holds in every state: what was copied is exact and counted, unless the
    loop ended with an error. -/
structure Invariant (s : State) : Prop where
  copied : (s.phase = .loop_head ∨ ∃ x y, s.phase = .ok x y) → ∀ side, (s.dir side).Copied
  counts : ∀ x y, s.phase = .ok x y → x = (s.dir .a).count ∧ y = (s.dir .b).count
  truncated : ∀ message, s.phase = .err message → ∀ side, (s.dir side).Truncated

theorem start_invariant : Invariant start where
  copied := fun _ _ => Direction.copied_empty
  counts := by simp [start]
  truncated := by simp [start]

theorem invariant_next {s s' : State} {l : Label} (hinv : Invariant s) (h : next s l = some s') :
    Invariant s' := by
  have hcopied := hinv.copied (Or.inl (next_cases h).1)
  obtain ⟨d, exit, -, hbranched, hdir, hphase⟩ := next_branched hcopied h
  -- the other direction stays copied
  have hside : ∀ {P : Direction → Prop}, P d → (∀ side, P (s.dir side)) →
      ∀ side, P (s'.dir side) := by
    intro P hd hall
    rw [hdir]
    exact (Function.forall_update_iff _ fun _ => P).mpr ⟨hd, fun side _ => hall side⟩
  cases exit with
  | next_round =>
    refine ⟨fun _ => hside (hbranched.copied (Or.inl rfl)) hcopied, ?_, ?_⟩
    · simp [hphase, Exit.phase]
    · simp [hphase, Exit.phase]
  | «break» =>
    refine ⟨fun _ => hside (hbranched.copied (Or.inr rfl)) hcopied, fun x y hxy => ?_, ?_⟩
    · rw [hphase] at hxy
      cases hxy
      exact ⟨rfl, rfl⟩
    · simp [hphase, Exit.phase]
  | err message =>
    refine ⟨by simp [hphase, Exit.phase], by simp [hphase, Exit.phase], fun e _ => ?_⟩
    exact hside (hbranched.truncated message rfl) fun side => (hcopied side).truncated
  | panicked message =>
    refine ⟨?_, ?_, ?_⟩ <;> simp [hphase, Exit.phase]

theorem invariant_of_reachable {s : State} (h : system.Reachable s) : Invariant s := by
  refine h.invariant (fun t ht => ?_) fun t l t' _ hinv hnext => ?_
  · obtain rfl : t = start := ht
    exact start_invariant
  · exact invariant_next hinv hnext

/-- A branch notes what it read. -/
theorem branch_reads (read : Except String (List UInt8)) (write_all : Option (ℕ × String))
    (d : Direction) (side : Side) :
    (branch read write_all d).1.reads =
      d.reads ++ (Label.chunk side ⟨side, read, write_all⟩).toList := by
  cases read with
  | error e => simp [branch, Label.chunk]
  | ok chunk =>
    cases chunk with
    | nil => simp [branch, Label.chunk, Direction.call_shutdown]
    | cons byte rest =>
      cases write_all with
      | some p => simp [branch, Label.chunk]
      | none =>
        simp only [branch, Label.chunk, if_pos]
        split <;> rfl

/-- A round adds what it read to the side that it read. -/
theorem reads_next {s s' : State} {l : Label} (h : next s l = some s') (side : Side) :
    (s'.dir side).reads = (s.dir side).reads ++ (Label.chunk side l).toList := by
  rw [(next_cases h).2.1]
  by_cases hside : side = l.side
  · subst hside
    rw [Function.update_self]
    exact branch_reads l.read l.write_all _ l.side
  · -- the other side was not read
    have hchunk : Label.chunk side l = none := by
      unfold Label.chunk
      split
      · exact if_neg fun heq => hside heq.symm
      · rfl
    rw [hchunk, Function.update_of_ne hside, Option.toList_none, List.append_nil]

/-- The chunks of a direction are what the reads of its side returned. -/
theorem reads_of_run {ls : List Label} {s : State} (hrun : system.run start ls = some s)
    (side : Side) : (s.dir side).reads = received side ls :=
  system.run_filterMap (fun t => (t.dir side).reads) (Label.chunk side)
    (fun _ _ _ hnext => reads_next hnext side) ls hrun

/-- What holds after a run: what was written to one side is what the reads of the
    other returned, and after an error only a part of the last chunk may be
    missing. -/
structure Faithful (ls : List Label) (s : State) : Prop where
  reads : ∀ side, (s.dir side).reads = received side ls
  loop_head : s.phase = .loop_head → ∀ side, (s.dir side).written = (received side ls).flatten
  ok : ∀ a_to_b b_to_a, s.phase = .ok a_to_b b_to_a →
    (∀ side, (s.dir side).written = (received side ls).flatten) ∧
      a_to_b = (s.dir .a).written.length ∧ b_to_a = (s.dir .b).written.length
  err : ∀ message, s.phase = .err message → ∀ side,
    (s.dir side).written <+: (received side ls).flatten ∧
      (received side ls).dropLast.flatten <+: (s.dir side).written

/-- **Faithful copying.**  After every run, what was written to one side is what
    was read from the other. -/
theorem faithful_of_run (ls : List Label) {s : State} (hrun : system.run start ls = some s) :
    Faithful ls s := by
  have hinv := invariant_of_reachable (System.Reachable.run ls (.init rfl) hrun)
  have hreads := reads_of_run hrun
  have hcopied : (s.phase = .loop_head ∨ ∃ x y, s.phase = .ok x y) →
      ∀ side, (s.dir side).written = (received side ls).flatten := fun hphase side => by
    rw [(hinv.copied hphase side).written, Direction.bytes, hreads side]
  refine ⟨hreads, fun hphase => hcopied (Or.inl hphase), fun x y hphase => ?_,
    fun message hphase side => ?_⟩
  · obtain ⟨rfl, rfl⟩ := hinv.counts x y hphase
    have hall := hinv.copied (Or.inr ⟨_, _, hphase⟩)
    exact ⟨hcopied (Or.inr ⟨_, _, hphase⟩), (hall .a).count, (hall .b).count⟩
  · have htruncated := hinv.truncated message hphase side
    rw [← hreads side]
    exact ⟨htruncated.initial, htruncated.most⟩

section samples

/-- Two chunks from `a`, one from `b`, and a write to `b` that fails half-way. -/
def sampleLabels : List Label :=
  [⟨.a, .ok [1, 2], none⟩, ⟨.b, .ok [3], none⟩, ⟨.a, .ok [4, 5], some (1, "broken pipe")⟩]

theorem faithful_sampleLabels :
    received .a sampleLabels = [[1, 2], [4, 5]] ∧
      ∃ s, system.run start sampleLabels = some s ∧ s.phase = .err "broken pipe" ∧
        (s.dir .a).written = [1, 2, 4] ∧ Faithful sampleLabels s :=
  ⟨rfl, _, rfl, rfl, rfl, faithful_of_run sampleLabels rfl⟩

end samples

/-! ## Section 3: Completeness -/

/-- The tunnel between two sides that send the bytes of a stream each. -/
structure Exchange where
  tunnel : State
  /-- What a side sends and was not read. -/
  unread : Side → List UInt8

namespace Exchange

inductive Event where
  /-- The branch of this side reads so many bytes, and they are written. -/
  | read (side : Side) (n : ℕ)
  /-- The branch of this side reads the end of the stream. -/
  | eof (side : Side)
  deriving DecidableEq

/-- The round in which an event happens. -/
def Event.label (unread : Side → List UInt8) : Event → Label
  | .read side n => ⟨side, .ok ((unread side).take n), none⟩
  | .eof side => ⟨side, .ok [], none⟩

/-- A side that `closes` shuts its direction down after its last byte. -/
def Enabled (closes : Side → Bool) (unread : Side → List UInt8) : Event → Prop
  | .read side n => 0 < n ∧ n ≤ (unread side).length
  | .eof side => unread side = [] ∧ closes side = true

instance (closes : Side → Bool) (unread : Side → List UInt8) : DecidablePred (Enabled closes unread)
  | .read _ _ => inferInstanceAs (Decidable (_ ∧ _))
  | .eof _ => inferInstanceAs (Decidable (_ ∧ _))

/-- What is left to read. -/
def Event.rest (unread : Side → List UInt8) : Event → Side → List UInt8
  | .read side n => Function.update unread side ((unread side).drop n)
  | .eof _ => unread

/-- No call fails. -/
def next (closes : Side → Bool) (s : Exchange) (e : Event) : Option Exchange :=
  if Enabled closes s.unread e then
    (Tunnel.next s.tunnel (e.label s.unread)).map fun tunnel => ⟨tunnel, e.rest s.unread⟩
  else none

def start (stream : Side → List UInt8) : Exchange := ⟨Tunnel.start, stream⟩

def system (closes : Side → Bool) (stream : Side → List UInt8) : System Exchange Event where
  init := fun s => s = start stream
  next := next closes

/-- `copy_bidirectional` is complete: it has returned only after both streams
    were copied to their ends and both ends were passed on. -/
def Completes (stream : Side → List UInt8) (s : Exchange) : Prop :=
  ∀ a_to_b b_to_a, s.tunnel.phase = .ok a_to_b b_to_a →
    a_to_b = (stream .a).length ∧ b_to_a = (stream .b).length ∧
      ∀ side, (s.tunnel.dir side).written = stream side ∧ (s.tunnel.dir side).shutdown = true

/-- The same without the ends. -/
def Delivers (stream : Side → List UInt8) (s : Exchange) : Prop :=
  ∀ a_to_b b_to_a, s.tunnel.phase = .ok a_to_b b_to_a →
    a_to_b = (stream .a).length ∧ b_to_a = (stream .b).length ∧
      ∀ side, (s.tunnel.dir side).written = stream side

/-- The end of a stream is read after everything else. -/
def LastRead (s : Exchange) (e : Event) : Prop :=
  ∀ side, e = .eof side → ∀ other, s.unread other = []

/-! ### One round -/

/-- The loop goes on, and everything that was read is part of the streams. -/
structure Running (stream : Side → List UInt8) (s : Exchange) : Prop where
  phase : s.tunnel.phase = .loop_head
  copied : ∀ side, (s.tunnel.dir side).Copied
  streams : ∀ side, (s.tunnel.dir side).bytes ++ s.unread side = stream side
  shutdown : ∀ side, (s.tunnel.dir side).shutdown = false

theorem running_start (stream : Side → List UInt8) : Running stream (start stream) where
  phase := rfl
  copied := fun _ => Direction.copied_empty
  streams := fun _ => rfl
  shutdown := fun _ => rfl

/-- Everything that one event can do. -/
inductive Moved (stream : Side → List UInt8) (s : Exchange) : Event → Exchange → Prop where
  | read {side n s'} (hrunning : Running stream s') : Moved stream s (.read side n) s'
  /-- The count of a direction is full. -/
  | overflow {side n s' message} (hphase : s'.tunnel.phase = .panicked message) :
      Moved stream s (.read side n) s'
  | eof {side s'} (hdir : s'.tunnel.dir = s.tunnel.dir)
      (hphase : s'.tunnel.phase = .ok (s.tunnel.dir .a).count (s.tunnel.dir .b).count) :
      Moved stream s (.eof side) s'

variable {stream : Side → List UInt8} {closes : Side → Bool} {s s' : Exchange} {e : Event}

theorem branch_read {chunk : List UInt8} (hne : chunk ≠ []) (d : Direction) :
    (branch (.ok chunk) none d).1.reads = d.reads ++ [chunk] ∧
      ((branch (.ok chunk) none d).2 = .next_round ∨
        ∃ message, (branch (.ok chunk) none d).2 = .panicked message) := by
  cases chunk with
  | nil => exact absurd rfl hne
  | cons byte chunk =>
    simp only [branch]
    split
    · exact ⟨rfl, Or.inl rfl⟩
    · exact ⟨rfl, Or.inr ⟨_, rfl⟩⟩

theorem moved_read {side : Side} {n : ℕ} (hrunning : Running stream s)
    (h : next closes s (.read side n) = some s') : Moved stream s (.read side n) s' := by
  unfold next at h
  split at h
  · rename_i henabled
    obtain ⟨hpos, hle⟩ := henabled
    obtain ⟨tunnel, htunnel, rfl⟩ := Option.map_eq_some_iff.mp h
    obtain ⟨d, exit, hbranch, hbranched, hdir, hphase⟩ :=
      next_branched hrunning.copied htunnel
    -- the read got something, so it is not the end of the stream
    have hne : (s.unread side).take n ≠ [] := by
      intro hnil
      have hlen := congrArg List.length hnil
      rw [List.length_take, List.length_nil] at hlen
      omega
    obtain ⟨hreads, hexit⟩ := branch_read hne (s.tunnel.dir side)
    have hbranch' : branch (.ok ((s.unread side).take n)) none (s.tunnel.dir side) = (d, exit) :=
      hbranch
    rw [hbranch'] at hreads hexit
    -- bytes read and bytes unread still make up the stream
    have hstream : d.bytes ++ (s.unread side).drop n = stream side := by
      have hbytes : d.bytes = (s.tunnel.dir side).bytes ++ (s.unread side).take n := by
        rw [Direction.bytes, hreads, List.flatten_append, List.flatten_singleton]
        rfl
      rw [hbytes, List.append_assoc, List.take_append_drop]
      exact hrunning.streams side
    have hdir' : tunnel.dir = Function.update s.tunnel.dir side d := hdir
    -- the loop goes on, or the counter of the direction overflows
    obtain rfl | ⟨message, rfl⟩ := hexit
    · refine .read ⟨hphase, ?_, fun other => ?_, ?_⟩
      · rw [hdir']
        exact (Function.forall_update_iff _ fun _ => Direction.Copied).mpr
          ⟨hbranched.copied (Or.inl rfl), fun other _ => hrunning.copied other⟩
      · simp only [hdir', Event.rest]
        by_cases heq : other = side
        · subst heq
          rw [Function.update_self, Function.update_self]
          exact hstream
        · rw [Function.update_of_ne heq, Function.update_of_ne heq]
          exact hrunning.streams other
      · rw [hdir']
        exact (Function.forall_update_iff _ fun _ (d : Direction) => d.shutdown = false).mpr
          ⟨hbranched.shutdown.trans (hrunning.shutdown side),
            fun other _ => hrunning.shutdown other⟩
    · exact .overflow hphase
  · cases h

theorem moved_eof {side : Side} (hrunning : Running stream s)
    (h : next closes s (.eof side) = some s') : Moved stream s (.eof side) s' := by
  unfold next at h
  split at h
  · obtain ⟨tunnel, htunnel, rfl⟩ := Option.map_eq_some_iff.mp h
    obtain ⟨d, exit, hbranch, -, hdir, hphase⟩ := next_branched hrunning.copied htunnel
    -- nothing happens to the direction that ends
    have hsame : branch (.ok []) none (s.tunnel.dir side) = (s.tunnel.dir side, .break) := by
      simp [branch, Direction.call_shutdown]
    obtain ⟨rfl, rfl⟩ := Prod.mk.inj (hbranch.symm.trans hsame)
    have hdir' : tunnel.dir = s.tunnel.dir := hdir.trans (Function.update_eq_self _ _)
    refine .eof hdir' ?_
    rw [hphase, hdir']
    rfl
  · cases h

theorem moved_next (hrunning : Running stream s) (h : next closes s e = some s') :
    Moved stream s e s' := by
  cases e with
  | read side n => exact moved_read hrunning h
  | eof side => exact moved_eof hrunning h

/-- A loop that has ended takes no more rounds. -/
theorem run_of_ended (hphase : s.tunnel.phase ≠ .loop_head) {events : List Event}
    (h : (system closes stream).run s events = some s') : events = [] ∧ s' = s := by
  cases events with
  | nil => exact ⟨rfl, (Option.some.inj h).symm⟩
  | cons e events =>
    obtain ⟨t, hnext, -⟩ := Option.bind_eq_some_iff.mp h
    have hnone : next closes s e = none := by
      unfold next Tunnel.next
      simp [hphase]
    cases hnone.symm.trans hnext

/-- What is missing when an end was read: everything that was not read. -/
theorem delivers_iff_of_eof (hrunning : Running stream s)
    (hdir : s'.tunnel.dir = s.tunnel.dir)
    (hphase : s'.tunnel.phase = .ok (s.tunnel.dir .a).count (s.tunnel.dir .b).count) :
    Delivers stream s' ↔ ∀ other, s.unread other = [] := by
  have hwritten : ∀ side, (s.tunnel.dir side).written ++ s.unread side = stream side := by
    intro side
    rw [(hrunning.copied side).written]
    exact hrunning.streams side
  constructor
  · intro hdelivers other
    have hall : (s'.tunnel.dir other).written = stream other := (hdelivers _ _ hphase).2.2 other
    rw [hdir] at hall
    have heq := (hwritten other).trans hall.symm
    exact List.append_right_eq_self.mp heq
  · intro hread x y hxy
    rw [hphase] at hxy
    cases hxy
    have hall : ∀ side, (s.tunnel.dir side).written = stream side := by
      intro side
      rw [← hwritten side, hread side, List.append_nil]
    refine ⟨?_, ?_, fun side => hdir ▸ hall side⟩
    · rw [(hrunning.copied .a).count, hall]
    · rw [(hrunning.copied .b).count, hall]

/-- The run lemma: a round goes on with the loop, panics over a full count, or
    reads the first end of a stream, which ends the run. -/
theorem run_complete_iff {events : List Event} (hrunning : Running stream s)
    (hrun : (system closes stream).run s events = some s') :
    (Completes stream s' ↔ ∀ side, .eof side ∉ events) ∧
      (Delivers stream s' ↔
        (system closes stream).AllSteps (fun t e _ => LastRead t e) s events) := by
  induction events generalizing s with
  | nil =>
    obtain rfl := Option.some.inj hrun
    have hnot : ∀ x y, s.tunnel.phase ≠ .ok x y := by simp [hrunning.phase]
    exact ⟨⟨by simp, fun _ x y hxy => absurd hxy (hnot x y)⟩,
      ⟨fun _ => trivial, fun _ x y hxy => absurd hxy (hnot x y)⟩⟩
  | cons e events ih =>
    obtain ⟨t, hnext, hrest⟩ := Option.bind_eq_some_iff.mp hrun
    rw [(system closes stream).allSteps_cons hnext]
    cases moved_next hrunning hnext with
    | read hrunning' =>
      -- the loop is still running: the induction hypothesis is about the state after the round
      obtain ⟨hcomplete, hdelivers⟩ := ih hrunning' hrest
      refine ⟨hcomplete.trans (by simp), hdelivers.trans ?_⟩
      simp [LastRead]
    | overflow hphase =>
      obtain ⟨rfl, rfl⟩ := run_of_ended (by simp [hphase]) hrest
      have hnot : ∀ x y, s'.tunnel.phase ≠ .ok x y := by simp [hphase]
      refine ⟨⟨by simp, fun _ x y hxy => absurd hxy (hnot x y)⟩,
        ⟨fun _ => ⟨by simp [LastRead], trivial⟩, fun _ x y hxy => absurd hxy (hnot x y)⟩⟩
    | @eof side _ hdir hphase =>
      obtain ⟨rfl, rfl⟩ := run_of_ended (by simp [hphase]) hrest
      refine ⟨⟨fun hcomplete => ?_, fun hnot => absurd List.mem_cons_self (hnot side)⟩, ?_⟩
      · -- the shutdown was never polled
        have hshut := ((hcomplete _ _ hphase).2.2 .a).2
        rw [hdir, hrunning.shutdown .a] at hshut
        cases hshut
      · rw [delivers_iff_of_eof hrunning hdir hphase]
        constructor
        · intro hread
          exact ⟨fun _ _ => hread, trivial⟩
        · intro hlast
          exact hlast.1 side rfl

/-- **Completeness.**  Whenever the loop has returned, it was not complete: no end
    of stream was passed on.  All bytes were copied if and only if the end that it
    read was read after everything else. -/
theorem completes_iff {events : List Event}
    (h : (system closes stream).run (start stream) events = some s') :
    (Completes stream s' ↔ ∀ side, .eof side ∉ events) ∧
      (Delivers stream s' ↔
        (system closes stream).AllSteps (fun t e _ => LastRead t e) (start stream) events) :=
  run_complete_iff (running_start stream) h

section samples

/-- One byte each way. -/
def sampleStream : Side → List UInt8
  | .a => [1]
  | .b => [2]

/-- Side `a` is read to its end before side `b` has sent its byte. -/
theorem not_completes_sampleStream :
    ∃ s, (system (fun _ => true) sampleStream).run (start sampleStream)
      [.read .a 1, .eof .a] = some s ∧ s.tunnel.phase = .ok 1 0 ∧
      ¬ Delivers sampleStream s ∧ ¬ Completes sampleStream s := by
  refine ⟨_, rfl, rfl, fun h => ?_, fun h => ?_⟩
  · exact absurd (h 1 0 rfl).2.1 (by decide)
  · exact absurd (h 1 0 rfl).2.1 (by decide)

/-- The bytes of both sides are copied before the first end is read. -/
theorem delivers_sampleStream :
    ∃ s, (system (fun _ => true) sampleStream).run (start sampleStream)
      [.read .a 1, .read .b 1, .eof .a] = some s ∧ Delivers sampleStream s ∧
      ¬ Completes sampleStream s := by
  obtain ⟨s, hrun⟩ : ∃ s, (system (fun _ => true) sampleStream).run (start sampleStream)
      [.read .a 1, .read .b 1, .eof .a] = some s := ⟨_, rfl⟩
  refine ⟨s, hrun, (completes_iff hrun).2.mpr ?_, fun h => ?_⟩
  · refine ((system _ _).allSteps_cons rfl).mpr ⟨by simp [LastRead], ?_⟩
    refine ((system _ _).allSteps_cons rfl).mpr ⟨by simp [LastRead], ?_⟩
    refine ((system _ _).allSteps_cons rfl).mpr ⟨fun side _ other => ?_, trivial⟩
    cases other <;> rfl
  · exact (completes_iff hrun).1.mp h .a (by decide)

end samples

end Exchange

end Tunnel

end OrcaNet
