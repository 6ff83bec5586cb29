import Mathlib.Data.List.Infix
import Mathlib.Tactic.Common

/-! # Reading until

    A reader takes a stream chunk by chunk and stops as soon as what it has
    satisfies a predicate that longer data keeps, such as "contains the
    delimiter".  Where the stream is cut into chunks is not up to the reader.

    * `shortest` is the part of a stream that the reader is after: its shortest
      prefix with the predicate.
    * `readUntil` is the reader.  `Stops` says after which chunk it stops.
    * `Stops.got_eq_iff` and `Stops.rest_eq_iff`: it has read no more than the
      shortest prefix exactly if a chunk ends there.
-/

namespace ReadUntil

universe u

variable {α : Type u}

/-- Longer data keeps `P`. -/
def Lasting (P : List α → Prop) : Prop := ∀ p q, p <+: q → P p → P q

theorem lasting_infix (d : List α) : Lasting fun data => d <:+: data := by
  intro p q hpq hd
  exact hd.trans hpq.isInfix

/-! ## The shortest prefix -/

structure IsShortest (P : List α → Prop) (xs head : List α) : Prop where
  initial : head <+: xs
  holds : P head
  least : ∀ p, p <+: head → P p → p = head

/-- Among the prefixes of a stream, those with `P` are the ones that go on from
    the shortest. -/
theorem IsShortest.holds_iff {P : List α → Prop} (hP : Lasting P) {xs head p : List α}
    (h : IsShortest P xs head) (hp : p <+: xs) : P p ↔ head <+: p := by
  constructor
  · intro hholds
    obtain hle | hle := List.prefix_or_prefix_of_prefix h.initial hp
    · exact hle
    · rw [h.least p hle hholds]
  · intro hle
    exact hP head p hle h.holds

section shortest

variable (P : List α → Prop) [DecidablePred P]

def shortest (xs : List α) : Option (List α) := xs.inits.find? fun p => decide (P p)

theorem shortest_eq_some_iff {xs head : List α} :
    shortest P xs = some head ↔ IsShortest P xs head := by
  unfold shortest
  rw [List.find?_eq_some_iff_getElem]
  simp only [decide_eq_true_eq, List.getElem_inits, List.length_inits, Bool.not_eq_true',
    decide_eq_false_iff_not]
  constructor
  · intro ⟨hholds, i, hi, htake, hfirst⟩
    refine ⟨htake ▸ List.take_prefix i xs, hholds, fun p hp hp' => ?_⟩
    -- a shorter prefix would have been found before
    by_contra hne
    have hlen : p.length < i := by
      have hlt : p.length < head.length := by
        refine lt_of_le_of_ne hp.length_le fun heq => hne (hp.eq_of_length heq)
      rw [← htake, List.length_take] at hlt
      omega
    have hp_take : p = xs.take p.length :=
      List.prefix_iff_eq_take.mp (hp.trans (htake ▸ List.take_prefix i xs))
    exact hfirst p.length hlen (hp_take ▸ hp')
  · intro h
    have hhead : head = xs.take head.length := List.prefix_iff_eq_take.mp h.initial
    refine ⟨h.holds, head.length, Nat.lt_succ_of_le h.initial.length_le, hhead.symm, ?_⟩
    intro j hj hPj
    have htake : xs.take j <+: head := by
      rw [hhead]
      exact List.take_prefix_take_left (Nat.le_of_lt hj)
    have heq := congrArg List.length (h.least _ htake hPj)
    rw [List.length_take] at heq
    omega

theorem shortest_isSome_iff (hP : Lasting P) {xs : List α} : (shortest P xs).isSome ↔ P xs := by
  unfold shortest
  rw [List.find?_isSome]
  constructor
  · intro ⟨p, hp, hholds⟩
    exact hP p xs (List.mem_inits p xs |>.mp hp) (of_decide_eq_true hholds)
  · intro hxs
    exact ⟨xs, (List.mem_inits xs xs).mpr List.prefix_rfl, decide_eq_true hxs⟩

end shortest

/-! ## The reader -/

/-- What was read, and the chunks that are left; `none` if there are not enough. -/
def readUntil (P : List α → Prop) [DecidablePred P] (data : List α) :
    List (List α) → Option (List α × List (List α))
  | [] => none
  | chunk :: chunks =>
    if P (data ++ chunk) then some (data ++ chunk, chunks) else readUntil P (data ++ chunk) chunks

/-- A reader that has `data` stops after `k` chunks. -/
structure Stops (P : List α → Prop) (data : List α) (chunks : List (List α)) (k : ℕ) : Prop where
  pos : 0 < k
  le : k ≤ chunks.length
  holds : P (data ++ (chunks.take k).flatten)
  first : ∀ j, 0 < j → j < k → ¬ P (data ++ (chunks.take j).flatten)

theorem stops_one {P : List α → Prop} {data chunk : List α} (chunks : List (List α))
    (h : P (data ++ chunk)) : Stops P data (chunk :: chunks) 1 where
  pos := Nat.one_pos
  le := by simp
  holds := by simpa using h
  first := fun j hpos hlt => absurd hlt (by omega)

/-- A reader that does not stop after the first chunk. -/
theorem stops_succ_iff {P : List α → Prop} {data chunk : List α} {chunks : List (List α)} {k : ℕ}
    (h : ¬ P (data ++ chunk)) (hk : 0 < k) :
    Stops P data (chunk :: chunks) (k + 1) ↔ Stops P (data ++ chunk) chunks k := by
  constructor
  · intro hs
    refine ⟨hk, ?_, ?_, fun j hpos hlt hPj => ?_⟩
    · simpa using hs.le
    · simpa using hs.holds
    · exact hs.first (j + 1) (Nat.succ_pos j) (by omega) (by simpa using hPj)
  · intro hs
    refine ⟨Nat.succ_pos k, ?_, ?_, fun j hpos hlt hPj => ?_⟩
    · simpa using hs.le
    · simpa using hs.holds
    · cases j with
      | zero => omega
      | succ j =>
        -- `j = 1` is the first chunk itself, after which the property does not hold
        cases j with
        | zero => exact h (by simpa using hPj)
        | succ j => exact hs.first (j + 1) (Nat.succ_pos j) (by omega) (by simpa using hPj)

theorem Stops.unique {P : List α → Prop} {data : List α} {chunks : List (List α)} {k l : ℕ}
    (hk : Stops P data chunks k) (hl : Stops P data chunks l) : k = l := by
  obtain hlt | heq | hlt := Nat.lt_trichotomy k l
  · exact absurd hk.holds (hl.first k hk.pos hlt)
  · exact heq
  · exact absurd hl.holds (hk.first l hl.pos hlt)

section readUntil

variable {P : List α → Prop} [DecidablePred P]

theorem readUntil_of_stops {data : List α} {chunks : List (List α)} {k : ℕ}
    (h : Stops P data chunks k) :
    readUntil P data chunks = some (data ++ (chunks.take k).flatten, chunks.drop k) := by
  -- the induction follows the reader: what it has is `data` in the next round
  induction chunks generalizing data k with
  | nil =>
    have hle := h.le
    have hpos := h.pos
    simp only [List.length_nil] at hle
    omega
  | cons chunk chunks ih =>
    by_cases hchunk : P (data ++ chunk)
    · obtain rfl := h.unique (stops_one chunks hchunk)
      simp [readUntil, hchunk]
    · obtain ⟨k, rfl⟩ : ∃ l, k = l + 1 := ⟨k - 1, by have := h.pos; omega⟩
      cases k with
      | zero => exact absurd (by simpa using h.holds) hchunk
      | succ k =>
        have hrest := (stops_succ_iff hchunk (Nat.succ_pos k)).mp h
        simp [readUntil, hchunk, ih hrest]

/-- A reader stops if all the chunks together have `P`. -/
theorem exists_stops {data : List α} {chunks : List (List α)} (hdata : ¬ P data)
    (h : P (data ++ chunks.flatten)) : ∃ k, Stops P data chunks k := by
  induction chunks generalizing data with
  | nil => exact absurd (by simpa using h) hdata
  | cons chunk chunks ih =>
    by_cases hchunk : P (data ++ chunk)
    · exact ⟨1, stops_one chunks hchunk⟩
    · obtain ⟨k, hk⟩ := ih hchunk (by simpa using h)
      exact ⟨k + 1, (stops_succ_iff hchunk hk.pos).mpr hk⟩

/-- ... and only then: without `P` it goes through all of them. -/
theorem readUntil_eq_none (hP : Lasting P) {data : List α} {chunks : List (List α)}
    (h : ¬ P (data ++ chunks.flatten)) : readUntil P data chunks = none := by
  induction chunks generalizing data with
  | nil => rfl
  | cons chunk chunks ih =>
    have hchunk : ¬ P (data ++ chunk) := by
      intro hPc
      exact h (hP _ _ ⟨chunks.flatten, by simp⟩ hPc)
    have hrest : ¬ P ((data ++ chunk) ++ chunks.flatten) := by simpa using h
    simp [readUntil, hchunk, ih hrest]

end readUntil

/-! ## What was read too much -/

section exact

variable {P : List α → Prop} {chunks : List (List α)} {k : ℕ} {head : List α}

theorem flatten_take_initial (chunks : List (List α)) (k : ℕ) :
    (chunks.take k).flatten <+: chunks.flatten :=
  List.IsPrefix.flatten <| List.take_prefix k chunks

theorem flatten_take_append_drop (chunks : List (List α)) (k : ℕ) :
    (chunks.take k).flatten ++ (chunks.drop k).flatten = chunks.flatten := by
  rw [← List.flatten_append, List.take_append_drop]

/-- The reader has the shortest prefix, and perhaps more. -/
theorem Stops.head_initial (hP : Lasting P) (h : Stops P [] chunks k)
    (hhead : IsShortest P chunks.flatten head) : head <+: (chunks.take k).flatten :=
  (hhead.holds_iff hP (flatten_take_initial chunks k)).mp (by simpa using h.holds)

/-- It has no more if and only if a chunk ends with it. -/
theorem Stops.got_eq_iff (hnil : ¬ P []) (h : Stops P [] chunks k)
    (hhead : IsShortest P chunks.flatten head) :
    (chunks.take k).flatten = head ↔ ∃ j, (chunks.take j).flatten = head := by
  constructor
  · intro heq
    exact ⟨k, heq⟩
  · intro ⟨j, hj⟩
    have hpos : 0 < j := by
      refine Nat.pos_of_ne_zero fun hzero => hnil ?_
      subst hzero
      rw [List.take_zero, List.flatten_nil] at hj
      exact hj ▸ hhead.holds
    -- the reader stops at the first chunk after which the property holds
    have hle : k ≤ j := by
      by_contra hlt
      exact h.first j hpos (by omega) (by simpa [hj] using hhead.holds)
    have hgot : (chunks.take k).flatten <+: head := by
      rw [← hj]
      exact (List.take_prefix_take_left hle).flatten
    exact hhead.least _ hgot (by simpa using h.holds)

/-- What it left is what comes after the shortest prefix if and only if a chunk
    ends there. -/
theorem Stops.rest_eq_iff (hP : Lasting P) (hnil : ¬ P []) (h : Stops P [] chunks k)
    (hhead : IsShortest P chunks.flatten head) :
    (chunks.drop k).flatten = chunks.flatten.drop head.length ↔
      ∃ j, (chunks.take j).flatten = head := by
  rw [← h.got_eq_iff hnil hhead]
  have hsplit := flatten_take_append_drop chunks k
  have hgot := h.head_initial hP hhead
  constructor
  · intro hrest
    have hlen := congrArg List.length hsplit
    have hrest_len := congrArg List.length hrest
    rw [List.length_append] at hlen
    rw [List.length_drop] at hrest_len
    have hhead_len := hhead.initial.length_le
    exact (hgot.eq_of_length (by omega)).symm
  · intro heq
    rw [← heq, ← hsplit]
    simp

end exact

end ReadUntil
