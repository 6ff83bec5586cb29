import Mathlib.Data.List.Nodup
import OrcaNet.Framework.System

/-! # Correlating answers with callers

    Callers start operations; an operation has a fresh key, and a caller
    starts only one.  Answers arrive for started operations, in any order and
    possibly several for one key.  The correlator keeps a map from keys to
    the callers that still wait, gives an answer to the caller found under
    its key, and removes the entry.

    Then each caller gets exactly the first answer for its own operation. -/

namespace Correlator

open Transition

universe u v w

variable {K : Type u} {C : Type v} {V : Type w} [DecidableEq K]

structure State (K : Type u) (C : Type v) (V : Type w) where
  pending : K → Option C
  /-- The operations started so far, with their callers. -/
  started : List (K × C)
  /-- The answers that arrived, oldest first. -/
  answers : List (K × V)
  /-- What the callers got, newest first. -/
  replies : List (C × V)

inductive Label (K : Type u) (C : Type v) (V : Type w) where
  | start (k : K) (c : C)
  | answer (k : K) (v : V)

/-- Functional update on `pending`. -/
def set (f : K → Option C) (k : K) (x : Option C) : K → Option C :=
  fun i => if i = k then x else f i

@[simp] theorem set_self (f : K → Option C) (k : K) (x : Option C) : set f k x k = x := by
  simp [set]

@[simp] theorem set_ne (f : K → Option C) {i k : K} (x : Option C) (h : i ≠ k) :
    set f k x i = f i := by
  simp [set, h]

theorem set_none_of_none {f : K → Option C} {k : K} (h : f k = none) : set f k none = f := by
  funext i
  by_cases hik : i = k
  · rw [hik, set_self, h]
  · rw [set_ne _ _ hik]

def next [DecidableEq C] (s : State K C V) : Label K C V → Option (State K C V)
  | .start k c =>
    if k ∉ s.started.map Prod.fst ∧ c ∉ s.started.map Prod.snd then
      some { s with pending := set s.pending k (some c), started := (k, c) :: s.started }
    else none
  | .answer k v =>
    if k ∈ s.started.map Prod.fst then
      match s.pending k with
      | some c =>
        some { s with
          pending := set s.pending k none
          answers := s.answers ++ [(k, v)]
          replies := (c, v) :: s.replies }
      | none => some { s with answers := s.answers ++ [(k, v)] }
    else none

def init : State K C V := ⟨fun _ => none, [], [], []⟩

def system [DecidableEq C] : System (State K C V) (Label K C V) where
  init := fun s => s = init
  next := next

/-- The first answer for a key. -/
def first_answer (answers : List (K × V)) (k : K) : Option V :=
  (answers.find? fun p => decide (p.1 = k)).map Prod.snd

@[simp] theorem first_answer_nil (k : K) : first_answer ([] : List (K × V)) k = none := rfl

theorem first_answer_append (answers : List (K × V)) (k i : K) (v : V) :
    first_answer (answers ++ [(k, v)]) i =
      (first_answer answers i).or (if k = i then some v else none) := by
  unfold first_answer
  rw [List.find?_append]
  by_cases h : k = i
  · cases answers.find? fun p => decide (p.1 = i) <;> simp [h]
  · cases answers.find? fun p => decide (p.1 = i) <;> simp [h]

/-- Another answer for an answered key changes nothing. -/
theorem first_answer_append_of_some {answers : List (K × V)} {k : K} {x : V}
    (h : first_answer answers k = some x) (v : V) (i : K) :
    first_answer (answers ++ [(k, v)]) i = first_answer answers i := by
  rw [first_answer_append]
  by_cases hi : k = i
  · simp [← hi, h]
  · simp [hi]

structure Correlated (s : State K C V) : Prop where
  keys : (s.started.map Prod.fst).Nodup
  callers : (s.started.map Prod.snd).Nodup
  answered : ∀ k v, first_answer s.answers k = some v → k ∈ s.started.map Prod.fst
  pending : ∀ k c, s.pending k = some c ↔ (k, c) ∈ s.started ∧ first_answer s.answers k = none
  replies : ∀ c v, (c, v) ∈ s.replies ↔ ∃ k, (k, c) ∈ s.started ∧
    first_answer s.answers k = some v
  once : (s.replies.map Prod.fst).Nodup

/-- A started operation has one caller. -/
theorem Correlated.caller_unique {s : State K C V} (h : Correlated s) {k : K} {c c' : C}
    (hc : (k, c) ∈ s.started) (hc' : (k, c') ∈ s.started) : c = c' :=
  congrArg Prod.snd (List.inj_on_of_nodup_map h.keys hc hc' rfl)

/-- A caller has one operation. -/
theorem Correlated.key_unique {s : State K C V} (h : Correlated s) {k k' : K} {c : C}
    (hk : (k, c) ∈ s.started) (hk' : (k', c) ∈ s.started) : k = k' :=
  congrArg Prod.fst (List.inj_on_of_nodup_map h.callers hk hk' rfl)

/-- No caller waits under two keys. -/
theorem Correlated.pending_unique {s : State K C V} (h : Correlated s) {k k' : K} {c : C}
    (hk : s.pending k = some c) (hk' : s.pending k' = some c) : k = k' :=
  h.key_unique ((h.pending k c).mp hk).1 ((h.pending k' c).mp hk').1

theorem correlated_init : Correlated (init : State K C V) := by
  constructor <;> simp [init]

theorem correlated_start {s : State K C V} (h : Correlated s) {k : K} {c : C}
    (hk : k ∉ s.started.map Prod.fst) (hc : c ∉ s.started.map Prod.snd) :
    Correlated { s with pending := set s.pending k (some c), started := (k, c) :: s.started } := by
  have hnone : first_answer s.answers k = none := by
    cases hfirst : first_answer s.answers k with
    | none => rfl
    | some v => exact absurd (h.answered k v hfirst) hk
  have hnew : ∀ i, (i, c) ∉ s.started := fun i hi => hc (List.mem_map_of_mem (f := Prod.snd) hi)
  have hfresh : ∀ d, (k, d) ∉ s.started := fun d hd => hk (List.mem_map_of_mem (f := Prod.fst) hd)
  refine ⟨List.nodup_cons.mpr ⟨hk, h.keys⟩, List.nodup_cons.mpr ⟨hc, h.callers⟩, ?_, ?_, ?_,
    h.once⟩
  · exact fun i v hi => List.mem_cons_of_mem _ (h.answered i v hi)
  · intro i d
    by_cases hik : i = k
    · subst hik
      simp only [set_self, Option.some.injEq, List.mem_cons, Prod.mk.injEq, true_and, hfresh,
        or_false, hnone, and_true]
      exact eq_comm
    · simp [hik, h.pending]
  · intro d v
    rw [h.replies]
    -- the new operation was not answered yet
    constructor
    · rintro ⟨i, hi, hfirst⟩
      exact ⟨i, List.mem_cons_of_mem _ hi, hfirst⟩
    · rintro ⟨i, hi, hfirst⟩
      rcases List.mem_cons.mp hi with heq | hi
      · cases heq
        rw [hnone] at hfirst
        cases hfirst
      · exact ⟨i, hi, hfirst⟩

/-- The first answer for an operation goes to its caller. -/
theorem correlated_first {s : State K C V} (h : Correlated s) {k : K} {c : C} (v : V)
    (hpending : s.pending k = some c) :
    Correlated { s with
      pending := set s.pending k none
      answers := s.answers ++ [(k, v)]
      replies := (c, v) :: s.replies } := by
  obtain ⟨hstarted, hnone⟩ := (h.pending k c).mp hpending
  have hfirst : first_answer (s.answers ++ [(k, v)]) k = some v := by
    simp [first_answer_append, hnone]
  have hother : ∀ i, i ≠ k → first_answer (s.answers ++ [(k, v)]) i = first_answer s.answers i := by
    intro i hi
    simp [first_answer_append, Ne.symm hi]
  refine ⟨h.keys, h.callers, ?_, ?_, ?_, ?_⟩
  · intro i x hi
    by_cases hik : i = k
    · exact hik ▸ List.mem_map_of_mem (f := Prod.fst) hstarted
    · exact h.answered i x (hother i hik ▸ hi)
  · intro i d
    by_cases hik : i = k
    · subst hik
      simp [hfirst]
    · simp [hik, hother i hik, h.pending]
  · intro d x
    simp only [List.mem_cons, Prod.mk.injEq]
    constructor
    · rintro (⟨rfl, rfl⟩ | hold)
      · exact ⟨k, hstarted, hfirst⟩
      · obtain ⟨i, hi, hix⟩ := (h.replies d x).mp hold
        have hik : i ≠ k := by
          rintro rfl
          rw [hnone] at hix
          cases hix
        exact ⟨i, hi, (hother i hik).trans hix⟩
    · rintro ⟨i, hi, hix⟩
      by_cases hik : i = k
      · subst hik
        exact Or.inl ⟨h.caller_unique hi hstarted, Option.some.inj (hix.symm.trans hfirst)⟩
      · exact Or.inr ((h.replies d x).mpr ⟨i, hi, (hother i hik).symm.trans hix⟩)
  · refine List.nodup_cons.mpr ⟨fun hmem => ?_, h.once⟩
    obtain ⟨⟨d, x⟩, hdx, hd⟩ := List.mem_map.mp hmem
    obtain rfl : d = c := hd
    -- the caller was not answered, because its operation was not
    obtain ⟨i, hi, hix⟩ := (h.replies d x).mp hdx
    rw [h.key_unique hi hstarted, hnone] at hix
    cases hix

/-- A later answer for an operation is dropped. -/
theorem correlated_later {s : State K C V} (h : Correlated s) {k : K} (v : V)
    (hstarted : k ∈ s.started.map Prod.fst) (hpending : s.pending k = none) :
    Correlated { s with answers := s.answers ++ [(k, v)] } := by
  obtain ⟨⟨i, c⟩, hic, rfl⟩ := List.mem_map.mp hstarted
  -- an operation without an entry was answered
  obtain ⟨x, hx⟩ : ∃ x, first_answer s.answers i = some x := by
    cases hfirst : first_answer s.answers i with
    | some x => exact ⟨x, rfl⟩
    | none =>
      have hsome := (h.pending i c).mpr ⟨hic, hfirst⟩
      rw [hpending] at hsome
      cases hsome
  have hsame : ∀ j, first_answer (s.answers ++ [(i, v)]) j = first_answer s.answers j :=
    first_answer_append_of_some hx v
  exact ⟨h.keys, h.callers, fun j y hj => h.answered j y (hsame j ▸ hj),
    fun j d => by rw [hsame]; exact h.pending j d,
    fun d y => by simp only [hsame]; exact h.replies d y, h.once⟩

theorem correlated_of_reachable [DecidableEq C] {s : State K C V} (h : system.Reachable s) :
    Correlated s := by
  refine System.Reachable.invariant (J := Correlated) ?_ ?_ h
  · rintro s rfl
    exact correlated_init
  · intro s l s' _ hinv hnext
    cases l with
    | start k c =>
      obtain ⟨⟨hk, hc⟩, heq⟩ := Option.ite_none_right_eq_some.mp hnext
      obtain rfl := Option.some.inj heq
      exact correlated_start hinv hk hc
    | answer k v =>
      obtain ⟨hk, heq⟩ := Option.ite_none_right_eq_some.mp hnext
      -- the caller is answered once; later answers find nobody
      cases hpending : s.pending k with
      | some c =>
        simp only [hpending] at heq
        obtain rfl := Option.some.inj heq
        exact correlated_first hinv v hpending
      | none =>
        simp only [hpending] at heq
        obtain rfl := Option.some.inj heq
        exact correlated_later hinv v hk hpending

end Correlator
