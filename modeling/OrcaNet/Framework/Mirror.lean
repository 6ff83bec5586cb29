import Mathlib.Data.List.Nodup
import Mathlib.Tactic.Common

/-! # A value and its mirror

    Several operations write a value in one place and then publish what they
    wrote in another, the mirror.  The write and the publication are separate
    steps of an operation, and other operations come in between.

    `Converging` says that the mirror will hold the value when all operations
    are finished, in whatever order they finish.  A write always makes it true;
    a publication keeps it exactly if it does not leave only contrary
    publications behind, and if it does, the mirror ends up wrong.

    `Cleared` is a mirror that was lost, and `join` adds operations of another
    kind, for example those that publish the value again. -/

namespace Mirror

universe u v w

variable {O : Type u} {V : Type v}

structure State (O : Type u) (V : Type v) where
  value : V
  mirror : V
  /-- The operations that have written but not published. -/
  outstanding : List (O × V)

def write (s : State O V) (o : O) (v : V) : State O V :=
  { s with value := v, outstanding := (o, v) :: s.outstanding }

/-- Contrary publications are not the only ones among `ops`. -/
def Balanced (value : V) (ops : List (O × V)) : Prop :=
  (∃ p ∈ ops, p.2 ≠ value) → ∃ q ∈ ops, q.2 = value

structure Converging (s : State O V) : Prop where
  balanced : Balanced s.value s.outstanding
  finished : s.outstanding = [] → s.mirror = s.value

/-- Only contrary publications are left. -/
structure Diverging (s : State O V) : Prop where
  contrary : ∀ p ∈ s.outstanding, p.2 ≠ s.value
  finished : s.outstanding = [] → s.mirror ≠ s.value

theorem converging_write (s : State O V) (o : O) (v : V) : Converging (write s o v) where
  balanced := fun _ => ⟨(o, v), List.mem_cons_self, rfl⟩
  finished := nofun

/-- An operation publishes what it wrote; it is outstanding once. -/
structure Publishes (s : State O V) (o : O) (v : V) : Prop where
  mem : (o, v) ∈ s.outstanding
  unique : ∀ w, (o, w) ∈ s.outstanding → w = v

/-- An operation that will publish the value is as good as a write. -/
theorem converging_of_agreeing {s : State O V} (h : ∃ q ∈ s.outstanding, q.2 = s.value) :
    Converging s where
  balanced := fun _ => h
  finished := by
    intro hnil
    obtain ⟨q, hq, -⟩ := h
    rw [hnil] at hq
    cases hq

/-- The mirror was reset to `blank`, with the operations that were outstanding,
    and nothing was written since. -/
structure Cleared (blank : V) (s : State O V) : Prop where
  mirror : s.mirror = blank
  outstanding : s.outstanding = []

theorem Cleared.converging {blank : V} {s : State O V} (h : Cleared blank s)
    (hvalue : s.value = blank) : Converging s where
  balanced := by
    intro hcontrary
    obtain ⟨p, hp, -⟩ := hcontrary
    rw [h.outstanding] at hp
    cases hp
  finished := fun _ => h.mirror.trans hvalue.symm

/-- A cleared mirror has nothing to publish. -/
theorem Cleared.not_publishes {blank : V} {s : State O V} (h : Cleared blank s) {o : O} {v : V} :
    ¬ Publishes s o v := by
  intro hpublishes
  have hmem := hpublishes.mem
  rw [h.outstanding] at hmem
  cases hmem

/-- Operations of another kind on the same value. -/
def join {P : Type w} (s : State O V) (ops : List (P × V)) : State (O ⊕ P) V where
  value := s.value
  mirror := s.mirror
  outstanding := s.outstanding.map (fun p => (.inl p.1, p.2)) ++ ops.map fun p => (.inr p.1, p.2)

section join

variable {P : Type w} {s : State O V} {ops : List (P × V)}

@[simp] theorem mem_join_inl {o : O} {v : V} :
    (.inl o, v) ∈ (join s ops).outstanding ↔ (o, v) ∈ s.outstanding := by
  simp [join]

@[simp] theorem mem_join_inr {p : P} {v : V} :
    (.inr p, v) ∈ (join s ops).outstanding ↔ (p, v) ∈ ops := by
  simp [join]

theorem Publishes.join {o : O} {v : V} (h : Publishes s o v) (ops : List (P × V)) :
    Publishes (join s ops) (.inl o) v where
  mem := mem_join_inl.mpr h.mem
  unique := fun w hw => h.unique w (mem_join_inl.mp hw)

end join

variable [DecidableEq O]

/-- The other operations. -/
def others (s : State O V) (o : O) : List (O × V) := s.outstanding.filter fun p => p.1 ≠ o

def publish (s : State O V) (o : O) (v : V) : State O V :=
  { s with mirror := v, outstanding := others s o }

theorem mem_others {s : State O V} {o : O} {p : O × V} :
    p ∈ others s o ↔ p ∈ s.outstanding ∧ p.1 ≠ o := by
  rw [others, List.mem_filter, decide_eq_true_eq]

theorem eq_of_others_nil {s : State O V} {o : O} {v : V} (h : Publishes s o v)
    (hnil : others s o = []) : ∀ p ∈ s.outstanding, p.2 = v := by
  intro p hp
  have howner : p.1 = o := by
    by_contra hne
    have hmem : p ∈ others s o := mem_others.mpr ⟨hp, hne⟩
    rw [hnil] at hmem
    cases hmem
  exact h.unique p.2 (howner ▸ hp)

theorem converging_publish {s : State O V} {o : O} {v : V} (hs : Converging s)
    (h : Publishes s o v) (hbalanced : Balanced s.value (others s o)) :
    Converging (publish s o v) where
  balanced := hbalanced
  finished := by
    intro hnil
    have hall := eq_of_others_nil h hnil
    show v = s.value
    -- the last operation was not contrary, or another one would be left
    by_contra hne
    obtain ⟨q, hq, hvalue⟩ := hs.balanced ⟨(o, v), h.mem, hne⟩
    exact hne ((hall q hq).symm.trans hvalue)

theorem diverging_publish_of_not_balanced {s : State O V} {o : O} {v : V}
    (hbalanced : ¬ Balanced s.value (others s o)) : Diverging (publish s o v) := by
  unfold Balanced at hbalanced
  push Not at hbalanced
  obtain ⟨⟨p, hp, -⟩, hcontrary⟩ := hbalanced
  refine ⟨hcontrary, fun hnil => ?_⟩
  have hempty : others s o = [] := hnil
  rw [hempty] at hp
  cases hp

theorem diverging_publish {s : State O V} {o : O} {v : V} (hs : Diverging s)
    (h : Publishes s o v) : Diverging (publish s o v) where
  contrary := fun p hp => hs.contrary p (mem_others.mp hp).1
  finished := fun _ => hs.contrary (o, v) h.mem

/-! ### Two kinds of operations -/

section join

variable {P : Type w} [DecidableEq P]

theorem join_publish (s : State O V) (ops : List (P × V)) (o : O) (v : V) :
    join (publish s o v) ops = publish (join s ops) (.inl o) v := by
  simp [join, publish, others, List.filter_append, List.filter_map, Function.comp_def]

/-- An operation of the other kind publishes. -/
theorem join_filter (s : State O V) (ops : List (P × V)) (p : P) (v : V) :
    join { s with mirror := v } (ops.filter fun q => q.1 ≠ p) =
      publish (join s ops) (.inr p) v := by
  simp [join, publish, others, List.filter_append, List.filter_map, Function.comp_def]

end join

end Mirror
