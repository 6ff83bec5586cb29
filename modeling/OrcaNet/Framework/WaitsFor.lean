import Mathlib.Logic.Relation

/-! # Waits-for graphs

    A waits-for relation `r x y` says that `x` cannot go on before `y` acts.
    A deadlock is a cycle of the relation.  The two rules here say when a
    change of the relation keeps it free of cycles: dropping edges always
    does, and a new edge `a → b` out of a vertex that waited for nobody does
    exactly when `b` does not already wait, in some number of steps, for `a`. -/

namespace WaitsFor

universe u

variable {V : Type u}

open Relation

/-- No vertex waits, in one or more steps, for itself. -/
def Acyclic (r : V → V → Prop) : Prop := ∀ v, ¬ TransGen r v v

/-- Dropping edges keeps a relation acyclic. -/
theorem Acyclic.mono {r r' : V → V → Prop} (h : Acyclic r)
    (hsub : ∀ x y, r' x y → r x y) : Acyclic r' :=
  fun v hv => h v (TransGen.mono hsub v v hv)

/-- A relation without edges is acyclic. -/
theorem acyclic_of_no_edge {r : V → V → Prop} (h : ∀ x y, ¬ r x y) : Acyclic r := by
  intro v hv
  obtain ⟨y, hy, _⟩ := TransGen.head'_iff.mp hv
  exact h v y hy

/-- A path of the relation extended by `a → b` either is an old path, or leads
    to `a` and goes on from `b` by old edges. -/
theorem transGen_add_edge {r r' : V → V → Prop} {a b : V}
    (hr' : ∀ x y, r' x y → r x y ∨ x = a ∧ y = b) {x y : V} (h : TransGen r' x y) :
    TransGen r x y ∨ ReflTransGen r x a ∧ ReflTransGen r b y := by
  -- the induction follows the path; the new edge may be its last one
  induction h with
  | single hxy =>
    rcases hr' _ _ hxy with hold | ⟨rfl, rfl⟩
    · exact Or.inl (TransGen.single hold)
    · exact Or.inr ⟨ReflTransGen.refl, ReflTransGen.refl⟩
  | tail _ hyz ih =>
    rcases hr' _ _ hyz with hold | ⟨rfl, rfl⟩
    · rcases ih with hpath | ⟨hxa, hby⟩
      · exact Or.inl (hpath.tail hold)
      · exact Or.inr ⟨hxa, hby.tail hold⟩
    · rcases ih with hpath | ⟨hxa, _⟩
      · exact Or.inr ⟨hpath.to_reflTransGen, ReflTransGen.refl⟩
      · exact Or.inr ⟨hxa, ReflTransGen.refl⟩

/-- Adding the edge `a → b` keeps a relation acyclic exactly when `b` did not
    already wait for `a`. -/
theorem acyclic_add_edge_iff {r r' : V → V → Prop} {a b : V} (hacyc : Acyclic r)
    (hr' : ∀ x y, r' x y ↔ r x y ∨ x = a ∧ y = b) :
    Acyclic r' ↔ ¬ ReflTransGen r b a := by
  constructor
  · intro h hba
    have hedge : r' a b := (hr' a b).mpr (Or.inr ⟨rfl, rfl⟩)
    have hback : ReflTransGen r' b a :=
      ReflTransGen.mono (fun x y hxy => (hr' x y).mpr (Or.inl hxy)) b a hba
    exact h a (TransGen.head' hedge hback)
  · intro hba v hv
    rcases transGen_add_edge (fun x y => (hr' x y).mp) hv with h | ⟨hva, hbv⟩
    · exact hacyc v h
    · exact hba (hbv.trans hva)

/-- In a circle everyone waits for somebody who waits. -/
theorem transGen_waiting {r : V → V → Prop} {v : V} (h : TransGen r v v) :
    TransGen (fun x y => r x y ∧ ∃ z, r y z) v v := by
  have hv : ∃ z, r v z := (TransGen.head'_iff.mp h).imp fun _ hz => hz.1
  suffices ∀ x, TransGen r x v → TransGen (fun x y => r x y ∧ ∃ z, r y z) x v from this v h
  intro x hx
  induction hx using TransGen.head_induction_on with
  | single hxv => exact .single ⟨hxv, hv⟩
  | head hxy hyv ih =>
    obtain ⟨z, hyz, -⟩ := TransGen.head'_iff.mp hyv
    exact .head ⟨hxy, z, hyz⟩ ih

/-- A circle stays when nobody stops waiting for somebody who waits. -/
theorem not_acyclic_of_waiting {r r' : V → V → Prop} (h : ¬ Acyclic r)
    (hkeep : ∀ x y z, r x y → r y z → r' x y) : ¬ Acyclic r' := by
  refine fun hacyc => h fun v hv => hacyc v ?_
  exact TransGen.mono (fun x y ⟨hxy, z, hyz⟩ => hkeep x y z hxy hyz) v v (transGen_waiting hv)

end WaitsFor
