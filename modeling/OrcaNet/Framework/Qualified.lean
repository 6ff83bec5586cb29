import Mathlib.Data.List.Infix

/-! # Qualified names

    Names as lists, over a root and a separator.  `qualify` puts a name under
    the root unless the name starts with the root already.

    * **Once is enough**: `qualify_qualify`.
    * **Who shares a qualified name**: only a name and its own form under the
      root, `qualify_eq_qualify_iff`.
    * **Where names end up**: `inside_qualify_iff`.  The test does not look at
      the separator, so a name that goes on after the root without one stays
      outside; on all other names `qualify_eq_qualify_iff_of_separated` holds. -/

namespace Qualified

universe u

/-! ## Names and their root -/

section names
variable {α : Type u} {root : List α} {sep : α} {name x y : List α}

/-- The name is the root, the separator and a rest. -/
def Inside (root : List α) (sep : α) (name : List α) : Prop := root ++ [sep] <+: name

/-- The root is followed by the separator, where a name starts with the root. -/
def Separated (root : List α) (sep : α) (name : List α) : Prop :=
  root <+: name → Inside root sep name

theorem root_under (root : List α) (sep : α) (name : List α) : root <+: root ++ sep :: name :=
  List.prefix_append _ _

theorem inside_under (root : List α) (sep : α) (name : List α) :
    Inside root sep (root ++ sep :: name) :=
  ⟨name, by simp⟩

theorem Inside.starts (h : Inside root sep name) : root <+: name :=
  have hroot : root <+: root ++ [sep] := List.prefix_append root [sep]
  hroot.trans h

theorem Separated.starts_iff (h : Separated root sep name) :
    root <+: name ↔ Inside root sep name :=
  ⟨h, Inside.starts⟩

theorem ne_of_not_root (hx : root <+: x) (hy : ¬ root <+: y) : x ≠ y := by
  rintro rfl
  exact hy hx

/-- A name that does not start with the root is not under it. -/
theorem ne_under_of_not_root (hx : ¬ root <+: x) : x ≠ root ++ sep :: y := by
  rintro rfl
  exact hx (root_under root sep y)

end names

variable {α : Type u} [DecidableEq α] {root : List α} {sep : α} {name x y : List α}

instance (root : List α) (sep : α) (name : List α) : Decidable (Inside root sep name) :=
  inferInstanceAs (Decidable (_ <+: _))

instance (root : List α) (sep : α) (name : List α) : Decidable (Separated root sep name) :=
  inferInstanceAs (Decidable (_ → _))

def qualify (root : List α) (sep : α) (name : List α) : List α :=
  if root <+: name then name else root ++ sep :: name

/-! ## Qualifying -/

theorem qualify_of_root (h : root <+: name) : qualify root sep name = name := if_pos h

theorem qualify_of_not_root (h : ¬ root <+: name) :
    qualify root sep name = root ++ sep :: name := if_neg h

theorem root_qualify (root : List α) (sep : α) (name : List α) :
    root <+: qualify root sep name := by
  by_cases h : root <+: name
  · rwa [qualify_of_root h]
  · rw [qualify_of_not_root h]
    exact root_under root sep name

@[simp] theorem qualify_qualify (root : List α) (sep : α) (name : List α) :
    qualify root sep (qualify root sep name) = qualify root sep name :=
  qualify_of_root (root_qualify root sep name)

/-! ## Shared names -/

/-- The four cases are which of the names start with the root. -/
theorem qualify_eq_qualify_iff :
    qualify root sep x = qualify root sep y ↔
      x = y ∨ (x = root ++ sep :: y ∧ ¬ root <+: y) ∨ (y = root ++ sep :: x ∧ ¬ root <+: x) := by
  by_cases hx : root <+: x <;> by_cases hy : root <+: y
  · rw [qualify_of_root hx, qualify_of_root hy]
    simp [hx, hy]
  · rw [qualify_of_root hx, qualify_of_not_root hy]
    simp [hx, hy, ne_of_not_root hx hy]
  · rw [qualify_of_not_root hx, qualify_of_root hy]
    simp [hx, hy, (ne_of_not_root hy hx).symm, eq_comm]
  · rw [qualify_of_not_root hx, qualify_of_not_root hy]
    simp [hx, hy, ne_under_of_not_root hx, ne_under_of_not_root hy]

/-! ## Names inside -/

theorem inside_qualify_iff : Inside root sep (qualify root sep name) ↔ Separated root sep name := by
  by_cases h : root <+: name
  · rw [qualify_of_root h]
    exact ⟨fun hin _ => hin, fun hsep => hsep h⟩
  · rw [qualify_of_not_root h]
    exact ⟨fun _ hroot => absurd hroot h, fun _ => inside_under root sep name⟩

theorem qualify_eq_qualify_iff_of_separated (hx : Separated root sep x)
    (hy : Separated root sep y) :
    qualify root sep x = qualify root sep y ↔
      x = y ∨ (x = root ++ sep :: y ∧ ¬ Inside root sep y) ∨
        (y = root ++ sep :: x ∧ ¬ Inside root sep x) := by
  rw [qualify_eq_qualify_iff, hx.starts_iff, hy.starts_iff]

end Qualified
