import Mathlib.Algebra.BigOperators.Group.List.Basic
import Mathlib.Algebra.Order.BigOperators.Group.List
import Mathlib.Data.List.Nodup

/-! # Relational tables with unique columns

    A table is a list of rows together with a proof that certain columns hold
    each value at most once, so a table that breaks a PRIMARY KEY or UNIQUE
    constraint cannot be built.  The operations are those of a small SQL
    client: look a row up by the value of a column, insert a row, rewrite the
    rows with a given column value.

    The lemmas say how a lookup and a sum over the rows change under an insert
    and an update; nothing else about the list of rows is ever needed. -/

universe u v w

/-- A table with rows of type `α`, whose columns `cols` are unique. -/
structure Table (α : Type u) (κ : Type v) (cols : List (α → κ)) where
  rows : List α
  unique : ∀ c ∈ cols, (rows.map c).Nodup

namespace Table

variable {α : Type u} {κ : Type v} {cols : List (α → κ)}

/-- The table without rows. -/
def empty : Table α κ cols := ⟨[], by simp⟩

/-- The table with one row. -/
def single (r : α) : Table α κ cols := ⟨[r], fun _ _ => List.nodup_singleton _⟩

/-- The sum of `g` over all rows. -/
def sum {M : Type w} [AddCommMonoid M] (t : Table α κ cols) (g : α → M) : M :=
  (t.rows.map g).sum

@[simp] theorem empty_rows : (empty : Table α κ cols).rows = [] := rfl

@[ext] theorem ext {t t' : Table α κ cols} (h : t.rows = t'.rows) : t = t' := by
  cases t; cases t'; cases h; rfl

/-- Two rows with one value in a unique column are one row. -/
theorem row_unique {t : Table α κ cols} {c : α → κ} (hc : c ∈ cols) {r r' : α}
    (hr : r ∈ t.rows) (hr' : r' ∈ t.rows) (h : c r = c r') : r = r' :=
  List.inj_on_of_nodup_map (t.unique c hc) hr hr' h

variable [DecidableEq κ]

/-- The first row whose column `c` holds `k`. -/
def find (t : Table α κ cols) (c : α → κ) (k : κ) : Option α :=
  t.rows.find? fun r => decide (c r = k)

/-- Add a row; `none` when it would repeat a value of a unique column. -/
def insert (t : Table α κ cols) (r : α) : Option (Table α κ cols) :=
  if h : ∀ c ∈ cols, c r ∉ t.rows.map c then
    some ⟨t.rows ++ [r], fun c hc => by
      rw [List.map_append, List.map_singleton, List.nodup_append]
      refine ⟨t.unique c hc, List.nodup_singleton _, ?_⟩
      intro a ha b hb
      rw [List.mem_singleton.mp hb]
      exact fun hab => h c hc (hab ▸ ha)⟩
  else none

/-- Delete the rows whose column `c` holds `k`. -/
def remove (t : Table α κ cols) (c : α → κ) (k : κ) : Table α κ cols :=
  ⟨t.rows.filter fun r => decide (c r ≠ k), fun d hd =>
    (List.filter_sublist.map d).nodup (t.unique d hd)⟩

/-- Rewrite every row whose column `c` holds `k`.  The rewriting keeps the
    unique columns, so the result is a table again. -/
def update (t : Table α κ cols) (c : α → κ) (k : κ) (f : α → α)
    (hf : ∀ r, ∀ d ∈ cols, d (f r) = d r) : Table α κ cols :=
  ⟨t.rows.map fun r => if c r = k then f r else r, fun d hd => by
    have hcol : (fun r => d (if c r = k then f r else r)) = d := by
      funext r
      split
      · exact hf r d hd
      · rfl
    rw [List.map_map, Function.comp_def, hcol]
    exact t.unique d hd⟩

/-! ### Lookups -/

theorem find_mem {t : Table α κ cols} {c : α → κ} {k : κ} {r : α}
    (h : t.find c k = some r) : r ∈ t.rows ∧ c r = k :=
  ⟨List.mem_of_find?_eq_some h, by simpa using List.find?_some h⟩

/-- A row that was found is found again under its own value. -/
theorem find_own {t : Table α κ cols} {c : α → κ} {k : κ} {r : α} (h : t.find c k = some r) :
    t.find c (c r) = some r := by
  rw [(find_mem h).2]
  exact h

/-- On a unique column, looking a value up finds the row that holds it. -/
theorem find_eq_some_iff {t : Table α κ cols} {c : α → κ} (hc : c ∈ cols) {k : κ} {r : α} :
    t.find c k = some r ↔ r ∈ t.rows ∧ c r = k := by
  refine ⟨find_mem, fun ⟨hr, hk⟩ => ?_⟩
  cases h : t.find c k with
  | none => exact absurd hk (by simpa using List.find?_eq_none.mp h r hr)
  | some r' =>
    obtain ⟨hr', hk'⟩ := find_mem h
    rw [row_unique hc hr' hr (hk'.trans hk.symm)]

theorem find_eq_none_iff {t : Table α κ cols} {c : α → κ} {k : κ} :
    t.find c k = none ↔ ∀ r ∈ t.rows, c r ≠ k := by
  simp [find]

/-! ### Insert -/

theorem insert_eq_some {t t' : Table α κ cols} {r : α} (h : t.insert r = some t') :
    (∀ c ∈ cols, t.find c (c r) = none) ∧ t'.rows = t.rows ++ [r] := by
  unfold insert at h
  split at h
  · rename_i hnew
    obtain rfl := Option.some.inj h
    refine ⟨fun c hc => find_eq_none_iff.mpr fun r' hr' heq => ?_, rfl⟩
    exact hnew c hc (List.mem_map.mpr ⟨r', hr', heq⟩)
  · cases h

/-- A row is accepted exactly when its unique columns hold new values. -/
theorem insert_isSome_iff {t : Table α κ cols} {r : α} :
    (t.insert r).isSome ↔ ∀ c ∈ cols, t.find c (c r) = none := by
  have hnone : (∀ c ∈ cols, t.find c (c r) = none) ↔ ∀ c ∈ cols, c r ∉ t.rows.map c := by
    simp only [find_eq_none_iff, List.mem_map, not_exists, not_and]
  rw [hnone]
  by_cases h : ∀ c ∈ cols, c r ∉ t.rows.map c
  · rw [insert, dif_pos h]
    exact iff_of_true rfl h
  · rw [insert, dif_neg h]
    exact iff_of_false Bool.false_ne_true h

theorem find_insert {t t' : Table α κ cols} {r : α} (h : t.insert r = some t') (c : α → κ)
    (k : κ) : t'.find c k = (t.find c k).or (if c r = k then some r else none) := by
  rw [find, (insert_eq_some h).2, List.find?_append, find]
  by_cases hk : c r = k <;> simp [hk]

/-- The inserted row is found under its own unique columns. -/
theorem find_insert_self {t t' : Table α κ cols} {r : α} (h : t.insert r = some t')
    {c : α → κ} (hc : c ∈ cols) : t'.find c (c r) = some r := by
  rw [find_insert h, (insert_eq_some h).1 c hc]; simp

/-- Rows found before an insert are found after it. -/
theorem find_insert_of_some {t t' : Table α κ cols} {r : α} (h : t.insert r = some t')
    {c : α → κ} {k : κ} {x : α} (hx : t.find c k = some x) : t'.find c k = some x := by
  rw [find_insert h, hx]; rfl

theorem sum_insert {M : Type w} [AddCommMonoid M] {t t' : Table α κ cols} {r : α}
    (h : t.insert r = some t') (g : α → M) : t'.sum g = t.sum g + g r := by
  simp [sum, (insert_eq_some h).2]

/-- Entries with distinct keys, each at most its own row, sum up to at most the
    sum over the rows. -/
theorem sum_le_of_find {β : Type*} {M : Type w} [AddCommMonoid M] [PartialOrder M]
    [IsOrderedAddMonoid M] {t : Table α κ cols} {c : α → κ} (hc : c ∈ cols) {g : α → M}
    (hg : ∀ r ∈ t.rows, 0 ≤ g r) {xs : List β} {key : β → κ} {weight : β → M}
    (hnodup : (xs.map key).Nodup)
    (hfind : ∀ x ∈ xs, ∃ r, t.find c (key x) = some r ∧ weight x ≤ g r) :
    (xs.map weight).sum ≤ t.sum g := by
  let value : κ → M := fun k => (t.find c k).elim 0 g
  have hrow : ∀ r ∈ t.rows, value (c r) = g r := by
    intro r hr
    simp [value, (find_eq_some_iff hc).mpr ⟨hr, rfl⟩]
  have hsub : xs.map key ⊆ t.rows.map c := by
    intro k hk
    obtain ⟨x, hx, rfl⟩ := List.mem_map.mp hk
    obtain ⟨r, hr, -⟩ := hfind x hx
    exact List.mem_map.mpr ⟨r, find_mem hr⟩
  obtain ⟨ks, hperm, hks⟩ := List.subperm_of_subset hnodup hsub
  -- weights are compared with rows key by key, and keys without an entry add
  -- something that is not negative
  calc (xs.map weight).sum
      ≤ (xs.map fun x => value (key x)).sum := by
        refine List.sum_le_sum fun x hx => ?_
        obtain ⟨r, hr, hle⟩ := hfind x hx
        simpa [value, hr] using hle
    _ = (ks.map value).sum := by
        rw [← Function.comp_def, ← List.map_map]
        exact ((hperm.map value).sum_eq).symm
    _ ≤ ((t.rows.map c).map value).sum := by
        refine (hks.map value).sum_le_sum fun v hv => ?_
        obtain ⟨k, hk, rfl⟩ := List.mem_map.mp hv
        obtain ⟨r, hr, rfl⟩ := List.mem_map.mp hk
        rw [hrow r hr]
        exact hg r hr
    _ = t.sum g := by
        rw [List.map_map]
        exact congrArg List.sum (List.map_congr_left hrow)

/-! ### Update -/

/-- Rewriting the only entry with the key of `x` changes a sum by what it does
    to `x`. -/
theorem sum_map_rewrite {M : Type w} [AddCommGroup M] {c : α → κ} (f : α → α) (g : α → M)
    {x : α} {xs : List α} (hx : x ∈ xs) (hnodup : (xs.map c).Nodup) :
    (xs.map fun r => g (if c r = c x then f r else r)).sum =
      (xs.map g).sum - g x + g (f x) := by
  -- only one entry has the key, so the sum splits at it
  induction xs with
  | nil => cases hx
  | cons y ys ih =>
    obtain ⟨hy, hys⟩ := List.nodup_cons.mp hnodup
    rw [List.map_cons, List.sum_cons, List.map_cons, List.sum_cons]
    by_cases hkey : c y = c x
    · -- the head is the entry that is hit, so the tail is unchanged
      have hyx : y = x := by
        rcases List.mem_cons.mp hx with rfl | hin
        · rfl
        · exact absurd (List.mem_map.mpr ⟨x, hin, hkey.symm⟩) hy
      subst hyx
      have htail : ∀ r ∈ ys, g (if c r = c y then f r else r) = g r := by
        intro r hr
        have hne : c r ≠ c y := fun h => hy (List.mem_map.mpr ⟨r, hr, h⟩)
        rw [if_neg hne]
      rw [List.map_congr_left htail, if_pos rfl, add_sub_cancel_left, add_comm]
    · have hin : x ∈ ys := by
        rcases List.mem_cons.mp hx with rfl | hin
        · exact absurd rfl hkey
        · exact hin
      rw [ih hin hys, if_neg hkey, ← add_assoc, ← add_sub_assoc]

/-! ### Remove and update -/

/-- Only the row that held the value is gone. -/
theorem find_remove (t : Table α κ cols) (c : α → κ) (k j : κ) :
    (t.remove c k).find c j = if j = k then none else t.find c j := by
  split
  · rename_i hjk
    rw [find_eq_none_iff]
    intro r hr
    simpa [remove, hjk] using (List.mem_filter.mp hr).2
  · rename_i hjk
    rw [find, remove, List.find?_filter]
    refine congrArg (fun p => t.rows.find? p) (funext fun r => ?_)
    by_cases hr : c r = j <;> simp [hr, hjk]

section update

variable {t : Table α κ cols} {c : α → κ} {k : κ} {f : α → α}
  {hf : ∀ r, ∀ d ∈ cols, d (f r) = d r}

theorem mem_update {x : α} : x ∈ (t.update c k f hf).rows ↔
    ∃ r ∈ t.rows, x = if c r = k then f r else r := by
  show x ∈ t.rows.map _ ↔ _
  simp only [List.mem_map, eq_comm]

/-- On a unique column an update rewrites the row that is found, and no other. -/
theorem mem_update_of_find (hc : c ∈ cols) {x : α} (hx : t.find c k = some x) {y : α} :
    y ∈ (t.update c k f hf).rows ↔ y = f x ∨ y ∈ t.rows ∧ c y ≠ k := by
  obtain ⟨hmem, hkey⟩ := find_mem hx
  rw [mem_update]
  constructor
  · intro h
    obtain ⟨r, hr, rfl⟩ := h
    by_cases hrk : c r = k
    · rw [if_pos hrk, row_unique hc hr hmem (hrk.trans hkey.symm)]
      exact Or.inl rfl
    · rw [if_neg hrk]
      exact Or.inr ⟨hr, hrk⟩
  · intro h
    rcases h with rfl | ⟨hy, hyk⟩
    · exact ⟨x, hmem, (if_pos hkey).symm⟩
    · exact ⟨y, hy, (if_neg hyk).symm⟩

/-- Rewriting the row that is found to itself changes nothing. -/
theorem update_eq_self (hc : c ∈ cols) {x : α} (hx : t.find c k = some x) (hfix : f x = x) :
    t.update c k f hf = t := by
  obtain ⟨hmem, hkey⟩ := find_mem hx
  have hrow : ∀ r ∈ t.rows, (if c r = k then f r else r) = r := by
    intro r hr
    by_cases hrk : c r = k
    · rw [if_pos hrk, row_unique hc hr hmem (hrk.trans hkey.symm), hfix]
    · rw [if_neg hrk]
  exact ext ((List.map_congr_left hrow).trans (List.map_id _))

/-- A lookup by a unique column finds the same row, rewritten if it was hit. -/
theorem find_update {d : α → κ} (hd : d ∈ cols) (j : κ) :
    (t.update c k f hf).find d j =
      (t.find d j).map fun r => if c r = k then f r else r := by
  have hcol : ∀ r, d (if c r = k then f r else r) = d r := by
    intro r
    split
    · exact hf r d hd
    · rfl
  simp only [find, update, List.find?_map, Function.comp_def, hcol]

/-- An update that leaves `g` alone leaves its sum alone. -/
theorem sum_update_of_eq {M : Type w} [AddCommMonoid M] {g : α → M} (hg : ∀ r, g (f r) = g r) :
    (t.update c k f hf).sum g = t.sum g := by
  have hrow : ∀ r, g (if c r = k then f r else r) = g r := by
    intro r
    split
    · exact hg r
    · rfl
  simp [sum, update, Function.comp_def, hrow]

/-- On a unique column an update changes a sum by what it does to one row. -/
theorem sum_update {M : Type w} [AddCommGroup M] (hc : c ∈ cols) {x : α}
    (hx : t.find c k = some x) (g : α → M) :
    (t.update c k f hf).sum g = t.sum g - g x + g (f x) := by
  obtain ⟨hmem, hkx⟩ := find_mem hx
  have h := sum_map_rewrite f g hmem (t.unique c hc)
  rw [hkx] at h
  simpa [sum, update, Function.comp_def] using h

end update

end Table
