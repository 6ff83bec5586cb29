import Mathlib.Data.List.Basic
import Mathlib.Tactic.Common

/-! # Unix paths

    Paths as `std::path` of Rust sees them on Unix: texts whose components lie
    between separators.  Empty parts do not count, and `.` counts only at the
    beginning of a relative path.

    * `components` and `join` are those of `std`.
    * `components_join`: joining a relative path appends its components.
    * `splitOn_append_cons_of_ne` and `names_eq_singleton_iff`: a text that is
      glued from two others is one name exactly if its other parts do not count.
-/

namespace UnixPath

inductive Component where
  | root
  | cur_dir
  | parent_dir
  | normal (name : List Char)
  deriving DecidableEq, Repr

/-- A part that does not count. -/
def Idle (part : List Char) : Prop := part = [] ∨ part = ['.']

instance : DecidablePred Idle := fun part => inferInstanceAs (Decidable (part = [] ∨ part = ['.']))

/-- The component of a part that is not the first one. -/
def component (part : List Char) : Option Component :=
  if Idle part then none
  else if part = ['.', '.'] then some .parent_dir
  else some (.normal part)

/-- The components of a text after the beginning of a path. -/
def names (path : List Char) : List Component := (path.splitOn '/').filterMap component

def Absolute (path : List Char) : Prop := path.head? = some '/'

instance : DecidablePred Absolute :=
  fun path => inferInstanceAs (Decidable (path.head? = some '/'))

/-- What a path begins with. -/
def leading (path : List Char) : List Component :=
  if Absolute path then [.root]
  else if (path.splitOn '/').head? = some ['.'] then [.cur_dir]
  else []

def components (path : List Char) : List Component := leading path ++ names path

/-- An absolute path replaces the base. -/
def join (base path : List Char) : List Char :=
  if Absolute path then path
  else if base = [] ∨ base.getLast? = some '/' then base ++ path
  else base ++ '/' :: path

/-- The base and one normal component. -/
def DirectChild (base path : List Char) : Prop :=
  ∃ name, components path = components base ++ [.normal name]

/-! ## Joining -/

theorem component_of_idle {part : List Char} (h : Idle part) : component part = none := if_pos h

theorem component_eq_none_iff {part : List Char} : component part = none ↔ Idle part := by
  unfold component
  split
  · rename_i hidle
    exact ⟨fun _ => hidle, fun _ => rfl⟩
  · rename_i hidle
    refine ⟨fun h => ?_, fun h => absurd h hidle⟩
    split at h <;> cases h

@[simp] theorem names_nil : names [] = [] := by
  simp [names, component_of_idle (Or.inl rfl)]

/-- A separator separates the components. -/
theorem names_append_slash (base path : List Char) :
    names (base ++ '/' :: path) = names base ++ names path := by
  rw [names, List.splitOn_append_cons_self, List.filterMap_append]
  rfl

/-- What stands behind a separator has no part in the beginning. -/
theorem leading_append_slash (base path path' : List Char) :
    leading (base ++ '/' :: path) = leading (base ++ '/' :: path') := by
  have hhead : ∀ tail, ((base ++ '/' :: tail).splitOn '/').head? = (base.splitOn '/').head? := by
    intro tail
    rw [List.splitOn_append_cons_self, List.head?_append_of_ne_nil _ (List.splitOn_ne_nil _ _)]
  have habs : Absolute (base ++ '/' :: path) ↔ Absolute (base ++ '/' :: path') := by
    cases base <;> simp [Absolute]
  unfold leading
  simp only [hhead, habs]

/-- A base that is not empty decides how the path begins. -/
theorem leading_append {base : List Char} (hbase : base ≠ []) (path : List Char) :
    leading (base ++ '/' :: path) = leading base := by
  have hhead : ((base ++ '/' :: path).splitOn '/').head? = (base.splitOn '/').head? := by
    rw [List.splitOn_append_cons_self, List.head?_append_of_ne_nil _ (List.splitOn_ne_nil _ _)]
  have habs : Absolute (base ++ '/' :: path) ↔ Absolute base := by
    obtain ⟨c, cs, rfl⟩ := List.exists_cons_of_ne_nil hbase
    simp [Absolute]
  unfold leading
  simp only [hhead, habs]

/-- Joining a relative path appends its components. -/
theorem components_join {base path : List Char} (hbase : base ≠ []) (hpath : ¬ Absolute path) :
    components (join base path) = components base ++ names path := by
  unfold join components
  rw [if_neg hpath]
  by_cases hlast : base.getLast? = some '/'
  · rw [if_pos (Or.inr hlast)]
    obtain ⟨front, rfl⟩ := List.getLast?_eq_some_iff.mp hlast
    have hassoc : front ++ ['/'] ++ path = front ++ '/' :: path := by simp
    rw [hassoc, names_append_slash, names_append_slash, names_nil, List.append_nil,
      leading_append_slash front path [], List.append_assoc]
  · rw [if_neg (by simp [hbase, hlast]), names_append_slash, leading_append hbase,
      List.append_assoc]

/-- Joining is of no account if the path is absolute or the base is empty. -/
theorem join_eq_self {base path : List Char} (h : Absolute path ∨ base = []) :
    join base path = path := by
  unfold join
  by_cases habs : Absolute path
  · rw [if_pos habs]
  · obtain rfl := h.resolve_left habs
    rw [if_neg habs, if_pos (Or.inl rfl), List.nil_append]

theorem directChild_join_iff {base path : List Char} (hbase : base ≠ []) (hpath : ¬ Absolute path) :
    DirectChild base (join base path) ↔ ∃ name, names path = [.normal name] := by
  unfold DirectChild
  rw [components_join hbase hpath]
  simp only [List.append_cancel_left_eq]

/-! ## Names that are glued from two texts -/

/-- A character that is no separator glues the last part before it to the first
    part after it. -/
theorem splitOn_append_cons_of_ne {α : Type*} [BEq α] [LawfulBEq α] {sep c : α} (h : c ≠ sep)
    {xs ys : List α} {front : List (List α)} {last first : List α} {rest : List (List α)}
    (hxs : xs.splitOn sep = front ++ [last]) (hys : ys.splitOn sep = first :: rest) :
    (xs ++ c :: ys).splitOn sep = front ++ (last ++ c :: first) :: rest := by
  induction xs generalizing front last with
  | nil =>
    have hc : (c == sep) = false := by simpa using h
    rw [List.splitOn_nil] at hxs
    obtain ⟨rfl, rfl⟩ : front = [] ∧ last = [] := by
      cases front <;> simp_all
    rw [List.nil_append, List.splitOn_cons_eq_if_modifyHead, hc, hys]
    rfl
  | cons x xs ih =>
    rw [List.splitOn_cons_eq_if_modifyHead] at hxs
    rw [List.cons_append, List.splitOn_cons_eq_if_modifyHead]
    split
    · rename_i hx
      rw [if_pos hx] at hxs
      cases front with
      | nil => simp at hxs
      | cons part front =>
        obtain ⟨rfl, hxs'⟩ := List.cons_eq_cons.mp hxs
        rw [ih hxs']
        rfl
    · rename_i hx
      rw [if_neg hx] at hxs
      obtain ⟨front', last', hsplit⟩ : ∃ front' last', xs.splitOn sep = front' ++ [last'] :=
        ⟨_, _, (List.dropLast_concat_getLast (List.splitOn_ne_nil sep xs)).symm⟩
      rw [ih hsplit]
      rw [hsplit] at hxs
      -- the character joins the first part, which may be the last one, too
      cases front' with
      | nil =>
        obtain ⟨rfl, rfl⟩ : front = [] ∧ last = x :: last' := by
          cases front <;> simp_all
        rfl
      | cons part front' =>
        have hparts : (x :: part) :: front' ++ [last'] = front ++ [last] := hxs
        obtain ⟨rfl, hlast⟩ := List.append_inj' hparts rfl
        obtain rfl := List.singleton_inj.mp hlast
        rfl

/-- The glued text is one name if and only if all parts around the glue are idle. -/
theorem names_eq_singleton_iff {c : Char} (hsep : c ≠ '/') (hdot : c ≠ '.') (xs ys : List Char) :
    (∃ name, names (xs ++ c :: ys) = [.normal name]) ↔
      (∀ part ∈ (xs.splitOn '/').dropLast, Idle part) ∧
        ∀ part ∈ (ys.splitOn '/').tail, Idle part := by
  obtain ⟨front, last, hxs⟩ : ∃ front last, xs.splitOn '/' = front ++ [last] :=
    ⟨_, _, (List.dropLast_concat_getLast (List.splitOn_ne_nil '/' xs)).symm⟩
  obtain ⟨first, rest, hys⟩ := List.exists_cons_of_ne_nil (List.splitOn_ne_nil '/' ys)
  -- the part with the glue in it is a name, whatever stands around
  have hglued : component (last ++ c :: first) = some (.normal (last ++ c :: first)) := by
    have hmem : c ∈ last ++ c :: first := by simp
    have hidle : ¬ Idle (last ++ c :: first) := by
      rintro (heq | heq) <;> rw [heq] at hmem <;> simp_all
    have hparent : last ++ c :: first ≠ ['.', '.'] := by
      intro heq
      rw [heq] at hmem
      simp_all
    rw [component, if_neg hidle, if_neg hparent]
  have hnames : names (xs ++ c :: ys) = front.filterMap component ++
      .normal (last ++ c :: first) :: rest.filterMap component := by
    rw [names, splitOn_append_cons_of_ne hsep hxs hys, List.filterMap_append,
      List.filterMap_cons_some hglued]
  have hnil : ∀ parts : List (List Char),
      parts.filterMap component = [] ↔ ∀ part ∈ parts, Idle part := by
    intro parts
    simp only [List.filterMap_eq_nil_iff, component_eq_none_iff]
  rw [hnames, hxs, hys, List.dropLast_concat, List.tail_cons, ← hnil, ← hnil]
  constructor
  · intro ⟨name, hname⟩
    -- one name leaves no room for others in front or behind
    have hlen := congrArg List.length hname
    simp only [List.length_append, List.length_cons, List.length_nil] at hlen
    exact ⟨List.length_eq_zero_iff.mp (by omega), List.length_eq_zero_iff.mp (by omega)⟩
  · intro ⟨hfront, hrest⟩
    exact ⟨last ++ c :: first, by rw [hfront, hrest]; rfl⟩

end UnixPath
