import Mathlib.Data.Rat.Defs
import Mathlib.Tactic.Common

/-! # JSON values

    Parsed JSON: objects are maps from keys to values, so that inserting a key
    replaces its value and leaves the others alone. -/

namespace Json

inductive Value where
  | null
  | bool (value : Bool)
  | number (value : ℚ)
  | string (value : String)
  | array (values : List Value)
  | object (fields : List (String × Value))

/-- The fields of an object, each key once. -/
abbrev Map : Type := List (String × Value)

namespace Map

def get (fields : Map) (key : String) : Option Value :=
  (fields.find? fun p => p.1 = key).map Prod.snd

def insert (fields : Map) (key : String) (value : Value) : Map :=
  (key, value) :: fields.filter fun p => p.1 ≠ key

@[simp] theorem get_insert_self (fields : Map) (key : String) (value : Value) :
    (fields.insert key value).get key = some value := by
  simp [get, insert]

theorem get_insert_of_ne (fields : Map) {key other : String} (value : Value) (h : other ≠ key) :
    (fields.insert key value).get other = fields.get other := by
  unfold get insert
  rw [List.find?_cons_of_neg (by simpa using Ne.symm h), List.find?_filter]
  refine congrArg (fun p => (fields.find? p).map Prod.snd) (funext fun p => ?_)
  by_cases hp : p.1 = other
  · simp [hp, h]
  · simp [hp]

/-- Set several keys, one after the other. -/
def insert_all (fields : Map) (pairs : List (String × Value)) : Map :=
  pairs.foldl (fun fields p => fields.insert p.1 p.2) fields

theorem get_cons (key : String) (value : Value) (fields : Map) (other : String) :
    Map.get ((key, value) :: fields) other =
      if key = other then some value else fields.get other := by
  unfold get
  by_cases h : key = other
  · simp [h]
  · simp [h]

theorem get_eq_none_of_not_mem {fields : Map} {key : String} (h : key ∉ fields.map Prod.fst) :
    fields.get key = none := by
  have hfind : fields.find? (fun p => p.1 = key) = none := by
    rw [List.find?_eq_none]
    intro p hp
    have hne : p.1 ≠ key := fun heq => h (List.mem_map.mpr ⟨p, hp, heq⟩)
    simpa using hne
  rw [get, hfind]
  rfl

/-- The keys that are set hide those of the object; as each is set once, their
    order does not matter. -/
theorem get_insert_all (fields : Map) {pairs : List (String × Value)}
    (hnodup : (pairs.map Prod.fst).Nodup) (key : String) :
    (fields.insert_all pairs).get key = (Map.get pairs key).or (fields.get key) := by
  induction pairs generalizing fields with
  | nil => rfl
  | cons p pairs ih =>
    obtain ⟨k, v⟩ := p
    rw [List.map_cons, List.nodup_cons] at hnodup
    have hrest := ih (fields.insert k v) hnodup.2
    show ((fields.insert k v).insert_all pairs).get key = _
    rw [hrest, get_cons]
    by_cases hkey : k = key
    · subst hkey
      -- the later pairs do not hold the key again
      rw [get_eq_none_of_not_mem hnodup.1, get_insert_self, if_pos rfl]
      rfl
    · rw [get_insert_of_ne fields v (Ne.symm hkey), if_neg hkey]

theorem get_eq_some_iff {fields : Map} (hnodup : (fields.map Prod.fst).Nodup) {key : String}
    {value : Value} : fields.get key = some value ↔ (key, value) ∈ fields := by
  induction fields with
  | nil => simp [get]
  | cons p fields ih =>
    obtain ⟨k, v⟩ := p
    rw [List.map_cons, List.nodup_cons] at hnodup
    rw [get_cons, List.mem_cons]
    by_cases hkey : k = key
    · subst hkey
      have hnot : (k, value) ∉ fields := fun hmem =>
        hnodup.1 (List.mem_map.mpr ⟨(k, value), hmem, rfl⟩)
      simp [hnot, eq_comm]
    · rw [if_neg hkey, ih hnodup.2]
      simp [Ne.symm hkey]

theorem get_perm {fields fields' : Map} (hnodup : (fields.map Prod.fst).Nodup)
    (h : fields'.Perm fields) (key : String) : Map.get fields' key = Map.get fields key := by
  have hnodup' : (fields'.map Prod.fst).Nodup := (h.map Prod.fst).nodup_iff.mpr hnodup
  refine Option.ext fun value => ?_
  show Map.get fields' key = some value ↔ Map.get fields key = some value
  rw [get_eq_some_iff hnodup', get_eq_some_iff hnodup]
  exact h.mem_iff

end Map

/-- A key of an object; other values have none. -/
def Value.get : Value → String → Option Value
  | .object fields, key => Map.get fields key
  | _, _ => none

/-- An object with a key set; other values are no objects. -/
def Value.insert : Value → String → Value → Option Value
  | .object fields, key, value => some (.object (Map.insert fields key value))
  | _, _, _ => none

/-- An object with several keys set. -/
def Value.insert_all : Value → List (String × Value) → Option Value
  | .object fields, pairs => some (.object (Map.insert_all fields pairs))
  | _, _ => none

/-- A number of the file as `f64`. -/
def Value.as_f64 : Value → Option ℚ
  | .number value => some value
  | _ => none

theorem Value.get_insert {file file' : Value} {key : String} {value : Value}
    (h : file.insert key value = some file') :
    file'.get key = some value ∧ ∀ other ≠ key, file'.get other = file.get other := by
  cases file with
  | object fields =>
    obtain rfl := Option.some.inj h
    exact ⟨Map.get_insert_self fields key value,
      fun other hne => Map.get_insert_of_ne fields value hne⟩
  | _ => cases h

theorem Value.insert_isSome_of_get {file : Value} {key : String} (h : (file.get key).isSome)
    (other : String) (value : Value) : (file.insert other value).isSome := by
  cases file with
  | object fields => rfl
  | _ => cases h

end Json
