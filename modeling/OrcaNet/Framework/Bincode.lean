import Mathlib.Algebra.Ring.Nat
import Mathlib.Data.Nat.Basic
import Mathlib.Tactic.Common

/-! # A binary format without self-description

    The default configuration of bincode: integers and the bits of floats are
    fixed-width and little-endian, lengths are `u64`, a struct is the sequence
    of its fields, an enum is the `u32` index of the variant and then the
    fields of the variant.  Nothing in the bytes says what they are, so the
    methods of a deserializer that ask the format (`deserialize_any`,
    `deserialize_identifier`) always fail.

    `Yields d bytes outcome` says what `d` makes of `bytes` in front of any
    further input.  Its rules follow the sequence of fields.  `Accepts` is the
    converse: it says which bytes `d` takes for a value. -/

namespace Bincode

/-! ## Section 1: Deserializers -/

inductive ErrorKind where
  | Io
  | InvalidUtf8Encoding
  | DeserializeAnyNotSupported
  | Custom (message : String)
  deriving DecidableEq, Repr

/-- A deserializer takes a value off the front of its input. -/
abbrev Deserializer (α : Type) : Type := StateT (List UInt8) (Except ErrorKind) α

/-- Lengths are below `2 ^ 64`, as those of all values in memory are. -/
def usize_bound : ℕ := 2 ^ 64

variable {α β : Type}

def Yields (d : Deserializer α) (bytes : List UInt8) (outcome : Except ErrorKind α) : Prop :=
  bytes.length < usize_bound →
    ∀ rest, d.run (bytes ++ rest) = outcome.map fun value => (value, rest)

theorem Yields.pure (a : α) : Yields (Pure.pure a) [] (.ok a) := fun _ _ => rfl

/-- The first field is read, and the others are read from what is left. -/
theorem Yields.bind {d : Deserializer α} {f : α → Deserializer β} {bytes bytes' : List UInt8}
    {a : α} {outcome : Except ErrorKind β} (hd : Yields d bytes (.ok a))
    (hf : Yields (f a) bytes' outcome) : Yields (d >>= f) (bytes ++ bytes') outcome := by
  intro hlen rest
  rw [List.length_append] at hlen
  have hfirst : d.run (bytes ++ (bytes' ++ rest)) = .ok (a, bytes' ++ rest) :=
    hd (by omega) (bytes' ++ rest)
  have hothers := hf (by omega) rest
  rw [List.append_assoc, StateT.run_bind, hfirst]
  exact hothers

/-- After an error nothing more is read. -/
theorem Yields.bind_error {d : Deserializer α} {f : α → Deserializer β}
    {bytes bytes' : List UInt8} {e : ErrorKind} (hd : Yields d bytes (.error e)) :
    Yields (d >>= f) (bytes ++ bytes') (.error e) := by
  intro hlen rest
  rw [List.length_append] at hlen
  have hfirst : d.run (bytes ++ (bytes' ++ rest)) = .error e :=
    hd (by omega) (bytes' ++ rest)
  rw [List.append_assoc, StateT.run_bind, hfirst]
  rfl

/-- The value of a single field is wrapped. -/
theorem Yields.map {d : Deserializer α} {bytes : List UInt8} {outcome : Except ErrorKind α}
    (f : α → β) (hd : Yields d bytes outcome) : Yields (f <$> d) bytes (outcome.map f) := by
  intro hlen rest
  rw [StateT.run_map, hd hlen rest]
  cases outcome with
  | ok a => rfl
  | error e => rfl

/-- The fields of a struct or of a variant, in their order. -/
def fields (bytes : List (List UInt8)) : List UInt8 := bytes.flatten

theorem Yields.cons {d : Deserializer α} {f : α → Deserializer β} {bytes : List UInt8}
    {others : List (List UInt8)} {a : α} {outcome : Except ErrorKind β}
    (hd : Yields d bytes (.ok a)) (hf : Yields (f a) (fields others) outcome) :
    Yields (d >>= f) (fields (bytes :: others)) outcome :=
  hd.bind hf

theorem Yields.nil (a : α) : Yields (Pure.pure a) (fields []) (.ok a) := .pure a

/-- The last field decides what comes out. -/
theorem Yields.last {d : Deserializer α} {bytes : List UInt8} {outcome : Except ErrorKind α}
    (f : α → β) (hd : Yields d bytes outcome) :
    Yields (f <$> d) (fields [bytes]) (outcome.map f) := by
  have hbytes : fields [bytes] = bytes := List.append_nil bytes
  rw [hbytes]
  exact hd.map f

theorem map_map {γ : Type} (f : α → β) (g : β → γ) (outcome : Except ErrorKind α) :
    (outcome.map f).map g = outcome.map (g ∘ f) := by
  cases outcome with
  | ok a => rfl
  | error e => rfl

theorem map_eq_ok_iff {f : α → β} (hf : Function.Injective f) (outcome : Except ErrorKind α)
    (a : α) : outcome.map f = .ok (f a) ↔ outcome = .ok a := by
  cases outcome with
  | ok b =>
    show Except.ok (f b) = .ok (f a) ↔ _
    rw [Except.ok.injEq, Except.ok.injEq, hf.eq_iff]
  | error e =>
    show Except.error e = .ok (f a) ↔ _
    exact ⟨nofun, nofun⟩

/-- `bincode::deserialize` allows trailing bytes. -/
def deserialize (d : Deserializer α) (bytes : List UInt8) : Except ErrorKind α :=
  (d.run bytes).map Prod.fst

theorem Yields.deserialize_eq {d : Deserializer α} {bytes : List UInt8}
    {outcome : Except ErrorKind α} (hd : Yields d bytes outcome)
    (hlen : bytes.length < usize_bound) : deserialize d bytes = outcome := by
  have hrun := hd hlen []
  rw [List.append_nil] at hrun
  rw [deserialize, hrun]
  cases outcome with
  | ok a => rfl
  | error e => rfl

/-! ## Section 2: Integers -/

/-- The `width` low bytes of `n`, least significant first. -/
def to_le_bytes : ℕ → ℕ → List UInt8
  | 0, _ => []
  | width + 1, n => UInt8.ofNat n :: to_le_bytes width (n / 256)

def from_le_bytes : List UInt8 → ℕ
  | [] => 0
  | byte :: bytes => byte.toNat + 256 * from_le_bytes bytes

@[simp] theorem length_to_le_bytes (width n : ℕ) : (to_le_bytes width n).length = width := by
  induction width generalizing n with
  | zero => rfl
  | succ width ih => rw [to_le_bytes, List.length_cons, ih]

theorem from_le_bytes_to_le_bytes (width n : ℕ) (h : n < 256 ^ width) :
    from_le_bytes (to_le_bytes width n) = n := by
  induction width generalizing n with
  | zero =>
    rw [Nat.pow_zero] at h
    show 0 = n
    omega
  | succ width ih =>
    have hquot : n / 256 < 256 ^ width := by
      rw [Nat.pow_succ] at h
      exact Nat.div_lt_of_lt_mul (by omega)
    have hbyte : (UInt8.ofNat n).toNat = n % 256 := UInt8.toNat_ofNat'
    rw [to_le_bytes, from_le_bytes, ih _ hquot, hbyte]
    exact Nat.mod_add_div n 256

/-- The next `n` bytes of the input. -/
def read_bytes (n : ℕ) : Deserializer (List UInt8) := fun input =>
  if input.length < n then .error .Io else .ok (input.take n, input.drop n)

theorem yields_read_bytes (bytes : List UInt8) :
    Yields (read_bytes bytes.length) bytes (.ok bytes) := by
  intro _ rest
  have hlen : ¬ (bytes ++ rest).length < bytes.length := by
    rw [List.length_append]
    omega
  show (if (bytes ++ rest).length < bytes.length then _ else _) = _
  rw [if_neg hlen, List.take_left, List.drop_left]
  rfl

def serialize_u32 (n : ℕ) : List UInt8 := to_le_bytes 4 n

def deserialize_u32 : Deserializer ℕ := from_le_bytes <$> read_bytes 4

def serialize_u64 (n : ℕ) : List UInt8 := to_le_bytes 8 n

def deserialize_u64 : Deserializer ℕ := from_le_bytes <$> read_bytes 8

theorem yields_le_bytes (width n : ℕ) (h : n < 256 ^ width) :
    Yields (from_le_bytes <$> read_bytes width) (to_le_bytes width n) (.ok n) := by
  have hread := yields_read_bytes (to_le_bytes width n)
  rw [length_to_le_bytes] at hread
  have hvalue := hread.map from_le_bytes
  rw [Except.map, from_le_bytes_to_le_bytes width n h] at hvalue
  exact hvalue

theorem yields_u32 (n : ℕ) (h : n < 2 ^ 32) :
    Yields deserialize_u32 (serialize_u32 n) (.ok n) :=
  yields_le_bytes 4 n (by omega)

theorem yields_u64 (n : ℕ) (h : n < 2 ^ 64) :
    Yields deserialize_u64 (serialize_u64 n) (.ok n) :=
  yields_le_bytes 8 n (by omega)

/-- An `f64` is its bit pattern. -/
def serialize_f64 (bits : UInt64) : List UInt8 := serialize_u64 bits.toNat

def deserialize_f64 : Deserializer UInt64 := UInt64.ofNat <$> deserialize_u64

theorem yields_f64 (bits : UInt64) :
    Yields deserialize_f64 (serialize_f64 bits) (.ok bits) := by
  have hbits := (yields_u64 bits.toNat bits.toNat_lt).map UInt64.ofNat
  rw [Except.map, UInt64.ofNat_toNat] at hbits
  exact hbits

/-! ## Section 3: Byte vectors and strings -/

def serialize_bytes (bytes : List UInt8) : List UInt8 := serialize_u64 bytes.length ++ bytes

def deserialize_bytes : Deserializer (List UInt8) := deserialize_u64 >>= read_bytes

theorem yields_bytes (bytes : List UInt8) :
    Yields deserialize_bytes (serialize_bytes bytes) (.ok bytes) := by
  intro hlen
  have hbound : bytes.length < 2 ^ 64 := by
    rw [serialize_bytes, List.length_append] at hlen
    exact lt_of_le_of_lt (Nat.le_add_left _ _) hlen
  exact (yields_u64 bytes.length hbound).bind (yields_read_bytes bytes) hlen

def utf8 (text : String) : List UInt8 := text.toByteArray.data.toList

def from_utf8 (bytes : List UInt8) : Option String := String.fromUTF8? ⟨bytes.toArray⟩

theorem from_utf8_utf8 (text : String) : from_utf8 (utf8 text) = some text := by
  have hbytes : (⟨(utf8 text).toArray⟩ : ByteArray) = text.toByteArray := rfl
  rw [from_utf8, hbytes, String.fromUTF8?, dif_pos text.isValidUTF8]
  rfl

theorem utf8_injective {text text' : String} (h : utf8 text = utf8 text') : text = text' := by
  have hread := from_utf8_utf8 text
  rw [h, from_utf8_utf8] at hread
  exact (Option.some.inj hread).symm

def string_of (bytes : List UInt8) : Deserializer String :=
  match from_utf8 bytes with
  | some text => pure text
  | none => throw .InvalidUtf8Encoding

def serialize_str (text : String) : List UInt8 := serialize_bytes (utf8 text)

def deserialize_string : Deserializer String := deserialize_bytes >>= string_of

theorem yields_string (text : String) :
    Yields deserialize_string (serialize_str text) (.ok text) := by
  have htext : Yields (string_of (utf8 text)) [] (.ok text) := by
    rw [string_of, from_utf8_utf8]
    exact .pure text
  have hbytes := (yields_bytes (utf8 text)).bind htext
  rw [List.append_nil] at hbytes
  exact hbytes

/-! ## Section 4: Enums -/

def serialize_variant {n : ℕ} (variant : Fin n) : List UInt8 := serialize_u32 variant

/-- The derived visitor of an enum with `n` variants. -/
def visit_u64 (n index : ℕ) : Deserializer (Fin n) :=
  if h : index < n then
    pure ⟨index, h⟩
  else
    throw (.Custom s!"invalid value: integer `{index}`, expected variant index 0 <= i < {n}")

def deserialize_variant (n : ℕ) : Deserializer (Fin n) := deserialize_u32 >>= visit_u64 n

theorem yields_variant {n : ℕ} (variant : Fin n) (hn : n ≤ 2 ^ 32) :
    Yields (deserialize_variant n) (serialize_variant variant) (.ok variant) := by
  have hvisit : Yields (visit_u64 n variant) [] (.ok variant) := by
    rw [visit_u64, dif_pos variant.isLt]
    exact .pure variant
  have hvariant := (yields_u32 variant (by omega)).bind hvisit
  rw [List.append_nil] at hvariant
  exact hvariant

/-! ## Section 5: What the format cannot tell -/

def deserialize_any : Deserializer α := fun _ => .error .DeserializeAnyNotSupported

def deserialize_identifier : Deserializer α := fun _ =>
  .error (.Custom "Bincode does not support Deserializer::deserialize_identifier")

theorem yields_any (bytes : List UInt8) :
    Yields (deserialize_any : Deserializer α) bytes (.error .DeserializeAnyNotSupported) :=
  fun _ _ => rfl

theorem yields_identifier (bytes : List UInt8) :
    Yields (deserialize_identifier : Deserializer α) bytes
      (.error (.Custom "Bincode does not support Deserializer::deserialize_identifier")) :=
  fun _ _ => rfl

/-! ## Section 6: What is accepted -/

/-- With `taken` read before, `d` accepts only what `write` makes of its value, in
    front of anything. -/
def Accepts (taken : List UInt8) (d : Deserializer α) (write : α → List UInt8) : Prop :=
  ∀ input a rest, d.run input = .ok (a, rest) → taken ++ input = write a ++ rest

variable {taken : List UInt8} {d : Deserializer α} {f : α → Deserializer β}
  {write_first : α → List UInt8} {write : β → List UInt8}

theorem Accepts.pure {b : β} (h : taken = write b) : Accepts taken (Pure.pure b) write := by
  intro input b' rest hrun
  cases hrun
  rw [h]

theorem accepts_throw (e : ErrorKind) : Accepts taken (throw e) write := by
  intro input b rest hrun
  cases hrun

/-- The bytes of the first field are read, and then those of the others. -/
theorem Accepts.bind (hd : Accepts [] d write_first)
    (hf : ∀ a, Accepts (taken ++ write_first a) (f a) write) : Accepts taken (d >>= f) write := by
  intro input b rest hrun
  rw [StateT.run_bind] at hrun
  cases hfirst : d.run input with
  | error e =>
    rw [hfirst] at hrun
    cases hrun
  | ok p =>
    obtain ⟨a, others⟩ := p
    rw [hfirst] at hrun
    have hinput : input = write_first a ++ others := hd input a others hfirst
    rw [hinput, ← List.append_assoc]
    exact hf a others b rest hrun

theorem Accepts.map {g : α → β} (hd : Accepts [] d write_first)
    (h : ∀ a, taken ++ write_first a = write (g a)) : Accepts taken (g <$> d) write := by
  rw [map_eq_pure_bind]
  exact hd.bind fun a => .pure (h a)

theorem run_read_bytes {n : ℕ} {input bytes rest : List UInt8}
    (h : (read_bytes n).run input = .ok (bytes, rest)) :
    bytes.length = n ∧ input = bytes ++ rest := by
  have hrun : (if input.length < n then Except.error ErrorKind.Io
      else .ok (input.take n, input.drop n)) = .ok (bytes, rest) := h
  split at hrun
  · cases hrun
  · rename_i hlen
    cases hrun
    exact ⟨List.length_take_of_le (Nat.le_of_not_lt hlen), (List.take_append_drop n input).symm⟩

/-- A value made of the next `n` bytes. -/
theorem accepts_map_read_bytes {n : ℕ} {g : List UInt8 → β}
    (h : ∀ bytes, bytes.length = n → taken ++ bytes = write (g bytes)) :
    Accepts taken (g <$> read_bytes n) write := by
  intro input b rest hrun
  rw [StateT.run_map] at hrun
  cases hread : (read_bytes n).run input with
  | error e =>
    rw [hread] at hrun
    cases hrun
  | ok p =>
    obtain ⟨bytes, others⟩ := p
    rw [hread] at hrun
    cases hrun
    obtain ⟨hlen, rfl⟩ := run_read_bytes hread
    rw [← List.append_assoc, h bytes hlen]

theorem from_le_bytes_lt (bytes : List UInt8) : from_le_bytes bytes < 256 ^ bytes.length := by
  induction bytes with
  | nil => exact Nat.one_pos
  | cons byte bytes ih =>
    have hbyte : byte.toNat < 256 := byte.toNat_lt
    rw [from_le_bytes, List.length_cons, Nat.pow_succ]
    omega

/-- Every number of bytes is the representation of the number that they make. -/
theorem to_le_bytes_from_le_bytes (bytes : List UInt8) :
    to_le_bytes bytes.length (from_le_bytes bytes) = bytes := by
  induction bytes with
  | nil => rfl
  | cons byte bytes ih =>
    have hbyte : byte.toNat < 256 := byte.toNat_lt
    have hquot : (byte.toNat + 256 * from_le_bytes bytes) / 256 = from_le_bytes bytes := by omega
    have hlow : UInt8.ofNat (byte.toNat + 256 * from_le_bytes bytes) = byte := by
      rw [← UInt8.toNat_inj, UInt8.toNat_ofNat']
      omega
    rw [from_le_bytes, List.length_cons, to_le_bytes, hquot, ih, hlow]

theorem accepts_u32 : Accepts [] deserialize_u32 serialize_u32 :=
  accepts_map_read_bytes fun bytes hlen => by
    rw [serialize_u32, ← hlen, to_le_bytes_from_le_bytes, List.nil_append]

theorem accepts_u64 : Accepts [] deserialize_u64 serialize_u64 :=
  accepts_map_read_bytes fun bytes hlen => by
    rw [serialize_u64, ← hlen, to_le_bytes_from_le_bytes, List.nil_append]

theorem accepts_f64 : Accepts [] deserialize_f64 serialize_f64 := by
  have hread : deserialize_f64 =
      (fun bytes => UInt64.ofNat (from_le_bytes bytes)) <$> read_bytes 8 := by
    rw [deserialize_f64, deserialize_u64, ← comp_map]
    rfl
  rw [hread]
  refine accepts_map_read_bytes fun bytes hlen => ?_
  have hlt := from_le_bytes_lt bytes
  rw [hlen] at hlt
  rw [serialize_f64, UInt64.toNat_ofNat_of_lt' (by simpa using hlt), serialize_u64, ← hlen,
    to_le_bytes_from_le_bytes, List.nil_append]

theorem accepts_bytes : Accepts [] deserialize_bytes serialize_bytes := by
  refine accepts_u64.bind fun n => ?_
  intro input bytes rest hrun
  obtain ⟨rfl, rfl⟩ := run_read_bytes hrun
  rw [serialize_bytes, List.nil_append, List.append_assoc]

theorem utf8_of_from_utf8 {bytes : List UInt8} {text : String} (h : from_utf8 bytes = some text) :
    utf8 text = bytes := by
  unfold from_utf8 String.fromUTF8? at h
  split at h
  · obtain rfl := Option.some.inj h
    rfl
  · cases h

theorem accepts_string : Accepts [] deserialize_string serialize_str := by
  refine accepts_bytes.bind fun bytes => ?_
  unfold string_of
  split
  · rename_i text htext
    refine .pure ?_
    rw [serialize_str, utf8_of_from_utf8 htext, List.nil_append]
  · exact accepts_throw _

theorem accepts_variant (n : ℕ) : Accepts [] (deserialize_variant n) serialize_variant := by
  refine accepts_u32.bind fun index => ?_
  unfold visit_u64
  split
  · exact .pure rfl
  · exact accepts_throw _

theorem accepts_any : Accepts taken (deserialize_any : Deserializer β) write := by
  intro input b rest hrun
  cases hrun

theorem accepts_identifier : Accepts taken (deserialize_identifier : Deserializer β) write := by
  intro input b rest hrun
  cases hrun

/-- What is accepted starts with the bytes that its value is written as. -/
theorem Accepts.deserialize_eq_ok (hd : Accepts [] d write_first) {bytes : List UInt8} {a : α}
    (h : deserialize d bytes = .ok a) : write_first a <+: bytes := by
  unfold deserialize at h
  cases hrun : d.run bytes with
  | error e =>
    rw [hrun] at h
    cases h
  | ok p =>
    obtain ⟨value, rest⟩ := p
    rw [hrun] at h
    cases h
    exact ⟨rest, (hd bytes value rest hrun).symm⟩

end Bincode
