import Mathlib.Algebra.Order.Floor.Ring
import Mathlib.Algebra.Order.Field.Basic
import Mathlib.Tactic.Linarith
import Mathlib.Tactic.Positivity

/-! # Rounding to a number of decimals

    `roundAway` rounds to the nearest integer, halves away from zero, which is
    what the rounding of most floating-point libraries computes; `roundTo d`
    rounds to `d` decimals through it.  Both are stated over an ordered field
    with a floor, so they are exact. -/

namespace Decimal

variable {K : Type*} [Field K] [LinearOrder K] [IsStrictOrderedRing K] [FloorRing K]

/-- The nearest integer; halves are rounded away from zero. -/
def roundAway (x : K) : ℤ := if 0 ≤ x then ⌊x + 1 / 2⌋ else ⌈x - 1 / 2⌉

/-- Rounding at `d` decimals. -/
def roundTo (d : ℕ) (x : K) : K := (roundAway (x * 10 ^ d) : K) / 10 ^ d

omit [IsStrictOrderedRing K] in
theorem roundAway_of_nonneg {x : K} (h : 0 ≤ x) : roundAway x = ⌊x + 1 / 2⌋ := if_pos h

omit [IsStrictOrderedRing K] in
theorem roundAway_of_neg {x : K} (h : x < 0) : roundAway x = ⌈x - 1 / 2⌉ := if_neg h.not_ge

theorem roundAway_nonneg {x : K} (h : 0 ≤ x) : 0 ≤ roundAway x := by
  rw [roundAway_of_nonneg h]
  exact Int.floor_nonneg.mpr (by linarith)

theorem roundAway_nonpos {x : K} (h : x < 0) : roundAway x ≤ 0 := by
  rw [roundAway_of_neg h]
  exact Int.ceil_le.mpr (by push_cast; linarith)

/-- Rounding is monotone: on each side of zero as floor and ceiling are, and
    across zero because it keeps the sign. -/
theorem roundAway_mono {x y : K} (hxy : x ≤ y) : roundAway x ≤ roundAway y := by
  rcases lt_or_ge y 0 with hy | hy
  · have hx : x < 0 := lt_of_le_of_lt hxy hy
    rw [roundAway_of_neg hx, roundAway_of_neg hy]
    exact Int.ceil_mono (by linarith)
  · rcases lt_or_ge x 0 with hx | hx
    · exact (roundAway_nonpos hx).trans (roundAway_nonneg hy)
    · rw [roundAway_of_nonneg hx, roundAway_of_nonneg hy]
      exact Int.floor_mono (by linarith)

/-- Above zero, rounding down loses less than a half. -/
theorem sub_roundAway_lt {x : K} (h : 0 ≤ x) : x - roundAway x < 1 / 2 := by
  rw [roundAway_of_nonneg h]
  have hfloor := Int.lt_floor_add_one (x + 1 / 2)
  linarith

/-- Above zero, rounding up adds at most a half. -/
theorem roundAway_sub_le {x : K} (h : 0 ≤ x) : roundAway x - x ≤ 1 / 2 := by
  rw [roundAway_of_nonneg h]
  have hfloor := Int.floor_le (x + 1 / 2)
  linarith

theorem roundAway_nonpos_of_lt_half {x : K} (h : x < 1 / 2) : roundAway x ≤ 0 := by
  rcases lt_or_ge x 0 with hx | hx
  · exact roundAway_nonpos hx
  · rw [roundAway_of_nonneg hx]
    have hfloor : ⌊x + 1 / 2⌋ < 1 := Int.floor_lt.mpr (by push_cast; linarith)
    omega

/-! ### Rounding at decimals -/

theorem roundTo_mono (d : ℕ) {x y : K} (hxy : x ≤ y) : roundTo d x ≤ roundTo d y := by
  have hpow : (0 : K) ≤ 10 ^ d := by positivity
  have hint : roundAway (x * 10 ^ d) ≤ roundAway (y * 10 ^ d) :=
    roundAway_mono (mul_le_mul_of_nonneg_right hxy hpow)
  exact div_le_div_of_nonneg_right (by exact_mod_cast hint) hpow

theorem roundTo_nonneg (d : ℕ) {x : K} (h : 0 ≤ x) : 0 ≤ roundTo d x := by
  have hint : 0 ≤ roundAway (x * 10 ^ d) := roundAway_nonneg (by positivity)
  exact div_nonneg (by exact_mod_cast hint) (by positivity)

theorem sub_roundTo_lt (d : ℕ) {x : K} (h : 0 ≤ x) : x - roundTo d x < 1 / 2 / 10 ^ d := by
  have hpow : (0 : K) < 10 ^ d := by positivity
  rw [lt_div_iff₀ hpow, roundTo, sub_mul, div_mul_cancel₀ _ hpow.ne']
  exact sub_roundAway_lt (by positivity)

theorem roundTo_sub_le (d : ℕ) {x : K} (h : 0 ≤ x) : roundTo d x - x ≤ 1 / 2 / 10 ^ d := by
  have hpow : (0 : K) < 10 ^ d := by positivity
  rw [le_div_iff₀ hpow, roundTo, sub_mul, div_mul_cancel₀ _ hpow.ne']
  exact roundAway_sub_le (by positivity)

theorem roundTo_nonpos_of_lt_half (d : ℕ) {x : K} (h : x < 1 / 2 / 10 ^ d) :
    roundTo d x ≤ 0 := by
  have hpow : (0 : K) < 10 ^ d := by positivity
  have hint : roundAway (x * 10 ^ d) ≤ 0 :=
    roundAway_nonpos_of_lt_half ((lt_div_iff₀ hpow).mp h)
  exact div_nonpos_of_nonpos_of_nonneg (by exact_mod_cast hint) hpow.le

/-- Cut off at zero, the rounded value is a natural number of units. -/
theorem max_roundTo_zero (d : ℕ) (x : K) : ∃ n : ℕ, max (roundTo d x) 0 = n / 10 ^ d := by
  have hpow : (0 : K) < 10 ^ d := by positivity
  refine ⟨(roundAway (x * 10 ^ d)).toNat, ?_⟩
  rcases le_total 0 (roundAway (x * 10 ^ d)) with hint | hint
  · have hcast : ((roundAway (x * 10 ^ d)).toNat : K) = (roundAway (x * 10 ^ d) : K) := by
      exact_mod_cast congrArg (fun z : ℤ => (z : K)) (Int.toNat_of_nonneg hint)
    rw [hcast, max_eq_left]
    · rfl
    · exact div_nonneg (by exact_mod_cast hint) hpow.le
  · rw [Int.toNat_of_nonpos hint, max_eq_right]
    · simp
    · exact div_nonpos_of_nonpos_of_nonneg (by exact_mod_cast hint) hpow.le

end Decimal
