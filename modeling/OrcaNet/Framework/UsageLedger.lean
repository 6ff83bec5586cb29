import OrcaNet.Framework.Decimal
import OrcaNet.Framework.System

/-! # Paying for usage in rounded amounts

    An account is used at a fixed rate and paid from time to time: each payment
    is what is owed at the moment, rounded to `d` decimals and cut off at zero.
    What rounding loses or adds in one payment is carried over to the next, so
    the error of any number of payments is that of one. -/

namespace UsageLedger

open Transition Decimal

universe u

variable {K : Type u} [Field K] [LinearOrder K] [FloorRing K]

structure Account (K : Type u) where
  used : K
  rate : K
  paid : K

namespace Account

/-- The price of everything that was used. -/
def price (a : Account K) : K := a.used * a.rate

/-- What the next payment is. -/
def owed (d : ℕ) (a : Account K) : K := max (roundTo d (a.price - a.paid)) 0

def use (a : Account K) (amount : K) : Account K := { a with used := a.used + amount }

def pay (d : ℕ) (a : Account K) : Account K := { a with paid := a.paid + a.owed d }

end Account

inductive Label (K : Type u) where
  | use (amount : K)
  | pay

def next (d : ℕ) (a : Account K) : Label K → Option (Account K)
  | .use amount => if 0 ≤ amount then some (a.use amount) else none
  | .pay => some (a.pay d)

/-- A new account. -/
structure Init (a : Account K) : Prop where
  used : a.used = 0
  paid : a.paid = 0
  rate : 0 ≤ a.rate

def system (d : ℕ) : System (Account K) (Label K) where
  init := Init
  next := next d

/-! ### What is owed -/

variable [IsStrictOrderedRing K] {d : ℕ} {a : Account K}

/-- More usage never makes the next payment smaller. -/
theorem owed_le_owed_of_used_le (hrate : 0 ≤ a.rate) {used : K} (h : a.used ≤ used) :
    a.owed d ≤ Account.owed d { a with used := used } := by
  have hprice : a.used * a.rate ≤ used * a.rate := mul_le_mul_of_nonneg_right h hrate
  exact max_le_max_right 0 (roundTo_mono d (sub_le_sub_right hprice a.paid))

/-- The account is paid at most half a unit ahead. -/
structure Balanced (d : ℕ) (a : Account K) : Prop where
  rate : 0 ≤ a.rate
  ahead : a.paid - a.price ≤ 1 / 2 / 10 ^ d

/-- Nothing is left to pay, and what was paid is the price up to half a unit. -/
structure Settled (d : ℕ) (a : Account K) : Prop where
  owed : a.owed d = 0
  paid : |a.paid - a.price| ≤ 1 / 2 / 10 ^ d

omit [FloorRing K] in
theorem balanced_of_init (h : Init a) : Balanced d a where
  rate := h.rate
  ahead := by
    rw [h.paid, Account.price, h.used, zero_mul, sub_zero]
    positivity

theorem Balanced.use (h : Balanced d a) {amount : K} (hamount : 0 ≤ amount) :
    Balanced d (a.use amount) where
  rate := h.rate
  ahead := by
    have hadded : 0 ≤ amount * a.rate := mul_nonneg hamount h.rate
    have hprice : (a.use amount).price = a.price + amount * a.rate := add_mul _ _ _
    have hpaid : (a.use amount).paid = a.paid := rfl
    have hahead := h.ahead
    rw [hprice, hpaid]
    linarith

/-- A payment settles the account. -/
theorem Balanced.settled_pay (h : Balanced d a) : Settled d (a.pay d) := by
  have hahead := h.ahead
  have hpaid : (a.pay d).paid = a.paid + a.owed d := rfl
  have hprice : (a.pay d).price = a.price := rfl
  -- what is left lies within half a unit, and is no more than half a unit up
  have hrest : (a.pay d).price - (a.pay d).paid < 1 / 2 / 10 ^ d ∧
      |(a.pay d).paid - (a.pay d).price| ≤ 1 / 2 / 10 ^ d := by
    rw [hpaid, hprice, abs_le]
    rcases lt_or_ge (a.price - a.paid) 0 with hneg | hpos
    · -- paid ahead: the payment is zero
      have hhalf : (0 : K) < 1 / 2 / 10 ^ d := by positivity
      have hround : roundTo d (a.price - a.paid) ≤ 0 :=
        roundTo_nonpos_of_lt_half d (hneg.trans hhalf)
      have howed : a.owed d = 0 := max_eq_right hround
      rw [howed]
      refine ⟨by linarith, by linarith, by linarith⟩
    · have howed : a.owed d = roundTo d (a.price - a.paid) := max_eq_left (roundTo_nonneg d hpos)
      have hup := roundTo_sub_le d hpos
      have hdown := sub_roundTo_lt d hpos
      rw [howed]
      refine ⟨by linarith, by linarith, by linarith⟩
  exact ⟨max_eq_right (roundTo_nonpos_of_lt_half d hrest.1), hrest.2⟩

theorem Balanced.pay (h : Balanced d a) : Balanced d (a.pay d) where
  rate := h.rate
  ahead := (abs_le.mp h.settled_pay.paid).2

/-! ### Runs -/

theorem balanced_step {a' : Account K} {l : Label K} (h : Balanced d a)
    (hnext : next d a l = some a') : Balanced d a' := by
  cases l with
  | use amount =>
    obtain ⟨hamount, heq⟩ := Option.ite_none_right_eq_some.mp hnext
    obtain rfl := Option.some.inj heq
    exact h.use hamount
  | pay =>
    obtain rfl := Option.some.inj hnext
    exact h.pay

/-- However often it was paid, a reachable account is paid at most half a unit
    ahead. -/
theorem balanced_of_reachable (h : (system d).Reachable a) : Balanced d a :=
  System.Reachable.invariant (J := Balanced d) (fun _ hinit => balanced_of_init hinit)
    (fun _ _ _ _ hinv hnext => balanced_step hinv hnext) h

end UsageLedger
