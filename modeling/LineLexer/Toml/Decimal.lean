/-!
# Decimal numbers and their size

A number with a fraction or an exponent is stored with 53 significant bits, and the
largest such number is just below `2 ^ 1024`. Main statement: `isTooLarge_iff`, by
which the shortcuts of `Decimal.isTooLarge` for exponents far from zero agree with
the exact comparison.
-/

namespace LineLexer.Toml

/-- The number `digits * 10 ^ exponent`. -/
structure Decimal where
  digits : Nat
  exponent : Int
deriving DecidableEq, Repr

namespace Decimal

/-- Halfway between the largest number of 53 significant bits below `2 ^ 1024` and that power:
from here on, rounding to nearest gives infinity. -/
def roundingLimit : Nat := (Nat.pow 2 54 - 1) * Nat.pow 2 970

/-- Every number with at least this exponent is zero or too large. -/
def exponentLimit : Nat := 309

/-- The number is rounded to infinity. No power of ten is computed that is much longer than the
digits or the limit. -/
def isTooLarge (number : Decimal) : Bool :=
  if number.digits = 0 then false
  else if exponentLimit ≤ number.exponent then true
  else if number.digits.log2 < (-number.exponent).toNat then false
  else roundingLimit * Nat.pow 10 (-number.exponent).toNat ≤
    number.digits * Nat.pow 10 number.exponent.toNat

theorem roundingLimit_pos : 0 < roundingLimit := by
  decide +kernel

theorem roundingLimit_le : roundingLimit ≤ Nat.pow 10 exponentLimit := by
  decide +kernel

/-- A number is too large if it reaches the limit; negative powers are brought to the other side. -/
theorem isTooLarge_iff (number : Decimal) :
    number.isTooLarge = true ↔
      roundingLimit * Nat.pow 10 (-number.exponent).toNat ≤
        number.digits * Nat.pow 10 number.exponent.toNat := by
  obtain ⟨digits, exponent⟩ := number
  have positive : 0 < roundingLimit * Nat.pow 10 (-exponent).toNat :=
    Nat.mul_pos roundingLimit_pos (Nat.pow_pos (by decide))
  have once : Nat.pow 10 0 = 1 := rfl
  simp only [isTooLarge]
  split
  case isTrue zero =>
    subst zero
    rw [Nat.zero_mul]
    exact iff_of_false Bool.false_ne_true (Nat.not_le.mpr positive)
  split
  case isTrue large =>
    have down : (-exponent).toNat = 0 := by omega
    have long : exponentLimit ≤ exponent.toNat := by omega
    have multiple : Nat.pow 10 exponent.toNat ≤ digits * Nat.pow 10 exponent.toNat :=
      Nat.le_mul_of_pos_left _ (by omega)
    have monotone : ∀ {m n : Nat}, m ≤ n → Nat.pow 10 m ≤ Nat.pow 10 n :=
      Nat.pow_le_pow_right (by decide)
    have reached := Nat.le_trans roundingLimit_le (monotone long)
    rw [down, once, Nat.mul_one]
    exact iff_of_true rfl (Nat.le_trans reached multiple)
  split
  case isTrue short =>
    have up : exponent.toNat = 0 := by omega
    have bits : digits < Nat.pow 2 (-exponent).toNat :=
      Nat.lt_of_lt_of_le Nat.lt_log2_self (Nat.pow_le_pow_right (by decide) short)
    have tens : Nat.pow 2 (-exponent).toNat ≤ Nat.pow 10 (-exponent).toNat :=
      Nat.pow_le_pow_left (by decide) _
    have limit : Nat.pow 10 (-exponent).toNat ≤ roundingLimit * Nat.pow 10 (-exponent).toNat :=
      Nat.le_mul_of_pos_left _ roundingLimit_pos
    rw [up, once, Nat.mul_one]
    exact iff_of_false Bool.false_ne_true (by omega)
  case isFalse => exact decide_eq_true_iff

end Decimal

end LineLexer.Toml
