import Mathlib.Algebra.Order.Group.Unbundled.Int
import Mathlib.Algebra.Group.Nat.Defs

/-!
# Integers in doubles

A double keeps 53 significant bits. An integer that needs more of them is rounded to the nearest
one that does not, and a tie goes to the even significand.
-/

namespace Klsmsc.Library

/-- The natural number that a double keeps of another one. -/
def roundToDouble (number : ℕ) : ℕ :=
  let unit := 2 ^ (number.log2 - 52)
  let quotient := number / unit
  let remainder := number % unit
  if 2 * remainder < unit ∨ 2 * remainder = unit ∧ quotient % 2 = 0 then quotient * unit
  else (quotient + 1) * unit

/-- The integer that a double keeps of another one. -/
def toDouble (number : ℤ) : ℤ :=
  number.sign * roundToDouble number.natAbs

@[simp]
theorem toDouble_zero : toDouble 0 = 0 := rfl

theorem roundToDouble_of_le {number : ℕ} (small : number ≤ 2 ^ 53) :
    roundToDouble number = number := by
  rcases Nat.lt_or_eq_of_le small with below | rfl
  · have bits : number.log2 - 52 = 0 := by
      by_cases zero : number = 0
      · subst zero
        rfl
      · have short := (Nat.log2_lt zero).mpr below
        omega
    simp [roundToDouble, bits, Nat.mod_one]
  · decide

/-- Integers of at most 53 bits are kept. -/
theorem toDouble_of_natAbs_le {number : ℤ} (small : number.natAbs ≤ 2 ^ 53) :
    toDouble number = number := by
  rw [toDouble, roundToDouble_of_le small, Int.sign_mul_natAbs]

end Klsmsc.Library
