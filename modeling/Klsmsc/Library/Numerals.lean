import Mathlib.Data.List.Basic

/-!
# Numerals

The digits that `Nat.toDigits` writes, read back with any function that knows the value of each
digit, and the decimal numbers that `toString` writes.
-/

namespace Klsmsc.Library

variable {base : ℕ}

/-- A property of the digits below the base is a property of the digits of every number. -/
theorem forall_mem_toDigits {property : Char → Prop} (positional : 1 < base)
    (digits : ∀ digit < base, property (Nat.digitChar digit)) (number : ℕ) :
    ∀ char ∈ Nat.toDigits base number, property char := by
  induction number using Nat.strongRecOn with
  | ind number ih =>
      intro char member
      by_cases small : number < base
      · rw [Nat.toDigits_of_lt_base small, List.mem_singleton] at member
        rw [member]
        exact digits number small
      · have large : base ≤ number := by omega
        rw [Nat.toDigits_of_base_le positional large, List.mem_append,
          List.mem_singleton] at member
        rcases member with higher | last
        · exact ih _ (Nat.div_lt_self (by omega) positional) char higher
        · rw [last]
          exact digits _ (Nat.mod_lt _ (by omega))

/-- Reading the digits of a number gives the number. -/
theorem foldl_toDigits {value : Char → ℕ} (positional : 1 < base)
    (digits : ∀ digit < base, value (Nat.digitChar digit) = digit) (number : ℕ) :
    (Nat.toDigits base number).foldl (fun sum char => sum * base + value char) 0 = number := by
  induction number using Nat.strongRecOn with
  | ind number ih =>
      by_cases small : number < base
      · rw [Nat.toDigits_of_lt_base small]
        simpa using digits number small
      · have large : base ≤ number := by omega
        rw [Nat.toDigits_of_base_le positional large, List.foldl_append,
          ih _ (Nat.div_lt_self (by omega) positional)]
        simp only [List.foldl_cons, List.foldl_nil, digits _ (Nat.mod_lt _ (by omega))]
        exact Nat.div_add_mod' number base

theorem toList_toString (number : ℕ) : (toString number).toList = Nat.toDigits 10 number :=
  Nat.toList_repr

theorem toString_digits {number : ℕ} {char : Char} (member : char ∈ (toString number).toList) :
    char.isDigit = true := by
  rw [toList_toString] at member
  exact Nat.isDigit_of_mem_toDigits (by decide) (by decide) member

theorem toString_injective {left right : ℕ} (equal : toString left = toString right) :
    left = right := by
  have digits : Nat.toDigits 10 left = Nat.toDigits 10 right := by
    rw [← toList_toString, ← toList_toString, equal]
  have value := congrArg (Nat.ofDigitChars 10 · 0) digits
  simpa only [Nat.ofDigitChars_ten_toDigits] using value

end Klsmsc.Library
