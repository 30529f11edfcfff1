import Mathlib.Algebra.BigOperators.Group.Finset.Basic

/-!
# Weights of numbered records

A system often numbers its records and keeps them in a function from numbers. The
weight of the first so many records is a sum; replacing one record changes it by the
weights of that record alone.
-/

namespace Klsmsc.Library

universe u

variable {Record : Type u}

/-- The sum of the weights of the records below a number. -/
def weight (count : ℕ) (measure : Record → ℕ) (records : ℕ → Record) : ℕ :=
  ∑ index ∈ Finset.range count, measure (records index)

variable (measure : Record → ℕ) (records : ℕ → Record)

@[simp]
theorem weight_zero : weight 0 measure records = 0 := rfl

theorem weight_succ (count : ℕ) :
    weight (count + 1) measure records = weight count measure records + measure (records count) :=
  Finset.sum_range_succ _ _

theorem weight_congr {count : ℕ} {others : ℕ → Record}
    (same : ∀ index < count, measure (others index) = measure (records index)) :
    weight count measure others = weight count measure records :=
  Finset.sum_congr rfl fun index member => same index (Finset.mem_range.mp member)

/-- A record outside does not count. -/
theorem weight_update_of_le {count index : ℕ} (outside : count ≤ index) (record : Record) :
    weight count measure (Function.update records index record) =
      weight count measure records := by
  refine weight_congr measure records ?_
  intro other inside
  rw [Function.update_of_ne (by omega)]

/-- Replacing a record exchanges its weight for the new one. -/
theorem weight_update {count index : ℕ} (inside : index < count) (record : Record) :
    weight count measure (Function.update records index record) + measure (records index) =
      weight count measure records + measure record := by
  induction count with
  | zero => omega
  | succ count ih =>
      rw [weight_succ, weight_succ]
      by_cases last : index = count
      · subst index
        rw [weight_update_of_le measure records (Nat.le_refl _), Function.update_self]
        omega
      · have before := ih (by omega)
        rw [Function.update_of_ne (Ne.symm last)]
        omega

theorem weight_update_of_eq {count index : ℕ} {record : Record}
    (same : measure record = measure (records index)) :
    weight count measure (Function.update records index record) =
      weight count measure records := by
  refine weight_congr measure records ?_
  intro other _
  by_cases isIndex : other = index
  · subst other
    simpa using same
  · rw [Function.update_of_ne isIndex]

theorem le_weight {count index : ℕ} (inside : index < count) :
    measure (records index) ≤ weight count measure records := by
  induction count with
  | zero => omega
  | succ count ih =>
      rw [weight_succ]
      by_cases last : index = count
      · subst index
        omega
      · have before := ih (by omega)
        omega

end Klsmsc.Library
