import Mathlib.Data.List.Basic

/-!
# Slices of a list

Batch programs walk through a list in slices of a fixed width: the elements
from `offset` up to `offset + width`, for every multiple `offset` of the width.
The recursion carries a bound on the number of slices, which the length of the
list always provides.
-/

namespace Klsmsc.Library

universe u

variable {α : Type u}

/-- At most `bound` slices of the given width, from the front of the list. -/
def slicesUpTo (width : ℕ) : ℕ → List α → List (List α)
  | 0, _ => []
  | _ + 1, [] => []
  | bound + 1, entry :: entries =>
      (entry :: entries).take width ::
        slicesUpTo width bound ((entry :: entries).drop width)

/-- The slices `entries[offset : offset + width]` in the order of their offsets. -/
def slices (width : ℕ) (entries : List α) : List (List α) :=
  slicesUpTo width entries.length entries

@[simp]
theorem slices_nil (width : ℕ) : slices width ([] : List α) = [] := rfl

theorem flatten_slicesUpTo {width : ℕ} (positive : 0 < width) (bound : ℕ) (entries : List α)
    (enough : entries.length ≤ bound) :
    (slicesUpTo width bound entries).flatten = entries := by
  induction bound generalizing entries with
  | zero => simp_all [slicesUpTo]
  | succ bound ih =>
      cases entries with
      | nil => simp [slicesUpTo]
      | cons entry entries =>
          have shorter : ((entry :: entries).drop width).length ≤ bound := by
            simp only [List.length_drop, List.length_cons] at enough ⊢
            omega
          simp only [slicesUpTo, List.flatten_cons, ih _ shorter, List.take_append_drop]

/-- Cutting a list into slices loses no element and keeps the order. -/
@[simp]
theorem flatten_slices {width : ℕ} (positive : 0 < width) (entries : List α) :
    (slices width entries).flatten = entries :=
  flatten_slicesUpTo positive entries.length entries (Nat.le_refl _)

theorem mem_of_mem_slicesUpTo {width bound : ℕ} {entries slice : List α}
    (isSlice : slice ∈ slicesUpTo width bound entries) {entry : α} (member : entry ∈ slice) :
    entry ∈ entries := by
  induction bound generalizing entries with
  | zero => simp [slicesUpTo] at isSlice
  | succ bound ih =>
      cases entries with
      | nil => simp [slicesUpTo] at isSlice
      | cons head tail =>
          rcases List.mem_cons.mp isSlice with rfl | later
          · exact List.mem_of_mem_take member
          · exact List.mem_of_mem_drop (ih later)

/-- A slice holds elements of the list. -/
theorem mem_of_mem_slices {width : ℕ} {entries slice : List α}
    (isSlice : slice ∈ slices width entries) {entry : α} (member : entry ∈ slice) :
    entry ∈ entries :=
  mem_of_mem_slicesUpTo isSlice member

/-- The bound does not matter as long as it is large enough. -/
theorem slicesUpTo_congr {width : ℕ} (positive : 0 < width) {left right : ℕ} {entries : List α}
    (enough : entries.length ≤ left) (enough' : entries.length ≤ right) :
    slicesUpTo width left entries = slicesUpTo width right entries := by
  induction left generalizing right entries with
  | zero =>
      have none : entries = [] := by simpa using enough
      subst none
      cases right <;> rfl
  | succ left ih =>
      cases entries with
      | nil => cases right <;> rfl
      | cons entry entries =>
          cases right with
          | zero => simp at enough'
          | succ right =>
              have shorter : ((entry :: entries).drop width).length ≤ entries.length := by
                simp only [List.length_drop, List.length_cons]
                omega
              simp only [List.length_cons] at enough enough'
              simp only [slicesUpTo]
              rw [ih (by omega) (by omega : _ ≤ right)]

/-- A full slice in front of the others. -/
theorem slices_append {width : ℕ} (positive : 0 < width) {slice : List α}
    (full : slice.length = width) (rest : List α) :
    slices width (slice ++ rest) = slice :: slices width rest := by
  cases slice with
  | nil => simp at full; omega
  | cons entry entries =>
      have taken : (entry :: entries ++ rest).take width = entry :: entries := by
        rw [← full, List.take_left]
      have left : (entry :: entries ++ rest).drop width = rest := by
        rw [← full, List.drop_left]
      rw [slices, List.length_append, List.length_cons, Nat.add_right_comm, List.cons_append,
        slicesUpTo, ← List.cons_append, taken, left]
      rw [slicesUpTo_congr positive (by omega) (Nat.le_refl rest.length)]
      rfl

/-- A list that fills no slice is a slice by itself. -/
theorem slices_of_short {width : ℕ} {entries : List α} (some : entries ≠ [])
    (short : entries.length ≤ width) : slices width entries = [entries] := by
  cases entries with
  | nil => exact absurd rfl some
  | cons entry entries =>
      have none : (entry :: entries).drop width = [] := List.drop_eq_nil_of_le short
      rw [slices, List.length_cons, slicesUpTo, List.take_of_length_le short, none]
      cases entries.length <;> rfl

theorem ne_nil_of_mem_slicesUpTo {width : ℕ} (positive : 0 < width) (bound : ℕ)
    {entries slice : List α} (member : slice ∈ slicesUpTo width bound entries) : slice ≠ [] := by
  induction bound generalizing entries with
  | zero => simp [slicesUpTo] at member
  | succ bound ih =>
      cases entries with
      | nil => simp [slicesUpTo] at member
      | cons entry entries =>
          simp only [slicesUpTo, List.mem_cons] at member
          rcases member with rfl | later
          · simp [List.take_eq_nil_iff]
            omega
          · exact ih later

theorem ne_nil_of_mem_slices {width : ℕ} (positive : 0 < width) {entries slice : List α}
    (member : slice ∈ slices width entries) : slice ≠ [] :=
  ne_nil_of_mem_slicesUpTo positive entries.length member

/-- The first slice and the slices of the rest. -/
theorem slices_of_ne_nil {width : ℕ} (positive : 0 < width) {entries : List α}
    (some : entries ≠ []) :
    slices width entries = entries.take width :: slices width (entries.drop width) := by
  cases entries with
  | nil => exact absurd rfl some
  | cons entry entries =>
      have shorter : ((entry :: entries).drop width).length ≤ entries.length := by
        simp only [List.length_drop, List.length_cons]
        omega
      rw [slices, List.length_cons, slicesUpTo]
      rw [slicesUpTo_congr positive shorter (Nat.le_refl _)]
      rfl

/-- The slices by the offsets at which they start. -/
theorem slices_eq_map_range {width : ℕ} (positive : 0 < width) (entries : List α) :
    slices width entries =
      (List.range ((entries.length + width - 1) / width)).map fun index =>
        (entries.drop (index * width)).take width := by
  induction size : entries.length using Nat.strongRecOn generalizing entries with
  | _ size ih =>
      subst size
      cases entries with
      | nil =>
          have none : (0 + width - 1) / width = 0 := Nat.div_eq_of_lt (by omega)
          rw [List.length_nil, none]
          rfl
      | cons entry rest =>
          have shorter : ((entry :: rest).drop width).length < (entry :: rest).length := by
            simp only [List.length_drop, List.length_cons]
            omega
          have count : ((entry :: rest).length + width - 1) / width =
              (((entry :: rest).drop width).length + width - 1) / width + 1 := by
            have nonempty : 0 < (entry :: rest).length := Nat.succ_pos _
            rw [List.length_drop]
            generalize (entry :: rest).length = length at nonempty
            by_cases full : width ≤ length
            · rw [← Nat.add_div_right _ positive]
              congr 1
              omega
            · have none : (length - width + width - 1) / width = 0 := Nat.div_eq_of_lt (by omega)
              rw [none]
              exact Nat.div_eq_of_lt_le (by omega) (by omega)
          rw [slices_of_ne_nil positive (List.cons_ne_nil _ _), ih _ shorter _ rfl, count,
            List.range_succ_eq_map, List.map_cons, List.map_map, Nat.zero_mul, List.drop_zero]
          congr 1
          refine List.map_congr_left ?_
          intro index _
          simp only [Function.comp_apply, List.drop_drop, Nat.succ_mul]
          rw [Nat.add_comm]

end Klsmsc.Library
