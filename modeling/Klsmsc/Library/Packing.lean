import Mathlib.Data.List.Basic
import Mathlib.Algebra.BigOperators.Group.List.Basic
import Mathlib.Algebra.GroupWithZero.Nat

/-!
# Greedy packing

Entries with weights are put into bins of a fixed capacity, in their order: an
entry opens a new bin when it no longer fits into the current one. What is free
in a bin when the next one is opened is lost. So the number of bins is what the
total weight and the loss fill together, and it is what the total weight alone
would fill exactly when the last of those bins has room for the loss. No other way
to put the entries into bins in their order takes fewer.
-/

namespace Klsmsc.Library

universe u

variable {Entry : Type u} (weight : Entry → ℕ) (capacity : ℕ)

/-- The bins from a current bin on, which holds some entries of a known weight. -/
def packFrom : List Entry → (current : List Entry) → (used : ℕ) → List (List Entry)
  | [], current, used => if 0 < used then [current] else []
  | entry :: entries, current, used =>
      if 0 < used ∧ capacity < used + weight entry then
        current :: packFrom entries [entry] (weight entry)
      else packFrom entries (current ++ [entry]) (used + weight entry)

/-- The bins of a list of entries. -/
def pack (entries : List Entry) : List (List Entry) :=
  packFrom weight capacity entries [] 0

/-- What is lost where an entry does not fit, from a current bin on. -/
def lostFrom : List Entry → (used : ℕ) → ℕ
  | [], _ => 0
  | entry :: entries, used =>
      if 0 < used ∧ capacity < used + weight entry then
        capacity - used + lostFrom entries (weight entry)
      else lostFrom entries (used + weight entry)

/-- What is lost between the bins of a list of entries. -/
def lost (entries : List Entry) : ℕ :=
  lostFrom weight capacity entries 0

/-- The weight of all entries. -/
def totalWeight (entries : List Entry) : ℕ :=
  (entries.map weight).sum

variable {weight capacity}

@[simp]
theorem totalWeight_nil : totalWeight weight [] = 0 := rfl

@[simp]
theorem totalWeight_cons (entry : Entry) (entries : List Entry) :
    totalWeight weight (entry :: entries) = weight entry + totalWeight weight entries := by
  simp [totalWeight]

@[simp]
theorem totalWeight_append (left right : List Entry) :
    totalWeight weight (left ++ right) = totalWeight weight left + totalWeight weight right := by
  simp [totalWeight]

theorem length_packFrom (entries : List Entry) (current : List Entry) (used : ℕ)
    (fits : ∀ entry ∈ entries, 0 < weight entry ∧ weight entry ≤ capacity)
    (opened : 0 < used) (within : used ≤ capacity) :
    (packFrom weight capacity entries current used).length =
      (used + totalWeight weight entries + lostFrom weight capacity entries used +
        (capacity - 1)) / capacity := by
  induction entries generalizing current used with
  | nil =>
      have one : (used + (capacity - 1)) / capacity = 1 := by
        apply Nat.div_eq_of_lt_le
        · omega
        · omega
      simp [packFrom, lostFrom, opened, one]
  | cons entry entries ih =>
      rw [List.forall_mem_cons] at fits
      rcases fits with ⟨fitsEntry, fitsRest⟩
      by_cases beyond : capacity < used + weight entry
      · have next := ih [entry] (weight entry) fitsRest fitsEntry.1 fitsEntry.2
        simp only [packFrom, lostFrom, opened, beyond, and_self, if_true, List.length_cons, next,
          totalWeight_cons]
        have regroup : used + (weight entry + totalWeight weight entries) +
            (capacity - used + lostFrom weight capacity entries (weight entry)) +
              (capacity - 1) =
            weight entry + totalWeight weight entries +
              lostFrom weight capacity entries (weight entry) + (capacity - 1) + capacity := by
          omega
        rw [regroup, Nat.add_div_right _ (by omega)]
      · have next := ih (current ++ [entry]) (used + weight entry) fitsRest (by omega) (by omega)
        simp only [packFrom, lostFrom, beyond, and_false, if_false, next, totalWeight_cons,
          Nat.add_assoc]

/-- The total weight and the loss fill the bins. -/
theorem length_pack (entries : List Entry)
    (fits : ∀ entry ∈ entries, 0 < weight entry ∧ weight entry ≤ capacity) :
    (pack weight capacity entries).length =
      (totalWeight weight entries + lost weight capacity entries + (capacity - 1)) / capacity := by
  cases entries with
  | nil =>
      cases capacity with
      | zero => simp [pack, packFrom, lost, lostFrom]
      | succ bound =>
          have none : bound / (bound + 1) = 0 := Nat.div_eq_of_lt (Nat.lt_succ_self bound)
          simp [pack, packFrom, lost, lostFrom, none]
  | cons entry entries =>
      rw [List.forall_mem_cons] at fits
      rcases fits with ⟨fitsEntry, fitsRest⟩
      have rest := length_packFrom entries [entry] (weight entry) fitsRest fitsEntry.1 fitsEntry.2
      simpa [pack, packFrom, lost, lostFrom] using rest

theorem totalWeight_pos {entries : List Entry} (positive : ∀ entry ∈ entries, 0 < weight entry)
    (some : entries ≠ []) : 0 < totalWeight weight entries := by
  cases entries with
  | nil => contradiction
  | cons entry entries =>
      have first := positive entry (List.mem_cons_self ..)
      rw [totalWeight_cons]
      omega

/-- Entries need a bin. -/
theorem pack_ne_nil {entries : List Entry}
    (fits : ∀ entry ∈ entries, 0 < weight entry ∧ weight entry ≤ capacity)
    (some : entries ≠ []) : pack weight capacity entries ≠ [] := by
  have total := totalWeight_pos (fun entry member => (fits entry member).1) some
  have room : 0 < capacity := by
    cases entries with
    | nil => contradiction
    | cons entry entries =>
        have first := fits entry (List.mem_cons_self ..)
        omega
  rw [← List.length_pos_iff, length_pack entries fits]
  apply Nat.div_pos
  · omega
  · exact room

/-- Adding to a positive number does not need one more bin exactly when the last bin
has room. -/
theorem ceil_add_eq_iff {total extra : ℕ} (positive : 0 < total) (room : 0 < capacity) :
    (total + extra + (capacity - 1)) / capacity = (total + (capacity - 1)) / capacity ↔
      (total - 1) % capacity + extra < capacity := by
  obtain ⟨before, rfl⟩ : ∃ before, total = before + 1 := ⟨total - 1, by omega⟩
  have left : before + 1 + extra + (capacity - 1) = before + extra + capacity := by omega
  have right : before + 1 + (capacity - 1) = before + capacity := by omega
  rw [left, right, Nat.add_div_right _ room, Nat.add_div_right _ room, Nat.add_sub_cancel]
  have split := Nat.div_add_mod before capacity
  have below := Nat.mod_lt before room
  constructor
  · intro equal
    have bound := Nat.lt_succ_iff.mpr (Nat.le_of_eq (Nat.succ.inj equal))
    rw [Nat.div_lt_iff_lt_mul room, Nat.succ_mul, Nat.mul_comm] at bound
    omega
  · intro fitting
    have same : (before + extra) / capacity = before / capacity := by
      apply Nat.div_eq_of_lt_le
      · rw [Nat.mul_comm]
        omega
      · rw [Nat.succ_mul, Nat.mul_comm]
        omega
    rw [same]

/-- The bins are as many as the total weight alone would fill exactly when the last of
them has room for the loss. -/
theorem length_pack_eq_iff {entries : List Entry}
    (fits : ∀ entry ∈ entries, 0 < weight entry ∧ weight entry ≤ capacity)
    (some : 0 < totalWeight weight entries) (room : 0 < capacity) :
    (pack weight capacity entries).length =
        (totalWeight weight entries + (capacity - 1)) / capacity ↔
      (totalWeight weight entries - 1) % capacity + lost weight capacity entries < capacity := by
  rw [length_pack entries fits, ceil_add_eq_iff some room]

/-- Counting in smaller units changes nothing. -/
theorem packFrom_mul {factor : ℕ} (positive : 0 < factor) (entries current : List Entry)
    (used : ℕ) :
    packFrom (fun entry => factor * weight entry) (factor * capacity) entries current
      (factor * used) = packFrom weight capacity entries current used := by
  induction entries generalizing current used with
  | nil => simp [packFrom, positive]
  | cons entry entries ih =>
      have opened : 0 < factor * used ↔ 0 < used := by simp [positive]
      have beyond : factor * capacity < factor * (used + weight entry) ↔
          capacity < used + weight entry := Nat.mul_lt_mul_left positive
      simp only [packFrom, ← Nat.mul_add, opened, beyond, ih]

/-! ### The bins hold the entries -/

theorem flatten_packFrom (entries current : List Entry) (used : ℕ)
    (fits : ∀ entry ∈ entries, 0 < weight entry) (opened : used = 0 → current = []) :
    (packFrom weight capacity entries current used).flatten = current ++ entries := by
  induction entries generalizing current used with
  | nil =>
      rw [packFrom]
      split
      · simp
      · rename_i empty
        simp [opened (by omega)]
  | cons entry entries ih =>
      rw [List.forall_mem_cons] at fits
      rw [packFrom]
      split
      · rw [List.flatten_cons, ih [entry] _ fits.2 (by omega), List.singleton_append]
      · rw [ih _ _ fits.2 (by omega), List.append_assoc, List.singleton_append]

theorem mem_packFrom {entries current : List Entry} {used : ℕ}
    (fits : ∀ entry ∈ entries, 0 < weight entry ∧ weight entry ≤ capacity)
    (counted : totalWeight weight current = used) (within : used ≤ capacity) {bin : List Entry}
    (member : bin ∈ packFrom weight capacity entries current used) :
    0 < totalWeight weight bin ∧ totalWeight weight bin ≤ capacity := by
  induction entries generalizing current used with
  | nil =>
      rw [packFrom] at member
      split at member
      · rw [List.mem_singleton] at member
        subst member
        omega
      · cases member
  | cons entry entries ih =>
      rw [List.forall_mem_cons] at fits
      rcases fits with ⟨fitsEntry, fitsRest⟩
      rw [packFrom] at member
      split at member
      · rcases List.mem_cons.mp member with rfl | later
        · omega
        · exact ih fitsRest (by simp) fitsEntry.2 later
      · exact ih fitsRest (by simp [counted]) (by omega) member

/-- Packing loses no entry and keeps the order. -/
theorem flatten_pack {entries : List Entry} (fits : ∀ entry ∈ entries, 0 < weight entry) :
    (pack weight capacity entries).flatten = entries := by
  rw [pack, flatten_packFrom entries [] 0 fits fun _ => rfl, List.nil_append]

/-- Every bin holds something, and no more than its capacity. -/
theorem mem_pack {entries : List Entry}
    (fits : ∀ entry ∈ entries, 0 < weight entry ∧ weight entry ≤ capacity) {bin : List Entry}
    (member : bin ∈ pack weight capacity entries) :
    0 < totalWeight weight bin ∧ totalWeight weight bin ≤ capacity :=
  mem_packFrom fits totalWeight_nil (Nat.zero_le _) member

/-! ### No other way takes fewer bins -/

/-- The first of the other bins has room for what the current bin holds. Either both take the next
entry, or the other one goes on with its next bin: then packing has used a part of that bin already
or opens one with it. -/
theorem length_packFrom_le {entries : List Entry} (current first : List Entry) {used : ℕ}
    {bins : List (List Entry)} (positive : ∀ entry ∈ entries, 0 < weight entry)
    (whole : entries = first ++ bins.flatten) (opened : 0 < used)
    (room : used + totalWeight weight first ≤ capacity)
    (within : ∀ bin ∈ bins, totalWeight weight bin ≤ capacity) :
    (packFrom weight capacity entries current used).length ≤ bins.length + 1 := by
  induction entries generalizing current first used bins with
  | nil =>
      rw [packFrom, if_pos opened, List.length_singleton]
      omega
  | cons entry entries ih =>
      rw [List.forall_mem_cons] at positive
      rcases positive with ⟨positiveEntry, positiveRest⟩
      cases first with
      | cons head first =>
          rw [List.cons_append, List.cons.injEq] at whole
          rcases whole with ⟨rfl, whole⟩
          rw [totalWeight_cons] at room
          rw [packFrom, if_neg (by omega)]
          exact ih _ first positiveRest whole (by omega) (by omega) within
      | nil =>
          rw [totalWeight_nil] at room
          rw [List.nil_append] at whole
          induction bins with
          | nil => cases whole
          | cons bin bins ihBins =>
              rw [List.forall_mem_cons] at within
              cases bin with
              | nil => exact Nat.le_succ_of_le (ihBins within.2 whole)
              | cons head bin =>
                  rw [List.flatten_cons, List.cons_append, List.cons.injEq] at whole
                  rcases whole with ⟨rfl, whole⟩
                  have fits := within.1
                  rw [totalWeight_cons] at fits
                  rw [packFrom]
                  split
                  · exact Nat.succ_le_succ (ih _ bin positiveRest whole positiveEntry fits within.2)
                  · have bounded : ∀ other ∈ bin :: bins, totalWeight weight other ≤ capacity :=
                      List.forall_mem_cons.mpr ⟨by omega, within.2⟩
                    have later : entries = [] ++ (bin :: bins).flatten := whole
                    have stillOpen : 0 < used + weight entry := by omega
                    have fewest := ih (current ++ [entry]) [] positiveRest later stillOpen
                      (by rw [totalWeight_nil]; omega) bounded
                    exact fewest

/-- Packing takes the fewest bins among all divisions of the entries that respect the capacity. -/
theorem length_pack_le {entries : List Entry} {bins : List (List Entry)}
    (positive : ∀ entry ∈ entries, 0 < weight entry) (whole : bins.flatten = entries)
    (within : ∀ bin ∈ bins, totalWeight weight bin ≤ capacity) :
    (pack weight capacity entries).length ≤ bins.length := by
  subst whole
  induction bins with
  | nil => simp [pack, packFrom]
  | cons bin bins ih =>
      rw [List.forall_mem_cons] at within
      cases bin with
      | nil => exact Nat.le_succ_of_le (ih within.2 positive)
      | cons entry bin =>
          have fits := within.1
          rw [totalWeight_cons] at fits
          rw [List.flatten_cons, List.cons_append, List.forall_mem_cons] at positive
          rw [pack, List.flatten_cons, List.cons_append, packFrom, if_neg (by omega)]
          exact length_packFrom_le _ bin positive.2 rfl (by omega) (by omega) within.2

end Klsmsc.Library
