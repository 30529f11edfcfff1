import Mathlib.Data.List.Basic
import Mathlib.Logic.Function.Basic

/-!
# Slices over backing arrays

A slice is a window on an array: where it starts, how many entries it has, and how many fit behind
its start. Appending writes into the array while there is room and copies the entries into a new
one when there is none; cutting the first entry off only moves the window; and filtering in place
writes the entries that are kept over the ones that were read. What a slice holds after an operation
is a fact about lists. Where each slice of a family has an array for itself, that is so after every
operation on one of them, and the others hold what they held.
-/

namespace Klsmsc.Library

universe u v

/-- Arrays by their number. The ones from `allocated` on are not in use. -/
structure Arrays (α : Type u) where
  cell : ℕ → ℕ → α
  allocated : ℕ

/-- A window on an array. -/
structure Slice where
  array : ℕ
  offset : ℕ
  length : ℕ
  capacity : ℕ
  deriving DecidableEq, Repr

/-- The slice without its first entry. -/
def Slice.tail (slice : Slice) : Slice :=
  ⟨slice.array, slice.offset + 1, slice.length - 1, slice.capacity - 1⟩

/-- The slice with its first entries only. -/
def Slice.first (slice : Slice) (length : ℕ) : Slice :=
  { slice with length := length }

/-- The slice that needs no array. -/
def Slice.nil : Slice :=
  ⟨0, 0, 0, 0⟩

/-- The slice has room for its entries, in an array that is in use. -/
structure Slice.Fits {α : Type u} (arrays : Arrays α) (slice : Slice) : Prop where
  room : slice.length ≤ slice.capacity
  inUse : 0 < slice.capacity → slice.array < arrays.allocated

namespace Arrays

variable {α : Type u} (arrays : Arrays α) (slice : Slice)

/-- The entries of a slice. -/
def entries : List α :=
  (List.range slice.length).map fun index => arrays.cell slice.array (slice.offset + index)

/-- Write a cell. -/
def store (array index : ℕ) (entry : α) : Arrays α :=
  { arrays with
    cell := Function.update arrays.cell array (Function.update (arrays.cell array) index entry) }

/-- A new array with the entries of a slice and one more. -/
def grown [Inhabited α] (entry : α) : Arrays α where
  cell := Function.update arrays.cell arrays.allocated fun index =>
    if index < slice.length then arrays.cell slice.array (slice.offset + index)
    else if index = slice.length then entry
    else default
  allocated := arrays.allocated + 1

variable [Inhabited α] (spare : ℕ → ℕ)

/-- Append an entry. A new array gets `spare` more cells than it has entries. -/
def append (entry : α) : Arrays α × Slice :=
  if slice.length < slice.capacity then
    (arrays.store slice.array (slice.offset + slice.length) entry, slice.first (slice.length + 1))
  else
    (arrays.grown slice entry,
      ⟨arrays.allocated, 0, slice.length + 1, slice.length + 1 + spare slice.length⟩)

/-- The loop over the first entries of a slice that appends those that are kept to an empty slice
of the same array. Each entry is read when its turn comes. -/
def keepLoop (keep : α → Bool) (count : ℕ) : Arrays α × Slice :=
  (List.range count).foldl
    (fun state index =>
      let entry := state.1.cell slice.array (slice.offset + index)
      if keep entry then state.1.append state.2 spare entry else state)
    (arrays, slice.first 0)

/-- Filter a slice in place. -/
def keepInPlace (keep : α → Bool) : Arrays α × Slice :=
  arrays.keepLoop slice spare keep slice.length

/-! ### Reading slices -/

omit [Inhabited α] in
@[simp]
theorem length_entries : (arrays.entries slice).length = slice.length := by
  simp [entries]

omit [Inhabited α] in
/-- Slices read what their cells hold. -/
theorem entries_congr {left right : Arrays α}
    (agree : ∀ index, slice.offset ≤ index → index < slice.offset + slice.length →
      left.cell slice.array index = right.cell slice.array index) :
    left.entries slice = right.entries slice := by
  refine List.map_congr_left ?_
  intro index member
  have inside := List.mem_range.mp member
  exact agree _ (Nat.le_add_right _ _) (by omega)

omit [Inhabited α] in
theorem entries_first_succ (length : ℕ) :
    arrays.entries (slice.first (length + 1)) =
      arrays.entries (slice.first length) ++
        [arrays.cell slice.array (slice.offset + length)] := by
  simp [entries, Slice.first, List.range_succ]

omit [Inhabited α] in
theorem entries_tail : arrays.entries slice.tail = (arrays.entries slice).tail := by
  unfold entries Slice.tail
  rcases slice.length with _ | length
  · rfl
  · rw [List.range_succ_eq_map, List.map_cons, List.tail_cons, List.map_map, Nat.add_sub_cancel]
    refine List.map_congr_left ?_
    intro index _
    simp only [Function.comp_apply]
    congr 1
    omega

omit [Inhabited α] in
@[simp]
theorem store_same (array index : ℕ) (entry : α) :
    (arrays.store array index entry).cell array index = entry := by
  simp [store]

omit [Inhabited α] in
theorem store_index {array index other : ℕ} (entry : α) (differs : other ≠ index) :
    (arrays.store array index entry).cell array other = arrays.cell array other := by
  simp [store, differs]

omit [Inhabited α] in
theorem store_array {array other : ℕ} (index : ℕ) (entry : α) (differs : other ≠ array) :
    (arrays.store array index entry).cell other = arrays.cell other := by
  simp [store, differs]

/-! ### Appending -/

theorem entries_append (entry : α) :
    (arrays.append slice spare entry).1.entries (arrays.append slice spare entry).2 =
      arrays.entries slice ++ [entry] := by
  unfold append
  split
  · rw [entries_first_succ]
    congr 1
    · refine entries_congr slice ?_
      intro index _ before
      exact store_index _ _ (by omega)
    · exact congrArg (fun last => [last]) (store_same _ _ _ _)
  · simp only [entries, grown, Function.update_self, Nat.zero_add]
    rw [List.range_succ, List.map_append, List.map_singleton]
    congr 1
    · refine List.map_congr_left ?_
      intro index member
      rw [if_pos (List.mem_range.mp member)]
    · simp

theorem append_fits (entry : α) (fits : slice.Fits arrays) :
    (arrays.append slice spare entry).2.Fits (arrays.append slice spare entry).1 := by
  unfold append
  split
  · exact ⟨by assumption, fits.inUse⟩
  · exact ⟨Nat.le_add_right _ _, fun _ => Nat.lt_succ_self _⟩

theorem allocated_le_append (entry : α) :
    arrays.allocated ≤ (arrays.append slice spare entry).1.allocated := by
  unfold append
  split
  · exact Nat.le_refl _
  · exact Nat.le_succ _

/-- Appending leaves the other arrays that are in use as they were. -/
theorem append_cell (entry : α) {array : ℕ} (inUse : array < arrays.allocated)
    (apart : 0 < slice.capacity → array ≠ slice.array) :
    (arrays.append slice spare entry).1.cell array = arrays.cell array := by
  unfold append
  split
  · rename_i room
    exact store_array _ _ _ (apart (Nat.zero_lt_of_lt room))
  · exact Function.update_of_ne (Nat.ne_of_lt inUse) _ _

/-! ### Filtering in place -/

/-- What the loop has done after some entries: those that are kept stand at the front of the same
array, and everything behind the entries that were read is as it was. -/
structure Kept (keep : α → Bool) (count : ℕ) (after : Arrays α × Slice) : Prop where
  slice_eq : ∃ length ≤ count, after.2 = slice.first length
  entries_eq : after.1.entries after.2 = (arrays.entries (slice.first count)).filter keep
  behind : ∀ index, slice.offset + count ≤ index →
    after.1.cell slice.array index = arrays.cell slice.array index
  apart : ∀ array, array ≠ slice.array → after.1.cell array = arrays.cell array
  allocated : after.1.allocated = arrays.allocated

variable {arrays slice}

theorem Kept.next {keep : α → Bool} {count : ℕ} {after : Arrays α × Slice}
    (kept : arrays.Kept slice keep count after) (room : count < slice.capacity) :
    arrays.Kept slice keep (count + 1)
      (let entry := after.1.cell slice.array (slice.offset + count)
       if keep entry then after.1.append after.2 spare entry else after) := by
  have same := kept.behind _ (Nat.le_refl _)
  obtain ⟨length, short, isFirst⟩ := kept.slice_eq
  have entries := kept.entries_eq
  dsimp only
  rw [same]
  by_cases keeps : keep (arrays.cell slice.array (slice.offset + count)) = true
  · have inPlace : after.1.append after.2 spare (arrays.cell slice.array (slice.offset + count)) =
        (after.1.store slice.array (slice.offset + length)
          (arrays.cell slice.array (slice.offset + count)), slice.first (length + 1)) := by
      have roomy : (slice.first length).length < (slice.first length).capacity := by
        change length < slice.capacity
        omega
      rw [append, isFirst, if_pos roomy]
      rfl
    have appended := entries_append after.1 after.2 spare
      (arrays.cell slice.array (slice.offset + count))
    rw [if_pos keeps]
    refine ⟨?_, ?_, ?_, ?_, ?_⟩
    · exact ⟨length + 1, Nat.succ_le_succ short, by rw [inPlace]⟩
    · rw [appended, entries, entries_first_succ, List.filter_append, List.filter_singleton, keeps]
      rfl
    · intro index behind
      rw [inPlace]
      exact (store_index _ _ (by omega)).trans (kept.behind index (by omega))
    · intro array differs
      rw [inPlace]
      exact (store_array _ _ _ differs).trans (kept.apart array differs)
    · rw [inPlace]
      exact kept.allocated
  · rw [if_neg keeps]
    refine ⟨⟨length, Nat.le_succ_of_le short, isFirst⟩, ?_, ?_, kept.apart, kept.allocated⟩
    · rw [entries, entries_first_succ, List.filter_append, List.filter_singleton,
        eq_false_of_ne_true keeps]
      simp
    · intro index behind
      exact kept.behind index (by omega)

/-- The loop keeps its invariant up to the length of the slice. -/
theorem keepLoop_kept (keep : α → Bool) {count : ℕ} (room : count ≤ slice.capacity) :
    arrays.Kept slice keep count (arrays.keepLoop slice spare keep count) := by
  induction count with
  | zero =>
      exact ⟨⟨0, Nat.le_refl 0, rfl⟩, rfl, fun _ _ => rfl, fun _ _ => rfl, rfl⟩
  | succ count ih =>
      rw [keepLoop, List.range_succ, List.foldl_append]
      exact (ih (Nat.le_of_succ_le room)).next spare room

theorem keepInPlace_kept (keep : α → Bool) (fits : slice.Fits arrays) :
    arrays.Kept slice keep slice.length (arrays.keepInPlace slice spare keep) :=
  keepLoop_kept spare keep fits.room

theorem entries_keepInPlace (keep : α → Bool) (fits : slice.Fits arrays) :
    (arrays.keepInPlace slice spare keep).1.entries (arrays.keepInPlace slice spare keep).2 =
      (arrays.entries slice).filter keep :=
  (keepInPlace_kept spare keep fits).entries_eq

theorem keepInPlace_fits (keep : α → Bool) (fits : slice.Fits arrays) :
    (arrays.keepInPlace slice spare keep).2.Fits (arrays.keepInPlace slice spare keep).1 := by
  have kept := keepInPlace_kept spare keep fits
  obtain ⟨length, short, isFirst⟩ := kept.slice_eq
  have room := fits.room
  refine ⟨?_, ?_⟩
  · rw [isFirst]
    exact Nat.le_trans short room
  · rw [isFirst, kept.allocated]
    exact fits.inUse

/-! ### Families of slices -/

variable {Key : Type v}

/-- Each slice of a family has an array for itself. -/
structure Separate (arrays : Arrays α) (slices : Key → Slice) : Prop where
  fits : ∀ key, (slices key).Fits arrays
  apart : ∀ key other, key ≠ other → 0 < (slices key).capacity → 0 < (slices other).capacity →
    (slices key).array ≠ (slices other).array

namespace Separate

variable {slices : Key → Slice} [DecidableEq Key]

omit [Inhabited α] in
/-- One slice is replaced by one in the same array, or in a new one. -/
theorem update (separate : arrays.Separate slices) (key : Key) {after : Arrays α} {slice : Slice}
    (kept : arrays.allocated ≤ after.allocated) (fits : slice.Fits after)
    (array : 0 < slice.capacity →
      (0 < (slices key).capacity ∧ slice.array = (slices key).array) ∨
        arrays.allocated ≤ slice.array) :
    after.Separate (Function.update slices key slice) := by
  have free : ∀ other, other ≠ key → 0 < slice.capacity → 0 < (slices other).capacity →
      slice.array ≠ (slices other).array := by
    intro other differs some used
    rcases array some with ⟨before, same⟩ | new
    · rw [same]
      exact separate.apart key other (Ne.symm differs) before used
    · exact Nat.ne_of_gt (Nat.lt_of_lt_of_le ((separate.fits other).inUse used) new)
  refine ⟨?_, ?_⟩
  · intro other
    by_cases same : other = key
    · subst other
      rw [Function.update_self]
      exact fits
    · rw [Function.update_of_ne same]
      exact ⟨(separate.fits other).room,
        fun used => Nat.lt_of_lt_of_le ((separate.fits other).inUse used) kept⟩
  · intro first second differs
    by_cases isFirst : first = key
    · subst first
      rw [Function.update_self, Function.update_of_ne (Ne.symm differs)]
      exact free second (Ne.symm differs)
    · rw [Function.update_of_ne isFirst]
      by_cases isSecond : second = key
      · subst second
        rw [Function.update_self]
        exact fun used some => Ne.symm (free first isFirst some used)
      · rw [Function.update_of_ne isSecond]
        exact separate.apart first second differs

omit [Inhabited α] [DecidableEq Key] in
/-- A slice reads the same where its array is as it was. -/
theorem entries_other (separate : arrays.Separate slices) {after : Arrays α} {other : Key}
    (same : 0 < (slices other).capacity →
      after.cell (slices other).array = arrays.cell (slices other).array) :
    after.entries (slices other) = arrays.entries (slices other) := by
  refine entries_congr _ ?_
  intro index low high
  have room := (separate.fits other).room
  rw [same (by omega)]

theorem append (separate : arrays.Separate slices) (key : Key) (entry : α) :
    (arrays.append (slices key) spare entry).1.Separate
      (Function.update slices key (arrays.append (slices key) spare entry).2) := by
  refine separate.update key (allocated_le_append _ _ _ _)
    (append_fits _ _ _ _ (separate.fits key)) ?_
  intro _
  unfold Arrays.append
  split
  · rename_i room
    exact Or.inl ⟨Nat.zero_lt_of_lt room, rfl⟩
  · exact Or.inr (Nat.le_refl _)

omit [DecidableEq Key] in
theorem entries_append_other (separate : arrays.Separate slices) {key other : Key} (entry : α)
    (differs : other ≠ key) :
    (arrays.append (slices key) spare entry).1.entries (slices other) =
      arrays.entries (slices other) := by
  refine separate.entries_other ?_
  intro used
  exact append_cell _ _ _ _ ((separate.fits other).inUse used)
    (separate.apart other key differs used)

theorem keepInPlace (separate : arrays.Separate slices) (key : Key) (keep : α → Bool) :
    (arrays.keepInPlace (slices key) spare keep).1.Separate
      (Function.update slices key (arrays.keepInPlace (slices key) spare keep).2) := by
  have kept := keepInPlace_kept spare keep (separate.fits key)
  obtain ⟨length, _, isFirst⟩ := kept.slice_eq
  refine separate.update key (Nat.le_of_eq kept.allocated.symm)
    (keepInPlace_fits spare keep (separate.fits key)) ?_
  rw [isFirst]
  exact fun some => Or.inl ⟨some, rfl⟩

omit [DecidableEq Key] in
theorem entries_keepInPlace_other (separate : arrays.Separate slices) {key other : Key}
    (keep : α → Bool) (differs : other ≠ key) :
    (arrays.keepInPlace (slices key) spare keep).1.entries (slices other) =
      arrays.entries (slices other) := by
  have kept := keepInPlace_kept spare keep (separate.fits key)
  refine separate.entries_other ?_
  intro used
  by_cases empty : 0 < (slices key).capacity
  · exact kept.apart _ (separate.apart other key differs used empty)
  · have room := (separate.fits key).room
    have none : (slices key).length = 0 := by omega
    have same : (arrays.keepInPlace (slices key) spare keep).1 = arrays := by
      rw [Arrays.keepInPlace, none]
      rfl
    rw [same]

omit [Inhabited α] in
theorem tail (separate : arrays.Separate slices) (key : Key) :
    arrays.Separate (Function.update slices key (slices key).tail) := by
  have fits := separate.fits key
  have room := fits.room
  refine separate.update key (Nat.le_refl _) ⟨?_, ?_⟩ ?_
  · exact Nat.sub_le_sub_right room 1
  · intro some
    exact fits.inUse (Nat.lt_of_lt_of_le some (Nat.sub_le _ _))
  · intro some
    exact Or.inl ⟨Nat.lt_of_lt_of_le some (Nat.sub_le _ _), rfl⟩

omit [Inhabited α] in
theorem nil (separate : arrays.Separate slices) (key : Key) {after : Arrays α}
    (kept : arrays.allocated ≤ after.allocated) :
    after.Separate (Function.update slices key Slice.nil) :=
  separate.update key kept ⟨Nat.le_refl _, fun some => absurd some (Nat.lt_irrefl _)⟩
    fun some => absurd some (Nat.lt_irrefl _)

end Separate

end Arrays

end Klsmsc.Library
