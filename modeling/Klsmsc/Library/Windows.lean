import Klsmsc.Library.Slices

/-!
# Collecting into windows

A batch program walks through its entries and collects them. As soon as a window is full
it passes the window on, under the label of the entry that has filled it; at its end it
passes on what is left, under a label that it has by then. So the windows are the slices
of the entries, and every full one carries the label of its last entry.
-/

namespace Klsmsc.Library

universe u v

variable {Entry : Type u} {Label : Type v}

/-- The windows of some entries and their labels, with the label of the last window when
it is not full. -/
def windows (width : ℕ) (label : Entry → Label) (last : Option Label) (entries : List Entry) :
    List (List Entry × Option Label) :=
  (slices width entries).map fun window =>
    (window, if width ≤ window.length then window.getLast?.map label else last)

/-- The windows that were passed on, and the entries that wait. -/
structure Collector (Entry : Type u) (Label : Type v) where
  passed : List (List Entry × Option Label)
  pending : List Entry

namespace Collector

/-- Nothing is collected. -/
def empty : Collector Entry Label := ⟨[], []⟩

/-- An entry is collected, and passed on with those that wait when the window is full. -/
def take (width : ℕ) (label : Entry → Label) (collector : Collector Entry Label)
    (entry : Entry) : Collector Entry Label :=
  if width ≤ collector.pending.length + 1 then
    ⟨collector.passed ++ [(collector.pending ++ [entry], some (label entry))], []⟩
  else ⟨collector.passed, collector.pending ++ [entry]⟩

/-- What is left is passed on. -/
def finish (last : Option Label) (collector : Collector Entry Label) :
    List (List Entry × Option Label) :=
  if collector.pending = [] then collector.passed
  else collector.passed ++ [(collector.pending, last)]

variable {width : ℕ} {label : Entry → Label}

theorem take_pending (positive : 0 < width) (collector : Collector Entry Label)
    (entry : Entry) :
    (collector.take width label entry).pending.length < width := by
  unfold take
  split
  · exact positive
  · simp only [List.length_append, List.length_singleton]
    omega

/-- A collector that has some entries left to take. -/
theorem finish_foldl (positive : 0 < width) (last : Option Label) (entries : List Entry)
    (collector : Collector Entry Label) (short : collector.pending.length < width) :
    (entries.foldl (take width label) collector).finish last =
      collector.passed ++ windows width label last (collector.pending ++ entries) := by
  induction entries generalizing collector with
  | nil =>
      by_cases none : collector.pending = []
      · simp [none, finish, windows]
      · have notFull : ¬width ≤ collector.pending.length := by omega
        simp [none, finish, windows, slices_of_short none (Nat.le_of_lt short), notFull]
  | cons entry entries ih =>
      rw [List.foldl_cons, ih _ (take_pending positive collector entry)]
      by_cases fills : width ≤ collector.pending.length + 1
      · have full : (collector.pending ++ [entry]).length = width := by
          simp only [List.length_append, List.length_singleton]
          omega
        have first := slices_append positive full entries
        rw [List.append_assoc, List.singleton_append] at first
        simp only [take, fills, if_true, windows, first, List.map_cons, List.nil_append]
        simp [full]
      · simp [take, fills]

/-- Collecting entries one by one passes on their windows. -/
theorem finish_collected (positive : 0 < width) (last : Option Label) (entries : List Entry) :
    (entries.foldl (take width label) empty).finish last = windows width label last entries := by
  rw [finish_foldl positive last entries empty positive]
  simp [empty]

end Collector

/-- The windows hold all entries in their order. -/
theorem flatMap_windows {width : ℕ} (positive : 0 < width) (label : Entry → Label)
    (last : Option Label) (entries : List Entry) :
    (windows width label last entries).flatMap Prod.fst = entries := by
  simp only [windows, List.flatMap_map]
  simpa [List.flatMap_id] using flatten_slices positive entries

theorem pairwise_zipIdx (entries : List Entry) :
    entries.zipIdx.Pairwise fun one two => one.2 < two.2 := by
  rw [← List.pairwise_map, List.zipIdx_map_snd]
  exact List.pairwise_lt_range'

/-- A window is a part of the entries, and carries the last label or that of its last entry. -/
theorem mem_windows {width : ℕ} (positive : 0 < width) {label : Entry → Label}
    {last : Option Label} {entries : List Entry} {window : List Entry × Option Label}
    (isWindow : window ∈ windows width label last entries) :
    window.1.Sublist entries ∧ (window.2 = last ∨
      ∃ filled, window.1.getLast? = some filled ∧ window.2 = some (label filled)) := by
  rcases List.mem_map.mp isWindow with ⟨slice, isSlice, rfl⟩
  have part := List.sublist_flatten_of_mem isSlice
  rw [flatten_slices positive] at part
  refine ⟨part, ?_⟩
  by_cases full : width ≤ slice.length
  · have some : slice ≠ [] := List.ne_nil_of_length_pos (by omega)
    refine Or.inr ⟨slice.getLast some, List.getLast?_eq_some_getLast some, ?_⟩
    simp [full, List.getLast?_eq_some_getLast some]
  · exact Or.inl (by simp [full])

/-- What waits has been taken. -/
theorem Collector.mem_of_mem_pending {width : ℕ} (positive : 0 < width)
    {label : Entry → Label} {entries : List Entry} {entry : Entry}
    (waits : entry ∈ (entries.foldl (Collector.take width label) Collector.empty).pending) :
    entry ∈ entries := by
  have whole := flatMap_windows positive label none entries
  rw [← Collector.finish_collected positive none entries] at whole
  have some : (entries.foldl (Collector.take width label) Collector.empty).pending ≠ [] :=
    List.ne_nil_of_mem waits
  rw [← whole, Collector.finish, if_neg some, List.flatMap_append]
  exact List.mem_append_right _ (by simpa using waits)

theorem mem_of_mem_windows {width : ℕ} (positive : 0 < width) {label : Entry → Label}
    {last : Option Label} {entries : List Entry} {window : List Entry × Option Label}
    (isWindow : window ∈ windows width label last entries) {entry : Entry}
    (member : entry ∈ window.1) : entry ∈ entries := by
  rw [← flatMap_windows positive label last entries]
  exact List.mem_flatMap.mpr ⟨window, isWindow, member⟩

end Klsmsc.Library
