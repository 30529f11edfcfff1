import Mathlib.Algebra.BigOperators.Group.List.Basic
import Mathlib.Algebra.BigOperators.Group.List.Lemmas
import Mathlib.Data.List.Count
import Mathlib.Data.List.Dedup
import Mathlib.Algebra.GroupWithZero.Nat

/-!
# Tallies of grouped records

A table of counts that is kept beside a table of records. The counts are changed by deltas, one for
each group of the records that come or go, and are never negative. Groups may be finer than the keys
of the counts; the counts still change by the number of records, as long as no delta is clamped.
-/

namespace Klsmsc.Library

universe u v w

variable {Record : Type u} {Group : Type v} {Key : Type w}

/-- Pairs of two lists are counted from either side. -/
theorem sum_countP_comm {Left : Type u} {Right : Type v} (related : Left → Right → Prop)
    [∀ left right, Decidable (related left right)] (lefts : List Left) (rights : List Right) :
    (lefts.map fun left => rights.countP fun right => related left right).sum =
      (rights.map fun right => lefts.countP fun left => related left right).sum := by
  induction lefts with
  | nil => simp
  | cons left lefts ih =>
      have one : (rights.countP fun right => related left right) =
          (rights.map fun right => if related left right then 1 else 0).sum := by
        clear ih
        induction rights with
        | nil => rfl
        | cons right rights ih => simp [List.countP_cons, ih, add_comm]
      simp only [List.map_cons, List.sum_cons, List.countP_cons, decide_eq_true_eq,
        List.sum_map_add, ih]
      rw [one, add_comm]

/-- A count that grows record by record. -/
theorem countP_eq_add_sum {before after : Record → Prop} [DecidablePred before]
    [DecidablePred after] {growth : Record → ℕ} {records : List Record}
    (grows : ∀ record ∈ records,
      (if after record then 1 else 0) = (if before record then 1 else 0) + growth record) :
    (records.countP fun record => after record) =
      (records.countP fun record => before record) + (records.map growth).sum := by
  induction records with
  | nil => rfl
  | cons record records ih =>
      have here := grows record List.mem_cons_self
      have rest := ih fun other member => grows other (List.mem_cons_of_mem _ member)
      simp only [List.countP_cons, List.map_cons, List.sum_cons, decide_eq_true_eq]
      omega

/-- A wider condition that holds of no more records than a narrower one is the same condition. -/
theorem of_countP_le {narrow wide : Record → Bool} {records : List Record}
    (within : ∀ record ∈ records, narrow record = true → wide record = true)
    (same : records.countP wide ≤ records.countP narrow) :
    ∀ record ∈ records, wide record = true → narrow record = true := by
  induction records with
  | nil => simp
  | cons record records ih =>
      have below : records.countP narrow ≤ records.countP wide :=
        List.countP_mono_left fun other member => within other (List.mem_cons_of_mem _ member)
      have here := within record List.mem_cons_self
      simp only [List.countP_cons] at same
      intro other member accepted
      rcases List.mem_cons.mp member with rfl | later
      · by_contra refused
        rw [if_pos accepted, if_neg refused] at same
        omega
      · refine ih (fun other member => within other (List.mem_cons_of_mem _ member)) ?_ other
          later accepted
        by_cases counted : narrow record = true
        · rw [if_pos counted, if_pos (here counted)] at same
          omega
        · rw [if_neg counted] at same
          omega

/-- Records are selected by one condition and then by another one. The number of the selected
records and the records that remain are those of a wanted condition just when the first condition
is the wanted one. -/
theorem filtered_twice_iff {first second wanted : Record → Bool} {records : List Record}
    (decides : ∀ record ∈ records, first record = true → second record = wanted record) :
    records.countP first = records.countP wanted ∧
        ((records.filter first).filter second).Perm (records.filter wanted) ↔
      ∀ record ∈ records, first record = wanted record := by
  have narrow : ∀ record ∈ records,
      (second record && first record) = true → wanted record = true := by
    intro record member both
    obtain ⟨remains, selected⟩ := (Bool.and_eq_true _ _).mp both
    rwa [← decides record member selected]
  rw [List.filter_filter]
  constructor
  · rintro ⟨counts, listed⟩
    have remaining : records.countP wanted ≤
        records.countP fun record => second record && first record := by
      rw [List.countP_eq_length_filter, List.countP_eq_length_filter, listed.length_eq]
    have selected : ∀ record ∈ records, wanted record = true → first record = true := by
      intro record member asked
      exact ((Bool.and_eq_true _ _).mp (of_countP_le narrow remaining record member asked)).2
    intro record member
    exact Bool.eq_iff_iff.mpr
      ⟨of_countP_le selected counts.le record member, selected record member⟩
  · intro agree
    have kept : ∀ record ∈ records, (second record && first record) = wanted record := by
      intro record member
      rw [← agree record member]
      cases selected : first record with
      | false => simp
      | true => rw [decides record member selected, ← agree record member, selected]; rfl
    refine ⟨List.countP_congr fun record member => by rw [agree record member], ?_⟩
    rw [List.filter_congr kept]

/-- Two conditions hold of equally many records just when as many records meet only the one as meet
only the other. -/
theorem countP_eq_countP_iff (one other : Record → Prop) [DecidablePred one]
    [DecidablePred other] (records : List Record) :
    ((records.countP fun record => one record) = records.countP fun record => other record) ↔
      (records.countP fun record => one record ∧ ¬ other record) =
        records.countP fun record => other record ∧ ¬ one record := by
  have split : ∀ (left right : Record → Prop) [DecidablePred left] [DecidablePred right],
      (records.countP fun record => left record) =
        (records.countP fun record => left record ∧ right record) +
          records.countP fun record => left record ∧ ¬ right record := by
    intro left right _ _
    rw [List.countP_eq_countP_filter_add records _ fun record => decide (right record),
      List.countP_filter, List.countP_filter]
    congr 1
    · exact List.countP_congr fun record _ => by simp
    · exact List.countP_congr fun record _ => by simp
  have both : (records.countP fun record => other record ∧ one record) =
      records.countP fun record => one record ∧ other record :=
    List.countP_congr fun record _ => by simp [and_comm]
  have first := split one other
  have second := split other one
  omega

section Grouping

variable [DecidableEq Group]

/-- The groups of the records with the number of records in each, every group once. -/
def groupCounts (group : Record → Group) (records : List Record) : List (Group × ℕ) :=
  (records.map group).dedup.map fun value => (value, (records.map group).count value)

/-- Groups that hold all records, each group once, split the records with a property. -/
theorem sum_countP_of_nodup [DecidableEq Key] (group : Record → Group) (key : Group → Key)
    (property : Record → Prop) [DecidablePred property] (wanted : Key) {values : List Group}
    (once : values.Nodup) {records : List Record}
    (inside : ∀ record ∈ records, group record ∈ values) :
    (values.map fun value =>
        if key value = wanted then
          records.countP fun record => group record = value ∧ property record
        else 0).sum =
      records.countP fun record => key (group record) = wanted ∧ property record := by
  induction records with
  | nil => simp
  | cons record records ih =>
      have rest := ih fun other member => inside other (List.mem_cons_of_mem _ member)
      have here : group record ∈ values := inside record List.mem_cons_self
      have one : (values.map fun value =>
          if group record = value ∧ key value = wanted ∧ property record then 1 else 0).sum =
            if key (group record) = wanted ∧ property record then 1 else 0 := by
        rw [List.sum_map_eq_nsmul_single (group record),
          List.count_eq_one_of_mem once here, one_nsmul]
        · simp
        · intro value differs _
          simp [Ne.symm differs]
      rw [List.countP_cons, ← rest]
      simp only [decide_eq_true_eq]
      rw [← one, ← List.sum_map_add]
      refine congrArg List.sum (List.map_congr_left ?_)
      intro value _
      by_cases same : key value = wanted
      · simp [same, List.countP_cons]
      · simp [same]

/-- The groups of a key hold the records of this key. -/
theorem sum_groupCounts [DecidableEq Key] (group : Record → Group) (key : Group → Key)
    (wanted : Key) (records : List Record) :
    ((groupCounts group records).map fun entry =>
        if key entry.1 = wanted then entry.2 else 0).sum =
      records.countP fun record => key (group record) = wanted := by
  have counted := List.sum_map_count_dedup_filter_eq_countP (fun value => key value = wanted)
    (records.map group)
  rw [List.countP_map] at counted
  rw [groupCounts, List.map_map]
  calc (((records.map group).dedup.map _).sum)
      = (((records.map group).dedup.filter fun value => key value = wanted).map fun value =>
          (records.map group).count value).sum := by
        induction (records.map group).dedup with
        | nil => rfl
        | cons value values ih =>
            by_cases same : key value = wanted
            · simpa [same] using ih
            · simpa [same] using ih
    _ = records.countP fun record => key (group record) = wanted := counted

/-- Counts under distinct keys that reach all records, summed up where a condition on the key holds.
-/
theorem sum_counts_of_nodup [DecidableEq Key] (key : Record → Key) (accepted : Key → Prop)
    [DecidablePred accepted] {entries : List (Key × ℕ)} {records : List Record}
    (once : (entries.map Prod.fst).Nodup)
    (counts : ∀ entry ∈ entries, entry.2 = records.countP fun record => key record = entry.1)
    (reached : ∀ record ∈ records, key record ∈ entries.map Prod.fst) :
    ((entries.filter fun entry => accepted entry.1).map Prod.snd).sum =
      records.countP fun record => accepted (key record) := by
  have own := sum_countP_of_nodup key (fun value => decide (accepted value)) (fun _ => True) true
    once reached
  simp only [and_true, decide_eq_true_eq, List.map_map] at own
  rw [← own]
  clear own reached once
  induction entries with
  | nil => rfl
  | cons entry entries ih =>
      have rest := ih fun other member => counts other (List.mem_cons_of_mem _ member)
      have here := counts entry List.mem_cons_self
      by_cases wanted : accepted entry.1
      · simpa [wanted, here] using rest
      · simpa [wanted] using rest

end Grouping

variable [DecidableEq Key]

/-- The count of a key, zero where the table has none. -/
def tallied (table : Key → Option ℕ) (key : Key) : ℕ :=
  (table key).getD 0

/-- Change the count of a key, but not below zero; only an increase creates one. -/
def adjust (table : Key → Option ℕ) (key : Key) (delta : ℤ) : Key → Option ℕ :=
  match table key with
  | some count => Function.update table key (some (count + delta).toNat)
  | none => if 0 < delta then Function.update table key (some delta.toNat) else table

/-- Change one count after the other. -/
def adjustAll (table : Key → Option ℕ) (entries : List (Key × ℤ)) : Key → Option ℕ :=
  entries.foldl (fun current entry => adjust current entry.1 entry.2) table

theorem tallied_adjust (table : Key → Option ℕ) (key wanted : Key) (delta : ℤ) :
    tallied (adjust table key delta) wanted =
      if key = wanted then (tallied table key + delta).toNat else tallied table wanted := by
  rw [adjust]
  by_cases same : key = wanted
  · subst wanted
    rw [if_pos rfl]
    cases kept : table key with
    | some count => simp [tallied, kept]
    | none =>
        by_cases more : 0 < delta
        · simp [tallied, kept, more]
        · simp [tallied, kept, more]
          omega
  · rw [if_neg same]
    cases kept : table key with
    | some count => simp [tallied, Function.update_of_ne (Ne.symm same)]
    | none =>
        by_cases more : 0 < delta
        · simp [tallied, more, Function.update_of_ne (Ne.symm same)]
        · simp [more]

/-- Increases add up. -/
theorem tallied_adjustAll_add (entries : List (Key × ℕ)) (table : Key → Option ℕ)
    (wanted : Key) :
    tallied (adjustAll table (entries.map fun entry => (entry.1, (entry.2 : ℤ)))) wanted =
      tallied table wanted +
        (entries.map fun entry => if entry.1 = wanted then entry.2 else 0).sum := by
  induction entries generalizing table with
  | nil => rfl
  | cons entry entries ih =>
      have step := ih (adjust table entry.1 entry.2)
      rw [adjustAll, List.map_cons, List.foldl_cons, ← adjustAll, step, tallied_adjust,
        List.map_cons, List.sum_cons]
      by_cases same : entry.1 = wanted
      · subst same
        simp only [if_true]
        omega
      · simp only [if_neg same]
        omega

/-- Decreases add up, down to zero. -/
theorem tallied_adjustAll_sub (entries : List (Key × ℕ)) (table : Key → Option ℕ)
    (wanted : Key) :
    tallied (adjustAll table (entries.map fun entry => (entry.1, -(entry.2 : ℤ)))) wanted =
      tallied table wanted -
        (entries.map fun entry => if entry.1 = wanted then entry.2 else 0).sum := by
  induction entries generalizing table with
  | nil => rfl
  | cons entry entries ih =>
      have step := ih (adjust table entry.1 (-(entry.2 : ℤ)))
      rw [adjustAll, List.map_cons, List.foldl_cons, ← adjustAll, step, tallied_adjust,
        List.map_cons, List.sum_cons]
      by_cases same : entry.1 = wanted
      · subst same
        simp only [if_true]
        omega
      · simp only [if_neg same]
        omega

/-- Records that come are counted under their keys. -/
theorem tallied_add_groups [DecidableEq Group] (group : Record → Group) (key : Group → Key)
    (records : List Record) (table : Key → Option ℕ) (wanted : Key) :
    tallied (adjustAll table
        ((groupCounts group records).map fun entry => (key entry.1, (entry.2 : ℤ)))) wanted =
      tallied table wanted + records.countP fun record => key (group record) = wanted := by
  have added := tallied_adjustAll_add
    ((groupCounts group records).map fun entry => (key entry.1, entry.2)) table wanted
  rw [List.map_map, List.map_map] at added
  rw [← sum_groupCounts group key wanted records]
  exact added

/-- Records that go are counted off from their keys, as far as the counts reach. -/
theorem tallied_sub_groups [DecidableEq Group] (group : Record → Group) (key : Group → Key)
    (records : List Record) (table : Key → Option ℕ) (wanted : Key) :
    tallied (adjustAll table
        ((groupCounts group records).map fun entry => (key entry.1, -(entry.2 : ℤ)))) wanted =
      tallied table wanted - records.countP fun record => key (group record) = wanted := by
  have taken := tallied_adjustAll_sub
    ((groupCounts group records).map fun entry => (key entry.1, entry.2)) table wanted
  rw [List.map_map, List.map_map] at taken
  rw [← sum_groupCounts group key wanted records]
  exact taken

end Klsmsc.Library
