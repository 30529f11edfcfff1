import Mathlib.Data.List.Forall2
import Mathlib.Data.List.Nodup
import Mathlib.Data.Int.Notation
import Mathlib.Algebra.Ring.Int.Defs

/-!
# Lists with distinct keys

A table is a list of entries whose keys are distinct. An entry is known by its
key, and a sum over the table changes by what it changes at one entry when the
other entries keep their summands.
-/

namespace Klsmsc.Library

universe u v

variable {Entry : Type u} {Key : Type v} {key : Entry → Key} {entries : List Entry}

/-- Two entries with one key are the same entry. -/
theorem eq_of_key_eq (keyed : (entries.map key).Nodup) {left right : Entry}
    (leftMem : left ∈ entries) (rightMem : right ∈ entries) (equal : key left = key right) :
    left = right :=
  List.inj_on_of_nodup_map keyed leftMem rightMem equal

/-- A list without repetition whose entries are all the same has at most one. -/
theorem length_le_one (distinct : entries.Nodup)
    (same : ∀ first ∈ entries, ∀ second ∈ entries, first = second) : entries.length ≤ 1 := by
  match entries, distinct, same with
  | [], _, _ => exact Nat.zero_le 1
  | [_], _, _ => exact Nat.le_refl 1
  | first :: second :: _, distinct, same =>
      have equal := same first (by simp) second (by simp)
      simp [equal] at distinct

/-- A search by key finds the entry. -/
theorem find?_of_key [DecidableEq Key] (keyed : (entries.map key).Nodup) {entry : Entry}
    (member : entry ∈ entries) :
    entries.find? (fun other => key other = key entry) = some entry := by
  cases found : entries.find? fun other => key other = key entry with
  | none =>
      have absent := List.find?_eq_none.mp found entry member
      simp at absent
  | some other =>
      have hit := List.find?_some found
      have equal : key other = key entry := of_decide_eq_true hit
      rw [eq_of_key_eq keyed (List.mem_of_find?_eq_some found) member equal]

/-- Of two tables related entry by entry, an entry of the second has its entry in the first. -/
theorem exists_left_of_forall₂ {Related : Entry → Entry → Prop} {older newer : List Entry}
    (related : List.Forall₂ Related older newer) {new : Entry} (member : new ∈ newer) :
    ∃ old ∈ older, Related old new := by
  induction related with
  | nil => cases member
  | cons head tail ih =>
      rcases List.mem_cons.mp member with rfl | inTail
      · exact ⟨_, List.mem_cons_self, head⟩
      · obtain ⟨old, inside, isRelated⟩ := ih inTail
        exact ⟨old, List.mem_cons_of_mem _ inside, isRelated⟩

/-- Of two tables related entry by entry, an entry of the first has its entry in the second. -/
theorem exists_right_of_forall₂ {Related : Entry → Entry → Prop} {older newer : List Entry}
    (related : List.Forall₂ Related older newer) {old : Entry} (member : old ∈ older) :
    ∃ new ∈ newer, Related old new :=
  exists_left_of_forall₂ related.flip member

theorem forall₂_trans {Related : Entry → Entry → Prop}
    (transitive : ∀ first second third, Related first second → Related second third →
      Related first third)
    {older middle newer : List Entry} (left : List.Forall₂ Related older middle)
    (right : List.Forall₂ Related middle newer) : List.Forall₂ Related older newer := by
  induction left generalizing newer with
  | nil => exact right
  | cons head tail ih =>
      cases right with
      | cons head' tail' => exact .cons (transitive _ _ _ head head') (ih tail')

/-- Tables whose entries are related one by one have the same keys. -/
theorem map_key_of_forall₂ {Related : Entry → Entry → Prop}
    (sameKey : ∀ old new, Related old new → key new = key old) {older newer : List Entry}
    (related : List.Forall₂ Related older newer) : newer.map key = older.map key := by
  induction related with
  | nil => rfl
  | cons head tail ih => rw [List.map_cons, List.map_cons, ih, sameKey _ _ head]

theorem sum_map_congr {before after : Entry → ℤ}
    (same : ∀ entry ∈ entries, after entry = before entry) :
    (entries.map after).sum = (entries.map before).sum := by
  rw [List.map_congr_left same]

/-- A sum whose summands change at one entry only. -/
theorem sum_map_update (keyed : (entries.map key).Nodup) {before after : Entry → ℤ}
    {changed : Entry} (member : changed ∈ entries)
    (others : ∀ entry ∈ entries, key entry ≠ key changed → after entry = before entry) :
    (entries.map after).sum = (entries.map before).sum + (after changed - before changed) := by
  induction entries with
  | nil => simp at member
  | cons head tail ih =>
      rw [List.map_cons, List.nodup_cons] at keyed
      simp only [List.map_cons, List.sum_cons]
      rcases List.mem_cons.mp member with rfl | inTail
      · have rest : (tail.map after).sum = (tail.map before).sum := by
          refine sum_map_congr ?_
          intro entry entryMem
          refine others entry (by simp [entryMem]) ?_
          intro equal
          exact keyed.1 (equal ▸ List.mem_map_of_mem entryMem)
        omega
      · have atHead : after head = before head := by
          refine others head (by simp) ?_
          intro equal
          exact keyed.1 (equal ▸ List.mem_map_of_mem inTail)
        have rest := ih keyed.2 inTail fun entry entryMem =>
          others entry (by simp [entryMem])
        omega

end Klsmsc.Library
