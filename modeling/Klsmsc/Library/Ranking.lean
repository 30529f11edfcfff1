import Mathlib.Data.List.MinMax
import Mathlib.Data.List.Nodup
import Mathlib.Data.List.Sort

/-!
# Choosing from a ranked list

A list is sorted by a rank, the greatest first and equal ranks in the order that they had, and then
the first entry with the greatest score is chosen. The choice depends on the order before the sort
only between entries that lead in both.
-/

namespace Klsmsc.Library

universe u v w

variable {Entry : Type u} {Rank : Type v} {Score : Type w} [LinearOrder Rank] [LinearOrder Score]

/-- The rank of the left entry is no smaller. -/
def NoLower (rank : Entry → Rank) (left right : Entry) : Prop :=
  rank right ≤ rank left

instance (rank : Entry → Rank) : DecidableRel (NoLower rank) := fun left right =>
  inferInstanceAs (Decidable (rank right ≤ rank left))

instance (rank : Entry → Rank) : IsTrans Entry (NoLower rank) where
  trans _ _ _ above next := le_trans next above

instance (rank : Entry → Rank) : Std.Total (NoLower rank) where
  total one two := le_total (rank two) (rank one)

/-- Sorted by rank, the greatest first; equal ranks stay in their order. -/
def rankedBy (rank : Entry → Rank) (entries : List Entry) : List Entry :=
  entries.insertionSort (NoLower rank)

/-- The entry has the greatest score, and the greatest rank among those that have it. -/
structure Leads (score : Entry → Score) (rank : Entry → Rank) (Member : Entry → Prop)
    (entry : Entry) : Prop where
  member : Member entry
  best : ∀ other, Member other → score other ≤ score entry
  ahead : ∀ other, Member other → score entry ≤ score other → rank other ≤ rank entry

section

variable (rank : Entry → Rank) (entries : List Entry)

theorem rankedBy_perm : (rankedBy rank entries).Perm entries :=
  List.perm_insertionSort _ _

@[simp]
theorem mem_rankedBy {entry : Entry} : entry ∈ rankedBy rank entries ↔ entry ∈ entries :=
  (rankedBy_perm rank entries).mem_iff

theorem pairwise_rankedBy :
    (rankedBy rank entries).Pairwise fun left right => rank right ≤ rank left :=
  List.pairwise_insertionSort (NoLower rank) entries

variable {rank entries}

/-- An entry that stands before another one of no greater rank stays before it. -/
theorem pair_sublist_rankedBy {entry other : Entry} (behind : rank other ≤ rank entry)
    (before : [entry, other].Sublist entries) :
    [entry, other].Sublist (rankedBy rank entries) :=
  List.pair_sublist_insertionSort (r := NoLower rank) behind before

end

section Choice

variable [DecidableEq Entry] {score : Entry → Score} {rank : Entry → Rank} {entries : List Entry}
  {entry : Entry}

/-- The choice from a sorted list leads. -/
theorem leads_of_argmax
    (sorted : entries.Pairwise fun left right => rank right ≤ rank left)
    (chosen : entries.argmax score = some entry) :
    Leads score rank (· ∈ entries) entry := by
  have facts := List.argmax_eq_some_iff.mp chosen
  refine ⟨facts.1, facts.2.1, ?_⟩
  intro other member equal
  have place := facts.2.2 other member equal
  rcases Nat.lt_or_eq_of_le place with before | same
  · have inside := List.idxOf_lt_length_of_mem member
    have ranks := List.pairwise_iff_getElem.mp sorted _ _ (List.idxOf_lt_length_of_mem facts.1)
      inside before
    rwa [List.getElem_idxOf, List.getElem_idxOf] at ranks
  · have equalEntries : entry = other := (List.idxOf_inj facts.1).mp same
    rw [equalEntries]

theorem idxOf_le_of_pair_sublist {other : Entry} (nodup : entries.Nodup)
    (before : [entry, other].Sublist entries) : entries.idxOf entry ≤ entries.idxOf other := by
  induction entries with
  | nil => cases before
  | cons head tail ih =>
      have headOut := (List.nodup_cons.mp nodup).1
      cases before with
      | cons _ inTail =>
          have one : entry ∈ tail := inTail.subset (by simp)
          have two : other ∈ tail := inTail.subset (by simp)
          have notOne : head ≠ entry := fun same => headOut (same ▸ one)
          have notTwo : head ≠ other := fun same => headOut (same ▸ two)
          rw [List.idxOf_cons_ne _ notOne, List.idxOf_cons_ne _ notTwo]
          exact Nat.succ_le_succ (ih (List.nodup_cons.mp nodup).2 inTail)
      | cons_cons _ inTail => simp

/-- An entry that leads is chosen when it stands before all others of no greater rank. -/
theorem argmax_of_leads (nodup : entries.Nodup) (leads : Leads score rank (· ∈ entries) entry)
    (before : ∀ other ∈ entries, other ≠ entry → rank other ≤ rank entry →
      [entry, other].Sublist entries) :
    entries.argmax score = some entry := by
  refine List.argmax_eq_some_iff.mpr ⟨leads.member, leads.best, ?_⟩
  intro other member equal
  by_cases same : other = entry
  · rw [same]
  · exact idxOf_le_of_pair_sublist nodup
      (before other member same (leads.ahead other member equal))

end Choice

end Klsmsc.Library
