import Mathlib.Data.List.Basic

/-!
# Memos

A loop that asks for an answer to each item, and keeps the answers under keys that it computes from
the items. An item whose key was seen before gets the answer to the first item with it. A test of
the answers comes out as without the memo exactly when it does not tell items with one key apart.
-/

namespace Klsmsc.Library

universe u v w

variable {Item : Type u} {Key : Type v} {Answer : Type w} [BEq Key]

/-- The answer to an item, and the memo after it. -/
def memoised (key : Item → Key) (answer : Item → Answer) (memo : List (Key × Answer)) (item : Item) :
    Answer × List (Key × Answer) :=
  match memo.lookup (key item) with
  | some known => (known, memo)
  | none => (answer item, (key item, answer item) :: memo)

/-- The memo after some items. -/
def memoAfter (key : Item → Key) (answer : Item → Answer) (memo : List (Key × Answer)) :
    List Item → List (Key × Answer) :=
  List.foldl (fun memo item => (memoised key answer memo item).2) memo

variable [LawfulBEq Key] {key : Item → Key} {answer : Item → Answer}
  {memo : List (Key × Answer)} {item : Item} {items : List Item}

/-- The answer to an item is in the memo after it. -/
theorem lookup_memoised_self :
    (memoised key answer memo item).2.lookup (key item) =
      some (memoised key answer memo item).1 := by
  unfold memoised
  split
  · assumption
  · exact List.lookup_cons_self

/-- What is in the memo stays there. -/
theorem lookup_memoised_of_known {other : Key} {known : Answer}
    (found : memo.lookup other = some known) :
    (memoised key answer memo item).2.lookup other = some known := by
  unfold memoised
  split
  · exact found
  · rename_i unknown
    have differs : other ≠ key item := by
      rintro rfl
      rw [unknown] at found
      cases found
    rw [List.lookup_cons, beq_false_of_ne differs]
    exact found

/-- What comes into the memo is the answer to an item with the key. -/
theorem of_lookup_memoised {other : Key} {known : Answer}
    (found : (memoised key answer memo item).2.lookup other = some known) :
    memo.lookup other = some known ∨ key item = other ∧ answer item = known := by
  unfold memoised at found
  split at found
  · exact Or.inl found
  · rw [List.lookup_cons] at found
    split at found
    · rename_i same
      exact Or.inr ⟨(eq_of_beq same).symm, Option.some.inj found⟩
    · exact Or.inl found

theorem lookup_memoAfter_of_known {other : Key} {known : Answer}
    (found : memo.lookup other = some known) :
    (memoAfter key answer memo items).lookup other = some known := by
  induction items generalizing memo with
  | nil => exact found
  | cons item items ih => exact ih (lookup_memoised_of_known found)

/-- Every item has an answer in the memo after it. -/
theorem exists_lookup_memoAfter (member : item ∈ items) :
    ∃ known, (memoAfter key answer memo items).lookup (key item) = some known := by
  induction items generalizing memo with
  | nil => cases member
  | cons first items ih =>
      rcases List.mem_cons.mp member with same | inside
      · rw [same]
        refine ⟨(memoised key answer memo first).1, ?_⟩
        change (memoAfter key answer (memoised key answer memo first).2 items).lookup _ = _
        exact lookup_memoAfter_of_known lookup_memoised_self
      · exact ih inside

theorem of_lookup_memoAfter {other : Key} {known : Answer}
    (found : (memoAfter key answer memo items).lookup other = some known) :
    memo.lookup other = some known ∨ ∃ item ∈ items, key item = other ∧ answer item = known := by
  induction items generalizing memo with
  | nil => exact Or.inl found
  | cons first items ih =>
      rcases ih found with earlier | ⟨item, inside, itsKey, itsAnswer⟩
      · rcases of_lookup_memoised earlier with before | ⟨itsKey, itsAnswer⟩
        · exact Or.inl before
        · exact Or.inr ⟨first, List.mem_cons_self, itsKey, itsAnswer⟩
      · exact Or.inr ⟨item, List.mem_cons_of_mem _ inside, itsKey, itsAnswer⟩

/-- The memo passes a test for every item as the item itself does exactly when the test does not
tell items with one key apart. -/
theorem test_memoAfter_iff (test : Answer → Bool) :
    (∀ item ∈ items,
      ((memoAfter key answer [] items).lookup (key item)).any test = test (answer item)) ↔
    ∀ left ∈ items, ∀ right ∈ items, key left = key right →
      test (answer left) = test (answer right) := by
  constructor
  · intro agrees left inLeft right inRight same
    rw [← agrees left inLeft, same]
    exact agrees right inRight
  · intro same item inside
    have seen : ∃ known, (memoAfter key answer [] items).lookup (key item) = some known :=
      exists_lookup_memoAfter inside
    rcases seen with ⟨known, found⟩
    rcases of_lookup_memoAfter found with absent | ⟨first, inFirst, itsKey, itsAnswer⟩
    · cases absent
    · rw [found, ← itsAnswer]
      exact same first inFirst item inside itsKey

/-- Two tests pass the same items exactly when they agree on every item. -/
theorem filter_eq_filter_iff {left right : Item → Bool} :
    items.filter left = items.filter right ↔ ∀ item ∈ items, left item = right item := by
  constructor
  · intro same item member
    have inLeft : item ∈ items.filter left ↔ left item = true := by simp [member]
    have inRight : item ∈ items.filter right ↔ right item = true := by simp [member]
    rw [same, inRight] at inLeft
    exact (Bool.eq_iff_iff.mpr inLeft).symm
  · exact List.filter_congr

end Klsmsc.Library
