import Mathlib.Data.List.Basic

/-!
# Lists written entry by entry

A list is written as another one, with one or more entries in the place of each entry. Tests that
agree on entries and on what is written for them cut both lists in the same places, at either end. A
fixed list is at the front of both or of neither when its entries stand for themselves and nothing
else is written like them.
-/

namespace Klsmsc.Library

universe u v

variable {α : Type u} {β : Type v}

/-- Something is written for each entry of a list, and a test takes it as another test takes the
entry. -/
structure Agrees (write : α → List β) (test : α → Bool) (writtenTest : β → Bool)
    (entries : List α) : Prop where
  written : ∀ entry ∈ entries, write entry ≠ []
  same : ∀ entry ∈ entries, ∀ part ∈ write entry, writtenTest part = test entry

/-- An entry is written as one part, and no other entry is written with it. -/
def WrittenAs (write : α → List β) (entry : α) (part : β) : Prop :=
  write entry = [part] ∧ ∀ other, part ∈ write other → other = entry

namespace Agrees

variable {write : α → List β} {test : α → Bool} {writtenTest : β → Bool} {entries : List α}

theorem of_subset (agrees : Agrees write test writtenTest entries) {fewer : List α}
    (inside : fewer ⊆ entries) : Agrees write test writtenTest fewer :=
  ⟨fun entry member => agrees.written entry (inside member),
    fun entry member => agrees.same entry (inside member)⟩

theorem of_cons {entry : α} (agrees : Agrees write test writtenTest (entry :: entries)) :
    Agrees write test writtenTest entries :=
  agrees.of_subset (List.subset_cons_self _ _)

theorem all_of_test {entry : α} (agrees : Agrees write test writtenTest (entry :: entries))
    (passes : test entry = true) : ∀ part ∈ write entry, writtenTest part = true := by
  intro part member
  rw [agrees.same entry List.mem_cons_self part member, passes]

/-- An entry that fails the test is written with a first part that fails it. -/
theorem exists_first {entry : α} (agrees : Agrees write test writtenTest (entry :: entries))
    (fails : ¬test entry = true) :
    ∃ first rest, write entry = first :: rest ∧ ¬writtenTest first = true := by
  obtain ⟨first, rest, written⟩ :=
    List.exists_cons_of_ne_nil (agrees.written entry List.mem_cons_self)
  refine ⟨first, rest, written, ?_⟩
  rw [agrees.same entry List.mem_cons_self first (by rw [written]; exact List.mem_cons_self)]
  exact fails

theorem dropWhile_flatMap (agrees : Agrees write test writtenTest entries) :
    (entries.flatMap write).dropWhile writtenTest = (entries.dropWhile test).flatMap write := by
  induction entries with
  | nil => rfl
  | cons entry entries ih =>
      rw [List.flatMap_cons, List.dropWhile_cons]
      split
      · rename_i passes
        rw [List.dropWhile_append_of_pos (agrees.all_of_test passes)]
        exact ih agrees.of_cons
      · rename_i fails
        rcases agrees.exists_first fails with ⟨first, rest, written, failsToo⟩
        rw [List.flatMap_cons, written, List.cons_append, List.dropWhile_cons_of_neg failsToo]

theorem takeWhile_flatMap (agrees : Agrees write test writtenTest entries) :
    (entries.flatMap write).takeWhile writtenTest = (entries.takeWhile test).flatMap write := by
  induction entries with
  | nil => rfl
  | cons entry entries ih =>
      rw [List.flatMap_cons, List.takeWhile_cons]
      split
      · rename_i passes
        rw [List.takeWhile_append_of_pos (agrees.all_of_test passes), List.flatMap_cons,
          ih agrees.of_cons]
      · rename_i fails
        rcases agrees.exists_first fails with ⟨first, rest, written, failsToo⟩
        rw [written, List.cons_append, List.takeWhile_cons_of_neg failsToo, List.flatMap_nil]

theorem reverse (agrees : Agrees write test writtenTest entries) :
    Agrees (List.reverse ∘ write) test writtenTest entries.reverse := by
  refine ⟨?_, ?_⟩
  · intro entry member
    rw [Function.comp_apply, ne_eq, List.reverse_eq_nil_iff]
    exact agrees.written entry (List.mem_reverse.mp member)
  · intro entry member part isPart
    exact agrees.same entry (List.mem_reverse.mp member) part (List.mem_reverse.mp isPart)

/-- What a test cuts off at the end. -/
theorem dropWhile_reverse_flatMap (agrees : Agrees write test writtenTest entries) :
    ((entries.flatMap write).reverse.dropWhile writtenTest).reverse =
      (entries.reverse.dropWhile test).reverse.flatMap write := by
  rw [List.reverse_flatMap, agrees.reverse.dropWhile_flatMap, List.reverse_flatMap]
  congr 1
  funext entry
  exact List.reverse_reverse _

end Agrees

/-- A fixed list in front, and what is behind it. -/
theorem isPrefixOf_flatMap [DecidableEq α] [DecidableEq β] {write : α → List β} {part : α → β}
    {head : List α} (fixed : ∀ entry ∈ head, WrittenAs write entry (part entry))
    {entries : List α} (written : ∀ entry ∈ entries, write entry ≠ []) :
    (head.map part).isPrefixOf (entries.flatMap write) = head.isPrefixOf entries ∧
      (head.isPrefixOf entries = true →
        (entries.flatMap write).drop head.length = (entries.drop head.length).flatMap write) := by
  induction head generalizing entries with
  | nil => exact ⟨rfl, fun _ => rfl⟩
  | cons wanted head ih =>
      cases entries with
      | nil => exact ⟨rfl, fun isHead => by cases isHead⟩
      | cons entry entries =>
          rcases fixed wanted List.mem_cons_self with ⟨itself, sole⟩
          by_cases isWanted : entry = wanted
          · have later := ih (fun other member => fixed other (List.mem_cons_of_mem _ member))
              fun other member => written other (List.mem_cons_of_mem _ member)
            subst isWanted
            simpa [itself] using later
          · obtain ⟨first, rest, starts⟩ :=
              List.exists_cons_of_ne_nil (written entry List.mem_cons_self)
            have notHere : (wanted == entry) = false :=
              beq_eq_false_iff_ne.mpr (Ne.symm isWanted)
            have notWritten : (part wanted == first) = false := by
              rw [beq_eq_false_iff_ne]
              intro same
              exact isWanted (sole entry (by rw [same, starts]; exact List.mem_cons_self))
            rw [List.map_cons, List.flatMap_cons, starts, List.cons_append,
              List.isPrefixOf_cons_cons, List.isPrefixOf_cons_cons, notHere, notWritten]
            exact ⟨rfl, fun wrong => by cases wrong⟩

end Klsmsc.Library
