import Klsmsc.Inbound.Reassembly

/-!
# Joining the parts that are there

A group that waits too long is flushed with the parts it has. `assembleParts` goes through the
numbers of the parts with a counter of one byte and joins the parts that are there. For every total
but one the counter passes the total and the loop ends. A byte never passes 255, which a segment can
name as its total, and the loop goes on for ever while the store is locked.
-/

namespace Klsmsc

namespace Parts

def InOrder (parts : Parts) (message : GoString) : Prop :=
  ∃ numbers : List UInt8, numbers.Perm parts.keys ∧ numbers.Pairwise (· < ·) ∧
    message = numbers.flatMap fun p => (parts.lookup p).getD []

/-- The loop of `assembleParts` ends after some rounds with the message. -/
def Assembles (parts : Parts) (total : UInt8) (message : GoString) : Prop :=
  ∃ rounds, assembleLoop parts total rounds 1 [] = some message

def numbers (parts : Parts) (total : UInt8) : List UInt8 :=
  ((List.range' 1 total.toNat).map UInt8.ofNat).filter fun p => p ∈ parts

variable {parts : Parts} {total : UInt8}

theorem pairwise_numbers : (parts.numbers total).Pairwise (· < ·) := by
  refine List.Pairwise.filter _ (List.pairwise_map.mpr ?_)
  refine List.Pairwise.imp_of_mem ?_ List.pairwise_lt_range'
  intro left right leftMember rightMember less
  rw [List.mem_range'_1] at leftMember rightMember
  have small := total.toNat_lt
  have width : UInt8.size = 256 := rfl
  rw [UInt8.lt_iff_toNat_lt, UInt8.toNat_ofNat_of_lt' (by omega),
    UInt8.toNat_ofNat_of_lt' (by omega)]
  exact less

theorem mem_numbers (inRange : ∀ p ∈ parts, 1 ≤ p ∧ p ≤ total) {p : UInt8} :
    p ∈ parts.numbers total ↔ p ∈ parts := by
  rw [numbers, List.mem_filter, decide_eq_true_eq, and_iff_right_iff_imp]
  intro present
  rcases inRange p present with ⟨first, last⟩
  rw [UInt8.le_iff_toNat_le] at first last
  rw [UInt8.toNat_one] at first
  exact List.mem_map.mpr ⟨p.toNat, List.mem_range'_1.mpr ⟨first, by omega⟩, UInt8.ofNat_toNat⟩

theorem joined_eq_flatMap_numbers :
    joined (fun p => (parts.lookup p).getD []) total =
      (parts.numbers total).flatMap fun p => (parts.lookup p).getD [] := by
  rw [joined, numbers, ← List.flatMap_map UInt8.ofNat fun p => (parts.lookup p).getD []]
  induction (List.range' 1 total.toNat).map UInt8.ofNat with
  | nil => rfl
  | cons p rest ih =>
      rw [List.flatMap_cons, ih, List.filter_cons]
      by_cases present : p ∈ parts
      · rw [if_pos (decide_eq_true present), List.flatMap_cons]
      · rw [if_neg (by simpa using present), AList.lookup_eq_none.mpr present, Option.getD_none,
          List.nil_append]

theorem inOrder_joined (inRange : ∀ p ∈ parts, 1 ≤ p ∧ p ≤ total) :
    parts.InOrder (joined (fun p => (parts.lookup p).getD []) total) := by
  refine ⟨parts.numbers total, ?_, pairwise_numbers, joined_eq_flatMap_numbers⟩
  have distinct : (parts.numbers total).Nodup := pairwise_numbers.imp UInt8.ne_of_lt
  exact (List.perm_ext_iff_of_nodup distinct parts.keys_nodup).mpr fun p => mem_numbers inRange

/-- `assembleParts` returns, with the parts joined in order, exactly when the total is not 255. -/
theorem assembles_inOrder_iff (parts : Parts) (total : UInt8)
    (inRange : ∀ p ∈ parts, 1 ≤ p ∧ p ≤ total) :
    (∃ message, parts.Assembles total message ∧ parts.InOrder message) ↔ total ≠ 255 := by
  constructor
  · rintro ⟨message, ⟨rounds, ended⟩, -⟩ rfl
    rw [assembleLoop_never] at ended
    cases ended
  · intro bounded
    exact ⟨_, ⟨256, assembleParts_eq bounded parts⟩, inOrder_joined inRange⟩

def firstOnly : Parts :=
  AList.singleton 1 [0x61]

theorem inRange_firstOnly {total : UInt8} (positive : 1 ≤ total) :
    ∀ p ∈ firstOnly, 1 ≤ p ∧ p ≤ total := by
  intro p present
  rw [List.mem_singleton.mp (AList.mem_keys.mp present)]
  exact ⟨UInt8.le_refl 1, positive⟩

theorem assembles_inOrder_iff_two :
    (∃ message, firstOnly.Assembles 2 message ∧ firstOnly.InOrder message) ↔ (2 : UInt8) ≠ 255 :=
  assembles_inOrder_iff firstOnly 2 (inRange_firstOnly (by decide))

/-- With 255 for its total the loop never ends. -/
theorem not_assembles_firstOnly :
    (∀ p ∈ firstOnly, 1 ≤ p ∧ p ≤ (255 : UInt8)) ∧
      ¬∃ message, firstOnly.Assembles 255 message ∧ firstOnly.InOrder message := by
  refine ⟨inRange_firstOnly (by decide), ?_⟩
  rintro ⟨message, ⟨rounds, ended⟩, -⟩
  rw [assembleLoop_never] at ended
  cases ended

end Parts

end Klsmsc
