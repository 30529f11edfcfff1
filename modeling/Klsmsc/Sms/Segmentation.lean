import Klsmsc.Sms.Billing

/-!
# Segments of long texts

Both splitters put characters into segments in their order and open a new segment when the next
character does not fit: characters of one or two septets, and characters of two or four octets.
A segment is what some characters of the text are encoded as, so no escape pair and no surrogate
pair is divided. No division of the text into such segments has fewer of them. Only for the empty
text the UTF-16 splitter gives a segment where none is needed.
-/

namespace Klsmsc.Sms

open Klsmsc.Library

/-- A division of a text into segments: each encodes some of its characters, none is empty unless
the text is, and none is beyond the limit. -/
structure Segmentation {Octet : Type} (encode : Char → List Octet) (limit : ℕ) (text : Text)
    (segments : List (List Octet)) : Prop where
  parts : ∃ parts : List Text, parts.flatten = text ∧ segments = parts.map (·.flatMap encode)
  filled : text ≠ [] → ∀ segment ∈ segments, segment ≠ []
  within : ∀ segment ∈ segments, segment.length ≤ limit

variable {Octet : Type} {encode : Char → List Octet} {limit : ℕ} {text : Text}
  {segments : List (List Octet)}

theorem Segmentation.flatten (segmentation : Segmentation encode limit text segments) :
    segments.flatten = text.flatMap encode := by
  rcases segmentation.parts with ⟨parts, rfl, rfl⟩
  rw [List.flatten_eq_flatMap, List.flatMap_map, List.flatten_eq_flatMap (L := parts),
    List.flatMap_assoc]
  rfl

theorem length_flatten_le (within : ∀ segment ∈ segments, segment.length ≤ limit) :
    segments.flatten.length ≤ segments.length * limit := by
  induction segments with
  | nil => simp
  | cons segment segments ih =>
      rw [List.forall_mem_cons] at within
      have rest := ih within.2
      rw [List.flatten_cons, List.length_append, List.length_cons, Nat.succ_mul]
      omega

theorem Segmentation.length_le (segmentation : Segmentation encode limit text segments) :
    (text.flatMap encode).length ≤ segments.length * limit := by
  rw [← segmentation.flatten]
  exact length_flatten_le segmentation.within

theorem totalWeight_length (encode : Char → List Octet) (text : Text) :
    totalWeight (fun rune => (encode rune).length) text = (text.flatMap encode).length := by
  rw [totalWeight, List.length_flatMap]

theorem segmentation_pack
    (fits : ∀ rune ∈ text, 0 < (encode rune).length ∧ (encode rune).length ≤ limit) :
    Segmentation encode limit text
      ((pack (fun rune => (encode rune).length) limit text).map (·.flatMap encode)) where
  parts := ⟨_, flatten_pack fun rune member => (fits rune member).1, rfl⟩
  filled := by
    intro _ segment member
    rcases List.mem_map.mp member with ⟨part, isPart, rfl⟩
    have weight := (mem_pack fits isPart).1
    rw [totalWeight_length] at weight
    exact List.ne_nil_of_length_pos weight
  within := by
    intro segment member
    rcases List.mem_map.mp member with ⟨part, isPart, rfl⟩
    have weight := (mem_pack fits isPart).2
    rwa [totalWeight_length] at weight

theorem Segmentation.length_pack_le (segmentation : Segmentation encode limit text segments)
    (positive : ∀ rune ∈ text, 0 < (encode rune).length) :
    (pack (fun rune => (encode rune).length) limit text).length ≤ segments.length := by
  rcases segmentation.parts with ⟨parts, whole, rfl⟩
  rw [List.length_map]
  refine Library.length_pack_le positive whole ?_
  intro part member
  rw [totalWeight_length]
  exact segmentation.within _ (List.mem_map_of_mem member)

/-! ### Septets -/

def runeSeptets (rune : Char) : List UInt8 :=
  (encodeRune rune).getD []

theorem length_runeSeptets (rune : Char) : (runeSeptets rune).length = septetWidth rune := by
  rw [septetWidth, ← length_encodeRune, runeSeptets]
  cases encodeRune rune <;> rfl

theorem runeSeptets_bounds {text : Text} (known : IsGsm7 text) :
    ∀ rune ∈ text, 0 < (runeSeptets rune).length ∧ (runeSeptets rune).length ≤ 2 := by
  intro rune member
  have isKnown := known rune member
  rw [length_runeSeptets, septetWidth]
  rw [septetsOf] at isKnown ⊢
  split
  · simp
  · split <;> simp_all

theorem splitGSM7Text_eq_pack {text : Text} (known : IsGsm7 text) {maxSeptets : ℕ}
    (positive : 0 < maxSeptets) :
    splitGSM7Text text maxSeptets =
      pack (fun rune => (runeSeptets rune).length) maxSeptets text := by
  simp only [length_runeSeptets]
  rw [splitGSM7Text, splitGSM7From_eq known]
  cases text with
  | nil => rfl
  | cons rune text =>
      rw [if_neg (by simp; omega)]
      rfl

/-! ### Code units -/

theorem utf16BigEndian_bounds (rune : Char) :
    0 < (utf16BigEndian rune).length ∧ (utf16BigEndian rune).length ≤ 4 := by
  rw [length_utf16BigEndian, codeUnitsOf]
  split <;> omega

theorem segmentUCS2Text_eq_pack (text : Text) (maxOctets : ℕ) :
    segmentUCS2Text text maxOctets =
      if text = [] then [[]]
      else (pack (fun rune => (utf16BigEndian rune).length) maxOctets text).map
        (·.flatMap utf16BigEndian) := by
  have packs : segmentUCS2From maxOctets text [] =
      (pack (fun rune => (utf16BigEndian rune).length) maxOctets text).map
        (·.flatMap utf16BigEndian) := segmentUCS2From_octets text maxOctets [] [] rfl
  have whole : (pack (fun rune => (utf16BigEndian rune).length) maxOctets text).flatten = text :=
    flatten_pack fun rune _ => (utf16BigEndian_bounds rune).1
  rw [segmentUCS2Text, packs]
  by_cases empty : text = []
  · subst empty
    rfl
  · have some : (pack (fun rune => (utf16BigEndian rune).length) maxOctets text).length ≠ 0 := by
      intro none
      rw [List.length_eq_zero_iff.mp none] at whole
      exact empty whole.symm
    rw [List.length_map, if_neg some, if_neg empty]

theorem segmentation_empty (encode : Char → List Octet) (limit : ℕ)
    (short : ∀ segment ∈ segments, segment = []) : Segmentation encode limit [] segments where
  parts := ⟨segments.map fun _ => [], by simp, by
    rw [List.map_map]
    exact (List.map_id segments).symm.trans (List.map_congr_left fun segment member => by
      simpa using short segment member)⟩
  filled := fun some => absurd rfl some
  within := fun segment member => by simp [short segment member]

theorem segmentation_segmentUCS2Text (text : Text) {maxOctets : ℕ} (room : 4 ≤ maxOctets) :
    Segmentation utf16BigEndian maxOctets text (segmentUCS2Text text maxOctets) := by
  rw [segmentUCS2Text_eq_pack]
  split
  · rename_i empty
    subst empty
    exact segmentation_empty _ _ fun segment member => List.mem_singleton.mp member
  · refine segmentation_pack ?_
    intro rune _
    have bounds := utf16BigEndian_bounds rune
    exact ⟨bounds.1, bounds.2.trans room⟩

end Klsmsc.Sms
