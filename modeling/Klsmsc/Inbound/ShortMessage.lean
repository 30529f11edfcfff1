import Klsmsc.Library.Utf
import Mathlib.Data.Int.Notation

/-!
# Texts in short messages

The gateway cuts outbound texts into segments of UTF-16BE code units and never divides a
character. Inbound short messages it reads unit by unit, so a character that needs two units is
lost on the way back.
-/

namespace Klsmsc

open Library

abbrev GoString := List UInt8

/-- The loop of `segmentUCS2Text` over the characters, with the segments that are closed and the
current one. -/
def segmentLoop (maxOctets : ℤ) :
    List (List UInt8) → List UInt8 → List Char → List (List UInt8) × List UInt8
  | segs, cur, [] => (segs, cur)
  | segs, cur, r :: rest =>
      let rb := utf16Bytes r
      if maxOctets < (cur.length + rb.length : ℕ) ∧ 0 < cur.length then
        segmentLoop maxOctets (segs ++ [cur]) rb rest
      else segmentLoop maxOctets segs (cur ++ rb) rest

/-- `segmentUCS2Text`. -/
def segmentUCS2Text (text : List Char) (maxOctets : ℤ) : List (List UInt8) :=
  let (segs, cur) := segmentLoop maxOctets [] [] text
  let segs := if 0 < cur.length then segs ++ [cur] else segs
  if segs.length = 0 then [[]] else segs

def ucs2Runes : List UInt8 → List Char
  | high :: low :: rest => charOrReplacement (ofBigEndian high low) :: ucs2Runes rest
  | _ => []

/-- `decodeShortMessage`. -/
def decodeShortMessage (raw : List UInt8) (dataCoding : UInt8) : GoString :=
  if dataCoding = 0x08 then
    if raw.length % 2 ≠ 0 then raw else utf8 (ucs2Runes raw)
  else raw

def utf16Text (text : List Char) : List UInt8 :=
  text.flatMap utf16Bytes

theorem utf16Bytes_length_pos (char : Char) : 0 < (utf16Bytes char).length := by
  unfold utf16Bytes utf16Units
  split <;> simp [bigEndian]

theorem length_flatMap_bigEndian (units : List ℕ) :
    (units.flatMap bigEndian).length = 2 * units.length := by
  induction units with
  | nil => rfl
  | cons unit units ih =>
      simp only [List.flatMap_cons, List.length_append, ih, bigEndian, List.length_cons,
        List.length_nil]
      omega

theorem segmentLoop_parts (maxOctets : ℤ) (text : List Char) (closed : List (List Char))
    (current : List Char) :
    ∃ (parts : List (List Char)) (part : List Char),
      segmentLoop maxOctets (closed.map utf16Text) (utf16Text current) text =
          (parts.map utf16Text, utf16Text part) ∧
      parts.flatten ++ part = closed.flatten ++ current ++ text := by
  induction text generalizing closed current with
  | nil => exact ⟨closed, current, rfl, by simp⟩
  | cons r rest ih =>
      rw [segmentLoop]
      split
      · rcases ih (closed ++ [current]) [r] with ⟨parts, part, loop, whole⟩
        refine ⟨parts, part, ?_, by simpa using whole⟩
        rw [← loop]
        simp [utf16Text]
      · rcases ih closed (current ++ [r]) with ⟨parts, part, loop, whole⟩
        refine ⟨parts, part, ?_, by simpa using whole⟩
        rw [← loop]
        simp [utf16Text]

theorem segmentUCS2Text_parts (text : List Char) (maxOctets : ℤ) :
    ∃ parts : List (List Char), parts.flatten = text ∧
      segmentUCS2Text text maxOctets = parts.map utf16Text := by
  rcases segmentLoop_parts maxOctets text [] [] with ⟨parts, part, loop, whole⟩
  have loop : segmentLoop maxOctets [] [] text = (parts.map utf16Text, utf16Text part) := loop
  unfold segmentUCS2Text
  rw [loop]
  dsimp only
  by_cases rest : 0 < (utf16Text part).length
  · refine ⟨parts ++ [part], by simpa using whole, ?_⟩
    rw [if_pos rest, if_neg (by simp)]
    simp
  · have nothing : part = [] := by
      cases part with
      | nil => rfl
      | cons char part =>
          have positive := utf16Bytes_length_pos char
          simp only [utf16Text, List.flatMap_cons, List.length_append] at rest
          omega
    rw [if_neg rest]
    cases parts with
    | nil =>
        refine ⟨[[]], ?_, rfl⟩
        simpa [nothing] using whole
    | cons first parts =>
        refine ⟨first :: parts, by simpa [nothing] using whole, ?_⟩
        rw [if_neg (by simp)]

theorem ucs2Runes_bigEndian {units : List ℕ} (small : ∀ unit ∈ units, unit < 0x10000) :
    ucs2Runes (units.flatMap bigEndian) = units.map charOrReplacement := by
  induction units with
  | nil => rfl
  | cons unit units ih =>
      rw [List.forall_mem_cons] at small
      simp only [List.flatMap_cons, bigEndian, List.cons_append, List.nil_append, ucs2Runes,
        List.map_cons, ofBigEndian_bigEndian small.1]
      rw [ih small.2]

theorem decodeShortMessage_utf16Text (text : List Char) :
    decodeShortMessage (utf16Text text) 0x08 = utf8 (text.flatMap readByUnits) := by
  have units : utf16Text text = (text.flatMap utf16Units).flatMap bigEndian := by
    rw [List.flatMap_assoc]
    rfl
  have small : ∀ unit ∈ text.flatMap utf16Units, unit < 0x10000 := by
    intro unit member
    rcases List.mem_flatMap.mp member with ⟨char, _, isUnit⟩
    exact utf16Units_lt isUnit
  have even : ¬(utf16Text text).length % 2 ≠ 0 := by
    rw [units, length_flatMap_bigEndian]
    omega
  rw [decodeShortMessage, if_pos rfl, if_neg even, units, ucs2Runes_bigEndian small,
    List.map_flatMap]
  simp only [map_utf16Units]

theorem decode_segmentUCS2Text (text : List Char) (maxOctets : ℤ) :
    ((segmentUCS2Text text maxOctets).flatMap fun segment => decodeShortMessage segment 0x08) =
      utf8 (text.flatMap readByUnits) := by
  rcases segmentUCS2Text_parts text maxOctets with ⟨parts, whole, segments⟩
  rw [segments, List.flatMap_map]
  simp only [decodeShortMessage_utf16Text]
  rw [← utf8_flatMap, ← whole, List.flatten_eq_flatMap, List.flatMap_assoc]
  rfl

/-- A text comes back from its segments exactly when every character is one code unit. -/
theorem decode_segmentUCS2Text_eq_iff (text : List Char) (maxOctets : ℤ) :
    ((segmentUCS2Text text maxOctets).flatMap fun segment => decodeShortMessage segment 0x08) =
        utf8 text ↔ ∀ char ∈ text, InBasicPlane char := by
  rw [decode_segmentUCS2Text, utf8_injective.eq_iff, flatMap_readByUnits_iff]

/-- An emoji comes back as two replacement characters. -/
theorem decode_segmentUCS2Text_emoji :
    ((segmentUCS2Text ['😀'] 140).flatMap fun segment => decodeShortMessage segment 0x08) =
        utf8 ['\uFFFD', '\uFFFD'] ∧
      ((segmentUCS2Text ['😀'] 140).flatMap fun segment => decodeShortMessage segment 0x08) ≠
        utf8 ['😀'] := by
  decide

end Klsmsc
