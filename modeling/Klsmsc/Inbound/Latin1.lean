import Klsmsc.Inbound.Session
import Klsmsc.Library.JsonStrings

/-!
# Latin-1 texts

A short message whose `data_coding` is 3 is a text in Latin-1, one octet for each character. The
gateway takes its octets for the text as they are, and `json.Marshal` replaces every octet that is
no UTF-8 on the way to the backend. So the text arrives exactly when it is ASCII.
-/

namespace Klsmsc

open Library

/-! ### Strings in requests to the backend -/

/-- A character as `json.Marshal` writes it, with the escapes for HTML. -/
def marshalChar (char : Char) : List Char :=
  if char = '"' ∨ char = '\\' then ['\\', char]
  else if char = '\n' then ['\\', 'n']
  else if char = '\r' then ['\\', 'r']
  else if char = '\t' then ['\\', 't']
  else if char.toNat < 0x20 ∨ char = '<' ∨ char = '>' ∨ char = '&' then
    ['\\', 'u', '0', '0', (char.toNat / 16).digitChar, (char.toNat % 16).digitChar]
  else if char = '\u2028' then ['\\', 'u', '2', '0', '2', '8']
  else if char = '\u2029' then ['\\', 'u', '2', '0', '2', '9']
  else [char]

theorem jsonUnits_marshalChar (char : Char) (rest : List Char) :
    jsonUnits (marshalChar char ++ rest) = (jsonUnits rest).map (char.toNat :: ·) := by
  unfold marshalChar
  split_ifs with backslashed newline return_ tab numbered line paragraph
  · rcases backslashed with rfl | rfl <;> exact jsonUnits_letter rfl rest
  · subst newline
    exact jsonUnits_letter rfl rest
  · subst return_
    exact jsonUnits_letter rfl rest
  · subst tab
    exact jsonUnits_letter rfl rest
  · refine jsonUnits_unit (unitOfHex_octet ?_) rest
    rcases numbered with control | rfl | rfl | rfl
    · omega
    all_goals decide
  · subst line
    exact jsonUnits_unit (by decide) rest
  · subst paragraph
    exact jsonUnits_unit (by decide) rest
  · rw [not_or] at backslashed
    rw [not_or] at numbered
    exact jsonUnits_plain backslashed.1 backslashed.2 (by omega) rest

/-- The strings that `json.Marshal` writes. -/
def marshalEscaping : Escaping :=
  ⟨marshalChar, jsonUnits_marshalChar⟩

/-- `json.Marshal` of a string. -/
def marshalString (s : GoString) : List Char :=
  marshalEscaping.quote (runes s)

theorem readJsonString_marshalString (s : GoString) :
    readJsonString (marshalString s) = some ((runes s).map Char.toNat) :=
  marshalEscaping.readJsonString_quote (runes s)

/-! ### The text of a short message -/

def encodeLatin1 (text : List Char) : Option (List UInt8) :=
  text.mapM fun char => if char.toNat < 256 then some (UInt8.ofNat char.toNat) else none

/-- The string is the text that the octets are in Latin-1: it is valid, its code points are the
octets, it has these octets in Latin-1 again, and every reader of the JSON gets it. -/
structure IsLatin1Text (b : List UInt8) (s : GoString) : Prop where
  valid : utf8 (runes s) = s
  codePoints : (runes s).map Char.toNat = b.map UInt8.toNat
  encoded : encodeLatin1 (runes s) = some b
  carried : readJsonString (marshalString s) = some (b.map UInt8.toNat)

theorem utf8Size_eq_one_iff (char : Char) : char.utf8Size = 1 ↔ char.toNat < 0x80 := by
  have ascii : char.utf8Size = 1 ↔ char.val ≤ 127 := Char.utf8Size_eq_one_iff
  rw [ascii, UInt32.le_iff_toNat_le]
  exact Nat.lt_succ_iff.symm

theorem length_le_utf8 (text : List Char) : text.length ≤ (utf8 text).length := by
  induction text with
  | nil => exact Nat.le_refl 0
  | cons char text ih =>
      have positive := char.utf8Size_pos
      rw [utf8_cons, List.length_append, String.length_utf8EncodeChar, List.length_cons]
      omega

theorem ascii_of_length_utf8 {text : List Char} (one : (utf8 text).length = text.length) :
    ∀ char ∈ text, char.toNat < 0x80 := by
  induction text with
  | nil => simp
  | cons char text ih =>
      have positive := char.utf8Size_pos
      have rest := length_le_utf8 text
      rw [utf8_cons, List.length_append, String.length_utf8EncodeChar, List.length_cons] at one
      rw [List.forall_mem_cons, ← utf8Size_eq_one_iff]
      exact ⟨by omega, ih (by omega)⟩

def latin1Text (b : List UInt8) : List Char :=
  b.map fun octet => Char.ofNat octet.toNat

theorem toNat_ofNat_octet (octet : UInt8) : (Char.ofNat octet.toNat).toNat = octet.toNat := by
  have small := octet.toNat_lt
  have valid : octet.toNat.isValidChar := Or.inl (by omega)
  rw [Char.ofNat, dif_pos valid]
  rfl

theorem map_toNat_latin1Text (b : List UInt8) :
    (latin1Text b).map Char.toNat = b.map UInt8.toNat := by
  rw [latin1Text, List.map_map]
  exact List.map_congr_left fun octet _ => toNat_ofNat_octet octet

theorem encodeLatin1_latin1Text (b : List UInt8) : encodeLatin1 (latin1Text b) = some b := by
  induction b with
  | nil => rfl
  | cons octet b ih =>
      have small := octet.toNat_lt
      rw [encodeLatin1, latin1Text] at ih ⊢
      rw [List.map_cons, List.mapM_cons, toNat_ofNat_octet, if_pos small, UInt8.ofNat_toNat, ih]
      rfl

theorem utf8_latin1Text {b : List UInt8} (ascii : ∀ octet ∈ b, octet < 0x80) :
    utf8 (latin1Text b) = b := by
  induction b with
  | nil => rfl
  | cons octet b ih =>
      rw [List.forall_mem_cons, UInt8.lt_iff_toNat_lt] at ascii
      have encoded : String.utf8EncodeChar (Char.ofNat octet.toNat) = [octet] := by
        have one : (Char.ofNat octet.toNat).utf8Size = 1 := by
          rw [utf8Size_eq_one_iff, toNat_ofNat_octet]
          exact ascii.1
        have value : (Char.ofNat octet.toNat).val.toNat = octet.toNat := toNat_ofNat_octet octet
        rw [String.utf8EncodeChar_eq_singleton one, List.singleton_inj, ← UInt8.toNat_inj,
          UInt32.toNat_toUInt8, value]
        exact Nat.mod_eq_of_lt octet.toNat_lt
      rw [latin1Text, List.map_cons, utf8_cons, encoded]
      exact congrArg (octet :: ·) (ih ascii.2)

/-- A Latin-1 text arrives exactly when all its octets are ASCII. -/
theorem decodeShortMessage_latin1_iff (b : List UInt8) :
    IsLatin1Text b (decodeShortMessage b 0x03) ↔ ∀ octet ∈ b, octet < 0x80 := by
  have same : decodeShortMessage b 0x03 = b := rfl
  rw [same]
  constructor
  · intro arrives octet member
    have lengths := congrArg List.length arrives.codePoints
    rw [List.length_map, List.length_map] at lengths
    have ascii : ∀ char ∈ runes b, char.toNat < 0x80 :=
      ascii_of_length_utf8 (by rw [arrives.valid, lengths])
    have codePoint : octet.toNat ∈ (runes b).map Char.toNat := by
      rw [arrives.codePoints]
      exact List.mem_map_of_mem member
    rcases List.mem_map.mp codePoint with ⟨char, isChar, value⟩
    rw [UInt8.lt_iff_toNat_lt, ← value]
    exact ascii char isChar
  · intro ascii
    have text : runes b = latin1Text b := by
      nth_rewrite 1 [← utf8_latin1Text ascii]
      exact runes_utf8 _
    refine ⟨?_, ?_, ?_, ?_⟩
    · rw [text, utf8_latin1Text ascii]
    · rw [text, map_toNat_latin1Text]
    · rw [text, encodeLatin1_latin1Text]
    · rw [readJsonString_marshalString, text, map_toNat_latin1Text]

/-- The letter é in Latin-1 reaches the backend as a replacement character. -/
theorem decodeShortMessage_latin1_accent :
    ¬IsLatin1Text [0xE9] (decodeShortMessage [0xE9] 0x03) ∧
      readJsonString (marshalString (decodeShortMessage [0xE9] 0x03)) = some [0xFFFD] := by
  refine ⟨fun arrives => ?_, by decide⟩
  exact absurd arrives.carried (by decide)

end Klsmsc
