import Klsmsc.Library.Packing
import Klsmsc.Sms.Segment

/-!
# Billed parts and sent segments

The gateway cuts a long text by a header in front of every segment: 153 septets
or 134 octets are left for the text, and a pair of septets or of code units is
never cut. The platform divides the total by what a segment holds. The two agree
exactly when the units that stay free in front of a pair still fit into the last
segment that the division counts.

A nil slice and an empty one are the same list. The tables of the two languages
have the same characters, so a text is GSM-7 for both or for neither.
-/

namespace Klsmsc.Sms

open Klsmsc.Library

/-- `forwardLookup`. -/
def forwardLookup : List (Char × UInt8) :=
  [('@', 0x00), ('£', 0x01), ('$', 0x02), ('¥', 0x03), ('è', 0x04), ('é', 0x05), ('ù', 0x06),
   ('ì', 0x07), ('ò', 0x08), ('Ç', 0x09), ('\n', 0x0a), ('Ø', 0x0b), ('ø', 0x0c), ('\r', 0x0d),
   ('Å', 0x0e), ('å', 0x0f), ('Δ', 0x10), ('_', 0x11), ('Φ', 0x12), ('Γ', 0x13), ('Λ', 0x14),
   ('Ω', 0x15), ('Π', 0x16), ('Ψ', 0x17), ('Σ', 0x18), ('Θ', 0x19), ('Ξ', 0x1a), ('Æ', 0x1c),
   ('æ', 0x1d), ('ß', 0x1e), ('É', 0x1f), (' ', 0x20), ('!', 0x21), ('"', 0x22), ('#', 0x23),
   ('¤', 0x24), ('%', 0x25), ('&', 0x26), ('\'', 0x27), ('(', 0x28), (')', 0x29), ('*', 0x2a),
   ('+', 0x2b), (',', 0x2c), ('-', 0x2d), ('.', 0x2e), ('/', 0x2f), ('0', 0x30), ('1', 0x31),
   ('2', 0x32), ('3', 0x33), ('4', 0x34), ('5', 0x35), ('6', 0x36), ('7', 0x37), ('8', 0x38),
   ('9', 0x39), (':', 0x3a), (';', 0x3b), ('<', 0x3c), ('=', 0x3d), ('>', 0x3e), ('?', 0x3f),
   ('¡', 0x40), ('A', 0x41), ('B', 0x42), ('C', 0x43), ('D', 0x44), ('E', 0x45), ('F', 0x46),
   ('G', 0x47), ('H', 0x48), ('I', 0x49), ('J', 0x4a), ('K', 0x4b), ('L', 0x4c), ('M', 0x4d),
   ('N', 0x4e), ('O', 0x4f), ('P', 0x50), ('Q', 0x51), ('R', 0x52), ('S', 0x53), ('T', 0x54),
   ('U', 0x55), ('V', 0x56), ('W', 0x57), ('X', 0x58), ('Y', 0x59), ('Z', 0x5a), ('Ä', 0x5b),
   ('Ö', 0x5c), ('Ñ', 0x5d), ('Ü', 0x5e), ('§', 0x5f), ('¿', 0x60), ('a', 0x61), ('b', 0x62),
   ('c', 0x63), ('d', 0x64), ('e', 0x65), ('f', 0x66), ('g', 0x67), ('h', 0x68), ('i', 0x69),
   ('j', 0x6a), ('k', 0x6b), ('l', 0x6c), ('m', 0x6d), ('n', 0x6e), ('o', 0x6f), ('p', 0x70),
   ('q', 0x71), ('r', 0x72), ('s', 0x73), ('t', 0x74), ('u', 0x75), ('v', 0x76), ('w', 0x77),
   ('x', 0x78), ('y', 0x79), ('z', 0x7a), ('ä', 0x7b), ('ö', 0x7c), ('ñ', 0x7d), ('ü', 0x7e),
   ('à', 0x7f)]

/-- `forwardEscape`. -/
def forwardEscape : List (Char × UInt8) :=
  [('\x0c', 0x0a), ('^', 0x14), ('\x7b', 0x28), ('\x7d', 0x29), ('\\', 0x2f), ('[', 0x3c),
   ('~', 0x3d), (']', 0x3e), ('|', 0x40), ('€', 0x65)]

/-- `escapeSequence`. -/
def escapeSequence : UInt8 := 0x1B

/-- `GSM7BIT.Encode` of one rune, an error as `none`. -/
def encodeRune (rune : Char) : Option (List UInt8) :=
  match forwardLookup.lookup rune with
  | some value => some [value]
  | none => (forwardEscape.lookup rune).map fun value => [escapeSequence, value]

/-- `ValidateGSM7String`: the runes that are in neither table. -/
def validateGSM7String (text : Text) : Text :=
  text.filter fun rune =>
    (forwardLookup.lookup rune).isNone && (forwardEscape.lookup rune).isNone

/-- The loop of `splitGSM7Text` from a current segment on, an error as `none`. -/
def splitGSM7From (maxSeptets : ℕ) :
    Text → (current : Text) → (currentSeptets : ℕ) → Option (List Text)
  | [], current, currentSeptets => some (if 0 < currentSeptets then [current] else [])
  | rune :: text, current, currentSeptets =>
      match encodeRune rune with
      | none => none
      | some encoded =>
          if 0 < currentSeptets ∧ maxSeptets < currentSeptets + encoded.length then
            (splitGSM7From maxSeptets text [rune] encoded.length).map (current :: ·)
          else
            splitGSM7From maxSeptets text (current ++ [rune]) (currentSeptets + encoded.length)

/-- `splitGSM7Text`. -/
def splitGSM7Text (text : Text) (maxSeptets : ℕ) : List Text :=
  if text.isEmpty ∨ maxSeptets = 0 then []
  else (splitGSM7From maxSeptets text [] 0).getD []

/-- `utf16.Encode` of one rune. -/
def utf16Encode (rune : Char) : List UInt16 :=
  if rune.toNat < 0x10000 then [rune.toNat.toUInt16]
  else
    [(0xD800 + (rune.toNat - 0x10000) / 0x400).toUInt16,
      (0xDC00 + (rune.toNat - 0x10000) % 0x400).toUInt16]

def utf16BigEndian (rune : Char) : List UInt8 :=
  (utf16Encode rune).flatMap fun (unit : UInt16) => [(unit >>> 8).toUInt8, unit.toUInt8]

/-- The loop of `segmentUCS2Text` from a current segment on. -/
def segmentUCS2From (maxOctets : ℕ) : Text → (current : List UInt8) → List (List UInt8)
  | [], current => if 0 < current.length then [current] else []
  | rune :: text, current =>
      if maxOctets < current.length + (utf16BigEndian rune).length ∧ 0 < current.length then
        current :: segmentUCS2From maxOctets text (utf16BigEndian rune)
      else segmentUCS2From maxOctets text (current ++ utf16BigEndian rune)

/-- `segmentUCS2Text`. -/
def segmentUCS2Text (text : Text) (maxOctets : ℕ) : List (List UInt8) :=
  if (segmentUCS2From maxOctets text []).length = 0 then [[]]
  else segmentUCS2From maxOctets text []

def segmentCount (wire : Text) : ℕ :=
  if (validateGSM7String wire).length = 0 then (splitGSM7Text wire 153).length
  else (segmentUCS2Text wire 134).length

def FitsOnePart (wire : Text) : Prop :=
  match gsm7SeptetCount wire with
  | some septets => septets ≤ 160
  | none => utf16CodeUnitCount wire ≤ 70

def septetWidth (char : Char) : ℕ :=
  (septetsOf char).getD 0

instance (wire : Text) : Decidable (FitsOnePart wire) :=
  match count : gsm7SeptetCount wire with
  | some septets => decidable_of_iff (septets ≤ 160) (by simp [FitsOnePart, count])
  | none => decidable_of_iff (utf16CodeUnitCount wire ≤ 70) (by simp [FitsOnePart, count])

/-- The units that stay free because a pair does not fit into the rest of a segment are
no more than what is free in the last segment that the totals fill. -/
def PairsFit (wire : Text) : Prop :=
  match gsm7SeptetCount wire with
  | some septets => (septets - 1) % 153 + lost septetWidth 153 wire < 153
  | none => (utf16CodeUnitCount wire - 1) % 67 + lost codeUnitsOf 67 wire < 67

theorem keys_forwardLookup : forwardLookup.map Prod.fst = gsm7Chars := by
  decide

theorem keys_forwardEscape : forwardEscape.map Prod.fst = gsm7ExtChars := by
  decide

theorem isSome_lookup_iff {table : List (Char × UInt8)} {char : Char} :
    (table.lookup char).isSome = true ↔ char ∈ table.map Prod.fst := by
  rw [List.lookup_isSome_iff]
  simp only [beq_iff_eq, List.mem_map]
  constructor
  · rintro ⟨entry, member, rfl⟩
    exact ⟨entry, member, rfl⟩
  · rintro ⟨entry, member, rfl⟩
    exact ⟨entry, member, rfl⟩

theorem isSome_forwardLookup_iff {char : Char} :
    (forwardLookup.lookup char).isSome = true ↔ char ∈ gsm7Chars := by
  rw [isSome_lookup_iff, keys_forwardLookup]

theorem isSome_forwardEscape_iff {char : Char} :
    (forwardEscape.lookup char).isSome = true ↔ char ∈ gsm7ExtChars := by
  rw [isSome_lookup_iff, keys_forwardEscape]

theorem length_encodeRune (rune : Char) :
    (encodeRune rune).map List.length = septetsOf rune := by
  have basic := @isSome_forwardLookup_iff rune
  have extended := @isSome_forwardEscape_iff rune
  cases inBasic : forwardLookup.lookup rune with
  | some value =>
      rw [inBasic] at basic
      simp [encodeRune, inBasic, septetsOf, basic.mp rfl]
  | none =>
      rw [inBasic] at basic
      have outside : rune ∉ gsm7Chars := fun member => by simpa using basic.mpr member
      cases inExtension : forwardEscape.lookup rune with
      | some value =>
          rw [inExtension] at extended
          simp [encodeRune, inBasic, inExtension, septetsOf, outside, extended.mp rfl]
      | none =>
          rw [inExtension] at extended
          have unknown : rune ∉ gsm7ExtChars := fun member => by
            simpa using extended.mpr member
          simp [encodeRune, inBasic, inExtension, septetsOf, outside, unknown]

def IsGsm7 (text : Text) : Prop :=
  ∀ char ∈ text, (septetsOf char).isSome = true

theorem gsm7SeptetCount_of_isGsm7 {text : Text} (known : IsGsm7 text) :
    gsm7SeptetCount text = some (totalWeight septetWidth text) := by
  induction text with
  | nil => rfl
  | cons char text ih =>
      rcases List.forall_mem_cons.mp known with ⟨knownChar, knownText⟩
      rcases Option.isSome_iff_exists.mp knownChar with ⟨septets, size⟩
      simp [gsm7SeptetCount, size, ih knownText, septetWidth]

theorem isGsm7_of_gsm7SeptetCount {text : Text} {septets : ℕ}
    (count : gsm7SeptetCount text = some septets) : IsGsm7 text := by
  induction text generalizing septets with
  | nil => simp [IsGsm7]
  | cons char text ih =>
      cases size : septetsOf char with
      | none => simp [gsm7SeptetCount, size] at count
      | some width =>
          simp only [gsm7SeptetCount, size, Option.map_eq_some_iff] at count
          rcases count with ⟨rest, countRest, _⟩
          rw [IsGsm7, List.forall_mem_cons]
          exact ⟨by simp [size], ih countRest⟩

theorem validateGSM7String_length_eq_zero_iff {text : Text} :
    (validateGSM7String text).length = 0 ↔ IsGsm7 text := by
  rw [List.length_eq_zero_iff, validateGSM7String, List.filter_eq_nil_iff]
  apply forall₂_congr
  intro char _
  have basic := @isSome_forwardLookup_iff char
  have extended := @isSome_forwardEscape_iff char
  by_cases inBasic : char ∈ gsm7Chars
  · have found := basic.mpr inBasic
    simp [septetsOf, inBasic, Option.isNone_eq_false_iff.mpr found]
  · by_cases inExtension : char ∈ gsm7ExtChars
    · have found := extended.mpr inExtension
      simp [septetsOf, inBasic, inExtension, Option.isNone_eq_false_iff.mpr found]
    · have absent := Option.not_isSome_iff_eq_none.mp (basic.not.mpr inBasic)
      have unescaped := Option.not_isSome_iff_eq_none.mp (extended.not.mpr inExtension)
      simp [septetsOf, inBasic, inExtension, absent, unescaped]

theorem splitGSM7From_eq {text : Text} (known : IsGsm7 text) (maxSeptets : ℕ)
    (current : Text) (used : ℕ) :
    splitGSM7From maxSeptets text current used =
      some (packFrom septetWidth maxSeptets text current used) := by
  induction text generalizing current used with
  | nil => rfl
  | cons char text ih =>
      rcases List.forall_mem_cons.mp known with ⟨knownChar, knownText⟩
      rcases Option.isSome_iff_exists.mp knownChar with ⟨septets, size⟩
      have encoded := length_encodeRune char
      rw [size, Option.map_eq_some_iff] at encoded
      rcases encoded with ⟨bytes, encodes, count⟩
      have width : septetWidth char = septets := by simp [septetWidth, size]
      simp only [splitGSM7From, packFrom, encodes, count, width, ih knownText]
      split <;> rfl

theorem length_utf16BigEndian (rune : Char) :
    (utf16BigEndian rune).length = 2 * codeUnitsOf rune := by
  simp only [utf16BigEndian, utf16Encode, codeUnitsOf]
  by_cases basic : rune.toNat < 0x10000
  · have small : ¬ 0xFFFF < rune.toNat := by omega
    simp [basic, small]
  · have large : 0xFFFF < rune.toNat := by omega
    simp [basic, large]

theorem segmentUCS2From_octets (text : Text) (maxOctets : ℕ) (current : Text) (octets : List UInt8)
    (filled : octets = current.flatMap utf16BigEndian) :
    segmentUCS2From maxOctets text octets =
      (packFrom (fun rune => (utf16BigEndian rune).length) maxOctets text current
        octets.length).map (·.flatMap utf16BigEndian) := by
  induction text generalizing current octets with
  | nil =>
      simp only [segmentUCS2From, packFrom]
      split
      · simp [filled]
      · rfl
  | cons rune text ih =>
      simp only [segmentUCS2From, packFrom, and_comm (b := 0 < octets.length)]
      split
      · rw [ih [rune] (utf16BigEndian rune) (by simp), List.map_cons, filled]
      · rw [ih (current ++ [rune]) _ (by simp [filled]), List.length_append]

theorem segmentUCS2From_eq (text : Text) (maxUnits : ℕ) (current : Text) (octets : List UInt8)
    (used : ℕ) (filled : octets = current.flatMap utf16BigEndian)
    (counted : octets.length = 2 * used) :
    segmentUCS2From (2 * maxUnits) text octets =
      (packFrom codeUnitsOf maxUnits text current used).map (·.flatMap utf16BigEndian) := by
  rw [segmentUCS2From_octets text _ current octets filled, counted]
  simp only [length_utf16BigEndian]
  rw [packFrom_mul Nat.two_pos]

theorem codeUnits_fit (text : Text) :
    ∀ char ∈ text, 0 < codeUnitsOf char ∧ codeUnitsOf char ≤ 67 := by
  intro char _
  rw [codeUnitsOf]
  split <;> omega

theorem septets_fit {text : Text} (known : IsGsm7 text) :
    ∀ char ∈ text, 0 < septetWidth char ∧ septetWidth char ≤ 153 := by
  intro char member
  have isKnown := known char member
  rw [septetWidth]
  rw [septetsOf] at isKnown ⊢
  split
  · simp
  · split <;> simp_all

theorem utf16CodeUnitCount_eq (text : Text) :
    utf16CodeUnitCount text = totalWeight codeUnitsOf text := rfl

theorem length_splitGSM7Text {text : Text} (known : IsGsm7 text) (some : text ≠ []) :
    (splitGSM7Text text 153).length = (pack septetWidth 153 text).length := by
  have opened : ¬ (text.isEmpty = true ∨ 153 = 0) := by simp [some]
  rw [splitGSM7Text, if_neg opened, splitGSM7From_eq known, pack]
  rfl

theorem length_segmentUCS2Text {text : Text} (some : text ≠ []) :
    (segmentUCS2Text text 134).length = (pack codeUnitsOf 67 text).length := by
  have packs := segmentUCS2From_eq text 67 [] [] 0 rfl rfl
  have filled := pack_ne_nil (codeUnits_fit text) some
  have opened : (segmentUCS2From 134 text []).length ≠ 0 := by
    rw [packs, List.length_map]
    simpa [pack] using filled
  rw [segmentUCS2Text, if_neg opened, packs, List.length_map, pack]

theorem ne_nil_of_not_fitsOnePart {wire : Text} (long : ¬ FitsOnePart wire) : wire ≠ [] := by
  rintro rfl
  exact long (by decide)

theorem partsOf_eq_segmentCount_iff {wire : Text} (long : ¬ FitsOnePart wire) :
    partsOf wire = segmentCount wire ↔ PairsFit wire := by
  have some := ne_nil_of_not_fitsOnePart long
  have filled : wire.length ≠ 0 := by simpa using some
  cases count : gsm7SeptetCount wire with
  | some septets =>
      have known := isGsm7_of_gsm7SeptetCount count
      have total : septets = totalWeight septetWidth wire := by
        simpa [count] using gsm7SeptetCount_of_isGsm7 known
      have above : ¬ totalWeight septetWidth wire ≤ 160 := by
        simpa [FitsOnePart, count, total] using long
      have valid := validateGSM7String_length_eq_zero_iff.mpr known
      have positive : 0 < totalWeight septetWidth wire := by omega
      have packed := length_pack_eq_iff (septets_fit known) positive (by omega)
      simp only [partsOf, segmentCount, PairsFit, filled, count, valid, if_true, if_false,
        length_splitGSM7Text known some, total]
      rw [if_neg above, eq_comm]
      exact packed
  | none =>
      have unknown : ¬ (validateGSM7String wire).length = 0 := by
        intro valid
        have known := validateGSM7String_length_eq_zero_iff.mp valid
        simp [gsm7SeptetCount_of_isGsm7 known] at count
      have above : ¬ utf16CodeUnitCount wire ≤ 70 := by simpa [FitsOnePart, count] using long
      have positive : 0 < totalWeight codeUnitsOf wire := by
        rw [← utf16CodeUnitCount_eq]
        omega
      have packed := length_pack_eq_iff (codeUnits_fit wire) positive (by omega)
      simp only [partsOf, segmentCount, PairsFit, filled, count, unknown, if_false,
        length_segmentUCS2Text some]
      rw [if_neg above, eq_comm]
      exact packed

/-- Billing a message without placeholders counts the segments of what is sent exactly
when no pair is pushed over into a segment that the division does not count. -/
theorem countSmsParts_eq_segmentCount_iff (unicode : Unicode) (message : Text)
    (free : FreeOfTrackUrl message)
    (long : ¬ FitsOnePart (sanitizeSmsTextForWire message)) :
    countSmsParts unicode message = segmentCount (sanitizeSmsTextForWire message) ↔
      PairsFit (sanitizeSmsTextForWire message) := by
  rw [countSmsParts_of_free unicode free]
  exact partsOf_eq_segmentCount_iff long

def straddlingMessage : Text :=
  List.replicate 152 'a' ++ '€' :: List.replicate 152 'a'

theorem countSmsParts_eq_segmentCount_iff_straddling :
    (FreeOfTrackUrl straddlingMessage ∧
      ¬ FitsOnePart (sanitizeSmsTextForWire straddlingMessage)) ∧
    (countSmsParts Unicode.ascii straddlingMessage =
        segmentCount (sanitizeSmsTextForWire straddlingMessage) ↔
      PairsFit (sanitizeSmsTextForWire straddlingMessage)) := by
  have free : FreeOfTrackUrl straddlingMessage := by decide +kernel
  have long : ¬ FitsOnePart (sanitizeSmsTextForWire straddlingMessage) := by decide +kernel
  exact ⟨⟨free, long⟩, countSmsParts_eq_segmentCount_iff Unicode.ascii straddlingMessage free long⟩

/-- Two parts are billed for it and three segments are sent. -/
theorem countSmsParts_ne_segmentCount :
    FreeOfTrackUrl straddlingMessage ∧
    ¬ FitsOnePart (sanitizeSmsTextForWire straddlingMessage) ∧
    countSmsParts Unicode.ascii straddlingMessage = 2 ∧
    segmentCount (sanitizeSmsTextForWire straddlingMessage) = 3 := by
  decide +kernel

end Klsmsc.Sms
