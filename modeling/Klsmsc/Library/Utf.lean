import Mathlib.Data.List.Basic
import Mathlib.Data.Nat.Notation

/-!
# Characters as bytes and as code units

Texts as sequences of UTF-8 bytes, and characters as UTF-16 code units in big-endian byte order.
A character of the basic plane is one unit, any other a pair of surrogates, and no unit of a pair
is a character by itself. Bytes that are no text are read as characters too, with a replacement
character for each byte that starts none.
-/

namespace Klsmsc.Library

/-- A text in UTF-8. -/
def utf8 (text : List Char) : List UInt8 :=
  text.flatMap String.utf8EncodeChar

theorem utf8_flatMap {α : Type} (entries : List α) (text : α → List Char) :
    utf8 (entries.flatMap text) = entries.flatMap fun entry => utf8 (text entry) := by
  unfold utf8
  rw [List.flatMap_assoc]

theorem utf8_injective : Function.Injective utf8 := by
  intro left right same
  have encoded : left.utf8Encode = right.utf8Encode := congrArg List.toByteArray same
  have decoded := congrArg ByteArray.utf8Decode? encoded
  simpa using decoded

/-- The character is in the basic multilingual plane. -/
def InBasicPlane (char : Char) : Prop :=
  char.toNat < 0x10000

instance : DecidablePred InBasicPlane :=
  fun char => inferInstanceAs (Decidable (char.toNat < 0x10000))

/-- The UTF-16 code units of a character. -/
def utf16Units (char : Char) : List ℕ :=
  if InBasicPlane char then [char.toNat]
  else
    [0xD800 + (char.toNat - 0x10000) / 0x400 % 0x400, 0xDC00 + (char.toNat - 0x10000) % 0x400]

/-- A code unit in big-endian byte order. -/
def bigEndian (unit : ℕ) : List UInt8 :=
  [UInt8.ofNat (unit / 256), UInt8.ofNat unit]

/-- The two bytes of a code unit, read back. -/
def ofBigEndian (high low : UInt8) : ℕ :=
  high.toNat * 256 + low.toNat

/-- The bytes of a character in UTF-16BE. -/
def utf16Bytes (char : Char) : List UInt8 :=
  (utf16Units char).flatMap bigEndian

/-- A code point as a character; one that is no character is replaced. -/
def charOrReplacement (code : ℕ) : Char :=
  if valid : code.isValidChar then Char.ofNatAux code valid else '\uFFFD'

theorem ofBigEndian_bigEndian {unit : ℕ} (small : unit < 0x10000) :
    ofBigEndian (UInt8.ofNat (unit / 256)) (UInt8.ofNat unit) = unit := by
  simp only [ofBigEndian, UInt8.toNat_ofNat']
  omega

theorem char_toNat_lt (char : Char) : char.toNat < 0x110000 := by
  rcases char.valid with small | ⟨_, small⟩
  · exact Nat.lt_trans small (by decide)
  · exact small

theorem utf16Units_lt {char : Char} {unit : ℕ} (member : unit ∈ utf16Units char) :
    unit < 0x10000 := by
  have bound := char_toNat_lt char
  unfold utf16Units at member
  split at member
  · rw [List.mem_singleton.mp member]
    assumption
  · rcases List.mem_cons.mp member with rfl | isLow
    · omega
    · rw [List.mem_singleton.mp isLow]
      omega

theorem charOrReplacement_toNat (char : Char) : charOrReplacement char.toNat = char := by
  have valid : char.toNat.isValidChar := char.valid
  rw [charOrReplacement, dif_pos valid]
  exact Char.ext rfl

/-- A surrogate is no character. -/
theorem charOrReplacement_surrogate {code : ℕ} (low : 0xD800 ≤ code) (high : code < 0xE000) :
    charOrReplacement code = '\uFFFD' := by
  apply dif_neg
  rintro (small | ⟨large, _⟩) <;> omega

/-- What remains of a character when its code units are read one by one. -/
def readByUnits (char : Char) : List Char :=
  if InBasicPlane char then [char] else ['\uFFFD', '\uFFFD']

theorem map_utf16Units (char : Char) :
    (utf16Units char).map charOrReplacement = readByUnits char := by
  have bound := char_toNat_lt char
  unfold utf16Units readByUnits
  by_cases basic : InBasicPlane char
  · rw [if_pos basic, if_pos basic, List.map_singleton, charOrReplacement_toNat]
  · rw [if_neg basic, if_neg basic, List.map_cons, List.map_singleton,
      charOrReplacement_surrogate (by omega) (by omega),
      charOrReplacement_surrogate (by omega) (by omega)]

/-- Reading units one by one gives a text back exactly when it stays in the basic plane. -/
theorem flatMap_readByUnits_iff (text : List Char) :
    text.flatMap readByUnits = text ↔ ∀ char ∈ text, InBasicPlane char := by
  have atLeast : ∀ part : List Char, part.length ≤ (part.flatMap readByUnits).length := by
    intro part
    induction part with
    | nil => exact Nat.le_refl 0
    | cons char part ih =>
        have one : 1 ≤ (readByUnits char).length := by
          unfold readByUnits
          split <;> simp
        rw [List.flatMap_cons, List.length_append, List.length_cons]
        omega
  induction text with
  | nil => simp
  | cons char text ih =>
      rw [List.forall_mem_cons, List.flatMap_cons]
      by_cases basic : InBasicPlane char
      · simp only [readByUnits, basic, if_true, List.singleton_append, List.cons.injEq, true_and]
        exact ih
      · have longer := atLeast text
        constructor
        · intro same
          have lengths := congrArg List.length same
          simp only [readByUnits, basic, if_false, List.length_append, List.length_cons,
            List.length_nil] at lengths
          omega
        · exact fun both => absurd both.1 basic

/-! ### Reading bytes as characters -/

/-- The characters of some bytes, at most `bound` of them. -/
def runesUpTo : ℕ → List UInt8 → List Char
  | 0, _ => []
  | _ + 1, [] => []
  | bound + 1, byte :: rest =>
      match (byte :: rest).toByteArray.utf8DecodeChar? 0 with
      | some char => char :: runesUpTo bound ((byte :: rest).drop char.utf8Size)
      | none => '\uFFFD' :: runesUpTo bound rest

/-- The characters of some bytes. A byte that starts no character is replaced. -/
def runes (bytes : List UInt8) : List Char :=
  runesUpTo bytes.length bytes

@[simp]
theorem utf8_nil : utf8 [] = [] := rfl

theorem utf8_cons (char : Char) (text : List Char) :
    utf8 (char :: text) = String.utf8EncodeChar char ++ utf8 text := rfl

theorem runesUpTo_utf8 (text : List Char) (bound : ℕ) (enough : (utf8 text).length ≤ bound) :
    runesUpTo bound (utf8 text) = text := by
  induction text generalizing bound with
  | nil => cases bound <;> rfl
  | cons char text ih =>
      have size := String.length_utf8EncodeChar char
      have positive := char.utf8Size_pos
      rw [utf8_cons, List.length_append] at enough
      rw [utf8_cons]
      obtain ⟨byte, rest, encoded⟩ : ∃ byte rest, String.utf8EncodeChar char = byte :: rest := by
        apply List.exists_cons_of_ne_nil
        rw [← List.length_pos_iff]
        omega
      obtain ⟨bound, rfl⟩ := Nat.exists_eq_add_of_lt (by omega : 0 < bound)
      have decoded : (String.utf8EncodeChar char ++ utf8 text).toByteArray.utf8DecodeChar? 0 =
          some char := by
        rw [List.toByteArray_append]
        exact ByteArray.utf8DecodeChar?_utf8EncodeChar_append
      have behind : (String.utf8EncodeChar char ++ utf8 text).drop char.utf8Size = utf8 text := by
        rw [← size, List.drop_left]
      rw [encoded, List.cons_append] at decoded behind
      rw [encoded, List.cons_append, Nat.zero_add, runesUpTo, decoded]
      dsimp only
      rw [behind, ih bound (by omega)]

/-- A text is read as its characters. -/
@[simp]
theorem runes_utf8 (text : List Char) : runes (utf8 text) = text :=
  runesUpTo_utf8 text _ (Nat.le_refl _)

/-- Bytes that come back from their characters are a text. -/
theorem utf8_runes_eq_iff (bytes : List UInt8) :
    utf8 (runes bytes) = bytes ↔ ∃ text, utf8 text = bytes := by
  constructor
  · exact fun same => ⟨runes bytes, same⟩
  · rintro ⟨text, rfl⟩
    rw [runes_utf8]

/-! ### Reading code units as characters -/

/-- The first half of a pair of surrogates. -/
def IsHighSurrogate (unit : ℕ) : Prop :=
  0xD800 ≤ unit ∧ unit < 0xDC00

/-- The second half of a pair of surrogates. -/
def IsLowSurrogate (unit : ℕ) : Prop :=
  0xDC00 ≤ unit ∧ unit < 0xE000

instance : DecidablePred IsHighSurrogate :=
  fun unit => inferInstanceAs (Decidable (0xD800 ≤ unit ∧ unit < 0xDC00))

instance : DecidablePred IsLowSurrogate :=
  fun unit => inferInstanceAs (Decidable (0xDC00 ≤ unit ∧ unit < 0xE000))

/-- Pairs of surrogates joined to code points. -/
def joinSurrogates : List ℕ → List ℕ
  | high :: low :: rest =>
      if IsHighSurrogate high ∧ IsLowSurrogate low then
        (0x10000 + (high - 0xD800) * 0x400 + (low - 0xDC00)) :: joinSurrogates rest
      else high :: joinSurrogates (low :: rest)
  | units => units

theorem not_isHighSurrogate (char : Char) : ¬IsHighSurrogate char.toNat := by
  rintro ⟨low, high⟩
  rcases char.valid with small | ⟨large, _⟩
  · exact absurd small (Nat.not_lt.mpr low)
  · exact absurd large (Nat.not_lt.mpr (by omega : char.toNat ≤ 0xDFFF))

theorem joinSurrogates_cons {unit : ℕ} (single : ¬IsHighSurrogate unit) (units : List ℕ) :
    joinSurrogates (unit :: units) = unit :: joinSurrogates units := by
  cases units with
  | nil => simp [joinSurrogates]
  | cons next units => rw [joinSurrogates, if_neg fun pair => single pair.1]

/-- The characters of a text are no surrogates. -/
theorem joinSurrogates_text (text : List Char) :
    joinSurrogates (text.map Char.toNat) = text.map Char.toNat := by
  induction text with
  | nil => simp [joinSurrogates]
  | cons char text ih => rw [List.map_cons, joinSurrogates_cons (not_isHighSurrogate char), ih]

theorem joinSurrogates_utf16Units (char : Char) (units : List ℕ) :
    joinSurrogates (utf16Units char ++ units) = char.toNat :: joinSurrogates units := by
  have bound := char_toNat_lt char
  unfold utf16Units
  by_cases basic : InBasicPlane char
  · rw [if_pos basic, List.singleton_append, joinSurrogates_cons (not_isHighSurrogate char)]
  · have large : 0x10000 ≤ char.toNat := Nat.not_lt.mp basic
    have high : IsHighSurrogate (0xD800 + (char.toNat - 0x10000) / 0x400 % 0x400) := by
      unfold IsHighSurrogate
      omega
    have low : IsLowSurrogate (0xDC00 + (char.toNat - 0x10000) % 0x400) := by
      unfold IsLowSurrogate
      omega
    have value : 0x10000 + (0xD800 + (char.toNat - 0x10000) / 0x400 % 0x400 - 0xD800) * 0x400 +
        (0xDC00 + (char.toNat - 0x10000) % 0x400 - 0xDC00) = char.toNat := by
      omega
    rw [if_neg basic, List.cons_append, List.singleton_append, joinSurrogates,
      if_pos ⟨high, low⟩, value]

/-- The code points of a text in code units are its characters. -/
theorem joinSurrogates_flatMap (text : List Char) :
    joinSurrogates (text.flatMap utf16Units) = text.map Char.toNat := by
  induction text with
  | nil => simp [joinSurrogates]
  | cons char text ih => rw [List.flatMap_cons, joinSurrogates_utf16Units, ih, List.map_cons]

end Klsmsc.Library
