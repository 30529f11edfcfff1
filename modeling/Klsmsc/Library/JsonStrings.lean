import Klsmsc.Library.Utf

/-!
# Strings in JSON

A string of JSON stands between quotation marks, and writes each of its characters as itself or
escaped. The reader collects code points, and joins the pairs of surrogates that are escaped one
after the other. How a writer escapes is free, as long as each character is read back; a string
that is written so is read back as it was.
-/

namespace Klsmsc.Library

/-- The value of a hexadecimal digit. -/
def digitOfHex (char : Char) : Option ℕ :=
  if '0' ≤ char ∧ char ≤ '9' then some (char.toNat - '0'.toNat)
  else if 'a' ≤ char ∧ char ≤ 'f' then some (char.toNat - 'a'.toNat + 10)
  else if 'A' ≤ char ∧ char ≤ 'F' then some (char.toNat - 'A'.toNat + 10)
  else none

/-- The code unit behind `\u`. -/
def unitOfHex (a b c d : Char) : Option ℕ := do
  let a ← digitOfHex a
  let b ← digitOfHex b
  let c ← digitOfHex c
  let d ← digitOfHex d
  return ((a * 16 + b) * 16 + c) * 16 + d

/-- The character that a letter behind a backslash stands for. -/
def unescape : Char → Option Char
  | '"' => some '"'
  | '\\' => some '\\'
  | '/' => some '/'
  | 'b' => some '\x08'
  | 'f' => some '\x0C'
  | 'n' => some '\n'
  | 'r' => some '\r'
  | 't' => some '\t'
  | _ => none

/-- The code points and units up to the quotation mark that ends a string. -/
def jsonUnits : List Char → Option (List ℕ)
  | [] => none
  | ['"'] => some []
  | '\\' :: 'u' :: a :: b :: c :: d :: rest => do
      let unit ← unitOfHex a b c d
      (jsonUnits rest).map (unit :: ·)
  | '\\' :: letter :: rest => do
      let char ← unescape letter
      (jsonUnits rest).map (char.toNat :: ·)
  | char :: rest =>
      if char = '"' ∨ char = '\\' ∨ char.toNat < 0x20 then none
      else (jsonUnits rest).map (char.toNat :: ·)

/-- The code points of a string of JSON. -/
def readJsonString : List Char → Option (List ℕ)
  | '"' :: rest => (jsonUnits rest).map joinSurrogates
  | _ => none

/-- A way to write characters so that each of them is read back, whatever follows. -/
structure Escaping where
  escape : Char → List Char
  read : ∀ char rest, jsonUnits (escape char ++ rest) = (jsonUnits rest).map (char.toNat :: ·)

/-- A text as a string of JSON. -/
def Escaping.quote (escaping : Escaping) (text : List Char) : List Char :=
  '"' :: text.flatMap escaping.escape ++ ['"']

/-- A character that needs no escape is read as itself. -/
theorem jsonUnits_plain {char : Char} (quote : char ≠ '"') (backslash : char ≠ '\\')
    (printed : 0x20 ≤ char.toNat) (rest : List Char) :
    jsonUnits (char :: rest) = (jsonUnits rest).map (char.toNat :: ·) := by
  have plain : ¬(char = '"' ∨ char = '\\' ∨ char.toNat < 0x20) := by
    simp [quote, backslash]
    omega
  rw [jsonUnits.eq_def]
  split
  · contradiction
  all_goals grind

theorem jsonUnits_letter {letter char : Char} (known : unescape letter = some char)
    (rest : List Char) :
    jsonUnits ('\\' :: letter :: rest) = (jsonUnits rest).map (char.toNat :: ·) := by
  have other : letter ≠ 'u' := by
    rintro rfl
    have unknown : unescape 'u' = none := by decide
    rw [unknown] at known
    contradiction
  rw [jsonUnits.eq_def]
  split <;> grind

theorem jsonUnits_unit {a b c d : Char} {unit : ℕ} (value : unitOfHex a b c d = some unit)
    (rest : List Char) :
    jsonUnits ('\\' :: 'u' :: a :: b :: c :: d :: rest) =
      (jsonUnits rest).map (unit :: ·) := by
  rw [jsonUnits, value]
  rfl

theorem digitOfHex_digitChar {digit : ℕ} (small : digit < 16) :
    digitOfHex digit.digitChar = some digit := by
  decide +revert

/-- A unit below 256 with its two digits. -/
theorem unitOfHex_octet {unit : ℕ} (small : unit < 256) :
    unitOfHex '0' '0' (unit / 16).digitChar (unit % 16).digitChar = some unit := by
  have high := digitOfHex_digitChar (show unit / 16 < 16 by omega)
  have low := digitOfHex_digitChar (show unit % 16 < 16 by omega)
  have zero : digitOfHex '0' = some 0 := by decide
  rw [unitOfHex, zero, high, low]
  simp only [Option.bind_eq_bind, Option.bind_some, Option.pure_def, Option.some.injEq]
  omega

namespace Escaping

variable (escaping : Escaping)

theorem jsonUnits_escape (text rest : List Char) :
    jsonUnits (text.flatMap escaping.escape ++ rest) =
      (jsonUnits rest).map (text.map Char.toNat ++ ·) := by
  induction text with
  | nil => simp
  | cons char text ih =>
      rw [List.flatMap_cons, List.append_assoc, escaping.read, ih, Option.map_map]
      rfl

/-- A text is read back as it was written. -/
theorem readJsonString_quote (text : List Char) :
    readJsonString (escaping.quote text) = some (text.map Char.toNat) := by
  have ended : jsonUnits ['"'] = some [] := rfl
  rw [quote, List.cons_append, readJsonString, jsonUnits_escape, ended, Option.map_some,
    Option.map_some, List.append_nil, joinSurrogates_text]

end Escaping

end Klsmsc.Library
