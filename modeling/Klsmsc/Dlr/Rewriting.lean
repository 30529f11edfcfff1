import Klsmsc.Dlr.Absorbing
import Klsmsc.Dlr.Candidates
import Klsmsc.Library.Numerals

/-!
# Rewritten upstream ids

A report that is written to a row also overwrites the upstream id of the row with its own spelling.
A decimal id is looked for with `0x` in front of its hexadecimal digits, a hexadecimal id only as a
decimal number, so the spellings are not those of an equivalence: an id without `0x` that overwrites
a decimal one is not found again. An earlier report keeps its match just if every later one spells
its id in one of four ways.
-/

namespace Klsmsc

open Library

/-! ### Numbers as text -/

section Numbers

variable {unicode : Unicode}

theorem digitsValue_eq_foldl {digit : Char → Option ℕ} {value : Char → ℕ} {base start : ℕ}
    {text : List Char} (nonempty : text ≠ [])
    (digits : ∀ char ∈ text, digit char = some (value char) ∧ char ≠ '_') :
    digitsValue digit base start text =
      some (text.foldl (fun sum char => sum * base + value char) start) := by
  fun_induction digitsValue digit base start text with
  | case1 => exact absurd rfl nonempty
  | case2 start char => simp [(digits char (by simp)).1]
  | case3 start char rest ih => exact absurd rfl (digits '_' (by simp)).2
  | case4 start char rest notEmpty notUnderscore ih =>
      rw [(digits char (by simp)).1, Option.bind_some]
      exact ih _ notEmpty fun other found => digits other (by simp [found])

theorem decimal_digits (number : ℕ) : ∀ char ∈ Nat.toDigits 10 number,
    char.toNat < 128 ∧ char.isDigit = true ∧ char ≠ '_' ∧
      Unicode.ascii.decimal char = some (char.toNat - '0'.toNat) :=
  forall_mem_toDigits (by decide) (by decide) number

theorem hexadecimal_digits (number : ℕ) : ∀ char ∈ Nat.toDigits 16 number,
    char.toNat < 128 ∧ char.toLower = char ∧ char ≠ '_' ∧ char ≠ 'x' ∧ char ≠ 'X' ∧ char ≠ 'k' :=
  forall_mem_toDigits (by decide) (by decide) number

theorem hexadecimal_of_toLower {char : Char} (small : char.toNat < 128) :
    ∀ digit < 16, char.toLower = Nat.digitChar digit →
      Unicode.ascii.hexadecimal char = some digit :=
  @forall_ascii (fun char => ∀ digit < 16, char.toLower = Nat.digitChar digit →
    Unicode.ascii.hexadecimal char = some digit) (by decide) char small

theorem decimalValue_toString (lawful : unicode.Lawful) (number : ℕ) :
    digitsValue unicode.decimal 10 0 (toString number).toList = some number := by
  have digits := decimal_digits number
  rw [toList_toString,
    digitsValue_congr fun char found => lawful.decimal char (digits char found).1,
    digitsValue_eq_foldl Nat.toDigits_ne_nil fun char found =>
      ⟨(digits char found).2.2.2, (digits char found).2.2.1⟩,
    foldl_toDigits (by decide) (by decide)]

/-- `int(text, 16)`, of a text that is `hex(number)` in lower case, without its first two
characters. -/
theorem hexValue_of_toLower (lawful : unicode.Lawful) {text : List Char} {number : ℕ}
    (small : ∀ char ∈ text, char.toNat < 128)
    (lowered : text.map Char.toLower = Nat.toDigits 16 number) :
    hexValue unicode text = some number := by
  have value : ∀ digit < 16,
      ((Unicode.ascii.hexadecimal (Nat.digitChar digit)).getD 0) = digit := by decide
  have digits : ∀ char ∈ text, Unicode.ascii.hexadecimal char =
        some ((Unicode.ascii.hexadecimal char.toLower).getD 0) ∧ char ≠ '_' := by
    intro char found
    have inDigits : char.toLower ∈ Nat.toDigits 16 number :=
      lowered ▸ List.mem_map_of_mem found
    obtain ⟨digit, bound, isDigit⟩ :=
      @forall_mem_toDigits 16 (fun char => ∃ digit < 16, char = Nat.digitChar digit) (by decide)
        (fun digit bound => ⟨digit, bound, rfl⟩) number _ inDigits
    refine ⟨?_, ?_⟩
    · rw [hexadecimal_of_toLower (small char found) digit bound isDigit, isDigit,
        value digit bound]
    · rintro rfl
      exact (hexadecimal_digits number _ inDigits).2.2.1 (by decide)
  have nonempty : text ≠ [] := by
    rintro rfl
    exact Nat.toDigits_ne_nil lowered.symm
  have plain : hexValue unicode text = digitsValue unicode.hexadecimal 16 0 text := by
    unfold hexValue
    split
    · rename_i rest
      exact absurd rfl (digits '_' (by simp)).2
    · rfl
  rw [plain, digitsValue_congr fun char found => lawful.hexadecimal (small char found),
    digitsValue_eq_foldl nonempty digits,
    ← List.foldl_map (f := Char.toLower)
      (g := fun sum char => sum * 16 + (Unicode.ascii.hexadecimal char).getD 0),
    lowered, foldl_toDigits (by decide) value]

end Numbers

/-! ### Spellings of an id -/

section Spellings

variable {unicode : Unicode} {text other : String} {number : ℕ}

def Spells (unicode : Unicode) (text other : String) : Prop :=
  other = text ∨
    (hasHexLetter unicode text = true ∧
      (other = unicode.upper text ∨ other = unicode.lower text)) ∨
    otherBase unicode text = some other

/-- The id is hexadecimal, with or without `0x`. -/
def isHexadecimal (unicode : Unicode) (text : String) : Bool :=
  startsWithZeroX text || !text.toList.all unicode.isDigit && hexDigitsOnly text

/-- The other id is the same, or the same in another case, or the id is hexadecimal and the
other one is a number as `str` writes it, or the id is decimal and the other one is a number as
`hex` writes it. -/
def Respells (unicode : Unicode) (text other : String) : Prop :=
  other = text ∨
    (hasHexLetter unicode text = true ∧
      (other = unicode.upper text ∨ other = unicode.lower text)) ∨
    (isHexadecimal unicode text = true ∧ ∃ number : ℕ, other = toString number) ∨
    (text.toList.all unicode.isDigit = true ∧ ∃ number, other = hexText number)

theorem mem_expandIdCandidates_iff_spells {raw : String} :
    other ∈ expandIdCandidates unicode raw ↔
      strip unicode raw ≠ "" ∧ Spells unicode (strip unicode raw) other :=
  mem_expandIdCandidates

theorem toList_hexText (number : ℕ) :
    (hexText number).toList = '0' :: 'x' :: Nat.toDigits 16 number := by
  simp [hexText]

theorem x_mem_hexText (number : ℕ) : 'x' ∈ (hexText number).toList := by
  rw [toList_hexText]
  simp

theorem hexText_chars (number : ℕ) : ∀ char ∈ (hexText number).toList,
    char.toNat < 128 ∧ char.toLower = char ∧ char ≠ 'X' ∧ char ≠ 'k' := by
  intro char found
  rw [toList_hexText, List.mem_cons, List.mem_cons] at found
  rcases found with rfl | rfl | found
  · decide
  · decide
  · have digit := hexadecimal_digits number char found
    exact ⟨digit.1, digit.2.1, digit.2.2.2.2.1, digit.2.2.2.2.2⟩

theorem toString_isDigit (lawful : unicode.Lawful) (number : ℕ) :
    (toString number).toList.all unicode.isDigit = true := by
  rw [List.all_eq_true, toList_toString]
  intro char found
  have digit := decimal_digits number char found
  rw [lawful.isDigit char digit.1]
  exact digit.2.1

theorem x_mem_of_startsWithZeroX (prefixed : startsWithZeroX text = true) :
    'x' ∈ text.toList ∨ 'X' ∈ text.toList := by
  rw [startsWithZeroX, Bool.or_eq_true] at prefixed
  rcases prefixed with lower | upper
  · exact .inl ((List.isPrefixOf_iff_prefix.mp lower).subset (by decide))
  · exact .inr ((List.isPrefixOf_iff_prefix.mp upper).subset (by decide))

section Digits

variable (lawful : unicode.Lawful) (digits : text.toList.all unicode.isDigit = true)

include lawful digits

theorem isDigit_of_mem {char : Char} (found : char ∈ text.toList) (small : char.toNat < 128) :
    char.isDigit = true := by
  rw [← lawful.isDigit char small]
  exact List.all_eq_true.mp digits char found

theorem hasHexLetter_of_digits : hasHexLetter unicode text = false := by
  rw [hasHexLetter, lawful.digits text digits, List.any_eq_false]
  intro char found letter
  have letters : "ABCDEF".toList.all (fun char => char.toNat < 128 && !char.isDigit) = true := by
    decide
  have isLetter := List.all_eq_true.mp letters char (by simpa using letter)
  rw [Bool.and_eq_true, decide_eq_true_eq] at isLetter
  have digit := isDigit_of_mem lawful digits found isLetter.1
  simp [digit] at isLetter

theorem startsWithZeroX_of_digits : startsWithZeroX text = false := by
  by_contra prefixed
  rcases x_mem_of_startsWithZeroX (by simpa using prefixed) with found | found
  · exact absurd (isDigit_of_mem lawful digits found (by decide)) (by decide)
  · exact absurd (isDigit_of_mem lawful digits found (by decide)) (by decide)

theorem otherBase_of_digits :
    otherBase unicode text = (digitsValue unicode.decimal 10 0 text.toList).map hexText := by
  rw [otherBase, startsWithZeroX_of_digits lawful digits]
  simp [digits]

end Digits

theorem hexDigit_chars (hex : hexDigitsOnly text = true) {char : Char}
    (found : char ∈ text.toList) :
    char.toNat < 128 ∧ char ≠ 'x' ∧ char.toUpper ≠ 'x' ∧ char.toLower ≠ 'x' ∧
      (char.isDigit = false → char.toUpper.isDigit = false ∧ char.toLower.isDigit = false ∧
        char.toUpper.toNat < 128 ∧ char.toLower.toNat < 128) := by
  have digits : "0123456789abcdefABCDEF".toList.all (fun char =>
      char.toNat < 128 ∧ char ≠ 'x' ∧ char.toUpper ≠ 'x' ∧ char.toLower ≠ 'x' ∧
        (char.isDigit = false → char.toUpper.isDigit = false ∧ char.toLower.isDigit = false ∧
          char.toUpper.toNat < 128 ∧ char.toLower.toNat < 128)) = true := by
    decide
  have member := List.all_eq_true.mp hex char found
  simpa only [decide_eq_true_eq] using
    List.all_eq_true.mp digits char (List.contains_iff_mem.mp member)

def IsCase (unicode : Unicode) (text other : String) : Prop :=
  other = text ∨ other = unicode.upper text ∨ other = unicode.lower text

theorem Spells.isCase_or (spells : Spells unicode text other) :
    IsCase unicode text other ∨ otherBase unicode text = some other := by
  rcases spells with same | ⟨-, cased⟩ | converted
  · exact .inl (.inl same)
  · exact .inl (.inr cased)
  · exact .inr converted

theorem x_not_mem_of_hexDigitsOnly (lawful : unicode.Lawful) (hex : hexDigitsOnly text = true)
    (cased : IsCase unicode text other) : 'x' ∉ other.toList := by
  have small : ∀ char ∈ text.toList, char.toNat < 128 :=
    fun char found => (hexDigit_chars hex found).1
  rcases cased with rfl | rfl | rfl
  · intro found
    exact (hexDigit_chars hex found).2.1 rfl
  · rw [lawful.upper text small, Unicode.toList_upper_ascii, List.mem_map]
    rintro ⟨char, found, isX⟩
    exact (hexDigit_chars hex found).2.2.1 isX
  · rw [lawful.lower text small, Unicode.toList_lower_ascii, List.mem_map]
    rintro ⟨char, found, isX⟩
    exact (hexDigit_chars hex found).2.2.2.1 isX

theorem ne_toString_of_isHexadecimal (lawful : unicode.Lawful)
    (hexadecimal : isHexadecimal unicode text = true) (cased : IsCase unicode text other) :
    other ≠ toString number := by
  rintro rfl
  have digits := toString_isDigit lawful number
  suffices letter : ∃ char ∈ (toString number).toList, char.toNat < 128 ∧ char.isDigit = false by
    obtain ⟨char, found, small, noDigit⟩ := letter
    rw [isDigit_of_mem lawful digits found small] at noDigit
    cases noDigit
  rw [isHexadecimal, Bool.or_eq_true] at hexadecimal
  rcases hexadecimal with prefixed | bare
  · have x := x_mem_of_startsWithZeroX prefixed
    rcases cased with same | upper | lower
    · rw [same]
      rcases x with found | found
      · exact ⟨'x', found, by decide⟩
      · exact ⟨'X', found, by decide⟩
    · exact ⟨'X', upper ▸ lawful.upperX text x, by decide⟩
    · exact ⟨'x', lower ▸ lawful.lowerX text x, by decide⟩
  · rw [Bool.and_eq_true, Bool.not_eq_true', List.all_eq_false] at bare
    obtain ⟨⟨char, found, noDigit⟩, hex⟩ := bare
    have facts := hexDigit_chars hex found
    rw [lawful.isDigit char facts.1, Bool.not_eq_true] at noDigit
    have small : ∀ char ∈ text.toList, char.toNat < 128 :=
      fun char found => (hexDigit_chars hex found).1
    have variants := facts.2.2.2.2 noDigit
    rcases cased with same | upper | lower
    · exact ⟨char, same ▸ found, facts.1, noDigit⟩
    · refine ⟨char.toUpper, ?_, variants.2.2.1, variants.1⟩
      rw [upper, lawful.upper text small, Unicode.toList_upper_ascii]
      exact List.mem_map_of_mem found
    · refine ⟨char.toLower, ?_, variants.2.2.2, variants.2.1⟩
      rw [lower, lawful.lower text small, Unicode.toList_lower_ascii]
      exact List.mem_map_of_mem found

theorem otherBase_of_toLower (lawful : unicode.Lawful) (prefixed : startsWithZeroX text = true)
    (small : ∀ char ∈ text.toList, char.toNat < 128)
    (lowered : text.toList.map Char.toLower = (hexText number).toList) :
    otherBase unicode text = some (toString number) := by
  have rest : (text.toList.drop 2).map Char.toLower = Nat.toDigits 16 number := by
    rw [List.map_drop, lowered, toList_hexText]
    rfl
  rw [otherBase, if_pos prefixed,
    hexValue_of_toLower lawful (fun char found => small char (List.mem_of_mem_drop found)) rest]
  rfl

theorem startsWithZeroX_hexText (number : ℕ) : startsWithZeroX (hexText number) = true := by
  rw [startsWithZeroX, toList_hexText]
  rfl

theorem hexText_lowered (number : ℕ) :
    (hexText number).toList.map Char.toLower = (hexText number).toList :=
  (List.map_congr_left fun char found => (hexText_chars number char found).2.1).trans
    (List.map_id _)

theorem Spells.of_hexText (lawful : unicode.Lawful)
    (spells : Spells unicode (hexText number) other) :
    other = hexText number ∨ other = toString number ∨ 'X' ∈ other.toList := by
  have small : ∀ char ∈ (hexText number).toList, char.toNat < 128 :=
    fun char found => (hexText_chars number char found).1
  rcases spells.isCase_or with (same | upper | lower) | converted
  · exact .inl same
  · exact .inr (.inr (upper ▸ lawful.upperX _ (.inl (x_mem_hexText number))))
  · refine .inl ?_
    rw [lower, lawful.lower _ small]
    apply String.toList_injective
    rw [Unicode.toList_lower_ascii, hexText_lowered]
  · rw [otherBase_of_toLower lawful (startsWithZeroX_hexText number) small
      (hexText_lowered number), Option.some.injEq] at converted
    exact .inr (.inl converted.symm)

theorem Spells.of_digits (lawful : unicode.Lawful)
    (digits : text.toList.all unicode.isDigit = true) (spells : Spells unicode text other) :
    other = text ∨ ∃ value, digitsValue unicode.decimal 10 0 text.toList = some value ∧
      other = hexText value := by
  rcases spells with same | ⟨letter, -⟩ | converted
  · exact .inl same
  · rw [hasHexLetter_of_digits lawful digits] at letter
    cases letter
  · rw [otherBase_of_digits lawful digits, Option.map_eq_some_iff] at converted
    obtain ⟨value, read, written⟩ := converted
    exact .inr ⟨value, read, written.symm⟩

theorem Spells.of_toString (lawful : unicode.Lawful)
    (spells : Spells unicode (toString number) other) :
    other = toString number ∨ other = hexText number := by
  rcases spells.of_digits lawful (toString_isDigit lawful number) with same | ⟨value, read, hex⟩
  · exact .inl same
  · rw [decimalValue_toString lawful, Option.some.injEq] at read
    exact .inr (read ▸ hex)

theorem hexText_ne_toString (lawful : unicode.Lawful) (left right : ℕ) :
    hexText left ≠ toString right := by
  intro equal
  have found : 'x' ∈ (toString right).toList := equal ▸ x_mem_hexText left
  exact absurd (isDigit_of_mem lawful (toString_isDigit lawful right) found (by decide))
    (by decide)

theorem otherBase_of_isHexadecimal (hexadecimal : isHexadecimal unicode text = true)
    (converted : otherBase unicode text = some other) : ∃ value : ℕ, other = toString value := by
  rw [otherBase] at converted
  split at converted
  · rw [Option.map_eq_some_iff] at converted
    obtain ⟨value, -, written⟩ := converted
    exact ⟨value, written.symm⟩
  · rename_i notPrefixed
    split at converted
    · rename_i digits
      simp [isHexadecimal, notPrefixed, digits] at hexadecimal
    · split at converted
      · rw [Option.map_eq_some_iff] at converted
        obtain ⟨value, -, written⟩ := converted
        exact ⟨value, written.symm⟩
      · cases converted

theorem Spells.otherBase_of_isHexadecimal (lawful : unicode.Lawful)
    (hexadecimal : isHexadecimal unicode text = true) (spells : Spells unicode text other)
    (isNumber : other = toString number ∨ other = hexText number) :
    otherBase unicode text = some (toString number) := by
  rcases isNumber with rfl | rfl
  · rcases spells.isCase_or with cased | converted
    · exact absurd rfl (ne_toString_of_isHexadecimal lawful hexadecimal cased)
    · exact converted
  · rcases spells.isCase_or with cased | converted
    · have x := x_mem_hexText number
      have prefixed : startsWithZeroX text = true := by
        rw [isHexadecimal, Bool.or_eq_true] at hexadecimal
        refine hexadecimal.resolve_right fun bare => ?_
        exact x_not_mem_of_hexDigitsOnly lawful (Bool.and_eq_true_iff.mp bare).2 cased x
      rcases cased with same | upper | lower
      · refine otherBase_of_toLower lawful prefixed ?_ (same ▸ hexText_lowered number)
        exact same ▸ fun char found => (hexText_chars number char found).1
      · have isX := lawful.upperX text (x_mem_of_startsWithZeroX prefixed)
        rw [← upper] at isX
        exact absurd rfl (hexText_chars number 'X' isX).2.2.1
      · have small : ∀ char ∈ text.toList, char.toNat < 128 := by
          intro original member
          by_contra large
          obtain ⟨char, found, outside⟩ :=
            lawful.lowerOther text ⟨original, member, Nat.le_of_not_lt large⟩
          rw [← lower] at found
          have facts := hexText_chars number char found
          rcases outside with large | isK
          · omega
          · exact facts.2.2.2 isK
        refine otherBase_of_toLower lawful prefixed small ?_
        rw [lower, lawful.lower text small, Unicode.toList_lower_ascii]
    · obtain ⟨value, decimal⟩ := Klsmsc.otherBase_of_isHexadecimal hexadecimal converted
      exact absurd decimal (hexText_ne_toString lawful number value)

theorem Spells.otherBase_of_digits (lawful : unicode.Lawful)
    (digits : text.toList.all unicode.isDigit = true) (spells : Spells unicode text other)
    (isNumber : other = hexText number ∨ other = toString number ∨ 'X' ∈ other.toList) :
    otherBase unicode text = some (hexText number) := by
  rw [Klsmsc.otherBase_of_digits lawful digits]
  have noDigit : ∀ char ∈ text.toList, char ≠ 'x' ∧ char ≠ 'X' := by
    intro char found
    refine ⟨?_, ?_⟩
    · rintro rfl
      exact absurd (isDigit_of_mem lawful digits found (by decide)) (by decide)
    · rintro rfl
      exact absurd (isDigit_of_mem lawful digits found (by decide)) (by decide)
  rcases spells.of_digits lawful digits with same | ⟨value, read, hex⟩
  · rcases isNumber with isHex | isDecimal | isUpper
    · have x : 'x' ∈ text.toList := same ▸ isHex ▸ x_mem_hexText number
      exact absurd rfl (noDigit 'x' x).1
    · rw [← same, isDecimal, decimalValue_toString lawful]
      rfl
    · exact absurd rfl (noDigit 'X' (same ▸ isUpper)).2
  · rcases isNumber with isHex | isDecimal | isUpper
    · rw [read, Option.map_some, ← hex, isHex]
    · exact absurd (hex.symm.trans isDecimal) (hexText_ne_toString lawful value number)
    · exact absurd rfl (hexText_chars value 'X' (hex ▸ isUpper)).2.2.1

theorem spells_iff_respells (lawful : unicode.Lawful) {stored : String}
    (spells : Spells unicode text stored) (overwriting : Spells unicode other stored) :
    Spells unicode text other ↔ Respells unicode text other := by
  constructor
  · rintro (same | cased | converted)
    · exact .inl same
    · exact .inr (.inl cased)
    · by_cases hexadecimal : isHexadecimal unicode text = true
      · exact .inr (.inr (.inl ⟨hexadecimal,
          Klsmsc.otherBase_of_isHexadecimal hexadecimal converted⟩))
      · rw [Bool.not_eq_true, isHexadecimal, Bool.or_eq_false_iff] at hexadecimal
        by_cases digits : text.toList.all unicode.isDigit = true
        · rw [Klsmsc.otherBase_of_digits lawful digits, Option.map_eq_some_iff] at converted
          obtain ⟨value, -, written⟩ := converted
          exact .inr (.inr (.inr ⟨digits, value, written.symm⟩))
        · have notHex : hexDigitsOnly text = false := by
            simpa [digits] using hexadecimal.2
          rw [otherBase, hexadecimal.1, notHex] at converted
          simp [digits] at converted
  · rintro (same | cased | ⟨hexadecimal, number, decimal⟩ | ⟨digits, number, hex⟩)
    · exact .inl same
    · exact .inr (.inl cased)
    · subst decimal
      exact .inr (.inr (spells.otherBase_of_isHexadecimal lawful hexadecimal
        (overwriting.of_toString lawful)))
    · subst hex
      exact .inr (.inr (spells.otherBase_of_digits lawful digits
        (overwriting.of_hexText lawful)))

end Spellings

/-! ### Runs of reports -/

def DlrStore.storedId (store : DlrStore) (rowId : ℕ) : Option String :=
  (store.db.smsLogs.find? fun row => row.id = rowId).bind SmsLog.upstreamMessageId

def DlrStore.MatchesId (unicode : Unicode) (store : DlrStore) (rowId : ℕ) (reported : String) :
    Prop :=
  ∃ stored, store.storedId rowId = some stored ∧ stored ∈ expandIdCandidates unicode reported

section

variable (unicode : Unicode) (sqlEq : String → String → Bool)

def WritesRow (store : DlrStore) (event : DlrEvent) (rowId : ℕ) (call : DlrCall) : Prop :=
  ∃ faults row, event.processed = some (call, faults) ∧
    dlrTarget unicode sqlEq store faults call = some row ∧ row.id = rowId

variable {unicode sqlEq}

theorem WritesRow.unique {store : DlrStore} {event : DlrEvent} {rowId : ℕ} {call other : DlrCall}
    (writes : WritesRow unicode sqlEq store event rowId call)
    (also : WritesRow unicode sqlEq store event rowId other) : call = other := by
  obtain ⟨faults, -, processed, -⟩ := writes
  obtain ⟨faults', -, processed', -⟩ := also
  rw [processed] at processed'
  cases processed'
  rfl

theorem storedId_processSmppDlr (store : DlrStore) (faults : DlrFaults) (call : DlrCall)
    (now rowId : ℕ) :
    (processSmppDlr unicode sqlEq store faults call now).1.storedId rowId =
      if (dlrTarget unicode sqlEq store faults call).any fun row => row.id = rowId then
        (store.db.smsLogs.find? fun row => row.id = rowId).bind fun row =>
          (row.withDlr unicode call now).upstreamMessageId
      else store.storedId rowId := by
  rw [DlrStore.storedId, processSmppDlr_db]
  cases target : dlrTarget unicode sqlEq store faults call with
  | none => rfl
  | some row =>
      have kept : ((fun stored : SmsLog => decide (stored.id = rowId)) ∘ fun stored =>
          if stored.id = row.id then stored.withDlr unicode call now else stored) =
          fun stored => decide (stored.id = rowId) := by
        funext stored
        simp only [Function.comp_apply]
        split <;> rfl
      simp only [Db.updateSmsLogs_smsLogs, List.find?_map, Option.any_some, decide_eq_true_eq]
      rw [kept, DlrStore.storedId]
      cases found : store.db.smsLogs.find? fun stored => stored.id = rowId with
      | none => simp
      | some stored =>
          have isRow : stored.id = rowId := by simpa using List.find?_some found
          by_cases written : row.id = rowId
          · simp [isRow, written]
          · have other : stored.id ≠ row.id := fun same => written (same ▸ isRow)
            simp [other, written]

theorem storedId_withDlr {row : SmsLog} {call : DlrCall} {stored : String} (now : ℕ)
    (had : row.upstreamMessageId = some stored)
    (matched : stored ∈ expandIdCandidates unicode call.upstreamId) :
    (row.withDlr unicode call now).upstreamMessageId = some (strip unicode call.upstreamId) := by
  have named : call.upstreamId ≠ "" := by
    intro empty
    rw [empty] at matched
    simp [expandIdCandidates, strip] at matched
  by_cases same : stored = strip unicode call.upstreamId
  · simp [SmsLog.withDlr, had, same]
  · simp [SmsLog.withDlr, had, same, named]

def Rewrites (unicode : Unicode) (sqlEq : String → String → Bool) (before : DlrStore)
    (event : DlrEvent) (after : DlrStore) (rowId : ℕ) : Prop :=
  (∃ call, WritesRow unicode sqlEq before event rowId call ∧
    ∀ stored, before.storedId rowId = some stored →
      stored ∈ expandIdCandidates unicode call.upstreamId →
        after.storedId rowId = some (strip unicode call.upstreamId)) ∨
    ((∀ call, ¬ WritesRow unicode sqlEq before event rowId call) ∧
      after.storedId rowId = before.storedId rowId)

theorem rewrites_of_processed {before after : DlrStore} {event : DlrEvent} {call : DlrCall}
    {faults : DlrFaults} {now rowId : ℕ} (processed : event.processed = some (call, faults))
    (outcome : after.storedId rowId =
      (processSmppDlr unicode sqlEq before faults call now).1.storedId rowId) :
    Rewrites unicode sqlEq before event after rowId := by
  rw [Rewrites, outcome, storedId_processSmppDlr]
  cases written : (dlrTarget unicode sqlEq before faults call).any fun row => row.id = rowId with
  | true =>
      refine .inl ⟨call, ?_, ?_⟩
      · rw [Option.any_eq_true] at written
        obtain ⟨row, target, isRow⟩ := written
        exact ⟨faults, row, processed, target, of_decide_eq_true isRow⟩
      · intro stored had matched
        rw [DlrStore.storedId, Option.bind_eq_some_iff] at had
        obtain ⟨row, found, hasStored⟩ := had
        rw [if_pos rfl, found, Option.bind_some]
        exact storedId_withDlr now hasStored matched
  | false =>
      refine .inr ⟨?_, by simp⟩
      rintro other ⟨otherFaults, row, otherProcessed, target, isRow⟩
      rw [processed] at otherProcessed
      cases otherProcessed
      simp [target, isRow] at written

theorem DlrStep.rewrites {before after : DlrStore} {event : DlrEvent}
    (step : DlrStep unicode sqlEq before event after) (rowId : ℕ) :
    Rewrites unicode sqlEq before event after rowId := by
  cases step with
  | report published => exact rewrites_of_processed rfl rfl
  | @flush call faults now buffered =>
      have outcome : (flushReport unicode sqlEq before faults call now).storedId rowId =
          (processSmppDlr unicode sqlEq before faults { call with fromFlush := true }
            now).1.storedId rowId := by
        rw [DlrStore.storedId, DlrStore.storedId, flushReport_db]
      exact rewrites_of_processed rfl outcome
  | expire seen unmatched effects pendingRetry =>
      refine .inr ⟨?_, rfl⟩
      rintro call ⟨faults, row, processed, -⟩
      cases processed

theorem DlrStep.matchesId_iff (lawful : unicode.Lawful) {before after : DlrStore}
    {event : DlrEvent} (step : DlrStep unicode sqlEq before event after) {rowId : ℕ}
    {reported : String} (matched : before.MatchesId unicode rowId reported)
    (own : ∀ call, WritesRow unicode sqlEq before event rowId call →
      before.MatchesId unicode rowId call.upstreamId) :
    after.MatchesId unicode rowId reported ↔
      ∀ call, WritesRow unicode sqlEq before event rowId call →
        Respells unicode (strip unicode reported) (strip unicode call.upstreamId) := by
  obtain ⟨stored, had, candidate⟩ := matched
  rcases step.rewrites rowId with ⟨call, writes, rewritten⟩ | ⟨noWrite, same⟩
  · obtain ⟨same, had', overwriting⟩ := own call writes
    rw [had, Option.some.injEq] at had'
    subst had'
    have holds := rewritten stored had overwriting
    rw [mem_expandIdCandidates_iff_spells] at candidate overwriting
    have respelt := spells_iff_respells lawful candidate.2 overwriting.2
    constructor
    · rintro ⟨other, has, spelt⟩ written alsoWrites
      rw [holds, Option.some.injEq] at has
      rw [← writes.unique alsoWrites, ← respelt, has]
      exact (mem_expandIdCandidates_iff_spells.mp spelt).2
    · intro respells
      refine ⟨_, holds, mem_expandIdCandidates_iff_spells.mpr ⟨candidate.1, ?_⟩⟩
      exact respelt.mpr (respells call writes)
  · have still : after.MatchesId unicode rowId reported := ⟨stored, same.trans had, candidate⟩
    exact iff_of_true still fun call writes => absurd writes (noWrite call)

/-- In a run whose reports to the row match its id, a report that matches it at first does so to
the end just if all of them respell the id of this report. -/
theorem matchesId_run_iff (lawful : unicode.Lawful) {first last : DlrStore}
    {transitions : List (Transition DlrStore DlrEvent)}
    (run : Run (DlrStep unicode sqlEq) first transitions last) {rowId : ℕ} {reported : String}
    (matched : first.MatchesId unicode rowId reported)
    (own : ∀ transition ∈ transitions, ∀ call,
      WritesRow unicode sqlEq transition.before transition.label rowId call →
        transition.before.MatchesId unicode rowId call.upstreamId) :
    (∀ transition ∈ transitions, transition.after.MatchesId unicode rowId reported) ↔
      ∀ transition ∈ transitions, ∀ call,
        WritesRow unicode sqlEq transition.before transition.label rowId call →
          Respells unicode (strip unicode reported) (strip unicode call.upstreamId) := by
  induction run with
  | nil state => simp
  | cons head tail ih =>
      rw [List.forall_mem_cons] at own
      have step := head.matchesId_iff lawful matched own.1
      rw [List.forall_mem_cons, List.forall_mem_cons, step]
      exact and_congr_right fun respells => ih (step.mpr respells) own.2

end

def sentStore : DlrStore where
  db :=
    { deliveredStore.db with
      smsLogs :=
        [{ deliveredSmsLog with
          upstreamMessageId := some "6699"
          status := .sent
          deliveryTime := none }] }
  redis := ⟨[], [], [], []⟩

def finalDeliverSm (upstreamId : String) : DeliverSm where
  channelId := 7
  decoded := "id:" ++ upstreamId ++ " stat:DELIVRD"
  raw := none
  isOwned := true
  isDuplicate := false

def finalDlrCall (upstreamId : String) : DlrCall where
  channelId := 7
  upstreamId := upstreamId
  newStatus := .delivered
  stat := "DELIVRD"
  err := "000"
  destAddr := ""
  sourceAddr := ""
  receiptedMessageId := upstreamId
  fromFlush := false

/-- The report for 6699 matches the row until the report for 1a2b, which matches it too, has been
written to it. -/
theorem rewriting_loses_match :
    ∃ transitions last, Run (DlrStep .ascii (· == ·)) sentStore transitions last ∧
      sentStore.MatchesId .ascii 1 "6699" ∧
      (∀ transition ∈ transitions, ∀ call,
        WritesRow .ascii (· == ·) transition.before transition.label 1 call →
          transition.before.MatchesId .ascii 1 call.upstreamId) ∧
      ¬ ∀ transition ∈ transitions, transition.after.MatchesId .ascii 1 "6699" := by
  have step : DlrStep .ascii (· == ·) sentStore
      (.report (finalDeliverSm "1a2b") (finalDlrCall "1a2b") noFaults 9)
      (processSmppDlr .ascii (· == ·) sentStore noFaults (finalDlrCall "1a2b") 9).1 :=
    .report (by decide)
  refine ⟨_, _, .cons step (.nil _), ⟨"6699", rfl, by decide⟩, ?_, ?_⟩
  · intro transition member call writes
    obtain ⟨faults, row, processed, -⟩ := writes
    rw [List.mem_singleton.mp member] at processed ⊢
    cases processed
    exact ⟨"6699", rfl, by decide⟩
  · intro kept
    obtain ⟨stored, has, candidate⟩ := kept _ List.mem_cons_self
    have rewritten : (processSmppDlr .ascii (· == ·) sentStore noFaults (finalDlrCall "1a2b")
        9).1.storedId 1 = some "1a2b" := by decide
    rw [rewritten, Option.some.injEq] at has
    rw [← has] at candidate
    exact absurd candidate (by decide)

/-- The report for 0x1a2b spells the number of 6699 as `hex` does. -/
theorem rewriting_keeps_match :
    (processSmppDlr .ascii (· == ·) sentStore noFaults (finalDlrCall "0x1a2b") 9).1.MatchesId
      .ascii 1 "6699" := by
  have step : DlrStep .ascii (· == ·) sentStore
      (.report (finalDeliverSm "0x1a2b") (finalDlrCall "0x1a2b") noFaults 9)
      (processSmppDlr .ascii (· == ·) sentStore noFaults (finalDlrCall "0x1a2b") 9).1 :=
    .report (by decide)
  have reports : ∀ transition ∈ [(⟨sentStore, .report (finalDeliverSm "0x1a2b")
      (finalDlrCall "0x1a2b") noFaults 9, (processSmppDlr .ascii (· == ·) sentStore noFaults
        (finalDlrCall "0x1a2b") 9).1⟩ : Transition DlrStore DlrEvent)], ∀ call,
      WritesRow .ascii (· == ·) transition.before transition.label 1 call →
        transition.before = sentStore ∧ call = finalDlrCall "0x1a2b" := by
    intro transition member call writes
    obtain ⟨faults, row, processed, -⟩ := writes
    rw [List.mem_singleton.mp member] at processed ⊢
    cases processed
    exact ⟨rfl, rfl⟩
  refine (matchesId_run_iff Unicode.ascii_lawful (.cons step (.nil _))
    ⟨"6699", rfl, by decide⟩ ?_).mpr ?_ _ List.mem_cons_self
  · intro transition member call writes
    obtain ⟨before, isCall⟩ := reports transition member call writes
    rw [before, isCall]
    exact ⟨"6699", rfl, by decide⟩
  · intro transition member call writes
    rw [(reports transition member call writes).2]
    exact .inr (.inr (.inr ⟨by decide, 6699, by decide⟩))

end Klsmsc
