import Mathlib.Data.List.Infix
import Mathlib.Data.List.TakeWhile
import Klsmsc.Sms.Segment

/-!
# Numbers of an upload

`parse_line_to_e164` turns a line of an uploaded file into a number. For the regions of a table it
takes the line by its length: what does not begin with the country code gets it put in front, and a
length that is then in the range of the region passes. By then the sign of an international number
has been taken off. What is left goes to `phonenumbers`, which is a parameter.
-/

namespace Klsmsc

open Sms (Text)

/-! ### The fast path -/

/-- An entry of `_FAST_REGION_MAP`: the country code and the range of the lengths with it. The codes
have at most three digits and no zero in front, and every length of a range is that of a line. -/
structure FastRegion where
  code : Text
  minLen : ℕ
  maxLen : ℕ
  isCode : code.all Char.isDigit = true ∧ code.head?.all (· ≠ '0') = true ∧ code ≠ [] ∧
    code.length ≤ 3 := by decide
  isRange : 7 ≤ minLen ∧ maxLen ≤ 20 := by decide

/-- `_FAST_REGION_MAP`. -/
def fastRegionMap : List (String × FastRegion) :=
  [("BD", .mk ['8', '8', '0'] 12 13), ("IN", .mk ['9', '1'] 12 12),
    ("PK", .mk ['9', '2'] 12 12), ("TH", .mk ['6', '6'] 11 11),
    ("PH", .mk ['6', '3'] 11 12), ("ID", .mk ['6', '2'] 11 13),
    ("VN", .mk ['8', '4'] 11 12), ("MY", .mk ['6', '0'] 11 11),
    ("CN", .mk ['8', '6'] 13 13), ("KH", .mk ['8', '5', '5'] 11 12),
    ("MM", .mk ['9', '5'] 11 12), ("LK", .mk ['9', '4'] 11 11),
    ("NG", .mk ['2', '3', '4'] 13 13), ("GH", .mk ['2', '3', '3'] 12 12),
    ("KE", .mk ['2', '5', '4'] 12 12), ("TZ", .mk ['2', '5', '5'] 12 12),
    ("UG", .mk ['2', '5', '6'] 12 12), ("ET", .mk ['2', '5', '1'] 12 12),
    ("SN", .mk ['2', '2', '1'] 11 11), ("CM", .mk ['2', '3', '7'] 11 11),
    ("BJ", .mk ['2', '2', '9'] 11 11), ("EG", .mk ['2', '0'] 11 12),
    ("ZA", .mk ['2', '7'] 11 11), ("MA", .mk ['2', '1', '2'] 12 12),
    ("AE", .mk ['9', '7', '1'] 12 12), ("SA", .mk ['9', '6', '6'] 12 12),
    ("TR", .mk ['9', '0'] 12 12), ("SG", .mk ['6', '5'] 10 11),
    ("JP", .mk ['8', '1'] 12 12), ("KR", .mk ['8', '2'] 11 12),
    ("BR", .mk ['5', '5'] 12 13), ("MX", .mk ['5', '2'] 12 12),
    ("AR", .mk ['5', '4'] 13 13), ("CO", .mk ['5', '7'] 12 12)]

/-- `_FAST_REGION_MAP.get`. -/
def fastRegion (region : String) : Option FastRegion :=
  fastRegionMap.lookup region

namespace FastRegion

variable (region : FastRegion)

def completed (digits : Text) : Text :=
  let number := if ['0', '0'].isPrefixOf digits then digits.drop 2 else digits
  if region.code.isPrefixOf number then number else region.code ++ number

def Fits (digits : Text) : Prop :=
  region.minLen ≤ (region.completed digits).length ∧
    (region.completed digits).length ≤ region.maxLen

instance (digits : Text) : Decidable (region.Fits digits) :=
  inferInstanceAs (Decidable (_ ∧ _))

/-- `_fast_parse_e164`, for a region of the table. -/
def parse (digits : Text) : Option Text :=
  if region.Fits digits then some ('+' :: region.completed digits) else none

end FastRegion

/-- `_fast_parse_e164`. -/
def fastParseE164 (digits : Text) (region : String) : Option Text :=
  (fastRegion region).bind fun info => info.parse digits

/-! ### A line -/

section

variable (unicode : Unicode)

/-- `text.strip(char)`. -/
def stripChar (char : Char) (text : Text) : Text :=
  ((text.dropWhile (· = char)).reverse.dropWhile (· = char)).reverse

/-- The characters that `_NON_DIGIT_PHONE` leaves. -/
def isPhoneChar (char : Char) : Bool :=
  unicode.isDecimal char || char = '+'

/-- The line without its quotes and blanks, in `s`, and with the characters of a number only. -/
def phoneChars (line : Text) : Text :=
  (stripChar '\'' (stripChar '"' (stripChar '\u200b' (stripChar '\ufeff'
    (Sms.strip unicode line))))).filter (isPhoneChar unicode)

/-- `s.lstrip("+")`. -/
def lstripPlus (text : Text) : Text :=
  text.dropWhile (· = '+')

/-- `(default_region or "").strip().upper() or None`. -/
def uploadRegion (defaultRegion : Option String) : Option String :=
  asked (some (unicode.upper (strip unicode (defaultRegion.getD ""))))

/-- `attempts`. -/
def attempts (text : Text) (defaultRegion : Option String) : List Text :=
  match text with
  | '+' :: _ => [text]
  | '0' :: '0' :: rest => ['+' :: rest]
  | _ => (if (asked defaultRegion).isSome then [text] else []) ++ ['+' :: text]

/-- What `phonenumbers` makes of a text and a region, in E.164, if it is a valid number. -/
abbrev PhoneNumbers :=
  (attempt : Text) → (region : Option String) → Option Text

def PhoneNumbers.first (phonenumbers : PhoneNumbers) (text : Text) (defaultRegion : Option String) :
    Option Text :=
  (attempts text defaultRegion).findSome? fun attempt =>
    phonenumbers attempt (uploadRegion unicode defaultRegion)

def HasPhoneLength (digits : Text) : Prop :=
  7 ≤ digits.length ∧ digits.length ≤ 20

instance (digits : Text) : Decidable (HasPhoneLength digits) :=
  inferInstanceAs (Decidable (_ ∧ _))

def fastPath (line : Text) (defaultRegion : Option String) : Option Text :=
  let digits := lstripPlus (phoneChars unicode line)
  if HasPhoneLength digits then
    (uploadRegion unicode defaultRegion).bind (fastParseE164 digits)
  else none

/-- `parse_line_to_e164`. A line without any character has no number of a sufficient length. -/
def parseLineToE164 (phonenumbers : PhoneNumbers) (line : Text) (defaultRegion : Option String) :
    Option Text :=
  let text := phoneChars unicode line
  if HasPhoneLength (lstripPlus text) then
    match fastPath unicode line defaultRegion with
    | some result => some result
    | none => phonenumbers.first unicode text defaultRegion
  else none

end

/-! ### What is asked of a line -/

def behindPrefix (text : Text) : Option Text :=
  match text with
  | '+' :: _ => some (lstripPlus text)
  | '0' :: '0' :: rest => some rest
  | _ => none

/-- A number keeps what is written behind an international prefix, the fast path puts the country
code in front of no trunk zero, and a number is read as itself. -/
structure RespectsPrefix (unicode : Unicode) (phonenumbers : PhoneNumbers) (region : FastRegion)
    (line : Text) (defaultRegion : Option String) : Prop where
  international : ∀ digits ∈ behindPrefix (phoneChars unicode line),
    ∀ number ∈ parseLineToE164 unicode phonenumbers line defaultRegion, digits <+: number.tail
  national : behindPrefix (phoneChars unicode line) = none → ∀ rest,
    lstripPlus (phoneChars unicode line) = '0' :: rest →
      fastPath unicode line defaultRegion ≠ some ('+' :: (region.code ++ '0' :: rest))
  stable : ∀ number ∈ parseLineToE164 unicode phonenumbers line defaultRegion,
    parseLineToE164 unicode phonenumbers number defaultRegion = some number

/-- Where the length of a line fits, it has the country code behind an international prefix and no
trunk zero without one. Where it does not, what `phonenumbers` finds has the digits behind an
international prefix, and is of no length at which the line would be read in another way. -/
structure KeepsPrefix (unicode : Unicode) (phonenumbers : PhoneNumbers) (region : FastRegion)
    (text : Text) (defaultRegion : Option String) : Prop where
  coded : region.Fits (lstripPlus text) → ∀ digits ∈ behindPrefix text, region.code <+: digits
  trunk : region.Fits (lstripPlus text) → behindPrefix text = none →
    (lstripPlus text).head? ≠ some '0'
  found : ¬ region.Fits (lstripPlus text) →
    ∀ number ∈ phonenumbers.first unicode text defaultRegion,
      (∀ digits ∈ behindPrefix text, digits <+: number.tail) ∧ HasPhoneLength number.tail ∧
        (region.Fits number.tail → region.code <+: number.tail)

structure Unicode.Numeric (unicode : Unicode) : Prop where
  digits : ∀ char : Char, char.isDigit = true → unicode.isDecimal char = true
  plus : unicode.isSpace '+' = false
  apart : ∀ char, unicode.isDecimal char = true → unicode.isSpace char = false
  quotes : ∀ char ∈ ['\ufeff', '\u200b', '"', '\''], unicode.isDecimal char = false

/-- What `phonenumbers` finds is written in E.164, and it finds the same number in it. -/
structure PhoneNumbers.Formats (phonenumbers : PhoneNumbers) : Prop where
  e164 : ∀ attempt region number, phonenumbers attempt region = some number →
    ∃ digits, number = '+' :: digits ∧ (∀ char ∈ digits, char.isDigit = true) ∧
      digits ≠ [] ∧ digits.head? ≠ some '0'
  own : ∀ attempt region number, phonenumbers attempt region = some number →
    phonenumbers number region = some number

/-! ### The country code -/

namespace FastRegion

variable {region : FastRegion} {digits : Text}

theorem exists_head (region : FastRegion) :
    ∃ first rest, region.code = first :: rest ∧ first.isDigit = true ∧ first ≠ '0' := by
  obtain ⟨isDigits, noZero, some_, -⟩ := region.isCode
  cases isCode : region.code with
  | nil => exact absurd isCode some_
  | cons first rest =>
      rw [isCode] at isDigits noZero
      simp only [List.all_cons, Bool.and_eq_true] at isDigits
      exact ⟨first, rest, rfl, isDigits.1, by simpa using noZero⟩

theorem head_of_prefix (coded : region.code <+: digits) :
    ∃ first rest, digits = first :: rest ∧ first.isDigit = true ∧ first ≠ '0' := by
  obtain ⟨first, rest, isCode, isDigit, notZero⟩ := region.exists_head
  obtain ⟨more, rfl⟩ := coded
  rw [isCode, List.cons_append]
  exact ⟨first, rest ++ more, rfl, isDigit, notZero⟩

theorem not_prefix_zero (rest : Text) : ¬ region.code <+: '0' :: rest := by
  intro coded
  obtain ⟨first, more, same, -, notZero⟩ := head_of_prefix coded
  exact notZero (List.cons.inj same).1.symm

theorem code_prefix_completed (region : FastRegion) (digits : Text) :
    region.code <+: region.completed digits := by
  simp only [completed]
  generalize (if ['0', '0'].isPrefixOf digits then digits.drop 2 else digits) = number
  split
  · rename_i found
    exact List.isPrefixOf_iff_prefix.mp found
  · exact List.prefix_append _ _

theorem completed_of_coded (coded : region.code <+: digits) : region.completed digits = digits := by
  obtain ⟨first, rest, rfl, -, notZero⟩ := head_of_prefix coded
  have noZeros : ['0', '0'].isPrefixOf (first :: rest) = false := by
    simp [List.isPrefixOf, Ne.symm notZero]
  simp [completed, noZeros, List.isPrefixOf_iff_prefix.mpr coded]

theorem completed_zeros (coded : region.code <+: digits) :
    region.completed ('0' :: '0' :: digits) = digits := by
  simp [completed, List.isPrefixOf, List.isPrefixOf_iff_prefix.mpr coded]

theorem completed_trunk {rest : Text} (single : rest.head? ≠ some '0') :
    region.completed ('0' :: rest) = region.code ++ '0' :: rest := by
  have noZeros : ['0', '0'].isPrefixOf ('0' :: rest) = false := by
    cases rest with
    | nil => rfl
    | cons char rest =>
        have notZero : char ≠ '0' := by simpa using single
        simp [List.isPrefixOf, Ne.symm notZero]
  have notCoded : region.code.isPrefixOf ('0' :: rest) = false :=
    Bool.eq_false_iff.mpr fun coded => not_prefix_zero rest (List.isPrefixOf_iff_prefix.mp coded)
  simp [completed, noZeros, notCoded]

end FastRegion

theorem lstripPlus_of_behindPrefix {text digits : Text} (behind : digits ∈ behindPrefix text) :
    lstripPlus text = digits ∨ lstripPlus text = '0' :: '0' :: digits := by
  unfold behindPrefix at behind
  split at behind
  · exact .inl (Option.some.inj behind)
  · rw [Option.some.inj behind]
    exact .inr rfl
  · cases behind

theorem prefix_completed_iff {region : FastRegion} {text digits : Text}
    (behind : digits ∈ behindPrefix text) (long : HasPhoneLength (lstripPlus text)) :
    digits <+: region.completed (lstripPlus text) ↔ region.code <+: digits := by
  have enough : region.code.length ≤ digits.length := by
    have short := region.isCode.2.2.2
    have least := long.1
    rcases lstripPlus_of_behindPrefix behind with same | same
    · rw [same] at least
      omega
    · simp only [same, List.length_cons] at least
      omega
  constructor
  · intro kept
    exact List.prefix_of_prefix_length_le (region.code_prefix_completed _) kept enough
  · intro coded
    rcases lstripPlus_of_behindPrefix behind with same | same
    · rw [same, FastRegion.completed_of_coded coded]
    · rw [same, FastRegion.completed_zeros coded]

/-! ### A number as a line -/

section

variable {unicode : Unicode}

theorem dropWhile_of_none {p : Char → Bool} {text : Text}
    (none_ : ∀ char ∈ text, p char = false) : text.dropWhile p = text := by
  refine List.dropWhile_eq_self_iff.mpr ?_
  intro nonempty found
  rw [none_ _ (List.getElem_mem nonempty)] at found
  cases found

theorem strip_of_none {p : Char → Bool} {text : Text} (none_ : ∀ char ∈ text, p char = false) :
    ((text.dropWhile p).reverse.dropWhile p).reverse = text := by
  rw [dropWhile_of_none none_, dropWhile_of_none, List.reverse_reverse]
  intro char member
  exact none_ char (List.mem_reverse.mp member)

theorem stripChar_of_not_mem {char : Char} {text : Text} (absent : char ∉ text) :
    stripChar char text = text :=
  strip_of_none fun _ member => decide_eq_false fun same => absent (same ▸ member)

theorem phoneChars_of_all (numeric : unicode.Numeric) {text : Text}
    (kept : ∀ char ∈ text, isPhoneChar unicode char = true) : phoneChars unicode text = text := by
  have isEither : ∀ char ∈ text, unicode.isDecimal char = true ∨ char = '+' := by
    intro char member
    simpa [isPhoneChar] using kept char member
  have visible : ∀ char ∈ text, unicode.isSpace char = false := by
    intro char member
    rcases isEither char member with decimal | rfl
    · exact numeric.apart char decimal
    · exact numeric.plus
  have unquoted : ∀ quote ∈ ['\ufeff', '\u200b', '"', '\''], quote ∉ text := by
    intro quote isQuote member
    rcases isEither quote member with decimal | rfl
    · rw [numeric.quotes quote isQuote] at decimal
      cases decimal
    · simp at isQuote
  rw [phoneChars, Sms.strip, strip_of_none visible, stripChar_of_not_mem (unquoted _ (by simp)),
    stripChar_of_not_mem (unquoted _ (by simp)), stripChar_of_not_mem (unquoted _ (by simp)),
    stripChar_of_not_mem (unquoted _ (by simp)), List.filter_eq_self.mpr kept]

theorem isPhoneChar_of_isDigit (numeric : unicode.Numeric) {char : Char}
    (digit : char.isDigit = true) : isPhoneChar unicode char = true := by
  simp [isPhoneChar, numeric.digits char digit]

theorem isPhoneChar_completed (numeric : unicode.Numeric) {region : FastRegion} {digits : Text}
    (kept : ∀ char ∈ digits, isPhoneChar unicode char = true) :
    ∀ char ∈ region.completed digits, isPhoneChar unicode char = true := by
  have number : ∀ char ∈ (if ['0', '0'].isPrefixOf digits then digits.drop 2 else digits),
      isPhoneChar unicode char = true := by
    intro char member
    split at member
    · exact kept char (List.mem_of_mem_drop member)
    · exact kept char member
  intro char member
  simp only [FastRegion.completed] at member
  generalize (if ['0', '0'].isPrefixOf digits then digits.drop 2 else digits) = rest
    at number member
  split at member
  · exact number char member
  · rcases List.mem_append.mp member with inCode | inRest
    · exact isPhoneChar_of_isDigit numeric (List.all_eq_true.mp region.isCode.1 char inCode)
    · exact number char inRest

theorem isPhoneChar_of_mem {line : Text} :
    ∀ char ∈ lstripPlus (phoneChars unicode line), isPhoneChar unicode char = true := by
  intro char member
  exact (List.mem_filter.mp (List.dropWhile_subset _ member)).2

/-! ### The two paths -/

variable {phonenumbers : PhoneNumbers} {region : FastRegion} {defaultRegion : Option String}
  {name : String}

theorem fastPath_eq (isRegion : uploadRegion unicode defaultRegion = some name)
    (inTable : fastRegion name = some region) (line : Text) :
    fastPath unicode line defaultRegion =
      if HasPhoneLength (lstripPlus (phoneChars unicode line)) then
        region.parse (lstripPlus (phoneChars unicode line))
      else none := by
  simp only [fastPath, isRegion, Option.bind_some, fastParseE164, inTable]

theorem parseLine_of_fits (isRegion : uploadRegion unicode defaultRegion = some name)
    (inTable : fastRegion name = some region) {line : Text}
    (long : HasPhoneLength (lstripPlus (phoneChars unicode line)))
    (fits : region.Fits (lstripPlus (phoneChars unicode line))) :
    parseLineToE164 unicode phonenumbers line defaultRegion =
      some ('+' :: region.completed (lstripPlus (phoneChars unicode line))) := by
  simp only [parseLineToE164, fastPath_eq isRegion inTable, if_pos long, FastRegion.parse,
    if_pos fits]

theorem parseLine_of_not_fits (isRegion : uploadRegion unicode defaultRegion = some name)
    (inTable : fastRegion name = some region) {line : Text}
    (long : HasPhoneLength (lstripPlus (phoneChars unicode line)))
    (unfit : ¬ region.Fits (lstripPlus (phoneChars unicode line))) :
    parseLineToE164 unicode phonenumbers line defaultRegion =
      phonenumbers.first unicode (phoneChars unicode line) defaultRegion := by
  simp only [parseLineToE164, fastPath_eq isRegion inTable, if_pos long, FastRegion.parse,
    if_neg unfit]

theorem parseLine_number_iff (numeric : unicode.Numeric)
    (isRegion : uploadRegion unicode defaultRegion = some name)
    (inTable : fastRegion name = some region) {digits : Text}
    (kept : ∀ char ∈ digits, isPhoneChar unicode char = true) (first : digits.head? ≠ some '+')
    (own : phonenumbers ('+' :: digits) (uploadRegion unicode defaultRegion) =
      some ('+' :: digits) ∨ region.Fits digits) :
    parseLineToE164 unicode phonenumbers ('+' :: digits) defaultRegion = some ('+' :: digits) ↔
      HasPhoneLength digits ∧ (region.Fits digits → region.code <+: digits) := by
  have isText : phoneChars unicode ('+' :: digits) = '+' :: digits := by
    refine phoneChars_of_all numeric ?_
    intro char member
    rcases List.mem_cons.mp member with rfl | inside
    · simp [isPhoneChar]
    · exact kept char inside
  have isDigits : lstripPlus ('+' :: digits) = digits := by
    cases digits with
    | nil => rfl
    | cons char rest =>
        have notPlus : char ≠ '+' := by simpa using first
        simp [lstripPlus, notPlus]
  by_cases long : HasPhoneLength digits
  · by_cases fits : region.Fits digits
    · rw [parseLine_of_fits isRegion inTable (by rwa [isText, isDigits])
        (by rwa [isText, isDigits]), isText, isDigits]
      simp only [Option.some.injEq, List.cons.injEq, true_and, long, fits, forall_const]
      constructor
      · intro same
        rw [← same]
        exact region.code_prefix_completed digits
      · exact FastRegion.completed_of_coded
    · rw [parseLine_of_not_fits isRegion inTable (by rwa [isText, isDigits])
        (by rwa [isText, isDigits]), isText]
      have found := own.resolve_right fits
      simp [PhoneNumbers.first, attempts, found, long, fits]
  · refine iff_of_false ?_ fun both => long both.1
    rw [parseLineToE164]
    simp only [isText, isDigits, if_neg long]
    simp

theorem single_of_behindPrefix_eq_none {text rest : Text} (noPrefix : behindPrefix text = none)
    (trunk : lstripPlus text = '0' :: rest) : rest.head? ≠ some '0' := by
  unfold behindPrefix at noPrefix
  split at noPrefix
  · cases noPrefix
  · cases noPrefix
  · rename_i notPlus notZeros
    have same : lstripPlus text = text := by
      cases text with
      | nil => rfl
      | cons char rest =>
          have isOther : char ≠ '+' := fun isPlus => notPlus rest (by rw [isPlus])
          simp [lstripPlus, isOther]
    rw [same] at trunk
    intro zero
    cases rest with
    | nil => cases zero
    | cons char rest =>
        rw [List.head?_cons, Option.some.injEq] at zero
        exact notZeros rest (by rw [trunk, zero])

theorem respects_of_fits_iff (numeric : unicode.Numeric)
    (isRegion : uploadRegion unicode defaultRegion = some name)
    (inTable : fastRegion name = some region) {line : Text}
    (long : HasPhoneLength (lstripPlus (phoneChars unicode line)))
    (fits : region.Fits (lstripPlus (phoneChars unicode line))) :
    RespectsPrefix unicode phonenumbers region line defaultRegion ↔
      KeepsPrefix unicode phonenumbers region (phoneChars unicode line) defaultRegion := by
  have result : parseLineToE164 unicode phonenumbers line defaultRegion =
      some ('+' :: region.completed (lstripPlus (phoneChars unicode line))) :=
    parseLine_of_fits isRegion inTable long fits
  constructor
  · intro respects
    refine ⟨?_, ?_, fun unfit => absurd fits unfit⟩
    · intro _ digits behind
      exact (prefix_completed_iff behind long).mp (respects.international digits behind _ result)
    · intro _ noPrefix zero
      obtain ⟨rest, trunk⟩ := List.head?_eq_some_iff.mp zero
      have single := single_of_behindPrefix_eq_none noPrefix trunk
      refine respects.national noPrefix rest trunk ?_
      rw [fastPath_eq isRegion inTable, if_pos long, FastRegion.parse, if_pos fits, trunk,
        FastRegion.completed_trunk single]
  · intro keeps
    refine ⟨?_, ?_, ?_⟩
    · intro digits behind number isNumber
      rw [result] at isNumber
      rw [← Option.some.inj isNumber]
      exact (prefix_completed_iff behind long).mpr (keeps.coded fits digits behind)
    · intro noPrefix rest trunk
      exact absurd (by rw [trunk, List.head?_cons]) (keeps.trunk fits noPrefix)
    · intro number isNumber
      rw [result] at isNumber
      rw [← Option.some.inj isNumber]
      have coded := region.code_prefix_completed (lstripPlus (phoneChars unicode line))
      have again : region.Fits (region.completed (lstripPlus (phoneChars unicode line))) := by
        rw [FastRegion.Fits, FastRegion.completed_of_coded coded]
        exact fits
      refine (parseLine_number_iff numeric isRegion inTable
        (isPhoneChar_completed numeric isPhoneChar_of_mem) ?_ (.inr again)).mpr
        ⟨⟨?_, ?_⟩, fun _ => coded⟩
      · obtain ⟨first, rest, isFirst, isDigit, -⟩ := FastRegion.head_of_prefix coded
        rw [isFirst, List.head?_cons]
        rintro ⟨⟩
        cases isDigit
      · exact le_trans region.isRange.1 fits.1
      · exact le_trans fits.2 region.isRange.2

theorem respects_of_not_fits_iff (numeric : unicode.Numeric) (formats : phonenumbers.Formats)
    (isRegion : uploadRegion unicode defaultRegion = some name)
    (inTable : fastRegion name = some region) {line : Text}
    (long : HasPhoneLength (lstripPlus (phoneChars unicode line)))
    (unfit : ¬ region.Fits (lstripPlus (phoneChars unicode line))) :
    RespectsPrefix unicode phonenumbers region line defaultRegion ↔
      KeepsPrefix unicode phonenumbers region (phoneChars unicode line) defaultRegion := by
  have result : parseLineToE164 unicode phonenumbers line defaultRegion =
      phonenumbers.first unicode (phoneChars unicode line) defaultRegion :=
    parseLine_of_not_fits isRegion inTable long unfit
  -- a number that has been found is read as itself unless its own length fits
  have stable_iff : ∀ number ∈ phonenumbers.first unicode (phoneChars unicode line) defaultRegion,
      parseLineToE164 unicode phonenumbers number defaultRegion = some number ↔
        HasPhoneLength number.tail ∧ (region.Fits number.tail → region.code <+: number.tail) := by
    intro number found
    obtain ⟨attempt, -, isFound⟩ := List.exists_of_findSome?_eq_some found
    obtain ⟨digits, rfl, isDigits, some_, -⟩ := formats.e164 _ _ _ isFound
    refine parseLine_number_iff numeric isRegion inTable
      (fun char member => isPhoneChar_of_isDigit numeric (isDigits char member)) ?_
      (.inl (formats.own _ _ _ isFound))
    intro isPlus
    cases isDigits '+' (List.mem_of_mem_head? isPlus)
  constructor
  · intro respects
    refine ⟨fun fits => absurd fits unfit, fun fits => absurd fits unfit, ?_⟩
    intro _ number found
    have isNumber := result.trans found
    refine ⟨?_, (stable_iff number found).mp (respects.stable number isNumber)⟩
    intro digits behind
    exact respects.international digits behind number isNumber
  · intro keeps
    refine ⟨?_, ?_, ?_⟩
    · intro digits behind number isNumber
      exact (keeps.found unfit number (result.symm.trans isNumber)).1 digits behind
    · intro _ rest _
      rw [fastPath_eq isRegion inTable, if_pos long, FastRegion.parse, if_neg unfit]
      simp
    · intro number isNumber
      have found := result.symm.trans isNumber
      exact (stable_iff number found).mpr (keeps.found unfit number found).2

/-- The parser respects the prefix of a line, for a region of the table, exactly where the line is
too short or too long for a number or keeps its prefix. -/
theorem respectsPrefix_iff (numeric : unicode.Numeric) (formats : phonenumbers.Formats)
    (isRegion : uploadRegion unicode defaultRegion = some name)
    (inTable : fastRegion name = some region) (line : Text) :
    RespectsPrefix unicode phonenumbers region line defaultRegion ↔
      (HasPhoneLength (lstripPlus (phoneChars unicode line)) →
        KeepsPrefix unicode phonenumbers region (phoneChars unicode line) defaultRegion) := by
  by_cases long : HasPhoneLength (lstripPlus (phoneChars unicode line))
  · rw [forall_prop_of_true long]
    by_cases fits : region.Fits (lstripPlus (phoneChars unicode line))
    · exact respects_of_fits_iff numeric isRegion inTable long fits
    · exact respects_of_not_fits_iff numeric formats isRegion inTable long fits
  · have nothing : parseLineToE164 unicode phonenumbers line defaultRegion = none := by
      simp only [parseLineToE164, if_neg long]
    refine iff_of_true ⟨?_, ?_, ?_⟩ fun isLong => absurd isLong long
    · intro digits _ number isNumber
      rw [nothing] at isNumber
      cases isNumber
    · intro _ rest _
      rw [fastPath_eq isRegion inTable, if_neg long]
      simp
    · intro number isNumber
      rw [nothing] at isNumber
      cases isNumber

theorem ascii_numeric : Unicode.ascii.Numeric where
  digits char digit := by simp [Unicode.isDecimal, Unicode.ascii, digit]
  plus := by decide
  apart char decimal := by
    have digit : char.isDigit = true := by simpa [Unicode.isDecimal, Unicode.ascii] using decimal
    rw [Bool.eq_false_iff]
    intro space
    simp only [Unicode.ascii, Char.isWhitespace, Bool.or_eq_true, decide_eq_true_eq] at space
    rcases space with ((rfl | rfl) | rfl) | rfl <;> cases digit
  quotes := by
    intro char member
    simp only [List.mem_cons, List.not_mem_nil, or_false] at member
    rcases member with rfl | rfl | rfl | rfl <;> rfl

def chinaRegion : FastRegion := .mk ['8', '6'] 13 13

def vietnamRegion : FastRegion := .mk ['8', '4'] 11 12

def australianMobile : Text := "+61412345678".toList

/-- A `phonenumbers` that knows this number, with and without its trunk zero. -/
def knowsAustralian : PhoneNumbers := fun attempt _ =>
  if attempt = australianMobile ∨ attempt = "+610412345678".toList then some australianMobile
  else none

theorem knowsAustralian_formats : knowsAustralian.Formats where
  e164 attempt region number found := by
    have same : number = australianMobile := by
      rw [knowsAustralian] at found
      split at found
      · exact (Option.some.inj found).symm
      · cases found
    exact ⟨"61412345678".toList, same, List.all_eq_true.mp (by decide), by decide, by decide⟩
  own attempt region number found := by
    rw [knowsAustralian] at found
    split at found
    · rw [← Option.some.inj found]
      exact if_pos (.inl rfl)
    · cases found

theorem respectsPrefix_iff_own :
    RespectsPrefix .ascii knowsAustralian chinaRegion "+86 138-0013-8000".toList (some "cn") := by
  have isText : phoneChars .ascii "+86 138-0013-8000".toList = "+8613800138000".toList := by
    decide
  have isRegion : uploadRegion .ascii (some "cn") = some "CN" := by decide
  refine (respectsPrefix_iff ascii_numeric knowsAustralian_formats isRegion rfl _).mpr ?_
  rw [isText]
  intro _
  refine ⟨?_, ?_, ?_⟩
  · rintro _ digits ⟨⟩
    exact ⟨"13800138000".toList, by decide⟩
  · intro _ noPrefix
    cases noPrefix
  · intro unfit
    exact absurd (by decide) unfit

/-- A number of America is rewritten into one of China, a number of Vietnam is written with its
trunk zero, and a number of Australia is another one when it is read again. -/
theorem prefix_rewritten :
    (parseLineToE164 .ascii knowsAustralian "+1 202 555 0123".toList (some "CN") =
        some "+8612025550123".toList ∧
      ¬ RespectsPrefix .ascii knowsAustralian chinaRegion "+1 202 555 0123".toList (some "CN")) ∧
    (parseLineToE164 .ascii knowsAustralian "0912 345 678".toList (some "VN") =
        some "+840912345678".toList ∧
      ¬ RespectsPrefix .ascii knowsAustralian vietnamRegion "0912 345 678".toList (some "VN")) ∧
    (parseLineToE164 .ascii knowsAustralian "+61 (0)4 1234 5678".toList (some "CN") =
        some australianMobile ∧
      parseLineToE164 .ascii knowsAustralian australianMobile (some "CN") =
        some "+8661412345678".toList ∧
      ¬ RespectsPrefix .ascii knowsAustralian chinaRegion "+61 (0)4 1234 5678".toList
        (some "CN")) := by
  have american : parseLineToE164 .ascii knowsAustralian "+1 202 555 0123".toList (some "CN") =
      some "+8612025550123".toList := by decide
  have australian : parseLineToE164 .ascii knowsAustralian "+61 (0)4 1234 5678".toList
      (some "CN") = some australianMobile := by decide
  have again : parseLineToE164 .ascii knowsAustralian australianMobile (some "CN") =
      some "+8661412345678".toList := by decide
  refine ⟨⟨american, ?_⟩, ⟨by decide, ?_⟩, australian, again, ?_⟩
  · intro respects
    have kept := respects.international "12025550123".toList (by decide) _ american
    exact absurd kept (by decide)
  · intro respects
    exact respects.national (by decide) "912345678".toList (by decide)
      (by decide)
  · intro respects
    have stable := respects.stable australianMobile australian
    rw [again] at stable
    exact absurd stable (by decide)

end

end Klsmsc
