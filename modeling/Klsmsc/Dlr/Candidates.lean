import Klsmsc.Dlr

/-!
# Candidates for an upstream id

The spellings under which the row of a delivery report is looked for, in `_expand_id_candidates` for
reports over SMPP and in `_dlr_upstream_id_candidates` for those over HTTP: the id, its case
variants if it has a letter from A to F, and the same number in the other base. The second one says
that it follows the first one, but asks for two characters before it reads an id as hexadecimal.

Ids are shorter than the 4300 digits up to which Python converts numbers.
-/

namespace Klsmsc

structure Unicode.Lawful (unicode : Unicode) : Prop where
  isDigit : ∀ char : Char, char.toNat < 128 → unicode.isDigit char = char.isDigit
  decimal : ∀ char : Char, char.toNat < 128 →
    unicode.decimal char = Unicode.ascii.decimal char
  upper : ∀ text : String, (∀ char ∈ text.toList, char.toNat < 128) →
    unicode.upper text = Unicode.ascii.upper text
  lower : ∀ text : String, (∀ char ∈ text.toList, char.toNat < 128) →
    unicode.lower text = Unicode.ascii.lower text
  upperX : ∀ text : String, 'x' ∈ text.toList ∨ 'X' ∈ text.toList →
    'X' ∈ (unicode.upper text).toList
  lowerX : ∀ text : String, 'x' ∈ text.toList ∨ 'X' ∈ text.toList →
    'x' ∈ (unicode.lower text).toList
  lowerOther : ∀ text : String, (∃ char ∈ text.toList, 128 ≤ char.toNat) →
    ∃ char ∈ (unicode.lower text).toList, 128 ≤ char.toNat ∨ char = 'k'
  digits : ∀ text : String, text.toList.all unicode.isDigit = true →
    unicode.upper text = text

theorem forall_ascii {property : Char → Prop} (first : ∀ code < 128, property (Char.ofNat code))
    {char : Char} (small : char.toNat < 128) : property char := by
  have holds := first char.toNat small
  rwa [Char.ofNat_toNat] at holds

theorem toLower_of_large {char : Char} (large : 128 ≤ char.toNat) : char.toLower = char := by
  have above : ¬ (char.val ≥ 'A'.val ∧ char.val ≤ 'Z'.val) := by
    rintro ⟨-, bound⟩
    have atMost : char.val.toNat ≤ 90 := UInt32.le_iff_toNat_le.mp bound
    rw [Char.toNat_val] at atMost
    omega
  exact dif_neg above

theorem toUpper_of_isDigit {char : Char} (digit : char.isDigit = true) : char.toUpper = char := by
  have bound : char.toNat ≤ 57 := (Char.isDigit_iff_toNat.mp digit).2
  have same : char.isDigit = true → char.toUpper = char :=
    @forall_ascii (fun char => char.isDigit = true → char.toUpper = char) (by decide) char
      (by omega)
  exact same digit

namespace Unicode

@[simp]
theorem toList_upper_ascii (text : String) :
    (ascii.upper text).toList = text.toList.map Char.toUpper := by
  simp [ascii]

@[simp]
theorem toList_lower_ascii (text : String) :
    (ascii.lower text).toList = text.toList.map Char.toLower := by
  simp [ascii]

theorem ascii_lawful : ascii.Lawful where
  isDigit _ _ := rfl
  decimal _ _ := rfl
  upper _ _ := rfl
  lower _ _ := rfl
  upperX text letter := by
    rw [toList_upper_ascii, List.mem_map]
    rcases letter with letter | letter
    · exact ⟨'x', letter, by decide⟩
    · exact ⟨'X', letter, by decide⟩
  lowerX text letter := by
    rw [toList_lower_ascii, List.mem_map]
    rcases letter with letter | letter
    · exact ⟨'x', letter, by decide⟩
    · exact ⟨'X', letter, by decide⟩
  lowerOther text other := by
    obtain ⟨char, found, large⟩ := other
    refine ⟨char, ?_, .inl large⟩
    rw [toList_lower_ascii, List.mem_map]
    exact ⟨char, found, toLower_of_large large⟩
  digits text all := by
    apply String.toList_injective
    rw [toList_upper_ascii]
    refine (List.map_congr_left fun char found => ?_).trans (List.map_id _)
    exact toUpper_of_isDigit (List.all_eq_true.mp all char found)

end Unicode

/-! ### The candidates -/

def hasHexLetter (unicode : Unicode) (text : String) : Bool :=
  (unicode.upper text).toList.any fun char => "ABCDEF".toList.contains char

/-- The id starts with `0x`. -/
def startsWithZeroX (text : String) : Bool :=
  "0x".toList.isPrefixOf text.toList || "0X".toList.isPrefixOf text.toList

def hexDigitsOnly (text : String) : Bool :=
  text.toList.all fun char => "0123456789abcdefABCDEF".toList.contains char

def caseVariants (unicode : Unicode) (text : String) : List String :=
  if hasHexLetter unicode text then [unicode.upper text, unicode.lower text] else []

def otherBase (unicode : Unicode) (text : String) : Option String :=
  if startsWithZeroX text then (hexValue unicode (text.toList.drop 2)).map toString
  else if text.toList.all unicode.isDigit then
    (digitsValue unicode.decimal 10 0 text.toList).map hexText
  else if hexDigitsOnly text then (hexValue unicode text.toList).map toString
  else none

/-- `_dlr_upstream_id_candidates`, of a text. -/
def dlrUpstreamIdCandidates (unicode : Unicode) (raw : String) : List String :=
  let text := strip unicode raw
  if text = "" then []
  else
    let cased :=
      if (unicode.upper text).toList.any fun char => "ABCDEF".toList.contains char then
        [unicode.upper text, unicode.lower text]
      else []
    let converted :=
      if "0x".toList.isPrefixOf text.toList || "0X".toList.isPrefixOf text.toList then
        ((hexValue unicode (text.toList.drop 2)).map toString).toList
      else if text.toList.all unicode.isDigit then
        ((digitsValue unicode.decimal 10 0 text.toList).map hexText).toList
      else if 2 ≤ text.length &&
          text.toList.all fun char => "0123456789abcdefABCDEF".toList.contains char then
        ((hexValue unicode text.toList).map toString).toList
      else []
    ([text] ++ cased ++ converted).eraseDups

variable {unicode : Unicode}

theorem otherBase_toList (text : String) :
    (otherBase unicode text).toList =
      if startsWithZeroX text then ((hexValue unicode (text.toList.drop 2)).map toString).toList
      else if text.toList.all unicode.isDigit then
        ((digitsValue unicode.decimal 10 0 text.toList).map hexText).toList
      else if hexDigitsOnly text then ((hexValue unicode text.toList).map toString).toList
      else [] := by
  rw [otherBase]
  split
  · rfl
  · split
    · rfl
    · split <;> rfl

theorem expandIdCandidates_eq (raw : String) :
    expandIdCandidates unicode raw =
      if strip unicode raw = "" then []
      else
        ([strip unicode raw] ++ caseVariants unicode (strip unicode raw) ++
          (otherBase unicode (strip unicode raw)).toList).eraseDups := by
  rw [otherBase_toList]
  rfl

theorem mem_caseVariants {text candidate : String} :
    candidate ∈ caseVariants unicode text ↔
      hasHexLetter unicode text = true ∧
        (candidate = unicode.upper text ∨ candidate = unicode.lower text) := by
  rw [caseVariants]
  split
  · rename_i letter
    simp [letter]
  · rename_i noLetter
    simp [noLetter]

theorem mem_expandIdCandidates {raw candidate : String} :
    candidate ∈ expandIdCandidates unicode raw ↔
      strip unicode raw ≠ "" ∧ (candidate = strip unicode raw ∨
        (hasHexLetter unicode (strip unicode raw) = true ∧
          (candidate = unicode.upper (strip unicode raw) ∨
            candidate = unicode.lower (strip unicode raw))) ∨
        otherBase unicode (strip unicode raw) = some candidate) := by
  rw [expandIdCandidates_eq]
  split
  · rename_i empty
    simp [empty]
  · rename_i nonempty
    rw [List.mem_eraseDups, List.mem_append, List.mem_append, List.mem_singleton,
      mem_caseVariants, Option.mem_toList]
    simp [nonempty, or_assoc]

/-! ### The two expansions -/

def hexLetters : List String :=
  ["a", "b", "c", "d", "e", "f", "A", "B", "C", "D", "E", "F"]

def otherBaseHttp (unicode : Unicode) (text : String) : Option String :=
  if startsWithZeroX text then (hexValue unicode (text.toList.drop 2)).map toString
  else if text.toList.all unicode.isDigit then
    (digitsValue unicode.decimal 10 0 text.toList).map hexText
  else if 2 ≤ text.length && hexDigitsOnly text then
    (hexValue unicode text.toList).map toString
  else none

theorem dlrUpstreamIdCandidates_eq (raw : String) :
    dlrUpstreamIdCandidates unicode raw =
      if strip unicode raw = "" then []
      else
        ([strip unicode raw] ++ caseVariants unicode (strip unicode raw) ++
          (otherBaseHttp unicode (strip unicode raw)).toList).eraseDups := by
  have converted : ∀ text, (otherBaseHttp unicode text).toList =
      if startsWithZeroX text then ((hexValue unicode (text.toList.drop 2)).map toString).toList
      else if text.toList.all unicode.isDigit then
        ((digitsValue unicode.decimal 10 0 text.toList).map hexText).toList
      else if 2 ≤ text.length && hexDigitsOnly text then
        ((hexValue unicode text.toList).map toString).toList
      else [] := by
    intro text
    rw [otherBaseHttp]
    split
    · rfl
    · split
      · rfl
      · split <;> rfl
  rw [converted]
  rfl


theorem digitsValue_congr {digit other : Char → Option ℕ} {base value : ℕ} {text : List Char}
    (agree : ∀ char ∈ text, digit char = other char) :
    digitsValue digit base value text = digitsValue other base value text := by
  fun_induction digitsValue digit base value text with
  | case1 => rfl
  | case2 value char => simp only [digitsValue, agree char (by simp)]
  | case3 value char rest ih =>
      rw [digitsValue, agree char (by simp)]
      congr 1
      funext last
      exact ih last fun char found => agree char (by simp [found])
  | case4 value char rest notEmpty notUnderscore ih =>
      rw [digitsValue, agree char (by simp)]
      · congr 1
        funext last
        exact ih last fun char found => agree char (by simp [found])
      · exact notEmpty
      · exact notUnderscore

theorem Unicode.Lawful.hexadecimal (lawful : unicode.Lawful) {char : Char}
    (small : char.toNat < 128) : unicode.hexadecimal char = Unicode.ascii.hexadecimal char := by
  simp only [Unicode.hexadecimal, lawful.decimal char small]

theorem hexValue_congr {other : Unicode} {text : List Char}
    (agree : ∀ char ∈ text, unicode.hexadecimal char = other.hexadecimal char) :
    hexValue unicode text = hexValue other text := by
  unfold hexValue
  split
  · exact digitsValue_congr fun char found => agree char (by simp [found])
  · exact digitsValue_congr agree

section Ascii

variable {text : String} (lawful : unicode.Lawful) (small : ∀ char ∈ text.toList, char.toNat < 128)

include lawful small

theorem all_isDigit_ascii :
    text.toList.all unicode.isDigit = text.toList.all Char.isDigit := by
  rw [Bool.eq_iff_iff, List.all_eq_true, List.all_eq_true]
  exact forall₂_congr fun char found => by rw [lawful.isDigit char (small char found)]

theorem hexValue_ascii : hexValue unicode text.toList = hexValue Unicode.ascii text.toList :=
  hexValue_congr fun char found => lawful.hexadecimal (small char found)

theorem hexValue_drop_ascii :
    hexValue unicode (text.toList.drop 2) = hexValue Unicode.ascii (text.toList.drop 2) :=
  hexValue_congr fun char found => lawful.hexadecimal (small char (List.mem_of_mem_drop found))

theorem decimalValue_ascii :
    digitsValue unicode.decimal 10 0 text.toList =
      digitsValue Unicode.ascii.decimal 10 0 text.toList :=
  digitsValue_congr fun char found => lawful.decimal char (small char found)

theorem caseVariants_ascii : caseVariants unicode text = caseVariants Unicode.ascii text := by
  rw [caseVariants, caseVariants, hasHexLetter, hasHexLetter, lawful.upper text small,
    lawful.lower text small]

theorem otherBase_ascii : otherBase unicode text = otherBase Unicode.ascii text := by
  simp only [otherBase, hexValue_ascii lawful small, hexValue_drop_ascii lawful small,
    decimalValue_ascii lawful small, all_isDigit_ascii lawful small]
  rfl

theorem otherBaseHttp_ascii : otherBaseHttp unicode text = otherBaseHttp Unicode.ascii text := by
  simp only [otherBaseHttp, hexValue_ascii lawful small, hexValue_drop_ascii lawful small,
    decimalValue_ascii lawful small, all_isDigit_ascii lawful small]
  rfl

end Ascii

theorem candidates_of_hexLetter : ∀ text ∈ hexLetters,
    ([text] ++ caseVariants Unicode.ascii text ++
        (otherBaseHttp Unicode.ascii text).toList).eraseDups ≠
      ([text] ++ caseVariants Unicode.ascii text ++
        (otherBase Unicode.ascii text).toList).eraseDups := by
  decide

theorem mem_hexLetters (lawful : unicode.Lawful) {text : String} (nonempty : text ≠ "")
    (short : text.length < 2) (notDigits : ¬ text.toList.all unicode.isDigit = true)
    (hex : hexDigitsOnly text = true) : text ∈ hexLetters := by
  obtain ⟨char, chars⟩ : ∃ char, text.toList = [char] := by
    rw [← List.length_eq_one_iff, String.length_toList]
    have positive : text.length ≠ 0 := by simpa using nonempty
    omega
  have member : char ∈ "0123456789abcdefABCDEF".toList := by
    simpa [hexDigitsOnly, chars] using hex
  have other : char.isDigit = false := by
    have ascii : "0123456789abcdefABCDEF".toList.all (fun char => char.toNat < 128) = true := by
      decide
    have small : char.toNat < 128 := by simpa using List.all_eq_true.mp ascii char member
    rw [← lawful.isDigit char small]
    simpa [chars] using notDigits
  have letters : "0123456789abcdefABCDEF".toList.all (fun char =>
      char.isDigit || hexLetters.contains (String.ofList [char])) = true := by
    decide
  have same : text = String.ofList [char] := by
    rw [← chars, String.ofList_toList]
  rw [same]
  simpa [other] using List.all_eq_true.mp letters char member

theorem otherBaseHttp_eq (lawful : unicode.Lawful) {text : String} (nonempty : text ≠ "")
    (long : text ∉ hexLetters) : otherBaseHttp unicode text = otherBase unicode text := by
  rw [otherBaseHttp, otherBase]
  refine if_congr Iff.rfl rfl (ite_congr rfl (fun _ => rfl) fun notDigits => ?_)
  have converted : (2 ≤ text.length && hexDigitsOnly text) = hexDigitsOnly text := by
    by_cases length : 2 ≤ text.length
    · simp [length]
    · rw [Bool.and_eq_right_iff_imp]
      intro hex
      exact absurd (mem_hexLetters lawful nonempty (by omega) notDigits hex) long
  rw [converted]

/-- Both ways of a report look for the same spellings, unless the id is a single letter. -/
theorem dlrUpstreamIdCandidates_eq_iff (unicode : Unicode) (lawful : unicode.Lawful)
    (raw : String) :
    dlrUpstreamIdCandidates unicode raw = expandIdCandidates unicode raw ↔
      strip unicode raw ∉ hexLetters := by
  rw [dlrUpstreamIdCandidates_eq, expandIdCandidates_eq]
  constructor
  · intro equal letter
    have nonempty : strip unicode raw ≠ "" := by
      intro empty
      rw [empty] at letter
      revert letter
      decide
    have ascii : hexLetters.all (fun text =>
        text.toList.all fun char => char.toNat < 128) = true := by
      decide
    have small : ∀ char ∈ (strip unicode raw).toList, char.toNat < 128 := by
      simpa using List.all_eq_true.mp ascii _ letter
    rw [if_neg nonempty, if_neg nonempty, caseVariants_ascii lawful small,
      otherBase_ascii lawful small, otherBaseHttp_ascii lawful small] at equal
    exact candidates_of_hexLetter _ letter equal
  · intro long
    split
    · rfl
    · rename_i nonempty
      rw [otherBaseHttp_eq lawful nonempty long]

theorem dlrUpstreamIdCandidates_eq_iff_ab :
    dlrUpstreamIdCandidates Unicode.ascii "ab" = expandIdCandidates Unicode.ascii "ab" ↔
      strip Unicode.ascii "ab" ∉ hexLetters :=
  dlrUpstreamIdCandidates_eq_iff Unicode.ascii Unicode.ascii_lawful "ab"

/-- The id `a` is also looked for as `10`, but over SMPP only. -/
theorem dlrUpstreamIdCandidates_ne :
    ¬ ∀ raw, dlrUpstreamIdCandidates Unicode.ascii raw = expandIdCandidates Unicode.ascii raw := by
  intro equal
  exact absurd (equal "a") (by decide)

end Klsmsc
