import Mathlib.Data.List.DropRight
import Klsmsc.Text

/-!
# Country codes

The functions of `utils/country_code.py` that decide which spellings of a country are equal: its ISO
code, its calling code, and its Chinese names.
-/

namespace Klsmsc

/-- A row of `_COUNTRY_DATA`. -/
structure CountryData where
  iso : String
  dial : String
  names : List String
  deriving DecidableEq, Repr

/-- `_COUNTRY_DATA`. -/
def countryData : List CountryData :=
  [⟨"CN", "86", ["中国"]⟩, ⟨"HK", "852", ["香港"]⟩, ⟨"TW", "886", ["台湾"]⟩,
   ⟨"MO", "853", ["澳门"]⟩, ⟨"SE", "46", ["瑞典"]⟩, ⟨"NO", "47", ["挪威"]⟩,
   ⟨"CZ", "420", ["捷克"]⟩, ⟨"LT", "370", ["立陶宛"]⟩, ⟨"LV", "371", ["拉脱维亚"]⟩,
   ⟨"EE", "372", ["爱沙尼亚"]⟩, ⟨"TH", "66", ["泰国"]⟩, ⟨"BR", "55", ["巴西"]⟩,
   ⟨"BD", "880", ["孟加拉", "孟加拉国"]⟩, ⟨"ID", "62", ["印度尼西亚", "印尼"]⟩,
   ⟨"MY", "60", ["马来西亚", "马来"]⟩, ⟨"VN", "84", ["越南"]⟩, ⟨"PH", "63", ["菲律宾"]⟩,
   ⟨"SG", "65", ["新加坡"]⟩, ⟨"JP", "81", ["日本"]⟩, ⟨"KR", "82", ["韩国"]⟩,
   ⟨"IN", "91", ["印度"]⟩, ⟨"PK", "92", ["巴基斯坦"]⟩, ⟨"MX", "52", ["墨西哥"]⟩,
   ⟨"AR", "54", ["阿根廷"]⟩, ⟨"CO", "57", ["哥伦比亚"]⟩, ⟨"CL", "56", ["智利"]⟩,
   ⟨"PE", "51", ["秘鲁"]⟩, ⟨"EG", "20", ["埃及"]⟩, ⟨"NG", "234", ["尼日利亚"]⟩,
   ⟨"KE", "254", ["肯尼亚"]⟩, ⟨"ZA", "27", ["南非"]⟩, ⟨"AE", "971", ["阿联酋"]⟩,
   ⟨"SA", "966", ["沙特", "沙特阿拉伯"]⟩, ⟨"TR", "90", ["土耳其"]⟩, ⟨"RU", "7", ["俄罗斯"]⟩,
   ⟨"UA", "380", ["乌克兰"]⟩, ⟨"GB", "44", ["英国"]⟩, ⟨"DE", "49", ["德国"]⟩,
   ⟨"FR", "33", ["法国"]⟩, ⟨"ES", "34", ["西班牙"]⟩, ⟨"IT", "39", ["意大利"]⟩,
   ⟨"AU", "61", ["澳大利亚", "澳洲"]⟩, ⟨"NZ", "64", ["新西兰"]⟩, ⟨"US", "1", ["美国"]⟩,
   ⟨"CA", "1CA", ["加拿大"]⟩, ⟨"KH", "855", ["柬埔寨"]⟩, ⟨"LB", "961", ["黎巴嫩"]⟩,
   ⟨"BJ", "229", ["贝宁"]⟩, ⟨"MM", "95", ["缅甸"]⟩, ⟨"LK", "94", ["斯里兰卡"]⟩,
   ⟨"GH", "233", ["加纳"]⟩, ⟨"UG", "256", ["乌干达"]⟩, ⟨"TZ", "255", ["坦桑尼亚"]⟩,
   ⟨"ET", "251", ["埃塞俄比亚"]⟩, ⟨"CM", "237", ["喀麦隆"]⟩, ⟨"SN", "221", ["塞内加尔"]⟩,
   ⟨"VE", "58", ["委内瑞拉"]⟩, ⟨"EC", "593", ["厄瓜多尔"]⟩, ⟨"BO", "591", ["玻利维亚"]⟩,
   ⟨"IL", "972", ["以色列"]⟩, ⟨"JO", "962", ["约旦"]⟩, ⟨"KW", "965", ["科威特"]⟩,
   ⟨"QA", "974", ["卡塔尔"]⟩, ⟨"MA", "212", ["摩洛哥"]⟩, ⟨"DK", "45", ["丹麦"]⟩,
   ⟨"FI", "358", ["芬兰"]⟩, ⟨"NL", "31", ["荷兰"]⟩, ⟨"BE", "32", ["比利时"]⟩,
   ⟨"PL", "48", ["波兰"]⟩, ⟨"RO", "40", ["罗马尼亚"]⟩, ⟨"IE", "353", ["爱尔兰"]⟩,
   ⟨"PT", "351", ["葡萄牙"]⟩, ⟨"KZ", "7KZ", ["哈萨克斯坦"]⟩, ⟨"ZM", "260", ["赞比亚"]⟩,
   ⟨"RS", "381", ["塞尔维亚"]⟩, ⟨"SK", "421", ["斯洛伐克"]⟩]

/-- The row of `_ISO_VARIANTS`. -/
def CountryData.variants (country : CountryData) : List String :=
  country.iso :: country.dial :: country.names

/-- A key of `_TO_ISO` for the country. The spellings of the table have no letters but those of
ASCII. -/
def CountryData.spells (country : CountryData) (text : String) : Bool :=
  country.variants.any fun key =>
    text = key || text = Unicode.ascii.upper key || text = Unicode.ascii.lower key

/-- `_TO_ISO.get`. A later country takes the keys that it shares with an earlier one. -/
def toIso (text : String) : Option CountryData :=
  countryData.reverse.find? fun country => country.spells text

section

variable (unicode : Unicode)

/-- `str.isdigit`. -/
def isDigits (text : String) : Bool :=
  text ≠ "" ∧ text.toList.all unicode.isDigit

/-- `_TO_ISO.get(s) or _TO_ISO.get(s.upper())`. -/
def knownCountry (text : String) : Option CountryData :=
  (toIso text).or (toIso (unicode.upper text))

def paddedCountry (text : String) : Option CountryData :=
  let stripped := String.ofList (text.toList.dropWhile (· = '0'))
  if isDigits unicode text ∧ stripped ≠ "" ∧ stripped ≠ text then toIso stripped else none

/-- `normalize_country_code`. -/
def normalizeCountryCode : Option String → Option String
  | none => none
  | some raw =>
      if raw = "" then some raw
      else
        let text := strip unicode raw
        if text = "" then none
        else
          match (knownCountry unicode text).or (paddedCountry unicode text) with
          | some country => some country.iso
          | none => some (unicode.upper text)

/-- `get_country_variants`, with the order in which the interpreter lists a set. -/
def getCountryVariants (order : List String → List String) : Option String → List String
  | none => []
  | some raw =>
      if raw = "" then []
      else
        let text := strip unicode raw
        match knownCountry unicode text with
        | some country => order country.variants
        | none => [text, unicode.upper text]

/-- `normalize_country_code` recognises the spelling. -/
def Recognised (code : String) : Prop :=
  ∃ country ∈ countryData, normalizeCountryCode unicode (some code) = some country.iso

end

/-! ### Blanks around a spelling -/

theorem dropWhile_rdropWhile {α : Type} (p : α → Bool) (entries : List α) :
    ((entries.dropWhile p).rdropWhile p).dropWhile p = (entries.dropWhile p).rdropWhile p := by
  rw [List.dropWhile_eq_self_iff]
  intro nonempty
  have inner := List.rdropWhile_prefix p (entries.dropWhile p)
  have enough : 0 < (entries.dropWhile p).length := Nat.lt_of_lt_of_le nonempty inner.length_le
  have first := List.dropWhile_get_zero_not p entries enough
  rwa [inner.getElem nonempty]

section

variable {unicode : Unicode}

theorem strip_strip (text : String) : strip unicode (strip unicode text) = strip unicode text := by
  have once := dropWhile_rdropWhile unicode.isSpace text.toList
  have twice := List.rdropWhile_idempotent unicode.isSpace (text.toList.dropWhile unicode.isSpace)
  simp only [List.rdropWhile] at once twice
  simp only [strip, String.toList_ofList, once, twice]

theorem strip_blank (blank : unicode.isSpace ' ' = true) (text : String) :
    strip unicode (" " ++ text) = strip unicode text := by
  simp [strip, blank]

end

/-! ### Spellings that are not listed -/

section

variable {unicode : Unicode} {order : List String → List String}

theorem variants_not_blank {country : CountryData} (member : country ∈ countryData)
    {text : String} : " " ++ text ∉ country.variants := by
  have heads : ∀ country ∈ countryData, ∀ key ∈ country.variants, key.toList.head? ≠ some ' ' := by
    decide +kernel
  intro listed
  exact heads country member _ listed (by simp)

theorem mem_of_toIso {text : String} {country : CountryData} (found : toIso text = some country) :
    country ∈ countryData :=
  List.mem_reverse.mp (List.mem_of_find?_eq_some found)

theorem mem_of_knownCountry {text : String} {country : CountryData}
    (found : knownCountry unicode text = some country) : country ∈ countryData := by
  rcases Option.or_eq_some_iff.mp found with direct | ⟨-, upper⟩
  · exact mem_of_toIso direct
  · exact mem_of_toIso upper

theorem normalizeCountryCode_of_strip {left right : String} (some_ : left ≠ "") (other : right ≠ "")
    (same : strip unicode left = strip unicode right) :
    normalizeCountryCode unicode (some left) = normalizeCountryCode unicode (some right) := by
  simp only [normalizeCountryCode, if_neg some_, if_neg other, same]

theorem blank_append_ne {before text : String} (longer : text.length ≤ before.length) :
    " " ++ before ≠ text := by
  intro same
  have lengths := congrArg String.length same
  rw [String.length_append] at lengths
  have one : " ".length = 1 := rfl
  omega

theorem blank_not_listed (permutes : ∀ codes, (order codes).Perm codes) {code text : String}
    (stripped : text = strip unicode code) :
    " " ++ text ∉ getCountryVariants unicode order (some code) ∨
      " " ++ (" " ++ text) ∉ getCountryVariants unicode order (some code) := by
  rw [getCountryVariants]
  split
  · exact .inl List.not_mem_nil
  · dsimp only
    rw [← stripped]
    cases known : knownCountry unicode text with
    | some country =>
        left
        intro listed
        exact variants_not_blank (mem_of_knownCountry known) ((permutes _).mem_iff.mp listed)
    | none =>
        by_contra both
        rw [not_or, not_not, not_not] at both
        have upper : ∀ before : String, text.length ≤ before.length →
            " " ++ before ∈ [text, unicode.upper text] → " " ++ before = unicode.upper text := by
          intro before longer listed
          exact (List.mem_pair.mp listed).resolve_left (blank_append_ne longer)
        have one := upper text (Nat.le_refl _) both.1
        have two := upper (" " ++ text) (by simp) both.2
        exact blank_append_ne (Nat.le_refl _) (two.trans one.symm)

/-- For every code there is a spelling of the same country that `get_country_variants` leaves
out. -/
theorem variants_incomplete (blank : unicode.isSpace ' ' = true)
    (permutes : ∀ codes, (order codes).Perm codes) (code : Option String) :
    ∃ spelling, normalizeCountryCode unicode (some spelling) = normalizeCountryCode unicode code ∧
      spelling ∉ getCountryVariants unicode order code := by
  cases code with
  | none =>
      refine ⟨" ", ?_, List.not_mem_nil⟩
      have empty : strip unicode " " = "" := by simp [strip, blank]
      simp [normalizeCountryCode, empty]
  | some code =>
      by_cases nothing : code = ""
      · refine ⟨code, rfl, ?_⟩
        rw [getCountryVariants, if_pos nothing]
        exact List.not_mem_nil
      · have same : ∀ text, text = strip unicode code →
            strip unicode (" " ++ text) = strip unicode code := by
          intro text stripped
          rw [strip_blank blank, stripped, strip_strip]
        rcases @blank_not_listed unicode order permutes code _ rfl with absent | absent
        · refine ⟨_, ?_, absent⟩
          exact normalizeCountryCode_of_strip (by simp) nothing (same _ rfl)
        · refine ⟨_, ?_, absent⟩
          refine normalizeCountryCode_of_strip (by simp) nothing ?_
          rw [strip_blank blank, same _ rfl]

end

end Klsmsc
