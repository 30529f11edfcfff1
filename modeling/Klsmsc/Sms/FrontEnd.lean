import Klsmsc.Library.Encodings
import Klsmsc.Library.Utf
import Klsmsc.Sms.Sanitiser

/-!
# The estimate of the front end

The web client counts the parts of a message with functions of its own, on strings of UTF-16 code
units. It finds the same placeholders, replaces the same characters and knows the same tables. But
it reads the base of a placeholder up to the next bar, where the backend reads everything behind the
first one, and it trims other characters off it. The two counts agree exactly when the message fits
into the same numbers of parts with the links of either.
-/

namespace Klsmsc.Sms

open Klsmsc.Library

/-! ### The functions of the web client -/

abbrev JsString := List ℕ

def jsString (text : Text) : JsString :=
  text.flatMap utf16Units

/-- `GSM7_CHARSET`. -/
def gsm7Charset : Text :=
  ("@£$¥èéùìòÇ\nØø\rÅåΔ_ΦΓΛΩΠΨΣΘΞÆæßÉ !\"#¤%&'()*+,-./0123456789:;<=>?" ++
    "¡ABCDEFGHIJKLMNOPQRSTUVWXYZÄÖÑÜ§¿abcdefghijklmnopqrstuvwxyzäöñüà").toList

/-- `GSM7_EXT_SET`. -/
def gsm7ExtSet : Text :=
  "\x0c^\x7b\x7d\\[~]|€".toList

/-- `gsm7SeptetCount`, over the code points of a string. -/
def jsGsm7SeptetCount : List ℕ → Option ℕ
  | [] => some 0
  | c :: norm =>
      if c ∈ gsm7Charset.map Char.toNat then (jsGsm7SeptetCount norm).map (1 + ·)
      else if c ∈ gsm7ExtSet.map Char.toNat then (jsGsm7SeptetCount norm).map (2 + ·)
      else none

def jsPoint (c : ℕ) : JsString :=
  if c < 0x10000 then [c]
  else [0xD800 + (c - 0x10000) / 0x400 % 0x400, 0xDC00 + (c - 0x10000) % 0x400]

/-- What `normalizeForSmsSegmentCount` writes for a code point. -/
def jsNormalizePoint (c : ℕ) : JsString :=
  if c = 0xA0 then jsString [' ']
  else if c = 0x200B ∨ c = 0x200C ∨ c = 0x200D ∨ c = 0xFEFF then []
  else if c = 0x2018 ∨ c = 0x2019 then jsString ['\'']
  else if c = 0x201C ∨ c = 0x201D then jsString ['"']
  else if c = 0x2013 then jsString ['-']
  else if c = 0x2014 then jsString ['-']
  else if c = 0x2026 then jsString ['.', '.', '.']
  else jsPoint c

/-- `normalizeForSmsSegmentCount`. -/
def jsNormalize (message : JsString) : JsString :=
  (joinSurrogates message).flatMap jsNormalizePoint

/-- `{{TRACK_URL`, as a string. -/
def jsTrackUrlHead : JsString :=
  trackUrlHead.map Char.toNat

/-- A match of `TRACK_URL_RE` at the start of a string: its group and what follows it. -/
def jsMatchTrackUrl (s : JsString) : Option (Option JsString × JsString) :=
  if jsTrackUrlHead.isPrefixOf s then
    match s.drop jsTrackUrlHead.length with
    | 0x7D :: 0x7D :: rest => some (none, rest)
    | 0x3D :: rest =>
        match rest.dropWhile (· ≠ 0x7D) with
        | 0x7D :: 0x7D :: last => some (some (rest.takeWhile (· ≠ 0x7D)), last)
        | _ => none
    | _ => none
  else none

/-- `message.replace(TRACK_URL_RE, …)`, behind the units that belong to the last match. -/
def jsReplaceFrom (replacement : Option JsString → JsString) : JsString → ℕ → JsString
  | [], _ => []
  | _ :: s, matched + 1 => jsReplaceFrom replacement s matched
  | unit :: s, 0 =>
      match jsMatchTrackUrl (unit :: s) with
      | some (inner, rest) =>
          replacement inner ++ jsReplaceFrom replacement s (s.length - rest.length)
      | none => unit :: jsReplaceFrom replacement s 0

/-- `message.indexOf('{{TRACK_URL') !== -1`. -/
def jsMentionsTrackUrl (message : JsString) : Bool :=
  message.tails.any fun tail => jsTrackUrlHead.isPrefixOf tail

/-- The units that `trim` takes off: white space and line terminators. -/
def jsWhiteSpace : List ℕ :=
  [0x09, 0x0A, 0x0B, 0x0C, 0x0D, 0x20, 0xA0, 0x1680, 0x2000, 0x2001, 0x2002, 0x2003, 0x2004, 0x2005,
    0x2006, 0x2007, 0x2008, 0x2009, 0x200A, 0x2028, 0x2029, 0x202F, 0x205F, 0x3000, 0xFEFF]

/-- `s.trim()`. -/
def jsTrim (s : JsString) : JsString :=
  ((s.dropWhile (· ∈ jsWhiteSpace)).reverse.dropWhile (· ∈ jsWhiteSpace)).reverse

/-- `s.split('|')[1]`. -/
def jsSecondPart (s : JsString) : Option JsString :=
  match s.dropWhile (· ≠ 0x7C) with
  | _ :: rest => some (rest.takeWhile (· ≠ 0x7C))
  | [] => none

/-- `base.replace(/\/+$/, '')`. -/
def jsRstripSlash (s : JsString) : JsString :=
  (s.reverse.dropWhile (· = 0x2F)).reverse

/-- `base`. -/
def jsBase (inner : Option JsString) : JsString :=
  match jsSecondPart (inner.getD []) with
  | some part => if (jsTrim part).isEmpty then jsString fallbackBase else jsTrim part
  | none => jsString fallbackBase

/-- What `substituteTrackUrlForCount` writes for a placeholder. -/
def jsUrl (inner : Option JsString) : JsString :=
  jsRstripSlash (jsBase inner) ++ jsString ['/', 'A', 'b', '3', 'X', 'z', '7', 'q']

/-- `substituteTrackUrlForCount`. -/
def jsSubstituteTrackUrlForCount (message : JsString) : JsString :=
  if message.isEmpty ∨ ¬ jsMentionsTrackUrl message then message
  else jsReplaceFrom jsUrl message 0

/-- `effective` of `countSmsParts`. -/
def jsEffective (message : JsString) : JsString :=
  if ¬ message.isEmpty ∧ jsMentionsTrackUrl message then jsSubstituteTrackUrlForCount message
  else message

/-- The rest of `countSmsParts`. -/
def jsPartsOf (norm : JsString) : ℕ :=
  if norm.length = 0 then 0
  else
    match jsGsm7SeptetCount (joinSurrogates norm) with
    | some septets => if septets ≤ 160 then 1 else (septets + 152) / 153
    | none => if norm.length ≤ 70 then 1 else (norm.length + 66) / 67

/-- `countSmsParts`. -/
def jsCountSmsParts (message : JsString) : ℕ :=
  jsPartsOf (jsNormalize (jsEffective message))

/-! ### Strings of texts -/

theorem utf16Units_ne_nil (char : Char) : utf16Units char ≠ [] := by
  unfold utf16Units
  split <;> simp

theorem writtenAs_ascii {char : Char} (isAscii : char.toNat < 0x80) :
    WrittenAs utf16Units char char.toNat := by
  refine ⟨if_pos (show char.toNat < 0x10000 by omega), ?_⟩
  intro other member
  unfold utf16Units at member
  split at member
  · exact Char.toNat_inj.mp (List.mem_singleton.mp member).symm
  · simp only [List.mem_cons, List.not_mem_nil, or_false] at member
    omega

theorem agrees_ascii {char : Char} (isAscii : char.toNat < 0x80) (text : Text) :
    Agrees utf16Units (fun other => decide (other = char)) (fun unit => decide (unit = char.toNat))
      text := by
  refine ⟨fun other _ => utf16Units_ne_nil other, ?_⟩
  intro other _ unit member
  have written := writtenAs_ascii isAscii
  by_cases same : other = char
  · rw [same, written.1, List.mem_singleton] at member
    simp [same, member]
  · have differs : unit ≠ char.toNat := by
      rintro rfl
      exact same (written.2 other member)
    simp [same, differs]

theorem agrees_not_ascii {char : Char} (isAscii : char.toNat < 0x80) (text : Text) :
    Agrees utf16Units (fun other => decide (other ≠ char)) (fun unit => decide (unit ≠ char.toNat))
      text := by
  have agrees := agrees_ascii isAscii text
  refine ⟨agrees.written, ?_⟩
  intro other member unit isUnit
  have same := agrees.same other member unit isUnit
  simpa using same

theorem jsString_cons (char : Char) (text : Text) :
    jsString (char :: text) = utf16Units char ++ jsString text := rfl

theorem jsString_append (left right : Text) :
    jsString (left ++ right) = jsString left ++ jsString right :=
  List.flatMap_append

theorem jsString_cons_ascii {char : Char} (isAscii : char.toNat < 0x80) (text : Text) :
    jsString (char :: text) = char.toNat :: jsString text := by
  rw [jsString_cons, (writtenAs_ascii isAscii).1, List.singleton_append]

theorem isEmpty_jsString (text : Text) : (jsString text).isEmpty = text.isEmpty := by
  cases text with
  | nil => rfl
  | cons char text =>
      rw [Bool.eq_iff_iff, List.isEmpty_iff, List.isEmpty_iff]
      simp [jsString_cons, utf16Units_ne_nil]

theorem eq_cons_of_jsString {char : Char} (isAscii : char.toNat < 0x80) {text : Text}
    {rest : JsString} (starts : jsString text = char.toNat :: rest) :
    ∃ behind, text = char :: behind ∧ rest = jsString behind := by
  cases text with
  | nil => cases starts
  | cons other behind =>
      obtain ⟨first, more, units⟩ := List.exists_cons_of_ne_nil (utf16Units_ne_nil other)
      rw [jsString_cons, units, List.cons_append, List.cons.injEq] at starts
      have same : other = char :=
        (writtenAs_ascii isAscii).2 other (by rw [units, starts.1]; exact List.mem_cons_self)
      subst same
      rw [(writtenAs_ascii isAscii).1, List.cons.injEq] at units
      exact ⟨behind, rfl, by rw [← starts.2, ← units.2, List.nil_append]⟩

/-! ### Placeholders -/

theorem isAscii_trackUrlHead : ∀ char ∈ trackUrlHead, char.toNat < 0x80 :=
  forall_of_all (by decide)

theorem isPrefixOf_jsString (text : Text) :
    jsTrackUrlHead.isPrefixOf (jsString text) = trackUrlHead.isPrefixOf text ∧
      (trackUrlHead.isPrefixOf text = true →
        (jsString text).drop trackUrlHead.length = jsString (text.drop trackUrlHead.length)) :=
  isPrefixOf_flatMap (fun _ member => writtenAs_ascii (isAscii_trackUrlHead _ member))
    fun char _ => utf16Units_ne_nil char

theorem isAscii_closing : ('\x7d').toNat < 0x80 := by decide

theorem isAscii_equals : ('=').toNat < 0x80 := by decide

theorem eq_of_jsString_closes {text : Text} {rest : JsString}
    (closes : jsString text = 0x7D :: 0x7D :: rest) :
    ∃ behind, text = '\x7d' :: '\x7d' :: behind ∧ rest = jsString behind := by
  rcases eq_cons_of_jsString isAscii_closing closes with ⟨behind, rfl, closesAgain⟩
  rcases eq_cons_of_jsString isAscii_closing closesAgain.symm with ⟨behind, rfl, same⟩
  exact ⟨behind, rfl, same⟩

theorem jsString_closes (behind : Text) :
    jsString ('\x7d' :: '\x7d' :: behind) = 0x7D :: 0x7D :: jsString behind := by
  rw [jsString_cons_ascii isAscii_closing, jsString_cons_ascii isAscii_closing]
  rfl

theorem jsMatchTrackUrl_jsString (text : Text) :
    jsMatchTrackUrl (jsString text) =
      (matchTrackUrl text).map fun found => (found.1.map jsString, jsString found.2) := by
  rcases isPrefixOf_jsString text with ⟨same, behind⟩
  unfold jsMatchTrackUrl matchTrackUrl
  rw [same]
  by_cases isHead : trackUrlHead.isPrefixOf text = true
  · have length : jsTrackUrlHead.length = trackUrlHead.length := List.length_map _
    rw [if_pos isHead, if_pos isHead, length, behind isHead]
    generalize text.drop trackUrlHead.length = tail
    split
    · rename_i rest closes
      rcases eq_of_jsString_closes closes with ⟨behind, rfl, rfl⟩
      rfl
    · rename_i rest opens
      rcases eq_cons_of_jsString isAscii_equals opens with ⟨behind, rfl, rfl⟩
      have agrees := agrees_not_ascii isAscii_closing behind
      have dropped : (jsString behind).dropWhile (fun unit => decide (unit ≠ 0x7D)) =
          jsString (behind.dropWhile fun char => decide (char ≠ '\x7d')) :=
        agrees.dropWhile_flatMap
      have taken : (jsString behind).takeWhile (fun unit => decide (unit ≠ 0x7D)) =
          jsString (behind.takeWhile fun char => decide (char ≠ '\x7d')) :=
        agrees.takeWhile_flatMap
      rw [dropped, taken]
      split
      · rename_i last closes
        rcases eq_of_jsString_closes closes with ⟨left, isLeft, rfl⟩
        simp only [isLeft]
        rfl
      · rename_i open_
        split
        · rename_i heq
          cases heq
        · rename_i heq
          cases heq
          split
          · rename_i last closes
            rw [closes, jsString_closes] at open_
            exact absurd rfl (open_ _)
          · rfl
        · rfl
    · rename_i notClosing notEquals
      split
      · rw [jsString_closes] at notClosing
        exact absurd rfl (notClosing _)
      · rename_i rest
        rw [jsString_cons_ascii isAscii_equals] at notEquals
        exact absurd rfl (notEquals _)
      · rfl
  · rw [if_neg isHead, if_neg isHead]
    rfl

theorem jsReplaceFrom_drop (replacement : Option JsString → JsString) (s : JsString)
    (matched : ℕ) :
    jsReplaceFrom replacement s matched = jsReplaceFrom replacement (s.drop matched) 0 := by
  induction s generalizing matched with
  | nil => simp [jsReplaceFrom]
  | cons unit s ih =>
      cases matched with
      | zero => rfl
      | succ matched => rw [jsReplaceFrom, ih, List.drop_succ_cons]

theorem jsMatchTrackUrl_of_not_head {s : JsString}
    (noHead : jsTrackUrlHead.isPrefixOf s = false) : jsMatchTrackUrl s = none := by
  simp [jsMatchTrackUrl, noHead]

theorem jsReplaceFrom_of_ne {replacement : Option JsString → JsString} {unit : ℕ}
    (other : unit ≠ 0x7B) (s : JsString) :
    jsReplaceFrom replacement (unit :: s) 0 = unit :: jsReplaceFrom replacement s 0 := by
  have noHead : jsTrackUrlHead.isPrefixOf (unit :: s) = false := by
    simp [jsTrackUrlHead, trackUrlHead, List.isPrefixOf_cons_cons, Ne.symm other]
  rw [jsReplaceFrom, jsMatchTrackUrl_of_not_head noHead]

theorem jsReplaceFrom_literal {replacement : Option JsString → JsString} {char : Char} {text : Text}
    (found : matchTrackUrl (char :: text) = none) :
    jsReplaceFrom replacement (jsString (char :: text)) 0 =
      utf16Units char ++ jsReplaceFrom replacement (jsString text) 0 := by
  have noMatch := jsMatchTrackUrl_jsString (char :: text)
  rw [found, Option.map_none, jsString_cons] at noMatch
  rw [jsString_cons]
  by_cases basic : InBasicPlane char
  · rw [utf16Units, if_pos basic, List.singleton_append] at noMatch ⊢
    rw [jsReplaceFrom, noMatch, List.singleton_append]
  · rw [utf16Units, if_neg basic, List.cons_append, List.singleton_append] at noMatch ⊢
    rw [jsReplaceFrom, noMatch]
    dsimp only
    rw [jsReplaceFrom_of_ne (by omega), List.cons_append, List.singleton_append]

theorem exists_drop_jsString {text front rest : Text} (whole : text = front ++ rest)
    (some : front ≠ []) :
    ∃ unit s, jsString text = unit :: s ∧
      s.drop (s.length - (jsString rest).length) = jsString rest := by
  have units : jsString front ≠ [] := by
    intro empty
    have isEmpty := isEmpty_jsString front
    rw [empty, List.isEmpty_nil, eq_comm, List.isEmpty_iff] at isEmpty
    exact some isEmpty
  obtain ⟨unit, s, starts⟩ := List.exists_cons_of_ne_nil units
  refine ⟨unit, s ++ jsString rest, ?_, ?_⟩
  · rw [whole, jsString_append, starts, List.cons_append]
  · rw [List.length_append, Nat.add_sub_cancel, List.drop_left]

theorem jsReplaceFrom_jsString {replacement : Option JsString → JsString}
    {textReplacement : Option Text → Text}
    (same : ∀ inner, replacement (inner.map jsString) = jsString (textReplacement inner))
    (text : Text) :
    jsReplaceFrom replacement (jsString text) 0 = jsString (subTrackUrl textReplacement text) := by
  generalize isLength : text.length = length
  induction length using Nat.strong_induction_on generalizing text with
  | h length ih =>
      cases text with
      | nil => rfl
      | cons char text =>
          cases found : matchTrackUrl (char :: text) with
          | none =>
              rw [jsReplaceFrom_literal found, ih text.length (by simp [← isLength]) text rfl,
                subTrackUrl, subTrackUrl, pieces_of_no_match found]
              rfl
          | some result =>
              rcases result with ⟨inner, rest⟩
              rcases rest_of_matchTrackUrl found with ⟨front, some_front, whole, -⟩
              have shorter : rest.length < length := by
                have nonempty := List.length_pos_iff.mpr some_front
                rw [← isLength, whole, List.length_append]
                omega
              have found' := jsMatchTrackUrl_jsString (char :: text)
              rw [found, Option.map_some] at found'
              obtain ⟨unit, s, units, dropped⟩ := exists_drop_jsString whole some_front
              rw [units] at found' ⊢
              rw [jsReplaceFrom, found']
              dsimp only
              rw [jsReplaceFrom_drop, dropped, same, ih rest.length shorter rest rfl, subTrackUrl,
                subTrackUrl, pieces_of_match found, List.flatMap_cons, jsString_append]
              rfl

theorem jsReplaceFrom_of_not_mentions {replacement : Option JsString → JsString} {s : JsString}
    (silent : jsMentionsTrackUrl s = false) : jsReplaceFrom replacement s 0 = s := by
  induction s with
  | nil => rfl
  | cons unit s ih =>
      rw [jsMentionsTrackUrl, List.tails_cons, List.any_cons, Bool.or_eq_false_iff] at silent
      rw [jsReplaceFrom, jsMatchTrackUrl_of_not_head silent.1]
      exact congrArg (unit :: ·) (ih silent.2)

theorem jsEffective_eq (message : JsString) :
    jsEffective message = jsReplaceFrom jsUrl message 0 := by
  unfold jsEffective
  by_cases tested : ¬ message.isEmpty = true ∧ jsMentionsTrackUrl message = true
  · have untouched : ¬(message.isEmpty = true ∨ ¬jsMentionsTrackUrl message = true) := by
      rintro (empty | silent)
      · exact tested.1 empty
      · exact silent tested.2
    rw [if_pos tested, jsSubstituteTrackUrlForCount, if_neg untouched]
  · rw [if_neg tested]
    by_cases empty : message.isEmpty = true
    · rw [List.isEmpty_iff.mp empty]
      rfl
    · refine (jsReplaceFrom_of_not_mentions ?_).symm
      simpa [empty] using tested

/-! ### The bases of placeholders -/

/-- `trim`, of a text. -/
def frontEndTrim (text : Text) : Text :=
  ((text.dropWhile fun char => char.toNat ∈ jsWhiteSpace).reverse.dropWhile fun char =>
    char.toNat ∈ jsWhiteSpace).reverse

/-- The base that the web client takes from a placeholder: what stands between the first two
bars. -/
def frontEndBase (inner : Option Text) : Text :=
  match behindBar (inner.getD []) with
  | some rest =>
      let part := frontEndTrim (rest.takeWhile (· ≠ '|'))
      if part.isEmpty then fallbackBase else part
  | none => fallbackBase

def frontEndUrl (inner : Option Text) : Text :=
  rstripSlash (frontEndBase inner) ++ ['/', 'A', 'b', '3', 'X', 'z', '7', 'q']

theorem agrees_jsWhiteSpace (text : Text) :
    Agrees utf16Units (fun char => decide (char.toNat ∈ jsWhiteSpace))
      (fun unit => decide (unit ∈ jsWhiteSpace)) text := by
  have noSurrogate : ∀ unit ∈ jsWhiteSpace, unit < 0xD800 ∨ 0xE000 ≤ unit ∧ unit < 0x10000 := by
    decide
  refine ⟨fun other _ => utf16Units_ne_nil other, ?_⟩
  intro char _ unit member
  unfold utf16Units at member
  split at member
  · rw [List.mem_singleton.mp member]
  · rename_i large
    have bound := char_toNat_lt char
    have outside : unit ∉ jsWhiteSpace := by
      intro listed
      have plain := noSurrogate unit listed
      simp only [List.mem_cons, List.not_mem_nil, or_false] at member
      omega
    have charOutside : char.toNat ∉ jsWhiteSpace := by
      intro listed
      have plain := noSurrogate char.toNat listed
      exact large (show char.toNat < 0x10000 by omega)
    simp [outside, charOutside]

theorem jsTrim_jsString (text : Text) : jsTrim (jsString text) = jsString (frontEndTrim text) := by
  have front := (agrees_jsWhiteSpace text).dropWhile_flatMap
  have back := (agrees_jsWhiteSpace
    (text.dropWhile fun char => decide (char.toNat ∈ jsWhiteSpace))).dropWhile_reverse_flatMap
  unfold jsTrim jsString
  rw [front, back]
  rfl

theorem jsRstripSlash_jsString (text : Text) :
    jsRstripSlash (jsString text) = jsString (rstripSlash text) := by
  have isAscii : ('/').toNat < 0x80 := by decide
  exact (agrees_ascii isAscii text).dropWhile_reverse_flatMap

theorem jsSecondPart_jsString (text : Text) :
    jsSecondPart (jsString text) =
      (behindBar text).map fun rest => jsString (rest.takeWhile (· ≠ '|')) := by
  have isAscii : ('|').toNat < 0x80 := by decide
  have dropped : (jsString text).dropWhile (fun unit => decide (unit ≠ 0x7C)) =
      jsString (text.dropWhile fun char => decide (char ≠ '|')) :=
    (agrees_not_ascii isAscii text).dropWhile_flatMap
  unfold jsSecondPart behindBar
  rw [dropped]
  cases behind : text.dropWhile fun char => decide (char ≠ '|') with
  | nil => rfl
  | cons char rest =>
      have isBar : char = '|' := by
        have first := List.head?_dropWhile_not (fun char => decide (char ≠ '|')) text
        rw [behind] at first
        simpa using first
      rw [isBar, jsString_cons_ascii isAscii]
      exact congrArg some (agrees_not_ascii isAscii rest).takeWhile_flatMap

theorem jsBase_jsString (inner : Option Text) :
    jsBase (inner.map jsString) = jsString (frontEndBase inner) := by
  have given : (inner.map jsString).getD [] = jsString (inner.getD []) := by
    cases inner <;> rfl
  unfold jsBase frontEndBase
  rw [given, jsSecondPart_jsString]
  cases behindBar (inner.getD []) with
  | none => rfl
  | some rest =>
      rw [Option.map_some]
      dsimp only
      rw [jsTrim_jsString, isEmpty_jsString]
      split <;> rfl

theorem jsUrl_jsString (inner : Option Text) :
    jsUrl (inner.map jsString) = jsString (frontEndUrl inner) := by
  rw [jsUrl, jsBase_jsString, jsRstripSlash_jsString, frontEndUrl, jsString_append]

/-! ### Counting -/

theorem jsPoint_toNat (char : Char) : jsPoint char.toNat = utf16Units char := rfl

theorem jsNormalizePoint_toNat (char : Char) :
    jsNormalizePoint char.toNat = jsString (normalizeChar char) := by
  have itself : jsPoint char.toNat = jsString [char] := by
    rw [jsPoint_toNat, jsString_cons]
    exact (List.append_nil _).symm
  unfold jsNormalizePoint normalizeChar
  rw [itself]
  simp only [apply_ite jsString]
  rfl

theorem jsNormalize_jsString (text : Text) :
    jsNormalize (jsString text) = jsString (normalizeForSmsSegmentCount text) := by
  rw [jsNormalize, jsString, joinSurrogates_flatMap, List.flatMap_map, jsString,
    normalizeForSmsSegmentCount, List.flatMap_assoc]
  exact List.flatMap_congr fun char _ => jsNormalizePoint_toNat char

theorem gsm7Charset_eq : gsm7Charset = gsm7Chars := by
  refine Eq.trans (congrArg String.toList ?_) (String.toList_ofList (l := gsm7Chars))
  decide +kernel

theorem gsm7ExtSet_eq : gsm7ExtSet = gsm7ExtChars := by
  decide

theorem jsGsm7SeptetCount_toNat (text : Text) :
    jsGsm7SeptetCount (text.map Char.toNat) = gsm7SeptetCount text := by
  induction text with
  | nil => rfl
  | cons char text ih =>
      have injective : Function.Injective Char.toNat := fun _ _ => Char.toNat_inj.mp
      rw [List.map_cons, jsGsm7SeptetCount, gsm7SeptetCount, septetsOf, gsm7Charset_eq,
        gsm7ExtSet_eq, ih]
      simp only [List.mem_map_of_injective injective]
      split
      · rfl
      · split <;> rfl

theorem length_utf16Units (char : Char) : (utf16Units char).length = codeUnitsOf char := by
  by_cases basic : InBasicPlane char
  · have small : ¬0xFFFF < char.toNat := Nat.not_lt.mpr (Nat.le_of_lt_succ basic)
    rw [utf16Units, codeUnitsOf, if_pos basic, if_neg small]
    rfl
  · have large : 0xFFFF < char.toNat := Nat.not_lt.mp basic
    rw [utf16Units, codeUnitsOf, if_neg basic, if_pos large]
    rfl

theorem length_jsString (text : Text) : (jsString text).length = utf16CodeUnitCount text := by
  rw [jsString, List.length_flatMap, utf16CodeUnitCount]
  simp only [length_utf16Units]

theorem jsCountSmsParts_jsString (message : Text) :
    jsCountSmsParts (jsString message) =
      partsOf (normalizeForSmsSegmentCount (subTrackUrl frontEndUrl message)) := by
  have norm : jsNormalize (jsEffective (jsString message)) =
      jsString (normalizeForSmsSegmentCount (subTrackUrl frontEndUrl message)) := by
    rw [jsEffective_eq, jsReplaceFrom_jsString jsUrl_jsString, jsNormalize_jsString]
  rw [jsCountSmsParts, norm]
  generalize normalizeForSmsSegmentCount (subTrackUrl frontEndUrl message) = text
  have points : joinSurrogates (jsString text) = text.map Char.toNat := joinSurrogates_flatMap text
  rw [jsPartsOf, points, jsGsm7SeptetCount_toNat, length_jsString, partsOf]
  exact if_congr (utf16CodeUnitCount_eq_zero_iff text) rfl rfl

/-! ### Links of either side -/

def frontEndSize (inner : Option Text) : Size :=
  size (rstripSlash (frontEndBase inner)) + septets 8

theorem size_frontEndUrl (inner : Option Text) :
    size (frontEndUrl inner) = frontEndSize inner := by
  have sample : size ['/', 'A', 'b', '3', 'X', 'z', '7', 'q'] = septets 8 := by decide
  rw [frontEndUrl, size_append, sample, frontEndSize]

def FitsInto (parts : ℕ) : Size → Prop
  | (some septets, _) => septets ≤ if parts = 1 then 160 else 153 * parts
  | (none, units) => units ≤ if parts = 1 then 70 else 67 * parts

instance (parts : ℕ) : DecidablePred (FitsInto parts)
  | (some _, _) => inferInstanceAs (Decidable (_ ≤ _))
  | (none, _) => inferInstanceAs (Decidable (_ ≤ _))

def Size.Proper (textSize : Size) : Prop :=
  textSize.2 = 0 ↔ textSize.1 = some 0

theorem septetsOf_pos {char : Char} {septets : ℕ} (known : septetsOf char = some septets) :
    0 < septets := by
  unfold septetsOf at known
  split at known
  · cases known
    decide
  · split at known
    · cases known
      decide
    · cases known

theorem gsm7SeptetCount_eq_some_zero_iff (norm : Text) :
    gsm7SeptetCount norm = some 0 ↔ norm.length = 0 := by
  cases norm with
  | nil => simp [gsm7SeptetCount]
  | cons char norm =>
      rw [gsm7SeptetCount]
      cases known : septetsOf char with
      | none => simp
      | some septets =>
          have positive := septetsOf_pos known
          cases gsm7SeptetCount norm with
          | none => simp
          | some rest => simp [Nat.ne_of_gt positive]

theorem proper_size (text : Text) : (size text).Proper := by
  have zero := gsm7SeptetCount_eq_some_zero_iff (normalizeForSmsSegmentCount text)
  rw [Size.Proper, size, sum_charSize, utf16CodeUnitCount_eq_zero_iff, ← zero]
  cases gsm7SeptetCount (normalizeForSmsSegmentCount text) with
  | none => exact iff_of_false (Option.some_ne_none _).symm (Option.some_ne_none _).symm
  | some count => exact Iff.rfl

theorem partsOfSize_le_iff {textSize : Size} (proper : textSize.Proper) (parts : ℕ) :
    partsOfSize textSize ≤ parts ↔ FitsInto parts textSize := by
  rcases textSize with ⟨_ | septets, units⟩
  · unfold partsOfSize FitsInto
    dsimp only
    split_ifs <;> omega
  · have zero : units = 0 ↔ septets = 0 := by
      refine proper.trans ⟨fun same => ?_, fun same => ?_⟩
      · exact Option.some.inj same
      · rw [same]
    unfold partsOfSize FitsInto
    dsimp only
    split_ifs <;> omega

def groupedMessage : Text :=
  List.replicate 148 'a' ++ "\x7b\x7bTRACK_URL=x.com|y.cc|g=1\x7d\x7d".toList

end Klsmsc.Sms
