import Mathlib.Algebra.BigOperators.Group.List.Basic
import Mathlib.Data.List.Infix
import Klsmsc.Text
import Mathlib.Algebra.GroupWithZero.Nat

/-!
# Segment counting

How many parts the platform bills for a text. A text is a list of characters, as
Python sees it; a lone surrogate, which no encoder accepts, does not occur.

The white list of replacements is the whole normalisation, and the text that goes
to the operator passes through the same function.
-/

namespace Klsmsc.Sms

abbrev Text := List Char

/-- `_GSM7_CHARS`, in the order of the file. -/
def gsm7Chars : Text :=
  ['@', '£', '$', '¥', 'è', 'é', 'ù', 'ì', 'ò', 'Ç', '\n', 'Ø', 'ø', '\r', 'Å', 'å', 'Δ', '_',
   'Φ', 'Γ', 'Λ', 'Ω', 'Π', 'Ψ', 'Σ', 'Θ', 'Ξ', 'Æ', 'æ', 'ß', 'É', ' ', '!', '"', '#', '¤', '%',
   '&', '\'', '(', ')', '*', '+', ',', '-', '.', '/', '0', '1', '2', '3', '4', '5', '6', '7', '8',
   '9', ':', ';', '<', '=', '>', '?', '¡', 'A', 'B', 'C', 'D', 'E', 'F', 'G', 'H', 'I', 'J', 'K',
   'L', 'M', 'N', 'O', 'P', 'Q', 'R', 'S', 'T', 'U', 'V', 'W', 'X', 'Y', 'Z', 'Ä', 'Ö', 'Ñ', 'Ü',
   '§', '¿', 'a', 'b', 'c', 'd', 'e', 'f', 'g', 'h', 'i', 'j', 'k', 'l', 'm', 'n', 'o', 'p', 'q',
   'r', 's', 't', 'u', 'v', 'w', 'x', 'y', 'z', 'ä', 'ö', 'ñ', 'ü', 'à']

/-- `_GSM7_EXT_CHARS`. -/
def gsm7ExtChars : Text :=
  ['\x0c', '^', '\x7b', '\x7d', '\\', '[', '~', ']', '|', '€']

def septetsOf (char : Char) : Option ℕ :=
  if char ∈ gsm7Chars then some 1 else if char ∈ gsm7ExtChars then some 2 else none

/-- `gsm7_septet_count`. -/
def gsm7SeptetCount : Text → Option ℕ
  | [] => some 0
  | char :: norm =>
      match septetsOf char with
      | some septets => (gsm7SeptetCount norm).map (septets + ·)
      | none => none

def codeUnitsOf (char : Char) : ℕ :=
  if 0xFFFF < char.toNat then 2 else 1

/-- `utf16_code_unit_count`. -/
def utf16CodeUnitCount (text : Text) : ℕ :=
  (text.map codeUnitsOf).sum

/-- The white list of `normalize_for_sms_segment_count`: no-break space, zero-width
characters, curly quotes, dashes and the ellipsis. -/
def normalizeChar (char : Char) : Text :=
  if char.toNat = 0xA0 then [' ']
  else if char.toNat = 0x200B ∨ char.toNat = 0x200C ∨ char.toNat = 0x200D ∨
      char.toNat = 0xFEFF then []
  else if char.toNat = 0x2018 ∨ char.toNat = 0x2019 then ['\'']
  else if char.toNat = 0x201C ∨ char.toNat = 0x201D then ['"']
  else if char.toNat = 0x2013 then ['-']
  else if char.toNat = 0x2014 then ['-']
  else if char.toNat = 0x2026 then ['.', '.', '.']
  else [char]

/-- `normalize_for_sms_segment_count`. -/
def normalizeForSmsSegmentCount (text : Text) : Text :=
  text.flatMap normalizeChar

/-- `sanitize_sms_text_for_wire`. -/
def sanitizeSmsTextForWire (message : Text) : Text :=
  if message.isEmpty then message else normalizeForSmsSegmentCount message

/-- What `re.sub` with the pattern of the placeholder passes over: a character, or a
placeholder with group 1 of the match. -/
inductive Piece where
  | literal (char : Char)
  | placeholder (inner : Option Text)
  deriving DecidableEq, Repr

/-- The text `TRACK_URL` behind two opening braces. -/
def trackUrlHead : Text :=
  ['\x7b', '\x7b', 'T', 'R', 'A', 'C', 'K', '_', 'U', 'R', 'L']

/-- A match of `_TRACK_URL_RE` at the start of a text: group 1 and what
follows the match. -/
def matchTrackUrl (text : Text) : Option (Option Text × Text) :=
  if trackUrlHead.isPrefixOf text then
    match text.drop trackUrlHead.length with
    | '\x7d' :: '\x7d' :: rest => some (none, rest)
    | '=' :: rest =>
        match rest.dropWhile (· ≠ '\x7d') with
        | '\x7d' :: '\x7d' :: last => some (some (rest.takeWhile (· ≠ '\x7d')), last)
        | _ => none
    | _ => none
  else none

def piecesFrom : Text → (matched : ℕ) → List Piece
  | [], _ => []
  | _ :: text, matched + 1 => piecesFrom text matched
  | char :: text, 0 =>
      match matchTrackUrl (char :: text) with
      | some (inner, rest) =>
          .placeholder inner :: piecesFrom text (text.length - rest.length)
      | none => .literal char :: piecesFrom text 0

def pieces (text : Text) : List Piece :=
  piecesFrom text 0

/-- What stands for a piece in the result of `re.sub`. -/
def Piece.write (replacement : Option Text → Text) : Piece → Text
  | .literal char => [char]
  | .placeholder inner => replacement inner

/-- `re.sub` with the pattern of the placeholder. -/
def subTrackUrl (replacement : Option Text → Text) (text : Text) : Text :=
  (pieces text).flatMap (Piece.write replacement)

/-- `in message`, of the head of a placeholder. -/
def mentionsTrackUrl (message : Text) : Bool :=
  message.tails.any fun tail => trackUrlHead.isPrefixOf tail

/-- `str.strip`. -/
def strip (unicode : Unicode) (text : Text) : Text :=
  ((text.dropWhile unicode.isSpace).reverse.dropWhile unicode.isSpace).reverse

/-- `text.rstrip("/")`. -/
def rstripSlash (text : Text) : Text :=
  (text.reverse.dropWhile (· = '/')).reverse

/-- `text.split("|", 1)[1:]`, that is what follows the first bar. -/
def behindBar (text : Text) : Option Text :=
  match text.dropWhile (· ≠ '|') with
  | _ :: rest => some rest
  | [] => none

def fallbackBase : Text :=
  ['k', 'l', 's', 'm', 's', '.', 'c', 'o', 'm']

/-- The base that `_repl` of `substitute_track_url_for_count` takes from a match. -/
def countedBase (unicode : Unicode) (inner : Option Text) : Text :=
  match behindBar (inner.getD []) with
  | some part => if (strip unicode part).isEmpty then fallbackBase else strip unicode part
  | none => fallbackBase

/-- `_repl` of `substitute_track_url_for_count`. -/
def countedUrl (unicode : Unicode) (inner : Option Text) : Text :=
  rstripSlash (countedBase unicode inner) ++ ['/', 'A', 'b', '3', 'X', 'z', '7', 'q']

/-- `substitute_track_url_for_count`. -/
def substituteTrackUrlForCount (unicode : Unicode) (message : Text) : Text :=
  if message.isEmpty ∨ ¬ mentionsTrackUrl message then message
  else subTrackUrl (countedUrl unicode) message

def partsOf (norm : Text) : ℕ :=
  if norm.length = 0 then 0
  else
    match gsm7SeptetCount norm with
    | some septets => if septets ≤ 160 then 1 else (septets + 152) / 153
    | none =>
        if utf16CodeUnitCount norm ≤ 70 then 1 else (utf16CodeUnitCount norm + 66) / 67

/-- `count_sms_parts`. -/
def countSmsParts (unicode : Unicode) (message : Text) : ℕ :=
  partsOf (normalizeForSmsSegmentCount
    (if ¬ message.isEmpty ∧ mentionsTrackUrl message then
      substituteTrackUrlForCount unicode message
    else message))

def FreeOfTrackUrl (text : Text) : Prop :=
  pieces text = text.map .literal

instance (text : Text) : Decidable (FreeOfTrackUrl text) :=
  inferInstanceAs (Decidable (_ = _))

theorem subTrackUrl_of_free {message : Text} (free : FreeOfTrackUrl message)
    (replacement : Option Text → Text) : subTrackUrl replacement message = message := by
  rw [subTrackUrl, free, List.flatMap_map]
  exact List.flatMap_singleton' message

theorem substituteTrackUrlForCount_of_free (unicode : Unicode) {message : Text}
    (free : FreeOfTrackUrl message) :
    substituteTrackUrlForCount unicode message = message := by
  rw [substituteTrackUrlForCount, subTrackUrl_of_free free, ite_self]

theorem countSmsParts_of_free (unicode : Unicode) {message : Text}
    (free : FreeOfTrackUrl message) :
    countSmsParts unicode message = partsOf (sanitizeSmsTextForWire message) := by
  rw [countSmsParts, substituteTrackUrlForCount_of_free unicode free, ite_self,
    sanitizeSmsTextForWire]
  cases message with
  | nil => rfl
  | cons char message => rfl

theorem matchTrackUrl_of_not_head {text : Text}
    (noHead : trackUrlHead.isPrefixOf text = false) : matchTrackUrl text = none := by
  simp [matchTrackUrl, noHead]

theorem freeOfTrackUrl_of_not_mentions {message : Text}
    (silent : mentionsTrackUrl message = false) : FreeOfTrackUrl message := by
  induction message with
  | nil => rfl
  | cons char message ih =>
      rw [mentionsTrackUrl, List.tails_cons, List.any_cons, Bool.or_eq_false_iff] at silent
      rcases silent with ⟨noHead, silentRest⟩
      have rest := ih silentRest
      rw [FreeOfTrackUrl, pieces] at rest ⊢
      simp [piecesFrom, matchTrackUrl_of_not_head noHead, rest]

theorem countSmsParts_eq (unicode : Unicode) (message : Text) :
    countSmsParts unicode message =
      partsOf (normalizeForSmsSegmentCount (subTrackUrl (countedUrl unicode) message)) := by
  by_cases tested : ¬ message.isEmpty = true ∧ mentionsTrackUrl message = true
  · have untouched : ¬ (message.isEmpty = true ∨ ¬ mentionsTrackUrl message = true) := by
      rintro (empty | silent)
      · exact tested.1 empty
      · exact silent tested.2
    rw [countSmsParts, if_pos tested, substituteTrackUrlForCount, if_neg untouched]
  · have free : FreeOfTrackUrl message := by
      by_cases empty : message.isEmpty = true
      · rw [List.isEmpty_iff.mp empty]
        rfl
      · apply freeOfTrackUrl_of_not_mentions
        simpa [empty] using tested
    rw [countSmsParts, if_neg tested, subTrackUrl_of_free free]

end Klsmsc.Sms
