import Mathlib.Algebra.BigOperators.Group.List.Basic
import Mathlib.Algebra.Order.Monoid.Unbundled.WithTop
import Mathlib.Algebra.Group.Prod
import Klsmsc.Sms.Segment

/-!
# Billed and sent short links

A placeholder is billed as a short link with a base that the counter reads and a
token of seven characters. What is sent is the base that the replacer reads from
the first placeholder with a fresh token of eight characters, the same link for
every placeholder. Both texts take the same number of parts exactly when the
literal text with either kind of links falls into the same part.

The failover of a domain and the reuse of a minted token are outside: the base is
the one of the placeholder and the token is an argument, so the group of a
placeholder, which only names the key under which its token is kept, is left out.
The check of the target is a parameter. So is what `re.sub` writes for a link in
which a backslash starts an escape of the template.
-/

namespace Klsmsc.Sms

variable (unicode : Unicode)

/-- `_BASE62`. -/
def base62 : Text :=
  ['0', '1', '2', '3', '4', '5', '6', '7', '8', '9',
   'A', 'B', 'C', 'D', 'E', 'F', 'G', 'H', 'I', 'J', 'K', 'L', 'M', 'N', 'O', 'P', 'Q', 'R',
   'S', 'T', 'U', 'V', 'W', 'X', 'Y', 'Z',
   'a', 'b', 'c', 'd', 'e', 'f', 'g', 'h', 'i', 'j', 'k', 'l', 'm', 'n', 'o', 'p', 'q', 'r',
   's', 't', 'u', 'v', 'w', 'x', 'y', 'z']

/-- What `_gen_token` can return. -/
structure IsToken (token : Text) : Prop where
  length_eq : token.length = 8
  alphabet : ∀ char ∈ token, char ∈ base62

def firstPlaceholder : List Piece → Option (Option Text)
  | [] => none
  | .literal _ :: rest => firstPlaceholder rest
  | .placeholder inner :: _ => some inner

/-- `text.split("|")`. -/
def splitBars : Text → List Text
  | [] => [[]]
  | char :: text =>
      if char = '|' then [] :: splitBars text
      else
        match splitBars text with
        | part :: parts => (char :: part) :: parts
        | [] => [[char]]

def plainParts (embedded : Text) : List Text :=
  ((splitBars embedded).map (strip unicode)).filter fun part =>
    ¬ List.isPrefixOf ['g', '='] part

def partOr (parts : List Text) (position : ℕ) (fallback : Text) : Text :=
  match parts[position]? with
  | some part => if part.isEmpty then fallback else part
  | none => fallback

/-- `extract_placeholder_parts`. -/
def extractPlaceholderParts (message defaultUrl defaultBaseUrl : Text) : Option (Text × Text) :=
  match firstPlaceholder (pieces message) with
  | none => none
  | some inner =>
      let embedded := strip unicode (inner.getD [])
      let plain := if embedded.isEmpty then [] else plainParts unicode embedded
      let targetUrl := partOr plain 0 defaultUrl
      let baseUrl := partOr plain 1 defaultBaseUrl
      if targetUrl.isEmpty then none
      else some (targetUrl, if baseUrl.isEmpty then defaultBaseUrl else baseUrl)

/-- The link that `generate_short_link` returns for a token. -/
def shortUrl (baseUrl token : Text) : Text :=
  rstripSlash baseUrl ++ '/' :: token

/-- What `re.sub` writes when the template is a link, for a match with a group 1. -/
def writeTemplate (expand : Text → Option Text → Text) (link : Text) (inner : Option Text) :
    Text :=
  if '\\' ∈ link then expand link inner else link

/-- `replace_track_url_in_message`, with a token that was minted for it. -/
def replaceTrackUrlInMessage (normalizeTargetUrl : Text → Text)
    (expand : Text → Option Text → Text) (message baseUrl defaultTargetUrl token : Text) : Text :=
  match extractPlaceholderParts unicode message defaultTargetUrl baseUrl with
  | none => message
  | some (targetUrl, effectiveBase) =>
      if (normalizeTargetUrl targetUrl).isEmpty then message
      else subTrackUrl (writeTemplate expand (shortUrl effectiveBase token)) message

/-- What a text takes in either encoding: septets, without bound when a character is not
GSM-7, and code units. -/
abbrev Size := WithTop ℕ × ℕ

def charSize (char : Char) : Size :=
  ((septetsOf char).elim ⊤ WithTop.some, codeUnitsOf char)

def size (text : Text) : Size :=
  ((normalizeForSmsSegmentCount text).map charSize).sum

def septets (count : ℕ) : Size :=
  (WithTop.some count, count)

def partsOfSize : Size → ℕ
  | (count, units) =>
      if units = 0 then 0
      else
        match count with
        | some septets => if septets ≤ 160 then 1 else (septets + 152) / 153
        | none => if units ≤ 70 then 1 else (units + 66) / 67

def piecesSize (linkSize : Option Text → Size) (pieces : List Piece) : Size :=
  (pieces.map fun piece =>
    match piece with
    | .literal char => size [char]
    | .placeholder inner => linkSize inner).sum

def countedSize (inner : Option Text) : Size :=
  size (rstripSlash (countedBase unicode inner)) + septets 8

def sentBase (message defaultTargetUrl baseUrl : Text) : Text :=
  match extractPlaceholderParts unicode message defaultTargetUrl baseUrl with
  | none => baseUrl
  | some (_, effectiveBase) => effectiveBase

def sentSize (expand : Text → Option Text → Text) (base token : Text) (inner : Option Text) :
    Size :=
  if '\\' ∈ rstripSlash base then size (expand (shortUrl base token) inner)
  else size (rstripSlash base) + septets 9

@[simp]
theorem size_nil : size [] = 0 := rfl

@[simp]
theorem size_append (left right : Text) : size (left ++ right) = size left + size right := by
  simp [size, normalizeForSmsSegmentCount]

theorem size_cons (char : Char) (text : Text) : size (char :: text) = size [char] + size text :=
  size_append [char] text

theorem size_flatMap {Element : Type} (write : Element → Text) (elements : List Element) :
    size (elements.flatMap write) = (elements.map fun element => size (write element)).sum := by
  induction elements with
  | nil => rfl
  | cons element elements ih => simp [ih]

theorem size_subTrackUrl (replacement : Option Text → Text) (message : Text) :
    size (subTrackUrl replacement message) =
      piecesSize (fun inner => size (replacement inner)) (pieces message) := by
  rw [subTrackUrl, size_flatMap, piecesSize]
  congr 1
  apply List.map_congr_left
  intro piece _
  cases piece with
  | literal char => rfl
  | placeholder inner => rfl

theorem sum_charSize (norm : Text) :
    (norm.map charSize).sum =
      ((gsm7SeptetCount norm).elim ⊤ WithTop.some, utf16CodeUnitCount norm) := by
  induction norm with
  | nil => rfl
  | cons char norm ih =>
      have units : utf16CodeUnitCount (char :: norm) =
          codeUnitsOf char + utf16CodeUnitCount norm := by
        simp [utf16CodeUnitCount]
      rw [List.map_cons, List.sum_cons, ih, charSize, units, gsm7SeptetCount]
      cases septetsOf char with
      | none => rfl
      | some width =>
          cases gsm7SeptetCount norm with
          | none => rfl
          | some rest => rfl

theorem utf16CodeUnitCount_eq_zero_iff (norm : Text) :
    utf16CodeUnitCount norm = 0 ↔ norm.length = 0 := by
  cases norm with
  | nil => simp [utf16CodeUnitCount]
  | cons char norm =>
      have width : codeUnitsOf char ≠ 0 := by
        rw [codeUnitsOf]
        split <;> omega
      simp [utf16CodeUnitCount, width]

theorem partsOf_eq_partsOfSize (text : Text) :
    partsOf (normalizeForSmsSegmentCount text) = partsOfSize (size text) := by
  rw [size, sum_charSize, partsOf]
  cases gsm7SeptetCount (normalizeForSmsSegmentCount text) with
  | none => simp only [partsOfSize, Option.elim_none, utf16CodeUnitCount_eq_zero_iff]
  | some count => simp only [partsOfSize, Option.elim_some, utf16CodeUnitCount_eq_zero_iff]

theorem septets_add (left right : ℕ) : septets (left + right) = septets left + septets right :=
  rfl

theorem size_of_mem_base62 {char : Char} (known : char ∈ base62) : size [char] = septets 1 := by
  have plain : base62.all (fun char => normalizeChar char = [char] ∧ septetsOf char = some 1 ∧
      codeUnitsOf char = 1) = true := by
    decide +kernel
  rcases of_decide_eq_true (List.all_eq_true.mp plain char known) with ⟨normal, width, units⟩
  simp [size, normalizeForSmsSegmentCount, charSize, normal, width, units, septets]

theorem size_of_base62 {text : Text} (alphabet : ∀ char ∈ text, char ∈ base62) :
    size text = septets text.length := by
  induction text with
  | nil => rfl
  | cons char text ih =>
      rcases List.forall_mem_cons.mp alphabet with ⟨known, rest⟩
      rw [size_cons, ih rest, size_of_mem_base62 known, List.length_cons, Nat.add_comm,
        septets_add]

theorem size_countedUrl (inner : Option Text) :
    size (countedUrl unicode inner) = countedSize unicode inner := by
  have sample : size ['/', 'A', 'b', '3', 'X', 'z', '7', 'q'] = septets 8 := by decide
  rw [countedUrl, size_append, sample, countedSize]

theorem size_shortUrl (base : Text) {token : Text} (isToken : IsToken token) :
    size (shortUrl base token) = size (rstripSlash base) + septets 9 := by
  have slash : size ['/'] = septets 1 := by decide
  rw [shortUrl, size_append, size_cons, slash, size_of_base62 isToken.alphabet,
    isToken.length_eq, ← septets_add]

theorem backslash_mem_shortUrl_iff (base : Text) {token : Text} (isToken : IsToken token) :
    '\\' ∈ shortUrl base token ↔ '\\' ∈ rstripSlash base := by
  have plain : '\\' ∉ token := by
    intro member
    have known := isToken.alphabet _ member
    revert known
    decide
  simp [shortUrl, plain]

theorem size_writeTemplate (expand : Text → Option Text → Text) (base : Text) {token : Text}
    (isToken : IsToken token) (inner : Option Text) :
    size (writeTemplate expand (shortUrl base token) inner) =
      sentSize expand base token inner := by
  rw [writeTemplate, sentSize]
  by_cases escaped : '\\' ∈ rstripSlash base
  · rw [if_pos escaped, if_pos ((backslash_mem_shortUrl_iff base isToken).mpr escaped)]
  · rw [if_neg escaped, if_neg ((backslash_mem_shortUrl_iff base isToken).not.mpr escaped),
      size_shortUrl base isToken]

theorem countSmsParts_eq_partsOfSize (message : Text) :
    countSmsParts unicode message =
      partsOfSize (piecesSize (countedSize unicode) (pieces message)) := by
  rw [countSmsParts_eq, partsOf_eq_partsOfSize, size_subTrackUrl]
  simp only [size_countedUrl]

theorem piecesSize_of_free {message : Text} (free : FreeOfTrackUrl message)
    (linkSize : Option Text → Size) : piecesSize linkSize (pieces message) = size message := by
  have same := size_subTrackUrl (fun _ => []) message
  rw [subTrackUrl_of_free free] at same
  rw [same, piecesSize, piecesSize, free, List.map_map, List.map_map]
  rfl

theorem size_replaceTrackUrlInMessage (normalizeTargetUrl : Text → Text)
    (expand : Text → Option Text → Text) (message baseUrl defaultTargetUrl : Text)
    {token : Text} (isToken : IsToken token)
    (replaced : FreeOfTrackUrl (replaceTrackUrlInMessage unicode normalizeTargetUrl expand
      message baseUrl defaultTargetUrl token)) :
    size (replaceTrackUrlInMessage unicode normalizeTargetUrl expand message baseUrl
        defaultTargetUrl token) =
      piecesSize (sentSize expand (sentBase unicode message defaultTargetUrl baseUrl) token)
        (pieces message) := by
  cases parts : extractPlaceholderParts unicode message defaultTargetUrl baseUrl with
  | none =>
      simp only [replaceTrackUrlInMessage, parts] at replaced ⊢
      rw [piecesSize_of_free replaced]
  | some found =>
      rcases found with ⟨targetUrl, effectiveBase⟩
      simp only [replaceTrackUrlInMessage, sentBase, parts] at replaced ⊢
      by_cases refused : (normalizeTargetUrl targetUrl).isEmpty = true
      · rw [if_pos refused] at replaced ⊢
        rw [piecesSize_of_free replaced]
      · rw [if_neg refused, size_subTrackUrl]
        simp only [size_writeTemplate expand effectiveBase isToken]

def linkMessage : Text :=
  List.replicate 148 'a' ++ "\x7b\x7bTRACK_URL=x.com|y.cc\x7d\x7d".toList

/-- `linkMessage` with the token `00000000`. -/
def sentLinkMessage : Text :=
  replaceTrackUrlInMessage Unicode.ascii id (fun link _ => link) linkMessage fallbackBase []
    (List.replicate 8 '0')

theorem isToken_zeros : IsToken (List.replicate 8 '0') where
  length_eq := rfl
  alphabet := by
    intro char member
    rw [List.eq_of_mem_replicate member]
    decide

theorem freeOfTrackUrl_sentLinkMessage : FreeOfTrackUrl sentLinkMessage :=
  freeOfTrackUrl_of_not_mentions (by decide)

end Klsmsc.Sms
