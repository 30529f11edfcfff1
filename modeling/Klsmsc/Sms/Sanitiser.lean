import Klsmsc.Library.Encodings
import Klsmsc.Sms.ShortLink

/-!
# Counting and sanitising

The counter puts a short link in place of every placeholder and normalises afterwards; what goes
to the operator is normalised first. The normaliser writes characters of the same kind for all that
it replaces, so that the order does not matter for them. It deletes the zero-width characters, and
without these a placeholder can appear, or be read in another way.
-/

namespace Klsmsc.Sms

open Klsmsc.Library

/-! ### What the normaliser writes -/

def substitutes : Text :=
  [' ', '\'', '"', '-', '.']

theorem normalizeChar_spec (char : Char) :
    normalizeChar char = [char] ∨ normalizeChar char = [] ∨
      ∃ written ∈ substitutes, ∃ count, normalizeChar char = List.replicate count written := by
  unfold normalizeChar
  split
  · exact .inr (.inr ⟨' ', by decide, 1, rfl⟩)
  · split
    · exact .inr (.inl rfl)
    · split
      · exact .inr (.inr ⟨'\'', by decide, 1, rfl⟩)
      · split
        · exact .inr (.inr ⟨'"', by decide, 1, rfl⟩)
        · split
          · exact .inr (.inr ⟨'-', by decide, 1, rfl⟩)
          · split
            · exact .inr (.inr ⟨'-', by decide, 1, rfl⟩)
            · split
              · exact .inr (.inr ⟨'.', by decide, 3, rfl⟩)
              · exact .inl rfl

theorem eq_or_substitute {char written : Char} (member : written ∈ normalizeChar char) :
    (written = char ∧ normalizeChar char = [char]) ∨ written ∈ substitutes := by
  rcases normalizeChar_spec char with itself | nothing | ⟨other, listed, count, same⟩
  · rw [itself, List.mem_singleton] at member
    exact .inl ⟨member, itself⟩
  · rw [nothing] at member
    cases member
  · rw [same] at member
    rw [List.eq_of_mem_replicate member]
    exact .inr listed

theorem forall_of_all {holds : Char → Prop} [DecidablePred holds] {text : Text}
    (checked : (text.all fun char => decide (holds char)) = true) : ∀ char ∈ text, holds char :=
  fun char member => of_decide_eq_true (List.all_eq_true.mp checked char member)

theorem normalizeChar_of_mem {char written : Char} (member : written ∈ normalizeChar char) :
    normalizeChar written = [written] := by
  rcases eq_or_substitute member with ⟨rfl, itself⟩ | listed
  · exact itself
  · have all : ∀ other ∈ substitutes, normalizeChar other = [other] :=
      forall_of_all (by decide)
    exact all written listed

theorem normalize_idempotent (text : Text) :
    normalizeForSmsSegmentCount (normalizeForSmsSegmentCount text) =
      normalizeForSmsSegmentCount text := by
  have fixed : ∀ written : Text, (∀ char ∈ written, normalizeChar char = [char]) →
      normalizeForSmsSegmentCount written = written := by
    intro written fixed
    rw [normalizeForSmsSegmentCount, List.flatMap_congr fixed]
    exact List.flatMap_singleton' written
  refine fixed _ ?_
  intro char member
  rcases List.mem_flatMap.mp member with ⟨_, _, inside⟩
  exact normalizeChar_of_mem inside

theorem sanitize_eq (text : Text) :
    sanitizeSmsTextForWire text = normalizeForSmsSegmentCount text := by
  cases text <;> rfl

def Respects (test : Char → Bool) : Prop :=
  ∀ char, ∀ written ∈ normalizeChar char, test written = test char

def Visible (text : Text) : Prop :=
  ∀ char ∈ text, normalizeChar char ≠ []

def dropZeroWidth (text : Text) : Text :=
  text.filter fun char => !(normalizeChar char).isEmpty

theorem visible_dropZeroWidth (text : Text) : Visible (dropZeroWidth text) := by
  intro char member
  have kept := List.of_mem_filter member
  intro deleted
  rw [deleted] at kept
  cases kept

theorem normalize_dropZeroWidth (text : Text) :
    normalizeForSmsSegmentCount (dropZeroWidth text) = normalizeForSmsSegmentCount text := by
  induction text with
  | nil => rfl
  | cons char text ih =>
      simp only [normalizeForSmsSegmentCount, dropZeroWidth, List.filter_cons] at ih ⊢
      split
      · rw [List.flatMap_cons, List.flatMap_cons, ih]
      · rename_i deleted
        have empty : normalizeChar char = [] := by
          simpa using deleted
        rw [List.flatMap_cons, empty, List.nil_append, ih]

/-! ### The characters of a placeholder -/

def Inert (char : Char) : Prop :=
  normalizeChar char = [char] ∧ Respects fun other => decide (other = char)

theorem inert_of_not_substitute {char : Char} (fixed : normalizeChar char = [char])
    (noSubstitute : char ∉ substitutes) : Inert char := by
  refine ⟨fixed, ?_⟩
  intro other written member
  rcases eq_or_substitute member with ⟨rfl, -⟩ | listed
  · rfl
  · have differs : written ≠ char := by
      rintro rfl
      exact noSubstitute listed
    have otherDiffers : other ≠ char := by
      rintro rfl
      rw [fixed, List.mem_singleton] at member
      exact differs member
    simp [differs, otherDiffers]

/-! ### Searching a normalised text -/

theorem normalize_cons (char : Char) (text : Text) :
    normalizeForSmsSegmentCount (char :: text) =
      normalizeChar char ++ normalizeForSmsSegmentCount text :=
  rfl

theorem agrees_normalize {test : Char → Bool} (respects : Respects test) {text : Text}
    (visible : Visible text) : Agrees normalizeChar test test text :=
  ⟨visible, fun char _ => respects char⟩

theorem dropWhile_normalize {test : Char → Bool} (respects : Respects test) {text : Text}
    (visible : Visible text) :
    (normalizeForSmsSegmentCount text).dropWhile test =
      normalizeForSmsSegmentCount (text.dropWhile test) :=
  (agrees_normalize respects visible).dropWhile_flatMap

theorem takeWhile_normalize {test : Char → Bool} (respects : Respects test) {text : Text}
    (visible : Visible text) :
    (normalizeForSmsSegmentCount text).takeWhile test =
      normalizeForSmsSegmentCount (text.takeWhile test) :=
  (agrees_normalize respects visible).takeWhile_flatMap

theorem Visible.of_subset {part text : Text} (visible : Visible text) (inside : part ⊆ text) :
    Visible part :=
  fun char member => visible char (inside member)

theorem Visible.tail {char : Char} {text : Text} (visible : Visible (char :: text)) :
    Visible text :=
  visible.of_subset (List.subset_cons_self _ _)

theorem normalize_cons_visible {char : Char} {text : Text} (visible : Visible (char :: text)) :
    ∃ first rest, normalizeForSmsSegmentCount (char :: text) = first :: rest ∧
      ∀ other, Inert other → (first = other ↔ char = other) ∧
        (char = other → rest = normalizeForSmsSegmentCount text) := by
  cases written : normalizeChar char with
  | nil => exact absurd written (visible char List.mem_cons_self)
  | cons first rest =>
      refine ⟨first, rest ++ normalizeForSmsSegmentCount text, ?_, ?_⟩
      · rw [normalize_cons, written, List.cons_append]
      · rintro other ⟨fixed, respects⟩
        have same := respects char first (by rw [written]; exact List.mem_cons_self)
        refine ⟨by simpa using same, ?_⟩
        rintro rfl
        rw [fixed] at written
        rw [← (List.cons.inj written).2, List.nil_append]

theorem Inert.writtenAs {char : Char} (inert : Inert char) : WrittenAs normalizeChar char char := by
  refine ⟨inert.1, ?_⟩
  intro other member
  have same := inert.2 other char member
  simpa using same.symm

theorem isPrefixOf_normalize {head : Text} (inert : ∀ char ∈ head, Inert char) {text : Text}
    (visible : Visible text) :
    head.isPrefixOf (normalizeForSmsSegmentCount text) = head.isPrefixOf text ∧
      (head.isPrefixOf text = true →
        (normalizeForSmsSegmentCount text).drop head.length =
          normalizeForSmsSegmentCount (text.drop head.length)) := by
  have written : ∀ char ∈ head, WrittenAs normalizeChar char (id char) :=
    fun char member => (inert char member).writtenAs
  have found := isPrefixOf_flatMap written visible
  rwa [List.map_id] at found

/-! ### Placeholders -/

theorem inert_closing : Inert '\x7d' :=
  inert_of_not_substitute (by decide) (by decide)

theorem inert_equals : Inert '=' :=
  inert_of_not_substitute (by decide) (by decide)

theorem inert_trackUrlHead : ∀ char ∈ trackUrlHead, Inert char := by
  have plain : ∀ char ∈ trackUrlHead, normalizeChar char = [char] ∧ char ∉ substitutes :=
    forall_of_all (by decide)
  intro char member
  exact inert_of_not_substitute (plain char member).1 (plain char member).2

theorem closes_of_normalize {text rest : Text} (visible : Visible text)
    (closes : normalizeForSmsSegmentCount text = '\x7d' :: '\x7d' :: rest) :
    ∃ last, text = '\x7d' :: '\x7d' :: last ∧ rest = normalizeForSmsSegmentCount last := by
  cases text with
  | nil => cases closes
  | cons char text =>
      rcases normalize_cons_visible visible with ⟨first, tail, isCons, inertly⟩
      rw [isCons, List.cons.injEq] at closes
      have closing := (inertly _ inert_closing).1.mp closes.1
      have tails := (inertly _ inert_closing).2 closing
      rw [closes.2] at tails
      cases text with
      | nil => cases tails
      | cons next text =>
          rcases normalize_cons_visible visible.tail with ⟨second, last, isCons, inertly⟩
          rw [isCons, List.cons.injEq] at tails
          have closingToo := (inertly _ inert_closing).1.mp tails.1.symm
          exact ⟨text, by rw [closing, closingToo],
            tails.2.trans ((inertly _ inert_closing).2 closingToo)⟩

theorem equals_of_normalize {text rest : Text} (visible : Visible text)
    (equals : normalizeForSmsSegmentCount text = '=' :: rest) :
    ∃ last, text = '=' :: last ∧ rest = normalizeForSmsSegmentCount last := by
  cases text with
  | nil => cases equals
  | cons char text =>
      rcases normalize_cons_visible visible with ⟨first, tail, isCons, inertly⟩
      rw [isCons, List.cons.injEq] at equals
      have isEquals := (inertly _ inert_equals).1.mp equals.1
      exact ⟨text, by rw [isEquals], equals.2.symm.trans ((inertly _ inert_equals).2 isEquals)⟩

theorem respects_notClosing : Respects fun char => decide (char ≠ '\x7d') := by
  intro char written member
  have same := inert_closing.2 char written member
  simpa using same

def Piece.normalize : Piece → List Piece
  | .literal char => (normalizeChar char).map .literal
  | .placeholder inner => [.placeholder (inner.map normalizeForSmsSegmentCount)]

theorem closing_normalize (closing inner : Text) : Visible closing →
    (match normalizeForSmsSegmentCount closing with
      | '\x7d' :: '\x7d' :: last => some (some (normalizeForSmsSegmentCount inner), last)
      | _ => none) =
    (match closing with
      | '\x7d' :: '\x7d' :: last => some (some inner, last)
      | _ => none : Option (Option Text × Text)).map fun found =>
        (found.1.map normalizeForSmsSegmentCount, normalizeForSmsSegmentCount found.2) := by
  intro visible
  split
  · rename_i rest closes
    rcases closes_of_normalize visible closes with ⟨after, same, rfl⟩
    rw [same]
    rfl
  · rename_i noClosing
    split
    · rename_i rest
      exact absurd rfl (noClosing (normalizeForSmsSegmentCount rest))
    · rfl

theorem matchTrackUrl_normalize {text : Text} (visible : Visible text) :
    matchTrackUrl (normalizeForSmsSegmentCount text) =
      (matchTrackUrl text).map fun found =>
        (found.1.map normalizeForSmsSegmentCount, normalizeForSmsSegmentCount found.2) := by
  rcases isPrefixOf_normalize inert_trackUrlHead visible with ⟨head, drops⟩
  unfold matchTrackUrl
  rw [head]
  by_cases isHead : trackUrlHead.isPrefixOf text = true
  · rw [if_pos isHead, if_pos isHead, drops isHead]
    have inside : Visible (text.drop trackUrlHead.length) :=
      visible.of_subset (List.drop_subset _ _)
    revert inside
    generalize text.drop trackUrlHead.length = behind
    intro inside
    cases behind with
    | nil => rfl
    | cons char behind =>
        split
        · rename_i rest closes
          rcases closes_of_normalize inside closes with ⟨last, same, rfl⟩
          rw [same]
          rfl
        · rename_i rest equals
          rcases equals_of_normalize inside equals with ⟨last, same, rfl⟩
          rw [same] at inside ⊢
          rw [dropWhile_normalize respects_notClosing inside.tail,
            takeWhile_normalize respects_notClosing inside.tail]
          have open_ : Visible (last.dropWhile fun char => decide (char ≠ '\x7d')) :=
            inside.tail.of_subset (List.dropWhile_sublist _).subset
          exact closing_normalize _ _ open_
        · rename_i noClosing noEquals
          split
          · rename_i rest closes
            rw [closes] at noClosing
            exact absurd rfl (noClosing (normalizeForSmsSegmentCount rest))
          · rename_i rest equals
            rw [equals] at noEquals
            exact absurd rfl (noEquals (normalizeForSmsSegmentCount rest))
          · rfl
  · rw [if_neg isHead, if_neg isHead]
    rfl

/-! ### Pieces -/

theorem piecesFrom_drop (text : Text) (matched : ℕ) :
    piecesFrom text matched = pieces (text.drop matched) := by
  induction text generalizing matched with
  | nil => simp [piecesFrom, pieces]
  | cons char text ih =>
      cases matched with
      | zero => rfl
      | succ matched => rw [piecesFrom, ih, List.drop_succ_cons]

theorem rest_of_matchTrackUrl {text rest : Text} {inner : Option Text}
    (found : matchTrackUrl text = some (inner, rest)) :
    ∃ front, front ≠ [] ∧ text = front ++ rest ∧ inner.getD [] ⊆ front := by
  unfold matchTrackUrl at found
  split at found
  · rename_i isHead
    rcases List.isPrefixOf_iff_prefix.mp isHead with ⟨behind, rfl⟩
    rw [List.drop_left] at found
    split at found
    · rename_i last
      simp only [Option.some.injEq, Prod.mk.injEq] at found
      refine ⟨trackUrlHead ++ ['\x7d', '\x7d'], by simp, ?_, ?_⟩
      · rw [← found.2]
        simp
      · rw [← found.1]
        exact List.nil_subset _
    · rename_i embedded
      split at found
      · rename_i last closes
        simp only [Option.some.injEq, Prod.mk.injEq] at found
        refine ⟨trackUrlHead ++ '=' :: (embedded.takeWhile (fun char => decide (char ≠ '\x7d')) ++
          ['\x7d', '\x7d']), by simp, ?_, ?_⟩
        swap
        · rw [← found.1]
          intro char member
          rw [Option.getD_some] at member
          exact List.mem_append_right _ (List.mem_cons_of_mem _ (List.mem_append_left _ member))
        have whole : embedded = embedded.takeWhile (fun char => decide (char ≠ '\x7d')) ++
            '\x7d' :: '\x7d' :: last := by
          rw [← closes, List.takeWhile_append_dropWhile]
        rw [← found.2]
        conv_lhs => rw [whole]
        simp
      · cases found
    · cases found
  · cases found

theorem pieces_of_match {char : Char} {text rest : Text} {inner : Option Text}
    (found : matchTrackUrl (char :: text) = some (inner, rest)) :
    pieces (char :: text) = .placeholder inner :: pieces rest := by
  rcases rest_of_matchTrackUrl found with ⟨front, some_front, whole, -⟩
  cases front with
  | nil => exact absurd rfl some_front
  | cons first front =>
      rw [List.cons_append, List.cons.injEq] at whole
      rw [pieces, piecesFrom, found]
      simp only [piecesFrom_drop]
      rw [whole.2, List.length_append, Nat.add_sub_cancel, List.drop_left]

theorem pieces_of_no_match {char : Char} {text : Text} (found : matchTrackUrl (char :: text) = none) :
    pieces (char :: text) = .literal char :: pieces text := by
  rw [pieces, piecesFrom, found]
  rfl

theorem pieces_substitutes {written : Text} (all : ∀ char ∈ written, char ∈ substitutes)
    (text : Text) : pieces (written ++ text) = written.map .literal ++ pieces text := by
  induction written with
  | nil => rfl
  | cons char written ih =>
      have noBrace : ∀ char ∈ substitutes, char ≠ '\x7b' := forall_of_all (by decide)
      have differs := noBrace char (all char List.mem_cons_self)
      have noHead : trackUrlHead.isPrefixOf (char :: (written ++ text)) = false := by
        simp [trackUrlHead, List.isPrefixOf_cons_cons, Ne.symm differs]
      rw [List.cons_append, pieces_of_no_match (matchTrackUrl_of_not_head noHead),
        ih fun other member => all other (List.mem_cons_of_mem _ member)]
      rfl

theorem pieces_normalize {text : Text} (visible : Visible text) :
    pieces (normalizeForSmsSegmentCount text) = (pieces text).flatMap Piece.normalize := by
  generalize isLength : text.length = length
  induction length using Nat.strong_induction_on generalizing text with
  | h length ih =>
      cases text with
      | nil => rfl
      | cons char text =>
          have matched := matchTrackUrl_normalize visible
          cases found : matchTrackUrl (char :: text) with
          | some parts =>
              rcases parts with ⟨inner, rest⟩
              rw [found] at matched
              rcases rest_of_matchTrackUrl found with ⟨front, some_front, whole, -⟩
              have shorter : rest.length < length := by
                have positive := List.length_pos_iff.mpr some_front
                have lengths := congrArg List.length whole
                rw [List.length_append] at lengths
                omega
              have inside : Visible rest := by
                refine visible.of_subset ?_
                rw [whole]
                exact List.subset_append_right front rest
              rcases normalize_cons_visible visible with ⟨first, tail, isCons, -⟩
              rw [isCons] at matched ⊢
              rw [pieces_of_match matched, pieces_of_match found, ih _ shorter inside rfl]
              rfl
          | none =>
              rw [found] at matched
              have rest := ih text.length (by rw [← isLength, List.length_cons]; omega)
                visible.tail rfl
              rw [pieces_of_no_match found, List.flatMap_cons, ← rest]
              rcases normalizeChar_spec char with itself | nothing | ⟨written, listed, count, same⟩
              · rw [normalize_cons, itself, List.singleton_append] at matched ⊢
                rw [pieces_of_no_match matched, Piece.normalize, itself]
                rfl
              · exact absurd nothing (visible char List.mem_cons_self)
              · rw [normalize_cons, same, Piece.normalize, same]
                refine pieces_substitutes ?_ _
                intro other member
                rw [List.eq_of_mem_replicate member]
                exact listed

theorem visible_inner {text inner : Text} (visible : Visible text)
    (member : .placeholder (some inner) ∈ pieces text) : Visible inner := by
  generalize isLength : text.length = length
  induction length using Nat.strong_induction_on generalizing text with
  | h length ih =>
      cases text with
      | nil => cases member
      | cons char text =>
          cases found : matchTrackUrl (char :: text) with
          | some parts =>
              rcases parts with ⟨first, rest⟩
              rcases rest_of_matchTrackUrl found with ⟨front, some_front, whole, inside⟩
              rw [pieces_of_match found] at member
              rcases List.mem_cons.mp member with same | later
              · rw [Piece.placeholder.injEq] at same
                rw [← same, Option.getD_some] at inside
                refine visible.of_subset fun other inInner => ?_
                rw [whole]
                exact List.mem_append_left rest (inside inInner)
              · have shorter : rest.length < length := by
                  have positive := List.length_pos_iff.mpr some_front
                  have lengths := congrArg List.length whole
                  rw [List.length_append] at lengths
                  omega
                refine ih _ shorter (visible.of_subset ?_) later rfl
                rw [whole]
                exact List.subset_append_right front rest
          | none =>
              rw [pieces_of_no_match found] at member
              rcases List.mem_cons.mp member with same | later
              · cases same
              · exact ih text.length (by rw [← isLength, List.length_cons]; omega) visible.tail
                  later rfl

/-! ### Sizes -/

theorem dropWhile_reverse_normalize {test : Char → Bool} (respects : Respects test) {text : Text}
    (visible : Visible text) :
    ((normalizeForSmsSegmentCount text).reverse.dropWhile test).reverse =
      normalizeForSmsSegmentCount (text.reverse.dropWhile test).reverse :=
  (agrees_normalize respects visible).dropWhile_reverse_flatMap

theorem isEmpty_normalize {text : Text} (visible : Visible text) :
    (normalizeForSmsSegmentCount text).isEmpty = text.isEmpty := by
  cases text with
  | nil => rfl
  | cons char text =>
      rcases normalize_cons_visible visible with ⟨first, rest, same, -⟩
      rw [same]
      rfl

variable {unicode : Unicode}

theorem strip_normalize (spaces : Respects unicode.isSpace) {text : Text} (visible : Visible text) :
    strip unicode (normalizeForSmsSegmentCount text) =
      normalizeForSmsSegmentCount (strip unicode text) := by
  have inside : Visible (text.dropWhile unicode.isSpace) :=
    visible.of_subset (List.dropWhile_sublist _).subset
  rw [strip, dropWhile_normalize spaces visible, dropWhile_reverse_normalize spaces inside, strip]

theorem rstripSlash_normalize {text : Text} (visible : Visible text) :
    rstripSlash (normalizeForSmsSegmentCount text) =
      normalizeForSmsSegmentCount (rstripSlash text) := by
  have slash : Inert '/' := inert_of_not_substitute (by decide) (by decide)
  exact dropWhile_reverse_normalize slash.2 visible

theorem behindBar_normalize {text : Text} (visible : Visible text) :
    behindBar (normalizeForSmsSegmentCount text) =
      (behindBar text).map normalizeForSmsSegmentCount := by
  have bar : Inert '|' := inert_of_not_substitute (by decide) (by decide)
  have notBar : Respects fun char => decide (char ≠ '|') := by
    intro char written member
    have same := bar.2 char written member
    simpa using same
  unfold behindBar
  rw [dropWhile_normalize notBar visible]
  have inside : Visible (text.dropWhile fun char => decide (char ≠ '|')) :=
    visible.of_subset (List.dropWhile_sublist _).subset
  cases rest : text.dropWhile fun char => decide (char ≠ '|') with
  | nil => rfl
  | cons char behind =>
      rw [rest] at inside
      have isBar : char = '|' := by
        have first := List.head?_dropWhile_not (fun char => decide (char ≠ '|')) text
        rw [rest] at first
        simpa using first
      rw [isBar]
      rfl

theorem behindBar_subset {text part : Text} (bar : behindBar text = some part) : part ⊆ text := by
  unfold behindBar at bar
  split at bar
  · rename_i first rest behind
    rw [Option.some.injEq] at bar
    rw [← bar]
    have inside : first :: rest ⊆ text := by
      rw [← behind]
      exact (List.dropWhile_sublist _).subset
    exact fun char member => inside (List.mem_cons_of_mem _ member)
  · cases bar

theorem strip_subset (text : Text) : strip unicode text ⊆ text := by
  intro char member
  rw [strip, List.mem_reverse] at member
  have inside := (List.dropWhile_sublist _).subset member
  rw [List.mem_reverse] at inside
  exact (List.dropWhile_sublist _).subset inside

theorem countedBase_normalize (spaces : Respects unicode.isSpace) {inner : Option Text}
    (visible : ∀ text, inner = some text → Visible text) :
    countedBase unicode (inner.map normalizeForSmsSegmentCount) =
      normalizeForSmsSegmentCount (countedBase unicode inner) := by
  have fallback : fallbackBase = normalizeForSmsSegmentCount fallbackBase := by decide
  cases inner with
  | none => exact fallback
  | some text =>
      have seen := visible text rfl
      simp only [countedBase, Option.map_some, Option.getD_some]
      rw [behindBar_normalize seen]
      cases bar : behindBar text with
      | none => exact fallback
      | some part =>
          have inside : Visible part := seen.of_subset (behindBar_subset bar)
          simp only [Option.map_some]
          rw [strip_normalize spaces inside,
            isEmpty_normalize (inside.of_subset (strip_subset part))]
          split
          · exact fallback
          · rfl

theorem visible_countedBase {inner : Option Text}
    (visible : ∀ text, inner = some text → Visible text) : Visible (countedBase unicode inner) := by
  have fallback : Visible fallbackBase := forall_of_all (by decide)
  unfold countedBase
  split
  · rename_i part bar
    split
    · exact fallback
    · cases inner with
      | none => cases bar
      | some text =>
          exact (visible text rfl).of_subset
            (List.Subset.trans (strip_subset part) (behindBar_subset bar))
  · exact fallback

theorem size_normalize (text : Text) : size (normalizeForSmsSegmentCount text) = size text := by
  rw [size, normalize_idempotent, size]

theorem countedSize_normalize (spaces : Respects unicode.isSpace) {inner : Option Text}
    (visible : ∀ text, inner = some text → Visible text) :
    countedSize unicode (inner.map normalizeForSmsSegmentCount) = countedSize unicode inner := by
  rw [countedSize, countedBase_normalize spaces visible,
    rstripSlash_normalize (visible_countedBase visible), size_normalize, countedSize]

theorem piecesSize_normalize_piece (spaces : Respects unicode.isSpace) {piece : Piece}
    (visible : ∀ text, piece = .placeholder (some text) → Visible text) :
    piecesSize (countedSize unicode) piece.normalize =
      piecesSize (countedSize unicode) [piece] := by
  cases piece with
  | placeholder inner =>
      have inside : ∀ text, inner = some text → Visible text := by
        rintro text rfl
        exact visible text rfl
      simp only [piecesSize, Piece.normalize, List.map_cons, List.map_nil, List.sum_cons,
        List.sum_nil, countedSize_normalize spaces inside]
  | literal char =>
      have each : ∀ written ∈ normalizeChar char, size [written] = charSize written := by
        intro written member
        simp [size, normalizeForSmsSegmentCount, normalizeChar_of_mem member]
      have whole : size [char] = ((normalizeChar char).map charSize).sum := by
        simp [size, normalizeForSmsSegmentCount]
      simp only [piecesSize, Piece.normalize, List.map_map, List.map_cons, List.map_nil,
        List.sum_cons, List.sum_nil, add_zero, whole]
      exact congrArg List.sum (List.map_congr_left each)

theorem piecesSize_normalize (spaces : Respects unicode.isSpace) {text : Text}
    (visible : Visible text) :
    piecesSize (countedSize unicode) (pieces (normalizeForSmsSegmentCount text)) =
      piecesSize (countedSize unicode) (pieces text) := by
  rw [pieces_normalize visible]
  have inside : ∀ piece ∈ pieces text, ∀ inner, piece = .placeholder (some inner) →
      Visible inner := by
    rintro piece member inner rfl
    exact visible_inner visible member
  generalize pieces text = list at inside
  induction list with
  | nil => rfl
  | cons piece list ih =>
      have first := piecesSize_normalize_piece spaces (inside piece List.mem_cons_self)
      have rest := ih fun other member => inside other (List.mem_cons_of_mem _ member)
      simp only [piecesSize, List.flatMap_cons, List.map_append, List.sum_append, List.map_cons,
        List.map_nil, List.sum_cons, List.sum_nil, add_zero] at first rest ⊢
      rw [first, rest]

/-! ### The count -/

theorem countSmsParts_sanitize_of_visible (spaces : Respects unicode.isSpace) {message : Text}
    (visible : Visible message) :
    countSmsParts unicode (sanitizeSmsTextForWire message) = countSmsParts unicode message := by
  rw [countSmsParts_eq_partsOfSize, countSmsParts_eq_partsOfSize, sanitize_eq,
    piecesSize_normalize spaces visible]

def noBreakSpace : Unicode where
  isSpace char := char.isWhitespace || char.toNat = 0xA0
  isDigit := Unicode.ascii.isDigit
  decimal := Unicode.ascii.decimal
  upper := Unicode.ascii.upper
  lower := Unicode.ascii.lower

theorem respects_noBreakSpace : Respects noBreakSpace.isSpace := by
  intro char written member
  have known : ∀ number, char.toNat = number → char = Char.ofNat number := by
    rintro number rfl
    exact (Char.ofNat_toNat char).symm
  unfold normalizeChar at member
  split at member
  · rename_i isSpace
    rw [List.mem_singleton.mp member, known _ isSpace]
    decide
  · split at member
    · cases member
    · split at member
      · rename_i quote
        rw [List.mem_singleton.mp member]
        rcases quote with left | right
        · rw [known _ left]
          decide
        · rw [known _ right]
          decide
      · split at member
        · rename_i quote
          rw [List.mem_singleton.mp member]
          rcases quote with left | right
          · rw [known _ left]
            decide
          · rw [known _ right]
            decide
        · split at member
          · rename_i dash
            rw [List.mem_singleton.mp member, known _ dash]
            decide
          · split at member
            · rename_i dash
              rw [List.mem_singleton.mp member, known _ dash]
              decide
            · split at member
              · rename_i dots
                simp only [List.mem_cons, List.not_mem_nil, or_false, or_self] at member
                rw [member, known _ dots]
                decide
              · rw [List.mem_singleton.mp member]

def hiddenMessage : Text :=
  List.replicate 140 'a' ++
    "\x7b\x7bTRACK\u200b_URL=xxxxxxxxxxxxxxxxxxxx\x7d\x7d".toList

end Klsmsc.Sms
