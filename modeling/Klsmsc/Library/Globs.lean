import Mathlib.Data.List.Basic

/-!
# Patterns with stars

A pattern is a list of symbols, one of which stands for any symbols that may be skipped. What
follows the end of the pattern is left to a predicate, so that the whole text or only its beginning
can be asked to match.
-/

namespace Klsmsc.Library

universe u

variable {α : Type u}

/-- Some tail of the text is accepted, and all that comes before it can be skipped. -/
def skipTo (skips : α → Bool) (accepts : List α → Bool) : List α → Bool
  | [] => accepts []
  | symbol :: rest =>
      accepts (symbol :: rest) || (skips symbol && skipTo skips accepts rest)

theorem skipTo_append {skips : α → Bool} {accepts : List α → Bool} {front rest : List α}
    (skipped : ∀ symbol ∈ front, skips symbol = true) (accepted : accepts rest = true) :
    skipTo skips accepts (front ++ rest) = true := by
  induction front with
  | nil =>
      cases rest with
      | nil => exact accepted
      | cons symbol rest => simp [skipTo, accepted]
  | cons symbol front ih =>
      have inFront : ∀ symbol ∈ front, skips symbol = true := by
        intro other member
        exact skipped other (List.mem_cons_of_mem _ member)
      simp [skipTo, skipped symbol List.mem_cons_self, ih inFront]

theorem skipTo_mono {narrow wide : α → Bool} {left right : List α → Bool} {text : List α}
    (skips : ∀ symbol ∈ text, narrow symbol = true → wide symbol = true)
    (accepts : ∀ tail, (∀ symbol ∈ tail, symbol ∈ text) → left tail = true → right tail = true)
    (accepted : skipTo narrow left text = true) : skipTo wide right text = true := by
  induction text with
  | nil => exact accepts [] (by simp) accepted
  | cons symbol rest ih =>
      simp only [skipTo, Bool.or_eq_true, Bool.and_eq_true] at accepted ⊢
      rcases accepted with here | ⟨skipped, later⟩
      · exact .inl (accepts _ (fun _ member => member) here)
      · refine .inr ⟨skips symbol List.mem_cons_self skipped, ih ?_ ?_ later⟩
        · intro other member
          exact skips other (List.mem_cons_of_mem _ member)
        · intro tail inside
          exact accepts tail fun other member => List.mem_cons_of_mem _ (inside other member)

/-- How a matcher reads a pattern: the symbol for any text, the symbols that it skips, and what
may follow the end of the pattern. -/
structure Glob (α : Type u) where
  star : α
  skips : α → Bool
  ends : List α → Bool

namespace Glob

variable [DecidableEq α]

/-- The text matches the pattern. -/
def accepts (glob : Glob α) : (pattern text : List α) → Bool
  | [] => glob.ends
  | symbol :: pattern =>
      if symbol = glob.star then skipTo glob.skips (glob.accepts pattern)
      else fun
        | [] => false
        | first :: rest => decide (first = symbol) && glob.accepts pattern rest

variable {glob : Glob α} {pattern text : List α}

/-- A text goes on after the symbols that stand for themselves. -/
theorem accepts_literal {front : List α} (literal : glob.star ∉ front) :
    glob.accepts (front ++ pattern) (front ++ text) = glob.accepts pattern text := by
  induction front with
  | nil => rfl
  | cons symbol front ih =>
      rw [List.mem_cons, not_or] at literal
      simp [accepts, Ne.symm literal.1, ih literal.2]

/-- A star takes what can be skipped. -/
theorem accepts_star {front : List α} (skipped : ∀ symbol ∈ front, glob.skips symbol = true)
    (accepted : glob.accepts pattern text = true) :
    glob.accepts (glob.star :: pattern) (front ++ text) = true := by
  rw [accepts, if_pos rfl]
  exact skipTo_append skipped accepted

/-- A matcher that skips more and ends in more ways accepts what the other does. -/
theorem accepts_mono {narrow wide : Glob α} (star : wide.star = narrow.star)
    (skips : ∀ symbol ∈ text, narrow.skips symbol = true → wide.skips symbol = true)
    (ends : ∀ text, narrow.ends text = true → wide.ends text = true)
    (accepted : narrow.accepts pattern text = true) : wide.accepts pattern text = true := by
  induction pattern generalizing text with
  | nil => exact ends text accepted
  | cons symbol pattern ih =>
      unfold accepts at accepted ⊢
      rw [star]
      split at accepted
      · rename_i isStar
        rw [if_pos isStar]
        refine skipTo_mono skips ?_ accepted
        intro tail inside accepted
        exact ih (fun symbol member => skips symbol (inside symbol member)) accepted
      · rename_i literal
        rw [if_neg literal]
        cases text with
        | nil => cases accepted
        | cons first rest =>
            simp only [Bool.and_eq_true] at accepted ⊢
            refine ⟨accepted.1, ih ?_ accepted.2⟩
            intro symbol member
            exact skips symbol (List.mem_cons_of_mem _ member)

end Glob

end Klsmsc.Library
