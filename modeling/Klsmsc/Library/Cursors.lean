import Mathlib.Data.List.Basic

/-!
# Reading a buffer by offsets

A parser walks through a buffer by an offset of its own. It returns a value, or it fails with an
error, or it reads outside the buffer, which ends the program. A triple says that a parser stays
inside the buffer and what it returns; a position says what is left of the buffer at an offset,
so that reading what was written there is a matter of rewriting.
-/

namespace Klsmsc.Library

universe u

/-- How a parser ends. -/
inductive Parse (Error : Type) (α : Type u) where
  | returns (value : α)
  | fails (error : Error)
  | panics
  deriving DecidableEq, Repr

namespace Parse

variable {Error : Type} {α β : Type u}

/-- The second parser goes on with what the first one returns. -/
def andThen : Parse Error α → (α → Parse Error β) → Parse Error β
  | returns value, next => next value
  | fails error, _ => fails error
  | panics, _ => panics

instance : Monad (Parse Error) where
  pure := returns
  bind := andThen

@[simp]
theorem pure_eq (value : α) : (pure value : Parse Error α) = returns value := rfl

@[simp]
theorem returns_bind (value : α) (next : α → Parse Error β) :
    (returns value >>= next) = next value := rfl

@[simp]
theorem fails_bind (error : Error) (next : α → Parse Error β) :
    (fails error >>= next) = fails error := rfl

/-- The error when the condition holds. -/
def failIf (condition : Prop) [Decidable condition] (error : Error) : Parse Error PUnit :=
  if condition then fails error else returns ⟨⟩

theorem failIf_neg {condition : Prop} [Decidable condition] (error : Error)
    (not : ¬condition) : failIf condition error = returns PUnit.unit.{u + 1} :=
  if_neg not

/-- A parser whose error is ignored. -/
def orDefault (default : α) : Parse Error α → Parse Error α
  | fails _ => returns default
  | parsed => parsed

/-- The parser stays inside the buffer, and what it returns has the property. -/
def Ends (property : α → Prop) : Parse Error α → Prop
  | returns value => property value
  | fails _ => True
  | panics => False

theorem Ends.bind {property : α → Prop} {property' : β → Prop} {parsed : Parse Error α}
    {next : α → Parse Error β} (first : parsed.Ends property)
    (second : ∀ value, property value → (next value).Ends property') :
    (parsed >>= next).Ends property' := by
  cases parsed with
  | returns value => exact second value first
  | fails error => trivial
  | panics => exact first.elim

theorem Ends.mono {property property' : α → Prop} {parsed : Parse Error α}
    (ends : parsed.Ends property) (weaker : ∀ value, property value → property' value) :
    parsed.Ends property' := by
  cases parsed with
  | returns value => exact weaker value ends
  | fails error => trivial
  | panics => exact ends

theorem Ends.orDefault {property : α → Prop} {parsed : Parse Error α} {default : α}
    (ends : parsed.Ends property) (fallback : property default) :
    (parsed.orDefault default).Ends property := by
  cases parsed with
  | returns value => exact ends
  | fails error => exact fallback
  | panics => exact ends

theorem failIf_ends {condition : Prop} [Decidable condition] {error : Error} :
    (failIf condition error : Parse Error PUnit.{u + 1}).Ends fun _ => ¬condition := by
  rw [failIf]
  split
  · trivial
  · assumption

/-- A parser that stays inside the buffer returns or fails. -/
theorem Ends.returns_or_fails {property : α → Prop} {parsed : Parse Error α}
    (ends : parsed.Ends property) :
    (∃ value, parsed = returns value ∧ property value) ∨ ∃ error, parsed = fails error := by
  cases parsed with
  | returns value => exact Or.inl ⟨value, rfl, ends⟩
  | fails error => exact Or.inr ⟨error, rfl⟩
  | panics => exact ends.elim

end Parse

open Parse

variable {Error : Type} {α : Type u} {buffer rest taken : List α} {offset : ℕ} {entry : α}

/-- `buffer[offset]`. -/
def entryAt (buffer : List α) (offset : ℕ) : Parse Error α :=
  match buffer[offset]? with
  | some entry => returns entry
  | none => panics

/-- `buffer[first:stop]`. -/
def sliceOf (buffer : List α) (first stop : ℕ) : Parse Error (List α) :=
  if first ≤ stop ∧ stop ≤ buffer.length then returns ((buffer.take stop).drop first) else panics

theorem entryAt_ends (within : offset < buffer.length) :
    (entryAt buffer offset : Parse Error α).Ends fun _ => True := by
  simp [entryAt, List.getElem?_eq_getElem within, Ends]

theorem sliceOf_ends {first stop : ℕ} (ordered : first ≤ stop) (within : stop ≤ buffer.length) :
    (sliceOf buffer first stop : Parse Error (List α)).Ends
      fun slice => slice.length = stop - first := by
  simp [sliceOf, ordered, within, Ends]

/-- The rest is left of the buffer at the offset. -/
structure Remains (buffer : List α) (offset : ℕ) (rest : List α) : Prop where
  within : offset ≤ buffer.length
  drop : buffer.drop offset = rest

namespace Remains

theorem start (buffer : List α) : Remains buffer 0 buffer :=
  ⟨Nat.zero_le _, List.drop_zero⟩

theorem length (remains : Remains buffer offset rest) :
    offset + rest.length = buffer.length := by
  have within := remains.within
  rw [← remains.drop, List.length_drop]
  omega

theorem advance (remains : Remains buffer offset (taken ++ rest)) :
    Remains buffer (offset + taken.length) rest where
  within := by
    have length := remains.length
    rw [List.length_append] at length
    omega
  drop := by rw [← List.drop_drop, remains.drop, List.drop_left]

theorem next (remains : Remains buffer offset (entry :: rest)) :
    Remains buffer (offset + 1) rest := by
  have split : Remains buffer offset ([entry] ++ rest) := remains
  exact split.advance

theorem entryAt (remains : Remains buffer offset (entry :: rest)) :
    entryAt buffer offset = (returns entry : Parse Error α) := by
  have found : buffer[offset]? = some entry := by
    rw [← List.head?_drop, remains.drop, List.head?_cons]
  rw [Library.entryAt, found]

theorem sliceOf (remains : Remains buffer offset (taken ++ rest)) :
    sliceOf buffer offset (offset + taken.length) = (returns taken : Parse Error (List α)) := by
  have within := remains.advance.within
  rw [Library.sliceOf, if_pos ⟨Nat.le_add_right _ _, within⟩, List.drop_take, remains.drop,
    Nat.add_sub_cancel_left, List.take_left]

end Remains

end Klsmsc.Library
