import Mathlib.Data.List.Basic

/-!
# Streams that arrive in pieces

A connection delivers its elements in pieces, which end wherever the network has cut them. A reader
asks for a number of elements and takes the pieces that it needs for them. What it reads and what it
leaves depend on the elements alone.
-/

namespace Klsmsc.Library

universe u

variable {α : Type u}

/-- Read a number of elements, or all that there are. -/
def readUpTo : ℕ → List (List α) → List α × List (List α)
  | _, [] => ([], [])
  | count, piece :: pieces =>
      if count ≤ piece.length then (piece.take count, piece.drop count :: pieces)
      else
        let (read, rest) := readUpTo (count - piece.length) pieces
        (piece ++ read, rest)

/-- Why a reader did not get the elements that it asked for. -/
inductive ReadError
  | eof
  | unexpectedEOF
  deriving DecidableEq, Repr

/-- Read a number of elements, and fail when there are fewer. -/
def readFull (count : ℕ) (pieces : List (List α)) :
    Except ReadError (List α) × List (List α) :=
  let (read, rest) := readUpTo count pieces
  if count ≤ read.length then (.ok read, rest)
  else if read.isEmpty then (.error .eof, rest)
  else (.error .unexpectedEOF, rest)

@[simp]
theorem readUpTo_fst (count : ℕ) (pieces : List (List α)) :
    (readUpTo count pieces).1 = pieces.flatten.take count := by
  induction pieces generalizing count with
  | nil => simp [readUpTo]
  | cons piece pieces ih =>
      simp only [readUpTo, List.flatten_cons]
      split
      · rename_i enough
        simp [List.take_append_of_le_length enough]
      · rename_i short
        simp only [ih, List.take_append]
        rw [List.take_of_length_le (by omega : piece.length ≤ count)]

@[simp]
theorem flatten_readUpTo_snd (count : ℕ) (pieces : List (List α)) :
    (readUpTo count pieces).2.flatten = pieces.flatten.drop count := by
  induction pieces generalizing count with
  | nil => simp [readUpTo]
  | cons piece pieces ih =>
      simp only [readUpTo, List.flatten_cons]
      split
      · rename_i enough
        simp [List.drop_append_of_le_length enough]
      · rename_i short
        simp only [ih, List.drop_append]
        rw [List.drop_of_length_le (by omega : piece.length ≤ count), List.nil_append]

/-- A reader that is given enough gets what it asks for. -/
theorem readFull_of_le {count : ℕ} {pieces : List (List α)}
    (enough : count ≤ pieces.flatten.length) :
    ∃ rest, readFull count pieces = (.ok (pieces.flatten.take count), rest) ∧
      rest.flatten = pieces.flatten.drop count := by
  have all : count ≤ (pieces.flatten.take count).length := by
    simp only [List.length_take]
    omega
  refine ⟨(readUpTo count pieces).2, ?_, flatten_readUpTo_snd count pieces⟩
  simp only [readFull, readUpTo_fst]
  rw [if_pos all]

/-- A reader whose stream ends before that fails. -/
theorem readFull_of_lt {count : ℕ} {pieces : List (List α)}
    (short : pieces.flatten.length < count) :
    (readFull count pieces).1 =
      .error (if pieces.flatten = [] then .eof else .unexpectedEOF) := by
  have all : pieces.flatten.take count = pieces.flatten := List.take_of_length_le (by omega)
  simp only [readFull, readUpTo_fst, all]
  rw [if_neg (by omega)]
  cases empty : pieces.flatten <;> simp

/-- What a reader has got, and what it has left. -/
theorem readFull_ok {count : ℕ} {pieces rest : List (List α)} {read : List α}
    (ok : readFull count pieces = (.ok read, rest)) :
    read.length = count ∧ pieces.flatten = read ++ rest.flatten := by
  rcases Nat.lt_or_ge pieces.flatten.length count with short | enough
  · have failed := readFull_of_lt short
    rw [ok] at failed
    cases failed
  · rcases readFull_of_le enough with ⟨rest', taken, left⟩
    rw [ok] at taken
    rcases Prod.mk.inj taken with ⟨same, rfl⟩
    rcases Except.ok.inj same with rfl
    constructor
    · rw [List.length_take]
      omega
    · rw [left, List.take_append_drop]

end Klsmsc.Library
