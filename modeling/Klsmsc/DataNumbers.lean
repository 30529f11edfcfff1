import Klsmsc.Tables

/-!
# The pool of numbers

The rows of `data_numbers`. A row without an account is for sale, a row with one belongs to its
private library. Times are seconds, dates are days. What the statements of the purchases and of the
private library write to a row is kept here; which rows they choose is up to their conditions.
-/

namespace Klsmsc

/-- The column `data_numbers.status`. -/
inductive NumberStatus where
  | active
  | inactive
  | unknown
  | blacklisted
  deriving DecidableEq, Repr

/-- A row of `data_numbers`. -/
structure DataNumber where
  id : ℕ
  phoneNumber : String
  countryCode : String
  status : NumberStatus
  carrier : Option String
  source : Option String
  purpose : Option String
  dataDate : Option ℤ
  batchId : Option String
  lastUsedAt : Option ℤ
  useCount : ℕ
  accountId : Option ℕ
  deriving DecidableEq, Repr

namespace DataNumber

/-- The UPDATE of `buy_to_stock` and `buy_combo`. -/
def bind (number : DataNumber) (accountId : ℕ) : DataNumber :=
  { number with accountId := some accountId }

/-- The UPDATE of `buy_and_send`. -/
def bindAndStamp (number : DataNumber) (accountId : ℕ) (now : ℤ) : DataNumber :=
  { number with accountId := some accountId, lastUsedAt := some now }

/-- The UPDATE of `_mark_private_library_used`. -/
def markUsed (number : DataNumber) (now : ℤ) : DataNumber :=
  { number with useCount := number.useCount + 1, lastUsedAt := some now }

/-- The UPDATE of the task that sends what `buy_and_send` has bought. -/
def countUse (number : DataNumber) : DataNumber :=
  { number with useCount := number.useCount + 1 }

/-- The UPDATE of `_execute_my_numbers_reset_used`. -/
def resetUsed (number : DataNumber) : DataNumber :=
  { number with useCount := 0, lastUsedAt := none }

/-- What `_recycle_expired` does to a row that it has chosen. -/
def release (number : DataNumber) : DataNumber :=
  { number with accountId := none }

/-- The UPDATE of `_execute_my_numbers_batch_delete`. -/
def unbind (number : DataNumber) : DataNumber :=
  { number with accountId := none, status := .inactive }

/-- The condition of `_recycle_expired`. -/
def Expired (number : DataNumber) (cutoff : ℤ) : Prop :=
  number.accountId.isSome ∧
    (number.lastUsedAt = none ∨ ∃ time, number.lastUsedAt = some time ∧ time < cutoff)

instance (number : DataNumber) (cutoff : ℤ) : Decidable (number.Expired cutoff) :=
  match used : number.lastUsedAt with
  | none => decidable_of_iff (number.accountId.isSome = true) (by simp [Expired, used])
  | some time =>
      decidable_of_iff (number.accountId.isSome = true ∧ time < cutoff) (by simp [Expired, used])

end DataNumber

end Klsmsc
