import Klsmsc.CountryCode
import Klsmsc.Library.Runs
import Klsmsc.PrivateLibrary

/-!
# Sends from the private library

`send_batch_sms` takes the numbers of a send from the two tables of the account by a plain read,
with the filters of the request. What it has taken is marked only when the batch has been created
and its chunks have been handed over: in the transaction whose commit lets the request succeed. A
request that fails on the way is rolled back and marks nothing.

A read sees the tables as they are or as they were when the request began, depending on the
isolation of the database. What another request has not committed is never seen. The checks of the
balance, the batch and the chunks decide only whether a request fails; they are left out.
-/

namespace Klsmsc

open Library

/-- A row of `private_library_numbers` or `data_numbers`. The count of an old row may be missing. -/
structure DetailRow where
  id : ℕ
  origin : LibraryOrigin
  accountId : ℕ
  phoneNumber : String
  countryCode : String
  source : Option String
  purpose : Option String
  batchId : Option String
  carrier : Option String
  remarks : Option String
  useCount : Option ℕ
  isDeleted : Bool
  deriving DecidableEq, Repr

namespace DetailRow

def key (row : DetailRow) : LibraryOrigin × ℕ :=
  (row.origin, row.id)

def number (row : DetailRow) : PrivateNumber where
  origin := row.origin
  accountId := row.accountId
  phoneNumber := row.phoneNumber
  countryCode := row.countryCode
  source := row.source
  purpose := row.purpose
  batchId := row.batchId
  carrier := row.carrier
  remarks := row.remarks
  useCount := row.useCount.getD 0
  isDeleted := row.isDeleted

def Unused (row : DetailRow) : Prop :=
  row.useCount = some 0 ∨ row.useCount = none

instance (row : DetailRow) : Decidable row.Unused :=
  inferInstanceAs (Decidable (_ ∨ _))

/-- The row behind `_mark_private_library_used`. A count that is missing stays so. -/
def marked (unicode : Unicode) (task : SyncTask) (row : DetailRow) : DetailRow :=
  { row with useCount := row.useCount.map (· + task.marks unicode row.number) }

end DetailRow

/-- The entries of `private_library_filters`. The limit is what `int` makes of its entry. -/
structure LibraryFilters where
  countryCode : Option String
  batchId : Option String
  source : Option String
  purpose : Option String
  carrier : Option String
  unusedOnly : Bool
  limit : Option ℤ
  deriving DecidableEq, Repr

namespace LibraryFilters

variable (filters : LibraryFilters)

/-- `_lim`. -/
def lim : ℤ :=
  filters.limit.getD 50000

def batch (unicode : Unicode) : Option String :=
  asked (filters.batchId.map (strip unicode))

/-- `select(u.c.phone_number).distinct().limit(limit)` may have this result. -/
def MayTake (found : List DetailRow) (phones : List String) : Prop :=
  phones.Nodup ∧ (∀ phone ∈ phones, phone ∈ found.map DetailRow.phoneNumber) ∧
    phones.length = min filters.lim.toNat (found.map DetailRow.phoneNumber).dedup.length

instance (found : List DetailRow) (phones : List String) :
    Decidable (filters.MayTake found phones) :=
  inferInstanceAs (Decidable (_ ∧ _ ∧ _))

end LibraryFilters

/-- The account of the requests, and what `LIKE` finds. -/
structure LibraryAccount where
  unicode : Unicode
  like : (pattern text : String) → Bool
  id : ℕ
  countryCode : Option String

namespace LibraryAccount

variable (account : LibraryAccount)

/-- `account_country_iso`. -/
def iso : Option String :=
  match account.countryCode with
  | none => none
  | some raw =>
      if strip account.unicode raw = "" then none
      else normalizeCountryCode account.unicode (some (strip account.unicode raw))

def countryFor (filters : LibraryFilters) : Option (Option String) :=
  match asked account.iso with
  | none => some (asked filters.countryCode)
  | some iso =>
      match asked filters.countryCode with
      | none => some (some iso)
      | some country =>
          if normalizeCountryCode account.unicode (some country) = some iso then
            some (some country)
          else none

/-- `_carrier_clause`. -/
def carrierClause (column : Option String) (raw : String) : Bool :=
  let car := strip account.unicode raw
  let lowered := account.unicode.lower car
  let trimmed := sqlLowerTrim account.unicode column
  if car = "" then true
  else if lowered ∉ ["unknown", "未知"] then
    account.like (lowered ++ "%") trimmed || account.like ("%" ++ lowered ++ "%") trimmed
  else
    strip { account.unicode with isSpace := fun char => char = ' ' } (column.getD "") = "" ||
      trimmed ∈ ["unknown", "未知"]

/-- `_apply_dims`, on the rows of the account. -/
def Finds (filters : LibraryFilters) (country : Option String) (includeBatch : Bool)
    (row : DetailRow) : Prop :=
  row.accountId = account.id ∧ row.isDeleted = false ∧
    (∀ code ∈ country, sqlDimCiTrimEq account.unicode (some row.countryCode) code = true) ∧
    (includeBatch = true → ∀ bid ∈ filters.batch account.unicode,
      sqlDimCiTrimEq account.unicode row.batchId bid = true) ∧
    (∀ source ∈ asked filters.source,
      sqlDimSourceMatch account.unicode row.source source = true) ∧
    (∀ purpose ∈ asked filters.purpose,
      sqlDimPurposeMatch account.unicode row.purpose purpose = true) ∧
    (∀ carrier ∈ asked filters.carrier, account.carrierClause row.carrier carrier = true) ∧
    (filters.unusedOnly = true → row.Unused)

instance (filters : LibraryFilters) (country : Option String) (includeBatch : Bool)
    (row : DetailRow) : Decidable (account.Finds filters country includeBatch row) :=
  inferInstanceAs (Decidable (_ ∧ _))

/-- `_build_union`, with the whole rows. -/
def union (filters : LibraryFilters) (country : Option String) (includeBatch : Bool)
    (rows : List DetailRow) : List DetailRow :=
  rows.filter fun row => account.Finds filters country includeBatch row

end LibraryAccount

/-- Where a request stands: with the tables as they were when it began, the filters whose batch has
given nothing, or the marks that it will make and the rows whose numbers it has taken. -/
inductive LibraryStage where
  | idle
  | begun (snapshot : List DetailRow)
  | unfound (snapshot : List DetailRow) (filters : LibraryFilters) (country : Option String)
  | selected (task : SyncTask) (taken : List DetailRow)
  | ended
  deriving DecidableEq, Repr

/-- The steps of a request. A read sees the latest tables or the snapshot, and the database chooses
the numbers when there are more than the limit. -/
inductive LibraryLabel where
  | begin (request : ℕ)
  | select (request : ℕ) (filters : LibraryFilters) (latest : Bool) (phones : List String)
  | selectAgain (request : ℕ) (latest : Bool) (phones : List String)
  | commit (request : ℕ)
  | fail (request : ℕ)
  deriving DecidableEq, Repr

structure LibrarySends where
  rows : List DetailRow
  requests : (request : ℕ) → LibraryStage
  successes : List (List DetailRow)

namespace LibrarySends

def setStage (state : LibrarySends) (request : ℕ) (stage : LibraryStage) : LibrarySends :=
  { state with requests := Function.update state.requests request stage }

def view (state : LibrarySends) (snapshot : List DetailRow) (latest : Bool) : List DetailRow :=
  if latest then state.rows else snapshot

def take (state : LibrarySends) (account : LibraryAccount) (request : ℕ) (batch : Option String)
    (found : List DetailRow) (phones : List String) : LibrarySends :=
  state.setStage request
    (.selected ⟨account.id, phones, batch⟩ (found.filter fun row => row.phoneNumber ∈ phones))

variable (account : LibraryAccount)

def next (state : LibrarySends) : LibraryLabel → Option LibrarySends
  | .begin request =>
      match state.requests request with
      | .idle => some (state.setStage request (.begun state.rows))
      | _ => none
  | .select request filters latest phones =>
      match state.requests request with
      | .begun snapshot =>
          match account.countryFor filters with
          | none => some (state.setStage request .ended)
          | some country =>
              let found := account.union filters country true (state.view snapshot latest)
              if filters.lim ≤ 0 then some (state.setStage request .ended)
              else if found = [] ∧ (asked filters.batchId).isSome then
                some (state.setStage request (.unfound snapshot filters country))
              else if filters.MayTake found phones then
                some (state.take account request (filters.batch account.unicode) found phones)
              else none
      | _ => none
  | .selectAgain request latest phones =>
      match state.requests request with
      | .unfound snapshot filters country =>
          let found := account.union filters country false (state.view snapshot latest)
          if filters.MayTake found phones then
            some (state.take account request none found phones)
          else none
      | _ => none
  | .commit request =>
      match state.requests request with
      | .selected task taken =>
          some { state.setStage request .ended with
            rows := state.rows.map (DetailRow.marked account.unicode task)
            successes := state.successes ++ [taken] }
      | _ => none
  | .fail request => some (state.setStage request .ended)

def Step (state : LibrarySends) (label : LibraryLabel) (after : LibrarySends) : Prop :=
  state.next account label = some after

structure Fresh (state : LibrarySends) : Prop where
  idle : ∀ request, state.requests request = .idle
  unsent : state.successes = []
  keyed : (state.rows.map DetailRow.key).Nodup

def timesTaken (state : LibrarySends) (row : DetailRow) : ℕ :=
  state.successes.countP fun taken => row.key ∈ taken.map DetailRow.key

def UsedOnce (first state : LibrarySends) : Prop :=
  ∀ row ∈ first.rows, row.useCount = some 0 → state.timesTaken row ≤ 1

instance (first state : LibrarySends) : Decidable (UsedOnce first state) :=
  inferInstanceAs (Decidable (∀ row ∈ _, _ → _))

def StillUnused (state : LibrarySends) : LibraryLabel → Prop
  | .commit request =>
      ∀ task taken, state.requests request = .selected task taken →
        ∀ row ∈ taken, row.useCount = some 0 → row ∈ state.rows
  | _ => True

end LibrarySends

/-- The filters of the request contain `unused_only`. -/
def LibraryLabel.UnusedOnly : LibraryLabel → Prop
  | .select _ filters _ _ => filters.unusedOnly = true
  | _ => True

end Klsmsc
