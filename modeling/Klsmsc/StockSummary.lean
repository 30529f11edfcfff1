import Mathlib.Algebra.BigOperators.Group.Finset.Basic
import Mathlib.Data.Fintype.Defs
import Klsmsc.DataNumbers
import Klsmsc.Text
import Klsmsc.Library.Tallies
import Klsmsc.Library.Runs

/-!
# The stock summary

`data_stock_summaries` counts the numbers for sale by their dimensions, by a label for their age and
by their status. It is maintained by deltas: an import adds what it finds of its batch, two of the
purchases subtract what they take, and the age is that of the day of the operation.

Every operation is one step. A summary row is the count under its key; the sessions do not flush on
their own, so that an import which creates the same bucket twice is refused by the unique key and
leaves no count at all.
-/

namespace Klsmsc

open Library

/-- The labels of `compute_freshness`. -/
inductive Freshness where
  | threeDays
  | sevenDays
  | thirtyDays
  | history
  deriving DecidableEq, Repr

instance : Fintype Freshness where
  elems := {.threeDays, .sevenDays, .thirtyDays, .history}
  complete := by
    intro freshness
    cases freshness <;> decide

/-- `compute_freshness`. -/
def computeFreshness (today : ℤ) (dataDate : Option ℤ) : Freshness :=
  match dataDate with
  | none => .history
  | some date =>
      if today - date ≤ 3 then .threeDays
      else if today - date ≤ 7 then .sevenDays
      else if today - date ≤ 30 then .thirtyDays
      else .history

structure StockDims where
  countryCode : String
  carrier : String
  source : String
  purpose : String
  batchId : Option String
  deriving DecidableEq, Repr

structure StockKey where
  dims : StockDims
  freshness : Freshness
  status : NumberStatus
  deriving DecidableEq, Repr

/-- `total_count` of each bucket that exists. -/
abbrev StockTable : Type := StockKey → Option ℕ

structure StockGroup where
  countryCode : String
  carrier : Option String
  source : Option String
  purpose : Option String
  dataDate : Option ℤ
  deriving DecidableEq, Repr

def DataNumber.stockGroup (number : DataNumber) : StockGroup where
  countryCode := number.countryCode
  carrier := number.carrier
  source := number.source
  purpose := number.purpose
  dataDate := number.dataDate

def DataNumber.ForSale (number : DataNumber) : Prop :=
  number.accountId = none ∧ number.status = .active

instance (number : DataNumber) : Decidable number.ForSale :=
  inferInstanceAs (Decidable (_ ∧ _))

section

variable (unicode : Unicode)

/-- `norm_dim`. -/
def normDim (value : Option String) : String :=
  strip unicode (value.getD "")

/-- The dimensions that `update_stock_summary_delta` looks for. -/
def StockGroup.dims (group : StockGroup) (batchId : Option String) : StockDims where
  countryCode := normDim unicode (some group.countryCode)
  carrier := if normDim unicode group.carrier = "" then "Unknown" else normDim unicode group.carrier
  source := normDim unicode group.source
  purpose := normDim unicode group.purpose
  batchId := (batchId.filter fun id => id ≠ "").map fun id => normDim unicode (some id)

/-- The key that `update_stock_summary_delta` looks for. -/
def StockGroup.key (group : StockGroup) (today : ℤ) (status : NumberStatus)
    (batchId : Option String) : StockKey where
  dims := group.dims unicode batchId
  freshness := computeFreshness today group.dataDate
  status := status

def DataNumber.dims (number : DataNumber) : StockDims :=
  number.stockGroup.dims unicode number.batchId

def DataNumber.stockKey (number : DataNumber) (today : ℤ) : StockKey :=
  number.stockGroup.key unicode today number.status number.batchId

/-- The rows that `update_stock_summary_from_batch` selects. -/
def unsoldOfBatch (rows : List DataNumber) (batchId : String) : List DataNumber :=
  rows.filter fun number => number.batchId = some batchId ∧ number.accountId = none

/-- The deltas of `update_stock_summary_from_batch`. -/
def batchEntries (today : ℤ) (rows : List DataNumber) (batchId : String) :
    List (StockKey × ℤ) :=
  (groupCounts (fun number => (number.stockGroup, number.status))
    (unsoldOfBatch rows batchId)).map fun entry =>
      (entry.1.1.key unicode today entry.1.2 (some batchId), (entry.2 : ℤ))

def CreatesOnce (table : StockTable) (entries : List (StockKey × ℤ)) : Prop :=
  ((entries.map Prod.fst).filter fun key => (table key).isNone).Nodup

instance (table : StockTable) (entries : List (StockKey × ℤ)) :
    Decidable (CreatesOnce table entries) :=
  inferInstanceAs (Decidable (List.Nodup _))

/-- `update_stock_summary_from_batch` and its commit. -/
def updateStockSummaryFromBatch (today : ℤ) (rows : List DataNumber) (batchId : String)
    (table : StockTable) : StockTable :=
  if CreatesOnce table (batchEntries unicode today rows batchId) then
    adjustAll table (batchEntries unicode today rows batchId)
  else table

/-- `buy_to_stock` subtracts what it has bound, and names no batch. -/
def subtractWithoutBatch (today : ℤ) (sold : List DataNumber) (table : StockTable) :
    StockTable :=
  adjustAll table ((groupCounts DataNumber.stockGroup sold).map fun entry =>
    (entry.1.key unicode today .active none, -(entry.2 : ℤ)))

/-- `buy_and_send` subtracts what it has bound, batch by batch. -/
def subtractWithBatch (today : ℤ) (sold : List DataNumber) (table : StockTable) : StockTable :=
  adjustAll table
    ((groupCounts (fun number => (number.stockGroup, number.batchId)) sold).map fun entry =>
      (entry.1.1.key unicode today .active entry.1.2, -(entry.2 : ℤ)))

end

/-- What `_do_import` makes of a file: its valid lines, and the columns that they share. -/
structure ImportFile where
  batchId : String
  source : String
  purpose : String
  dataDate : ℤ
  lines : List (String × String × Option String)
  deriving DecidableEq, Repr

def ImportFile.row (file : ImportFile) (id : ℕ) (line : String × String × Option String) :
    DataNumber where
  id := id
  phoneNumber := line.1
  countryCode := line.2.1
  status := .active
  carrier := line.2.2
  source := some file.source
  purpose := some file.purpose
  dataDate := some file.dataDate
  batchId := some file.batchId
  lastUsedAt := none
  useCount := 0
  accountId := none

/-- `INSERT IGNORE INTO data_numbers`: the new rows, for the lines whose number is not there. -/
def ImportFile.inserted (file : ImportFile) (rows : List DataNumber) (nextId : ℕ) :
    List DataNumber :=
  (file.lines.foldl (fun added line =>
    if (rows ++ added).any fun number => number.phoneNumber = line.1 then added
    else added ++ [file.row (nextId + added.length) line]) [])

structure StockState where
  today : ℤ
  nextId : ℕ
  rows : List DataNumber
  summaries : StockTable

/-- What happens to the pool. The numbers that a purchase or a deletion takes depend on its
filters. -/
inductive StockAction where
  | pass (days : ℕ)
  | doImport (file : ImportFile)
  | buyToStock (accountId : ℕ) (chosen : DataNumber → Bool)
  | buyCombo (accountId : ℕ) (chosen : DataNumber → Bool)
  | buyAndSend (accountId : ℕ) (now : ℤ) (chosen : DataNumber → Bool)
  | recycleExpired (cutoff : ℤ)
  | deletePrivate (accountId : ℕ) (chosen : DataNumber → Bool)

namespace StockState

def start (today : ℤ) : StockState where
  today := today
  nextId := 1
  rows := []
  summaries _ := none

def CanBuy (state : StockState) (chosen : DataNumber → Bool) : Prop :=
  (∃ number ∈ state.rows, chosen number = true) ∧
    ∀ number ∈ state.rows, chosen number = true → number.ForSale

instance (state : StockState) (chosen : DataNumber → Bool) : Decidable (state.CanBuy chosen) :=
  inferInstanceAs (Decidable (_ ∧ _))

def changed (state : StockState) (chosen : DataNumber → Bool)
    (change : DataNumber → DataNumber) : List DataNumber :=
  state.rows.map fun number => if chosen number then change number else number

variable (unicode : Unicode) (state : StockState)

def next : StockAction → Option StockState
  | .pass days => some { state with today := state.today + days }
  | .doImport file =>
      let added := file.inserted state.rows state.nextId
      if file.batchId = "" then none
      else
        some { state with
          nextId := state.nextId + added.length
          rows := state.rows ++ added
          summaries :=
            if added.isEmpty then state.summaries
            else updateStockSummaryFromBatch unicode state.today (state.rows ++ added)
              file.batchId state.summaries }
  | .buyToStock accountId chosen =>
      if state.CanBuy chosen then
        some { state with
          rows := state.changed chosen fun number => number.bind accountId
          summaries := subtractWithoutBatch unicode state.today (state.rows.filter chosen)
            state.summaries }
      else none
  | .buyCombo accountId chosen =>
      if state.CanBuy chosen then
        some { state with rows := state.changed chosen fun number => number.bind accountId }
      else none
  | .buyAndSend accountId now chosen =>
      if state.CanBuy chosen then
        some { state with
          rows := state.changed chosen fun number => number.bindAndStamp accountId now
          summaries := subtractWithBatch unicode state.today (state.rows.filter chosen)
            state.summaries }
      else none
  | .recycleExpired cutoff =>
      some { state with
        rows := state.changed (fun number => number.Expired cutoff) DataNumber.release }
  | .deletePrivate accountId chosen =>
      some { state with
        rows := state.changed (fun number => number.accountId = some accountId ∧ chosen number)
          DataNumber.unbind }

def Step (before : StockState) (action : StockAction) (after : StockState) : Prop :=
  before.next unicode action = some after

/-- For every combination of dimensions the active buckets of all ages count the rows that are for
sale. -/
def Exact : Prop :=
  ∀ dims : StockDims,
    ∑ freshness : Freshness, tallied state.summaries ⟨dims, freshness, .active⟩ =
      state.rows.countP fun number => number.dims unicode = dims ∧ number.ForSale

def Covers (chosen : DataNumber → Bool) : Prop :=
  ∀ number ∈ state.rows, chosen number = true →
    ((state.rows.filter chosen).countP fun other =>
      other.stockKey unicode state.today = number.stockKey unicode state.today) ≤
        tallied state.summaries (number.stockKey unicode state.today)

def Heeds : StockAction → Prop
  | .pass _ => True
  | .doImport file =>
      file.inserted state.rows state.nextId = [] ∨
        (∀ number ∈ state.rows, number.ForSale → number.batchId ≠ some file.batchId) ∧
          CreatesOnce state.summaries (batchEntries unicode state.today
            (state.rows ++ file.inserted state.rows state.nextId) file.batchId)
  | .buyToStock _ chosen =>
      (∀ number ∈ state.rows, chosen number = true → (number.dims unicode).batchId = none) ∧
        state.Covers unicode chosen
  | .buyCombo _ _ => False
  | .buyAndSend _ _ chosen => state.Covers unicode chosen
  | .recycleExpired cutoff =>
      ∀ number ∈ state.rows, number.Expired cutoff → number.status ≠ .active
  | .deletePrivate _ _ => True

end StockState

end Klsmsc
