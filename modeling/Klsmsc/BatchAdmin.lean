import Mathlib.Algebra.BigOperators.Group.List.Basic
import Klsmsc.Tables

/-!
# Switching the channel of a batch

`switch_channel_for_unsent` of `services/batch_admin.py`: it prices the unsent
rows of a batch anew on another channel, moves the difference on the account of
the batch, and writes channel and prices into the rows. `preview_switch_channel`
goes the same way up to the difference and writes nothing.

The lookups of the pricing engine and the check of the target channel against
status and routes are parameters; what they cache is the same lookup again. The
account of a batch is an argument beside it.
-/

namespace Klsmsc

structure RepricingEnv where
  countSmsParts : String → ℕ
  getPrice : (channelId : ℕ) → (countryCode : String) → (accountId : ℕ) → Option Money
  resolveBaseCostPerSms : (channelId : ℕ) → (countryCode : String) → Money
  validateChannelForCountry : (channelId : ℕ) → (countryCode : Option String) →
    Except String Channel

/-- `log.status in _UNSENT_STATUSES`. -/
def SmsLog.unsent (row : SmsLog) : Bool :=
  row.status = .pending ∨ row.status = .queued

/-- `_select_unsent_logs`. -/
def selectUnsentLogs (db : Db) (batchId : ℕ) : List SmsLog :=
  db.smsLogs.filter fun row => row.batchId = some batchId ∧ row.unsent

/-- `log.country_code or ""`. -/
def SmsLog.country (row : SmsLog) : String :=
  row.countryCode.getD ""

/-- `int(log.message_count or 1)`. -/
def SmsLog.repricedCount (row : SmsLog) : ℕ :=
  if row.messageCount = 0 then 1 else row.messageCount

structure Repriced where
  row : SmsLog
  newCost : Money
  newSell : Money
  deriving DecidableEq, Repr

def Repriced.diff (repriced : Repriced) : Money :=
  repriced.newSell - repriced.row.price

def totalDiff (rows : List Repriced) : Money :=
  (rows.map Repriced.diff).sum

/-- Why a switch is refused: there is no batch, the channel cannot be used, nothing is
unsent, the channel is the old one, or it has no price for a country and an account. -/
inductive SwitchRefusal where
  | batchMissing
  | channel (reason : String)
  | nothingUnsent
  | sameChannel
  | priceMissing (countryCode : String) (accountId : ℕ)
  deriving DecidableEq, Repr

/-- How `switch_channel_for_unsent` ends. -/
inductive SwitchResult where
  | refused (reason : SwitchRefusal)
  | insufficientBalance (required : Money)
  | switched (db : Db) (channel : Channel) (rows : List Repriced) (totalDiff : Money)

section

variable (env : RepricingEnv)

def repriceRow (channel : Channel) (row : SmsLog) : Except SwitchRefusal Repriced :=
  match env.getPrice channel.id row.country row.accountId with
  | none => .error (.priceMissing row.country row.accountId)
  | some unitSell =>
      .ok
        { row := row
          newCost := env.resolveBaseCostPerSms channel.id row.country * row.repricedCount
          newSell := unitSell * row.repricedCount }

/-- `_compute_repricing`. -/
def computeRepricing (channel : Channel) : List SmsLog → Except SwitchRefusal (List Repriced)
  | [] => .ok []
  | row :: rows =>
      match repriceRow env channel row with
      | .error reason => .error reason
      | .ok repriced => (computeRepricing channel rows).map (repriced :: ·)

def sameChannel (rows : List SmsLog) (channel : Channel) : Bool :=
  let oldChannelIds := (rows.filterMap SmsLog.channelId).filter fun id => id ≠ 0
  oldChannelIds ≠ [] ∧ oldChannelIds.all fun id => id = channel.id

def planSwitch (db : Db) (batchId newChannelId : ℕ) :
    Except SwitchRefusal (Channel × List Repriced) :=
  if (db.batches batchId).isNone then .error .batchMissing
  else
    let rows := selectUnsentLogs db batchId
    match env.validateChannelForCountry newChannelId (rows.head?.bind SmsLog.countryCode) with
    | .error reason => .error (.channel reason)
    | .ok channel =>
        if rows.isEmpty then .error .nothingUnsent
        else if sameChannel rows channel then .error .sameChannel
        else (computeRepricing env channel rows).map fun repriced => (channel, repriced)

def SmsLog.switched (row : SmsLog) (channel : Channel) (repriced : Repriced) : SmsLog :=
  { row with
    channelId := some channel.id
    costPrice := some repriced.newCost
    sellingPrice := some repriced.newSell }

def updateSwitched (db : Db) (channel : Channel) (rows : List Repriced) : Db :=
  rows.foldl
    (fun db repriced =>
      db.updateSmsLogs (fun row => row.id = repriced.row.id) fun row =>
        row.switched channel repriced)
    db

def payDifference (db : Db) (accountId : ℕ) (difference : Money) : Option Db :=
  if 0 < difference then
    if (db.accounts accountId).any fun account => difference ≤ account.balance then
      some (db.addBalance accountId (-difference))
    else none
  else if difference < 0 then some (db.addBalance accountId difference.natAbs)
  else some db

/-- The entry for a difference in `balance_logs`. -/
def logDifference (db : Db) (accountId : ℕ) (difference : Money) : Db :=
  if difference ≠ 0 then
    db.addBalanceLog ⟨accountId, .adjustment, -difference, (db.balance accountId).getD 0⟩
  else db

/-- `switch_channel_for_unsent` of a batch of an account. -/
def switchChannelForUnsent (db : Db) (batchId accountId newChannelId : ℕ) : SwitchResult :=
  match planSwitch env db batchId newChannelId with
  | .error reason => .refused reason
  | .ok (channel, rows) =>
      match payDifference db accountId (totalDiff rows) with
      | none => .insufficientBalance (totalDiff rows)
      | some paid =>
          .switched (logDifference (updateSwitched paid channel rows) accountId (totalDiff rows))
            channel rows (totalDiff rows)

/-- The difference that `preview_switch_channel` announces. -/
def previewSwitchChannel (db : Db) (batchId newChannelId : ℕ) : Except SwitchRefusal Money :=
  (planSwitch env db batchId newChannelId).map fun plan => totalDiff plan.2

end

end Klsmsc
