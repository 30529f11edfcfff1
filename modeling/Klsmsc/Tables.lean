import Mathlib.Data.List.Basic
import Mathlib.Data.Int.Notation
import Mathlib.Algebra.Ring.Int.Defs

/-!
# Tables of the messaging platform

The rows and columns that the workers read and write, under their column names.
Enumerated columns are inductive types. Every price and balance column is a
`DECIMAL` with four decimals, so an amount is an integer number of units of
0.0001; prices of at most ten digits survive the round trip through `float`
that the workers make before they store them. Timestamps are numbers. A message
id is `msg_` followed by a fresh UUID in the source; here it is the number under
which it was drawn.

Columns that no modelled function uses are left out.
-/

namespace Klsmsc

abbrev Money := ℤ

theorem mul_units_eq_iff (price : Money) (left right : ℕ) :
    price * left = price * right ↔ left = right ∨ price = 0 := by
  by_cases free : price = 0
  · simp [free]
  · rw [Int.mul_eq_mul_left_iff free, Int.natCast_inj]
    simp [free]

/-- The unique `message_id` of a row of `sms_logs`. -/
abbrev MessageId := ℕ

/-- The column `sms_logs.status`. -/
inductive SmsStatus where
  | pending
  | queued
  | sent
  | delivered
  | failed
  | expired
  deriving DecidableEq, Repr

/-- The column `sms_batches.status`. -/
inductive BatchStatus where
  | pending
  | processing
  | paused
  | completed
  | failed
  | cancelled
  deriving DecidableEq, Repr

/-- The column `channels.protocol`. -/
inductive Protocol where
  | smpp
  | http
  | virtual
  deriving DecidableEq, Repr

/-- The column `accounts.payment_type`. -/
inductive PaymentType where
  | prepaid
  | postpaid
  deriving DecidableEq, Repr

/-- The values of `balance_logs.change_type` that the modelled functions write. -/
inductive ChangeType where
  | charge
  | refund
  | adjustment
  deriving DecidableEq, Repr

/-- A row of `accounts`. -/
structure Account where
  balance : Money
  paymentType : PaymentType
  countryCode : Option String
  deriving DecidableEq, Repr

/-- A row of `channels`. The field `rcsVendor` is the stripped, lower-case
`config_json.rcs.vendor`, empty when there is none. -/
structure Channel where
  id : ℕ
  protocol : Protocol
  rcsVendor : String
  deriving DecidableEq, Repr

def Channel.isRcs (channel : Channel) : Bool :=
  channel.rcsVendor ≠ ""

/-- A row of `sms_logs`. -/
structure SmsLog where
  id : ℕ
  messageId : MessageId
  upstreamMessageId : Option String
  accountId : ℕ
  channelId : Option ℕ
  batchId : Option ℕ
  phoneNumber : String
  countryCode : Option String
  senderId : Option String
  message : String
  messageCount : ℕ
  status : SmsStatus
  costPrice : Option Money
  sellingPrice : Option Money
  currency : String
  submitTime : Option ℕ
  sentTime : Option ℕ
  deliveryTime : Option ℕ
  errorMessage : Option String
  refundedAt : Option ℕ
  refundedBy : Option String
  refundedAmount : Option Money
  deriving DecidableEq, Repr

/-- `row.selling_price or 0`. -/
def SmsLog.price (row : SmsLog) : Money :=
  row.sellingPrice.getD 0

/-- A row of `balance_logs`. -/
structure BalanceLog where
  accountId : ℕ
  changeType : ChangeType
  amount : Money
  balanceAfter : Money
  deriving DecidableEq, Repr

/-- A row of `sms_batches`. -/
structure SmsBatch where
  totalCount : ℕ
  successCount : ℕ
  deliveredCount : ℕ
  failedCount : ℕ
  processingCount : ℕ
  progress : ℕ
  status : BatchStatus
  completedAt : Option ℕ
  errorMessage : Option String
  deriving DecidableEq, Repr

/-- The tables, with `sms_logs` and `balance_logs` in the order of insertion. -/
structure Db where
  accounts : ℕ → Option Account
  smsLogs : List SmsLog
  balanceLogs : List BalanceLog
  batches : ℕ → Option SmsBatch
  channels : ℕ → Option Channel

namespace Db

/-- `SELECT balance FROM accounts WHERE id = accountId`. -/
def balance (db : Db) (accountId : ℕ) : Option Money :=
  (db.accounts accountId).map Account.balance

/-- `UPDATE accounts SET balance = balance + amount WHERE id = accountId`. -/
def addBalance (db : Db) (accountId : ℕ) (amount : Money) : Db :=
  { db with
    accounts := fun id =>
      if id = accountId then
        (db.accounts id).map fun account => { account with balance := account.balance + amount }
      else db.accounts id }

/-- `INSERT INTO balance_logs`. -/
def addBalanceLog (db : Db) (entry : BalanceLog) : Db :=
  { db with balanceLogs := db.balanceLogs ++ [entry] }

/-- `INSERT INTO sms_logs` of several rows. -/
def addSmsLogs (db : Db) (rows : List SmsLog) : Db :=
  { db with smsLogs := db.smsLogs ++ rows }

/-- `UPDATE sms_logs SET .. WHERE ..`. -/
def updateSmsLogs (db : Db) (condition : SmsLog → Bool) (update : SmsLog → SmsLog) : Db :=
  { db with smsLogs := db.smsLogs.map fun row => if condition row then update row else row }

/-- `SELECT .. FROM sms_logs WHERE batch_id = batchId`. -/
def batchLogs (db : Db) (batchId : ℕ) : List SmsLog :=
  db.smsLogs.filter fun row => row.batchId = some batchId

section

variable (db : Db) (accountId other : ℕ) (amount : Money) (entry : BalanceLog)
  (rows : List SmsLog) (condition : SmsLog → Bool) (update : SmsLog → SmsLog)

@[simp]
theorem addBalance_smsLogs : (db.addBalance accountId amount).smsLogs = db.smsLogs := rfl

@[simp]
theorem addBalance_balanceLogs :
    (db.addBalance accountId amount).balanceLogs = db.balanceLogs := rfl

@[simp]
theorem addBalance_batches : (db.addBalance accountId amount).batches = db.batches := rfl

@[simp]
theorem addBalance_channels : (db.addBalance accountId amount).channels = db.channels := rfl

theorem balance_addBalance :
    (db.addBalance accountId amount).balance other =
      if other = accountId then (db.balance other).map (· + amount) else db.balance other := by
  unfold balance addBalance
  by_cases same : other = accountId
  · subst other
    simp only [if_true]
    cases db.accounts accountId <;> rfl
  · simp [same]

@[simp]
theorem addBalanceLog_accounts : (db.addBalanceLog entry).accounts = db.accounts := rfl

@[simp]
theorem addBalanceLog_balance : (db.addBalanceLog entry).balance other = db.balance other := rfl

@[simp]
theorem addBalanceLog_smsLogs : (db.addBalanceLog entry).smsLogs = db.smsLogs := rfl

@[simp]
theorem addBalanceLog_balanceLogs :
    (db.addBalanceLog entry).balanceLogs = db.balanceLogs ++ [entry] := rfl

@[simp]
theorem addSmsLogs_accounts : (db.addSmsLogs rows).accounts = db.accounts := rfl

@[simp]
theorem addSmsLogs_balance : (db.addSmsLogs rows).balance other = db.balance other := rfl

@[simp]
theorem addSmsLogs_smsLogs : (db.addSmsLogs rows).smsLogs = db.smsLogs ++ rows := rfl

@[simp]
theorem updateSmsLogs_accounts :
    (db.updateSmsLogs condition update).accounts = db.accounts := rfl

@[simp]
theorem updateSmsLogs_balance :
    (db.updateSmsLogs condition update).balance other = db.balance other := rfl

@[simp]
theorem updateSmsLogs_balanceLogs :
    (db.updateSmsLogs condition update).balanceLogs = db.balanceLogs := rfl

@[simp]
theorem updateSmsLogs_smsLogs :
    (db.updateSmsLogs condition update).smsLogs =
      db.smsLogs.map fun row => if condition row then update row else row := rfl

end

end Db

end Klsmsc
