import Klsmsc.BatchAdmin
import Klsmsc.Chunk.Process

/-!
# Retrying failed messages

`retry_batch_failed` of `api/v1/batches.py` for a batch of the account that asks:
it charges the failed and expired rows again, one after the other, stores them as
queued, and then enqueues them. A row that cannot be enqueued is refunded through
the refund service and fails again. Batches that are sold together with their
numbers are not charged again.

The lock of the endpoint keeps calls for one batch apart, so a call is one step
here; the aggregation behind it is another. Of the response the counts are kept,
but not the texts.
-/

namespace Klsmsc

def retriableLogs (db : Db) (batchId accountId : ℕ) : List SmsLog :=
  db.smsLogs.filter fun row =>
    row.batchId = some batchId ∧ row.accountId = accountId ∧
      (row.status = .failed ∨ row.status = .expired)

def SmsLog.isIncomplete (unicode : Unicode) (row : SmsLog) : Bool :=
  row.channelId.getD 0 = 0 ∨ row.country = "" ∨ strip unicode row.message = ""

/-- What `calculate_and_charge` returns for a row. -/
structure RetryCharge where
  messageCount : ℕ
  totalBaseCost : Money
  totalCost : Money
  currency : String
  deriving DecidableEq, Repr

/-- How `calculate_and_charge` ends. -/
inductive RetryChargeResult where
  | charged (db : Db) (charge : RetryCharge)
  | insufficientBalance
  | pricingNotFound
  | accountNotFound

def SmsLog.charged (row : SmsLog) (charge : RetryCharge) : SmsLog :=
  { row with
    messageCount := if charge.messageCount = 0 then 1 else charge.messageCount
    costPrice := some charge.totalBaseCost
    sellingPrice := some charge.totalCost
    currency := if charge.currency = "" then "USD" else charge.currency }

def SmsLog.requeued (row : SmsLog) : SmsLog :=
  { row with
    status := .queued
    errorMessage := none
    sentTime := none
    deliveryTime := none
    upstreamMessageId := none }

def Db.updateRow (db : Db) (id : ℕ) (update : SmsLog → SmsLog) : Db :=
  db.updateSmsLogs (fun row => row.id = id) update

/-- The loop over the failed rows: those that are to be enqueued, with their charges,
and the counts. -/
structure RetryLoop where
  db : Db
  retried : List (SmsLog × Money)
  outOfBalance : Bool
  pendingSkipped : ℕ
  skipped : ℕ

namespace RetryLoop

def start (db : Db) : RetryLoop := ⟨db, [], false, 0, 0⟩

def unpaid (loop : RetryLoop) (row : SmsLog) : RetryLoop :=
  { loop with
    db := loop.db.updateRow row.id fun row => { row with errorMessage := some "余额不足，未能重发" }
    outOfBalance := true
    pendingSkipped := loop.pendingSkipped + 1 }

def skip (loop : RetryLoop) : RetryLoop :=
  { loop with skipped := loop.skipped + 1 }

def requeue (loop : RetryLoop) (row : SmsLog) (amount : Money) : RetryLoop :=
  { loop with
    db := loop.db.updateRow row.id SmsLog.requeued
    retried := loop.retried ++ [(row, amount)] }

end RetryLoop

def refundBy (unicode : Unicode) (db : Db) (call : RefundCall) (now : ℕ) : Db :=
  match db.smsLogs.find? fun row => row.id = call.smsLogId with
  | none => db
  | some row =>
      match call.entry.grant unicode row with
      | .error _ => db
      | .ok _ =>
          let claim := call.claim row now
          let credited :=
            (db.updateSmsLogs claim.applies fun row => row.refunded claim).addBalance
              claim.accountId claim.amount
          credited.addBalanceLog
            (Refund.mk claim ((credited.balance claim.accountId).getD 0)).balanceLog

def creditOf (unicode : Unicode) (db : Db) (call : RefundCall) : Money :=
  match db.smsLogs.find? fun row => row.id = call.smsLogId with
  | none => 0
  | some row =>
      match call.entry.grant unicode row with
      | .error _ => 0
      | .ok _ => row.price

section

variable (env : ChunkEnv)

/-- `PricingEngine.calculate_and_charge` for a row, without an entry in `balance_logs`. -/
def chargeAgain (db : Db) (accountId : ℕ) (row : SmsLog) : RetryChargeResult :=
  let channelId := row.channelId.getD 0
  let units :=
    if (db.channels channelId).any Channel.isRcs then 1 else env.countSmsParts row.message
  match env.getPrice channelId row.country accountId with
  | none => .pricingNotFound
  | some (price, currency) =>
      match db.accounts accountId with
      | none => .accountNotFound
      | some account =>
          match db.deduct accountId (account.paymentType = .postpaid) (price * units) with
          | none => .insufficientBalance
          | some paid =>
              .charged paid
                ⟨units, env.resolveBaseCostPerSms channelId row.country * units, price * units,
                  currency⟩

/-- The body of the loop over the failed rows. A charge on an account that is not there
raises. -/
def retryRow (accountId : ℕ) (skipSmsCharge : Bool) (loop : RetryLoop) (row : SmsLog) :
    Option RetryLoop :=
  if loop.outOfBalance then some (loop.unpaid row)
  else if row.isIncomplete env.unicode then some loop.skip
  else if skipSmsCharge then some (loop.requeue row 0)
  else
    match chargeAgain env loop.db accountId row with
    | .insufficientBalance => some (loop.unpaid row)
    | .pricingNotFound => some loop.skip
    | .accountNotFound => none
    | .charged paid charge =>
        some ({ loop with
          db := paid.updateRow row.id fun row => row.charged charge }.requeue row charge.totalCost)

def retryRows (accountId : ℕ) (skipSmsCharge : Bool) (loop : RetryLoop) :
    List SmsLog → Option RetryLoop
  | [] => some loop
  | row :: rows =>
      (retryRow env accountId skipSmsCharge loop row).bind fun loop =>
        retryRows accountId skipSmsCharge loop rows

/-- The entry in `balance_logs` for all charges. -/
def logRetryCharges (db : Db) (accountId : ℕ) (retried : List (SmsLog × Money)) : Db :=
  let total := (retried.map Prod.snd).sum
  if 0 < total then db.logCharge accountId total else db

/-- `_refund_line_charge`. -/
def refundLineCharge (db : Db) (messageId : MessageId) : Db :=
  match db.smsLogs.find? fun row => row.messageId = messageId with
  | none => db
  | some row =>
      refundBy env.unicode db ⟨.autoRefund "retry_queue_failed" false, row.id⟩ env.now

/-- What `_refund_line_charge` credits. -/
def refundOfLine (db : Db) (messageId : MessageId) : Money :=
  match db.smsLogs.find? fun row => row.messageId = messageId with
  | none => 0
  | some row => creditOf env.unicode db ⟨.autoRefund "retry_queue_failed" false, row.id⟩

def creditFor (db : Db) (row : SmsLog) (amount : Money) : Money :=
  if 0 < amount then refundOfLine env db row.messageId else 0

def failRetried (db : Db) (row : SmsLog) (amount : Money) : Db :=
  let refunded := if 0 < amount then refundLineCharge env db row.messageId else db
  refunded.updateSmsLogs (fun stored => stored.messageId = row.messageId) fun stored =>
    { stored with
      status := .failed
      errorMessage := some "加入发送队列失败，请检查 RabbitMQ 与 Celery worker-sms 是否运行" }

/-- What became of a row that was to be enqueued: its charge, whether it was enqueued, and
what was credited. -/
structure Retried where
  row : SmsLog
  amount : Money
  isEnqueued : Bool
  credited : Money
  deriving DecidableEq, Repr

def enqueueRetried (db : Db) : List (SmsLog × Money) → Db × List Retried
  | [] => (db, [])
  | (row, amount) :: rest =>
      if queueSms env.broker row.messageId then
        let (after, outcomes) := enqueueRetried db rest
        (after, ⟨row, amount, true, 0⟩ :: outcomes)
      else
        let (after, outcomes) := enqueueRetried (failRetried env db row amount) rest
        (after, ⟨row, amount, false, creditFor env db row amount⟩ :: outcomes)

/-- How `retry_batch_failed` ends: it refuses, it raises, or it returns the counts. -/
inductive RetryResult where
  | refused (status : ℕ)
  | raised
  | retried (db : Db) (outcomes : List Retried) (skipped pendingSkipped : ℕ)

/-- `retry_batch_failed`. -/
def retryBatchFailed (db : Db) (batchId accountId : ℕ) (skipSmsCharge : Bool) : RetryResult :=
  match db.batches batchId with
  | none => .refused 404
  | some batch =>
      if batch.status = .cancelled ∨ batch.status = .pending then .refused 400
      else
        match retryRows env accountId skipSmsCharge (.start db)
            (retriableLogs db batchId accountId) with
        | none => .raised
        | some loop =>
            let charged := logRetryCharges loop.db accountId loop.retried
            let (after, outcomes) := enqueueRetried env charged loop.retried
            .retried after outcomes
              (loop.skipped + outcomes.countP fun outcome => !outcome.isEnqueued)
              loop.pendingSkipped

end

end Klsmsc
