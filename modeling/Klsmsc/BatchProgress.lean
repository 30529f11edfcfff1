import Klsmsc.Text

/-!
# Batch progress

The aggregation `update_batch_progress` of `modules/sms/batch_utils.py`. It
counts the rows of a batch by status and brings the row in `sms_batches` in line
with the counts; up to two percent of pending rows, all on virtual channels, are
expired first. It is split here at its commits: what it expires, and the row
that it writes, if that differs from the row it has loaded.

The comparison with two percent and the percentage are exact on the counts that
a batch can have, so both are stated on integers.
-/

namespace Klsmsc

/-- The numbers that the aggregation takes from `sms_logs`. -/
structure BatchCounts where
  logTotal : ℕ
  sent : ℕ
  delivered : ℕ
  failed : ℕ
  pending : ℕ
  deriving DecidableEq, Repr

/-- `sent + failed`. -/
def BatchCounts.done (counts : BatchCounts) : ℕ :=
  counts.sent + counts.failed

def batchCounts (db : Db) (batchId : ℕ) : BatchCounts :=
  let count (status : SmsStatus) : ℕ :=
    (db.batchLogs batchId).countP fun row => row.status = status
  { logTotal := (db.batchLogs batchId).length
    sent := count .sent + count .delivered
    delivered := count .delivered
    failed := count .failed + count .expired
    pending := count .pending + count .queued }

/-- `batch.total_count or log_total`. -/
def SmsBatch.total (batch : SmsBatch) (counts : BatchCounts) : ℕ :=
  if batch.totalCount = 0 then counts.logTotal else batch.totalCount

def fewPending (counts : BatchCounts) (total : ℕ) : Bool :=
  total ≤ counts.logTotal ∧ 0 < counts.pending ∧ 50 * counts.pending ≤ total

def pendingIn (batchId : ℕ) (row : SmsLog) : Bool :=
  row.batchId = some batchId ∧ (row.status = .pending ∨ row.status = .queued)

def onVirtualChannel (db : Db) (row : SmsLog) : Bool :=
  (row.channelId.bind db.channels).any fun channel => channel.protocol = .virtual

def expiringLogs (db : Db) (batchId : ℕ) : Option (List SmsLog) :=
  let rows := db.smsLogs.filter (pendingIn batchId)
  if rows ≠ [] ∧ rows.all (onVirtualChannel db) then some rows else none

/-- `UPDATE sms_logs SET status = 'expired' .. WHERE message_id IN (..)`. -/
def expireLogs (db : Db) (rows : List SmsLog) (now : ℕ) (report : String) : Db :=
  db.updateSmsLogs (fun row => row.messageId ∈ rows.map SmsLog.messageId) fun row =>
    { row with status := .expired, errorMessage := some report, sentTime := some now }

def partialFailure (failed total : ℕ) : String :=
  s!"部分失败: {failed}/{total}"

def SmsBatch.afterExpiry (batch : SmsBatch) (counts : BatchCounts) (total now : ℕ) : SmsBatch :=
  { batch with
    successCount := counts.sent
    deliveredCount := counts.delivered
    failedCount := counts.failed
    processingCount := 0
    progress := 100
    status := .completed
    completedAt := some now
    errorMessage := if 0 < counts.failed then some (partialFailure counts.failed total) else none }

def SmsBatch.target (batch : SmsBatch) (counts : BatchCounts) (total now : ℕ) :
    BatchStatus × Option ℕ × Option String :=
  let reopened := batch.status = .completed ∧
    (0 < counts.pending ∨ counts.done < counts.logTotal)
  let status := if reopened then .processing else batch.status
  let completedAt := if reopened then none else batch.completedAt
  if total ≤ counts.logTotal ∧ counts.logTotal ≤ counts.done then
    let final : BatchStatus × Option String :=
      if counts.failed = 0 then (.completed, batch.errorMessage)
      else if counts.sent = 0 then (.failed, batch.errorMessage)
      else (.completed, some (partialFailure counts.failed total))
    (final.1,
      if batch.status = final.1 ∧ batch.completedAt ≠ none then batch.completedAt else some now,
      final.2)
  else if fewPending counts total then (.processing, none, batch.errorMessage)
  else if total ≤ counts.logTotal ∧ batch.status = .completed then
    (status, completedAt, batch.errorMessage)
  else
    (if status = .completed ∨ status = .failed ∨ status = .cancelled then status else .processing,
      none,
      batch.errorMessage.filter fun text => !textContains text "部分失败")

def SmsBatch.inLine (batch : SmsBatch) (counts : BatchCounts) (total now : ℕ) : SmsBatch :=
  { batch with
    successCount := counts.sent
    deliveredCount := counts.delivered
    failedCount := counts.failed
    processingCount := total - counts.done
    progress := min 100 (counts.done * 100 / max total 1)
    status := (batch.target counts total now).1
    completedAt := (batch.target counts total now).2.1
    errorMessage := (batch.target counts total now).2.2 }

/-- `_norm_err`. -/
def normError (unicode : Unicode) (text : Option String) : Option String :=
  (text.map (strip unicode)).filter fun stripped => stripped ≠ ""

/-- `_batch_targets_unchanged`. -/
def SmsBatch.unchanged (unicode : Unicode) (batch target : SmsBatch) : Bool :=
  { batch with errorMessage := normError unicode batch.errorMessage } =
    { target with errorMessage := normError unicode target.errorMessage }

/-- `UPDATE sms_batches` of one row. -/
def Db.setBatch (db : Db) (batchId : ℕ) (batch : SmsBatch) : Db :=
  { db with batches := fun id => if id = batchId then some batch else db.batches id }

/-- What `update_batch_progress` is about to do. -/
inductive ProgressPlan where
  | nothing
  | expire (batch : SmsBatch) (rows : List SmsLog) (total : ℕ)
  | write (batch : SmsBatch)

/-- The decisions of `update_batch_progress` up to its first write. -/
def progressPlan (unicode : Unicode) (db : Db) (batchId now : ℕ) : ProgressPlan :=
  if batchId = 0 then .nothing
  else
    match db.batches batchId with
    | none => .nothing
    | some batch =>
        let counts := batchCounts db batchId
        let total := batch.total counts
        match if fewPending counts total then expiringLogs db batchId else none with
        | some rows => .expire batch rows total
        | none =>
            let target := batch.inLine counts total now
            if batch.unchanged unicode target then .nothing else .write target

section

variable (db : Db) (batchId now : ℕ) (batch : SmsBatch) (rows : List SmsLog) (report : String)

@[simp]
theorem setBatch_accounts : (db.setBatch batchId batch).accounts = db.accounts := rfl

@[simp]
theorem setBatch_smsLogs : (db.setBatch batchId batch).smsLogs = db.smsLogs := rfl

@[simp]
theorem expireLogs_accounts : (expireLogs db rows now report).accounts = db.accounts := rfl

end

theorem target_processing_of_missing {batch : SmsBatch} {counts : BatchCounts} {total now : ℕ}
    (missing : counts.logTotal < total) (opened : batch.status = .processing) :
    (batch.target counts total now).1 = .processing := by
  have notAll : ¬total ≤ counts.logTotal := by omega
  simp [SmsBatch.target, fewPending, notAll, opened]

end Klsmsc
