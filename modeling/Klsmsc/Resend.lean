import Klsmsc.Chunk.Enqueue
import Klsmsc.Library.Runs

/-!
# Failed messages that are resent as a new batch

The task `retry_batch_as_new` walks through the failed and expired rows of a batch, page by
page. It routes and charges each of them and adds a row to the new batch. Every five hundred
rows, and when the channel changes, it commits what it has added, hands it over, and only
then annotates the source rows, so that a later execution of the task passes over them.

The task is acknowledged when it has ended, so it is delivered again when its worker dies. A
step is what an execution does up to its next commit, hand-over or end, or for one row; it may
raise an exception anywhere. What it has added since its last commit is kept apart, as is
what it has charged. Pricing and routing answer anything; the account is read and charged as
the pricing does it. Refunds of messages that could not be handed over, and the counters of
the batches, are left out.
-/

namespace Klsmsc

open Library

structure SourceRow where
  id : ℕ
  channelId : Option ℕ
  phoneNumber : String
  countryCode : Option String
  message : Option String
  status : SmsStatus
  errorMessage : Option String
  deriving DecidableEq, Repr

structure ResentRow where
  sourceId : ℕ
  messageId : MessageId
  channelId : ℕ
  phoneNumber : String
  countryCode : Option String
  message : Option String
  messageCount : ℕ
  status : SmsStatus
  costPrice : Money
  sellingPrice : Money
  currency : String
  deriving DecidableEq, Repr

structure Quote where
  messageCount : ℕ
  totalCost : Money
  totalBaseCost : Money
  currency : String
  deriving DecidableEq, Repr

/-- `calculate_and_charge` up to the account. -/
inductive PricingAnswer where
  | priced (quote : Quote)
  | notFound
  | raises (text : String)
  deriving DecidableEq, Repr

inductive CommitOutcome where
  | done
  | refused (text : String)
  | unanswered (text : String)
  deriving DecidableEq, Repr

/-- Where an execution goes on after `_flush`. -/
inductive AfterFlush where
  | charge (row : SourceRow) (channel : Channel)
  | rows
  | finish
  deriving DecidableEq, Repr

/-- Where an execution stands. The four stages behind `charging` are those of `_flush`. -/
inductive ResendStage where
  | scanning
  | rows
  | charging (row : SourceRow) (channel : Channel)
  | committing (channel : Channel) (next : AfterFlush)
  | logging (channel : Channel) (next : AfterFlush)
  | queueing (channel : Channel) (next : AfterFlush)
  | annotating (next : AfterFlush)
  | finishing
  | handling (text : String)
  | ended
  deriving DecidableEq, Repr

/-- An execution of the task with its variables. The rows in `pending` and the amount `charged`
are those of its open transaction. -/
structure ResendRun where
  stage : ResendStage
  lastId : ℕ
  page : List SourceRow
  routeCache : List ((String × Option ℕ) × Option Channel)
  commitBatch : List ResentRow
  chunkDeducted : Money
  annotateIds : List ℕ
  chunkChannel : Option Channel
  retried : ℕ
  skipped : ℕ
  outOfBalance : Bool
  pending : List ResentRow
  charged : Money
  deriving DecidableEq, Repr

/-- The source rows, the account, the rows of the new batch that are committed and its own row,
what has been handed over, and the executions of the task. -/
structure Resend where
  newBatchId : ℕ
  source : List SourceRow
  account : Option Account
  rows : List ResentRow
  batchStatus : BatchStatus
  totalCount : ℕ
  errorMessage : Option String
  balanceLogs : List (Money × String)
  handed : List (MessageId × Route)
  nextMessageId : MessageId
  runCount : ℕ
  runs : ℕ → ResendRun

inductive ResendLabel where
  | start
  | scan (run : ℕ)
  | row (run : ℕ) (answer : Option (Option Channel))
  | charge (run : ℕ) (answer : PricingAnswer)
  | commit (run : ℕ) (outcome : CommitOutcome)
  | log (run : ℕ) (succeeds : Bool)
  | queue (run : ℕ) (count : ℕ) (raised : Option String)
  | annotate (run : ℕ) (outcome : CommitOutcome)
  | finish (run : ℕ) (status : BatchStatus) (raised : Option String)
  | handle (run : ℕ) (commits : Bool)
  | raises (run : ℕ) (text : String)
  | kill (run : ℕ)
  | others (source : List SourceRow) (account : Option Account)
  deriving DecidableEq, Repr

/-- `COMMIT_EVERY`. -/
def resendCommitEvery : ℕ := 500

/-- `PAGE`. -/
def resendPage : ℕ := 2000

def resendTag (newBatchId : ℕ) : String :=
  s!"已转批次 #{newBatchId} 重发"

def SourceRow.isAnnotated (row : SourceRow) (newBatchId : ℕ) : Bool :=
  row.errorMessage.any fun text => textContains text (resendTag newBatchId)

def SourceRow.annotate (row : SourceRow) (newBatchId : ℕ) : SourceRow :=
  { row with
    errorMessage := some (row.errorMessage.getD "" ++ s!" [{resendTag newBatchId}]") }

def SourceRow.isOpen (row : SourceRow) (newBatchId : ℕ) : Bool :=
  (row.status = .failed || row.status = .expired) && !row.isAnnotated newBatchId

def resendPageOf (source : List SourceRow) (newBatchId lastId : ℕ) : List SourceRow :=
  ((source.filter fun row => row.isOpen newBatchId && lastId < row.id).mergeSort
    fun first second => first.id ≤ second.id).take resendPage

/-- The branch of `_queue_commit_batch` for a channel. -/
def commitBatchRoute (channel : Channel) : Route :=
  if channel.isNodeRcs then .nodeTask
  else if channel.protocol = .smpp then .smppQueue
  else .smsSend

def ResendRun.first : ResendRun :=
  ⟨.scanning, 0, [], [], [], 0, [], none, 0, 0, false, [], 0⟩

def ResendRun.idle : ResendRun :=
  { ResendRun.first with stage := .ended }

def ResendRun.discard (run : ResendRun) (stage : ResendStage) : ResendRun :=
  { run with stage := stage, pending := [], charged := 0 }

def ResendRun.skip (run : ResendRun) : ResendRun :=
  { run with stage := .rows, skipped := run.skipped + 1 }

/-- `_flush` of the rows for a channel, if there are any. -/
def ResendRun.flush (run : ResendRun) (channel : Option Channel) (next : AfterFlush) :
    ResendRun :=
  match channel, run.commitBatch with
  | some channel, _ :: _ => { run with stage := .committing channel next }
  | _, _ =>
      match next with
      | .charge row channel =>
          { run with stage := .charging row channel, chunkChannel := some channel }
      | .rows => { run with stage := .rows }
      | .finish => { run with stage := .finishing }

/-- The end of `_flush`. -/
def ResendRun.flushed (run : ResendRun) (next : AfterFlush) : ResendRun :=
  { run with commitBatch := [], chunkDeducted := 0, annotateIds := [] }.flush .none next

def ResendRun.route (run : ResendRun) (row : SourceRow) (countryCode : String)
    (answer : Option (Option Channel)) :
    Option Channel × List ((String × Option ℕ) × Option Channel) :=
  match run.routeCache.find? fun entry => entry.1 = (countryCode, row.channelId) with
  | some entry => (entry.2, run.routeCache)
  | none =>
      match answer with
      | none => (none, run.routeCache)
      | some channel => (channel, run.routeCache ++ [((countryCode, row.channelId), channel)])

def ResendRun.takeRow (unicode : Unicode) (run : ResendRun) (row : SourceRow)
    (rest : List SourceRow) (answer : Option (Option Channel)) : ResendRun :=
  let taken := { run with page := rest }
  if run.outOfBalance then taken.skip
  else
    match row.countryCode with
    | none => taken.skip
    | some countryCode =>
        if countryCode = "" ∨ strip unicode (row.message.getD "") = "" then taken.skip
        else
          let routed := run.route row countryCode answer
          let cached := { taken with routeCache := routed.2 }
          match routed.1 with
          | none => cached.skip
          | some channel =>
              if run.chunkChannel.any fun current => current.id ≠ channel.id then
                cached.flush run.chunkChannel (.charge row channel)
              else cached.flush .none (.charge row channel)

def resentRow (row : SourceRow) (messageId : MessageId) (channel : Channel) (quote : Quote) :
    ResentRow where
  sourceId := row.id
  messageId := messageId
  channelId := channel.id
  phoneNumber := row.phoneNumber
  countryCode := row.countryCode
  message := row.message
  messageCount := if quote.messageCount = 0 then 1 else quote.messageCount
  status := .queued
  costPrice := quote.totalBaseCost
  sellingPrice := quote.totalCost
  currency := if quote.currency = "" then "USD" else quote.currency

def ResendRun.addRow (run : ResendRun) (channel : Channel) (added : ResentRow) : ResendRun :=
  let grown :=
    { run with
      commitBatch := run.commitBatch ++ [added]
      chunkDeducted := run.chunkDeducted + added.sellingPrice
      annotateIds := run.annotateIds ++ [added.sourceId]
      retried := run.retried + 1
      pending := run.pending ++ [added]
      charged := run.charged + added.sellingPrice }
  if resendCommitEvery ≤ grown.commitBatch.length then grown.flush (some channel) .rows
  else { grown with stage := .rows }

namespace Resend

variable (unicode : Unicode) (state : Resend)

def setRun (index : ℕ) (run : ResendRun) : Resend :=
  { state with runs := Function.update state.runs index run }

def start : Resend :=
  { state with
    runCount := state.runCount + 1
    runs := Function.update state.runs state.runCount .first }

def scan (index : ℕ) : Resend :=
  let run := state.runs index
  if run.outOfBalance then state.setRun index (run.flush run.chunkChannel .finish)
  else
    let page := resendPageOf state.source state.newBatchId run.lastId
    match page.getLast? with
    | none => state.setRun index (run.flush run.chunkChannel .finish)
    | some last =>
        state.setRun index { run with stage := .rows, page := page, lastId := last.id }

def commit (index : ℕ) : Resend :=
  let run := state.runs index
  { state with
    rows := state.rows ++ run.pending
    account :=
      state.account.map fun account => { account with balance := account.balance - run.charged } }

def charge (index : ℕ) (row : SourceRow) (channel : Channel) (answer : PricingAnswer) : Resend :=
  let run := state.runs index
  match answer with
  | .notFound => state.setRun index run.skip
  | .raises text => state.setRun index { run with stage := .handling text }
  | .priced quote =>
      match state.account with
      | none => state.setRun index { run with stage := .handling "'total_base_cost'" }
      | some account =>
          if account.paymentType = .prepaid ∧ account.balance - run.charged < quote.totalCost then
            state.setRun index { run.skip with outOfBalance := true }
          else
            { state.setRun index
                (run.addRow channel (resentRow row state.nextMessageId channel quote)) with
              nextMessageId := state.nextMessageId + 1 }

/-- The commit of `_flush_commit_chunk`. -/
def commitRows (index : ℕ) (channel : Channel) (next : AfterFlush) (outcome : CommitOutcome) :
    Resend :=
  let run := state.runs index
  match outcome with
  | .done => (state.commit index).setRun index (run.discard (.logging channel next))
  | .refused text => state.setRun index (run.discard (.handling text))
  | .unanswered text => (state.commit index).setRun index (run.discard (.handling text))

/-- The balance log of `_flush_commit_chunk`, which may fail. -/
def logBalance (index : ℕ) (channel : Channel) (next : AfterFlush) (succeeds : Bool) : Resend :=
  let run := state.runs index
  { state.setRun index { run with stage := .queueing channel next } with
    balanceLogs :=
      if 0 < run.chunkDeducted ∧ succeeds then
        state.balanceLogs ++
          [(-run.chunkDeducted,
            s!"Batch {state.newBatchId} charge: {run.commitBatch.length} SMS")]
      else state.balanceLogs }

/-- `_queue_commit_batch`, which hands over everything unless it raises an exception. -/
def queue (index : ℕ) (channel : Channel) (next : AfterFlush) (count : ℕ)
    (raised : Option String) : Resend :=
  let run := state.runs index
  let handed := if raised.isSome then run.commitBatch.take count else run.commitBatch
  { state.setRun index
      { run with
        stage :=
          match raised with
          | none => .annotating next
          | some text => .handling text } with
    handed := state.handed ++ handed.map fun row => (row.messageId, commitBatchRoute channel) }

def annotated (ids : List ℕ) : Resend :=
  { state with
    source := state.source.map fun row =>
      if row.id ∈ ids then row.annotate state.newBatchId else row }

/-- The end of `_flush`. -/
def annotate (index : ℕ) (next : AfterFlush) (outcome : CommitOutcome) : Resend :=
  let run := state.runs index
  match outcome with
  | .done => (state.annotated run.annotateIds).setRun index (run.flushed next)
  | .refused text => state.setRun index { run with stage := .handling text }
  | .unanswered text =>
      (state.annotated run.annotateIds).setRun index { run with stage := .handling text }

/-- The end of the task. The status is what the batch has after `update_batch_progress`. -/
def finish (index : ℕ) (status : BatchStatus) (raised : Option String) : Resend :=
  let run := state.runs index
  match raised with
  | some text => state.setRun index { run with stage := .handling text }
  | none =>
      { state.setRun index { run with stage := .ended } with
        totalCount := run.retried
        batchStatus :=
          if status = .completed ∨ status = .failed ∨ status = .cancelled then status
          else .processing
        errorMessage :=
          if run.outOfBalance then
            some (truncate 500 s!"账户余额不足，已重发 {run.retried} 条，跳过 {run.skipped} 条")
          else state.errorMessage }

def handle (index : ℕ) (text : String) (commits : Bool) : Resend :=
  let run := state.runs index
  if commits ∧ state.batchStatus ≠ .completed ∧ state.batchStatus ≠ .cancelled then
    { (state.commit index).setRun index (run.discard .ended) with
      errorMessage := some s!"重发任务异常: {truncate 400 text}" }
  else state.setRun index (run.discard .ended)

def next : ResendLabel → Option Resend
  | .start => some state.start
  | .scan index =>
      if (state.runs index).stage = .scanning then some (state.scan index) else none
  | .row index answer =>
      match (state.runs index).stage, (state.runs index).page with
      | .rows, [] => some (state.setRun index { state.runs index with stage := .scanning })
      | .rows, row :: rest =>
          some (state.setRun index ((state.runs index).takeRow unicode row rest answer))
      | _, _ => none
  | .charge index answer =>
      match (state.runs index).stage with
      | .charging row channel => some (state.charge index row channel answer)
      | _ => none
  | .commit index outcome =>
      match (state.runs index).stage with
      | .committing channel next => some (state.commitRows index channel next outcome)
      | _ => none
  | .log index succeeds =>
      match (state.runs index).stage with
      | .logging channel next => some (state.logBalance index channel next succeeds)
      | _ => none
  | .queue index count raised =>
      match (state.runs index).stage with
      | .queueing channel next => some (state.queue index channel next count raised)
      | _ => none
  | .annotate index outcome =>
      match (state.runs index).stage with
      | .annotating next => some (state.annotate index next outcome)
      | _ => none
  | .finish index status raised =>
      if (state.runs index).stage = .finishing then some (state.finish index status raised)
      else none
  | .handle index commits =>
      match (state.runs index).stage with
      | .handling text => some (state.handle index text commits)
      | _ => none
  | .raises index text =>
      match (state.runs index).stage with
      | .handling _ | .ended => none
      | _ => some (state.setRun index { state.runs index with stage := .handling text })
  | .kill index => some (state.setRun index ((state.runs index).discard .ended))
  | .others source account =>
      if (source.map SourceRow.id).Nodup then
        some { state with source := source, account := account }
      else none

def Step (before : Resend) (label : ResendLabel) (after : Resend) : Prop :=
  before.next unicode label = some after

inductive Performs (unicode : Unicode) (state : Resend) : ResendLabel → Resend → Prop where
  | start : Performs unicode state .start state.start
  | scan {index : ℕ} (scanning : (state.runs index).stage = .scanning) :
      Performs unicode state (.scan index) (state.scan index)
  | pageDone {index : ℕ} {answer : Option (Option Channel)}
      (inRows : (state.runs index).stage = .rows) (nothing : (state.runs index).page = []) :
      Performs unicode state (.row index answer)
        (state.setRun index { state.runs index with stage := .scanning })
  | row {index : ℕ} {row : SourceRow} {rest : List SourceRow} {answer : Option (Option Channel)}
      (inRows : (state.runs index).stage = .rows)
      (page : (state.runs index).page = row :: rest) :
      Performs unicode state (.row index answer)
        (state.setRun index ((state.runs index).takeRow unicode row rest answer))
  | charge {index : ℕ} {row : SourceRow} {channel : Channel} {answer : PricingAnswer}
      (charging : (state.runs index).stage = .charging row channel) :
      Performs unicode state (.charge index answer) (state.charge index row channel answer)
  | commit {index : ℕ} {channel : Channel} {next : AfterFlush} {outcome : CommitOutcome}
      (committing : (state.runs index).stage = .committing channel next) :
      Performs unicode state (.commit index outcome) (state.commitRows index channel next outcome)
  | log {index : ℕ} {channel : Channel} {next : AfterFlush} {succeeds : Bool}
      (logging : (state.runs index).stage = .logging channel next) :
      Performs unicode state (.log index succeeds) (state.logBalance index channel next succeeds)
  | queue {index count : ℕ} {channel : Channel} {next : AfterFlush} {raised : Option String}
      (queueing : (state.runs index).stage = .queueing channel next) :
      Performs unicode state (.queue index count raised)
        (state.queue index channel next count raised)
  | annotate {index : ℕ} {next : AfterFlush} {outcome : CommitOutcome}
      (annotating : (state.runs index).stage = .annotating next) :
      Performs unicode state (.annotate index outcome) (state.annotate index next outcome)
  | finish {index : ℕ} {status : BatchStatus} {raised : Option String}
      (finishing : (state.runs index).stage = .finishing) :
      Performs unicode state (.finish index status raised) (state.finish index status raised)
  | handle {index : ℕ} {text : String} {commits : Bool}
      (handling : (state.runs index).stage = .handling text) :
      Performs unicode state (.handle index commits) (state.handle index text commits)
  | raises {index : ℕ} {text : String}
      (unraised : ∀ other, (state.runs index).stage ≠ .handling other)
      (going : (state.runs index).stage ≠ .ended) :
      Performs unicode state (.raises index text)
        (state.setRun index { state.runs index with stage := .handling text })
  | kill (index : ℕ) :
      Performs unicode state (.kill index)
        (state.setRun index ((state.runs index).discard .ended))
  | others {source : List SourceRow} {account : Option Account}
      (keyed : (source.map SourceRow.id).Nodup) :
      Performs unicode state (.others source account)
        { state with source := source, account := account }

theorem performs_of_step {unicode : Unicode} {state after : Resend} {label : ResendLabel}
    (step : Step unicode state label after) : Performs unicode state label after := by
  unfold Step at step
  cases label with
  | start =>
      cases step
      exact .start
  | scan index =>
      simp only [next, Option.ite_none_right_eq_some, Option.some.injEq] at step
      obtain ⟨scanning, rfl⟩ := step
      exact .scan scanning
  | row index answer =>
      simp only [next] at step
      split at step
      · rename_i inRows nothing
        cases step
        exact .pageDone inRows nothing
      · rename_i inRows page
        cases step
        exact .row inRows page
      · cases step
  | finish index status raised =>
      simp only [next, Option.ite_none_right_eq_some, Option.some.injEq] at step
      obtain ⟨finishing, rfl⟩ := step
      exact .finish finishing
  | raises index text =>
      simp only [next] at step
      split at step
      · cases step
      · cases step
      · rename_i unraised going
        cases step
        exact .raises unraised going
  | kill index =>
      cases step
      exact .kill index
  | others source account =>
      simp only [next, Option.ite_none_right_eq_some, Option.some.injEq] at step
      obtain ⟨keyed, rfl⟩ := step
      exact .others keyed
  | charge index answer =>
      simp only [next] at step
      split at step
      · rename_i charging
        cases step
        exact .charge charging
      · cases step
  | commit index outcome =>
      simp only [next] at step
      split at step
      · rename_i committing
        cases step
        exact .commit committing
      · cases step
  | log index succeeds =>
      simp only [next] at step
      split at step
      · rename_i logging
        cases step
        exact .log logging
      · cases step
  | queue index count raised =>
      simp only [next] at step
      split at step
      · rename_i queueing
        cases step
        exact .queue queueing
      · cases step
  | annotate index outcome =>
      simp only [next] at step
      split at step
      · rename_i annotating
        cases step
        exact .annotate annotating
      · cases step
  | handle index commits =>
      simp only [next] at step
      split at step
      · rename_i handling
        cases step
        exact .handle handling
      · cases step

end Resend

end Klsmsc
