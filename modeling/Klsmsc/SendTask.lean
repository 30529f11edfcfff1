import Klsmsc.Library.Runs
import Klsmsc.Tables

/-!
# The send task

`_send_sms_async` for one row of `sms_logs`, statement by statement: any number
of tasks work on the row, each with its own session, and every query and every
commit is a step of its own. Between two steps of a task any other task can
move. What a query on another table answers comes with the step.

A task keeps the row as it loaded it. A commit writes the columns in which the
object in memory differs from what was loaded or last committed, whatever the
table holds by then, which is how the session flushes a changed object. A task
that is lost at some point or ends in an exception is delivered again and
starts from the beginning.
-/

namespace Klsmsc

open Library

/-- `status in ("pending", "queued")`. -/
def SmsStatus.isUnsent : SmsStatus → Bool
  | .pending => true
  | .queued => true
  | _ => false

structure Orm where
  loaded : SmsLog
  memory : SmsLog
  deriving DecidableEq, Repr

namespace Orm

def load (row : SmsLog) : Orm := ⟨row, row⟩

def committed (orm : Orm) : Orm := ⟨orm.memory, orm.memory⟩

def assign (orm : Orm) (update : SmsLog → SmsLog) : Orm :=
  { orm with memory := update orm.memory }

/-- The object with `status = 'failed'` and an error message. -/
def fail (orm : Orm) (error : String) : Orm :=
  orm.assign fun row => { row with status := .failed, errorMessage := some error }

def flush (orm : Orm) (row : SmsLog) : SmsLog :=
  { row with
    channelId :=
      if orm.memory.channelId = orm.loaded.channelId then row.channelId
      else orm.memory.channelId
    message := if orm.memory.message = orm.loaded.message then row.message else orm.memory.message
    status := if orm.memory.status = orm.loaded.status then row.status else orm.memory.status
    sentTime :=
      if orm.memory.sentTime = orm.loaded.sentTime then row.sentTime else orm.memory.sentTime
    errorMessage :=
      if orm.memory.errorMessage = orm.loaded.errorMessage then row.errorMessage
      else orm.memory.errorMessage
    upstreamMessageId :=
      if orm.memory.upstreamMessageId = orm.loaded.upstreamMessageId then row.upstreamMessageId
      else orm.memory.upstreamMessageId }

end Orm

/-- What an adapter returns, with the attributes it has assigned: an upstream id
when it assigns one, or an error message. -/
inductive AdapterAnswer where
  | success (upstreamMessageId : Option (Option String))
  | failure (error : Option String)
  | retry (error : String)
  deriving DecidableEq, Repr

/-- Where a task stands in `_send_sms_async`. The stage `failing` is that of
`_mark_failed` between its query and its commit. -/
inductive SendStage where
  | waiting
  | loaded (orm : Orm)
  | licensed (orm : Orm)
  | checked (orm : Orm)
  | cleared (orm : Orm)
  | routed (orm : Orm) (channel : Channel)
  | linked (orm : Orm) (channel : Channel)
  | ready (orm : Orm) (channel : Channel)
  | claimed (orm : Orm) (channel : Channel)
  | answered (orm : Orm) (channel : Channel) (answer : AdapterAnswer)
  | failing (orm : Orm)
  | done
  deriving DecidableEq, Repr

/-- The next statement of a task, with what it is told: the reason why the
licence is refused, the status of the batch, whether the number is blacklisted,
the channel, the text with short links, whether there is a send slot and whether
the task runs on the gateway's queue, the time, and the adapter's answer. -/
inductive SendEvent where
  | load
  | license (refusal : Option String)
  | batch (status : Option BatchStatus)
  | blacklist (isListed : Bool)
  | route (channel : Option Channel)
  | shortLink (message : Option String)
  | slot (isAllowed onSmppQueue : Bool)
  | claim (now : ℕ)
  | submit (answer : AdapterAnswer)
  | settle
  | giveUp (error : String)
  | redeliver
  deriving DecidableEq, Repr

/-- The checks on the status of the batch and of the row, in their order: the
next stage, and the object to commit. -/
def checkStatus (orm : Orm) (batchStatus : Option BatchStatus) : SendStage × Option Orm :=
  if batchStatus = some .cancelled ∧ orm.memory.status.isUnsent then
    (.done, some (orm.fail "批次已取消"))
  else if batchStatus = some .paused ∧ orm.memory.status.isUnsent then (.done, none)
  else if orm.memory.status.isUnsent then (.checked orm, none)
  else (.done, none)

def settleAnswer (orm : Orm) : AdapterAnswer → SendStage × Option Orm
  | .success assigned =>
      (.done, some (orm.assign fun row =>
        { row with upstreamMessageId := assigned.getD row.upstreamMessageId }))
  | .failure error =>
      (.done, some (orm.assign fun row =>
        { row with
          status := .failed
          errorMessage := ((error.orElse fun _ => row.errorMessage).filter (· ≠ "")).orElse
            fun _ => some "Send failed" }))
  | .retry error =>
      (.waiting, some (orm.assign fun row =>
        { row with status := .queued, errorMessage := some error }))

/-- One statement of `_send_sms_async` on the row as the table holds it: the next
stage, and the object that is committed. -/
def sendTurn (row : SmsLog) : SendStage → SendEvent → Option (SendStage × Option Orm)
  | .waiting, .load => some (.loaded (.load row), none)
  | .loaded orm, .license none => some (.licensed orm, none)
  | .loaded orm, .license (some reason) => some (.done, some (orm.fail ("软件授权无效:" ++ reason)))
  | .licensed orm, .batch status => some (checkStatus orm status)
  | .checked orm, .blacklist isListed =>
      if isListed then some (.done, some (orm.fail "号码已列入黑名单"))
      else some (.cleared orm, none)
  | .cleared orm, .route none => some (.done, some (orm.fail "No available channel"))
  | .cleared orm, .route (some channel) =>
      some (.routed (orm.assign fun row => { row with channelId := some channel.id }) channel,
        none)
  | .routed orm channel, .shortLink none => some (.linked orm channel, none)
  | .routed orm channel, .shortLink (some message) =>
      let replaced := orm.assign fun row => { row with message := message }
      some (.linked replaced.committed channel, some replaced)
  | .linked orm channel, .slot isAllowed onSmppQueue =>
      if channel.protocol = .smpp ∧ onSmppQueue = false then
        some (.done,
          if orm.memory.status = .pending then
            some (orm.assign fun row => { row with status := .queued })
          else none)
      else if channel.protocol ≠ .virtual ∧ isAllowed = false then some (.waiting, none)
      else some (.ready orm channel, none)
  | .ready orm channel, .claim now =>
      let sent := orm.assign fun row => { row with status := .sent, sentTime := some now }
      some (.claimed sent.committed channel, some sent)
  | .claimed orm channel, .submit answer =>
      if channel.protocol = .smpp then some (.done, none)
      else some (.answered orm channel answer, none)
  | .answered orm _ answer, .settle => some (settleAnswer orm answer)
  | .waiting, .giveUp error => some (.failing ((Orm.load row).fail error), none)
  | .failing orm, .settle => some (.done, some orm)
  | _, .redeliver => some (.waiting, none)
  | _, _ => none

/-- The row, where its tasks stand, and how often `_send_via_http` or
`_send_via_rcs` was called for it since it was last put back to `queued` after a
retryable error. -/
structure SendState where
  row : SmsLog
  stages : ℕ → SendStage
  submissions : ℕ

def countSubmissions (stage : SendStage) (event : SendEvent) (submissions : ℕ) : ℕ :=
  match stage, event with
  | .claimed _ channel, .submit _ =>
      if channel.protocol = .http then submissions + 1 else submissions
  | .answered _ _ (.retry _), .settle => 0
  | _, _ => submissions

structure SendLabel where
  task : ℕ
  event : SendEvent
  deriving DecidableEq, Repr

/-- The row after a statement that commits `flushed`. -/
def SmsLog.afterCommit (row : SmsLog) : Option Orm → SmsLog
  | none => row
  | some orm => orm.flush row

def SendState.next (state : SendState) (label : SendLabel) : Option SendState :=
  (sendTurn state.row (state.stages label.task) label.event).map fun turn =>
    { row := state.row.afterCommit turn.2
      stages := Function.update state.stages label.task turn.1
      submissions :=
        countSubmissions (state.stages label.task) label.event state.submissions }

def SendStep (before : SendState) (label : SendLabel) (after : SendState) : Prop :=
  before.next label = some after

def SendState.start (row : SmsLog) : SendState where
  row := row
  stages _ := .waiting
  submissions := 0

end Klsmsc
