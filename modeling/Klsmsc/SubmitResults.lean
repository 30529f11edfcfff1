import Klsmsc.Library.Runs
import Mathlib.Logic.Function.Basic

/-!
# The buffer of submit results

The results that the gateway sends back are collected in the memory of the worker processes and
written to `sms_logs` in batches: two hundred of them, or whatever there is a second after the
first. Before a result is buffered it goes to a Redis stream, the write-ahead log, from where
a process that starts replays what an earlier one has left. A flush takes a snapshot of the
buffer, writes it, removes what it has written from the buffer, and deletes it from the log.

Calls, timers, replays and flushes are threads of the processes, which share the stream and the
table; a step is what one thread does between two points at which another can come in. What a
result says is not modelled: a result is known by the call that brings it, and by its place among
the results that have come to the buffer. The table is kept as the list of the results that were committed. Redis
and the database can fail at every access, also after they have done their part.
-/

namespace Klsmsc

/-- A result that has come to the buffer. A missing `log_id` is 0. -/
structure SubmitResult where
  call : ℕ
  logId : ℕ
  position : ℕ
  deriving DecidableEq, Repr

/-- An element of `_SMS_RESULT_BUFFER` with its `_wal_id`. -/
structure BufferItem where
  result : SubmitResult
  walId : Option ℕ
  deriving DecidableEq, Repr

/-- An entry of the stream `sms_result_pending`. -/
structure WalEntry where
  id : ℕ
  call : ℕ
  logId : ℕ
  deriving DecidableEq, Repr

/-- Where a thread stands: in `_enqueue_sms_result_buffer` before and after its `XADD`, as a
timer that has been started, or in a flush. A flush writes its rows as a whole, a second time
after a deadlock, or one by one; then it removes and deletes those that were written. -/
inductive ResultStage where
  | logging (call logId : ℕ)
  | appending (call logId : ℕ) (walId : Option ℕ)
  | waiting
  | bulk (rows : List BufferItem) (isRetry : Bool)
  | writing (rows rest ok : List BufferItem)
  | deleting (rows ok : List BufferItem)
  | ended
  deriving DecidableEq, Repr

/-- A thread of a process, with the entries that it has still to replay, the number of results
that had come to the buffer when it took its snapshot, and the attempts that are left to the flush
of a process that shuts down. -/
structure ResultThread where
  process : ℕ
  stage : ResultStage
  pending : List WalEntry
  taken : ℕ
  attempts : Option ℕ
  deriving DecidableEq, Repr

/-- The outcome of `_flush_sms_results_bulk_once`. -/
inductive BulkOutcome where
  | ok
  | deadlock
  | failed
  deriving DecidableEq, Repr

structure ResultBuffers where
  handed : List SubmitResult
  callCount : ℕ
  buffers : ℕ → List BufferItem
  timers : ℕ → Option ℕ
  wal : List WalEntry
  nextWal : ℕ
  applied : List SubmitResult
  threadCount : ℕ
  threads : ℕ → ResultThread

inductive ResultLabel where
  | enqueue (process logId : ℕ)
  | xadd (thread : ℕ) (stores answers : Bool) (trimmed : ℕ)
  | append (thread : ℕ)
  | fire (thread : ℕ)
  | bulk (thread : ℕ) (commits : Bool) (outcome : BulkOutcome)
  | row (thread : ℕ) (commits answers : Bool)
  | remove (thread : ℕ)
  | delete (thread : ℕ) (reaches : Bool)
  | abort (thread : ℕ)
  | replay (process : ℕ)
  | replayNext (thread : ℕ)
  | shutdown (process : ℕ)
  | restart (process : ℕ)
  deriving DecidableEq, Repr

def flushSize : ℕ := 200

/-- `_SMS_RESULT_STREAM_MAXLEN`. -/
def streamMaxlen : ℕ := 10000

def replayCount : ℕ := 2000

def shutdownRetries : ℕ := 2

def ResultThread.done (process : ℕ) : ResultThread := ⟨process, .ended, [], 0, none⟩

/-- `flushed_ids`: the log ids of the rows that were written. -/
def flushedIds (ok : List BufferItem) : List ℕ :=
  (ok.map fun row => row.result.logId).filter (0 < ·)

/-- `_sms_result_remove_flushed_from_buffer`. -/
def removeFlushed (ok buffer : List BufferItem) : List BufferItem :=
  buffer.filter fun item => item.result.logId ∉ flushedIds ok

/-- `_wal_xdel_results`. -/
def xdelResults (ok : List BufferItem) (wal : List WalEntry) : List WalEntry :=
  wal.filter fun entry => some entry.id ∉ ok.map BufferItem.walId

namespace ResultBuffers

def initial : ResultBuffers where
  handed := []
  callCount := 0
  buffers _ := []
  timers _ := none
  wal := []
  nextWal := 0
  applied := []
  threadCount := 0
  threads _ := .done 0

variable (state : ResultBuffers)

def setThread (index : ℕ) (thread : ResultThread) : ResultBuffers :=
  { state with threads := Function.update state.threads index thread }

def setStage (index : ℕ) (stage : ResultStage) : ResultBuffers :=
  state.setThread index { state.threads index with stage := stage }

def spawn (thread : ResultThread) : ResultBuffers :=
  { state with
    threadCount := state.threadCount + 1
    threads := Function.update state.threads state.threadCount thread }

def setBuffer (process : ℕ) (buffer : List BufferItem) : ResultBuffers :=
  { state with buffers := Function.update state.buffers process buffer }

def setTimer (process : ℕ) (timer : Option ℕ) : ResultBuffers :=
  { state with timers := Function.update state.timers process timer }

def bufferOf (index : ℕ) : List BufferItem :=
  state.buffers (state.threads index).process

/-- A result is handed to `_enqueue_sms_result_buffer`. -/
def enqueue (process logId : ℕ) : ResultBuffers :=
  { state.spawn ⟨process, .logging state.callCount logId, [], 0, none⟩ with
    callCount := state.callCount + 1 }

/-- `_wal_xadd_result`. The stream may drop old entries, as long as it keeps its length. -/
def xadd (index call logId : ℕ) (stores answers : Bool) (trimmed : ℕ) : ResultBuffers :=
  let logged := state.setStage index
    (.appending call logId (if answers then some state.nextWal else none))
  if stores then
    { logged with
      wal := state.wal.drop trimmed ++ [⟨state.nextWal, call, logId⟩]
      nextWal := state.nextWal + 1 }
  else logged

def resultOf (call logId : ℕ) : SubmitResult :=
  (state.handed.find? fun result => result.call = call).getD ⟨call, logId, state.handed.length⟩

def handedWith (call logId : ℕ) : List SubmitResult :=
  if state.handed.any fun result => result.call = call then state.handed
  else state.handed ++ [{ call := call, logId := logId, position := state.handed.length }]

def cancelTimer : Option ℕ → ResultBuffers
  | none => state
  | some timer =>
      if (state.threads timer).stage = .waiting then state.setStage timer .ended else state

def pushResult (process call logId : ℕ) (walId : Option ℕ) : ResultBuffers :=
  { state.setBuffer process (state.buffers process ++ [⟨state.resultOf call logId, walId⟩]) with
    handed := state.handedWith call logId }

/-- The part of `_enqueue_sms_result_buffer` that holds the lock. -/
def append (index call logId : ℕ) (walId : Option ℕ) : ResultBuffers :=
  let thread := state.threads index
  let pushed := state.pushResult thread.process call logId walId
  let buffer := pushed.buffers thread.process
  if flushSize ≤ buffer.length then
    ((pushed.cancelTimer (state.timers thread.process)).setTimer thread.process none).setThread
      index
      { thread with
        stage := .bulk (buffer.take flushSize) false
        taken := pushed.handed.length
        attempts := none }
  else if (state.timers thread.process).isNone then
    ((pushed.setStage index .ended).spawn
      ⟨thread.process, .waiting, [], 0, none⟩).setTimer thread.process (some state.threadCount)
  else pushed.setStage index .ended

/-- The part of `_timer_flush_sms_results` that holds the lock. -/
def fire (index : ℕ) : ResultBuffers :=
  let thread := state.threads index
  let buffer := state.bufferOf index
  (state.setTimer thread.process none).setThread index
    { thread with
      stage := if buffer = [] then .ended else .bulk buffer false
      taken := state.handed.length }

/-- `_flush_sms_results_bulk_once` as a part of `_flush_sms_results_async`. -/
def bulk (index : ℕ) (rows : List BufferItem) (isRetry commits : Bool) (outcome : BulkOutcome) :
    ResultBuffers :=
  { state.setStage index
      (match outcome with
      | .ok => .writing rows [] rows
      | .deadlock => if isRetry then .writing rows rows [] else .bulk rows true
      | .failed => .writing rows rows []) with
    applied := if commits then state.applied ++ rows.map BufferItem.result else state.applied }

/-- One row of `_flush_sms_results_one_by_one`. -/
def row (index : ℕ) (rows : List BufferItem) (row : BufferItem) (rest ok : List BufferItem)
    (commits answers : Bool) : ResultBuffers :=
  if row.result.logId = 0 then state.setStage index (.writing rows rest ok)
  else
    { state.setStage index (.writing rows rest (if answers then ok ++ [row] else ok)) with
      applied := if commits then state.applied ++ [row.result] else state.applied }

def finish (index : ℕ) (rows ok : List BufferItem) : ResultBuffers :=
  let thread := state.threads index
  let remaining := rows.filter fun row =>
    row.result.logId ∉ ok.map fun written => written.result.logId
  match thread.attempts with
  | some (attempts + 1) =>
      if remaining = [] then state.setStage index .ended
      else
        state.setThread index
          { thread with stage := .bulk remaining false, attempts := some attempts }
  | _ => state.setStage index .ended

def next : ResultLabel → Option ResultBuffers
  | .enqueue process logId => some (state.enqueue process logId)
  | .xadd index stores answers trimmed =>
      match (state.threads index).stage with
      | .logging call logId =>
          if (answers = true → stores = true) ∧
              (trimmed = 0 ∨ trimmed + streamMaxlen ≤ state.wal.length + 1) then
            some (state.xadd index call logId stores answers trimmed)
          else none
      | _ => none
  | .append index =>
      match (state.threads index).stage with
      | .appending call logId walId => some (state.append index call logId walId)
      | _ => none
  | .fire index =>
      if (state.threads index).stage = .waiting then some (state.fire index) else none
  | .bulk index commits outcome =>
      match (state.threads index).stage with
      | .bulk rows isRetry =>
          if outcome = .ok → commits = true then
            some (state.bulk index rows isRetry commits outcome)
          else none
      | _ => none
  | .row index commits answers =>
      match (state.threads index).stage with
      | .writing rows (row :: rest) ok =>
          if answers = true → commits = true then
            some (state.row index rows row rest ok commits answers)
          else none
      | _ => none
  | .remove index =>
      match (state.threads index).stage with
      | .writing rows [] ok =>
          some
            (if (state.threads index).attempts = none then
              (state.setBuffer (state.threads index).process
                (removeFlushed ok (state.bufferOf index))).setStage index (.deleting rows ok)
            else state.setStage index (.deleting rows ok))
      | _ => none
  | .delete index reaches =>
      match (state.threads index).stage with
      | .deleting rows ok =>
          some
            { state.finish index rows ok with
              wal := if reaches then xdelResults ok state.wal else state.wal }
      | _ => none
  | .abort index =>
      if (state.threads index).stage = .waiting then none
      else some (state.setStage index .ended)
  | .replay process =>
      some (state.spawn ⟨process, .ended, state.wal.take replayCount, 0, none⟩)
  | .replayNext index =>
      match (state.threads index).stage, (state.threads index).pending with
      | .ended, entry :: rest =>
          some (state.setThread index
            { state.threads index with
              stage := .appending entry.call entry.logId (some entry.id)
              pending := rest
              attempts := none })
      | _, _ => none
  | .shutdown process =>
      let buffer := state.buffers process
      some ((state.setBuffer process []).spawn
        { process := process
          stage := if buffer = [] then .ended else .bulk buffer false
          pending := []
          taken := state.handed.length
          attempts := some shutdownRetries })
  | .restart process =>
      some
        { (state.setBuffer process []).setTimer process none with
          threads := fun index =>
            if (state.threads index).process = process then .done process
            else state.threads index }

def Step (before : ResultBuffers) (label : ResultLabel) (after : ResultBuffers) : Prop :=
  before.next label = some after

inductive Performs (state : ResultBuffers) : ResultLabel → ResultBuffers → Prop where
  | enqueue (process logId : ℕ) :
      Performs state (.enqueue process logId) (state.enqueue process logId)
  | xadd {index call logId trimmed : ℕ} {stores answers : Bool}
      (logging : (state.threads index).stage = .logging call logId)
      (stored : answers = true → stores = true)
      (dropped : trimmed = 0 ∨ trimmed + streamMaxlen ≤ state.wal.length + 1) :
      Performs state (.xadd index stores answers trimmed)
        (state.xadd index call logId stores answers trimmed)
  | append {index call logId : ℕ} {walId : Option ℕ}
      (appending : (state.threads index).stage = .appending call logId walId) :
      Performs state (.append index) (state.append index call logId walId)
  | fire {index : ℕ} (waiting : (state.threads index).stage = .waiting) :
      Performs state (.fire index) (state.fire index)
  | bulk {index : ℕ} {rows : List BufferItem} {isRetry commits : Bool} {outcome : BulkOutcome}
      (isBulk : (state.threads index).stage = .bulk rows isRetry)
      (committed : outcome = .ok → commits = true) :
      Performs state (.bulk index commits outcome) (state.bulk index rows isRetry commits outcome)
  | row {index : ℕ} {rows rest ok : List BufferItem} {row : BufferItem} {commits answers : Bool}
      (writing : (state.threads index).stage = .writing rows (row :: rest) ok)
      (committed : answers = true → commits = true) :
      Performs state (.row index commits answers)
        (state.row index rows row rest ok commits answers)
  | remove {index : ℕ} {rows ok : List BufferItem}
      (writing : (state.threads index).stage = .writing rows [] ok)
      (isFlush : (state.threads index).attempts = none) :
      Performs state (.remove index)
        ((state.setBuffer (state.threads index).process
          (removeFlushed ok (state.bufferOf index))).setStage index (.deleting rows ok))
  | removeNothing {index : ℕ} {rows ok : List BufferItem}
      (writing : (state.threads index).stage = .writing rows [] ok)
      (isShutdown : (state.threads index).attempts ≠ none) :
      Performs state (.remove index) (state.setStage index (.deleting rows ok))
  | delete {index : ℕ} {rows ok : List BufferItem} {reaches : Bool}
      (deleting : (state.threads index).stage = .deleting rows ok) :
      Performs state (.delete index reaches)
        { state.finish index rows ok with
          wal := if reaches then xdelResults ok state.wal else state.wal }
  | abort {index : ℕ} (running : (state.threads index).stage ≠ .waiting) :
      Performs state (.abort index) (state.setStage index .ended)
  | replay (process : ℕ) :
      Performs state (.replay process)
        (state.spawn ⟨process, .ended, state.wal.take replayCount, 0, none⟩)
  | replayNext {index : ℕ} {entry : WalEntry} {rest : List WalEntry}
      (isEnded : (state.threads index).stage = .ended)
      (pending : (state.threads index).pending = entry :: rest) :
      Performs state (.replayNext index)
        (state.setThread index
          { state.threads index with
            stage := .appending entry.call entry.logId (some entry.id)
            pending := rest
            attempts := none })
  | shutdown (process : ℕ) :
      Performs state (.shutdown process)
        ((state.setBuffer process []).spawn
          { process := process
            stage := if state.buffers process = [] then .ended
              else .bulk (state.buffers process) false
            pending := []
            taken := state.handed.length
            attempts := some shutdownRetries })
  | restart (process : ℕ) :
      Performs state (.restart process)
        { (state.setBuffer process []).setTimer process none with
          threads := fun index =>
            if (state.threads index).process = process then .done process
            else state.threads index }

theorem performs_of_next {state after : ResultBuffers} {label : ResultLabel}
    (step : state.next label = some after) : state.Performs label after := by
  cases label with
  | enqueue process logId =>
      cases step
      exact .enqueue process logId
  | xadd index stores answers trimmed =>
      simp only [next] at step
      split at step
      · rename_i logging
        simp only [Option.ite_none_right_eq_some, Option.some.injEq] at step
        obtain ⟨⟨stored, dropped⟩, rfl⟩ := step
        exact .xadd logging stored dropped
      · cases step
  | append index =>
      simp only [next] at step
      split at step
      · rename_i appending
        cases step
        exact .append appending
      · cases step
  | fire index =>
      simp only [next, Option.ite_none_right_eq_some, Option.some.injEq] at step
      obtain ⟨waiting, rfl⟩ := step
      exact .fire waiting
  | bulk index commits outcome =>
      simp only [next] at step
      split at step
      · rename_i isBulk
        simp only [Option.ite_none_right_eq_some, Option.some.injEq] at step
        obtain ⟨committed, rfl⟩ := step
        exact .bulk isBulk committed
      · cases step
  | row index commits answers =>
      simp only [next] at step
      split at step
      · rename_i writing
        simp only [Option.ite_none_right_eq_some, Option.some.injEq] at step
        obtain ⟨committed, rfl⟩ := step
        exact .row writing committed
      · cases step
  | remove index =>
      simp only [next] at step
      split at step
      · rename_i writing
        cases step
        split
        · rename_i isFlush
          exact .remove writing isFlush
        · rename_i isShutdown
          exact .removeNothing writing isShutdown
      · cases step
  | delete index reaches =>
      simp only [next] at step
      split at step
      · rename_i deleting
        cases step
        exact .delete deleting
      · cases step
  | abort index =>
      simp only [next, Option.ite_none_left_eq_some, Option.some.injEq] at step
      obtain ⟨running, rfl⟩ := step
      exact .abort running
  | replay process =>
      cases step
      exact .replay process
  | replayNext index =>
      simp only [next] at step
      split at step
      · rename_i isEnded pending
        cases step
        exact .replayNext isEnded pending
      · cases step
  | shutdown process =>
      cases step
      exact .shutdown process
  | restart process =>
      cases step
      exact .restart process

end ResultBuffers

end Klsmsc
