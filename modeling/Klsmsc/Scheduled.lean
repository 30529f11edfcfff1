import Klsmsc.Library.Runs
import Klsmsc.Library.Slices
import Klsmsc.Tables

/-!
# Scheduled batches

A batch with a send time is stored as pending, beside a file with its payload. A beat looks
for the batches that are due: `dispatch_scheduled_batches` claims each of them, reads its
file and publishes a task `process_batch_chunk` for every chunk of its numbers. A missing
file fails the batch; any other exception makes it pending again, to be dispatched by a
later beat.

Runs of the task work side by side. A step is what one run does between two points at which
another can come in: the scan, the claim of a batch, the file, each publish, and the update
in the exception handler. A run can be cut off everywhere. When it is cut off by its time
limit, the thread that publishes goes on by itself.
-/

namespace Klsmsc

open Library

/-- The keys of `send_config` that the task reads. -/
structure ScheduledConfig where
  isScheduled : Bool
  payloadFile : Option String
  chunkSize : Option ℤ
  deriving DecidableEq, Repr

/-- The columns of `sms_batches` that the task reads and writes. -/
structure ScheduledBatch where
  id : ℕ
  status : BatchStatus
  scheduledAt : Option ℕ
  isDeleted : Bool
  sendConfig : ScheduledConfig
  errorMessage : Option String
  deriving DecidableEq, Repr

structure ScheduledPayload where
  phones : List String
  message : String
  rotMessages : List String
  channelId : Option ℕ
  senderId : Option String
  accountId : ℕ
  deriving DecidableEq, Repr

inductive PayloadFile where
  | payload (content : ScheduledPayload)
  | broken
  deriving DecidableEq, Repr

/-- The arguments of `process_batch_chunk`, with its countdown in tenths of a second. -/
structure ChunkTask where
  batchId : ℕ
  accountId : ℕ
  chunk : List String
  message : String
  rotMessages : List String
  offset : ℕ
  channelId : Option ℕ
  senderId : Option String
  countdown : ℕ
  deriving DecidableEq, Repr

inductive DispatchError where
  | fileNotFound (text : String)
  | other
  deriving DecidableEq, Repr

/-- Where a run stands. After a cut-off only its thread may be left, which goes on with the
chunks of a batch. -/
inductive DispatchStage where
  | looping
  | reading (batch : ScheduledBatch)
  | publishing (batch : ScheduledBatch) (sent : ℕ) (rest : List ChunkTask)
  | orphaned (batch : ScheduledBatch) (rest : List ChunkTask)
  | failing (batch : ScheduledBatch) (text : String)
  | resetting (batch : ScheduledBatch)
  | ended
  deriving DecidableEq, Repr

/-- A run of `dispatch_scheduled_batches` and the numbers that it returns. -/
structure DispatchRun where
  due : List ScheduledBatch
  stage : DispatchStage
  scanned : ℕ
  dispatched : ℕ
  deriving DecidableEq, Repr

/-- The table, the files, the tasks that have reached the broker, and the runs. Ids from
`nextId` on have not been given out. -/
structure Scheduler where
  batches : List ScheduledBatch
  files : String → Option PayloadFile
  nextId : ℕ
  published : List ChunkTask
  runCount : ℕ
  runs : ℕ → DispatchRun

inductive DispatchLabel where
  | start (now : ℕ)
  | claim (run : ℕ)
  | read (run : ℕ) (raised : Option DispatchError)
  | publish (run : ℕ) (reaches : Bool) (raised : Option DispatchError)
  | finish (run : ℕ) (removes : Bool)
  | handle (run : ℕ)
  | timeout (run : ℕ)
  | kill (run : ℕ)
  | others (batches : List ScheduledBatch) (files : String → Option PayloadFile) (nextId : ℕ)

/-- `chunk_size`, if `send_config` has none. -/
def defaultChunkSize : ℤ := 2000

def scanLimit : ℕ := 20

/-- The tasks that `_enqueue_scheduled_chunks` publishes, unless `range` rejects its step. -/
def enqueueScheduledChunks (batchId : ℕ) (payload : ScheduledPayload) (chunkSize : ℤ) :
    Option (List ChunkTask) :=
  if chunkSize = 0 then none
  else if chunkSize < 0 then some []
  else
    some ((slices chunkSize.toNat payload.phones).zipIdx.map fun part =>
      { batchId := batchId
        accountId := payload.accountId
        chunk := part.1
        message := payload.message
        rotMessages := payload.rotMessages
        offset := part.2 * chunkSize.toNat
        channelId := payload.channelId
        senderId := payload.senderId
        countdown := part.2 })

def ScheduledBatch.isDue (batch : ScheduledBatch) (now : ℕ) : Bool :=
  batch.status = .pending && batch.scheduledAt.any (· ≤ now) && !batch.isDeleted

def dueBatches (batches : List ScheduledBatch) (now : ℕ) : List ScheduledBatch :=
  ((batches.filter fun batch => batch.isDue now).mergeSort fun first second =>
    first.scheduledAt.getD 0 ≤ second.scheduledAt.getD 0).take scanLimit

/-- `UPDATE sms_batches SET … WHERE id = batchId`. -/
def updateBatch (batchId : ℕ) (change : ScheduledBatch → ScheduledBatch)
    (batches : List ScheduledBatch) : List ScheduledBatch :=
  batches.map fun batch => if batch.id = batchId then change batch else batch

def hasPending (batchId : ℕ) (batches : List ScheduledBatch) : Bool :=
  batches.any fun batch => batch.id = batchId && batch.status = .pending

/-- The claim: `UPDATE … SET status = PROCESSING WHERE id = batchId AND status = PENDING`. -/
def claimBatch (batchId : ℕ) (batches : List ScheduledBatch) : List ScheduledBatch :=
  batches.map fun batch =>
    if batch.id = batchId ∧ batch.status = .pending then { batch with status := .processing }
    else batch

namespace Scheduler

variable (state : Scheduler)

def setRun (index : ℕ) (run : DispatchRun) : Scheduler :=
  { state with runs := Function.update state.runs index run }

def setStage (index : ℕ) (stage : DispatchStage) : Scheduler :=
  state.setRun index { state.runs index with stage := stage }

def start (now : ℕ) : Scheduler :=
  let due := dueBatches state.batches now
  { state with
    runCount := state.runCount + 1
    runs := Function.update state.runs state.runCount ⟨due, .looping, due.length, 0⟩ }

def claim (index : ℕ) (batch : ScheduledBatch) (due : List ScheduledBatch) : Scheduler :=
  let run := { state.runs index with due := due }
  if batch.sendConfig.isScheduled ∧ (batch.sendConfig.payloadFile.getD "") ≠ "" then
    if hasPending batch.id state.batches then
      { state.setRun index { run with stage := .reading batch } with
        batches := claimBatch batch.id state.batches }
    else state.setRun index run
  else state.setRun index run

def read (index : ℕ) (batch : ScheduledBatch) (raised : Option DispatchError) : Scheduler :=
  let path := batch.sendConfig.payloadFile.getD ""
  match state.files path, raised with
  | none, _ => state.setStage index (.failing batch s!"定时负载文件丢失: {path}")
  | some _, some (.fileNotFound text) => state.setStage index (.failing batch text)
  | some _, some .other => state.setStage index (.resetting batch)
  | some .broken, none => state.setStage index (.resetting batch)
  | some (.payload payload), none =>
      match enqueueScheduledChunks batch.id payload
          (batch.sendConfig.chunkSize.getD defaultChunkSize) with
      | none => state.setStage index (.resetting batch)
      | some tasks => state.setStage index (.publishing batch 0 tasks)

def reach (task : ChunkTask) (reaches : Bool) : Scheduler :=
  if reaches then { state with published := state.published ++ [task] } else state

/-- The stage of a run after one `apply_async`. -/
def afterPublish (batch : ScheduledBatch) (sent : ℕ) (rest : List ChunkTask) :
    Option DispatchError → DispatchStage
  | none => .publishing batch (sent + 1) rest
  | some (.fileNotFound text) => .failing batch text
  | some .other => .resetting batch

/-- One step. An `apply_async` that raises may have reached the broker all the same. -/
def next : DispatchLabel → Option Scheduler
  | .start now => some (state.start now)
  | .claim index =>
      match (state.runs index).stage, (state.runs index).due with
      | .looping, [] => some (state.setStage index .ended)
      | .looping, batch :: due => some (state.claim index batch due)
      | _, _ => none
  | .read index raised =>
      match (state.runs index).stage with
      | .reading batch => some (state.read index batch raised)
      | _ => none
  | .publish index reaches raised =>
      if reaches = false ∧ raised = none then none
      else
        match (state.runs index).stage with
        | .publishing batch sent (task :: rest) =>
            some ((state.reach task reaches).setStage index (afterPublish batch sent rest raised))
        | .orphaned batch (task :: rest) =>
            some ((state.reach task reaches).setStage index
              (if raised = none then .orphaned batch rest else .ended))
        | _ => none
  | .finish index removes =>
      match (state.runs index).stage with
      | .publishing batch _ [] =>
          let run := state.runs index
          some
            { state.setRun index { run with stage := .looping, dispatched := run.dispatched + 1 } with
              files := fun path =>
                if removes ∧ path = batch.sendConfig.payloadFile.getD "" then none
                else state.files path }
      | _ => none
  | .handle index =>
      match (state.runs index).stage with
      | .failing batch text =>
          some
            { state.setStage index .looping with
              batches := updateBatch batch.id
                (fun row =>
                  { row with status := .failed, errorMessage := some s!"定时派发失败：{text}" })
                state.batches }
      | .resetting batch =>
          some
            { state.setStage index .looping with
              batches := updateBatch batch.id (fun row => { row with status := .pending })
                state.batches }
      | _ => none
  | .timeout index =>
      match (state.runs index).stage with
      | .publishing batch _ rest => some (state.setStage index (.orphaned batch rest))
      | .orphaned _ _ => none
      | _ => some (state.setStage index .ended)
  | .kill index => some (state.setStage index .ended)
  | .others batches files nextId =>
      if state.nextId ≤ nextId ∧ ∀ batch ∈ batches, batch.id < nextId ∧
          (batch.status = .pending → batch.id < state.nextId →
            hasPending batch.id state.batches = true) then
        some { state with batches := batches, files := files, nextId := nextId }
      else none

def Step (before : Scheduler) (label : DispatchLabel) (after : Scheduler) : Prop :=
  before.next label = some after

end Scheduler

end Klsmsc
