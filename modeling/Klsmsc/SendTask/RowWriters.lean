import Klsmsc.SendTask
import Klsmsc.Text
import Mathlib.Data.List.Induction

/-!
# The writers of one row

Besides the send tasks, a row of `sms_logs` is written by the result of its
submission, by the replay of such results at the start of a worker process, by
the timeout expiry and by the reports. Each of them goes by its own view of the
row: a result is written whatever the row holds, the replay repeats results of
any age, the expiry writes to ids that it has selected in an earlier statement,
and a send task writes what it has changed in its own copy.

Results of other rows are left out of the buffers and of the stream.
-/

namespace Klsmsc

open Library

/-- The item of `process_sms_result_task` for the row. -/
structure SmsResult where
  status : Option SmsStatus
  upstreamMessageId : String
  error : String
  deriving DecidableEq, Repr

/-- An item in the buffer of a process, with its `_wal_id`. -/
structure BufferedResult where
  result : SmsResult
  walId : Option ℕ
  deriving DecidableEq, Repr

def SmsResult.writtenStatus (result : SmsResult) : SmsStatus :=
  result.status.getD .failed

def SmsResult.writtenUpstreamId (unicode : Unicode) (result : SmsResult) : Option String :=
  if strip unicode result.upstreamMessageId = "" then none
  else some (strip unicode result.upstreamMessageId)

/-- `_apply_sms_result_row_to_db`. -/
def applySmsResultRow (unicode : Unicode) (now : ℕ) (row : SmsLog) (result : SmsResult) :
    SmsLog :=
  let status := result.writtenStatus
  { row with
    status := status
    upstreamMessageId := result.writtenUpstreamId unicode
    errorMessage :=
      if status = .failed then some (truncate 4000 result.error)
      else if status = .sent then none
      else row.errorMessage
    sentTime := if status = .failed ∨ status = .sent then some now else row.sentTime }

/-- The conditions that `_expire_in_chunks` is called with: no final report
since the cutoff, or no response to the submission since the cutoff. -/
inductive Expiry where
  | noReport (cutoff hours : ℕ)
  | noSubmitResp (cutoff : ℕ)
  deriving DecidableEq, Repr

def Expiry.selects (expiry : Expiry) (row : SmsLog) : Bool :=
  match expiry with
  | noReport cutoff _ => row.status = .sent ∧ row.sentTime.any (· < cutoff)
  | noSubmitResp cutoff =>
      row.status.isUnsent ∧ row.sentTime = none ∧ row.submitTime.any (· < cutoff)

def Expiry.message : Expiry → String
  | noReport _ hours => "DLR 超时: 超过" ++ toString hours ++ "小时未收到终态回执"
  | noSubmitResp _ => "SMPP SubmitSMResp丢失: 会话断连或消费超时，超时标记"

/-- The row with its send tasks, the buffers of the worker processes, the stream
`sms_result_pending`, and the expiry runs that have selected the row. -/
structure WriterState where
  send : SendState
  buffers : ℕ → List BufferedResult
  stream : List (ℕ × SmsResult)
  selected : ℕ → Option Expiry

inductive WriterEvent where
  | send (label : SendLabel)
  | delivered (upstreamMessageId : Option String) (now : ℕ)
  | enqueue (process : ℕ) (result : SmsResult) (walId : Option ℕ)
  | flush (process offset count now : ℕ)
  | removeFlushed (process count : ℕ) (isDeleted : Bool)
  | lose (process : ℕ)
  | replay (process count : ℕ)
  | select (run : ℕ) (expiry : Expiry)
  | expire (run : ℕ)
  deriving DecidableEq, Repr

namespace WriterState

def row (state : WriterState) : SmsLog := state.send.row

def setRow (state : WriterState) (row : SmsLog) : WriterState :=
  { state with send := { state.send with row := row } }

def snapshot (state : WriterState) (process offset count : ℕ) : List SmsResult :=
  (((state.buffers process).drop offset).take count).map BufferedResult.result

/-- The state after an event. A report that stores `delivered` can bring the
upstream id along. The entries of a flushed snapshot leave the buffer together
with all other entries of the row, and the stream if `XDEL` succeeds. -/
def next (unicode : Unicode) (state : WriterState) : WriterEvent → Option WriterState
  | .send label => (state.send.next label).map fun send => { state with send := send }
  | .delivered upstreamMessageId now =>
      some (state.setRow
        { state.row with
          status := .delivered
          deliveryTime := some now
          errorMessage := none
          upstreamMessageId :=
            (upstreamMessageId.filter (· ≠ "")).orElse fun _ => state.row.upstreamMessageId })
  | .enqueue process result walId =>
      some
        { state with
          buffers := Function.update state.buffers process
            (state.buffers process ++ [⟨result, walId⟩])
          stream := state.stream ++ walId.toList.map (·, result) }
  | .flush process offset count now =>
      some (state.setRow
        ((state.snapshot process offset count).foldl (applySmsResultRow unicode now) state.row))
  | .removeFlushed process count isDeleted =>
      let flushed := (state.buffers process).take count
      some
        { state with
          buffers :=
            if flushed.isEmpty then state.buffers
            else Function.update state.buffers process []
          stream :=
            if isDeleted then
              state.stream.filter fun entry =>
                !flushed.any fun buffered => buffered.walId = some entry.1
            else state.stream }
  | .lose process => some { state with buffers := Function.update state.buffers process [] }
  | .replay process count =>
      some
        { state with
          buffers := Function.update state.buffers process
            (state.buffers process ++
              (state.stream.take count).map fun entry => ⟨entry.2, some entry.1⟩) }
  | .select run expiry =>
      if expiry.selects state.row then
        some { state with selected := Function.update state.selected run (some expiry) }
      else none
  | .expire run =>
      (state.selected run).map fun expiry =>
        { state.setRow
            { state.row with status := .expired, errorMessage := some expiry.message } with
          selected := Function.update state.selected run none }

end WriterState

def WriterStep (unicode : Unicode) (before : WriterState) (event : WriterEvent)
    (after : WriterState) : Prop :=
  before.next unicode event = some after

def SmsLog.hasUpstreamId (row : SmsLog) : Prop :=
  row.upstreamMessageId.getD "" ≠ ""

def RowKept (before after : SmsLog) : Prop :=
  (before.status = .delivered → after.status = .delivered) ∧
    (before.hasUpstreamId → after.hasUpstreamId)

instance (row : SmsLog) : Decidable row.hasUpstreamId := by
  unfold SmsLog.hasUpstreamId
  infer_instance

instance (before after : SmsLog) : Decidable (RowKept before after) := by
  unfold RowKept
  infer_instance

/-- A commit of a send task changes the status to one that is not `delivered`. -/
def Orm.OverwritesStatus (orm : Orm) : Prop :=
  orm.memory.status ≠ orm.loaded.status ∧ orm.memory.status ≠ .delivered

def Orm.RemovesUpstreamId (orm : Orm) : Prop :=
  orm.memory.upstreamMessageId ≠ orm.loaded.upstreamMessageId ∧ ¬orm.memory.hasUpstreamId

/-- No writer is about to overwrite `delivered` or to remove an upstream id. A
result that is flushed last says `delivered` and has an upstream id if the row
does. The row that an expiry has selected is not delivered by now. A send task
has no other status, and no missing upstream id, to write over them. -/
def GuardedWrite (unicode : Unicode) (state : WriterState) : WriterEvent → Prop
  | .send label => ∀ stage orm,
      sendTurn state.row (state.send.stages label.task) label.event = some (stage, some orm) →
        (state.row.status = .delivered → ¬orm.OverwritesStatus) ∧
          (state.row.hasUpstreamId → ¬orm.RemovesUpstreamId)
  | .flush process offset count _ =>
      ∀ result ∈ (state.snapshot process offset count).getLast?,
        (state.row.status = .delivered → result.writtenStatus = .delivered) ∧
          (state.row.hasUpstreamId → strip unicode result.upstreamMessageId ≠ "")
  | .expire _ => state.row.status ≠ .delivered
  | _ => True

section

variable {unicode : Unicode}

theorem RowKept.refl (row : SmsLog) : RowKept row row :=
  ⟨id, id⟩

theorem rowKept_flush_iff (orm : Orm) (row : SmsLog) :
    RowKept row (orm.flush row) ↔
      (row.status = .delivered → ¬orm.OverwritesStatus) ∧
        (row.hasUpstreamId → ¬orm.RemovesUpstreamId) := by
  have status : (row.status = .delivered → (orm.flush row).status = .delivered) ↔
      (row.status = .delivered → ¬orm.OverwritesStatus) := by
    simp only [Orm.flush, Orm.OverwritesStatus]
    by_cases same : orm.memory.status = orm.loaded.status
    · simp [same]
    · simp [same]
  have upstream : (row.hasUpstreamId → (orm.flush row).hasUpstreamId) ↔
      (row.hasUpstreamId → ¬orm.RemovesUpstreamId) := by
    simp only [Orm.flush, Orm.RemovesUpstreamId, SmsLog.hasUpstreamId]
    by_cases same : orm.memory.upstreamMessageId = orm.loaded.upstreamMessageId
    · simp [same]
    · simp [same]
  unfold RowKept
  rw [status, upstream]

theorem foldl_applySmsResultRow (now : ℕ) (row : SmsLog) (results : List SmsResult) :
    (results.foldl (applySmsResultRow unicode now) row).status =
        (results.getLast?.map SmsResult.writtenStatus).getD row.status ∧
      (results.foldl (applySmsResultRow unicode now) row).upstreamMessageId =
        (results.getLast?.map (SmsResult.writtenUpstreamId unicode)).getD
          row.upstreamMessageId := by
  cases results using List.reverseRecOn with
  | nil => simp
  | append_singleton results result =>
      simp [List.foldl_append, applySmsResultRow]

theorem hasUpstreamId_written (result : SmsResult) :
    (result.writtenUpstreamId unicode).getD "" ≠ "" ↔
      strip unicode result.upstreamMessageId ≠ "" := by
  unfold SmsResult.writtenUpstreamId
  split
  · rename_i empty
    simp [empty]
  · simp

theorem rowKept_results_iff (now : ℕ) (row : SmsLog) (results : List SmsResult) :
    RowKept row (results.foldl (applySmsResultRow unicode now) row) ↔
      ∀ result ∈ results.getLast?,
        (row.status = .delivered → result.writtenStatus = .delivered) ∧
          (row.hasUpstreamId → strip unicode result.upstreamMessageId ≠ "") := by
  rcases @foldl_applySmsResultRow unicode now row results with ⟨status, upstream⟩
  unfold RowKept SmsLog.hasUpstreamId
  rw [status, upstream]
  cases results.getLast? with
  | none => simp
  | some result =>
      simp only [Option.map_some, Option.getD_some, Option.mem_some_iff, forall_eq']
      rw [hasUpstreamId_written]

theorem WriterStep.rowKept_iff {before after : WriterState} {event : WriterEvent}
    (step : WriterStep unicode before event after) :
    RowKept before.row after.row ↔ GuardedWrite unicode before event := by
  cases event with
  | send label =>
      rcases Option.map_eq_some_iff.mp step with ⟨send, stepped, rfl⟩
      rcases Option.map_eq_some_iff.mp stepped with ⟨⟨stage, flushed⟩, turn, rfl⟩
      simp only [WriterState.row] at turn ⊢
      cases flushed with
      | none => simp [GuardedWrite, WriterState.row, turn, SmsLog.afterCommit, RowKept.refl]
      | some orm =>
          simp only [SmsLog.afterCommit, rowKept_flush_iff, GuardedWrite, WriterState.row, turn,
            Option.some.injEq, Prod.mk.injEq, and_imp]
          constructor
          · rintro kept _ _ _ rfl
            exact kept
          · intro guarded
            exact guarded stage orm rfl rfl
  | delivered upstreamMessageId now =>
      cases step
      refine iff_of_true ⟨fun _ => rfl, ?_⟩ trivial
      simp only [SmsLog.hasUpstreamId, WriterState.row, WriterState.setRow]
      cases given : upstreamMessageId.filter (· ≠ "") with
      | none => simp
      | some upstreamId =>
          have nonempty := (Option.filter_eq_some_iff.mp given).2
          simpa using fun _ => nonempty
  | enqueue process result walId =>
      cases step
      exact iff_of_true (.refl _) trivial
  | flush process offset count now =>
      cases step
      exact rowKept_results_iff now before.row (before.snapshot process offset count)
  | removeFlushed process count isDeleted =>
      cases step
      exact iff_of_true (.refl _) trivial
  | lose process =>
      cases step
      exact iff_of_true (.refl _) trivial
  | replay process count =>
      cases step
      exact iff_of_true (.refl _) trivial
  | select run expiry =>
      unfold WriterStep WriterState.next at step
      simp only at step
      split at step
      · cases step
        exact iff_of_true (.refl _) trivial
      · cases step
  | expire run =>
      rcases Option.map_eq_some_iff.mp step with ⟨expiry, _, rfl⟩
      simp [RowKept, GuardedWrite, WriterState.row, WriterState.setRow, SmsLog.hasUpstreamId]

end

def submittedSmsLog : SmsLog where
  id := 1
  messageId := 1
  upstreamMessageId := none
  accountId := 1
  channelId := some 7
  batchId := none
  phoneNumber := "+8613800138000"
  countryCode := some "CN"
  senderId := none
  message := "hello"
  messageCount := 1
  status := .queued
  costPrice := some 10
  sellingPrice := some 30
  currency := "USD"
  submitTime := some 1
  sentTime := none
  deliveryTime := none
  errorMessage := none
  refundedAt := none
  refundedBy := none
  refundedAmount := none

def submittedState : WriterState where
  send := .start submittedSmsLog
  buffers _ := []
  stream := []
  selected _ := none

/-- The result of the submission is logged and flushed by process 0, whose `XDEL`
gets lost, and the row is delivered. -/
def untilDelivered : List WriterEvent :=
  [.enqueue 0 ⟨some .sent, "abc", ""⟩ (some 1), .flush 0 0 1 2, .removeFlushed 0 1 false,
    .delivered (some "abc") 3]

end Klsmsc
