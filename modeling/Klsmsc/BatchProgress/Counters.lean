import Klsmsc.BatchProgress.FixedPoint

/-!
# The counters of a batch

What the row of a batch says after `update_batch_progress`, compared with the messages of the
batch, and with what the list of batches shows.
-/

namespace Klsmsc

open Library

variable {unicode : Unicode}

def Db.rowsWith (db : Db) (batchId : ℕ) (statuses : List SmsStatus) : ℕ :=
  (db.batchLogs batchId).countP fun row => row.status ∈ statuses

theorem countP_status_pair {first second : SmsStatus} (different : first ≠ second)
    (rows : List SmsLog) :
    rows.countP (fun row => row.status ∈ [first, second]) =
      rows.countP (fun row => row.status = first) +
        rows.countP (fun row => row.status = second) := by
  induction rows with
  | nil => rfl
  | cons row rows ih =>
      simp only [List.countP_cons, ih]
      by_cases isFirst : row.status = first
      · have notSecond : row.status ≠ second := by
          rw [isFirst]
          exact different
        simp [isFirst, different]
        omega
      · by_cases isSecond : row.status = second
        · simp [isSecond, different.symm]
          omega
        · simp [isFirst, isSecond]

section Rows

variable (db : Db) (batchId : ℕ)

theorem batchCounts_sent :
    (batchCounts db batchId).sent = db.rowsWith batchId [.sent, .delivered] := by
  rw [Db.rowsWith, countP_status_pair (by decide)]
  rfl

theorem batchCounts_failed :
    (batchCounts db batchId).failed = db.rowsWith batchId [.failed, .expired] := by
  rw [Db.rowsWith, countP_status_pair (by decide)]
  rfl

theorem batchCounts_pending :
    (batchCounts db batchId).pending = db.rowsWith batchId [.pending, .queued] := by
  rw [Db.rowsWith, countP_status_pair (by decide)]
  rfl

end Rows

structure CountersRight (db : Db) (batchId : ℕ) (batch : SmsBatch) : Prop where
  progress : batch.progress ≤ 100
  success : batch.successCount = db.rowsWith batchId [.sent, .delivered]
  failed : batch.failedCount = db.rowsWith batchId [.failed, .expired]
  planned : (db.batchLogs batchId).length ≤ batch.totalCount →
    batch.processingCount + batch.successCount + batch.failedCount = batch.totalCount
  completed : batch.status = .completed →
    db.rowsWith batchId [.pending, .queued] = 0 ∧ batch.completedAt ≠ none

namespace ProgressView

variable {view : ProgressView}

structure Agrees (view : ProgressView) : Prop where
  progress : view.batch.progress ≤ 100
  success : view.batch.successCount = view.counts.sent
  failed : view.batch.failedCount = view.counts.failed
  planned : view.counts.logTotal ≤ view.batch.totalCount →
    view.batch.processingCount + view.batch.successCount + view.batch.failedCount =
      view.batch.totalCount
  completed : view.batch.status = .completed →
    view.counts.pending = 0 ∧ view.batch.completedAt ≠ none

theorem agrees_of_iff (db : Db) (batchId : ℕ) (batch : SmsBatch) :
    (ProgressView.of db batchId batch).Agrees ↔ CountersRight db batchId batch := by
  constructor
  · intro agrees
    exact
      { progress := agrees.progress
        success := agrees.success.trans (batchCounts_sent db batchId)
        failed := agrees.failed.trans (batchCounts_failed db batchId)
        planned := agrees.planned
        completed := fun completed =>
          ⟨(batchCounts_pending db batchId).symm.trans (agrees.completed completed).1,
            (agrees.completed completed).2⟩ }
  · intro right
    exact
      { progress := right.progress
        success := right.success.trans (batchCounts_sent db batchId).symm
        failed := right.failed.trans (batchCounts_failed db batchId).symm
        planned := right.planned
        completed := fun completed =>
          ⟨(batchCounts_pending db batchId).trans (right.completed completed).1,
            (right.completed completed).2⟩ }

def LosesCompletionTime (view : ProgressView) : Prop :=
  view.batch.status = .completed ∧ view.counts.logTotal < view.batch.totalCount ∧
    view.counts.pending = 0

theorem updated_of_not_expires (lasting : ¬view.Expires) (now : ℕ) :
    ∃ text, (view.updated unicode now).batch =
        { view.batch.inLine view.counts view.total now with errorMessage := text } ∧
      (view.updated unicode now).counts = view.counts := by
  rw [updated, if_neg lasting]
  by_cases same : view.batch.unchanged unicode
      (view.batch.inLine view.counts view.total now) = true
  · rw [if_pos same]
    refine ⟨view.batch.errorMessage, ?_, rfl⟩
    have equal := unchanged_iff.mp same
    have row : { view.batch with errorMessage := none } =
        { view.batch.inLine view.counts view.total now with errorMessage := none } :=
      congrArg (fun batch : SmsBatch => { batch with errorMessage := none }) equal
    exact congrArg (fun batch : SmsBatch =>
      { batch with errorMessage := view.batch.errorMessage }) row
  · rw [if_neg same]
    exact ⟨_, rfl, rfl⟩

theorem completed_iff_dated {batch : SmsBatch} {counts : BatchCounts} {total now : ℕ}
    (counted : counts.done + counts.pending = counts.logTotal) :
    ((batch.target counts total now).1 = .completed →
        counts.pending = 0 ∧ (batch.target counts total now).2.1 ≠ none) ↔
      ¬(batch.status = .completed ∧ counts.logTotal < total ∧ counts.pending = 0) := by
  by_cases allThere : AllThere counts total
  · have reached := allThere.1
    have done := allThere.2
    have nothingPending : counts.pending = 0 := by omega
    have enough : ¬counts.logTotal < total := by omega
    rw [target_of_allThere allThere]
    by_cases kept : batch.status = counts.final ∧ batch.completedAt ≠ none
    · simp [nothingPending, enough, kept]
    · simp [nothingPending, enough, kept]
  · by_cases few : fewPending counts total = true
    · rw [target_of_few allThere few]
      simp only [fewPending, decide_eq_true_eq] at few
      have enough : ¬counts.logTotal < total := by omega
      simp [enough]
    · rw [Bool.not_eq_true] at few
      by_cases reopens : Reopens batch counts total
      · rw [target_of_reopens reopens]
        have enough : ¬counts.logTotal < total := Nat.not_lt.mpr reopens.2.1
        simp [enough]
      · rw [target_of_waits allThere few reopens]
        have short : counts.pending = 0 → counts.logTotal < total := by
          intro nothingPending
          by_contra enough
          exact allThere ⟨by omega, by omega⟩
        by_cases stays : batch.status = .completed ∧ counts.pending = 0
        · have done : counts.logTotal ≤ counts.done := by omega
          simp [waitingStatus, stays, done, short stays.2]
        · have moved : waitingStatus batch counts ≠ .completed := by
            rw [waitingStatus]
            split
            · rename_i ended
              rcases ended with failed | cancelled
              · simp [failed]
              · simp [cancelled]
            · rw [if_neg fun closed => stays ⟨closed.1, closed.2.1⟩]
              decide
          have goal : ¬(batch.status = .completed ∧ counts.logTotal < total ∧
              counts.pending = 0) := fun lost => stays ⟨lost.1, lost.2.2⟩
          simp [moved, goal]

theorem agrees_updated_iff (planned : 0 < view.batch.totalCount)
    (counted : view.counts.done + view.counts.pending = view.counts.logTotal) (now : ℕ) :
    (view.updated unicode now).Agrees ↔ ¬view.LosesCompletionTime := by
  have total : view.total = view.batch.totalCount := if_neg (Nat.pos_iff_ne_zero.mp planned)
  by_cases expires : view.Expires
  · have few := expires.1
    simp only [fewPending, decide_eq_true_eq, total] at few
    have notLost : ¬view.LosesCompletionTime := by
      rintro ⟨-, short, -⟩
      omega
    rw [iff_true_right notLost, updated, if_pos expires]
    simp only [BatchCounts.done] at counted
    exact
      { progress := Nat.le_refl _
        success := rfl
        failed := rfl
        planned := by
          intro enough
          simp only [SmsBatch.afterExpiry, BatchCounts.expirePending] at enough ⊢
          omega
        completed := by
          intro _
          exact ⟨rfl, Option.some_ne_none _⟩ }
  · rcases @updated_of_not_expires unicode view expires now with ⟨text, row, counts⟩
    have dated := @completed_iff_dated view.batch view.counts view.total now counted
    rw [total] at dated
    constructor
    · intro agrees
      have completed := agrees.completed
      rw [row, counts, total] at completed
      exact dated.mp completed
    · intro kept
      have completed := dated.mpr kept
      constructor
      · rw [row]
        exact Nat.min_le_left _ _
      · rw [row, counts]
        rfl
      · rw [row, counts]
        rfl
      · intro enough
        rw [row, counts] at enough
        rw [row]
        simp only [SmsBatch.inLine, BatchCounts.done, total] at counted enough ⊢
        omega
      · rw [row, counts, total]
        exact completed

end ProgressView

/-- After a call of `update_batch_progress` on a batch with a planned number of messages its row
is right, except for a completed batch that lacks rows: it stays completed without a completion
time. -/
theorem counters_after_update_iff {db : Db} (unique : db.UniqueMessageIds) {batchId : ℕ}
    (numbered : batchId ≠ 0) {batch : SmsBatch} (found : db.batches batchId = some batch)
    (planned : 0 < batch.totalCount) (now : ℕ) (report : String) :
    (∀ after, (db.updateBatchProgress unicode batchId now report).batches batchId = some after →
        CountersRight (db.updateBatchProgress unicode batchId now report) batchId after) ↔
      ¬(batch.status = .completed ∧ (db.batchLogs batchId).length < batch.totalCount ∧
        db.rowsWith batchId [.pending, .queued] = 0) := by
  rcases updateBatchProgress_view unicode unique numbered found now report with
    ⟨updated, foundAfter, view⟩
  have right := ProgressView.agrees_of_iff
    (db.updateBatchProgress unicode batchId now report) batchId updated
  rw [view, ProgressView.agrees_updated_iff planned (batchCounts_logTotal db batchId),
    ProgressView.LosesCompletionTime] at right
  rw [← batchCounts_pending]
  constructor
  · intro correct
    exact right.mpr (correct updated foundAfter)
  · intro kept after same
    rw [foundAfter, Option.some.injEq] at same
    rw [← same]
    exact right.mp kept

/-- A batch that is being sent becomes completed with its last message. -/
theorem counters_after_update_iff_sending :
    let db := oneBatch (sendingBatch 2) [.sent, .failed]
    let updated := db.updateBatchProgress Unicode.ascii 1 5 "expired"
    (∀ after, updated.batches 1 = some after → CountersRight updated 1 after) ↔
      ¬((sendingBatch 2).status = .completed ∧
        (db.batchLogs 1).length < (sendingBatch 2).totalCount ∧
        db.rowsWith 1 [.pending, .queued] = 0) :=
  counters_after_update_iff (by decide) (by decide) rfl (by decide) 5 "expired"

/-- A completed batch of two messages, of which one row is there, loses its completion time. -/
theorem completion_time_lost :
    let completed : SmsBatch := ⟨2, 1, 0, 0, 1, 50, .completed, some 4, none⟩
    let db := oneBatch completed [.sent]
    let updated := db.updateBatchProgress Unicode.ascii 1 5 "expired"
    (updated.batches 1).map SmsBatch.status = some .completed ∧
      (updated.batches 1).map SmsBatch.completedAt = some none ∧
      ¬∀ after, updated.batches 1 = some after → CountersRight updated 1 after := by
  intro completed db updated
  refine ⟨by decide, by decide, ?_⟩
  intro right
  have found : updated.batches 1 =
      some ⟨2, 1, 0, 0, 1, 50, .completed, none, none⟩ := by decide
  exact ((right _ found).completed rfl).2 rfl

/-! ## What the list of batches shows -/

structure ResponsePatch where
  deliveredCount : ℕ
  sentAwaitingReceiptCount : ℕ
  counted : Option (ℕ × ℕ × ℕ × ℕ)
  deriving DecidableEq, Repr

/-- `_smslog_counts_to_response_patch`, on the number of rows for each status. -/
def smslogCountsToResponsePatch (m : SmsStatus → ℕ) (batchTotal : ℕ) : ResponsePatch :=
  let logTotal := m .pending + m .queued + m .sent + m .delivered + m .failed + m .expired
  let dlv := m .delivered
  let pq := m .pending + m .queued
  let st := m .sent
  let fl := m .failed + m .expired
  { deliveredCount := dlv
    sentAwaitingReceiptCount := pq + st
    counted :=
      if 0 < logTotal then
        let tot := max (max batchTotal logTotal) 1
        let done := dlv + st + fl
        some (st + dlv, fl, pq, min 100 (done * 100 / tot))
      else none }

def Db.displayPatch (db : Db) (batchId : ℕ) (batch : SmsBatch) : ResponsePatch :=
  smslogCountsToResponsePatch
    (fun status => (db.batchLogs batchId).countP fun row => row.status = status)
    batch.totalCount

/-- `model_copy(update=..)`: the batch as it is shown. -/
def SmsBatch.shown (batch : SmsBatch) (patch : ResponsePatch) : SmsBatch :=
  let overlaid := { batch with deliveredCount := patch.deliveredCount }
  match patch.counted with
  | none => overlaid
  | some (success, failed, processing, progress) =>
      { overlaid with
        successCount := success
        failedCount := failed
        processingCount := processing
        progress := progress }

section Shown

variable {db : Db} {batchId : ℕ} {batch : SmsBatch}

theorem counted_displayPatch :
    (db.displayPatch batchId batch).counted =
      if 0 < (batchCounts db batchId).logTotal then
        some ((batchCounts db batchId).sent, (batchCounts db batchId).failed,
          (batchCounts db batchId).pending, min 100 ((batchCounts db batchId).done * 100 /
            max (max batch.totalCount (batchCounts db batchId).logTotal) 1))
      else none := by
  let count := fun status => (db.batchLogs batchId).countP fun row => row.status = status
  have total : count .pending + count .queued + count .sent + count .delivered + count .failed +
      count .expired = (batchCounts db batchId).logTotal := by
    rw [← batchCounts_logTotal]
    simp only [batchCounts, BatchCounts.done, count]
    omega
  have done : count .delivered + count .sent + (count .failed + count .expired) =
      (batchCounts db batchId).done := by
    simp only [batchCounts, BatchCounts.done, count]
    omega
  change (if 0 < count .pending + count .queued + count .sent + count .delivered +
      count .failed + count .expired then some _ else none) = _
  rw [total, done]
  rfl

theorem shown_of_rows (rows : 0 < (batchCounts db batchId).logTotal) :
    batch.shown (db.displayPatch batchId batch) =
      { batch with
        deliveredCount := (batchCounts db batchId).delivered
        successCount := (batchCounts db batchId).sent
        failedCount := (batchCounts db batchId).failed
        processingCount := (batchCounts db batchId).pending
        progress := min 100 ((batchCounts db batchId).done * 100 /
          max (max batch.totalCount (batchCounts db batchId).logTotal) 1) } := by
  rw [SmsBatch.shown, counted_displayPatch, if_pos rows]
  rfl

theorem shown_of_no_rows (empty : ¬0 < (batchCounts db batchId).logTotal) :
    batch.shown (db.displayPatch batchId batch) =
      { batch with deliveredCount := (batchCounts db batchId).delivered } := by
  rw [SmsBatch.shown, counted_displayPatch, if_neg empty]
  rfl

end Shown

namespace ProgressView

variable {view : ProgressView}

def ShownAsStored (view : ProgressView) : Prop :=
  view.batch.deliveredCount = view.counts.delivered ∧
    (0 < view.counts.logTotal →
      view.batch.successCount = view.counts.sent ∧ view.batch.failedCount = view.counts.failed ∧
        view.batch.processingCount = view.counts.pending ∧
        view.batch.progress =
          min 100 (view.counts.done * 100 /
            max (max view.batch.totalCount view.counts.logTotal) 1))

theorem shownAsStored_of_iff (db : Db) (batchId : ℕ) (batch : SmsBatch) :
    (ProgressView.of db batchId batch).ShownAsStored ↔
      batch.shown (db.displayPatch batchId batch) = batch := by
  have total := batchCounts_logTotal db batchId
  by_cases rows : 0 < (batchCounts db batchId).logTotal
  · rw [shown_of_rows rows, ShownAsStored]
    simp only [ProgressView.of, rows, forall_const]
    constructor
    · rintro ⟨delivered, success, failed, processing, progress⟩
      rw [← delivered, ← success, ← failed, ← processing, ← progress]
    · intro same
      exact ⟨(congrArg SmsBatch.deliveredCount same).symm,
        (congrArg SmsBatch.successCount same).symm, (congrArg SmsBatch.failedCount same).symm,
        (congrArg SmsBatch.processingCount same).symm, (congrArg SmsBatch.progress same).symm⟩
  · rw [shown_of_no_rows rows, ShownAsStored]
    simp only [ProgressView.of, rows, false_imp_iff, and_true]
    constructor
    · intro delivered
      rw [← delivered]
    · intro same
      exact (congrArg SmsBatch.deliveredCount same).symm

def AgreesOnTotal (view : ProgressView) : Prop :=
  view.Expires ∨ view.counts.logTotal = 0 ∨ view.counts.logTotal = view.total ∨
    (view.total < view.counts.logTotal ∧ view.counts.pending = 0)

theorem max_planned (view : ProgressView) (logged : view.total ≤ view.counts.logTotal) :
    max view.batch.totalCount view.counts.logTotal = view.counts.logTotal := by
  simp only [ProgressView.total, SmsBatch.total] at logged
  split at logged
  · omega
  · omega

theorem shown_updated_iff
    (counted : view.counts.done + view.counts.pending = view.counts.logTotal) (now : ℕ) :
    (view.updated unicode now).ShownAsStored ↔ view.AgreesOnTotal := by
  by_cases expires : view.Expires
  · have few := expires.1
    simp only [fewPending, decide_eq_true_eq] at few
    have agrees : view.AgreesOnTotal := .inl expires
    rw [iff_true_right agrees, updated, if_pos expires]
    refine ⟨rfl, fun rows => ⟨rfl, rfl, rfl, ?_⟩⟩
    change 0 < view.counts.logTotal at rows
    change 100 = min 100 (view.counts.expirePending.done * 100 /
      max (max view.batch.totalCount view.counts.logTotal) 1)
    rw [max_planned view few.1, done_expirePending counted, percent_of_reached rows (Nat.le_refl _)]
  · rcases @updated_of_not_expires unicode view expires now with ⟨text, row, counts⟩
    rw [ShownAsStored, row, counts, AgreesOnTotal]
    simp only [SmsBatch.inLine, expires, true_and, false_or]
    constructor
    · intro shown
      by_cases empty : view.counts.logTotal = 0
      · exact .inl empty
      · have processing := (shown (Nat.pos_of_ne_zero empty)).1
        omega
    · intro agrees rows
      have logged : view.total ≤ view.counts.logTotal := by omega
      rw [max_planned view logged]
      rcases agrees with empty | exact_ | ⟨short, nothingPending⟩
      · omega
      · refine ⟨by omega, ?_⟩
        rw [exact_]
      · have done : view.counts.done = view.counts.logTotal := by omega
        refine ⟨by omega, ?_⟩
        rw [done, percent_of_reached rows logged, percent_of_reached rows (Nat.le_refl _)]

end ProgressView

/-- After a call of `update_batch_progress` the list of batches shows what is stored exactly
when the call has expired the last messages, or there are no rows, or as many as planned, or
more than planned and none of them is pending. -/
theorem shown_after_update_iff {db : Db} (unique : db.UniqueMessageIds) {batchId : ℕ}
    (numbered : batchId ≠ 0) {batch : SmsBatch} (found : db.batches batchId = some batch)
    (now : ℕ) (report : String) :
    (∀ after, (db.updateBatchProgress unicode batchId now report).batches batchId = some after →
        after.shown
            ((db.updateBatchProgress unicode batchId now report).displayPatch batchId after) =
          after) ↔
      (ProgressView.of db batchId batch).AgreesOnTotal := by
  rcases updateBatchProgress_view unicode unique numbered found now report with
    ⟨updated, foundAfter, view⟩
  have shown := ProgressView.shownAsStored_of_iff
    (db.updateBatchProgress unicode batchId now report) batchId updated
  rw [view, ProgressView.shown_updated_iff (batchCounts_logTotal db batchId)] at shown
  rw [shown]
  constructor
  · intro same
    exact same updated foundAfter
  · intro same after found'
    rw [foundAfter, Option.some.injEq] at found'
    rw [← found']
    exact same

theorem shown_after_update_iff_sending :
    let db := oneBatch (sendingBatch 2) [.sent, .failed]
    let updated := db.updateBatchProgress Unicode.ascii 1 5 "expired"
    (∀ after, updated.batches 1 = some after →
        after.shown (updated.displayPatch 1 after) = after) ↔
      (ProgressView.of db 1 (sendingBatch 2)).AgreesOnTotal :=
  shown_after_update_iff (by decide) (by decide) rfl 5 "expired"

/-- Of two planned messages one is there and sent: one is stored as being processed, none is
shown so. -/
theorem processing_shown_differs :
    let db := oneBatch (sendingBatch 2) [.sent]
    let updated := db.updateBatchProgress Unicode.ascii 1 5 "expired"
    ∃ after, updated.batches 1 = some after ∧ after.processingCount = 1 ∧
      (after.shown (updated.displayPatch 1 after)).processingCount = 0 ∧
      after.shown (updated.displayPatch 1 after) ≠ after :=
  ⟨⟨2, 1, 0, 0, 1, 50, .processing, none, none⟩, by decide⟩

end Klsmsc
