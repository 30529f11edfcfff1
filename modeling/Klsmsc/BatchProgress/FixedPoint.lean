import Klsmsc.BatchProgress.Decisions

/-!
# Calling the aggregation twice

A second call of `update_batch_progress` finds nothing to do, with two exceptions. A batch whose
last messages expire is completed even if none was sent, and the next call makes it failed. And a
completed batch that is opened again, because of messages that are open again, keeps its error
text in the first call and loses it in the next.
-/

namespace Klsmsc

open Library

variable {unicode : Unicode}

/-- The result of `update_batch_progress`: whether it has written. -/
def Db.progressWritten (unicode : Unicode) (db : Db) (batchId now : ℕ) : Bool :=
  match progressPlan unicode db batchId now with
  | .nothing => false
  | _ => true

namespace ProgressView

def Still (unicode : Unicode) (view : ProgressView) (now : ℕ) : Prop :=
  ¬view.Expires ∧
    view.batch.unchanged unicode (view.batch.inLine view.counts view.total now) = true

end ProgressView

theorem batchCounts_logTotal (db : Db) (batchId : ℕ) :
    (batchCounts db batchId).done + (batchCounts db batchId).pending =
      (batchCounts db batchId).logTotal := by
  simp only [batchCounts, BatchCounts.done]
  induction db.batchLogs batchId with
  | nil => rfl
  | cons row rows ih =>
      simp only [List.countP_cons, List.length_cons]
      cases row.status <;> simp <;> omega

theorem progressPlan_eq_nothing_iff {db : Db} {batchId : ℕ} {batch : SmsBatch}
    (numbered : batchId ≠ 0) (found : db.batches batchId = some batch) (now : ℕ) :
    db.progressWritten unicode batchId now = false ↔
      (ProgressView.of db batchId batch).Still unicode now := by
  by_cases expires : (ProgressView.of db batchId batch).Expires
  · rcases Option.isSome_iff_exists.mp expires.2 with ⟨rows, expiring⟩
    have few : fewPending (batchCounts db batchId) (batch.total (batchCounts db batchId)) = true :=
      expires.1
    simp [Db.progressWritten, progressPlan, numbered, found, few, expiring, ProgressView.Still,
      expires]
  · rw [Db.progressWritten, progressPlan_of_not_expires unicode numbered found now expires]
    have lasting : (ProgressView.of db batchId batch).Still unicode now ↔
        batch.unchanged unicode (batch.inLine (batchCounts db batchId)
          (batch.total (batchCounts db batchId)) now) = true :=
      and_iff_right expires
    rw [lasting]
    split
    · rename_i nothing
      split at nothing
      · rename_i same
        simp [same]
      · cases nothing
    · rename_i something
      split at something
      · exact absurd rfl something
      · rename_i differs
        simp [differs]

theorem batches_of_not_written {db : Db} {batchId now : ℕ} {report : String}
    (idle : db.progressWritten unicode batchId now = false) :
    (db.updateBatchProgress unicode batchId now report).batches batchId = db.batches batchId := by
  rw [Db.progressWritten] at idle
  rw [Db.updateBatchProgress]
  split at idle
  · rename_i nothing
    rw [nothing]
  · cases idle

def withoutFailureText (text : Option String) : Option String :=
  text.filter fun text => !textContains text "部分失败"

theorem withoutFailureText_idem (text : Option String) :
    withoutFailureText (withoutFailureText text) = withoutFailureText text := by
  cases text with
  | none => rfl
  | some text =>
      by_cases about : textContains text "部分失败" = true
      · simp [withoutFailureText, Option.filter_some, about]
      · simp [withoutFailureText, Option.filter_some, about]

theorem normError_withoutFailureText (text : Option String) :
    normError unicode text = normError unicode (withoutFailureText text) ↔
      ¬∃ written, text = some written ∧ textContains written "部分失败" = true ∧
        strip unicode written ≠ "" := by
  cases text with
  | none => simp [withoutFailureText]
  | some written =>
      by_cases about : textContains written "部分失败" = true
      · by_cases blank : strip unicode written = ""
        · simp [withoutFailureText, normError, Option.filter_some, about, blank]
        · simp [withoutFailureText, normError, Option.filter_some, about, blank]
      · simp [withoutFailureText, Option.filter_some, about]

def AllThere (counts : BatchCounts) (total : ℕ) : Prop :=
  total ≤ counts.logTotal ∧ counts.logTotal ≤ counts.done

def Reopens (batch : SmsBatch) (counts : BatchCounts) (total : ℕ) : Prop :=
  batch.status = .completed ∧ total ≤ counts.logTotal ∧ counts.done < counts.logTotal ∧
    fewPending counts total = false

instance (batch : SmsBatch) (counts : BatchCounts) (total : ℕ) :
    Decidable (Reopens batch counts total) :=
  inferInstanceAs (Decidable (_ ∧ _ ∧ _ ∧ _))

section Target

variable {batch : SmsBatch} {counts : BatchCounts} {total now later : ℕ}

def BatchCounts.final (counts : BatchCounts) : BatchStatus :=
  if counts.failed ≠ 0 ∧ counts.sent = 0 then .failed else .completed

def finalError (batch : SmsBatch) (counts : BatchCounts) (total : ℕ) : Option String :=
  if counts.failed = 0 ∨ counts.sent = 0 then batch.errorMessage
  else some (partialFailure counts.failed total)

theorem target_of_allThere (allThere : AllThere counts total) :
    batch.target counts total now =
      (counts.final,
        if batch.status = counts.final ∧ batch.completedAt ≠ none then batch.completedAt
        else some now,
        finalError batch counts total) := by
  have reached : total ≤ counts.logTotal ∧ counts.logTotal ≤ counts.done := allThere
  simp only [SmsBatch.target, reached, and_self, if_true]
  by_cases clean : counts.failed = 0
  · simp [BatchCounts.final, finalError, clean]
  · by_cases nothingSent : counts.sent = 0
    · simp [BatchCounts.final, finalError, clean, nothingSent]
    · simp [BatchCounts.final, finalError, clean, nothingSent]

theorem target_of_few (open_ : ¬AllThere counts total) (few : fewPending counts total = true) :
    batch.target counts total now = (.processing, none, batch.errorMessage) := by
  have notReached : ¬(total ≤ counts.logTotal ∧ counts.logTotal ≤ counts.done) := open_
  simp only [SmsBatch.target, notReached, if_false, few, if_true]

theorem target_of_reopens (reopens : Reopens batch counts total) :
    batch.target counts total now = (.processing, none, batch.errorMessage) := by
  rcases reopens with ⟨completed, reached, undone, few⟩
  have notReached : ¬counts.logTotal ≤ counts.done := Nat.not_le.mpr undone
  simp only [SmsBatch.target, notReached, and_false, if_false, few, Bool.false_eq_true, completed,
    reached, undone, or_true, and_self, if_true]

def waitingStatus (batch : SmsBatch) (counts : BatchCounts) : BatchStatus :=
  if batch.status = .failed ∨ batch.status = .cancelled then batch.status
  else if batch.status = .completed ∧ counts.pending = 0 ∧ counts.logTotal ≤ counts.done then
    .completed
  else .processing

theorem target_of_waits (open_ : ¬AllThere counts total) (few : fewPending counts total = false)
    (waits : ¬Reopens batch counts total) :
    batch.target counts total now =
      (waitingStatus batch counts, none, withoutFailureText batch.errorMessage) := by
  have notReached : ¬(total ≤ counts.logTotal ∧ counts.logTotal ≤ counts.done) := open_
  have notCompleted : ¬(total ≤ counts.logTotal ∧ batch.status = .completed) := by
    rintro ⟨reached, completed⟩
    exact waits ⟨completed, reached, by omega, few⟩
  simp only [SmsBatch.target, notReached, if_false, few, Bool.false_eq_true, notCompleted,
    waitingStatus, withoutFailureText]
  cases batch.status with
  | completed =>
      by_cases reopened : 0 < counts.pending ∨ counts.done < counts.logTotal
      · have closed : ¬(counts.pending = 0 ∧ counts.logTotal ≤ counts.done) := by omega
        simp [reopened, closed]
      · have closed : counts.pending = 0 ∧ counts.logTotal ≤ counts.done := by omega
        simp [closed, Nat.not_lt.mpr closed.2]
  | pending => simp
  | processing => simp
  | paused => simp
  | failed => simp
  | cancelled => simp

theorem target_inLine :
    (batch.inLine counts total now).target counts total later =
      ((batch.target counts total now).1, (batch.target counts total now).2.1,
        if Reopens batch counts total then withoutFailureText batch.errorMessage
        else (batch.target counts total now).2.2) := by
  by_cases allThere : AllThere counts total
  · have notReopened : ¬Reopens batch counts total := by
      rintro ⟨-, -, undone, -⟩
      have reached := allThere.2
      omega
    rw [if_neg notReopened, target_of_allThere allThere, target_of_allThere allThere]
    simp only [SmsBatch.inLine, target_of_allThere allThere, finalError, Prod.mk.injEq, true_and]
    constructor
    · by_cases kept : batch.status = counts.final ∧ batch.completedAt ≠ none
      · simp [kept]
      · simp [kept]
    · by_cases kept : counts.failed = 0 ∨ counts.sent = 0
      · simp [kept]
      · simp [kept]
  · by_cases few : fewPending counts total = true
    · have notReopened : ¬Reopens batch counts total := by
        rintro ⟨-, -, -, many⟩
        rw [few] at many
        cases many
      rw [if_neg notReopened, target_of_few allThere few, target_of_few allThere few]
      simp [SmsBatch.inLine, target_of_few allThere few]
    · rw [Bool.not_eq_true] at few
      by_cases reopens : Reopens batch counts total
      · have isOpen : ¬Reopens (batch.inLine counts total now) counts total := by
          rintro ⟨completed, -⟩
          simp [SmsBatch.inLine, target_of_reopens reopens] at completed
        rw [if_pos reopens, target_of_waits allThere few isOpen, target_of_reopens reopens]
        simp [SmsBatch.inLine, target_of_reopens reopens, waitingStatus]
      · have kept : (batch.inLine counts total now).status = waitingStatus batch counts := by
          simp [SmsBatch.inLine, target_of_waits allThere few reopens]
        have text : (batch.inLine counts total now).errorMessage =
            withoutFailureText batch.errorMessage := by
          simp [SmsBatch.inLine, target_of_waits allThere few reopens]
        have notReopened : ¬Reopens (batch.inLine counts total now) counts total := by
          rintro ⟨completed, reached, undone, -⟩
          rw [kept, waitingStatus] at completed
          split at completed
          · rename_i ended
            rcases ended with ended | ended
            · rw [ended] at completed
              cases completed
            · rw [ended] at completed
              cases completed
          · split at completed
            · rename_i closed
              omega
            · cases completed
        rw [if_neg reopens, target_of_waits allThere few notReopened,
          target_of_waits allThere few reopens, text, withoutFailureText_idem]
        have same : waitingStatus (batch.inLine counts total now) counts =
            waitingStatus batch counts := by
          rw [waitingStatus, kept, waitingStatus]
          by_cases ended : batch.status = .failed ∨ batch.status = .cancelled
          · simp [ended]
          · by_cases closed : batch.status = .completed ∧ counts.pending = 0 ∧
                counts.logTotal ≤ counts.done
            · simp [closed]
            · simp [ended, closed]
        rw [same]

end Target

namespace ProgressView

def KeepsFailureText (unicode : Unicode) (view : ProgressView) : Prop :=
  Reopens view.batch view.counts view.total ∧
    ∃ text, view.batch.errorMessage = some text ∧ textContains text "部分失败" = true ∧
      strip unicode text ≠ ""

def Settles (unicode : Unicode) (view : ProgressView) : Prop :=
  (view.Expires → 0 < view.counts.sent) ∧ ¬view.KeepsFailureText unicode

end ProgressView

section Unchanged

variable {batch : SmsBatch} {counts : BatchCounts} {total now later : ℕ}

theorem unchanged_iff {target : SmsBatch} :
    batch.unchanged unicode target = true ↔
      { batch with errorMessage := normError unicode batch.errorMessage } =
        { target with errorMessage := normError unicode target.errorMessage } :=
  decide_eq_true_iff

theorem unchanged_later
    (same : batch.unchanged unicode (batch.inLine counts total now) = true) :
    batch.unchanged unicode (batch.inLine counts total later) = true := by
  have timeless : batch.target counts total later = batch.target counts total now := by
    by_cases allThere : AllThere counts total
    · have equal := unchanged_iff.mp same
      have statuses := congrArg SmsBatch.status equal
      have times := congrArg SmsBatch.completedAt equal
      simp only [SmsBatch.inLine, target_of_allThere allThere] at statuses times
      rw [target_of_allThere allThere, target_of_allThere allThere]
      by_cases kept : batch.status = counts.final ∧ batch.completedAt ≠ none
      · rw [if_pos kept, if_pos kept]
      · rw [if_neg kept] at times
        exact absurd ⟨statuses, by simp [times]⟩ kept
    · by_cases few : fewPending counts total = true
      · rw [target_of_few allThere few, target_of_few allThere few]
      · rw [Bool.not_eq_true] at few
        by_cases reopens : Reopens batch counts total
        · rw [target_of_reopens reopens, target_of_reopens reopens]
        · rw [target_of_waits allThere few reopens, target_of_waits allThere few reopens]
  have equal : batch.inLine counts total later = batch.inLine counts total now := by
    simp only [SmsBatch.inLine, timeless]
  rw [equal]
  exact same

theorem inLine_inLine :
    (batch.inLine counts total now).inLine counts total later =
      { batch.inLine counts total now with
        status := ((batch.inLine counts total now).target counts total later).1
        completedAt := ((batch.inLine counts total now).target counts total later).2.1
        errorMessage := ((batch.inLine counts total now).target counts total later).2.2 } := rfl

theorem unchanged_inLine :
    (batch.inLine counts total now).unchanged unicode
        ((batch.inLine counts total now).inLine counts total later) = true ↔
      ¬(Reopens batch counts total ∧ ∃ text, batch.errorMessage = some text ∧
        textContains text "部分失败" = true ∧ strip unicode text ≠ "") := by
  rw [unchanged_iff]
  have again := @target_inLine batch counts total now later
  by_cases reopens : Reopens batch counts total
  · rw [if_pos reopens] at again
    have text : (batch.inLine counts total now).errorMessage = batch.errorMessage := by
      simp [SmsBatch.inLine, target_of_reopens reopens]
    have onlyText : (batch.inLine counts total now).inLine counts total later =
        { batch.inLine counts total now with
          errorMessage := withoutFailureText batch.errorMessage } := by
      rw [inLine_inLine, again]
      rfl
    rw [onlyText, text]
    simp only [reopens, true_and]
    rw [← normError_withoutFailureText]
    constructor
    · intro equal
      exact congrArg SmsBatch.errorMessage equal
    · intro equal
      rw [equal]
  · rw [if_neg reopens] at again
    have same : (batch.inLine counts total now).inLine counts total later =
        batch.inLine counts total now := by
      rw [inLine_inLine, again]
      rfl
    rw [same]
    simp [reopens]

end Unchanged

theorem done_expirePending {counts : BatchCounts}
    (counted : counts.done + counts.pending = counts.logTotal) :
    counts.expirePending.done = counts.logTotal := by
  rw [← counted]
  simp only [BatchCounts.done, BatchCounts.expirePending]
  omega

theorem percent_of_reached {done total : ℕ} (some_ : 0 < done) (reached : total ≤ done) :
    min 100 (done * 100 / max total 1) = 100 := by
  have positive : 0 < max total 1 := by omega
  have enough : 100 ≤ done * 100 / max total 1 := by
    rw [Nat.le_div_iff_mul_le positive]
    omega
  exact Nat.min_eq_left enough

namespace ProgressView

variable {view : ProgressView} {now later : ℕ}

theorem still_expired_iff
    (counted : view.counts.done + view.counts.pending = view.counts.logTotal)
    (expires : view.Expires) :
    (view.updated unicode now).Still unicode later ↔ 0 < view.counts.sent := by
  rw [updated, if_pos expires]
  have few := expires.1
  simp only [fewPending, decide_eq_true_eq] at few
  have done := done_expirePending counted
  have allThere : AllThere view.counts.expirePending view.total := by
    refine ⟨few.1, ?_⟩
    rw [done]
    exact Nat.le_refl _
  have total : (view.batch.afterExpiry view.counts.expirePending view.total now).total
      view.counts.expirePending = view.total := rfl
  have failed : view.counts.expirePending.failed ≠ 0 := by
    simp only [BatchCounts.expirePending]
    omega
  have whole : min 100 (view.counts.expirePending.done * 100 / max view.total 1) = 100 := by
    rw [done]
    exact percent_of_reached (by omega) few.1
  have nothingLeft : view.total - view.counts.expirePending.done = 0 := by
    rw [done]
    omega
  have idle : ¬({ batch := view.batch.afterExpiry view.counts.expirePending view.total now
                  counts := view.counts.expirePending
                  virtualPending := false } : ProgressView).Expires := by
    rintro ⟨-, virtual⟩
    cases virtual
  have sameSent : view.counts.expirePending.sent = view.counts.sent := rfl
  rw [Still, and_iff_right idle]
  change SmsBatch.unchanged unicode _ (SmsBatch.inLine _ _ view.total later) = true ↔ _
  rw [unchanged_iff]
  simp only [SmsBatch.inLine, target_of_allThere allThere, whole, nothingLeft, finalError,
    BatchCounts.final, failed, SmsBatch.afterExpiry, sameSent]
  by_cases sent : view.counts.sent = 0
  · simp [sent, failed]
  · have positive : 0 < view.counts.expirePending.failed := Nat.pos_of_ne_zero failed
    simp [sent, positive, Nat.pos_of_ne_zero sent]

theorem still_updated_iff
    (counted : view.counts.done + view.counts.pending = view.counts.logTotal) :
    (view.updated unicode now).Still unicode later ↔ view.Settles unicode := by
  by_cases expires : view.Expires
  · rw [still_expired_iff counted expires, Settles]
    have givenUp : ¬view.KeepsFailureText unicode := by
      rintro ⟨⟨-, -, -, many⟩, -⟩
      rw [expires.1] at many
      cases many
    simp [expires, givenUp]
  · have notSent : view.Settles unicode ↔ ¬view.KeepsFailureText unicode := by
      simp [Settles, expires]
    rw [notSent, updated, if_neg expires]
    by_cases same : view.batch.unchanged unicode
        (view.batch.inLine view.counts view.total now) = true
    · rw [if_pos same]
      have stays : view.Still unicode later := ⟨expires, unchanged_later same⟩
      have notKept : ¬view.KeepsFailureText unicode := by
        rintro ⟨reopens, -⟩
        have statuses := status_of_unchanged same
        simp [SmsBatch.inLine, target_of_reopens reopens, reopens.1] at statuses
      simp [stays, notKept]
    · rw [if_neg same]
      have stillOpen : ¬({ view with
          batch := view.batch.inLine view.counts view.total now } : ProgressView).Expires :=
        expires
      rw [Still, and_iff_right stillOpen]
      exact unchanged_inLine

end ProgressView

/-- Two calls in a row, with no other change in between: the second one writes nothing exactly
when there is no batch, or the first one settles it. -/
theorem update_idempotent_iff {db : Db} (unique : db.UniqueMessageIds) (batchId now later : ℕ)
    (report again : String) :
    let after := db.updateBatchProgress unicode batchId now report
    (after.progressWritten unicode batchId later = false ∧
        (after.updateBatchProgress unicode batchId later again).batches batchId =
          after.batches batchId) ↔
      batchId = 0 ∨ ∀ batch, db.batches batchId = some batch →
        (ProgressView.of db batchId batch).Settles unicode := by
  intro after
  rw [and_iff_left_of_imp fun idle => batches_of_not_written idle]
  by_cases unnumbered : batchId = 0
  · simp [unnumbered, Db.progressWritten, progressPlan]
  · rw [or_iff_right unnumbered]
    cases found : db.batches batchId with
    | none =>
        simp [after, Db.updateBatchProgress, Db.progressWritten, progressPlan, unnumbered, found]
    | some batch =>
        rcases updateBatchProgress_view unicode unique unnumbered found now report with
          ⟨updated, foundAfter, view⟩
        rw [progressPlan_eq_nothing_iff unnumbered foundAfter, view,
          ProgressView.still_updated_iff (batchCounts_logTotal db batchId)]
        simp

def oneBatch (batch : SmsBatch) (statuses : List SmsStatus) : Db where
  accounts _ := none
  smsLogs := statuses.zipIdx.map fun (status, index) =>
    { id := index, messageId := index, upstreamMessageId := none, accountId := 1
      channelId := some 1, batchId := some 1, phoneNumber := "+8613800138000"
      countryCode := none, senderId := none, message := "hello", messageCount := 1
      status := status, costPrice := none, sellingPrice := none, currency := "USD"
      submitTime := none, sentTime := none, deliveryTime := none, errorMessage := none
      refundedAt := none, refundedBy := none, refundedAmount := none }
  balanceLogs := []
  batches id := if id = 1 then some batch else none
  channels id := if id = 1 then some ⟨1, .virtual, ""⟩ else none

def sendingBatch (totalCount : ℕ) : SmsBatch :=
  ⟨totalCount, 0, 0, 0, totalCount, 0, .processing, none, none⟩

theorem update_idempotent_iff_sending :
    let db := oneBatch (sendingBatch 2) [.sent, .queued]
    let after := db.updateBatchProgress Unicode.ascii 1 5 "expired"
    (after.progressWritten Unicode.ascii 1 6 = false ∧
        (after.updateBatchProgress Unicode.ascii 1 6 "expired").batches 1 = after.batches 1) ↔
      (1 = 0 ∨ ∀ batch, db.batches 1 = some batch →
        (ProgressView.of db 1 batch).Settles Unicode.ascii) :=
  update_idempotent_iff (by decide) 1 5 6 "expired" "expired"

/-- Of fifty messages, forty-nine have failed and the last one is pending on a virtual channel:
the first call expires it and completes the batch, the second one makes the batch failed. -/
theorem update_not_idempotent :
    let db := oneBatch (sendingBatch 50) (.pending :: List.replicate 49 .failed)
    let after := db.updateBatchProgress Unicode.ascii 1 5 "expired"
    let again := after.updateBatchProgress Unicode.ascii 1 6 "expired"
    (after.batches 1).map SmsBatch.status = some .completed ∧
      (again.batches 1).map SmsBatch.status = some .failed ∧
      after.progressWritten Unicode.ascii 1 6 = true ∧ again.batches 1 ≠ after.batches 1 := by
  decide

end Klsmsc
