import Mathlib.Data.List.Nodup
import Klsmsc.BatchProgress
import Klsmsc.Library.Runs

/-!
# Decisions of the operator

Which status `update_batch_progress` gives a batch that an operator has paused
or cancelled. What the aggregation sees of a batch is its row, the counts of its
messages, and whether the pending ones are all on virtual channels; messages may
change in any way between two calls, and a message with a status that the
aggregation does not know counts for the total alone.

A call that fails on the database leaves the row of the batch as it was, and
what it may have expired is a change of messages.
-/

namespace Klsmsc

open Library

structure ProgressView where
  batch : SmsBatch
  counts : BatchCounts
  virtualPending : Bool
  deriving DecidableEq, Repr

def ProgressView.of (db : Db) (batchId : ℕ) (batch : SmsBatch) : ProgressView where
  batch := batch
  counts := batchCounts db batchId
  virtualPending := (expiringLogs db batchId).isSome

def BatchCounts.expirePending (counts : BatchCounts) : BatchCounts :=
  { counts with failed := counts.failed + counts.pending, pending := 0 }

def ProgressView.total (view : ProgressView) : ℕ :=
  view.batch.total view.counts

def ProgressView.Expires (view : ProgressView) : Prop :=
  fewPending view.counts view.total = true ∧ view.virtualPending = true

def ProgressView.AllDone (view : ProgressView) : Prop :=
  view.total ≤ view.counts.logTotal ∧ view.counts.logTotal ≤ view.counts.done

instance (view : ProgressView) : Decidable view.Expires :=
  inferInstanceAs (Decidable (_ ∧ _))

instance (view : ProgressView) : Decidable view.AllDone :=
  inferInstanceAs (Decidable (_ ∧ _))

section

variable (unicode : Unicode)

/-- The view after a call of `update_batch_progress`. -/
def ProgressView.updated (view : ProgressView) (now : ℕ) : ProgressView :=
  if view.Expires then
    { batch := view.batch.afterExpiry view.counts.expirePending view.total now
      counts := view.counts.expirePending
      virtualPending := false }
  else if view.batch.unchanged unicode (view.batch.inLine view.counts view.total now) then view
  else { view with batch := view.batch.inLine view.counts view.total now }

/-- The tables after a call of `update_batch_progress`. -/
def Db.updateBatchProgress (db : Db) (batchId now : ℕ) (report : String) : Db :=
  match progressPlan unicode db batchId now with
  | .nothing => db
  | .write target => db.setBatch batchId target
  | .expire batch rows total =>
      let expired := expireLogs db rows now report
      expired.setBatch batchId (batch.afterExpiry (batchCounts expired batchId) total now)

/-- `pause_batch` on the row of a batch, a refusal as `none`. -/
def SmsBatch.pause (batch : SmsBatch) : Option SmsBatch :=
  if batch.status = .processing ∨ batch.status = .pending then
    some { batch with status := .paused }
  else none

inductive ProgressEvent where
  | messages (counts : BatchCounts) (virtualPending : Bool)
  | pauseBatch
  | updateBatchProgress (now : ℕ)
  deriving DecidableEq, Repr

def ProgressView.next (view : ProgressView) : ProgressEvent → Option ProgressView
  | .messages counts virtualPending =>
      some { view with counts := counts, virtualPending := virtualPending }
  | .pauseBatch => view.batch.pause.map fun batch => { view with batch := batch }
  | .updateBatchProgress now => some (view.updated unicode now)

abbrev ProgressRun (first : ProgressView)
    (transitions : List (Transition ProgressView ProgressEvent)) (last : ProgressView) : Prop :=
  Run (fun before event after => before.next unicode event = some after) first transitions last

end

/-- A cancelled batch stays cancelled, and no aggregation takes a paused batch to
processing. -/
def DecisionKept (before : ProgressView) (event : ProgressEvent) (after : ProgressView) : Prop :=
  (before.batch.status = .cancelled → after.batch.status = .cancelled) ∧
    (before.batch.status = .paused → (∃ now, event = .updateBatchProgress now) →
      after.batch.status ≠ .processing)

/-- An aggregation that respects the decision: the cancelled batch has open or missing
messages and more than the two percent that are given up; the paused one has only finished
messages, or its last ones expire. -/
def RespectsDecision (view : ProgressView) (event : ProgressEvent) : Prop :=
  (∃ now, event = .updateBatchProgress now) →
    (view.batch.status = .cancelled →
      ¬ view.AllDone ∧ fewPending view.counts view.total = false) ∧
    (view.batch.status = .paused → view.AllDone ∨ view.Expires)

theorem status_of_unchanged {unicode : Unicode} {batch target : SmsBatch}
    (same : batch.unchanged unicode target = true) : batch.status = target.status := by
  have equal := of_decide_eq_true same
  have statuses := congrArg SmsBatch.status equal
  exact statuses

theorem status_updated (unicode : Unicode) (view : ProgressView) (now : ℕ) :
    (view.updated unicode now).batch.status =
      if view.Expires then .completed
      else (view.batch.target view.counts view.total now).1 := by
  by_cases expires : view.Expires
  · simp [ProgressView.updated, expires, SmsBatch.afterExpiry]
  · rw [ProgressView.updated, if_neg expires, if_neg expires]
    by_cases same : view.batch.unchanged unicode
        (view.batch.inLine view.counts view.total now) = true
    · rw [if_pos same, status_of_unchanged same]
      rfl
    · rw [if_neg same]
      rfl

theorem target_of_allDone {view : ProgressView} (allDone : view.AllDone) (now : ℕ) :
    (view.batch.target view.counts view.total now).1 = .completed ∨
      (view.batch.target view.counts view.total now).1 = .failed := by
  have reached : view.total ≤ view.counts.logTotal ∧
      view.counts.logTotal ≤ view.counts.done := allDone
  simp only [SmsBatch.target, reached, and_self, if_true]
  by_cases clean : view.counts.failed = 0
  · simp [clean]
  · by_cases nothingSent : view.counts.sent = 0
    · simp [clean, nothingSent]
    · simp [clean, nothingSent]

theorem target_of_cancelled {view : ProgressView} (cancelled : view.batch.status = .cancelled)
    (open_ : ¬ view.AllDone) (now : ℕ) :
    (view.batch.target view.counts view.total now).1 =
      if fewPending view.counts view.total then .processing else .cancelled := by
  have notReached : ¬ (view.total ≤ view.counts.logTotal ∧
      view.counts.logTotal ≤ view.counts.done) := open_
  by_cases few : fewPending view.counts view.total = true
  · simp [SmsBatch.target, notReached, few]
  · simp [SmsBatch.target, notReached, few, cancelled]

theorem target_of_paused {view : ProgressView} (paused : view.batch.status = .paused)
    (open_ : ¬ view.AllDone) (now : ℕ) :
    (view.batch.target view.counts view.total now).1 = .processing := by
  have notReached : ¬ (view.total ≤ view.counts.logTotal ∧
      view.counts.logTotal ≤ view.counts.done) := open_
  by_cases few : fewPending view.counts view.total = true
  · simp [SmsBatch.target, notReached, few]
  · simp [SmsBatch.target, notReached, few, paused]

theorem updated_cancelled_iff (unicode : Unicode) {view : ProgressView} (now : ℕ)
    (cancelled : view.batch.status = .cancelled) :
    (view.updated unicode now).batch.status = .cancelled ↔
      ¬ view.AllDone ∧ fewPending view.counts view.total = false := by
  rw [status_updated]
  by_cases expires : view.Expires
  · simp [expires, expires.1]
  · rw [if_neg expires]
    by_cases allDone : view.AllDone
    · rcases target_of_allDone allDone now with completed | failed
      · simp [completed, allDone]
      · simp [failed, allDone]
    · rw [target_of_cancelled cancelled allDone]
      by_cases few : fewPending view.counts view.total = true
      · simp [few]
      · simp [few, allDone]

theorem updated_not_processing_iff (unicode : Unicode) {view : ProgressView} (now : ℕ)
    (paused : view.batch.status = .paused) :
    (view.updated unicode now).batch.status ≠ .processing ↔ view.AllDone ∨ view.Expires := by
  rw [status_updated]
  by_cases expires : view.Expires
  · simp [expires]
  · rw [if_neg expires]
    by_cases allDone : view.AllDone
    · rcases target_of_allDone allDone now with completed | failed
      · simp [completed, allDone]
      · simp [failed, allDone]
    · simp [target_of_paused paused allDone, allDone, expires]

theorem pause_of_cancelled {batch : SmsBatch} (cancelled : batch.status = .cancelled) :
    batch.pause = none := by
  simp [SmsBatch.pause, cancelled]

section

variable (unicode : Unicode) {db : Db} {batchId : ℕ} {batch : SmsBatch}

def Db.UniqueMessageIds (db : Db) : Prop :=
  (db.smsLogs.map SmsLog.messageId).Nodup

instance (db : Db) : Decidable db.UniqueMessageIds :=
  inferInstanceAs (Decidable (List.Nodup _))

theorem mem_pending_iff (unique : db.UniqueMessageIds) {row : SmsLog}
    (member : row ∈ db.smsLogs) :
    row.messageId ∈ (db.smsLogs.filter (pendingIn batchId)).map SmsLog.messageId ↔
      pendingIn batchId row = true := by
  constructor
  · intro named
    rcases List.mem_map.mp named with ⟨other, found, same⟩
    rcases List.mem_filter.mp found with ⟨otherMember, pending⟩
    have equal := List.inj_on_of_nodup_map unique otherMember member same
    rwa [← equal]
  · intro pending
    exact List.mem_map.mpr ⟨row, List.mem_filter.mpr ⟨member, pending⟩, rfl⟩

def expireRow (batchId now : ℕ) (report : String) (row : SmsLog) : SmsLog :=
  if pendingIn batchId row then
    { row with status := .expired, errorMessage := some report, sentTime := some now }
  else row

theorem smsLogs_expireLogs (unique : db.UniqueMessageIds) (now : ℕ) (report : String) :
    (expireLogs db (db.smsLogs.filter (pendingIn batchId)) now report).smsLogs =
      db.smsLogs.map (expireRow batchId now report) := by
  rw [expireLogs, Db.updateSmsLogs_smsLogs]
  apply List.map_congr_left
  intro row member
  have named := @mem_pending_iff db batchId unique row member
  by_cases pending : pendingIn batchId row = true
  · simp only [expireRow, pending, if_true, decide_eq_true (named.mpr pending)]
  · have absent := named.not.mpr pending
    simp only [expireRow, pending, decide_eq_false absent]

def statusCount (rows : List SmsLog) (batchId : ℕ) (status : SmsStatus) : ℕ :=
  (rows.filter fun row => row.batchId = some batchId).countP fun row => row.status = status

theorem statusCount_cons (row : SmsLog) (rows : List SmsLog) (status : SmsStatus) :
    statusCount (row :: rows) batchId status =
      statusCount rows batchId status +
        if row.batchId = some batchId ∧ row.status = status then 1 else 0 := by
  simp only [statusCount, List.countP_filter, List.countP_cons, Bool.and_eq_true,
    decide_eq_true_eq]
  simp only [and_comm]

theorem statusCount_expireRow (rows : List SmsLog) (now : ℕ) (report : String)
    (status : SmsStatus) :
    statusCount (rows.map (expireRow batchId now report)) batchId status =
      if status = .pending ∨ status = .queued then 0
      else if status = .expired then
        statusCount rows batchId .expired +
          (statusCount rows batchId .pending + statusCount rows batchId .queued)
      else statusCount rows batchId status := by
  induction rows with
  | nil => cases status <;> rfl
  | cons row rows ih =>
      have sameBatch : (expireRow batchId now report row).batchId = row.batchId := by
        rw [expireRow]
        split <;> rfl
      have newStatus : (expireRow batchId now report row).status =
          if row.batchId = some batchId ∧ (row.status = .pending ∨ row.status = .queued) then
            .expired
          else row.status := by
        simp only [expireRow, pendingIn, decide_eq_true_eq]
        split <;> rfl
      simp only [List.map_cons, statusCount_cons, ih, sameBatch, newStatus]
      by_cases inBatch : row.batchId = some batchId
      · cases row.status <;> cases status <;> simp [inBatch] <;> omega
      · cases status <;> simp [inBatch]

theorem batchCounts_expireLogs (unique : db.UniqueMessageIds) (now : ℕ) (report : String) :
    batchCounts (expireLogs db (db.smsLogs.filter (pendingIn batchId)) now report) batchId =
      (batchCounts db batchId).expirePending := by
  have sameLength : ((db.smsLogs.map (expireRow batchId now report)).filter
      fun row => row.batchId = some batchId).length =
        (db.smsLogs.filter fun row => row.batchId = some batchId).length := by
    rw [List.filter_map, List.length_map]
    congr 2
    funext row
    simp only [Function.comp, expireRow]
    split <;> rfl
  have counted := fun status =>
    @statusCount_expireRow batchId db.smsLogs now report status
  simp only [statusCount] at counted
  simp only [batchCounts, Db.batchLogs, smsLogs_expireLogs unique, counted, sameLength,
    BatchCounts.expirePending]
  simp
  omega

theorem expiringLogs_expireLogs (unique : db.UniqueMessageIds) (now : ℕ) (report : String)
    (other : SmsBatch) :
    expiringLogs ((expireLogs db (db.smsLogs.filter (pendingIn batchId)) now report).setBatch
      batchId other) batchId = none := by
  have nothing : (db.smsLogs.map (expireRow batchId now report)).filter (pendingIn batchId) =
      [] := by
    rw [List.filter_eq_nil_iff]
    intro row member
    rcases List.mem_map.mp member with ⟨old, _, rfl⟩
    by_cases pending : pendingIn batchId old = true
    · rw [expireRow, if_pos pending]
      simp [pendingIn]
    · rw [expireRow, if_neg pending]
      exact pending
  simp [expiringLogs, smsLogs_expireLogs unique, nothing]

theorem expiringLogs_eq_some {rows : List SmsLog} (found : expiringLogs db batchId = some rows) :
    rows = db.smsLogs.filter (pendingIn batchId) := by
  simp only [expiringLogs, Option.ite_none_right_eq_some, Option.some.injEq] at found
  exact found.2.symm

theorem progressPlan_of_not_expires (numbered : batchId ≠ 0)
    (found : db.batches batchId = some batch) (now : ℕ)
    (lasting : ¬ (ProgressView.of db batchId batch).Expires) :
    progressPlan unicode db batchId now =
      if batch.unchanged unicode
          (batch.inLine (batchCounts db batchId) (batch.total (batchCounts db batchId)) now) then
        .nothing
      else .write (batch.inLine (batchCounts db batchId) (batch.total (batchCounts db batchId))
        now) := by
  have kept : (if fewPending (batchCounts db batchId) (batch.total (batchCounts db batchId)) then
      expiringLogs db batchId else none) = none := by
    by_cases few : fewPending (batchCounts db batchId)
        (batch.total (batchCounts db batchId)) = true
    · rw [if_pos few]
      by_contra some
      exact lasting ⟨few, Option.isSome_iff_ne_none.mpr some⟩
    · rw [if_neg few]
  simp only [progressPlan, numbered, if_false, found, kept]

theorem updateBatchProgress_view (unique : db.UniqueMessageIds) (numbered : batchId ≠ 0)
    (found : db.batches batchId = some batch) (now : ℕ) (report : String) :
    ∃ after, (db.updateBatchProgress unicode batchId now report).batches batchId = some after ∧
      ProgressView.of (db.updateBatchProgress unicode batchId now report) batchId after =
        (ProgressView.of db batchId batch).updated unicode now := by
  by_cases expires : (ProgressView.of db batchId batch).Expires
  · rcases Option.isSome_iff_exists.mp expires.2 with ⟨rows, expiring⟩
    have few : fewPending (batchCounts db batchId) (batch.total (batchCounts db batchId)) = true :=
      expires.1
    have pending := expiringLogs_eq_some expiring
    subst pending
    have counted := @batchCounts_expireLogs db batchId unique now report
    rw [ProgressView.updated, if_pos expires]
    simp only [Db.updateBatchProgress, progressPlan, numbered, if_false, found, few, if_true,
      expiring, counted]
    refine ⟨batch.afterExpiry (batchCounts db batchId).expirePending
      (batch.total (batchCounts db batchId)) now, by simp [Db.setBatch], ?_⟩
    rw [ProgressView.of, expiringLogs_expireLogs unique]
    congr 1
  · rw [ProgressView.updated, if_neg expires, Db.updateBatchProgress,
      progressPlan_of_not_expires unicode numbered found now expires]
    by_cases same : batch.unchanged unicode
        (batch.inLine (batchCounts db batchId) (batch.total (batchCounts db batchId)) now) = true
    · rw [if_pos same]
      refine ⟨batch, found, ?_⟩
      exact (if_pos same).symm
    · rw [if_neg same]
      refine ⟨batch.inLine (batchCounts db batchId) (batch.total (batchCounts db batchId)) now,
        by simp [Db.setBatch], ?_⟩
      exact (if_neg same).symm

end

theorem decisionKept_iff {unicode : Unicode} {before after : ProgressView}
    {event : ProgressEvent} (step : before.next unicode event = some after) :
    DecisionKept before event after ↔ RespectsDecision before event := by
  cases event with
  | messages counts virtualPending =>
      cases step
      simp [DecisionKept, RespectsDecision]
  | pauseBatch =>
      have stays : before.batch.status ≠ .cancelled := by
        intro cancelled
        simp [ProgressView.next, pause_of_cancelled cancelled] at step
      simp [DecisionKept, RespectsDecision, stays]
  | updateBatchProgress now =>
      cases step
      have known : ∃ time, ProgressEvent.updateBatchProgress now = .updateBatchProgress time :=
        ⟨now, rfl⟩
      simp only [DecisionKept, RespectsDecision, known, forall_const]
      apply and_congr
      · exact forall_congr' fun cancelled => updated_cancelled_iff unicode now cancelled
      · exact forall_congr' fun paused => updated_not_processing_iff unicode now paused

/-- The decisions of the operator survive a run exactly when each of its aggregations
respects them, and then a batch that was cancelled at the start is so throughout. -/
theorem decisions_survive_iff {unicode : Unicode} {first last : ProgressView}
    {transitions : List (Transition ProgressView ProgressEvent)}
    (run : ProgressRun unicode first transitions last) :
    ((∀ transition ∈ transitions,
        DecisionKept transition.before transition.label transition.after) ↔
      ∀ transition ∈ transitions, RespectsDecision transition.before transition.label) ∧
    ((∀ transition ∈ transitions, RespectsDecision transition.before transition.label) →
      first.batch.status = .cancelled →
        last.batch.status = .cancelled ∧
          ∀ transition ∈ transitions, transition.after.batch.status = .cancelled) := by
  constructor
  · have agree := fun before event after
      (step : ProgressView.next unicode before event = some after) (_ : True) =>
        decisionKept_iff step
    exact Run.forall_iff (fun _ _ _ _ _ => trivial) agree run trivial
  · intro respected cancelled
    have preserved : ∀ before event after,
        Guarded (fun before event after => ProgressView.next unicode before event = some after)
          RespectsDecision before event after →
        before.batch.status = .cancelled → after.batch.status = .cancelled := by
      intro before event after step stillCancelled
      exact ((decisionKept_iff step.1).mpr step.2).1 stillCancelled
    rcases (run.guarded respected).invariant preserved cancelled with ⟨atEnd, inside⟩
    exact ⟨atEnd, fun transition member => (inside transition member).2⟩

def openView (status : BatchStatus) : ProgressView where
  batch := ⟨2, 1, 0, 0, 1, 50, status, none, none⟩
  counts := ⟨2, 1, 0, 0, 1⟩
  virtualPending := false

/-- An aggregation of the cancelled batch respects the decision while one message is open. -/
theorem decisions_survive_iff_openView :
    let view := openView .cancelled
    let transitions : List (Transition ProgressView ProgressEvent) :=
      [⟨view, .updateBatchProgress 9, view.updated Unicode.ascii 9⟩]
    ((∀ transition ∈ transitions,
        DecisionKept transition.before transition.label transition.after) ↔
      ∀ transition ∈ transitions, RespectsDecision transition.before transition.label) ∧
    ((∀ transition ∈ transitions, RespectsDecision transition.before transition.label) →
      view.batch.status = .cancelled →
        (view.updated Unicode.ascii 9).batch.status = .cancelled ∧
          ∀ transition ∈ transitions, transition.after.batch.status = .cancelled) :=
  decisions_survive_iff (.cons rfl (.nil _))

/-- An aggregation takes a paused batch to processing and, once its last message is sent, a
cancelled one to completed. -/
theorem decisions_overridden :
    ((openView .processing).next Unicode.ascii .pauseBatch = some (openView .paused) ∧
      ∃ transitions last, ProgressRun Unicode.ascii (openView .paused) transitions last ∧
        last.batch.status = .processing ∧
        ¬ ∀ transition ∈ transitions,
          DecisionKept transition.before transition.label transition.after) ∧
    ∃ transitions last, ProgressRun Unicode.ascii (openView .cancelled) transitions last ∧
      last.batch.status = .completed ∧
      ¬ ∀ transition ∈ transitions,
        DecisionKept transition.before transition.label transition.after := by
  constructor
  · refine ⟨rfl, [⟨openView .paused, .updateBatchProgress 9, _⟩], _, .cons rfl (.nil _), by decide,
      ?_⟩
    intro kept
    exact (kept _ List.mem_cons_self).2 rfl ⟨9, rfl⟩ (by decide)
  · refine ⟨[⟨_, .messages ⟨2, 2, 0, 0, 0⟩ false, _⟩, ⟨_, .updateBatchProgress 9, _⟩], _,
      .cons rfl (.cons rfl (.nil _)), by decide, ?_⟩
    intro kept
    have ended := (kept _ (List.mem_cons_of_mem _ List.mem_cons_self)).1 rfl
    revert ended
    decide

end Klsmsc
