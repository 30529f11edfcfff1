import Klsmsc.Library.Runs
import Klsmsc.Retry.Bills

/-!
# Covered charges

Every charge of a row is a submission of it: it is enqueued or not, and something
of it may be credited back as long as it is the latest one. The history of a row
is the list of its submissions, the latest first. A history goes on with calls of
`retry_batch_failed`, with successes of the refund service, and with whatever
else leaves prices and refunds alone.

A submission that is enqueued stays charged when it fails and the row is charged
again, so what a row costs in the end is the sum over its enqueued submissions.
-/

namespace Klsmsc

open Library

structure Submission where
  charge : Money
  isEnqueued : Bool
  refund : Money
  deriving DecidableEq, Repr

structure RetryState where
  db : Db
  history : ℕ → List Submission

def creditLatest (amount : Money) : List Submission → List Submission
  | [] => []
  | latest :: earlier => { latest with refund := latest.refund + amount } :: earlier

def Retried.submission (outcome : Retried) : Submission :=
  ⟨outcome.amount, outcome.isEnqueued, outcome.credited⟩

def recordRetry (history : ℕ → List Submission) (outcomes : List Retried) (id : ℕ) :
    List Submission :=
  match outcomes.find? fun outcome => outcome.row.id = id with
  | none => history id
  | some outcome => outcome.submission :: history id

inductive RetryLabel where
  | retryBatchFailed (batchId accountId : ℕ) (skipSmsCharge : Bool)
  | refund (call : RefundCall) (now : ℕ)
  | others (db : Db)

namespace RetryState

def next (env : ChunkEnv) (state : RetryState) : RetryLabel → Option RetryState
  | .retryBatchFailed batchId accountId skipSmsCharge =>
      match retryBatchFailed env state.db batchId accountId skipSmsCharge with
      | .retried after outcomes _ _ =>
          some
            { db := after
              history :=
                if skipSmsCharge then state.history else recordRetry state.history outcomes }
      | _ => some state
  | .refund call now =>
      some
        { db := refundBy env.unicode state.db call now
          history := Function.update state.history call.smsLogId
            (creditLatest (creditOf env.unicode state.db call) (state.history call.smsLogId)) }
  | .others db => if db.bills = state.db.bills then some { state with db := db } else none

def start (db : Db) (enqueued : ℕ → Bool) : RetryState where
  db := db
  history id :=
    match db.smsLogs.find? fun row => row.id = id with
    | none => []
    | some row => [⟨row.price, enqueued id, row.refundedAmount.getD 0⟩]

end RetryState

def RetryStep (env : ChunkEnv) (before : RetryState) (label : RetryLabel)
    (after : RetryState) : Prop :=
  before.next env label = some after

def FirstCovered (db : Db) (enqueued : ℕ → Bool) : Prop :=
  ∀ row ∈ db.smsLogs, enqueued row.id = false →
    row.refundedAmount.getD 0 = row.price ∧ (row.refundedAt ≠ none ∨ row.price ≤ 0)

def RetryResult.outcomes : RetryResult → List Retried
  | .retried _ outcomes _ _ => outcomes
  | _ => []

def ChargesUnrefunded (env : ChunkEnv) (state : RetryState) : RetryLabel → Prop
  | .retryBatchFailed batchId accountId false =>
      ∀ outcome ∈ (retryBatchFailed env state.db batchId accountId false).outcomes,
        outcome.isEnqueued = false →
          outcome.amount = 0 ∨ 0 < outcome.amount ∧ outcome.row.refundedAt = none
  | _ => True

instance (env : ChunkEnv) (state : RetryState) :
    (label : RetryLabel) → Decidable (ChargesUnrefunded env state label)
  | .retryBatchFailed _ _ false => inferInstanceAs (Decidable (∀ _ ∈ _, _ → _ ∨ _))
  | .retryBatchFailed _ _ true => isTrue trivial
  | .refund _ _ => isTrue trivial
  | .others _ => isTrue trivial

def totalCharges (history : List Submission) : Money :=
  (history.map Submission.charge).sum

def totalRefunds (history : List Submission) : Money :=
  (history.map Submission.refund).sum

def enqueuedCost (history : List Submission) : Money :=
  ((history.filter Submission.isEnqueued).map fun submission =>
    submission.charge - submission.refund).sum

/-- Every charge whose message could not be enqueued was credited back, so that a row has
cost what its enqueued submissions cost. -/
def RetryState.Covered (state : RetryState) : Prop :=
  ∀ id, (∀ submission ∈ state.history id, submission.isEnqueued = false →
      submission.refund = submission.charge) ∧
    totalCharges (state.history id) - totalRefunds (state.history id) =
      enqueuedCost (state.history id)

theorem creditLatest_zero (history : List Submission) : creditLatest 0 history = history := by
  cases history <;> simp [creditLatest]

/-- What holds of the submissions of a row as long as no charge of a refunded row fails to
be enqueued: those that were not enqueued are credited, and the latest of them cannot be
credited again. -/
structure RetryInvariant (state : RetryState) : Prop where
  keyed : state.db.Keyed
  covered : ∀ id, ∀ submission ∈ state.history id, submission.isEnqueued = false →
    submission.refund = submission.charge
  closed : ∀ bill ∈ state.db.bills, ∀ latest earlier, state.history bill.id = latest :: earlier →
    latest.isEnqueued = false → bill.isRefunded = true ∨ bill.price ≤ 0

namespace RetryInvariant

variable {env : ChunkEnv} {state : RetryState}

theorem start {db : Db} (keyed : db.Keyed) {enqueued : ℕ → Bool}
    (first : FirstCovered db enqueued) : RetryInvariant (RetryState.start db enqueued) where
  keyed := keyed
  covered := by
    intro id submission member failed
    simp only [RetryState.start] at member
    split at member
    · simp at member
    · rename_i row found
      rw [List.mem_singleton] at member
      subst submission
      have isRow : row.id = id := by
        have hit := List.find?_some found
        exact of_decide_eq_true hit
      subst id
      exact (first row (List.mem_of_find?_eq_some found) failed).1
  closed := by
    intro bill member latest earlier history failed
    rcases List.mem_map.mp member with ⟨row, rowMem, rfl⟩
    have found := find?_of_key keyed.ids rowMem
    simp only [RetryState.start, SmsLog.bill, found, List.cons.injEq] at history
    rw [← history.1] at failed
    rcases (first row rowMem failed).2 with refunded | free
    · left
      simpa [SmsLog.bill, Option.isSome_iff_ne_none] using refunded
    · exact Or.inr free

theorem of_bills {db : Db} (inv : RetryInvariant state) (bills : db.bills = state.db.bills) :
    RetryInvariant { state with db := db } where
  keyed := inv.keyed.of_map (bills.trans (List.map_id _).symm) (fun _ => rfl) fun _ => rfl
  covered := inv.covered
  closed := by
    simp only [bills]
    exact inv.closed

theorem retried {db : Db} (inv : RetryInvariant state) {outcomes : List Retried}
    (spec : RetrySpec state.db db outcomes)
    (unrefunded : ∀ outcome ∈ outcomes, outcome.isEnqueued = false →
      outcome.amount = 0 ∨ 0 < outcome.amount ∧ outcome.row.refundedAt = none) :
    RetryInvariant ⟨db, recordRetry state.history outcomes⟩ where
  keyed := spec.keyed
  covered := by
    intro id submission member failed
    simp only [recordRetry] at member
    split at member
    · exact inv.covered id submission member failed
    · rename_i outcome found
      rcases List.mem_cons.mp member with rfl | old
      · have outcomeMem := List.mem_of_find?_eq_some found
        simp only [Retried.submission] at failed ⊢
        rw [spec.credited outcome outcomeMem failed]
        rcases unrefunded outcome outcomeMem failed with free | isFirst
        · simp [free]
        · simp [isFirst]
      · exact inv.covered id submission old failed
  closed := by
    intro bill member latest earlier history failed
    simp only [recordRetry] at history
    split at history
    · rename_i notFound
      refine inv.closed bill (spec.untouched bill member ?_) latest earlier history failed
      intro outcome outcomeMem isRow
      have absent := List.find?_eq_none.mp notFound outcome outcomeMem
      exact absent (decide_eq_true isRow)
    · rename_i outcome found
      rw [List.cons.injEq] at history
      have hit := List.find?_some found
      rw [← history.1] at failed
      exact spec.settled bill member outcome (List.mem_of_find?_eq_some found)
        (of_decide_eq_true hit) failed

theorem refund (inv : RetryInvariant state) (call : RefundCall) (now : ℕ) :
    RetryInvariant
      { db := refundBy env.unicode state.db call now
        history := Function.update state.history call.smsLogId
          (creditLatest (creditOf env.unicode state.db call) (state.history call.smsLogId)) } := by
  rcases bills_refundBy env.unicode state.db call now with
    ⟨bills, nothing⟩ | ⟨row, rowMem, isRow, unrefunded, positive, bills, credited⟩
  · rw [nothing, creditLatest_zero, Function.update_eq_self]
    exact inv.of_bills bills
  · have enqueued : ∀ latest earlier, state.history call.smsLogId = latest :: earlier →
        latest.isEnqueued = true := by
      intro latest earlier history
      by_contra failed
      rw [← isRow] at history
      rcases inv.closed row.bill (List.mem_map_of_mem rowMem) latest earlier history
        (by simpa using failed) with refunded | free
      · simp [SmsLog.bill, unrefunded] at refunded
      · exact absurd positive (Int.not_lt.mpr free)
    constructor
    · exact inv.keyed.of_map bills (by simp) (by simp)
    · intro id submission member failed
      simp only at member
      by_cases same : id = call.smsLogId
      · subst id
        rw [Function.update_self] at member
        cases history : state.history call.smsLogId with
        | nil => simp [history, creditLatest] at member
        | cons latest earlier =>
            rw [history] at member
            rcases List.mem_cons.mp member with rfl | old
            · simp [enqueued latest earlier history] at failed
            · exact inv.covered call.smsLogId submission (by simp [history, old]) failed
      · rw [Function.update_of_ne same] at member
        exact inv.covered id submission member failed
    · intro bill member latest earlier history failed
      simp only at member history
      rw [bills] at member
      rcases List.mem_map.mp member with ⟨old, oldMem, rfl⟩
      by_cases same : old.id = row.id
      · left
        simp [Bill.refunded, same]
      · have isOld : old.refunded row.id = old := if_neg same
        rw [isOld] at history ⊢
        rw [Function.update_of_ne (isRow ▸ same)] at history
        exact inv.closed old oldMem latest earlier history failed

theorem step {after : RetryState} (inv : RetryInvariant state) {label : RetryLabel}
    (step : RetryStep env state label after) (unrefunded : ChargesUnrefunded env state label) :
    RetryInvariant after := by
  cases label with
  | retryBatchFailed batchId accountId skipSmsCharge =>
      simp only [RetryStep, RetryState.next] at step
      split at step
      · rename_i db outcomes skipped pendingSkipped ended
        cases step
        rcases retryBatchFailed_spec inv.keyed ended with ⟨rfl, bills⟩ | ⟨rfl, spec⟩
        · exact inv.of_bills bills
        · simp only [ChargesUnrefunded, ended, RetryResult.outcomes] at unrefunded
          exact inv.retried spec unrefunded
      · cases step
        exact inv
  | refund call now =>
      cases step
      exact inv.refund call now
  | others db =>
      simp only [RetryStep, RetryState.next] at step
      split at step
      · rename_i bills
        cases step
        exact inv.of_bills bills
      · cases step

theorem total_eq_enqueuedCost {history : List Submission}
    (covered : ∀ submission ∈ history, submission.isEnqueued = false →
      submission.refund = submission.charge) :
    totalCharges history - totalRefunds history = enqueuedCost history := by
  induction history with
  | nil => rfl
  | cons latest earlier ih =>
      have rest := ih fun submission member => covered submission (by simp [member])
      simp only [totalCharges, totalRefunds, enqueuedCost, List.map_cons, List.sum_cons] at rest ⊢
      cases enqueued : latest.isEnqueued with
      | true =>
          rw [List.filter_cons_of_pos enqueued, List.map_cons, List.sum_cons, ← rest]
          ring
      | false =>
          rw [List.filter_cons_of_neg (by simp [enqueued]), ← rest,
            covered latest (by simp) enqueued]
          ring

theorem balanced (inv : RetryInvariant state) : state.Covered :=
  fun id => ⟨inv.covered id, total_eq_enqueuedCost (inv.covered id)⟩

end RetryInvariant

/-- In every history of the rows in which the first submissions that were not enqueued have
been credited and no row that was refunded before is charged again and then not enqueued,
every charge of `retry_batch_failed` whose message it cannot enqueue is credited back, and a
row costs what its enqueued submissions cost. -/
theorem retries_covered {env : ChunkEnv} {db : Db} {enqueued : ℕ → Bool} (keyed : db.Keyed)
    (first : FirstCovered db enqueued) {transitions : List (Transition RetryState RetryLabel)}
    {last : RetryState} (run : Run (RetryStep env) (RetryState.start db enqueued) transitions last)
    (unrefunded : ∀ transition ∈ transitions,
      ChargesUnrefunded env transition.before transition.label) :
    last.Covered ∧ ∀ transition ∈ transitions, transition.after.Covered := by
  have preserved : ∀ before label after,
      Guarded (RetryStep env) (ChargesUnrefunded env) before label after →
        RetryInvariant before → RetryInvariant after :=
    fun _ _ _ guarded inv => inv.step guarded.1 guarded.2
  rcases (run.guarded unrefunded).invariant preserved (.start keyed first) with ⟨atEnd, inside⟩
  exact ⟨atEnd.balanced, fun transition member => (inside transition member).2.balanced⟩

def failedBatchLog : SmsLog := { failedSmsLog with batchId := some 1 }

def failedBatchDb (row : SmsLog) : Db :=
  { failedDb with
    smsLogs := [row]
    batches := fun _ => some ⟨1, 0, 0, 1, 0, 100, .completed, none, none⟩ }

def retryEnv (isDown : Bool) : ChunkEnv :=
  { ChunkEnv.plain (.plain .http) 30 with publishFails := fun _ _ => isDown }

def refundedBatchLog : SmsLog :=
  { failedBatchLog with refundedAt := some 4, refundedAmount := some 30 }

theorem exists_retry (env : ChunkEnv) (row : SmsLog) (check : RetryState → Bool)
    (passed : (execute (RetryState.next env) (.start (failedBatchDb row) fun _ => true)
      [.retryBatchFailed 1 1 false]).any (fun outcome => check outcome.2) = true) :
    ∃ transitions last,
      Run (RetryStep env) (.start (failedBatchDb row) fun _ => true) transitions last ∧
        check last = true := by
  rcases Run.exists_of_execute (fun outcome => check outcome.2) passed with
    ⟨transitions, last, run, checked⟩
  exact ⟨transitions, last, run, checked⟩

/-- A row that has failed is charged again and enqueued, and has then cost twice its price;
and a row that was refunded is charged again, not enqueued, and not credited. -/
theorem retries_not_covered :
    (∃ transitions last,
      Run (RetryStep (retryEnv false)) (.start (failedBatchDb failedBatchLog) fun _ => true)
        transitions last ∧
      last.history 1 = [⟨30, true, 0⟩, ⟨30, true, 0⟩] ∧
      totalCharges (last.history 1) - totalRefunds (last.history 1) ≠ failedBatchLog.price) ∧
    ∃ transitions last,
      Run (RetryStep (retryEnv true)) (.start (failedBatchDb refundedBatchLog) fun _ => true)
        transitions last ∧
      last.history 1 = [⟨30, false, 0⟩, ⟨30, true, 30⟩] ∧
      totalCharges (last.history 1) - totalRefunds (last.history 1) ≠ 0 := by
  rcases exists_retry (retryEnv false) failedBatchLog
    (fun state => decide (state.history 1 = [⟨30, true, 0⟩, ⟨30, true, 0⟩]))
    (by decide) with ⟨transitions, last, run, twice⟩
  rcases exists_retry (retryEnv true) refundedBatchLog
    (fun state => decide (state.history 1 = [⟨30, false, 0⟩, ⟨30, true, 30⟩]))
    (by decide) with ⟨transitions', last', run', lost⟩
  have twice := of_decide_eq_true twice
  have lost := of_decide_eq_true lost
  refine ⟨⟨transitions, last, run, twice, ?_⟩, transitions', last', run', lost, ?_⟩
  · rw [twice]
    decide
  · rw [lost]
    decide

/-- A failed row is charged again and cannot be enqueued. -/
theorem retries_covered_once :
    ∃ transitions last,
      Run (RetryStep (retryEnv true)) (.start (failedBatchDb failedBatchLog) fun _ => true)
        transitions last ∧
      last.history 1 = [⟨30, false, 30⟩, ⟨30, true, 0⟩] ∧ last.Covered := by
  have passed : (execute (RetryState.next (retryEnv true))
      (.start (failedBatchDb failedBatchLog) fun _ => true) [.retryBatchFailed 1 1 false]).any
      (fun outcome =>
        decide (∀ transition ∈ outcome.1,
          ChargesUnrefunded (retryEnv true) transition.before transition.label) &&
        decide (outcome.2.history 1 = [⟨30, false, 30⟩, ⟨30, true, 0⟩])) = true := by
    decide
  rcases Run.exists_of_execute _ passed with ⟨transitions, last, run, checked⟩
  simp only [Bool.and_eq_true, decide_eq_true_eq] at checked
  exact ⟨transitions, last, run, checked.2,
    (retries_covered ⟨by decide, by decide⟩ (fun _ _ failed => by cases failed) run checked.1).1⟩

end Klsmsc
