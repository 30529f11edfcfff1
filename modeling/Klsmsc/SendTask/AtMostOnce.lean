import Klsmsc.SendTask

/-!
# At most one submission

The claim of a row by a send task is a check and a later write: the status is
read when the row is loaded and `sent` is written some queries later, without
looking at the row again. Two tasks can pass the check before either of them
writes. If no task claims a row that is already claimed, the row is submitted at
most once between two points at which it was put back to `queued`.
-/

namespace Klsmsc

open Library

def SendStage.inFlight : SendStage → Bool
  | claimed _ _ => true
  | answered _ _ _ => true
  | _ => false

/-- What a task knows of its object and its channel at a stage, on a row whose
channel is an HTTP or RCS channel. -/
def SendStage.Valid : SendStage → Prop
  | waiting => True
  | loaded orm => orm.memory.status = orm.loaded.status
  | licensed orm => orm.memory.status = orm.loaded.status
  | checked orm => orm.memory.status = orm.loaded.status ∧ orm.loaded.status.isUnsent = true
  | cleared orm => orm.memory.status = orm.loaded.status ∧ orm.loaded.status.isUnsent = true
  | routed orm channel => orm.memory.status = orm.loaded.status ∧
      orm.loaded.status.isUnsent = true ∧ channel.protocol = .http
  | linked orm channel => orm.memory.status = orm.loaded.status ∧
      orm.loaded.status.isUnsent = true ∧ channel.protocol = .http
  | ready orm channel => orm.memory.status = orm.loaded.status ∧
      orm.loaded.status.isUnsent = true ∧ channel.protocol = .http
  | claimed orm channel => orm.memory.status = orm.loaded.status ∧ channel.protocol = .http
  | answered orm channel _ => orm.memory.status = orm.loaded.status ∧ channel.protocol = .http
  | failing orm => orm.memory.status = .failed
  | done => True

def SendEvent.OnHttp : SendEvent → Prop
  | route (some channel) => channel.protocol = .http
  | _ => True

/-- When a task claims the row, no other task has: it is still `pending` or `queued`. -/
def ClaimsUnsent (state : SendState) (label : SendLabel) : Prop :=
  match label.event with
  | .claim _ => state.row.status.isUnsent = true
  | _ => True

instance (event : SendEvent) : Decidable event.OnHttp := by
  unfold SendEvent.OnHttp
  split <;> infer_instance

instance (state : SendState) (label : SendLabel) : Decidable (ClaimsUnsent state label) := by
  unfold ClaimsUnsent
  split <;> infer_instance

inductive TurnEffect (row : SmsLog) (stage : SendStage) (event : SendEvent)
    (next : SendStage) (flushed : Option Orm) : Prop where
  | claim (now : ℕ) (isClaim : event = .claim now) (before : stage.inFlight = false)
      (submitted : ∀ count, countSubmissions stage event count = count)
      (claimed : ∃ orm channel, next = .claimed orm channel)
      (status : (row.afterCommit flushed).status = .sent)
  | submit {orm : Orm} {channel : Channel} (before : stage = .claimed orm channel)
      (submitted : ∀ count, countSubmissions stage event count = count + 1)
      (answered : ∃ orm channel answer, next = .answered orm channel answer)
      (status : (row.afterCommit flushed).status = row.status)
  | retry {orm : Orm} {channel : Channel} {error : String}
      (before : stage = .answered orm channel (.retry error))
      (submitted : ∀ count, countSubmissions stage event count = 0)
      (after : next.inFlight = false)
  | other (submitted : ∀ count, countSubmissions stage event count = count)
      (after : next.inFlight = false)
      (status : (row.afterCommit flushed).status = row.status ∨
        (row.afterCommit flushed).status = .failed)

theorem Orm.flush_status (orm : Orm) (row : SmsLog) :
    (orm.flush row).status =
      if orm.memory.status = orm.loaded.status then row.status else orm.memory.status := rfl

theorem flush_status_of_same {orm : Orm} (same : orm.memory.status = orm.loaded.status)
    (row : SmsLog) : (orm.flush row).status = row.status := by
  rw [Orm.flush_status, if_pos same]

theorem flush_status_of_failed {orm : Orm} (failed : orm.memory.status = .failed)
    (row : SmsLog) : (orm.flush row).status = row.status ∨ (orm.flush row).status = .failed := by
  rw [Orm.flush_status, failed]
  split
  · exact Or.inl rfl
  · exact Or.inr rfl

section Turn

variable {row : SmsLog} {stage next : SendStage} {event : SendEvent} {flushed : Option Orm}

theorem TurnEffect.of_none (submitted : ∀ count, countSubmissions stage event count = count)
    (after : next.inFlight = false) : TurnEffect row stage event next none :=
  .other submitted after (Or.inl rfl)

theorem TurnEffect.of_failed {orm : Orm} (failed : orm.memory.status = .failed)
    (submitted : ∀ count, countSubmissions stage event count = count)
    (after : next.inFlight = false) : TurnEffect row stage event next (some orm) :=
  .other submitted after (flush_status_of_failed failed row)

theorem TurnEffect.of_same {orm : Orm} (same : orm.memory.status = orm.loaded.status)
    (submitted : ∀ count, countSubmissions stage event count = count)
    (after : next.inFlight = false) : TurnEffect row stage event next (some orm) :=
  .other submitted after (Or.inl (flush_status_of_same same row))

theorem checkStatus_effect {orm : Orm} {status : Option BatchStatus}
    (valid : orm.memory.status = orm.loaded.status)
    (turn : checkStatus orm status = (next, flushed)) :
    next.Valid ∧ TurnEffect row (.licensed orm) (.batch status) next flushed := by
  unfold checkStatus at turn
  split at turn
  · cases turn
    exact ⟨trivial, .of_failed rfl (fun _ => rfl) rfl⟩
  · split at turn
    · cases turn
      exact ⟨trivial, .of_none (fun _ => rfl) rfl⟩
    · split at turn
      · rename_i unsent
        cases turn
        exact ⟨⟨valid, valid ▸ unsent⟩, .of_none (fun _ => rfl) rfl⟩
      · cases turn
        exact ⟨trivial, .of_none (fun _ => rfl) rfl⟩

theorem settleAnswer_effect {orm : Orm} {channel : Channel} {answer : AdapterAnswer}
    (valid : orm.memory.status = orm.loaded.status)
    (turn : settleAnswer orm answer = (next, flushed)) :
    next.Valid ∧ TurnEffect row (.answered orm channel answer) .settle next flushed := by
  cases answer with
  | success assigned =>
      cases turn
      exact ⟨trivial, .of_same valid (fun _ => rfl) rfl⟩
  | failure error =>
      cases turn
      exact ⟨trivial, .of_failed rfl (fun _ => rfl) rfl⟩
  | retry error =>
      cases turn
      exact ⟨trivial, .retry rfl (fun _ => rfl) rfl⟩

theorem isUnsent_ne_sent {status : SmsStatus} (unsent : status.isUnsent = true) :
    status ≠ .sent := by
  rintro rfl
  cases unsent

theorem sendTurn_effect (valid : stage.Valid) (onHttp : event.OnHttp)
    (turn : sendTurn row stage event = some (next, flushed)) :
    next.Valid ∧ TurnEffect row stage event next flushed := by
  unfold sendTurn at turn
  split at turn
  case h_1 =>
      cases turn
      exact ⟨rfl, .of_none (fun _ => rfl) rfl⟩
  case h_2 =>
      cases turn
      exact ⟨valid, .of_none (fun _ => rfl) rfl⟩
  case h_3 =>
      cases turn
      exact ⟨trivial, .of_failed rfl (fun _ => rfl) rfl⟩
  case h_4 => exact checkStatus_effect valid (Option.some.inj turn)
  case h_5 =>
      split at turn
      · cases turn
        exact ⟨trivial, .of_failed rfl (fun _ => rfl) rfl⟩
      · cases turn
        exact ⟨valid, .of_none (fun _ => rfl) rfl⟩
  case h_6 =>
      cases turn
      exact ⟨trivial, .of_failed rfl (fun _ => rfl) rfl⟩
  case h_7 =>
      cases turn
      exact ⟨⟨valid.1, valid.2, onHttp⟩, .of_none (fun _ => rfl) rfl⟩
  case h_8 =>
      cases turn
      exact ⟨valid, .of_none (fun _ => rfl) rfl⟩
  case h_9 orm channel message =>
      cases turn
      have unsent : orm.memory.status.isUnsent = true := valid.1 ▸ valid.2.1
      exact ⟨⟨rfl, unsent, valid.2.2⟩, .of_same valid.1 (fun _ => rfl) rfl⟩
  case h_10 =>
      split at turn
      · rename_i smpp
        rw [valid.2.2] at smpp
        cases smpp.1
      · split at turn
        · cases turn
          exact ⟨trivial, .of_none (fun _ => rfl) rfl⟩
        · cases turn
          exact ⟨valid, .of_none (fun _ => rfl) rfl⟩
  case h_11 orm channel now =>
      cases turn
      refine ⟨⟨rfl, valid.2.2⟩, .claim now rfl rfl (fun _ => rfl) ⟨_, _, rfl⟩ ?_⟩
      have changed : ¬SmsStatus.sent = orm.loaded.status := fun same =>
        isUnsent_ne_sent valid.2.1 same.symm
      simp [SmsLog.afterCommit, Orm.flush_status, Orm.assign, changed]
  case h_12 orm channel answer =>
      split at turn
      · rename_i smpp
        rw [valid.2] at smpp
        cases smpp
      · cases turn
        refine ⟨valid, .submit rfl ?_ ⟨_, _, _, rfl⟩ rfl⟩
        intro count
        simp [countSubmissions, valid.2]
  case h_13 => exact settleAnswer_effect valid.1 (Option.some.inj turn)
  case h_14 =>
      cases turn
      exact ⟨rfl, .of_none (fun _ => rfl) rfl⟩
  case h_15 =>
      cases turn
      exact ⟨trivial, .of_failed valid (fun _ => rfl) rfl⟩
  case h_16 =>
      cases turn
      refine ⟨trivial, .of_none (fun _ => ?_) rfl⟩
      unfold countSubmissions
      split <;> simp_all
  case h_17 => cases turn

end Turn

/-- The invariant behind at most one submission: one task at most has claimed
the row, it has done so before the row was submitted, and a row that is claimed
or submitted is neither `pending` nor `queued`. -/
structure SubmissionInvariant (state : SendState) : Prop where
  valid : ∀ task, (state.stages task).Valid
  single : ∀ task other, (state.stages task).inFlight = true →
    (state.stages other).inFlight = true → task = other
  claimed : ∀ task orm channel, state.stages task = .claimed orm channel → state.submissions = 0
  bound : state.submissions ≤ 1
  taken : (∃ task, (state.stages task).inFlight = true) ∨ state.submissions = 1 →
    state.row.status.isUnsent = false

theorem SubmissionInvariant.start (row : SmsLog) : SubmissionInvariant (SendState.start row) where
  valid _ := trivial
  single _ _ inFlight := by cases inFlight
  claimed _ _ _ isClaimed := by cases isClaimed
  bound := Nat.zero_le 1
  taken := by
    rintro (⟨_, inFlight⟩ | submitted)
    · cases inFlight
    · cases submitted

theorem inFlight_update {stages : ℕ → SendStage} {task other : ℕ} {stage : SendStage}
    (inFlight : (Function.update stages task stage other).inFlight = true) :
    (other = task ∧ stage.inFlight = true) ∨ (other ≠ task ∧ (stages other).inFlight = true) := by
  by_cases same : other = task
  · subst other
    rw [Function.update_self] at inFlight
    exact Or.inl ⟨rfl, inFlight⟩
  · rw [Function.update_of_ne same] at inFlight
    exact Or.inr ⟨same, inFlight⟩

theorem claimed_update {stages : ℕ → SendStage} {task other : ℕ} {stage : SendStage}
    {orm : Orm} {channel : Channel} (quiet : stage.inFlight = false)
    (isClaimed : Function.update stages task stage other = .claimed orm channel) :
    stages other = .claimed orm channel := by
  by_cases same : other = task
  · subst other
    rw [Function.update_self] at isClaimed
    subst stage
    cases quiet
  · rwa [Function.update_of_ne same] at isClaimed

namespace SubmissionInvariant

variable {state : SendState} {task : ℕ} {stage : SendStage} {row : SmsLog}

theorem valid_update (inv : SubmissionInvariant state) (valid : stage.Valid) (other : ℕ) :
    (Function.update state.stages task stage other).Valid := by
  by_cases same : other = task
  · subst other
    rwa [Function.update_self]
  · rw [Function.update_of_ne same]
    exact inv.valid other

theorem free_of_unsent (inv : SubmissionInvariant state)
    (unsent : state.row.status.isUnsent = true) :
    (∀ other, (state.stages other).inFlight = false) ∧ state.submissions = 0 := by
  have untaken : ¬((∃ task, (state.stages task).inFlight = true) ∨ state.submissions = 1) := by
    intro taken
    rw [inv.taken taken] at unsent
    cases unsent
  have bound := inv.bound
  constructor
  · intro other
    by_contra inFlight
    exact untaken (Or.inl ⟨other, by simpa using inFlight⟩)
  · have notOne : ¬state.submissions = 1 := fun one => untaken (Or.inr one)
    omega

theorem after_claim (inv : SubmissionInvariant state)
    (unsent : state.row.status.isUnsent = true) (valid : stage.Valid)
    (taken : row.status.isUnsent = false) :
    SubmissionInvariant ⟨row, Function.update state.stages task stage, state.submissions⟩ := by
  rcases inv.free_of_unsent unsent with ⟨none, zero⟩
  have alone : ∀ other, (Function.update state.stages task stage other).inFlight = true →
      other = task := by
    intro other inFlight
    rcases inFlight_update inFlight with ⟨same, _⟩ | ⟨_, old⟩
    · exact same
    · rw [none other] at old
      cases old
  constructor
  · exact inv.valid_update valid
  · intro first second firstFlight secondFlight
    rw [alone first firstFlight, alone second secondFlight]
  · intro _ _ _ _
    exact zero
  · exact inv.bound
  · intro _
    exact taken

theorem after_submit (inv : SubmissionInvariant state) {orm : Orm} {channel : Channel}
    (isClaimed : state.stages task = .claimed orm channel) (valid : stage.Valid)
    (answered : ∀ orm channel, stage ≠ .claimed orm channel)
    (status : row.status = state.row.status) :
    SubmissionInvariant
      ⟨row, Function.update state.stages task stage, state.submissions + 1⟩ := by
  have zero := inv.claimed task orm channel isClaimed
  have flying : (state.stages task).inFlight = true := by
    rw [isClaimed]
    rfl
  have alone : ∀ other, (Function.update state.stages task stage other).inFlight = true →
      other = task := by
    intro other inFlight
    rcases inFlight_update inFlight with ⟨same, _⟩ | ⟨_, old⟩
    · exact same
    · exact inv.single other task old flying
  constructor
  · exact inv.valid_update valid
  · intro first second firstFlight secondFlight
    rw [alone first firstFlight, alone second secondFlight]
  · intro other orm' channel' stillClaimed
    simp only at stillClaimed
    have same := alone other (by rw [stillClaimed]; rfl)
    subst other
    rw [Function.update_self] at stillClaimed
    exact absurd stillClaimed (answered orm' channel')
  · simp [zero]
  · intro _
    rw [status]
    exact inv.taken (Or.inl ⟨task, flying⟩)

theorem after_retry (inv : SubmissionInvariant state)
    (flying : (state.stages task).inFlight = true) (valid : stage.Valid)
    (quiet : stage.inFlight = false) :
    SubmissionInvariant ⟨row, Function.update state.stages task stage, 0⟩ := by
  have none : ∀ other, ¬(Function.update state.stages task stage other).inFlight = true := by
    intro other inFlight
    rcases inFlight_update inFlight with ⟨_, new⟩ | ⟨differs, old⟩
    · rw [quiet] at new
      cases new
    · exact differs (inv.single other task old flying)
  constructor
  · exact inv.valid_update valid
  · intro first second firstFlight
    exact absurd firstFlight (none first)
  · intro _ _ _ _
    rfl
  · exact Nat.zero_le 1
  · rintro (⟨other, inFlight⟩ | one)
    · exact absurd inFlight (none other)
    · cases one

theorem after_other (inv : SubmissionInvariant state) (valid : stage.Valid)
    (quiet : stage.inFlight = false)
    (status : row.status = state.row.status ∨ row.status = .failed) :
    SubmissionInvariant ⟨row, Function.update state.stages task stage, state.submissions⟩ := by
  have old : ∀ other, (Function.update state.stages task stage other).inFlight = true →
      (state.stages other).inFlight = true := by
    intro other inFlight
    rcases inFlight_update inFlight with ⟨_, new⟩ | ⟨_, old⟩
    · rw [quiet] at new
      cases new
    · exact old
  constructor
  · exact inv.valid_update valid
  · intro first second firstFlight secondFlight
    exact inv.single first second (old first firstFlight) (old second secondFlight)
  · intro other orm channel isClaimed
    exact inv.claimed other orm channel (claimed_update quiet isClaimed)
  · exact inv.bound
  · intro taken
    have takenBefore : (∃ task, (state.stages task).inFlight = true) ∨
        state.submissions = 1 := by
      rcases taken with ⟨other, inFlight⟩ | one
      · exact Or.inl ⟨other, old other inFlight⟩
      · exact Or.inr one
    rcases status with same | failed
    · rw [same]
      exact inv.taken takenBefore
    · rw [failed]
      rfl

theorem step {before after : SendState} {label : SendLabel}
    (inv : SubmissionInvariant before) (step : SendStep before label after)
    (onHttp : label.event.OnHttp) (unsent : ClaimsUnsent before label) :
    SubmissionInvariant after := by
  rcases label with ⟨task, event⟩
  rcases Option.map_eq_some_iff.mp step with ⟨⟨stage, flushed⟩, turn, rfl⟩
  rcases sendTurn_effect (inv.valid task) onHttp turn with ⟨valid, effect⟩
  cases effect with
  | claim now isClaim free submitted claimed status =>
      subst isClaim
      simp only [submitted]
      exact inv.after_claim unsent valid (by rw [status]; rfl)
  | submit isClaimed submitted answered status =>
      rcases answered with ⟨_, _, _, rfl⟩
      simp only [submitted]
      exact inv.after_submit isClaimed valid (fun _ _ => by simp) status
  | retry isAnswered submitted quiet =>
      simp only [submitted]
      exact inv.after_retry (by rw [isAnswered]; rfl) valid quiet
  | other submitted quiet status =>
      simp only [submitted]
      exact inv.after_other valid quiet status

end SubmissionInvariant

/-- In every run of send tasks for a row on an HTTP or RCS channel in which each
claim finds the row unsent, the row is submitted at most once between two points
at which it was put back to `queued` after a retryable error. -/
theorem at_most_once_of_claimsUnsent {row : SmsLog} {last : SendState}
    {transitions : List (Transition SendState SendLabel)}
    (run : Run SendStep (SendState.start row) transitions last)
    (onHttp : ∀ transition ∈ transitions, transition.label.event.OnHttp)
    (unsent : ∀ transition ∈ transitions, ClaimsUnsent transition.before transition.label) :
    last.submissions ≤ 1 ∧ ∀ transition ∈ transitions, transition.after.submissions ≤ 1 := by
  have guarded : Run (Guarded SendStep fun state label =>
      label.event.OnHttp ∧ ClaimsUnsent state label) (SendState.start row) transitions last :=
    run.guarded fun transition member => ⟨onHttp transition member, unsent transition member⟩
  have preserved : ∀ before label after,
      Guarded SendStep (fun state label => label.event.OnHttp ∧ ClaimsUnsent state label)
        before label after → SubmissionInvariant before → SubmissionInvariant after := by
    rintro before label after ⟨step, onHttp, unsent⟩ inv
    exact inv.step step onHttp unsent
  rcases guarded.invariant preserved (.start row) with ⟨atEnd, inside⟩
  exact ⟨atEnd.bound, fun transition member => (inside transition member).2.bound⟩

def queuedSmsLog : SmsLog where
  id := 1
  messageId := 1
  upstreamMessageId := none
  accountId := 1
  channelId := some 3
  batchId := none
  phoneNumber := "+8613800138000"
  countryCode := some "CN"
  senderId := none
  message := "hello"
  messageCount := 1
  status := .queued
  costPrice := some 10
  sellingPrice := some 30
  currency := "USD"
  submitTime := some 1
  sentTime := none
  deliveryTime := none
  errorMessage := none
  refundedAt := none
  refundedBy := none
  refundedAmount := none

def untilClaim (task : ℕ) : List SendLabel :=
  [.load, .license none, .batch none, .blacklist false, .route (some ⟨3, .http, ""⟩),
    .shortLink none, .slot true false].map (⟨task, ·⟩)

/-- Both tasks load the row before either of them claims it, and both submit it. -/
theorem two_tasks_submit_twice :
    ∃ transitions last, Run SendStep (SendState.start queuedSmsLog) transitions last ∧
      (∀ transition ∈ transitions, transition.label.event.OnHttp) ∧ ¬last.submissions ≤ 1 := by
  have passed : (execute SendState.next (SendState.start queuedSmsLog)
      (untilClaim 0 ++ untilClaim 1 ++ [⟨0, .claim 5⟩, ⟨0, .submit (.success none)⟩,
        ⟨1, .claim 6⟩, ⟨1, .submit (.success none)⟩])).any (fun outcome =>
          decide (∀ transition ∈ outcome.1, transition.label.event.OnHttp) &&
            decide (¬outcome.2.submissions ≤ 1)) = true := by decide
  rcases Run.exists_of_execute _ passed with ⟨transitions, last, run, checked⟩
  simp only [Bool.and_eq_true, decide_eq_true_eq] at checked
  exact ⟨transitions, last, run, checked⟩

/-- A task that starts after the claim of another one leaves the row alone. -/
theorem at_most_once_late_task :
    ∃ transitions last, Run SendStep (SendState.start queuedSmsLog) transitions last ∧
      transitions.length = 12 ∧ last.submissions ≤ 1 := by
  have passed : (execute SendState.next (SendState.start queuedSmsLog)
      (untilClaim 0 ++ [⟨0, .claim 5⟩, ⟨0, .submit (.success none)⟩, ⟨1, .load⟩,
        ⟨1, .license none⟩, ⟨1, .batch none⟩])).any (fun outcome =>
          decide (∀ transition ∈ outcome.1, transition.label.event.OnHttp ∧
            ClaimsUnsent transition.before transition.label) &&
            decide (outcome.1.length = 12)) = true := by decide
  rcases Run.exists_of_execute _ passed with ⟨transitions, last, run, checked⟩
  simp only [Bool.and_eq_true, decide_eq_true_eq] at checked
  exact ⟨transitions, last, run, checked.2,
    (at_most_once_of_claimsUnsent run (fun transition member => (checked.1 transition member).1)
      (fun transition member => (checked.1 transition member).2)).1⟩

end Klsmsc
