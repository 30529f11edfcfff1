import Klsmsc.Gateway

/-!
# Cleared messages

One row of a batch, with `clear_batch_queue` and any number of runs of
`_send_sms_async` and `processSingleSMSData` on it, interleaved at their
statements. Of a run of `_send_sms_async` only what depends on the status of the
row is kept. Everybody else may change the row, the batch and the marks at any
time and in any way.

The model class of `sms_logs` lists six names for the column `status`; whether
its type can read the one that `clear_batch_queue` stores is a parameter. If it
cannot, loading the row raises.
-/

namespace Klsmsc

open Library

/-- Where a run of `_send_sms_async` stands, with the status that it has loaded. -/
inductive StatusStage where
  | waiting
  | loaded (status : StoredStatus)
  | licensed (status : StoredStatus)
  | checked (status : StoredStatus)
  | cleared (status : StoredStatus)
  | routed (status : StoredStatus) (protocol : Protocol)
  | ready (protocol : Protocol)
  | claimed (protocol : Protocol)
  | answered
  | done
  deriving DecidableEq, Repr

inductive StatusEvent where
  | load
  | license (isRefused : Bool)
  | batch
  | blacklist (isListed : Bool)
  | route (protocol : Option Protocol)
  | slot (isAllowed onSmppQueue : Bool)
  | claim
  | submit
  | settle (outcome : Option Bool)
  | redeliver
  deriving DecidableEq, Repr

abbrev StatusTurn := StatusStage × Option SmsStatus

/-- `sms_log.status = "failed"` and a commit. -/
def failLoaded (status : StoredStatus) : StatusTurn :=
  (.done, if status = .known .failed then none else some .failed)

def checkLoaded (status : StoredStatus) (batchStatus : BatchStatus) : StatusTurn :=
  if batchStatus = .cancelled ∧ status.isUnsent then failLoaded status
  else if batchStatus = .paused ∧ status.isUnsent then (.done, none)
  else if status.isSettled then (.done, none)
  else (.checked status, none)

/-- One statement of `_send_sms_async`. An answer of the adapter is a success, a
failure or, as `none`, one to be tried again. -/
def statusTurn (reads : Bool) (row : StoredStatus) (batchStatus : BatchStatus) :
    StatusStage → StatusEvent → Option StatusTurn
  | .waiting, .load =>
      if row = .cancelled ∧ reads = false then some (.done, none) else some (.loaded row, none)
  | .loaded status, .license isRefused =>
      if isRefused then some (failLoaded status) else some (.licensed status, none)
  | .licensed status, .batch => some (checkLoaded status batchStatus)
  | .checked status, .blacklist isListed =>
      if isListed then some (failLoaded status) else some (.cleared status, none)
  | .cleared status, .route none => some (failLoaded status)
  | .cleared status, .route (some protocol) => some (.routed status protocol, none)
  | .routed status protocol, .slot isAllowed onSmppQueue =>
      if protocol = .smpp ∧ onSmppQueue = false then
        some (.done, if status = .known .pending then some .queued else none)
      else if protocol ≠ .virtual ∧ isAllowed = false then some (.waiting, none)
      else some (.ready protocol, none)
  | .ready protocol, .claim => some (.claimed protocol, some .sent)
  | .claimed protocol, .submit =>
      if protocol = .smpp then some (.done, none) else some (.answered, none)
  | .answered, .settle none => some (.waiting, some .queued)
  | .answered, .settle (some succeeds) =>
      some (.done, if succeeds then none else some .failed)
  | _, .redeliver => some (.waiting, none)
  | _, _ => none

def SendStage.statusStage : SendStage → StatusStage
  | .waiting => .waiting
  | .loaded orm => .loaded (.known orm.memory.status)
  | .licensed orm => .licensed (.known orm.memory.status)
  | .checked orm => .checked (.known orm.memory.status)
  | .cleared orm => .cleared (.known orm.memory.status)
  | .routed orm channel => .routed (.known orm.memory.status) channel.protocol
  | .linked orm channel => .routed (.known orm.memory.status) channel.protocol
  | .ready _ channel => .ready channel.protocol
  | .claimed _ channel => .claimed channel.protocol
  | .answered _ _ _ => .answered
  | .failing _ => .done
  | .done => .done

def AdapterAnswer.outcome : AdapterAnswer → Option Bool
  | .success _ => some true
  | .failure _ => some false
  | .retry _ => none

def SendStage.statusEvent : SendStage → SendEvent → Option StatusEvent
  | _, .load => some .load
  | _, .license refusal => some (.license refusal.isSome)
  | _, .batch _ => some .batch
  | _, .blacklist isListed => some (.blacklist isListed)
  | _, .route channel => some (.route (channel.map Channel.protocol))
  | _, .slot isAllowed onSmppQueue => some (.slot isAllowed onSmppQueue)
  | _, .claim _ => some .claim
  | _, .submit _ => some .submit
  | .answered _ _ answer, .settle => some (.settle answer.outcome)
  | _, .redeliver => some .redeliver
  | _, _ => none

theorem checkLoaded_known (orm : Orm) (batchStatus : BatchStatus) :
    (checkStatus orm (some batchStatus)).1.statusStage =
      (checkLoaded (.known orm.memory.status) batchStatus).1 := by
  cases unsent : orm.memory.status.isUnsent with
  | false => simp [checkStatus, checkLoaded, StoredStatus.isUnsent, StoredStatus.isSettled, unsent,
      SendStage.statusStage]
  | true =>
      by_cases isCancelled : batchStatus = .cancelled
      · simp [checkStatus, checkLoaded, StoredStatus.isUnsent, unsent, isCancelled,
          SendStage.statusStage, failLoaded]
      · by_cases isPaused : batchStatus = .paused
        · simp [checkStatus, checkLoaded, StoredStatus.isUnsent, unsent, isPaused,
            SendStage.statusStage]
        · simp [checkStatus, checkLoaded, StoredStatus.isUnsent, StoredStatus.isSettled, unsent,
            isCancelled, isPaused, SendStage.statusStage]

/-- The statements of a send task on a row of a batch are those of the model that keeps
the status alone; `_mark_failed`, which is no part of `_send_sms_async`, stays outside. -/
theorem statusTurn_of_sendTurn {reads : Bool} {row : SmsLog} {batchStatus : BatchStatus}
    {stage next : SendStage} {event : SendEvent} {flushed : Option Orm}
    (turn : sendTurn row stage event = some (next, flushed))
    (inBatch : ∀ status, event = .batch status → status = some batchStatus)
    {kept : StatusEvent} (isKept : stage.statusEvent event = some kept) :
    (statusTurn reads (.known row.status) batchStatus stage.statusStage kept).map Prod.fst =
      some next.statusStage := by
  unfold sendTurn at turn
  split at turn
  case h_1 =>
      cases turn
      cases isKept
      rfl
  case h_2 =>
      cases turn
      cases isKept
      rfl
  case h_3 =>
      cases turn
      cases isKept
      rfl
  case h_4 orm status =>
      cases isKept
      obtain rfl := inBatch status rfl
      have agree := checkLoaded_known orm batchStatus
      rw [Option.some.inj turn] at agree
      exact congrArg some agree.symm
  case h_5 =>
      cases isKept
      split at turn <;> cases turn <;>
        simp_all [SendStage.statusStage, statusTurn, failLoaded]
  case h_6 =>
      cases turn
      cases isKept
      rfl
  case h_7 =>
      cases turn
      cases isKept
      rfl
  case h_8 => cases isKept
  case h_9 => cases isKept
  case h_10 orm channel isAllowed onSmppQueue =>
      cases isKept
      simp only [SendStage.statusStage, statusTurn]
      by_cases reroutes : channel.protocol = .smpp ∧ onSmppQueue = false
      · rw [if_pos reroutes] at turn ⊢
        cases turn
        rfl
      · rw [if_neg reroutes] at turn ⊢
        by_cases waits : channel.protocol ≠ .virtual ∧ isAllowed = false
        · rw [if_pos waits] at turn ⊢
          cases turn
          rfl
        · rw [if_neg waits] at turn ⊢
          cases turn
          rfl
  case h_11 =>
      cases turn
      cases isKept
      rfl
  case h_12 =>
      cases isKept
      split at turn <;> cases turn <;> simp_all [SendStage.statusStage, statusTurn]
  case h_13 orm channel answer =>
      cases isKept
      cases answer <;> cases turn <;> rfl
  case h_14 => cases isKept
  case h_15 => cases isKept
  case h_16 =>
      cases turn
      cases isKept
      simp [SendStage.statusStage, statusTurn]
  case h_17 => cases turn

structure Started (Stage : Type) where
  stage : Stage
  isLate : Bool

/-- The row as the gateway sees it, its batch, whether the row was cleared, the
runs of both consumers, and how often a run that started after that has handed
the message over. -/
structure ClearState where
  view : GatewayView
  batchStatus : BatchStatus
  isCleared : Bool
  sends : ℕ → Started StatusStage
  gateways : ℕ → Started GatewayStage
  lateHandOvers : ℕ

inductive ClearLabel where
  | clearBatchQueue
  | send (task : ℕ) (event : StatusEvent)
  | gateway (task : ℕ) (event : GatewayEvent)
  | others (view : GatewayView) (batchStatus : BatchStatus)
  deriving DecidableEq, Repr

def Started.moved {Stage : Type} (run : Started Stage) (starts isCleared : Bool)
    (stage : Stage) : Started Stage :=
  ⟨stage, if starts then isCleared else run.isLate⟩

def StatusStage.submits : StatusStage → StatusEvent → Bool
  | .claimed protocol, .submit => protocol ≠ .smpp
  | _, _ => false

/-- The payload has been handed to `SendSMS`. -/
def GatewayStage.isHandedOver : GatewayStage → Bool
  | .handedOver _ => true
  | _ => false

namespace ClearState

/-- `clear_batch_queue` of a paused batch: the update of the row and of the batch
in one transaction. -/
def clearBatchQueue (state : ClearState) : Option ClearState :=
  if state.batchStatus = .paused then
    if state.view.status.isUnsent then
      some { state with
        view := { state.view with status := .cancelled }
        batchStatus := .cancelled
        isCleared := true }
    else some { state with batchStatus := .cancelled }
  else none

/-- A statement of a run of `_send_sms_async`. -/
def sendNext (reads : Bool) (state : ClearState) (task : ℕ) (event : StatusEvent) :
    Option ClearState :=
  let run := state.sends task
  (statusTurn reads state.view.status state.batchStatus run.stage event).map fun turn =>
    { state with
      view := { state.view with
        status := (turn.2.map StoredStatus.known).getD state.view.status }
      sends := Function.update state.sends task
        (run.moved (event = .load) state.isCleared turn.1)
      lateHandOvers := state.lateHandOvers +
        if run.isLate ∧ run.stage.submits event then 1 else 0 }

/-- A statement of a run of `processSingleSMSData`. -/
def gatewayNext (state : ClearState) (task : ℕ) (event : GatewayEvent) : Option ClearState :=
  let run := state.gateways task
  (gatewayTurn state.view run.stage event).map fun stage =>
    { state with
      gateways := Function.update state.gateways task
        (run.moved (run.stage = .waiting) state.isCleared stage)
      lateHandOvers := state.lateHandOvers +
        if run.isLate ∧ stage.isHandedOver then 1 else 0 }

def next (reads : Bool) (state : ClearState) : ClearLabel → Option ClearState
  | .clearBatchQueue => state.clearBatchQueue
  | .send task event => state.sendNext reads task event
  | .gateway task event => state.gatewayNext task event
  | .others view batchStatus => some { state with view := view, batchStatus := batchStatus }

def start (view : GatewayView) (batchStatus : BatchStatus) : ClearState where
  view := view
  batchStatus := batchStatus
  isCleared := false
  sends _ := ⟨.waiting, false⟩
  gateways _ := ⟨.waiting, false⟩
  lateHandOvers := 0

end ClearState

def ClearStep (reads : Bool) (before : ClearState) (label : ClearLabel)
    (after : ClearState) : Prop :=
  before.next reads label = some after

/-- A status that is in the lists of `_send_sms_async`, and not an unsent one unless the
batch is cancelled or paused. -/
def StatusStage.knows (batchStatus : BatchStatus) : StatusStage → Bool
  | .licensed status =>
      status ≠ .cancelled ∧
        (status.isUnsent → batchStatus = .cancelled ∨ batchStatus = .paused)
  | _ => true

def GatewayStage.knows (status : StoredStatus) (answers : Bool) : GatewayStage → Bool
  | .snapshotPassed data => data.isUnsent → answers ∧ status.isUnsent = false
  | _ => true

/-- What a run that starts after the row was cleared finds, so that the guards stop it:
`_send_sms_async` a status that it knows, and the gateway a payload with a status that is
in its lists and, where it looks, an answer from the table. -/
def GuardsKnow (state : ClearState) : ClearLabel → Prop
  | .send task .batch =>
      (state.sends task).isLate = true → (state.sends task).stage.knows state.batchStatus = true
  | .gateway task (.take data) =>
      (state.gateways task).stage = .waiting → state.isCleared = true →
        data.isUnsent = true ∨ data.isSettled = true
  | .gateway task (.lookupCurrentStatus answers) =>
      (state.gateways task).isLate = true →
        (state.gateways task).stage.knows state.view.status answers = true
  | _ => True

instance (state : ClearState) : (label : ClearLabel) → Decidable (GuardsKnow state label)
  | .send _ .batch => inferInstanceAs (Decidable (_ → _))
  | .gateway _ (.take _) => inferInstanceAs (Decidable (_ → _ → _ ∨ _))
  | .gateway _ (.lookupCurrentStatus _) => inferInstanceAs (Decidable (_ → _))
  | .clearBatchQueue => isTrue trivial
  | .others _ _ => isTrue trivial
  | .gateway _ (.checkSnapshot _) => isTrue trivial
  | .gateway _ (.sendSms _) => isTrue trivial
  | .gateway _ .redeliver => isTrue trivial
  | .send _ .load => isTrue trivial
  | .send _ (.license _) => isTrue trivial
  | .send _ (.blacklist _) => isTrue trivial
  | .send _ (.route _) => isTrue trivial
  | .send _ (.slot _ _) => isTrue trivial
  | .send _ .claim => isTrue trivial
  | .send _ .submit => isTrue trivial
  | .send _ (.settle _) => isTrue trivial
  | .send _ .redeliver => isTrue trivial

def StatusStage.isUnchecked : StatusStage → Bool
  | .waiting => true
  | .loaded _ => true
  | .licensed _ => true
  | .done => true
  | _ => false

/-- The stages that a payload with a known snapshot goes through as long as the
table does not let it pass. -/
def GatewayStage.isHeld : GatewayStage → Bool
  | .waiting => true
  | .taken data => data.isUnsent || data.isSettled
  | .snapshotPassed data => data.isUnsent
  | .done => true
  | _ => false

theorem checkLoaded_of_known {status : StoredStatus} {batchStatus : BatchStatus}
    (known : status ≠ .cancelled)
    (blocked : status.isUnsent = true → batchStatus = .cancelled ∨ batchStatus = .paused) :
    (checkLoaded status batchStatus).1 = .done := by
  cases unsent : status.isUnsent with
  | true =>
      rcases blocked unsent with isCancelled | isPaused
      · simp [checkLoaded, isCancelled, unsent, failLoaded]
      · simp [checkLoaded, isPaused, unsent]
  | false =>
      have settled : status.isSettled = true := by
        cases status with
        | known inner => simpa [StoredStatus.isSettled, StoredStatus.isUnsent] using unsent
        | cancelled => exact absurd rfl known
      simp [checkLoaded, unsent, settled]

theorem isUnchecked_of_statusTurn {reads : Bool} {row : StoredStatus} {batchStatus : BatchStatus}
    {stage : StatusStage} {event : StatusEvent} {turn : StatusTurn}
    (moved : statusTurn reads row batchStatus stage event = some turn)
    (unchecked : stage.isUnchecked = true)
    (stops : ∀ status, event = .batch → stage = .licensed status →
      (checkLoaded status batchStatus).1 = .done) :
    turn.1.isUnchecked = true ∧ stage.submits event = false := by
  unfold statusTurn at moved
  split at moved
  case h_1 =>
      split at moved <;> cases moved <;> exact ⟨rfl, rfl⟩
  case h_2 =>
      split at moved <;> cases moved <;> exact ⟨rfl, rfl⟩
  case h_3 status =>
      cases moved
      rw [stops status rfl rfl]
      exact ⟨rfl, rfl⟩
  case h_12 =>
      cases moved
      refine ⟨rfl, ?_⟩
      unfold StatusStage.submits
      split <;> simp_all
  case h_13 => cases moved
  all_goals cases unchecked

theorem isUnchecked_of_load {reads : Bool} {row : StoredStatus} {batchStatus : BatchStatus}
    {stage : StatusStage} {turn : StatusTurn}
    (moved : statusTurn reads row batchStatus stage .load = some turn) :
    turn.1.isUnchecked = true := by
  cases stage with
  | waiting =>
      simp only [statusTurn] at moved
      split at moved <;> cases moved <;> rfl
  | _ => cases moved

theorem isHeld_of_gatewayTurn {view : GatewayView} {stage next : GatewayStage}
    {event : GatewayEvent} (turn : gatewayTurn view stage event = some next)
    (held : stage.isHeld = true)
    (taken : ∀ data, event = .take data → stage = .waiting →
      data.isUnsent = true ∨ data.isSettled = true)
    (looked : ∀ answers data, event = .lookupCurrentStatus answers →
      stage = .snapshotPassed data → data.isUnsent = true →
        answers = true ∧ view.status.isUnsent = false) :
    next.isHeld = true ∧ next.isHandedOver = false := by
  unfold gatewayTurn at turn
  split at turn
  case h_1 data =>
      cases turn
      exact ⟨by simpa [GatewayStage.isHeld] using taken data rfl rfl, rfl⟩
  case h_2 data answers =>
      split at turn
      · cases turn
        exact ⟨rfl, rfl⟩
      · split at turn <;> cases turn
        · exact ⟨rfl, rfl⟩
        · rename_i unsettled
          have unsent : data.isUnsent = true := by
            simpa [GatewayStage.isHeld, unsettled] using held
          exact ⟨unsent, rfl⟩
  case h_3 data answers =>
      rcases looked answers data rfl rfl held with ⟨rfl, unsent⟩
      have isUnsent : data.isUnsent = true := held
      simp only [isUnsent, unsent, and_self, if_true, Option.some.injEq] at turn
      subst next
      exact ⟨rfl, rfl⟩
  case h_4 => cases held
  case h_5 =>
      cases turn
      exact ⟨rfl, rfl⟩
  case h_6 => cases turn

theorem not_isHandedOver_of_waiting {view : GatewayView} {next : GatewayStage}
    {event : GatewayEvent} (turn : gatewayTurn view .waiting event = some next) :
    next.isHandedOver = false := by
  cases event <;> cases turn <;> rfl

structure ClearInvariant (state : ClearState) : Prop where
  sends : ∀ task, (state.sends task).isLate = true →
    (state.sends task).stage.isUnchecked = true
  gateways : ∀ task, (state.gateways task).isLate = true →
    (state.gateways task).stage.isHeld = true
  none : state.lateHandOvers = 0

namespace ClearInvariant

variable {reads : Bool} {before after : ClearState}

theorem start (view : GatewayView) (batchStatus : BatchStatus) :
    ClearInvariant (ClearState.start view batchStatus) where
  sends := by simp [ClearState.start]
  gateways := by simp [ClearState.start]
  none := rfl

theorem clearBatchQueue (inv : ClearInvariant before)
    (step : before.clearBatchQueue = some after) : ClearInvariant after := by
  unfold ClearState.clearBatchQueue at step
  split at step
  · split at step <;> cases step <;> exact ⟨inv.sends, inv.gateways, inv.none⟩
  · cases step

theorem sendNext (inv : ClearInvariant before) {task : ℕ} {event : StatusEvent}
    (step : before.sendNext reads task event = some after)
    (known : GuardsKnow before (.send task event)) : ClearInvariant after := by
  rcases Option.map_eq_some_iff.mp step with ⟨turn, moved, rfl⟩
  have late : (before.sends task).isLate = true →
      turn.1.isUnchecked = true ∧ (before.sends task).stage.submits event = false := by
    intro isLate
    apply isUnchecked_of_statusTurn moved (inv.sends task isLate)
    rintro status rfl licensed
    have knows := known isLate
    rw [licensed] at knows
    exact checkLoaded_of_known (of_decide_eq_true knows).1 (of_decide_eq_true knows).2
  constructor
  · intro other isLate
    simp only at isLate ⊢
    by_cases same : other = task
    · subst other
      rw [Function.update_self] at isLate ⊢
      by_cases isLoad : event = .load
      · subst event
        exact isUnchecked_of_load moved
      · exact (late (by simpa [Started.moved, isLoad] using isLate)).1
    · rw [Function.update_of_ne same] at isLate ⊢
      exact inv.sends other isLate
  · exact inv.gateways
  · simp only [inv.none, Nat.zero_add, ite_eq_right_iff]
    rintro ⟨isLate, submits⟩
    rw [(late isLate).2] at submits
    cases submits

theorem gatewayNext (inv : ClearInvariant before) {task : ℕ} {event : GatewayEvent}
    (step : before.gatewayNext task event = some after)
    (known : GuardsKnow before (.gateway task event)) : ClearInvariant after := by
  rcases Option.map_eq_some_iff.mp step with ⟨stage, turn, rfl⟩
  have starts : (before.gateways task).stage = .waiting → before.isCleared = true →
      stage.isHeld = true := by
    intro waiting isCleared
    refine (isHeld_of_gatewayTurn turn (by rw [waiting]; rfl) ?_ ?_).1
    · rintro data rfl _
      exact known waiting isCleared
    · intro _ _ _ passed
      rw [waiting] at passed
      cases passed
  have late : (before.gateways task).stage ≠ .waiting → (before.gateways task).isLate = true →
      stage.isHeld = true ∧ stage.isHandedOver = false := by
    intro started isLate
    apply isHeld_of_gatewayTurn turn (inv.gateways task isLate)
    · intro _ _ waiting
      exact absurd waiting started
    · rintro answers data rfl passed unsent
      have knows := known isLate
      rw [passed] at knows
      exact of_decide_eq_true knows unsent
  constructor
  · exact inv.sends
  · intro other isLate
    simp only at isLate ⊢
    by_cases same : other = task
    · subst other
      rw [Function.update_self] at isLate ⊢
      by_cases waiting : (before.gateways task).stage = .waiting
      · exact starts waiting (by simpa [Started.moved, waiting] using isLate)
      · exact (late waiting (by simpa [Started.moved, waiting] using isLate)).1
    · rw [Function.update_of_ne same] at isLate ⊢
      exact inv.gateways other isLate
  · simp only [inv.none, Nat.zero_add, ite_eq_right_iff]
    rintro ⟨isLate, handedOver⟩
    by_cases waiting : (before.gateways task).stage = .waiting
    · rw [waiting] at turn
      rw [not_isHandedOver_of_waiting turn] at handedOver
      cases handedOver
    · rw [(late waiting isLate).2] at handedOver
      cases handedOver

theorem step (inv : ClearInvariant before) {label : ClearLabel}
    (step : ClearStep reads before label after) (known : GuardsKnow before label) :
    ClearInvariant after := by
  cases label with
  | clearBatchQueue => exact inv.clearBatchQueue step
  | send task event => exact inv.sendNext step known
  | gateway task event => exact inv.gatewayNext step known
  | others view batchStatus =>
      cases step
      exact ⟨inv.sends, inv.gateways, inv.none⟩

end ClearInvariant

/-- In every run in which the guards know what they find, no run of `_send_sms_async` or
`processSingleSMSData` that starts after `clear_batch_queue` has cleared the row hands its
message to an adapter or to `SendSMS`. -/
theorem cleared_not_submitted {reads : Bool} {view : GatewayView} {batchStatus : BatchStatus}
    {transitions : List (Transition ClearState ClearLabel)} {last : ClearState}
    (run : Run (ClearStep reads) (ClearState.start view batchStatus) transitions last)
    (known : ∀ transition ∈ transitions, GuardsKnow transition.before transition.label) :
    last.lateHandOvers = 0 ∧
      ∀ transition ∈ transitions, transition.after.lateHandOvers = 0 := by
  have preserved : ∀ before label after, Guarded (ClearStep reads) GuardsKnow before label after →
      ClearInvariant before → ClearInvariant after :=
    fun _ _ _ guarded inv => inv.step guarded.1 guarded.2
  rcases (run.guarded known).invariant preserved (.start view batchStatus) with ⟨atEnd, inside⟩
  exact ⟨atEnd.none, fun transition member => (inside transition member).2.none⟩

/-- The labels of a run of `_send_sms_async` that ends in an HTTP adapter. -/
def sendsByHttp (task : ℕ) : List ClearLabel :=
  [.load, .license false, .batch, .blacklist false, .route (some .http), .slot true false,
    .claim, .submit].map (.send task)

/-- The labels of a run of `processSingleSMSData` all of whose queries are answered. -/
def sendsBySmpp (task : ℕ) (data : SmsLogData) : List ClearLabel :=
  [.take data, .checkSnapshot true, .lookupCurrentStatus true, .sendSms true].map (.gateway task)

def queuedView : GatewayView := ⟨.known .queued, false, false⟩

/-- A queued message of a paused batch is cleared. If the type of the column reads what was
stored, a task that starts then submits it; and whether it does or not, so does the gateway,
for a payload without a status. -/
theorem cleared_submitted :
    (∃ transitions last,
      Run (ClearStep true) (ClearState.start queuedView .paused) transitions last ∧
        last.lateHandOvers = 1) ∧
      ∃ transitions last,
        Run (ClearStep false) (ClearState.start queuedView .paused) transitions last ∧
          last.lateHandOvers = 1 := by
  have python : (execute (ClearState.next true) (ClearState.start queuedView .paused)
      (.clearBatchQueue :: sendsByHttp 0)).any (fun outcome =>
        decide (outcome.2.lateHandOvers = 1)) = true := by decide
  have gateway : (execute (ClearState.next false) (ClearState.start queuedView .paused)
      (.clearBatchQueue :: sendsBySmpp 0 ⟨3, none, none⟩)).any (fun outcome =>
        decide (outcome.2.lateHandOvers = 1)) = true := by decide
  rcases Run.exists_of_execute _ python with ⟨transitions, last, run, passed⟩
  rcases Run.exists_of_execute _ gateway with ⟨transitions', last', run', passed'⟩
  exact ⟨⟨transitions, last, run, of_decide_eq_true passed⟩,
    ⟨transitions', last', run', of_decide_eq_true passed'⟩⟩

/-- The queued task and the queued payload of a cleared message are stopped. -/
theorem cleared_not_submitted_queued :
    ∃ transitions last,
      Run (ClearStep false) (ClearState.start queuedView .paused) transitions last ∧
        transitions.length = 5 ∧ last.lateHandOvers = 0 := by
  have passed : (execute (ClearState.next false) (ClearState.start queuedView .paused)
      (.clearBatchQueue :: .send 0 .load :: (sendsBySmpp 0 ⟨3, some .processing,
        some (.known .queued)⟩).take 3)).any (fun outcome =>
          decide (∀ transition ∈ outcome.1, GuardsKnow transition.before transition.label) &&
            decide (outcome.1.length = 5)) = true := by decide
  rcases Run.exists_of_execute _ passed with ⟨transitions, last, run, checked⟩
  simp only [Bool.and_eq_true, decide_eq_true_eq] at checked
  exact ⟨transitions, last, run, checked.2, (cleared_not_submitted run checked.1).1⟩

end Klsmsc
