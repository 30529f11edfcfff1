import Klsmsc.SendTask

/-!
# The SMPP gateway

`processSingleSMSData` of the gateway for one payload, statement by statement: a
guard on the status of the batch, one on the status that the payload carries,
one on the status that the table holds, and one on the mark of an earlier
submission. Each asks another store, and anything can happen in between.

The statuses in a payload are compared as trimmed texts; a text that is no
status is `none`. A query that fails, as well as one that is skipped for want of
an id, counts as one that does not answer, and the guard then lets the payload
pass.
-/

namespace Klsmsc

/-- What the table holds in `sms_logs.status`. The update of `clear_batch_queue`
stores a value that is not in the list of the column. -/
inductive StoredStatus where
  | known (status : SmsStatus)
  | cancelled
  deriving DecidableEq, Repr

namespace StoredStatus

/-- `status in ("pending", "queued")`. -/
def isUnsent : StoredStatus → Bool
  | known status => status.isUnsent
  | cancelled => false

/-- `status in ("delivered", "failed", "expired", "sent")`. -/
def isSettled : StoredStatus → Bool
  | known status => !status.isUnsent
  | cancelled => false

end StoredStatus

structure SmsLogData where
  channelId : ℕ
  batchStatus : Option BatchStatus
  recordStatus : Option StoredStatus
  deriving DecidableEq, Repr

namespace SmsLogData

/-- The payload says `pending` or `queued`. -/
def isUnsent (data : SmsLogData) : Bool :=
  data.recordStatus.any StoredStatus.isUnsent

/-- The payload says `failed`, `expired`, `delivered` or `sent`. -/
def isSettled (data : SmsLogData) : Bool :=
  data.recordStatus.any StoredStatus.isSettled

end SmsLogData

/-- What the gateway asks: the status in the table, the mark of a cancelled batch
and the mark of a submitted message. -/
structure GatewayView where
  status : StoredStatus
  isBatchCancelled : Bool
  isAlreadySubmitted : Bool
  deriving DecidableEq, Repr

inductive GatewayStage where
  | waiting
  | taken (data : SmsLogData)
  | snapshotPassed (data : SmsLogData)
  | statusPassed (data : SmsLogData)
  | handedOver (data : SmsLogData)
  | done
  deriving DecidableEq, Repr

inductive GatewayEvent where
  | take (data : SmsLogData)
  | checkSnapshot (answers : Bool)
  | lookupCurrentStatus (answers : Bool)
  | sendSms (answers : Bool)
  | redeliver
  deriving DecidableEq, Repr

/-- One statement of `processSingleSMSData`. A payload that is handed to `SendSMS`
and comes back is taken again. -/
def gatewayTurn (view : GatewayView) : GatewayStage → GatewayEvent → Option GatewayStage
  | .waiting, .take data => some (.taken data)
  | .taken data, .checkSnapshot answers =>
      if (data.batchStatus = some .cancelled ∨ answers ∧ view.isBatchCancelled) ∧ data.isUnsent then
        some .done
      else if data.isSettled then some .done
      else some (.snapshotPassed data)
  | .snapshotPassed data, .lookupCurrentStatus answers =>
      if data.isUnsent ∧ answers ∧ view.status.isUnsent = false then some .done
      else some (.statusPassed data)
  | .statusPassed data, .sendSms answers =>
      if answers ∧ view.isAlreadySubmitted then some .done else some (.handedOver data)
  | _, .redeliver => some .waiting
  | _, _ => none

def GatewayStage.data? : GatewayStage → Option SmsLogData
  | .taken data => some data
  | .snapshotPassed data => some data
  | .statusPassed data => some data
  | .handedOver data => some data
  | _ => none

theorem data?_of_gatewayTurn {view : GatewayView} {stage next : GatewayStage}
    {event : GatewayEvent} (turn : gatewayTurn view stage event = some next)
    {data : SmsLogData} (carries : next.data? = some data) :
    event = .take data ∨ stage.data? = some data := by
  unfold gatewayTurn at turn
  split at turn
  case h_1 =>
      cases turn
      cases carries
      exact Or.inl rfl
  case h_2 =>
      split at turn
      · cases turn
        cases carries
      · split at turn <;> cases turn <;> cases carries
        exact Or.inr rfl
  case h_3 =>
      split at turn <;> cases turn <;> cases carries
      exact Or.inr rfl
  case h_4 =>
      split at turn <;> cases turn <;> cases carries
      exact Or.inr rfl
  case h_5 =>
      cases turn
      cases carries
  case h_6 => cases turn

end Klsmsc
