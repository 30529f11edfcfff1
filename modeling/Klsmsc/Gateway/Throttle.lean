import Klsmsc.Gateway.Marshal
import Klsmsc.Gateway.SendSms
import Klsmsc.Text

/-!
# A message that the upstream throttles

The way of one message from its queue through `processSingleSMSData` and `SendSMS` to the upstream,
and back into the queue when the upstream answers with `ESME_RTHROTTLED`. The number of retries is
nowhere but in the payload, which is written into the body of a new delivery and read from it again.

A copy of the message is in the body of a delivery, at some position among other messages, or in
flight. The statuses that the upstream answers with, what `SendSMS` meets on its way to the
session, what becomes of the other messages of a delivery, and which publishes the broker takes are
given with each step. The row of the message changes its status only when a result was published,
and the mark `submit_done` is only there after a positive response; both can be missed.
-/

namespace Klsmsc

def decimalValue (digits : List Char) : Option ℤ :=
  if digits ≠ [] ∧ digits.all Char.isDigit then
    some (digits.foldl (fun sum char => sum * 10 + (char.toNat - '0'.toNat : ℕ)) 0)
  else none

/-- `strconv.Atoi`. -/
def atoi (text : List Char) : Option ℤ :=
  let number :=
    match text with
    | '-' :: digits => (decimalValue digits).map fun value => -value
    | '+' :: digits => decimalValue digits
    | digits => decimalValue digits
  number.filter fun value => -2 ^ 63 ≤ value ∧ value < 2 ^ 63

/-- `envInt`, for the value of the variable, which is empty when there is none. -/
def envInt (value : String) (defaultValue : ℤ) : ℤ :=
  match atoi value.toList with
  | some n => if n < 1 then defaultValue else n
  | none => defaultValue

/-- `throttleMaxRetry`, for the value of `SMPP_THROTTLE_MAX_RETRY`. -/
def throttleMaxRetry (value : String) : ℤ := envInt value 3

/-- The item of `publishSmsSubmitResult`. -/
structure GatewayResult where
  logId : ℤ
  messageId : String
  upstreamMessageId : String
  status : String
  error : String
  deriving DecidableEq, Repr

namespace SendPayload

def failed (payload : SendPayload) (error : String) : GatewayResult :=
  ⟨payload.logId, payload.messageId, "", "failed", error⟩

def sent (payload : SendPayload) (upstreamMessageId : String) : GatewayResult :=
  ⟨payload.logId, payload.messageId, upstreamMessageId, "sent", ""⟩

end SendPayload

/-- How `SendSMS` ends: before it comes to `Submit`, with an error of `Submit`, or without one. -/
inductive SubmitOutcome where
  | notEntered (err : ErrorText)
  | refused (errMsg : ErrorText)
  | submitted
  deriving DecidableEq, Repr

namespace SubmitOutcome

/-- The error that `SendSMS` returns. -/
def error : SubmitOutcome → Option ErrorText
  | notEntered err => some err
  | refused errMsg => some (submitError errMsg)
  | submitted => none

/-- The call has come to `Submit`. -/
def enters : SubmitOutcome → Bool
  | notEntered _ => false
  | _ => true

end SubmitOutcome

/-- What `processSingleSMSData` is told by the database, by Redis and by `SendSMS`. -/
structure ProcessAnswers where
  lookupBatchIDByLogID : ℤ → ℤ
  isBatchCancelled : ℤ → Bool
  lookupCurrentStatus : String
  isAlreadySubmitted : Bool
  sendSMS : SubmitOutcome

/-- What `processSingleSMSData` returns and publishes, and how its call of `SendSMS` ended, if there
was one. -/
structure Processed where
  kind : SmsFailureKind
  results : List GatewayResult
  outcome : Option SubmitOutcome
  deriving DecidableEq, Repr

def finalStatuses : List String := ["failed", "expired", "delivered", "sent"]

/-- `processSingleSMSData`. -/
def processSingleSMSData (unicode : Unicode) (answers : ProcessAnswers) (data : SendPayload) :
    Processed :=
  let bs := unicode.lower (strip unicode data.batchStatus)
  let rs := strip unicode data.recordStatus
  let effectiveBatchID :=
    if data.batchId = 0 then answers.lookupBatchIDByLogID data.logId else data.batchId
  if (bs = "cancelled" ∨ answers.isBatchCancelled effectiveBatchID) ∧
      (rs = "pending" ∨ rs = "queued") then
    ⟨.sentOk, [data.failed "批次已取消"], none⟩
  else if rs ∈ finalStatuses then ⟨.sentOk, [], none⟩
  else if (rs = "pending" ∨ rs = "queued") ∧
      answers.lookupCurrentStatus ∉ ["", "pending", "queued"] then ⟨.sentOk, [], none⟩
  else if answers.isAlreadySubmitted then ⟨.sentOk, [], none⟩
  else
    let classified := classifySendError answers.sendSMS.error
    ⟨classified.1, classified.2.toList.map fun errStr => data.failed (String.ofList errStr),
      some answers.sendSMS⟩

/-- What `OnPDU` does for a `SubmitSMResp`: the results it publishes, the payload it publishes
again, and whether it calls `MarkSubmitted`. -/
structure Responded where
  results : List GatewayResult
  republished : Option SendPayload
  marks : Bool
  deriving DecidableEq, Repr

def SendPayload.retried (payload : SendPayload) : SendPayload :=
  { payload with
    throttleRetry := payload.throttleRetry + 1
    recordStatus := "queued" }

/-- The branch of `OnPDU` for a `SubmitSMResp` that belongs to an entry of `sequenceMap`. -/
def onSubmitSMResp (maxRetry : ℤ) (broker : GatewayBroker) (payload : SendPayload)
    (commandStatus : ℕ) (messageID : String) : Responded :=
  if commandStatus = 0 then ⟨[payload.sent messageID], none, true⟩
  else if commandStatus = 88 then
    if payload.logId ≠ 0 ∧ payload.throttleRetry < maxRetry then
      if (republishSmppPayloads broker [(payload.retried, 0)]).2 then
        ⟨[payload.failed "SMPP Error: 88"], none, false⟩
      else ⟨[], some payload.retried, false⟩
    else ⟨[payload.failed "SMPP Error: 88 (throttled, retries exhausted)"], none, false⟩
  else ⟨[payload.failed ("SMPP Error: " ++ toString commandStatus)], none, false⟩

/-- Why a delivery is in the queue: it was put there, it was put there again after a response of 88,
or it came back from a `Submit` that failed. -/
inductive QueueCause where
  | enqueued
  | throttled
  | requeued
  deriving DecidableEq, Repr

inductive MessageCopy where
  | queued (body : Json) (position : ℕ) (cause : QueueCause)
  | inFlight (payload : SendPayload)

def MessageCopy.payload : MessageCopy → Option SendPayload
  | queued body position _ =>
      (extractSmsPayloads (some body)).bind fun payloads => payloads[position]?
  | inFlight payload => some payload

/-- The copies of a message; for each time that it has come to `Submit`, why its delivery was in the
queue; how often `Submit` has succeeded; the number of its retries; the results that were published
for it; and its mark `submit_done`. -/
structure ThrottledMessage where
  copies : List MessageCopy
  entries : List QueueCause
  submitted : ℕ
  retries : ℕ
  published : List GatewayResult
  submitDone : Bool

/-- A worker processes the delivery of a copy, the response for a copy in flight comes, or the
session of a copy in flight is given up. In the first step `kind` is what becomes of the other
messages of the delivery, and `swept` says whether the session was given up before its `Submit`
failed. The flag `takesResult` says whether the broker takes the results that are published. -/
inductive ThrottleLabel where
  | deliver (index : ℕ) (answers : ProcessAnswers) (kind : ℕ → SmsFailureKind) (swept : Bool)
      (broker : GatewayBroker) (takesResult : Bool)
  | respond (index : ℕ) (commandStatus : ℕ) (messageID : String) (broker : GatewayBroker)
      (takesResult : Bool)
  | sweep (index : ℕ) (takesResult : Bool)

/-- The copy in the body of the group that the message is republished with, or in the delivery that
is requeued. -/
def requeuedCopies (broker : GatewayBroker) (kind : ℕ → SmsFailureKind) (body : Json)
    (position : ℕ) (payload : SendPayload) (cause : QueueCause) : List MessageCopy :=
  let delivery := workerProcessDelivery broker kind (some body)
  let group := (republishGroups broker delivery.republished).find? fun group =>
    (payload, position) ∈ group.2
  (group.map fun group =>
      .queued (SendPayload.marshal (group.2.map Prod.fst)) (group.2.idxOf (payload, position))
        cause).toList ++
    if delivery.op = .nack true then [.queued body position cause] else []

namespace ThrottledMessage

def start (body : Json) (position : ℕ) : ThrottledMessage where
  copies := [.queued body position .enqueued]
  entries := []
  submitted := 0
  retries := 0
  published := []
  submitDone := false

def publish (state : ThrottledMessage) (results : List GatewayResult) (takesResult : Bool) :
    List GatewayResult :=
  if takesResult then state.published ++ results else state.published

def Allows (state : ThrottledMessage) (answers : ProcessAnswers) : Prop :=
  (answers.lookupCurrentStatus ∈ ["", "pending", "queued"] ∨ state.published ≠ []) ∧
    (answers.isAlreadySubmitted = true → state.submitDone = true)

instance (state : ThrottledMessage) (answers : ProcessAnswers) : Decidable (state.Allows answers) :=
  inferInstanceAs (Decidable (_ ∧ _))

def deliver (unicode : Unicode) (state : ThrottledMessage) (others : List MessageCopy) (body : Json)
    (position : ℕ) (cause : QueueCause) (payload : SendPayload) (answers : ProcessAnswers)
    (kind : ℕ → SmsFailureKind) (swept : Bool) (broker : GatewayBroker) (takesResult : Bool) :
    ThrottledMessage :=
  let processed := processSingleSMSData unicode answers payload
  let enters := processed.outcome.any SubmitOutcome.enters
  let submits := processed.outcome = some .submitted
  let sweeps := swept ∧ enters ∧ ¬ submits
  { state with
    copies :=
      (if submits then [.inFlight payload] else []) ++
        requeuedCopies broker (Function.update kind position processed.kind) body position payload
          (if enters then .requeued else cause) ++
        others
    entries := if enters then state.entries ++ [cause] else state.entries
    submitted := if submits then state.submitted + 1 else state.submitted
    published :=
      state.publish ((if sweeps then [payload.sent ""] else []) ++ processed.results) takesResult }

def respond (maxRetry : ℤ) (state : ThrottledMessage) (others : List MessageCopy)
    (payload : SendPayload) (commandStatus : ℕ) (messageID : String) (broker : GatewayBroker)
    (takesResult : Bool) : ThrottledMessage :=
  let responded := onSubmitSMResp maxRetry broker payload commandStatus messageID
  { state with
    copies :=
      (responded.republished.map fun retried =>
        .queued (SendPayload.marshal [retried]) 0 .throttled).toList ++ others
    retries := if responded.republished.isSome then state.retries + 1 else state.retries
    published := state.publish responded.results takesResult
    submitDone := state.submitDone || responded.marks }

def next (unicode : Unicode) (maxRetry : ℤ) (state : ThrottledMessage) :
    ThrottleLabel → Option ThrottledMessage
  | .deliver index answers kind swept broker takesResult =>
      match state.copies[index]? with
      | some (.queued body position cause) =>
          match (MessageCopy.queued body position cause).payload with
          | some payload =>
              if state.Allows answers then
                some (state.deliver unicode (state.copies.eraseIdx index) body position cause
                  payload answers kind swept broker takesResult)
              else none
          | none => none
      | _ => none
  | .respond index commandStatus messageID broker takesResult =>
      match state.copies[index]? with
      | some (.inFlight payload) =>
          some (state.respond maxRetry (state.copies.eraseIdx index) payload commandStatus messageID
            broker takesResult)
      | _ => none
  | .sweep index takesResult =>
      match state.copies[index]? with
      | some (.inFlight payload) =>
          some { state with
            copies := state.copies.eraseIdx index
            published := state.publish [payload.sent ""] takesResult }
      | _ => none

end ThrottledMessage

end Klsmsc
