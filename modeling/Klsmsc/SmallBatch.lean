import Klsmsc.Submission

/-!
# The synchronous path of `send_batch_sms`

Up to ten recipients are checked, charged and stored one after the other, in one transaction; a
recipient that is refused leaves an error in the response and nothing else. Behind the commit the
messages on SMPP channels are published as one package, and one by one when that is reported as
failed; the others are enqueued one by one. A message that is not enqueued is reported to the
caller, and its row stays as it is.

The estimate of the price and the expansion of the private library, which are common to batches of
every size, are left out, and so are the counters of the library.
-/

namespace Klsmsc

/-- The surroundings of the handlers of the API: the ids that they draw for the messages of a
request, and how an amount reads in an error. -/
structure ApiEnv extends SubmitEnv where
  drawnId : (index : ℕ) → MessageId
  amountText : Money → String

inductive ReportError where
  | refused (error : SubmitError)
  | unqueued (text : String)
  deriving DecidableEq, Repr

structure RecipientReport where
  phoneNumber : String
  success : Bool
  messageId : Option MessageId
  error : Option ReportError
  deriving DecidableEq, Repr

/-- An entry of `valid_logs_mids`, with the position of the recipient and the row. -/
structure BookedMessage where
  index : ℕ
  phone : String
  channel : Channel
  row : SmsLog
  deriving DecidableEq, Repr

def BookedMessage.messageId (message : BookedMessage) : MessageId :=
  message.row.messageId

def BookedMessage.isSmpp (message : BookedMessage) : Bool :=
  message.channel.protocol = .smpp

def Acceptance.charge (env : ChunkEnv) (accountId : ℕ) (accepted : Acceptance) :
    Option RetryCharge :=
  let units := if accepted.channel.isRcs then 1 else env.countSmsParts accepted.finalMessage
  (env.getPrice accepted.channel.id accepted.countryCode accountId).map fun price =>
    ⟨units, env.resolveBaseCostPerSms accepted.channel.id accepted.countryCode * units,
      price.1 * units, price.2⟩

section

variable (env : ApiEnv) (accountId : ℕ) (db : Db) (accepted : Acceptance)

/-- `calculate_and_charge` for an accepted message. -/
def Acceptance.calculateAndCharge : RetryChargeResult :=
  PricingEngine.calculateAndCharge env.toChunkEnv db accountId accepted.channel
    accepted.countryCode accepted.finalMessage false

def chargeError : RetryChargeResult → SubmitError
  | .insufficientBalance =>
      let total := ((accepted.charge env.toChunkEnv accountId).map RetryCharge.totalCost).getD 0
      let required := env.amountText total
      let available := env.amountText ((db.balance accountId).getD 0)
      ⟨"INSUFFICIENT_BALANCE",
        s!"Insufficient balance. Required: {required}, Available: {available}"⟩
  | .pricingNotFound =>
      let country := accepted.countryCode
      let channelId := accepted.channel.id
      ⟨"PRICING_NOT_FOUND", s!"No pricing found for country {country} on channel {channelId}"⟩
  | _ => ⟨"BILLING_ERROR", "Account not found"⟩

end

structure SmallBatch where
  db : Db
  booked : List BookedMessage
  results : List RecipientReport

namespace SmallBatch

def start (db : Db) : SmallBatch := ⟨db, [], []⟩

def refuse (batch : SmallBatch) (phone : String) (error : SubmitError) : SmallBatch :=
  { batch with results := batch.results ++ [⟨phone, false, none, some (.refused error)⟩] }

section

variable (env : ApiEnv) (account : Account) (check : WordCheck) (input : ChunkInput)

def row (index id : ℕ) (accepted : Acceptance) (charge : RetryCharge) : SmsLog :=
  { accepted.row input.accountId id (env.drawnId index) charge env.now with
    batchId := some input.batchId }

def book (index : ℕ) (phone : String) (batch : SmallBatch) : SmallBatch :=
  match acceptRecipient env.toSubmitEnv account check input index phone with
  | .error error => batch.refuse phone error
  | .ok accepted =>
      match accepted.calculateAndCharge env input.accountId batch.db with
      | .charged paid charge =>
          let stored := row env input index paid.nextId accepted charge
          { batch with
            db := paid.addSmsLogs [stored]
            booked := batch.booked ++ [⟨index, phone, accepted.channel, stored⟩] }
      | failure => batch.refuse phone (chargeError env input.accountId batch.db accepted failure)

def bookAll : (index : ℕ) → List String → SmallBatch → SmallBatch
  | _, [], batch => batch
  | index, phone :: phones, batch =>
      bookAll (index + 1) phones (book env account check input index phone batch)

end

section

variable (env : ApiEnv) (batch : SmallBatch)

def smppIds : List MessageId :=
  (batch.booked.filter BookedMessage.isSmpp).map BookedMessage.messageId

def replaceLinks : Db :=
  batch.db.updateSmsLogs (fun row => row.messageId ∈ batch.smppIds)
    (SmsLog.linked env.toChunkEnv)

def payloads (batchId : ℕ) : List SmppPayload :=
  let batchStatus := ((batch.db.batches batchId).map fun row => row.status.text).getD ""
  payloadsOf env.toChunkEnv batchStatus
    ((batch.db.logsOf batch.smppIds).map (SmsLog.linked env.toChunkEnv)) batch.smppIds

def handed (batchId : ℕ) : List MessageId :=
  (batch.payloads env batchId).map SmppPayload.messageId ++
    (batch.booked.filter fun message => !message.isSmpp).map BookedMessage.messageId

def isQueued (batchId : ℕ) (message : BookedMessage) : Bool :=
  if message.isSmpp then
    message.messageId ∈
      ((publishSmpp env.broker (batch.payloads env batchId)).1).map SmppPayload.messageId
  else queueSms env.broker message.messageId

def report (batchId : ℕ) (message : BookedMessage) : RecipientReport :=
  if batch.isQueued env batchId message then ⟨message.phone, true, some message.messageId, none⟩
  else ⟨message.phone, false, some message.messageId, some (.unqueued "入队失败")⟩

def reports (batchId : ℕ) : List RecipientReport :=
  ((batch.booked.filter BookedMessage.isSmpp) ++
    batch.booked.filter fun message => !message.isSmpp).map (batch.report env batchId)

end

def finish (env : ChunkEnv) (batchId succeeded : ℕ) (db : Db) : Db :=
  let counted := db.modifyBatch batchId fun batch =>
    { batch with totalCount := (db.batchLogs batchId).length }
  if succeeded = 0 then
    counted.modifyBatch batchId fun batch =>
      { batch with
        status := .failed
        progress := 0
        errorMessage := some "没有成功入队的短信（号码、内容、余额或通道等原因）" }
  else
    (counted.updateBatchProgress env.unicode batchId env.now env.expiredReport).modifyBatch batchId
      fun batch =>
        if batch.status = .completed ∨ batch.status = .failed ∨ batch.status = .cancelled then batch
        else { batch with status := .processing, completedAt := none }

end SmallBatch

/-- The loop over the recipients of `send_batch_sms`. -/
def bookSmallBatch (env : ApiEnv) (check : WordCheck) (input : ChunkInput) (db : Db) :
    SmallBatch :=
  match db.accounts input.accountId with
  | none => .start db
  | some account => SmallBatch.bookAll env account check input 0 input.phoneNumbers (.start db)

/-- The synchronous path of `send_batch_sms`: the tables and the response. -/
def sendSmallBatch (env : ApiEnv) (check : WordCheck) (input : ChunkInput) (db : Db) : SmallBatch :=
  let batch := bookSmallBatch env check input db
  let results := batch.results ++ batch.reports env input.batchId
  let succeeded := results.countP RecipientReport.success
  { batch with
    db := SmallBatch.finish env.toChunkEnv input.batchId succeeded (batch.replaceLinks env)
    results := results }

section

variable {env : ApiEnv} {account : Account} {check : WordCheck} {input : ChunkInput}

theorem calculateAndCharge_eq_charged {accountId : ℕ} {db paid : Db} {accepted : Acceptance}
    {charge : RetryCharge} :
    accepted.calculateAndCharge env accountId db = .charged paid charge ↔
      accepted.charge env.toChunkEnv accountId = some charge ∧
        ∃ owner deducted, db.accounts accountId = some owner ∧
          db.deduct accountId (owner.paymentType = .postpaid) charge.totalCost = some deducted ∧
          paid = deducted.logCharge accountId charge.totalCost := by
  unfold Acceptance.calculateAndCharge PricingEngine.calculateAndCharge Acceptance.charge
  dsimp only
  cases env.getPrice accepted.channel.id accepted.countryCode accountId with
  | none => simp
  | some price =>
      cases db.accounts accountId with
      | none => simp
      | some owner =>
          simp only [Option.map_some, Option.some.injEq, exists_and_left]
          split
          · rename_i short
            constructor
            · intro charged
              cases charged
            · rintro ⟨rfl, other, rfl, deducted, pays, -⟩
              rw [short] at pays
              cases pays
          · rename_i deducted pays
            simp only [RetryChargeResult.charged.injEq, Bool.false_eq_true, if_false]
            constructor
            · rintro ⟨rfl, rfl⟩
              exact ⟨rfl, owner, rfl, deducted, pays, rfl⟩
            · rintro ⟨rfl, other, rfl, another, paysToo, rfl⟩
              rw [pays] at paysToo
              cases paysToo
              exact ⟨rfl, rfl⟩

namespace SmallBatch

variable (env account check input) in
theorem book_cases (index : ℕ) (phone : String) (batch : SmallBatch) :
    (∃ error, book env account check input index phone batch = batch.refuse phone error) ∨
      ∃ accepted paid charge,
        acceptRecipient env.toSubmitEnv account check input index phone = .ok accepted ∧
          accepted.calculateAndCharge env input.accountId batch.db = .charged paid charge ∧
          let stored := row env input index paid.nextId accepted charge
          book env account check input index phone batch =
            { batch with
              db := paid.addSmsLogs [stored]
              booked := batch.booked ++ [⟨index, phone, accepted.channel, stored⟩] } := by
  unfold book
  split
  · rename_i error refused
    exact .inl ⟨error, rfl⟩
  · rename_i accepted accepts
    split
    · rename_i paid charge charged
      exact .inr ⟨accepted, paid, charge, accepts, charged, rfl⟩
    · exact .inl ⟨_, rfl⟩

end SmallBatch

end

end Klsmsc
