import Klsmsc.Chunk.Enqueue

/-!
# The chunk worker

`_do_process_chunk` phase by phase: the virtual fast path; the pre-failed rows,
the charge, the write loop with its retries and the fallback that charges item by
item; the finish; and the refund of the exception handler.
-/

namespace Klsmsc

open Library

/-- The number of rows in one transaction (`_db_log_chunk`, `_pf_chunk`, `_fail_chunk`). -/
def dbLogChunk : ℕ := 5000

def writeAttempts : ℕ := 5

/-- An `OperationalError` with one of these codes. -/
def retryable (codes : List ℕ) : Raise → Bool
  | .operational code => code ∈ codes
  | _ => false

/-- `_resolve_batch_sid`. -/
def resolveBatchSid (env : ChunkEnv) (input : ChunkInput) (channelId : ℕ)
    (countryCode : String) : Option String :=
  match input.senderId with
  | none => none
  | some requested =>
      if requested = "" ∨ channelId = 0 ∨ countryCode = "" then none
      else env.resolveSenderId channelId countryCode requested

namespace ValidItem

variable (env : ChunkEnv) (input : ChunkInput) (item : ValidItem)

def unitPrice : Money :=
  ((env.getPrice item.channel.id item.phoneInfo.countryCode input.accountId).map Prod.fst).getD 0

def currency : String :=
  ((env.getPrice item.channel.id item.phoneInfo.countryCode input.accountId).map
    Prod.snd).getD "USD"

def sell : Money :=
  item.unitPrice env input * item.msgCount

def baseCost : Money :=
  env.resolveBaseCostPerSms item.channel.id item.phoneInfo.countryCode * item.msgCount

def initStatus : SmsStatus :=
  match item.channel.protocol with
  | .virtual => .pending
  | .smpp => .pending
  | .http => .queued

def smsLog (site : IdSite) : SmsLog where
  id := 0
  messageId := env.messageId site
  upstreamMessageId :=
    if item.channel.protocol = .virtual then some (env.upstreamId site) else none
  accountId := input.accountId
  channelId := some item.channel.id
  batchId := some input.batchId
  phoneNumber := item.phoneInfo.e164Format
  countryCode := some item.phoneInfo.countryCode
  senderId := resolveBatchSid env input item.channel.id item.phoneInfo.countryCode
  message := item.finalMessage
  messageCount := item.msgCount
  status := item.initStatus
  costPrice := some (item.baseCost env)
  sellingPrice := some (item.sell env input)
  currency := item.currency env input
  submitTime := some env.now
  sentTime := none
  deliveryTime := none
  errorMessage := none
  refundedAt := none
  refundedBy := none
  refundedAmount := none

/-- `PricingEngine.billable_units`. -/
def billableUnits : ℕ :=
  if item.channel.isRcs then 1 else env.countSmsParts item.finalMessage

def fallbackSmsLog (index : ℕ) (price : Money) : SmsLog :=
  { item.smsLog env input (.fallback index) with
    messageCount := item.billableUnits env
    status := if item.channel.protocol = .virtual then .pending else .queued
    costPrice := some
      (env.resolveBaseCostPerSms item.channel.id item.phoneInfo.countryCode *
        item.billableUnits env)
    sellingPrice := some price }

def exhaustedSmsLog (index : ℕ) : SmsLog :=
  { item.smsLog env input (.exhausted index) with
    upstreamMessageId := none
    senderId := none
    status := .failed
    costPrice := some 0
    sellingPrice := some 0
    currency := "USD"
    errorMessage := some "Insufficient balance" }

end ValidItem

def totalSell (env : ChunkEnv) (input : ChunkInput) (items : List ValidItem) : Money :=
  (items.map fun item => item.sell env input).sum

/-- The UPDATE of `accounts` that charges: nothing when it matches no row. -/
def Db.deduct (db : Db) (accountId : ℕ) (isPostpaid : Bool) (amount : Money) : Option Db :=
  match db.accounts accountId with
  | none => none
  | some account =>
      if isPostpaid ∨ amount ≤ account.balance then some (db.addBalance accountId (-amount))
      else none

theorem eq_addBalance_of_deduct {db paid : Db} {accountId : ℕ} {isPostpaid : Bool}
    {amount : Money} (deducted : db.deduct accountId isPostpaid amount = some paid) :
    paid = db.addBalance accountId (-amount) := by
  unfold Db.deduct at deducted
  split at deducted
  · cases deducted
  · split at deducted <;> cases deducted
    rfl

/-- A charge in `balance_logs`. -/
def Db.logCharge (db : Db) (accountId : ℕ) (amount : Money) : Db :=
  db.addBalanceLog ⟨accountId, .charge, -amount, (db.balance accountId).getD 0⟩

/-- `batch_account.payment_type == 'postpaid'`. -/
def CheckContext.isPostpaid (context : CheckContext) : Bool :=
  context.account.any fun account => account.paymentType = .postpaid

namespace Chunk

def lift {Value : Type} (result : Except Raise Value) : Chunk Value :=
  match result with
  | .ok value => return value
  | .error raised => throw raised

end Chunk

section

variable (env : ChunkEnv) (faults : Faults) (input : ChunkInput)

def deductOnce (isPostpaid : Bool) (total : Money) (attempt : ℕ) : Chunk Bool := do
  Chunk.statement faults (.deduct attempt)
  match (← get).working.deduct input.accountId isPostpaid total with
  | none => return false
  | some db =>
      Chunk.change fun _ => db
      return true

def deductRetrying (isPostpaid : Bool) (total : Money) : ℕ → Chunk Bool
  | 0 => deductOnce faults input isPostpaid total (writeAttempts - 1)
  | left + 1 =>
      catching (retryable [1205, 1213])
        (deductOnce faults input isPostpaid total (writeAttempts - 1 - (left + 1)))
        fun _ => do
          Chunk.rollback
          Chunk.statement faults (.deductBackoff (writeAttempts - 1 - (left + 1)))
          deductRetrying isPostpaid total left

/-- The charge of the whole chunk: whether it was made. It is committed before
the rows are written, and only then known to the exception handler. -/
def chargeChunk (isPostpaid : Bool) (total : Money) : Chunk Bool := do
  if total ≤ 0 then return true
  else if ← deductRetrying faults input isPostpaid total (writeAttempts - 1) then
    Chunk.statement faults .readBalance
    Chunk.change fun db => db.logCharge input.accountId total
    Chunk.commit faults .chargeCommit
    modify fun state => { state with charged := total }
    return true
  else return false

def storeFailed (flushSite commitSite : ℕ → Site) (rows : List SmsLog) : Chunk Unit :=
  (slices dbLogChunk rows).zipIdx.forM fun (slice, index) => do
    Chunk.flush faults (flushSite index)
    Chunk.change fun db => db.insertSmsLogs slice
    Chunk.commit faults (commitSite index)

def smppPayloads (batchStatus : String) (items : List ValidItem)
    (rows : List SmsLog) : List SmppPayload :=
  ((items.zip rows).filter fun entry => entry.1.channel.protocol = .smpp).map
    fun entry => smppPayloadPublicDict env.sanitize batchStatus entry.2

def attemptRows (slice attempt : ℕ) (items : List ValidItem) : List SmsLog :=
  items.mapIdx fun index item => item.smsLog env input (.written slice attempt index)

def idsOn (protocol : Protocol) (items : List ValidItem) (rows : List SmsLog) :
    List MessageId :=
  ((items.zip rows).filter fun entry => entry.1.channel.protocol = protocol).map
    fun entry => entry.2.messageId

/-- The channel that `virtual_channel_id` names after some items. -/
def lastVirtual (items : List ValidItem) (before : Option ℕ) : Option ℕ :=
  match (items.filter fun item => item.channel.protocol = .virtual).getLast? with
  | none => before
  | some item => some item.channel.id

/-- The part of an attempt behind `try`: insert the rows, replace their links and
commit. What it returns are the SMPP payloads and the ids for the HTTP queue. -/
def storeSlice (batchStatus : String) (slice attempt : ℕ) (items : List ValidItem) :
    Chunk (List SmppPayload × List MessageId) := do
  let rows := attemptRows env input slice attempt items
  Chunk.flush faults (.insert slice attempt)
  let stored := (← get).working.placed rows
  Chunk.change fun db => db.insertSmsLogs rows
  let linked ← replaceTrackUrlsForLogs env faults (.replaceLinks slice attempt) stored
  Chunk.commit faults (.writeCommit slice attempt)
  return (smppPayloads env batchStatus items linked, idsOn .http items rows)

def buildSlice (mark : List MessageId) (slice attempt : ℕ) (items : List ValidItem) :
    Chunk Unit := do
  Chunk.statement faults (.build slice attempt)
  modify fun state =>
    { state with
      virtualChannelId := lastVirtual items state.virtualChannelId
      virtualIds := mark ++ idsOn .virtual items (attemptRows env input slice attempt items) }

def writeSlice (batchStatus : String) (mark : List MessageId) (slice : ℕ)
    (items : List ValidItem) : ℕ → Chunk (List SmppPayload × List MessageId)
  | 0 => do
      buildSlice env faults input mark slice (writeAttempts - 1) items
      storeSlice env faults input batchStatus slice (writeAttempts - 1) items
  | left + 1 => do
      buildSlice env faults input mark slice (writeAttempts - 1 - (left + 1)) items
      catching (retryable [1205, 1213, 2013])
        (storeSlice env faults input batchStatus slice (writeAttempts - 1 - (left + 1)) items)
        fun _ => do
          Chunk.rollback
          Chunk.statement faults (.writeBackoff slice (writeAttempts - 1 - (left + 1)))
          writeSlice batchStatus mark slice items left

def writeAndQueue (batchStatus : String) (slice : ℕ) (items : List ValidItem) : Chunk Unit := do
  let (payloads, messageIds) ←
    writeSlice env faults input batchStatus (← get).virtualIds slice items (writeAttempts - 1)
  queueSliceSmpp env faults slice payloads
  queueSliceHttp env faults slice (items.getLast?.map ValidItem.channel) messageIds

def writeLoop (batchStatus : String) (items : List ValidItem) : Chunk Unit := do
  (slices dbLogChunk items).zipIdx.forM fun (slice, index) =>
    writeAndQueue env faults input batchStatus index slice
  if (← get).virtualChannelId.isSome then Chunk.count (← get).virtualIds.length 0

/-- How `calculate_and_charge` ends. -/
inductive ChargeResult where
  | charged (total : Money)
  | accountNotFound
  | exhausted
  deriving DecidableEq, Repr

/-- `PricingEngine.calculate_and_charge` for an item. -/
def calculateAndCharge (index : ℕ) (item : ValidItem) : Chunk ChargeResult := do
  Chunk.statement faults (.fallbackCharge index)
  match env.getPrice item.channel.id item.phoneInfo.countryCode input.accountId with
  | none => return .exhausted
  | some (price, _) =>
      match (← get).working.accounts input.accountId with
      | none => return .accountNotFound
      | some account =>
          let total := price * item.billableUnits env
          match (← get).working.deduct input.accountId (account.paymentType = .postpaid) total with
          | none => return .exhausted
          | some db =>
              Chunk.change fun _ => db.logCharge input.accountId total
              Chunk.flush faults (.fallbackRecord index)
              return .charged total

def commitEvery : ℕ := 50

def commitGroup (batchStatus : String) (index : ℕ) (channel : Option Channel) : Chunk Unit := do
  Chunk.flush faults (.groupFlush index)
  Chunk.commit faults (.groupCommit index)
  queueGroup env faults index channel batchStatus (← get).commitBatch
  modify fun state => { state with commitBatch := [] }

/-- Store the row of an item that has just been charged. Between the charge and
the row stand only reads and a flush, and an exception there takes the transaction
with it. -/
def storeCharged (batchStatus : String) (index : ℕ) (item : ValidItem) (total : Money) :
    Chunk Unit := do
  let row := item.fallbackSmsLog env input index total
  modify fun state =>
    { state with virtualChannelId := lastVirtual [item] state.virtualChannelId }
  Chunk.flush faults (.fallbackSender index)
  modify fun state =>
    { state with
      virtualIds := state.virtualIds ++ idsOn .virtual [item] [row]
      commitBatch := state.commitBatch ++ [(row.messageId, total)] }
  Chunk.change fun db => db.insertSmsLogs [row]
  if commitEvery ≤ (← get).commitBatch.length then
    commitGroup env faults batchStatus index (some item.channel)

def fallbackItem (batchStatus : String) (index : ℕ) (item : ValidItem) : Chunk Bool :=
  catching Raise.isException
    (do
      match ← calculateAndCharge env faults input index item with
      | .exhausted => return false
      | .accountNotFound =>
          Chunk.count 0 1
          return true
      | .charged total =>
          storeCharged env faults input batchStatus index item total
          return true)
    fun _ => do
      Chunk.count 0 1
      return true

/-- The fallback loop from an index on: the number of items that it has left when
the balance or the price is missing, and the channel of the last item. -/
def fallbackLoop (batchStatus : String) :
    ℕ → Option Channel → List ValidItem → Chunk (List ValidItem × Option Channel)
  | _, last, [] => return ([], last)
  | index, _, item :: items => do
      if ← fallbackItem env faults input batchStatus index item then
        fallbackLoop batchStatus (index + 1) (some item.channel) items
      else return (item :: items, some item.channel)

/-- The fallback path: charge item by item, commit the last group, and store the
items that are left as failed. -/
def fallback (batchStatus : String) (items : List ValidItem) : Chunk Unit := do
  let (unprocessed, last) ← fallbackLoop env faults input batchStatus 0 none items
  if !(← get).commitBatch.isEmpty then
    commitGroup env faults batchStatus items.length last
  if !unprocessed.isEmpty then
    storeFailed faults .exhaustedFlush .exhaustedCommit
      (unprocessed.mapIdx fun index item => item.exhaustedSmsLog env input index)
    Chunk.count 0 unprocessed.length

def sendItems (context : CheckContext) (batchStatus : String) (items : List ValidItem) :
    Chunk Unit := do
  if ← chargeChunk faults input context.isPostpaid (totalSell env input items) then
    writeLoop env faults input batchStatus items
  else fallback env faults input batchStatus items

def ordinaryPath (context : CheckContext) (batchStatus : String) : Chunk Unit := do
  let checked ← Chunk.lift (precheck env faults input context 0 input.phoneNumbers)
  Chunk.count checked.done checked.prefailed.length
  storeFailed faults .prefailedFlush .prefailedCommit
    (checked.prefailed.mapIdx (Prefailed.smsLog env input))
  if !checked.valid.isEmpty then sendItems env faults input context batchStatus checked.valid

def storeVirtual (slice : ℕ) (rows : List SmsLog) : Chunk Unit := do
  Chunk.statement faults (.virtualBuild slice)
  modify fun state =>
    { state with virtualIds := state.virtualIds ++ rows.map SmsLog.messageId }
  Chunk.count rows.length 0
  Chunk.flush faults (.virtualInsert slice)
  let stored := (← get).working.placed rows
  Chunk.change fun db => db.insertSmsLogs rows
  let _ ← replaceTrackUrlsForLogs env faults (.virtualLinks slice) stored
  Chunk.commit faults (.virtualCommit slice)

def chargeVirtual (isPostpaid : Bool) (total : Money) : Chunk Bool := do
  Chunk.statement faults .virtualCharge
  if total ≤ 0 then return true
  else
    match (← get).working.deduct input.accountId isPostpaid total with
    | none => return false
    | some db =>
        Chunk.change fun _ => db.logCharge input.accountId total
        return true

def virtualSlices (items : List ValidItem) : List (List SmsLog × ℕ) :=
  (slices dbLogChunk
    (items.mapIdx fun index item => item.smsLog env input (.virtual index))).zipIdx

def sendVirtual (context : CheckContext) (items : List ValidItem) : Chunk Unit := do
  if ← chargeVirtual faults input context.isPostpaid (totalSell env input items) then
    (virtualSlices env input items).forM fun (rows, slice) => storeVirtual env faults slice rows
  else Chunk.count 0 items.length

def virtualPath (context : CheckContext) (channel : Channel) : Chunk Unit := do
  modify fun state => { state with virtualChannelId := some channel.id }
  let checked ← Chunk.lift (precheckVirtual env faults input context channel 0 input.phoneNumbers)
  Chunk.count checked.done checked.prefailed.length
  if !checked.valid.isEmpty then sendVirtual env faults input context checked.valid

/-- `update_batch_progress`. -/
def updateBatchProgress (batchId : ℕ) : Chunk Bool :=
  catching Raise.isException
    (do
      Chunk.statement faults .progressRead
      match progressPlan env.unicode (← get).working batchId env.now with
      | .nothing => return false
      | .write target =>
          Chunk.change fun db => db.setBatch batchId target
          Chunk.commit faults .progressCommit
          return true
      | .expire batch rows total =>
          Chunk.change fun db => expireLogs db rows env.now env.expiredReport
          Chunk.commit faults .progressExpiry
          let counts := batchCounts (← get).working batchId
          Chunk.change fun db => db.setBatch batchId (batch.afterExpiry counts total env.now)
          Chunk.commit faults .progressCommit
          return true)
    fun _ => do
      Chunk.rollback
      return false

/-- The channel of the argument `channel_id`. -/
def preChannel (db : Db) : Option Channel :=
  match input.channelId with
  | none => none
  | some channelId => if channelId = 0 then none else db.channels channelId

def virtualChannel (db : Db) : Option Channel :=
  (preChannel input db).filter fun channel => channel.protocol = .virtual

def checkContext (db : Db) : CheckContext where
  alreadyDone := ((db.batchLogs input.batchId).map SmsLog.phoneNumber).filter
    fun phone => phone ∈ input.phoneNumbers
  blacklistedPhones :=
    if (faults .readBlacklist).isSome then [] else input.phoneNumbers.filter env.isBlacklisted
  account := db.accounts input.accountId

/-- What `_do_process_chunk` returns. -/
structure ChunkResult where
  succeeded : ℕ
  failed : ℕ
  skipped : Bool
  deriving DecidableEq, Repr

def chunkSession : Chunk Bool := do
  Chunk.statement faults .readBatch
  let db := (← get).working
  if (db.batches input.batchId).any fun batch => batch.status.stopped then return false
  else
    Chunk.statement faults .readExisting
    catching Raise.isException (Chunk.statement faults .readBlacklist) fun _ => return ()
    Chunk.statement faults .readAccount
    Chunk.statement faults .readChannel
    let context := checkContext env faults input db
    let batchStatus := ((db.batches input.batchId).map fun batch => batch.status.text).getD ""
    match virtualChannel input db with
    | some channel => virtualPath env faults input context channel
    | none => ordinaryPath env faults input context batchStatus
    Chunk.statement faults .countLogs
    let _ ← updateBatchProgress env faults input.batchId
    return true

/-- The end of `async with factory() as db`, which rolls back what is not committed. -/
def closing {Value : Type} (body : Chunk Value) : Chunk Value := fun state =>
  match body state with
  | .ok value after => .ok value { after with working := after.committed }
  | .error raised after => .error raised { after with working := after.committed }

def dispatchVirtual : Chunk Unit := do
  let state ← get
  if state.virtualChannelId.isSome ∧ state.virtualIds ≠ [] then
    Chunk.statement faults .dispatch
    Chunk.hand .simulation state.virtualIds

/-- The body of the worker inside `try`. -/
def chunkBody : Chunk ChunkResult := do
  if ← closing (chunkSession env faults input) then
    dispatchVirtual faults
    let state ← get
    return ⟨state.succeeded, state.failed, false⟩
  else return ⟨0, 0, true⟩

def refundCharged : Chunk Unit :=
  catching Raise.isException
    (closing do
      Chunk.statement faults .refund
      let charged := (← get).charged
      Chunk.change fun db => db.addBalance input.accountId charged
      Chunk.change fun db =>
        db.addBalanceLog ⟨input.accountId, .refund, charged, (db.balance input.accountId).getD 0⟩
      Chunk.commit faults .refundCommit)
    fun _ => return ()

/-- `_do_process_chunk`. -/
def doProcessChunk : Chunk ChunkResult :=
  catching Raise.isException (chunkBody env faults input)
    fun raised => do
      let state ← get
      if 0 < state.charged ∧ state.succeeded = 0 then refundCharged faults input
      throw raised

/-- An execution of `_do_process_chunk` on the tables. -/
def runChunk (db : Db) : EStateM.Result Raise ChunkState ChunkResult :=
  doProcessChunk env faults input (ChunkState.start db)

def chunkTables (db : Db) : Db :=
  (finalState (doProcessChunk env faults input) (ChunkState.start db)).committed

end

def SmsLog.plain (channel : Channel) (unitPrice : Money) (phone : String) : SmsLog :=
  { ValidItem.smsLog (.plain channel unitPrice) (.plain [phone] none)
      ⟨⟨phone, "CN"⟩, "hello", 1, 1, channel⟩ (.fallback 9) with id := 1 }

def Faults.only (site : Site) (fault : Fault) : Faults := fun other =>
  if other = site then some fault else none

end Klsmsc
