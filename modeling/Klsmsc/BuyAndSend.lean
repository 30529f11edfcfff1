import Mathlib.Data.List.Sort
import Klsmsc.BatchProgress.Decisions
import Klsmsc.Chunk.Basic
import Klsmsc.DataNumbers

/-!
# Buy and send

The task `data_buy_send_async` of an order: `_do_buy_send_async`, whose attempts are calls of
`_do_buy_send_async_once`, and `_finalize_buy_send_failure_state`. An attempt writes a row for
every number of the order in one transaction, walks through the rows of the batch page by page to
hand them over, and settles the status of the order and of the batch at its end.

A step is what an attempt does up to a point where its effects are seen by others: the first
commit, the reading of a page, one call of the queue manager, the last commit. Before each of them
an exception can end the attempt; it undoes what is not committed. A deadlock lets another attempt
begin, and so does every repetition of the task; repetitions can work side by side.

The attempts are told apart by a number. What is recorded in `origins` the source keeps nowhere:
the entry of `data_order_numbers` for which a row has been written. The counters of the private
library, the progress that other sessions write for the display, and the simulated receipts of
virtual channels are left out.
-/

namespace Klsmsc

open Library

/-- A row of `data_order_numbers`. -/
structure OrderEntry where
  id : ℕ
  numberId : ℕ
  deriving DecidableEq, Repr

structure BuySendTask where
  batchId : ℕ
  accountId : ℕ
  entries : List OrderEntry
  message : String
  messages : List String
  channelId : Option ℕ
  entries_nodup : (entries.map OrderEntry.id).Nodup

/-- The values of `data_orders.status` that the task writes. -/
inductive OrderStatus where
  | processing
  | completed
  | cancelled
  deriving DecidableEq, Repr

/-- A row of `data_orders`. -/
structure DataOrder where
  status : OrderStatus
  executedCount : ℕ
  cancelReason : Option String
  deriving DecidableEq, Repr

structure BuySendEnv extends ChunkEnv where
  number : ℕ → Option DataNumber
  dialCode : String → String
  pinnedChannel : ℕ → Option Channel
  boundChannel : ℕ → Option Channel

structure OrderedNumber where
  entry : ℕ
  number : DataNumber
  deriving DecidableEq, Repr

/-- `row.get("country_code") or "PH"`. -/
def OrderedNumber.country (ordered : OrderedNumber) : String :=
  if ordered.number.countryCode = "" then "PH" else ordered.number.countryCode

structure RoutedNumber extends OrderedNumber where
  channel : Channel
  deriving DecidableEq, Repr

inductive SendCall where
  | smpp (payloads : List SmppPayload)
  | sms (messageId : MessageId)
  deriving DecidableEq, Repr

structure Sending where
  protocols : List (ℕ × Protocol)
  inserted : ℕ
  batchStatus : String
  lastLogId : ℕ
  calls : List SendCall
  queued : ℕ
  deriving DecidableEq, Repr

inductive AttemptStage where
  | notStarted
  | sending (values : Sending)
  | ended
  deriving DecidableEq, Repr

/-- The tables, the order, the ids that have been drawn, the entries of the rows, everything that
has been handed over, and the attempts. -/
structure BuySend where
  db : Db
  order : DataOrder
  drawn : MessageId
  origins : List (ℕ × MessageId)
  handed : List MessageId
  attempts : ℕ → AttemptStage

inductive BuySendLabel where
  | commitRows (attempt : ℕ) (env : BuySendEnv) (firstLogId : ℕ)
  | readPage (attempt : ℕ) (env : BuySendEnv) (replacesLinks : Bool)
  | publish (attempt : ℕ) (broker : Broker)
  | finish (attempt : ℕ) (env : BuySendEnv)
  | raise (attempt : ℕ) (finalized : Option (String × ℕ))

/-- The number of entries that are worked on at a time, and of rows on a page (`CHUNK`). -/
def buySendChunk : ℕ := 5000

/-- `MQ_BATCH_SIZE`. -/
def mqBatchSize : ℕ := 2000

section Rows

variable (env : BuySendEnv) (task : BuySendTask)

/-- `_get_channel_for_country`. -/
def channelForCountry (country : String) : Option Channel :=
  match (task.channelId.filter (· ≠ 0)).bind env.pinnedChannel with
  | some channel => some channel
  | none =>
      let routed := [env.dialCode country, country].findSome? fun code =>
        (env.selectChannel code none task.accountId).toOption.join
      routed.orElse fun _ => env.boundChannel task.accountId

/-- `_get_price_for`: the price, the cost and the currency of one part. -/
def priceForCountry (channel : Channel) (country : String) : Money × Money × String :=
  let answer := (env.getPrice channel.id (env.dialCode country) task.accountId).orElse fun _ =>
    env.getPrice channel.id country task.accountId
  ((answer.map Prod.fst).getD 0, env.resolveBaseCostPerSms channel.id country,
    (answer.map Prod.snd).getD "USD")

def orderedNumbers (chunk : List OrderEntry) : List OrderedNumber :=
  chunk.filterMap fun entry => (env.number entry.numberId).map fun number => ⟨entry.id, number⟩

def countryNumbers (ordered : List OrderedNumber) (country : String) : List RoutedNumber :=
  match channelForCountry env task country with
  | none => []
  | some channel =>
      (ordered.filter fun number => number.country = country).map fun number => ⟨number, channel⟩

def routedChunk (chunk : List OrderEntry) : List RoutedNumber :=
  let ordered := orderedNumbers env chunk
  (ordered.map OrderedNumber.country).eraseDups.flatMap (countryNumbers env task ordered)

def routedNumbers : List RoutedNumber :=
  (slices buySendChunk task.entries).flatMap (routedChunk env task)

/-- `messages if messages and len(messages) > 1 else [message]`. -/
def BuySendTask.templates : List String :=
  if 1 < task.messages.length then task.messages else [task.message]

/-- The text for a number; `index` counts the numbers with a row from 1. -/
def renderedMessage (index : ℕ) (number : DataNumber) : String :=
  let template := task.templates.getD ((index - 1) % task.templates.length) ""
  if env.smsTemplateHasVariables template then
    env.renderSmsVariables template index ⟨number.phoneNumber, number.countryCode⟩
  else template

def sendRow (drawn : MessageId) (index : ℕ) (routed : RoutedNumber) : SmsLog :=
  let message := renderedMessage env task (index + 1) routed.number
  let parts := env.countSmsParts message
  let price := priceForCountry env task routed.channel routed.country
  { id := 0
    messageId := drawn + index
    upstreamMessageId := none
    accountId := task.accountId
    channelId := some routed.channel.id
    batchId := some task.batchId
    phoneNumber := routed.number.phoneNumber
    countryCode := some routed.number.countryCode
    senderId := none
    message := message
    messageCount := parts
    status := .pending
    costPrice := some (price.2.1 * parts)
    sellingPrice := some (price.1 * parts)
    currency := price.2.2
    submitTime := some env.now
    sentTime := none
    deliveryTime := none
    errorMessage := none
    refundedAt := none
    refundedBy := none
    refundedAmount := none }

def sendRows (drawn : MessageId) (firstLogId : ℕ) : List SmsLog :=
  (routedNumbers env task).mapIdx fun index routed =>
    { sendRow env task drawn index routed with id := firstLogId + index }

end Rows

def SmsBatch.opened (batch : SmsBatch) (inserted : ℕ) : SmsBatch :=
  { batch with totalCount := inserted, status := .processing }

def Db.modifyBatch (db : Db) (batchId : ℕ) (change : SmsBatch → SmsBatch) : Db :=
  match db.batches batchId with
  | none => db
  | some batch => db.setBatch batchId (change batch)

/-- `ORDER BY id`. -/
def orderById (rows : List SmsLog) : List SmsLog :=
  rows.insertionSort fun first second => first.id ≤ second.id

def nextPage (db : Db) (batchId lastLogId : ℕ) : List SmsLog :=
  (orderById ((db.batchLogs batchId).filter fun row => lastLogId < row.id)).take buySendChunk

/-- `smpp_payload_public_dict_from_row`, called without a batch and a sender. -/
def rowPayload (sanitize : String → String) (batchStatus : String) (row : SmsLog) :
    SmppPayload where
  logId := row.id
  messageId := row.messageId
  phoneNumber := row.phoneNumber
  message := sanitize row.message
  channelId := row.channelId.getD 0
  batchStatus := batchStatus
  recordStatus := row.status
  batchId := 0
  senderId := ""

def SmsLog.withLinks (env : BuySendEnv) (row : SmsLog) : SmsLog :=
  if env.hasTrackUrl row.message then
    { row with message := env.replaceTrackUrl row.id row.message }
  else row

def Sending.isSmpp (values : Sending) (row : SmsLog) : Bool :=
  (row.channelId.bind fun channelId => values.protocols.lookup channelId) = some .smpp

def Sending.pageCalls (values : Sending) (sanitize : String → String) (page : List SmsLog) :
    List SendCall :=
  ((slices mqBatchSize ((page.filter values.isSmpp).map
      (rowPayload sanitize values.batchStatus))).map .smpp) ++
    (page.filter fun row => !values.isSmpp row).map fun row => .sms row.messageId

def SendCall.counted (broker : Broker) : SendCall → ℕ
  | .smpp payloads => ((publishSmpp broker payloads).1).length
  | .sms messageId => if queueSms broker messageId then 1 else 0

def SendCall.published (broker : Broker) : SendCall → List MessageId
  | .smpp payloads =>
      (publishedPayloads (publishSmpp broker payloads).2).map SmppPayload.messageId
  | .sms messageId => if queueSms broker messageId then [messageId] else []

/-- `f"{prev} | {hint}" if prev else hint`. -/
def withHint (unicode : Unicode) (reason : Option String) (hint : String) : String :=
  let previous := strip unicode (reason.getD "")
  if previous = "" then hint else s!"{previous} | {hint}"

def DataOrder.settled (order : DataOrder) (unicode : Unicode) (inserted queued : ℕ) : DataOrder :=
  if inserted = 0 then order
  else if queued = 0 then
    ⟨.cancelled, inserted, some (withHint unicode order.cancelReason
      "购数并发送：全部短信入队失败，请检查 RabbitMQ 与 worker-sms")⟩
  else if queued < inserted then
    ⟨.processing, inserted, some (withHint unicode order.cancelReason
      s!"购数并发送：部分入队失败 {queued}/{inserted}，请检查 Broker 或对未入队记录重投")⟩
  else ⟨.completed, inserted, none⟩

def SmsBatch.settled (batch : SmsBatch) (inserted queued : ℕ) : SmsBatch :=
  if inserted = 0 then
    { batch with status := .failed, errorMessage := some "无有效短信记录", progress := 0 }
  else if queued = 0 then
    { batch with
      status := .failed
      errorMessage := some "全部短信入队失败：请检查 RabbitMQ、worker-sms 及 Broker 连通性"
      progress := 0 }
  else if queued < inserted then
    { batch with
      status := .processing
      errorMessage := some
        s!"部分入队失败：{queued}/{inserted}，请检查 Broker 或使用运维脚本对 pending 记录重投"
      progress := min 99 (100 * queued / inserted) }
  else { batch with status := .processing, completedAt := none, errorMessage := none }

def failureHint (reason : String) : String :=
  truncate 2000 s!"购数并发送失败（未产生或未完全产生发送记录）：{truncate 800 reason}"

/-- What `_finalize_buy_send_failure_state` makes of the batch. -/
def SmsBatch.finalizedFailure (batch : SmsBatch) (reason : String) (now : ℕ) : SmsBatch :=
  { batch with
    status := .failed
    errorMessage := some (failureHint reason)
    progress := 0
    processingCount := 0
    successCount := 0
    failedCount := 0
    completedAt := some now }

namespace BuySend

variable (task : BuySendTask) (state : BuySend)

def setStage (attempt : ℕ) (stage : AttemptStage) : BuySend :=
  { state with attempts := Function.update state.attempts attempt stage }

def freshKeys (firstLogId count : ℕ) : Bool :=
  state.db.smsLogs.all fun row => row.id < firstLogId ∨ firstLogId + count ≤ row.id

def sendingFrom (env : BuySendEnv) : Sending :=
  let channelIds := ((routedNumbers env task).map fun routed => routed.channel.id).eraseDups
  { protocols := channelIds.filterMap fun channelId =>
      (state.db.channels channelId).map fun channel => (channelId, channel.protocol)
    inserted := (routedNumbers env task).length
    batchStatus :=
      ((state.db.batches task.batchId).map fun _ => BatchStatus.processing.text).getD ""
    lastLogId := 0
    calls := []
    queued := 0 }

def commitRows (attempt : ℕ) (env : BuySendEnv) (firstLogId : ℕ) : BuySend :=
  let routed := routedNumbers env task
  let rows := sendRows env task state.drawn firstLogId
  { state.setStage attempt (.sending (state.sendingFrom task env)) with
    db := (state.db.addSmsLogs rows).modifyBatch task.batchId fun batch =>
      batch.opened routed.length
    drawn := state.drawn + routed.length
    origins := state.origins ++
      routed.mapIdx fun index number => (number.entry, state.drawn + index) }

def replaceLinks (env : BuySendEnv) (page : List SmsLog) : BuySend :=
  { state with
    db := state.db.updateSmsLogs (fun row => row.id ∈ page.map SmsLog.id) (SmsLog.withLinks env) }

def next : BuySendLabel → Option BuySend
  | .commitRows attempt env firstLogId =>
      match state.attempts attempt with
      | .notStarted =>
          if state.freshKeys firstLogId (routedNumbers env task).length then
            some (state.commitRows task attempt env firstLogId)
          else none
      | _ => none
  | .readPage attempt env replacesLinks =>
      match state.attempts attempt with
      | .sending values =>
          if values.calls ≠ [] then none
          else
            let loaded := nextPage state.db task.batchId values.lastLogId
            match loaded.getLast? with
            | none => none
            | some last =>
                let read := if replacesLinks then state.replaceLinks env loaded else state
                let page := if replacesLinks then loaded.map (SmsLog.withLinks env) else loaded
                some (read.setStage attempt (.sending
                  { values with
                    lastLogId := last.id
                    calls := values.pageCalls env.sanitize page }))
      | _ => none
  | .publish attempt broker =>
      match state.attempts attempt with
      | .sending values =>
          match values.calls with
          | [] => none
          | call :: calls =>
              some
                { state.setStage attempt (.sending
                    { values with
                      calls := calls
                      queued := values.queued + call.counted broker }) with
                  handed := state.handed ++ call.published broker }
      | _ => none
  | .finish attempt env =>
      match state.attempts attempt with
      | .sending values =>
          if values.calls = [] ∧ nextPage state.db task.batchId values.lastLogId = [] then
            let counted := state.db.updateBatchProgress env.unicode task.batchId env.now
              env.expiredReport
            some
              { state.setStage attempt .ended with
                order := state.order.settled env.unicode values.inserted values.queued
                db := counted.modifyBatch task.batchId fun batch =>
                  batch.settled values.inserted values.queued }
          else none
      | _ => none
  | .raise attempt finalized =>
      match state.attempts attempt, finalized with
      | .ended, _ => none
      | _, none => some (state.setStage attempt .ended)
      | _, some (reason, now) =>
          some
            { state.setStage attempt .ended with
              order :=
                { state.order with
                  status := .cancelled
                  cancelReason := some (failureHint reason) }
              db := state.db.modifyBatch task.batchId fun batch =>
                batch.finalizedFailure reason now }

def Step (before : BuySend) (label : BuySendLabel) (after : BuySend) : Prop :=
  before.next task label = some after

inductive Performs (task : BuySendTask) (state : BuySend) : BuySendLabel → BuySend → Prop where
  | commitRows {attempt firstLogId : ℕ} {env : BuySendEnv}
      (unstarted : state.attempts attempt = .notStarted)
      (fresh : state.freshKeys firstLogId (routedNumbers env task).length = true) :
      Performs task state (.commitRows attempt env firstLogId)
        (state.commitRows task attempt env firstLogId)
  | readPage {attempt : ℕ} {env : BuySendEnv} {values : Sending} {last : SmsLog}
      (isSending : state.attempts attempt = .sending values) (noCalls : values.calls = [])
      (isLast : (nextPage state.db task.batchId values.lastLogId).getLast? = some last) :
      Performs task state (.readPage attempt env false)
        (state.setStage attempt (.sending
          { values with
            lastLogId := last.id
            calls := values.pageCalls env.sanitize
              (nextPage state.db task.batchId values.lastLogId) }))
  | replaceLinks {attempt : ℕ} {env : BuySendEnv} {values : Sending} {last : SmsLog}
      (isSending : state.attempts attempt = .sending values) (noCalls : values.calls = [])
      (isLast : (nextPage state.db task.batchId values.lastLogId).getLast? = some last) :
      Performs task state (.readPage attempt env true)
        ((state.replaceLinks env (nextPage state.db task.batchId values.lastLogId)).setStage
          attempt (.sending
            { values with
              lastLogId := last.id
              calls := values.pageCalls env.sanitize
                ((nextPage state.db task.batchId values.lastLogId).map
                  (SmsLog.withLinks env)) }))
  | publish {attempt : ℕ} {broker : Broker} {values : Sending} {call : SendCall}
      {calls : List SendCall} (isSending : state.attempts attempt = .sending values)
      (isNext : values.calls = call :: calls) :
      Performs task state (.publish attempt broker)
        { state.setStage attempt (.sending
            { values with calls := calls, queued := values.queued + call.counted broker }) with
          handed := state.handed ++ call.published broker }
  | finish {attempt : ℕ} {env : BuySendEnv} {values : Sending}
      (isSending : state.attempts attempt = .sending values) (noCalls : values.calls = [])
      (noPage : nextPage state.db task.batchId values.lastLogId = []) :
      Performs task state (.finish attempt env)
        { state.setStage attempt .ended with
          order := state.order.settled env.unicode values.inserted values.queued
          db := (state.db.updateBatchProgress env.unicode task.batchId env.now
            env.expiredReport).modifyBatch task.batchId fun batch =>
              batch.settled values.inserted values.queued }
  | raise {attempt : ℕ} (running : state.attempts attempt ≠ .ended) :
      Performs task state (.raise attempt none) (state.setStage attempt .ended)
  | raiseFinalized {attempt now : ℕ} {reason : String}
      (running : state.attempts attempt ≠ .ended) :
      Performs task state (.raise attempt (some (reason, now)))
        { state.setStage attempt .ended with
          order :=
            { state.order with
              status := .cancelled
              cancelReason := some (failureHint reason) }
          db := state.db.modifyBatch task.batchId fun batch =>
            batch.finalizedFailure reason now }

theorem performs_of_step {task : BuySendTask} {state after : BuySend} {label : BuySendLabel}
    (step : state.Step task label after) : state.Performs task label after := by
  unfold Step at step
  cases label with
  | commitRows attempt env firstLogId =>
      simp only [next] at step
      split at step
      · rename_i unstarted
        split at step
        · rename_i fresh
          rw [← Option.some.inj step]
          exact .commitRows unstarted fresh
        · cases step
      · cases step
  | readPage attempt env replacesLinks =>
      simp only [next] at step
      split at step
      · rename_i values isSending
        split at step
        · cases step
        · rename_i noCalls
          split at step
          · cases step
          · rename_i last isLast
            rw [← Option.some.inj step]
            cases replacesLinks with
            | false => exact .readPage isSending (not_not.mp noCalls) isLast
            | true => exact .replaceLinks isSending (not_not.mp noCalls) isLast
      · cases step
  | publish attempt broker =>
      simp only [next] at step
      split at step
      · rename_i isSending
        split at step
        · cases step
        · rename_i isNext
          rw [← Option.some.inj step]
          exact .publish isSending isNext
      · cases step
  | finish attempt env =>
      simp only [next] at step
      split at step
      · rename_i isSending
        split at step
        · rename_i nothing
          rw [← Option.some.inj step]
          exact .finish isSending nothing.1 nothing.2
        · cases step
      · cases step
  | raise attempt finalized =>
      simp only [next] at step
      split at step
      · cases step
      · rename_i running
        rw [← Option.some.inj step]
        exact .raise running
      · rename_i running
        rw [← Option.some.inj step]
        exact .raiseFinalized running

structure Fresh (state : BuySend) : Prop where
  noRows : state.db.batchLogs task.batchId = []
  noOrigins : state.origins = []
  unsent : state.handed = []
  unstarted : ∀ attempt, state.attempts attempt = .notStarted

end BuySend

end Klsmsc
