import Klsmsc.Library.Runs
import Klsmsc.Text

/-!
# SMPP delivery reports

The way of a delivery report from the gateway's `handleDeliverSM` through
`_process_smpp_dlr_async`: the gateway reads an upstream id and a stat from the
text of the PDU and maps the stat to a status, the worker finds the row and
writes the status into it.

The reports are processed one after the other. How the database compares strings
is a parameter. Redis keys can expire at any time, and every access to Redis
can fail. What the gateway knows about ownership and retransmissions, and how
old the ownership key of an unmatched report is, comes with each report. A
report whose processing ends in an exception has changed nothing and is not a
step.
-/

namespace Klsmsc

open Library

/-- The states that `_TERMINAL_STATES` lists. -/
def SmsStatus.isTerminal : SmsStatus → Bool
  | .delivered => true
  | .failed => true
  | _ => false

section Gateway

/-- The group of the first match of `literal([^ ]+)`. -/
def captureAfter (literal : List Char) : List Char → Option String
  | [] => none
  | char :: rest =>
      let capture := ((char :: rest).drop literal.length).takeWhile (· ≠ ' ')
      if literal.isPrefixOf (char :: rest) && !capture.isEmpty then some (String.ofList capture)
      else captureAfter literal rest

/-- The text of the report: what the codec decodes, or the raw bytes when that
is no standard report. -/
def deliverText (decoded : String) (raw : Option String) : String :=
  if textContains decoded "id:" && textContains decoded "stat:" then decoded
  else
    match raw with
    | none => decoded
    | some raw =>
        if textContains raw "id:" || textContains raw "stat:" then raw else decoded

def finalStatus (stat : String) : SmsStatus :=
  if stat = "DELIVRD" then .delivered
  else if stat = "REJECTD" ∨ stat = "UNDELIV" ∨ stat = "EXPIRED" ∨ stat = "DELETED" then .failed
  else .sent

/-- The arguments of `process_smpp_dlr_task`. The last flag marks a report that
`flush_dlr_retry_buffer` replays. -/
structure DlrCall where
  channelId : ℕ
  upstreamId : String
  newStatus : SmsStatus
  stat : String
  err : String
  destAddr : String
  sourceAddr : String
  receiptedMessageId : String
  fromFlush : Bool
  deriving DecidableEq, Repr

/-- A `deliver_sm` PDU on a channel, with the answers of `IsOwned` and `IsDuplicateDLR`. -/
structure DeliverSm where
  channelId : ℕ
  decoded : String
  raw : Option String
  isOwned : Bool
  isDuplicate : Bool
  deriving DecidableEq, Repr

/-- `handleDeliverSM`: the task that the gateway publishes, if any. -/
def handleDeliverSM (deliver : DeliverSm) : Option DlrCall :=
  let text := (deliverText deliver.decoded deliver.raw).toList
  match captureAfter "id:".toList text, captureAfter "stat:".toList text with
  | some upstreamId, some stat =>
      if deliver.isOwned && !deliver.isDuplicate then
        some
          { channelId := deliver.channelId
            upstreamId := upstreamId
            newStatus := finalStatus stat
            stat := stat
            err := "000"
            destAddr := ""
            sourceAddr := ""
            receiptedMessageId := upstreamId
            fromFlush := false }
      else none
  | _, _ => none

theorem finalStatus_isTerminal (stat : String) :
    (finalStatus stat).isTerminal =
      decide (stat ∈ ["DELIVRD", "REJECTD", "UNDELIV", "EXPIRED", "DELETED"]) := by
  unfold finalStatus
  split
  · simp_all [SmsStatus.isTerminal]
  · split <;> simp_all [SmsStatus.isTerminal]

theorem newStatus_of_handleDeliverSM {deliver : DeliverSm} {call : DlrCall}
    (published : handleDeliverSM deliver = some call) :
    call.newStatus = finalStatus call.stat := by
  simp only [handleDeliverSM] at published
  grind

end Gateway

section Matching

variable (unicode : Unicode) (sqlEq : String → String → Bool)

/-- `_expand_id_candidates`. -/
def expandIdCandidates (raw : String) : List String :=
  let text := strip unicode raw
  if text = "" then []
  else
    let cased :=
      if (unicode.upper text).toList.any fun char => "ABCDEF".toList.contains char then
        [unicode.upper text, unicode.lower text]
      else []
    let converted :=
      if "0x".toList.isPrefixOf text.toList || "0X".toList.isPrefixOf text.toList then
        ((hexValue unicode (text.toList.drop 2)).map toString).toList
      else if text.toList.all unicode.isDigit then
        ((digitsValue unicode.decimal 10 0 text.toList).map hexText).toList
      else if text.toList.all fun char => "0123456789abcdefABCDEF".toList.contains char then
        ((hexValue unicode text.toList).map toString).toList
      else []
    ([text] ++ cased ++ converted).eraseDups

/-- The list `candidate_ids`. -/
def candidateIds (call : DlrCall) : List String :=
  (expandIdCandidates unicode call.upstreamId ++
    expandIdCandidates unicode call.receiptedMessageId).eraseDups

/-- `.order_by(column.desc()).limit(1)`, where rows without a value come last. -/
def newest (column : SmsLog → Option ℕ) : List SmsLog → Option SmsLog
  | [] => none
  | row :: rows =>
      match newest column rows with
      | none => some row
      | some best =>
          match column row, column best with
          | some time, some bestTime => if bestTime ≤ time then some row else some best
          | none, some _ => some best
          | _, none => some row

def matchById (db : Db) (call : DlrCall) : Option SmsLog :=
  newest SmsLog.submitTime <| db.smsLogs.filter fun row =>
    row.channelId = some call.channelId ∧
      (row.upstreamMessageId.any fun stored =>
        (candidateIds unicode call).any fun candidate => sqlEq stored candidate) ∧
      row.status ∈ [.sent, .pending, .queued, .delivered, .failed]

def matchByPhone (db : Db) (call : DlrCall) (address : String) : Option SmsLog :=
  let digits := address.toList.filter unicode.isDigit
  if digits.length < 8 then none
  else
    newest SmsLog.sentTime <| db.smsLogs.filter fun row =>
      row.channelId = some call.channelId ∧ row.status ∈ [.sent, .pending, .queued] ∧
        (digits.isSuffixOf row.phoneNumber.toList ∨
          sqlEq row.phoneNumber ("+" ++ String.ofList digits))

def matchSmsLog (db : Db) (call : DlrCall) : Option SmsLog :=
  match matchById unicode sqlEq db call with
  | some row => some row
  | none =>
      match matchByPhone unicode sqlEq db call call.destAddr with
      | some row => some row
      | none => matchByPhone unicode sqlEq db call call.sourceAddr

variable {unicode sqlEq}

theorem newest_mem {column : SmsLog → Option ℕ} {rows : List SmsLog} {row : SmsLog}
    (found : newest column rows = some row) : row ∈ rows := by
  induction rows with
  | nil => cases found
  | cons head tail ih =>
      unfold newest at found
      grind

theorem matchSmsLog_mem {db : Db} {call : DlrCall} {row : SmsLog}
    (found : matchSmsLog unicode sqlEq db call = some row) : row ∈ db.smsLogs := by
  have byPhone : ∀ {address : String},
      matchByPhone unicode sqlEq db call address = some row → row ∈ db.smsLogs := by
    intro address found
    unfold matchByPhone at found
    simp only at found
    split at found
    · cases found
    · exact List.mem_of_mem_filter (newest_mem found)
  unfold matchSmsLog at found
  split at found
  · rename_i byId
    cases found
    exact List.mem_of_mem_filter (newest_mem byId)
  · split at found
    · rename_i byDest
      cases found
      exact byPhone byDest
    · exact byPhone found

end Matching

structure DlrRedis where
  seen : List (ℕ × String × SmsStatus)
  unmatched : List (ℕ × String)
  effects : List (MessageId × SmsStatus)
  pendingRetry : List DlrCall
  deriving DecidableEq, Repr

/-- What goes wrong with Redis while a report is processed, whether the
ownership key says that the report is a permanent orphan, and whether
`buffer_unmatched_dlr` takes the report as one of this system. -/
structure DlrFaults where
  seenRead : Bool
  unmatchedRead : Bool
  seenWrite : Bool
  unmatchedWrite : Bool
  effectsWrite : Bool
  isOrphan : Bool
  isForeign : Bool
  deriving DecidableEq, Repr

structure DlrStore where
  db : Db
  redis : DlrRedis

section Processing

variable (unicode : Unicode) (sqlEq : String → String → Bool)

/-- The key `dlr_seen`, for reports of a terminal status. -/
def seenKey (call : DlrCall) : Option (ℕ × String × SmsStatus) :=
  if call.upstreamId ≠ "" ∧ call.newStatus.isTerminal then
    some (call.channelId, strip unicode call.upstreamId, call.newStatus)
  else none

/-- The key `dlr_unmatched`. -/
def unmatchedKey (call : DlrCall) : Option (ℕ × String) :=
  if call.upstreamId ≠ "" then some (call.channelId, strip unicode call.upstreamId) else none

def shortCircuited (redis : DlrRedis) (faults : DlrFaults) (call : DlrCall) : Bool :=
  ((seenKey unicode call).any fun key => !faults.seenRead && redis.seen.contains key) ||
    (unmatchedKey unicode call).any fun key =>
      !call.fromFlush && !faults.unmatchedRead && redis.unmatched.contains key

/-- `_mark_seen`. -/
def markSeen (redis : DlrRedis) (faults : DlrFaults) (call : DlrCall) : DlrRedis :=
  if faults.seenWrite then redis
  else { redis with seen := (seenKey unicode call).toList ++ redis.seen }

/-- What becomes of a report that matches no row: permanent orphans are dropped,
the first report for an upstream id is buffered, and the id is marked. -/
def bufferUnmatched (redis : DlrRedis) (faults : DlrFaults) (call : DlrCall) : DlrRedis :=
  let sameField : DlrCall → Bool := fun other =>
    other.channelId = call.channelId ∧ other.upstreamId = call.upstreamId
  let pendingRetry :=
    if faults.isOrphan || call.upstreamId = "" then redis.pendingRetry
    else if faults.isForeign then redis.pendingRetry.filter fun other => !sameField other
    else if redis.pendingRetry.any sameField then redis.pendingRetry
    else redis.pendingRetry ++ [call]
  { redis with
    pendingRetry := pendingRetry
    unmatched :=
      if faults.unmatchedWrite then redis.unmatched
      else (unmatchedKey unicode call).toList ++ redis.unmatched }

def SmsLog.withDlr (row : SmsLog) (call : DlrCall) (now : ℕ) : SmsLog :=
  let upstreamId := strip unicode call.upstreamId
  { row with
    status := call.newStatus
    deliveryTime := if call.newStatus = .delivered then some now else row.deliveryTime
    errorMessage :=
      if call.newStatus = .delivered then none
      else if call.newStatus = .failed then
        some ("SMPP DLR: stat=" ++ call.stat ++ " err=" ++ call.err)
      else row.errorMessage
    upstreamMessageId :=
      if call.upstreamId ≠ "" ∧ row.upstreamMessageId.getD "" ≠ upstreamId then some upstreamId
      else row.upstreamMessageId }

/-- The result of `_process_smpp_dlr_async`, and whether it dispatched the
webhook and the other side effects. -/
structure DlrResult where
  matched : Bool
  dispatched : Bool
  deriving DecidableEq, Repr

/-- `_process_smpp_dlr_async`. -/
def processSmppDlr (store : DlrStore) (faults : DlrFaults) (call : DlrCall) (now : ℕ) :
    DlrStore × DlrResult :=
  if shortCircuited unicode store.redis faults call then (store, ⟨true, false⟩)
  else
    match matchSmsLog unicode sqlEq store.db call with
    | none => ({ store with redis := bufferUnmatched unicode store.redis faults call },
        ⟨false, false⟩)
    | some row =>
        if row.status.isTerminal && call.newStatus.isTerminal && row.status ≠ call.newStatus then
          ({ store with redis := markSeen unicode store.redis faults call }, ⟨true, false⟩)
        else
          let db :=
            if row.status = call.newStatus then store.db
            else store.db.updateSmsLogs (fun stored => stored.id = row.id)
              fun stored => stored.withDlr unicode call now
          let effect := (row.messageId, call.newStatus)
          let isFirst := !faults.effectsWrite && !store.redis.effects.contains effect
          let effects :=
            if faults.effectsWrite then store.redis.effects else effect :: store.redis.effects
          ({ db := db
             redis := markSeen unicode { store.redis with effects := effects } faults call },
            ⟨true, isFirst⟩)

end Processing

end Klsmsc
