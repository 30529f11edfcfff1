import Klsmsc.Chunk.Precheck

/-!
# The enqueue sites of the batch worker

How stored and charged rows are handed over: the three branches of
`_queue_commit_batch`, the enqueue steps behind the write loop of
`_do_process_chunk`, and those of its fallback path. Two of them refund what
they could not hand over, through the refund service inside the transaction of
their caller; the refund of a message is one step here, which takes effect as a
whole or not at all.

The queue manager swallows its exceptions, so what fails there is decided by the
broker; the sites are for what raises around it.
-/

namespace Klsmsc

open Library

/-- `SELECT .. FROM sms_logs WHERE message_id IN (..)`. -/
def Db.logsOf (db : Db) (messageIds : List MessageId) : List SmsLog :=
  db.smsLogs.filter fun row => row.messageId ∈ messageIds

def Db.updateRows (db : Db) (rows : List SmsLog) (update : SmsLog → SmsLog) : Db :=
  db.updateSmsLogs (fun row => row.id ∈ rows.map SmsLog.id) update

def SmsLog.hasLink (env : ChunkEnv) (row : SmsLog) : Bool :=
  env.hasTrackUrl row.message

def SmsLog.linked (env : ChunkEnv) (row : SmsLog) : SmsLog :=
  { row with
    message := if row.hasLink env then env.replaceTrackUrl row.id row.message else row.message }

/-- `_replace_track_urls_for_logs`: the rows as they are then. Without a link the
source has nothing to flush; an exception here is then one of the next statement. -/
def replaceTrackUrlsForLogs (env : ChunkEnv) (faults : Faults) (site : Site)
    (rows : List SmsLog) : Chunk (List SmsLog) := do
  Chunk.flush faults site
  Chunk.change fun db => db.updateRows rows (SmsLog.linked env)
  return rows.map (SmsLog.linked env)

/-- `if await _replace_track_urls_for_logs(db, rows): await db.commit()`. Only the
texts of links are pending here, so the flush and the commit share a site. -/
def replaceAndCommit (env : ChunkEnv) (faults : Faults) (site : Site)
    (rows : List SmsLog) : Chunk (List SmsLog) := do
  let linked ← replaceTrackUrlsForLogs env faults site rows
  if rows.any (SmsLog.hasLink env) then Chunk.commit (fun _ => none) site
  return linked

/-- `execute_auto_refund` inside the transaction of its caller. -/
def executeAutoRefund (unicode : Unicode) (db : Db) (smsLogId : ℕ) (source : String)
    (now : ℕ) : Db :=
  match db.smsLogs.find? fun row => row.id = smsLogId with
  | none => db
  | some row =>
      match (RefundEntry.autoRefund source false).grant unicode row with
      | .error _ => db
      | .ok _ =>
          let claim := RefundCall.claim ⟨.autoRefund source false, smsLogId⟩ row now
          let credited :=
            (db.updateSmsLogs claim.applies fun row => row.refunded claim).addBalance
              claim.accountId claim.amount
          credited.addBalanceLog
            (Refund.mk claim ((credited.balance claim.accountId).getD 0)).balanceLog

/-- The body of `_refund_single`. -/
def refundMessage (unicode : Unicode) (db : Db) (messageId : MessageId) (now : ℕ) : Db :=
  match db.smsLogs.find? fun row => row.messageId = messageId with
  | none => db
  | some row => executeAutoRefund unicode db row.id "batch_queue_fail" now

/-- `_refund_single`. An amount that is not positive ends it before anything can raise;
a cancellation here is then one of the next statement. -/
def refundSingle (env : ChunkEnv) (faults : Faults) (site : Site) (amount : Money)
    (messageId : MessageId) : Chunk Unit :=
  catching Raise.isException
    (do
      Chunk.statement faults site
      if 0 < amount then
        Chunk.change fun db => refundMessage env.unicode db messageId env.now)
    fun _ => return ()

/-- `costs.get(mid, 0)`. -/
def costOf (costs : List (MessageId × Money)) (messageId : MessageId) : Money :=
  ((costs.find? fun entry => entry.1 = messageId).map Prod.snd).getD 0

def refundAll (env : ChunkEnv) (faults : Faults) (slice : ℕ)
    (costs : List (MessageId × Money)) (messageIds : List MessageId) : Chunk Unit :=
  messageIds.forM fun messageId =>
    refundSingle env faults (.refundSingle slice messageId) (costOf costs messageId) messageId

def SmsLog.rejected (row : SmsLog) (text : String) : SmsLog :=
  { row with status := .failed, errorMessage := some text }

def SmsLog.submitted (row : SmsLog) (serial : Option String) : SmsLog :=
  { row with
    status := .sent
    upstreamMessageId :=
      match serial with
      | none => row.upstreamMessageId
      | some number => if number = "" then row.upstreamMessageId else some number }

/-- `_queue_commit_batch_node_rcs`: the counts of accepted and failed messages. -/
def queueCommitBatchNodeRcs (env : ChunkEnv) (faults : Faults) (slice : ℕ)
    (messageIds : List MessageId) : Chunk (ℕ × ℕ) := do
  Chunk.statement faults (.nodeRead slice)
  let found := (← get).working.logsOf messageIds
  if found.isEmpty then return (0, 0)
  else
    let costs := found.map fun row => (row.messageId, row.price)
    let rows ← replaceAndCommit env faults (.nodeLinks slice) found
    Chunk.hand .nodeTask messageIds
    let answer : Except String (Option String) ←
      catching Raise.isException
        (do
          Chunk.statement faults (.nodeSubmit slice)
          return (env.submitTask messageIds).mapError (truncate 255))
        fun _ => return .error "RCS 任务提交失败"
    match answer with
    | .error text =>
        Chunk.change fun db => db.updateRows rows fun row => row.rejected text
        Chunk.commit faults (.nodeCommit slice)
        refundAll env faults slice costs messageIds
        return (0, messageIds.length)
    | .ok serial =>
        Chunk.change fun db => db.updateRows rows fun row => row.submitted serial
        Chunk.commit faults (.nodeCommit slice)
        return (rows.length, 0)

/-- `channel.is_rcs() and channel.rcs_vendor() == 'node'`. -/
def Channel.isNodeRcs (channel : Channel) : Bool :=
  channel.isRcs && channel.rcsVendor = "node"

def publish (env : ChunkEnv) (faults : Faults) (site : Site) (single : MessageId → Site)
    (payloads : List SmppPayload) : Chunk Unit := do
  Chunk.statement faults site
  Chunk.hand .smppQueue (payloads.map SmppPayload.messageId)
  if (queueSmsBatchSmpp env.broker payloads).1 then Chunk.count payloads.length 0
  else
    payloads.forM fun payload => do
      Chunk.statement faults (single payload.messageId)
      if (queueSmppGateway env.broker .smppSingle payload).1 then Chunk.count 1 0
      else Chunk.count 0 1

def payloadsOf (env : ChunkEnv) (batchStatus : String) (rows : List SmsLog)
    (messageIds : List MessageId) : List SmppPayload :=
  messageIds.filterMap fun messageId =>
    (rows.find? fun row => row.messageId = messageId).map
      (smppPayloadPublicDict env.sanitize batchStatus)

/-- `_queue_commit_batch`: the counts of enqueued and failed messages. -/
def queueCommitBatch (env : ChunkEnv) (faults : Faults) (slice : ℕ) (channel : Channel)
    (commitBatch : List (MessageId × Money)) (batchStatus : String) : Chunk (ℕ × ℕ) :=
  let messageIds := commitBatch.map Prod.fst
  if channel.isNodeRcs then queueCommitBatchNodeRcs env faults slice messageIds
  else if channel.protocol = .smpp then do
    Chunk.statement faults (.groupRead slice)
    let found := (← get).working.logsOf messageIds
    let rows ← replaceAndCommit env faults (.groupLinks slice) found
    let payloads := payloadsOf env batchStatus rows messageIds
    Chunk.statement faults (.queueSmpp slice)
    Chunk.hand .smppQueue (payloads.map SmppPayload.messageId)
    let accepted := (publishSmppWindows env.broker (slices env.smppWindowSize payloads)).1
    return (accepted.length, payloads.length - accepted.length)
  else do
    Chunk.statement faults (.queueHttp slice)
    Chunk.hand .smsSend messageIds
    let (accepted, refused) := queueSmsBulk env.broker messageIds
    refundAll env faults slice commitBatch refused
    return (accepted.length, refused.length)

def queueSliceSmpp (env : ChunkEnv) (faults : Faults) (slice : ℕ)
    (payloads : List SmppPayload) : Chunk Unit :=
  if payloads.isEmpty then return ()
  else publish env faults (.queueSmpp slice) (.queueSmppSingle slice) payloads

/-- The enqueue step of the write loop for the other rows of a slice. The channel
is that of the slice's last item. -/
def queueSliceHttp (env : ChunkEnv) (faults : Faults) (slice : ℕ) (channel : Option Channel)
    (messageIds : List MessageId) : Chunk Unit :=
  if messageIds.isEmpty then return ()
  else if channel.any Channel.isNodeRcs then do
    let (accepted, refused) ← queueCommitBatchNodeRcs env faults slice messageIds
    Chunk.count accepted refused
  else do
    Chunk.statement faults (.queueHttp slice)
    Chunk.hand .smsSend messageIds
    Chunk.count (queueSmsBulk env.broker messageIds).1.length
      (queueSmsBulk env.broker messageIds).2.length

/-- The enqueue step of the fallback path for a group of messages that have just
been stored. The channel is that of the last item the loop has come to. -/
def queueGroup (env : ChunkEnv) (faults : Faults) (index : ℕ) (channel : Option Channel)
    (batchStatus : String) (commitBatch : List (MessageId × Money)) : Chunk Unit := do
  let messageIds := commitBatch.map Prod.fst
  if (← get).virtualChannelId.isSome then Chunk.count commitBatch.length 0
  else if channel.any fun channel => channel.protocol = .smpp then
    Chunk.statement faults (.groupRead index)
    let found := (← get).working.logsOf messageIds
    let rows ← replaceAndCommit env faults (.groupLinks index) found
    publish env faults (.groupPackage index) (.groupQueue index)
      (payloadsOf env batchStatus rows messageIds)
  else
    messageIds.forM fun messageId => do
      Chunk.statement faults (.groupQueue index messageId)
      Chunk.hand .smsSend [messageId]
      if queueSms env.broker messageId then Chunk.count 1 0 else Chunk.count 0 1

end Klsmsc
