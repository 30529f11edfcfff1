import Klsmsc.BatchProgress
import Klsmsc.Library.Commands
import Klsmsc.Queue
import Klsmsc.Refund

/-!
# The chunk worker: its surroundings, its state and its statements

`_do_process_chunk` checks, charges, stores and queues one slice of a batch. It
runs in one database session, so its state holds the committed tables and the
tables as the open transaction sees them, next to the local variables that
outlive a phase.

Everything that can raise has a site, and an oracle says which sites raise. A
statement that raises leaves the transaction open or loses it (a deadlock, a
lost connection, a failed flush); a commit that raises has ended the
transaction, and a commit that lost its connection may have become durable. An
exception is an `OperationalError` with its code, another `Exception`, or a
cancellation, which no `except Exception` catches.

The code around the worker is a parameter: number parsing, templates, routing,
prices, sender ids, short links, the broker and the node of the RCS vendor. What
the broker and the node do depends on the messages, which their ids name. The
random message ids are drawn from a source that is indexed by the place that
draws them.
-/

namespace Klsmsc

open Library

inductive Raise where
  | operational (code : ℕ)
  | other (text : String)
  | cancelled
  deriving DecidableEq, Repr

namespace Raise

/-- `isinstance(e, Exception)`. -/
def isException : Raise → Bool
  | cancelled => false
  | _ => true

/-- `str(e)`. -/
def text : Raise → String
  | operational code => s!"({code})"
  | other text => text
  | cancelled => ""

def rolledBack : Raise → Bool
  | operational code => code = 1205 ∨ code = 1213
  | _ => false

end Raise

/-- What happens at a site: the exception, and what becomes of the transaction.
For a commit, `durable` says that the server has made it durable all the same;
for another statement, `lost` says that the transaction is gone. -/
structure Fault where
  raised : Raise
  durable : Bool
  lost : Bool
  deriving DecidableEq, Repr

def Fault.commits (fault : Fault) : Bool :=
  fault.durable && !fault.raised.rolledBack

/-- The places of the worker that can raise, with the index of the slice, the
attempt or the entry that they are about. -/
inductive Site where
  | readBatch
  | readExisting
  | readBlacklist
  | readAccount
  | readChannel
  | precheck (index : ℕ)
  | virtualCharge
  | virtualBuild (slice : ℕ)
  | virtualInsert (slice : ℕ)
  | virtualLinks (slice : ℕ)
  | virtualCommit (slice : ℕ)
  | prefailedFlush (slice : ℕ)
  | prefailedCommit (slice : ℕ)
  | deduct (attempt : ℕ)
  | deductBackoff (attempt : ℕ)
  | readBalance
  | chargeCommit
  | build (slice attempt : ℕ)
  | insert (slice attempt : ℕ)
  | replaceLinks (slice attempt : ℕ)
  | writeCommit (slice attempt : ℕ)
  | writeBackoff (slice attempt : ℕ)
  | queueSmpp (slice : ℕ)
  | queueSmppSingle (slice : ℕ) (messageId : MessageId)
  | queueHttp (slice : ℕ)
  | nodeRead (slice : ℕ)
  | nodeLinks (slice : ℕ)
  | nodeSubmit (slice : ℕ)
  | nodeCommit (slice : ℕ)
  | refundSingle (slice : ℕ) (messageId : MessageId)
  | fallbackCharge (index : ℕ)
  | fallbackRecord (index : ℕ)
  | fallbackSender (index : ℕ)
  | groupFlush (index : ℕ)
  | groupCommit (index : ℕ)
  | groupRead (index : ℕ)
  | groupLinks (index : ℕ)
  | groupPackage (index : ℕ)
  | groupQueue (index : ℕ) (messageId : MessageId)
  | exhaustedFlush (slice : ℕ)
  | exhaustedCommit (slice : ℕ)
  | countLogs
  | progressRead
  | progressExpiry
  | progressCommit
  | dispatch
  | refund
  | refundCommit
  deriving DecidableEq, Repr

abbrev Faults := Site → Option Fault

inductive IdSite where
  | virtual (index : ℕ)
  | prefailed (index : ℕ)
  | written (slice attempt index : ℕ)
  | fallback (index : ℕ)
  | exhausted (index : ℕ)
  deriving DecidableEq, Repr

structure PhoneInfo where
  e164Format : String
  countryCode : String
  deriving DecidableEq, Repr

/-- A number as the library `phonenumbers` parses it. -/
structure ParsedNumber extends PhoneInfo where
  isValid : Bool
  isPossible : Bool
  deriving DecidableEq, Repr

inductive ParseFailure where
  | numberParse
  | other
  deriving DecidableEq, Repr

inductive QueueCall where
  | smppPackage (messageIds : List MessageId)
  | smppDegraded (messageId : MessageId)
  | smppSingle (messageId : MessageId)
  | smsProducer (messageIds : List MessageId)
  | smsBulk (messageId : MessageId)
  | sms (messageId : MessageId)
  deriving DecidableEq, Repr

def BrokerCall.named : BrokerCall → QueueCall
  | .smppPackage payloads => .smppPackage (payloads.map SmppPayload.messageId)
  | .smppDegraded payload => .smppDegraded payload.messageId
  | .smppSingle payload => .smppSingle payload.messageId
  | .smsProducer messageIds => .smsProducer messageIds
  | .smsBulk messageId => .smsBulk messageId
  | .sms messageId => .sms messageId

structure ChunkEnv where
  unicode : Unicode
  parseNumber : String → Except ParseFailure ParsedNumber
  normalizeCountryCode : String → Option String
  smsTemplateHasVariables : String → Bool
  renderSmsVariables : (rawBody : String) → (index : ℕ) → PhoneInfo → String
  countSmsParts : String → ℕ
  selectChannel : (countryCode : String) → (preferredChannel : Option ℕ) → (accountId : ℕ) →
    Except String (Option Channel)
  validateRcsContent : String → Option String
  getPrice : (channelId : ℕ) → (countryCode : String) → (accountId : ℕ) → Option (Money × String)
  resolveBaseCostPerSms : (channelId : ℕ) → (countryCode : String) → Money
  resolveSenderId : (channelId : ℕ) → (countryCode : String) → (requested : String) →
    Option String
  isBlacklisted : String → Bool
  hasTrackUrl : (message : String) → Bool
  replaceTrackUrl : (smsLogId : ℕ) → (message : String) → String
  sanitize : String → String
  smppWindowSize : ℕ
  publishFails : QueueCall → ℕ → Bool
  perChannelQueues : Bool
  submitTask : List MessageId → Except String (Option String)
  expiredReport : String
  messageId : IdSite → MessageId
  upstreamId : IdSite → String
  now : ℕ

def ChunkEnv.broker (env : ChunkEnv) : Broker where
  fails call attempt := env.publishFails call.named attempt
  perChannelQueues := env.perChannelQueues

/-- Surroundings in which every number is valid and goes to one channel at one price,
and nothing fails. -/
def ChunkEnv.plain (channel : Channel) (unitPrice : Money) : ChunkEnv where
  unicode := .ascii
  parseNumber number := .ok ⟨⟨number, "CN"⟩, true, true⟩
  normalizeCountryCode := some
  smsTemplateHasVariables _ := false
  renderSmsVariables body _ _ := body
  countSmsParts _ := 1
  selectChannel _ _ _ := .ok (some channel)
  validateRcsContent _ := none
  getPrice _ _ _ := some (unitPrice, "USD")
  resolveBaseCostPerSms _ _ := 0
  resolveSenderId _ _ _ := none
  isBlacklisted _ := false
  hasTrackUrl _ := false
  replaceTrackUrl _ message := message
  sanitize message := message
  smppWindowSize := 10
  publishFails _ _ := false
  perChannelQueues := false
  submitTask _ := .ok none
  expiredReport := "expired"
  messageId
    | .virtual index => 5 * index
    | .prefailed index => 5 * index + 1
    | .written slice attempt index => 5 * (25 * index + 5 * slice + attempt) + 2
    | .fallback index => 5 * index + 3
    | .exhausted index => 5 * index + 4
  upstreamId _ := "VIRT"
  now := 0

/-- The arguments of `_do_process_chunk`. -/
structure ChunkInput where
  batchId : ℕ
  accountId : ℕ
  phoneNumbers : List String
  message : String
  rotMessages : List String
  startOffset : ℕ
  channelId : Option ℕ
  senderId : Option String
  deriving DecidableEq, Repr

def Channel.plain (protocol : Protocol) : Channel := ⟨1, protocol, ""⟩

def ChunkInput.plain (phoneNumbers : List String) (channelId : Option ℕ) : ChunkInput where
  batchId := 1
  accountId := 1
  phoneNumbers := phoneNumbers
  message := "hello"
  rotMessages := []
  startOffset := 0
  channelId := channelId
  senderId := none

def Db.plain (balance : Money) (channel : Channel) (smsLogs : List SmsLog) : Db where
  accounts id := if id = 1 then some ⟨balance, .prepaid, none⟩ else none
  smsLogs := smsLogs
  balanceLogs := []
  batches _ := none
  channels id := if id = channel.id then some channel else none

/-- Where a message is handed over: the payload queue of the SMPP gateway, the task
queue `sms_send`, a task of the node, or the virtual simulation. -/
inductive Route where
  | smppQueue
  | smsSend
  | nodeTask
  | simulation
  deriving DecidableEq, Repr

/-- The local variables of an execution. The two variables `is_virtual_channel`
and `virtual_channel_id` are set together. The list `handed` is a record that the source
does not keep: the ids that were handed over, and where. -/
structure Locals where
  succeeded : ℕ
  failed : ℕ
  charged : Money
  virtualChannelId : Option ℕ
  virtualIds : List MessageId
  commitBatch : List (MessageId × Money)
  handed : List (MessageId × Route)

def Locals.handedIds (values : Locals) : List MessageId :=
  values.handed.map Prod.fst

def Locals.start : Locals where
  succeeded := 0
  failed := 0
  charged := 0
  virtualChannelId := none
  virtualIds := []
  commitBatch := []
  handed := []

structure ChunkState extends Locals where
  committed : Db
  working : Db

def ChunkState.start (db : Db) : ChunkState where
  toLocals := .start
  committed := db
  working := db

abbrev Chunk := EStateM Raise ChunkState

namespace Chunk

def statement (faults : Faults) (site : Site) : Chunk Unit := fun state =>
  match faults site with
  | none => .ok () state
  | some fault =>
      .error fault.raised (if fault.lost then { state with working := state.committed } else state)

def flush (faults : Faults) (site : Site) : Chunk Unit :=
  statement (fun site => (faults site).map fun fault => { fault with lost := true }) site

/-- `await db.commit()`. -/
def commit (faults : Faults) (site : Site) : Chunk Unit := fun state =>
  match faults site with
  | none => .ok () { state with committed := state.working }
  | some fault =>
      .error fault.raised
        (if fault.commits then { state with committed := state.working }
        else { state with working := state.committed })

/-- `await db.rollback()`, and closing a session with an open transaction. -/
def rollback : Chunk Unit :=
  modify fun state => { state with working := state.committed }

def change (update : Db → Db) : Chunk Unit :=
  modify fun state => { state with working := update state.working }

def count (succeeded failed : ℕ) : Chunk Unit :=
  modify fun state =>
    { state with succeeded := state.succeeded + succeeded, failed := state.failed + failed }

def hand (route : Route) (messageIds : List MessageId) : Chunk Unit :=
  modify fun state =>
    { state with handed := state.handed ++ messageIds.map fun messageId => (messageId, route) }

end Chunk

/-- The next value of the primary key of `sms_logs`. -/
def Db.nextId (db : Db) : ℕ :=
  (db.smsLogs.map SmsLog.id).foldr max 0 + 1

def Db.placed (db : Db) (rows : List SmsLog) : List SmsLog :=
  rows.mapIdx fun index row => { row with id := db.nextId + index }

/-- `INSERT INTO sms_logs` of new rows. -/
def Db.insertSmsLogs (db : Db) (rows : List SmsLog) : Db :=
  db.addSmsLogs (db.placed rows)

/-- `batch.status in ('cancelled', 'failed')`. -/
def BatchStatus.stopped (status : BatchStatus) : Bool :=
  status = .cancelled ∨ status = .failed

def BatchStatus.text : BatchStatus → String
  | .pending => "pending"
  | .processing => "processing"
  | .paused => "paused"
  | .completed => "completed"
  | .failed => "failed"
  | .cancelled => "cancelled"

end Klsmsc
