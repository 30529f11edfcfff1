import Klsmsc.Inbound.Reassembly
import Klsmsc.Library.Runs

/-!
# Inbound sessions

A session takes `submit_sm` requests: it joins the segments of long messages by way of the store,
hands whole messages to the submit queue, and answers. The reaper flushes what has waited too long.
What neither the session nor the reaper can hand over is rejected with a receipt. The state keeps
the history of what was taken, handed over and acknowledged.
-/

namespace Klsmsc

open Library

/-- `bindType`. -/
inductive BindType
  | bindTX
  | bindRX
  | bindTRX
  deriving DecidableEq, Repr

/-- The statuses of a `submit_sm_resp`. -/
inductive SubmitStatus
  | statusOK
  | statusInvBindStatus
  | statusThrottled
  | statusInvMsgLen
  | statusMsgQFul
  | statusSysErr
  deriving DecidableEq, Repr

/-- `submitSMBody`. -/
structure SubmitSMBody where
  sourceAddr : GoString
  destAddr : GoString
  esmClass : UInt8
  registeredDelivery : UInt8
  dataCoding : UInt8
  shortMessage : List UInt8
  tlvs : AList fun _ : UInt16 => List UInt8

/-- `inboundSession`. -/
structure InboundSession where
  accountId : ℕ
  systemId : GoString
  remoteIP : GoString
  bindType : BindType

/-- `udhiBit`. -/
def udhiBit : UInt8 := 0x40

/-! ### User data headers -/

/-- The loop of `parseUDH` over the information elements; a header of `fuel` bytes has fewer. -/
def udhLoop : ℕ → List UInt8 → ConcatInfo → ConcatInfo
  | fuel + 1, iei :: iedl :: rest, ci =>
      if rest.length < iedl.toNat then ci
      else
        let ci : ConcatInfo :=
          match iei, rest.take iedl.toNat with
          | 0x00, [ref, total, part] => ⟨ref.toUInt16, total, part, true⟩
          | 0x08, [high, low, total, part] => ⟨high.toUInt16 <<< 8 ||| low.toUInt16, total, part, true⟩
          | _, _ => ci
        udhLoop fuel (rest.drop iedl.toNat) ci
  | _, _, ci => ci

/-- `parseUDH`. -/
def parseUDH (sm : List UInt8) : ConcatInfo × List UInt8 :=
  match sm with
  | [] => (⟨0, 0, 0, false⟩, sm)
  | udhl :: rest =>
      if rest.length < udhl.toNat then (⟨0, 0, 0, false⟩, sm)
      else
        (udhLoop udhl.toNat (rest.take udhl.toNat) ⟨0, 0, 0, false⟩, rest.drop udhl.toNat)

/-! ### Addresses -/

def whiteSpace : List GoString :=
  ['\t', '\n', '\x0B', '\x0C', '\r', ' ', '\u0085', '\u00A0', '\u1680', '\u2000', '\u2001',
    '\u2002', '\u2003', '\u2004', '\u2005', '\u2006', '\u2007', '\u2008', '\u2009', '\u200A',
    '\u2028', '\u2029', '\u202F', '\u205F', '\u3000'].map fun char => utf8 [char]

/-- A string without the white space at its start; a string of `fuel` bytes has no more of it. -/
def trimLeft (space : List GoString) : ℕ → GoString → GoString
  | 0, s => s
  | fuel + 1, s =>
      match space.find? (·.isPrefixOf s) with
      | none => s
      | some char => trimLeft space fuel (s.drop char.length)

/-- `strings.TrimSpace`. -/
def trimSpace (s : GoString) : GoString :=
  let s := trimLeft whiteSpace s.length s
  (trimLeft (whiteSpace.map List.reverse) s.length s.reverse).reverse

/-- `normalizeDestAddr`. -/
def normalizeDestAddr (s : GoString) : GoString :=
  let s := trimSpace s
  if s = [] ∨ s.head? = some 0x2B then s
  else if 7 ≤ s.length then 0x2B :: s
  else s

/-! ### The state -/

/-- A segment that a session has taken: its number among those, the message that it is a part of
for its sender, and the call of `addSegment`. -/
structure Arrival where
  serial : ℕ
  message : ℕ
  call : SegmentCall

structure Handed where
  job : SubmitJob
  segments : List Arrival

/-- The inbound side of the gateway, with the segments that each group has taken, the jobs that
the submit queue accepted, the jobs that were rejected with a receipt, and the segments that were
answered with `ESME_ROK`, with the id of the answer. -/
structure Inbound where
  udhStore : ReassemblyStore
  submitQueue : List SubmitJob
  taken : GoString → List Arrival
  forwarded : List Handed
  rejected : List Handed
  acknowledged : List (Arrival × MessageId)

/-- What a call of `handleSubmitSM` draws: the time, the id of `generateMessageID` and the order
of `range`; and the message that the request is a part of for its sender. -/
structure Draw where
  now : ℕ
  messageId : MessageId
  order : MapOrder
  message : ℕ

/-- `trySubmit`: whether the job is queued, and the queue, which is there before any session. -/
def trySubmit (submitQueueSize : ℕ) (submitQueue : List SubmitJob) (job : SubmitJob) :
    Bool × List SubmitJob :=
  if submitQueueSize * 8 / 10 < submitQueue.length then (false, submitQueue)
  else if submitQueue.length < submitQueueSize then (true, submitQueue ++ [job])
  else (false, submitQueue)

/-- `tmpl` and `key` of a segment. -/
def segmentCall (s : InboundSession) (sm : SubmitSMBody) (ci : ConcatInfo) (segText : GoString)
    (draw : Draw) : SegmentCall where
  key := reassemblyKey s.accountId sm.sourceAddr sm.destAddr ci.ref ci.total
  info := ci
  segText := segText
  tmpl :=
    { accountId := s.accountId
      messageId := 0
      systemId := s.systemId
      sourceAddr := sm.sourceAddr
      destAddr := normalizeDestAddr sm.destAddr
      message := []
      ip := s.remoteIP
      registeredDelivery := (sm.registeredDelivery &&& 0x01).toNat }
  now := draw.now
  messageId := draw.messageId
  order := draw.order

namespace Inbound

variable (submitQueueSize : ℕ) (gw : Inbound)

def handOver (handed : Handed) : Inbound :=
  let (queued, submitQueue) := trySubmit submitQueueSize gw.submitQueue handed.job
  if queued then
    { gw with submitQueue := submitQueue, forwarded := gw.forwarded ++ [handed] }
  else { gw with rejected := gw.rejected ++ [handed] }

def takenWith (arrival : Arrival) : List Arrival :=
  (if arrival.call.key ∈ gw.udhStore.groups then gw.taken arrival.call.key else []) ++ [arrival]

/-- The branch of `handleSubmitSM` for a segment: nothing when it never answers. -/
def handleSegment (message : ℕ) (call : SegmentCall) :
    Option (Inbound × SubmitStatus × Option MessageId) :=
  let arrival : Arrival := ⟨gw.acknowledged.length, message, call⟩
  (gw.udhStore.addSegment call).map fun ((ready, respMsgID), udhStore) =>
    let taken := gw.takenWith arrival
    let gw := { gw with udhStore := udhStore, taken := Function.update gw.taken call.key taken }
    let gw :=
      match ready with
      | some job => gw.handOver submitQueueSize ⟨job, taken⟩
      | none => gw
    ({ gw with acknowledged := gw.acknowledged ++ [(arrival, respMsgID)] },
      SubmitStatus.statusOK, some respMsgID)

/-- The rest of `handleSubmitSM` for a message of one part. -/
def handleSingle (s : InboundSession) (sm : SubmitSMBody) (rawMsg : List UInt8) (draw : Draw) :
    Inbound × SubmitStatus × Option MessageId :=
  let job : SubmitJob :=
    { accountId := s.accountId
      messageId := draw.messageId
      systemId := s.systemId
      sourceAddr := sm.sourceAddr
      destAddr := normalizeDestAddr sm.destAddr
      message := decodeShortMessage rawMsg sm.dataCoding
      ip := s.remoteIP
      registeredDelivery := (sm.registeredDelivery &&& 0x01).toNat }
  let (queued, submitQueue) := trySubmit submitQueueSize gw.submitQueue job
  if queued then
    ({ gw with submitQueue := submitQueue, forwarded := gw.forwarded ++ [⟨job, []⟩] },
      SubmitStatus.statusOK, some draw.messageId)
  -- a queue that does not take a job is always reported as busy
  else (gw, SubmitStatus.statusMsgQFul, none)

def segmentOf (s : InboundSession) (sm : SubmitSMBody) (draw : Draw) : Option SegmentCall :=
  if sm.esmClass &&& udhiBit ≠ 0 ∧ 0 < sm.shortMessage.length then
    let (ci, payload) := parseUDH sm.shortMessage
    if ci.hasConcat ∧ 1 < ci.total ∧ 1 ≤ ci.part ∧ ci.part ≤ ci.total then
      some (segmentCall s sm ci (decodeShortMessage payload sm.dataCoding) draw)
    else none
  else none

def rawMsgOf (sm : SubmitSMBody) : List UInt8 :=
  if sm.esmClass &&& udhiBit ≠ 0 ∧ 0 < sm.shortMessage.length then (parseUDH sm.shortMessage).2
  else
    match sm.tlvs.lookup 0x0424 with
    | some v => if 0 < v.length then v else sm.shortMessage
    | none => sm.shortMessage

/-- `handleSubmitSM`, after `parseSubmitSM`, with the answer of `tps.Allow`: nothing when it never
answers. -/
def handleSubmitSM (s : InboundSession) (allowed : Bool) (body : Option SubmitSMBody)
    (draw : Draw) : Option (Inbound × SubmitStatus × Option MessageId) :=
  if s.bindType = .bindRX then some (gw, .statusInvBindStatus, none)
  else if ¬ allowed then some (gw, .statusThrottled, none)
  else
    match body with
    | none => some (gw, .statusInvMsgLen, none)
    | some sm =>
        match segmentOf s sm draw with
        | some call => gw.handleSegment submitQueueSize draw.message call
        | none => some (gw.handleSingle submitQueueSize s sm (rawMsgOf sm) draw)

/-- The groups that have waited too long, in the order of `range`. -/
def expired (now : ℕ) (order : MapOrder) : List (Σ _ : GoString, ReassemblyGroup) :=
  (order.order gw.udhStore.groups.entries).filter fun entry =>
    reassemblyTTL < now - entry.2.createdAt

/-- `reap`: nothing when it never returns. -/
def reap (now : ℕ) (order : MapOrder) : Option Inbound :=
  (gw.udhStore.reap now order).map fun (flush, udhStore) =>
    let sources := (gw.expired now order).map fun entry => gw.taken entry.1
    (List.zipWith Handed.mk flush sources).foldl (fun gw handed => gw.handOver submitQueueSize handed)
      { gw with udhStore := udhStore }

end Inbound

/-- What happens at the inbound side: a request, a round of the reaper, and a worker that takes
the next job off the queue. -/
inductive InboundEvent
  | submit (s : InboundSession) (allowed : Bool) (body : Option SubmitSMBody) (draw : Draw)
  | reap (now : ℕ) (order : MapOrder)
  | work

def Inbound.next (submitQueueSize : ℕ) (gw : Inbound) : InboundEvent → Option Inbound
  | .submit s allowed body draw =>
      (gw.handleSubmitSM submitQueueSize s allowed body draw).map (·.1)
  | .reap now order => gw.reap submitQueueSize now order
  | .work => some { gw with submitQueue := gw.submitQueue.tail }

def Inbound.Step (submitQueueSize : ℕ) (before : Inbound) (event : InboundEvent)
    (after : Inbound) : Prop :=
  before.next submitQueueSize event = some after

def InboundEvent.segment : InboundEvent → Option (ℕ × SegmentCall)
  | .submit s allowed body draw =>
      if s.bindType ≠ .bindRX ∧ allowed then
        (body.bind fun sm => Inbound.segmentOf s sm draw).map fun call => (draw.message, call)
      else none
  | _ => none

def Inbound.start : Inbound :=
  ⟨⟨∅⟩, [], fun _ => [], [], [], []⟩

end Klsmsc
