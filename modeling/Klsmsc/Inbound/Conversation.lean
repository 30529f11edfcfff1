import Klsmsc.Inbound.Framing
import Klsmsc.Inbound.Receipts

/-!
# The conversation of a session

A connection begins with a bind, which is refused or makes a session of it. A session answers the
requests of its client one after the other until the client unbinds. Each request has its answer,
with the number of the request and the command that belongs to it, and what the gateway does not
know is refused with a `generic_nack`. Before a client is authenticated nothing of what it sends
reaches the rest of the gateway.
-/

namespace Klsmsc

open Library Library.Parse

/-! ### Commands and statuses -/

/-- The commands of SMPP that `inbound_pdu.go` names. -/
def cmdGenericNack : UInt32 := 0x80000000
def cmdBindReceiver : UInt32 := 0x00000001
def cmdBindReceiverResp : UInt32 := 0x80000001
def cmdBindTransmitter : UInt32 := 0x00000002
def cmdBindTransmitterResp : UInt32 := 0x80000002
def cmdSubmitSM : UInt32 := 0x00000004
def cmdSubmitSMResp : UInt32 := 0x80000004
def cmdDeliverSMResp : UInt32 := 0x80000005
def cmdUnbind : UInt32 := 0x00000006
def cmdUnbindResp : UInt32 := 0x80000006
def cmdBindTransceiver : UInt32 := 0x00000009
def cmdBindTransceiverResp : UInt32 := 0x80000009
def cmdEnquireLink : UInt32 := 0x00000015
def cmdEnquireLinkResp : UInt32 := 0x80000015

inductive BindStatus
  | statusOK
  | statusInvMsgLen
  | statusThrottled
  | statusSysErr
  | statusInvSysID
  | statusBindFail
  | statusInvPaswd
  deriving DecidableEq, Repr

/-- `uint32` of a status. -/
def BindStatus.code : BindStatus → UInt32
  | statusOK => 0x00
  | statusInvMsgLen => 0x01
  | statusThrottled => 0x58
  | statusSysErr => 0x08
  | statusInvSysID => 0x0F
  | statusBindFail => 0x0D
  | statusInvPaswd => 0x0E

/-- `uint32` of a status. -/
def SubmitStatus.code : SubmitStatus → UInt32
  | statusOK => 0x00
  | statusInvBindStatus => 0x04
  | statusThrottled => 0x58
  | statusInvMsgLen => 0x01
  | statusMsgQFul => 0x14
  | statusSysErr => 0x08

/-- `statusInvCmdID`. -/
def statusInvCmdID : UInt32 := 0x03

/-- `gwSystemID`. -/
def gwSystemID : GoString := ascii "kaolach"

/-- `buildBindResp`. -/
def buildBindResp (gwSystemID : GoString) : List UInt8 := writeCString gwSystemID

/-- `buildSubmitSMResp`. -/
def buildSubmitSMResp (msgID : GoString) : List UInt8 := writeCString msgID

/-- `bindRespCmdID`. -/
def bindRespCmdID (reqCmdID : UInt32) : UInt32 :=
  if reqCmdID = cmdBindTransmitter then cmdBindTransmitterResp
  else if reqCmdID = cmdBindReceiver then cmdBindReceiverResp
  else if reqCmdID = cmdBindTransceiver then cmdBindTransceiverResp
  else reqCmdID ||| 0x80000000

def bindTypeOf (commandID : UInt32) : Option BindType :=
  if commandID = cmdBindTransmitter then some .bindTX
  else if commandID = cmdBindReceiver then some .bindRX
  else if commandID = cmdBindTransceiver then some .bindTRX
  else none

/-! ### Authentication -/

/-- `inboundAccount`, with the fields that a session reads. -/
structure InboundAccount where
  id : ℕ
  status : GoString
  protocol : GoString
  password : GoString
  ipWhitelist : GoString
  deriving DecidableEq, Repr

/-- What the gateway calls for addresses: `json.Unmarshal` of a list of strings, and whether a range
that `net.ParseCIDR` reads contains an address that `net.ParseIP` reads. -/
structure AddressLibrary where
  unmarshal : GoString → Option (List GoString)
  cidrContains : GoString → GoString → Bool

/-- `strings.Split` at a comma. -/
def splitCommas (s : GoString) : List GoString := s.splitOn 0x2C

/-- `IPWhitelistAllow`. -/
def InboundAccount.ipWhitelistAllow (a : InboundAccount) (library : AddressLibrary)
    (remoteIP : GoString) : Bool :=
  let wl := trimSpace a.ipWhitelist
  if wl = [] ∨ wl = ascii "[]" ∨ wl = ascii "null" then true
  else
    let ips := (if wl.head? = some 0x5B then library.unmarshal wl else none).getD (splitCommas wl)
    ips.any fun raw =>
      let entry := trimSpace raw
      if entry = [] then false
      else if 0x2F ∈ entry then library.cidrContains entry remoteIP
      else entry == remoteIP

/-- The loop of `constantTimeEqualString`. -/
def differenceOf : GoString → GoString → UInt8 → UInt8
  | x :: a, y :: b, v => differenceOf a b (v ||| (x ^^^ y))
  | _, _, v => v

/-- `constantTimeEqualString`. -/
def constantTimeEqualString (a b : GoString) : Bool :=
  if a.length ≠ b.length then false else differenceOf a b 0 == 0

/-- What `LoadAccountBySystemID` returns: an error of the database, no account, or an account. -/
abbrev LoadedAccount := Except Unit (Option InboundAccount)

/-- The least character that a character is the same as but for its case, among those that have an
ASCII letter for it. -/
def simpleFold (char : Char) : Char :=
  if char = '\u017F' then 's' else if char = '\u212A' then 'k' else char.toLower

/-- `strings.EqualFold` with a string of ASCII. -/
def equalFold (s t : GoString) : Bool :=
  (runes s).map simpleFold == (runes t).map simpleFold

/-- `authenticateBind`, with what the database returns for the system id. -/
def authenticateBind (library : AddressLibrary) (loaded : LoadedAccount) (ip : GoString)
    (bind : BindBody) : BindStatus × Option InboundAccount :=
  match loaded with
  | .error _ => (.statusSysErr, none)
  | .ok none => (.statusInvSysID, none)
  | .ok (some a) =>
      if ¬ equalFold (trimSpace a.protocol) (ascii "SMPP") then (.statusInvSysID, none)
      else if a.status ≠ ascii "active" then (.statusBindFail, none)
      else if ¬ a.ipWhitelistAllow library ip then (.statusBindFail, none)
      else
        let dbPwd := if 8 < a.password.length then a.password.take 8 else a.password
        let clientPwd := if 8 < bind.password.length then bind.password.take 8 else bind.password
        if ¬ constantTimeEqualString dbPwd clientPwd then (.statusInvPaswd, none)
        else (.statusOK, some a)

/-! ### Sessions -/

structure WrittenPdu where
  commandID : UInt32
  commandStatus : UInt32
  sequenceNumber : UInt32
  body : List UInt8
  deriving DecidableEq, Repr

inductive SessionPhase
  | binding
  | reading (s : InboundSession)
  | ended

/-- What a connection finds when it handles a PDU: the answer of `allowBindRate`, the account that
the database returns, whether the answer to its bind can be written, the rest of the gateway, the
answer of `tps.Allow`, and what `handleSubmitSM` draws. -/
structure PduWorld where
  bindAllowed : Bool
  loaded : LoadedAccount
  bindWritten : Bool
  gateway : Inbound
  allowed : Bool
  draw : Draw

/-- What a connection does with a PDU: where it stands then, what it writes, the session that it
registers, and the rest of the gateway. -/
structure Handled where
  request : PduHeader × List UInt8
  phase : SessionPhase
  answer : Option WrittenPdu
  registered : Option InboundSession
  gateway : Inbound

/-- The fields of a `submit_sm` that is read, or none where it cannot be read. -/
def submitSMOf (body : List UInt8) : Option SubmitSMBody :=
  match parseSubmitSM body with
  | .returns fields => some fields.toSubmitSMBody
  | _ => none

section Session

variable (submitQueueSize : ℕ) (library : AddressLibrary) (remoteIP : GoString) (world : PduWorld)
  (request : PduHeader × List UInt8)

def refusal (commandID status : UInt32) (body : List UInt8) : Handled :=
  ⟨request, .ended, some ⟨commandID, status, request.1.sequenceNumber, body⟩, none, world.gateway⟩

/-- `handleSession` up to `readLoop`. -/
def handleBind : Handled :=
  let hdr := request.1
  match bindTypeOf hdr.commandID with
  | none => refusal world request cmdGenericNack statusInvCmdID []
  | some bindType =>
      match parseBind request.2 with
      | .returns bind =>
          if ¬ world.bindAllowed then
            refusal world request (bindRespCmdID hdr.commandID) BindStatus.statusThrottled.code
              (buildBindResp gwSystemID)
          else
            match authenticateBind library world.loaded remoteIP bind with
            | (.statusOK, some account) =>
                let s : InboundSession := ⟨account.id, bind.systemID, remoteIP, bindType⟩
                { request
                  phase := if world.bindWritten then .reading s else .ended
                  answer := some ⟨bindRespCmdID hdr.commandID, BindStatus.statusOK.code,
                    hdr.sequenceNumber, buildBindResp gwSystemID⟩
                  registered := some s
                  gateway := world.gateway }
            | (respStatus, _) =>
                refusal world request (bindRespCmdID hdr.commandID) respStatus.code
                  (buildBindResp gwSystemID)
      | _ =>
          refusal world request (bindRespCmdID hdr.commandID) BindStatus.statusInvMsgLen.code []

def goOn (s : InboundSession) (answer : Option WrittenPdu) (gateway : Inbound) : Handled :=
  ⟨request, .reading s, answer, none, gateway⟩

/-- A round of `readLoop` after `readPDU`; there is none when a request is never answered. -/
def handleRequest (s : InboundSession) : Option Handled :=
  let hdr := request.1
  let answer (commandID status : UInt32) (body : List UInt8) : Option WrittenPdu :=
    some ⟨commandID, status, hdr.sequenceNumber, body⟩
  if hdr.commandID = cmdSubmitSM then
    (world.gateway.handleSubmitSM submitQueueSize s world.allowed (submitSMOf request.2)
        world.draw).map fun (gateway, status, msgID) =>
      goOn request s
        (answer cmdSubmitSMResp status.code
          (buildSubmitSMResp ((msgID.map messageIdText).getD []))) gateway
  else if hdr.commandID = cmdEnquireLink then
    some (goOn request s (answer cmdEnquireLinkResp 0 []) world.gateway)
  else if hdr.commandID = cmdEnquireLinkResp then some (goOn request s none world.gateway)
  else if hdr.commandID = cmdUnbind then
    some ⟨request, .ended, answer cmdUnbindResp 0 [], none, world.gateway⟩
  else if hdr.commandID = cmdDeliverSMResp then some (goOn request s none world.gateway)
  else some (goOn request s (answer cmdGenericNack statusInvCmdID []) world.gateway)

def handlePDU : SessionPhase → Option Handled
  | .binding => some (handleBind library remoteIP world request)
  | .reading s => handleRequest submitQueueSize world request s
  | .ended => none

def handleSession : SessionPhase → List (PduWorld × PduHeader × List UInt8) → List Handled
  | _, [] => []
  | phase, (world, request) :: rest =>
      match handlePDU submitQueueSize library remoteIP world request phase with
      | none => []
      | some handled => handled :: handleSession handled.phase rest

end Session

/-! ### What authenticates a client -/

theorem differenceOf_eq_zero_iff {a b : GoString} (same : a.length = b.length) (v : UInt8) :
    differenceOf a b v = 0 ↔ v = 0 ∧ a = b := by
  induction a generalizing b v with
  | nil =>
      have empty : b = [] := by simpa using same.symm
      subst empty
      simp [differenceOf]
  | cons x a ih =>
      cases b with
      | nil => simp at same
      | cons y b =>
          rw [differenceOf, ih (by simpa using same)]
          simp [and_assoc]

theorem constantTimeEqualString_iff (a b : GoString) :
    constantTimeEqualString a b = true ↔ a = b := by
  rw [constantTimeEqualString]
  split
  · rename_i differ
    simp only [Bool.false_eq_true, false_iff]
    intro same
    exact differ (congrArg List.length same)
  · rename_i same
    simp [differenceOf_eq_zero_iff (not_not.mp same)]

structure Authentic (library : AddressLibrary) (ip : GoString) (bind : BindBody)
    (a : InboundAccount) : Prop where
  protocol : equalFold (trimSpace a.protocol) (ascii "SMPP") = true
  active : a.status = ascii "active"
  address : a.ipWhitelistAllow library ip = true
  password : a.password.take 8 = bind.password.take 8

theorem ite_take_eight (password : GoString) :
    (if 8 < password.length then password.take 8 else password) = password.take 8 := by
  split
  · rfl
  · rw [List.take_of_length_le (by omega)]

theorem authenticateBind_ok_iff {library : AddressLibrary} {loaded : LoadedAccount}
    {ip : GoString} {bind : BindBody} {account : Option InboundAccount} :
    authenticateBind library loaded ip bind = (.statusOK, account) ↔
      ∃ a, account = some a ∧ loaded = .ok (some a) ∧ Authentic library ip bind a := by
  constructor
  · intro granted
    rcases loaded with error | _ | a
    · cases granted
    · cases granted
    · simp only [authenticateBind, ite_take_eight] at granted
      split at granted
      · cases granted
      · rename_i protocol
        split at granted
        · cases granted
        · rename_i active
          split at granted
          · cases granted
          · rename_i address
            split at granted
            · cases granted
            · rename_i password
              rcases Prod.mk.inj granted with ⟨-, rfl⟩
              refine ⟨a, rfl, rfl, not_not.mp protocol, not_not.mp active, not_not.mp address, ?_⟩
              exact (constantTimeEqualString_iff _ _).mp (not_not.mp password)
  · rintro ⟨a, rfl, rfl, protocol, active, address, password⟩
    have equal := (constantTimeEqualString_iff _ _).mpr password
    simp [authenticateBind, protocol, active, address, equal, ite_take_eight]

/-! ### What a session answers -/

def bindAnswer (commandID : UInt32) : UInt32 :=
  if (bindTypeOf commandID).isSome then commandID ||| 0x80000000 else cmdGenericNack

def sessionAnswer (commandID : UInt32) : Option UInt32 :=
  if commandID ∈ [cmdSubmitSM, cmdEnquireLink, cmdUnbind] then some (commandID ||| 0x80000000)
  else if commandID ∈ [cmdEnquireLinkResp, cmdDeliverSMResp] then none
  else some cmdGenericNack

def WrittenPdu.label (pdu : WrittenPdu) : UInt32 × UInt32 :=
  (pdu.commandID, pdu.sequenceNumber)

def expectedAnswers : List PduHeader → List (UInt32 × UInt32)
  | [] => []
  | first :: rest =>
      (bindAnswer first.commandID, first.sequenceNumber) :: rest.filterMap fun hdr =>
        (sessionAnswer hdr.commandID).map fun commandID => (commandID, hdr.sequenceNumber)

structure Authenticates (library : AddressLibrary) (remoteIP : GoString) (world : PduWorld)
    (request : PduHeader × List UInt8) (s : InboundSession) : Prop where
  bindType : bindTypeOf request.1.commandID = some s.bindType
  allowed : world.bindAllowed = true
  address : s.remoteIP = remoteIP
  account : ∃ bind a, parseBind request.2 = .returns bind ∧ world.loaded = .ok (some a) ∧
    Authentic library remoteIP bind a ∧ s.accountId = a.id ∧ s.systemId = bind.systemID

section Session

variable {submitQueueSize : ℕ} {library : AddressLibrary} {remoteIP : GoString} {world : PduWorld}
  {request : PduHeader × List UInt8} {s : InboundSession} {handled : Handled}

theorem bindRespCmdID_eq (commandID : UInt32) :
    bindRespCmdID commandID = commandID ||| 0x80000000 := by
  rw [bindRespCmdID]
  split
  · subst_vars
    rfl
  · split
    · subst_vars
      rfl
    · split
      · subst_vars
        rfl
      · rfl

structure BindOutcome (library : AddressLibrary) (remoteIP : GoString) (world : PduWorld)
    (request : PduHeader × List UInt8) (handled : Handled) : Prop where
  same : handled.request = request
  untouched : handled.gateway = world.gateway
  answered : handled.answer.map WrittenPdu.label =
    some (bindAnswer request.1.commandID, request.1.sequenceNumber)
  registers : ∀ s ∈ handled.registered, Authenticates library remoteIP world request s
  moves : handled.phase = .ended ∨ ∃ s, handled.phase = .reading s ∧ handled.registered = some s

theorem refusal_outcome {commandID status : UInt32} {body : List UInt8}
    (fits : commandID = bindAnswer request.1.commandID) :
    BindOutcome library remoteIP world request (refusal world request commandID status body) where
  same := rfl
  untouched := rfl
  answered := by
    subst fits
    rfl
  registers := by simp [refusal]
  moves := Or.inl rfl

theorem handleBind_outcome :
    BindOutcome library remoteIP world request (handleBind library remoteIP world request) := by
  rw [handleBind]
  cases type : bindTypeOf request.1.commandID with
  | none => exact refusal_outcome (by simp [bindAnswer, type])
  | some bindType =>
      have fits : bindRespCmdID request.1.commandID = bindAnswer request.1.commandID := by
        simp [bindAnswer, type, bindRespCmdID_eq]
      cases parsed : parseBind request.2 with
      | fails error => exact refusal_outcome fits
      | panics => exact refusal_outcome fits
      | returns bind =>
          dsimp only
          split
          · exact refusal_outcome fits
          · rename_i allowed
            split
            · rename_i account granted
              rcases authenticateBind_ok_iff.mp granted with ⟨a, same, loaded, authentic⟩
              rcases Option.some.inj same with rfl
              refine ⟨rfl, rfl, by rw [fits]; rfl, ?_, ?_⟩
              · intro s registered
                rcases Option.some.inj registered with rfl
                exact ⟨type, not_not.mp allowed, rfl, bind, account, parsed, loaded, authentic,
                  rfl, rfl⟩
              · dsimp only
                split
                · exact Or.inr ⟨_, rfl, rfl⟩
                · exact Or.inl rfl
            · exact refusal_outcome fits

structure RequestOutcome (request : PduHeader × List UInt8) (s : InboundSession)
    (handled : Handled) : Prop where
  same : handled.request = request
  answered : handled.answer.map WrittenPdu.label =
    (sessionAnswer request.1.commandID).map fun commandID => (commandID, request.1.sequenceNumber)
  phase : handled.phase = .reading s ∨
    handled.phase = .ended ∧ request.1.commandID = cmdUnbind

theorem handleRequest_outcome
    (handles : handleRequest submitQueueSize world request s = some handled) :
    RequestOutcome request s handled := by
  rw [handleRequest] at handles
  by_cases submit : request.1.commandID = cmdSubmitSM
  · rw [if_pos submit, Option.map_eq_some_iff] at handles
    rcases handles with ⟨⟨gateway, status, msgID⟩, -, rfl⟩
    exact ⟨rfl, by rw [submit]; rfl, Or.inl rfl⟩
  · rw [if_neg submit] at handles
    by_cases enquire : request.1.commandID = cmdEnquireLink
    · rw [if_pos enquire] at handles
      rcases Option.some.inj handles with rfl
      exact ⟨rfl, by rw [enquire]; rfl, Or.inl rfl⟩
    · rw [if_neg enquire] at handles
      by_cases enquired : request.1.commandID = cmdEnquireLinkResp
      · rw [if_pos enquired] at handles
        rcases Option.some.inj handles with rfl
        exact ⟨rfl, by rw [enquired]; rfl, Or.inl rfl⟩
      · rw [if_neg enquired] at handles
        by_cases unbind : request.1.commandID = cmdUnbind
        · rw [if_pos unbind] at handles
          rcases Option.some.inj handles with rfl
          exact ⟨rfl, by rw [unbind]; rfl, Or.inr ⟨rfl, unbind⟩⟩
        · rw [if_neg unbind] at handles
          by_cases delivered : request.1.commandID = cmdDeliverSMResp
          · rw [if_pos delivered] at handles
            rcases Option.some.inj handles with rfl
            exact ⟨rfl, by rw [delivered]; rfl, Or.inl rfl⟩
          · rw [if_neg delivered] at handles
            rcases Option.some.inj handles with rfl
            have nacked : sessionAnswer request.1.commandID = some cmdGenericNack := by
              simp [sessionAnswer, submit, enquire, enquired, unbind, delivered]
            exact ⟨rfl, by rw [nacked]; rfl, Or.inl rfl⟩

theorem never_answered (never : handleRequest submitQueueSize world request s = none) :
    request.1.commandID = cmdSubmitSM ∧ ∃ sm call, submitSMOf request.2 = some sm ∧
      Inbound.segmentOf s sm world.draw = some call ∧
      world.gateway.udhStore.addSegment call = none := by
  rw [handleRequest] at never
  split at never
  · rename_i submit
    refine ⟨submit, ?_⟩
    rw [Option.map_eq_none_iff] at never
    unfold Inbound.handleSubmitSM at never
    split at never
    · cases never
    · split at never
      · cases never
      · cases body : submitSMOf request.2 with
        | none =>
            rw [body] at never
            cases never
        | some sm =>
            rw [body] at never
            cases segment : Inbound.segmentOf s sm world.draw with
            | none =>
                simp only [segment] at never
                cases never
            | some call =>
                simp only [segment, Inbound.handleSegment, Option.map_eq_none_iff] at never
                exact ⟨sm, call, rfl, segment, never⟩
  · split at never
    · cases never
    · split at never
      · cases never
      · split at never
        · cases never
        · split at never <;> cases never

def Serves (submitQueueSize : ℕ) (s : InboundSession)
    (requests : List (PduWorld × PduHeader × List UInt8)) (served : List Handled) : Prop :=
  List.Forall₂ (fun entry one => handleRequest submitQueueSize entry.1 entry.2 s = some one)
    requests served

def Stops (submitQueueSize : ℕ) (s : InboundSession) (served : List Handled)
    (left : List (PduWorld × PduHeader × List UInt8)) : Prop :=
  left = [] ∨ (∃ last ∈ served.getLast?, last.phase = .ended) ∨
    ∃ world request later, left = (world, request) :: later ∧
      handleRequest submitQueueSize world request s = none

theorem handleSession_reading (requests : List (PduWorld × PduHeader × List UInt8)) :
    ∃ front left, requests = front ++ left ∧
      Serves submitQueueSize s front
        (handleSession submitQueueSize library remoteIP (.reading s) requests) ∧
      Stops submitQueueSize s
        (handleSession submitQueueSize library remoteIP (.reading s) requests) left ∧
      ∀ one ∈ (handleSession submitQueueSize library remoteIP (.reading s) requests).dropLast,
        one.phase = .reading s := by
  induction requests with
  | nil => exact ⟨[], [], rfl, List.Forall₂.nil, Or.inl rfl, by simp [handleSession]⟩
  | cons entry rest ih =>
      rcases entry with ⟨world, request⟩
      cases handles : handleRequest submitQueueSize world request s with
      | none =>
          simp only [handleSession, handlePDU, handles]
          exact ⟨[], _, rfl, List.Forall₂.nil,
            Or.inr (Or.inr ⟨world, request, rest, rfl, handles⟩), by simp⟩
      | some one =>
          simp only [handleSession, handlePDU, handles]
          rcases (handleRequest_outcome handles).phase with reading | ⟨ended, -⟩
          · rw [reading]
            rcases ih with ⟨front, left, rfl, serves, stops, goes⟩
            refine ⟨(world, request) :: front, left, rfl, List.Forall₂.cons handles serves, ?_, ?_⟩
            · rcases stops with nothing | ⟨last, isLast, ended⟩ | never
              · exact Or.inl nothing
              · refine Or.inr (Or.inl ⟨last, ?_, ended⟩)
                rw [List.getLast?_cons, isLast]
                rfl
              · exact Or.inr (Or.inr never)
            · intro two member
              cases served : handleSession submitQueueSize library remoteIP (.reading s)
                  (front ++ left) with
              | nil => simp [served] at member
              | cons next later =>
                  rw [served] at member goes
                  rw [List.dropLast_cons_cons, List.mem_cons] at member
                  rcases member with rfl | member
                  · exact reading
                  · exact goes two member
          · have nothing : handleSession submitQueueSize library remoteIP one.phase rest = [] := by
              rw [ended]
              cases rest <;> rfl
            rw [nothing]
            exact ⟨[(world, request)], rest, rfl, List.Forall₂.cons handles List.Forall₂.nil,
              Or.inr (Or.inl ⟨one, rfl, ended⟩), by simp⟩

theorem Serves.requests {requests : List (PduWorld × PduHeader × List UInt8)}
    {served : List Handled} (serves : Serves submitQueueSize s requests served) :
    served.map (·.request) = requests.map (·.2) := by
  induction serves with
  | nil => rfl
  | cons handles _ ih =>
      rw [List.map_cons, List.map_cons, ih, (handleRequest_outcome handles).same]

theorem Serves.answers {requests : List (PduWorld × PduHeader × List UInt8)}
    {served : List Handled} (serves : Serves submitQueueSize s requests served) :
    (served.filterMap (·.answer)).map WrittenPdu.label =
      (requests.map (·.2.1)).filterMap fun hdr =>
        (sessionAnswer hdr.commandID).map fun commandID => (commandID, hdr.sequenceNumber) := by
  induction serves with
  | nil => rfl
  | @cons entry one requests served handles _ ih =>
      have answered := (handleRequest_outcome handles).answered
      rw [List.map_cons, List.filterMap_cons, List.filterMap_cons, ← answered, ← ih]
      cases one.answer <;> rfl

end Session

end Klsmsc
