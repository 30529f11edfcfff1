import Klsmsc.Inbound.BindLimit
import Klsmsc.Inbound.Latin1
import Klsmsc.Inbound.Pdu

/-!
# Receipts for inbound messages

A receipt is a payload with the addresses of a message. The backend publishes the number that the
message was sent to as `dest_addr`, and `pushDeliverSM` makes it the source of the `deliver_sm`.
`publishRejectDLR` swaps the addresses itself, and `pushDeliverSM` swaps them back: a rejection goes
out from the sender of the message to its recipient.

A payload that no session takes waits in `smpp_pending_dlrs` as JSON, which replaces what is no
UTF-8.
-/

namespace Klsmsc

open Library

def ascii (text : String) : GoString :=
  utf8 text.toList

inductive DLRValue
  | str (text : GoString)
  | other
  deriving DecidableEq, Repr

abbrev DLRPayload := List (String × DLRValue)

/-- `payload[key].(string)`. -/
def DLRPayload.text (payload : DLRPayload) (key : String) : GoString :=
  match payload.lookup key with
  | some (.str text) => text
  | _ => []

/-- The sixteen digits that `generateMessageID` makes of a number. -/
def messageIdText (id : MessageId) : GoString :=
  utf8 ((List.range 16).map fun position => (id / 16 ^ (15 - position) % 16).digitChar)

/-- `truncateForDLR`. -/
def truncateForDLR (s : GoString) (n : ℕ) : GoString :=
  if s.length ≤ n then s else s.take n

/-- The payload of `publishRejectDLR`, at a time in the format of receipts. -/
def publishRejectDLR (job : SubmitJob) (reason : GoString) (now : GoString) : DLRPayload :=
  [("system_id", .str job.systemId),
    ("message_id", .str (messageIdText job.messageId)),
    ("source_addr", .str job.destAddr),
    ("dest_addr", .str job.sourceAddr),
    ("stat", .str (ascii "REJECTD")),
    ("err", .str (ascii "999")),
    ("submit_date", .str now),
    ("done_date", .str now),
    ("text_preview", .str (truncateForDLR reason 20))]

structure QueuedReceipt where
  smppSystemId : String
  messageId : String
  phoneNumber : String
  stat : String
  err : String
  submitDate : String
  doneDate : String
  message : String

/-- The payload of `queue_inbound_dlr` as the consumer reads it. The gateway reports no addresses of
the upstream receipt, so `source_addr` is always empty. -/
def QueuedReceipt.payload (receipt : QueuedReceipt) : DLRPayload :=
  [("system_id", .str (utf8 receipt.smppSystemId.toList)),
    ("message_id", .str (utf8 receipt.messageId.toList)),
    ("source_addr", .str []),
    ("dest_addr", .str (utf8 receipt.phoneNumber.toList)),
    ("stat", .str (utf8 receipt.stat.toList)),
    ("err", .str (utf8 receipt.err.toList)),
    ("submit_date", .str (utf8 receipt.submitDate.toList)),
    ("done_date", .str (utf8 receipt.doneDate.toList)),
    ("text_preview", .str (utf8 (receipt.message.toList.take 20)))]

/-- The parameters that `pushDeliverSM` gives to `buildDeliverSM`. -/
def pushDeliverSM (now : GoString) (payload : DLRPayload) : DeliverSMParams :=
  let src := payload.text "dest_addr"
  let dst := payload.text "source_addr"
  let stat := payload.text "stat"
  let errCode := payload.text "err"
  let msgID := payload.text "message_id"
  let subDate := payload.text "submit_date"
  let doneDate := payload.text "done_date"
  let textPreview := payload.text "text_preview"
  let errCode := if errCode = [] then ascii "000" else errCode
  let subDate := if subDate = [] then now else subDate
  let doneDate := if doneDate = [] then subDate else doneDate
  let dlrText := ascii "id:" ++ msgID ++ ascii " sub:001 dlvrd:001 submit date:" ++ subDate ++
    ascii " done date:" ++ doneDate ++ ascii " stat:" ++ stat ++ ascii " err:" ++ errCode ++
    ascii " text:" ++ textPreview
  { sourceAddr := src
    destAddr := dst
    dataCoding := 0
    esmClass := 0x04
    shortMessage := dlrText }

/-- `json.Unmarshal` of a string. -/
def unmarshalString (text : List Char) : Option GoString :=
  (readJsonString text).map fun points => utf8 (points.map charOrReplacement)

/-- A value after `json.Marshal` and `json.Unmarshal`. -/
def DLRValue.stored : DLRValue → DLRValue
  | .str text => ((unmarshalString (marshalString text)).map DLRValue.str).getD .other
  | .other => .other

/-- The payload that `LoadPendingDLRs` reads where `InsertPendingDLR` has written one. -/
def DLRPayload.stored (payload : DLRPayload) : DLRPayload :=
  payload.map fun entry => (entry.1, entry.2.stored)

/-- What `dispatchDLRPayload` does: the session that gets a `deliver_sm`, with its parameters, and
the payload that waits in `smpp_pending_dlrs`. -/
structure Dispatched where
  pushed : Option (ℕ × DeliverSMParams)
  pending : Option DLRPayload

/-- `dispatchDLRPayload`, with whether the connection of the session takes the `deliver_sm`. -/
def dispatchDLRPayload (binds : Binds) (written : Bool) (now : GoString) (payload : DLRPayload) :
    Dispatched :=
  let systemID := payload.text "system_id"
  if systemID = [] then ⟨none, none⟩
  else
    match binds.receiver systemID with
    | some sess =>
        ⟨some (sess, pushDeliverSM now payload), if written then none else some payload.stored⟩
    | none => ⟨none, some payload.stored⟩

/-- What a payload meets: the sessions when it is dispatched, whether the connection of one takes
it, the time, and the times at which `drainPendingDLRs` sends it while it waits. -/
structure ReceiptFate where
  binds : Binds
  written : Bool
  now : GoString
  drains : List GoString

/-- Every `deliver_sm` that is built for a payload. -/
def ReceiptFate.deliverSMs (fate : ReceiptFate) (payload : DLRPayload) : List DeliverSMParams :=
  let dispatched := dispatchDLRPayload fate.binds fate.written fate.now payload
  (dispatched.pushed.map (·.2)).toList ++
    match dispatched.pending with
    | some payload => fate.drains.map fun now => pushDeliverSM now payload
    | none => []

def ReceiptFate.AtOnce (fate : ReceiptFate) (systemID : GoString) : Prop :=
  systemID ≠ [] ∧ (fate.binds.receiver systemID).isSome

def ReceiptFate.Later (fate : ReceiptFate) (systemID : GoString) : Prop :=
  systemID ≠ [] ∧ (fate.binds.receiver systemID = none ∨ fate.written = false) ∧ fate.drains ≠ []

/-- The `deliver_sm` goes back from the recipient of a message to its sender. -/
def GoesBack (job : SubmitJob) (deliver : DeliverSMParams) : Prop :=
  deliver.sourceAddr = job.destAddr ∧ deliver.destAddr = job.sourceAddr

/-! ### Stored payloads -/

theorem unmarshalString_marshalString (s : GoString) :
    unmarshalString (marshalString s) = some (utf8 (runes s)) := by
  have same : (runes s).map (charOrReplacement ∘ Char.toNat) = runes s := by
    have each : ∀ char ∈ runes s, (charOrReplacement ∘ Char.toNat) char = id char :=
      fun char _ => charOrReplacement_toNat char
    rw [List.map_congr_left each, List.map_id]
  rw [unmarshalString, readJsonString_marshalString, Option.map_some, List.map_map, same]

theorem DLRValue.stored_str (text : GoString) :
    (DLRValue.str text).stored = .str (utf8 (runes text)) := by
  rw [stored, unmarshalString_marshalString]
  rfl

theorem DLRPayload.text_stored (payload : DLRPayload) (key : String) :
    payload.stored.text key = utf8 (runes (payload.text key)) := by
  induction payload with
  | nil => rfl
  | cons entry payload ih =>
      rw [text, text] at ih ⊢
      rw [stored, List.map_cons, List.lookup_cons, List.lookup_cons]
      cases key == entry.1 with
      | false => exact ih
      | true =>
          cases entry.2 with
          | str text => simp only [DLRValue.stored_str]
          | other => rfl

/-! ### The addresses of receipts -/

theorem pushDeliverSM_addresses (now : GoString) (payload : DLRPayload) :
    (pushDeliverSM now payload).sourceAddr = payload.text "dest_addr" ∧
      (pushDeliverSM now payload).destAddr = payload.text "source_addr" :=
  ⟨rfl, rfl⟩

theorem forall_deliverSMs_iff {fate : ReceiptFate} {payload : DLRPayload}
    {property : DeliverSMParams → Prop} :
    (∀ deliver ∈ fate.deliverSMs payload, property deliver) ↔
      (fate.AtOnce (payload.text "system_id") → property (pushDeliverSM fate.now payload)) ∧
        (fate.Later (payload.text "system_id") → ∀ now ∈ fate.drains,
          property (pushDeliverSM now payload.stored)) := by
  rw [ReceiptFate.deliverSMs, dispatchDLRPayload, ReceiptFate.AtOnce, ReceiptFate.Later]
  by_cases named : payload.text "system_id" = []
  · simp [named]
  · rw [if_neg named]
    cases fate.binds.receiver (payload.text "system_id") with
    | none =>
        cases drains : fate.drains <;> simp [named]
    | some sess =>
        cases fate.written <;> cases drains : fate.drains <;> simp [named]

/-- A rejection goes back exactly when the addresses of the message are the same, and, if the
receipt has waited, are a text. -/
theorem rejections_goBack_iff (job : SubmitJob) (reason rejected : GoString) (fate : ReceiptFate) :
    (∀ deliver ∈ fate.deliverSMs (publishRejectDLR job reason rejected), GoesBack job deliver) ↔
      (fate.AtOnce job.systemId → job.sourceAddr = job.destAddr) ∧
        (fate.Later job.systemId →
          job.sourceAddr = job.destAddr ∧ ∃ text, utf8 text = job.sourceAddr) := by
  have system : (publishRejectDLR job reason rejected).text "system_id" = job.systemId := rfl
  have source : (publishRejectDLR job reason rejected).text "source_addr" = job.destAddr := rfl
  have dest : (publishRejectDLR job reason rejected).text "dest_addr" = job.sourceAddr := rfl
  rw [forall_deliverSMs_iff, system]
  refine and_congr (imp_congr_right fun _ => ?_) (imp_congr_right fun later => ?_)
  · rw [GoesBack, (pushDeliverSM_addresses _ _).1, (pushDeliverSM_addresses _ _).2, source, dest]
    exact ⟨And.left, fun same => ⟨same, same.symm⟩⟩
  · simp only [GoesBack, (pushDeliverSM_addresses _ _).1, (pushDeliverSM_addresses _ _).2,
      DLRPayload.text_stored, source, dest]
    constructor
    · intro goesBack
      obtain ⟨now, member⟩ := List.exists_mem_of_ne_nil _ later.2.2
      rcases goesBack now member with ⟨fromSource, fromDest⟩
      have same : job.sourceAddr = job.destAddr := by
        rw [← fromDest, ← fromSource, runes_utf8]
      exact ⟨same, runes job.sourceAddr, fromSource.trans same.symm⟩
    · rintro ⟨same, isText⟩ now _
      have valid := (utf8_runes_eq_iff _).mpr isText
      rw [← same]
      exact ⟨valid, valid⟩

def rejectedJob : SubmitJob where
  accountId := 7
  messageId := 1
  systemId := [0x61]
  sourceAddr := ascii "1069"
  destAddr := ascii "+8613800138000"
  message := ascii "hi"
  ip := []
  registeredDelivery := 1

/-- The rejection of a message from 1069 reaches a client that is online as one from 1069. -/
theorem rejection_goes_on :
    ∃ transitions binds, Run (Binds.Step Binds.oneBind) Binds.initial transitions binds ∧
      ∃ deliver ∈ (ReceiptFate.mk binds true [] []).deliverSMs (publishRejectDLR rejectedJob [] []),
        deliver.sourceAddr = ascii "1069" ∧ deliver.destAddr = ascii "+8613800138000" ∧
          ¬GoesBack rejectedJob deliver := by
  have passed : ((execute (Binds.next Binds.oneBind) Binds.initial
      [.authenticate Binds.transceiver, .count 0, .add 0]).any
        fun outcome : List (Transition Binds BindEvent) × Binds =>
          decide (∃ deliver ∈ (ReceiptFate.mk outcome.2 true [] []).deliverSMs
            (publishRejectDLR rejectedJob [] []),
              deliver.sourceAddr = ascii "1069" ∧
                deliver.destAddr = ascii "+8613800138000")) = true := by
    decide
  rcases Run.exists_of_execute _ passed with ⟨transitions, binds, run, checked⟩
  rcases of_decide_eq_true checked with ⟨deliver, member, source, dest⟩
  refine ⟨transitions, binds, run, deliver, member, source, dest, ?_⟩
  intro goesBack
  exact absurd (source.symm.trans goesBack.1) (by decide)

theorem receipts_from_phoneNumber (receipt : QueuedReceipt) (fate : ReceiptFate) :
    ∀ deliver ∈ fate.deliverSMs receipt.payload,
      deliver.sourceAddr = utf8 receipt.phoneNumber.toList ∧ deliver.destAddr = [] := by
  have source : receipt.payload.text "source_addr" = [] := rfl
  have dest : receipt.payload.text "dest_addr" = utf8 receipt.phoneNumber.toList := rfl
  rw [forall_deliverSMs_iff]
  refine ⟨fun _ => ?_, fun _ now _ => ?_⟩
  · exact pushDeliverSM_addresses _ _
  · rw [(pushDeliverSM_addresses _ _).1, (pushDeliverSM_addresses _ _).2, DLRPayload.text_stored,
      DLRPayload.text_stored, source, dest, runes_utf8]
    exact ⟨rfl, rfl⟩

end Klsmsc
