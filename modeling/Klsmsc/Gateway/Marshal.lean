import Klsmsc.Gateway.Delivery
import Klsmsc.Library.Doubles

/-!
# Payloads that are published again

`republishSmppPayloads` writes the payloads as an array of objects, without the fields that
`omitempty` leaves out, and the consumer reads them back as maps, in which every number is a double.
What is modelled is the value that `json.Unmarshal` reads from what `json.Marshal` has written.
Texts are valid, as all texts are that `json.Unmarshal` has made.
-/

namespace Klsmsc

open Library

namespace Json

def ofInt (number : ℤ) : Json := .num (toDouble number : ℚ)

/-- A text under a name, which `omitempty` leaves out when it is empty. -/
def optionalText (name text : String) : List (String × Json) :=
  if text = "" then [] else [(name, .str text)]

/-- An integer under a name, which `omitempty` leaves out when it is zero. -/
def optionalInt (name : String) (number : ℤ) : List (String × Json) :=
  if number = 0 then [] else [(name, ofInt number)]

end Json

namespace SendPayload

/-- The fields of `SMSLogData` by their tags. -/
def fields (payload : SendPayload) : List (String × Json) :=
  [("log_id", Json.ofInt payload.logId), ("message_id", .str payload.messageId),
    ("phone_number", .str payload.phoneNumber), ("message", .str payload.message),
    ("channel_id", Json.ofInt payload.channelId), ("batch_status", .str payload.batchStatus),
    ("record_status", .str payload.recordStatus), ("batch_id", Json.ofInt payload.batchId)] ++
    Json.optionalText "sender_id" payload.senderId ++
    Json.optionalInt "throttle_retry" payload.throttleRetry

/-- `json.Marshal` of payloads, as it is read back. -/
def marshal (payloads : List SendPayload) : Json :=
  .arr (payloads.map fun payload => .obj payload.fields)

def reread (payload : SendPayload) : SendPayload :=
  { payload with
    logId := toDouble payload.logId
    channelId := toDouble payload.channelId
    batchId := toDouble payload.batchId
    throttleRetry := toDouble payload.throttleRetry }

structure Exact (payload : SendPayload) : Prop where
  logId : payload.logId.natAbs ≤ 2 ^ 53
  channelId : payload.channelId.natAbs ≤ 2 ^ 53
  batchId : payload.batchId.natAbs ≤ 2 ^ 53
  throttleRetry : payload.throttleRetry.natAbs ≤ 2 ^ 53

variable {payload : SendPayload}

theorem Exact.reread_eq (exact : payload.Exact) : payload.reread = payload := by
  simp only [reread, toDouble_of_natAbs_le exact.logId, toDouble_of_natAbs_le exact.channelId,
    toDouble_of_natAbs_le exact.batchId, toDouble_of_natAbs_le exact.throttleRetry]

end SendPayload

@[simp]
theorem Json.toInt_ofInt (number : ℤ) : (Json.ofInt number).toInt = some (toDouble number) := by
  simp [Json.ofInt, Json.toInt]

theorem parseSMSLogData_fields (payload : SendPayload) :
    parseSMSLogData payload.fields = some payload.reread := by
  by_cases sender : payload.senderId = "" <;> by_cases first : payload.throttleRetry = 0 <;>
    simp [parseSMSLogData, SendPayload.fields, SendPayload.reread, Json.optionalText,
      Json.optionalInt, Json.text, Json.int, Json.field, sender, first, List.lookup_cons]

theorem smsPayloadsFromFirstTaskArg_marshal (payloads : List SendPayload) :
    smsPayloadsFromFirstTaskArg (SendPayload.marshal payloads) =
      some (payloads.map SendPayload.reread) := by
  simp only [SendPayload.marshal, smsPayloadsFromFirstTaskArg]
  induction payloads with
  | nil => rfl
  | cons payload payloads ih =>
      rw [List.map_cons, List.mapM_cons, ih]
      simp [parseSMSLogData_fields]

theorem extractSmsPayloads_marshal {payloads : List SendPayload} (nonempty : payloads ≠ []) :
    extractSmsPayloads (some (SendPayload.marshal payloads)) =
      some (payloads.map SendPayload.reread) := by
  obtain ⟨payload, rest, rfl⟩ := List.exists_cons_of_ne_nil nonempty
  have stripped : stripCeleryEnvelope (some (SendPayload.marshal (payload :: rest))) =
      some (SendPayload.marshal (payload :: rest)) := rfl
  rw [extractSmsPayloads, stripped, Option.bind_some, smsPayloadsFromFirstTaskArg_marshal]

end Klsmsc
