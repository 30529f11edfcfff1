import Klsmsc.Gateway.SendSms
import Klsmsc.Inbound.Header
import Klsmsc.Sms.Segmentation

/-!
# Headers of outbound segments

A message that does not fit one PDU is sent as segments, each with a header of one octet for the
reference, one for the number of segments and one for the segment's own number. Both numbers are
converted to an octet without a check. Up to 255 segments the headers are what a receiver needs; at
256 the total is 0, and from there on it is never the number of segments again.

Of the configuration there is what decides on the way a message is sent.
-/

namespace Klsmsc

open Library

/-- What `SendSMS` reads from `config_json` to choose an encoding: `latin1_single`,
`gsm7EnabledFromConfigJSON`, and whether `longMessageModeFromConfigJSON` is `udh_segmentation`. -/
structure EncodingSettings where
  latin1Single : Bool
  gsm7Enabled : Bool
  udhSegmentation : Bool
  deriving DecidableEq, Repr

/-- `SM_MSG_LEN`. -/
def smMsgLen : ℕ := 254

/-- `isLatin1`. -/
def isLatin1 (text : List Char) : Bool :=
  text.all fun rune => rune.toNat ≤ 0xFF

/-- A loop that sends segments: the error for a first segment whose data cannot be set, and the
errors of `Submit` for which it gives up the other segments. -/
structure SegmentLoop where
  setError : ErrorText → PrepareError
  closes : ErrorText → Bool

def gsm7Loop : SegmentLoop where
  setError := .gsm7UdhSeg1
  closes errMsg := decide ("clos".toList <:+: errMsg)

def ucs2Loop : SegmentLoop where
  setError := .udhSegment1Set
  closes errMsg := decide ("closing".toList <:+: errMsg ∨ "closed".toList <:+: errMsg)

def ucs2Segments (settings : EncodingSettings) (message : List Char) :
    Option (SegmentLoop × List (List UInt8)) :=
  if (message.flatMap Sms.utf16BigEndian).length ≤ smMsgLen then none
  else if settings.udhSegmentation then some (ucs2Loop, Sms.segmentUCS2Text message 134)
  else none

/-- The segments of a message that `SendSMS` sends with headers, and the loop that sends them;
`none` for a message that goes out in one PDU. -/
def udhSegments (settings : EncodingSettings) (message : List Char) :
    Option (SegmentLoop × List (List UInt8)) :=
  if settings.latin1Single ∧ isLatin1 message ∧ message.length ≤ smMsgLen then none
  else if settings.gsm7Enabled ∧ (Sms.validateGSM7String message).length = 0 then
    if (message.flatMap Sms.runeSeptets).length ≤ 160 then none
    else
      let textSegments := Sms.splitGSM7Text message 153
      if 0 < textSegments.length then
        some (gsm7Loop, textSegments.map (·.flatMap Sms.runeSeptets))
      else ucs2Segments settings message
  else ucs2Segments settings message

/-- `nextConcatRef`, from the counter before. -/
def nextConcatRef (concatRefCounter : UInt32) : UInt8 :=
  (concatRefCounter + 1).toUInt8

/-- A segment that `Submit` has taken, with the octets of its header. -/
structure UdhSegment where
  ref : UInt8
  total : UInt8
  part : UInt8
  data : List UInt8
  deriving DecidableEq, Repr

/-- The `InfoElement` that `SetUDH` gets. -/
def UdhSegment.element (segment : UdhSegment) : InformationElement :=
  ⟨0x00, [segment.ref, segment.total, segment.part], by simp⟩

def UdhSegment.shortMessage (segment : UdhSegment) : List UInt8 :=
  encodeUDH [segment.element] ++ segment.data

/-- `ErrShortMessageLengthTooLarge`. -/
def errShortMessageLengthTooLarge : ErrorText :=
  ("Error happened: [Encoded short message data exceeds size of 254]. " ++
    "SerialVersionUID: [78237205927624]").toList

/-- The loop over the segments from the `i`-th on: the segments that are sent, and what `SendSMS`
returns. What `Submit` returns for each segment is given. -/
def sendSegments (loop : SegmentLoop) (submit : ℕ → Option ErrorText) (ref total : UInt8) :
    ℕ → List (List UInt8) → List UdhSegment × Option ErrorText
  | _, [] => ([], none)
  | i, seg :: segments =>
      let part := UInt8.ofNat (i + 1)
      let (sent, err) := sendSegments loop submit ref total (i + 1) segments
      if smMsgLen < seg.length then
        if i = 0 then ([], some (loop.setError errShortMessageLengthTooLarge).text) else (sent, err)
      else
        match submit i with
        | none => (⟨ref, total, part, seg⟩ :: sent, err)
        | some errMsg =>
            if i = 0 then ([], some (submitError errMsg))
            else if loop.closes errMsg then ([], none)
            else (sent, err)

def sentSegments (loop : SegmentLoop) (submit : ℕ → Option ErrorText) (concatRefCounter : UInt32)
    (segments : List (List UInt8)) : List UdhSegment :=
  (sendSegments loop submit (nextConcatRef concatRefCounter) (UInt8.ofNat segments.length) 0
    segments).1

/-- The headers of the segments that are sent: all have the number of segments as their total and
one reference, the parts are different numbers up to it in ascending order, and they are all of
them if every segment is accepted. -/
structure ValidHeaders (count : ℕ) (submit : ℕ → Option ErrorText) (sent : List UdhSegment) :
    Prop where
  total : ∀ segment ∈ sent, segment.total.toNat = count
  parts : (sent.map (·.part.toNat)).Sublist (List.range' 1 count)
  whole : (∀ i < count, submit i = none) → sent.map (·.part.toNat) = List.range' 1 count
  ref : ∀ segment ∈ sent, ∀ other ∈ sent, segment.ref = other.ref

theorem parseUDH_shortMessage (segment : UdhSegment) :
    parseUDH segment.shortMessage =
      (⟨UInt16.ofNat segment.ref.toNat, segment.total, segment.part, true⟩, segment.data) := by
  have fits : (encodeElements [segment.element]).length ≤ 255 := by
    simp [encodeElements, InformationElement.encode, UdhSegment.element]
  rw [UdhSegment.shortMessage, parseUDH_encodeUDH _ _ fits]
  rfl

variable {loop : SegmentLoop} {submit : ℕ → Option ErrorText} {ref total : UInt8}

theorem header_of_mem_sendSegments {segments : List (List UInt8)} {i : ℕ} {segment : UdhSegment}
    (sent : segment ∈ (sendSegments loop submit ref total i segments).1) :
    segment.ref = ref ∧ segment.total = total := by
  induction segments generalizing i with
  | nil => cases sent
  | cons seg segments ih =>
      rw [sendSegments] at sent
      dsimp only at sent
      split at sent
      · split at sent
        · cases sent
        · exact ih sent
      · split at sent
        · rcases List.mem_cons.mp sent with rfl | later
          · exact ⟨rfl, rfl⟩
          · exact ih later
        · split at sent
          · cases sent
          · split at sent
            · cases sent
            · exact ih sent

theorem parts_sendSegments {segments : List (List UInt8)} {i : ℕ}
    (few : i + segments.length ≤ 255) :
    ((sendSegments loop submit ref total i segments).1.map (·.part.toNat)).Sublist
      (List.range' (i + 1) segments.length) := by
  induction segments generalizing i with
  | nil => exact List.Sublist.refl _
  | cons seg segments ih =>
      rw [List.length_cons] at few
      have later := @ih (i + 1) (by omega)
      rw [List.length_cons, List.range'_succ, sendSegments]
      dsimp only
      have part : (UInt8.ofNat (i + 1)).toNat = i + 1 :=
        UInt8.toNat_ofNat_of_lt' (by change i + 1 < 256; omega)
      split
      · split
        · exact List.nil_sublist _
        · exact later.cons _
      · split
        · rw [List.map_cons, part]
          exact later.cons_cons _
        · split
          · exact List.nil_sublist _
          · split
            · exact List.nil_sublist _
            · exact later.cons _

theorem length_sendSegments {segments : List (List UInt8)} {i : ℕ}
    (short : ∀ seg ∈ segments, seg.length ≤ smMsgLen)
    (accepted : ∀ j < i + segments.length, submit j = none) :
    (sendSegments loop submit ref total i segments).1.length = segments.length := by
  induction segments generalizing i with
  | nil => rfl
  | cons seg segments ih =>
      rw [List.forall_mem_cons] at short
      rw [List.length_cons] at accepted
      have here : submit i = none := accepted i (by omega)
      have later := @ih (i + 1) short.2 fun j before => accepted j (by omega)
      rw [sendSegments]
      simp only [here]
      rw [if_neg (by omega), List.length_cons, List.length_cons, later]

theorem few_of_validHeaders {segments : List (List UInt8)} {concatRefCounter : UInt32}
    (short : ∀ seg ∈ segments, seg.length ≤ smMsgLen) (some : segments ≠ [])
    (valid : ValidHeaders segments.length (fun _ => none)
      (sentSegments loop (fun _ => none) concatRefCounter segments)) :
    segments.length ≤ 255 := by
  have length : (sentSegments loop (fun _ => none) concatRefCounter segments).length =
      segments.length := length_sendSegments short fun _ _ => rfl
  have positive := List.length_pos_iff.mpr some
  rcases List.exists_mem_of_length_pos (length ▸ positive) with ⟨segment, member⟩
  have total := valid.total segment member
  have octet := segment.total.toNat_lt
  omega

theorem validHeaders_of_few {segments : List (List UInt8)} (concatRefCounter : UInt32)
    (short : ∀ seg ∈ segments, seg.length ≤ smMsgLen) (few : segments.length ≤ 255) :
    ValidHeaders segments.length submit (sentSegments loop submit concatRefCounter segments) := by
  have size : (UInt8.ofNat segments.length).toNat = segments.length :=
    UInt8.toNat_ofNat_of_lt' (by change _ < 256; omega)
  have parts : ((sentSegments loop submit concatRefCounter segments).map
      (·.part.toNat)).Sublist (List.range' 1 segments.length) :=
    parts_sendSegments (i := 0) (by omega)
  refine ⟨?_, parts, ?_, ?_⟩
  · intro segment member
    rw [(header_of_mem_sendSegments member).2, size]
  · intro accepted
    have length : (sentSegments loop submit concatRefCounter segments).length =
        segments.length := length_sendSegments short (by simpa using accepted)
    exact parts.eq_of_length (by rw [List.length_map, length, List.length_range'])
  · intro segment member other member'
    rw [(header_of_mem_sendSegments member).1, (header_of_mem_sendSegments member').1]

/-! ### The segments of a message -/

theorem ucs2Segments_spec {settings : EncodingSettings} {message : List Char}
    {segments : List (List UInt8)}
    (several : ucs2Segments settings message = some (loop, segments)) :
    segments ≠ [] ∧ ∀ seg ∈ segments, seg.length ≤ 134 := by
  rw [ucs2Segments] at several
  split at several
  · cases several
  · rename_i long
    split at several <;> cases several
    have segmentation := Sms.segmentation_segmentUCS2Text message (by decide : 4 ≤ 134)
    refine ⟨?_, segmentation.within⟩
    intro none
    have whole := segmentation.flatten
    rw [none] at whole
    rw [← whole] at long
    exact long (Nat.zero_le _)

theorem udhSegments_spec {settings : EncodingSettings} {message : List Char}
    {segments : List (List UInt8)}
    (several : udhSegments settings message = some (loop, segments)) :
    segments ≠ [] ∧ ∀ seg ∈ segments, seg.length ≤ smMsgLen := by
  have ofUcs2 : ucs2Segments settings message = some (loop, segments) →
      segments ≠ [] ∧ ∀ seg ∈ segments, seg.length ≤ smMsgLen := fun several =>
    (ucs2Segments_spec several).imp_right fun short seg member =>
      (short seg member).trans (by decide)
  rw [udhSegments] at several
  split at several
  · cases several
  · split at several
    · rename_i gsm7
      split at several
      · cases several
      · dsimp only at several
        split at several
        · rename_i opened
          cases several
          have known := Sms.validateGSM7String_length_eq_zero_iff.mp gsm7.2
          have bounds := Sms.runeSeptets_bounds known
          have segmentation : Sms.Segmentation Sms.runeSeptets 153 message _ :=
            Sms.segmentation_pack fun rune member =>
              ⟨(bounds rune member).1, (bounds rune member).2.trans (by decide)⟩
          rw [Sms.splitGSM7Text_eq_pack known (by decide)] at opened ⊢
          refine ⟨List.ne_nil_of_length_pos (by rwa [List.length_map]), ?_⟩
          intro seg member
          exact (segmentation.within seg member).trans (by decide)
        · exact ofUcs2 several
    · exact ofUcs2 several

/-- For every message that is sent as segments, the headers are valid whatever becomes of the
segments exactly if these are at most 255. -/
theorem udh_headers_valid_iff {settings : EncodingSettings} {message : List Char}
    {segments : List (List UInt8)} (several : udhSegments settings message = some (loop, segments))
    (concatRefCounter : UInt32) :
    (∀ submit, ValidHeaders segments.length submit
      (sentSegments loop submit concatRefCounter segments)) ↔ segments.length ≤ 255 := by
  rcases udhSegments_spec several with ⟨some, short⟩
  exact ⟨fun valid => few_of_validHeaders short some (valid _),
    fun few _ => validHeaders_of_few concatRefCounter short few⟩

/-! ### Messages of one letter -/

theorem isGsm7_replicate (count : ℕ) : Sms.IsGsm7 (List.replicate count 'a') := by
  intro char member
  rw [List.eq_of_mem_replicate member]
  decide

theorem length_septets_replicate (count : ℕ) :
    ((List.replicate count 'a').flatMap Sms.runeSeptets).length = count := by
  have one : (Sms.runeSeptets 'a').length = 1 := by decide
  rw [List.length_flatMap, List.map_replicate, one, List.sum_replicate]
  simp

theorem udhSegments_replicate {count : ℕ} (long : 160 < count) :
    udhSegments ⟨false, true, false⟩ (List.replicate count 'a') =
      some (gsm7Loop, (Sms.splitGSM7Text (List.replicate count 'a') 153).map
        (·.flatMap Sms.runeSeptets)) := by
  have known := isGsm7_replicate count
  have valid := Sms.validateGSM7String_length_eq_zero_iff.mpr known
  have opened : 0 < (Sms.splitGSM7Text (List.replicate count 'a') 153).length := by
    have some : List.replicate count 'a' ≠ [] := by simp; omega
    rw [Sms.length_splitGSM7Text known some]
    exact List.length_pos_iff.mpr (pack_ne_nil (Sms.septets_fit known) some)
  rw [udhSegments, if_neg (by simp), if_pos ⟨rfl, valid⟩, length_septets_replicate,
    if_neg (by omega), if_pos opened]

/-- 161 letters go out in segments. -/
theorem udh_headers_valid_iff_twoSegments :
    ∃ segments, udhSegments ⟨false, true, false⟩ (List.replicate 161 'a') =
        some (gsm7Loop, segments) ∧
      ((∀ submit, ValidHeaders segments.length submit (sentSegments gsm7Loop submit 0 segments)) ↔
        segments.length ≤ 255) :=
  ⟨_, udhSegments_replicate (by decide),
    udh_headers_valid_iff (udhSegments_replicate (by decide)) 0⟩

/-- 39016 letters are one more than 255 segments hold, and their headers are not valid. -/
theorem udh_headers_wrap :
    ∃ segments, udhSegments ⟨false, true, false⟩ (List.replicate 39016 'a') =
        some (gsm7Loop, segments) ∧ 255 < segments.length ∧
      ¬ValidHeaders segments.length (fun _ => none)
        (sentSegments gsm7Loop (fun _ => none) 0 segments) := by
  have several := udhSegments_replicate (by decide : 160 < 39016)
  rcases udhSegments_spec several with ⟨some, short⟩
  have known := isGsm7_replicate 39016
  have bounds := Sms.runeSeptets_bounds known
  have segmentation : Sms.Segmentation Sms.runeSeptets 153 (List.replicate 39016 'a') _ :=
    Sms.segmentation_pack fun rune member =>
      ⟨(bounds rune member).1, (bounds rune member).2.trans (by decide)⟩
  rw [← Sms.splitGSM7Text_eq_pack known (by decide)] at segmentation
  have held := segmentation.length_le
  rw [length_septets_replicate] at held
  have many : 255 < ((Sms.splitGSM7Text (List.replicate 39016 'a') 153).map
      (·.flatMap Sms.runeSeptets)).length := by
    by_contra few
    have bound := Nat.le_trans held (Nat.mul_le_mul_right 153 (Nat.not_lt.mp few))
    exact absurd bound (by decide)
  exact ⟨_, several, many, fun valid =>
    absurd (few_of_validHeaders short some valid) (Nat.not_le.mpr many)⟩

end Klsmsc
