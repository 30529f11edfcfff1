import Klsmsc.Inbound.Session
import Klsmsc.Library.Cursors

/-!
# Bodies of PDUs

Bodies are sequences of C strings and fixed fields, which the gateway reads with an offset of its
own and writes field after field. Every index and every slice of the parsers is checked. They stay
inside the body whatever the client sends: each string that is read leaves an offset inside the
body, and each fixed field is behind a test of the length. `parseSubmitSM` reads back what
`buildDeliverSM` writes.
-/

namespace Klsmsc

open Library Library.Parse

/-- `bindBody`. -/
structure BindBody where
  systemID : GoString
  password : GoString
  systemType : GoString
  interfaceVersion : UInt8
  addrTon : UInt8
  addrNpi : UInt8
  addressRange : GoString
  deriving DecidableEq, Repr

/-- `submitSMBody`, with the fields that the sessions do not read. -/
structure SubmitSMFields extends SubmitSMBody where
  serviceType : GoString
  sourceAddrTon : UInt8
  sourceAddrNpi : UInt8
  destAddrTon : UInt8
  destAddrNpi : UInt8
  protocolID : UInt8
  priorityFlag : UInt8
  scheduleDelivery : GoString
  validityPeriod : GoString
  replaceIfPresent : UInt8
  smDefaultMsgID : UInt8
  smLength : UInt8

/-- `deliverSMParams`. -/
structure DeliverSMParams where
  sourceAddr : GoString
  destAddr : GoString
  dataCoding : UInt8
  esmClass : UInt8
  shortMessage : List UInt8
  deriving DecidableEq, Repr

/-- `readCString`. -/
def readCString (buf : List UInt8) (idx : ℕ) : Parse String (GoString × ℕ) := do
  let tail ← sliceOf buf idx buf.length
  match tail.idxOf? 0 with
  | none => fails "c-string missing null terminator"
  | some stop => do
      let read ← sliceOf buf idx (idx + stop)
      returns (read, idx + stop + 1)

/-- `writeCString`, as what it writes. -/
def writeCString (s : GoString) : List UInt8 :=
  s ++ [0]

/-- `parseBind`. -/
def parseBind (body : List UInt8) : Parse String BindBody := do
  let (systemID, idx) ← readCString body 0
  let (password, idx) ← readCString body idx
  let (systemType, idx) ← readCString body idx
  failIf (body.length < idx + 3) "bind body truncated at fixed fields"
  let interfaceVersion ← entryAt body idx
  let addrTon ← entryAt body (idx + 1)
  let addrNpi ← entryAt body (idx + 2)
  let (addressRange, _) ←
    (if idx + 3 < body.length then (readCString body (idx + 3)).orDefault ([], idx + 3)
      else returns ([], idx + 3))
  returns ⟨systemID, password, systemType, interfaceVersion, addrTon, addrNpi, addressRange⟩

/-- `binary.BigEndian.Uint16`. -/
def bigEndianUint16 (b : List UInt8) : Parse String UInt16 := do
  let low ← entryAt b 1
  let high ← entryAt b 0
  returns (low.toUInt16 ||| high.toUInt16 <<< 8)

/-- The loop of `parseSubmitSM` over the optional parameters. -/
def tlvLoop (body : List UInt8) (idx : ℕ) (tlvs : AList fun _ : UInt16 => List UInt8) :
    Parse String (AList fun _ : UInt16 => List UInt8) :=
  if idx + 4 ≤ body.length then do
    let tag ← bigEndianUint16 (← sliceOf body idx (idx + 2))
    let ln ← bigEndianUint16 (← sliceOf body (idx + 2) (idx + 4))
    if body.length < idx + 4 + ln.toNat then returns tlvs
    else do
      let value ← sliceOf body (idx + 4) (idx + 4 + ln.toNat)
      tlvLoop body (idx + 4 + ln.toNat) (tlvs.insert tag value)
  else returns tlvs
  termination_by body.length - idx

/-- The short message of `parseSubmitSM` and the offset behind it. -/
def readShortMessage (body : List UInt8) (idx : ℕ) (smLength : UInt8) :
    Parse String (List UInt8 × ℕ) :=
  if 0 < smLength.toNat then do
    failIf (body.length < idx + smLength.toNat) "submit_sm: short_message truncated"
    let shortMessage ← sliceOf body idx (idx + smLength.toNat)
    returns (shortMessage, idx + smLength.toNat)
  else returns ([], idx)

/-- `parseSubmitSM`. -/
def parseSubmitSM (body : List UInt8) : Parse String SubmitSMFields := do
  let (serviceType, idx) ← readCString body 0
  failIf (body.length < idx + 2) "submit_sm: source addr fields truncated"
  let sourceAddrTon ← entryAt body idx
  let sourceAddrNpi ← entryAt body (idx + 1)
  let (sourceAddr, idx) ← readCString body (idx + 2)
  failIf (body.length < idx + 2) "submit_sm: dest addr fields truncated"
  let destAddrTon ← entryAt body idx
  let destAddrNpi ← entryAt body (idx + 1)
  let (destAddr, idx) ← readCString body (idx + 2)
  failIf (body.length < idx + 3) "submit_sm: ESM/protocol/priority truncated"
  let esmClass ← entryAt body idx
  let protocolID ← entryAt body (idx + 1)
  let priorityFlag ← entryAt body (idx + 2)
  let (scheduleDelivery, idx) ← readCString body (idx + 3)
  let (validityPeriod, idx) ← readCString body idx
  failIf (body.length < idx + 5) "submit_sm: registered/replace/coding/smid/smlen truncated"
  let registeredDelivery ← entryAt body idx
  let replaceIfPresent ← entryAt body (idx + 1)
  let dataCoding ← entryAt body (idx + 2)
  let smDefaultMsgID ← entryAt body (idx + 3)
  let smLength ← entryAt body (idx + 4)
  let (shortMessage, idx) ← readShortMessage body (idx + 5) smLength
  let tlvs ← tlvLoop body idx ∅
  returns
    { serviceType, sourceAddrTon, sourceAddrNpi, sourceAddr, destAddrTon, destAddrNpi, destAddr,
      esmClass, protocolID, priorityFlag, scheduleDelivery, validityPeriod, registeredDelivery,
      replaceIfPresent, dataCoding, smDefaultMsgID, smLength, shortMessage, tlvs }

/-- `buildDeliverSM`. -/
def buildDeliverSM (p : DeliverSMParams) : List UInt8 :=
  let shortMessage := if 254 < p.shortMessage.length then p.shortMessage.take 254
    else p.shortMessage
  writeCString [] ++ [0, 0] ++ writeCString p.sourceAddr ++ [0, 0] ++ writeCString p.destAddr ++
    [p.esmClass, 0, 0] ++ writeCString [] ++ writeCString [] ++ [0, 0, p.dataCoding, 0] ++
    [UInt8.ofNat shortMessage.length] ++ shortMessage

/-! ### The parsers stay inside the body -/

theorem readCString_ends {buf : List UInt8} {idx : ℕ} (within : idx ≤ buf.length) :
    (readCString buf idx).Ends fun read => read.2 ≤ buf.length := by
  have remains : Remains buf idx (buf.drop idx ++ []) := ⟨within, (List.append_nil _).symm⟩
  have tail : sliceOf buf idx (idx + (buf.drop idx).length) =
      (returns (buf.drop idx) : Parse String (List UInt8)) := remains.sliceOf
  rw [List.length_drop, Nat.add_sub_cancel' within] at tail
  rw [readCString, tail, returns_bind]
  cases found : (buf.drop idx).idxOf? 0 with
  | none => trivial
  | some stop =>
      have inside : stop < buf.length - idx := by
        rw [← List.length_drop]
        exact (List.idxOf?_eq_some_iff.mp found).1
      refine (sliceOf_ends (Nat.le_add_right _ _) (by omega)).bind ?_
      intro read _
      change idx + stop + 1 ≤ buf.length
      omega

theorem parseBind_ends (body : List UInt8) : (parseBind body).Ends fun _ => True := by
  refine (readCString_ends (Nat.zero_le _)).bind ?_
  rintro ⟨systemID, idx⟩ within
  refine (readCString_ends within).bind ?_
  rintro ⟨password, idx⟩ within
  refine (readCString_ends within).bind ?_
  rintro ⟨systemType, idx⟩ within
  refine failIf_ends.bind ?_
  intro _ room
  refine (entryAt_ends (by omega)).bind ?_
  intro interfaceVersion _
  refine (entryAt_ends (by omega)).bind ?_
  intro addrTon _
  refine (entryAt_ends (by omega)).bind ?_
  intro addrNpi _
  have range : (if idx + 3 < body.length then
      (readCString body (idx + 3)).orDefault ([], idx + 3) else returns ([], idx + 3)).Ends
      fun read => read.2 ≤ body.length := by
    split
    · exact (readCString_ends (by omega)).orDefault (by omega)
    · exact (by omega : idx + 3 ≤ body.length)
  exact range.bind fun _ _ => trivial

theorem bigEndianUint16_ends {b : List UInt8} (two : b.length = 2) :
    (bigEndianUint16 b).Ends fun _ => True := by
  refine (entryAt_ends (by omega)).bind ?_
  intro low _
  refine (entryAt_ends (by omega)).bind ?_
  intro high _
  trivial

theorem tlvLoop_ends {body : List UInt8} (idx : ℕ)
    (tlvs : AList fun _ : UInt16 => List UInt8) : (tlvLoop body idx tlvs).Ends fun _ => True := by
  induction size : body.length - idx using Nat.strongRecOn generalizing idx tlvs with
  | _ size ih =>
      rw [tlvLoop]
      by_cases more : idx + 4 ≤ body.length
      · rw [if_pos more]
        refine (sliceOf_ends (by omega) (by omega)).bind ?_
        intro tagOctets two
        refine (bigEndianUint16_ends (by omega)).bind ?_
        intro tag _
        refine (sliceOf_ends (by omega) (by omega)).bind ?_
        intro lengthOctets two
        refine (bigEndianUint16_ends (by omega)).bind ?_
        intro ln _
        by_cases beyond : body.length < idx + 4 + ln.toNat
        · rw [if_pos beyond]
          trivial
        · rw [if_neg beyond]
          refine (sliceOf_ends (by omega) (by omega)).bind ?_
          intro value _
          exact ih _ (by omega) _ _ rfl
      · rw [if_neg more]
        trivial

theorem readShortMessage_ends {body : List UInt8} {idx : ℕ} (smLength : UInt8) :
    (readShortMessage body idx smLength).Ends fun _ => True := by
  rw [readShortMessage]
  split
  · refine failIf_ends.bind ?_
    intro _ room
    refine (sliceOf_ends (by omega) (by omega)).bind ?_
    intro shortMessage _
    trivial
  · trivial

theorem parseSubmitSM_ends (body : List UInt8) : (parseSubmitSM body).Ends fun _ => True := by
  refine (readCString_ends (Nat.zero_le _)).bind ?_
  rintro ⟨serviceType, idx⟩ within
  refine failIf_ends.bind ?_
  intro _ room
  refine (entryAt_ends (by omega)).bind ?_
  intro sourceAddrTon _
  refine (entryAt_ends (by omega)).bind ?_
  intro sourceAddrNpi _
  refine (readCString_ends (by omega)).bind ?_
  rintro ⟨sourceAddr, idx⟩ within
  refine failIf_ends.bind ?_
  intro _ room
  refine (entryAt_ends (by omega)).bind ?_
  intro destAddrTon _
  refine (entryAt_ends (by omega)).bind ?_
  intro destAddrNpi _
  refine (readCString_ends (by omega)).bind ?_
  rintro ⟨destAddr, idx⟩ within
  refine failIf_ends.bind ?_
  intro _ room
  refine (entryAt_ends (by omega)).bind ?_
  intro esmClass _
  refine (entryAt_ends (by omega)).bind ?_
  intro protocolID _
  refine (entryAt_ends (by omega)).bind ?_
  intro priorityFlag _
  refine (readCString_ends (by omega)).bind ?_
  rintro ⟨scheduleDelivery, idx⟩ within
  refine (readCString_ends within).bind ?_
  rintro ⟨validityPeriod, idx⟩ within
  refine failIf_ends.bind ?_
  intro _ room
  refine (entryAt_ends (by omega)).bind ?_
  intro registeredDelivery _
  refine (entryAt_ends (by omega)).bind ?_
  intro replaceIfPresent _
  refine (entryAt_ends (by omega)).bind ?_
  intro dataCoding _
  refine (entryAt_ends (by omega)).bind ?_
  intro smDefaultMsgID _
  refine (entryAt_ends (by omega)).bind ?_
  intro smLength _
  refine (readShortMessage_ends smLength).bind ?_
  rintro ⟨shortMessage, idx⟩ _
  exact (tlvLoop_ends idx ∅).bind fun _ _ => trivial

/-! ### Reading back what is written -/

theorem readCString_written {buf rest : List UInt8} {idx : ℕ} {s : GoString}
    (remains : Remains buf idx (writeCString s ++ rest)) (free : 0 ∉ s) :
    readCString buf idx = returns (s, idx + s.length + 1) := by
  have whole : Remains buf idx ((writeCString s ++ rest) ++ []) := by rwa [List.append_nil]
  have tail : sliceOf buf idx (idx + (writeCString s ++ rest).length) =
      (returns (writeCString s ++ rest) : Parse String (List UInt8)) := whole.sliceOf
  have written : writeCString s ++ rest = s ++ 0 :: rest := List.append_assoc s [0] rest
  rw [remains.length] at tail
  rw [written] at remains tail
  have found : (s ++ 0 :: rest).idxOf? 0 = some s.length := by
    rw [List.idxOf?_eq_some_iff]
    refine ⟨by simp, by simp, ?_⟩
    intro j before
    rw [List.getElem_append_left before]
    exact fun zero => free (zero ▸ List.getElem_mem before)
  rw [readCString, tail, returns_bind, found]
  simp only [remains.sliceOf, returns_bind]

theorem Library.Remains.afterCString {buf rest : List UInt8} {idx : ℕ} {s : GoString}
    (remains : Remains buf idx (writeCString s ++ rest)) :
    Remains buf (idx + s.length + 1) rest := by
  have next := remains.advance
  rwa [writeCString, List.length_append, List.length_singleton] at next

theorem readShortMessage_written {body rest sm : List UInt8} {idx : ℕ}
    (remains : Remains body idx (sm ++ rest)) (short : sm.length < 256) :
    readShortMessage body idx (UInt8.ofNat sm.length) = returns (sm, idx + sm.length) := by
  have size : (UInt8.ofNat sm.length).toNat = sm.length := UInt8.toNat_ofNat_of_lt' short
  have within := remains.advance.within
  rw [readShortMessage, size]
  split
  · rw [failIf_neg _ (by omega), returns_bind, remains.sliceOf, returns_bind]
  · rename_i empty
    have none : sm = [] := List.length_eq_zero_iff.mp (by omega)
    rw [none]
    rfl

theorem tlvLoop_nothing {body : List UInt8} {idx : ℕ} (remains : Remains body idx [])
    (tlvs : AList fun _ : UInt16 => List UInt8) : tlvLoop body idx tlvs = returns tlvs := by
  have length := remains.length
  rw [List.length_nil] at length
  rw [tlvLoop, if_neg (by omega)]

theorem ite_take_eq (sm : List UInt8) :
    (if 254 < sm.length then sm.take 254 else sm) = sm.take 254 := by
  split
  · rfl
  · rw [List.take_of_length_le (by omega)]

theorem parseSubmitSM_buildDeliverSM (p : DeliverSMParams) (source : 0 ∉ p.sourceAddr)
    (destination : 0 ∉ p.destAddr) :
    parseSubmitSM (buildDeliverSM p) = returns
      { serviceType := [], sourceAddrTon := 0, sourceAddrNpi := 0, sourceAddr := p.sourceAddr,
        destAddrTon := 0, destAddrNpi := 0, destAddr := p.destAddr, esmClass := p.esmClass,
        protocolID := 0, priorityFlag := 0, scheduleDelivery := [], validityPeriod := [],
        registeredDelivery := 0, replaceIfPresent := 0, dataCoding := p.dataCoding,
        smDefaultMsgID := 0, smLength := UInt8.ofNat (p.shortMessage.take 254).length,
        shortMessage := p.shortMessage.take 254, tlvs := ∅ } := by
  have layout : buildDeliverSM p =
      writeCString [] ++ 0 :: 0 :: (writeCString p.sourceAddr ++ 0 :: 0 ::
        (writeCString p.destAddr ++ p.esmClass :: 0 :: 0 :: (writeCString [] ++ (writeCString [] ++
          0 :: 0 :: p.dataCoding :: 0 :: UInt8.ofNat (p.shortMessage.take 254).length ::
            (p.shortMessage.take 254 ++ []))))) := by
    simp only [buildDeliverSM, ite_take_eq, List.append_assoc, List.cons_append, List.nil_append,
      List.append_nil]
  have short : (p.shortMessage.take 254).length < 256 := by
    rw [List.length_take]
    omega
  generalize buildDeliverSM p = body at layout
  generalize p.shortMessage.take 254 = sm at layout short
  have serviceType := Remains.start body
  nth_rewrite 2 [layout] at serviceType
  have sourceTon := serviceType.afterCString
  have sourceAddr := sourceTon.next.next
  have destTon := sourceAddr.afterCString
  have destAddr := destTon.next.next
  have esm := destAddr.afterCString
  have schedule := esm.next.next.next
  have validity := schedule.afterCString
  have registered := validity.afterCString
  have message := registered.next.next.next.next.next
  have sourceRoom := sourceAddr.within
  have destRoom := destAddr.within
  have scheduleRoom := schedule.within
  have messageRoom := message.within
  rw [parseSubmitSM, readCString_written serviceType (by simp), returns_bind]
  dsimp only
  rw [failIf_neg _ (by omega), returns_bind, sourceTon.entryAt, returns_bind,
    sourceTon.next.entryAt, returns_bind, readCString_written sourceAddr source, returns_bind]
  dsimp only
  rw [failIf_neg _ (by omega), returns_bind, destTon.entryAt, returns_bind,
    destTon.next.entryAt, returns_bind, readCString_written destAddr destination, returns_bind]
  dsimp only
  rw [failIf_neg _ (by omega), returns_bind, esm.entryAt, returns_bind, esm.next.entryAt,
    returns_bind, esm.next.next.entryAt, returns_bind, readCString_written schedule (by simp),
    returns_bind]
  dsimp only
  rw [readCString_written validity (by simp), returns_bind]
  dsimp only
  rw [failIf_neg _ (by omega), returns_bind, registered.entryAt, returns_bind,
    registered.next.entryAt, returns_bind, registered.next.next.entryAt, returns_bind,
    registered.next.next.next.entryAt, returns_bind, registered.next.next.next.next.entryAt,
    returns_bind, readShortMessage_written message short, returns_bind]
  dsimp only
  rw [tlvLoop_nothing message.advance, returns_bind]

/-- The parsers of requests return a PDU or an error and never read outside the body, and
`parseSubmitSM` reads back what `buildDeliverSM` writes, with the short message cut at 254
octets. -/
theorem parse_inverts_building :
    (∀ body, (∃ bind, parseBind body = returns bind) ∨ ∃ error, parseBind body = fails error) ∧
    (∀ body, (∃ submit, parseSubmitSM body = returns submit) ∨
      ∃ error, parseSubmitSM body = fails error) ∧
    ∀ p : DeliverSMParams, 0 ∉ p.sourceAddr → 0 ∉ p.destAddr →
      ∃ submit, parseSubmitSM (buildDeliverSM p) = returns submit ∧
        submit.sourceAddr = p.sourceAddr ∧ submit.destAddr = p.destAddr ∧
        submit.esmClass = p.esmClass ∧ submit.dataCoding = p.dataCoding ∧
        submit.shortMessage = p.shortMessage.take 254 := by
  refine ⟨?_, ?_, ?_⟩
  · intro body
    exact (parseBind_ends body).returns_or_fails.imp_left fun ⟨bind, parsed, _⟩ => ⟨bind, parsed⟩
  · intro body
    exact (parseSubmitSM_ends body).returns_or_fails.imp_left
      fun ⟨submit, parsed, _⟩ => ⟨submit, parsed⟩
  · intro p source destination
    exact ⟨_, parseSubmitSM_buildDeliverSM p source destination, rfl, rfl, rfl, rfl, rfl⟩

/-- A receipt for a client. -/
theorem parse_inverts_building_receipt :
    ∃ submit, parseSubmitSM (buildDeliverSM ⟨[0x31, 0x30], [0x39], 0x08, 0x04, [0x00, 0x41]⟩) =
        returns submit ∧
      submit.sourceAddr = [0x31, 0x30] ∧ submit.destAddr = [0x39] ∧ submit.esmClass = 0x04 ∧
      submit.dataCoding = 0x08 ∧ submit.shortMessage = [0x00, 0x41] :=
  parse_inverts_building.2.2 ⟨[0x31, 0x30], [0x39], 0x08, 0x04, [0x00, 0x41]⟩ (by decide)
    (by decide)

end Klsmsc
