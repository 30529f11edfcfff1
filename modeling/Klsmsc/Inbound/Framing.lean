import Klsmsc.Inbound.Pdu
import Klsmsc.Library.Streams

/-!
# Framing of PDUs

A PDU starts with four words of big-endian octets: its length, its command, its status and its
number. `readPDU` reads the header, checks the length against its bounds and reads the body. Of a
connection that carries PDUs one after the other it gives back these PDUs, whatever the pieces in
which the octets arrive, and what it accepts is what `writePDU` would have written.
-/

namespace Klsmsc

open Library

/-- `pduHeaderLen`. -/
def pduHeaderLen : ℕ := 16

/-- `maxPDULen`. -/
def maxPDULen : ℕ := 65536

/-- `pduHeader`. -/
structure PduHeader where
  commandLength : UInt32
  commandID : UInt32
  commandStatus : UInt32
  sequenceNumber : UInt32
  deriving DecidableEq, Repr

/-- `binary.BigEndian.Uint32`. -/
def bigEndianUint32 (b : List UInt8) : UInt32 :=
  UInt32.ofNat (b.foldl (fun word octet => 256 * word + octet.toNat) 0)

/-- `binary.BigEndian.PutUint32`. -/
def putUint32 (v : UInt32) : List UInt8 :=
  [UInt8.ofNat (v.toNat / 2 ^ 24), UInt8.ofNat (v.toNat / 2 ^ 16), UInt8.ofNat (v.toNat / 2 ^ 8),
    UInt8.ofNat v.toNat]

/-- The errors of `readPDU`. -/
inductive PduError
  | read (error : ReadError)
  | invalidCommandLength (commandLength : UInt32)
  deriving DecidableEq, Repr

def headerOf (hdr : List UInt8) : PduHeader where
  commandLength := bigEndianUint32 (hdr.take 4)
  commandID := bigEndianUint32 ((hdr.drop 4).take 4)
  commandStatus := bigEndianUint32 ((hdr.drop 8).take 4)
  sequenceNumber := bigEndianUint32 ((hdr.drop 12).take 4)

/-- `readPDU`, with the pieces that are left of the connection. -/
def readPDU (r : List (List UInt8)) :
    Except PduError (PduHeader × List UInt8) × List (List UInt8) :=
  match readFull pduHeaderLen r with
  | (.error error, r) => (.error (.read error), r)
  | (.ok hdr, r) =>
      let h := headerOf hdr
      if h.commandLength.toNat < pduHeaderLen ∨ maxPDULen < h.commandLength.toNat then
        (.error (.invalidCommandLength h.commandLength), r)
      else
        let bodyLen := h.commandLength.toNat - pduHeaderLen
        if 0 < bodyLen then
          match readFull bodyLen r with
          | (.error error, r) => (.error (.read error), r)
          | (.ok body, r) => (.ok (h, body), r)
        else (.ok (h, []), r)

/-- `writePDU`, as what it writes. -/
def writePDU (cmdID status seq : UInt32) (body : List UInt8) : List UInt8 :=
  putUint32 (UInt32.ofNat (pduHeaderLen + body.length)) ++ putUint32 cmdID ++ putUint32 status ++
    putUint32 seq ++ body

/-- Read PDUs until one cannot be read, with the error that ends it; `fuel` bounds their number. -/
def readPDUs : ℕ → List (List UInt8) → List (PduHeader × List UInt8) × Option PduError
  | 0, _ => ([], none)
  | fuel + 1, r =>
      match readPDU r with
      | (.error error, _) => ([], some error)
      | (.ok pdu, r) =>
          let (pdus, error) := readPDUs fuel r
          (pdu :: pdus, error)

/-- What `writePDU` writes for a PDU that was read. -/
def rewritten (pdu : PduHeader × List UInt8) : List UInt8 :=
  writePDU pdu.1.commandID pdu.1.commandStatus pdu.1.sequenceNumber pdu.2

def WellFormed (pdu : PduHeader × List UInt8) : Prop :=
  pdu.1.commandLength.toNat = pduHeaderLen + pdu.2.length ∧
    pduHeaderLen + pdu.2.length ≤ maxPDULen

/-! ### Words -/

@[simp]
theorem length_putUint32 (v : UInt32) : (putUint32 v).length = 4 := rfl

theorem bigEndianUint32_putUint32 (v : UInt32) : bigEndianUint32 (putUint32 v) = v := by
  have small := v.toNat_lt
  apply UInt32.toNat_inj.mp
  simp only [bigEndianUint32, putUint32, List.foldl_cons, List.foldl_nil, UInt32.toNat_ofNat',
    UInt8.toNat_ofNat']
  omega

theorem putUint32_bigEndianUint32 {b : List UInt8} (four : b.length = 4) :
    putUint32 (bigEndianUint32 b) = b := by
  match b, four with
  | [first, second, third, fourth], _ =>
      have one := first.toNat_lt
      have two := second.toNat_lt
      have three := third.toNat_lt
      have four := fourth.toNat_lt
      have word : (bigEndianUint32 [first, second, third, fourth]).toNat =
          256 * (256 * (256 * first.toNat + second.toNat) + third.toNat) + fourth.toNat := by
        simp only [bigEndianUint32, List.foldl_cons, List.foldl_nil, UInt32.toNat_ofNat']
        omega
      simp only [putUint32, word, List.cons.injEq, and_true, ← UInt8.toNat_inj,
        UInt8.toNat_ofNat']
      refine ⟨?_, ?_, ?_, ?_⟩ <;> omega

/-! ### One PDU -/

def headerOctets (h : PduHeader) : List UInt8 :=
  putUint32 h.commandLength ++ putUint32 h.commandID ++ putUint32 h.commandStatus ++
    putUint32 h.sequenceNumber

@[simp]
theorem length_headerOctets (h : PduHeader) : (headerOctets h).length = pduHeaderLen := rfl

theorem headerOf_headerOctets (h : PduHeader) : headerOf (headerOctets h) = h := by
  change PduHeader.mk (bigEndianUint32 (putUint32 h.commandLength))
    (bigEndianUint32 (putUint32 h.commandID)) (bigEndianUint32 (putUint32 h.commandStatus))
    (bigEndianUint32 (putUint32 h.sequenceNumber)) = h
  simp only [bigEndianUint32_putUint32]

theorem headerOctets_headerOf {hdr : List UInt8} (full : hdr.length = pduHeaderLen) :
    headerOctets (headerOf hdr) = hdr := by
  have word (start : ℕ) (inside : start + 4 ≤ pduHeaderLen) :
      putUint32 (bigEndianUint32 ((hdr.drop start).take 4)) = (hdr.drop start).take 4 := by
    apply putUint32_bigEndianUint32
    simp only [List.length_take, List.length_drop]
    omega
  have joined (start : ℕ) : (hdr.drop start).take 4 ++ hdr.drop (start + 4) = hdr.drop start := by
    rw [← List.drop_drop, List.take_append_drop]
  have last : (hdr.drop 12).take 4 = hdr.drop 12 :=
    List.take_of_length_le (by simp [full, pduHeaderLen])
  calc headerOctets (headerOf hdr)
      = (hdr.drop 0).take 4 ++ (hdr.drop 4).take 4 ++ (hdr.drop 8).take 4 ++
          (hdr.drop 12).take 4 := by
        simp only [headerOctets, headerOf, word 4 (by decide), word 8 (by decide),
          word 12 (by decide)]
        rw [← word 0 (by decide), List.drop_zero]
    _ = hdr.drop 0 := by
        rw [last]
        simp only [List.append_assoc, joined 8, joined 4, joined 0]
    _ = hdr := List.drop_zero

theorem rewritten_eq {pdu : PduHeader × List UInt8} (wellFormed : WellFormed pdu) :
    rewritten pdu = headerOctets pdu.1 ++ pdu.2 := by
  have length : UInt32.ofNat (pduHeaderLen + pdu.2.length) = pdu.1.commandLength := by
    rw [← wellFormed.1, UInt32.ofNat_toNat]
  simp only [rewritten, writePDU, headerOctets, length]

theorem readPDU_of_rewritten {pdu : PduHeader × List UInt8} {r : List (List UInt8)}
    {tail : List UInt8} (wellFormed : WellFormed pdu)
    (arrives : r.flatten = rewritten pdu ++ tail) :
    ∃ rest, readPDU r = (.ok pdu, rest) ∧ rest.flatten = tail := by
  rcases pdu with ⟨h, body⟩
  rw [rewritten_eq wellFormed, List.append_assoc] at arrives
  rcases wellFormed with ⟨length, short⟩
  dsimp only at arrives length short
  have enough : pduHeaderLen ≤ r.flatten.length := by simp [arrives]
  rcases readFull_of_le enough with ⟨behind, read, left⟩
  rw [arrives, List.take_left' (length_headerOctets h)] at read
  rw [arrives, List.drop_left' (length_headerOctets h)] at left
  have inBounds : ¬(h.commandLength.toNat < pduHeaderLen ∨ maxPDULen < h.commandLength.toNat) := by
    omega
  have bodyLen : h.commandLength.toNat - pduHeaderLen = body.length := by omega
  simp only [readPDU, read, headerOf_headerOctets, if_neg inBounds, bodyLen]
  split
  · rename_i some
    have whole : body.length ≤ behind.flatten.length := by simp [left]
    rcases readFull_of_le whole with ⟨rest, readBody, leftBody⟩
    rw [left, List.take_left' rfl] at readBody
    rw [left, List.drop_left' rfl] at leftBody
    exact ⟨rest, by rw [readBody], leftBody⟩
  · rename_i none
    have empty : body = [] := by simpa using none
    subst empty
    exact ⟨behind, rfl, left⟩

theorem readPDU_ok {r rest : List (List UInt8)} {pdu : PduHeader × List UInt8}
    (ok : readPDU r = (.ok pdu, rest)) :
    WellFormed pdu ∧ r.flatten = rewritten pdu ++ rest.flatten := by
  have accepted : WellFormed pdu ∧ r.flatten = headerOctets pdu.1 ++ pdu.2 ++ rest.flatten := by
    rw [readPDU] at ok
    rcases header : readFull pduHeaderLen r with ⟨_ | hdr, behind⟩
    · rw [header] at ok
      cases ok
    · rcases readFull_ok header with ⟨full, arrives⟩
      rw [header] at ok
      dsimp only at ok
      split at ok
      · cases ok
      · rename_i inBounds
        split at ok
        · rename_i some
          rcases bodyRead : readFull ((headerOf hdr).commandLength.toNat - pduHeaderLen) behind with
            ⟨_ | body, after⟩
          · rw [bodyRead] at ok
            cases ok
          · rcases readFull_ok bodyRead with ⟨size, arrivesBody⟩
            rw [bodyRead] at ok
            cases ok
            refine ⟨⟨?_, ?_⟩, ?_⟩
            · dsimp only
              omega
            · dsimp only
              omega
            · rw [headerOctets_headerOf full, arrives, arrivesBody, List.append_assoc]
        · rename_i none
          cases ok
          refine ⟨⟨?_, ?_⟩, ?_⟩
          · simp only [List.length_nil]
            omega
          · simp only [List.length_nil, maxPDULen, pduHeaderLen]
            omega
          · rw [headerOctets_headerOf full, arrives, List.append_nil]
  rw [rewritten_eq accepted.1]
  exact accepted

theorem readPDU_nothing {r : List (List UInt8)} (nothing : r.flatten = []) :
    (readPDU r).1 = .error (.read .eof) := by
  have failed : (readFull pduHeaderLen r).1 = .error .eof := by
    rw [readFull_of_lt (by simp [nothing, pduHeaderLen]), if_pos nothing]
  rw [readPDU]
  rcases read : readFull pduHeaderLen r with ⟨error | hdr, behind⟩
  · rw [read] at failed
    cases failed
    rfl
  · rw [read] at failed
    cases failed

/-! ### All PDUs of a connection -/

theorem length_rewritten (pdu : PduHeader × List UInt8) :
    (rewritten pdu).length = pduHeaderLen + pdu.2.length := by
  simp only [rewritten, writePDU, List.length_append, length_putUint32, pduHeaderLen]

theorem readPDUs_of_rewritten {pdus : List (PduHeader × List UInt8)}
    (wellFormed : ∀ pdu ∈ pdus, WellFormed pdu) {fuel : ℕ} {r : List (List UInt8)}
    (arrives : r.flatten = (pdus.map rewritten).flatten) (enough : r.flatten.length < fuel) :
    readPDUs fuel r = (pdus, some (.read .eof)) := by
  induction pdus generalizing fuel r with
  | nil =>
      rcases fuel with _ | fuel
      · omega
      · have ended := readPDU_nothing arrives
        rcases read : readPDU r with ⟨error | pdu, rest⟩
        · rw [read] at ended
          cases ended
          simp only [readPDUs, read]
        · rw [read] at ended
          cases ended
  | cons pdu pdus ih =>
      rw [List.forall_mem_cons] at wellFormed
      rw [List.map_cons, List.flatten_cons] at arrives
      rcases fuel with _ | fuel
      · omega
      · rcases readPDU_of_rewritten wellFormed.1 arrives with ⟨rest, read, left⟩
        have shorter : rest.flatten.length < fuel := by
          have size := length_rewritten pdu
          rw [arrives, List.length_append, size] at enough
          rw [left]
          simp only [pduHeaderLen] at enough
          omega
        simp only [readPDUs, read, ih wellFormed.2 left shorter]

theorem readPDUs_spec {fuel : ℕ} {r : List (List UInt8)} (enough : r.flatten.length < fuel) :
    ∃ error left, (readPDUs fuel r).2 = some error ∧
      (∀ pdu ∈ (readPDUs fuel r).1, WellFormed pdu) ∧
      r.flatten = ((readPDUs fuel r).1.map rewritten).flatten ++ left := by
  induction fuel generalizing r with
  | zero => omega
  | succ fuel ih =>
      rcases read : readPDU r with ⟨error | pdu, rest⟩
      · simp only [readPDUs, read]
        exact ⟨error, r.flatten, rfl, by simp, by simp⟩
      · rcases readPDU_ok read with ⟨wellFormed, arrives⟩
        have shorter : rest.flatten.length < fuel := by
          rw [arrives, List.length_append, length_rewritten] at enough
          simp only [pduHeaderLen] at enough
          omega
        rcases ih shorter with ⟨error, left, ends, others, arrivesRest⟩
        simp only [readPDUs, read]
        refine ⟨error, left, ends, ?_, ?_⟩
        · rw [List.forall_mem_cons]
          exact ⟨wellFormed, others⟩
        · rw [arrives, List.map_cons, List.flatten_cons, List.append_assoc, ← arrivesRest]

/-- A connection that carries PDUs gives them back one by one and ends, whatever the pieces in which
their octets arrive; and of any octets the PDUs that are read are well formed and are those that the
octets begin with. -/
theorem framing (r : List (List UInt8)) :
    (∀ pdus, (∀ pdu ∈ pdus, WellFormed pdu) → r.flatten = (pdus.map rewritten).flatten →
      readPDUs (r.flatten.length + 1) r = (pdus, some (.read .eof))) ∧
    ∃ error left, (readPDUs (r.flatten.length + 1) r).2 = some error ∧
      (∀ pdu ∈ (readPDUs (r.flatten.length + 1) r).1, WellFormed pdu) ∧
      r.flatten = ((readPDUs (r.flatten.length + 1) r).1.map rewritten).flatten ++ left := by
  constructor
  · intro pdus wellFormed arrives
    exact readPDUs_of_rewritten wellFormed arrives (Nat.lt_succ_self _)
  · exact readPDUs_spec (Nat.lt_succ_self _)

/-- An `enquire_link` and an `unbind` whose octets arrive in three pieces. -/
theorem framing_in_pieces :
    let enquireLink : PduHeader × List UInt8 := (⟨16, 0x15, 0, 7⟩, [])
    let unbind : PduHeader × List UInt8 := (⟨16, 0x06, 0, 8⟩, [])
    let octets := rewritten enquireLink ++ rewritten unbind
    (readPDUs 33 [octets.take 3, (octets.drop 3).take 20, octets.drop 23]).1 =
      [enquireLink, unbind] := by
  intro enquireLink unbind octets
  have arrives : [octets.take 3, (octets.drop 3).take 20, octets.drop 23].flatten =
      ([enquireLink, unbind].map rewritten).flatten := by decide
  have read := (framing [octets.take 3, (octets.drop 3).take 20, octets.drop 23]).1
    [enquireLink, unbind] (by simp [WellFormed, enquireLink, unbind, pduHeaderLen, maxPDULen])
    arrives
  exact congrArg Prod.fst read

end Klsmsc
