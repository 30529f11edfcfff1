import Klsmsc.Inbound.Session
import Klsmsc.Library.Cursors

/-!
# User data headers

A header is an octet with its length and a list of information elements, each with its
identifier, the length of its data, and its data. `parseUDH` walks through the header by an
offset that the lengths in the message drive. Here every index and every slice of that walk is
checked: it stays inside the message whatever the lengths are, it agrees with the recursion on
lists that the sessions use, and it reads back every header that fits its length octet.
-/

namespace Klsmsc

open Library Library.Parse

/-- The `switch` of `parseUDH` on an element. -/
def readElementAt (iei iedl : UInt8) (d : List UInt8) (ci : ConcatInfo) : Parse Empty ConcatInfo :=
  if iei = 0x00 ∧ iedl.toNat = 3 then do
    returns ⟨(← entryAt d 0).toUInt16, ← entryAt d 1, ← entryAt d 2, true⟩
  else if iei = 0x08 ∧ iedl.toNat = 4 then do
    let ref := (← entryAt d 0).toUInt16 <<< 8 ||| (← entryAt d 1).toUInt16
    returns ⟨ref, ← entryAt d 2, ← entryAt d 3, true⟩
  else returns ci

/-- The loop of `parseUDH` from the offset `i` on. -/
def udhLoopAt (udh : List UInt8) (i : ℕ) (ci : ConcatInfo) : Parse Empty ConcatInfo :=
  if i + 2 ≤ udh.length then do
    let iei ← entryAt udh i
    let iedl ← entryAt udh (i + 1)
    if udh.length < i + 2 + iedl.toNat then returns ci
    else
      let d ← sliceOf udh (i + 2) (i + 2 + iedl.toNat)
      let ci ← readElementAt iei iedl d ci
      udhLoopAt udh (i + 2 + iedl.toNat) ci
  else returns ci
  termination_by udh.length - i

/-- `parseUDH`, with the bounds of every index and slice. -/
def parseUDHAt (sm : List UInt8) : Parse Empty (ConcatInfo × List UInt8) :=
  if sm.length < 1 then returns (⟨0, 0, 0, false⟩, sm)
  else do
    let udhl ← entryAt sm 0
    if sm.length < 1 + udhl.toNat then returns (⟨0, 0, 0, false⟩, sm)
    else
      let udh ← sliceOf sm 1 (1 + udhl.toNat)
      let payload ← sliceOf sm (1 + udhl.toNat) sm.length
      let ci ← udhLoopAt udh 0 ⟨0, 0, 0, false⟩
      returns (ci, payload)

/-! ### Headers as they are written -/

structure InformationElement where
  iei : UInt8
  data : List UInt8
  fits : data.length < 256

def InformationElement.encode (element : InformationElement) : List UInt8 :=
  element.iei :: UInt8.ofNat element.data.length :: element.data

def encodeElements (elements : List InformationElement) : List UInt8 :=
  elements.flatMap InformationElement.encode

def encodeUDH (elements : List InformationElement) : List UInt8 :=
  UInt8.ofNat (encodeElements elements).length :: encodeElements elements

/-- The reference, the total and the part of a well-formed concatenation element: one octet for
the reference in an element `0x00`, two in an element `0x08`. -/
def InformationElement.concatInfo (element : InformationElement) : Option ConcatInfo :=
  match element.iei, element.data with
  | 0x00, [ref, total, part] => some ⟨UInt16.ofNat ref.toNat, total, part, true⟩
  | 0x08, [high, low, total, part] =>
      some ⟨UInt16.ofNat (ofBigEndian high low), total, part, true⟩
  | _, _ => none

def lastConcat (elements : List InformationElement) : ConcatInfo :=
  (elements.filterMap InformationElement.concatInfo).getLast?.getD ⟨0, 0, 0, false⟩

/-! ### The walk by offsets and the recursion on lists -/

def readElement (iei : UInt8) (data : List UInt8) (ci : ConcatInfo) : ConcatInfo :=
  match iei, data with
  | 0x00, [ref, total, part] => ⟨ref.toUInt16, total, part, true⟩
  | 0x08, [high, low, total, part] => ⟨high.toUInt16 <<< 8 ||| low.toUInt16, total, part, true⟩
  | _, _ => ci

theorem udhLoop_succ (fuel : ℕ) (iei iedl : UInt8) (rest : List UInt8) (ci : ConcatInfo) :
    udhLoop (fuel + 1) (iei :: iedl :: rest) ci =
      if rest.length < iedl.toNat then ci
      else udhLoop fuel (rest.drop iedl.toNat) (readElement iei (rest.take iedl.toNat) ci) := rfl

theorem readElementAt_eq {iei iedl : UInt8} {d : List UInt8} (ci : ConcatInfo)
    (length : d.length = iedl.toNat) :
    readElementAt iei iedl d ci = returns (readElement iei d ci) := by
  unfold readElementAt
  rw [← length]
  by_cases short : iei = 0x00 ∧ d.length = 3
  · rcases short with ⟨rfl, three⟩
    obtain ⟨ref, total, part, rfl⟩ := List.length_eq_three.mp three
    rfl
  by_cases long : iei = 0x08 ∧ d.length = 4
  · rcases long with ⟨rfl, four⟩
    match d, four with
    | [high, low, total, part], _ => rfl
  rw [if_neg short, if_neg long]
  unfold readElement
  split
  · exact absurd ⟨rfl, rfl⟩ short
  · exact absurd ⟨rfl, rfl⟩ long
  · rfl

theorem udhLoopAt_eq {udh rest : List UInt8} {offset : ℕ} (fuel : ℕ) (ci : ConcatInfo)
    (remains : Remains udh offset rest) (enough : rest.length ≤ fuel) :
    udhLoopAt udh offset ci = returns (udhLoop fuel rest ci) := by
  induction fuel generalizing offset rest ci with
  | zero =>
      have length := remains.length
      rw [udhLoopAt, if_neg (by omega)]
      rfl
  | succ fuel ih =>
      have length := remains.length
      match rest, remains with
      | [], _ | [_], _ =>
          simp only [List.length_nil, List.length_singleton] at length
          rw [udhLoopAt, if_neg (by omega)]
          rfl
      | iei :: iedl :: rest, remains =>
          simp only [List.length_cons] at length enough
          rw [udhLoopAt, if_pos (by omega), remains.entryAt, returns_bind, remains.next.entryAt,
            returns_bind, udhLoop_succ]
          by_cases beyond : rest.length < iedl.toNat
          · rw [if_pos (by omega), if_pos beyond]
          have size : (rest.take iedl.toNat).length = iedl.toNat := by
            rw [List.length_take]
            omega
          have inside : Remains udh (offset + 2)
              (rest.take iedl.toNat ++ rest.drop iedl.toNat) := by
            rw [List.take_append_drop]
            exact remains.next.next
          have slice : sliceOf udh (offset + 2) (offset + 2 + (rest.take iedl.toNat).length) =
              (returns (rest.take iedl.toNat) : Parse Empty (List UInt8)) := inside.sliceOf
          have next := inside.advance
          rw [size] at slice next
          rw [if_neg (by omega), if_neg beyond, slice, returns_bind, readElementAt_eq ci size,
            returns_bind]
          exact ih _ next (by rw [List.length_drop]; omega)

theorem parseUDHAt_eq (sm : List UInt8) : parseUDHAt sm = returns (parseUDH sm) := by
  cases sm with
  | nil => rfl
  | cons udhl rest =>
      have remains := Remains.start (udhl :: rest)
      rw [parseUDHAt, parseUDH, if_neg (by simp), remains.entryAt, returns_bind]
      by_cases beyond : rest.length < udhl.toNat
      · rw [if_pos (by rw [List.length_cons]; omega), if_pos beyond]
      have size : (rest.take udhl.toNat).length = udhl.toNat := by
        rw [List.length_take]
        omega
      have inside : Remains (udhl :: rest) 1 (rest.take udhl.toNat ++ rest.drop udhl.toNat) := by
        rw [List.take_append_drop]
        exact remains.next
      have header : sliceOf (udhl :: rest) 1 (1 + (rest.take udhl.toNat).length) =
          (returns (rest.take udhl.toNat) : Parse Empty (List UInt8)) := inside.sliceOf
      have next := inside.advance
      rw [size] at header next
      have tail : Remains (udhl :: rest) (1 + udhl.toNat) (rest.drop udhl.toNat ++ []) := by
        rwa [List.append_nil]
      have payload : sliceOf (udhl :: rest) (1 + udhl.toNat)
            (1 + udhl.toNat + (rest.drop udhl.toNat).length) =
          (returns (rest.drop udhl.toNat) : Parse Empty (List UInt8)) := tail.sliceOf
      rw [next.length] at payload
      rw [if_neg (by rw [List.length_cons]; omega), if_neg beyond, header, returns_bind, payload,
        returns_bind, udhLoopAt_eq udhl.toNat _ (Remains.start _) (Nat.le_of_eq size),
        returns_bind]

/-! ### Reading a header back -/

theorem toUInt16_shift_or (high low : UInt8) :
    high.toUInt16 <<< 8 ||| low.toUInt16 = UInt16.ofNat (ofBigEndian high low) := by
  have small := low.toNat_lt
  have shifted : high.toNat <<< 8 % 2 ^ 16 = high.toNat <<< 8 := by
    have bound := high.toNat_lt
    rw [Nat.shiftLeft_eq]
    omega
  apply UInt16.toNat_inj.mp
  simp only [UInt16.toNat_or, UInt16.toNat_shiftLeft, UInt8.toNat_toUInt16, ofBigEndian]
  change high.toNat <<< 8 % 2 ^ 16 ||| low.toNat = _
  rw [shifted, ← Nat.shiftLeft_add_eq_or_of_lt (by omega : low.toNat < 2 ^ 8), Nat.shiftLeft_eq,
    UInt16.toNat_ofNat_of_lt']
  have bound := high.toNat_lt
  change _ < 2 ^ 16
  omega

theorem readElement_eq (element : InformationElement) (ci : ConcatInfo) :
    readElement element.iei element.data ci = element.concatInfo.getD ci := by
  unfold readElement InformationElement.concatInfo
  split
  · rw [Option.getD_some, ← UInt8.toNat_toUInt16, UInt16.ofNat_toNat]
  · rw [Option.getD_some, toUInt16_shift_or]
  · rfl

theorem udhLoop_encodeElements (elements : List InformationElement) (fuel : ℕ) (ci : ConcatInfo)
    (enough : (encodeElements elements).length ≤ fuel) :
    udhLoop fuel (encodeElements elements) ci =
      elements.foldl (fun ci element => element.concatInfo.getD ci) ci := by
  induction elements generalizing fuel ci with
  | nil => cases fuel <;> rfl
  | cons element elements ih =>
      have written : encodeElements (element :: elements) =
          element.iei :: UInt8.ofNat element.data.length ::
            (element.data ++ encodeElements elements) := rfl
      rw [written] at enough ⊢
      simp only [List.length_cons, List.length_append] at enough
      obtain ⟨fuel, rfl⟩ : ∃ bound, fuel = bound + 1 := ⟨fuel - 1, by omega⟩
      have size : (UInt8.ofNat element.data.length).toNat = element.data.length :=
        UInt8.toNat_ofNat_of_lt' element.fits
      rw [udhLoop_succ, size, if_neg (by rw [List.length_append]; omega), List.take_left,
        List.drop_left, ih fuel _ (by omega), List.foldl_cons, readElement_eq]

theorem foldl_getD_eq {α β : Type} (value : α → Option β) (entries : List α) (first : β) :
    entries.foldl (fun found entry => (value entry).getD found) first =
      (entries.filterMap value).getLast?.getD first := by
  induction entries generalizing first with
  | nil => rfl
  | cons entry entries ih =>
      rw [List.foldl_cons, ih]
      cases found : value entry with
      | none => rw [List.filterMap_cons_none found]; rfl
      | some read =>
          rw [List.filterMap_cons_some found, List.getLast?_cons]
          rfl

theorem parseUDH_encodeUDH (elements : List InformationElement) (payload : List UInt8)
    (fits : (encodeElements elements).length ≤ 255) :
    parseUDH (encodeUDH elements ++ payload) = (lastConcat elements, payload) := by
  have size : (UInt8.ofNat (encodeElements elements).length).toNat =
      (encodeElements elements).length := UInt8.toNat_ofNat_of_lt' (Nat.lt_succ_of_le fits)
  simp only [encodeUDH, List.cons_append, parseUDH]
  rw [size, if_neg (by rw [List.length_append]; omega), List.take_left, List.drop_left,
    udhLoop_encodeElements elements _ _ (Nat.le_refl _), foldl_getD_eq]
  rfl

theorem parseUDH_suffix (sm : List UInt8) : (parseUDH sm).2 <:+ sm := by
  cases sm with
  | nil => exact List.suffix_rfl
  | cons udhl rest =>
      rw [parseUDH]
      split
      · exact List.suffix_rfl
      · exact (List.drop_suffix _ rest).trans (List.suffix_cons udhl rest)

/-- `parseUDH` reads back every header that fits its length octet: what the last well-formed
concatenation element says, and the payload. On any other message every index is inside and the
payload is its end. -/
theorem parseUDH_exact :
    (∀ (elements : List InformationElement) (payload : List UInt8),
      (encodeElements elements).length ≤ 255 →
        parseUDHAt (encodeUDH elements ++ payload) = returns (lastConcat elements, payload)) ∧
      ∀ sm, ∃ ci payload, parseUDHAt sm = returns (ci, payload) ∧ payload <:+ sm := by
  constructor
  · intro elements payload fits
    rw [parseUDHAt_eq, parseUDH_encodeUDH elements payload fits]
  · intro sm
    exact ⟨_, _, parseUDHAt_eq sm, parseUDH_suffix sm⟩

/-- An element of another kind, a malformed one and two concatenation elements before a text. -/
theorem parseUDH_exact_fourElements :
    parseUDHAt [0x11, 0x24, 0x01, 0x07, 0x00, 0x03, 0x09, 0x02, 0x01, 0x00, 0x01, 0x05,
        0x08, 0x04, 0x01, 0x02, 0x03, 0x02, 0x48, 0x69] =
      returns (⟨0x0102, 3, 2, true⟩, [0x48, 0x69]) := by
  have read := parseUDH_exact.1
    [⟨0x24, [0x07], by decide⟩, ⟨0x00, [0x09, 0x02, 0x01], by decide⟩, ⟨0x00, [0x05], by decide⟩,
      ⟨0x08, [0x01, 0x02, 0x03, 0x02], by decide⟩] [0x48, 0x69] (by decide)
  exact read

end Klsmsc
