import Klsmsc.Inbound.ShortMessage
import Klsmsc.Tables
import Mathlib.Data.List.AList

/-!
# Reassembly of inbound segments

A long message arrives as segments, each with the reference of its message, the number of parts
and its own part. The gateway buffers them in a group for each key, joins the parts when their
number is complete, and flushes groups that have waited too long; a group that does not fit any
more drives out the oldest one. The maps of the source are association lists without repeated
keys, and the order in which `range` goes through a map is a parameter of the step that does it.
-/

namespace Klsmsc

open Library

/-- `submitJob`. -/
structure SubmitJob where
  accountId : ℕ
  messageId : MessageId
  systemId : GoString
  sourceAddr : GoString
  destAddr : GoString
  message : GoString
  ip : GoString
  registeredDelivery : ℕ
  deriving DecidableEq, Repr

/-- `concatInfo`. -/
structure ConcatInfo where
  ref : UInt16
  total : UInt8
  part : UInt8
  hasConcat : Bool
  deriving DecidableEq, Repr

abbrev Parts := AList fun _ : UInt8 => GoString

/-- `reassemblyGroup`. -/
structure ReassemblyGroup where
  parts : Parts
  total : UInt8
  tmpl : SubmitJob
  createdAt : ℕ
  deriving DecidableEq

/-- `reassemblyStore`. -/
structure ReassemblyStore where
  groups : AList fun _ : GoString => ReassemblyGroup

/-- An order in which `range` goes through the groups of a store. -/
structure MapOrder where
  order : List (Σ _ : GoString, ReassemblyGroup) → List (Σ _ : GoString, ReassemblyGroup)
  perm : ∀ entries, (order entries).Perm entries

/-- `reassemblyTTL`, in nanoseconds. -/
def reassemblyTTL : ℕ := 60000000000

/-- `reassemblyMaxGroups`. -/
def reassemblyMaxGroups : ℕ := 20000

/-- A number as `%d` prints it. -/
def decimal (number : ℕ) : GoString :=
  utf8 (toString number).toList

/-- `reassemblyKey`. -/
def reassemblyKey (accountId : ℕ) (src dst : GoString) (ref : UInt16) (total : UInt8) : GoString :=
  [decimal accountId, src, dst, decimal ref.toNat, decimal total.toNat].intersperse [0x7C]
    |>.flatten

/-- The loop of `assembleParts` from a part on. The counter is a byte: after 256 rounds it has
taken every value, so that a loop that has not ended by then never does. -/
def assembleLoop (parts : Parts) (total : UInt8) : ℕ → UInt8 → GoString → Option GoString
  | 0, _, _ => none
  | fuel + 1, p, b =>
      if p ≤ total then assembleLoop parts total fuel (p + 1) (b ++ (parts.lookup p).getD [])
      else some b

/-- `assembleParts`: nothing when it never returns. -/
def assembleParts (parts : Parts) (total : UInt8) : Option GoString :=
  assembleLoop parts total 256 1 []

/-- The loop of `evictOldestLocked`: the oldest group so far. -/
def oldestOf : List (Σ _ : GoString, ReassemblyGroup) → Option (GoString × ℕ) →
    Option (GoString × ℕ)
  | [], oldest => oldest
  | ⟨k, g⟩ :: rest, none => oldestOf rest (some (k, g.createdAt))
  | ⟨k, g⟩ :: rest, some (oldestKey, oldestAt) =>
      oldestOf rest
        (some (if g.createdAt < oldestAt then (k, g.createdAt) else (oldestKey, oldestAt)))

/-- The arguments of a call of `addSegment`, the time at which it is made, the id that
`generateMessageID` draws in it, and the order of its `range`. -/
structure SegmentCall where
  key : GoString
  info : ConcatInfo
  segText : GoString
  tmpl : SubmitJob
  now : ℕ
  messageId : MessageId
  order : MapOrder

/-- What `addSegment` returns. -/
abbrev Answer := Option SubmitJob × MessageId

def ReassemblyGroup.take (g : ReassemblyGroup) (call : SegmentCall) :
    ReassemblyGroup :=
  { g with
    parts := g.parts.insert call.info.part call.segText
    tmpl :=
      if call.tmpl.registeredDelivery = 1 then { g.tmpl with registeredDelivery := 1 } else g.tmpl }

namespace ReassemblyStore

variable (rs : ReassemblyStore)

/-- `evictOldestLocked`. -/
def evictOldestLocked (order : MapOrder) : ReassemblyStore :=
  match oldestOf (order.order rs.groups.entries) none with
  | none => rs
  | some (oldestKey, _) => ⟨rs.groups.erase oldestKey⟩

def groupFor (call : SegmentCall) : ReassemblyGroup × ReassemblyStore :=
  match rs.groups.lookup call.key with
  | some g => (g, rs)
  | none =>
      let rs :=
        if reassemblyMaxGroups ≤ rs.groups.keys.length then rs.evictOldestLocked call.order else rs
      let g : ReassemblyGroup :=
        ⟨∅, call.info.total, { call.tmpl with messageId := call.messageId }, call.now⟩
      (g, ⟨rs.groups.insert call.key g⟩)

/-- `addSegment`: nothing when it never returns. -/
def addSegment (call : SegmentCall) : Option (Answer × ReassemblyStore) :=
  let (g, rs) := rs.groupFor call
  let g := g.take call
  if UInt8.ofNat g.parts.keys.length < g.total then
    some ((none, g.tmpl.messageId), ⟨rs.groups.insert call.key g⟩)
  else
    (assembleParts g.parts g.total).map fun message =>
      ((some { g.tmpl with message := message }, g.tmpl.messageId), ⟨rs.groups.erase call.key⟩)

/-- The loop of `reap` over some groups, with the store and the jobs to be flushed. -/
def reapLoop (now : ℕ) : List (Σ _ : GoString, ReassemblyGroup) → ReassemblyStore →
    List SubmitJob → Option (List SubmitJob × ReassemblyStore)
  | [], rs, flush => some (flush, rs)
  | ⟨k, g⟩ :: rest, rs, flush =>
      if reassemblyTTL < now - g.createdAt then
        (assembleParts g.parts g.total).bind fun message =>
          reapLoop now rest ⟨rs.groups.erase k⟩ (flush ++ [{ g.tmpl with message := message }])
      else reapLoop now rest rs flush

/-- The part of `reap` that holds the lock: the jobs to be flushed. -/
def reap (now : ℕ) (order : MapOrder) : Option (List SubmitJob × ReassemblyStore) :=
  reapLoop now (order.order rs.groups.entries) rs []

end ReassemblyStore

end Klsmsc
