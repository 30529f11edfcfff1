import Klsmsc.Inbound.Reassembly
import Klsmsc.Library.Numerals

/-!
# A message and its segments

A message whose segments arrive under one key, in any order and repeated, among segments of other
keys, comes out of the store once, with its last missing part, and the other keys see nothing of
it. A store that is full drives out a group instead, so that the message may never come out.
-/

namespace Klsmsc

open Library

namespace ReassemblyStore

def addSegments : ReassemblyStore → List SegmentCall →
    Option (List (SegmentCall × Answer) × ReassemblyStore)
  | rs, [] => some ([], rs)
  | rs, call :: calls =>
      (rs.addSegment call).bind fun (answer, rs) =>
        (rs.addSegments calls).map fun (answers, rs) => ((call, answer) :: answers, rs)

def HasRoom : ReassemblyStore → List SegmentCall → Prop
  | _, [] => True
  | rs, call :: calls =>
      rs.RoomFor call ∧
        ∀ answer after, rs.addSegment call = some (answer, after) → after.HasRoom calls

end ReassemblyStore

structure Segmented where
  key : GoString
  total : UInt8
  texts : UInt8 → GoString
  several : 2 ≤ total
  countable : total < 255

namespace Segmented

variable (m : Segmented)

structure Sent (call : SegmentCall) : Prop where
  total : call.info.total = m.total
  first : 1 ≤ call.info.part
  last : call.info.part ≤ m.total
  text : call.segText = m.texts call.info.part
  registered : call.tmpl.registeredDelivery ≤ 1

def segments (calls : List SegmentCall) : List SegmentCall :=
  calls.filter (·.key = m.key)

def others (calls : List SegmentCall) : List SegmentCall :=
  calls.filter (·.key ≠ m.key)

end Segmented

def registration (calls : List SegmentCall) : ℕ :=
  (calls.map (·.tmpl.registeredDelivery)).foldl (· ||| ·) 0

/-! ### The group of the message -/

structure Collected (m : Segmented) (seen : List SegmentCall) (g : ReassemblyGroup) : Prop where
  total : g.total = m.total
  sent : ∀ call ∈ seen, m.Sent call
  parts : ∀ p, g.parts.lookup p =
    if p ∈ seen.map (·.info.part) then some (m.texts p) else none
  registered : g.tmpl.registeredDelivery = registration seen

structure Pending (m : Segmented) (seen : List SegmentCall) (rs : ReassemblyStore) : Prop where
  sent : ∀ call ∈ seen, m.Sent call
  known : (rs.groups.lookup m.key).map (·.tmpl.messageId) = seen.head?.map (·.messageId)
  group : ∀ g, rs.groups.lookup m.key = some g → Collected m seen g

section Group

variable {m : Segmented} {seen : List SegmentCall} {g : ReassemblyGroup} {rs : ReassemblyStore}
  {call : SegmentCall}

theorem registration_append (calls : List SegmentCall) (call : SegmentCall) :
    registration (calls ++ [call]) = registration calls ||| call.tmpl.registeredDelivery := by
  simp [registration]

theorem registration_le_one (calls : List SegmentCall)
    (registered : ∀ call ∈ calls, call.tmpl.registeredDelivery ≤ 1) : registration calls ≤ 1 := by
  induction calls using List.reverseRecOn with
  | nil => simp [registration]
  | append_singleton calls call ih =>
      have before := ih fun other member => registered other (by simp [member])
      have added := registered call (by simp)
      rw [registration_append]
      rcases Nat.le_one_iff_eq_zero_or_eq_one.mp before with none | some <;>
        rcases Nat.le_one_iff_eq_zero_or_eq_one.mp added with no | yes <;> simp [*]

theorem take_registered (before : g.tmpl.registeredDelivery ≤ 1)
    (added : call.tmpl.registeredDelivery ≤ 1) :
    (g.take call).tmpl.registeredDelivery =
      g.tmpl.registeredDelivery ||| call.tmpl.registeredDelivery := by
  rcases Nat.le_one_iff_eq_zero_or_eq_one.mp added with no | yes
  · simp [ReassemblyGroup.take, no]
  · rcases Nat.le_one_iff_eq_zero_or_eq_one.mp before with none | some <;>
      simp [ReassemblyGroup.take, *]

@[simp] theorem take_total : (g.take call).total = g.total := rfl

@[simp] theorem take_messageId : (g.take call).tmpl.messageId = g.tmpl.messageId := by
  rw [ReassemblyGroup.take]
  split <;> rfl

theorem take_lookup (p : UInt8) :
    (g.take call).parts.lookup p =
      if p = call.info.part then some call.segText else g.parts.lookup p := by
  rw [ReassemblyGroup.take]
  by_cases same : p = call.info.part
  · rw [if_pos same, same, AList.lookup_insert]
  · rw [if_neg same, AList.lookup_insert_ne same]

theorem Pending.grown (pending : Pending m seen rs) (key : call.key = m.key) (sent : m.Sent call) :
    Collected m (seen ++ [call]) (rs.grown call) ∧
      some (rs.grown call).tmpl.messageId = (seen ++ [call]).head?.map (·.messageId) := by
  have sentAll : ∀ other ∈ seen ++ [call], m.Sent other := by
    intro other member
    rcases List.mem_append.mp member with inSeen | isCall
    · exact pending.sent other inSeen
    · obtain rfl := List.mem_singleton.mp isCall
      exact sent
  cases found : rs.groups.lookup m.key with
  | none =>
      have first : seen = [] := by
        have known := pending.known
        rw [found] at known
        cases seen with
        | nil => rfl
        | cons head rest => cases known
      subst first
      have grown : rs.grown call = call.opened.take call := by
        rw [ReassemblyStore.grown, key, found, Option.getD_none]
      have registered := @take_registered call.opened call sent.registered sent.registered
      refine ⟨⟨?_, sentAll, ?_, ?_⟩, ?_⟩
      · rw [grown, take_total]
        exact sent.total
      · intro p
        rw [grown, take_lookup, sent.text]
        by_cases same : p = call.info.part <;> simp [same, SegmentCall.opened]
      · rw [grown, registered]
        simp [registration, SegmentCall.opened]
      · rw [grown, take_messageId]
        rfl
  | some g =>
      have collected := pending.group g found
      have grown : rs.grown call = g.take call := by
        rw [ReassemblyStore.grown, key, found, Option.getD_some]
      have asked := registration_le_one seen fun other member => (pending.sent other member).registered
      refine ⟨⟨?_, sentAll, ?_, ?_⟩, ?_⟩
      · rw [grown, take_total, collected.total]
      · intro p
        rw [grown, take_lookup, sent.text, collected.parts]
        by_cases same : p = call.info.part <;> simp [same]
      · rw [grown, take_registered (by rw [collected.registered]; exact asked) sent.registered,
          collected.registered, registration_append]
      · have known := pending.known
        rw [found] at known
        rw [grown, take_messageId]
        cases seen with
        | nil => cases known
        | cons head rest => exact known

theorem Collected.mem_parts_iff (collected : Collected m seen g) (p : UInt8) :
    p ∈ g.parts ↔ p ∈ seen.map (·.info.part) := by
  rw [← AList.lookup_isSome, collected.parts]
  split <;> simp [*]

theorem Collected.fewer_iff (collected : Collected m seen g) :
    UInt8.ofNat g.parts.keys.length < g.total ↔
      ∃ p, 1 ≤ p ∧ p ≤ m.total ∧ p ∉ seen.map (·.info.part) := by
  have inside : ∀ p ∈ g.parts, 1 ≤ p ∧ p ≤ m.total := by
    intro p present
    rcases List.mem_map.mp ((collected.mem_parts_iff p).mp present) with ⟨call, member, rfl⟩
    exact ⟨(collected.sent call member).first, (collected.sent call member).last⟩
  have few := length_parts_le inside
  have small := m.total.toNat_lt
  have counted : (UInt8.ofNat g.parts.keys.length).toNat = g.parts.keys.length := by
    rw [UInt8.toNat_ofNat']
    omega
  rw [UInt8.lt_iff_toNat_lt, counted, collected.total, length_parts_lt_iff inside]
  simp only [collected.mem_parts_iff]

theorem joined_congr {texts others : UInt8 → GoString} {total : UInt8}
    (same : ∀ p, 1 ≤ p → p ≤ total → texts p = others p) :
    joined texts total = joined others total := by
  apply List.flatMap_congr
  intro part member
  have small := total.toNat_lt
  rw [List.mem_range'_1] at member
  have counted : (UInt8.ofNat part).toNat = part := by
    rw [UInt8.toNat_ofNat']
    omega
  apply same
  · rw [UInt8.le_iff_toNat_le, counted]
    exact member.1
  · rw [UInt8.le_iff_toNat_le, counted]
    omega

theorem Collected.joined_eq (collected : Collected m seen g)
    (complete : ∀ p, 1 ≤ p → p ≤ m.total → p ∈ seen.map (·.info.part)) :
    joined (fun p => (g.parts.lookup p).getD []) g.total = joined m.texts m.total := by
  rw [collected.total]
  apply joined_congr
  intro p first last
  rw [collected.parts, if_pos (complete p first last), Option.getD_some]

/-! ### Steps -/

theorem Pending.step (pending : Pending m seen rs) (key : call.key = m.key) (sent : m.Sent call)
    (room : rs.RoomFor call)
    (missing : ∃ p, 1 ≤ p ∧ p ≤ m.total ∧ p ∉ (seen ++ [call]).map (·.info.part)) :
    ∃ messageId after, rs.addSegment call = some ((none, messageId), after) ∧
      some messageId = (seen ++ [call]).head?.map (·.messageId) ∧ Pending m (seen ++ [call]) after ∧
      ∀ other, other ≠ m.key → after.groups.lookup other = rs.groups.lookup other := by
  rcases pending.grown key sent with ⟨collected, messageId⟩
  refine ⟨_, ⟨rs.groups.insert call.key (rs.grown call)⟩, ?_, messageId,
    ⟨collected.sent, ?_, ?_⟩, ?_⟩
  · rw [ReassemblyStore.addSegment_eq, if_pos (collected.fewer_iff.mpr missing),
      ReassemblyStore.spaced_of_room room]
  · rw [key, AList.lookup_insert, ← messageId, Option.map_some]
  · intro g found
    rw [key, AList.lookup_insert] at found
    obtain rfl := Option.some.inj found
    exact collected
  · intro other different
    rw [key, AList.lookup_insert_ne different]

theorem Pending.complete (pending : Pending m seen rs) (key : call.key = m.key)
    (sent : m.Sent call) (room : rs.RoomFor call)
    (complete : ∀ p, 1 ≤ p → p ≤ m.total → p ∈ (seen ++ [call]).map (·.info.part)) :
    ∃ job messageId after, rs.addSegment call = some ((some job, messageId), after) ∧
      some messageId = (seen ++ [call]).head?.map (·.messageId) ∧
      job.message = joined m.texts m.total ∧ job.messageId = messageId ∧
      job.registeredDelivery = registration (seen ++ [call]) ∧ m.key ∉ after.groups ∧
      ∀ other, other ≠ m.key → after.groups.lookup other = rs.groups.lookup other := by
  rcases pending.grown key sent with ⟨collected, messageId⟩
  have whole : ¬ UInt8.ofNat (rs.grown call).parts.keys.length < (rs.grown call).total := by
    rw [collected.fewer_iff]
    rintro ⟨p, first, last, missing⟩
    exact missing (complete p first last)
  have countable : (rs.grown call).total ≠ 255 := by
    rw [collected.total]
    exact UInt8.ne_of_lt m.countable
  have joins := collected.joined_eq complete
  refine ⟨{ (rs.grown call).tmpl with message := _ }, _, ⟨rs.groups.erase call.key⟩, ?_,
    messageId, joins, rfl, collected.registered, ?_, ?_⟩
  · rw [ReassemblyStore.addSegment_eq, if_neg whole, assembleParts_eq countable,
      ReassemblyStore.spaced_of_room room, Option.map_some]
    rfl
  · rw [key, AList.mem_erase]
    exact fun member => member.1 rfl
  · intro other different
    rw [key, AList.lookup_erase_ne different]

end Group

/-! ### Other keys -/

structure Alike (key : GoString) (rs others : ReassemblyStore) : Prop where
  same : ∀ other, other ≠ key → rs.groups.lookup other = others.groups.lookup other
  absent : key ∉ others.groups

section Others

variable {key : GoString} {rs others : ReassemblyStore} {call : SegmentCall}

theorem Alike.mem_iff (alike : Alike key rs others) {other : GoString} (different : other ≠ key) :
    other ∈ rs.groups ↔ other ∈ others.groups := by
  rw [← AList.lookup_isSome, ← AList.lookup_isSome, alike.same other different]

theorem Alike.length_le (alike : Alike key rs others) :
    others.groups.keys.length ≤ rs.groups.keys.length := by
  apply List.Subperm.length_le
  apply List.Nodup.subperm others.groups.keys_nodup
  intro other member
  have present := AList.mem_keys.mpr member
  have different : other ≠ key := fun equal => alike.absent (equal ▸ present)
  exact AList.mem_keys.mp ((alike.mem_iff different).mpr present)

theorem Alike.room (alike : Alike key rs others) (different : call.key ≠ key)
    (room : rs.RoomFor call) : others.RoomFor call := by
  intro absent
  have := room fun present => absent ((alike.mem_iff different).mp present)
  have := alike.length_le
  omega

theorem Alike.step (alike : Alike key rs others) (different : call.key ≠ key)
    (room : rs.RoomFor call) {answer : Answer} {afterOthers : ReassemblyStore}
    (returned : others.addSegment call = some (answer, afterOthers)) :
    ∃ after, rs.addSegment call = some (answer, after) ∧ Alike key after afterOthers ∧
      after.groups.lookup key = rs.groups.lookup key := by
  have grown : others.grown call = rs.grown call := by
    rw [ReassemblyStore.grown, ReassemblyStore.grown, alike.same call.key different]
  rw [ReassemblyStore.addSegment_eq, grown,
    ReassemblyStore.spaced_of_room (alike.room different room)] at returned
  rw [ReassemblyStore.addSegment_eq, ReassemblyStore.spaced_of_room room]
  split at returned
  · obtain ⟨rfl, rfl⟩ := Prod.mk.inj (Option.some.inj returned)
    rename_i fewer
    refine ⟨⟨rs.groups.insert call.key (rs.grown call)⟩, if_pos fewer, ⟨?_, ?_⟩,
      AList.lookup_insert_ne (Ne.symm different)⟩
    · intro other apart
      by_cases same : other = call.key
      · rw [same, AList.lookup_insert, AList.lookup_insert]
      · rw [AList.lookup_insert_ne same, AList.lookup_insert_ne same, alike.same other apart]
    · rw [AList.mem_insert]
      rintro (equal | present)
      · exact different equal.symm
      · exact alike.absent present
  · rcases Option.map_eq_some_iff.mp returned with ⟨message, assembled, outcome⟩
    obtain ⟨rfl, rfl⟩ := Prod.mk.inj outcome
    rename_i fewer
    refine ⟨⟨rs.groups.erase call.key⟩, by rw [if_neg fewer, assembled, Option.map_some],
      ⟨?_, ?_⟩, AList.lookup_erase_ne (Ne.symm different)⟩
    · intro other apart
      by_cases same : other = call.key
      · rw [same, AList.lookup_erase, AList.lookup_erase]
      · rw [AList.lookup_erase_ne same, AList.lookup_erase_ne same, alike.same other apart]
    · rw [AList.mem_erase]
      exact fun present => alike.absent present.2

end Others

/-! ### Runs -/

namespace ReassemblyStore

variable {rs : ReassemblyStore}

theorem addSegments_cons {call : SegmentCall} {calls : List SegmentCall} {answer : Answer}
    {middle after : ReassemblyStore} {answers : List (SegmentCall × Answer)}
    (head : rs.addSegment call = some (answer, middle))
    (tail : middle.addSegments calls = some (answers, after)) :
    rs.addSegments (call :: calls) = some ((call, answer) :: answers, after) := by
  simp only [addSegments, head, Option.bind_some, tail, Option.map_some]

theorem of_addSegments_cons {call : SegmentCall} {calls : List SegmentCall}
    {answers : List (SegmentCall × Answer)} {after : ReassemblyStore}
    (ran : rs.addSegments (call :: calls) = some (answers, after)) :
    ∃ answer middle rest, rs.addSegment call = some (answer, middle) ∧
      middle.addSegments calls = some (rest, after) ∧ answers = (call, answer) :: rest := by
  rw [addSegments, Option.bind_eq_some_iff] at ran
  rcases ran with ⟨⟨answer, middle⟩, head, ran⟩
  rcases Option.map_eq_some_iff.mp ran with ⟨⟨rest, last⟩, tail, outcome⟩
  obtain ⟨rfl, rfl⟩ := Prod.mk.inj outcome
  exact ⟨answer, middle, rest, head, tail, rfl⟩

theorem addSegments_append {left right : List SegmentCall} {middle after : ReassemblyStore}
    {before answers : List (SegmentCall × Answer)}
    (head : rs.addSegments left = some (before, middle))
    (tail : middle.addSegments right = some (answers, after)) :
    rs.addSegments (left ++ right) = some (before ++ answers, after) := by
  induction left generalizing rs before with
  | nil =>
      obtain ⟨rfl, rfl⟩ := Prod.mk.inj (Option.some.inj head)
      exact tail
  | cons call left ih =>
      rcases of_addSegments_cons head with ⟨answer, next, rest, called, ran, rfl⟩
      exact addSegments_cons called (ih ran)

theorem HasRoom.left {left right : List SegmentCall} (room : rs.HasRoom (left ++ right)) :
    rs.HasRoom left := by
  induction left generalizing rs with
  | nil => trivial
  | cons call left ih =>
      exact ⟨room.1, fun answer after called => ih (room.2 answer after called)⟩

theorem HasRoom.right {left right : List SegmentCall} (room : rs.HasRoom (left ++ right))
    {answers : List (SegmentCall × Answer)} {middle : ReassemblyStore}
    (ran : rs.addSegments left = some (answers, middle)) : middle.HasRoom right := by
  induction left generalizing rs answers with
  | nil =>
      obtain ⟨rfl, rfl⟩ := Prod.mk.inj (Option.some.inj ran)
      exact room
  | cons call left ih =>
      rcases of_addSegments_cons ran with ⟨answer, next, rest, called, ran', rfl⟩
      exact ih (room.2 answer next called) ran'

theorem length_erase (groups : AList fun _ : GoString => ReassemblyGroup) (key : GoString) :
    (groups.erase key).keys.length ≤ groups.keys.length := by
  rw [AList.keys_erase]
  apply @List.length_erase_le _ instBEqOfDecidableEq

theorem length_insert (groups : AList fun _ : GoString => ReassemblyGroup) (key : GoString)
    (g : ReassemblyGroup) : (groups.insert key g).keys.length ≤ groups.keys.length + 1 := by
  rw [AList.keys_insert, List.length_cons]
  apply Nat.succ_le_succ
  apply @List.length_erase_le _ instBEqOfDecidableEq

theorem length_spaced (call : SegmentCall) :
    (rs.spaced call).groups.keys.length ≤ rs.groups.keys.length := by
  rw [spaced]
  split
  · rcases rs.evictOldestLocked_eq call.order with ⟨-, same⟩ | ⟨key, g, -, -, erased⟩
    · rw [same]
    · rw [erased]
      exact length_erase rs.groups key
  · exact le_rfl

theorem length_addSegment {call : SegmentCall} {answer : Answer} {after : ReassemblyStore}
    (called : rs.addSegment call = some (answer, after)) :
    after.groups.keys.length ≤ rs.groups.keys.length + 1 := by
  have before := rs.length_spaced call
  rw [addSegment_eq] at called
  split at called
  · obtain ⟨rfl, rfl⟩ := Prod.mk.inj (Option.some.inj called)
    exact (length_insert (rs.spaced call).groups call.key (rs.grown call)).trans
      (Nat.succ_le_succ before)
  · rcases Option.map_eq_some_iff.mp called with ⟨message, -, outcome⟩
    obtain ⟨rfl, rfl⟩ := Prod.mk.inj outcome
    exact ((length_erase (rs.spaced call).groups call.key).trans before).trans (Nat.le_succ _)

theorem hasRoom_of_few {calls : List SegmentCall}
    (few : rs.groups.keys.length + calls.length ≤ reassemblyMaxGroups) : rs.HasRoom calls := by
  induction calls generalizing rs with
  | nil => trivial
  | cons call calls ih =>
      rw [List.length_cons] at few
      refine ⟨fun _ => by omega, ?_⟩
      intro answer after called
      have grown := length_addSegment called
      exact ih (by omega)

end ReassemblyStore

section Prefix

variable {m : Segmented} {rs others : ReassemblyStore}

theorem Pending.steps {seen calls : List SegmentCall} (pending : Pending m seen rs)
    (alike : Alike m.key rs others) (sent : ∀ call ∈ calls, call.key = m.key → m.Sent call)
    (room : rs.HasRoom calls)
    (missing : ∃ p, 1 ≤ p ∧ p ≤ m.total ∧ p ∉ (seen ++ m.segments calls).map (·.info.part))
    {otherAnswers : List (SegmentCall × Answer)} {otherStore : ReassemblyStore}
    (apart : others.addSegments (m.others calls) = some (otherAnswers, otherStore)) :
    ∃ answers after, rs.addSegments calls = some (answers, after) ∧
      Pending m (seen ++ m.segments calls) after ∧ Alike m.key after otherStore ∧
      (∀ answer ∈ answers, answer.1.key = m.key → answer.2.1 = none ∧
        some answer.2.2 = (seen ++ m.segments calls).head?.map (·.messageId)) ∧
      answers.filter (·.1.key ≠ m.key) = otherAnswers := by
  induction calls generalizing seen rs others otherAnswers with
  | nil =>
      obtain ⟨rfl, rfl⟩ := Prod.mk.inj (Option.some.inj apart)
      refine ⟨[], rs, rfl, ?_, alike, by simp, rfl⟩
      simpa [Segmented.segments] using pending
  | cons call calls ih =>
      by_cases key : call.key = m.key
      · have segments : m.segments (call :: calls) = call :: m.segments calls := by
          simp [Segmented.segments, key]
        have split : seen ++ m.segments (call :: calls) = (seen ++ [call]) ++ m.segments calls := by
          rw [segments, List.append_assoc]
          rfl
        have rest : m.others (call :: calls) = m.others calls := by
          simp [Segmented.others, key]
        rw [split] at missing ⊢
        rw [rest] at apart
        have missingNow :
            ∃ p, 1 ≤ p ∧ p ≤ m.total ∧ p ∉ (seen ++ [call]).map (·.info.part) := by
          rcases missing with ⟨p, first, last, lacking⟩
          rw [List.map_append] at lacking
          exact ⟨p, first, last, fun member => lacking (List.mem_append_left _ member)⟩
        rcases pending.step key (sent call (by simp) key) room.1 missingNow with
          ⟨messageId, middle, called, known, pendingNow, kept⟩
        have alikeNow : Alike m.key middle others :=
          ⟨fun other different => (kept other different).trans (alike.same other different),
            alike.absent⟩
        rcases ih pendingNow alikeNow (fun other member => sent other (by simp [member]))
          (room.2 _ _ called) missing apart with
          ⟨answers, after, ran, pendingAfter, alikeAfter, answered, unaffected⟩
        refine ⟨_, after, ReassemblyStore.addSegments_cons called ran, pendingAfter, alikeAfter,
          ?_, ?_⟩
        · intro answer member ofMessage
          rcases List.mem_cons.mp member with rfl | inRest
          · refine ⟨rfl, known.trans ?_⟩
            cases seen <;> rfl
          · exact answered answer inRest ofMessage
        · simpa [key] using unaffected
      · have segments : m.segments (call :: calls) = m.segments calls := by
          simp [Segmented.segments, key]
        have rest : m.others (call :: calls) = call :: m.others calls := by
          simp [Segmented.others, key]
        rw [segments] at missing ⊢
        rw [rest] at apart
        rcases ReassemblyStore.of_addSegments_cons apart with
          ⟨answer, next, inside, calledApart, ranApart, rfl⟩
        rcases alike.step key room.1 calledApart with ⟨middle, called, alikeNow, kept⟩
        have pendingNow : Pending m seen middle :=
          ⟨pending.sent, by rw [kept]; exact pending.known,
            fun g found => pending.group g (by rw [← kept]; exact found)⟩
        rcases ih pendingNow alikeNow (fun other member => sent other (by simp [member]))
          (room.2 _ _ called) missing ranApart with
          ⟨answers, after, ran, pendingAfter, alikeAfter, answered, unaffected⟩
        refine ⟨_, after, ReassemblyStore.addSegments_cons called ran, pendingAfter, alikeAfter,
          ?_, ?_⟩
        · intro answer member ofMessage
          rcases List.mem_cons.mp member with rfl | inRest
          · exact absurd ofMessage key
          · exact answered answer inRest ofMessage
        · simpa [key] using unaffected

end Prefix

/-- Of a message whose segments arrive in any order, repeated and among others, the last missing
one makes the store give out the whole text. All its segments get one id, its group is gone, and
the others get the answers and leave the groups that they would without it. -/
theorem addSegments_reassembles (m : Segmented) {rs : ReassemblyStore} (fresh : m.key ∉ rs.groups)
    {calls : List SegmentCall} {last : SegmentCall} (ending : last.key = m.key)
    (sent : ∀ call ∈ calls ++ [last], call.key = m.key → m.Sent call)
    (missing : last.info.part ∉ (m.segments calls).map (·.info.part))
    (complete : ∀ p, 1 ≤ p → p ≤ m.total → p ∈ (m.segments (calls ++ [last])).map (·.info.part))
    (room : rs.HasRoom (calls ++ [last]))
    {otherAnswers : List (SegmentCall × Answer)} {otherStore : ReassemblyStore}
    (apart : rs.addSegments (m.others calls) = some (otherAnswers, otherStore)) :
    ∃ answers job messageId after,
      rs.addSegments (calls ++ [last]) =
          some (answers ++ [(last, (some job, messageId))], after) ∧
        (∀ answer ∈ answers, answer.1.key = m.key → answer.2 = (none, messageId)) ∧
        job.message = joined m.texts m.total ∧ job.messageId = messageId ∧
        job.registeredDelivery = registration (m.segments (calls ++ [last])) ∧
        m.key ∉ after.groups ∧ answers.filter (·.1.key ≠ m.key) = otherAnswers ∧
        ∀ key, key ≠ m.key → after.groups.lookup key = otherStore.groups.lookup key := by
  have none : rs.groups.lookup m.key = none := AList.lookup_eq_none.mpr fresh
  have before : Pending m [] rs := ⟨by simp, by simp [none], by simp [none]⟩
  have alike : Alike m.key rs rs := ⟨fun _ _ => rfl, fresh⟩
  have sentLast := sent last (by simp) ending
  have segments : m.segments (calls ++ [last]) = m.segments calls ++ [last] := by
    simp [Segmented.segments, ending]
  rcases before.steps alike (fun call member => sent call (by simp [member])) room.left
    ⟨last.info.part, sentLast.first, sentLast.last, by simpa using missing⟩ apart with
    ⟨answers, middle, ran, pending, alikeAfter, answered, unaffected⟩
  rw [List.nil_append] at pending answered
  rw [segments] at complete ⊢
  rcases pending.complete ending sentLast (room.right ran).1 complete with
    ⟨job, messageId, after, called, known, message, jobId, registered, gone, kept⟩
  refine ⟨answers, job, messageId, after, ?_, ?_, message, jobId, registered, gone, unaffected, ?_⟩
  · exact ReassemblyStore.addSegments_append ran (ReassemblyStore.addSegments_cons called rfl)
  · intro answer member ofMessage
    rcases answered answer member ofMessage with ⟨notReady, knownHere⟩
    have started : m.segments calls ≠ [] := by
      intro empty
      rw [empty] at knownHere
      cases knownHere
    rw [List.head?_append_of_ne_nil _ started, ← knownHere] at known
    exact Prod.ext notReady (Option.some.inj known).symm
  · intro key different
    rw [kept key different, alikeAfter.same key different]

/-! ### A full store -/

theorem decimal_injective {left right : ℕ} (equal : decimal left = decimal right) :
    left = right := by
  apply toString_injective
  exact String.toList_injective (utf8_injective equal)

theorem reassemblyKey_ref {accountId : ℕ} {src dst : GoString} {left right : UInt16} {total : UInt8}
    (equal : reassemblyKey accountId src dst left total =
      reassemblyKey accountId src dst right total) : left = right := by
  simp only [reassemblyKey, List.intersperse, List.flatten_cons, List.append_cancel_left_eq,
    List.append_cancel_right_eq] at equal
  exact UInt16.toNat_inj.mp (decimal_injective equal)

theorem addSegments_opens {rs : ReassemblyStore} {calls : List SegmentCall}
    (distinct : (calls.map (·.key)).Nodup) (absent : ∀ call ∈ calls, call.key ∉ rs.groups)
    (several : ∀ call ∈ calls, 1 < call.info.total)
    (few : rs.groups.keys.length + calls.length ≤ reassemblyMaxGroups) :
    ∃ after, rs.addSegments calls =
        some (calls.map fun call => (call, (none, call.messageId)), after) ∧
      after.groups.keys.length = rs.groups.keys.length + calls.length ∧
      (∀ key, key ∉ calls.map (·.key) → after.groups.lookup key = rs.groups.lookup key) ∧
      ∀ call ∈ calls, ∃ g, after.groups.lookup call.key = some g ∧ g.createdAt = call.now := by
  induction calls generalizing rs with
  | nil => exact ⟨rs, rfl, rfl, fun _ _ => rfl, by simp⟩
  | cons call calls ih =>
      have absentNow := absent call (by simp)
      rw [List.map_cons, List.nodup_cons] at distinct
      rw [List.length_cons] at few
      have called := ReassemblyStore.addSegment_opens absentNow (several call (by simp))
      rw [ReassemblyStore.spaced_of_room (fun _ => by omega)] at called
      have grown : (rs.groups.insert call.key (call.opened.take call)).keys.length =
          rs.groups.keys.length + 1 := by
        rw [AList.insert_of_notMem absentNow]
        rfl
      have fewAfter : (rs.groups.insert call.key (call.opened.take call)).keys.length +
          calls.length ≤ reassemblyMaxGroups := by
        omega
      have absentAfter : ∀ other ∈ calls,
          other.key ∉ rs.groups.insert call.key (call.opened.take call) := by
        intro other member present
        rcases (AList.mem_insert _).mp present with equal | before
        · exact distinct.1 (List.mem_map.mpr ⟨other, member, equal⟩)
        · exact absent other (by simp [member]) before
      rcases @ih ⟨rs.groups.insert call.key (call.opened.take call)⟩ distinct.2 absentAfter
        (fun other member => several other (by simp [member])) fewAfter with ⟨after, ran, size, kept, opened⟩
      refine ⟨after, ReassemblyStore.addSegments_cons called ran, ?_, ?_, ?_⟩
      · rw [size, grown, List.length_cons]
        omega
      · intro key outside
        rw [List.map_cons, List.mem_cons, not_or] at outside
        rw [kept key outside.2, AList.lookup_insert_ne outside.1]
      · intro other member
        rcases List.mem_cons.mp member with rfl | inRest
        · refine ⟨other.opened.take other, ?_, rfl⟩
          rw [kept other.key distinct.1, AList.lookup_insert]
        · exact opened other inRest

def firstSegment (ref : ℕ) : SegmentCall where
  key := reassemblyKey 1 [0x38] [0x2B] (UInt16.ofNat ref) 2
  info := ⟨UInt16.ofNat ref, 2, 1, true⟩
  segText := [0x41]
  tmpl := ⟨1, 0, [], [0x38], [0x2B], [], [], 1⟩
  now := ref
  messageId := ref
  order := ⟨id, fun _ => List.Perm.refl _⟩

def twoPartMessage : Segmented where
  key := (firstSegment 0).key
  total := 2
  texts p := if p = 1 then [0x41] else [0x42]
  several := by decide
  countable := by decide

def secondSegment : SegmentCall :=
  { firstSegment 0 with
    info := ⟨0, 2, 2, true⟩, segText := [0x42], now := reassemblyMaxGroups + 1 }

theorem firstSegment_key {left right : ℕ} (leftSmall : left ≤ reassemblyMaxGroups)
    (rightSmall : right ≤ reassemblyMaxGroups)
    (equal : (firstSegment left).key = (firstSegment right).key) : left = right := by
  have same := congrArg UInt16.toNat (reassemblyKey_ref equal)
  rw [reassemblyMaxGroups] at leftSmall rightSmall
  rw [UInt16.toNat_ofNat', UInt16.toNat_ofNat'] at same
  omega

theorem firstSegment_sent : twoPartMessage.Sent (firstSegment 0) :=
  ⟨rfl, by decide, by decide, rfl, by decide⟩

theorem secondSegment_sent : twoPartMessage.Sent secondSegment :=
  ⟨rfl, by decide, by decide, rfl, by decide⟩

theorem either_part {p : UInt8} (first : 1 ≤ p) (last : p ≤ 2) : p = 1 ∨ p = 2 := by
  rw [UInt8.le_iff_toNat_le] at first last
  rw [← UInt8.toNat_inj, ← UInt8.toNat_inj]
  change 1 ≤ p.toNat at first
  change p.toNat ≤ 2 at last
  change p.toNat = 1 ∨ p.toNat = 2
  omega

/-- The second segment comes first and twice, and another message begins in between. -/
theorem addSegments_reassembles_two :
    ∃ answers job messageId after,
      (⟨∅⟩ : ReassemblyStore).addSegments
          ([secondSegment, firstSegment 1, secondSegment] ++ [firstSegment 0]) =
          some (answers ++ [(firstSegment 0, (some job, messageId))], after) ∧
        job.message = [0x41, 0x42] := by
  have different : (firstSegment 1).key ≠ twoPartMessage.key :=
    fun equal => absurd (firstSegment_key (by decide) (by decide) equal) (by decide)
  have segments : twoPartMessage.segments [secondSegment, firstSegment 1, secondSegment] =
      [secondSegment, secondSegment] := by
    simp [Segmented.segments, different, show secondSegment.key = twoPartMessage.key from rfl]
  have all : twoPartMessage.segments ([secondSegment, firstSegment 1, secondSegment] ++
      [firstSegment 0]) = [secondSegment, secondSegment, firstSegment 0] := by
    simp [Segmented.segments, different, show secondSegment.key = twoPartMessage.key from rfl,
      show (firstSegment 0).key = twoPartMessage.key from rfl]
  have others : twoPartMessage.others [secondSegment, firstSegment 1, secondSegment] =
      [firstSegment 1] := by
    simp [Segmented.others, different, show secondSegment.key = twoPartMessage.key from rfl]
  have sent : ∀ call ∈ [secondSegment, firstSegment 1, secondSegment] ++ [firstSegment 0],
      call.key = twoPartMessage.key → twoPartMessage.Sent call := by
    intro call member key
    simp only [List.cons_append, List.nil_append, List.mem_cons, List.not_mem_nil, or_false]
      at member
    rcases member with rfl | rfl | rfl | rfl
    · exact secondSegment_sent
    · exact absurd key different
    · exact secondSegment_sent
    · exact firstSegment_sent
  rcases addSegments_reassembles twoPartMessage (AList.notMem_empty _) rfl sent
    (by rw [segments]; decide)
    (fun p first last => by
      rw [all]
      rcases either_part first last with rfl | rfl <;> decide)
    (ReassemblyStore.hasRoom_of_few (by decide))
    (by
      rw [others]
      exact ReassemblyStore.addSegments_cons
        (ReassemblyStore.addSegment_opens (AList.notMem_empty _) (by decide)) rfl) with
    ⟨answers, job, messageId, after, ran, -, message, -⟩
  exact ⟨answers, job, messageId, after, ran, message⟩

theorem nodup_firstSegments {count : ℕ} (small : count ≤ reassemblyMaxGroups) :
    (((List.range count).map firstSegment).map (·.key)).Nodup := by
  rw [List.map_map]
  apply List.nodup_range.map_on
  intro left leftMember right rightMember equal
  rw [List.mem_range] at leftMember rightMember
  exact firstSegment_key (by omega) (by omega) equal

theorem addSegments_firstSegments :
    ∃ answers after,
      (⟨∅⟩ : ReassemblyStore).addSegments
          ((List.range (reassemblyMaxGroups + 1)).map firstSegment) = some (answers, after) ∧
        (∀ answer ∈ answers, answer.2.1 = none) ∧ twoPartMessage.key ∉ after.groups := by
  have several : ∀ call ∈ (List.range reassemblyMaxGroups).map firstSegment,
      1 < call.info.total := by
    intro call member
    rcases List.mem_map.mp member with ⟨ref, -, rfl⟩
    exact (by decide : (1 : UInt8) < 2)
  have few : (⟨∅⟩ : ReassemblyStore).groups.keys.length +
      ((List.range reassemblyMaxGroups).map firstSegment).length ≤ reassemblyMaxGroups := by
    rw [List.length_map, List.length_range]
    exact (Nat.zero_add _).le
  rcases @addSegments_opens ⟨∅⟩ _ (nodup_firstSegments le_rfl)
    (fun call _ => AList.notMem_empty call.key) several few with
    ⟨full, ran, size, kept, opened⟩
  have isFull : full.groups.keys.length = reassemblyMaxGroups := by
    rw [size, List.length_map, List.length_range]
    exact Nat.zero_add _
  have outside : (firstSegment reassemblyMaxGroups).key ∉
      ((List.range reassemblyMaxGroups).map firstSegment).map (·.key) := by
    rw [List.map_map, List.mem_map]
    rintro ⟨ref, member, equal⟩
    rw [List.mem_range] at member
    exact absurd (firstSegment_key member.le le_rfl equal) member.ne
  have absent : (firstSegment reassemblyMaxGroups).key ∉ full.groups := by
    rw [← AList.lookup_eq_none, kept _ outside]
    exact AList.lookup_empty _
  have called := ReassemblyStore.addSegment_opens absent (by decide)
  have evicted : full.spaced (firstSegment reassemblyMaxGroups) =
      ⟨full.groups.erase twoPartMessage.key⟩ := by
    rw [ReassemblyStore.spaced, if_pos ⟨absent, isFull.ge⟩]
    rcases full.evictOldestLocked_eq (firstSegment reassemblyMaxGroups).order with
      ⟨empty, -⟩ | ⟨key, g, located, oldest, erased⟩
    · rw [empty] at isFull
      cases isFull
    · rcases opened (firstSegment 0) (List.mem_map.mpr ⟨0, by simp [reassemblyMaxGroups], rfl⟩) with
        ⟨first, locatedFirst, created⟩
      have young : g.createdAt ≤ 0 := (oldest _ first locatedFirst).trans created.le
      have known : key ∈ ((List.range reassemblyMaxGroups).map firstSegment).map (·.key) := by
        by_contra unknown
        rw [kept key unknown] at located
        cases located
      rcases List.mem_map.mp known with ⟨call, member, rfl⟩
      rcases opened call member with ⟨g', locatedAgain, created'⟩
      obtain rfl := Option.some.inj (located.symm.trans locatedAgain)
      rcases List.mem_map.mp member with ⟨ref, -, rfl⟩
      have first : ref = 0 := Nat.le_zero.mp (created'.symm.le.trans young)
      rw [erased, first]
      rfl
  rw [evicted] at called
  have whole : (List.range (reassemblyMaxGroups + 1)).map firstSegment =
      (List.range reassemblyMaxGroups).map firstSegment ++ [firstSegment reassemblyMaxGroups] := by
    rw [List.range_succ, List.map_append, List.map_singleton]
  rw [whole]
  refine ⟨_, _, ReassemblyStore.addSegments_append ran
    (ReassemblyStore.addSegments_cons called rfl), ?_, ?_⟩
  · intro answer member
    rcases List.mem_append.mp member with before | second
    · rcases List.mem_map.mp before with ⟨call, -, rfl⟩
      rfl
    · obtain rfl := List.mem_singleton.mp second
      rfl
  · rw [AList.mem_insert, AList.mem_erase]
    rintro (equal | ⟨different, -⟩)
    · exact absurd (firstSegment_key (Nat.zero_le _) le_rfl equal) (by decide)
    · exact different rfl

/-- A message whose first segment is followed by the first segments of 20000 other messages is
never given out: its group is driven out, and the second segment opens another one. -/
theorem addSegments_flooded :
    secondSegment.key = twoPartMessage.key ∧
      (∀ call ∈ (List.range (reassemblyMaxGroups + 1)).map firstSegment ++ [secondSegment],
        call.key = twoPartMessage.key → twoPartMessage.Sent call) ∧
      secondSegment.info.part ∉ (twoPartMessage.segments
        ((List.range (reassemblyMaxGroups + 1)).map firstSegment)).map (·.info.part) ∧
      (∀ p, 1 ≤ p → p ≤ twoPartMessage.total → p ∈ (twoPartMessage.segments
        ((List.range (reassemblyMaxGroups + 1)).map firstSegment ++ [secondSegment])).map
          (·.info.part)) ∧
      ∃ answers after,
        (⟨∅⟩ : ReassemblyStore).addSegments
            ((List.range (reassemblyMaxGroups + 1)).map firstSegment ++ [secondSegment]) =
          some (answers, after) ∧ ∀ answer ∈ answers, answer.2.1 = none := by
  refine ⟨rfl, ?_, ?_, ?_, ?_⟩
  · intro call member key
    rcases List.mem_append.mp member with first | second
    · rcases List.mem_map.mp first with ⟨ref, small, rfl⟩
      rw [List.mem_range] at small
      obtain rfl := firstSegment_key (by omega) (by omega) key
      exact firstSegment_sent
    · obtain rfl := List.mem_singleton.mp second
      exact secondSegment_sent
  · intro member
    rcases List.mem_map.mp member with ⟨call, present, part⟩
    rcases List.mem_map.mp (List.mem_filter.mp present).1 with ⟨ref, -, rfl⟩
    exact absurd part (by decide : (1 : UInt8) ≠ 2)
  · intro p first last
    rcases either_part first last with rfl | rfl
    · refine List.mem_map.mpr ⟨firstSegment 0, List.mem_filter.mpr ⟨?_, by simp [twoPartMessage]⟩, rfl⟩
      exact List.mem_append_left _ (List.mem_map.mpr ⟨0, by simp, rfl⟩)
    · refine List.mem_map.mpr ⟨secondSegment, List.mem_filter.mpr ⟨by simp, ?_⟩, rfl⟩
      simp [twoPartMessage, secondSegment]
  · rcases addSegments_firstSegments with ⟨answers, middle, ran, notReady, gone⟩
    have called := @ReassemblyStore.addSegment_opens middle secondSegment gone (by decide)
    refine ⟨_, _, ReassemblyStore.addSegments_append ran
      (ReassemblyStore.addSegments_cons called rfl), ?_⟩
    intro answer member
    rcases List.mem_append.mp member with before | second
    · exact notReady answer before
    · obtain rfl := List.mem_singleton.mp second
      rfl

end Klsmsc
