import Klsmsc.Inbound
import Mathlib.Order.Interval.Finset.Nat

/-!
# Joining segments and buffering them

One equation says what a call of `addSegment` does: the group of its key, or a new one, takes
the segment, and is buffered or joined. `assembleParts` returns the parts in order, except for
255 parts, where its counter starts again and it never returns.
-/

namespace Klsmsc

open Library

/-! ### Joining the parts -/

def joined (texts : UInt8 → GoString) (total : UInt8) : GoString :=
  (List.range' 1 total.toNat).flatMap fun part => texts (UInt8.ofNat part)

theorem assembleLoop_eq {total : UInt8} (bounded : total.toNat < 255) (parts : Parts) :
    ∀ (fuel count : ℕ) (p : UInt8) (b : GoString), p.toNat + count = total.toNat + 1 →
      count < fuel →
      assembleLoop parts total fuel p b =
        some (b ++ (List.range' p.toNat count).flatMap fun part =>
          (parts.lookup (UInt8.ofNat part)).getD []) := by
  intro fuel
  induction fuel with
  | zero => omega
  | succ fuel ih =>
      intro count p b position enough
      rw [assembleLoop]
      rcases count with _ | count
      · have ended : ¬ p ≤ total := by
          rw [UInt8.le_iff_toNat_le]
          omega
        simp [ended]
      · have going : p ≤ total := by
          rw [UInt8.le_iff_toNat_le]
          omega
        have next : (p + 1).toNat = p.toNat + 1 := by
          rw [UInt8.toNat_add]
          simp only [UInt8.toNat_one]
          omega
        rw [if_pos going, ih count (p + 1) _ (by omega) (by omega), next, List.range'_succ,
          List.flatMap_cons, UInt8.ofNat_toNat, List.append_assoc]

theorem assembleParts_eq {total : UInt8} (bounded : total ≠ 255) (parts : Parts) :
    assembleParts parts total = some (joined (fun p => (parts.lookup p).getD []) total) := by
  have below : total.toNat < 255 := by
    have small := total.toNat_lt
    have other : total.toNat ≠ 255 := fun equal => bounded (UInt8.toNat_inj.mp equal)
    omega
  rw [assembleParts, assembleLoop_eq below parts 256 total.toNat 1 [] (by simp; omega) (by omega)]
  rfl

theorem assembleLoop_never (parts : Parts) (fuel : ℕ) (p : UInt8) (b : GoString) :
    assembleLoop parts 255 fuel p b = none := by
  induction fuel generalizing p b with
  | zero => rfl
  | succ fuel ih =>
      have going : p ≤ 255 := by
        have := p.toNat_lt
        rw [UInt8.le_iff_toNat_le]
        simp only [UInt8.reduceToNat]
        omega
      rw [assembleLoop, if_pos going, ih]

theorem assembleParts_never (parts : Parts) : assembleParts parts 255 = none :=
  assembleLoop_never parts 256 1 []

theorem assembleParts_eq_some_iff {parts : Parts} {total : UInt8} {message : GoString} :
    assembleParts parts total = some message ↔
      total ≠ 255 ∧ message = joined (fun p => (parts.lookup p).getD []) total := by
  by_cases whole : total = 255
  · simp [whole, assembleParts_never]
  · simp [assembleParts_eq whole, whole, eq_comm]

/-! ### Counting the parts -/

section Counting

variable {parts : Parts} {total : UInt8}

theorem card_parts : parts.keys.length = (parts.keys.map UInt8.toNat).toFinset.card := by
  rw [List.toFinset_card_of_nodup, List.length_map]
  exact parts.keys_nodup.map fun _ _ => UInt8.toNat_inj.mp

theorem parts_subset (inside : ∀ p ∈ parts, 1 ≤ p ∧ p ≤ total) :
    (parts.keys.map UInt8.toNat).toFinset ⊆ Finset.Icc 1 total.toNat := by
  intro number member
  rw [List.mem_toFinset, List.mem_map] at member
  rcases member with ⟨p, present, rfl⟩
  rcases inside p (AList.mem_keys.mpr present) with ⟨first, last⟩
  rw [Finset.mem_Icc]
  exact ⟨UInt8.le_iff_toNat_le.mp first, UInt8.le_iff_toNat_le.mp last⟩

theorem length_parts_le (inside : ∀ p ∈ parts, 1 ≤ p ∧ p ≤ total) :
    parts.keys.length ≤ total.toNat := by
  rw [card_parts]
  simpa using Finset.card_le_card (parts_subset inside)

theorem length_parts_lt_iff (inside : ∀ p ∈ parts, 1 ≤ p ∧ p ≤ total) :
    parts.keys.length < total.toNat ↔ ∃ p, 1 ≤ p ∧ p ≤ total ∧ p ∉ parts := by
  constructor
  · intro fewer
    by_contra complete
    push Not at complete
    have all : Finset.Icc 1 total.toNat ⊆ (parts.keys.map UInt8.toNat).toFinset := by
      intro number member
      rw [Finset.mem_Icc] at member
      have small : number < 256 := lt_of_le_of_lt member.2 total.toNat_lt
      have same : (UInt8.ofNat number).toNat = number := by
        rw [UInt8.toNat_ofNat']
        omega
      have present := complete (UInt8.ofNat number)
        (UInt8.le_iff_toNat_le.mpr (by rw [same]; exact member.1))
        (UInt8.le_iff_toNat_le.mpr (by rw [same]; exact member.2))
      rw [List.mem_toFinset, List.mem_map]
      exact ⟨UInt8.ofNat number, AList.mem_keys.mp present, same⟩
    have := Finset.card_le_card all
    rw [← card_parts] at this
    simp at this
    omega
  · rintro ⟨p, first, last, missing⟩
    have member : p.toNat ∈ Finset.Icc 1 total.toNat :=
      Finset.mem_Icc.mpr ⟨UInt8.le_iff_toNat_le.mp first, UInt8.le_iff_toNat_le.mp last⟩
    have outside : p.toNat ∉ (parts.keys.map UInt8.toNat).toFinset := by
      rw [List.mem_toFinset, List.mem_map]
      rintro ⟨q, present, equal⟩
      obtain rfl := UInt8.toNat_inj.mp equal
      exact missing (AList.mem_keys.mpr present)
    have smaller := Finset.card_lt_card (Finset.ssubset_iff_subset_ne.mpr
      ⟨parts_subset inside, fun equal => outside (equal ▸ member)⟩)
    rw [← card_parts] at smaller
    simpa using smaller

end Counting

/-! ### What a call does -/

def SegmentCall.opened (call : SegmentCall) : ReassemblyGroup :=
  ⟨∅, call.info.total, { call.tmpl with messageId := call.messageId }, call.now⟩

def ReassemblyGroup.joinedJob (g : ReassemblyGroup) : SubmitJob :=
  { g.tmpl with message := joined (fun p => (g.parts.lookup p).getD []) g.total }

namespace ReassemblyStore

variable {rs : ReassemblyStore} {call : SegmentCall}

def grown (rs : ReassemblyStore) (call : SegmentCall) : ReassemblyGroup :=
  ((rs.groups.lookup call.key).getD call.opened).take call

/-- The groups besides that of a call: the oldest one is driven out when a group is to be opened
and there is no room for it. -/
def spaced (rs : ReassemblyStore) (call : SegmentCall) : ReassemblyStore :=
  if call.key ∉ rs.groups ∧ reassemblyMaxGroups ≤ rs.groups.keys.length then
    rs.evictOldestLocked call.order
  else rs

def RoomFor (rs : ReassemblyStore) (call : SegmentCall) : Prop :=
  call.key ∉ rs.groups → rs.groups.keys.length < reassemblyMaxGroups

theorem spaced_of_room (room : rs.RoomFor call) : rs.spaced call = rs := by
  rw [spaced, if_neg]
  rintro ⟨absent, full⟩
  have := room absent
  omega

theorem erase_insert (groups : AList fun _ : GoString => ReassemblyGroup) (key : GoString)
    (g : ReassemblyGroup) : (groups.insert key g).erase key = groups.erase key := by
  apply AList.ext
  change (groups.insert key g).entries.kerase key = groups.entries.kerase key
  simp [AList.entries_insert]

theorem addSegment_eq :
    rs.addSegment call =
      if UInt8.ofNat (rs.grown call).parts.keys.length < (rs.grown call).total then
        some ((none, (rs.grown call).tmpl.messageId),
          ⟨(rs.spaced call).groups.insert call.key (rs.grown call)⟩)
      else
        (assembleParts (rs.grown call).parts (rs.grown call).total).map fun message =>
          ((some { (rs.grown call).tmpl with message := message }, (rs.grown call).tmpl.messageId),
            ⟨(rs.spaced call).groups.erase call.key⟩) := by
  cases found : rs.groups.lookup call.key with
  | some g =>
      have present : call.key ∈ rs.groups := by
        rw [← AList.lookup_isSome, found, Option.isSome_some]
      simp [addSegment, groupFor, found, grown, spaced, present]
  | none =>
      have absent : call.key ∉ rs.groups := AList.lookup_eq_none.mp found
      simp only [addSegment, groupFor, found, grown, spaced, absent, not_false_eq_true, true_and,
        Option.getD_none, SegmentCall.opened, AList.insert_insert, erase_insert]

theorem addSegment_opens (absent : call.key ∉ rs.groups) (several : 1 < call.info.total) :
    rs.addSegment call =
      some ((none, call.messageId),
        ⟨(rs.spaced call).groups.insert call.key (call.opened.take call)⟩) := by
  have grown : rs.grown call = call.opened.take call := by
    rw [grown, AList.lookup_eq_none.mpr absent, Option.getD_none]
  have one : (call.opened.take call).parts.keys.length = 1 := by
    simp [ReassemblyGroup.take, SegmentCall.opened]
  have messageId : (call.opened.take call).tmpl.messageId = call.messageId := by
    rw [ReassemblyGroup.take]
    split <;> rfl
  rw [addSegment_eq, grown, one, if_pos, messageId]
  exact several

/-! ### The group that is driven out -/

theorem oldestOf_spec (entries : List (Σ _ : GoString, ReassemblyGroup))
    (oldest : Option (GoString × ℕ)) :
    (oldestOf entries oldest = none → entries = [] ∧ oldest = none) ∧
      ∀ key time, oldestOf entries oldest = some (key, time) →
        (oldest = some (key, time) ∨ ∃ g, ⟨key, g⟩ ∈ entries ∧ g.createdAt = time) ∧
        (∀ entry ∈ entries, time ≤ entry.2.createdAt) ∧
        ∀ other, oldest = some other → time ≤ other.2 := by
  induction entries generalizing oldest with
  | nil =>
      refine ⟨fun found => ⟨rfl, found⟩, ?_⟩
      intro key time found
      refine ⟨Or.inl found, by simp, ?_⟩
      rintro other known
      obtain rfl := Option.some.inj (found.symm.trans known)
      exact le_rfl
  | cons entry entries ih =>
      rcases entry with ⟨k, g⟩
      have step : ∃ next : GoString × ℕ, oldestOf (⟨k, g⟩ :: entries) oldest =
            oldestOf entries (some next) ∧
          (oldest = some next ∨ next = (k, g.createdAt)) ∧ next.2 ≤ g.createdAt ∧
          ∀ other, oldest = some other → next.2 ≤ other.2 := by
        rcases oldest with _ | ⟨oldestKey, oldestAt⟩
        · exact ⟨(k, g.createdAt), rfl, Or.inr rfl, le_rfl, by simp⟩
        · rw [oldestOf]
          by_cases older : g.createdAt < oldestAt
          · rw [if_pos older]
            exact ⟨_, rfl, Or.inr rfl, le_rfl, by simpa using le_of_lt older⟩
          · rw [if_neg older]
            exact ⟨_, rfl, Or.inl rfl, not_lt.mp older, by simp⟩
      rcases step with ⟨next, equal, origin, below, least⟩
      rw [equal]
      rcases ih (some next) with ⟨never, found⟩
      refine ⟨fun none => absurd (never none).2 (by simp), ?_⟩
      intro key time located
      rcases found key time located with ⟨source, lower, lowest⟩
      have bound := lowest next rfl
      refine ⟨?_, ?_, ?_⟩
      · rcases source with fromNext | ⟨g', member, created⟩
        · obtain rfl := Option.some.inj fromNext
          rcases origin with kept | taken
          · exact Or.inl kept
          · obtain ⟨rfl, rfl⟩ := Prod.mk.inj taken
            exact Or.inr ⟨g, by simp, rfl⟩
        · exact Or.inr ⟨g', by simp [member], created⟩
      · intro other member
        rcases List.mem_cons.mp member with rfl | inRest
        · exact bound.trans below
        · exact lower other inRest
      · intro other known
        exact bound.trans (least other known)

theorem evictOldestLocked_eq (order : MapOrder) :
    (rs.groups.keys = [] ∧ rs.evictOldestLocked order = rs) ∨
      ∃ key g, rs.groups.lookup key = some g ∧
        (∀ other g', rs.groups.lookup other = some g' → g.createdAt ≤ g'.createdAt) ∧
        rs.evictOldestLocked order = ⟨rs.groups.erase key⟩ := by
  have mem_iff : ∀ entry, entry ∈ order.order rs.groups.entries ↔ entry ∈ rs.groups.entries :=
    fun entry => (order.perm rs.groups.entries).mem_iff
  rcases oldestOf_spec (order.order rs.groups.entries) none with ⟨never, found⟩
  cases oldest : oldestOf (order.order rs.groups.entries) none with
  | none =>
      left
      have empty := (never oldest).1
      rw [List.eq_nil_iff_forall_not_mem] at empty
      refine ⟨?_, by rw [evictOldestLocked, oldest]⟩
      rw [AList.keys, List.keys, List.map_eq_nil_iff, List.eq_nil_iff_forall_not_mem]
      exact fun entry member => empty entry ((mem_iff entry).mpr member)
  | some chosen =>
      right
      rcases chosen with ⟨key, time⟩
      rcases found key time oldest with ⟨source, lower, -⟩
      rcases source with impossible | ⟨g, member, rfl⟩
      · cases impossible
      · refine ⟨key, g, AList.mem_lookup_iff.mpr ((mem_iff _).mp member), ?_, ?_⟩
        · intro other g' located
          exact lower ⟨other, g'⟩ ((mem_iff _).mpr (AList.mem_lookup_iff.mp located))
        · rw [evictOldestLocked, oldest]

theorem mem_of_mem_spaced {key : GoString} (member : key ∈ (rs.spaced call).groups) :
    key ∈ rs.groups := by
  rw [spaced] at member
  split at member
  · rcases rs.evictOldestLocked_eq call.order with ⟨-, same⟩ | ⟨oldest, g, -, -, erased⟩
    · rwa [same] at member
    · rw [erased] at member
      exact (AList.mem_erase.mp member).2
  · exact member

theorem addSegment_cases {ready : Option SubmitJob} {messageId : MessageId}
    {after : ReassemblyStore} (called : rs.addSegment call = some ((ready, messageId), after)) :
    (ready = none ∧ after = ⟨(rs.spaced call).groups.insert call.key (rs.grown call)⟩) ∨
      (ready = some (rs.grown call).joinedJob ∧ after = ⟨(rs.spaced call).groups.erase call.key⟩) := by
  rw [addSegment_eq] at called
  split at called
  · obtain ⟨answer, rfl⟩ := Prod.mk.inj (Option.some.inj called)
    obtain ⟨rfl, -⟩ := Prod.mk.inj answer
    exact Or.inl ⟨rfl, rfl⟩
  · rcases Option.map_eq_some_iff.mp called with ⟨message, assembled, outcome⟩
    obtain ⟨answer, rfl⟩ := Prod.mk.inj outcome
    obtain ⟨rfl, -⟩ := Prod.mk.inj answer
    right
    rw [ReassemblyGroup.joinedJob, ← (assembleParts_eq_some_iff.mp assembled).2]
    exact ⟨rfl, rfl⟩

end ReassemblyStore

end Klsmsc
