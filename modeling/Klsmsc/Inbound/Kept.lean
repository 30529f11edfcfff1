import Klsmsc.Inbound.Exact
import Klsmsc.Inbound.Forwarded
import Mathlib.Tactic.IntervalCases

/-!
# No acknowledged segment is lost

A segment that was answered with `ESME_ROK` stays in its group until a job that contains it is
handed over, as long as no group has to be driven out and no segment takes the place of another
one with a different text.
-/

namespace Klsmsc

open Library

/-! ### Keys -/

theorem decimal_no_bar (number : ℕ) : (0x7C : UInt8) ∉ decimal number := by
  intro member
  rw [decimal, utf8, List.mem_flatMap] at member
  rcases member with ⟨digit, inDigits, inside⟩
  have isDigit := toString_digits inDigits
  rw [Char.isDigit, Bool.and_eq_true, decide_eq_true_eq, decide_eq_true_eq] at isDigit
  have lower : 48 ≤ digit.toNat := isDigit.1
  have upper : digit.toNat ≤ 57 := isDigit.2
  rw [← Char.ofNat_toNat digit] at inside
  revert inside
  interval_cases digit.toNat <;> decide

theorem reassemblyKey_total {accountId accountId' : ℕ} {src src' dst dst' : GoString}
    {ref ref' : UInt16} {total total' : UInt8}
    (equal : reassemblyKey accountId src dst ref total =
      reassemblyKey accountId' src' dst' ref' total') : total = total' := by
  have tail : ∀ (front : GoString) (number : ℕ),
      ((front ++ 0x7C :: decimal number).reverse.takeWhile (· ≠ 0x7C)).reverse = decimal number := by
    intro front number
    have digits : ∀ byte ∈ (decimal number).reverse, decide (byte ≠ 0x7C) = true := by
      intro byte member
      rw [decide_eq_true_eq]
      rintro rfl
      exact decimal_no_bar number (List.mem_reverse.mp member)
    rw [List.reverse_append, List.reverse_cons, List.append_assoc,
      List.takeWhile_append_of_pos digits]
    simp
  have shape : ∀ (accountId : ℕ) (src dst : GoString) (ref : UInt16) (total : UInt8),
      reassemblyKey accountId src dst ref total =
        (decimal accountId ++ [0x7C] ++ src ++ [0x7C] ++ dst ++ [0x7C] ++ decimal ref.toNat) ++
          0x7C :: decimal total.toNat := by
    intro accountId src dst ref total
    simp [reassemblyKey, List.intersperse]
  have last := congrArg (fun key : GoString =>
    (key.reverse.takeWhile (· ≠ 0x7C)).reverse) equal
  simp only [shape] at last
  rw [tail, tail] at last
  exact UInt8.toNat_inj.mp (decimal_injective last)

theorem segmentOf_spec {s : InboundSession} {sm : SubmitSMBody} {draw : Draw} {call : SegmentCall}
    (brings : Inbound.segmentOf s sm draw = some call) :
    (∃ accountId src dst ref, call.key = reassemblyKey accountId src dst ref call.info.total) ∧
      1 < call.info.total ∧ 1 ≤ call.info.part ∧ call.info.part ≤ call.info.total := by
  unfold Inbound.segmentOf at brings
  split at brings
  · dsimp only at brings
    split at brings
    · rename_i checked
      obtain rfl := Option.some.inj brings
      exact ⟨⟨_, _, _, _, rfl⟩, checked.2⟩
    · cases brings
  · cases brings

theorem segment_spec {event : InboundEvent} {message : ℕ} {call : SegmentCall}
    (brings : event.segment = some (message, call)) :
    (∃ accountId src dst ref, call.key = reassemblyKey accountId src dst ref call.info.total) ∧
      1 < call.info.total ∧ 1 ≤ call.info.part ∧ call.info.part ≤ call.info.total := by
  unfold InboundEvent.segment at brings
  split at brings
  · split at brings
    · rcases Option.map_eq_some_iff.mp brings with ⟨found, located, outcome⟩
      obtain ⟨-, rfl⟩ := Prod.mk.inj outcome
      rcases Option.bind_eq_some_iff.mp located with ⟨sm, -, brings⟩
      exact segmentOf_spec brings
    · cases brings
  · cases brings

namespace Inbound

def Kept (gw : Inbound) (arrival : Arrival) : Prop :=
  (arrival.call.key ∈ gw.udhStore.groups ∧ arrival ∈ gw.taken arrival.call.key) ∨
    ∃ handed, (handed ∈ gw.forwarded ∨ handed ∈ gw.rejected) ∧ arrival ∈ handed.segments ∧
      arrival.call.segText <:+: handed.job.message

/-- A segment comes into a group for which there is room, and brings the text that the group has
for its part, if it has one. -/
def Harmless (gw : Inbound) (event : InboundEvent) : Prop :=
  ∀ message call, event.segment = some (message, call) → gw.udhStore.RoomFor call ∧
    ∀ g text, gw.udhStore.groups.lookup call.key = some g →
      g.parts.lookup call.info.part = some text → text = call.segText

instance (gw : Inbound) (event : InboundEvent) : Decidable (gw.Harmless event) :=
  decidable_of_iff
    (∀ brings ∈ event.segment,
      (brings.2.key ∉ gw.udhStore.groups → gw.udhStore.groups.keys.length < reassemblyMaxGroups) ∧
        ∀ g ∈ gw.udhStore.groups.lookup brings.2.key,
          ∀ text ∈ g.parts.lookup brings.2.info.part, text = brings.2.segText) <| by
    constructor
    · intro holds message call brings
      rcases holds (message, call) brings with ⟨room, same⟩
      exact ⟨room, fun g text found located => same g found text located⟩
    · rintro harmless ⟨message, call⟩ brings
      rcases harmless message call brings with ⟨room, same⟩
      exact ⟨room, fun g found text located => same g text found located⟩

structure HoldsArrival (g : ReassemblyGroup) (arrival : Arrival) : Prop where
  first : 1 ≤ arrival.call.info.part
  last : arrival.call.info.part ≤ g.total
  text : g.parts.lookup arrival.call.info.part = some arrival.call.segText

structure Stored (gw : Inbound) (key : GoString) (g : ReassemblyGroup) : Prop where
  total : ∃ accountId src dst ref, key = reassemblyKey accountId src dst ref g.total
  holds : ∀ arrival ∈ gw.taken key, arrival.call.key = key ∧ HoldsArrival g arrival

structure Intact (gw : Inbound) : Prop where
  stored : ∀ key g, gw.udhStore.groups.lookup key = some g → gw.Stored key g
  kept : ∀ acknowledged ∈ gw.acknowledged, gw.Kept acknowledged.1

/-! ### Steps -/

section

variable {gw after : Inbound}

theorem joined_contains {texts : UInt8 → GoString} {total p : UInt8} (first : 1 ≤ p)
    (last : p ≤ total) : texts p <:+: joined texts total := by
  rw [UInt8.le_iff_toNat_le] at first last
  have member : texts p ∈ (List.range' 1 total.toNat).map fun part => texts (UInt8.ofNat part) := by
    refine List.mem_map.mpr ⟨p.toNat, ?_, by rw [UInt8.ofNat_toNat]⟩
    rw [List.mem_range'_1]
    exact ⟨first, by omega⟩
  rw [joined, List.flatMap_def]
  exact List.infix_of_mem_flatten member

theorem HoldsArrival.contained {g : ReassemblyGroup} {arrival : Arrival}
    (holds : HoldsArrival g arrival) :
    arrival.call.segText <:+: g.joinedJob.message := by
  have part := @joined_contains (fun p => (g.parts.lookup p).getD []) _ _ holds.first holds.last
  rw [holds.text, Option.getD_some] at part
  exact part

theorem HandsOver.handed {jobs : List Handed} (hands : gw.HandsOver jobs after) {handed : Handed}
    (before : handed ∈ gw.forwarded ∨ handed ∈ gw.rejected) :
    handed ∈ after.forwarded ∨ handed ∈ after.rejected := by
  rcases hands.forwards with ⟨queued, -, forwards⟩
  rcases hands.rejects with ⟨refused, -, rejects⟩
  rw [forwards, rejects]
  exact before.imp (List.mem_append_left _) (List.mem_append_left _)

theorem Intact.passes (intact : gw.Intact) (passes : gw.Passes after) : after.Intact := by
  rcases passes.hands with ⟨jobs, hands, -⟩
  refine ⟨?_, ?_⟩
  · intro key g found
    rw [passes.same.udhStore] at found
    refine ⟨(intact.stored key g found).total, ?_⟩
    rw [passes.same.taken]
    exact (intact.stored key g found).holds
  · intro acknowledged member
    rw [passes.same.acknowledged] at member
    rcases intact.kept acknowledged member with live | ⟨handed, before, inside, contained⟩
    · left
      rw [passes.same.udhStore, passes.same.taken]
      exact live
    · exact Or.inr ⟨handed, hands.handed before, inside, contained⟩

theorem Intact.reaps (intact : gw.Intact) {now : ℕ} {order : MapOrder}
    (reaps : gw.Reaps now order after) : after.Intact := by
  rcases reaps.flushed with ⟨flush, flushed⟩
  rcases expired_spec gw now order with ⟨-, located⟩
  refine ⟨?_, ?_⟩
  · intro key g found
    have outside : key ∉ (gw.expired now order).map (·.1) := by
      intro member
      rcases List.mem_map.mp member with ⟨entry, expired, rfl⟩
      apply flushed.gone entry expired
      rw [← AList.lookup_isSome, found, Option.isSome_some]
    rw [flushed.kept key outside] at found
    refine ⟨(intact.stored key g found).total, ?_⟩
    rw [reaps.taken]
    exact (intact.stored key g found).holds
  · intro acknowledged member
    rw [reaps.acknowledged] at member
    rcases intact.kept acknowledged member with ⟨present, inside⟩ | ⟨handed, before, inside, text⟩
    · by_cases expired : acknowledged.1.call.key ∈ (gw.expired now order).map (·.1)
      · rcases List.mem_map.mp expired with ⟨entry, isExpired, key⟩
        have stored := intact.stored _ _ (located entry isExpired)
        rw [key] at stored
        right
        refine ⟨⟨entry.2.joinedJob, gw.taken entry.1⟩,
          reaps.hands.all _ (List.mem_map.mpr ⟨entry, isExpired, rfl⟩), ?_,
          (stored.holds _ inside).2.contained⟩
        rw [key]
        exact inside
      · left
        rw [reaps.taken, ← AList.lookup_isSome, flushed.kept _ expired, AList.lookup_isSome]
        exact ⟨present, inside⟩
    · exact Or.inr ⟨handed, reaps.hands.handed before, inside, text⟩

theorem HoldsArrival.take {g : ReassemblyGroup} {arrival : Arrival} {call : SegmentCall}
    (holds : HoldsArrival g arrival)
    (same : ∀ text, g.parts.lookup call.info.part = some text → text = call.segText) :
    HoldsArrival (g.take call) arrival := by
  refine ⟨holds.first, by rw [take_total]; exact holds.last, ?_⟩
  rw [take_lookup]
  by_cases again : arrival.call.info.part = call.info.part
  · have text := holds.text
    rw [again] at text
    rw [if_pos again, same _ text]
  · rw [if_neg again]
    exact holds.text

theorem Intact.grown (intact : gw.Intact) {arrival : Arrival}
    (key : ∃ accountId src dst ref,
      arrival.call.key = reassemblyKey accountId src dst ref arrival.call.info.total)
    (first : 1 ≤ arrival.call.info.part) (last : arrival.call.info.part ≤ arrival.call.info.total)
    (same : ∀ g text, gw.udhStore.groups.lookup arrival.call.key = some g →
      g.parts.lookup arrival.call.info.part = some text → text = arrival.call.segText) :
    (gw.udhStore.grown arrival.call).total = arrival.call.info.total ∧
      ∀ other ∈ gw.takenWith arrival, other.call.key = arrival.call.key ∧
        HoldsArrival (gw.udhStore.grown arrival.call) other := by
  have total : (gw.udhStore.grown arrival.call).total = arrival.call.info.total := by
    rw [ReassemblyStore.grown, take_total]
    cases found : gw.udhStore.groups.lookup arrival.call.key with
    | none => rfl
    | some g =>
        rcases (intact.stored _ g found).total with ⟨accountId, src, dst, ref, here⟩
        rcases key with ⟨accountId', src', dst', ref', there⟩
        exact reassemblyKey_total (here.symm.trans there)
  refine ⟨total, ?_⟩
  intro other member
  rcases mem_takenWith member with rfl | ⟨present, inside⟩
  · refine ⟨rfl, first, by rw [total]; exact last, ?_⟩
    rw [ReassemblyStore.grown, take_lookup, if_pos rfl]
  · rcases Option.isSome_iff_exists.mp (AList.lookup_isSome.mpr present) with ⟨g, found⟩
    rcases (intact.stored _ g found).holds other inside with ⟨otherKey, holds⟩
    refine ⟨otherKey, ?_⟩
    rw [ReassemblyStore.grown, found, Option.getD_some]
    exact holds.take fun text => same g text found

theorem Intact.takes (intact : gw.Intact) {number : ℕ} {call : SegmentCall}
    (takes : gw.Takes number call after)
    (key : ∃ accountId src dst ref, call.key = reassemblyKey accountId src dst ref call.info.total)
    (first : 1 ≤ call.info.part) (last : call.info.part ≤ call.info.total)
    (room : gw.udhStore.RoomFor call)
    (same : ∀ g text, gw.udhStore.groups.lookup call.key = some g →
      g.parts.lookup call.info.part = some text → text = call.segText) : after.Intact := by
  rcases takes.answered with ⟨ready, messageId, called, acknowledged, hands⟩
  rcases @Intact.grown gw intact ⟨gw.acknowledged.length, number, call⟩ key first last same with
    ⟨total, holds⟩
  have spaced := ReassemblyStore.spaced_of_room room
  -- the other groups are as before
  have elsewhere : ∀ other, other ≠ call.key →
      after.udhStore.groups.lookup other = gw.udhStore.groups.lookup other ∧
        after.taken other = gw.taken other := by
    intro other different
    rw [takes.taken, Function.update_of_ne different]
    refine ⟨?_, rfl⟩
    rcases ReassemblyStore.addSegment_cases called with ⟨-, store⟩ | ⟨-, store⟩
    · rw [store, spaced, AList.lookup_insert_ne different]
    · rw [store, spaced, AList.lookup_erase_ne different]
  have here : after.taken call.key = gw.takenWith ⟨gw.acknowledged.length, number, call⟩ := by
    rw [takes.taken, Function.update_self]
  -- a segment of this group is in it, or in the job that it has become
  have keptHere : ∀ arrival ∈ gw.takenWith ⟨gw.acknowledged.length, number, call⟩,
      after.Kept arrival := by
    intro arrival member
    rcases holds arrival member with ⟨arrivalKey, holding⟩
    rcases ReassemblyStore.addSegment_cases called with ⟨-, store⟩ | ⟨rfl, -⟩
    · left
      rw [arrivalKey, here, store, AList.mem_insert]
      exact ⟨Or.inl rfl, member⟩
    · exact Or.inr ⟨_, hands.all _ (List.mem_singleton.mpr rfl), member, holding.contained⟩
  refine ⟨?_, ?_⟩
  · intro other g found
    by_cases sameKey : other = call.key
    · subst sameKey
      rcases ReassemblyStore.addSegment_cases called with ⟨-, store⟩ | ⟨-, store⟩
      · rw [store, AList.lookup_insert] at found
        obtain rfl := Option.some.inj found
        refine ⟨?_, ?_⟩
        · rw [total]
          exact key
        · rw [here]
          exact holds
      · rw [store, AList.lookup_erase] at found
        cases found
    · rcases elsewhere other sameKey with ⟨lookup, taken⟩
      rw [lookup] at found
      refine ⟨(intact.stored other g found).total, ?_⟩
      rw [taken]
      exact (intact.stored other g found).holds
  · intro answer member
    rw [acknowledged] at member
    rcases List.mem_append.mp member with before | now
    · rcases intact.kept answer before with ⟨present, inside⟩ | ⟨handed, earlier, inside, text⟩
      · by_cases sameKey : answer.1.call.key = call.key
        · apply keptHere
          rw [takenWith, if_pos (sameKey ▸ present), ← sameKey]
          exact List.mem_append_left _ inside
        · rcases elsewhere _ sameKey with ⟨lookup, taken⟩
          left
          rw [taken, ← AList.lookup_isSome, lookup, AList.lookup_isSome]
          exact ⟨present, inside⟩
      · exact Or.inr ⟨handed, hands.handed earlier, inside, text⟩
    · obtain rfl := List.mem_singleton.mp now
      apply keptHere
      rw [takenWith]
      exact List.mem_append_right _ (List.mem_singleton.mpr rfl)

end

theorem Takes.drives_out {gw after : Inbound} {number : ℕ} {call : SegmentCall}
    (takes : gw.Takes number call after) (absent : call.key ∉ gw.udhStore.groups)
    (several : 1 < call.info.total) (full : reassemblyMaxGroups ≤ gw.udhStore.groups.keys.length) :
    ∃ key ∈ gw.udhStore.groups, key ∉ after.udhStore.groups ∧ after.forwarded = gw.forwarded ∧
      after.rejected = gw.rejected := by
  rcases takes.answered with ⟨ready, messageId, called, -, hands⟩
  rw [ReassemblyStore.addSegment_opens absent several] at called
  obtain ⟨answer, store⟩ := Prod.mk.inj (Option.some.inj called)
  obtain ⟨rfl, -⟩ := Prod.mk.inj answer
  rcases hands.forwards with ⟨queued, noneQueued, forwards⟩
  rcases hands.rejects with ⟨refused, noneRefused, rejects⟩
  rw [List.sublist_nil.mp noneQueued, List.append_nil] at forwards
  rw [List.sublist_nil.mp noneRefused, List.append_nil] at rejects
  rcases gw.udhStore.evictOldestLocked_eq call.order with ⟨empty, -⟩ | ⟨key, g, found, -, erased⟩
  · rw [empty] at full
    cases full
  · have present : key ∈ gw.udhStore.groups := by
      rw [← AList.lookup_isSome, found, Option.isSome_some]
    refine ⟨key, present, ?_, forwards, rejects⟩
    rw [← store, ReassemblyStore.spaced, if_pos ⟨absent, full⟩, erased, AList.mem_insert,
      AList.mem_erase]
    rintro (equal | ⟨different, -⟩)
    · exact absent (equal ▸ present)
    · exact different rfl

theorem Intact.step {submitQueueSize : ℕ} {before after : Inbound} {event : InboundEvent}
    (stepped : Guarded (Inbound.Step submitQueueSize) Harmless before event after)
    (intact : before.Intact) : after.Intact := by
  rcases stepped with ⟨stepped, harmless⟩
  rcases next_cases stepped with
    ⟨-, passes⟩ | ⟨number, call, brings, takes⟩ | ⟨now, order, rfl, reaps⟩
  · exact intact.passes passes
  · rcases segment_spec brings with ⟨key, -, first, last⟩
    rcases harmless number call brings with ⟨room, same⟩
    exact intact.takes takes key first last room same
  · exact intact.reaps reaps

theorem intact_start : Inbound.start.Intact := by
  refine ⟨?_, by simp [start]⟩
  intro key g found
  cases found

end Inbound

/-! ### Runs -/

/-- In a run in which no segment needs room that is not there or takes the place of another text,
every acknowledged segment is in its group or in a job that was handed over. -/
theorem acknowledged_kept (submitQueueSize : ℕ) {last : Inbound}
    {transitions : List (Transition Inbound InboundEvent)}
    (run : Run (Inbound.Step submitQueueSize) Inbound.start transitions last)
    (harmless : ∀ transition ∈ transitions, transition.before.Harmless transition.label) :
    (∀ answer ∈ last.acknowledged, last.Kept answer.1) ∧
      ∀ transition ∈ transitions, ∀ answer ∈ transition.after.acknowledged,
        transition.after.Kept answer.1 := by
  rcases (run.guarded harmless).invariant
    (fun _ _ _ stepped intact => Inbound.Intact.step stepped intact) Inbound.intact_start with
    ⟨atEnd, inside⟩
  exact ⟨atEnd.kept, fun transition member => (inside transition member).2.kept⟩

/-- The segments of a message arrive after one another, and each of them is kept. -/
theorem acknowledged_kept_arrives :
    ∃ transitions last, Run (Inbound.Step 100) Inbound.start transitions last ∧
      last.acknowledged.length = 2 ∧ ∀ answer ∈ last.acknowledged, last.Kept answer.1 := by
  have passed : ((execute (Inbound.next 100) Inbound.start arrives).any fun outcome =>
      (outcome.1.all fun transition => decide (transition.before.Harmless transition.label)) &&
      outcome.2.acknowledged.length == 2) = true := by
    decide
  rcases Run.exists_of_execute _ passed with ⟨transitions, last, run, holds⟩
  rw [Bool.and_eq_true, List.all_eq_true, beq_iff_eq] at holds
  refine ⟨transitions, last, run, holds.2, ?_⟩
  exact (acknowledged_kept 100 run fun transition member =>
    of_decide_eq_true (holds.1 transition member)).1

def mingles : List InboundEvent :=
  [.submit transmitter true (some (partRequest 1 [0x41])) (drawAt 1),
    .submit transmitter true (some (partRequest 1 [0x43])) (drawAt 2),
    .submit transmitter true (some (partRequest 2 [0x42])) (drawAt 3)]

/-- A segment whose part comes again with another text is in no job. -/
theorem acknowledged_lost :
    ∃ transitions last, Run (Inbound.Step 100) Inbound.start transitions last ∧
      ∃ answer ∈ last.acknowledged, ¬ last.Kept answer.1 := by
  have passed : ((execute (Inbound.next 100) Inbound.start mingles).any fun outcome =>
      outcome.2.udhStore.groups.keys.isEmpty &&
      (outcome.2.acknowledged.any fun answer =>
        ((outcome.2.forwarded ++ outcome.2.rejected).all fun handed =>
          decide (¬ answer.1.call.segText <:+: handed.job.message)))) = true := by
    decide
  rcases Run.exists_of_execute _ passed with ⟨transitions, last, run, holds⟩
  rw [Bool.and_eq_true, List.isEmpty_iff, List.any_eq_true] at holds
  rcases holds with ⟨empty, answer, member, lost⟩
  rw [List.all_eq_true] at lost
  refine ⟨transitions, last, run, answer, member, ?_⟩
  rintro (⟨present, -⟩ | ⟨handed, given, -, contained⟩)
  · rw [AList.mem_keys, empty] at present
    cases present
  · exact of_decide_eq_true (lost handed (List.mem_append.mpr given)) contained

end Klsmsc
