import Klsmsc.Inbound.Steps

/-!
# A message is forwarded once

Completing a message removes its group, so that a segment that is sent again opens a new group,
which the reaper flushes as a message of its own. As long as no segment of a message arrives after
a job with one of its segments has been forwarded, one job at most is forwarded for it.
-/

namespace Klsmsc

open Library

def Arrival.Of (message : ℕ) (key : GoString) (arrival : Arrival) : Prop :=
  arrival.message = message ∧ arrival.call.key = key

instance (message : ℕ) (key : GoString) : DecidablePred (Arrival.Of message key) :=
  fun arrival => inferInstanceAs (Decidable (arrival.message = message ∧ arrival.call.key = key))

def Handed.Of (message : ℕ) (key : GoString) (handed : Handed) : Prop :=
  ∃ arrival ∈ handed.segments, arrival.Of message key

instance (message : ℕ) (key : GoString) : DecidablePred (Handed.Of message key) :=
  fun handed => inferInstanceAs (Decidable (∃ arrival ∈ handed.segments, arrival.Of message key))

namespace Inbound

def forwardedOf (gw : Inbound) (message : ℕ) (key : GoString) : List Handed :=
  gw.forwarded.filter fun handed => handed.Of message key

def Keyed (gw : Inbound) : Prop :=
  ∀ key ∈ gw.udhStore.groups, ∀ arrival ∈ gw.taken key, arrival.call.key = key

structure Once (message : ℕ) (key : GoString) (gw : Inbound) : Prop where
  keyed : gw.Keyed
  once : (gw.forwardedOf message key).length ≤ 1
  done : gw.forwardedOf message key ≠ [] →
    ∀ other ∈ gw.udhStore.groups, ∀ arrival ∈ gw.taken other, ¬ arrival.Of message key

section

variable {message : ℕ} {key : GoString} {gw after : Inbound}

theorem HandsOver.forwardedOf {jobs : List Handed} (hands : gw.HandsOver jobs after) :
    ∃ more, more.Sublist (jobs.filter fun handed => handed.Of message key) ∧
      after.forwardedOf message key = gw.forwardedOf message key ++ more := by
  rcases hands.forwards with ⟨queued, part, forwards⟩
  refine ⟨queued.filter fun handed => handed.Of message key, part.filter _, ?_⟩
  rw [Inbound.forwardedOf, forwards, List.filter_append]
  rfl

theorem HandsOver.forwardedOf_same {jobs : List Handed} (hands : gw.HandsOver jobs after)
    (others : ∀ handed ∈ jobs, ¬ handed.Of message key) :
    after.forwardedOf message key = gw.forwardedOf message key := by
  rcases @HandsOver.forwardedOf message key _ _ _ hands with ⟨more, part, forwards⟩
  have none : jobs.filter (fun handed => handed.Of message key) = [] := by
    rw [List.filter_eq_nil_iff]
    simpa using others
  rw [none, List.sublist_nil] at part
  rw [forwards, part, List.append_nil]

theorem HandsOver.forwardedOf_le_one {jobs : List Handed} (hands : gw.HandsOver jobs after)
    (none : gw.forwardedOf message key = [])
    (one : (jobs.filter fun handed => handed.Of message key).length ≤ 1) :
    (after.forwardedOf message key).length ≤ 1 := by
  rcases @HandsOver.forwardedOf message key _ _ _ hands with ⟨more, part, forwards⟩
  rw [forwards, none, List.nil_append]
  exact part.length_le.trans one

/-! ### Steps -/

theorem Once.passes (before : gw.Once message key) (passes : gw.Passes after) :
    after.Once message key := by
  rcases passes.hands with ⟨jobs, hands, single⟩
  have same : after.forwardedOf message key = gw.forwardedOf message key := by
    apply hands.forwardedOf_same
    rintro handed member ⟨arrival, inside, -⟩
    rw [single handed member] at inside
    cases inside
  refine ⟨?_, ?_, ?_⟩
  · intro other present arrival inside
    rw [passes.same.udhStore] at present
    rw [passes.same.taken] at inside
    exact before.keyed other present arrival inside
  · rw [same]
    exact before.once
  · intro some other present arrival inside
    rw [same] at some
    rw [passes.same.udhStore] at present
    rw [passes.same.taken] at inside
    exact before.done some other present arrival inside

theorem mem_takenWith {arrival other : Arrival} (member : other ∈ gw.takenWith arrival) :
    other = arrival ∨
      arrival.call.key ∈ gw.udhStore.groups ∧ other ∈ gw.taken arrival.call.key := by
  rw [takenWith] at member
  rcases List.mem_append.mp member with earlier | now
  · by_cases present : arrival.call.key ∈ gw.udhStore.groups
    · rw [if_pos present] at earlier
      exact Or.inr ⟨present, earlier⟩
    · rw [if_neg present] at earlier
      cases earlier
  · exact Or.inl (List.mem_singleton.mp now)

theorem Once.takes (before : gw.Once message key) {number : ℕ} {call : SegmentCall}
    (takes : gw.Takes number call after)
    (timely : number = message → call.key = key → gw.forwardedOf message key = []) :
    after.Once message key := by
  rcases takes.answered with ⟨ready, messageId, called, -, hands⟩
  have keyedWith : ∀ arrival ∈ gw.takenWith ⟨gw.acknowledged.length, number, call⟩,
      arrival.call.key = call.key := by
    intro arrival member
    rcases mem_takenWith member with rfl | ⟨present, inside⟩
    · rfl
    · exact before.keyed _ present arrival inside
  have noneOf : ∀ arrival ∈ gw.takenWith ⟨gw.acknowledged.length, number, call⟩,
      arrival.Of message key → gw.forwardedOf message key = [] := by
    intro arrival member ofMessage
    rcases mem_takenWith member with rfl | ⟨present, inside⟩
    · exact timely ofMessage.1 ofMessage.2
    · by_contra some
      exact before.done some _ present arrival inside ofMessage
  have elsewhere : ∀ other ∈ after.udhStore.groups, other ≠ call.key →
      other ∈ gw.udhStore.groups ∧ after.taken other = gw.taken other := by
    intro other present different
    rw [takes.taken, Function.update_of_ne different]
    refine ⟨?_, rfl⟩
    rcases ReassemblyStore.addSegment_cases called with ⟨-, store⟩ | ⟨-, store⟩
    · rw [store] at present
      rcases (AList.mem_insert _).mp present with equal | earlier
      · exact absurd equal different
      · exact ReassemblyStore.mem_of_mem_spaced earlier
    · rw [store] at present
      exact ReassemblyStore.mem_of_mem_spaced (AList.mem_erase.mp present).2
  have keyed : after.Keyed := by
    intro other present arrival inside
    by_cases same : other = call.key
    · rw [takes.taken, same, Function.update_self] at inside
      rw [same]
      exact keyedWith arrival inside
    · rcases elsewhere other present same with ⟨earlier, taken⟩
      rw [taken] at inside
      exact before.keyed other earlier arrival inside
  rcases ReassemblyStore.addSegment_cases called with ⟨rfl, store⟩ | ⟨rfl, store⟩
  · -- the segment is buffered: nothing is handed over
    have same : after.forwardedOf message key = gw.forwardedOf message key :=
      hands.forwardedOf_same (by simp)
    refine ⟨keyed, by rw [same]; exact before.once, ?_⟩
    intro some other present arrival inside ofMessage
    rw [same] at some
    by_cases sameKey : other = call.key
    · rw [takes.taken, sameKey, Function.update_self] at inside
      exact some (noneOf arrival inside ofMessage)
    · rcases elsewhere other present sameKey with ⟨earlier, taken⟩
      rw [taken] at inside
      exact before.done some other earlier arrival inside ofMessage
  · -- the group is complete and gone
    have gone : call.key ∉ after.udhStore.groups := by
      rw [store, AList.mem_erase]
      exact fun present => present.1 rfl
    by_cases ofMessage : ∃ arrival ∈ gw.takenWith ⟨gw.acknowledged.length, number, call⟩,
        arrival.Of message key
    · rcases ofMessage with ⟨arrival, member, isOf⟩
      have sameKey : call.key = key := (keyedWith arrival member).symm.trans isOf.2
      refine ⟨keyed, hands.forwardedOf_le_one (noneOf arrival member isOf)
        (List.length_filter_le _ _), ?_⟩
      intro _ other present arrival' inside isOf'
      have otherKey := (keyed other present arrival' inside).symm.trans isOf'.2
      rw [otherKey, ← sameKey] at present
      exact gone present
    · have same : after.forwardedOf message key = gw.forwardedOf message key := by
        apply hands.forwardedOf_same
        intro handed member
        obtain rfl := List.mem_singleton.mp member
        exact ofMessage
      refine ⟨keyed, by rw [same]; exact before.once, ?_⟩
      intro some other present arrival inside isOf
      rw [same] at some
      have different : other ≠ call.key := fun equal => gone (equal ▸ present)
      rcases elsewhere other present different with ⟨earlier, taken⟩
      rw [taken] at inside
      exact before.done some other earlier arrival inside isOf

theorem length_filter_key {entries : List (Σ _ : GoString, ReassemblyGroup)}
    (distinct : (entries.map (·.1)).Nodup) {chosen : (Σ _ : GoString, ReassemblyGroup) → Bool}
    (only : ∀ entry ∈ entries, chosen entry = true → entry.1 = key) :
    (entries.filter chosen).length ≤ 1 := by
  have all : (entries.filter chosen).map (·.1) =
      List.replicate (entries.filter chosen).length key := by
    rw [List.eq_replicate_iff, List.length_map]
    refine ⟨rfl, ?_⟩
    intro other member
    rcases List.mem_map.mp member with ⟨entry, inside, rfl⟩
    rcases List.mem_filter.mp inside with ⟨present, taken⟩
    exact only entry present taken
  have nodup : ((entries.filter chosen).map (·.1)).Nodup :=
    distinct.sublist (List.filter_sublist.map _)
  rw [all, List.nodup_replicate] at nodup
  exact nodup

theorem expired_spec (gw : Inbound) (now : ℕ) (order : MapOrder) :
    ((gw.expired now order).map (·.1)).Nodup ∧
      ∀ entry ∈ gw.expired now order, gw.udhStore.groups.lookup entry.1 = some entry.2 := by
  have perm := order.perm gw.udhStore.groups.entries
  constructor
  · have keys : ((order.order gw.udhStore.groups.entries).map (·.1)).Nodup :=
      (perm.map _).nodup_iff.mpr gw.udhStore.groups.keys_nodup
    exact keys.sublist (List.filter_sublist.map _)
  · intro entry member
    exact AList.mem_lookup_iff.mpr (perm.mem_iff.mp (List.mem_filter.mp member).1)

theorem Once.reaps (before : gw.Once message key) {now : ℕ} {order : MapOrder}
    (reaps : gw.Reaps now order after) : after.Once message key := by
  rcases reaps.flushed with ⟨flush, flushed⟩
  rcases expired_spec gw now order with ⟨distinct, located⟩
  have present : ∀ entry ∈ gw.expired now order, entry.1 ∈ gw.udhStore.groups := by
    intro entry member
    rw [← AList.lookup_isSome, located entry member, Option.isSome_some]
  have keyed : after.Keyed := by
    intro other member arrival inside
    rw [reaps.taken] at inside
    exact before.keyed other (flushed.fewer other member) arrival inside
  by_cases ofMessage : ∃ entry ∈ gw.expired now order, ∃ arrival ∈ gw.taken entry.1,
      arrival.Of message key
  · rcases ofMessage with ⟨entry, member, arrival, inside, isOf⟩
    have entryKey : entry.1 = key :=
      (before.keyed _ (present entry member) arrival inside).symm.trans isOf.2
    have none : gw.forwardedOf message key = [] := by
      by_contra some
      exact before.done some _ (present entry member) arrival inside isOf
    refine ⟨keyed, reaps.hands.forwardedOf_le_one none ?_, ?_⟩
    · rw [List.filter_map, List.length_map]
      apply length_filter_key distinct
      intro other otherMember chosen
      rcases of_decide_eq_true chosen with ⟨arrival', inside', isOf'⟩
      exact (before.keyed _ (present other otherMember) arrival' inside').symm.trans isOf'.2
    · intro _ other otherPresent arrival' inside' isOf'
      have otherKey := (keyed other otherPresent arrival' inside').symm.trans isOf'.2
      rw [otherKey, ← entryKey] at otherPresent
      exact flushed.gone entry member otherPresent
  · have same : after.forwardedOf message key = gw.forwardedOf message key := by
      apply reaps.hands.forwardedOf_same
      rintro handed member ⟨arrival, inside, isOf⟩
      rcases List.mem_map.mp member with ⟨entry, expired, rfl⟩
      exact ofMessage ⟨entry, expired, arrival, inside, isOf⟩
    refine ⟨keyed, by rw [same]; exact before.once, ?_⟩
    intro some other otherPresent arrival inside
    rw [same] at some
    rw [reaps.taken] at inside
    exact before.done some other (flushed.fewer other otherPresent) arrival inside

end

end Inbound

/-! ### Runs -/

/-- A segment of a message arrives only as long as no job with one of its segments has been
forwarded. -/
def Inbound.Timely (message : ℕ) (key : GoString) (gw : Inbound) (event : InboundEvent) : Prop :=
  ∀ call, event.segment = some (message, call) → call.key = key →
    gw.forwardedOf message key = []

theorem Inbound.Once.step {submitQueueSize message : ℕ} {key : GoString} {before after : Inbound}
    {event : InboundEvent}
    (stepped : Guarded (Inbound.Step submitQueueSize) (Inbound.Timely message key) before event after)
    (once : before.Once message key) : after.Once message key := by
  rcases stepped with ⟨stepped, timely⟩
  rcases Inbound.next_cases stepped with
    ⟨-, passes⟩ | ⟨number, call, brings, takes⟩ | ⟨now, order, rfl, reaps⟩
  · exact once.passes passes
  · apply once.takes takes
    rintro rfl sameKey
    exact timely call brings sameKey
  · exact once.reaps reaps

theorem Inbound.once_start (message : ℕ) (key : GoString) : Inbound.start.Once message key := by
  refine ⟨?_, by simp [Inbound.forwardedOf, Inbound.start], ?_⟩
  · intro other present
    exact absurd present (AList.notMem_empty other)
  · intro some
    exact absurd rfl some

/-! ### A message of two segments -/

def transmitter : InboundSession := ⟨1, [], [], .bindTRX⟩

def partRequest (part : UInt8) (text : List UInt8) : SubmitSMBody where
  sourceAddr := [0x38]
  destAddr := [0x2B]
  esmClass := 0x40
  registeredDelivery := 1
  dataCoding := 0
  shortMessage := [5, 0, 3, 7, 2, part] ++ text
  tlvs := ∅

theorem perm_stored (entries : List (Sigma fun _ : GoString => ReassemblyGroup)) :
    (id entries).Perm entries :=
  List.Perm.refl entries

def drawAt (now : ℕ) : Draw := ⟨now, now, ⟨id, perm_stored⟩, 0⟩

def arrives : List InboundEvent :=
  [.submit transmitter true (some (partRequest 1 [0x41])) (drawAt 1),
    .submit transmitter true (some (partRequest 2 [0x42])) (drawAt 2)]

def arrivesAgain : List InboundEvent :=
  [.submit transmitter true (some (partRequest 1 [0x41])) (drawAt 3),
    .reap (reassemblyTTL + 4) ⟨id, perm_stored⟩]

/-- In a run in which no segment of a message arrives after a job with one of its segments has
been forwarded, one job at most is forwarded for it. -/
theorem forwarded_once (submitQueueSize message : ℕ) (key : GoString) {last : Inbound}
    {transitions : List (Transition Inbound InboundEvent)}
    (run : Run (Inbound.Step submitQueueSize) Inbound.start transitions last)
    (timely : ∀ transition ∈ transitions,
      Inbound.Timely message key transition.before transition.label) :
    (last.forwardedOf message key).length ≤ 1 ∧
      ∀ transition ∈ transitions, (transition.after.forwardedOf message key).length ≤ 1 := by
  rcases (run.guarded timely).invariant (fun _ _ _ stepped once => Inbound.Once.step stepped once)
    (Inbound.once_start message key) with ⟨atEnd, inside⟩
  exact ⟨atEnd.once, fun transition member => (inside transition member).2.once⟩

/-- A message that arrives once is forwarded once. -/
theorem forwarded_once_arrives :
    ∃ transitions last, Run (Inbound.Step 100) Inbound.start transitions last ∧
      (last.forwardedOf 0 (reassemblyKey 1 [0x38] [0x2B] 7 2)).length = 1 ∧
      ∀ transition ∈ transitions,
        (transition.after.forwardedOf 0 (reassemblyKey 1 [0x38] [0x2B] 7 2)).length ≤ 1 := by
  have passed : ((execute (Inbound.next 100) Inbound.start arrives).any fun outcome =>
      (outcome.1.all fun transition =>
        (transition.before.forwardedOf 0 (reassemblyKey 1 [0x38] [0x2B] 7 2)).isEmpty) &&
      (outcome.2.forwardedOf 0 (reassemblyKey 1 [0x38] [0x2B] 7 2)).length == 1) = true := by
    decide
  rcases Run.exists_of_execute _ passed with ⟨transitions, last, run, holds⟩
  rw [Bool.and_eq_true, List.all_eq_true, beq_iff_eq] at holds
  refine ⟨transitions, last, run, holds.2, ?_⟩
  exact (forwarded_once 100 0 _ run fun transition member _ _ _ =>
    List.isEmpty_iff.mp (holds.1 transition member)).2

/-- A segment that is sent again after its message was completed is forwarded as a message of its
own. -/
theorem forwarded_twice :
    ∃ transitions last, Run (Inbound.Step 100) Inbound.start transitions last ∧
      (last.forwardedOf 0 (reassemblyKey 1 [0x38] [0x2B] 7 2)).map (·.job.message) =
        [[0x41, 0x42], [0x41]] := by
  have passed : ((execute (Inbound.next 100) Inbound.start (arrives ++ arrivesAgain)).any
      fun outcome => decide ((outcome.2.forwardedOf 0 (reassemblyKey 1 [0x38] [0x2B] 7 2)).map
        (·.job.message) = [[0x41, 0x42], [0x41]])) = true := by
    decide
  rcases Run.exists_of_execute _ passed with ⟨transitions, last, run, holds⟩
  exact ⟨transitions, last, run, of_decide_eq_true holds⟩

end Klsmsc
