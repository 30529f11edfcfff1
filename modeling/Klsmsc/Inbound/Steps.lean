import Klsmsc.Inbound.Session

/-!
# What an event does

One lemma says what an event leaves in the state: which jobs it hands over, what it does to the
groups, and which segment it acknowledges.
-/

namespace Klsmsc

open Library

/-! ### Flushing -/

structure ReassemblyStore.Flushed (rs : ReassemblyStore)
    (entries : List (Σ _ : GoString, ReassemblyGroup)) (flush : List SubmitJob)
    (after : ReassemblyStore) : Prop where
  jobs : flush = entries.map fun entry => entry.2.joinedJob
  gone : ∀ entry ∈ entries, entry.1 ∉ after.groups
  kept : ∀ key, key ∉ entries.map (·.1) → after.groups.lookup key = rs.groups.lookup key
  fewer : ∀ key ∈ after.groups, key ∈ rs.groups

theorem reapLoop_spec {now : ℕ} (entries : List (Σ _ : GoString, ReassemblyGroup))
    {rs after : ReassemblyStore} {before flush : List SubmitJob}
    (returned : ReassemblyStore.reapLoop now entries rs before = some (flush, after)) :
    ∃ more, flush = before ++ more ∧
      rs.Flushed (entries.filter fun entry => reassemblyTTL < now - entry.2.createdAt) more after := by
  induction entries generalizing rs before with
  | nil =>
      obtain ⟨rfl, rfl⟩ := Prod.mk.inj (Option.some.inj returned)
      exact ⟨[], by simp, rfl, by simp, fun _ _ => rfl, fun _ member => member⟩
  | cons entry entries ih =>
      rcases entry with ⟨k, g⟩
      rw [ReassemblyStore.reapLoop] at returned
      by_cases old : reassemblyTTL < now - g.createdAt
      · rw [if_pos old, Option.bind_eq_some_iff] at returned
        rcases returned with ⟨message, assembled, rest⟩
        rcases ih rest with ⟨more, rfl, jobs, gone, kept, fewer⟩
        have text := (assembleParts_eq_some_iff.mp assembled).2
        refine ⟨g.joinedJob :: more, ?_, ?_, ?_, ?_, ?_⟩
        · rw [ReassemblyGroup.joinedJob, ← text, List.append_assoc]
          rfl
        · rw [List.filter_cons_of_pos (by simpa using old), List.map_cons, jobs]
        · rw [List.filter_cons_of_pos (by simpa using old), List.forall_mem_cons]
          refine ⟨?_, gone⟩
          intro member
          exact (AList.mem_erase.mp (fewer k member)).1 rfl
        · intro key outside
          rw [List.filter_cons_of_pos (by simpa using old), List.map_cons, List.mem_cons,
            not_or] at outside
          rw [kept key outside.2, AList.lookup_erase_ne outside.1]
        · intro key member
          exact (AList.mem_erase.mp (fewer key member)).2
      · rw [if_neg old] at returned
        rcases ih returned with ⟨more, rfl, flushed⟩
        refine ⟨more, rfl, ?_⟩
        rw [List.filter_cons_of_neg (by simpa using old)]
        exact flushed

/-! ### Handing over -/

structure Inbound.HandsOver (before : Inbound) (jobs : List Handed) (after : Inbound) : Prop where
  forwards : ∃ queued, queued.Sublist jobs ∧ after.forwarded = before.forwarded ++ queued
  all : ∀ handed ∈ jobs, handed ∈ after.forwarded ∨ handed ∈ after.rejected
  rejects : ∃ refused, refused.Sublist jobs ∧ after.rejected = before.rejected ++ refused

namespace Inbound

variable {submitQueueSize : ℕ} {gw after : Inbound}

theorem HandsOver.nothing (forwarded : after.forwarded = gw.forwarded)
    (rejected : after.rejected = gw.rejected) : gw.HandsOver [] after :=
  ⟨⟨[], List.Sublist.slnil, by simp [forwarded]⟩, by simp,
    ⟨[], List.Sublist.slnil, by simp [rejected]⟩⟩

theorem HandsOver.trans {middle : Inbound} {left right : List Handed}
    (first : gw.HandsOver left middle) (second : middle.HandsOver right after) :
    gw.HandsOver (left ++ right) after := by
  rcases first with ⟨⟨queued, part, forwards⟩, all, ⟨refused, rest, rejects⟩⟩
  rcases second with ⟨⟨queued', part', forwards'⟩, all', ⟨refused', rest', rejects'⟩⟩
  refine ⟨⟨queued ++ queued', part.append part', by rw [forwards', forwards, List.append_assoc]⟩,
    ?_, ⟨refused ++ refused', rest.append rest', by rw [rejects', rejects, List.append_assoc]⟩⟩
  intro handed member
  rcases List.mem_append.mp member with inLeft | inRight
  · rcases all handed inLeft with inForwarded | inRejected
    · left
      rw [forwards']
      exact List.mem_append_left _ inForwarded
    · right
      rw [rejects']
      exact List.mem_append_left _ inRejected
  · exact all' handed inRight

theorem handOver_handsOver (handed : Handed) :
    gw.HandsOver [handed] (gw.handOver submitQueueSize handed) := by
  rw [handOver]
  rcases trySubmit submitQueueSize gw.submitQueue handed.job with ⟨queued | queued, submitQueue⟩
  · exact ⟨⟨[], by simp, by simp⟩, by simp, ⟨[handed], by simp, rfl⟩⟩
  · exact ⟨⟨[handed], by simp, rfl⟩, by simp, ⟨[], by simp, by simp⟩⟩

structure SameGroups (before after : Inbound) : Prop where
  udhStore : after.udhStore = before.udhStore
  taken : after.taken = before.taken
  acknowledged : after.acknowledged = before.acknowledged

theorem SameGroups.trans {middle : Inbound} (first : gw.SameGroups middle)
    (second : middle.SameGroups after) : gw.SameGroups after :=
  ⟨second.udhStore.trans first.udhStore, second.taken.trans first.taken,
    second.acknowledged.trans first.acknowledged⟩

theorem handOver_same (handed : Handed) :
    gw.SameGroups (gw.handOver submitQueueSize handed) := by
  rw [handOver]
  rcases trySubmit submitQueueSize gw.submitQueue handed.job with ⟨queued | queued, submitQueue⟩
  · exact ⟨rfl, rfl, rfl⟩
  · exact ⟨rfl, rfl, rfl⟩

theorem foldl_handOver (jobs : List Handed) (gw : Inbound) :
    let after := jobs.foldl (fun gw handed => gw.handOver submitQueueSize handed) gw
    gw.HandsOver jobs after ∧ gw.SameGroups after := by
  induction jobs generalizing gw with
  | nil => exact ⟨HandsOver.nothing rfl rfl, rfl, rfl, rfl⟩
  | cons handed jobs ih =>
      rcases ih (gw.handOver submitQueueSize handed) with ⟨hands, same⟩
      exact ⟨(handOver_handsOver handed).trans hands, (handOver_same handed).trans same⟩

/-! ### Events -/

structure Passes (before after : Inbound) : Prop where
  same : before.SameGroups after
  hands : ∃ jobs, before.HandsOver jobs after ∧ ∀ handed ∈ jobs, handed.segments = []

structure Takes (before : Inbound) (message : ℕ) (call : SegmentCall) (after : Inbound) : Prop where
  answered : ∃ ready messageId,
    before.udhStore.addSegment call = some ((ready, messageId), after.udhStore) ∧
    after.acknowledged =
      before.acknowledged ++ [(⟨before.acknowledged.length, message, call⟩, messageId)] ∧
    before.HandsOver
      (ready.toList.map fun job =>
        ⟨job, before.takenWith ⟨before.acknowledged.length, message, call⟩⟩) after
  taken : after.taken = Function.update before.taken call.key
    (before.takenWith ⟨before.acknowledged.length, message, call⟩)

structure Reaps (before : Inbound) (now : ℕ) (order : MapOrder) (after : Inbound) : Prop where
  flushed : ∃ flush, before.udhStore.Flushed (before.expired now order) flush after.udhStore
  taken : after.taken = before.taken
  acknowledged : after.acknowledged = before.acknowledged
  hands : before.HandsOver
    ((before.expired now order).map fun entry => ⟨entry.2.joinedJob, before.taken entry.1⟩) after

theorem handleSegment_takes {message : ℕ} {call : SegmentCall} {status : SubmitStatus}
    {respMsgID : Option MessageId}
    (returned : gw.handleSegment submitQueueSize message call = some (after, status, respMsgID)) :
    gw.Takes message call after := by
  rcases Option.map_eq_some_iff.mp returned with ⟨⟨⟨ready, messageId⟩, udhStore⟩, added, outcome⟩
  obtain ⟨rfl, -⟩ := Prod.mk.inj outcome
  cases ready with
  | none => exact ⟨⟨none, messageId, added, rfl, HandsOver.nothing rfl rfl⟩, rfl⟩
  | some job =>
      have hands := @handOver_handsOver submitQueueSize
        { gw with
          udhStore := udhStore
          taken := Function.update gw.taken call.key
            (gw.takenWith ⟨gw.acknowledged.length, message, call⟩) }
        ⟨job, gw.takenWith ⟨gw.acknowledged.length, message, call⟩⟩
      have same := @handOver_same submitQueueSize
        { gw with
          udhStore := udhStore
          taken := Function.update gw.taken call.key
            (gw.takenWith ⟨gw.acknowledged.length, message, call⟩) }
        ⟨job, gw.takenWith ⟨gw.acknowledged.length, message, call⟩⟩
      refine ⟨⟨some job, messageId, ?_, ?_, ⟨hands.forwards, hands.all, hands.rejects⟩⟩, same.taken⟩
      · rw [added]
        exact congrArg (fun store => some ((some job, messageId), store)) same.udhStore.symm
      · exact congrArg (· ++ [_]) same.acknowledged

theorem handleSingle_passes (s : InboundSession) (sm : SubmitSMBody) (rawMsg : List UInt8)
    (draw : Draw) : gw.Passes (gw.handleSingle submitQueueSize s sm rawMsg draw).1 := by
  rw [handleSingle]
  generalize submitted : trySubmit submitQueueSize gw.submitQueue _ = result
  rcases result with ⟨queued | queued, submitQueue⟩
  · exact ⟨⟨rfl, rfl, rfl⟩, [], HandsOver.nothing rfl rfl, by simp⟩
  · refine ⟨⟨rfl, rfl, rfl⟩, [⟨_, []⟩], ⟨⟨_, List.Sublist.refl _, rfl⟩, ?_,
      ⟨[], by simp, by simp⟩⟩, by simp⟩
    exact fun handed member => Or.inl (List.mem_append_right _ member)

theorem Passes.refl (gw : Inbound) : gw.Passes gw :=
  ⟨⟨rfl, rfl, rfl⟩, [], HandsOver.nothing rfl rfl, by simp⟩

theorem reap_reaps {now : ℕ} {order : MapOrder}
    (returned : gw.reap submitQueueSize now order = some after) : gw.Reaps now order after := by
  rcases Option.map_eq_some_iff.mp returned with ⟨⟨flush, udhStore⟩, reaped, rfl⟩
  rcases reapLoop_spec _ reaped with ⟨more, equal, flushing⟩
  rw [List.nil_append] at equal
  subst equal
  have flushed : gw.udhStore.Flushed (gw.expired now order) flush udhStore := flushing
  have jobs : List.zipWith Handed.mk flush ((gw.expired now order).map fun entry =>
      gw.taken entry.1) =
      (gw.expired now order).map fun entry => ⟨entry.2.joinedJob, gw.taken entry.1⟩ := by
    rw [flushed.jobs, List.zipWith_map, List.zipWith_self]
  rcases @foldl_handOver submitQueueSize (List.zipWith Handed.mk flush
    ((gw.expired now order).map fun entry => gw.taken entry.1)) { gw with udhStore := udhStore } with
    ⟨hands, same⟩
  refine ⟨⟨flush, ?_⟩, same.taken, same.acknowledged, ?_⟩
  · rw [same.udhStore]
    exact flushed
  · rw [← jobs]
    exact ⟨hands.forwards, hands.all, hands.rejects⟩

theorem next_cases {event : InboundEvent} (stepped : gw.next submitQueueSize event = some after) :
    (event.segment = none ∧ gw.Passes after) ∨
      (∃ message call, event.segment = some (message, call) ∧ gw.Takes message call after) ∨
      (∃ now order, event = .reap now order ∧ gw.Reaps now order after) := by
  cases event with
  | submit s allowed body draw =>
      rcases Option.map_eq_some_iff.mp stepped with ⟨⟨final, status, respMsgID⟩, handled, rfl⟩
      unfold handleSubmitSM at handled
      by_cases receiver : s.bindType = .bindRX
      · rw [if_pos receiver] at handled
        obtain ⟨rfl, -⟩ := Prod.mk.inj (Option.some.inj handled)
        exact Or.inl ⟨by simp [InboundEvent.segment, receiver], Passes.refl _⟩
      · rw [if_neg receiver] at handled
        cases allowed with
        | false =>
            obtain ⟨rfl, -⟩ := Prod.mk.inj (Option.some.inj handled)
            exact Or.inl ⟨by simp [InboundEvent.segment], Passes.refl _⟩
        | true =>
            rw [if_neg (by simp)] at handled
            cases body with
            | none =>
                obtain ⟨rfl, -⟩ := Prod.mk.inj (Option.some.inj handled)
                exact Or.inl ⟨by simp [InboundEvent.segment], Passes.refl _⟩
            | some sm =>
                cases brings : segmentOf s sm draw with
                | none =>
                    simp only [brings] at handled
                    have outcome := Option.some.inj handled
                    have final_eq := congrArg Prod.fst outcome
                    left
                    refine ⟨by simp [InboundEvent.segment, brings], ?_⟩
                    rw [← final_eq]
                    exact handleSingle_passes s sm (rawMsgOf sm) draw
                | some call =>
                    simp only [brings] at handled
                    right
                    left
                    exact ⟨draw.message, call, by simp [InboundEvent.segment, brings, receiver],
                      handleSegment_takes handled⟩
  | reap now order => exact Or.inr (Or.inr ⟨now, order, rfl, reap_reaps stepped⟩)
  | work =>
      obtain rfl := Option.some.inj stepped
      exact Or.inl ⟨rfl, ⟨rfl, rfl, rfl⟩, [], HandsOver.nothing rfl rfl, by simp⟩

end Inbound

end Klsmsc
