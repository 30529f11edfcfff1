import Klsmsc.Chunk.Phases

/-!
# The write loop on the ledger

Each attempt at a slice either appends its rows to the ledger or leaves it alone,
also when it raises. So a slice appends the rows of its durable attempts, and the
loop those of the slices that it comes to.
-/

namespace Klsmsc

open Library

theorem idsOn_congr {protocol : Protocol} {items : List ValidItem} {left right : List SmsLog}
    (same : left.map SmsLog.messageId = right.map SmsLog.messageId) :
    idsOn protocol items left = idsOn protocol items right := by
  induction items generalizing left right with
  | nil => simp [idsOn]
  | cons item items ih =>
      cases left with
      | nil =>
          cases right with
          | nil => rfl
          | cons _ _ => simp at same
      | cons first left =>
          cases right with
          | nil => simp at same
          | cons other right =>
              simp only [List.map_cons, List.cons.injEq] at same
              have rest := ih same.2
              simp only [idsOn] at rest
              by_cases on : item.channel.protocol = protocol <;>
                simp [idsOn, on, same.1, rest]

theorem smppPayloads_messageId (env : ChunkEnv) (batchStatus : String) (items : List ValidItem)
    (rows : List SmsLog) :
    (smppPayloads env batchStatus items rows).map SmppPayload.messageId =
      idsOn .smpp items rows := by
  simp [smppPayloads, idsOn, smppPayloadPublicDict]

theorem linked_placed_messageId (env : ChunkEnv) (db : Db) (rows : List SmsLog) :
    ((db.placed rows).map (SmsLog.linked env)).map SmsLog.messageId =
      rows.map SmsLog.messageId := by
  refine List.ext_getElem (by simp [Db.placed]) ?_
  intro index _ _
  simp [Db.placed, SmsLog.linked]

theorem mem_idsOn {protocol : Protocol} {items : List ValidItem} {rows : List SmsLog}
    {messageId : MessageId} (member : messageId ∈ idsOn protocol items rows) :
    ∃ row ∈ rows, row.messageId = messageId := by
  simp only [idsOn, List.mem_map, List.mem_filter] at member
  rcases member with ⟨⟨item, row⟩, ⟨inZip, _⟩, isRow⟩
  exact ⟨row, (List.of_mem_zip inZip).2, isRow⟩

theorem lastVirtual_idem (items : List ValidItem) (before : Option ℕ) :
    lastVirtual items (lastVirtual items before) = lastVirtual items before := by
  unfold lastVirtual
  split <;> simp_all

theorem attemptRows_fresh (env : ChunkEnv) (input : ChunkInput) (slice attempt : ℕ)
    (items : List ValidItem) :
    ∀ row ∈ attemptRows env input slice attempt items, row.refundedAt = none := by
  intro row member
  simp only [attemptRows, List.mem_mapIdx] at member
  rcases member with ⟨index, inside, rfl⟩
  rfl

section

variable {start : Db} {accountId : ℕ} {ledger : Ledger} {env : ChunkEnv} {faults : Faults}
  {input : ChunkInput} {locals : Locals → Prop} {batchStatus : String} {slice attempt : ℕ}
  {items : List ValidItem}

theorem storeSlice_triple :
    Triple (Stands start accountId ledger ledger locals)
      (storeSlice env faults input batchStatus slice attempt items)
      (fun handles state => (attemptFault faults slice attempt = none ∧
          handles.1.map SmppPayload.messageId = attemptIds env input slice attempt .smpp items ∧
          handles.2 = attemptIds env input slice attempt .http items) ∧
        Stands start accountId
          (ledger.add (durableRows env input slice items [attempt]))
          (ledger.add (durableRows env input slice items [attempt])) locals state)
      (fun raised state => ∃ durable, attemptFault faults slice attempt = some (raised, durable) ∧
        Stands start accountId
          (ledger.add (durableRows env input slice items (if durable then [attempt] else [])))
          (ledger.add (durableRows env input slice items (if durable then [attempt] else [])))
          locals state) := by
  have single : durableRows env input slice items [attempt] =
      (attemptRows env input slice attempt items).map SmsLog.core := by
    simp [durableRows]
  have none : durableRows env input slice items [] = [] := rfl
  unfold storeSlice
  refine flush_bind ?_ ?_
  · intro fault found state stands
    refine ⟨false, by simp [attemptFault, found], ?_⟩
    simpa [none] using stands
  · intro insertPasses
    refine Triple.get_bind fun current stands => ?_
    refine Triple.at_state (?_ : Triple (Stands start accountId ledger ledger locals) _ _ _) stands
    refine change_bind (fun db since =>
      since.insert (attemptRows_fresh env input slice attempt items)) ?_
    rw [← single]
    refine Triple.bind (replaceTrackUrlsForLogs_triple.weaken (fun _ stands => stands)
      (fun _ _ done => done) ?_) fun linked =>
      Triple.assume fun isLinked => Triple.assume fun linksPass => ?_
    · rintro raised state ⟨atSite, stands⟩
      rcases Option.map_eq_some_iff.mp atSite with ⟨fault, found, rfl⟩
      refine ⟨false, by simp [attemptFault, insertPasses, found], ?_⟩
      simpa [none] using stands
    · refine commit_bind ?_ ?_
      · intro fault found state stands
        refine ⟨fault.commits, by simp [attemptFault, insertPasses, linksPass, found], ?_⟩
        cases durable : fault.commits <;> simpa [durable, none] using stands
      · intro commitPasses state stands
        refine ⟨⟨by simp [attemptFault, insertPasses, linksPass, commitPasses], ?_, rfl⟩, stands⟩
        rw [smppPayloads_messageId, isLinked]
        exact idsOn_congr (linked_placed_messageId env _ _)

theorem durableRows_append (env : ChunkEnv) (input : ChunkInput) (slice : ℕ)
    (items : List ValidItem) (left right : List ℕ) :
    durableRows env input slice items (left ++ right) =
      durableRows env input slice items left ++ durableRows env input slice items right :=
  List.flatMap_append

def Locals.built (before : Locals) (mark : List MessageId) (items : List ValidItem)
    (virtualIds : List MessageId) : Locals :=
  { before with
    virtualChannelId := lastVirtual items before.virtualChannelId
    virtualIds := mark ++ virtualIds }

theorem buildSlice_triple {mark : List MessageId} {before : Locals} :
    Triple (Stands start accountId ledger ledger (· = before))
      (buildSlice env faults input mark slice attempt items)
      (fun _ state => faults (.build slice attempt) = none ∧
        Stands start accountId ledger ledger
          (· = before.built mark items (attemptIds env input slice attempt .virtual items)) state)
      (fun raised state => Raises faults (.build slice attempt) raised ∧
        Stands start accountId ledger ledger (· = before) state) := by
  unfold buildSlice
  refine statement_bind ?_ ?_
  · intro fault found state stands
    exact ⟨by simp [Raises, found], stands⟩
  · intro noFault state stands
    rcases stands with ⟨onCommitted, onWorking, rfl⟩
    exact ⟨noFault, onCommitted, onWorking, rfl⟩

def Locals.SameBuilt (before : Locals) (items : List ValidItem) (values : Locals) : Prop :=
  ∀ mark virtualIds, values.built mark items virtualIds = before.built mark items virtualIds

theorem Locals.sameBuilt_built (before : Locals) (mark : List MessageId)
    (items : List ValidItem) (virtualIds : List MessageId) :
    before.SameBuilt items (before.built mark items virtualIds) := by
  intro mark' virtualIds'
  simp [Locals.built, lastVirtual_idem]

def Locals.SameCounts (before values : Locals) : Prop :=
  values.succeeded = before.succeeded ∧ values.charged = before.charged

theorem Locals.SameBuilt.sameCounts {before values : Locals}
    (same : before.SameBuilt items values) : before.SameCounts values := by
  have equal := same [] []
  simp only [Locals.built, Locals.mk.injEq] at equal
  exact ⟨equal.1, equal.2.2.1⟩

theorem writeSlice_triple {mark : List MessageId} {before : Locals} {left : ℕ} :
    Triple (Stands start accountId ledger ledger (before.SameBuilt items))
      (writeSlice env faults input batchStatus mark slice items left)
      (fun handles state => ∃ attempt,
        (sliceWrite faults slice left).ended = .ok attempt ∧
        handles.1.map SmppPayload.messageId = attemptIds env input slice attempt .smpp items ∧
        handles.2 = attemptIds env input slice attempt .http items ∧
        Stands start accountId
          (ledger.add (durableRows env input slice items (sliceWrite faults slice left).durable))
          (ledger.add (durableRows env input slice items (sliceWrite faults slice left).durable))
          (· = before.built mark items (attemptIds env input slice attempt .virtual items)) state)
      (fun raised state => (sliceWrite faults slice left).ended = .error raised ∧
        Stands start accountId
          (ledger.add (durableRows env input slice items (sliceWrite faults slice left).durable))
          (ledger.add (durableRows env input slice items (sliceWrite faults slice left).durable))
          before.SameCounts state) := by
  have none : durableRows env input slice items [] = [] := rfl
  induction left generalizing ledger before with
  | zero =>
      refine Triple.fix_locals fun values same => ?_
      unfold writeSlice
      refine Triple.bind (buildSlice_triple.weaken (fun _ stands => stands)
        (fun _ _ done => done) ?_) fun _ => Triple.assume fun buildPasses => ?_
      · rintro raised state ⟨atSite, stands⟩
        rcases Option.map_eq_some_iff.mp atSite with ⟨fault, found, rfl⟩
        simp only [sliceWrite, found, none, Ledger.add_nil]
        exact ⟨trivial, stands.weaken fun _ equal => equal ▸ same.sameCounts⟩
      · rw [same]
        refine storeSlice_triple.weaken (fun _ stands => stands) ?_ ?_
        · rintro handles state ⟨⟨passes, smpp, http⟩, stands⟩
          simp only [sliceWrite, buildPasses, passes]
          exact ⟨_, rfl, smpp, http, stands⟩
        · rintro raised state ⟨durable, fails, stands⟩
          simp only [sliceWrite, buildPasses, fails]
          exact ⟨trivial, stands.weaken fun _ equal =>
            equal ▸ (before.sameBuilt_built _ _ _).sameCounts⟩
  | succ left ih =>
      refine Triple.fix_locals fun values same => ?_
      unfold writeSlice
      refine Triple.bind (buildSlice_triple.weaken (fun _ stands => stands)
        (fun _ _ done => done) ?_) fun _ => Triple.assume fun buildPasses => ?_
      · rintro raised state ⟨atSite, stands⟩
        rcases Option.map_eq_some_iff.mp atSite with ⟨fault, found, rfl⟩
        simp only [sliceWrite, found, none, Ledger.add_nil]
        exact ⟨trivial, stands.weaken fun _ equal => equal ▸ same.sameCounts⟩
      · rw [same]
        refine Triple.catching _ (storeSlice_triple.weaken (fun _ stands => stands) ?_
          (fun _ _ done => done)) ?_ ?_
        · rintro handles state ⟨⟨passes, smpp, http⟩, stands⟩
          simp only [sliceWrite, buildPasses, passes]
          exact ⟨_, rfl, smpp, http, stands⟩
        · rintro raised state escapes ⟨durable, fails, stands⟩
          simp only [sliceWrite, buildPasses, fails, escapes, Bool.false_eq_true, if_false]
          exact ⟨trivial, stands.weaken fun _ equal =>
            equal ▸ (before.sameBuilt_built _ _ _).sameCounts⟩
        · intro raised caught
          refine Triple.exists_pre fun durable => Triple.assume fun fails => ?_
          refine Triple.bind rollback_triple fun _ => ?_
          refine statement_bind ?_ ?_
          · intro fault found state stands
            simp only [sliceWrite, buildPasses, fails, caught, found, if_true]
            exact ⟨trivial, stands.weaken fun _ equal =>
              equal ▸ (before.sameBuilt_built _ _ _).sameCounts⟩
          · intro backoffPasses
            simp only [sliceWrite, buildPasses, fails, caught, backoffPasses, if_true,
              durableRows_append, ← Ledger.add_add]
            exact ih.weaken
              (fun _ stands => stands.weaken fun _ equal => equal ▸ before.sameBuilt_built _ _ _)
              (fun _ _ done => done) (fun _ _ done => done)

structure Locals.Looped (before : Locals) (run : LoopRun) (after : Locals) : Prop where
  succeeded : 0 < after.succeeded ↔ 0 < before.succeeded ∨ run.counted = true
  charged : after.charged = before.charged
  virtualChannelId : after.virtualChannelId.isSome =
    (before.virtualChannelId.isSome || !run.virtualIds.isEmpty)
  virtualIds : after.virtualIds = before.virtualIds ++ run.virtualIds
  handed : ∀ messageId, messageId ∈ before.handedIds ∨ messageId ∈ run.handed →
    messageId ∈ after.handedIds

def Locals.Counted (before : Locals) (counted : Bool) (after : Locals) : Prop :=
  (0 < after.succeeded ↔ 0 < before.succeeded ∨ counted = true) ∧
    after.charged = before.charged

theorem Locals.SameCounts.counted {before after : Locals} (same : before.SameCounts after) :
    before.Counted false after :=
  ⟨by simp [same.1], same.2⟩

theorem Locals.Queued.toCounted {before after : Locals} {counted : Bool}
    {messageIds : List MessageId} (queued : before.Queued counted messageIds after) :
    before.Counted counted after :=
  ⟨queued.succeeded, queued.charged⟩

def RunsAs (start : Db) (accountId : ℕ) (ledger : Ledger) (before : Locals) (run : LoopRun)
    (command : Chunk Unit) : Prop :=
  Triple (Stands start accountId ledger ledger (· = before)) command
    (fun _ state => run.stopped = none ∧
      Stands start accountId (ledger.add run.rows) (ledger.add run.rows)
        (before.Looped run) state)
    (fun raised state => run.stopped = some raised ∧
      Stands start accountId (ledger.add run.rows) (ledger.add run.rows)
        (before.Counted run.counted) state)

theorem Locals.Looped.trans {before middle after : Locals} {first second : LoopRun}
    (one : before.Looped first middle) (two : middle.Looped second after) :
    before.Looped ⟨first.rows ++ second.rows, first.counted || second.counted,
      first.handed ++ second.handed, first.virtualIds ++ second.virtualIds, second.stopped⟩
      after where
  succeeded := by
    rw [two.succeeded, one.succeeded, Bool.or_eq_true, or_assoc]
  charged := two.charged.trans one.charged
  virtualChannelId := by
    rw [two.virtualChannelId, one.virtualChannelId]
    cases first.virtualIds <;> simp
  virtualIds := by
    rw [two.virtualIds, one.virtualIds, List.append_assoc]
  handed := by
    intro messageId given
    refine two.handed messageId ?_
    rcases given with earlier | given
    · exact Or.inl (one.handed messageId (Or.inl earlier))
    · rcases List.mem_append.mp given with inFirst | inSecond
      · exact Or.inl (one.handed messageId (Or.inr inFirst))
      · exact Or.inr inSecond

theorem sliceWrite_ended_mem {faults : Faults} {slice left attempt : ℕ}
    (ended : (sliceWrite faults slice left).ended = .ok attempt) :
    attempt ∈ (sliceWrite faults slice left).durable := by
  induction left with
  | zero =>
      cases build : faults (.build slice (writeAttempts - 1)) with
      | some fault => simp [sliceWrite, build] at ended
      | none =>
          cases store : attemptFault faults slice (writeAttempts - 1) with
          | none => simp_all [sliceWrite]
          | some failure => simp [sliceWrite, build, store] at ended
  | succ left ih =>
      cases build : faults (.build slice (writeAttempts - 1 - (left + 1))) with
      | some fault => simp [sliceWrite, build] at ended
      | none =>
          cases store : attemptFault faults slice (writeAttempts - 1 - (left + 1)) with
          | none => simp_all [sliceWrite]
          | some failure =>
              by_cases retried : retryable [1205, 1213, 2013] failure.1 = true
              · cases backoff : faults (.writeBackoff slice (writeAttempts - 1 - (left + 1))) with
                | some fault => simp [sliceWrite, build, store, retried, backoff] at ended
                | none =>
                    simp only [sliceWrite, build, store, retried, backoff, if_true] at ended ⊢
                    exact List.mem_append_right _ (ih ended)
              · simp [sliceWrite, build, store, retried] at ended

theorem lastVirtual_isSome (items : List ValidItem) (before : Option ℕ) {rows : List SmsLog}
    (paired : rows.length = items.length) :
    (lastVirtual items before).isSome =
      (before.isSome || !(idsOn .virtual items rows).isEmpty) := by
  have empty : (idsOn .virtual items rows).isEmpty =
      (items.filter fun item => item.channel.protocol = .virtual).isEmpty := by
    induction items generalizing rows with
    | nil => simp [idsOn]
    | cons item items ih =>
        cases rows with
        | nil => simp at paired
        | cons row rows =>
            have rest := ih (by simpa using paired)
            simp only [idsOn] at rest
            by_cases on : item.channel.protocol = .virtual
            · simp [idsOn, on]
            · simpa [idsOn, on] using rest
  rw [empty]
  unfold lastVirtual
  cases virtual : items.filter fun item => item.channel.protocol = .virtual with
  | nil => simp
  | cons item rest =>
      have last : (item :: rest).getLast? = some ((item :: rest).getLast (by simp)) :=
        List.getLast?_eq_some_getLast (by simp)
      simp [last]

theorem writeAndQueue_runs {before : Locals} :
    RunsAs start accountId ledger before (sliceRun env faults input items slice)
      (writeAndQueue env faults input batchStatus slice items) := by
  unfold RunsAs writeAndQueue
  refine Triple.get_bind fun current stands => ?_
  have mark : current.virtualIds = before.virtualIds := by
    rw [← stands.locals]
  rw [mark]
  have built : ∀ state, state = current →
      Stands start accountId ledger ledger (before.SameBuilt items) state := by
    rintro state rfl
    refine stands.weaken ?_
    rintro values rfl mark virtualIds
    rfl
  refine Triple.bind (writeSlice_triple.weaken built (fun _ _ done => done) ?_) ?_
  · rintro raised state ⟨ended, stands⟩
    simp only [sliceRun, ended]
    exact ⟨trivial, stands.weaken fun _ same => same.counted⟩
  · rintro ⟨payloads, messageIds⟩
    refine Triple.exists_pre fun attempt => Triple.assume fun ended =>
      Triple.assume fun smpp => Triple.assume fun http => ?_
    simp only at smpp http
    subst http
    have stored : ∀ messageId ∈ attemptIds env input slice attempt .http items, ∃ row ∈
        (ledger.add (durableRows env input slice items
          (sliceWrite faults slice (writeAttempts - 1)).durable)).rows,
        row.messageId = messageId := by
      intro messageId member
      rcases mem_idsOn member with ⟨row, rowMem, isRow⟩
      refine ⟨row.core, List.mem_append_right _ ?_, isRow⟩
      exact List.mem_flatMap.mpr ⟨attempt, sliceWrite_ended_mem ended, List.mem_map_of_mem rowMem⟩
    have steps := EndsAs.bind (queueSliceSmpp_triple : EndsAs start accountId _
      (before.built before.virtualIds items (attemptIds env input slice attempt .virtual items))
      _ _ (queueSliceSmpp env faults slice payloads))
      fun middle => (queueSliceHttp_triple stored :
        EndsAs start accountId _ middle _ _
          (queueSliceHttp env faults slice (items.getLast?.map ValidItem.channel) _))
    rw [smpp] at steps
    simp only [sliceRun, ended]
    refine Triple.weaken steps (fun _ stands => stands) ?_ ?_
    · rintro _ state ⟨passes, stands⟩
      refine ⟨passes, stands.weaken fun values queued => ?_⟩
      refine ⟨queued.succeeded, queued.charged, ?_, queued.virtualIds, queued.handed⟩
      rw [queued.virtualChannelId]
      exact lastVirtual_isSome items _ (by simp [attemptRows])
    · rintro raised state ⟨stopped, stands⟩
      exact ⟨stopped, stands.weaken fun values queued => queued.toCounted⟩

theorem loop_runs {before : Locals} (parts : List (List ValidItem × ℕ)) :
    RunsAs start accountId ledger before (loopRun env faults input parts)
      (parts.forM fun (items, slice) =>
        writeAndQueue env faults input batchStatus slice items) := by
  unfold RunsAs
  induction parts generalizing ledger before with
  | nil =>
      intro state stands
      refine ⟨rfl, ?_⟩
      rw [loopRun, Ledger.add_nil]
      refine stands.weaken ?_
      rintro values rfl
      exact ⟨by simp, rfl, by simp, by simp, by simp⟩
  | cons part parts ih =>
      rcases part with ⟨items, slice⟩
      refine Triple.bind (writeAndQueue_runs.weaken (fun _ stands => stands)
        (fun _ _ done => done) ?_) ?_
      · rintro raised state ⟨stopped, stands⟩
        simp only [loopRun, LoopRun.andThen, stopped]
        exact ⟨trivial, stands⟩
      · intro _
        refine Triple.assume fun passes => Triple.fix_locals fun middle looped => ?_
        simp only [loopRun, LoopRun.andThen, passes, ← Ledger.add_add]
        refine ih.weaken (fun _ stands => stands) ?_ ?_
        · rintro _ state ⟨ended, stands⟩
          exact ⟨ended, stands.weaken fun values rest => looped.trans rest⟩
        · rintro raised state ⟨ended, stands⟩
          refine ⟨ended, stands.weaken fun values rest => ⟨?_, ?_⟩⟩
          · rw [rest.1, looped.succeeded, Bool.or_eq_true, or_assoc]
          · rw [rest.2, looped.charged]

structure Locals.Finished (before : Locals) (run : LoopRun) (after : Locals) : Prop where
  succeeded : 0 < after.succeeded ↔
    0 < before.succeeded ∨ run.counted = true ∨ run.virtualIds ≠ []
  charged : after.charged = before.charged
  virtualChannelId : after.virtualChannelId.isSome = !run.virtualIds.isEmpty
  virtualIds : after.virtualIds = run.virtualIds
  handed : ∀ messageId, messageId ∈ run.handed → messageId ∈ after.handedIds

def writeRun (env : ChunkEnv) (faults : Faults) (input : ChunkInput) (items : List ValidItem) :
    LoopRun :=
  loopRun env faults input (slices dbLogChunk items).zipIdx

theorem writeLoop_triple {before : Locals} (noChannel : before.virtualChannelId = none)
    (noIds : before.virtualIds = []) :
    Triple (Stands start accountId ledger ledger (· = before))
      (writeLoop env faults input batchStatus items)
      (fun _ state => (writeRun env faults input items).stopped = none ∧
        Stands start accountId (ledger.add (writeRun env faults input items).rows)
          (ledger.add (writeRun env faults input items).rows)
          (before.Finished (writeRun env faults input items)) state)
      (fun raised state => (writeRun env faults input items).stopped = some raised ∧
        Stands start accountId (ledger.add (writeRun env faults input items).rows)
          (ledger.add (writeRun env faults input items).rows)
          (before.Counted (writeRun env faults input items).counted) state) := by
  unfold writeLoop
  refine Triple.bind (loop_runs _) fun _ => Triple.assume fun passes => ?_
  refine Triple.get_bind fun current stands => ?_
  have looped := stands.locals
  have channel := looped.virtualChannelId
  have ids := looped.virtualIds
  simp only [noChannel, Option.isSome_none, Bool.false_or] at channel
  simp only [noIds, List.nil_append] at ids
  refine Triple.ite ?_ ?_
  · intro isVirtual
    rintro state rfl
    refine ⟨passes, stands.committed, stands.working, ?_, looped.charged, channel, ids,
      fun messageId given => looped.handed messageId (Or.inr given)⟩
    have some : (loopRun env faults input (slices dbLogChunk items).zipIdx).virtualIds ≠ [] := by
      rw [channel] at isVirtual
      simpa using isVirtual
    simp only [ids]
    have positive := List.length_pos_iff.mpr some
    constructor
    · intro _
      exact Or.inr (Or.inr some)
    · intro _
      omega
  · intro notVirtual
    rintro state rfl
    refine ⟨passes, stands.committed, stands.working, ?_, looped.charged, channel, ids,
      fun messageId given => looped.handed messageId (Or.inr given)⟩
    have none : (loopRun env faults input (slices dbLogChunk items).zipIdx).virtualIds = [] := by
      rw [channel] at notVirtual
      simpa using notVirtual
    rw [looped.succeeded, writeRun, none]
    simp

end

end Klsmsc
