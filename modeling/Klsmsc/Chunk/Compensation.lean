import Klsmsc.Chunk.Credits
import Klsmsc.Chunk.Plan

/-!
# Charged messages that could not be enqueued

The rows that the worker has charged reach the queue manager and the node in calls: the
windows of an SMPP commit batch, the HTTP and SMPP messages of a slice of the write loop, the
windows of the fallback path. A row is credited back exactly when its call is of a kind that
refunds.
-/

namespace Klsmsc

open Library

def Compensated (calls : List EnqueueCall) (db : Db) : Prop :=
  ∀ row ∈ db.smsLogs, ∀ call ∈ calls, row.messageId ∈ call.entries.map Prod.fst →
    0 < row.price → call.fails row.messageId = true → row.credit = row.price

instance (calls : List EnqueueCall) (db : Db) : Decidable (Compensated calls db) := by
  unfold Compensated
  infer_instance

structure Made (mine : MessageId → Prop) (calls : List EnqueueCall) (db : Db) : Prop where
  distinct : (db.smsLogs.map SmsLog.messageId).Nodup
  stored : ∀ call ∈ calls, ∀ entry ∈ call.entries, mine entry.1 ∧ ∃ row ∈ db.smsLogs,
    row.messageId = entry.1 ∧ row.price = entry.2
  kind : ∀ one ∈ calls, ∀ two ∈ calls, ∀ messageId ∈ one.entries.map Prod.fst,
    messageId ∈ two.entries.map Prod.fst → one.refunds = two.refunds

theorem EnqueueCall.mem_unsent {call : EnqueueCall} {entry : MessageId × Money} :
    entry ∈ call.unsent ↔ entry ∈ call.entries ∧ call.fails entry.1 = true ∧ 0 < entry.2 := by
  simp only [EnqueueCall.unsent, List.mem_filter, decide_eq_true_eq, and_assoc]

theorem mem_refundedBy {calls : List EnqueueCall} {entry : MessageId × Money} :
    entry ∈ refundedBy calls ↔ ∃ call ∈ calls, call.refunds = true ∧ entry ∈ call.unsent := by
  simp only [refundedBy, List.mem_flatMap, EnqueueCall.refunded]
  constructor
  · rintro ⟨call, member, inCall⟩
    split at inCall
    · exact ⟨call, member, ‹_›, inCall⟩
    · simp at inCall
  · rintro ⟨call, member, refunds, inCall⟩
    exact ⟨call, member, by rwa [if_pos refunds]⟩

theorem compensated_iff {mine : MessageId → Prop} {calls : List EnqueueCall} {db : Db}
    (owing : Owing mine ((refundedBy calls).map Prod.fst) db) (made : Made mine calls db) :
    Compensated calls db ↔ ∀ call ∈ calls, call.refunds = true ∨ call.unsent = [] := by
  have only : ∀ {row other : SmsLog}, row ∈ db.smsLogs → other ∈ db.smsLogs →
      row.messageId = other.messageId → row = other :=
    fun isRow isOther same => eq_of_key_eq made.distinct isRow isOther same
  constructor
  · intro compensated call isCall
    by_contra neither
    rw [not_or] at neither
    rcases List.exists_mem_of_ne_nil _ neither.2 with ⟨entry, isUnsent⟩
    rcases EnqueueCall.mem_unsent.mp isUnsent with ⟨inCall, fails, costs⟩
    rcases made.stored call isCall entry inCall with ⟨isMine, row, isRow, isId, price⟩
    have asked : row.messageId ∈ call.entries.map Prod.fst := isId ▸ List.mem_map_of_mem inCall
    have credit := compensated row isRow call isCall asked (price ▸ costs) (isId ▸ fails)
    have notDue : row.messageId ∉ (refundedBy calls).map Prod.fst := by
      intro due
      rcases List.mem_map.mp due with ⟨other, isDue, same⟩
      rcases mem_refundedBy.mp isDue with ⟨another, isAnother, refunds, inAnother⟩
      have alsoAsked : row.messageId ∈ another.entries.map Prod.fst :=
        same ▸ List.mem_map_of_mem (EnqueueCall.mem_unsent.mp inAnother).1
      exact neither.1 ((made.kind call isCall another isAnother _ asked alsoAsked).trans refunds)
    rw [(owing row isRow (isId ▸ isMine)).credit, if_neg notDue] at credit
    exact costs.ne (credit.trans price)
  · intro each row isRow call isCall asked costs fails
    rcases List.mem_map.mp asked with ⟨entry, inCall, isId⟩
    rcases made.stored call isCall entry inCall with ⟨isMine, other, isOther, sameId, price⟩
    have same := only isOther isRow (sameId.trans isId)
    subst same
    have isUnsent : entry ∈ call.unsent :=
      EnqueueCall.mem_unsent.mpr ⟨inCall, isId ▸ fails, price ▸ costs⟩
    have refunds : call.refunds = true :=
      (each call isCall).resolve_right (List.ne_nil_of_mem isUnsent)
    have due : other.messageId ∈ (refundedBy calls).map Prod.fst := by
      rw [sameId]
      exact List.mem_map_of_mem (mem_refundedBy.mpr ⟨call, isCall, refunds, isUnsent⟩)
    rw [(owing other isRow (sameId ▸ isMine)).credit, if_pos due]

section

variable {env : ChunkEnv} {input : ChunkInput} {batchStatus : String} {mine : MessageId → Prop}

abbrev Unrefunded (mine : MessageId → Prop) (db : Db) : Prop :=
  Owing mine [] db

theorem Owing.steady {due : List MessageId} : Steady (Owing mine due) :=
  fun _ _ _ plain owing => owing.update plain

theorem insert_unrefunded {db : Db} (unrefunded : Unrefunded mine db) {rows : List SmsLog}
    (new : ∀ row ∈ rows, row.refundedAt = none) : Unrefunded mine (db.insertSmsLogs rows) :=
  unrefunded.insert fun row member => ⟨new row member, by simp⟩

theorem commitGroup_keeps (index : ℕ) (channel : Option Channel) :
    Keeps (Holds (Unrefunded mine)) (commitGroup env .never batchStatus index channel) := by
  unfold commitGroup
  simp only [flush_never, pure_bind]
  refine .bind (.modify fun _ holds => holds) fun _ => .get_bind fun _ _ => ?_
  exact .bind (queueGroup_keeps Owing.steady _ _ _) fun _ => .modify fun _ holds => holds

theorem storeCharged_keeps (index : ℕ) (item : ValidItem) (total : Money) :
    Keeps (Holds (Unrefunded mine)) (storeCharged env .never input batchStatus index item total) := by
  unfold storeCharged
  simp only [flush_never, pure_bind]
  refine .bind (.modify fun _ holds => holds) fun _ => .bind (.modify fun _ holds => holds)
    fun _ => .bind (.modify fun _ holds => insert_unrefunded holds ?_) fun _ => ?_
  · intro row member
    rw [List.mem_singleton.mp member]
    rfl
  · exact .get_bind fun _ _ => .ite (fun _ => commitGroup_keeps _ _) fun _ => .pure

theorem calculateAndCharge_keeps (index : ℕ) (item : ValidItem) :
    Keeps (Holds (Unrefunded mine)) (calculateAndCharge env .never input index item) := by
  unfold calculateAndCharge
  simp only [statement_never, flush_never, pure_bind]
  split
  · exact .pure
  · refine .get_bind fun current holds => ?_
    split
    · exact .pure
    · refine .get_bind fun again holdsAgain => ?_
      split
      · exact .pure
      · rename_i db deducted
        refine .bind (.modify fun _ _ => ?_) fun _ => .pure
        have same : db.smsLogs = again.working.smsLogs := by
          rw [eq_addBalance_of_deduct deducted]
          rfl
        intro row member
        exact holdsAgain row (same ▸ member)

theorem fallbackItem_keeps (index : ℕ) (item : ValidItem) :
    Keeps (Holds (Unrefunded mine)) (fallbackItem env .never input batchStatus index item) := by
  refine .catching ?_ (.bind (calculateAndCharge_keeps _ _) fun result => ?_)
  · refine .bind (calculateAndCharge_calm _ _ _ _) fun result => ?_
    cases result with
    | charged total => exact .bind (storeCharged_calm _ _ _ _ _ _) fun _ => .pure
    | accountNotFound => exact .bind (.modify _) fun _ => .pure
    | exhausted => exact .pure
  · cases result with
    | charged total => exact .bind (storeCharged_keeps _ _ _) fun _ => .pure
    | accountNotFound => exact .bind (.modify fun _ holds => holds) fun _ => .pure
    | exhausted => exact .pure

theorem fallbackLoop_keeps (items : List ValidItem) (index : ℕ) (last : Option Channel) :
    Keeps (Holds (Unrefunded mine)) (fallbackLoop env .never input batchStatus index last items) := by
  induction items generalizing index last with
  | nil => exact .pure
  | cons item items ih =>
      exact .bind (fallbackItem_keeps _ _) fun _ => .ite (fun _ => ih _ _) fun _ => .pure

theorem storeFailed_keeps (flushSite commitSite : ℕ → Site) {rows : List SmsLog}
    (new : ∀ row ∈ rows, row.refundedAt = none) :
    Keeps (Holds (Unrefunded mine)) (storeFailed .never flushSite commitSite rows) := by
  refine .forM fun entry isEntry => ?_
  rcases entry with ⟨slice, index⟩
  have isSlice := List.fst_mem_of_mem_zipIdx isEntry
  simp only [flush_never, pure_bind]
  refine .bind (.modify fun _ holds => insert_unrefunded holds fun row member => ?_) fun _ =>
    .modify fun _ holds => holds
  exact new row (mem_of_mem_slices isSlice member)

theorem fallback_keeps (items : List ValidItem) :
    Keeps (Holds (Unrefunded mine)) (fallback env .never input batchStatus items) := by
  refine .bind (fallbackLoop_keeps _ _ _) fun result => .get_bind fun current _ => ?_
  have exhausted : Keeps (Holds (Unrefunded mine)) (if !result.1.isEmpty then do
      storeFailed .never .exhaustedFlush .exhaustedCommit
        (result.1.mapIdx fun index item => item.exhaustedSmsLog env input index)
      Chunk.count 0 result.1.length
    else return ()) := by
    refine .ite (fun _ => .bind (storeFailed_keeps _ _ ?_) fun _ => .modify fun _ holds => holds)
      fun _ => .pure
    intro row member
    rcases List.mem_mapIdx.mp member with ⟨index, inside, rfl⟩
    rfl
  exact .ite (fun _ => .bind (commitGroup_keeps _ _) fun _ => exhausted) fun _ => exhausted

variable {start : Db} {accountId : ℕ} {ledger : Ledger} {before : Locals}
  {due : List MessageId} {account : Option Account}

theorem storeSlice_keeps {slice attempt : ℕ} {items : List ValidItem}
    (notDue : ∀ row ∈ attemptRows env input slice attempt items, row.messageId ∉ due) :
    Keeps (Holds (Tally mine accountId due account))
      (storeSlice env .never input batchStatus slice attempt items) := by
  unfold storeSlice replaceTrackUrlsForLogs
  simp only [flush_never, pure_bind, bind_assoc]
  refine .get_bind fun _ _ => .bind (.modify fun state holds => ?_) fun _ =>
    .bind (.modify fun state holds => ?_) fun _ => .bind (.modify fun _ holds => holds)
      fun _ => .pure
  · exact ⟨holds.owing.insert fun row member =>
      ⟨attemptRows_fresh env input slice attempt items row member, notDue row member⟩,
        holds.account⟩
  · exact ⟨holds.owing.update (plain_linked env), holds.account⟩

theorem writeSlice_keeps {mark : List MessageId} {slice : ℕ} {items : List ValidItem}
    (notDue : ∀ row ∈ attemptRows env input slice 0 items, row.messageId ∉ due) :
    Keeps (Holds (Tally mine accountId due account))
      (writeSlice env .never input batchStatus mark slice items (writeAttempts - 1)) := by
  unfold writeAttempts writeSlice buildSlice
  simp only [statement_never, pure_bind]
  refine .bind (.modify fun _ holds => holds) fun _ => ?_
  exact .catching (storeSlice_calm _ _ _ _ _ _) (storeSlice_keeps notDue)

section

variable (env input)

def pricedOn (protocol : Protocol) (part : List ValidItem × ℕ) : List (MessageId × Money) :=
  ((part.1.zip (attemptRows env input part.2 0 part.1)).filter
    fun entry => entry.1.channel.protocol = protocol).map
      fun entry => (entry.2.messageId, entry.2.price)

def sliceCalls (part : List ValidItem × ℕ) : List EnqueueCall :=
  [smppCall env (pricedOn env input .smpp part),
    sliceHttpCall env (part.1.getLast?.map ValidItem.channel) (pricedOn env input .http part)]

def bulkCalls (items : List ValidItem) : List EnqueueCall :=
  (slices dbLogChunk items).zipIdx.flatMap (sliceCalls env input)

end

theorem pricedOn_fst (protocol : Protocol) (part : List ValidItem × ℕ) :
    (pricedOn env input protocol part).map Prod.fst = writtenIds env input protocol part := by
  simp [pricedOn, writtenIds, attemptIds, idsOn, Function.comp_def]

theorem mem_pricedOn {protocol : Protocol} {part : List ValidItem × ℕ}
    {entry : MessageId × Money} (member : entry ∈ pricedOn env input protocol part) :
    ∃ index, ∃ inside : index < part.1.length, (part.1[index]).channel.protocol = protocol ∧
      entry.1 = env.messageId (.written part.2 0 index) ∧
        ∃ row ∈ sliceRows env input part, row.messageId = entry.1 ∧
          row.accountId = input.accountId ∧ row.price = entry.2 := by
  simp only [pricedOn, attemptRows, zip_mapIdx, List.mem_map, List.mem_filter, List.mem_mapIdx,
    decide_eq_true_eq] at member
  rcases member with ⟨_, ⟨⟨index, inside, rfl⟩, on⟩, rfl⟩
  refine ⟨index, inside, on, rfl,
    ((part.1[index]).smsLog env input (.written part.2 0 index)).core, ?_, rfl, rfl, rfl⟩
  exact List.mem_map_of_mem (List.mem_mapIdx.mpr ⟨index, inside, rfl⟩)

theorem refundedBy_sliceCalls (part : List ValidItem × ℕ) :
    refundedBy (sliceCalls env input part) =
      (sliceHttpCall env (part.1.getLast?.map ValidItem.channel)
        (pricedOn env input .http part)).refunded := by
  simp [refundedBy, sliceCalls, smppCall, EnqueueCall.refunded]

structure NewSlice (env : ChunkEnv) (input : ChunkInput) (start : Db) (ledger : Ledger)
    (due : List MessageId) (part : List ValidItem × ℕ) : Prop where
  distinct : (ledger.add (sliceRows env input part)).Distinct start
  booked : ∀ messageId ∈ due, messageId ∈ ledger.rows.map LogCore.messageId

theorem NewSlice.notDue {part : List ValidItem × ℕ} (new : NewSlice env input start ledger due part)
    {row : LogCore} (member : row ∈ sliceRows env input part) : row.messageId ∉ due := by
  intro isDue
  have nodup := new.distinct
  simp only [Ledger.Distinct, Ledger.add, List.map_append] at nodup
  have apart := (List.nodup_append'.mp (List.nodup_append'.mp nodup).2.1).2.2
  exact apart (new.booked _ isDue) (List.mem_map_of_mem member)

theorem NewSlice.charged {part : List ValidItem × ℕ}
    (new : NewSlice env input start ledger due part) (protocol : Protocol) :
    Charged env.isSent input.accountId (ledger.add (sliceRows env input part)) due
      (pricedOn env input protocol part) where
  nodup := by
    have nodup := new.distinct
    simp only [Ledger.Distinct, Ledger.add, List.map_append] at nodup
    have slice := (List.nodup_append'.mp (List.nodup_append'.mp nodup).2.1).2.1
    have part : ((pricedOn env input protocol part).map Prod.fst).Sublist
        ((sliceRows env input part).map LogCore.messageId) := by
      rw [pricedOn_fst]
      simp only [writtenIds, attemptIds, idsOn, sliceRows, List.map_map]
      have rows : (attemptRows env input part.2 0 part.1).map
          (LogCore.messageId ∘ SmsLog.core) =
            (part.1.zip (attemptRows env input part.2 0 part.1)).map
              fun entry => entry.2.messageId := by
        simp only [attemptRows, zip_mapIdx]
        refine List.ext_getElem (by simp) fun index _ _ => ?_
        simp [SmsLog.core]
      rw [rows]
      exact List.filter_sublist.map _
    exact slice.sublist part
  rows := by
    intro entry member
    rcases mem_pricedOn member with ⟨index, inside, on, isId, row, isRow, same, owner, price⟩
    refine ⟨⟨.written part.2 0 index, rfl, isId.symm⟩, ?_, row, ?_, same, owner, price⟩
    · rw [← same]
      exact new.notDue isRow
    · exact List.mem_append_right _ isRow

theorem writeAndQueue_tallies (part : List ValidItem × ℕ)
    (new : NewSlice env input start ledger due part) :
    Triple (fun state => Stands start input.accountId ledger ledger (· = before) state ∧
        Holds (Tally env.isSent input.accountId due account) state)
      (writeAndQueue env .never input batchStatus part.2 part.1)
      (fun _ => Holds (Booked start env.isSent input.accountId
        (ledger.add (sliceRows env input part))
        (due ++ (refundedBy (sliceCalls env input part)).map Prod.fst)
        (account.map fun account =>
          account.refunded (refundedBy (sliceCalls env input part)))))
      (fun _ _ => True) := by
  rw [refundedBy_sliceCalls]
  rcases part with ⟨items, slice⟩
  unfold writeAndQueue
  refine Triple.get_bind fun current given => ?_
  have mark : current.virtualIds = before.virtualIds := by rw [← given.1.locals]
  rw [mark]
  have built : Stands start input.accountId ledger ledger (before.SameBuilt items) current := by
    refine given.1.weaken ?_
    rintro values rfl mark virtualIds
    rfl
  have notDue : ∀ row ∈ attemptRows env input slice 0 items, row.messageId ∉ due :=
    fun row member => new.notDue (List.mem_map_of_mem member)
  have wrote : Triple (fun state => Stands start input.accountId ledger ledger
        (before.SameBuilt items) state ∧ Holds (Tally env.isSent input.accountId due account) state)
      (writeSlice env .never input batchStatus before.virtualIds slice items (writeAttempts - 1))
      _ _ :=
    writeSlice_triple.and (writeSlice_keeps notDue)
  refine Triple.bind ((wrote.at_state ⟨built, given.2⟩).weaken (fun _ same => same)
    (fun _ _ done => done) fun _ _ _ => trivial) ?_
  rintro ⟨payloads, messageIds⟩ state ⟨⟨attempt, ended, smpp, http, stands⟩, tally⟩
  simp only at smpp http
  rw [sliceWrite_never, Except.ok.injEq] at ended
  subst ended http
  have rows : durableRows env input slice items (sliceWrite .never slice (writeAttempts - 1)).durable =
      sliceRows env input (items, slice) := by
    simp [sliceWrite_never, durableRows, sliceRows]
  rw [rows] at stands
  have ids : attemptIds env input slice 0 .http items =
      (pricedOn env input .http (items, slice)).map Prod.fst := by
    rw [pricedOn_fst, writtenIds]
  rw [ids]
  have smppKeeps : Keeps (Holds (Booked start env.isSent input.accountId
      (ledger.add (sliceRows env input (items, slice))) due account))
      (queueSliceSmpp env .never slice payloads) :=
    queueSliceSmpp_keeps _ _
  exact Triple.bind smppKeeps (fun _ => queueSliceHttp_tallies new.distinct (new.charged .http))
    state ⟨stands.working, tally⟩

theorem NewSlice.refunded_booked {part : List ValidItem × ℕ}
    (new : NewSlice env input start ledger due part) :
    ∀ messageId ∈ due ++ (refundedBy (sliceCalls env input part)).map Prod.fst,
      messageId ∈ (ledger.add (sliceRows env input part)).rows.map LogCore.messageId := by
  intro messageId member
  simp only [Ledger.add, List.map_append, List.mem_append]
  rcases List.mem_append.mp member with isDue | refunded
  · exact Or.inl (new.booked _ isDue)
  · rcases List.mem_map.mp refunded with ⟨entry, isRefunded, rfl⟩
    rcases mem_refundedBy.mp isRefunded with ⟨call, isCall, _, isUnsent⟩
    have inCall := (EnqueueCall.mem_unsent.mp isUnsent).1
    have row : ∃ row ∈ sliceRows env input part, row.messageId = entry.1 := by
      simp only [sliceCalls, List.mem_cons, List.not_mem_nil, or_false] at isCall
      rcases isCall with rfl | rfl
      · rcases mem_pricedOn inCall with ⟨_, _, _, _, row, isRow, same, _⟩
        exact ⟨row, isRow, same⟩
      · have entries : entry ∈ pricedOn env input .http part := by
          unfold sliceHttpCall at inCall
          split at inCall <;> exact inCall
        rcases mem_pricedOn entries with ⟨_, _, _, _, row, isRow, same, _⟩
        exact ⟨row, isRow, same⟩
    rcases row with ⟨row, isRow, same⟩
    exact Or.inr (List.mem_map.mpr ⟨row, isRow, same⟩)

theorem Account.refunded_append (account : Option Account)
    (first second : List (MessageId × Money)) :
    ((account.map fun account => account.refunded first).map fun account =>
        account.refunded second) =
      account.map fun account => account.refunded (first ++ second) := by
  cases account <;> simp [Account.refunded, Account.receive, add_assoc]

theorem writeParts_tallies (parts : List (List ValidItem × ℕ))
    (distinct : (ledger.add (parts.flatMap (sliceRows env input))).Distinct start)
    (booked : ∀ messageId ∈ due, messageId ∈ ledger.rows.map LogCore.messageId) :
    Triple (fun state => Stands start input.accountId ledger ledger (· = before) state ∧
        Holds (Tally env.isSent input.accountId due account) state)
      (parts.forM fun (items, slice) => writeAndQueue env .never input batchStatus slice items)
      (fun _ => Holds (Tally env.isSent input.accountId
        (due ++ (refundedBy (parts.flatMap (sliceCalls env input))).map Prod.fst)
        (account.map fun account =>
          account.refunded (refundedBy (parts.flatMap (sliceCalls env input))))))
      (fun _ _ => True) := by
  induction parts generalizing ledger before due account with
  | nil =>
      rintro state ⟨_, tally⟩
      simp only [refundedBy, List.flatMap_nil, List.map_nil, List.append_nil, refunded_nil]
      exact tally
  | cons part parts ih =>
      rw [List.flatMap_cons, ← Ledger.add_add] at distinct
      have new : NewSlice env input start ledger due part := by
        refine ⟨?_, booked⟩
        simp only [Ledger.Distinct, Ledger.add, List.map_append] at distinct ⊢
        rw [← List.append_assoc] at distinct
        exact (List.nodup_append'.mp distinct).1
      have wrote : Triple (fun state => Stands start input.accountId ledger ledger (· = before) state ∧
            Stands start input.accountId ledger ledger (· = before) state ∧
              Holds (Tally env.isSent input.accountId due account) state)
          (writeAndQueue env .never input batchStatus part.2 part.1) _ _ :=
        (writeAndQueue_wrote part).and (writeAndQueue_tallies part new)
      refine Triple.bind (wrote.weaken (fun _ given => ⟨given.1, given⟩) (fun _ _ done => done)
        fun _ _ _ => trivial) fun _ => ?_
      rintro state ⟨stands, tally⟩
      have rest := ih distinct new.refunded_booked state
        ⟨(⟨stands.committed, stands.working, rfl⟩ : Stands start input.accountId _ _
          (· = state.toLocals) state), tally.tally⟩
      simp only [Account.refunded_append, List.append_assoc, ← List.map_append] at rest
      simpa only [refundedBy, List.flatMap_cons, List.flatMap_append] using rest

theorem writeLoop_tallies (items : List ValidItem)
    (distinct : (ledger.add (writePlan env input items).rows).Distinct start)
    (booked : ∀ messageId ∈ due, messageId ∈ ledger.rows.map LogCore.messageId) :
    Triple (fun state => Stands start input.accountId ledger ledger (· = before) state ∧
        Holds (Tally env.isSent input.accountId due account) state)
      (writeLoop env .never input batchStatus items)
      (fun _ => Holds (Owing env.isSent
        (due ++ (refundedBy (bulkCalls env input items)).map Prod.fst)))
      (fun _ _ => True) := by
  unfold writeLoop
  refine Triple.bind (writeParts_tallies _ distinct booked) fun _ => ?_
  refine Triple.get_bind fun current tally => ?_
  refine Triple.at_state (?_ : Triple (Holds (Owing env.isSent
    (due ++ (refundedBy (bulkCalls env input items)).map Prod.fst))) _ _ _) tally.owing
  refine Triple.ite (fun _ => ?_) fun _ _ holds => holds
  refine Triple.get_bind fun again holds => Triple.at_state ?_ holds
  exact fun _ holds => holds

theorem bulkCalls_kind (unique : Function.Injective env.messageId) {items : List ValidItem}
    {one two : EnqueueCall} (isOne : one ∈ bulkCalls env input items)
    (isTwo : two ∈ bulkCalls env input items) {messageId : MessageId}
    (inOne : messageId ∈ one.entries.map Prod.fst)
    (inTwo : messageId ∈ two.entries.map Prod.fst) : one.refunds = two.refunds := by
  have find : ∀ call ∈ bulkCalls env input items, messageId ∈ call.entries.map Prod.fst →
      ∃ part ∈ (slices dbLogChunk items).zipIdx, ∃ index, ∃ inside : index < part.1.length,
        messageId = env.messageId (.written part.2 0 index) ∧
          call.refunds = (decide ((part.1[index]).channel.protocol = .http) &&
            (part.1.getLast?.map ValidItem.channel).any Channel.isNodeRcs) := by
    intro call isCall asked
    rcases List.mem_flatMap.mp isCall with ⟨part, isPart, inSlice⟩
    rcases List.mem_map.mp asked with ⟨entry, inCall, rfl⟩
    simp only [sliceCalls, List.mem_cons, List.not_mem_nil, or_false] at inSlice
    rcases inSlice with rfl | rfl
    · rcases mem_pricedOn inCall with ⟨index, inside, on, isId, _⟩
      exact ⟨part, isPart, index, inside, isId, by simp [smppCall, on]⟩
    · have inHttp : entry ∈ pricedOn env input .http part := by
        unfold sliceHttpCall at inCall
        split at inCall <;> exact inCall
      rcases mem_pricedOn inHttp with ⟨index, inside, on, isId, _⟩
      refine ⟨part, isPart, index, inside, isId, ?_⟩
      unfold sliceHttpCall
      split <;> simp_all [nodeCall, bulkCall]
  rcases find one isOne inOne with ⟨part, isPart, index, inside, isId, kind⟩
  rcases find two isTwo inTwo with ⟨other, isOther, place, within, sameId, otherKind⟩
  have sites := unique (isId.symm.trans sameId)
  rw [IdSite.written.injEq] at sites
  have samePart : part = other := by
    rcases part with ⟨slice, number⟩
    rcases other with ⟨otherSlice, otherNumber⟩
    have first := List.mk_mem_zipIdx_iff_getElem?.mp isPart
    have second := List.mk_mem_zipIdx_iff_getElem?.mp isOther
    rw [show number = otherNumber from sites.1, second] at first
    exact Prod.ext (Option.some.inj first).symm sites.1
  subst samePart
  rw [kind, otherKind]
  simp only [sites.2.2]

section

variable (env)

def pricedWindow (window : List ChargedItem) : List (MessageId × Money) :=
  window.map fun entry => (ChargedItem.messageId env entry, entry.1.2)

def windowCalls (window : List ChargedItem × Option GroupLabel) : List EnqueueCall :=
  match window.2.bind GroupLabel.route with
  | none => []
  | some .smppQueue => [smppCall env (pricedWindow env window.1)]
  | some _ => [groupCall env (pricedWindow env window.1)]

end

/-- A path on which rows that were charged are enqueued: a commit batch, the write loop, and
the fallback path. -/
inductive SendPath where
  | commitBatch (channel : Channel) (entries : List (MessageId × Money))
  | bulk (items : List ValidItem)
  | fallback (items : List ValidItem)

namespace SendPath

section

variable (env input)

def run (batchStatus : String) : SendPath → Chunk Unit
  | commitBatch channel entries => do
      let _ ← queueCommitBatch env .never 0 channel entries batchStatus
  | bulk items => writeLoop env .never input batchStatus items
  | fallback items => Klsmsc.fallback env .never input batchStatus items

def calls (account : Option Account) : SendPath → List EnqueueCall
  | commitBatch channel entries => commitCalls env channel entries
  | bulk items => bulkCalls env input items
  | fallback items =>
      match account with
      | none => []
      | some account => (fallbackWindows env input account items).flatMap (windowCalls env)

/-- The state in front of the path: the rows of a commit batch are stored, with their prices;
the two other paths store their rows themselves. -/
def Stored (state : ChunkState) : SendPath → Prop
  | commitBatch _ entries => (entries.map Prod.fst).Nodup ∧ ∀ entry ∈ entries,
      ∃ row ∈ state.working.smsLogs, row.messageId = entry.1 ∧ row.accountId = input.accountId ∧
        row.price = entry.2 ∧ row.refundedAt = none
  | bulk _ | fallback _ => state.committed = state.working ∧ state.commitBatch = [] ∧
      state.virtualChannelId = none ∧ state.virtualIds = [] ∧ state.handed = [] ∧
        ∀ row ∈ state.working.smsLogs, ∀ site, row.messageId ≠ env.messageId site

/-- The state in front of the path. The columns `id` and `message_id` are unique. -/
structure Ready (state : ChunkState) (path : SendPath) : Prop where
  keyed : (state.working.smsLogs.map SmsLog.id).Nodup
  distinct : (state.working.smsLogs.map SmsLog.messageId).Nodup
  stored : path.Stored env input state

end

theorem run_calm (path : SendPath) : Calm (path.run env input batchStatus) := by
  cases path with
  | commitBatch channel entries => exact .bind (queueCommitBatch_calm _ _ _ _ _) fun _ => .pure
  | bulk items => exact writeLoop_calm _ _ _ _
  | fallback items => exact fallback_calm _ _ _ _

theorem exists_since {db : Db} (keyed : (db.smsLogs.map SmsLog.id).Nodup)
    (distinct : (db.smsLogs.map SmsLog.messageId).Nodup) (accountId : ℕ) :
    ∃ start ledger, Since start accountId ledger db ∧
      ledger.rows = db.smsLogs.map SmsLog.core ∧ ledger.Distinct start := by
  let bare : Db := { db with smsLogs := [] }
  refine ⟨bare, ⟨db.smsLogs.map SmsLog.core, db.purse accountId - bare.purse accountId⟩,
    ⟨by simp [bare], keyed, rfl, fun _ => (add_sub_cancel _ _).symm⟩, rfl, ?_⟩
  simp only [Ledger.Distinct, bare, List.map_nil, List.nil_append, List.map_map]
  exact distinct

theorem made_of_ledger {db : Db} {calls : List EnqueueCall}
    (since : Since start accountId ledger db) (distinct : ledger.Distinct start)
    (stored : ∀ call ∈ calls, ∀ entry ∈ call.entries, mine entry.1 ∧ ∃ core ∈ ledger.rows,
      core.messageId = entry.1 ∧ core.price = entry.2)
    (kind : ∀ one ∈ calls, ∀ two ∈ calls, ∀ messageId ∈ one.entries.map Prod.fst,
      messageId ∈ two.entries.map Prod.fst → one.refunds = two.refunds) :
    Made mine calls db where
  distinct := since.nodup_messageId distinct
  stored := by
    intro call isCall entry member
    rcases stored call isCall entry member with ⟨isMine, core, onLedger, isId, price⟩
    rcases since.find_messageId distinct onLedger with ⟨row, isRow, isCore, _⟩
    exact ⟨isMine, row, isRow, (congrArg LogCore.messageId isCore).trans isId,
      (congrArg LogCore.price isCore).trans price⟩
  kind := kind

def Ends (calls : List EnqueueCall) (state : ChunkState) : Prop :=
  ∃ mine, Owing mine ((refundedBy calls).map Prod.fst) state.working ∧
    Made mine calls state.working

theorem commitCalls_kind {channel : Channel} {entries : List (MessageId × Money)}
    {one two : EnqueueCall} (isOne : one ∈ commitCalls env channel entries)
    (isTwo : two ∈ commitCalls env channel entries) : one.refunds = two.refunds := by
  unfold commitCalls at isOne isTwo
  split at isOne
  · rw [if_pos ‹_›] at isTwo
    rw [List.mem_singleton.mp isOne, List.mem_singleton.mp isTwo]
  · rw [if_neg ‹_›] at isTwo
    split at isOne
    · rw [if_pos ‹_›] at isTwo
      rcases List.mem_map.mp isOne with ⟨_, _, rfl⟩
      rcases List.mem_map.mp isTwo with ⟨_, _, rfl⟩
      rfl
    · rw [if_neg ‹_›] at isTwo
      rw [List.mem_singleton.mp isOne, List.mem_singleton.mp isTwo]

theorem mem_commitCalls {channel : Channel} {entries : List (MessageId × Money)}
    {call : EnqueueCall}
    (isCall : call ∈ commitCalls env channel entries) : ∀ entry ∈ call.entries, entry ∈ entries := by
  unfold commitCalls at isCall
  split at isCall
  · rw [List.mem_singleton.mp isCall]
    exact fun _ member => member
  · split at isCall
    · rcases List.mem_map.mp isCall with ⟨window, isWindow, rfl⟩
      exact fun _ member => mem_of_mem_slices isWindow member
    · rw [List.mem_singleton.mp isCall]
      exact fun _ member => member

theorem commitBatch_ends {channel : Channel} {entries : List (MessageId × Money)}
    {state : ChunkState}
    (ready : (commitBatch channel entries).Ready env input state) :
    Triple (· = state) ((commitBatch channel entries).run env input batchStatus)
      (fun _ => Ends (commitCalls env channel entries)) (fun _ _ => True) := by
  rcases ready.stored with ⟨nodup, rows⟩
  rcases exists_since ready.keyed ready.distinct input.accountId with
    ⟨start, ledger, since, isLedger, distinct⟩
  have charged : Charged (· ∈ entries.map Prod.fst) input.accountId ledger [] entries := by
    refine ⟨nodup, fun entry member => ⟨List.mem_map_of_mem member, by simp, ?_⟩⟩
    rcases rows entry member with ⟨row, isRow, isId, owner, price, _⟩
    exact ⟨row.core, isLedger ▸ List.mem_map_of_mem isRow, isId, owner, price⟩
  have booked : Holds (Booked start (· ∈ entries.map Prod.fst) input.accountId ledger []
      (state.working.accounts input.accountId)) state := by
    refine ⟨since, fun row isRow isMine => ?_, rfl⟩
    rcases List.mem_map.mp isMine with ⟨entry, member, isId⟩
    rcases rows entry member with ⟨other, isOther, sameId, _, _, unrefunded⟩
    have same := eq_of_key_eq ready.distinct isOther isRow (sameId.trans isId)
    subst same
    exact ⟨by simp [unrefunded], by simp [unrefunded]⟩
  refine Triple.bind ((queueCommitBatch_tallies distinct charged).at_state booked) fun _ => ?_
  intro after ends
  refine ⟨_, ends.tally.owing, made_of_ledger ends.since distinct ?_ ?_⟩
  · intro call isCall entry inCall
    have member := mem_commitCalls isCall entry inCall
    rcases charged.rows entry member with ⟨isMine, _, core, onLedger, isId, _, price⟩
    exact ⟨isMine, core, onLedger, isId, price⟩
  · exact fun one isOne two isTwo _ _ _ => commitCalls_kind isOne isTwo

theorem distinct_of_fresh {db : Db} (distinct : (db.smsLogs.map SmsLog.messageId).Nodup)
    (fresh : ∀ row ∈ db.smsLogs, ∀ site, row.messageId ≠ env.messageId site)
    {rows : List LogCore} (nodup : (rows.map LogCore.messageId).Nodup)
    (drawn : ∀ row ∈ rows, ∃ site, row.messageId = env.messageId site) :
    (Ledger.empty.add rows).Distinct db := by
  simp only [Ledger.Distinct, Ledger.add, Ledger.empty, List.nil_append]
  refine List.nodup_append'.mpr ⟨distinct, nodup, ?_⟩
  intro messageId old new
  rcases List.mem_map.mp old with ⟨row, isRow, rfl⟩
  rcases List.mem_map.mp new with ⟨core, isCore, same⟩
  rcases drawn core isCore with ⟨site, isSite⟩
  exact fresh row isRow site (same.symm.trans isSite)

theorem stands_of_settled (accountId : ℕ) {state : ChunkState}
    (keyed : (state.working.smsLogs.map SmsLog.id).Nodup)
    (settled : state.committed = state.working) :
    Stands state.working accountId .empty .empty (· = state.toLocals) state := by
  have since : Since state.working accountId .empty state.working := Since.refl keyed
  exact ⟨by rw [settled]; exact since, since, rfl⟩

theorem bulk_ends (unique : Function.Injective env.messageId) {items : List ValidItem}
    {state : ChunkState} (ready : (bulk items).Ready env input state) :
    Triple (· = state) ((bulk items).run env input batchStatus)
      (fun _ => Ends (bulkCalls env input items)) (fun _ _ => True) := by
  rcases ready.stored with ⟨settled, _, _, _, _, fresh⟩
  have ids : (writePlan env input items).rows.map LogCore.messageId =
      (writePlan env input items).dispatches.map Dispatch.messageId := by
    have keys := congrArg (List.map Prod.fst) (@writePlan_keys env input items)
    rw [List.map_map, List.map_map] at keys
    exact keys
  have distinct : (Ledger.empty.add (writePlan env input items).rows).Distinct state.working := by
    refine distinct_of_fresh ready.distinct fresh (ids ▸ (writePlan_covers unique items).distinct) ?_
    intro row member
    rcases List.mem_flatMap.mp member with ⟨part, _, inPart⟩
    rcases List.mem_map.mp inPart with ⟨log, isLog, rfl⟩
    rcases List.mem_mapIdx.mp isLog with ⟨index, _, rfl⟩
    exact ⟨.written part.2 0 index, rfl⟩
  have stands := stands_of_settled input.accountId ready.keyed settled
  have tally : Holds (Tally env.isSent input.accountId []
      (state.working.accounts input.accountId)) state := by
    refine ⟨fun row isRow isMine => ?_, rfl⟩
    rcases isMine with ⟨site, _, isId⟩
    exact absurd isId.symm (fresh row isRow site)
  have loop : Triple (fun other => Stands state.working input.accountId .empty .empty
        (· = state.toLocals) other ∧ Stands state.working input.accountId .empty .empty
          (· = state.toLocals) other ∧ Holds (Tally env.isSent input.accountId []
            (state.working.accounts input.accountId)) other)
      (writeLoop env .never input batchStatus items) _ _ :=
    (writeLoop_wrote items).and (writeLoop_tallies items distinct (by simp))
  refine (loop.at_state ⟨stands, stands, tally⟩).weaken (fun _ same => same) ?_
    fun _ _ _ => trivial
  rintro _ after ⟨wrote, owing⟩
  refine ⟨env.isSent, owing, made_of_ledger wrote.working distinct ?_
    fun one isOne two isTwo _ => bulkCalls_kind unique isOne isTwo⟩
  intro call isCall entry inCall
  rcases List.mem_flatMap.mp isCall with ⟨part, isPart, inSlice⟩
  have row : ∃ protocol, entry ∈ pricedOn env input protocol part := by
    simp only [sliceCalls, List.mem_cons, List.not_mem_nil, or_false] at inSlice
    rcases inSlice with rfl | rfl
    · exact ⟨.smpp, inCall⟩
    · refine ⟨.http, ?_⟩
      unfold sliceHttpCall at inCall
      split at inCall <;> exact inCall
  rcases row with ⟨protocol, member⟩
  rcases mem_pricedOn member with ⟨index, _, _, isId, row, isRow, same, _, price⟩
  refine ⟨⟨.written part.2 0 index, rfl, isId.symm⟩, row, ?_, same, price⟩
  exact List.mem_append_right _ (List.mem_flatMap.mpr ⟨part, isPart, isRow⟩)

theorem windowCalls_mem {window : List ChargedItem × Option GroupLabel} {call : EnqueueCall}
    (isCall : call ∈ windowCalls env window) :
    call.refunds = false ∧ call.entries = pricedWindow env window.1 := by
  unfold windowCalls at isCall
  split at isCall
  · simp at isCall
  · rw [List.mem_singleton.mp isCall]
    exact ⟨rfl, rfl⟩
  · rw [List.mem_singleton.mp isCall]
    exact ⟨rfl, rfl⟩

theorem exhausted_ids (rest : List ValidItem) :
    ((rest.mapIdx fun index item => item.exhaustedSmsLog env input index).map SmsLog.core).map
        LogCore.messageId =
      rest.mapIdx fun index _ => env.messageId (.exhausted index) := by
  refine List.ext_getElem (by simp) fun index _ _ => ?_
  simp [SmsLog.core, ValidItem.exhaustedSmsLog, ValidItem.smsLog]

theorem fallbackRows_ids (account : Account) (items : List ValidItem) :
    (fallbackRows env input account items).map LogCore.messageId =
      (chargedItems env input account items).zipIdx.map (ChargedItem.messageId env) ++
        (items.drop (chargedItems env input account items).length).mapIdx
          fun index _ => env.messageId (.exhausted index) := by
  rw [fallbackRows, List.map_append, exhausted_ids, List.map_map]
  rfl

theorem fallbackRows_nodup (unique : Function.Injective env.messageId) (account : Account)
    (items : List ValidItem) :
    ((fallbackRows env input account items).map LogCore.messageId).Nodup := by
  rw [fallbackRows_ids]
  refine List.nodup_append'.mpr ⟨?_, ?_, ?_⟩
  · refine List.pairwise_map.mpr ((pairwise_zipIdx _).imp fun {one two} less same => ?_)
    have sites := unique same
    rw [IdSite.fallback.injEq] at sites
    omega
  · exact nodup_mapIdx _ unique fun one two same => by cases same; rfl
  · intro messageId charged exhausted
    rcases List.mem_map.mp charged with ⟨entry, _, rfl⟩
    rcases List.mem_mapIdx.mp exhausted with ⟨index, _, same⟩
    cases unique same

theorem refundedBy_plain {calls : List EnqueueCall}
    (plain : ∀ call ∈ calls, call.refunds = false) : refundedBy calls = [] := by
  refine List.flatMap_eq_nil_iff.mpr fun call isCall => ?_
  rw [EnqueueCall.refunded, if_neg (by simp [plain call isCall])]

theorem fallback_ends (unique : Function.Injective env.messageId) {items : List ValidItem}
    {state : ChunkState} (ready : (fallback items).Ready env input state) :
    Triple (· = state) ((fallback items).run env input batchStatus)
      (fun _ => Ends ((fallback items).calls env input (state.working.accounts input.accountId)))
      (fun _ _ => True) := by
  rcases ready.stored with ⟨settled, noBatch, noChannel, noIds, nothing, fresh⟩
  have stands := stands_of_settled input.accountId ready.keyed settled
  have unrefunded : Holds (Unrefunded env.isSent) state := by
    intro row isRow isMine
    rcases isMine with ⟨site, _, isId⟩
    exact absurd isId.symm (fresh row isRow site)
  have keeps : Keeps (Holds (Unrefunded env.isSent))
      (Klsmsc.fallback env .never input batchStatus items) :=
    fallback_keeps items
  cases isAccount : state.working.accounts input.accountId with
  | none =>
      have distinct : (Ledger.empty.add (unownedRows env input items)).Distinct state.working := by
        refine distinct_of_fresh ready.distinct fresh ?_ ?_
        · rw [unownedRows, exhausted_ids]
          exact nodup_mapIdx _ unique fun one two same => by cases same; rfl
        · intro row member
          rcases List.mem_map.mp member with ⟨log, isLog, rfl⟩
          rcases List.mem_mapIdx.mp isLog with ⟨index, _, rfl⟩
          exact ⟨.exhausted index, rfl⟩
      have runs : Triple (fun other => (other.working.accounts input.accountId = none ∧
          Stands state.working input.accountId .empty .empty (· = state.toLocals) other) ∧
            Holds (Unrefunded env.isSent) other)
          (Klsmsc.fallback env .never input batchStatus items) _ _ :=
        (fallback_unowned noBatch).and keeps
      refine (runs.at_state ⟨⟨isAccount, stands⟩, unrefunded⟩).weaken (fun _ same => same) ?_
        fun _ _ _ => trivial
      rintro _ after ⟨ends, owing⟩
      exact ⟨env.isSent, owing, made_of_ledger ends.working distinct (by simp [calls])
        (by simp [calls])⟩
  | some account =>
      have distinct : (Ledger.empty.add (fallbackRows env input account items)).Distinct
          state.working := by
        refine distinct_of_fresh ready.distinct fresh (fallbackRows_nodup unique account items) ?_
        intro row member
        rcases List.mem_append.mp member with charged | exhausted
        · rcases List.mem_map.mp charged with ⟨entry, _, rfl⟩
          exact ⟨.fallback entry.2, rfl⟩
        · rcases List.mem_map.mp exhausted with ⟨log, isLog, rfl⟩
          rcases List.mem_mapIdx.mp isLog with ⟨index, _, rfl⟩
          exact ⟨.exhausted index, rfl⟩
      have runs : Triple (fun other => (other.working.accounts input.accountId = some account ∧
          Stands state.working input.accountId .empty .empty (· = state.toLocals) other) ∧
            Holds (Unrefunded env.isSent) other)
          (Klsmsc.fallback env .never input batchStatus items) _ _ :=
        (fallback_runs noBatch noChannel).and keeps
      refine (runs.at_state ⟨⟨isAccount, stands⟩, unrefunded⟩).weaken (fun _ same => same) ?_
        fun _ _ _ => trivial
      rintro _ after ⟨⟨working, rows, ends⟩, owing⟩
      have isCall : ∀ call ∈ (fallback items).calls env input (some account), ∃ window ∈
          fallbackWindows env input account items, call ∈ windowCalls env window :=
        fun call member => List.mem_flatMap.mp member
      have plain : ∀ call ∈ (fallback items).calls env input (some account),
          call.refunds = false := by
        intro call member
        rcases isCall call member with ⟨window, _, inWindow⟩
        exact (windowCalls_mem inWindow).1
      have whole : working.Distinct state.working := by
        have same : working.rows = (Ledger.empty.add (fallbackRows env input account items)).rows :=
          rows
        rw [Ledger.Distinct, same]
        exact distinct
      refine ⟨env.isSent, by rw [refundedBy_plain plain]; exact owing, made_of_ledger ends.working whole ?_
        fun one isOne two isTwo _ _ _ => (plain one isOne).trans (plain two isTwo).symm⟩
      intro call member entry inCall
      rcases isCall call member with ⟨window, isWindow, inWindow⟩
      rw [(windowCalls_mem inWindow).2] at inCall
      rcases List.mem_map.mp inCall with ⟨charged, isCharged, rfl⟩
      refine ⟨⟨.fallback charged.2, rfl, rfl⟩, (ChargedItem.smsLog env input charged).core, ?_,
        rfl, rfl⟩
      rw [rows]
      have inside := mem_of_mem_windows (by decide) isWindow isCharged
      simp only [fallbackRows, List.mem_append]
      exact Or.inr (Or.inl (List.mem_map_of_mem inside))

/-- On every path, whatever of the calls to the queue manager and the node fails: the rows that
were charged and that no attempt has enqueued are all credited with their prices exactly when
each call either refunds or has left none of its charged messages behind. -/
theorem compensates_iff (unique : Function.Injective env.messageId) {path : SendPath}
    {state : ChunkState} (ready : path.Ready env input state) :
    ∃ after, path.run env input batchStatus state = .ok () after ∧
      (Compensated (path.calls env input (state.working.accounts input.accountId))
          after.working ↔
        ∀ call ∈ path.calls env input (state.working.accounts input.accountId),
          call.refunds = true ∨ call.unsent = []) := by
  rcases run_calm path state with ⟨⟨⟩, after, ended⟩
  have outcome : Ends (path.calls env input (state.working.accounts input.accountId)) after := by
    have ends : Triple (· = state) (path.run env input batchStatus) (fun _ =>
        Ends (path.calls env input (state.working.accounts input.accountId))) (fun _ _ => True) := by
      cases path with
      | commitBatch channel entries => exact commitBatch_ends ready
      | bulk items => exact bulk_ends unique ready
      | fallback items => exact fallback_ends unique ready
    have result := ends state rfl
    rw [ended] at result
    exact result
  rcases outcome with ⟨mine, owing, made⟩
  exact ⟨after, ended, compensated_iff owing made⟩

end SendPath

end

def ChunkEnv.refusing (channel : Channel) (unitPrice : Money) : ChunkEnv :=
  { ChunkEnv.plain channel unitPrice with
    publishFails := fun _ _ => true
    messageId := pairedId }

def loneBulk : SendPath :=
  .bulk [⟨⟨"+8613800138000", "CN"⟩, "hello", 1, 1, .plain .smpp⟩]

def loneStart : ChunkState := .start (.plain 1000 (.plain .smpp) [])

/-- The write loop does not refund the message that it could not enqueue. -/
theorem compensates_fails :
    ∃ after, loneBulk.run (.refusing (.plain .smpp) 100) (.plain [] none) "processing" loneStart =
        .ok () after ∧
      ¬Compensated (loneBulk.calls (.refusing (.plain .smpp) 100) (.plain [] none)
        (loneStart.working.accounts 1)) after.working := by
  have uncredited : (match loneBulk.run (.refusing (.plain .smpp) 100) (.plain [] none)
      "processing" loneStart with
    | .ok _ after => decide (¬Compensated (loneBulk.calls (.refusing (.plain .smpp) 100)
        (.plain [] none) (loneStart.working.accounts 1)) after.working)
    | .error _ _ => false) = true := by
    decide
  cases ended : loneBulk.run (.refusing (.plain .smpp) 100) (.plain [] none) "processing"
      loneStart with
  | error raised after => simp [ended] at uncredited
  | ok result after =>
      rw [ended] at uncredited
      exact ⟨after, rfl, of_decide_eq_true uncredited⟩

theorem loneBulk_ready :
    loneBulk.Ready (.refusing (.plain .smpp) 100) (.plain [] none) loneStart where
  keyed := by decide
  distinct := by decide
  stored := ⟨rfl, rfl, rfl, rfl, rfl, by simp [loneStart, Db.plain, ChunkState.start]⟩

theorem compensates_iff_loneBulk :
    ∃ after, loneBulk.run (.refusing (.plain .smpp) 100) (.plain [] none) "processing" loneStart =
        .ok () after ∧
      (Compensated (loneBulk.calls (.refusing (.plain .smpp) 100) (.plain [] none)
          (loneStart.working.accounts (ChunkInput.plain [] none).accountId)) after.working ↔
        ∀ call ∈ loneBulk.calls (.refusing (.plain .smpp) 100) (.plain [] none)
            (loneStart.working.accounts (ChunkInput.plain [] none).accountId),
          call.refunds = true ∨ call.unsent = []) :=
  SendPath.compensates_iff pairedId_injective loneBulk_ready

end Klsmsc
