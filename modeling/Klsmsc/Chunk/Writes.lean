import Klsmsc.Chunk.Plan

/-!
# Properties of the tables that an execution keeps

The worker writes to the tables in six ways: it stores rows, changes rows, changes the batch,
refunds a message, charges the account together with an entry in `balance_logs`, and gives the
charge of the chunk back together with an entry. A property of the tables that these six keep
holds of the committed tables when an execution ends, whatever raises. Between the deduction of
the whole chunk and its entry it holds only of the committed tables; an exception there ends the
session.
-/

namespace Klsmsc

open Library

/-- The writes of the worker keep a property of the tables, as long as the numbers of new rows and
the amounts of charges are of a kind. -/
structure KeptByWrites (kept : Db → Prop) (phoneOk : String → Prop) (amountOk : Money → Prop) :
    Prop where
  insert : ∀ {db : Db} {rows : List SmsLog}, kept db → (∀ row ∈ rows, phoneOk row.phoneNumber) →
    kept (db.insertSmsLogs rows)
  update : ∀ {db : Db} {condition : SmsLog → Bool} {change : SmsLog → SmsLog}, kept db →
    (∀ row, (change row).phoneNumber = row.phoneNumber) → kept (db.updateSmsLogs condition change)
  setBatch : ∀ {db : Db} (batchId : ℕ) (batch : SmsBatch), kept db → kept (db.setBatch batchId batch)
  refundMessage : ∀ {db : Db} (unicode : Unicode) (messageId : MessageId) (now : ℕ), kept db →
    kept (refundMessage unicode db messageId now)
  charge : ∀ {db paid : Db} {accountId : ℕ} {isPostpaid : Bool} {amount : Money}, kept db →
    amountOk amount → db.deduct accountId isPostpaid amount = some paid →
      kept (paid.logCharge accountId amount)
  giveBack : ∀ {db : Db} (accountId : ℕ) (amount balanceAfter : Money), kept db →
    kept ((db.addBalance accountId amount).addBalanceLog
      ⟨accountId, .refund, amount, balanceAfter⟩)

def BothTables (kept : Db → Prop) (state : ChunkState) : Prop :=
  kept state.committed ∧ kept state.working

section

variable {kept : Db → Prop} {env : ChunkEnv} {faults : Faults} {input : ChunkInput}

theorem BothTables.drop {state : ChunkState} (both : BothTables kept state) :
    BothTables kept { state with working := state.committed } :=
  ⟨both.1, both.1⟩

theorem statement_kept (site : Site) :
    Upholds (BothTables kept) (Chunk.statement faults site) := by
  intro state both
  unfold Chunk.statement
  cases faults site with
  | none => exact both
  | some fault =>
      cases lost : fault.lost with
      | true => simpa [lost] using both.drop
      | false => simpa [lost] using both

theorem flush_kept (site : Site) : Upholds (BothTables kept) (Chunk.flush faults site) :=
  statement_kept site

theorem commit_kept (site : Site) : Upholds (BothTables kept) (Chunk.commit faults site) := by
  intro state both
  unfold Chunk.commit
  cases faults site with
  | none => exact ⟨both.2, both.2⟩
  | some fault =>
      cases durable : fault.commits with
      | true =>
          have whole : BothTables kept { state with committed := state.working } :=
            ⟨both.2, both.2⟩
          simpa [durable] using whole
      | false => simpa [durable] using both.drop

theorem change_kept {update : Db → Db} (keeps : ∀ db, kept db → kept (update db)) :
    Upholds (BothTables kept) (Chunk.change update) :=
  fun _ both => ⟨both.1, keeps _ both.2⟩

theorem locals_kept {update : ChunkState → ChunkState}
    (tables : ∀ state, (update state).committed = state.committed ∧
      (update state).working = state.working) :
    Upholds (BothTables kept) (modify update : Chunk Unit) := by
  intro state both
  change BothTables kept (update state)
  rw [BothTables, (tables state).1, (tables state).2]
  exact both

theorem count_kept (succeeded failed : ℕ) :
    Upholds (BothTables kept) (Chunk.count succeeded failed) :=
  locals_kept fun _ => ⟨rfl, rfl⟩

theorem hand_kept (route : Route) (messageIds : List MessageId) :
    Upholds (BothTables kept) (Chunk.hand route messageIds) :=
  locals_kept fun _ => ⟨rfl, rfl⟩

theorem publish_kept (site : Site) (single : MessageId → Site) (payloads : List SmppPayload) :
    Upholds (BothTables kept) (publish env faults site single payloads) := by
  refine .bind (statement_kept _) fun _ => .bind (hand_kept _ _) fun _ => ?_
  refine .ite (fun _ => count_kept _ _) fun _ => .forM fun payload _ => ?_
  refine .bind (statement_kept _) fun _ => ?_
  exact .ite (fun _ => count_kept _ _) fun _ => count_kept _ _

theorem queueSliceSmpp_kept (slice : ℕ) (payloads : List SmppPayload) :
    Upholds (BothTables kept) (queueSliceSmpp env faults slice payloads) :=
  .ite (fun _ => .pure) fun _ => publish_kept _ _ _

theorem buildSlice_kept (mark : List MessageId) (slice attempt : ℕ) (items : List ValidItem) :
    Upholds (BothTables kept) (buildSlice env faults input mark slice attempt items) :=
  .bind (statement_kept _) fun _ => locals_kept fun _ => ⟨rfl, rfl⟩

theorem closing_kept {Value : Type} {body : Chunk Value} {pre : ChunkState → Prop}
    (keeps : Triple pre body (fun _ => BothTables kept) fun _ state => kept state.committed) :
    Triple pre (closing body) (fun _ => BothTables kept) fun _ => BothTables kept :=
  closing_triple (keeps.weaken (fun _ => id) (fun _ _ => BothTables.drop)
    fun _ _ committed => ⟨committed, committed⟩)

theorem committed_kept {Value : Type} {command : Chunk Value}
    (upholds : Upholds (BothTables kept) command) :
    Triple (BothTables kept) command (fun _ => BothTables kept)
      fun _ state => kept state.committed :=
  upholds.weaken (fun _ => id) (fun _ _ => id) fun _ _ both => both.1

theorem statement_between (site : Site) {between : Db → Prop} :
    Triple (fun state => kept state.committed ∧ between state.working)
      (Chunk.statement faults site)
      (fun _ state => kept state.committed ∧ between state.working)
      fun _ state => kept state.committed := by
  intro state holds
  unfold Chunk.statement
  cases faults site with
  | none => exact holds
  | some fault =>
      cases lost : fault.lost with
      | true => simpa [lost] using holds.1
      | false => simpa [lost] using holds.1

end

def ItemsOk (phoneOk : String → Prop) (items : List ValidItem) : Prop :=
  ∀ item ∈ items, phoneOk item.phoneInfo.e164Format

def FeesOk (amountOk : Money → Prop) (env : ChunkEnv) (input : ChunkInput)
    (items : List ValidItem) : Prop :=
  ∀ item ∈ items, amountOk (item.unitPrice env input * item.billableUnits env)

theorem fallbackLoop_leaves {env : ChunkEnv} {faults : Faults} {input : ChunkInput}
    {batchStatus : String} (items : List ValidItem) (index : ℕ) (last : Option Channel) :
    Triple (fun _ => True) (fallbackLoop env faults input batchStatus index last items)
      (fun result _ => result.1 ⊆ items) (fun _ _ => True) := by
  induction items generalizing index last with
  | nil =>
      intro state _
      exact List.Subset.refl _
  | cons item items ih =>
      refine Triple.seq (fun _ _ => True) triple_true fun _ => Triple.ite (fun _ => ?_) fun _ => ?_
      · refine (ih _ _).weaken (fun _ => id) (fun _ _ some => ?_) fun _ _ => id
        exact List.subset_cons_of_subset _ some
      · intro state _
        exact List.Subset.refl _

namespace KeptByWrites

variable {kept : Db → Prop} {phoneOk : String → Prop} {amountOk : Money → Prop} {env : ChunkEnv}
  {faults : Faults} {input : ChunkInput} {batchStatus : String}
  (writes : KeptByWrites kept phoneOk amountOk)

include writes

theorem updateRows_kept {rows : List SmsLog} {change : SmsLog → SmsLog}
    (same : ∀ row, (change row).phoneNumber = row.phoneNumber) :
    Upholds (BothTables kept) (Chunk.change fun db => db.updateRows rows change) :=
  change_kept fun _ before => writes.update before same

theorem replaceTrackUrlsForLogs_kept (site : Site) (rows : List SmsLog) :
    Upholds (BothTables kept) (replaceTrackUrlsForLogs env faults site rows) :=
  .bind (flush_kept site) fun _ => .bind (writes.updateRows_kept fun _ => rfl) fun _ => .pure

theorem replaceAndCommit_kept (site : Site) (rows : List SmsLog) :
    Upholds (BothTables kept) (replaceAndCommit env faults site rows) := by
  refine .bind (writes.replaceTrackUrlsForLogs_kept site rows) fun _ => ?_
  exact .ite (fun _ => .bind (commit_kept site) fun _ => .pure) fun _ => .pure

theorem refundAll_kept (slice : ℕ) (costs : List (MessageId × Money))
    (messageIds : List MessageId) :
    Upholds (BothTables kept) (refundAll env faults slice costs messageIds) := by
  refine .forM fun messageId _ => .catching (.bind (statement_kept _) fun _ => ?_) fun _ => .pure
  refine .ite (fun _ => change_kept fun db before => ?_) fun _ => .pure
  exact writes.refundMessage env.unicode messageId env.now before

theorem queueCommitBatchNodeRcs_kept (slice : ℕ) (messageIds : List MessageId) :
    Upholds (BothTables kept) (queueCommitBatchNodeRcs env faults slice messageIds) := by
  refine .bind (statement_kept _) fun _ => .get_bind fun current _ => ?_
  refine .ite (fun _ => .pure) fun _ => .bind (writes.replaceAndCommit_kept _ _) fun rows => ?_
  refine .bind (hand_kept _ _) fun _ => .bind ?_ fun answer => ?_
  · exact .catching (.bind (statement_kept _) fun _ => .pure) fun _ => .pure
  · cases answer with
    | error text =>
        refine .bind (writes.updateRows_kept fun _ => rfl) fun _ => .bind (commit_kept _) fun _ => ?_
        exact .bind (writes.refundAll_kept _ _ _) fun _ => .pure
    | ok serial =>
        refine .bind (writes.updateRows_kept fun _ => rfl) fun _ => .bind (commit_kept _) fun _ => ?_
        exact .pure

theorem queueSliceHttp_kept (slice : ℕ) (channel : Option Channel)
    (messageIds : List MessageId) :
    Upholds (BothTables kept) (queueSliceHttp env faults slice channel messageIds) := by
  refine .ite (fun _ => .pure) fun _ => .ite (fun _ => ?_) fun _ => ?_
  · exact .bind (writes.queueCommitBatchNodeRcs_kept _ _) fun _ => count_kept _ _
  · exact .bind (statement_kept _) fun _ => .bind (hand_kept _ _) fun _ => count_kept _ _

theorem queueGroup_kept (index : ℕ) (channel : Option Channel)
    (commitBatch : List (MessageId × Money)) :
    Upholds (BothTables kept) (queueGroup env faults index channel batchStatus commitBatch) := by
  refine .get_bind fun current _ => .ite (fun _ => count_kept _ _) fun _ => ?_
  refine .ite (fun _ => ?_) fun _ => .forM fun messageId _ => ?_
  · refine .bind (statement_kept _) fun _ => .get_bind fun current _ => ?_
    exact .bind (writes.replaceAndCommit_kept _ _) fun rows => publish_kept _ _ _
  · refine .bind (statement_kept _) fun _ => .bind (hand_kept _ _) fun _ => ?_
    exact .ite (fun _ => count_kept _ _) fun _ => count_kept _ _

theorem commitGroup_kept (index : ℕ) (channel : Option Channel) :
    Upholds (BothTables kept) (commitGroup env faults batchStatus index channel) := by
  refine .bind (flush_kept _) fun _ => .bind (commit_kept _) fun _ => .get_bind fun current _ => ?_
  exact .bind (writes.queueGroup_kept _ _ _) fun _ => locals_kept fun _ => ⟨rfl, rfl⟩

theorem deductOnce_kept (isPostpaid : Bool) {total : Money} (ok : amountOk total) (attempt : ℕ) :
    Triple (BothTables kept) (deductOnce faults input isPostpaid total attempt)
      (fun paid state => if paid then
          kept state.committed ∧ kept (state.working.logCharge input.accountId total)
        else BothTables kept state)
      fun _ => BothTables kept := by
  refine Triple.bind (statement_kept _) fun _ => Triple.get_bind fun current both => ?_
  cases deducted : current.working.deduct input.accountId isPostpaid total with
  | none =>
      rintro state rfl
      exact both
  | some db =>
      rintro state rfl
      exact ⟨both.1, writes.charge both.2 ok deducted⟩

theorem deductRetrying_kept (isPostpaid : Bool) {total : Money} (ok : amountOk total)
    (left : ℕ) :
    Triple (BothTables kept) (deductRetrying faults input isPostpaid total left)
      (fun paid state => if paid then
          kept state.committed ∧ kept (state.working.logCharge input.accountId total)
        else BothTables kept state)
      fun _ => BothTables kept := by
  induction left with
  | zero => exact writes.deductOnce_kept _ ok _
  | succ left ih =>
      refine Triple.catching (fun _ => BothTables kept) (writes.deductOnce_kept _ ok _)
        (fun _ _ _ => id) fun _ _ => ?_
      refine Triple.bind (Upholds.modify fun _ => BothTables.drop) fun _ => ?_
      exact Triple.bind (statement_kept _) fun _ => ih

theorem chargeChunk_kept (isPostpaid : Bool) {total : Money} (ok : 0 < total → amountOk total) :
    Triple (BothTables kept) (chargeChunk faults input isPostpaid total)
      (fun _ => BothTables kept) fun _ state => kept state.committed := by
  refine Triple.ite (fun _ _ both => both) fun costs => ?_
  have isOk := ok (not_le.mp costs)
  refine Triple.bind ((writes.deductRetrying_kept _ isOk _).weaken (fun _ => id) (fun _ _ => id)
    fun _ _ both => both.1) fun paid => ?_
  cases paid with
  | false => exact fun _ both => both
  | true =>
      have reads := @statement_between kept faults .readBalance fun db =>
        kept (db.logCharge input.accountId total)
      refine Triple.bind (reads.weaken (fun _ paid => paid) (fun _ _ paid => paid)
        fun _ _ committed => committed) fun _ => ?_
      refine Triple.seq (fun _ => BothTables kept) (fun _ done => done) fun _ => ?_
      refine committed_kept (.bind (commit_kept _) fun _ => ?_)
      exact .bind (locals_kept fun _ => ⟨rfl, rfl⟩) fun _ => .pure

theorem storeFailed_kept {flushSite commitSite : ℕ → Site} {rows : List SmsLog}
    (ok : ∀ row ∈ rows, phoneOk row.phoneNumber) :
    Upholds (BothTables kept) (storeFailed faults flushSite commitSite rows) := by
  refine .forM fun entry member => ?_
  have isSlice := List.fst_mem_of_mem_zipIdx member
  refine .bind (flush_kept _) fun _ => .bind (change_kept fun _ before => ?_) fun _ => commit_kept _
  exact writes.insert before fun row inSlice => ok row (mem_of_mem_slices isSlice inSlice)

theorem storeSlice_kept (slice attempt : ℕ) {items : List ValidItem}
    (ok : ItemsOk phoneOk items) :
    Upholds (BothTables kept)
      (storeSlice env faults input batchStatus slice attempt items) := by
  have rows : ∀ row ∈ attemptRows env input slice attempt items, phoneOk row.phoneNumber := by
    intro row member
    rcases List.mem_mapIdx.mp member with ⟨index, inside, rfl⟩
    exact ok _ (List.getElem_mem inside)
  refine .bind (flush_kept _) fun _ => .get_bind fun current _ => ?_
  refine .bind (change_kept fun _ before => writes.insert before rows) fun _ => ?_
  refine .bind (writes.replaceTrackUrlsForLogs_kept _ _) fun _ => .bind (commit_kept _) fun _ => ?_
  exact .pure

theorem writeSlice_kept (mark : List MessageId) (slice : ℕ) {items : List ValidItem}
    (ok : ItemsOk phoneOk items) (left : ℕ) :
    Upholds (BothTables kept)
      (writeSlice env faults input batchStatus mark slice items left) := by
  induction left with
  | zero => exact .bind (buildSlice_kept _ _ _ _) fun _ => writes.storeSlice_kept _ _ ok
  | succ left ih =>
      refine .bind (buildSlice_kept _ _ _ _) fun _ => ?_
      refine .catching (writes.storeSlice_kept _ _ ok) fun _ => ?_
      exact .bind (.modify fun _ => BothTables.drop) fun _ => .bind (statement_kept _) fun _ => ih

theorem writeLoop_kept {items : List ValidItem} (ok : ItemsOk phoneOk items) :
    Upholds (BothTables kept) (writeLoop env faults input batchStatus items) := by
  refine .bind (.forM fun entry member => ?_) fun _ => .get_bind fun current _ => ?_
  · have inSlice : ItemsOk phoneOk entry.1 := fun item isItem =>
      ok item (mem_of_mem_slices (List.fst_mem_of_mem_zipIdx member) isItem)
    refine .get_bind fun current _ => .bind (writes.writeSlice_kept _ _ inSlice _) fun stored => ?_
    exact .bind (queueSliceSmpp_kept _ _) fun _ => writes.queueSliceHttp_kept _ _ _
  · exact .ite (fun _ => .get_bind fun _ _ => count_kept _ _) fun _ => .pure

theorem calculateAndCharge_kept (index : ℕ) {item : ValidItem}
    (ok : amountOk (item.unitPrice env input * item.billableUnits env)) :
    Upholds (BothTables kept) (calculateAndCharge env faults input index item) := by
  refine .bind (statement_kept _) fun _ => ?_
  cases found : env.getPrice item.channel.id item.phoneInfo.countryCode input.accountId with
  | none => exact .pure
  | some priced =>
      refine .get_bind fun current _ => ?_
      cases current.working.accounts input.accountId with
      | none => exact .pure
      | some account =>
          refine .get_bind fun again both => ?_
          split
          · exact .pure
          · rename_i db deducted
            have price : item.unitPrice env input = priced.1 := by
              simp [ValidItem.unitPrice, found]
            rw [price] at ok
            refine .bind (change_kept fun _ _ => ?_) fun _ => .bind (flush_kept _) fun _ => .pure
            exact writes.charge both.2 ok deducted

theorem storeCharged_kept (index : ℕ) {item : ValidItem} (total : Money)
    (ok : phoneOk item.phoneInfo.e164Format) :
    Upholds (BothTables kept) (storeCharged env faults input batchStatus index item total) := by
  refine .bind (locals_kept fun _ => ⟨rfl, rfl⟩) fun _ => .bind (flush_kept _) fun _ => ?_
  refine .bind (locals_kept fun _ => ⟨rfl, rfl⟩) fun _ => .bind (change_kept fun _ before => ?_)
    fun _ => .get_bind fun current _ => .ite (fun _ => writes.commitGroup_kept _ _) fun _ => .pure
  refine writes.insert before fun row member => ?_
  rw [List.mem_singleton.mp member]
  exact ok

theorem fallbackLoop_kept {items : List ValidItem} (ok : ItemsOk phoneOk items)
    (fees : FeesOk amountOk env input items) (index : ℕ) (last : Option Channel) :
    Upholds (BothTables kept)
      (fallbackLoop env faults input batchStatus index last items) := by
  induction items generalizing index last with
  | nil => exact .pure
  | cons item items ih =>
      rw [ItemsOk, List.forall_mem_cons] at ok
      rw [FeesOk, List.forall_mem_cons] at fees
      refine .bind ?_ fun _ => .ite (fun _ => ih ok.2 fees.2 _ _) fun _ => .pure
      refine .catching (.bind (writes.calculateAndCharge_kept _ fees.1) fun result => ?_)
        fun _ => .bind (count_kept _ _) fun _ => .pure
      cases result with
      | charged total => exact .bind (writes.storeCharged_kept _ _ ok.1) fun _ => .pure
      | accountNotFound => exact .bind (count_kept _ _) fun _ => .pure
      | exhausted => exact .pure

theorem fallback_kept {items : List ValidItem} (ok : ItemsOk phoneOk items)
    (fees : FeesOk amountOk env input items) :
    Upholds (BothTables kept) (fallback env faults input batchStatus items) := by
  refine Triple.bind (((fallbackLoop_leaves items 0 none).and
    (writes.fallbackLoop_kept ok fees 0 none)).weaken (fun _ both => ⟨trivial, both⟩)
      (fun _ _ done => done) fun _ _ done => done.2) fun result => Triple.assume fun some => ?_
  refine Upholds.get_bind fun current _ => ?_
  have exhausted : Upholds (BothTables kept) (if !result.1.isEmpty then do
      storeFailed faults .exhaustedFlush .exhaustedCommit
        (result.1.mapIdx fun index item => item.exhaustedSmsLog env input index)
      Chunk.count 0 result.1.length
    else return ()) := by
    refine .ite (fun _ => .bind (writes.storeFailed_kept fun row member => ?_)
      fun _ => count_kept _ _) fun _ => .pure
    rcases List.mem_mapIdx.mp member with ⟨index, inside, rfl⟩
    exact ok _ (some (List.getElem_mem inside))
  exact .ite (fun _ => .bind (writes.commitGroup_kept _ _) fun _ => exhausted) fun _ => exhausted

theorem sendItems_kept {context : CheckContext} {items : List ValidItem}
    (ok : ItemsOk phoneOk items) (fees : FeesOk amountOk env input items)
    (whole : 0 < totalSell env input items → amountOk (totalSell env input items)) :
    Triple (BothTables kept) (sendItems env faults input context batchStatus items)
      (fun _ => BothTables kept) fun _ state => kept state.committed :=
  .bind (writes.chargeChunk_kept _ whole) fun _ =>
    committed_kept (.ite (fun _ => writes.writeLoop_kept ok) fun _ => writes.fallback_kept ok fees)

theorem storeVirtual_kept (slice : ℕ) {rows : List SmsLog}
    (ok : ∀ row ∈ rows, phoneOk row.phoneNumber) :
    Upholds (BothTables kept) (storeVirtual env faults slice rows) := by
  refine .bind (statement_kept _) fun _ => .bind (locals_kept fun _ => ⟨rfl, rfl⟩) fun _ => ?_
  refine .bind (count_kept _ _) fun _ => .bind (flush_kept _) fun _ => .get_bind fun current _ => ?_
  refine .bind (change_kept fun _ before => writes.insert before ok) fun _ => ?_
  exact .bind (writes.replaceTrackUrlsForLogs_kept _ _) fun _ => commit_kept _

theorem updateBatchProgress_kept (batchId : ℕ) :
    Upholds (BothTables kept) (updateBatchProgress env faults batchId) := by
  refine .catching (.bind (statement_kept _) fun _ => .get_bind fun current _ => ?_)
    fun _ => .bind (.modify fun _ => BothTables.drop) fun _ => .pure
  split
  · exact .pure
  · refine .bind (change_kept fun _ => writes.setBatch _ _) fun _ => ?_
    exact .bind (commit_kept _) fun _ => .pure
  · refine .bind (change_kept fun _ before => writes.update before fun _ => rfl) fun _ => ?_
    refine .bind (commit_kept _) fun _ => .get_bind fun later _ => ?_
    refine .bind (change_kept fun _ => writes.setBatch _ _) fun _ => ?_
    exact .bind (commit_kept _) fun _ => .pure

theorem refundCharged_kept : Upholds (BothTables kept) (refundCharged faults input) := by
  refine .catching (closing_kept ?_) fun _ => .pure
  refine Triple.bind (committed_kept (statement_kept _)) fun _ =>
    Triple.get_bind fun current both => Triple.at_state ?_ both
  -- The credit alone does not keep the property, only together with its entry.
  refine Triple.seq (fun _ state => kept state.committed ∧ ∀ balanceAfter,
    kept (state.working.addBalanceLog
      ⟨input.accountId, .refund, current.charged, balanceAfter⟩)) ?_ fun _ => ?_
  · exact fun _ before => ⟨before.1, fun _ => writes.giveBack _ _ _ before.2⟩
  · refine Triple.seq (fun _ => BothTables kept) (fun _ before => ⟨before.1, before.2 _⟩) fun _ => ?_
    exact committed_kept (commit_kept _)

end KeptByWrites

def Unwritten (db : Db) (state : ChunkState) : Prop :=
  state.committed = db ∧ state.working = db

section

variable {env : ChunkEnv} {faults : Faults} {input : ChunkInput} {db : Db} {kept : Db → Prop}
  {phoneOk : String → Prop} {amountOk : Money → Prop} {context : CheckContext}

theorem Unwritten.both {state : ChunkState} (unwritten : Unwritten db state) (before : kept db) :
    BothTables kept state := by
  rw [BothTables, unwritten.1, unwritten.2]
  exact ⟨before, before⟩

theorem statement_unwritten (site : Site) :
    Upholds (Unwritten db) (Chunk.statement faults site) := by
  intro state unwritten
  unfold Chunk.statement
  cases faults site with
  | none => exact unwritten
  | some fault =>
      cases lost : fault.lost with
      | true => simpa [lost, Unwritten] using unwritten.1
      | false => simpa [lost] using unwritten

namespace KeptByWrites

variable (writes : KeptByWrites kept phoneOk amountOk) (before : kept db)

include writes before

theorem chargeVirtual_kept {isPostpaid : Bool} {total : Money}
    (ok : canPay (db.accounts input.accountId) isPostpaid total = true → amountOk total) :
    Triple (Unwritten db) (chargeVirtual faults input isPostpaid total)
      (fun paid state => (paid = true →
          total ≤ 0 ∨ canPay (db.accounts input.accountId) isPostpaid total = true) ∧
        BothTables kept state)
      (fun _ => BothTables kept) := by
  unfold chargeVirtual
  refine Triple.bind ((statement_unwritten _).weaken (fun _ => id) (fun _ _ => id)
    fun _ _ unwritten => unwritten.both before) fun _ => Triple.ite (fun free => ?_) fun _ => ?_
  · intro state unwritten
    exact ⟨fun _ => .inl free, unwritten.both before⟩
  · refine Triple.get_bind fun current unwritten => ?_
    have pays := @deduct_isSome input.accountId current.working isPostpaid total
    rw [unwritten.2] at pays
    rw [unwritten.2]
    cases deducted : db.deduct input.accountId isPostpaid total with
    | none =>
        rintro state rfl
        exact ⟨fun paid => (by cases paid), unwritten.both before⟩
    | some after =>
        have pays : canPay (db.accounts input.accountId) isPostpaid total = true := by
          rw [← pays, deducted]
          rfl
        rintro state rfl
        refine ⟨fun _ => .inr pays, (unwritten.both before).1, ?_⟩
        exact writes.charge before (ok pays) deducted

theorem sendVirtual_kept {items : List ValidItem}
    (isAccount : context.account = db.accounts input.accountId)
    (ok : context.affords env input items = true → ItemsOk phoneOk items)
    (whole : context.affords env input items = true → amountOk (totalSell env input items)) :
    Triple (Unwritten db) (sendVirtual env faults input context items)
      (fun _ => BothTables kept) (fun _ => BothTables kept) := by
  refine Triple.bind (writes.chargeVirtual_kept before fun pays => whole ?_) fun paid =>
    Triple.assume fun affords => ?_
  · simp [CheckContext.affords, isAccount, pays]
  · refine Triple.ite (fun isPaid => ?_) fun _ => count_kept _ _
    have affords : context.affords env input items = true := by
      simpa [CheckContext.affords, isAccount] using affords isPaid
    refine Upholds.forM fun part member => writes.storeVirtual_kept _ fun row inPart => ?_
    have isSlice := List.fst_mem_of_mem_zipIdx member
    rcases List.mem_mapIdx.mp (mem_of_mem_slices isSlice inPart) with ⟨index, inside, rfl⟩
    exact ok affords _ (List.getElem_mem inside)

theorem virtualPath_kept {channel : Channel}
    (isAccount : context.account = db.accounts input.accountId)
    (ok : ∀ checked, precheckVirtual env faults input context channel 0 input.phoneNumbers =
      .ok checked → context.affords env input checked.valid = true →
        ItemsOk phoneOk checked.valid ∧ amountOk (totalSell env input checked.valid)) :
    Triple (Unwritten db) (virtualPath env faults input context channel)
      (fun _ => BothTables kept) (fun _ => BothTables kept) := by
  refine Triple.seq (fun _ => Unwritten db) (fun _ unwritten => unwritten) fun _ => ?_
  refine Triple.bind (Chunk.lift_triple.weaken (fun _ => id) (fun _ _ => id)
    fun _ _ done => done.2.both before) fun checked => Triple.assume fun isChecked => ?_
  refine Triple.seq (fun _ => Unwritten db) (fun _ unwritten => unwritten) fun _ => ?_
  refine Triple.ite (fun _ => ?_) fun _ state unwritten => unwritten.both before
  exact writes.sendVirtual_kept before isAccount (fun affords => (ok checked isChecked affords).1)
    fun affords => (ok checked isChecked affords).2

omit before

theorem ordinaryPath_kept {batchStatus : String}
    (ok : ∀ checked, precheck env faults input context 0 input.phoneNumbers = .ok checked →
      (∀ failure ∈ checked.prefailed, phoneOk (truncate 20 failure.phone)) ∧
        ItemsOk phoneOk checked.valid ∧ FeesOk amountOk env input checked.valid ∧
          amountOk (totalSell env input checked.valid)) :
    Triple (BothTables kept) (ordinaryPath env faults input context batchStatus)
      (fun _ => BothTables kept) fun _ state => kept state.committed := by
  refine Triple.bind (Chunk.lift_triple.weaken (fun _ => id) (fun _ _ => id)
    fun _ _ done => done.2.1) fun checked => Triple.assume fun isChecked => ?_
  rcases ok checked isChecked with ⟨failures, items, fees, whole⟩
  refine Triple.bind (committed_kept (count_kept _ _)) fun _ =>
    Triple.bind (committed_kept (writes.storeFailed_kept fun row member => ?_)) fun _ =>
      Triple.ite (fun _ => writes.sendItems_kept items fees fun _ => whole) fun _ _ both => both
  rcases List.mem_mapIdx.mp member with ⟨index, inside, rfl⟩
  exact failures _ (List.getElem_mem inside)

include before

theorem chunkTables_kept
    (virtual : ∀ channel, virtualChannel input db = some channel → input.isStopped db = false →
      Triple (Unwritten db)
        (virtualPath env faults input (checkContext env faults input db) channel)
        (fun _ => BothTables kept) fun _ => BothTables kept)
    (ordinary : ∀ batchStatus, virtualChannel input db = none → input.isStopped db = false →
      Triple (BothTables kept)
        (ordinaryPath env faults input (checkContext env faults input db) batchStatus)
        (fun _ => BothTables kept) fun _ state => kept state.committed) :
    kept (chunkTables env faults input db) := by
  have finish : Triple (BothTables kept)
      (do
        Chunk.statement faults .countLogs
        let _ ← updateBatchProgress env faults input.batchId
        return true)
      (fun _ => BothTables kept) fun _ state => kept state.committed :=
    committed_kept (.bind (statement_kept _) fun _ =>
      .bind (writes.updateBatchProgress_kept _) fun _ => .pure)
  have reads : ∀ {Value : Type} {site : Site} {next : Unit → Chunk Value},
      Triple (Unwritten db) (next ()) (fun _ => BothTables kept)
        (fun _ state => kept state.committed) →
      Triple (Unwritten db) (Chunk.statement faults site >>= next)
        (fun _ => BothTables kept) (fun _ state => kept state.committed) :=
    fun rest => Triple.bind ((statement_unwritten _).weaken (fun _ => id) (fun _ _ => id)
      fun _ _ unwritten => (unwritten.both before).1) fun _ => rest
  have session : Triple (Unwritten db) (chunkSession env faults input)
      (fun _ => BothTables kept) fun _ state => kept state.committed := by
    refine reads (Triple.get_bind fun current unwritten => Triple.at_state ?_ unwritten)
    rw [unwritten.2]
    refine Triple.ite (fun _ state unwritten => unwritten.both before) fun goes => ?_
    have running : input.isStopped db = false := by simpa [ChunkInput.isStopped] using goes
    refine reads (Triple.seq (fun _ => Unwritten db) ?_ fun _ => reads (reads ?_))
    · exact (Upholds.catching (statement_unwritten _) fun _ => .pure).weaken (fun _ => id)
        (fun _ _ => id) fun _ _ unwritten => (unwritten.both before).1
    · dsimp only
      split
      · exact Triple.bind ((virtual _ ‹_› running).weaken (fun _ => id) (fun _ _ => id)
          fun _ _ both => both.1) fun _ => finish
      · exact Triple.bind ((ordinary _ ‹_› running).weaken (fun _ unwritten => unwritten.both before)
          (fun _ _ => id) fun _ _ => id) fun _ => finish
  have body : Triple (Unwritten db) (chunkBody env faults input)
      (fun _ => BothTables kept) (fun _ => BothTables kept) := by
    refine Triple.bind (closing_kept session) fun started => Upholds.ite (fun _ => ?_) fun _ => .pure
    refine .bind (.get_bind fun current _ => ?_) fun _ => .get_bind fun _ _ => .pure
    exact .ite (fun _ => .bind (statement_kept _) fun _ => hand_kept _ _) fun _ => .pure
  have whole : Triple (Unwritten db) (doProcessChunk env faults input)
      (fun _ => BothTables kept) (fun _ => BothTables kept) := by
    refine Triple.catching (fun _ => BothTables kept) body (fun _ _ _ => id)
      fun raised _ => Upholds.get_bind fun current _ => ?_
    exact .ite (fun _ => .bind writes.refundCharged_kept fun _ => .throw) fun _ => .throw
  exact (whole.finalState (show Unwritten db (ChunkState.start db) from ⟨rfl, rfl⟩)).1

end KeptByWrites

end

end Klsmsc
