import Klsmsc.Chunk.Charge

/-!
# The fallback path on the ledger

The fallback charges an item and appends its row in one transaction, and an
exception between the two loses both. So at every point both ledgers of the
session have paid for exactly the rows that they hold. Without exceptions, and
for an account that exists, every item gets its row.
-/

namespace Klsmsc

open Library

structure Settles (input : ChunkInput) (items : List ValidItem) (before after : Ledger)
    (rows : List LogCore) : Prop where
  appended : after.rows = before.rows ++ rows
  paid : after.money = before.money - (rows.map LogCore.price).sum
  origin : ∀ row ∈ rows, row.accountId = input.accountId ∧ row.batchId = some input.batchId ∧
    ∃ item ∈ items, row.phoneNumber = item.phoneInfo.e164Format

def Paid (start : Db) (input : ChunkInput) (items : List ValidItem) (ledger : Ledger)
    (charged : Money) (state : ChunkState) : Prop :=
  ∃ committed working committedRows workingRows,
    Settles input items ledger committed committedRows ∧
    Settles input items ledger working workingRows ∧
    Stands start input.accountId committed working (fun values => values.charged = charged) state

namespace Settles

variable {input : ChunkInput} {items : List ValidItem} {before after : Ledger}
  {rows : List LogCore}

theorem refl (input : ChunkInput) (items : List ValidItem) (ledger : Ledger) :
    Settles input items ledger ledger [] where
  appended := by simp
  paid := by simp
  origin := by simp

theorem add (settles : Settles input items before after rows) {row : LogCore} {item : ValidItem}
    (owner : row.accountId = input.accountId) (batch : row.batchId = some input.batchId)
    (isItem : item ∈ items) (phone : row.phoneNumber = item.phoneInfo.e164Format) :
    Settles input items before ((after.pay (-row.price)).add [row]) (rows ++ [row]) where
  appended := by
    simp [Ledger.pay, Ledger.add, settles.appended]
  paid := by
    simp only [Ledger.pay, Ledger.add, settles.paid, List.map_append, List.map_cons,
      List.map_nil, List.sum_append, List.sum_cons, List.sum_nil]
    linarith
  origin := by
    intro other member
    rcases List.mem_append.mp member with earlier | new
    · exact settles.origin other earlier
    · rw [List.mem_singleton.mp new]
      exact ⟨owner, batch, item, isItem, phone⟩

end Settles

section

variable {start : Db} {accountId : ℕ} {ledger committed working : Ledger} {env : ChunkEnv}
  {faults : Faults} {input : ChunkInput} {batchStatus : String} {charged : Money}
  {locals : Locals → Prop}

theorem calculateAndCharge_triple {index : ℕ} {item : ValidItem} :
    Triple (Stands start input.accountId committed working locals)
      (calculateAndCharge env faults input index item)
      (fun result state => match result with
        | .charged total =>
            Stands start input.accountId committed (working.pay (-total)) locals state
        | .accountNotFound => start.accounts input.accountId = none ∧
            Stands start input.accountId committed working locals state
        | .exhausted => Stands start input.accountId committed working locals state)
      (fun _ state => Stands start input.accountId committed working locals state ∨
        Stands start input.accountId committed committed locals state) := by
  unfold calculateAndCharge
  refine Triple.bind (statement_triple.weaken (fun _ stands => stands) (fun _ _ done => done)
    (fun _ _ done => done.2)) fun _ => Triple.assume fun _ => ?_
  cases env.getPrice item.channel.id item.phoneInfo.countryCode input.accountId with
  | none =>
      intro state stands
      exact stands
  | some priced =>
      rcases priced with ⟨price, currency⟩
      refine Triple.get_bind fun current stands => ?_
      cases found : current.working.accounts input.accountId with
      | none =>
          have absent : start.accounts input.accountId = none := by
            rw [← Option.isNone_iff_eq_none, ← Option.not_isSome, ← stands.working.isSome_iff,
              found]
            rfl
          refine Triple.at_state ?_ stands
          intro state stands
          exact ⟨absent, stands⟩
      | some account =>
          refine Triple.get_bind fun again isCurrent => ?_
          subst isCurrent
          split
          · refine Triple.at_state ?_ stands
            intro state stands
            exact stands
          · rename_i db deducted
            refine Triple.at_state ?_ stands
            refine change_bind (fun _ _ => (stands.working.deduct deducted).logCharge _) ?_
            refine flush_bind ?_ ?_
            · intro fault _ state stands
              exact Or.inr stands
            · intro _ state stands
              exact stands

theorem count_charged {succeeded failed : ℕ} {raising : Raise → ChunkState → Prop} :
    Triple (Stands start accountId committed working (fun values => values.charged = charged))
      (Chunk.count succeeded failed)
      (fun _ => Stands start accountId committed working (fun values => values.charged = charged))
      raising :=
  locals_triple (fun _ => ⟨rfl, rfl⟩) fun _ isCharged => isCharged

theorem queueGroup_triple {index : ℕ} {channel : Option Channel}
    {commitBatch : List (MessageId × Money)} :
    Triple (Stands start accountId ledger ledger (fun values => values.charged = charged))
      (queueGroup env faults index channel batchStatus commitBatch)
      (fun _ => Stands start accountId ledger ledger (fun values => values.charged = charged))
      (fun _ => Stands start accountId ledger ledger (fun values => values.charged = charged)) := by
  unfold queueGroup
  refine Triple.get_bind fun current stands => Triple.at_state ?_ stands
  refine Triple.ite (fun _ => count_charged) fun _ => ?_
  refine Triple.ite (fun _ => ?_) fun _ => ?_
  · refine statement_bind (fun _ _ _ stands => stands) fun _ => ?_
    refine Triple.get_bind fun found stands => Triple.at_state ?_ stands
    refine Triple.bind (replaceAndCommit_triple.weaken (fun _ stands => stands)
      (fun _ _ done => done) (fun _ _ done => done.2)) fun linked =>
        Triple.assume fun _ => Triple.assume fun _ => ?_
    refine Triple.fix_locals fun before isCharged => ?_
    refine Triple.weaken publish_triple (fun _ stands => stands) ?_ ?_
    · rintro _ state ⟨_, stands⟩
      exact stands.weaken fun values queued => queued.charged.trans isCharged
    · rintro raised state ⟨_, stands⟩
      exact stands.weaken fun values queued => queued.charged.trans isCharged
  · induction commitBatch.map Prod.fst with
    | nil =>
        intro state stands
        exact stands
    | cons messageId messageIds ih =>
        refine Triple.seq (fun _ =>
          Stands start accountId ledger ledger (fun values => values.charged = charged)) ?_
            fun _ => ih
        refine statement_bind (fun _ _ _ stands => stands) fun _ => ?_
        refine Triple.seq (fun _ =>
          Stands start accountId ledger ledger (fun values => values.charged = charged)) ?_
            fun _ => Triple.ite (fun _ => count_charged) fun _ => count_charged
        exact locals_triple (fun _ => ⟨rfl, rfl⟩) fun _ isCharged => isCharged

variable {items : List ValidItem}

theorem commitGroup_triple {index : ℕ} {channel : Option Channel} :
    Triple (Paid start input items ledger charged)
      (commitGroup env faults batchStatus index channel)
      (fun _ => Paid start input items ledger charged)
      (fun _ => Paid start input items ledger charged) := by
  refine Triple.exists_pre fun committed => Triple.exists_pre fun working =>
    Triple.exists_pre fun committedRows => Triple.exists_pre fun workingRows =>
      Triple.assume fun onCommitted => Triple.assume fun onWorking => ?_
  have settled : ∀ state, Stands start input.accountId working working
      (fun values => values.charged = charged) state →
        Paid start input items ledger charged state :=
    fun state stands => ⟨_, _, _, _, onWorking, onWorking, stands⟩
  unfold commitGroup
  refine flush_bind ?_ fun _ => commit_bind ?_ fun _ => ?_
  · intro fault _ state stands
    exact ⟨_, _, _, _, onCommitted, onCommitted, stands⟩
  · intro fault _ state stands
    by_cases durable : fault.commits = true
    · simp only [durable, if_true] at stands
      exact settled state stands
    · simp only [if_neg durable] at stands
      exact ⟨_, _, _, _, onCommitted, onCommitted, stands⟩
  · refine Triple.get_bind fun current stands => Triple.at_state ?_ stands
    refine Triple.bind (queueGroup_triple.weaken (fun _ stands => stands) (fun _ _ done => done)
      (fun _ state stands => settled state stands)) fun _ => ?_
    intro state stands
    exact settled _ ⟨stands.committed, stands.working, stands.locals⟩

theorem storeCharged_triple {index : ℕ} {item : ValidItem} {total : Money}
    {committed working : Ledger} {committedRows workingRows : List LogCore}
    (isItem : item ∈ items) (onCommitted : Settles input items ledger committed committedRows)
    (onWorking : Settles input items ledger working workingRows) :
    Triple (Stands start input.accountId committed (working.pay (-total))
        (fun values => values.charged = charged))
      (storeCharged env faults input batchStatus index item total)
      (fun _ => Paid start input items ledger charged)
      (fun _ => Paid start input items ledger charged) := by
  have added : Settles input items ledger
      ((working.pay (-total)).add [(item.fallbackSmsLog env input index total).core])
      (workingRows ++ [(item.fallbackSmsLog env input index total).core]) :=
    onWorking.add rfl rfl isItem rfl
  unfold storeCharged
  refine Triple.seq (fun _ => Stands start input.accountId committed (working.pay (-total))
    (fun values => values.charged = charged)) ?_ fun _ => ?_
  · exact locals_triple (fun _ => ⟨rfl, rfl⟩) fun _ isCharged => isCharged
  · refine flush_bind ?_ fun _ => ?_
    · intro fault _ state stands
      exact ⟨_, _, _, _, onCommitted, onCommitted, stands⟩
    · refine Triple.seq (fun _ => Stands start input.accountId committed (working.pay (-total))
        (fun values => values.charged = charged)) ?_ fun _ => ?_
      · exact locals_triple (fun _ => ⟨rfl, rfl⟩) fun _ isCharged => isCharged
      · refine change_bind (fun _ since => since.insert (by simp [ValidItem.fallbackSmsLog,
          ValidItem.smsLog])) ?_
        refine Triple.get_bind fun current stands => ?_
        have paid : Paid start input items ledger charged current :=
          ⟨_, _, _, _, onCommitted, added, stands⟩
        exact Triple.at_state (Triple.ite (fun _ => commitGroup_triple) fun _ _ paid => paid) paid

theorem fallbackItem_triple {index : ℕ} {item : ValidItem} (isItem : item ∈ items) :
    Triple (Paid start input items ledger charged)
      (fallbackItem env faults input batchStatus index item)
      (fun _ => Paid start input items ledger charged)
      (fun _ => Paid start input items ledger charged) := by
  unfold fallbackItem
  refine Triple.catching (fun _ => Paid start input items ledger charged) ?_
    (fun _ _ _ paid => paid) ?_
  · refine Triple.exists_pre fun committed => Triple.exists_pre fun working =>
      Triple.exists_pre fun committedRows => Triple.exists_pre fun workingRows =>
        Triple.assume fun onCommitted => Triple.assume fun onWorking => ?_
    refine Triple.bind (calculateAndCharge_triple.weaken (fun _ stands => stands)
      (fun _ _ done => done) ?_) ?_
    · rintro raised state (stands | stands)
      · exact ⟨_, _, _, _, onCommitted, onWorking, stands⟩
      · exact ⟨_, _, _, _, onCommitted, onCommitted, stands⟩
    · rintro (total | _ | _)
      · refine Triple.seq (fun _ => Paid start input items ledger charged)
          (storeCharged_triple isItem onCommitted onWorking) fun _ => ?_
        intro state paid
        exact paid
      · refine Triple.assume fun _ => ?_
        refine Triple.seq (fun _ => Stands start input.accountId committed working
          (fun values => values.charged = charged)) count_charged fun _ => ?_
        intro state stands
        exact ⟨_, _, _, _, onCommitted, onWorking, stands⟩
      · intro state stands
        exact ⟨_, _, _, _, onCommitted, onWorking, stands⟩
  · intro raised _
    refine Triple.seq (fun _ => Paid start input items ledger charged) ?_ fun _ => ?_
    · rintro state ⟨committed, working, committedRows, workingRows, onCommitted, onWorking, stands⟩
      exact ⟨_, _, _, _, onCommitted, onWorking, stands.committed, stands.working, stands.locals⟩
    · intro state paid
      exact paid

theorem fallbackLoop_triple (index : ℕ) (last : Option Channel) (rest : List ValidItem)
    (areItems : ∀ item ∈ rest, item ∈ items) :
    Triple (Paid start input items ledger charged)
      (fallbackLoop env faults input batchStatus index last rest)
      (fun result state => (∀ item ∈ result.1, item ∈ items) ∧
        Paid start input items ledger charged state)
      (fun _ => Paid start input items ledger charged) := by
  induction rest generalizing index last with
  | nil =>
      intro state paid
      exact ⟨by simp, paid⟩
  | cons item rest ih =>
      rw [List.forall_mem_cons] at areItems
      unfold fallbackLoop
      refine Triple.bind (fallbackItem_triple areItems.1) fun goesOn => ?_
      cases goesOn with
      | true => exact ih (index + 1) (some item.channel) areItems.2
      | false =>
          intro state paid
          exact ⟨List.forall_mem_cons.mpr areItems, paid⟩

theorem Settles.append {middle : Ledger} {first : List LogCore}
    (settles : Settles input items ledger middle first) {free : List LogCore}
    (isFree : ∀ row ∈ free, row.price = 0)
    (origin : ∀ row ∈ free, row.accountId = input.accountId ∧
      row.batchId = some input.batchId ∧
        ∃ item ∈ items, row.phoneNumber = item.phoneInfo.e164Format) :
    Settles input items ledger (middle.add free) (first ++ free) where
  appended := by simp [Ledger.add, settles.appended]
  paid := by
    have nothing : (free.map LogCore.price).sum = 0 :=
      List.sum_eq_zero fun price member => by
        rcases List.mem_map.mp member with ⟨row, rowMem, rfl⟩
        exact isFree row rowMem
    simp [Ledger.add, settles.paid, nothing]
  origin := by
    intro row member
    rcases List.mem_append.mp member with earlier | new
    · exact settles.origin row earlier
    · exact origin row new

theorem storeExhausted_triple {unprocessed : List ValidItem}
    (areItems : ∀ item ∈ unprocessed, item ∈ items) :
    Triple (Paid start input items ledger charged)
      (storeFailed faults .exhaustedFlush .exhaustedCommit
        (unprocessed.mapIdx fun index item => item.exhaustedSmsLog env input index))
      (fun _ => Paid start input items ledger charged)
      (fun _ => Paid start input items ledger charged) := by
  have rows : ∀ row ∈ unprocessed.mapIdx fun index item =>
      item.exhaustedSmsLog env input index, row.refundedAt = none ∧ row.core.price = 0 ∧
        row.core.accountId = input.accountId ∧ row.core.batchId = some input.batchId ∧
          ∃ item ∈ items, row.core.phoneNumber = item.phoneInfo.e164Format := by
    intro row member
    rcases List.mem_mapIdx.mp member with ⟨index, inside, rfl⟩
    exact ⟨rfl, rfl, rfl, rfl, unprocessed[index], areItems _ (List.getElem_mem inside), rfl⟩
  unfold storeFailed
  refine Triple.forM (fun _ => Paid start input items ledger charged) ?_
  rintro done ⟨slice, index⟩ rest whole
  have inSlice : ∀ row ∈ slice, row ∈ unprocessed.mapIdx fun index item =>
      item.exhaustedSmsLog env input index := by
    intro row member
    have isPart : (slice, index) ∈ (slices dbLogChunk (unprocessed.mapIdx fun index item =>
        item.exhaustedSmsLog env input index)).zipIdx := by
      rw [whole]
      simp
    exact mem_of_mem_slices (List.fst_mem_of_mem_zipIdx isPart) member
  refine Triple.exists_pre fun committed => Triple.exists_pre fun working =>
    Triple.exists_pre fun committedRows => Triple.exists_pre fun workingRows =>
      Triple.assume fun onCommitted => Triple.assume fun onWorking => ?_
  have added : Settles input items ledger (working.add (slice.map SmsLog.core))
      (workingRows ++ slice.map SmsLog.core) :=
    onWorking.append (by simpa using fun row member => (rows row (inSlice row member)).2.1)
      (by simpa using fun row member => (rows row (inSlice row member)).2.2)
  refine flush_bind ?_ fun _ => ?_
  · intro fault _ state stands
    exact ⟨_, _, _, _, onCommitted, onCommitted, stands⟩
  · refine change_bind (fun db since => since.insert fun row member =>
      (rows row (inSlice row member)).1) ?_
    refine commit_triple.weaken (fun _ stands => stands) ?_ ?_
    · rintro _ state ⟨_, stands⟩
      exact ⟨_, _, _, _, added, added, stands⟩
    · rintro raised state ⟨fault, _, _, stands⟩
      split at stands
      · exact ⟨_, _, _, _, added, added, stands⟩
      · exact ⟨_, _, _, _, onCommitted, onCommitted, stands⟩

theorem fallback_triple :
    Triple (Paid start input items ledger charged) (fallback env faults input batchStatus items)
      (fun _ => Paid start input items ledger charged)
      (fun _ => Paid start input items ledger charged) := by
  unfold fallback
  refine Triple.bind (fallbackLoop_triple 0 none items fun _ member => member) ?_
  rintro ⟨unprocessed, last⟩
  refine Triple.assume fun areItems => ?_
  have exhausted : Triple (Paid start input items ledger charged)
      (if !unprocessed.isEmpty then do
        storeFailed faults .exhaustedFlush .exhaustedCommit
          (unprocessed.mapIdx fun index item => item.exhaustedSmsLog env input index)
        Chunk.count 0 unprocessed.length
      else return ())
      (fun _ => Paid start input items ledger charged)
      (fun _ => Paid start input items ledger charged) := by
    refine Triple.ite (fun _ => ?_) fun _ _ paid => paid
    refine Triple.bind (storeExhausted_triple areItems) fun _ => ?_
    rintro state ⟨_, _, _, _, onCommitted, onWorking, stands⟩
    exact ⟨_, _, _, _, onCommitted, onWorking, stands.committed, stands.working, stands.locals⟩
  refine Triple.get_bind fun current paid => Triple.at_state ?_ paid
  exact Triple.ite (fun _ => Triple.bind commitGroup_triple fun _ => exhausted) fun _ => exhausted

end

end Klsmsc
