import Klsmsc.Chunk.Fallback
import Klsmsc.Chunk.VirtualPath

/-!
# When the charge of a chunk is atomic

An execution moves money three ways: it charges the chunk and commits the charge
ahead of the rows, it charges with the rows (the fallback and the virtual fast
path), and its exception handler gives back the whole charge when nothing has been
counted. So the money and the prices of the new rows balance exactly when the
slices that became durable are worth the charge, or nothing if the handler gives it
back. The count that the handler looks at includes the entries that were done
before, and misses the rows that are stored and not yet counted.
-/

namespace Klsmsc

open Library

def ChargeBalanced (env : ChunkEnv) (faults : Faults) (input : ChunkInput) (db : Db) : Prop :=
  (chunkTables env faults input db).purse input.accountId - db.purse input.accountId =
    -(((chunkTables env faults input db).smsLogs.drop db.smsLogs.length).map SmsLog.price).sum

def rowsPrice (rows : List LogCore) : Money :=
  (rows.map LogCore.price).sum

section

variable (env : ChunkEnv) (faults : Faults) (input : ChunkInput)

def sessionStarts (db : Db) : Bool :=
  (faults .readBatch).isNone &&
    !((db.batches input.batchId).any fun batch => batch.status.stopped) &&
    (faults .readExisting).isNone && (cancellation faults .readBlacklist).isNone &&
    (faults .readAccount).isNone && (faults .readChannel).isNone

/-- On the virtual fast path the charge fails, or no slice becomes durable, or all
that do are worth the charge. -/
def VirtualSettled (context : CheckContext) (channel : Channel) : Prop :=
  match precheckVirtual env faults input context channel 0 input.phoneNumbers with
  | .error _ => True
  | .ok checked =>
      (faults .virtualCharge).isSome ∨
        (0 < totalSell env input checked.valid ∧
          canPay context.account context.isPostpaid (totalSell env input checked.valid) = false) ∨
        virtualRows faults (virtualSlices env input checked.valid) = [] ∨
        rowsPrice (virtualRows faults (virtualSlices env input checked.valid)) =
          max 0 (totalSell env input checked.valid)

/-- The exception handler gives the charge back: an exception leaves the write loop,
or the finish, and nothing has been counted, neither an entry that was done before
nor a message that was enqueued. -/
def givesBack (done : ℕ) (loop : LoopRun) : Bool :=
  refundPasses faults && done = 0 && !loop.counted &&
    match loop.stopped with
    | some raised => raised.isException
    | none =>
        loop.virtualIds.isEmpty && ((faults .countLogs).map Fault.raised).any Raise.isException

/-- On the ordinary path the chunk is not charged, and what is stored for free is
free; or it is charged, and the durable slices are worth the charge, or nothing if
the handler gives it back. A charge that is durable although its commit has raised
is lost. -/
def OrdinarySettled (context : CheckContext) : Prop :=
  match precheck env faults input context 0 input.phoneNumbers with
  | .error _ => True
  | .ok checked =>
      storePasses faults .prefailedFlush .prefailedCommit
        (checked.prefailed.mapIdx (Prefailed.smsLog env input)) →
      let total := totalSell env input checked.valid
      let loop := writeRun env faults input checked.valid
      match chargeRun faults (canPay context.account context.isPostpaid total) total with
      | .unpaid => True
      | .stopped _ durable => durable = false
      | .free => rowsPrice loop.rows = 0
      | .charged => rowsPrice loop.rows = if givesBack faults checked.done loop then 0 else total

def ChargeSettled (db : Db) : Prop :=
  sessionStarts faults input db = true →
    match virtualChannel input db with
    | some channel => VirtualSettled env faults input (checkContext env faults input db) channel
    | none => OrdinarySettled env faults input (checkContext env faults input db)

end

def refundDue (faults : Faults) (raised : Option Raise) (values : Locals) : Money :=
  if raised.any Raise.isException ∧ 0 < values.charged ∧ values.succeeded = 0 ∧
      refundPasses faults then values.charged
  else 0

/-- The money of a ledger and what is still given back pay for its rows, if and
only if a condition holds. -/
def Ledger.Even (ledger : Ledger) (due : Money) (holds : Prop) : Prop :=
  ledger.money + due + ledger.price = 0 ↔ holds

theorem Ledger.even_empty {holds : Prop} (true : holds) : Ledger.Even .empty 0 holds := by
  simp [Ledger.Even, true]

def Aborts (start : Db) (accountId : ℕ) (faults : Faults) (holds : Prop) (raised : Raise)
    (state : ChunkState) : Prop :=
  ∃ ledger, Leaves start accountId ledger
    (fun values => ledger.Even (refundDue faults (some raised) values) holds) state

def Resumes (start : Db) (accountId : ℕ) (faults : Faults) (holds : Prop)
    (state : ChunkState) : Prop :=
  ∃ due, Within start accountId (fun ledger => ledger.Even due holds)
    (fun values => refundDue faults ((faults .countLogs).map Fault.raised) values = due ∧
      (values.virtualIds ≠ [] → values.charged = 0 ∨ 0 < values.succeeded)) state

section

variable {start : Db} {accountId : ℕ} {env : ChunkEnv} {faults : Faults} {input : ChunkInput}
  {holds : Prop} {ledger : Ledger}

theorem refundDue_of_uncharged {raised : Option Raise} {values : Locals}
    (uncharged : values.charged = 0) : refundDue faults raised values = 0 := by
  simp [refundDue, uncharged]

theorem Aborts.of_uncharged {raised : Raise} {state : ChunkState}
    (leaves : Leaves start accountId ledger (fun values => values.charged = 0) state)
    (even : ledger.Even 0 holds) : Aborts start accountId faults holds raised state := by
  refine ⟨ledger, leaves.committed, ?_⟩
  rw [refundDue_of_uncharged leaves.locals]
  exact even

theorem Resumes.of_uncharged {state : ChunkState}
    (within : Within start accountId (fun ledger => ledger.Even 0 holds)
      (fun values => values.charged = 0) state) : Resumes start accountId faults holds state := by
  rcases within with ⟨committed, working, evenCommitted, evenWorking, stands⟩
  exact ⟨0, committed, working, evenCommitted, evenWorking, stands.weaken fun _ uncharged =>
    ⟨refundDue_of_uncharged uncharged, fun _ => Or.inl uncharged⟩⟩

theorem Chunk.lift_triple {Value : Type} {result : Except Raise Value}
    {pre : ChunkState → Prop} :
    Triple pre (Chunk.lift result) (fun value state => result = .ok value ∧ pre state)
      (fun raised state => result = .error raised ∧ pre state) := by
  cases result with
  | ok value =>
      intro state holds
      exact ⟨rfl, holds⟩
  | error raised =>
      intro state holds
      exact ⟨rfl, holds⟩

theorem Ready.relocate {before : Locals} {account : Option Account} {state : ChunkState}
    (ready : Ready start accountId ledger before account state) (update : Locals → Locals) :
    Ready start accountId ledger (update before) account
      { state with toLocals := update state.toLocals } :=
  ⟨⟨ready.stands.committed, ready.stands.working, by rw [ready.stands.locals]⟩,
    ready.committed, ready.working⟩

theorem chargeVirtual_triple {before : Locals} {account : Option Account} {isPostpaid : Bool}
    {total : Money} (isAccount : input.accountId = accountId) :
    Triple (Ready start accountId ledger before account)
      (chargeVirtual faults input isPostpaid total)
      (fun paid state => (faults .virtualCharge = none ∧
          (paid = false ↔ 0 < total ∧ canPay account isPostpaid total = false)) ∧
        Stands start accountId ledger (if paid then ledger.pay (-max 0 total) else ledger)
          (· = before) state)
      (fun raised state => Raises faults .virtualCharge raised ∧
        Stands start accountId ledger ledger (· = before) state) := by
  subst isAccount
  unfold chargeVirtual
  refine Triple.bind ((statement_keeps fun _ => Ready.drop).weaken (fun _ ready => ready)
    (fun _ _ done => done) fun _ _ done => ⟨done.1, done.2.stands⟩) fun _ =>
      Triple.assume fun noFault => ?_
  refine Triple.ite (fun free => ?_) fun costs => ?_
  · intro state ready
    have nothing : max 0 total = 0 := max_eq_left free
    refine ⟨⟨noFault, ?_⟩, ?_⟩
    · simp [not_lt.mpr free]
    · simpa [nothing, Ledger.pay] using ready.stands
  · have worth : max 0 total = total := max_eq_right (le_of_lt (not_le.mp costs))
    refine Triple.get_bind fun current ready => ?_
    have pays : (current.working.deduct input.accountId isPostpaid total).isSome = _ :=
      deduct_isSome current.working isPostpaid total
    rw [ready.working] at pays
    cases after : current.working.deduct input.accountId isPostpaid total with
    | none =>
        rintro state rfl
        rw [after] at pays
        exact ⟨⟨noFault, by simpa [not_le.mp costs] using pays⟩, ready.stands⟩
    | some db =>
        rw [after] at pays
        refine Triple.at_state ?_ ready.stands
        refine change_bind (fun _ _ => (ready.stands.working.deduct after).logCharge _) ?_
        intro state stands
        refine ⟨⟨noFault, ?_⟩, by simpa [worth] using stands⟩
        simp [← pays]

theorem mem_virtualSlices {items : List ValidItem} {part : List SmsLog × ℕ}
    (member : part ∈ virtualSlices env input items) :
    part.1 ≠ [] ∧ ∀ row ∈ part.1, row.refundedAt = none := by
  have isSlice := List.fst_mem_of_mem_zipIdx member
  refine ⟨ne_nil_of_mem_slices (by decide) isSlice, fun row inPart => ?_⟩
  rcases List.mem_mapIdx.mp (mem_of_mem_slices isSlice inPart) with
    ⟨index, inside, rfl⟩
  rfl

theorem virtualSlices_eq_nil {items : List ValidItem}
    (nothing : virtualSlices env input items = []) : items = [] := by
  simp only [virtualSlices, List.zipIdx_eq_nil_iff] at nothing
  have rows := flatten_slices (by decide : 0 < dbLogChunk)
    (items.mapIdx fun index item => item.smsLog env input (.virtual index))
  rw [nothing] at rows
  simpa using rows.symm

theorem sendVirtual_triple {context : CheckContext} {items : List ValidItem} {before : Locals}
    (isAccount : input.accountId = accountId) (uncharged : before.charged = 0)
    (settled : holds ↔ ((faults .virtualCharge).isSome ∨
      (0 < totalSell env input items ∧
        canPay context.account context.isPostpaid (totalSell env input items) = false) ∨
      virtualRows faults (virtualSlices env input items) = [] ∨
      rowsPrice (virtualRows faults (virtualSlices env input items)) =
        max 0 (totalSell env input items))) :
    Triple (Ready start accountId .empty before context.account)
      (sendVirtual env faults input context items)
      (fun _ => Resumes start accountId faults holds) (Aborts start accountId faults holds) := by
  unfold sendVirtual
  have free : ∀ values, values = before → values.charged = 0 := by
    rintro values rfl
    exact uncharged
  refine Triple.bind ((chargeVirtual_triple isAccount).weaken (fun _ ready => ready)
    (fun _ _ done => done) ?_) fun paid => Triple.assume fun reached => ?_
  · rintro raised state ⟨atSite, stands⟩
    refine Aborts.of_uncharged (stands.weaken free).leaves ?_
    have fails : (faults .virtualCharge).isSome := by
      rcases Option.map_eq_some_iff.mp atSite with ⟨fault, found, rfl⟩
      simp [found]
    exact Ledger.even_empty (settled.mpr (Or.inl fails))
  · rcases reached with ⟨noFault, refused⟩
    cases paid with
    | false =>
        intro state stands
        have even : Ledger.Even .empty 0 holds :=
          Ledger.even_empty (settled.mpr (Or.inr (Or.inl (refused.mp rfl))))
        exact Resumes.of_uncharged ⟨_, _, even, even, stands.committed, stands.working,
          (congrArg Locals.charged stands.locals).trans uncharged⟩
    | true =>
        have pays : ¬(0 < totalSell env input items ∧
            canPay context.account context.isPostpaid (totalSell env input items) = false) :=
          fun fails => Bool.true_eq_false_eq_False (refused.mpr fails)
        simp only [noFault, Option.isSome_none, Bool.false_eq_true, pays, false_or] at settled
        have evenCommitted : Ledger.Even (afterSlices .empty
            (Ledger.empty.pay (-max 0 (totalSell env input items)))
            (virtualRows faults (virtualSlices env input items))) 0 holds := by
          rw [settled]
          by_cases nothing : virtualRows faults (virtualSlices env input items) = []
          · simp [Ledger.Even, afterSlices, nothing]
          · simp only [Ledger.Even, afterSlices, nothing, if_false, false_or, rowsPrice,
              Ledger.price_add, Ledger.add_money, Ledger.money_pay, Ledger.price_pay,
              Ledger.money_empty, Ledger.price_empty]
            constructor <;> intro equal <;> linarith
        refine Triple.weaken (storeSlices_triple (virtualSlices env input items)
          (fun part member => (mem_virtualSlices member).2)
          fun part member => (mem_virtualSlices member).1)
          (fun _ stands => stands.weaken free) ?_
          fun _ _ leaves => Aborts.of_uncharged leaves evenCommitted
        rintro _ state ⟨allStored, stands⟩
        refine Resumes.of_uncharged ⟨_, _, evenCommitted, ?_, stands⟩
        by_cases nothing : virtualRows faults (virtualSlices env input items) = []
        · have empty := virtualSlices_eq_nil (allStored nothing)
          subst empty
          rw [settled]
          simp [Ledger.Even, nothing, totalSell]
        · simpa [afterSlices, nothing] using evenCommitted

theorem virtualPath_triple {context : CheckContext} {channel : Channel}
    (isAccount : input.accountId = accountId) :
    Triple (Ready start accountId .empty .start context.account)
      (virtualPath env faults input context channel)
      (fun _ => Resumes start accountId faults (VirtualSettled env faults input context channel))
      (Aborts start accountId faults (VirtualSettled env faults input context channel)) := by
  unfold virtualPath
  refine Triple.seq (fun _ => Ready start accountId .empty
    { Locals.start with virtualChannelId := some channel.id } context.account) ?_ fun _ => ?_
  · intro state ready
    exact ready.relocate fun values => { values with virtualChannelId := some channel.id }
  refine Triple.bind (Chunk.lift_triple.weaken (fun _ ready => ready) (fun _ _ done => done) ?_)
    fun checked => Triple.assume fun isChecked => ?_
  · rintro raised state ⟨isError, ready⟩
    refine Aborts.of_uncharged (ready.stands.weaken ?_).leaves ?_
    · rintro values rfl
      rfl
    · simp [Ledger.Even, VirtualSettled, isError]
  refine Triple.seq (fun _ state => ∃ before : Locals, before.charged = 0 ∧
    Ready start accountId .empty before context.account state) ?_ fun _ =>
      Triple.exists_pre fun before => Triple.assume fun uncharged => ?_
  · intro state ready
    exact ⟨_, by simp [Locals.start], ready.relocate fun values =>
      { values with
        succeeded := values.succeeded + checked.done
        failed := values.failed + checked.prefailed.length }⟩
  refine Triple.ite (fun some => ?_) fun none => ?_
  · refine sendVirtual_triple isAccount uncharged ?_
    simp only [VirtualSettled, isChecked]
  · intro state ready
    have nothing : checked.valid = [] := by simpa using none
    have even : Ledger.Even .empty 0 (VirtualSettled env faults input context channel) := by
      refine Ledger.even_empty ?_
      simp only [VirtualSettled, isChecked, nothing]
      exact Or.inr (Or.inr (Or.inl rfl))
    refine Resumes.of_uncharged ⟨_, _, even, even, ready.stands.weaken ?_⟩
    rintro values rfl
    exact uncharged

theorem chargeRun_stopped_pos {pays durable : Bool} {total : Money} {raised : Raise}
    (stopped : chargeRun faults pays total = .stopped raised durable) : 0 < total := by
  by_contra free
  simp [chargeRun, not_lt.mp free] at stopped

theorem chargeRun_charged_pos {pays : Bool} {total : Money}
    (charged : chargeRun faults pays total = .charged) : 0 < total := by
  by_contra free
  simp [chargeRun, not_lt.mp free] at charged

theorem Ledger.even_charged {total : Money} {rows : List LogCore} {gives : Bool}
    (noMoney : ledger.money = 0) (noPrice : ledger.price = 0)
    (settled : holds ↔ rowsPrice rows = if gives then 0 else total) :
    ((ledger.pay (-total)).add rows).Even (if gives then total else 0) holds := by
  rw [settled]
  simp only [Ledger.Even, Ledger.add_money, Ledger.money_pay, Ledger.price_add,
    Ledger.price_pay, noMoney, noPrice, rowsPrice]
  cases gives with
  | true =>
      simp only [if_true]
      constructor <;> intro equal <;> linarith
  | false =>
      simp only [Bool.false_eq_true, if_false]
      constructor <;> intro equal <;> linarith

theorem Ledger.even_free {rows : List LogCore} (noMoney : ledger.money = 0)
    (noPrice : ledger.price = 0) (settled : holds ↔ rowsPrice rows = 0) :
    (ledger.add rows).Even 0 holds := by
  simp [Ledger.Even, noMoney, noPrice, settled, rowsPrice]

theorem Settles.even {items : List ValidItem} {after : Ledger} {rows : List LogCore}
    (settles : Settles input items ledger after rows) (noMoney : ledger.money = 0)
    (noPrice : ledger.price = 0) (true : holds) : after.Even 0 holds := by
  have price : after.price = ledger.price + rowsPrice rows := by
    simp [Ledger.price, settles.appended, rowsPrice]
  simp only [Ledger.Even, price, noPrice, settles.paid, noMoney, rowsPrice, true, iff_true]
  linarith

theorem refundDue_of_stopped {values : Locals} {total : Money} {done : ℕ} {loop : LoopRun}
    {raised : Raise} (stopped : loop.stopped = some raised) (positive : 0 < total)
    (isCharged : values.charged = total)
    (counts : 0 < values.succeeded ↔ 0 < done ∨ loop.counted = true) :
    refundDue faults (some raised) values =
      if givesBack faults done loop then total else 0 := by
  have none : values.succeeded = 0 ↔ done = 0 ∧ loop.counted = false := by
    cases counted : loop.counted <;> simp [counted] at counts ⊢ <;> omega
  unfold refundDue givesBack
  simp only [stopped, isCharged, positive, none, Option.any_some, true_and]
  congr 1
  simp only [Bool.and_eq_true, decide_eq_true_eq, Bool.not_eq_true']
  exact propext ⟨fun ⟨isException, ⟨noneDone, notCounted⟩, passes⟩ =>
      ⟨⟨⟨passes, noneDone⟩, notCounted⟩, isException⟩,
    fun ⟨⟨⟨passes, noneDone⟩, notCounted⟩, isException⟩ =>
      ⟨isException, ⟨noneDone, notCounted⟩, passes⟩⟩

theorem refundDue_of_finished {values : Locals} {total : Money} {done : ℕ} {loop : LoopRun}
    (finished : loop.stopped = none) (positive : 0 < total) (isCharged : values.charged = total)
    (counts : 0 < values.succeeded ↔ 0 < done ∨ loop.counted = true ∨ loop.virtualIds ≠ []) :
    refundDue faults ((faults .countLogs).map Fault.raised) values =
      if givesBack faults done loop then total else 0 := by
  have none : values.succeeded = 0 ↔
      done = 0 ∧ loop.counted = false ∧ loop.virtualIds = [] := by
    cases counted : loop.counted <;> by_cases ids : loop.virtualIds = [] <;>
      simp [counted, ids] at counts ⊢ <;> omega
  unfold refundDue givesBack
  simp only [finished, isCharged, positive, none, true_and]
  congr 1
  simp only [Bool.and_eq_true, decide_eq_true_eq, Bool.not_eq_true', List.isEmpty_iff]
  exact propext ⟨fun ⟨isException, ⟨noneDone, notCounted, noIds⟩, passes⟩ =>
      ⟨⟨⟨passes, noneDone⟩, notCounted⟩, noIds, isException⟩,
    fun ⟨⟨⟨passes, noneDone⟩, notCounted⟩, noIds, isException⟩ =>
      ⟨isException, ⟨noneDone, notCounted, noIds⟩, passes⟩⟩

theorem writeLoop_charged {items : List ValidItem} {batchStatus : String} {before : Locals}
    {total : Money} {done : ℕ} (noMoney : ledger.money = 0) (noPrice : ledger.price = 0)
    (noChannel : before.virtualChannelId = none) (noIds : before.virtualIds = [])
    (isCharged : before.charged = total) (positive : 0 < total)
    (counts : 0 < before.succeeded ↔ 0 < done)
    (settled : holds ↔ rowsPrice (writeRun env faults input items).rows =
      if givesBack faults done (writeRun env faults input items) then 0 else total) :
    Triple (Stands start accountId (ledger.pay (-total)) (ledger.pay (-total)) (· = before))
      (writeLoop env faults input batchStatus items)
      (fun _ => Resumes start accountId faults holds) (Aborts start accountId faults holds) := by
  have even := Ledger.even_charged noMoney noPrice settled
  refine (writeLoop_triple noChannel noIds).weaken (fun _ stands => stands) ?_ ?_
  · rintro _ state ⟨finished, stands⟩
    refine ⟨_, _, _, even, even, stands.weaken fun values ends => ⟨?_, fun some => Or.inr ?_⟩⟩
    · refine refundDue_of_finished finished positive (ends.charged.trans isCharged) ?_
      rw [ends.succeeded, counts]
    · exact ends.succeeded.mpr (Or.inr (Or.inr (by rwa [ends.virtualIds] at some)))
  · rintro raised state ⟨stopped, stands⟩
    refine ⟨_, stands.committed, ?_⟩
    have count : 0 < state.toLocals.succeeded ↔
        0 < done ∨ (writeRun env faults input items).counted = true := by
      rw [stands.locals.1, counts]
    rw [refundDue_of_stopped stopped positive (stands.locals.2.trans isCharged) count]
    exact even

theorem writeLoop_free {items : List ValidItem} {batchStatus : String} {before : Locals}
    (noMoney : ledger.money = 0) (noPrice : ledger.price = 0)
    (noChannel : before.virtualChannelId = none) (noIds : before.virtualIds = [])
    (uncharged : before.charged = 0)
    (settled : holds ↔ rowsPrice (writeRun env faults input items).rows = 0) :
    Triple (Stands start accountId ledger ledger (· = before))
      (writeLoop env faults input batchStatus items)
      (fun _ => Resumes start accountId faults holds) (Aborts start accountId faults holds) := by
  have even := Ledger.even_free noMoney noPrice settled
  refine (writeLoop_triple noChannel noIds).weaken (fun _ stands => stands) ?_ ?_
  · rintro _ state ⟨_, stands⟩
    exact Resumes.of_uncharged ⟨_, _, even, even,
      stands.weaken fun _ ends => ends.charged.trans uncharged⟩
  · rintro raised state ⟨_, stands⟩
    exact Aborts.of_uncharged
      (stands.weaken fun _ ends => ends.2.trans uncharged).leaves even

theorem fallback_settled {items : List ValidItem} {batchStatus : String} {before : Locals}
    (isAccount : input.accountId = accountId) (noMoney : ledger.money = 0)
    (noPrice : ledger.price = 0) (uncharged : before.charged = 0) (true : holds) :
    Triple (Stands start accountId ledger ledger (· = before))
      (fallback env faults input batchStatus items)
      (fun _ => Resumes start accountId faults holds) (Aborts start accountId faults holds) := by
  subst isAccount
  have paid : ∀ state, Stands start input.accountId ledger ledger (· = before) state →
      Paid start input items ledger 0 state := by
    intro state stands
    exact ⟨_, _, _, _, Settles.refl input items ledger, Settles.refl input items ledger,
      stands.weaken fun _ equal => equal ▸ uncharged⟩
  refine fallback_triple.weaken paid ?_ ?_
  · rintro _ state ⟨_, _, _, _, onCommitted, onWorking, stands⟩
    exact Resumes.of_uncharged ⟨_, _, onCommitted.even noMoney noPrice true,
      onWorking.even noMoney noPrice true, stands⟩
  · rintro raised state ⟨_, _, _, _, onCommitted, _, stands⟩
    exact Aborts.of_uncharged stands.leaves (onCommitted.even noMoney noPrice true)

theorem sendItems_triple {context : CheckContext} {items : List ValidItem}
    {batchStatus : String} {before : Locals} {done : ℕ} (isAccount : input.accountId = accountId)
    (noMoney : ledger.money = 0) (noPrice : ledger.price = 0)
    (noChannel : before.virtualChannelId = none) (noIds : before.virtualIds = [])
    (uncharged : before.charged = 0) (counts : 0 < before.succeeded ↔ 0 < done)
    (settled : holds ↔
      match chargeRun faults (canPay context.account context.isPostpaid
          (totalSell env input items)) (totalSell env input items) with
      | .unpaid => True
      | .stopped _ durable => durable = false
      | .free => rowsPrice (writeRun env faults input items).rows = 0
      | .charged => rowsPrice (writeRun env faults input items).rows =
          if givesBack faults done (writeRun env faults input items) then 0
          else totalSell env input items) :
    Triple (Ready start accountId ledger before context.account)
      (sendItems env faults input context batchStatus items)
      (fun _ => Resumes start accountId faults holds) (Aborts start accountId faults holds) := by
  unfold sendItems
  refine Triple.bind ((chargeChunk_triple isAccount).weaken (fun _ ready => ready)
    (fun _ _ done => done) ?_) fun paid => ?_
  · rintro raised state ⟨durable, stopped, leaves⟩
    simp only [stopped] at settled
    have positive := chargeRun_stopped_pos stopped
    have even : (if durable then ledger.pay (-totalSell env input items) else ledger).Even 0
        holds := by
      cases durable with
      | false => simp [Ledger.Even, noMoney, noPrice, settled]
      | true =>
          simp only [Ledger.Even, if_true, Ledger.money_pay, Ledger.price_pay, noMoney, noPrice,
            settled, Bool.true_eq_false, iff_false]
          intro equal
          linarith
    exact Aborts.of_uncharged
      ⟨leaves.committed, (congrArg Locals.charged leaves.locals).trans uncharged⟩ even
  · rintro state (⟨ended, rfl, stands⟩ | ⟨ended, rfl, stands⟩ | ⟨ended, rfl, stands⟩)
    · simp only [ended] at settled
      exact writeLoop_free noMoney noPrice noChannel noIds uncharged settled state stands
    · simp only [ended, iff_true] at settled
      exact fallback_settled isAccount noMoney noPrice uncharged settled state stands
    · simp only [ended] at settled
      refine writeLoop_charged noMoney noPrice ?_ ?_ ?_ (chargeRun_charged_pos ended) ?_ settled
        state stands
      exacts [noChannel, noIds, rfl, counts]

theorem prefailed_free {failures : List Prefailed} {kept : List LogCore}
    (isPrefix : kept <+: (failures.mapIdx (Prefailed.smsLog env input)).map SmsLog.core) :
    rowsPrice kept = 0 := by
  refine List.sum_eq_zero fun price member => ?_
  rcases List.mem_map.mp member with ⟨row, inKept, rfl⟩
  rcases List.mem_map.mp (isPrefix.subset inKept) with ⟨stored, isStored, rfl⟩
  rcases List.mem_mapIdx.mp isStored with ⟨index, inside, rfl⟩
  rfl

theorem ordinaryPath_triple {context : CheckContext} {batchStatus : String}
    (isAccount : input.accountId = accountId) :
    Triple (Ready start accountId .empty .start context.account)
      (ordinaryPath env faults input context batchStatus)
      (fun _ => Resumes start accountId faults (OrdinarySettled env faults input context))
      (Aborts start accountId faults (OrdinarySettled env faults input context)) := by
  unfold ordinaryPath
  refine Triple.bind (Chunk.lift_triple.weaken (fun _ ready => ready) (fun _ _ done => done) ?_)
    fun checked => Triple.assume fun isChecked => ?_
  · rintro raised state ⟨isError, ready⟩
    refine Aborts.of_uncharged (ready.stands.weaken ?_).leaves ?_
    · rintro values rfl
      rfl
    · exact Ledger.even_empty (by simp [OrdinarySettled, isError])
  refine Triple.seq (fun _ state => ∃ before : Locals, (before.virtualChannelId = none ∧
    before.virtualIds = [] ∧ before.charged = 0 ∧ (0 < before.succeeded ↔ 0 < checked.done)) ∧
    Ready start accountId .empty before context.account state) ?_ fun _ =>
      Triple.exists_pre fun before => Triple.assume fun fresh => ?_
  · intro state ready
    exact ⟨_, ⟨rfl, rfl, rfl, by simp [Locals.start]⟩, ready.relocate fun values =>
      { values with
        succeeded := values.succeeded + checked.done
        failed := values.failed + checked.prefailed.length }⟩
  rcases fresh with ⟨noChannel, noIds, uncharged, counts⟩
  refine Triple.bind ((storeFailed_ready ?_).weaken (fun _ ready => ready)
    (fun _ _ done => done) ?_) fun _ => Triple.assume fun passes => ?_
  · intro row member
    rcases List.mem_mapIdx.mp member with ⟨index, inside, rfl⟩
    rfl
  · rintro raised state ⟨fails, kept, isPrefix, stands⟩
    refine Aborts.of_uncharged (stands.weaken fun _ equal => equal ▸ uncharged).leaves ?_
    refine Ledger.even_free rfl rfl ?_
    simp [OrdinarySettled, isChecked, fails, prefailed_free isPrefix]
  · have free : (Ledger.empty.add ((checked.prefailed.mapIdx
        (Prefailed.smsLog env input)).map SmsLog.core)).price = 0 := by
      rw [Ledger.price_add, Ledger.price_empty, zero_add]
      exact prefailed_free List.prefix_rfl
    refine Triple.ite (fun some => ?_) fun none => ?_
    · refine sendItems_triple isAccount rfl free noChannel noIds uncharged counts ?_
      simp only [OrdinarySettled, isChecked, passes, true_implies]
    · intro state ready
      have nothing : checked.valid = [] := by simpa using none
      have even : Ledger.Even (Ledger.empty.add ((checked.prefailed.mapIdx
          (Prefailed.smsLog env input)).map SmsLog.core)) 0
            (OrdinarySettled env faults input context) := by
        have settled : OrdinarySettled env faults input context := by
          simp [OrdinarySettled, isChecked, nothing, chargeRun, totalSell, writeRun, loopRun,
            rowsPrice]
        simp only [Ledger.Even, Ledger.add_money, Ledger.money_empty, free, settled]
        decide
      refine Resumes.of_uncharged ⟨_, _, even, even, ready.stands.weaken ?_⟩
      rintro values rfl
      exact uncharged

theorem finish_triple {batchId : ℕ} :
    Triple (Resumes start accountId faults holds)
      (do
        Chunk.statement faults .countLogs
        let _ ← updateBatchProgress env faults batchId
        return true)
      (fun _ => Within start accountId (fun ledger => ledger.Even 0 holds)
        (fun values => values.virtualIds ≠ [] → values.charged = 0 ∨ 0 < values.succeeded))
      (Aborts start accountId faults holds) := by
  refine Triple.exists_pre fun due => ?_
  refine Triple.bind (within_statement.weaken (fun _ within => within) (fun _ _ done => done) ?_)
    fun _ => Triple.assume fun countPasses => ?_
  · rintro raised state ⟨atSite, committed, working, even, _, stands⟩
    refine ⟨committed, stands.committed, ?_⟩
    have due := stands.locals.1
    rw [show (faults .countLogs).map Fault.raised = some raised from atSite] at due
    rw [due]
    exact even
  · have nothing : ∀ values, refundDue faults ((faults .countLogs).map Fault.raised) values = 0 := by
      simp [refundDue, countPasses]
    refine Triple.bind (updateBatchProgress_triple.weaken (fun _ within => within)
      (fun _ _ within => within) ?_) fun updated => ?_
    · rintro raised state ⟨escapes, committed, working, even, _, stands⟩
      refine ⟨committed, stands.committed, ?_⟩
      have due := stands.locals.1
      rw [nothing] at due
      have none : refundDue faults (some raised) state.toLocals = 0 := by
        simp [refundDue, escapes]
      rw [none, due]
      exact even
    · rintro state ⟨committed, working, evenCommitted, evenWorking, stands⟩
      have due := stands.locals.1
      rw [nothing] at due
      subst due
      exact ⟨committed, working, evenCommitted, evenWorking, stands.weaken fun _ both => both.2⟩

theorem read_bind {Value : Type} {db : Db} {site : Site} {next : Unit → Chunk Value}
    {normally : Value → ChunkState → Prop} {raising : Raise → ChunkState → Prop}
    (raises : faults site ≠ none → ∀ raised state, state = ChunkState.start db →
      raising raised state)
    (passes : faults site = none →
      Triple (fun state => state = ChunkState.start db) (next ()) normally raising) :
    Triple (fun state => state = ChunkState.start db) (Chunk.statement faults site >>= next)
      normally raising := by
  refine Triple.bind ((statement_keeps ?_).weaken (fun _ isStart => isStart)
    (fun _ _ done => done) ?_) fun _ => Triple.assume passes
  · rintro state rfl
    rfl
  · rintro raised state ⟨atSite, isStart⟩
    refine raises ?_ raised state isStart
    intro noFault
    simp [Raises, noFault] at atSite

theorem chunkSession_triple {db : Db} (keyed : (db.smsLogs.map SmsLog.id).Nodup) :
    Triple (fun state => state = ChunkState.start db) (chunkSession env faults input)
      (fun _ => Within db input.accountId
        (fun ledger => ledger.Even 0 (ChargeSettled env faults input db))
        (fun values => values.virtualIds ≠ [] → values.charged = 0 ∨ 0 < values.succeeded))
      (Aborts db input.accountId faults (ChargeSettled env faults input db)) := by
  have ready : ∀ state, state = ChunkState.start db →
      Ready db input.accountId .empty .start (db.accounts input.accountId) state := by
    rintro state rfl
    exact ⟨⟨Since.refl keyed, Since.refl keyed, rfl⟩, rfl, rfl⟩
  have untouched : ∀ state, state = ChunkState.start db → ChargeSettled env faults input db →
      Stands db input.accountId .empty .empty (fun values => values.charged = 0) state := by
    intro state isStart _
    refine (ready state isStart).stands.weaken ?_
    rintro values rfl
    rfl
  have stopped : ∀ raised state, state = ChunkState.start db →
      sessionStarts faults input db = false →
        Aborts db input.accountId faults (ChargeSettled env faults input db) raised state := by
    intro raised state isStart fails
    have settled : ChargeSettled env faults input db := by simp [ChargeSettled, fails]
    exact Aborts.of_uncharged (untouched state isStart settled).leaves (Ledger.even_empty settled)
  unfold chunkSession
  refine read_bind (fun fails raised state isStart => stopped raised state isStart ?_)
    fun batchPasses => ?_
  · simp [sessionStarts, fails]
  refine Triple.get_bind fun current isStart => ?_
  subst isStart
  refine Triple.ite (fun isStopped => ?_) fun goesOn => ?_
  · rintro state rfl
    have settled : ChargeSettled env faults input db := by
      intro starts
      simp only [sessionStarts, Bool.and_eq_true] at starts
      simp only [ChunkState.start] at isStopped
      simp [isStopped] at starts
    refine ⟨_, _, Ledger.even_empty settled, Ledger.even_empty settled,
      (untouched _ rfl settled).weaken fun _ uncharged _ => Or.inl uncharged⟩
  refine read_bind (fun fails raised state isStart => stopped raised state isStart ?_)
    fun existingPasses => ?_
  · simp [sessionStarts, fails]
  refine Triple.seq (fun _ state => cancellation faults .readBlacklist = none ∧
    state = ChunkState.start db) ?_ fun _ => Triple.assume fun blacklistPasses => ?_
  · refine Triple.catching (fun raised state => Raises faults .readBlacklist raised ∧
      state = ChunkState.start db) ?_ ?_ ?_
    · refine (statement_keeps ?_).weaken (fun _ isStart => isStart) ?_ (fun _ _ done => done)
      · rintro state rfl
        rfl
      · rintro _ state ⟨noFault, isStart⟩
        exact ⟨cancellation_of_none noFault, isStart⟩
    · rintro raised state escapes ⟨atSite, isStart⟩
      refine stopped raised state isStart ?_
      have cancelled := cancellation_of_raises atSite
      simp only [escapes, Bool.false_eq_true, if_false] at cancelled
      simp [sessionStarts, cancelled]
    · rintro raised caught state ⟨atSite, isStart⟩
      have cancelled := cancellation_of_raises atSite
      simp only [caught, if_true] at cancelled
      exact ⟨cancelled, isStart⟩
  refine read_bind (fun fails raised state isStart => stopped raised state isStart ?_)
    fun accountPasses => ?_
  · simp [sessionStarts, fails]
  refine read_bind (fun fails raised state isStart => stopped raised state isStart ?_)
    fun channelPasses => ?_
  · simp [sessionStarts, Option.ne_none_iff_isSome.mp fails]
  have starts : sessionStarts faults input db = true := by
    simp only [ChunkState.start] at goesOn
    simp [sessionStarts, batchPasses, goesOn, existingPasses, blacklistPasses, accountPasses,
      channelPasses]
  have path : ChargeSettled env faults input db ↔
      match virtualChannel input db with
      | some channel => VirtualSettled env faults input (checkContext env faults input db) channel
      | none => OrdinarySettled env faults input (checkContext env faults input db) := by
    simp only [ChargeSettled, starts, true_implies]
  dsimp only
  split
  · rename_i channel isVirtual
    have isVirtual : virtualChannel input db = some channel := isVirtual
    rw [isVirtual] at path
    rw [path]
    exact Triple.bind (virtualPath_triple rfl |>.weaken ready (fun _ _ done => done)
      fun _ _ done => done) fun _ => finish_triple
  · rename_i notVirtual
    have notVirtual : virtualChannel input db = none := notVirtual
    rw [notVirtual] at path
    rw [path]
    exact Triple.bind (ordinaryPath_triple rfl |>.weaken ready (fun _ _ done => done)
      fun _ _ done => done) fun _ => finish_triple

def Ended (start : Db) (accountId : ℕ) (holds : Prop) (state : ChunkState) : Prop :=
  ∃ ledger : Ledger, Since start accountId ledger state.committed ∧ ledger.Even 0 holds

theorem chunkBody_triple {db : Db} (keyed : (db.smsLogs.map SmsLog.id).Nodup) :
    Triple (fun state => state = ChunkState.start db) (chunkBody env faults input)
      (fun _ => Ended db input.accountId (ChargeSettled env faults input db))
      (fun raised state => ∃ ledger, Stands db input.accountId ledger ledger (fun values =>
        ledger.Even (refundDue faults (some raised) values)
          (ChargeSettled env faults input db)) state) := by
  unfold chunkBody
  refine Triple.seq (fun _ state => ∃ ledger : Ledger,
    ledger.Even 0 (ChargeSettled env faults input db) ∧ Stands db input.accountId ledger ledger
      (fun values => values.virtualIds ≠ [] → values.charged = 0 ∨ 0 < values.succeeded) state)
    (closing_triple ((chunkSession_triple keyed).weaken (fun _ isStart => isStart) ?_ ?_)) ?_
  · rintro started state ⟨committed, working, even, _, stands⟩
    exact ⟨committed, even, stands.drop⟩
  · rintro raised state ⟨ledger, leaves⟩
    exact ⟨ledger, leaves.close⟩
  · intro started
    refine Triple.exists_pre fun ledger => Triple.assume fun even => ?_
    cases started with
    | false =>
        intro state stands
        exact ⟨ledger, stands.committed, even⟩
    | true =>
        refine Triple.seq (fun _ => Ended db input.accountId (ChargeSettled env faults input db))
          ?_ fun _ state ended => ended
        refine Triple.get_bind fun current stands => ?_
        refine Triple.ite (fun sends => ?_) fun _ => ?_
        · have counted : Stands db input.accountId ledger ledger
              (fun values => values.charged = 0 ∨ 0 < values.succeeded) current :=
            ⟨stands.committed, stands.working, stands.locals sends.2⟩
          refine Triple.at_state (statement_bind ?_ fun _ => ?_) counted
          · intro fault _ state stands
            have nothing : refundDue faults (some fault.raised) state.toLocals = 0 := by
              rcases stands.locals with uncharged | some
              · exact refundDue_of_uncharged uncharged
              · simp [refundDue, Nat.ne_of_gt some]
            exact ⟨ledger, stands.committed, stands.working, by rw [nothing]; exact even⟩
          · intro state stands
            exact ⟨ledger, stands.committed, even⟩
        · rintro state rfl
          exact ⟨ledger, stands.committed, even⟩

theorem doProcessChunk_triple {db : Db} (keyed : (db.smsLogs.map SmsLog.id).Nodup) :
    Triple (fun state => state = ChunkState.start db) (doProcessChunk env faults input)
      (fun _ => Ended db input.accountId (ChargeSettled env faults input db))
      (fun _ => Ended db input.accountId (ChargeSettled env faults input db)) := by
  unfold doProcessChunk
  refine Triple.catching _ (chunkBody_triple keyed) ?_ ?_
  · rintro raised state escapes ⟨ledger, stands⟩
    have even := stands.locals
    rw [show refundDue faults (some raised) state.toLocals = 0 by
      simp [refundDue, escapes]] at even
    exact ⟨ledger, stands.committed, even⟩
  · intro raised caught
    refine Triple.exists_pre fun ledger => Triple.fix_locals fun before even => ?_
    refine Triple.get_bind fun current stands => ?_
    have same : current.toLocals = before := stands.locals
    by_cases gives : 0 < current.charged ∧ current.succeeded = 0
    · simp only [if_pos gives]
      refine Triple.at_state (Triple.seq (fun _ => Ended db input.accountId
        (ChargeSettled env faults input db)) ((refundCharged_triple rfl).weaken
          (fun _ stands => stands) ?_ ?_) fun _ state ended => ended) stands
      all_goals
        intro _ state leaves
        refine ⟨_, leaves.committed, ?_⟩
        rw [← same] at even ⊢
        cases passes : refundPasses faults with
        | true => simpa [refundDue, caught, gives, passes, Ledger.Even] using even
        | false => simpa [refundDue, caught, gives, passes, Ledger.Even] using even
    · simp only [if_neg gives]
      rintro state rfl
      refine ⟨ledger, stands.committed, ?_⟩
      have nothing : refundDue faults (some raised) before = 0 := by
        rw [← same, refundDue, if_neg]
        exact fun due => gives ⟨due.2.1, due.2.2.1⟩
      rwa [nothing] at even

end

def redelivered : ChunkInput :=
  .plain ["+8613800138000", "+8613900139000"] none

def redeliveredTables : Db :=
  .plain 1000 (.plain .smpp) [.plain (.plain .smpp) 100 "+8613800138000"]

end Klsmsc
