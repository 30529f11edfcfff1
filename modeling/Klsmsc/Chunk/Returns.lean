import Klsmsc.Chunk.Atomic

/-!
# Executions that return

An execution that returns has come to the end of its path, of the finish and of the
dispatch to the virtual simulation. So what the path leaves on the ledger is what the
execution leaves, and of the local variables only the record of what was handed over
changes behind the path.
-/

namespace Klsmsc

open Library

def Locals.dispatched (values : Locals) : Locals :=
  if values.virtualChannelId.isSome ∧ values.virtualIds ≠ [] then
    { values with
      handed := values.handed ++
        values.virtualIds.map fun messageId => (messageId, .simulation) }
  else values

section

variable {env : ChunkEnv} {faults : Faults} {input : ChunkInput} {db : Db}
  {fine : Ledger → Prop} {locals : Locals → Prop}

theorem triple_true {Value : Type} {command : Chunk Value} {pre : ChunkState → Prop} :
    Triple pre command (fun _ _ => True) (fun _ _ => True) := by
  intro state _
  cases command state <;> trivial

/-- The path that the session takes leaves a ledger and local variables of a kind when it
comes to its end. -/
def PathLeaves (env : ChunkEnv) (faults : Faults) (input : ChunkInput) (db : Db)
    (fine : Ledger → Prop) (locals : Locals → Prop) : Prop :=
  let context := checkContext env faults input db
  let start := Ready db input.accountId .empty .start context.account
  let leaves := Within db input.accountId fine locals
  match virtualChannel input db with
  | some channel =>
      Triple start (virtualPath env faults input context channel) (fun _ => leaves)
        (fun _ _ => True)
  | none =>
      ∀ batchStatus, Triple start (ordinaryPath env faults input context batchStatus)
        (fun _ => leaves) (fun _ _ => True)

theorem finish_returns {accountId batchId : ℕ} :
    Triple (Within db accountId fine locals)
      (do
        Chunk.statement faults .countLogs
        let _ ← updateBatchProgress env faults batchId
        return true)
      (fun started state => started = true ∧ Within db accountId fine locals state)
      (fun _ _ => True) := by
  refine Triple.bind (within_statement.weaken (fun _ within => within) (fun _ _ done => done)
    fun _ _ _ => trivial) fun _ => Triple.assume fun _ => ?_
  refine Triple.bind (updateBatchProgress_triple.weaken (fun _ within => within)
    (fun _ _ within => within) fun _ _ _ => trivial) fun _ state within => ?_
  exact ⟨rfl, within⟩

theorem chunkSession_returns (keyed : (db.smsLogs.map SmsLog.id).Nodup)
    (opened : (db.batches input.batchId).any (fun batch => batch.status.stopped) = false)
    (path : PathLeaves env faults input db fine locals) :
    Triple (fun state => state = ChunkState.start db) (chunkSession env faults input)
      (fun started state => started = true ∧ Within db input.accountId fine locals state)
      (fun _ _ => True) := by
  have ready : ∀ state, state = ChunkState.start db →
      Ready db input.accountId .empty .start (db.accounts input.accountId) state := by
    rintro state rfl
    exact ⟨⟨Since.refl keyed, Since.refl keyed, rfl⟩, rfl, rfl⟩
  have trivially : ∀ {site : Site}, faults site ≠ none → ∀ (_ : Raise) (state : ChunkState),
      state = ChunkState.start db → True :=
    fun _ _ _ _ => trivial
  unfold chunkSession
  refine read_bind trivially fun _ => Triple.get_bind fun current isStart => ?_
  subst isStart
  have goesOn : ¬((ChunkState.start db).working.batches input.batchId).any
      (fun batch => batch.status.stopped) = true := by
    simp [ChunkState.start, opened]
  rw [if_neg goesOn]
  refine read_bind trivially fun _ => ?_
  refine Triple.seq (fun _ state => state = ChunkState.start db) ?_ fun _ => ?_
  · refine Triple.catching (fun _ state => state = ChunkState.start db) ?_
      (fun _ _ _ _ => trivial) fun _ _ state isStart => isStart
    refine (statement_keeps ?_).weaken (fun _ isStart => isStart) (fun _ _ done => done.2)
      fun _ _ done => done.2
    rintro state rfl
    rfl
  refine read_bind trivially fun _ => read_bind trivially fun _ => ?_
  dsimp only
  split
  · rename_i channel isVirtual
    have isVirtual : virtualChannel input db = some channel := isVirtual
    rw [PathLeaves, isVirtual] at path
    exact Triple.bind (path.weaken ready (fun _ _ done => done) fun _ _ _ => trivial)
      fun _ => finish_returns
  · rename_i notVirtual
    have notVirtual : virtualChannel input db = none := notVirtual
    rw [PathLeaves, notVirtual] at path
    exact Triple.bind ((path _).weaken ready (fun _ _ done => done) fun _ _ _ => trivial)
      fun _ => finish_returns

structure Returned (input : ChunkInput) (db : Db) (fine : Ledger → Prop)
    (locals : Locals → Prop) (state : ChunkState) : Prop where
  tables : ∃ ledger, fine ledger ∧ Since db input.accountId ledger state.committed
  handed : ∃ values, locals values ∧ state.toLocals = values.dispatched

theorem chunkBody_returns (keyed : (db.smsLogs.map SmsLog.id).Nodup)
    (opened : (db.batches input.batchId).any (fun batch => batch.status.stopped) = false)
    (path : PathLeaves env faults input db fine locals) :
    Triple (fun state => state = ChunkState.start db) (chunkBody env faults input)
      (fun _ => Returned input db fine locals) (fun _ _ => True) := by
  unfold chunkBody
  refine Triple.seq (fun started state => started = true ∧ ∃ ledger, fine ledger ∧
    Stands db input.accountId ledger ledger locals state)
    (closing_triple ((chunkSession_returns keyed opened path).weaken
      (fun _ isStart => isStart) ?_ fun _ _ _ => trivial)) ?_
  · rintro started state ⟨isStarted, committed, _, isFine, _, stands⟩
    exact ⟨isStarted, committed, isFine, stands.drop⟩
  · intro started
    refine Triple.assume fun isStarted => Triple.exists_pre fun ledger =>
      Triple.assume fun isFine => ?_
    rw [if_pos isStarted]
    refine Triple.seq (fun _ => Returned input db fine locals) ?_ fun _ state returned => returned
    refine Triple.get_bind fun current stands => ?_
    refine Triple.ite (fun sends => ?_) fun idle => ?_
    · have here : current.toLocals.virtualChannelId.isSome ∧
          current.toLocals.virtualIds ≠ [] := sends
      have fixed : Stands db input.accountId ledger ledger (· = current.toLocals) current :=
        ⟨stands.committed, stands.working, rfl⟩
      refine Triple.at_state (statement_bind (fun _ _ _ _ => trivial) fun _ =>
        Triple.modify fun state after => ?_) fixed
      refine ⟨⟨ledger, isFine, after.committed⟩, current.toLocals, stands.locals, ?_⟩
      rw [Locals.dispatched, if_pos here, ← after.locals]
    · rintro state rfl
      refine ⟨⟨ledger, isFine, stands.committed⟩, state.toLocals, stands.locals, ?_⟩
      rw [Locals.dispatched, if_neg idle]

theorem runChunk_returns (keyed : (db.smsLogs.map SmsLog.id).Nodup)
    (opened : (db.batches input.batchId).any (fun batch => batch.status.stopped) = false)
    (path : PathLeaves env faults input db fine locals) {result : ChunkResult}
    {after : ChunkState} (returned : runChunk env faults input db = .ok result after) :
    Returned input db fine locals after := by
  have whole : Triple (fun state => state = ChunkState.start db) (doProcessChunk env faults input)
      (fun _ => Returned input db fine locals) (fun _ _ => True) := by
    unfold doProcessChunk
    refine Triple.catching (fun _ _ => True) (chunkBody_returns keyed opened path)
      (fun _ _ _ _ => trivial) fun raised _ => ?_
    have thrown : Triple (fun _ => True) (throw raised : Chunk ChunkResult)
        (fun _ => Returned input db fine locals) (fun _ _ => True) := by
      intro state _
      trivial
    refine Triple.get_bind fun current _ => ?_
    exact Triple.at_state (Triple.ite (fun _ => Triple.seq (fun _ _ => True) triple_true
      fun _ => thrown) fun _ => thrown) True.intro
  have outcome := whole (ChunkState.start db) rfl
  rw [show doProcessChunk env faults input (ChunkState.start db) = .ok result after from
    returned] at outcome
  exact outcome

end

end Klsmsc
