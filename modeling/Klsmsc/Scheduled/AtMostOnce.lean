import Klsmsc.Scheduled
import Mathlib.Data.List.Nodup

/-!
# Chunks of scheduled batches

A claim gives a batch to one run, and no other run can claim it until it is pending again.
A run makes it pending only after an exception, and the next run publishes from the first
chunk on. The chunks are therefore published at most once as long as an exception comes
before anything of the batch has reached the broker.
-/

namespace Klsmsc

open Library

def DispatchLabel.handled : DispatchLabel → Option ℕ
  | .handle index => some index
  | _ => none

def ChunkTask.key (task : ChunkTask) : ℕ × ℕ :=
  (task.batchId, task.offset)

def DispatchStage.holds : DispatchStage → Option ℕ
  | .reading batch => some batch.id
  | .publishing batch _ _ => some batch.id
  | .orphaned batch _ => some batch.id
  | .resetting batch => some batch.id
  | _ => none

def Untouched (published : List ChunkTask) (batchId : ℕ) : Prop :=
  ∀ task ∈ published, task.batchId ≠ batchId

def Remaining (published : List ChunkTask) (batchId : ℕ) (rest : List ChunkTask) : Prop :=
  (∀ task ∈ rest, task.batchId = batchId) ∧ ((published ++ rest).map ChunkTask.key).Nodup

def StageFits (published : List ChunkTask) : DispatchStage → Prop
  | .reading batch => Untouched published batch.id
  | .publishing batch sent rest =>
      Remaining published batch.id rest ∧ (sent = 0 → Untouched published batch.id)
  | .orphaned batch rest => Remaining published batch.id rest
  | .resetting batch => Untouched published batch.id
  | _ => True

section

variable {published : List ChunkTask} {batchId : ℕ}

theorem stageFits_of_holds_none {stage : DispatchStage} (free : stage.holds = none) :
    StageFits published stage := by
  cases stage with
  | looping => trivial
  | failing batch text => trivial
  | ended => trivial
  | _ => cases free

theorem Untouched.append {task : ChunkTask} (untouched : Untouched published batchId)
    (other : task.batchId ≠ batchId) : Untouched (published ++ [task]) batchId := by
  intro entry member
  rcases List.mem_append.mp member with before | new
  · exact untouched entry before
  · rw [List.mem_singleton.mp new]
    exact other

theorem Remaining.append {task : ChunkTask} {rest : List ChunkTask}
    (remaining : Remaining published batchId rest) (other : task.batchId ≠ batchId)
    (once : ((published ++ [task]).map ChunkTask.key).Nodup) :
    Remaining (published ++ [task]) batchId rest := by
  refine ⟨remaining.1, ?_⟩
  have apart := remaining.2
  rw [List.map_append, List.nodup_append] at apart ⊢
  refine ⟨once, apart.2.1, ?_⟩
  intro key inPublished key' inRest same
  rw [List.map_append, List.mem_append] at inPublished
  rcases inPublished with before | new
  · exact apart.2.2 key before key' inRest same
  · rcases List.mem_map.mp inRest with ⟨entry, inRest, isKey⟩
    have own := remaining.1 entry inRest
    simp only [List.map_cons, List.map_nil, List.mem_singleton] at new
    rw [new, ← isKey] at same
    exact other ((congrArg Prod.fst same).trans own)

theorem Remaining.tail {task : ChunkTask} {rest : List ChunkTask}
    (remaining : Remaining published batchId (task :: rest)) :
    Remaining (published ++ [task]) batchId rest := by
  refine ⟨fun entry member => remaining.1 entry (List.mem_cons_of_mem _ member), ?_⟩
  have apart := remaining.2
  rwa [List.append_assoc, List.singleton_append]

theorem Remaining.once {task : ChunkTask} {rest : List ChunkTask}
    (remaining : Remaining published batchId (task :: rest)) :
    ((published ++ [task]).map ChunkTask.key).Nodup := by
  have apart := remaining.tail.2
  rw [List.map_append] at apart
  exact (List.nodup_append.mp apart).1

theorem StageFits.append {stage : DispatchStage} {task : ChunkTask}
    (fits : StageFits published stage) (other : stage.holds ≠ some task.batchId)
    (once : ((published ++ [task]).map ChunkTask.key).Nodup) :
    StageFits (published ++ [task]) stage := by
  cases stage with
  | looping => trivial
  | reading batch => exact Untouched.append fits fun same => other (by rw [same]; rfl)
  | publishing batch sent rest =>
      have differs : task.batchId ≠ batch.id := fun same => other (by rw [same]; rfl)
      exact ⟨fits.1.append differs once, fun first => (fits.2 first).append differs⟩
  | orphaned batch rest =>
      exact Remaining.append fits (fun same => other (by rw [same]; rfl)) once
  | failing batch text => trivial
  | resetting batch => exact Untouched.append fits fun same => other (by rw [same]; rfl)
  | ended => trivial

theorem remaining_enqueueScheduledChunks {payload : ScheduledPayload} {chunkSize : ℤ}
    {tasks : List ChunkTask} (once : (published.map ChunkTask.key).Nodup)
    (untouched : Untouched published batchId)
    (planned : enqueueScheduledChunks batchId payload chunkSize = some tasks) :
    Remaining published batchId tasks := by
  have shape : (∀ task ∈ tasks, task.batchId = batchId) ∧ (tasks.map ChunkTask.key).Nodup := by
    unfold enqueueScheduledChunks at planned
    split at planned
    · cases planned
    · split at planned
      · cases planned
        simp
      · rename_i nonzero positive
        cases planned
        have width : 0 < chunkSize.toNat := by omega
        refine ⟨?_, ?_⟩
        · intro task member
          rcases List.mem_map.mp member with ⟨part, _, rfl⟩
          rfl
        · have numbered : ((slices chunkSize.toNat payload.phones).zipIdx.map Prod.snd).Nodup := by
            rw [List.zipIdx_map_snd]
            exact List.nodup_range'
          have injective : Function.Injective fun n => (batchId, n * chunkSize.toNat) := by
            intro first second same
            exact Nat.eq_of_mul_eq_mul_right width (congrArg Prod.snd same)
          have keys := List.Nodup.map injective numbered
          rwa [List.map_map] at keys ⊢
  refine ⟨shape.1, ?_⟩
  rw [List.map_append, List.nodup_append]
  refine ⟨once, shape.2, ?_⟩
  intro key inPublished key' inTasks same
  rcases List.mem_map.mp inPublished with ⟨before, member, rfl⟩
  rcases List.mem_map.mp inTasks with ⟨task, planned, rfl⟩
  exact untouched before member ((congrArg Prod.fst same).trans (shape.1 task planned))

end

section

variable {batches : List ScheduledBatch} {batchId : ℕ}

theorem hasPending_of_mem {batch : ScheduledBatch} (member : batch ∈ batches)
    (pending : batch.status = .pending) : hasPending batch.id batches = true := by
  simp only [hasPending, List.any_eq_true]
  exact ⟨batch, member, by simp [pending]⟩

theorem exists_of_hasPending (pending : hasPending batchId batches = true) :
    ∃ batch ∈ batches, batch.id = batchId ∧ batch.status = .pending := by
  simpa [hasPending] using pending

end

namespace Scheduler

variable {state after : Scheduler} {index : ℕ}

def ChunksOnce (state : Scheduler) : Prop :=
  (state.published.map ChunkTask.key).Nodup

def ResetsUntouched (state : Scheduler) (label : DispatchLabel) (_after : Scheduler) : Prop :=
  ∀ index batch, label = .handle index → (state.runs index).stage = .resetting batch →
    Untouched state.published batch.id

/-- An exception that makes the batch pending again comes with the first chunk, and this chunk
has not reached the broker. -/
def FailsFirst (state : Scheduler) : DispatchLabel → Prop
  | .publish index reaches raised =>
      raised = some .other → ∀ batch sent rest,
        (state.runs index).stage = .publishing batch sent rest → reaches = false ∧ sent = 0
  | _ => True

/-- What every step keeps: a batch that is pending is held by no run, and one that is held is
held by one run, which knows what has been published. -/
structure Exclusive (state : Scheduler) : Prop where
  old : ∀ batch ∈ state.batches, batch.id < state.nextId
  heldOld : ∀ index batchId, (state.runs index).stage.holds = some batchId →
    batchId < state.nextId
  publishedOld : ∀ task ∈ state.published, task.batchId < state.nextId
  free : ∀ batchId, hasPending batchId state.batches = true →
    Untouched state.published batchId ∧
      ∀ index, (state.runs index).stage.holds ≠ some batchId
  single : ∀ first second batchId, (state.runs first).stage.holds = some batchId →
    (state.runs second).stage.holds = some batchId → first = second
  fits : ∀ index, StageFits state.published (state.runs index).stage
  once : state.ChunksOnce

namespace Exclusive

theorem advance (inv : state.Exclusive) {run : DispatchRun}
    (runs : after.runs = Function.update state.runs index run)
    (published : after.published = state.published)
    (holds : run.stage.holds = none ∨ run.stage.holds = (state.runs index).stage.holds)
    (fits : StageFits state.published run.stage)
    (nextId : state.nextId ≤ after.nextId)
    (old : ∀ batch ∈ after.batches, batch.id < after.nextId)
    (pending : ∀ batchId, hasPending batchId after.batches = true → batchId < state.nextId →
      hasPending batchId state.batches = true) : after.Exclusive := by
  have held : ∀ other batchId, (after.runs other).stage.holds = some batchId →
      (state.runs other).stage.holds = some batchId := by
    intro other batchId isHeld
    rw [runs] at isHeld
    by_cases isIndex : other = index
    · subst other
      rw [Function.update_self] at isHeld
      rcases holds with none | same
      · rw [none] at isHeld
        cases isHeld
      · rw [← same]
        exact isHeld
    · rwa [Function.update_of_ne isIndex] at isHeld
  refine ⟨old, ?_, ?_, ?_, ?_, ?_, ?_⟩
  · intro other batchId isHeld
    exact Nat.lt_of_lt_of_le (inv.heldOld other batchId (held other batchId isHeld)) nextId
  · intro task member
    rw [published] at member
    exact Nat.lt_of_lt_of_le (inv.publishedOld task member) nextId
  · intro batchId isPending
    rw [published]
    by_cases isOld : batchId < state.nextId
    · rcases inv.free batchId (pending batchId isPending isOld) with ⟨untouched, unheld⟩
      exact ⟨untouched, fun other isHeld => unheld other (held other batchId isHeld)⟩
    · refine ⟨fun task member same => ?_, fun other isHeld => ?_⟩
      · exact isOld (same ▸ inv.publishedOld task member)
      · exact isOld (inv.heldOld other batchId (held other batchId isHeld))
  · intro first second batchId heldFirst heldSecond
    exact inv.single first second batchId (held first batchId heldFirst)
      (held second batchId heldSecond)
  · intro other
    rw [published, runs]
    by_cases isIndex : other = index
    · subst other
      rwa [Function.update_self]
    · rw [Function.update_of_ne isIndex]
      exact inv.fits other
  · unfold ChunksOnce
    rw [published]
    exact inv.once

theorem setRun (inv : state.Exclusive) {run : DispatchRun}
    (holds : run.stage.holds = none ∨ run.stage.holds = (state.runs index).stage.holds)
    (fits : StageFits state.published run.stage) : (state.setRun index run).Exclusive :=
  inv.advance rfl rfl holds fits (Nat.le_refl _) inv.old fun _ isPending _ => isPending

theorem release (inv : state.Exclusive) {stage : DispatchStage} (free : stage.holds = none) :
    (state.setStage index stage).Exclusive :=
  inv.setRun (Or.inl free) (stageFits_of_holds_none free)

theorem claim (inv : state.Exclusive) {batch : ScheduledBatch} {run : DispatchRun}
    (isReading : run.stage = .reading batch)
    (isPending : hasPending batch.id state.batches = true) :
    ({ state.setRun index run with
      batches := claimBatch batch.id state.batches } : Scheduler).Exclusive := by
  rcases inv.free batch.id isPending with ⟨untouched, free⟩
  have pending : ∀ batchId, hasPending batchId (claimBatch batch.id state.batches) = true →
      batchId ≠ batch.id ∧ hasPending batchId state.batches = true := by
    intro batchId claimed
    rcases exists_of_hasPending claimed with ⟨row, member, rfl, stays⟩
    rcases List.mem_map.mp member with ⟨before, inBatches, rfl⟩
    split at stays
    · cases stays
    · rename_i other
      rw [if_neg other]
      exact ⟨fun same => other ⟨same, stays⟩, hasPending_of_mem inBatches stays⟩
  have held : ∀ other batchId,
      ((Function.update state.runs index run) other).stage.holds = some batchId →
        (other = index ∧ batchId = batch.id) ∨
          (state.runs other).stage.holds = some batchId := by
    intro other batchId isHeld
    by_cases isIndex : other = index
    · subst other
      rw [Function.update_self, isReading] at isHeld
      exact Or.inl ⟨rfl, (Option.some.inj isHeld).symm⟩
    · rw [Function.update_of_ne isIndex] at isHeld
      exact Or.inr isHeld
  refine ⟨?_, ?_, inv.publishedOld, ?_, ?_, ?_, inv.once⟩
  · intro row member
    rcases List.mem_map.mp member with ⟨before, inBatches, rfl⟩
    have isOld := inv.old before inBatches
    split
    · exact isOld
    · exact isOld
  · intro other batchId isHeld
    rcases held other batchId isHeld with ⟨_, rfl⟩ | before
    · rcases exists_of_hasPending isPending with ⟨row, member, same, _⟩
      rw [← same]
      exact inv.old row member
    · exact inv.heldOld other batchId before
  · intro batchId isFree
    rcases pending batchId isFree with ⟨differs, before⟩
    rcases inv.free batchId before with ⟨clean, unheldBefore⟩
    refine ⟨clean, ?_⟩
    intro other isHeld
    rcases held other batchId isHeld with ⟨_, same⟩ | earlier
    · exact differs same
    · exact unheldBefore other earlier
  · intro first second batchId heldFirst heldSecond
    rcases held first batchId heldFirst with ⟨isFirst, rfl⟩ | beforeFirst
    · rcases held second batch.id heldSecond with ⟨isSecond, _⟩ | beforeSecond
      · rw [isFirst, isSecond]
      · exact absurd beforeSecond (free second)
    · rcases held second batchId heldSecond with ⟨_, rfl⟩ | beforeSecond
      · exact absurd beforeFirst (free first)
      · exact inv.single first second batchId beforeFirst beforeSecond
  · intro other
    by_cases isIndex : other = index
    · subst other
      simp only [Scheduler.setRun, Function.update_self, isReading]
      exact untouched
    · simp only [Scheduler.setRun, Function.update_of_ne isIndex]
      exact inv.fits other

theorem pending_updateBatch {batches : List ScheduledBatch} {target batchId : ℕ}
    {change : ScheduledBatch → ScheduledBatch} (sameId : ∀ batch, (change batch).id = batch.id)
    (isPending : hasPending batchId (updateBatch target change batches) = true) :
    (batchId = target ∧ ∃ batch ∈ batches, (change batch).status = .pending) ∨
      hasPending batchId batches = true := by
  rcases exists_of_hasPending isPending with ⟨row, member, rfl, pending⟩
  rcases List.mem_map.mp member with ⟨before, inBatches, rfl⟩
  split at pending
  · rename_i isTarget
    rw [if_pos isTarget, sameId, isTarget]
    exact Or.inl ⟨rfl, before, inBatches, pending⟩
  · rename_i isOther
    rw [if_neg isOther]
    exact Or.inr (hasPending_of_mem inBatches pending)

theorem old_updateBatch (inv : state.Exclusive) {target : ℕ}
    {change : ScheduledBatch → ScheduledBatch} (sameId : ∀ batch, (change batch).id = batch.id) :
    ∀ batch ∈ updateBatch target change state.batches, batch.id < state.nextId := by
  intro row member
  rcases List.mem_map.mp member with ⟨before, inBatches, rfl⟩
  have isOld := inv.old before inBatches
  split
  · rw [sameId]
    exact isOld
  · exact isOld

theorem reset (inv : state.Exclusive) {batch : ScheduledBatch}
    (resetting : (state.runs index).stage = .resetting batch) :
    ({ state.setStage index .looping with
      batches := updateBatch batch.id (fun row => { row with status := .pending })
        state.batches } : Scheduler).Exclusive := by
  have untouched : Untouched state.published batch.id := by
    have fits := inv.fits index
    rwa [resetting] at fits
  have released : (state.setStage index .looping).Exclusive := inv.release rfl
  have sameId : ∀ row : ScheduledBatch, ({ row with status := .pending } : ScheduledBatch).id =
      row.id := fun _ => rfl
  refine ⟨old_updateBatch inv sameId, released.heldOld, released.publishedOld, ?_,
    released.single, released.fits, released.once⟩
  intro batchId isPending
  rcases pending_updateBatch sameId isPending with ⟨rfl, _⟩ | before
  · refine ⟨untouched, ?_⟩
    intro other isHeld
    by_cases isIndex : other = index
    · subst other
      simp only [setStage, Scheduler.setRun, Function.update_self] at isHeld
      cases isHeld
    · simp only [setStage, Scheduler.setRun, Function.update_of_ne isIndex] at isHeld
      exact isIndex (inv.single other index batch.id isHeld (by rw [resetting]; rfl))
  · exact released.free batchId before

theorem fail (inv : state.Exclusive) (batch : ScheduledBatch) (errorMessage : Option String) :
    ({ state.setStage index .looping with
      batches := updateBatch batch.id
        (fun row => { row with status := .failed, errorMessage := errorMessage })
        state.batches } : Scheduler).Exclusive := by
  have sameId : ∀ row : ScheduledBatch,
      ({ row with status := .failed, errorMessage := errorMessage } : ScheduledBatch).id =
        row.id := fun _ => rfl
  refine inv.advance rfl rfl (Or.inl rfl) trivial (Nat.le_refl _) (old_updateBatch inv sameId) ?_
  intro batchId isPending _
  rcases pending_updateBatch sameId isPending with ⟨_, row, _, pending⟩ | before
  · cases pending
  · exact before

theorem reach (inv : state.Exclusive) {task : ChunkTask} {stage : DispatchStage}
    (isHeld : (state.runs index).stage.holds = some task.batchId)
    (once : ((state.published ++ [task]).map ChunkTask.key).Nodup)
    (holds : stage.holds = none ∨ stage.holds = (state.runs index).stage.holds)
    (fits : StageFits (state.published ++ [task]) stage) :
    ((state.reach task true).setStage index stage).Exclusive := by
  have held : ∀ other batchId,
      (((state.reach task true).setStage index stage).runs other).stage.holds = some batchId →
        (state.runs other).stage.holds = some batchId := by
    intro other batchId after
    by_cases isIndex : other = index
    · subst other
      simp only [setStage, Scheduler.setRun, Scheduler.reach, if_true, Function.update_self] at after
      rcases holds with none | same
      · rw [none] at after
        cases after
      · rwa [← same]
    · simpa only [setStage, Scheduler.setRun, Scheduler.reach, if_true,
        Function.update_of_ne isIndex] using after
  refine ⟨inv.old, ?_, ?_, ?_, ?_, ?_, once⟩
  · intro other batchId after
    exact inv.heldOld other batchId (held other batchId after)
  · intro entry member
    rcases List.mem_append.mp member with before | new
    · exact inv.publishedOld entry before
    · rw [List.mem_singleton.mp new]
      exact inv.heldOld index task.batchId isHeld
  · intro batchId isPending
    rcases inv.free batchId isPending with ⟨untouched, unheld⟩
    refine ⟨Untouched.append untouched fun same => unheld index (same ▸ isHeld), ?_⟩
    intro other after
    exact unheld other (held other batchId after)
  · intro first second batchId heldFirst heldSecond
    exact inv.single first second batchId (held first batchId heldFirst)
      (held second batchId heldSecond)
  · intro other
    by_cases isIndex : other = index
    · subst other
      simpa only [setStage, Scheduler.setRun, Scheduler.reach, if_true, Function.update_self]
        using fits
    · have before := inv.fits other
      simp only [setStage, Scheduler.setRun, Scheduler.reach, if_true,
        Function.update_of_ne isIndex]
      exact before.append (fun same => isIndex (inv.single other index _ same isHeld)) once

theorem publish (inv : state.Exclusive) {batch : ScheduledBatch} {sent : ℕ} {task : ChunkTask}
    {rest : List ChunkTask} {reaches : Bool} {raised : Option DispatchError}
    (publishing : (state.runs index).stage = .publishing batch sent (task :: rest))
    (answered : ¬(reaches = false ∧ raised = none))
    (first : raised = some .other → reaches = false ∧ sent = 0) :
    ((state.reach task reaches).setStage index
      (afterPublish batch sent rest raised)).Exclusive := by
  have fits := inv.fits index
  rw [publishing] at fits
  rcases fits with ⟨remaining, untouched⟩
  have own : task.batchId = batch.id := remaining.1 task List.mem_cons_self
  have isHeld : (state.runs index).stage.holds = some task.batchId := by
    rw [publishing, own]
    rfl
  cases reaches with
  | true =>
      refine inv.reach isHeld remaining.once ?_ ?_
      · cases raised with
        | none => exact Or.inr (by rw [publishing]; rfl)
        | some error =>
            cases error with
            | fileNotFound text => exact Or.inl rfl
            | other => cases (first rfl).1
      · cases raised with
        | none => exact ⟨remaining.tail, by simp⟩
        | some error =>
            cases error with
            | fileNotFound text => trivial
            | other => cases (first rfl).1
  | false =>
      have kept : state.reach task false = state := rfl
      rw [kept]
      cases raised with
      | none => exact absurd ⟨rfl, rfl⟩ answered
      | some error =>
          cases error with
          | fileNotFound text => exact inv.release rfl
          | other => exact inv.setRun (Or.inr (by rw [publishing]; rfl)) (untouched (first rfl).2)

theorem publishOrphaned (inv : state.Exclusive) {batch : ScheduledBatch} {task : ChunkTask}
    {rest : List ChunkTask} {reaches : Bool} {raised : Option DispatchError}
    (orphaned : (state.runs index).stage = .orphaned batch (task :: rest))
    (answered : ¬(reaches = false ∧ raised = none)) :
    ((state.reach task reaches).setStage index
      (if raised = none then .orphaned batch rest else .ended)).Exclusive := by
  have remaining : Remaining state.published batch.id (task :: rest) := by
    have fits := inv.fits index
    rwa [orphaned] at fits
  have own : task.batchId = batch.id := remaining.1 task List.mem_cons_self
  have isHeld : (state.runs index).stage.holds = some task.batchId := by
    rw [orphaned, own]
    rfl
  cases reaches with
  | true =>
      refine inv.reach isHeld remaining.once ?_ ?_
      · split
        · exact Or.inr (by rw [orphaned]; rfl)
        · exact Or.inl rfl
      · split
        · exact remaining.tail
        · trivial
  | false =>
      have kept : state.reach task false = state := rfl
      rw [kept, if_neg fun none => answered ⟨rfl, none⟩]
      exact inv.release rfl

theorem read (inv : state.Exclusive) {batch : ScheduledBatch} {raised : Option DispatchError}
    (reading : (state.runs index).stage = .reading batch) :
    (state.read index batch raised).Exclusive := by
  have untouched : Untouched state.published batch.id := by
    have fits := inv.fits index
    rwa [reading] at fits
  have holds : (state.runs index).stage.holds = some batch.id := by
    rw [reading]
    rfl
  unfold Scheduler.read
  simp only
  split
  · exact inv.release rfl
  · exact inv.release rfl
  · exact inv.setRun (Or.inr holds.symm) untouched
  · exact inv.setRun (Or.inr holds.symm) untouched
  · split
    · exact inv.setRun (Or.inr holds.symm) untouched
    · rename_i planned
      exact inv.setRun (Or.inr holds.symm)
        ⟨remaining_enqueueScheduledChunks inv.once untouched planned, fun _ => untouched⟩

theorem claimNext (inv : state.Exclusive) (batch : ScheduledBatch) (due : List ScheduledBatch) :
    (state.claim index batch due).Exclusive := by
  have passed : (state.setRun index { state.runs index with due := due }).Exclusive :=
    inv.setRun (Or.inr rfl) (inv.fits index)
  unfold Scheduler.claim
  simp only
  split
  · split
    · rename_i isPending
      exact inv.claim rfl isPending
    · exact passed
  · exact passed

theorem others (inv : state.Exclusive) {batches : List ScheduledBatch}
    {files : String → Option PayloadFile} {nextId : ℕ} (later : state.nextId ≤ nextId)
    (written : ∀ batch ∈ batches, batch.id < nextId ∧
      (batch.status = .pending → batch.id < state.nextId →
        hasPending batch.id state.batches = true)) :
    ({ state with batches := batches, files := files, nextId := nextId } :
      Scheduler).Exclusive := by
  have same : state.runs = Function.update state.runs 0 (state.runs 0) :=
    (Function.update_eq_self 0 state.runs).symm
  refine inv.advance same rfl (Or.inr rfl) (inv.fits 0) later
    (fun batch member => (written batch member).1) ?_
  intro batchId isPending isOld
  rcases exists_of_hasPending isPending with ⟨row, member, rfl, pending⟩
  exact (written row member).2 pending isOld

theorem next {label : DispatchLabel} (inv : state.Exclusive) (step : state.next label = some after)
    (first : state.FailsFirst label) : after.Exclusive := by
  cases label with
  | start now =>
      cases step
      exact inv.advance rfl rfl (Or.inl rfl) trivial (Nat.le_refl _) inv.old
        fun _ isPending _ => isPending
  | claim index =>
      simp only [Scheduler.next] at step
      split at step
      · cases step
        exact inv.release rfl
      · cases step
        exact inv.claimNext _ _
      · cases step
  | read index raised =>
      simp only [Scheduler.next] at step
      split at step
      · rename_i reading
        cases step
        exact inv.read reading
      · cases step
  | publish index reaches raised =>
      simp only [Scheduler.next, Option.ite_none_left_eq_some] at step
      rcases step with ⟨answered, step⟩
      split at step
      · rename_i publishing
        cases step
        exact inv.publish publishing answered fun isOther => first isOther _ _ _ publishing
      · rename_i orphaned
        cases step
        exact inv.publishOrphaned orphaned answered
      · cases step
  | finish index removes =>
      simp only [Scheduler.next] at step
      split at step
      · cases step
        exact inv.advance rfl rfl (Or.inl rfl) trivial (Nat.le_refl _) inv.old
          fun _ isPending _ => isPending
      · cases step
  | handle index =>
      simp only [Scheduler.next] at step
      split at step
      · cases step
        exact inv.fail _ _
      · rename_i resetting
        cases step
        exact inv.reset resetting
      · cases step
  | timeout index =>
      simp only [Scheduler.next] at step
      split at step
      · rename_i publishing
        cases step
        have fits := inv.fits index
        rw [publishing] at fits
        exact inv.setRun (Or.inr (by rw [publishing]; rfl)) fits.1
      · cases step
      · cases step
        exact inv.release rfl
  | kill index =>
      cases step
      exact inv.release rfl
  | others batches files nextId =>
      simp only [Scheduler.next, Option.ite_none_right_eq_some, Option.some.injEq] at step
      rcases step with ⟨⟨later, written⟩, rfl⟩
      exact inv.others later written

theorem resetsUntouched {label : DispatchLabel} (inv : state.Exclusive) :
    state.ResetsUntouched label after := by
  intro index batch _ resetting
  have fits := inv.fits index
  rwa [resetting] at fits

end Exclusive

structure Idle (state : Scheduler) : Prop where
  old : ∀ batch ∈ state.batches, batch.id < state.nextId
  unpublished : state.published = []
  unstarted : ∀ index, (state.runs index).stage = .ended

theorem Idle.exclusive (idle : state.Idle) : state.Exclusive where
  old := idle.old
  heldOld := fun index _ isHeld => by rw [idle.unstarted index] at isHeld; cases isHeld
  publishedOld := fun task member => by rw [idle.unpublished] at member; cases member
  free := by
    intro batchId _
    refine ⟨fun task member => ?_, fun index isHeld => ?_⟩
    · rw [idle.unpublished] at member
      cases member
    · rw [idle.unstarted index] at isHeld
      cases isHeld
  single := fun first _ _ isHeld => by rw [idle.unstarted first] at isHeld; cases isHeld
  fits := fun index => by rw [idle.unstarted index]; trivial
  once := by
    unfold ChunksOnce
    rw [idle.unpublished]
    exact List.nodup_nil

/-- In every run in which exceptions that make a batch pending again come before anything of it
has reached the broker, chunks are published at most once, and batches that are made pending
again have had none of theirs published. -/
theorem dispatched_once {transitions : List (Transition Scheduler DispatchLabel)}
    {start last : Scheduler} (idle : start.Idle) (run : Run Step start transitions last)
    (first : ∀ transition ∈ transitions, transition.before.FailsFirst transition.label) :
    last.ChunksOnce ∧ ∀ transition ∈ transitions,
      transition.before.ResetsUntouched transition.label transition.after := by
  have preserved : ∀ before label after, Guarded Step FailsFirst before label after →
      Exclusive before → Exclusive after :=
    fun _ _ _ guarded inv => inv.next guarded.1 guarded.2
  rcases (run.guarded first).invariant preserved idle.exclusive with ⟨atEnd, inside⟩
  exact ⟨atEnd.once, fun transition member => (inside transition member).1.resetsUntouched⟩

def claimedSeven : ScheduledBatch :=
  ⟨7, .pending, some 0, false, ⟨true, some "seven.json", some 1⟩, none⟩

def batchSeven : Scheduler where
  batches := [claimedSeven]
  files path :=
    if path = "seven.json" then
      some (.payload ⟨["+8613800138000", "+8613800138001"], "hello", [], some 1, none, 1⟩)
    else none
  nextId := 8
  published := []
  runCount := 0
  runs _ := ⟨[], .ended, 0, 0⟩

theorem batchSeven_idle : batchSeven.Idle where
  old := by decide
  unpublished := rfl
  unstarted := fun _ => rfl

/-- The first chunk is published and the second one is refused. The batch becomes pending again,
and the next beat publishes the first chunk a second time. -/
theorem chunk_published_twice :
    ∃ transitions last, Run Step batchSeven transitions last ∧ ¬last.ChunksOnce ∧
      ¬∀ transition ∈ transitions,
        transition.before.ResetsUntouched transition.label transition.after := by
  have passed : (execute next batchSeven [.start 0, .claim 0, .read 0 none, .publish 0 true none,
      .publish 0 false (some .other), .handle 0, .start 1, .claim 1, .read 1 none,
      .publish 1 true none]).any (fun outcome =>
        decide (¬(outcome.2.published.map ChunkTask.key).Nodup ∧
          ∃ transition ∈ outcome.1, transition.label.handled = some 0 ∧
            (transition.before.runs 0).stage = .resetting claimedSeven ∧
            ∃ task ∈ transition.before.published, task.batchId = 7)) = true := by
    decide +kernel
  rcases Run.exists_of_execute _ passed with ⟨transitions, last, run, checked⟩
  rcases of_decide_eq_true checked with
    ⟨twice, transition, member, handled, resetting, task, published, own⟩
  refine ⟨transitions, last, run, twice, ?_⟩
  intro untouched
  have label : transition.label = .handle 0 := by
    cases isLabel : transition.label <;> simp [isLabel, DispatchLabel.handled] at handled ⊢
    exact handled
  exact untouched transition member 0 claimedSeven label resetting task published own

/-- Both chunks of the batch are published. -/
theorem dispatched_once_seven :
    ∃ transitions last, Run Step batchSeven transitions last ∧
      last.published.map ChunkTask.key = [(7, 0), (7, 1)] ∧ last.ChunksOnce := by
  have sent := Run.exists_labels_of_execute
    (fun state : Scheduler => state.published.map ChunkTask.key = [(7, 0), (7, 1)])
    (show ((execute next batchSeven [.start 0, .claim 0, .read 0 none, .publish 0 true none,
      .publish 0 true none, .finish 0 true, .claim 0]).any _) = true by decide +kernel)
  rcases sent with ⟨transitions, last, run, labels, published⟩
  refine ⟨transitions, last, run, published, (dispatched_once batchSeven_idle run ?_).1⟩
  intro transition member
  have label := labels transition member
  simp only [List.mem_cons, List.not_mem_nil, or_false] at label
  rcases label with label | label | label | label | label | label | label <;> rw [label]
  case' inr.inr.inr.inl | inr.inr.inr.inr.inl => exact fun isOther => nomatch isOther
  all_goals trivial

end Scheduler

end Klsmsc
