import Klsmsc.Library.Runs
import Klsmsc.Resend
import Klsmsc.Scheduled

/-!
# Large batches

The asynchronous path of `send_batch_sms`, which takes the requests of more than ten numbers that
are to be sent at once. The handler has flushed the row of the batch. A thread publishes a task for
every chunk of the numbers, the numbers from the private library are marked as used, and the
transaction is committed; `get_db` rolls it back when any of this raises. Nothing of the
transaction is seen by others before that, but a worker can take a chunk as soon as it has been
published.

Here are one request and the workers that take its chunks. An `apply_async` that raises may have
reached the broker all the same, and a commit that raises may be durable.
-/

namespace Klsmsc

open Library

structure LargeBatchRequest where
  batchId : ℕ
  accountId : ℕ
  phoneNumbers : List String
  message : String
  rotMessages : List String
  channelId : Option ℕ
  senderId : Option String
  privateLibraryNumbers : List String
  large : 10 < phoneNumbers.length

inductive LargeBatchStage where
  | publishing (rest : List ChunkTask)
  | marking (rest : List (List String))
  | answered
  | failed
  deriving DecidableEq, Repr

/-- The handler, the row of its batch as others see it, the tasks that have reached the broker,
and the tasks that workers have executed, with the status of the batch that each has found. -/
structure LargeBatch where
  stage : LargeBatchStage
  committed : Bool
  published : List ChunkTask
  executed : List (ChunkTask × Option BatchStatus)
  deriving DecidableEq, Repr

/-- The steps of the handler, and of a worker that takes a chunk. Once the row is committed,
others may have given it any status. -/
inductive LargeBatchLabel where
  | publish (reaches raises : Bool)
  | mark (raises : Bool)
  | commit (outcome : CommitOutcome)
  | execute (task : ChunkTask) (status : BatchStatus)
  deriving DecidableEq, Repr

/-- `CHUNK_SIZE`. -/
def largeChunkSize : ℕ := 2000

/-- The number of rows that one UPDATE of `_mark_private_library_used` looks for (`BATCH_SZ`). -/
def markSize : ℕ := 2000

def CommitOutcome.durable : CommitOutcome → Bool
  | .done => true
  | .refused _ => false
  | .unanswered _ => true

namespace LargeBatchRequest

variable (request : LargeBatchRequest)

def chunkTask (turn : ℕ) : ChunkTask where
  batchId := request.batchId
  accountId := request.accountId
  chunk := (request.phoneNumbers.drop (turn * largeChunkSize)).take largeChunkSize
  message := request.message
  rotMessages := request.rotMessages
  offset := turn * largeChunkSize
  channelId := request.channelId
  senderId := request.senderId
  countdown := turn

/-- The tasks that `_enqueue_all_batch_chunks` publishes. -/
def enqueueAllBatchChunks : List ChunkTask :=
  (List.range ((request.phoneNumbers.length + largeChunkSize - 1) / largeChunkSize)).map
    request.chunkTask

/-- The slices of the numbers that `_mark_private_library_used` marks one after the other. -/
def marks : List (List String) :=
  slices markSize request.privateLibraryNumbers

end LargeBatchRequest

namespace LargeBatch

variable (request : LargeBatchRequest) (state : LargeBatch)

def start : LargeBatch where
  stage := .publishing request.enqueueAllBatchChunks
  committed := false
  published := []
  executed := []

def statusSeen (status : BatchStatus) : Option BatchStatus :=
  if state.committed then some status else none

def reach (task : ChunkTask) (reaches : Bool) : List ChunkTask :=
  if reaches then state.published ++ [task] else state.published

def afterPublish (rest : List ChunkTask) : LargeBatchStage :=
  if rest = [] then .marking request.marks else .publishing rest

def next : LargeBatchLabel → Option LargeBatch
  | .publish reaches raises =>
      match state.stage with
      | .publishing (task :: rest) =>
          if raises then
            some { state with stage := .failed, published := state.reach task reaches }
          else if reaches then
            some
              { state with
                stage := afterPublish request rest
                published := state.reach task reaches }
          else none
      | _ => none
  | .mark raises =>
      match state.stage with
      | .marking (_ :: rest) =>
          some { state with stage := if raises then .failed else .marking rest }
      | _ => none
  | .commit outcome =>
      match state.stage with
      | .marking [] =>
          some
            { state with
              stage := if outcome = .done then .answered else .failed
              committed := outcome.durable }
      | _ => none
  | .execute task status =>
      if task ∈ state.published then
        if (state.statusSeen status).any BatchStatus.stopped then some state
        else some { state with executed := state.executed ++ [(task, state.statusSeen status)] }
      else none

def Step (before : LargeBatch) (label : LargeBatchLabel) (after : LargeBatch) : Prop :=
  before.next request label = some after

inductive Performs (request : LargeBatchRequest) (state : LargeBatch) :
    LargeBatchLabel → LargeBatch → Prop where
  | publish {task : ChunkTask} {rest : List ChunkTask}
      (publishing : state.stage = .publishing (task :: rest)) :
      Performs request state (.publish true false)
        { state with
          stage := afterPublish request rest
          published := state.reach task true }
  | publishRaises {task : ChunkTask} {rest : List ChunkTask} {reaches : Bool}
      (publishing : state.stage = .publishing (task :: rest)) :
      Performs request state (.publish reaches true)
        { state with stage := .failed, published := state.reach task reaches }
  | mark {slice : List String} {rest : List (List String)}
      (marking : state.stage = .marking (slice :: rest)) :
      Performs request state (.mark false) { state with stage := .marking rest }
  | markRaises {slice : List String} {rest : List (List String)}
      (marking : state.stage = .marking (slice :: rest)) :
      Performs request state (.mark true) { state with stage := .failed }
  | commit {outcome : CommitOutcome} (marked : state.stage = .marking []) :
      Performs request state (.commit outcome)
        { state with
          stage := if outcome = .done then .answered else .failed
          committed := outcome.durable }
  | passOver {task : ChunkTask} {status : BatchStatus} (published : task ∈ state.published)
      (stopped : (state.statusSeen status).any BatchStatus.stopped = true) :
      Performs request state (.execute task status) state
  | execute {task : ChunkTask} {status : BatchStatus} (published : task ∈ state.published)
      (going : ¬(state.statusSeen status).any BatchStatus.stopped = true) :
      Performs request state (.execute task status)
        { state with executed := state.executed ++ [(task, state.statusSeen status)] }

theorem performs_of_step {request : LargeBatchRequest} {state after : LargeBatch}
    {label : LargeBatchLabel} (step : state.Step request label after) :
    state.Performs request label after := by
  unfold Step at step
  cases label with
  | publish reaches raises =>
      simp only [next] at step
      split at step
      · rename_i publishing
        split at step
        · rename_i raised
          subst raised
          rw [← Option.some.inj step]
          exact .publishRaises publishing
        · rename_i notRaised
          split at step
          · rename_i reached
            subst reached
            obtain rfl := Bool.eq_false_iff.mpr notRaised
            rw [← Option.some.inj step]
            exact .publish publishing
          · cases step
      · cases step
  | mark raises =>
      simp only [next] at step
      split at step
      · rename_i marking
        rw [← Option.some.inj step]
        cases raises with
        | true => exact .markRaises marking
        | false => exact .mark marking
      · cases step
  | commit outcome =>
      simp only [next] at step
      split at step
      · rename_i marked
        rw [← Option.some.inj step]
        exact .commit marked
      · cases step
  | execute task status =>
      simp only [next] at step
      split at step
      · rename_i published
        split at step
        · rename_i stopped
          rw [← Option.some.inj step]
          exact .passOver published stopped
        · rename_i going
          rw [← Option.some.inj step]
          exact .execute published going
      · cases step

def sliceTasks : List ChunkTask :=
  (slices largeChunkSize request.phoneNumbers).zipIdx.map fun slice =>
    { request.chunkTask slice.2 with chunk := slice.1 }

def Ended : Prop :=
  state.stage = .answered ∨ state.stage = .failed

/-- Publishing the chunks and committing the batch are one step: both have happened, or the
request has failed without either; and no chunk is executed before the batch is committed. -/
structure OneStep : Prop where
  together : state.Ended → (state.committed = true ∧ state.published = sliceTasks request) ∨
    (state.stage = .failed ∧ state.published = [])
  executed : ∀ entry ∈ state.executed, entry.2.isSome = true

/-- Nothing is raised between the first chunk that reaches the broker and the commit, and no
worker takes a chunk in between. -/
def InOrder : LargeBatchLabel → Prop
  | .publish reaches raises => raises = true → state.published = [] ∧ reaches = false
  | .mark raises => raises = false
  | .commit outcome => outcome.durable = true
  | .execute _ _ => state.committed = true

def Progress : Prop :=
  match state.stage with
  | .publishing rest =>
      rest ≠ [] ∧ state.published ++ rest = request.enqueueAllBatchChunks ∧
        state.committed = false
  | .marking _ => state.published = request.enqueueAllBatchChunks ∧ state.committed = false
  | .answered => state.published = request.enqueueAllBatchChunks ∧ state.committed = true
  | .failed => True

section

variable {request state} {after : LargeBatch} {label : LargeBatchLabel}

theorem enqueueAllBatchChunks_eq (request : LargeBatchRequest) :
    request.enqueueAllBatchChunks = sliceTasks request := by
  unfold LargeBatchRequest.enqueueAllBatchChunks sliceTasks
  rw [slices_eq_map_range (by decide), List.zipIdx_map, List.map_map]
  apply List.ext_getElem
  · simp
  · intro index _ _
    simp [LargeBatchRequest.chunkTask]

theorem enqueueAllBatchChunks_ne_nil (request : LargeBatchRequest) :
    request.enqueueAllBatchChunks ≠ [] := by
  have large := request.large
  have one : 0 < (request.phoneNumbers.length + largeChunkSize - 1) / largeChunkSize := by
    unfold largeChunkSize
    omega
  intro none
  have counted := congrArg List.length none
  simp only [LargeBatchRequest.enqueueAllBatchChunks, List.length_map, List.length_range,
    List.length_nil] at counted
  omega

theorem progress_start (request : LargeBatchRequest) : (start request).Progress request :=
  ⟨enqueueAllBatchChunks_ne_nil request, rfl, rfl⟩

theorem progress_next (progress : state.Progress request) (step : state.Step request label after) :
    after.Progress request := by
  cases performs_of_step step with
  | @publish task rest publishing =>
      simp only [Progress, publishing] at progress
      rcases progress with ⟨-, published, uncommitted⟩
      simp only [afterPublish]
      split
      · rename_i nothing
        simp only [Progress, reach, if_true]
        rw [nothing] at published
        exact ⟨published, uncommitted⟩
      · rename_i more
        simp only [Progress, reach, if_true]
        exact ⟨more, by rw [← published]; simp, uncommitted⟩
  | publishRaises => trivial
  | mark marking =>
      simp only [Progress, marking] at progress
      exact progress
  | markRaises => trivial
  | @commit outcome marked =>
      simp only [Progress, marked] at progress
      cases outcome with
      | done => exact ⟨progress.1, rfl⟩
      | refused text => trivial
      | unanswered text => trivial
  | passOver => exact progress
  | execute => exact progress

theorem inOrder_of_oneStep (progress : state.Progress request)
    (step : state.Step request label after) (oneStep : after.OneStep request) :
    state.InOrder label := by
  have chunks := enqueueAllBatchChunks_ne_nil request
  cases performs_of_step step with
  | publish => exact fun raised => absurd raised Bool.false_ne_true
  | @publishRaises _ _ reaches publishing =>
      simp only [Progress, publishing] at progress
      intro _
      rcases oneStep.together (.inr rfl) with ⟨committed, -⟩ | ⟨-, unpublished⟩
      · rw [progress.2.2] at committed
        cases committed
      · cases reaches with
        | true => simp [reach] at unpublished
        | false => exact ⟨unpublished, rfl⟩
  | mark => rfl
  | markRaises marking =>
      simp only [Progress, marking] at progress
      rcases oneStep.together (.inr rfl) with ⟨committed, -⟩ | ⟨-, unpublished⟩
      · rw [progress.2] at committed
        cases committed
      · rw [progress.1] at unpublished
        exact absurd unpublished chunks
  | @commit outcome marked =>
      simp only [Progress, marked] at progress
      have isEnded : Ended
          { state with
            stage := if outcome = .done then .answered else .failed
            committed := outcome.durable } := by
        by_cases done : outcome = .done
        · exact .inl (if_pos done)
        · exact .inr (if_neg done)
      rcases oneStep.together isEnded with ⟨committed, -⟩ | ⟨-, unpublished⟩
      · exact committed
      · rw [progress.1] at unpublished
        exact absurd unpublished chunks
  | @passOver _ status _ stopped =>
      by_contra uncommitted
      have unseen : state.statusSeen status = none := if_neg uncommitted
      rw [unseen] at stopped
      cases stopped
  | @execute task status =>
      by_contra uncommitted
      have unseen : state.statusSeen status = none := if_neg uncommitted
      have seen := oneStep.executed (task, state.statusSeen status) (by simp)
      rw [unseen] at seen
      cases seen

theorem oneStep_of_inOrder (progress : state.Progress request) (oneStep : state.OneStep request)
    (step : state.Step request label after) (inOrder : state.InOrder label) :
    after.OneStep request := by
  have chunks := enqueueAllBatchChunks_eq request
  cases performs_of_step step with
  | publish =>
      refine ⟨?_, oneStep.executed⟩
      intro isEnded
      simp only [Ended, afterPublish] at isEnded
      split at isEnded <;> simp at isEnded
  | publishRaises =>
      rcases inOrder rfl with ⟨unpublished, rfl⟩
      exact ⟨fun _ => .inr ⟨rfl, unpublished⟩, oneStep.executed⟩
  | mark =>
      refine ⟨?_, oneStep.executed⟩
      intro isEnded
      simp [Ended] at isEnded
  | markRaises => cases inOrder
  | commit marked =>
      simp only [Progress, marked] at progress
      exact ⟨fun _ => .inl ⟨inOrder, progress.1.trans chunks⟩, oneStep.executed⟩
  | passOver => exact oneStep
  | execute =>
      refine ⟨oneStep.together, ?_⟩
      intro entry member
      rcases List.mem_append.mp member with earlier | isNew
      · exact oneStep.executed entry earlier
      · have committed : state.committed = true := inOrder
        rw [List.mem_singleton.mp isNew, statusSeen, if_pos committed]
        rfl

end

theorem oneStep_start (request : LargeBatchRequest) : (start request).OneStep request where
  together := by
    rintro (isEnded | isEnded) <;> cases isEnded
  executed := by
    intro entry member
    cases member

/-- In a run, publishing the chunks and committing the batch stay one step if and only if nothing
is raised between the first chunk that reaches the broker and the commit, and no worker takes a
chunk in between. -/
theorem chunks_published_with_batch_iff {request : LargeBatchRequest} {last : LargeBatch}
    {transitions : List (Transition LargeBatch LargeBatchLabel)}
    (run : Run (Step request) (start request) transitions last) :
    (∀ transition ∈ transitions, transition.after.OneStep request) ↔
      ∀ transition ∈ transitions, transition.before.InOrder transition.label := by
  constructor
  · intro always transition member
    have progress := (run.invariant (fun _ _ _ step progress => progress_next progress step)
      (progress_start request)).2 transition member
    exact inOrder_of_oneStep progress.1 (run.step_of_mem member) (always transition member)
  · intro inOrder transition member
    have preserved : ∀ before label after, Guarded (Step request) InOrder before label after →
        before.Progress request ∧ before.OneStep request →
          after.Progress request ∧ after.OneStep request := by
      rintro before label after ⟨step, ordered⟩ ⟨progress, oneStep⟩
      exact ⟨progress_next progress step, oneStep_of_inOrder progress oneStep step ordered⟩
    have inside := ((run.guarded inOrder).invariant preserved
      ⟨progress_start request, oneStep_start request⟩).2 transition member
    exact inside.2.2

def elevenNumbers : LargeBatchRequest where
  batchId := 1
  accountId := 1
  phoneNumbers := List.replicate 11 "+8613800138000"
  message := "hello"
  rotMessages := []
  channelId := none
  senderId := none
  privateLibraryNumbers := []
  large := by decide

/-- The commit fails behind the published chunk, which a worker then executes without a batch. -/
theorem chunk_without_batch :
    ¬∀ (request : LargeBatchRequest) (last : LargeBatch)
        (transitions : List (Transition LargeBatch LargeBatchLabel)),
      Run (Step request) (start request) transitions last →
        ∀ transition ∈ transitions, transition.after.OneStep request := by
  intro always
  have lost := Run.exists_of_execute
    (fun outcome : List (Transition LargeBatch LargeBatchLabel) × LargeBatch =>
      decide (∃ transition ∈ outcome.1, ∃ entry ∈ transition.after.executed, entry.2 = none))
    (show (execute (LargeBatch.next elevenNumbers) (start elevenNumbers)
      [.publish true false, .commit (.refused "(2013)"),
        .execute (elevenNumbers.chunkTask 0) .processing]).any _ = true by decide)
  rcases lost with ⟨transitions, last, run, checked⟩
  rcases of_decide_eq_true checked with ⟨transition, member, entry, executed, unseen⟩
  have seen := (always elevenNumbers last transitions run transition member).executed entry executed
  rw [unseen] at seen
  cases seen

theorem chunks_published_with_batch_elevenNumbers :
    ∃ transitions last, Run (Step elevenNumbers) (start elevenNumbers) transitions last ∧
      last.stage = .answered ∧
      ((∀ transition ∈ transitions, transition.after.OneStep elevenNumbers) ↔
        ∀ transition ∈ transitions, transition.before.InOrder transition.label) := by
  have sent := Run.exists_labels_of_execute (fun state : LargeBatch => state.stage = .answered)
    (show (execute (LargeBatch.next elevenNumbers) (start elevenNumbers)
      [.publish true false, .commit .done,
        .execute (elevenNumbers.chunkTask 0) .processing]).any _ = true by decide)
  rcases sent with ⟨transitions, last, run, -, answered⟩
  exact ⟨transitions, last, run, answered, chunks_published_with_batch_iff run⟩

end LargeBatch

end Klsmsc
