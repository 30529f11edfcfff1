import Klsmsc.Chunk.HandedOver

/-!
# Undisturbed executions

When no statement raises, every phase of the worker comes to its end, and so does the
worker: the queue manager and the node still give whatever answer they like.
-/

namespace Klsmsc

open Library

def Faults.never : Faults := fun _ => none

@[simp]
theorem statement_never (site : Site) :
    Chunk.statement .never site = (pure () : Chunk Unit) := rfl

@[simp]
theorem flush_never (site : Site) :
    Chunk.flush .never site = (pure () : Chunk Unit) := rfl

@[simp]
theorem commit_never (site : Site) :
    Chunk.commit .never site =
      modify fun state => { state with committed := state.working } := rfl

section

variable (env : ChunkEnv) (input : ChunkInput) (batchStatus : String)

theorem commit_calm (site : Site) : Calm (Chunk.commit .never site) :=
  .modify _

theorem replaceAndCommit_calm (site : Site) (rows : List SmsLog) :
    Calm (replaceAndCommit env .never site rows) := by
  unfold replaceAndCommit replaceTrackUrlsForLogs
  simp only [flush_never, pure_bind, bind_assoc]
  refine .bind (.modify _) fun _ => ?_
  exact .ite (fun _ => .bind (commit_calm _) fun _ => .pure) fun _ => .pure

theorem refundAll_calm (slice : ℕ) (costs : List (MessageId × Money))
    (messageIds : List MessageId) : Calm (refundAll env .never slice costs messageIds) := by
  unfold refundAll refundSingle
  refine .forM fun messageId => .catching ?_
  simp only [statement_never, pure_bind]
  exact .ite (fun _ => .modify _) fun _ => .pure

theorem publish_calm (site : Site) (single : MessageId → Site) (payloads : List SmppPayload) :
    Calm (publish env .never site single payloads) := by
  unfold publish
  simp only [statement_never, pure_bind]
  refine .bind (.modify _) fun _ => .ite (fun _ => .modify _) fun _ => .forM fun _ => ?_
  exact .ite (fun _ => .modify _) fun _ => .modify _

theorem queueCommitBatchNodeRcs_calm (slice : ℕ) (messageIds : List MessageId) :
    Calm (queueCommitBatchNodeRcs env .never slice messageIds) := by
  unfold queueCommitBatchNodeRcs
  simp only [statement_never, pure_bind]
  refine .get_bind fun current => .ite (fun _ => .pure) fun _ => ?_
  refine .bind (replaceAndCommit_calm _ _ _) fun rows => .bind (.modify _) fun _ => ?_
  refine .bind (.catching .pure) fun answer => ?_
  cases answer with
  | error text =>
      refine .bind (.modify _) fun _ => .bind (commit_calm _) fun _ => ?_
      exact .bind (refundAll_calm _ _ _ _) fun _ => .pure
  | ok serial => exact .bind (.modify _) fun _ => .bind (commit_calm _) fun _ => .pure

theorem queueCommitBatch_calm (slice : ℕ) (channel : Channel)
    (commitBatch : List (MessageId × Money)) :
    Calm (queueCommitBatch env .never slice channel commitBatch batchStatus) := by
  unfold queueCommitBatch
  simp only [statement_never, pure_bind]
  refine .ite (fun _ => queueCommitBatchNodeRcs_calm _ _ _) fun _ => .ite (fun _ => ?_) fun _ => ?_
  · refine .get_bind fun current => .bind (replaceAndCommit_calm _ _ _) fun rows => ?_
    exact .bind (.modify _) fun _ => .pure
  · refine .bind (.modify _) fun _ => ?_
    exact .bind (refundAll_calm _ _ _ _) fun _ => .pure

theorem queueSliceSmpp_calm (slice : ℕ) (payloads : List SmppPayload) :
    Calm (queueSliceSmpp env .never slice payloads) :=
  .ite (fun _ => .pure) fun _ => publish_calm _ _ _ _

theorem queueSliceHttp_calm (slice : ℕ) (channel : Option Channel)
    (messageIds : List MessageId) :
    Calm (queueSliceHttp env .never slice channel messageIds) := by
  unfold queueSliceHttp
  simp only [statement_never, pure_bind]
  refine .ite (fun _ => .pure) fun _ => .ite (fun _ => ?_) fun _ => ?_
  · exact .bind (queueCommitBatchNodeRcs_calm _ _ _) fun _ => .modify _
  · exact .bind (.modify _) fun _ => .modify _

theorem queueGroup_calm (index : ℕ) (channel : Option Channel)
    (commitBatch : List (MessageId × Money)) :
    Calm (queueGroup env .never index channel batchStatus commitBatch) := by
  unfold queueGroup
  simp only [statement_never, pure_bind]
  refine .get_bind fun current => .ite (fun _ => .modify _) fun _ => .ite (fun _ => ?_) fun _ => ?_
  · refine .get_bind fun current => .bind (replaceAndCommit_calm _ _ _) fun rows => ?_
    exact publish_calm _ _ _ _
  · refine .forM fun messageId => .bind (.modify _) fun _ => ?_
    exact .ite (fun _ => .modify _) fun _ => .modify _

theorem commitGroup_calm (index : ℕ) (channel : Option Channel) :
    Calm (commitGroup env .never batchStatus index channel) := by
  unfold commitGroup
  simp only [flush_never, pure_bind]
  refine .bind (commit_calm _) fun _ => .get_bind fun current => ?_
  exact .bind (queueGroup_calm _ _ _ _ _) fun _ => .modify _

theorem storeCharged_calm (index : ℕ) (item : ValidItem) (total : Money) :
    Calm (storeCharged env .never input batchStatus index item total) := by
  unfold storeCharged
  simp only [flush_never, pure_bind]
  refine .bind (.modify _) fun _ => .bind (.modify _) fun _ => .bind (.modify _) fun _ => ?_
  exact .get_bind fun current => .ite (fun _ => commitGroup_calm _ _ _ _) fun _ => .pure

theorem calculateAndCharge_calm (index : ℕ) (item : ValidItem) :
    Calm (calculateAndCharge env .never input index item) := by
  unfold calculateAndCharge
  simp only [statement_never, flush_never, pure_bind]
  split
  · exact .pure
  · refine .get_bind fun current => ?_
    split
    · exact .pure
    · refine .get_bind fun again => ?_
      split
      · exact .pure
      · exact .bind (.modify _) fun _ => .pure

theorem fallbackItem_calm (index : ℕ) (item : ValidItem) :
    Calm (fallbackItem env .never input batchStatus index item) := by
  refine .catching (.bind (calculateAndCharge_calm _ _ _ _) fun result => ?_)
  cases result with
  | charged total => exact .bind (storeCharged_calm _ _ _ _ _ _) fun _ => .pure
  | accountNotFound => exact .bind (.modify _) fun _ => .pure
  | exhausted => exact .pure

theorem fallbackLoop_calm (items : List ValidItem) (index : ℕ) (last : Option Channel) :
    Calm (fallbackLoop env .never input batchStatus index last items) := by
  induction items generalizing index last with
  | nil => exact .pure
  | cons item items ih =>
      exact .bind (fallbackItem_calm _ _ _ _ _) fun _ => .ite (fun _ => ih _ _) fun _ => .pure

theorem storeFailed_calm (flushSite commitSite : ℕ → Site) (rows : List SmsLog) :
    Calm (storeFailed .never flushSite commitSite rows) := by
  refine .forM fun entry => ?_
  rcases entry with ⟨slice, index⟩
  simp only [flush_never, pure_bind]
  exact .bind (.modify _) fun _ => commit_calm _

theorem fallback_calm (items : List ValidItem) :
    Calm (fallback env .never input batchStatus items) := by
  refine .bind (fallbackLoop_calm _ _ _ _ _ _) fun result => .get_bind fun current => ?_
  have exhausted : Calm (if !result.1.isEmpty then do
      storeFailed .never .exhaustedFlush .exhaustedCommit
        (result.1.mapIdx fun index item => item.exhaustedSmsLog env input index)
      Chunk.count 0 result.1.length
    else return ()) :=
    .ite (fun _ => .bind (storeFailed_calm _ _ _) fun _ => .modify _) fun _ => .pure
  exact .ite (fun _ => .bind (commitGroup_calm _ _ _ _) fun _ => exhausted) fun _ => exhausted

theorem deductOnce_calm (isPostpaid : Bool) (total : Money) (attempt : ℕ) :
    Calm (deductOnce .never input isPostpaid total attempt) := by
  unfold deductOnce
  simp only [statement_never, pure_bind]
  refine .get_bind fun current => ?_
  split
  · exact .pure
  · exact .bind (.modify _) fun _ => .pure

theorem chargeChunk_calm (isPostpaid : Bool) (total : Money) :
    Calm (chargeChunk .never input isPostpaid total) := by
  unfold chargeChunk
  simp only [statement_never, pure_bind]
  refine .ite (fun _ => .pure) fun _ => .bind (.catching (deductOnce_calm _ _ _ _)) fun paid => ?_
  refine .ite (fun _ => .bind (.modify _) fun _ => ?_) fun _ => .pure
  exact .bind (commit_calm _) fun _ => .bind (.modify _) fun _ => .pure

theorem storeSlice_calm (slice attempt : ℕ) (items : List ValidItem) :
    Calm (storeSlice env .never input batchStatus slice attempt items) := by
  unfold storeSlice replaceTrackUrlsForLogs
  simp only [flush_never, pure_bind, bind_assoc]
  refine .get_bind fun current => .bind (.modify _) fun _ => .bind (.modify _) fun _ => ?_
  exact .bind (commit_calm _) fun _ => .pure

theorem writeSlice_calm (mark : List MessageId) (slice : ℕ) (items : List ValidItem) :
    Calm (writeSlice env .never input batchStatus mark slice items (writeAttempts - 1)) := by
  unfold writeAttempts writeSlice buildSlice
  simp only [statement_never, pure_bind]
  exact .bind (.modify _) fun _ => .catching (storeSlice_calm _ _ _ _ _ _)

theorem writeLoop_calm (items : List ValidItem) :
    Calm (writeLoop env .never input batchStatus items) := by
  refine .bind (.forM fun entry => ?_) fun _ => .get_bind fun current => ?_
  · rcases entry with ⟨slice, index⟩
    refine .get_bind fun current => .bind (writeSlice_calm _ _ _ _ _ _) fun stored => ?_
    exact .bind (queueSliceSmpp_calm _ _ _) fun _ => queueSliceHttp_calm _ _ _ _
  · exact .ite (fun _ => .get_bind fun _ => .modify _) fun _ => .pure

theorem precheck_never (context : CheckContext) (phones : List String) (index : ℕ) :
    ∃ checked, precheck env .never input context index phones = .ok checked := by
  induction phones generalizing index with
  | nil => exact ⟨_, rfl⟩
  | cons phone phones ih =>
      rcases ih (index + 1) with ⟨rest, isRest⟩
      unfold precheck
      by_cases done : phone ∈ context.alreadyDone
      · exact ⟨rest.skip, by rw [if_pos done, isRest]; rfl⟩
      · exact ⟨_, by rw [if_neg done, isRest]; rfl⟩

theorem precheckVirtual_never (context : CheckContext) (channel : Channel)
    (phones : List String) (index : ℕ) :
    ∃ checked, precheckVirtual env .never input context channel index phones = .ok checked := by
  induction phones generalizing index with
  | nil => exact ⟨_, rfl⟩
  | cons phone phones ih =>
      rcases ih (index + 1) with ⟨rest, isRest⟩
      unfold precheckVirtual
      by_cases done : phone ∈ context.alreadyDone
      · exact ⟨rest.skip, by rw [if_pos done, isRest]; rfl⟩
      · exact ⟨_, by rw [if_neg done, isRest]; rfl⟩

theorem sendItems_calm (context : CheckContext) (items : List ValidItem) :
    Calm (sendItems env .never input context batchStatus items) :=
  .bind (chargeChunk_calm _ _ _) fun _ =>
    .ite (fun _ => writeLoop_calm _ _ _ _) fun _ => fallback_calm _ _ _ _

theorem ordinaryPath_calm (context : CheckContext) :
    Calm (ordinaryPath env .never input context batchStatus) := by
  unfold ordinaryPath
  rcases precheck_never env input context input.phoneNumbers 0 with ⟨checked, isChecked⟩
  rw [isChecked]
  refine .bind .pure fun checked => .bind (.modify _) fun _ => ?_
  refine .bind (storeFailed_calm _ _ _) fun _ => ?_
  exact .ite (fun _ => sendItems_calm _ _ _ _ _) fun _ => .pure

theorem storeVirtual_calm (slice : ℕ) (rows : List SmsLog) :
    Calm (storeVirtual env .never slice rows) := by
  unfold storeVirtual replaceTrackUrlsForLogs
  simp only [statement_never, flush_never, pure_bind, bind_assoc]
  refine .bind (.modify _) fun _ => .bind (.modify _) fun _ => .get_bind fun current => ?_
  exact .bind (.modify _) fun _ => .bind (.modify _) fun _ => commit_calm _

theorem chargeVirtual_calm (isPostpaid : Bool) (total : Money) :
    Calm (chargeVirtual .never input isPostpaid total) := by
  unfold chargeVirtual
  simp only [statement_never, pure_bind]
  refine .ite (fun _ => .pure) fun _ => .get_bind fun current => ?_
  split
  · exact .pure
  · exact .bind (.modify _) fun _ => .pure

theorem virtualPath_calm (context : CheckContext) (channel : Channel) :
    Calm (virtualPath env .never input context channel) := by
  unfold virtualPath
  rcases precheckVirtual_never env input context channel input.phoneNumbers 0 with
    ⟨checked, isChecked⟩
  rw [isChecked]
  refine .bind (.modify _) fun _ => .bind .pure fun checked => .bind (.modify _) fun _ => ?_
  refine .ite (fun _ => .bind (chargeVirtual_calm _ _ _) fun paid => ?_) fun _ => .pure
  refine .ite (fun _ => .forM fun entry => ?_) fun _ => .modify _
  exact storeVirtual_calm _ _ _

theorem updateBatchProgress_calm (batchId : ℕ) :
    Calm (updateBatchProgress env .never batchId) := by
  refine .catching ?_
  simp only [statement_never, pure_bind]
  refine .get_bind fun current => ?_
  split
  · exact .pure
  · exact .bind (.modify _) fun _ => .bind (commit_calm _) fun _ => .pure
  · refine .bind (.modify _) fun _ => .bind (commit_calm _) fun _ => .get_bind fun later => ?_
    exact .bind (.modify _) fun _ => .bind (commit_calm _) fun _ => .pure

theorem chunkSession_calm : Calm (chunkSession env .never input) := by
  unfold chunkSession
  simp only [statement_never, pure_bind]
  refine .get_bind fun current => .ite (fun _ => .pure) fun _ => .bind (.catching .pure) fun _ => ?_
  split
  · refine .bind (virtualPath_calm _ _ _ _) fun _ => ?_
    exact .bind (updateBatchProgress_calm _ _) fun _ => .pure
  · refine .bind (ordinaryPath_calm _ _ _ _) fun _ => ?_
    exact .bind (updateBatchProgress_calm _ _) fun _ => .pure

theorem doProcessChunk_calm : Calm (doProcessChunk env .never input) := by
  have session : Calm (closing (chunkSession env .never input)) := by
    intro state
    rcases chunkSession_calm env input state with ⟨value, after, ends⟩
    exact ⟨value, _, by rw [closing, ends]⟩
  refine .catching (.bind session fun started => .ite (fun _ => ?_) fun _ => .pure)
  unfold dispatchVirtual
  simp only [statement_never, pure_bind]
  refine .bind (.get_bind fun current => ?_) fun _ => .get_bind fun current => .pure
  exact .ite (fun _ => .modify _) fun _ => .pure

theorem runChunk_never (db : Db) :
    ∃ result after, runChunk env .never input db = .ok result after :=
  doProcessChunk_calm env input _

end

end Klsmsc
