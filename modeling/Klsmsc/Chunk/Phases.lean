import Klsmsc.Chunk.Outcome

/-!
# What the statements and the enqueue steps do to the ledger

A state of the worker stands for two ledgers, one of the committed tables and
one of the tables as the open transaction sees them, and for its local
variables. The triples below say how every statement moves them. The enqueue
steps leave the ledgers alone: what they write are statuses, links and refunds.
-/

namespace Klsmsc

open Library

structure Stands (start : Db) (accountId : ℕ) (committed working : Ledger)
    (locals : Locals → Prop) (state : ChunkState) : Prop where
  committed : Since start accountId committed state.committed
  working : Since start accountId working state.working
  locals : locals state.toLocals

structure Locals.Queued (before : Locals) (counted : Bool) (messageIds : List MessageId)
    (after : Locals) : Prop where
  succeeded : 0 < after.succeeded ↔ 0 < before.succeeded ∨ counted = true
  charged : after.charged = before.charged
  virtualChannelId : after.virtualChannelId = before.virtualChannelId
  virtualIds : after.virtualIds = before.virtualIds
  handed : ∀ messageId, messageId ∈ before.handedIds ∨ messageId ∈ messageIds →
    messageId ∈ after.handedIds

namespace Locals.Queued

variable {before middle after : Locals} {left right : Bool} {first second : List MessageId}

theorem refl (locals : Locals) : locals.Queued false [] locals where
  succeeded := by simp
  charged := rfl
  virtualChannelId := rfl
  virtualIds := rfl
  handed := by simp

theorem trans (one : before.Queued left first middle) (two : middle.Queued right second after) :
    before.Queued (left || right) (first ++ second) after where
  succeeded := by
    rw [two.succeeded, one.succeeded, Bool.or_eq_true, or_assoc]
  charged := two.charged.trans one.charged
  virtualChannelId := two.virtualChannelId.trans one.virtualChannelId
  virtualIds := two.virtualIds.trans one.virtualIds
  handed := by
    intro messageId given
    refine two.handed messageId ?_
    rcases given with earlier | given
    · exact Or.inl (one.handed messageId (Or.inl earlier))
    · rcases List.mem_append.mp given with inFirst | inSecond
      · exact Or.inl (one.handed messageId (Or.inr inFirst))
      · exact Or.inr inSecond

theorem weaken (queued : before.Queued left first after)
    (fewer : ∀ messageId ∈ second, messageId ∈ first) : before.Queued left second after :=
  ⟨queued.succeeded, queued.charged, queued.virtualChannelId, queued.virtualIds,
    fun messageId given => queued.handed messageId (given.imp_right (fewer messageId))⟩

end Locals.Queued

section

variable {start : Db} {accountId : ℕ} {committed working ledger : Ledger}
  {locals : Locals → Prop} {faults : Faults} {site : Site}

theorem Stands.drop {state : ChunkState}
    (stands : Stands start accountId committed working locals state) :
    Stands start accountId committed committed locals
      { state with working := state.committed } :=
  ⟨stands.committed, stands.committed, stands.locals⟩

theorem Stands.weaken {state : ChunkState} {weaker : Locals → Prop}
    (stands : Stands start accountId committed working locals state)
    (implies : ∀ values, locals values → weaker values) :
    Stands start accountId committed working weaker state :=
  ⟨stands.committed, stands.working, implies _ stands.locals⟩

def Raises (faults : Faults) (site : Site) (raised : Raise) : Prop :=
  (faults site).map Fault.raised = some raised

theorem statement_triple :
    Triple (Stands start accountId committed working locals) (Chunk.statement faults site)
      (fun _ state => faults site = none ∧ Stands start accountId committed working locals state)
      (fun raised state => Raises faults site raised ∧
        (Stands start accountId committed working locals state ∨
          Stands start accountId committed committed locals state)) := by
  intro state stands
  unfold Chunk.statement
  cases atSite : faults site with
  | none => exact ⟨rfl, stands⟩
  | some fault =>
      refine ⟨by simp [Raises, atSite], ?_⟩
      by_cases lost : fault.lost = true
      · simp only [lost, if_true]
        exact Or.inr stands.drop
      · rw [if_neg lost]
        exact Or.inl stands

theorem statement_settled :
    Triple (Stands start accountId ledger ledger locals) (Chunk.statement faults site)
      (fun _ state => faults site = none ∧ Stands start accountId ledger ledger locals state)
      (fun raised state => Raises faults site raised ∧
        Stands start accountId ledger ledger locals state) := by
  refine statement_triple.weaken (fun _ stands => stands) (fun _ _ done => done) ?_
  rintro raised state ⟨atSite, stands | stands⟩
  · exact ⟨atSite, stands⟩
  · exact ⟨atSite, stands⟩

theorem Chunk.flush_apply (faults : Faults) (site : Site) (state : ChunkState) :
    Chunk.flush faults site state =
      match faults site with
      | none => .ok () state
      | some fault => .error fault.raised { state with working := state.committed } := by
  simp only [Chunk.flush, Chunk.statement]
  cases faults site <;> rfl

theorem flush_triple :
    Triple (Stands start accountId committed working locals) (Chunk.flush faults site)
      (fun _ state => faults site = none ∧ Stands start accountId committed working locals state)
      (fun raised state => Raises faults site raised ∧
        Stands start accountId committed committed locals state) := by
  intro state stands
  rw [Chunk.flush_apply]
  cases atSite : faults site with
  | none => exact ⟨rfl, stands⟩
  | some fault => exact ⟨by simp [Raises, atSite], stands.drop⟩

theorem commit_triple :
    Triple (Stands start accountId committed working locals) (Chunk.commit faults site)
      (fun _ state => faults site = none ∧ Stands start accountId working working locals state)
      (fun raised state => ∃ fault, faults site = some fault ∧ fault.raised = raised ∧
        (if fault.commits then Stands start accountId working working locals state
        else Stands start accountId committed committed locals state)) := by
  intro state stands
  unfold Chunk.commit
  cases atSite : faults site with
  | none => exact ⟨rfl, stands.working, stands.working, stands.locals⟩
  | some fault =>
      refine ⟨fault, rfl, rfl, ?_⟩
      by_cases durable : fault.commits = true
      · simp only [durable, if_true]
        exact ⟨stands.working, stands.working, stands.locals⟩
      · simp only [if_neg durable]
        exact stands.drop

theorem statement_bind {Value : Type} {next : Unit → Chunk Value}
    {normally : Value → ChunkState → Prop} {raising : Raise → ChunkState → Prop}
    (raises : ∀ fault, faults site = some fault → ∀ state,
      Stands start accountId ledger ledger locals state → raising fault.raised state)
    (passes : faults site = none →
      Triple (Stands start accountId ledger ledger locals) (next ()) normally raising) :
    Triple (Stands start accountId ledger ledger locals)
      (Chunk.statement faults site >>= next) normally raising := by
  refine Triple.bind (statement_settled.weaken (fun _ stands => stands) (fun _ _ done => done) ?_)
    fun _ => Triple.assume passes
  rintro raised state ⟨atSite, stands⟩
  rcases Option.map_eq_some_iff.mp atSite with ⟨fault, found, rfl⟩
  exact raises fault found state stands

theorem flush_bind {Value : Type} {next : Unit → Chunk Value}
    {normally : Value → ChunkState → Prop} {raising : Raise → ChunkState → Prop}
    (raises : ∀ fault, faults site = some fault → ∀ state,
      Stands start accountId committed committed locals state → raising fault.raised state)
    (passes : faults site = none →
      Triple (Stands start accountId committed working locals) (next ()) normally raising) :
    Triple (Stands start accountId committed working locals)
      (Chunk.flush faults site >>= next) normally raising := by
  refine Triple.bind (flush_triple.weaken (fun _ stands => stands) (fun _ _ done => done) ?_)
    fun _ => Triple.assume passes
  rintro raised state ⟨atSite, stands⟩
  rcases Option.map_eq_some_iff.mp atSite with ⟨fault, found, rfl⟩
  exact raises fault found state stands

theorem commit_bind {Value : Type} {next : Unit → Chunk Value}
    {normally : Value → ChunkState → Prop} {raising : Raise → ChunkState → Prop}
    (raises : ∀ fault, faults site = some fault → ∀ state,
      Stands start accountId (if fault.commits then working else committed)
        (if fault.commits then working else committed) locals state →
      raising fault.raised state)
    (passes : faults site = none →
      Triple (Stands start accountId working working locals) (next ()) normally raising) :
    Triple (Stands start accountId committed working locals)
      (Chunk.commit faults site >>= next) normally raising := by
  refine Triple.bind (commit_triple.weaken (fun _ stands => stands) (fun _ _ done => done) ?_)
    fun _ => Triple.assume passes
  rintro raised state ⟨fault, found, rfl, stands⟩
  refine raises fault found state ?_
  split at stands <;> simp_all

theorem change_bind {Value : Type} {next : Unit → Chunk Value} {update : Db → Db}
    {after : Ledger} {normally : Value → ChunkState → Prop} {raising : Raise → ChunkState → Prop}
    (moves : ∀ db, Since start accountId working db → Since start accountId after (update db))
    (rest : Triple (Stands start accountId committed after locals) (next ()) normally raising) :
    Triple (Stands start accountId committed working locals)
      (Chunk.change update >>= next) normally raising :=
  Triple.bind
    (Triple.modify fun _ stands => ⟨stands.committed, moves _ stands.working, stands.locals⟩)
    fun _ => rest

theorem change_triple {update : Db → Db} {after : Ledger} {raising : Raise → ChunkState → Prop}
    (moves : ∀ db, Since start accountId working db → Since start accountId after (update db)) :
    Triple (Stands start accountId committed working locals) (Chunk.change update)
      (fun _ => Stands start accountId committed after locals) raising :=
  Triple.modify fun _ stands => ⟨stands.committed, moves _ stands.working, stands.locals⟩

theorem rollback_triple {raising : Raise → ChunkState → Prop} :
    Triple (Stands start accountId committed working locals) Chunk.rollback
      (fun _ => Stands start accountId committed committed locals) raising :=
  Triple.modify fun _ stands => stands.drop

theorem locals_triple {update : ChunkState → ChunkState} {after : Locals → Prop}
    {raising : Raise → ChunkState → Prop}
    (tables : ∀ state, (update state).committed = state.committed ∧
      (update state).working = state.working)
    (moves : ∀ state, locals state.toLocals → after (update state).toLocals) :
    Triple (Stands start accountId committed working locals) (modify update)
      (fun _ => Stands start accountId committed working after) raising := by
  refine Triple.modify ?_
  intro state stands
  refine ⟨?_, ?_, moves state stands.locals⟩
  · rw [(tables state).1]
    exact stands.committed
  · rw [(tables state).2]
    exact stands.working

theorem hand_triple {route : Route} {messageIds : List MessageId}
    {raising : Raise → ChunkState → Prop} {before : Locals} :
    Triple (Stands start accountId committed working (· = before)) (Chunk.hand route messageIds)
      (fun _ => Stands start accountId committed working (before.Queued false messageIds))
      raising := by
  refine locals_triple (fun _ => ⟨rfl, rfl⟩) ?_
  rintro state rfl
  refine ⟨by simp, rfl, rfl, rfl, ?_⟩
  intro messageId given
  simpa [Locals.handedIds, Function.comp_def] using given

theorem count_triple {succeeded failed : ℕ} {raising : Raise → ChunkState → Prop}
    {before : Locals} :
    Triple (Stands start accountId committed working (· = before)) (Chunk.count succeeded failed)
      (fun _ => Stands start accountId committed working
        (before.Queued (0 < succeeded) [])) raising := by
  refine locals_triple (fun _ => ⟨rfl, rfl⟩) ?_
  rintro state rfl
  refine ⟨?_, rfl, rfl, rfl, by simp [Locals.handedIds]⟩
  simp only [decide_eq_true_eq]
  omega

theorem Triple.fix_locals {Value : Type} {command : Chunk Value}
    {normally : Value → ChunkState → Prop} {raising : Raise → ChunkState → Prop}
    (fixed : ∀ before, locals before →
      Triple (Stands start accountId committed working (· = before)) command normally raising) :
    Triple (Stands start accountId committed working locals) command normally raising := by
  intro state stands
  exact fixed state.toLocals stands.locals state ⟨stands.committed, stands.working, rfl⟩

end

section Broker

variable (env : ChunkEnv)

theorem broker_accepts (call : BrokerCall) :
    env.broker.accepts call = env.publishes call.named := rfl

theorem queueSmsBatchSmpp_fst (payloads : List SmppPayload) :
    (queueSmsBatchSmpp env.broker payloads).1 =
      env.packageSucceeds (payloads.map SmppPayload.messageId) := by
  cases payloads with
  | nil => simp [queueSmsBatchSmpp, ChunkEnv.packageSucceeds]
  | cons first rest =>
      rcases queueSmsBatchSmpp_cases env.broker (first :: rest) (by simp) with
        ⟨accepted, result, _⟩ | ⟨refused, result, _⟩
      · rw [broker_accepts] at accepted
        simp only [BrokerCall.named] at accepted
        rw [result, ChunkEnv.packageSucceeds, accepted, Bool.true_or]
      · rw [broker_accepts] at refused
        rw [Bool.eq_iff_iff, result, ChunkEnv.packageSucceeds]
        simp only [BrokerCall.named] at refused
        simp only [refused, Bool.false_or, List.all_map, List.all_eq_true, Function.comp_apply,
          broker_accepts, BrokerCall.named]

theorem queueSmppGateway_single (payload : SmppPayload) :
    (queueSmppGateway env.broker .smppSingle payload).1 =
      env.publishes (.smppSingle payload.messageId) :=
  queueSmppGateway_fst env.broker .smppSingle payload

end Broker

section

variable {start : Db} {accountId : ℕ} {ledger : Ledger} {env : ChunkEnv} {faults : Faults}

theorem singles_triple {single : MessageId → Site} {payloads : List SmppPayload}
    {before : Locals} :
    Triple (Stands start accountId ledger ledger (· = before))
      (payloads.forM fun payload => do
        Chunk.statement faults (single payload.messageId)
        if (queueSmppGateway env.broker .smppSingle payload).1 then Chunk.count 1 0
        else Chunk.count 0 1)
      (fun _ state =>
        (singlesRun env faults single (payloads.map SmppPayload.messageId)).stopped = none ∧
        Stands start accountId ledger ledger (before.Queued
          (singlesRun env faults single (payloads.map SmppPayload.messageId)).counted []) state)
      (fun raised state =>
        (singlesRun env faults single (payloads.map SmppPayload.messageId)).stopped =
          some raised ∧
        Stands start accountId ledger ledger (before.Queued
          (singlesRun env faults single (payloads.map SmppPayload.messageId)).counted []) state) := by
  induction payloads generalizing before with
  | nil =>
      intro state stands
      exact ⟨rfl, stands.weaken fun values equal => equal ▸ Locals.Queued.refl before⟩
  | cons payload payloads ih =>
      simp only [List.map_cons, singlesRun]
      refine Triple.seq (fun _ state =>
        faults (single payload.messageId) = none ∧
          Stands start accountId ledger ledger
            (before.Queued (env.publishes (.smppSingle payload.messageId)) []) state) ?_ ?_
      · refine statement_bind ?_ ?_
        · intro fault found state stands
          simp only [found]
          exact ⟨trivial, stands.weaken fun values equal => equal ▸ Locals.Queued.refl before⟩
        · intro noFault
          rw [queueSmppGateway_single]
          cases accepted : env.publishes (.smppSingle payload.messageId) with
          | true =>
              rw [if_pos rfl]
              refine count_triple.weaken (fun _ stands => stands) ?_ (fun _ _ never => never)
              intro _ state stands
              exact ⟨noFault, stands⟩
          | false =>
              rw [if_neg Bool.false_ne_true]
              refine count_triple.weaken (fun _ stands => stands) ?_ (fun _ _ never => never)
              intro _ state stands
              exact ⟨noFault, stands⟩
      · intro _
        refine Triple.assume fun noFault => ?_
        refine Triple.fix_locals fun middle queued => ?_
        simp only [noFault]
        refine ih.weaken (fun _ stands => stands) ?_ ?_
        · rintro _ state ⟨ended, stands⟩
          exact ⟨ended, stands.weaken fun values rest => by simpa using queued.trans rest⟩
        · rintro raised state ⟨ended, stands⟩
          exact ⟨ended, stands.weaken fun values rest => by simpa using queued.trans rest⟩

/-- What a triple says of an enqueue step: it ends as its run says, and its
messages are handed over unless it is stopped. -/
def EndsAs (start : Db) (accountId : ℕ) (ledger : Ledger) (before : Locals) (run : QueueRun)
    (messageIds : List MessageId) (command : Chunk Unit) : Prop :=
  Triple (Stands start accountId ledger ledger (· = before)) command
    (fun _ state => run.stopped = none ∧
      Stands start accountId ledger ledger (before.Queued run.counted messageIds) state)
    (fun raised state => run.stopped = some raised ∧
      Stands start accountId ledger ledger (before.Queued run.counted []) state)

theorem publish_triple {site : Site} {single : MessageId → Site} {payloads : List SmppPayload}
    {before : Locals} :
    EndsAs start accountId ledger before
      (publishRun env faults site single (payloads.map SmppPayload.messageId))
      (payloads.map SmppPayload.messageId) (publish env faults site single payloads) := by
  unfold EndsAs publish publishRun
  refine statement_bind ?_ ?_
  · intro fault found state stands
    simp only [found]
    exact ⟨trivial, stands.weaken fun values equal => equal ▸ Locals.Queued.refl before⟩
  · intro noFault
    simp only [noFault, queueSmsBatchSmpp_fst]
    refine Triple.bind hand_triple fun _ => Triple.fix_locals fun middle handed => ?_
    refine Triple.ite ?_ ?_
    · intro whole
      simp only [whole, if_true]
      refine count_triple.weaken (fun _ stands => stands) ?_ (fun _ _ never => never)
      intro _ state stands
      refine ⟨trivial, stands.weaken fun values counted => ?_⟩
      have step := handed.trans counted
      cases payloads <;> simpa using step
    · intro partly
      simp only [if_neg partly]
      refine singles_triple.weaken (fun _ stands => stands) ?_ ?_
      · rintro _ state ⟨ended, stands⟩
        exact ⟨ended, stands.weaken fun values rest => by simpa using handed.trans rest⟩
      · rintro raised state ⟨ended, stands⟩
        refine ⟨ended, stands.weaken fun values rest => ?_⟩
        exact (by simpa using handed.trans rest : before.Queued _ _ _).weaken (by simp)

theorem queueSliceSmpp_triple {slice : ℕ} {payloads : List SmppPayload} {before : Locals} :
    EndsAs start accountId ledger before
      (smppRun env faults slice (payloads.map SmppPayload.messageId))
      (payloads.map SmppPayload.messageId) (queueSliceSmpp env faults slice payloads) := by
  unfold queueSliceSmpp smppRun
  cases payloads with
  | nil =>
      intro state stands
      exact ⟨rfl, stands.weaken fun values equal => equal ▸ Locals.Queued.refl before⟩
  | cons payload payloads => exact publish_triple

variable {locals : Locals → Prop}

theorem cancellation_of_raises {site : Site} {raised : Raise} (atSite : Raises faults site raised) :
    cancellation faults site = if raised.isException then none else some raised := by
  rcases Option.map_eq_some_iff.mp atSite with ⟨fault, found, rfl⟩
  simp [cancellation, found]

theorem cancellation_of_none {site : Site} (noFault : faults site = none) :
    cancellation faults site = none := by
  simp [cancellation, noFault]

theorem refundSingle_triple {site : Site} {amount : Money} {messageId : MessageId} :
    Triple (Stands start accountId ledger ledger locals)
      (refundSingle env faults site amount messageId)
      (fun _ state => cancellation faults site = none ∧
        Stands start accountId ledger ledger locals state)
      (fun raised state => cancellation faults site = some raised ∧
        Stands start accountId ledger ledger locals state) := by
  unfold refundSingle
  refine Triple.catching (fun raised state => Raises faults site raised ∧
    Stands start accountId ledger ledger locals state) ?_ ?_ ?_
  · refine statement_bind ?_ ?_
    · intro fault found state stands
      exact ⟨by simp [Raises, found], stands⟩
    · intro noFault
      refine Triple.ite ?_ ?_
      · intro _
        refine (change_triple fun db since =>
          since.refundMessage env.unicode messageId env.now).weaken (fun _ stands => stands) ?_
            (fun _ _ never => never)
        intro _ state stands
        exact ⟨cancellation_of_none noFault, stands⟩
      · intro _ state stands
        exact ⟨cancellation_of_none noFault, stands⟩
  · rintro raised state escapes ⟨atSite, stands⟩
    rw [cancellation_of_raises atSite, escapes]
    exact ⟨rfl, stands⟩
  · intro raised caught state after
    rcases after with ⟨atSite, stands⟩
    refine ⟨?_, stands⟩
    rw [cancellation_of_raises atSite, caught]
    rfl

theorem refundAll_triple {slice : ℕ} {costs : List (MessageId × Money)}
    {messageIds : List MessageId} :
    Triple (Stands start accountId ledger ledger locals)
      (refundAll env faults slice costs messageIds)
      (fun _ state => refundsRun faults slice messageIds = none ∧
        Stands start accountId ledger ledger locals state)
      (fun raised state => refundsRun faults slice messageIds = some raised ∧
        Stands start accountId ledger ledger locals state) := by
  unfold refundAll refundsRun
  induction messageIds with
  | nil =>
      intro state stands
      exact ⟨rfl, stands⟩
  | cons messageId messageIds ih =>
      simp only [List.findSome?_cons]
      refine Triple.bind (refundSingle_triple.weaken (fun _ stands => stands)
        (fun _ _ done => done) ?_) fun _ => Triple.assume fun passes => ?_
      · rintro raised state ⟨cancelled, stands⟩
        simp only [cancelled]
        exact ⟨trivial, stands⟩
      · simp only [passes]
        exact ih

theorem replaceTrackUrlsForLogs_triple {committed working : Ledger} {site : Site}
    {rows : List SmsLog} :
    Triple (Stands start accountId committed working locals)
      (replaceTrackUrlsForLogs env faults site rows)
      (fun linked state => linked = rows.map (SmsLog.linked env) ∧ faults site = none ∧
        Stands start accountId committed working locals state)
      (fun raised state => Raises faults site raised ∧
        Stands start accountId committed committed locals state) := by
  unfold replaceTrackUrlsForLogs
  refine flush_bind ?_ ?_
  · intro fault found state stands
    exact ⟨by simp [Raises, found], stands⟩
  · intro noFault
    refine change_bind (fun db since => since.update (neutral_linked env)) ?_
    intro state stands
    exact ⟨rfl, noFault, stands⟩

theorem replaceAndCommit_triple {site : Site} {rows : List SmsLog} :
    Triple (Stands start accountId ledger ledger locals) (replaceAndCommit env faults site rows)
      (fun linked state => linked = rows.map (SmsLog.linked env) ∧ faults site = none ∧
        Stands start accountId ledger ledger locals state)
      (fun raised state => Raises faults site raised ∧
        Stands start accountId ledger ledger locals state) := by
  unfold replaceAndCommit
  refine Triple.bind replaceTrackUrlsForLogs_triple fun linked =>
    Triple.assume fun isLinked => Triple.assume fun noFault => ?_
  dsimp only
  refine Triple.ite ?_ ?_
  · intro _
    refine commit_bind ?_ ?_
    · intro fault found
      cases found
    · intro _ state stands
      exact ⟨isLinked, noFault, stands⟩
  · intro _ state stands
    exact ⟨isLinked, noFault, stands⟩

theorem Since.logsOf_ne_nil {db : Db} (since : Since start accountId ledger db)
    {messageIds : List MessageId} {row : LogCore} (onLedger : row ∈ ledger.rows)
    (asked : row.messageId ∈ messageIds) : db.logsOf messageIds ≠ [] := by
  have member : row ∈ db.smsLogs.map SmsLog.core := by
    rw [since.cores]
    exact List.mem_append_right _ onLedger
  rcases List.mem_map.mp member with ⟨stored, storedMem, rfl⟩
  exact List.ne_nil_of_mem (List.mem_filter.mpr ⟨storedMem, by simpa [SmsLog.core] using asked⟩)

theorem nodeAnswer_triple {slice : ℕ} {messageIds : List MessageId} :
    Triple (Stands start accountId ledger ledger locals)
      (catching Raise.isException
        (do
          Chunk.statement faults (.nodeSubmit slice)
          return (env.submitTask messageIds).mapError (truncate 255))
        fun _ => return .error "RCS 任务提交失败")
      (fun answer state => nodeAnswer env faults slice messageIds = .ok answer.isOk ∧
        Stands start accountId ledger ledger locals state)
      (fun raised state => nodeAnswer env faults slice messageIds = .error raised ∧
        Stands start accountId ledger ledger locals state) := by
  refine Triple.catching (fun raised state => Raises faults (.nodeSubmit slice) raised ∧
    Stands start accountId ledger ledger locals state) ?_ ?_ ?_
  · refine statement_bind ?_ ?_
    · intro fault found state stands
      exact ⟨by simp [Raises, found], stands⟩
    · intro noFault state stands
      refine ⟨?_, stands⟩
      simp only [nodeAnswer, noFault]
      cases env.submitTask messageIds <;> rfl
  · rintro raised state escapes ⟨atSite, stands⟩
    rcases Option.map_eq_some_iff.mp atSite with ⟨fault, found, rfl⟩
    refine ⟨?_, stands⟩
    simp only [nodeAnswer, found, escapes, Bool.false_eq_true, if_false]
  · rintro raised caught state ⟨atSite, stands⟩
    rcases Option.map_eq_some_iff.mp atSite with ⟨fault, found, rfl⟩
    refine ⟨?_, stands⟩
    simp only [nodeAnswer, found, caught, if_true]
    rfl

theorem queueCommitBatchNodeRcs_triple {slice : ℕ} {messageIds : List MessageId}
    {before : Locals} {row : LogCore} (onLedger : row ∈ ledger.rows)
    (asked : row.messageId ∈ messageIds) :
    Triple (Stands start accountId ledger ledger (· = before))
      (queueCommitBatchNodeRcs env faults slice messageIds)
      (fun counts state => nodeRun env faults slice messageIds = ⟨0 < counts.1, none⟩ ∧
        Stands start accountId ledger ledger (before.Queued false messageIds) state)
      (fun raised state => nodeRun env faults slice messageIds = ⟨false, some raised⟩ ∧
        Stands start accountId ledger ledger (before.Queued false []) state) := by
  have unchanged : ∀ values, values = before → before.Queued false [] values := by
    rintro values rfl
    exact Locals.Queued.refl values
  unfold queueCommitBatchNodeRcs
  refine statement_bind ?_ ?_
  · intro fault found state stands
    exact ⟨by simp [nodeRun, found], stands.weaken unchanged⟩
  · intro readPasses
    refine Triple.get_bind fun current stands => ?_
    have found := stands.working.logsOf_ne_nil onLedger asked
    have notEmpty : (current.working.logsOf messageIds).isEmpty = false := by
      simpa using found
    simp only [notEmpty, Bool.false_eq_true, if_false]
    refine Triple.bind (replaceAndCommit_triple.weaken
      (fun state isCurrent => isCurrent ▸ stands) (fun _ _ done => done) ?_)
      fun linked => Triple.assume fun isLinked => Triple.assume fun linksPass => ?_
    · rintro raised state ⟨atSite, stands⟩
      rcases Option.map_eq_some_iff.mp atSite with ⟨fault, isFault, rfl⟩
      exact ⟨by simp [nodeRun, readPasses, isFault], stands.weaken unchanged⟩
    · have linkedLength : 0 < linked.length := by
        rw [isLinked, List.length_map]
        exact List.length_pos_iff.mpr found
      refine Triple.bind hand_triple fun _ => Triple.fix_locals fun middle handed => ?_
      have stopped : ∀ values, values = middle → before.Queued false [] values := by
        rintro values rfl
        exact handed.weaken (by simp)
      have done : ∀ values, values = middle → before.Queued false messageIds values := by
        rintro values rfl
        exact handed
      refine Triple.bind (nodeAnswer_triple.weaken (fun _ stands => stands)
        (fun _ _ done => done) ?_) fun answer => Triple.assume fun answered => ?_
      · rintro raised state ⟨escapes, stands⟩
        exact ⟨by simp [nodeRun, readPasses, linksPass, escapes], stands.weaken stopped⟩
      · cases answer with
        | error text =>
            refine change_bind (fun db since => since.update (neutral_rejected text)) ?_
            refine commit_bind ?_ ?_
            · intro fault isFault state stands
              rw [ite_self] at stands
              exact ⟨by simp [nodeRun, readPasses, linksPass, answered, isFault],
                stands.weaken stopped⟩
            · intro commitPasses
              refine Triple.bind (refundAll_triple.weaken (fun _ stands => stands)
                (fun _ _ done => done) ?_) fun _ => Triple.assume fun refunded => ?_
              · rintro raised state ⟨cancelled, stands⟩
                refine ⟨?_, stands.weaken stopped⟩
                simp [nodeRun, readPasses, linksPass, answered, commitPasses, cancelled,
                  Except.isOk, Except.toBool]
              · intro state stands
                refine ⟨?_, stands.weaken done⟩
                simp [nodeRun, readPasses, linksPass, answered, commitPasses, refunded,
                  Except.isOk, Except.toBool]
        | ok serial =>
            refine change_bind (fun db since => since.update (neutral_submitted serial)) ?_
            refine commit_bind ?_ ?_
            · intro fault isFault state stands
              rw [ite_self] at stands
              exact ⟨by simp [nodeRun, readPasses, linksPass, answered, isFault],
                stands.weaken stopped⟩
            · intro commitPasses state stands
              refine ⟨?_, stands.weaken done⟩
              simp [nodeRun, readPasses, linksPass, answered, commitPasses, linkedLength,
                Except.isOk, Except.toBool]

theorem queueSliceHttp_triple {slice : ℕ} {channel : Option Channel}
    {messageIds : List MessageId} {before : Locals}
    (onLedger : ∀ messageId ∈ messageIds, ∃ row ∈ ledger.rows, row.messageId = messageId) :
    EndsAs start accountId ledger before (httpRun env faults slice channel messageIds)
      messageIds (queueSliceHttp env faults slice channel messageIds) := by
  unfold EndsAs queueSliceHttp httpRun
  cases messageIds with
  | nil =>
      intro state stands
      exact ⟨rfl, stands.weaken fun values equal => equal ▸ Locals.Queued.refl before⟩
  | cons messageId messageIds =>
      simp only [List.isEmpty_cons, Bool.false_eq_true, if_false]
      by_cases isNode : channel.any Channel.isNodeRcs = true
      · simp only [isNode, if_true]
        rcases onLedger messageId List.mem_cons_self with ⟨row, rowMem, isRow⟩
        refine Triple.bind ((queueCommitBatchNodeRcs_triple rowMem (by simp [isRow])).weaken
          (fun _ stands => stands) (fun _ _ done => done) ?_) ?_
        · rintro raised state ⟨ended, stands⟩
          rw [ended]
          exact ⟨rfl, stands⟩
        · rintro ⟨accepted, refused⟩
          refine Triple.assume fun ended => Triple.fix_locals fun middle handed => ?_
          rw [ended]
          refine count_triple.weaken (fun _ stands => stands) ?_ (fun _ _ never => never)
          intro _ state stands
          exact ⟨rfl, stands.weaken fun values counted => by
            simpa using handed.trans counted⟩
      · simp only [if_neg isNode]
        refine statement_bind ?_ ?_
        · intro fault found state stands
          simp only [found]
          exact ⟨trivial, stands.weaken fun values equal => equal ▸ Locals.Queued.refl before⟩
        · intro noFault
          simp only [noFault]
          refine Triple.bind hand_triple fun _ => Triple.fix_locals fun middle handed => ?_
          refine count_triple.weaken (fun _ stands => stands) ?_ (fun _ _ never => never)
          intro _ state stands
          refine ⟨trivial, stands.weaken fun values counted => ?_⟩
          have step := handed.trans counted
          cases accepted : (queueSmsBulk env.broker (messageId :: messageIds)).1 <;>
            simpa [accepted] using step

theorem EndsAs.bind {before : Locals} {firstRun secondRun : QueueRun}
    {firstIds secondIds : List MessageId} {first second : Chunk Unit}
    (one : EndsAs start accountId ledger before firstRun firstIds first)
    (two : ∀ middle, EndsAs start accountId ledger middle secondRun secondIds second) :
    EndsAs start accountId ledger before (firstRun.andThen secondRun) (firstIds ++ secondIds)
      (first >>= fun _ => second) := by
  refine Triple.bind (one.weaken (fun _ stands => stands) (fun _ _ done => done) ?_) ?_
  · rintro raised state ⟨stopped, stands⟩
    simp only [QueueRun.andThen, stopped]
    exact ⟨trivial, stands⟩
  · intro _
    refine Triple.assume fun passes => Triple.fix_locals fun middle queued => ?_
    simp only [QueueRun.andThen, passes]
    refine (two middle).weaken (fun _ stands => stands) ?_ ?_
    · rintro _ state ⟨ended, stands⟩
      exact ⟨ended, stands.weaken fun values rest => queued.trans rest⟩
    · rintro raised state ⟨ended, stands⟩
      exact ⟨ended, stands.weaken fun values rest => (queued.trans rest).weaken (by simp)⟩

end

end Klsmsc
