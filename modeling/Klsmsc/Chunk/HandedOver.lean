import Klsmsc.Chunk.Returns

/-!
# What the enqueue steps hand over

An enqueue step that comes to its end has handed over all of its messages, on a route that
follows from its arguments: the queue manager and the node may turn messages down, but they
have been asked. Of the tables it needs that the messages have rows, and it leaves the
ledger alone. A further property of the tables may be kept on the way.
-/

namespace Klsmsc

open Library

def Route.entries (route : Route) (messageIds : List MessageId) : List (MessageId × Route) :=
  messageIds.map fun messageId => (messageId, route)

@[simp]
theorem Route.entries_nil (route : Route) : route.entries [] = [] := rfl

theorem Route.mem_entries {route other : Route} {messageIds : List MessageId}
    {messageId : MessageId} :
    (messageId, other) ∈ route.entries messageIds ↔ messageId ∈ messageIds ∧ other = route := by
  simp [Route.entries, eq_comm]

/-- Where `_queue_commit_batch` hands over messages for a channel. -/
def Channel.commitRoute (channel : Channel) : Route :=
  if channel.isNodeRcs then .nodeTask
  else if channel.protocol = .smpp then .smppQueue
  else .smsSend

/-- Where the write loop hands over the messages of a slice that are on HTTP channels, for
the channel of its last item. -/
def httpRoute (channel : Option Channel) : Route :=
  if channel.any Channel.isNodeRcs then .nodeTask else .smsSend

def groupRoute (channel : Option Channel) : Route :=
  if channel.any fun channel => channel.protocol = .smpp then .smppQueue else .smsSend

structure Locals.Handed (before : Locals) (entries : List (MessageId × Route)) (after : Locals) :
    Prop where
  handed : after.handed = before.handed ++ entries
  virtualChannelId : after.virtualChannelId = before.virtualChannelId
  virtualIds : after.virtualIds = before.virtualIds
  commitBatch : after.commitBatch = before.commitBatch

theorem Locals.Handed.refl (values : Locals) : values.Handed [] values :=
  ⟨by simp, rfl, rfl, rfl⟩

theorem Locals.Handed.trans {before middle after : Locals}
    {first second : List (MessageId × Route)} (one : before.Handed first middle)
    (two : middle.Handed second after) : before.Handed (first ++ second) after where
  handed := by rw [two.handed, one.handed, List.append_assoc]
  virtualChannelId := two.virtualChannelId.trans one.virtualChannelId
  virtualIds := two.virtualIds.trans one.virtualIds
  commitBatch := two.commitBatch.trans one.commitBatch

structure Settled (start : Db) (accountId : ℕ) (ledger : Ledger) (kept : Db → Prop)
    (locals : Locals → Prop) (state : ChunkState) : Prop where
  stands : Stands start accountId ledger ledger locals state
  committed : kept state.committed
  working : kept state.working

section

variable {start : Db} {accountId : ℕ} {ledger : Ledger} {kept : Db → Prop}
  {locals : Locals → Prop} {faults : Faults} {env : ChunkEnv} {Value Result : Type}

theorem Settled.weaken {state : ChunkState} {weaker : Locals → Prop}
    (settled : Settled start accountId ledger kept locals state)
    (implies : ∀ values, locals values → weaker values) :
    Settled start accountId ledger kept weaker state :=
  ⟨settled.stands.weaken implies, settled.committed, settled.working⟩

def HandsOver (start : Db) (accountId : ℕ) (ledger : Ledger) (kept : Db → Prop)
    (command : Chunk Value) (entries : List (MessageId × Route)) : Prop :=
  ∀ before, Triple (Settled start accountId ledger kept (· = before)) command
    (fun _ => Settled start accountId ledger kept (before.Handed entries)) (fun _ _ => True)

namespace HandsOver

variable {first : Chunk Value} {next : Value → Chunk Result}
  {left right : List (MessageId × Route)}

theorem bind (one : HandsOver start accountId ledger kept first left)
    (two : ∀ value, HandsOver start accountId ledger kept (next value) right) :
    HandsOver start accountId ledger kept (first >>= next) (left ++ right) := by
  intro before
  refine Triple.bind (one before) fun value state settled => ?_
  have rest := two value state.toLocals state
    ⟨⟨settled.stands.committed, settled.stands.working, rfl⟩, settled.committed, settled.working⟩
  revert rest
  cases next value state with
  | ok result after =>
      exact fun later => later.weaken fun _ handed => settled.stands.locals.trans handed
  | error raised after => exact fun _ => trivial

theorem after (one : HandsOver start accountId ledger kept first [])
    (two : ∀ value, HandsOver start accountId ledger kept (next value) right) :
    HandsOver start accountId ledger kept (first >>= next) right :=
  List.nil_append right ▸ bind one two

theorem before (one : HandsOver start accountId ledger kept first left)
    (two : ∀ value, HandsOver start accountId ledger kept (next value) []) :
    HandsOver start accountId ledger kept (first >>= next) left :=
  List.append_nil left ▸ bind one two

theorem pure {value : Value} :
    HandsOver start accountId ledger kept (Pure.pure value : Chunk Value) [] := by
  intro before state settled
  exact settled.weaken fun _ same => same ▸ Locals.Handed.refl before

theorem of_locals {update : ChunkState → ChunkState}
    (tables : ∀ state, (update state).committed = state.committed ∧
      (update state).working = state.working)
    (moves : ∀ state : ChunkState, state.toLocals.Handed left (update state).toLocals) :
    HandsOver start accountId ledger kept (modify update : Chunk Unit) left := by
  intro before state settled
  have same : state.toLocals = before := settled.stands.locals
  have committed := settled.committed
  have working := settled.working
  have onCommitted := settled.stands.committed
  have onWorking := settled.stands.working
  rw [← (tables state).1] at committed onCommitted
  rw [← (tables state).2] at working onWorking
  exact ⟨⟨onCommitted, onWorking, same ▸ moves state⟩, committed, working⟩

theorem hand (route : Route) (messageIds : List MessageId) :
    HandsOver start accountId ledger kept (Chunk.hand route messageIds)
      (route.entries messageIds) :=
  of_locals (fun _ => ⟨rfl, rfl⟩) fun _ => ⟨rfl, rfl, rfl, rfl⟩

theorem count (succeeded failed : ℕ) :
    HandsOver start accountId ledger kept (Chunk.count succeeded failed) [] :=
  of_locals (fun _ => ⟨rfl, rfl⟩) fun _ => ⟨by simp, rfl, rfl, rfl⟩

theorem change {update : Db → Db}
    (unseen : ∀ db, Since start accountId ledger db → Since start accountId ledger (update db))
    (keeps : ∀ db, kept db → kept (update db)) :
    HandsOver start accountId ledger kept (Chunk.change update) [] := by
  intro before state settled
  exact ⟨⟨settled.stands.committed, unseen _ settled.stands.working,
    settled.stands.locals ▸ Locals.Handed.refl _⟩, settled.committed, keeps _ settled.working⟩

theorem statement (site : Site) :
    HandsOver start accountId ledger kept (Chunk.statement faults site) [] := by
  intro before state settled
  unfold Chunk.statement
  cases faults site with
  | none => exact settled.weaken fun _ same => same ▸ Locals.Handed.refl before
  | some fault => trivial

theorem flush (site : Site) :
    HandsOver start accountId ledger kept (Chunk.flush faults site) [] :=
  statement site

theorem commit (site : Site) :
    HandsOver start accountId ledger kept (Chunk.commit faults site) [] := by
  intro before state settled
  unfold Chunk.commit
  cases faults site with
  | none =>
      exact ⟨⟨settled.stands.working, settled.stands.working,
        settled.stands.locals ▸ Locals.Handed.refl _⟩, settled.working, settled.working⟩
  | some fault => trivial

theorem ite {condition : Prop} [Decidable condition] {other : Chunk Value}
    (positive : condition → HandsOver start accountId ledger kept first left)
    (negative : ¬condition → HandsOver start accountId ledger kept other left) :
    HandsOver start accountId ledger kept (if condition then first else other) left := by
  split
  · exact positive ‹_›
  · exact negative ‹_›

theorem forM {Entry : Type} {body : Entry → Chunk Unit}
    {handed : Entry → List (MessageId × Route)} {entries : List Entry}
    (each : ∀ entry ∈ entries, HandsOver start accountId ledger kept (body entry) (handed entry)) :
    HandsOver start accountId ledger kept (entries.forM body) (entries.flatMap handed) := by
  induction entries with
  | nil => exact pure
  | cons entry entries ih =>
      rw [List.forall_mem_cons] at each
      exact bind each.1 fun _ => ih each.2

theorem forM_nil {Entry : Type} {body : Entry → Chunk Unit} {entries : List Entry}
    (each : ∀ entry, HandsOver start accountId ledger kept (body entry) []) :
    HandsOver start accountId ledger kept (entries.forM body) [] := by
  induction entries with
  | nil => exact pure
  | cons entry entries ih => exact after (each entry) fun _ => ih

theorem attempt {site : Site} {body : Chunk Value} {handler : Raise → Chunk Value}
    (calm : ∀ state, ∃ value after, body state = .ok value after)
    (hands : HandsOver start accountId ledger kept body left)
    (handled : ∀ raised, HandsOver start accountId ledger kept (handler raised) left) :
    HandsOver start accountId ledger kept
      (catching Raise.isException (Chunk.statement faults site >>= fun _ => body) handler)
      left := by
  intro before
  refine Triple.catching (fun _ => Settled start accountId ledger kept (· = before)) ?_
    (fun _ _ _ _ => trivial) fun raised _ => handled raised before
  refine Triple.seq (fun _ => Settled start accountId ledger kept (· = before)) ?_ fun _ => ?_
  · intro state settled
    unfold Chunk.statement
    cases faults site with
    | none => exact settled
    | some fault =>
        by_cases lost : fault.lost = true
        · simp only [lost, if_true]
          exact ⟨settled.stands.drop, settled.committed, settled.committed⟩
        · simp only [if_neg lost]
          exact settled
  · intro state settled
    rcases calm state with ⟨value, after, ends⟩
    have outcome := hands before state settled
    rw [ends] at outcome ⊢
    exact outcome

theorem get_bind {next : ChunkState → Chunk Result}
    (rest : ∀ current, Since start accountId ledger current.working →
      HandsOver start accountId ledger kept (next current) left) :
    HandsOver start accountId ledger kept (get >>= next) left := by
  intro before
  refine Triple.get_bind fun current settled => ?_
  exact Triple.at_state (rest current settled.stands.working before) settled

theorem after_value {known : Value → Prop}
    (one : HandsOver start accountId ledger kept first [])
    (returns : Triple (fun _ => True) first (fun value _ => known value) (fun _ _ => True))
    (two : ∀ value, known value → HandsOver start accountId ledger kept (next value) right) :
    HandsOver start accountId ledger kept (first >>= next) right := by
  intro before
  refine Triple.bind (((one before).and returns).weaken (fun _ settled => ⟨settled, trivial⟩)
    (fun _ _ done => done) fun _ _ _ => trivial) fun value => ?_
  rintro state ⟨settled, isKnown⟩
  have rest := two value isKnown state.toLocals state
    ⟨⟨settled.stands.committed, settled.stands.working, rfl⟩, settled.committed, settled.working⟩
  revert rest
  cases next value state with
  | ok result after =>
      exact fun later => later.weaken fun _ handed => by
        simpa using settled.stands.locals.trans handed
  | error raised after => exact fun _ => trivial

end HandsOver

def Db.Stored (db : Db) (messageIds : List MessageId) : Prop :=
  ∀ messageId ∈ messageIds, ∃ row ∈ db.smsLogs, row.messageId = messageId

def Ledger.Stored (ledger : Ledger) (messageIds : List MessageId) : Prop :=
  ∀ messageId ∈ messageIds, ∃ row ∈ ledger.rows, row.messageId = messageId

theorem Since.stored {db : Db} (since : Since start accountId ledger db)
    {messageIds : List MessageId} (stored : ledger.Stored messageIds) : db.Stored messageIds := by
  intro messageId member
  rcases stored messageId member with ⟨core, onLedger, isCore⟩
  have inTable : core ∈ db.smsLogs.map SmsLog.core := by
    rw [since.cores]
    exact List.mem_append_right _ onLedger
  rcases List.mem_map.mp inTable with ⟨row, rowMem, rfl⟩
  exact ⟨row, rowMem, isCore⟩

theorem payloadsOf_messageId (batchStatus : String) {db : Db} {messageIds : List MessageId}
    (stored : db.Stored messageIds) :
    (payloadsOf env batchStatus ((db.logsOf messageIds).map (SmsLog.linked env))
      messageIds).map SmppPayload.messageId = messageIds := by
  have each : ∀ messageId ∈ messageIds, ∃ row,
      ((db.logsOf messageIds).map (SmsLog.linked env)).find?
        (fun row => row.messageId = messageId) = some row ∧ row.messageId = messageId := by
    intro messageId member
    rcases stored messageId member with ⟨row, rowMem, isRow⟩
    have found : (((db.logsOf messageIds).map (SmsLog.linked env)).find?
        fun row => row.messageId = messageId).isSome := by
      rw [List.find?_isSome]
      refine ⟨row.linked env, List.mem_map_of_mem (List.mem_filter.mpr ⟨rowMem, ?_⟩), ?_⟩
      · simpa [isRow] using member
      · simp [SmsLog.linked, isRow]
    rcases Option.isSome_iff_exists.mp found with ⟨other, isOther⟩
    exact ⟨other, isOther, by simpa using List.find?_some isOther⟩
  unfold payloadsOf
  generalize (db.logsOf messageIds).map (SmsLog.linked env) = rows at each
  induction messageIds with
  | nil => rfl
  | cons messageId messageIds ih =>
      rw [List.forall_mem_cons] at each
      rcases each with ⟨⟨row, found, isRow⟩, rest⟩
      have tail := ih (fun other member => stored other (List.mem_cons_of_mem _ member)) rest
      simp [found, smppPayloadPublicDict, isRow, tail]

variable (writes : ∀ db rows update, kept db → kept (Db.updateRows db rows update))

include writes

theorem replaceAndCommit_hands (site : Site) (rows : List SmsLog) :
    HandsOver start accountId ledger kept (replaceAndCommit env faults site rows) [] := by
  unfold replaceAndCommit replaceTrackUrlsForLogs
  simp only [bind_assoc, pure_bind]
  refine .after (.flush _) fun _ => .after (.change (fun _ since =>
    since.update (neutral_linked env)) fun _ => writes _ _ _) fun _ => ?_
  refine HandsOver.ite (fun _ => .after (.commit _) fun _ => .pure) fun _ => .pure

omit writes

theorem replaceAndCommit_returns (site : Site) (rows : List SmsLog) :
    Triple (fun _ => True) (replaceAndCommit env faults site rows)
      (fun linked _ => linked = rows.map (SmsLog.linked env)) (fun _ _ => True) := by
  have linked : Triple (fun _ => True) (replaceTrackUrlsForLogs env faults site rows)
      (fun linked _ => linked = rows.map (SmsLog.linked env)) (fun _ _ => True) :=
    Triple.bind triple_true fun _ => Triple.bind triple_true fun _ _ _ => rfl
  have settle : ∀ {command : Chunk Unit} {fact : Prop},
      Triple (fun _ => fact) command (fun _ _ => fact) (fun _ _ => True) := by
    intro command fact state holds
    cases command state with
    | ok _ _ => exact holds
    | error _ _ => trivial
  unfold replaceAndCommit
  refine Triple.bind linked fun rows => ?_
  exact Triple.ite (fun _ => Triple.bind settle fun _ _ same => same) fun _ _ same => same

theorem publish_hands (site : Site) (single : MessageId → Site) (payloads : List SmppPayload) :
    HandsOver start accountId ledger kept (publish env faults site single payloads)
      (Route.smppQueue.entries (payloads.map SmppPayload.messageId)) := by
  unfold publish
  refine .after (.statement _) fun _ => .before (.hand _ _) fun _ => ?_
  refine .ite (fun _ => .count _ _) fun _ => .forM_nil fun payload => ?_
  exact .after (.statement _) fun _ => .ite (fun _ => .count _ _) fun _ => .count _ _

theorem queueSliceSmpp_hands (slice : ℕ) (payloads : List SmppPayload) :
    HandsOver start accountId ledger kept (queueSliceSmpp env faults slice payloads)
      (Route.smppQueue.entries (payloads.map SmppPayload.messageId)) := by
  unfold queueSliceSmpp
  cases payloads with
  | nil => exact .pure
  | cons payload payloads => exact publish_hands _ _ _

theorem refundAll_hands
    (refunds : ∀ db messageId, kept db → kept (refundMessage env.unicode db messageId env.now))
    (slice : ℕ) (costs : List (MessageId × Money)) (messageIds : List MessageId) :
    HandsOver start accountId ledger kept (refundAll env faults slice costs messageIds) [] := by
  unfold refundAll
  refine .forM_nil fun messageId => ?_
  unfold refundSingle
  refine .attempt ?_ ?_ fun _ => .pure
  · intro state
    by_cases due : 0 < costOf costs messageId
    · exact ⟨_, _, by rw [if_pos due]; rfl⟩
    · exact ⟨_, _, by rw [if_neg due]; rfl⟩
  · refine .ite (fun _ => ?_) fun _ => .pure
    exact .change (fun _ since => since.refundMessage _ _ _) fun _ => refunds _ _

include writes

theorem queueCommitBatchNodeRcs_hands
    (refunds : ∀ db messageId, kept db → kept (refundMessage env.unicode db messageId env.now))
    (slice : ℕ) {messageIds : List MessageId} (stored : ledger.Stored messageIds) :
    HandsOver start accountId ledger kept (queueCommitBatchNodeRcs env faults slice messageIds)
      (Route.nodeTask.entries messageIds) := by
  unfold queueCommitBatchNodeRcs
  refine .after (.statement _) fun _ => .get_bind fun current since => ?_
  cases messageIds with
  | nil =>
      have none : current.working.logsOf [] = [] := by simp [Db.logsOf]
      rw [none]
      exact .pure
  | cons messageId messageIds =>
      rcases stored messageId List.mem_cons_self with ⟨row, onLedger, isRow⟩
      have found := since.logsOf_ne_nil onLedger (by simp [isRow] :
        row.messageId ∈ messageId :: messageIds)
      have notEmpty : (current.working.logsOf (messageId :: messageIds)).isEmpty = false := by
        simpa using found
      simp only [notEmpty, Bool.false_eq_true, if_false]
      refine .after (replaceAndCommit_hands writes _ _) fun rows => .before (.hand _ _) fun _ => ?_
      refine .after (.attempt (fun _ => ⟨_, _, rfl⟩) .pure fun _ => .pure) fun answer => ?_
      cases answer with
      | error text =>
          refine .after (.change (fun _ since => since.update (neutral_rejected text))
            fun _ => writes _ _ _) fun _ => .after (.commit _) fun _ => ?_
          exact .after (refundAll_hands refunds _ _ _) fun _ => .pure
      | ok serial =>
          refine .after (.change (fun _ since => since.update (neutral_submitted serial))
            fun _ => writes _ _ _) fun _ => .after (.commit _) fun _ => .pure

theorem queueSliceHttp_hands
    (refunds : ∀ db messageId, kept db → kept (refundMessage env.unicode db messageId env.now))
    (slice : ℕ) (channel : Option Channel) {messageIds : List MessageId}
    (stored : ledger.Stored messageIds) :
    HandsOver start accountId ledger kept (queueSliceHttp env faults slice channel messageIds)
      ((httpRoute channel).entries messageIds) := by
  unfold queueSliceHttp httpRoute
  by_cases none : messageIds = []
  · subst none
    exact .pure
  · rw [if_neg (by simpa using none)]
    by_cases isNode : channel.any Channel.isNodeRcs = true
    · simp only [isNode, if_true]
      exact .before (queueCommitBatchNodeRcs_hands writes refunds slice stored)
        fun _ => .count _ _
    · simp only [if_neg isNode]
      exact .after (.statement _) fun _ => .before (.hand _ _) fun _ => .count _ _

theorem queueCommitBatch_hands
    (refunds : ∀ db messageId, kept db → kept (refundMessage env.unicode db messageId env.now))
    (slice : ℕ) (channel : Channel) {commitBatch : List (MessageId × Money)}
    (batchStatus : String) (stored : ledger.Stored (commitBatch.map Prod.fst)) :
    HandsOver start accountId ledger kept
      (queueCommitBatch env faults slice channel commitBatch batchStatus)
      (channel.commitRoute.entries (commitBatch.map Prod.fst)) := by
  unfold queueCommitBatch Channel.commitRoute
  by_cases isNode : channel.isNodeRcs = true
  · simp only [isNode, if_true]
    exact queueCommitBatchNodeRcs_hands writes refunds slice stored
  · simp only [if_neg isNode]
    by_cases isSmpp : channel.protocol = .smpp
    · simp only [isSmpp, if_true]
      refine .after (.statement _) fun _ => .get_bind fun current since => ?_
      refine .after_value (replaceAndCommit_hands writes _ _) (replaceAndCommit_returns _ _) ?_
      rintro _ rfl
      rw [payloadsOf_messageId batchStatus (since.stored stored)]
      exact .after (.statement _) fun _ => .before (.hand _ _) fun _ => .pure
    · simp only [if_neg isSmpp]
      refine .after (.statement _) fun _ => .before (.hand _ _) fun _ => ?_
      exact .after (refundAll_hands refunds _ _ _) fun _ => .pure

theorem queueGroup_hands (index : ℕ) (channel : Option Channel) (batchStatus : String)
    {commitBatch : List (MessageId × Money)} (before : Locals)
    (stored : ledger.Stored (commitBatch.map Prod.fst)) :
    Triple (Settled start accountId ledger kept (· = before))
      (queueGroup env faults index channel batchStatus commitBatch)
      (fun _ => Settled start accountId ledger kept (before.Handed
        (if before.virtualChannelId.isSome then []
        else (groupRoute channel).entries (commitBatch.map Prod.fst)))) (fun _ _ => True) := by
  unfold queueGroup groupRoute
  refine Triple.get_bind fun current settled => ?_
  have same : current.virtualChannelId = before.virtualChannelId := by rw [← settled.stands.locals]
  refine Triple.at_state (?_ : Triple (Settled start accountId ledger kept (· = before)) _ _ _)
    settled
  rw [same]
  by_cases isVirtual : before.virtualChannelId.isSome = true
  · simp only [isVirtual, if_true]
    exact HandsOver.count _ _ before
  · simp only [if_neg isVirtual]
    by_cases isSmpp : (channel.any fun channel => channel.protocol = .smpp) = true
    · simp only [isSmpp, if_true]
      have hands : HandsOver start accountId ledger kept (do
          Chunk.statement faults (.groupRead index)
          let found := (← get).working.logsOf (commitBatch.map Prod.fst)
          let rows ← replaceAndCommit env faults (.groupLinks index) found
          publish env faults (.groupPackage index) (.groupQueue index)
            (payloadsOf env batchStatus rows (commitBatch.map Prod.fst)))
          (Route.smppQueue.entries (commitBatch.map Prod.fst)) := by
        refine .after (.statement _) fun _ => .get_bind fun current since => ?_
        refine .after_value (replaceAndCommit_hands writes _ _) (replaceAndCommit_returns _ _) ?_
        rintro _ rfl
        refine cast (congrArg _ ?_) (publish_hands (.groupPackage index) (.groupQueue index)
          (payloadsOf env batchStatus
            ((current.working.logsOf (commitBatch.map Prod.fst)).map (SmsLog.linked env))
            (commitBatch.map Prod.fst)))
        rw [payloadsOf_messageId batchStatus (since.stored stored)]
      exact hands before
    · simp only [if_neg isSmpp]
      have hands : HandsOver start accountId ledger kept
          ((commitBatch.map Prod.fst).forM fun messageId => do
            Chunk.statement faults (.groupQueue index messageId)
            Chunk.hand .smsSend [messageId]
            if queueSms env.broker messageId then Chunk.count 1 0 else Chunk.count 0 1)
          ((commitBatch.map Prod.fst).flatMap fun messageId => Route.smsSend.entries [messageId]) :=
        .forM fun messageId _ => .after (.statement _) fun _ => .before (.hand _ _) fun _ =>
          .ite (fun _ => .count _ _) fun _ => .count _ _
      have singles : (commitBatch.map Prod.fst).flatMap
          (fun messageId => Route.smsSend.entries [messageId]) =
            Route.smsSend.entries (commitBatch.map Prod.fst) :=
        List.map_eq_flatMap.symm
      rw [singles] at hands
      exact hands before

end

end Klsmsc
