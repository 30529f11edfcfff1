import Klsmsc.Chunk.FallbackRun
import Klsmsc.Chunk.WriteRun

/-!
# What the worker refunds

The enqueue steps for HTTP commit batches and for the node refund the messages that they
could not hand over, through the refund service. It looks for the row of the message, so
this rests on the message ids being unique; it refunds a row once, with the price that it
was sold for, and puts the price back on the account.
-/

namespace Klsmsc

open Library

structure Plain (update : SmsLog → SmsLog) : Prop where
  core : ∀ row, (update row).core = row.core
  id : ∀ row, (update row).id = row.id
  refundedAt : ∀ row, (update row).refundedAt = row.refundedAt
  refundedAmount : ∀ row, (update row).refundedAmount = row.refundedAmount

theorem Plain.neutral {update : SmsLog → SmsLog} (plain : Plain update) : Neutral update where
  core := plain.core
  id := plain.id
  credit row := by rw [SmsLog.credit, SmsLog.credit, plain.refundedAt, plain.refundedAmount]

theorem plain_linked (env : ChunkEnv) : Plain (SmsLog.linked env) :=
  ⟨fun _ => rfl, fun _ => rfl, fun _ => rfl, fun _ => rfl⟩

theorem plain_rejected (text : String) : Plain fun row => row.rejected text :=
  ⟨fun _ => rfl, fun _ => rfl, fun _ => rfl, fun _ => rfl⟩

theorem plain_submitted (serial : Option String) : Plain fun row => row.submitted serial :=
  ⟨fun _ => rfl, fun _ => rfl, fun _ => rfl, fun _ => rfl⟩

structure SmsLog.PaidBack (due : Prop) (row : SmsLog) : Prop where
  refunded : row.refundedAt ≠ none ↔ due
  amount : row.refundedAt ≠ none → row.refundedAmount = some row.price

def Owing (mine : MessageId → Prop) (due : List MessageId) (db : Db) : Prop :=
  ∀ row ∈ db.smsLogs, mine row.messageId → row.PaidBack (row.messageId ∈ due)

section

variable {mine : MessageId → Prop} {due : List MessageId} {db : Db}

theorem SmsLog.PaidBack.plain {due : Prop} {row : SmsLog} {update : SmsLog → SmsLog}
    (plain : Plain update) (paid : row.PaidBack due) : (update row).PaidBack due := by
  have price : (update row).price = row.price := congrArg LogCore.price (plain.core row)
  refine ⟨?_, ?_⟩
  · rw [plain.refundedAt]
    exact paid.refunded
  · rw [plain.refundedAt, plain.refundedAmount, price]
    exact paid.amount

theorem Owing.update (owing : Owing mine due db) {condition : SmsLog → Bool}
    {update : SmsLog → SmsLog} (plain : Plain update) :
    Owing mine due (db.updateSmsLogs condition update) := by
  intro row member isMine
  rcases List.mem_map.mp member with ⟨before, beforeMem, rfl⟩
  by_cases changes : condition before = true
  · simp only [changes, if_true] at isMine ⊢
    have same : (update before).messageId = before.messageId :=
      congrArg LogCore.messageId (plain.core before)
    rw [same] at isMine ⊢
    exact (owing before beforeMem isMine).plain plain
  · simp only [changes] at isMine ⊢
    exact owing before beforeMem isMine

theorem Owing.insert (owing : Owing mine due db) {rows : List SmsLog}
    (new : ∀ row ∈ rows, row.refundedAt = none ∧ row.messageId ∉ due) :
    Owing mine due (db.insertSmsLogs rows) := by
  intro row member isMine
  rcases List.mem_append.mp member with old | placed
  · exact owing row old isMine
  · rcases List.mem_mapIdx.mp placed with ⟨index, inside, rfl⟩
    rcases new _ (List.getElem_mem inside) with ⟨notRefunded, notDue⟩
    exact ⟨by simp [notRefunded, notDue], by simp [notRefunded]⟩

theorem SmsLog.PaidBack.credit {due : Prop} [Decidable due] {row : SmsLog}
    (paid : row.PaidBack due) : row.credit = if due then row.price else 0 := by
  unfold SmsLog.credit
  by_cases isDue : due
  · have refunded := paid.refunded.mpr isDue
    rw [if_neg refunded, if_pos isDue, paid.amount refunded]
    rfl
  · have notRefunded : row.refundedAt = none := by
      by_contra refunded
      exact isDue (paid.refunded.mp refunded)
    rw [if_pos notRefunded, if_neg isDue]

end

def Account.receive (account : Account) (amount : Money) : Account :=
  { account with balance := account.balance + amount }

structure Tally (mine : MessageId → Prop) (accountId : ℕ) (due : List MessageId)
    (account : Option Account) (db : Db) : Prop where
  owing : Owing mine due db
  account : db.accounts accountId = account

section

variable {mine : MessageId → Prop} {due : List MessageId} {db start : Db} {accountId : ℕ}
  {ledger : Ledger} {account : Option Account}

def Ledger.Distinct (start : Db) (ledger : Ledger) : Prop :=
  (start.smsLogs.map SmsLog.messageId ++ ledger.rows.map LogCore.messageId).Nodup

theorem Since.nodup_messageId (since : Since start accountId ledger db)
    (distinct : ledger.Distinct start) : (db.smsLogs.map SmsLog.messageId).Nodup := by
  have same : db.smsLogs.map SmsLog.messageId =
      start.smsLogs.map SmsLog.messageId ++ ledger.rows.map LogCore.messageId := by
    have ids := congrArg (List.map LogCore.messageId) since.cores
    rw [List.map_append, List.map_map, List.map_map] at ids
    exact ids
  rw [same]
  exact distinct

theorem Since.find_messageId (since : Since start accountId ledger db)
    (distinct : ledger.Distinct start) {core : LogCore} (onLedger : core ∈ ledger.rows) :
    ∃ row ∈ db.smsLogs, row.core = core ∧
      (db.smsLogs.find? fun row => row.messageId = core.messageId) = some row := by
  have inTable : core ∈ db.smsLogs.map SmsLog.core := by
    rw [since.cores]
    exact List.mem_append_right _ onLedger
  rcases List.mem_map.mp inTable with ⟨row, member, isCore⟩
  have isRow : row.messageId = core.messageId := congrArg LogCore.messageId isCore
  refine ⟨row, member, isCore, ?_⟩
  rw [← isRow]
  exact find?_of_key (since.nodup_messageId distinct) member

theorem refundMessage_grants (unicode : Unicode) (now : ℕ)
    (since : Since start accountId ledger db) (distinct : ledger.Distinct start)
    {core : LogCore} (onLedger : core ∈ ledger.rows) (costs : 0 < core.price)
    (unpaid : ∀ row ∈ db.smsLogs, row.messageId = core.messageId → row.refundedAt = none) :
    ∃ row ∈ db.smsLogs, ∃ claim entry, row.core = core ∧ claim.smsLogId = row.id ∧
      claim.amount = core.price ∧
      refundMessage unicode db core.messageId now =
        ((db.updateSmsLogs claim.applies fun row => row.refunded claim).addBalance
          core.accountId core.price).addBalanceLog entry := by
  rcases since.find_messageId distinct onLedger with ⟨row, member, isCore, found⟩
  have isRow : row.messageId = core.messageId := congrArg LogCore.messageId isCore
  have price : row.price = core.price := congrArg LogCore.price isCore
  have owner : row.accountId = core.accountId := congrArg LogCore.accountId isCore
  have again : (db.smsLogs.find? fun other => other.id = row.id) = some row :=
    find?_of_key since.keyed member
  let claim := RefundCall.claim ⟨.autoRefund "batch_queue_fail" false, row.id⟩ row now
  let credited := (db.updateSmsLogs claim.applies fun row => row.refunded claim).addBalance
    claim.accountId claim.amount
  refine ⟨row, member, claim,
    (Refund.mk claim ((credited.balance claim.accountId).getD 0)).balanceLog, isCore, rfl, price, ?_⟩
  have granted : (RefundEntry.autoRefund "batch_queue_fail" false).grant unicode row =
      .ok "batch_queue_fail" := by
    simp [RefundEntry.grant, RefundEntry.check, unpaid row member isRow, price, costs]
  simp only [refundMessage, found, executeAutoRefund, again, granted]
  rw [← price, ← owner]
  rfl

theorem Tally.refund (unicode : Unicode) (now : ℕ) (tally : Tally mine accountId due account db)
    (since : Since start accountId ledger db) (distinct : ledger.Distinct start)
    {core : LogCore} (onLedger : core ∈ ledger.rows) (isMine : mine core.messageId)
    (owner : core.accountId = accountId) (costs : 0 < core.price)
    (notDue : core.messageId ∉ due) :
    Tally mine accountId (due ++ [core.messageId])
      (account.map fun account => account.receive core.price)
      (refundMessage unicode db core.messageId now) := by
  have unpaid : ∀ row ∈ db.smsLogs, row.messageId = core.messageId → row.refundedAt = none := by
    intro row member isRow
    have paid := (tally.owing row member (isRow ▸ isMine)).refunded
    rw [isRow] at paid
    by_contra refunded
    exact notDue (paid.mp refunded)
  rcases refundMessage_grants unicode now since distinct onLedger costs unpaid with
    ⟨row, member, claim, entry, isCore, claimed, amount, changed⟩
  rw [changed]
  refine ⟨?_, ?_⟩
  · intro after afterMem isMine
    rcases List.mem_map.mp afterMem with ⟨before, beforeMem, rfl⟩
    by_cases applies : claim.applies before = true
    · have isRow : before = row := by
        refine eq_of_key_eq since.keyed beforeMem member ?_
        rw [← claimed]
        simpa [Claim.applies] using (of_decide_eq_true applies).1
      subst isRow
      have isId : before.messageId = core.messageId := congrArg LogCore.messageId isCore
      have price : before.price = core.price := congrArg LogCore.price isCore
      simp only [applies, if_true]
      refine ⟨?_, fun _ => ?_⟩
      · simp [SmsLog.refunded, isId]
      · simp only [SmsLog.refunded, amount, ← price]
        rfl
    · simp only [applies] at isMine ⊢
      have paid := tally.owing before beforeMem isMine
      have other : before.messageId ≠ core.messageId := by
        intro same
        have isRow : before = row := by
          refine eq_of_key_eq (since.nodup_messageId distinct) beforeMem member ?_
          rw [same]
          exact (congrArg LogCore.messageId isCore).symm
        refine applies ?_
        simp [Claim.applies, isRow, claimed, unpaid row member (congrArg LogCore.messageId isCore)]
      refine ⟨?_, paid.amount⟩
      change before.refundedAt ≠ none ↔ before.messageId ∈ due ++ [core.messageId]
      rw [paid.refunded]
      simp [other]
  · simp only [Db.addBalanceLog_accounts, Db.addBalance, Db.updateSmsLogs_accounts, owner, if_true,
      tally.account]
    rfl

end

/-- A call that enqueues messages: the messages with their prices, those of which all
attempts fail, and whether the caller refunds these. -/
structure EnqueueCall where
  entries : List (MessageId × Money)
  fails : MessageId → Bool
  refunds : Bool

def EnqueueCall.unsent (call : EnqueueCall) : List (MessageId × Money) :=
  (call.entries.filter fun entry => call.fails entry.1).filter fun entry => 0 < entry.2

def EnqueueCall.refunded (call : EnqueueCall) : List (MessageId × Money) :=
  if call.refunds then call.unsent else []

def Account.refunded (account : Account) (entries : List (MessageId × Money)) : Account :=
  account.receive (entries.map Prod.snd).sum

structure Charged (mine : MessageId → Prop) (accountId : ℕ) (ledger : Ledger)
    (due : List MessageId) (entries : List (MessageId × Money)) : Prop where
  nodup : (entries.map Prod.fst).Nodup
  rows : ∀ entry ∈ entries, mine entry.1 ∧ entry.1 ∉ due ∧ ∃ core ∈ ledger.rows,
    core.messageId = entry.1 ∧ core.accountId = accountId ∧ core.price = entry.2

def Holds (property : Db → Prop) (state : ChunkState) : Prop :=
  property state.working

structure Booked (start : Db) (mine : MessageId → Prop) (accountId : ℕ) (ledger : Ledger)
    (due : List MessageId) (account : Option Account) (db : Db) : Prop where
  since : Since start accountId ledger db
  tally : Tally mine accountId due account db

section

variable {mine : MessageId → Prop} {due : List MessageId} {start : Db} {accountId : ℕ}
  {ledger : Ledger} {account : Option Account} {env : ChunkEnv}
  {entries : List (MessageId × Money)}

theorem Charged.sublist {part : List (MessageId × Money)}
    (charged : Charged mine accountId ledger due entries) (isPart : part.Sublist entries) :
    Charged mine accountId ledger due part :=
  ⟨charged.nodup.sublist (isPart.map _), fun entry member => charged.rows entry (isPart.subset member)⟩

theorem Charged.tail {entry : MessageId × Money}
    (charged : Charged mine accountId ledger due (entry :: entries)) :
    Charged mine accountId ledger (due ++ [entry.1]) entries := by
  have nodup := charged.nodup
  rw [List.map_cons, List.nodup_cons] at nodup
  refine ⟨nodup.2, fun other member => ?_⟩
  rcases charged.rows other (List.mem_cons_of_mem _ member) with ⟨isMine, notDue, row⟩
  refine ⟨isMine, ?_, row⟩
  have different : other.1 ≠ entry.1 := by
    intro same
    exact nodup.1 (same ▸ List.mem_map_of_mem member)
  simp [notDue, different]

theorem Account.refunded_cons (entry : MessageId × Money) (entries : List (MessageId × Money)) :
    (account.map fun account => (account.receive entry.2).refunded entries) =
      account.map fun account => account.refunded (entry :: entries) := by
  cases account with
  | none => rfl
  | some account => simp [Account.refunded, Account.receive, add_assoc]

theorem refunded_nil (account : Option Account) :
    (account.map fun account => account.refunded []) = account := by
  cases account <;> simp [Account.refunded, Account.receive]

theorem refundSingle_tallies {site : Site} {entry : MessageId × Money}
    (distinct : ledger.Distinct start)
    (charged : Charged mine accountId ledger due (entry :: entries)) (costs : 0 < entry.2) :
    Triple (Holds (Booked start mine accountId ledger due account))
      (refundSingle env .never site entry.2 entry.1)
      (fun _ => Holds (Booked start mine accountId ledger (due ++ [entry.1])
        (account.map fun account => account.receive entry.2)))
      (fun _ _ => False) := by
  rcases charged.rows entry List.mem_cons_self with ⟨isMine, notDue, core, onLedger, isCore, owner,
    price⟩
  unfold refundSingle
  simp only [statement_never, pure_bind, if_pos costs]
  refine Triple.catching (fun _ _ => False) ?_ (fun _ _ _ never => never)
    fun _ _ _ never => never.elim
  rintro state ⟨since, tally⟩
  refine Booked.mk (since.refundMessage _ _ _) ?_
  rw [← isCore] at isMine notDue ⊢
  rw [← price] at costs ⊢
  exact tally.refund env.unicode env.now since distinct onLedger isMine owner costs notDue

theorem refundSingle_free {site : Site} {amount : Money} {messageId : MessageId}
    {property : Db → Prop} (free : ¬0 < amount) :
    Triple (Holds property) (refundSingle env .never site amount messageId)
      (fun _ => Holds property) (fun _ _ => False) := by
  unfold refundSingle
  simp only [statement_never, pure_bind, if_neg free]
  intro state holds
  exact holds

theorem refundAll_tallies {slice : ℕ} {costs : List (MessageId × Money)}
    (distinct : ledger.Distinct start) (charged : Charged mine accountId ledger due entries)
    (known : ∀ entry ∈ entries, costOf costs entry.1 = entry.2) :
    Triple (Holds (Booked start mine accountId ledger due account))
      (refundAll env .never slice costs (entries.map Prod.fst))
      (fun _ => Holds (Booked start mine accountId ledger
        (due ++ (entries.filter fun entry => 0 < entry.2).map Prod.fst)
        (account.map fun account =>
          account.refunded (entries.filter fun entry => 0 < entry.2))))
      (fun _ _ => False) := by
  induction entries generalizing due account with
  | nil =>
      intro state holds
      simp only [List.filter_nil, List.map_nil, List.append_nil, refunded_nil]
      exact holds
  | cons entry entries ih =>
      rw [List.forall_mem_cons] at known
      change Triple _ (refundSingle env .never _ (costOf costs entry.1) entry.1 >>= fun _ =>
        refundAll env .never slice costs (entries.map Prod.fst)) _ _
      rw [known.1]
      by_cases costly : 0 < entry.2
      · refine Triple.bind (refundSingle_tallies distinct charged costly) fun _ => ?_
        have rest : Triple (Holds (Booked start mine accountId ledger (due ++ [entry.1])
            (account.map fun account => account.receive entry.2))) _ _ _ := ih charged.tail known.2
        simp only [Option.map_map, Function.comp_def, Account.refunded_cons] at rest
        simpa [costly] using rest
      · refine Triple.bind (refundSingle_free costly) fun _ => ?_
        simpa [costly] using ih (charged.sublist (List.sublist_cons_self _ _)) known.2

def Steady (property : Db → Prop) : Prop :=
  ∀ db rows update, Plain update → property db → property (Db.updateRows db rows update)

theorem Booked.steady : Steady (Booked start mine accountId ledger due account) :=
  fun _ _ _ plain booked =>
    ⟨booked.since.update plain.neutral, booked.tally.owing.update plain, booked.tally.account⟩

section

variable {property : Db → Prop} {batchStatus : String}

theorem replaceAndCommit_keeps (steady : Steady property) (site : Site) (rows : List SmsLog) :
    Keeps (Holds property) (replaceAndCommit env .never site rows) := by
  unfold replaceAndCommit replaceTrackUrlsForLogs
  simp only [flush_never, pure_bind, bind_assoc]
  refine .bind (.modify fun _ holds => steady _ _ _ (plain_linked env) holds) fun _ => ?_
  exact .ite (fun _ => .bind (.modify fun _ holds => holds) fun _ => .pure) fun _ => .pure

theorem publish_keeps (site : Site) (single : MessageId → Site) (payloads : List SmppPayload) :
    Keeps (Holds property) (publish env .never site single payloads) := by
  unfold publish
  simp only [statement_never, pure_bind]
  refine .bind (.modify fun _ holds => holds) fun _ => .ite (fun _ => .modify fun _ holds => holds)
    fun _ => .forM fun _ _ => ?_
  exact .ite (fun _ => .modify fun _ holds => holds) fun _ => .modify fun _ holds => holds

theorem queueSliceSmpp_keeps (slice : ℕ) (payloads : List SmppPayload) :
    Keeps (Holds property) (queueSliceSmpp env .never slice payloads) :=
  .ite (fun _ => .pure) fun _ => publish_keeps _ _ _

theorem queueGroup_keeps (steady : Steady property) (index : ℕ) (channel : Option Channel)
    (commitBatch : List (MessageId × Money)) :
    Keeps (Holds property) (queueGroup env .never index channel batchStatus commitBatch) := by
  unfold queueGroup
  simp only [statement_never, pure_bind]
  refine .get_bind fun _ _ => .ite (fun _ => .modify fun _ holds => holds) fun _ => ?_
  refine .ite (fun _ => .get_bind fun _ _ => ?_) fun _ => .forM fun _ _ => ?_
  · exact .bind (replaceAndCommit_keeps steady _ _) fun _ => publish_keeps _ _ _
  · refine .bind (.modify fun _ holds => holds) fun _ => ?_
    exact .ite (fun _ => .modify fun _ holds => holds) fun _ => .modify fun _ holds => holds

end

section

variable (env : ChunkEnv) (entries : List (MessageId × Money))

/-- All attempts at an SMPP message fail: with its package, in the loop inside the bulk call,
and in the loop of the caller. -/
def ChunkEnv.smppFails (package : List MessageId) (messageId : MessageId) : Bool :=
  !env.publishes (.smppPackage package) && !env.publishes (.smppDegraded messageId) &&
    !env.publishes (.smppSingle messageId)

def smppCall : EnqueueCall where
  entries := entries
  fails := env.smppFails (entries.map Prod.fst)
  refunds := false

def bulkCall (refunds : Bool) : EnqueueCall where
  entries := entries
  fails messageId := messageId ∈ (queueSmsBulk env.broker (entries.map Prod.fst)).2
  refunds := refunds

def nodeCall : EnqueueCall where
  entries := entries
  fails _ := !(env.submitTask (entries.map Prod.fst)).isOk
  refunds := true

def groupCall : EnqueueCall where
  entries := entries
  fails messageId := !queueSms env.broker messageId
  refunds := false

end

theorem costOf_found {db : Db} (since : Since start accountId ledger db)
    (distinct : ledger.Distinct start) {messageIds : List MessageId} {core : LogCore}
    (onLedger : core ∈ ledger.rows) (asked : core.messageId ∈ messageIds) :
    costOf ((db.logsOf messageIds).map fun row => (row.messageId, row.price)) core.messageId =
      core.price := by
  have inTable : core ∈ db.smsLogs.map SmsLog.core := by
    rw [since.cores]
    exact List.mem_append_right _ onLedger
  rcases List.mem_map.mp inTable with ⟨row, member, isCore⟩
  have isRow : row.messageId = core.messageId := congrArg LogCore.messageId isCore
  have found : row ∈ db.logsOf messageIds :=
    List.mem_filter.mpr ⟨member, by simpa [isRow] using asked⟩
  have keyed : ((db.logsOf messageIds).map SmsLog.messageId).Nodup :=
    (since.nodup_messageId distinct).sublist (List.filter_sublist.map _)
  have searched : ((db.logsOf messageIds).find? fun row => row.messageId = core.messageId) =
      some row := by
    rw [← isRow]
    exact find?_of_key keyed found
  simp only [costOf, List.find?_map, Function.comp_def, searched, Option.map_some, Option.getD_some]
  exact congrArg LogCore.price isCore

theorem queueCommitBatchNodeRcs_tallies {slice : ℕ} (distinct : ledger.Distinct start)
    (charged : Charged mine accountId ledger due entries) :
    Triple (Holds (Booked start mine accountId ledger due account))
      (queueCommitBatchNodeRcs env .never slice (entries.map Prod.fst))
      (fun _ => Holds (Booked start mine accountId ledger
        (due ++ (nodeCall env entries).refunded.map Prod.fst)
        (account.map fun account => account.refunded (nodeCall env entries).refunded)))
      (fun _ _ => True) := by
  have steady : Steady (Booked start mine accountId ledger due account) := Booked.steady
  have idle := refunded_nil account
  unfold queueCommitBatchNodeRcs
  simp only [statement_never, pure_bind]
  refine Triple.get_bind fun current holds => Triple.at_state ?_ holds
  by_cases none : entries = []
  · subst none
    have nothing : (current.working.logsOf (([] : List (MessageId × Money)).map Prod.fst)).isEmpty =
        true := by
      simp [Db.logsOf]
    have same : (nodeCall env []).refunded = [] := rfl
    rw [if_pos nothing, same, List.map_nil, List.append_nil, idle]
    exact fun _ holds => holds
  · rcases List.exists_mem_of_ne_nil _ none with ⟨first, isFirst⟩
    rcases charged.rows first isFirst with ⟨_, _, core, onLedger, isCore, _⟩
    have some : ¬(current.working.logsOf (entries.map Prod.fst)).isEmpty = true := by
      have found := holds.since.logsOf_ne_nil onLedger
        (isCore ▸ List.mem_map_of_mem isFirst : core.messageId ∈ entries.map Prod.fst)
      simpa using found
    have known : ∀ entry ∈ entries, costOf ((current.working.logsOf (entries.map Prod.fst)).map
        fun row => (row.messageId, row.price)) entry.1 = entry.2 := by
      intro entry member
      rcases charged.rows entry member with ⟨_, _, core, onLedger, isCore, _, price⟩
      rw [← isCore, ← price]
      exact costOf_found holds.since distinct onLedger (isCore ▸ List.mem_map_of_mem member)
    rw [if_neg some]
    refine Triple.bind (replaceAndCommit_keeps steady _ _) fun rows => ?_
    refine Triple.seq (fun _ => Holds (Booked start mine accountId ledger due account))
      (fun _ holds => holds) fun _ => ?_
    refine Triple.seq (fun answer state => answer = (env.submitTask (entries.map Prod.fst)).mapError
      (truncate 255) ∧ Holds (Booked start mine accountId ledger due account) state) ?_ ?_
    · exact fun state holds => ⟨rfl, holds⟩
    · intro answer
      refine Triple.assume fun isAnswer => ?_
      subst isAnswer
      cases submitted : env.submitTask (entries.map Prod.fst) with
      | error text =>
          have all : (nodeCall env entries).refunded = entries.filter fun entry => 0 < entry.2 := by
            simp [nodeCall, EnqueueCall.refunded, EnqueueCall.unsent, submitted, Except.isOk,
              Except.toBool]
          rw [all]
          refine Triple.seq (fun _ => Holds (Booked start mine accountId ledger due account))
            (fun _ holds => steady _ _ _ (plain_rejected _) holds) fun _ => ?_
          refine Triple.seq (fun _ => Holds (Booked start mine accountId ledger due account))
            (fun _ holds => holds) fun _ => ?_
          refine Triple.bind ((refundAll_tallies distinct charged known).weaken
            (fun _ holds => holds) (fun _ _ holds => holds) fun _ _ _ => trivial) fun _ => ?_
          exact fun _ holds => holds
      | ok serial =>
          have nothing : (nodeCall env entries).refunded = [] := by
            simp [nodeCall, EnqueueCall.refunded, EnqueueCall.unsent, submitted, Except.isOk,
              Except.toBool]
          rw [nothing, List.map_nil, List.append_nil, idle]
          refine Triple.seq (fun _ => Holds (Booked start mine accountId ledger due account))
            (fun _ holds => steady _ _ _ (plain_submitted _) holds) fun _ => ?_
          exact Triple.seq (fun _ => Holds (Booked start mine accountId ledger due account))
            (fun _ holds => holds) fun _ _ holds => holds

theorem queueSmsBulk_refused (entries : List (MessageId × Money)) (refunds : Bool) :
    (queueSmsBulk env.broker (entries.map Prod.fst)).2 =
      (entries.filter fun entry => (bulkCall env entries refunds).fails entry.1).map
        Prod.fst := by
  have fails : ∀ entry ∈ entries, (bulkCall env entries refunds).fails entry.1 =
      !(if env.broker.fails (.smsProducer (entries.map Prod.fst)) 0 then queueSms env.broker
        else fun messageId => env.broker.accepts (.smsBulk messageId)) entry.1 := by
    intro entry member
    have isId : entry.1 ∈ entries.map Prod.fst := List.mem_map_of_mem member
    simp only [bulkCall, queueSmsBulk, List.mem_filter, isId, true_and, Bool.decide_eq_true]
  rw [List.filter_congr fails]
  simp only [queueSmsBulk, List.filter_map]
  rfl

theorem costOf_entries (nodup : (entries.map Prod.fst).Nodup) {entry : MessageId × Money}
    (member : entry ∈ entries) : costOf entries entry.1 = entry.2 := by
  rw [costOf, find?_of_key nodup member]
  rfl

section

variable (env : ChunkEnv)

/-- The calls of `_queue_commit_batch`. -/
def commitCalls (channel : Channel) (entries : List (MessageId × Money)) : List EnqueueCall :=
  if channel.isNodeRcs then [nodeCall env entries]
  else if channel.protocol = .smpp then (slices env.smppWindowSize entries).map (smppCall env)
  else [bulkCall env entries true]

def sliceHttpCall (channel : Option Channel) (entries : List (MessageId × Money)) : EnqueueCall :=
  if channel.any Channel.isNodeRcs then nodeCall env entries else bulkCall env entries false

end

def refundedBy (calls : List EnqueueCall) : List (MessageId × Money) :=
  calls.flatMap EnqueueCall.refunded

theorem commitCalls_smpp {channel : Channel} (notNode : channel.isNodeRcs ≠ true)
    (isSmpp : channel.protocol = .smpp) :
    refundedBy (commitCalls env channel entries) = [] := by
  rw [refundedBy, commitCalls, if_neg notNode, if_pos isSmpp, List.flatMap_map,
    List.flatMap_eq_nil_iff]
  exact fun _ _ => rfl

theorem queueCommitBatch_tallies {slice : ℕ} {channel : Channel} {batchStatus : String}
    (distinct : ledger.Distinct start) (charged : Charged mine accountId ledger due entries) :
    Triple (Holds (Booked start mine accountId ledger due account))
      (queueCommitBatch env .never slice channel entries batchStatus)
      (fun _ => Holds (Booked start mine accountId ledger
        (due ++ (refundedBy (commitCalls env channel entries)).map Prod.fst)
        (account.map fun account =>
          account.refunded (refundedBy (commitCalls env channel entries)))))
      (fun _ _ => True) := by
  have steady : Steady (Booked start mine accountId ledger due account) := Booked.steady
  unfold queueCommitBatch
  by_cases isNode : channel.isNodeRcs = true
  · have calls : refundedBy (commitCalls env channel entries) = (nodeCall env entries).refunded := by
      simp [refundedBy, commitCalls, isNode]
    rw [calls, if_pos isNode]
    exact queueCommitBatchNodeRcs_tallies distinct charged
  · rw [if_neg isNode]
    simp only [statement_never, pure_bind]
    by_cases isSmpp : channel.protocol = .smpp
    · rw [if_pos isSmpp, commitCalls_smpp isNode isSmpp, List.map_nil, List.append_nil, refunded_nil]
      refine Triple.get_bind fun current holds => Triple.at_state ?_ holds
      refine Triple.bind (replaceAndCommit_keeps steady _ _) fun rows => ?_
      exact Triple.seq (fun _ => Holds (Booked start mine accountId ledger due account))
        (fun _ holds => holds) fun _ _ holds => holds
    · have calls : refundedBy (commitCalls env channel entries) =
          (entries.filter fun entry => (bulkCall env entries true).fails entry.1).filter
            fun entry => 0 < entry.2 := by
        simp [refundedBy, commitCalls, isNode, isSmpp, EnqueueCall.refunded, EnqueueCall.unsent,
          bulkCall]
      rw [if_neg isSmpp, calls]
      refine Triple.seq (fun _ => Holds (Booked start mine accountId ledger due account))
        (fun _ holds => holds) fun _ => ?_
      rw [queueSmsBulk_refused entries true]
      have part : (entries.filter fun entry => (bulkCall env entries true).fails entry.1).Sublist
          entries := List.filter_sublist
      refine Triple.bind ((refundAll_tallies distinct (charged.sublist part) fun entry member =>
        costOf_entries charged.nodup (part.subset member)).weaken (fun _ holds => holds)
          (fun _ _ holds => holds) fun _ _ _ => trivial) fun _ _ holds => holds

theorem queueSliceHttp_tallies {slice : ℕ} {channel : Option Channel}
    (distinct : ledger.Distinct start) (charged : Charged mine accountId ledger due entries) :
    Triple (Holds (Booked start mine accountId ledger due account))
      (queueSliceHttp env .never slice channel (entries.map Prod.fst))
      (fun _ => Holds (Booked start mine accountId ledger
        (due ++ (sliceHttpCall env channel entries).refunded.map Prod.fst)
        (account.map fun account => account.refunded (sliceHttpCall env channel entries).refunded)))
      (fun _ _ => True) := by
  unfold queueSliceHttp
  by_cases isNode : channel.any Channel.isNodeRcs = true
  · have call : sliceHttpCall env channel entries = nodeCall env entries := if_pos isNode
    rw [call, if_pos isNode]
    by_cases none : entries = []
    · subst none
      have same : (nodeCall env []).refunded = [] := rfl
      rw [same, List.map_nil, List.append_nil, refunded_nil]
      exact fun _ holds => holds
    · have some : ¬(entries.map Prod.fst).isEmpty = true := by simpa using none
      rw [if_neg some]
      exact Triple.bind (queueCommitBatchNodeRcs_tallies distinct charged) fun _ _ holds => holds
  · have call : (sliceHttpCall env channel entries).refunded = [] := by
      rw [sliceHttpCall, if_neg isNode]
      rfl
    rw [call, if_neg isNode, List.map_nil, List.append_nil, refunded_nil]
    simp only [statement_never, pure_bind]
    refine Triple.ite (fun _ _ holds => holds) fun _ => ?_
    exact Triple.seq (fun _ => Holds (Booked start mine accountId ledger due account))
      (fun _ holds => holds) fun _ _ holds => holds

end

end Klsmsc
