import Klsmsc.BuyAndSend.Settled
import Klsmsc.DirectSends.Settled
import Klsmsc.SmallBatch.Treatment

/-!
# Batches that refund nothing

The synchronous path of `send_batch_sms` and the task of `buy_and_send` leave a message that they
could not enqueue as it is: charged, and with the status that it has been stored with. So they
settle when there is no such message, and when a small batch reports no message as failed that has
a price. With the requests for single messages, these are all the ways from a charge of the API to
the queue.
-/

namespace Klsmsc

open Library

/-! ### The outcomes -/

def SmallBatch.published (env : ApiEnv) (batch : SmallBatch) (batchId : ℕ) : List MessageId :=
  (publishedPayloads (publishSmpp env.broker (batch.payloads env batchId)).2).map
      SmppPayload.messageId ++
    ((batch.booked.filter fun message => !message.isSmpp).map BookedMessage.messageId).filter
      (queueSms env.broker)

/-- The outcome of the synchronous path of `send_batch_sms`. -/
def smallBatchOutcome (env : ApiEnv) (check : WordCheck) (input : ChunkInput) (db : Db) :
    SendOutcome :=
  let booked := bookSmallBatch env check input db
  let sent := sendSmallBatch env check input db
  chargedOutcome db sent.db (fun messageId => messageId ∉ booked.published env input.batchId)
    (sent.results.filterMap fun report => if report.success then none else report.messageId)

namespace BuySend

def attemptedBy (before : BuySend) : BuySendLabel → List MessageId
  | .publish attempt _ =>
      match before.attempts attempt with
      | .sending values => (values.calls.take 1).flatMap SendCall.messageIds
      | _ => []
  | _ => []

def attemptedIn (transitions : List (Transition BuySend BuySendLabel)) : List MessageId :=
  transitions.flatMap fun transition => transition.before.attemptedBy transition.label

/-- The outcome of a run of the task of `buy_and_send`. The purchase has charged the account, and
the task charges nothing. -/
def outcome (task : BuySendTask) (first last : BuySend)
    (transitions : List (Transition BuySend BuySendLabel)) : SendOutcome where
  before := first.db
  after := last.db
  rows := last.db.batchLogs task.batchId
  charged _ := 0
  lost messageId := messageId ∈ attemptedIn transitions ∧ messageId ∉ last.handed
  reported := []

end BuySend

/-- Every message that a small batch has charged is enqueued by some attempt, and it is reported
as enqueued or free of charge. -/
def SmallBatch.EnqueuesAll (env : ApiEnv) (batch : SmallBatch) (batchId : ℕ) : Prop :=
  ∀ message ∈ batch.booked, message.messageId ∈ batch.published env batchId ∧
    (batch.isQueued env batchId message = true ∨ message.row.price ≤ 0)

def BuySend.EnqueuesAll (task : BuySendTask) (last : BuySend)
    (transitions : List (Transition BuySend BuySendLabel)) : Prop :=
  ∀ row ∈ last.db.batchLogs task.batchId,
    row.messageId ∈ BuySend.attemptedIn transitions → row.messageId ∈ last.handed


/-! ### A small batch -/

namespace SmallBatch

section

variable {env : ApiEnv} {account : Account} {check : WordCheck} {input : ChunkInput}
  {before : Db} {index : ℕ} {batch : SmallBatch}

/-- The loop over the recipients: the rows of the booked messages have been added, and the reports
are about recipients without a message. -/
structure Sound (env : ApiEnv) (before : Db) (index : ℕ) (batch : SmallBatch) : Prop where
  settling : Settling before (batch.booked.map BookedMessage.row) batch.db
  unused : env.Unused index batch.db
  queued : ∀ message ∈ batch.booked,
    message.row.status = .queued ∧ message.row.refundedAt = none
  refusals : ∀ report ∈ batch.results, report.messageId = none

theorem Sound.start {db : Db} (unused : env.Unused 0 db) : (start db).Sound env db 0 where
  settling := .start db
  unused := unused
  queued _ member := absurd member List.not_mem_nil
  refusals _ member := absurd member List.not_mem_nil

theorem Sound.book (sound : batch.Sound env before index)
    (distinct : Function.Injective env.drawnId) (phone : String) :
    (book env account check input index phone batch).Sound env before (index + 1) := by
  rcases book_cases env account check input index phone batch with
    ⟨error, refused⟩ | ⟨accepted, paid, charge, accepts, charged, isBooked⟩
  · rw [refused]
    refine ⟨sound.settling, ?_, sound.queued, ?_⟩
    · exact ⟨sound.unused.keyed, fun stored member later isLater =>
        sound.unused.fresh stored member later (Nat.le_of_succ_le isLater)⟩
    · intro report member
      rcases List.mem_append.mp member with old | isNew
      · exact sound.refusals report old
      · rw [List.mem_singleton.mp isNew]
  · have sameId : paid.nextId = batch.db.nextId := by
      rw [Db.nextId, (calculateAndCharge_spec charged).1, Db.nextId]
    have booking : Booking batch.db
        (paid.addSmsLogs [row env input index paid.nextId accepted charge])
        (row env input index paid.nextId accepted charge) :=
      booking_of_charged _ charged rfl rfl sameId rfl rfl
    rw [isBooked]
    refine ⟨?_, sound.unused.book booking distinct rfl, ?_, sound.refusals⟩
    · simpa using sound.settling.book booking
    · intro message member
      rcases List.mem_append.mp member with old | isNew
      · exact sound.queued message old
      · rw [List.mem_singleton.mp isNew]
        exact ⟨rfl, rfl⟩

theorem Sound.bookAll (distinct : Function.Injective env.drawnId) (phones : List String)
    (sound : batch.Sound env before index) :
    ∃ last, (bookAll env account check input index phones batch).Sound env before last := by
  induction phones generalizing index batch with
  | nil => exact ⟨index, sound⟩
  | cons phone phones ih => exact ih (sound.book distinct phone)

theorem bookSmallBatch_sound (distinct : Function.Injective env.drawnId) {db : Db}
    (unused : env.Unused 0 db) :
    ∃ last, (bookSmallBatch env check input db).Sound env db last := by
  rw [bookSmallBatch]
  split
  · exact ⟨0, .start unused⟩
  · exact Sound.bookAll distinct _ (.start unused)

theorem balance_modifyBatch (db : Db) (batchId : ℕ) (change : SmsBatch → SmsBatch)
    (accountId : ℕ) : (db.modifyBatch batchId change).balance accountId = db.balance accountId := by
  rw [Db.modifyBatch]
  split <;> rfl

theorem settling_modifyBatch {rows : List SmsLog} {db : Db} (settling : Settling before rows db)
    (batchId : ℕ) (change : SmsBatch → SmsBatch) :
    Settling before rows (db.modifyBatch batchId change) :=
  settling.of_same (smsLogs_modifyBatch db batchId change) (balance_modifyBatch db batchId change)

theorem settling_updateBatchProgress {rows : List SmsLog} {db : Db}
    (settling : Settling before rows db) (unicode : Unicode) (batchId now : ℕ) (report : String) :
    ∃ later : SmsLog → SmsLog, (∀ row, Lasting row (later row)) ∧
      Settling before (rows.map later) (db.updateBatchProgress unicode batchId now report) := by
  have unchanged : ∀ row : SmsLog, Lasting row (id row) := fun _ => ⟨rfl, rfl, rfl, rfl, id⟩
  rw [Db.updateBatchProgress]
  split
  · exact ⟨id, unchanged, by simpa using settling⟩
  · refine ⟨id, unchanged, ?_⟩
    rw [List.map_id]
    exact settling.of_same rfl fun _ => rfl
  · rename_i batch expiring total _
    rcases settling.update (fun row => row.messageId ∈ expiring.map SmsLog.messageId)
      (fun row => { row with
        status := .expired, errorMessage := some report, sentTime := some now })
      (fun _ => ⟨rfl, rfl, rfl, rfl, fun failed => by cases failed⟩) with ⟨later, lasting, after⟩
    exact ⟨later, lasting, after.of_same rfl fun _ => rfl⟩

theorem Sound.finish (sound : batch.Sound env before index) (batchId succeeded : ℕ) :
    ∃ later : SmsLog → SmsLog, (∀ row, Lasting row (later row)) ∧
      Settling before ((batch.booked.map BookedMessage.row).map later)
        (SmallBatch.finish env.toChunkEnv batchId succeeded (batch.replaceLinks env)) := by
  rcases sound.settling.update (fun row => row.messageId ∈ batch.smppIds)
    (SmsLog.linked env.toChunkEnv) (fun _ => ⟨rfl, rfl, rfl, rfl, id⟩) with
    ⟨linked, linkedLasts, settling⟩
  have replaced : Settling before ((batch.booked.map BookedMessage.row).map linked)
      (batch.replaceLinks env) := settling
  have counted := settling_modifyBatch replaced
  rw [SmallBatch.finish]
  split
  · exact ⟨linked, linkedLasts, settling_modifyBatch (counted _ _) _ _⟩
  · rcases settling_updateBatchProgress (counted batchId _) env.unicode batchId env.now
      env.expiredReport with ⟨updated, updatedLasts, after⟩
    refine ⟨updated ∘ linked, ?_, ?_⟩
    · intro row
      have first := linkedLasts row
      have second := updatedLasts (linked row)
      exact ⟨second.messageId.trans first.messageId, second.accountId.trans first.accountId,
        second.price.trans first.price, second.credit.trans first.credit,
        fun failed => first.status (second.status failed)⟩
    · rw [← List.map_map]
      exact settling_modifyBatch after _ _

theorem Sound.eq_of_messageId (sound : batch.Sound env before index) {left right : BookedMessage}
    (leftMember : left ∈ batch.booked) (rightMember : right ∈ batch.booked)
    (same : left.messageId = right.messageId) : left = right := by
  rcases sound.settling.logs with ⟨kept, -, logs⟩
  have distinct := sound.unused.keyed.messageIds
  rw [logs, List.map_append, List.map_map] at distinct
  have own : (batch.booked.map BookedMessage.messageId).Nodup :=
    (List.nodup_append'.mp distinct).2.1
  exact List.inj_on_of_nodup_map own leftMember rightMember same

theorem Sound.mem_reported (sound : batch.Sound env before index) (batchId : ℕ)
    {message : BookedMessage} (member : message ∈ batch.booked) :
    message.messageId ∈ (batch.results ++ batch.reports env batchId).filterMap (fun report =>
        if report.success then none else report.messageId) ↔
      batch.isQueued env batchId message = false := by
  have among : ∀ other, other ∈ (batch.booked.filter BookedMessage.isSmpp) ++
      (batch.booked.filter fun message => !message.isSmpp) ↔ other ∈ batch.booked := by
    intro other
    rw [List.mem_append, List.mem_filter, List.mem_filter, ← and_or_left]
    cases other.isSmpp <;> simp
  constructor
  · intro isReported
    rcases List.mem_filterMap.mp isReported with ⟨report, isReport, isId⟩
    rcases List.mem_append.mp isReport with isRefusal | isAnswer
    · rw [sound.refusals report isRefusal, ite_self] at isId
      cases isId
    · rcases List.mem_map.mp isAnswer with ⟨other, isOther, rfl⟩
      rw [SmallBatch.report] at isId
      split at isId
      · cases isId
      · rename_i refused
        have same : other.messageId = message.messageId := Option.some.inj isId
        rw [sound.eq_of_messageId ((among other).mp isOther) member same] at refused
        exact Bool.eq_false_iff.mpr refused
  · intro refused
    refine List.mem_filterMap.mpr ⟨batch.report env batchId message, ?_, ?_⟩
    · exact List.mem_append_right _ (List.mem_map_of_mem ((among message).mpr member))
    · simp [SmallBatch.report, refused]

end

theorem settles_iff {env : ApiEnv} {check : WordCheck} {db : Db}
    (distinct : Function.Injective env.drawnId) (unused : env.Unused 0 db) (input : ChunkInput) :
    (smallBatchOutcome env check input db).Settles ↔
      (bookSmallBatch env check input db).EnqueuesAll env input.batchId := by
  rcases @bookSmallBatch_sound env check input distinct db unused with ⟨last, sound⟩
  let results := (bookSmallBatch env check input db).results ++
    (bookSmallBatch env check input db).reports env input.batchId
  rcases sound.finish input.batchId (results.countP RecipientReport.success) with
    ⟨later, lasting, settling⟩
  have isRow : ∀ message ∈ (bookSmallBatch env check input db).booked, later message.row ∈
      ((bookSmallBatch env check input db).booked.map BookedMessage.row).map later :=
    fun message member => List.mem_map_of_mem (List.mem_map_of_mem member)
  have costs : ∀ message ∈ (bookSmallBatch env check input db).booked,
      (later message.row).CostsNothing ↔ message.row.price ≤ 0 := by
    intro message member
    rw [SmsLog.CostsNothing, (lasting _).price, (lasting _).credit,
      credit_of_unrefunded (sound.queued message member).2]
  refine (settling.settles_iff _ _).trans ?_
  constructor
  · rintro ⟨whole, told⟩ message member
    have sameId : (later message.row).messageId = message.messageId :=
      (lasting message.row).messageId
    constructor
    · by_contra lost
      have failed := (whole _ (isRow message member) (sameId ▸ lost)).1
      have status := (lasting _).status failed
      rw [(sound.queued message member).1] at status
      cases status
    · cases isQueued : (bookSmallBatch env check input db).isQueued env input.batchId message with
      | true => exact .inl rfl
      | false =>
          refine .inr ((costs message member).mp (told _ (isRow message member) ?_))
          rw [sameId]
          exact (sound.mem_reported input.batchId member).mpr isQueued
  · intro enqueues
    have fromBooked : ∀ row ∈ ((bookSmallBatch env check input db).booked.map
        BookedMessage.row).map later, ∃ message ∈ (bookSmallBatch env check input db).booked,
          later message.row = row ∧ row.messageId = message.messageId := by
      intro row member
      rcases List.mem_map.mp member with ⟨stored, isStored, rfl⟩
      rcases List.mem_map.mp isStored with ⟨message, isMessage, rfl⟩
      exact ⟨message, isMessage, rfl, (lasting _).messageId⟩
    constructor
    · intro row member lost
      rcases fromBooked row member with ⟨message, isMessage, -, sameId⟩
      rw [sameId] at lost
      exact absurd (enqueues message isMessage).1 lost
    · intro row member isReported
      rcases fromBooked row member with ⟨message, isMessage, rfl, sameId⟩
      rw [sameId] at isReported
      have refused := (sound.mem_reported input.batchId isMessage).mp isReported
      rcases (enqueues message isMessage).2 with isQueued | free
      · rw [refused] at isQueued
        cases isQueued
      · exact (costs message isMessage).mpr free

end SmallBatch

/-! ### The task of an order -/

def Untreated (batchId : ℕ) (db : Db) : Prop :=
  ∀ row ∈ db.batchLogs batchId, row.status ≠ .failed ∧ row.refundedAt = none

namespace Untreated

variable {batchId : ℕ} {db : Db}

theorem of_same (untreated : Untreated batchId db) {other : Db}
    (same : other.smsLogs = db.smsLogs) : Untreated batchId other := by
  rw [Untreated, batchLogs_congr db batchId same]
  exact untreated

theorem update (untreated : Untreated batchId db) (condition : SmsLog → Bool)
    (change : SmsLog → SmsLog) (sameBatch : ∀ row, (change row).batchId = row.batchId)
    (status : ∀ row, (change row).status = .failed → row.status = .failed)
    (refundedAt : ∀ row, (change row).refundedAt = row.refundedAt) :
    Untreated batchId (db.updateSmsLogs condition change) := by
  intro row member
  rw [Db.batchLogs, Db.updateSmsLogs_smsLogs, List.mem_filter] at member
  rcases List.mem_map.mp member.1 with ⟨stored, inside, rfl⟩
  have own := of_decide_eq_true member.2
  cases changed : condition stored with
  | true =>
      rw [changed, if_pos rfl, sameBatch] at own
      have before := untreated stored (List.mem_filter.mpr ⟨inside, decide_eq_true own⟩)
      rw [if_pos rfl, refundedAt]
      exact ⟨fun failed => before.1 (status stored failed), before.2⟩
  | false =>
      rw [changed] at own
      exact untreated stored (List.mem_filter.mpr ⟨inside, decide_eq_true own⟩)

theorem addSmsLogs (untreated : Untreated batchId db) {rows : List SmsLog}
    (added : ∀ row ∈ rows, row.status ≠ .failed ∧ row.refundedAt = none) :
    Untreated batchId (db.addSmsLogs rows) := by
  intro row member
  rw [Db.batchLogs, Db.addSmsLogs_smsLogs, List.filter_append] at member
  rcases List.mem_append.mp member with old | isNew
  · exact untreated row old
  · exact added row (List.mem_of_mem_filter isNew)

theorem updateBatchProgress (untreated : Untreated batchId db) (unicode : Unicode)
    (other now : ℕ) (report : String) :
    Untreated batchId (db.updateBatchProgress unicode other now report) := by
  rw [Db.updateBatchProgress]
  split
  · exact untreated
  · exact untreated.of_same rfl
  · rename_i batch expiring total _
    refine (untreated.update (fun row => row.messageId ∈ expiring.map SmsLog.messageId)
      (fun row => { row with
        status := .expired, errorMessage := some report, sentTime := some now })
      (fun _ => rfl) ?_ fun _ => rfl).of_same rfl
    intro row failed
    cases failed

end Untreated

namespace BuySend

variable {task : BuySendTask} {state first last : BuySend}

theorem untreated_sendRows (env : BuySendEnv) (drawn : MessageId) (firstLogId : ℕ) :
    ∀ row ∈ sendRows env task drawn firstLogId, row.status ≠ .failed ∧ row.refundedAt = none := by
  intro row member
  rcases List.mem_mapIdx.mp member with ⟨index, inside, rfl⟩
  refine ⟨?_, rfl⟩
  intro failed
  cases failed

theorem untreated_next {label : BuySendLabel} {after : BuySend}
    (step : state.Step task label after) (untreated : Untreated task.batchId state.db) :
    Untreated task.batchId after.db := by
  cases performs_of_step step with
  | commitRows =>
      exact (untreated.addSmsLogs (untreated_sendRows _ _ _)).of_same (smsLogs_modifyBatch _ _ _)
  | readPage => exact untreated
  | replaceLinks =>
      refine untreated.update _ _ ?_ ?_ ?_
      · intro row
        rw [SmsLog.withLinks]
        split <;> rfl
      · intro row failed
        rw [SmsLog.withLinks] at failed
        split at failed <;> exact failed
      · intro row
        rw [SmsLog.withLinks]
        split <;> rfl
  | publish => exact untreated
  | finish =>
      exact (untreated.updateBatchProgress _ _ _ _).of_same (smsLogs_modifyBatch _ _ _)
  | raise => exact untreated
  | raiseFinalized => exact untreated.of_same (smsLogs_modifyBatch _ _ _)

theorem untreated_run {transitions : List (Transition BuySend BuySendLabel)}
    (fresh : first.Fresh task) (run : Run (Step task) first transitions last) :
    Untreated task.batchId last.db := by
  have start : Untreated task.batchId first.db := by
    intro row member
    rw [fresh.noRows] at member
    cases member
  exact (run.invariant (fun _ _ _ step untreated => untreated_next step untreated) start).1

theorem settles_iff {transitions : List (Transition BuySend BuySendLabel)}
    (fresh : first.Fresh task) (run : Run (Step task) first transitions last) :
    (outcome task first last transitions).Settles ↔ EnqueuesAll task last transitions := by
  have untreated := untreated_run fresh run
  constructor
  · intro settles row member attempted
    by_contra lost
    exact (untreated row member).1 (settles.lost row member ⟨attempted, lost⟩).1
  · intro enqueues
    constructor
    · rintro row member ⟨attempted, lost⟩
      exact absurd (enqueues row member attempted) lost
    · intro row _ isReported
      cases isReported
    · intro accountId
      have same : last.db.balance accountId = first.db.balance accountId := by
        rw [Db.balance, (sameMoney_run run).accounts, Db.balance]
      have nothing : sumFor accountId SmsLog.credit (last.db.batchLogs task.batchId) = 0 := by
        refine List.sum_eq_zero ?_
        intro amount member
        rcases List.mem_map.mp member with ⟨row, isRow, rfl⟩
        rw [credit_of_unrefunded (untreated row isRow).2, ite_self]
      change last.db.balance accountId = (first.db.balance accountId).map fun balance =>
        balance - 0 + sumFor accountId SmsLog.credit (last.db.batchLogs task.batchId)
      rw [same, nothing]
      simp

end BuySend

/-! ### All of them -/

/-- The requests for single messages settle, but for a refund that an exception undoes; a batch
settles when every message is enqueued. -/
theorem charged_enqueued_or_refunded_iff {env : RuanweiEnv} {check : WordCheck} {db : Db}
    (distinct : Function.Injective env.drawnId) (unused : env.toApiEnv.Unused 0 db) :
    (∀ account request options,
        (submitOutcome env.toApiEnv account check request options db).Settles) ∧
      (∀ account accountId approval phoneNumber,
        (executeOutcome env.toApiEnv account check accountId approval phoneNumber db).Settles) ∧
      (∀ request, (ruanweiOutcome env check request db).Settles ↔
        env.CommitsRefunds check request db) ∧
      (∀ input, (smallBatchOutcome env.toApiEnv check input db).Settles ↔
        (bookSmallBatch env.toApiEnv check input db).EnqueuesAll env.toApiEnv input.batchId) ∧
      ∀ (task : BuySendTask) (first last : BuySend)
        (transitions : List (Transition BuySend BuySendLabel)), first.Fresh task →
        Run (BuySend.Step task) first transitions last →
          ((BuySend.outcome task first last transitions).Settles ↔
            BuySend.EnqueuesAll task last transitions) := by
  refine ⟨?_, ?_, ?_, ?_, ?_⟩
  · intro account request options
    exact submit_settles account check request options unused.keyed
  · intro account accountId approval phoneNumber
    exact execute_settles account check accountId approval phoneNumber unused
  · intro request
    exact ruanwei_settles_iff distinct unused request
  · intro input
    exact SmallBatch.settles_iff distinct unused input
  · intro task first last transitions fresh run
    exact BuySend.settles_iff fresh run

def refusingEnv : RuanweiEnv where
  toApiEnv := { ApiEnv.plain (.plain .http) 100 with publishFails := fun _ _ => true }
  activeAccount name := if name = "okcc" then some (1, some "secret") else none
  md5 text := text

theorem unused_postpaidTables : refusingEnv.toApiEnv.Unused 0 postpaidTables :=
  ⟨⟨List.nodup_nil, List.nodup_nil⟩, fun _ member => absurd member List.not_mem_nil⟩

theorem charged_enqueued_or_refunded_iff_refusing :
    (submitOutcome refusingEnv.toApiEnv ⟨0, .postpaid, none⟩ noWordCheck
        ⟨1, "+8613800138000", "hello", none, none⟩ ⟨none, false⟩ postpaidTables).Settles ∧
      ∃ transitions last, Run (BuySend.Step BuySend.oneNumber) BuySend.oneNumberBought
        transitions last ∧ last.handed = [0] ∧
          ((BuySend.outcome BuySend.oneNumber BuySend.oneNumberBought last transitions).Settles ↔
            BuySend.EnqueuesAll BuySend.oneNumber last transitions) := by
  have exact_iff := @charged_enqueued_or_refunded_iff refusingEnv noWordCheck postpaidTables
    (fun _ _ same => same) unused_postpaidTables
  have sent := Run.exists_labels_of_execute (fun state : BuySend => state.handed = [0])
    (show ((execute (BuySend.next BuySend.oneNumber) BuySend.oneNumberBought
      [.commitRows 0 BuySend.oneNumberEnv 1, .readPage 0 BuySend.oneNumberEnv false,
        .publish 0 BuySend.oneNumberEnv.broker]).any _) = true by decide)
  rcases sent with ⟨transitions, last, run, -, handed⟩
  exact ⟨exact_iff.1 _ _ _, transitions, last, run, handed,
    exact_iff.2.2.2.2 _ _ _ _ BuySend.oneNumberBought_fresh run⟩

/-- A message of a small batch that no attempt has enqueued stays queued and charged. -/
theorem unqueued_stays_charged :
    ¬∀ (env : ApiEnv) (check : WordCheck) (db : Db) (input : ChunkInput),
      Function.Injective env.drawnId → env.Unused 0 db →
        input.phoneNumbers.length ≤ asyncThreshold →
          (smallBatchOutcome env check input db).Settles := by
  intro always
  let input : ChunkInput := .plain ["+8613800138000"] none
  have settles := always refusingEnv.toApiEnv noWordCheck postpaidTables input
    (fun _ _ same => same) unused_postpaidTables (by decide)
  have enqueues := (SmallBatch.settles_iff (fun _ _ same => same) unused_postpaidTables
    input).mp settles
  have lost : ((bookSmallBatch refusingEnv.toApiEnv noWordCheck input postpaidTables).booked.any
      fun message => message.messageId ∉ (bookSmallBatch refusingEnv.toApiEnv noWordCheck input
        postpaidTables).published refusingEnv.toApiEnv input.batchId) = true := by
    decide
  rcases List.any_eq_true.mp lost with ⟨message, member, unpublished⟩
  exact of_decide_eq_true unpublished (enqueues message member).1

end Klsmsc
