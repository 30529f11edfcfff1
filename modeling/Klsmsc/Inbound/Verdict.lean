import Klsmsc.SubmitCore
import Klsmsc.Library.Runs

/-!
# The verdict on an inbound message

A worker of the gateway posts a job to the backend and publishes a REJECTD receipt when the answer
does not say success or does not arrive: after ten seconds, over a lost connection, with a status
other than 200, or as a text that is no answer. The backend does not notice. It goes on with
`submit_sms_core` until it has answered, or until its process ends.

One job is followed here, with the steps of the two sides in any order. A commit can be done without
being reported, as when the connection to the database breaks.
-/

namespace Klsmsc

open Library

inductive SubmitAnswer where
  | success
  | failure
  | error
  deriving DecidableEq, Repr

/-- How far the backend is with the request. In `refunded` the refund is not committed yet. -/
inductive BackendStage where
  | waiting
  | checking
  | committed
  | logged
  | enqueued
  | refused
  | refunded (booked : Db)
  | closed (answer : SubmitAnswer)
  | dead

structure InboundJob where
  backend : BackendStage
  db : Db
  queued : List MessageId
  waits : Bool
  rejections : ℕ

inductive BookingOutcome where
  | done
  | failed
  | unreported
  deriving DecidableEq, Repr

inductive JobLabel where
  | receive
  | refuse (answer : SubmitAnswer)
  | book (id : ℕ) (accepted : Acceptance) (outcome : BookingOutcome)
  | logCharge (works : Bool)
  | raise
  | enqueue (broker : Broker)
  | refund
  | close (commits : Bool)
  | respond (answer : SubmitAnswer)
  | die
  | lose
  | read

/-- The entry in `balance_logs` for a message that is booked. -/
def logBooked (db : Db) (accountId : ℕ) (messageId : MessageId) : Db :=
  match db.smsLogs.find? fun row => row.messageId = messageId with
  | none => db
  | some row => db.logCharge accountId row.price

namespace InboundJob

def start (db : Db) : InboundJob where
  backend := .waiting
  db := db
  queued := []
  waits := true
  rejections := 0

variable (env : ChunkEnv) (accountId : ℕ) (messageId : MessageId) (job : InboundJob)

def book (id : ℕ) (accepted : Acceptance) (outcome : BookingOutcome) : InboundJob :=
  match bookMessage env job.db accountId id messageId accepted true, outcome with
  | none, _ => { job with backend := .closed .failure }
  | some booked, .done => { job with backend := .committed, db := booked }
  | some _, .failed => { job with backend := .closed .failure }
  | some booked, .unreported => { job with backend := .closed .failure, db := booked }

def compensated : Db :=
  failUnqueued env.unicode job.db messageId "queue_failed"
    "加入发送队列失败，请检查 RabbitMQ 与 Celery worker-sms 是否运行" env.now

/-- `publishRejectDLR`, when the answer is none or no success. -/
def conclude (answer : SubmitAnswer) : InboundJob :=
  { job with
    waits := false
    rejections := if answer = .success then job.rejections else job.rejections + 1 }

def next : JobLabel → Option InboundJob
  | .receive =>
      match job.backend with
      | .waiting => some { job with backend := .checking }
      | _ => none
  | .refuse answer =>
      match job.backend with
      | .checking => if answer = .success then none else some { job with backend := .closed answer }
      | _ => none
  | .book id accepted outcome =>
      match job.backend with
      | .checking =>
          if job.db.smsLogs.any fun row => row.id = id then none
          else some (job.book env accountId messageId id accepted outcome)
      | _ => none
  | .logCharge works =>
      match job.backend with
      | .committed =>
          some { job with
            backend := .logged
            db := if works then logBooked job.db accountId messageId else job.db }
      | _ => none
  | .raise =>
      match job.backend with
      | .committed | .logged | .refused => some { job with backend := .closed .failure }
      | _ => none
  | .enqueue broker =>
      match job.backend with
      | .logged =>
          if queueSms broker messageId then
            some { job with backend := .enqueued, queued := job.queued ++ [messageId] }
          else some { job with backend := .refused }
      | _ => none
  | .refund =>
      match job.backend with
      | .refused => some { job with backend := .refunded (job.compensated env messageId) }
      | _ => none
  | .close commits =>
      match job.backend with
      | .refunded booked =>
          some (if commits then { job with backend := .closed .failure, db := booked }
            else { job with backend := .closed .error })
      | _ => none
  | .respond answer =>
      match job.backend with
      | .enqueued => some { job with backend := .closed answer }
      | _ => none
  | .die =>
      match job.backend with
      | .closed _ | .dead => none
      | _ => some { job with backend := .dead }
  | .lose => if job.waits then some (job.conclude .error) else none
  | .read =>
      match job.backend with
      | .closed answer => if job.waits then some (job.conclude answer) else none
      | _ => none

def Step (before : InboundJob) (label : JobLabel) (after : InboundJob) : Prop :=
  before.next env accountId messageId label = some after

def settled : Bool :=
  match job.backend with
  | .waiting | .closed _ | .dead => true
  | _ => false

/-- The message is not to be sent, has no row or a failed row that is refunded, and has cost its
account nothing. -/
structure Free (before : Db) : Prop where
  notQueued : messageId ∉ job.queued
  rows : ∀ row ∈ job.db.smsLogs, row.messageId = messageId → row.Compensated
  balance : ∀ balance, before.balance accountId = some balance →
    ∃ left, job.db.balance accountId = some left ∧ balance ≤ left

/-- The condition on a step: nothing goes wrong between the commit of the charge and the answer,
and the worker is still there for a message that is enqueued. -/
def Heeds : JobLabel → Prop
  | .book _ _ outcome => outcome ≠ .unreported
  | .raise => False
  | .enqueue broker => job.waits = true ∨ queueSms broker messageId = false
  | .close commits => commits = true
  | .respond answer => answer = .success
  | .die =>
      match job.backend with
      | .waiting | .checking => True
      | _ => False
  | .lose =>
      match job.backend with
      | .enqueued | .closed .success => False
      | _ => True
  | _ => True

/-! ### What a rejection is worth -/

structure Booked (before : Db) (accountId : ℕ) (messageId : MessageId) (db : Db) : Prop where
  keyed : db.Keyed
  row : ∃ row ∈ db.smsLogs, row.messageId = messageId ∧ row.accountId = accountId ∧
    row.refundedAt = none ∧
      db.balance accountId = (before.addBalance accountId (-row.price)).balance accountId

structure Settles (before : Db) (accountId : ℕ) (messageId : MessageId) (db : Db) : Prop where
  rows : ∀ row ∈ db.smsLogs, row.messageId = messageId → row.Compensated
  balance : ∀ balance, before.balance accountId = some balance →
    ∃ left, db.balance accountId = some left ∧ balance ≤ left

def Consistent (before : Db) : Prop :=
  (job.waits = true → job.rejections = 0) ∧
    match job.backend with
    | .waiting | .checking | .dead => job.db = before ∧ job.queued = []
    | .committed | .logged | .refused =>
        Booked before accountId messageId job.db ∧ job.queued = []
    | .refunded booked => Settles before accountId messageId booked ∧ job.queued = []
    | .enqueued | .closed .success => job.rejections = 0
    | .closed _ => Settles before accountId messageId job.db ∧ job.queued = []

structure Unknown (messageId : MessageId) (before : Db) : Prop where
  keyed : before.Keyed
  fresh : ∀ row ∈ before.smsLogs, row.messageId ≠ messageId

variable {env : ChunkEnv} {accountId : ℕ} {messageId : MessageId} {job after : InboundJob}
  {before : Db}

theorem Unknown.settles (unknown : Unknown messageId before) :
    Settles before accountId messageId before where
  rows row member same := absurd same (unknown.fresh row member)
  balance balance isBalance := ⟨balance, isBalance, Int.le_refl _⟩

theorem nodup_concat {Key : Type} {keys : List Key} {key : Key} (nodup : keys.Nodup)
    (fresh : key ∉ keys) : (keys ++ [key]).Nodup := by
  rw [← List.concat_eq_append]
  exact nodup.concat fresh

theorem Unknown.booked (unknown : Unknown messageId before) {id : ℕ} {accepted : Acceptance}
    {booked : Db} (newId : ∀ row ∈ before.smsLogs, row.id ≠ id)
    (isBooked : bookMessage env before accountId id messageId accepted true = some booked) :
    Booked before accountId messageId booked := by
  rcases bookMessage_spec isBooked with
    ⟨row, logs, isId, isMessage, isAccount, unrefunded, paid⟩
  refine ⟨⟨?_, ?_⟩, row, by simp [logs], isMessage, isAccount, unrefunded, paid accountId⟩
  · rw [logs, List.map_append, List.map_singleton, isId]
    refine nodup_concat unknown.keyed.ids ?_
    intro inside
    rcases List.mem_map.mp inside with ⟨stored, member, same⟩
    exact newId stored member same
  · rw [logs, List.map_append, List.map_singleton, isMessage]
    refine nodup_concat unknown.keyed.messageIds ?_
    intro inside
    rcases List.mem_map.mp inside with ⟨stored, member, same⟩
    exact unknown.fresh stored member same

theorem Booked.logBooked {db : Db} (booked : Booked before accountId messageId db) :
    Booked before accountId messageId (logBooked db accountId messageId) := by
  rw [Klsmsc.logBooked]
  split
  · exact booked
  · exact ⟨⟨booked.keyed.ids, booked.keyed.messageIds⟩, booked.row⟩

theorem Booked.compensated {db : Db} (booked : Booked before accountId messageId db)
    (unicode : Unicode) (source text : String) (now : ℕ) :
    Settles before accountId messageId (failUnqueued unicode db messageId source text now) := by
  rcases booked.row with ⟨row, member, rfl, rfl, unrefunded, paid⟩
  rcases failUnqueued_spec unicode booked.keyed member unrefunded source text now with
    ⟨compensated, credited⟩
  refine ⟨compensated, ?_⟩
  intro balance isBalance
  refine ⟨balance + -row.price + max 0 row.price, ?_, ?_⟩
  · rw [credited, Db.balance_addBalance, if_pos rfl, paid, Db.balance_addBalance, if_pos rfl,
      isBalance]
    rfl
  · have left := le_max_right (0 : Money) row.price
    linarith

theorem Consistent.book (unknown : Unknown messageId before)
    (consistent : Consistent accountId messageId job before) (stage : job.backend = .checking)
    {id : ℕ} (newId : ∀ row ∈ job.db.smsLogs, row.id ≠ id) (accepted : Acceptance)
    {outcome : BookingOutcome} (reported : outcome ≠ .unreported) :
    Consistent accountId messageId (job.book env accountId messageId id accepted outcome)
      before := by
  rcases consistent with ⟨quiet, known⟩
  simp only [stage] at known
  rcases known with ⟨rfl, nothing⟩
  unfold InboundJob.book
  split
  · exact ⟨quiet, unknown.settles, nothing⟩
  · rename_i booked isBooked
    exact ⟨quiet, unknown.booked newId isBooked, nothing⟩
  · exact ⟨quiet, unknown.settles, nothing⟩
  · exact absurd rfl reported

theorem Consistent.step (unknown : Unknown messageId before)
    (consistent : Consistent accountId messageId job before) {label : JobLabel}
    (step : Step env accountId messageId job label after) (heeds : job.Heeds messageId label) :
    Consistent accountId messageId after before := by
  have whole := consistent
  rcases consistent with ⟨quiet, known⟩
  cases label with
  | receive =>
      simp only [Step, next] at step
      split at step
      · rename_i stage
        cases step
        simp only [stage] at known
        exact ⟨quiet, known⟩
      · cases step
  | refuse answer =>
      simp only [Step, next] at step
      split at step
      · rename_i stage
        split at step
        · cases step
        · rename_i refused
          cases step
          simp only [stage] at known
          rcases known with ⟨same, nothing⟩
          refine ⟨quiet, ?_⟩
          cases answer with
          | success => exact absurd rfl refused
          | failure => exact ⟨same ▸ unknown.settles, nothing⟩
          | error => exact ⟨same ▸ unknown.settles, nothing⟩
      · cases step
  | book id accepted outcome =>
      simp only [Step, next] at step
      split at step
      · rename_i stage
        split at step
        · cases step
        · rename_i newId
          cases step
          refine whole.book unknown stage ?_ accepted heeds
          intro row member same
          exact newId (List.any_eq_true.mpr ⟨row, member, decide_eq_true same⟩)
      · cases step
  | logCharge works =>
      simp only [Step, next] at step
      split at step
      · rename_i stage
        cases step
        simp only [stage] at known
        refine ⟨quiet, ?_, known.2⟩
        cases works with
        | true => exact known.1.logBooked
        | false => exact known.1
      · cases step
  | raise => exact heeds.elim
  | enqueue broker =>
      simp only [Step, next] at step
      split at step
      · rename_i stage
        simp only [stage] at known
        split at step
        · rename_i accepts
          cases step
          rcases heeds with waits | refuses
          · exact ⟨quiet, quiet waits⟩
          · rw [refuses] at accepts
            cases accepts
        · cases step
          exact ⟨quiet, known⟩
      · cases step
  | refund =>
      simp only [Step, next] at step
      split at step
      · rename_i stage
        cases step
        simp only [stage] at known
        exact ⟨quiet, known.1.compensated env.unicode _ _ env.now, known.2⟩
      · cases step
  | close commits =>
      simp only [Step, next] at step
      split at step
      · rename_i booked stage
        have isCommitted : commits = true := heeds
        subst commits
        cases step
        simp only [stage] at known
        exact ⟨quiet, known⟩
      · cases step
  | respond answer =>
      simp only [Step, next] at step
      split at step
      · rename_i stage
        have succeeds : answer = .success := heeds
        subst answer
        cases step
        simp only [stage] at known
        exact ⟨quiet, known⟩
      · cases step
  | die =>
      simp only [Heeds] at heeds
      simp only [Step, next] at step
      split at heeds
      · rename_i stage
        simp only [stage] at step known
        cases step
        exact ⟨quiet, known⟩
      · rename_i stage
        simp only [stage] at step known
        cases step
        exact ⟨quiet, known⟩
      · exact heeds.elim
  | lose =>
      simp only [Heeds] at heeds
      simp only [Step, next] at step
      split at step
      · cases step
        refine ⟨fun waits => absurd waits Bool.false_ne_true, ?_⟩
        simp only [conclude]
        cases stage : job.backend with
        | enqueued => simp only [stage] at heeds
        | closed answer =>
            cases answer with
            | success => simp only [stage] at heeds
            | failure => simpa only [stage] using known
            | error => simpa only [stage] using known
        | _ => simpa only [stage] using known
      · cases step
  | read =>
      simp only [Step, next] at step
      split at step
      · rename_i answer stage
        split at step
        · rename_i waits
          cases step
          refine ⟨fun still => absurd still Bool.false_ne_true, ?_⟩
          simp only [stage] at known
          simp only [conclude, stage]
          cases answer with
          | success => exact quiet waits
          | failure => exact known
          | error => exact known
        · cases step
      · cases step

theorem Settles.free (settles : Settles before accountId messageId job.db)
    (nothing : job.queued = []) : job.Free accountId messageId before where
  notQueued := by simp [nothing]
  rows := settles.rows
  balance := settles.balance

theorem Consistent.free (unknown : Unknown messageId before)
    (consistent : Consistent accountId messageId job before) (settled : job.settled = true)
    (rejected : 0 < job.rejections) : job.Free accountId messageId before := by
  rcases consistent with ⟨-, known⟩
  rw [InboundJob.settled] at settled
  cases stage : job.backend with
  | waiting =>
      simp only [stage] at known
      have settles : Settles before accountId messageId job.db := known.1 ▸ unknown.settles
      exact settles.free known.2
  | dead =>
      simp only [stage] at known
      have settles : Settles before accountId messageId job.db := known.1 ▸ unknown.settles
      exact settles.free known.2
  | closed answer =>
      cases answer with
      | success =>
          simp only [stage] at known
          omega
      | failure =>
          simp only [stage] at known
          exact known.1.free known.2
      | error =>
          simp only [stage] at known
          exact known.1.free known.2
  | _ => simp [stage] at settled

end InboundJob

/-- When nothing goes wrong between the commit and the answer, a message for which a REJECTD receipt
was published is in the end not sent and costs nothing. -/
theorem rejection_agrees_with_billing (env : ChunkEnv) (accountId : ℕ) (messageId : MessageId)
    {before : Db} (unknown : InboundJob.Unknown messageId before) {last : InboundJob}
    {transitions : List (Transition InboundJob JobLabel)}
    (run : Run (InboundJob.Step env accountId messageId) (InboundJob.start before) transitions last)
    (heeds : ∀ transition ∈ transitions, transition.before.Heeds messageId transition.label)
    (settled : last.settled = true) (rejected : 0 < last.rejections) :
    last.Free accountId messageId before := by
  have preserved : ∀ job label after,
      Guarded (InboundJob.Step env accountId messageId)
          (fun job label => job.Heeds messageId label) job label after →
        job.Consistent accountId messageId before →
          after.Consistent accountId messageId before := by
    intro job label after step consistent
    exact consistent.step unknown step.1 step.2
  have consistent := ((run.guarded heeds).invariant preserved
    ⟨fun _ => rfl, rfl, rfl⟩).1
  exact consistent.free unknown settled rejected

def inboundTables : Db where
  accounts id := if id = 1 then some ⟨10000, .prepaid, none⟩ else none
  smsLogs := []
  balanceLogs := []
  batches _ := none
  channels _ := none

def inboundAcceptance : Acceptance where
  channel := ⟨1, .smpp, ""⟩
  phoneNumber := "+8613800138000"
  countryCode := "CN"
  senderId := none
  finalMessage := "hello"

def brokerThat (works : Bool) : Broker where
  fails _ _ := !works
  perChannelQueues := false

def inboundEnv : ChunkEnv :=
  ChunkEnv.plain ⟨1, .smpp, ""⟩ 100

theorem inboundTables_unknown : InboundJob.Unknown 5 inboundTables where
  keyed := ⟨List.nodup_nil, List.nodup_nil⟩
  fresh _ member := absurd member List.not_mem_nil

/-- A message that could not be enqueued is refunded and rejected. -/
theorem rejection_agrees_with_billing_refused :
    ∃ transitions last,
      Run (InboundJob.Step inboundEnv 1 5) (InboundJob.start inboundTables) transitions last ∧
      0 < last.rejections ∧ last.Free 1 5 inboundTables := by
  have rejected := Run.exists_labels_of_execute
    (fun last : InboundJob => last.settled = true ∧ 0 < last.rejections)
    (show (execute (InboundJob.next inboundEnv 1 5) (InboundJob.start inboundTables)
      [.receive, .book 1 inboundAcceptance .done, .logCharge true, .enqueue (brokerThat false),
        .refund, .close true, .read]).any _ = true by decide)
  rcases rejected with ⟨transitions, last, run, labels, settled, rejected⟩
  refine ⟨transitions, last, run, rejected,
    rejection_agrees_with_billing inboundEnv 1 5 inboundTables_unknown run ?_ settled rejected⟩
  intro transition member
  have label := labels transition member
  simp only [List.mem_cons, List.not_mem_nil, or_false] at label
  rcases label with same | same | same | same | same | same | same <;> rw [same]
  · trivial
  · exact BookingOutcome.noConfusion
  · trivial
  · exact .inr (by decide)
  · trivial
  · rfl
  · trivial

/-- A worker that gives up after the commit rejects a message that is charged and sent. -/
theorem rejected_but_sent :
    ∃ transitions last,
      Run (InboundJob.Step inboundEnv 1 5) (InboundJob.start inboundTables) transitions last ∧
      last.settled = true ∧ last.rejections = 1 ∧ 5 ∈ last.queued ∧
      last.db.balance 1 = some 9900 ∧ ¬ last.Free 1 5 inboundTables := by
  have sent := Run.exists_of_execute
    (fun outcome => decide (outcome.2.settled = true ∧ outcome.2.rejections = 1 ∧
      5 ∈ outcome.2.queued ∧ outcome.2.db.balance 1 = some 9900))
    (show (execute (InboundJob.next inboundEnv 1 5) (InboundJob.start inboundTables)
      [.receive, .book 1 inboundAcceptance .done, .lose, .logCharge true,
        .enqueue (brokerThat true), .respond .success]).any _ = true by decide)
  rcases sent with ⟨transitions, last, run, checked⟩
  rcases of_decide_eq_true checked with ⟨settled, rejected, queued, paid⟩
  exact ⟨transitions, last, run, settled, rejected, queued, paid,
    fun free => free.notQueued queued⟩

end Klsmsc
