import Mathlib.Logic.Function.Basic
import Klsmsc.DirectSends
import Klsmsc.Library.Runs

/-!
# An approved text and the requests for it

`execute_approved_sms` and `delete_sms_approval`, as they interleave on one approval. A request to
send reads the approval and makes its checks, commits the charge with the row of the message and the
number of the approval, enqueues the message, and commits the mark on the approval, or the refund.
No lock is held on the approval from the reading to the mark, and the charge does not look at it
again. So the text is sent at most once only as far as requests do not get in between.

The tickets of an approval are left out.
-/

namespace Klsmsc

open Library

namespace SmsContentApproval

def flushed (loaded changed stored : SmsContentApproval) : SmsContentApproval :=
  { stored with
    phoneNumber :=
      if changed.phoneNumber = loaded.phoneNumber then stored.phoneNumber else changed.phoneNumber
    messageId :=
      if changed.messageId = loaded.messageId then stored.messageId else changed.messageId
    sendError :=
      if changed.sendError = loaded.sendError then stored.sendError else changed.sendError }

theorem flushed_messageId_of_same {loaded changed : SmsContentApproval}
    (same : changed.messageId = loaded.messageId) (stored : SmsContentApproval) :
    (loaded.flushed changed stored).messageId = stored.messageId :=
  if_pos same

theorem flushed_messageId_of_ne {loaded changed : SmsContentApproval}
    (differs : changed.messageId ≠ loaded.messageId) (stored : SmsContentApproval) :
    (loaded.flushed changed stored).messageId = changed.messageId :=
  if_neg differs

def flush (loaded changed : SmsContentApproval) (approval : Option SmsContentApproval) :
    Option (Option SmsContentApproval) :=
  if changed = loaded then some approval
  else approval.map fun stored => some (loaded.flushed changed stored)

def marked (approval : SmsContentApproval) (messageId : MessageId) : SmsContentApproval :=
  { approval with messageId := some messageId, sendError := none }

def unqueued (approval : SmsContentApproval) : SmsContentApproval :=
  { approval with sendError := some "加入发送队列失败，请检查 RabbitMQ 与 worker-sms" }

end SmsContentApproval

inductive ApprovalStage where
  | idle
  | accepted (accountId : ℕ) (loaded numbered : SmsContentApproval) (accepted : Acceptance)
  | booked (loaded : SmsContentApproval) (messageId : MessageId)
  | enqueued (loaded : SmsContentApproval) (messageId : MessageId)
  | refused (loaded : SmsContentApproval) (messageId : MessageId)
  | deleting
  | ended
  deriving DecidableEq, Repr

def ApprovalStage.isSending : ApprovalStage → Bool
  | .booked _ _ => true
  | .enqueued _ _ => true
  | _ => false

inductive ApprovalLabel where
  | read (request : ℕ) (env : ApiEnv) (account : Account) (check : WordCheck) (accountId : ℕ)
      (phoneNumber : Option String)
  | book (request : ℕ) (env : ApiEnv)
  | enqueue (request : ℕ) (broker : Broker)
  | mark (request : ℕ)
  | refund (request : ℕ) (unicode : Unicode) (now : ℕ)
  | readDeletion (request accountId : ℕ)
  | delete (request : ℕ)
  | crash (request : ℕ)
  | elsewhere (db : Db)

def ApprovalLabel.request? : ApprovalLabel → Option ℕ
  | .read request _ _ _ _ _ => some request
  | .book request _ => some request
  | .enqueue request _ => some request
  | .mark request => some request
  | .refund request _ _ => some request
  | .readDeletion request _ => some request
  | .delete request => some request
  | .crash request => some request
  | .elsewhere _ => none

/-- The committed tables, the approval among them, the requests for it, and its messages that have
been charged and enqueued. -/
structure ApprovalSends where
  db : Db
  approval : Option SmsContentApproval
  requests : (request : ℕ) → ApprovalStage
  sent : List MessageId

namespace ApprovalSends

def setStage (state : ApprovalSends) (request : ℕ) (stage : ApprovalStage) : ApprovalSends :=
  { state with requests := Function.update state.requests request stage }

def next (state : ApprovalSends) : ApprovalLabel → Option ApprovalSends
  | .read request env account check accountId phoneNumber =>
      match state.requests request, state.approval,
        acceptApproved env account check accountId state.approval phoneNumber with
      | .idle, some loaded, .ok (numbered, accepted) =>
          some (state.setStage request (.accepted accountId loaded numbered accepted))
      | .idle, _, _ => some (state.setStage request .ended)
      | _, _, _ => none
  | .book request env =>
      match state.requests request with
      | .accepted accountId loaded numbered accepted =>
          let messageId := env.drawnId 0
          if state.db.smsLogs.any fun row => row.messageId = messageId then
            some (state.setStage request .ended)
          else
            match loaded.flush numbered state.approval,
              bookMessage env.toChunkEnv state.db accountId state.db.nextId messageId accepted
                false with
            | some approval, some booked =>
                some { state.setStage request (.booked numbered messageId) with
                  db := booked
                  approval := approval }
            | _, _ => some (state.setStage request .ended)
      | _ => none
  | .enqueue request broker =>
      match state.requests request with
      | .booked loaded messageId =>
          if queueSms broker messageId then
            some { state.setStage request (.enqueued loaded messageId) with
              sent := state.sent ++ [messageId] }
          else some (state.setStage request (.refused loaded messageId))
      | _ => none
  | .mark request =>
      match state.requests request with
      | .enqueued loaded messageId =>
          match loaded.flush (loaded.marked messageId) state.approval with
          | some approval => some { state.setStage request .ended with approval := approval }
          | none => some (state.setStage request .ended)
      | _ => none
  | .refund request unicode now =>
      match state.requests request with
      | .refused loaded messageId =>
          match loaded.flush loaded.unqueued state.approval with
          | some approval =>
              some { state.setStage request .ended with
                db := failUnqueued unicode state.db messageId "review_queue_failed"
                  "加入发送队列失败" now
                approval := approval }
          | none => some (state.setStage request .ended)
      | _ => none
  | .readDeletion request accountId =>
      match state.requests request with
      | .idle =>
          match state.approval with
          | some approval =>
              if approval.accountId = accountId ∧ approval.messageId = none then
                some (state.setStage request .deleting)
              else some (state.setStage request .ended)
          | none => some (state.setStage request .ended)
      | _ => none
  | .delete request =>
      match state.requests request with
      | .deleting => some { state.setStage request .ended with approval := none }
      | _ => none
  | .crash request => some (state.setStage request .ended)
  | .elsewhere db => some { state with db := db }

def Step (state : ApprovalSends) (label : ApprovalLabel) (after : ApprovalSends) : Prop :=
  state.next label = some after

structure Untouched (state : ApprovalSends) : Prop where
  idle : ∀ request, state.requests request = .idle
  unsent : state.sent = []

def AtMostOnce (state : ApprovalSends) : Prop :=
  state.sent.length ≤ 1

/-- A request charges only while the approval is there without the mark and no other request is
between its charge and its mark, and no request breaks off between the queue and the mark. -/
def KeepsApart (state : ApprovalSends) : ApprovalLabel → Prop
  | .book request _ =>
      (∃ stored ∈ state.approval, stored.messageId = none) ∧
        ∀ other, other ≠ request → (state.requests other).isSending = false
  | .crash request => ∀ loaded messageId, state.requests request ≠ .enqueued loaded messageId
  | _ => True

/-! ### What a step can do -/

inductive Performs (state : ApprovalSends) : ApprovalLabel → ApprovalSends → Prop where
  | accept {request : ℕ} {env : ApiEnv} {account : Account} {check : WordCheck} {accountId : ℕ}
      {phoneNumber : Option String} {loaded numbered : SmsContentApproval} {accepted : Acceptance}
      (approval : state.approval = some loaded)
      (accepts : acceptApproved env account check accountId state.approval phoneNumber =
        .ok (numbered, accepted))
      (stage : state.requests request = .idle) :
      Performs state (.read request env account check accountId phoneNumber)
        (state.setStage request (.accepted accountId loaded numbered accepted))
  | book {request accountId : ℕ} {env : ApiEnv} {loaded numbered : SmsContentApproval}
      {accepted : Acceptance} {approval : Option SmsContentApproval} {booked : Db}
      (stage : state.requests request = .accepted accountId loaded numbered accepted)
      (flushes : loaded.flush numbered state.approval = some approval)
      (books : bookMessage env.toChunkEnv state.db accountId state.db.nextId (env.drawnId 0)
        accepted false = some booked) :
      Performs state (.book request env)
        { state.setStage request (.booked numbered (env.drawnId 0)) with
          db := booked
          approval := approval }
  | enqueue {request : ℕ} {broker : Broker} {loaded : SmsContentApproval} {messageId : MessageId}
      (stage : state.requests request = .booked loaded messageId) :
      Performs state (.enqueue request broker)
        { state.setStage request (.enqueued loaded messageId) with
          sent := state.sent ++ [messageId] }
  | refuse {request : ℕ} {broker : Broker} {loaded : SmsContentApproval} {messageId : MessageId}
      (stage : state.requests request = .booked loaded messageId) :
      Performs state (.enqueue request broker)
        (state.setStage request (.refused loaded messageId))
  | mark {request : ℕ} {loaded : SmsContentApproval} {messageId : MessageId}
      {approval : Option SmsContentApproval}
      (stage : state.requests request = .enqueued loaded messageId)
      (flushes : loaded.flush (loaded.marked messageId) state.approval = some approval) :
      Performs state (.mark request) { state.setStage request .ended with approval := approval }
  | lose {request : ℕ} (gone : state.approval = none) :
      Performs state (.mark request) (state.setStage request .ended)
  | refund {request now : ℕ} {unicode : Unicode} {loaded : SmsContentApproval}
      {messageId : MessageId} {approval : Option SmsContentApproval} {db : Db}
      (stage : state.requests request = .refused loaded messageId)
      (flushes : loaded.flush loaded.unqueued state.approval = some approval) :
      Performs state (.refund request unicode now)
        { state.setStage request .ended with
          db := db
          approval := approval }
  | startDeletion {request accountId : ℕ} (stage : state.requests request = .idle) :
      Performs state (.readDeletion request accountId) (state.setStage request .deleting)
  | delete {request : ℕ} (stage : state.requests request = .deleting) :
      Performs state (.delete request) { state.setStage request .ended with approval := none }
  | quit {label : ApprovalLabel} {request : ℕ} (own : label.request? = some request)
      (notSending : (state.requests request).isSending = false) :
      Performs state label (state.setStage request .ended)
  | crash {request : ℕ} : Performs state (.crash request) (state.setStage request .ended)
  | elsewhere {db : Db} : Performs state (.elsewhere db) { state with db := db }

theorem performs_of_step {state after : ApprovalSends} {label : ApprovalLabel}
    (step : state.Step label after) : Performs state label after := by
  cases label with
  | read request env account check accountId phoneNumber =>
      simp only [Step, next] at step
      split at step
      · rename_i loaded numbered accepted stage approval accepts
        cases step
        exact .accept approval accepts stage
      · rename_i stage _
        cases step
        exact .quit rfl (by rw [stage]; rfl)
      · cases step
  | book request env =>
      simp only [Step, next] at step
      split at step
      · rename_i accountId loaded numbered accepted stage
        have notSending : (state.requests request).isSending = false := by
          rw [stage]
          rfl
        split at step
        · cases step
          exact .quit rfl notSending
        · split at step
          · rename_i approval booked flushes books
            cases step
            exact .book stage flushes books
          · cases step
            exact .quit rfl notSending
      · cases step
  | enqueue request broker =>
      simp only [Step, next] at step
      split at step
      · rename_i loaded messageId stage
        split at step
        · cases step
          exact .enqueue stage
        · cases step
          exact .refuse stage
      · cases step
  | mark request =>
      simp only [Step, next] at step
      split at step
      · rename_i loaded messageId stage
        split at step
        · rename_i approval flushes
          cases step
          exact .mark stage flushes
        · rename_i gone
          cases step
          refine .lose ?_
          rw [SmsContentApproval.flush] at gone
          split at gone
          · cases gone
          · exact Option.map_eq_none_iff.mp gone
      · cases step
  | refund request unicode now =>
      simp only [Step, next] at step
      split at step
      · rename_i loaded messageId stage
        split at step
        · rename_i approval flushes
          cases step
          exact .refund stage flushes
        · cases step
          exact .quit rfl (by rw [stage]; rfl)
      · cases step
  | readDeletion request accountId =>
      simp only [Step, next] at step
      split at step
      · rename_i stage
        have notSending : (state.requests request).isSending = false := by
          rw [stage]
          rfl
        split at step
        · split at step
          · cases step
            exact .startDeletion stage
          · cases step
            exact .quit rfl notSending
        · cases step
          exact .quit rfl notSending
      · cases step
  | delete request =>
      simp only [Step, next] at step
      split at step
      · rename_i stage
        cases step
        exact .delete stage
      · cases step
  | crash request =>
      cases step
      exact .crash
  | elsewhere db =>
      cases step
      exact .elsewhere

theorem Performs.other {state after : ApprovalSends} {label : ApprovalLabel}
    (performs : Performs state label after) {other : ℕ} (differs : label.request? ≠ some other) :
    after.requests other = state.requests other := by
  have update : ∀ {request : ℕ} (stage : ApprovalStage), label.request? = some request →
      Function.update state.requests request stage other = state.requests other := by
    intro request stage own
    refine Function.update_of_ne ?_ _ _
    rintro rfl
    exact differs own
  cases performs with
  | accept => exact update _ rfl
  | book => exact update _ rfl
  | enqueue => exact update _ rfl
  | refuse => exact update _ rfl
  | mark => exact update _ rfl
  | lose => exact update _ rfl
  | refund => exact update _ rfl
  | startDeletion => exact update _ rfl
  | delete => exact update _ rfl
  | quit own => exact update _ own
  | crash => exact update _ rfl
  | elsewhere => rfl

/-! ### A request by itself -/

end ApprovalSends

theorem acceptApproved_spec {env : ApiEnv} {account : Account} {check : WordCheck} {accountId : ℕ}
    {approval : Option SmsContentApproval} {phoneNumber : Option String}
    {numbered : SmsContentApproval} {accepted : Acceptance}
    (accepts : acceptApproved env account check accountId approval phoneNumber =
      .ok (numbered, accepted)) :
    ∃ loaded, approval = some loaded ∧ loaded.messageId = none ∧
      ∃ number, numbered = { loaded with phoneNumber := number } := by
  simp only [acceptApproved, bind_eq_ok_iff] at accepts
  rcases accepts with ⟨loaded, opened, phone, -, info, -, channel, -, -, -, built⟩
  have same : approval = some loaded ∧ loaded.messageId = none := by
    simp only [SmsContentApproval.isOpen] at opened
    split at opened
    · cases opened
    · split at opened
      · cases opened
      · split at opened
        · cases opened
        · split at opened
          · cases opened
          · rename_i unmarked
            cases opened
            exact ⟨rfl, by simpa using unmarked⟩
  refine ⟨loaded, same.1, same.2, ?_⟩
  rw [← (Prod.mk.inj (Except.ok.inj built)).1]
  split
  · exact ⟨_, rfl⟩
  · exact ⟨loaded.phoneNumber, rfl⟩

theorem SmsContentApproval.flush_self {loaded changed : SmsContentApproval}
    (account : changed.accountId = loaded.accountId) (content : changed.content = loaded.content)
    (status : changed.status = loaded.status) :
    loaded.flush changed (some loaded) = some (some changed) := by
  rw [flush]
  split
  · rename_i same
    rw [same]
  · cases changed
    cases loaded
    simp_all [flushed]

namespace ApprovalSends

variable {state : ApprovalSends} {request : ℕ}

theorem run_sent (broker : Broker) {loaded : SmsContentApproval} {messageId : MessageId}
    (stage : state.requests request = .booked loaded messageId)
    (stored : state.approval = some loaded) (queued : queueSms broker messageId = true) :
    ∃ transitions last, Run Step state transitions last ∧ last.requests request = .ended ∧
      last.db = state.db ∧ last.approval = some (loaded.marked messageId) := by
  set sent : ApprovalSends := { state.setStage request (.enqueued loaded messageId) with
    sent := state.sent ++ [messageId] } with isSent
  have enqueue : state.Step (.enqueue request broker) sent := by
    simp [Step, next, stage, queued, isSent]
  have marks : loaded.flush (loaded.marked messageId) (some loaded) =
      some (some (loaded.marked messageId)) := SmsContentApproval.flush_self rfl rfl rfl
  have mark : sent.Step (.mark request)
      { sent.setStage request .ended with approval := some (loaded.marked messageId) } := by
    simp [Step, next, isSent, setStage, stored, marks]
  exact ⟨_, _, .cons enqueue (.cons mark (.nil _)), by simp [setStage], rfl, rfl⟩

theorem run_unqueued (broker : Broker) (unicode : Unicode) (now : ℕ)
    {loaded : SmsContentApproval} {messageId : MessageId}
    (stage : state.requests request = .booked loaded messageId)
    (stored : state.approval = some loaded) (refused : ¬queueSms broker messageId = true) :
    ∃ transitions last, Run Step state transitions last ∧ last.requests request = .ended ∧
      last.db = failUnqueued unicode state.db messageId "review_queue_failed"
        "加入发送队列失败" now ∧
      last.approval = some loaded.unqueued := by
  set waiting := state.setStage request (.refused loaded messageId) with isWaiting
  have refuse : state.Step (.enqueue request broker) waiting := by
    simp [Step, next, stage, refused, isWaiting]
  have stores : loaded.flush loaded.unqueued (some loaded) = some (some loaded.unqueued) :=
    SmsContentApproval.flush_self rfl rfl rfl
  have refund : waiting.Step (.refund request unicode now)
      { waiting.setStage request .ended with
        db := failUnqueued unicode state.db messageId "review_queue_failed" "加入发送队列失败" now
        approval := some loaded.unqueued } := by
    simp [Step, next, isWaiting, setStage, stored, stores]
  exact ⟨_, _, .cons refuse (.cons refund (.nil _)), by simp [setStage], rfl, rfl⟩

section

variable {env : ApiEnv} {accountId : ℕ} {loaded numbered : SmsContentApproval}
  {accepted : Acceptance}

theorem step_uncharged
    (stage : state.requests request = .accepted accountId loaded numbered accepted)
    (never : ∀ paid charge,
      accepted.calculateAndCharge env accountId state.db ≠ .charged paid charge) :
    state.Step (.book request env) (state.setStage request .ended) := by
  have books : bookMessage env.toChunkEnv state.db accountId state.db.nextId (env.drawnId 0)
      accepted false = none := by
    rw [bookMessage]
    split
    · rename_i paid charge charged
      exact absurd charged (never paid charge)
    · rfl
  simp [Step, next, stage, books]

theorem step_charged
    (stage : state.requests request = .accepted accountId loaded numbered accepted)
    (unused : ∀ row ∈ state.db.smsLogs, row.messageId ≠ env.drawnId 0)
    (flushes : loaded.flush numbered state.approval = some (some numbered))
    {paid : Db} {charge : RetryCharge}
    (charged : accepted.calculateAndCharge env accountId state.db = .charged paid charge) :
    state.Step (.book request env) { state.setStage request (.booked numbered (env.drawnId 0)) with
      db := paid.addSmsLogs
        [accepted.row accountId state.db.nextId (env.drawnId 0) charge env.now]
      approval := some numbered } := by
  have fresh : (state.db.smsLogs.any fun row => row.messageId = env.drawnId 0) = false := by
    simpa using unused
  have books : bookMessage env.toChunkEnv state.db accountId state.db.nextId (env.drawnId 0)
      accepted false = some (paid.addSmsLogs
        [accepted.row accountId state.db.nextId (env.drawnId 0) charge env.now]) := by
    rw [Acceptance.calculateAndCharge] at charged
    rw [bookMessage, charged]
  simp [Step, next, stage, fresh, flushes, books]

end

theorem run_executeApprovedSms (env : ApiEnv) (account : Account) (check : WordCheck)
    (accountId : ℕ) (phoneNumber : Option String) (idle : state.requests request = .idle)
    (unused : ∀ row ∈ state.db.smsLogs, row.messageId ≠ env.drawnId 0) :
    ∃ transitions last, Run Step state transitions last ∧
      last.requests request = .ended ∧
      (last.db, last.approval) =
        let executed := executeApprovedSms env account check accountId state.approval phoneNumber
          state.db
        (executed.1, executed.2.1) := by
  rw [executeApprovedSms]
  cases accepts : acceptApproved env account check accountId state.approval phoneNumber with
  | error error =>
      have read : state.Step (.read request env account check accountId phoneNumber)
          (state.setStage request .ended) := by
        cases present : state.approval <;> simp [Step, next, idle, accepts]
      exact ⟨_, _, .cons read (.nil _), by simp [setStage], rfl⟩
  | ok passed =>
      rcases passed with ⟨numbered, accepted⟩
      rcases acceptApproved_spec accepts with ⟨loaded, present, unmarked, number, rfl⟩
      set numbered : SmsContentApproval := { loaded with phoneNumber := number } with isNumbered
      set holding := state.setStage request (.accepted accountId loaded numbered accepted)
        with isHolding
      have read : state.Step (.read request env account check accountId phoneNumber) holding := by
        rw [present] at accepts
        simp [Step, next, idle, accepts, present, isHolding]
      have stage : holding.requests request =
          .accepted accountId loaded numbered accepted := by
        simp [isHolding, setStage]
      have uncharged : (∀ paid charge,
          accepted.calculateAndCharge env accountId state.db ≠ .charged paid charge) →
            ∃ transitions last, Run Step state transitions last ∧
              last.requests request = .ended ∧
              (last.db, last.approval) = (state.db, state.approval) := fun never =>
        ⟨_, _, .cons read (.cons (step_uncharged stage never) (.nil _)), by simp [setStage], rfl⟩
      cases charged : accepted.calculateAndCharge env accountId state.db with
      | insufficientBalance =>
          simp only [charged]
          exact uncharged (by simp [charged])
      | pricingNotFound =>
          simp only [charged]
          exact uncharged (by simp [charged])
      | accountNotFound =>
          simp only [charged]
          exact uncharged (by simp [charged])
      | charged paid charge =>
          have flushes : loaded.flush numbered holding.approval = some (some numbered) := by
            rw [show holding.approval = some loaded from present]
            exact SmsContentApproval.flush_self rfl rfl rfl
          have book := step_charged stage unused flushes charged
          set booked : ApprovalSends :=
            { holding.setStage request (.booked numbered (env.drawnId 0)) with
              db := paid.addSmsLogs
                [accepted.row accountId state.db.nextId (env.drawnId 0) charge env.now]
              approval := some numbered } with isBooked
          have stands : booked.requests request = .booked numbered (env.drawnId 0) := by
            simp [isBooked, setStage]
          by_cases queued : queueSms env.broker (env.drawnId 0) = true
          · rcases run_sent env.broker stands rfl queued with ⟨rest, last, run, ended, db, stored⟩
            refine ⟨_, last, .cons read (.cons book run), ended, ?_⟩
            simp only [charged, if_pos queued, db, stored]
            rfl
          · rcases run_unqueued env.broker env.unicode env.now stands rfl queued with
              ⟨rest, last, run, ended, db, stored⟩
            refine ⟨_, last, .cons read (.cons book run), ended, ?_⟩
            simp only [charged, if_neg queued, db, stored]
            rfl

end ApprovalSends

end Klsmsc
