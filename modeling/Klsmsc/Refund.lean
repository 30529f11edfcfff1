import Klsmsc.Library.Runs
import Klsmsc.Library.Sessions
import Klsmsc.Text

/-!
# Refunds

The refund service `services/sms_refund.py`: three entry points with different
eligibility checks over one core that claims the row with a conditional UPDATE,
then credits the account and adds a `BalanceLog`. Two of the entry points have
batch variants, and the third runs inside a transaction of its caller.

The statements of concurrent calls interleave. A call is a sequence of steps of
a session: the locking SELECT together with the checks on what it returned, the
claim, the credit, the bookkeeping, and the commit. The row that the checks see
can be an old version from the session's identity map, so it agrees with the
row in the table only outside of the refund columns. A statement that needs a
lock which another session holds is not enabled. A session can lose its
transaction at any point, which is how exceptions and lost processes end. It
makes nothing durable that way.

A success that a call reports is recorded with the writes of the transaction,
so that `successes` lists the calls that reported a success and whose
transaction was committed.
-/

namespace Klsmsc

open Library

/-- `_SUBMITTED_PATTERNS.search(err)`. -/
def submittedPatterns (unicode : Unicode) (text : String) : Bool :=
  text.toList.tails.any fun tail =>
    (match dropLiteral "SMPP Error:".toList tail with
      | some rest => ((rest.dropWhile unicode.isSpace).head?.map unicode.isDecimal).getD false
      | none => false) ||
    (dropLiteral "SMPP DLR:".toList tail).isSome ||
    (dropLiteral "DLR 超时".toList tail).isSome ||
    (dropLiteral "SubmitSMResp丢失".toList tail).isSome

/-- `(row.error_message or "").strip()`. -/
def SmsLog.errorText (unicode : Unicode) (row : SmsLog) : String :=
  strip unicode (row.errorMessage.getD "")

/-- `_looks_submitted_to_upstream`. -/
def looksSubmittedToUpstream (unicode : Unicode) (row : SmsLog) : Bool :=
  row.upstreamMessageId.getD "" ≠ "" ∨
    row.errorText unicode ≠ "" ∧ submittedPatterns unicode (row.errorText unicode)

/-- The classification that `classify_refund_candidate` gives an eligible row. -/
def refundCategory (err : String) : String :=
  if err = "" then "未知系统错误（无错误信息）"
  else if ["No available channel", "无可用通道"].any (textContains err) then "通道不可用/路由失败"
  else if ["黑名单", "blacklist"].any (textContains err) then "黑名单拦截"
  else if ["批次已取消", "cancelled"].any (textContains err) then "批次已取消"
  else if ["队列", "queue", "RabbitMQ"].any (textContains err) then "入队失败"
  else if ["RBINDFAIL", "Bind Failed", "未绑定"].any (textContains err) then "通道未 bind 成功"
  else "其它系统错误"

/-- `classify_refund_candidate`: the reason why the row is not eligible, or its category. -/
def classifyRefundCandidate (unicode : Unicode) (row : SmsLog) : Except String String :=
  if row.status ≠ .failed then .error ("状态非 failed（" ++ row.status.text ++ "）")
  else if row.refundedAt ≠ none then .error "已退款"
  else if row.costPrice.getD 0 ≤ 0 then .error "无销售价/已是零费用"
  else if looksSubmittedToUpstream unicode row then .error "看起来已提交到上游，需上游确认未发出"
  else .ok (refundCategory (row.errorText unicode))

/-- The entry points. The flag says whether `execute_auto_refund` commits by itself. -/
inductive RefundEntry where
  | refund (adminUsername : String)
  | autoRefund (source : String) (autoCommit : Bool)
  | adminForceRefund (adminUsername : String)
  deriving DecidableEq, Repr

namespace RefundEntry

/-- The argument `auto_commit` of `_do_refund`. -/
def autoCommit : RefundEntry → Bool
  | refund _ => true
  | autoRefund _ flag => flag
  | adminForceRefund _ => true

/-- The argument `refunded_by` of `_do_refund`, cut to the column's width. -/
def refundedBy : RefundEntry → String
  | refund adminUsername => truncate 100 adminUsername
  | autoRefund source _ => truncate 100 ("system:" ++ source)
  | adminForceRefund adminUsername => truncate 100 adminUsername

/-- The eligibility check of an entry point on the row it has loaded: the reason
of a refusal, or the category of the refund. -/
def check (unicode : Unicode) (entry : RefundEntry) (row : SmsLog) : Except String String :=
  match entry with
  | refund _ => classifyRefundCandidate unicode row
  | autoRefund source _ =>
      if row.refundedAt ≠ none then .error "already_refunded" else .ok source
  | adminForceRefund _ =>
      if row.status ≠ .failed then .error ("状态非 failed（" ++ row.status.text ++ "）")
      else if row.refundedAt ≠ none then .error "已退款"
      else if row.price ≤ 0 then .error "无销售价/已是零费用"
      else .ok "admin_force"

/-- The check of the entry point, then that of `_do_refund` on the amount. -/
def grant (unicode : Unicode) (entry : RefundEntry) (row : SmsLog) : Except String String :=
  match entry.check unicode row with
  | .error reason => .error reason
  | .ok category => if row.price ≤ 0 then .error "金额非正" else .ok category

end RefundEntry

structure RefundCall where
  entry : RefundEntry
  smsLogId : ℕ
  deriving DecidableEq, Repr

inductive RefundRequest where
  | single (call : RefundCall)
  | refundBatch (adminUsername : String) (smsLogIds : List ℕ)
  | adminForceRefundBatch (adminUsername : String) (smsLogIds : List ℕ)
  deriving DecidableEq, Repr

def RefundRequest.calls : RefundRequest → List RefundCall
  | single call => [call]
  | refundBatch adminUsername smsLogIds =>
      smsLogIds.map fun smsLogId => ⟨.refund adminUsername, smsLogId⟩
  | adminForceRefundBatch adminUsername smsLogIds =>
      smsLogIds.map fun smsLogId => ⟨.adminForceRefund adminUsername, smsLogId⟩

/-- What the conditional UPDATE of `_do_refund` writes, and on which row. -/
structure Claim where
  smsLogId : ℕ
  accountId : ℕ
  amount : Money
  refundedAt : ℕ
  refundedBy : String
  deriving DecidableEq, Repr

structure Refund extends Claim where
  balanceAfter : Money
  deriving DecidableEq, Repr

/-- The columns that the UPDATE of `_do_refund` sets. -/
def SmsLog.refunded (row : SmsLog) (claim : Claim) : SmsLog :=
  { row with
    refundedAt := some claim.refundedAt
    refundedBy := some claim.refundedBy
    refundedAmount := some claim.amount }

/-- The condition of the UPDATE of `_do_refund`. -/
def Claim.applies (claim : Claim) (row : SmsLog) : Bool :=
  row.id = claim.smsLogId ∧ row.refundedAt = none

/-- The `BalanceLog` of a success. -/
def Refund.balanceLog (refund : Refund) : BalanceLog where
  accountId := refund.accountId
  changeType := .refund
  amount := refund.amount
  balanceAfter := refund.balanceAfter

structure Books where
  db : Db
  successes : List Refund

/-- The writes of the statements of `_do_refund`, and the success it reports. -/
inductive RefundWrite where
  | claim (made : Claim)
  | credit (accountId : ℕ) (amount : Money)
  | record (refund : Refund)

def RefundWrite.apply (books : Books) : RefundWrite → Books
  | claim made =>
      { books with db := books.db.updateSmsLogs made.applies fun row => row.refunded made }
  | credit accountId amount => { books with db := books.db.addBalance accountId amount }
  | record refund =>
      { db := books.db.addBalanceLog refund.balanceLog
        successes := books.successes ++ [refund] }

inductive RefundKey where
  | smsLog (id : ℕ)
  | account (id : ℕ)
  deriving DecidableEq, Repr

inductive RefundStage where
  | idle
  | selecting (call : RefundCall)
  | claiming (call : RefundCall) (seen : SmsLog)
  | crediting (call : RefundCall) (claim : Claim)
  | recording (call : RefundCall) (claim : Claim)
  | committing
  deriving DecidableEq, Repr

/-- A session's calls to come, the writes that were pending when the current
call began, and where the current call stands. -/
structure RefundTask where
  queue : List RefundCall
  begun : List RefundWrite
  stage : RefundStage

abbrev RefundStore := Store Books RefundWrite RefundKey RefundTask

namespace RefundStore

def start (db : Db) : RefundStore where
  committed := ⟨db, []⟩
  sessions _ := ⟨[], [], [], [], .idle⟩

def task (store : RefundStore) (index : ℕ) : RefundTask :=
  (store.sessions index).phase

def pending (store : RefundStore) (index : ℕ) : List RefundWrite :=
  (store.sessions index).pending

def visible (store : RefundStore) (index : ℕ) : Db :=
  (store.view RefundWrite.apply index).db

def advance (store : RefundStore) (index : ℕ) (stage : RefundStage) : RefundStore :=
  store.move index { store.task index with stage := stage }

end RefundStore

def SmsLog.SameButRefund (left right : SmsLog) : Prop :=
  { left with refundedAt := none, refundedBy := none, refundedAmount := none } =
    { right with refundedAt := none, refundedBy := none, refundedAmount := none }

instance (left right : SmsLog) : Decidable (left.SameButRefund right) := by
  unfold SmsLog.SameButRefund
  infer_instance

/-- The claim that `_do_refund` makes for the row that the entry point has loaded. -/
def RefundCall.claim (call : RefundCall) (seen : SmsLog) (now : ℕ) : Claim where
  smsLogId := seen.id
  accountId := seen.accountId
  amount := seen.price
  refundedAt := now
  refundedBy := call.entry.refundedBy

/-- What a session does in a step. A call ends without success in `missing`,
`refused` and `lost`. -/
inductive RefundAction where
  | request (request : RefundRequest)
  | begin
  | missing
  | refused (reason : String)
  | admitted (category : String)
  | claim
  | lost
  | credit
  | record (refund : Refund)
  | commit
  | rollback (carryOn : Bool)
  deriving DecidableEq, Repr

structure RefundLabel where
  session : ℕ
  action : RefundAction
  deriving DecidableEq, Repr

inductive RefundStep (unicode : Unicode) : RefundStore → RefundLabel → RefundStore → Prop where
  | request {store : RefundStore} {index : ℕ} (request : RefundRequest)
      (idle : (store.task index).stage = .idle) (nothingLeft : (store.task index).queue = []) :
      RefundStep unicode store ⟨index, .request request⟩
        (store.move index { store.task index with queue := request.calls })
  | begin {store : RefundStore} {index : ℕ} {call : RefundCall} {rest : List RefundCall}
      (idle : (store.task index).stage = .idle)
      (next : (store.task index).queue = call :: rest) :
      RefundStep unicode store ⟨index, .begin⟩
        (store.move index ⟨rest, store.pending index, .selecting call⟩)
  | missing {store : RefundStore} {index : ℕ} {call : RefundCall}
      (stage : (store.task index).stage = .selecting call)
      (noRow : ∀ row ∈ (store.visible index).smsLogs, row.id ≠ call.smsLogId) :
      RefundStep unicode store ⟨index, .missing⟩ (store.advance index .idle)
  | refused {store : RefundStore} {index : ℕ} {call : RefundCall} {row seen : SmsLog}
      {reason : String}
      (stage : (store.task index).stage = .selecting call)
      (free : store.Free index (.smsLog call.smsLogId))
      (found : row ∈ (store.visible index).smsLogs) (isRow : row.id = call.smsLogId)
      (loaded : seen.SameButRefund row)
      (checked : call.entry.grant unicode seen = .error reason) :
      RefundStep unicode store ⟨index, .refused reason⟩
        (RefundStore.advance (store.lock index (.smsLog call.smsLogId)) index .idle)
  | admitted {store : RefundStore} {index : ℕ} {call : RefundCall} {row seen : SmsLog}
      {category : String}
      (stage : (store.task index).stage = .selecting call)
      (free : store.Free index (.smsLog call.smsLogId))
      (found : row ∈ (store.visible index).smsLogs) (isRow : row.id = call.smsLogId)
      (loaded : seen.SameButRefund row)
      (checked : call.entry.grant unicode seen = .ok category) :
      RefundStep unicode store ⟨index, .admitted category⟩
        (RefundStore.advance (store.lock index (.smsLog call.smsLogId)) index
          (.claiming call seen))
  | claim {store : RefundStore} {index : ℕ} {call : RefundCall} {seen : SmsLog} (now : ℕ)
      (stage : (store.task index).stage = .claiming call seen)
      (applies : (store.visible index).smsLogs.any (call.claim seen now).applies = true) :
      RefundStep unicode store ⟨index, .claim⟩
        (RefundStore.advance (store.write index [.claim (call.claim seen now)]) index
          (.crediting call (call.claim seen now)))
  | lost {store : RefundStore} {index : ℕ} {call : RefundCall} {seen : SmsLog} (now : ℕ)
      (stage : (store.task index).stage = .claiming call seen)
      (noRow : (store.visible index).smsLogs.any (call.claim seen now).applies = false) :
      RefundStep unicode store ⟨index, .lost⟩ (store.advance index .idle)
  | credit {store : RefundStore} {index : ℕ} {call : RefundCall} {claim : Claim}
      (stage : (store.task index).stage = .crediting call claim)
      (free : store.Free index (.account claim.accountId)) :
      RefundStep unicode store ⟨index, .credit⟩
        (RefundStore.advance
          ((store.lock index (.account claim.accountId)).write index
            [.credit claim.accountId claim.amount])
          index (.recording call claim))
  | record {store : RefundStore} {index : ℕ} {call : RefundCall} {claim : Claim}
      {refund : Refund}
      (stage : (store.task index).stage = .recording call claim)
      (reported : refund =
        ⟨claim, ((store.visible index).balance claim.accountId).getD 0⟩) :
      RefundStep unicode store ⟨index, .record refund⟩
        (RefundStore.advance (store.write index [.record refund]) index
          (if call.entry.autoCommit then .committing else .idle))
  | commit {store : RefundStore} {index : ℕ}
      (stage : (store.task index).stage = .committing ∨ (store.task index).stage = .idle) :
      RefundStep unicode store ⟨index, .commit⟩
        (store.commit RefundWrite.apply index { store.task index with stage := .idle })
  | rollback {store : RefundStore} {index : ℕ} (carryOn : Bool) :
      RefundStep unicode store ⟨index, .rollback carryOn⟩
        (store.rollback index
          ⟨if carryOn then (store.task index).queue else [], [], .idle⟩)

end Klsmsc
