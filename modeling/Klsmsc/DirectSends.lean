import Klsmsc.Inbound.Verdict
import Klsmsc.SmallBatch

/-!
# Requests for single messages

`submit_sms_core`, `send_sms_ruanwei_compat` and `execute_approved_sms`. Each of them charges a
message and stores its row in one transaction, and calls the queue manager behind the commit. When
that fails, the row is refunded and marked as failed in the next transaction of the request. That
one is committed by the handler itself or by `get_db`, when the handler returns; an exception in
the handler rolls it back.

The rows that word checks leave in the log of operations are left out.
-/

namespace Klsmsc

/-! ### One message -/

/-- `SMSSendResponse`. -/
structure SendResponse where
  success : Bool
  messageId : Option MessageId
  error : Option SubmitError
  status : Option SmsStatus
  cost : Option Money
  currency : Option String
  messageCount : Option ℕ
  deriving DecidableEq, Repr

def SendResponse.refusal (messageId : Option MessageId) (error : SubmitError) : SendResponse :=
  ⟨false, messageId, some error, none, none, none, none⟩

def SendResponse.queued (messageId : MessageId) (charge : RetryCharge) : SendResponse :=
  ⟨true, some messageId, none, some .queued, some charge.totalCost, some charge.currency,
    some charge.messageCount⟩

def queueFailed : SubmitError :=
  ⟨"QUEUE_FAILED", "加入发送队列失败，请检查消息队列与短信 Worker（worker-sms）"⟩

/-- The arguments of `submit_sms_core` that do not say what to send. -/
structure SubmitOptions where
  messageIdHint : Option MessageId
  deferBalanceLog : Bool
  deriving DecidableEq, Repr

section

variable (env : ApiEnv) (account : Account) (check : WordCheck)

/-- `message_id_hint or f"msg_{uuid.uuid4().hex}"`. -/
def SubmitOptions.messageId (options : SubmitOptions) : MessageId :=
  options.messageIdHint.getD (env.drawnId 0)

/-- `submit_sms_core`. A message id that is taken already raises. -/
def submitSmsCore (request : SubmitRequest) (options : SubmitOptions) (db : Db) :
    Db × SendResponse :=
  match acceptMessage env.toSubmitEnv account check request with
  | .error error => (db, .refusal none error)
  | .ok accepted =>
      let messageId := options.messageId env
      match PricingEngine.calculateAndCharge env.toChunkEnv db request.accountId accepted.channel
        accepted.countryCode accepted.finalMessage options.deferBalanceLog with
      | .charged paid charge =>
          if db.smsLogs.any fun row => row.messageId = messageId then
            (db, .refusal none internalError)
          else
            let row := accepted.row request.accountId db.nextId messageId charge env.now
            let booked := paid.addSmsLogs [row]
            let logged :=
              if options.deferBalanceLog then logBooked booked request.accountId messageId
              else booked
            if queueSms env.broker messageId then (logged, .queued messageId charge)
            else
              (failUnqueued env.unicode logged messageId "queue_failed"
                "加入发送队列失败，请检查 RabbitMQ 与 Celery worker-sms 是否运行" env.now,
                .refusal (some messageId) queueFailed)
      | failure => (db, .refusal none (chargeError env request.accountId db accepted failure))

end

/-! ### An approved text -/

/-- The column `sms_content_approvals.status`. -/
inductive ApprovalStatus where
  | pending
  | approved
  | rejected
  deriving DecidableEq, Repr

/-- A row of `sms_content_approvals`. -/
structure SmsContentApproval where
  accountId : ℕ
  phoneNumber : Option String
  content : String
  status : ApprovalStatus
  messageId : Option MessageId
  sendError : Option String
  deriving DecidableEq, Repr

/-- How `execute_approved_sms` ends: with an HTTP error, another exception, or the message. -/
inductive ExecuteResponse where
  | http (status : ℕ) (detail : String)
  | raised (error : SubmitError)
  | sent (messageId : MessageId) (cost : Money)
  deriving DecidableEq, Repr

section

variable (env : ApiEnv) (account : Account) (check : WordCheck) (accountId : ℕ)

def SmsContentApproval.phone (unicode : Unicode) (approval : SmsContentApproval)
    (phoneNumber : Option String) : Except ExecuteResponse String :=
  let stored := strip unicode (approval.phoneNumber.getD "")
  let incoming := strip unicode (phoneNumber.getD "")
  if stored ≠ "" then .ok stored
  else if incoming ≠ "" then .ok incoming
  else .error (.http 400
    "该审核未保存接收号码，请在请求中填写目标号码（E.164，如 +8613800138000）后再发送")

def SmsContentApproval.isOpen (approval : Option SmsContentApproval) :
    Except ExecuteResponse SmsContentApproval :=
  match approval with
  | none => .error (.http 404 "审核记录不存在")
  | some approval =>
      if approval.accountId ≠ accountId then .error (.http 403 "无权操作此审核记录")
      else if approval.status ≠ .approved then .error (.http 400 "该短信未通过审核或已拒绝")
      else if approval.messageId.isSome then .error (.http 400 "该短信已发送")
      else .ok approval

def SmsContentApproval.finalMessage (approval : SmsContentApproval) (info : PhoneInfo) : String :=
  if env.smsTemplateHasVariables approval.content then
    env.renderSmsVariables approval.content 1 info
  else approval.content

/-- The number behind the checks of `execute_approved_sms`. -/
def acceptApprovedNumber (phone : String) : Except ExecuteResponse PhoneInfo :=
  match validatePhoneNumber env.toChunkEnv phone with
  | .error text => .error (.http 400 text)
  | .ok info =>
      if smsDestinationAllowed env.toChunkEnv account info.countryCode then .ok info
      else .error (.http 400 (countryNotAllowed env.toSubmitEnv account info.countryCode).message)

def routeApproved (countryCode : String) : Except ExecuteResponse Channel :=
  match env.selectChannel countryCode none accountId with
  | .error text => .error (.raised ⟨"CHANNEL_NOT_AVAILABLE", text⟩)
  | .ok none => .error (.http 400 "无可用通道")
  | .ok (some channel) => .ok channel

def screenApproved (channel : Channel) (countryCode finalMessage : String) :
    Except ExecuteResponse Unit :=
  match validateContent finalMessage with
  | some text => .error (.http 400 text)
  | none =>
      match check 1 finalMessage (some channel.id) (some countryCode) with
      | .error _ => .error (.raised internalError)
      | .ok (some word) => .error (.http 400 s!"内容包含违禁词: {word}")
      | .ok none =>
          if channel.isRcs then
            match env.validateRcsContent finalMessage with
            | some text => .error (.http 400 text)
            | none => .ok ()
          else .ok ()

/-- `execute_approved_sms` up to the charge: the approval with its number, and the message. -/
def acceptApproved (approval : Option SmsContentApproval) (phoneNumber : Option String) :
    Except ExecuteResponse (SmsContentApproval × Acceptance) := do
  let approval ← SmsContentApproval.isOpen accountId approval
  let phone ← approval.phone env.unicode phoneNumber
  let info ← acceptApprovedNumber env account phone
  let numbered :=
    if strip env.unicode (approval.phoneNumber.getD "") = "" ∧ info.e164Format ≠ "" then
      { approval with phoneNumber := some info.e164Format }
    else approval
  let channel ← routeApproved env accountId info.countryCode
  let finalMessage := approval.finalMessage env info
  screenApproved env check channel info.countryCode finalMessage
  return (numbered, ⟨channel, info.e164Format, info.countryCode, none, finalMessage⟩)

/-- `execute_approved_sms`: the tables, the approval and the response. -/
def executeApprovedSms (approval : Option SmsContentApproval) (phoneNumber : Option String)
    (db : Db) : Db × Option SmsContentApproval × ExecuteResponse :=
  match acceptApproved env account check accountId approval phoneNumber with
  | .error error => (db, approval, error)
  | .ok (numbered, accepted) =>
      let messageId := env.drawnId 0
      match accepted.calculateAndCharge env accountId db with
      | .charged paid charge =>
          let booked :=
            paid.addSmsLogs [accepted.row accountId db.nextId messageId charge env.now]
          if queueSms env.broker messageId then
            (booked, some { numbered with messageId := some messageId, sendError := none },
              .sent messageId charge.totalCost)
          else
            (failUnqueued env.unicode booked messageId "review_queue_failed" "加入发送队列失败"
                env.now,
              some { numbered with
                sendError := some "加入发送队列失败，请检查 RabbitMQ 与 worker-sms" },
              .http 503 "加入发送队列失败，请稍后重试或联系管理员")
      | .accountNotFound => (db, approval, .http 400 "Account not found")
      | failure => (db, approval, .raised (chargeError env accountId db accepted failure))

end

/-! ### The compatible protocol -/

/-- The parameters of `send_sms_ruanwei_compat`. -/
structure RuanweiRequest where
  action : Option String
  account : Option String
  mobile : Option String
  content : Option String
  extno : Option String
  password : Option String
  deriving DecidableEq, Repr

structure RuanweiItem where
  mobile : String
  mid : Option MessageId
  result : ℕ
  deriving DecidableEq, Repr

structure RuanweiEnv extends ApiEnv where
  activeAccount : (accountName : String) → Option (ℕ × Option String)
  md5 : String → String

inductive RuanweiRefusal where
  | result (code : ℕ)
  | raised
  deriving DecidableEq, Repr

/-- The variables of the loop over the recipients: the committed tables, the tables as its session
sees them, and the list of the response. -/
structure RuanweiLoop where
  committed : Db
  db : Db
  items : List RuanweiItem

section

variable (env : RuanweiEnv) (account : Account) (check : WordCheck) (accountId : ℕ)
  (content : String)

def screenRuanwei (number : ℕ) (finalMessage : String) (channelId : Option ℕ)
    (countryCode : Option String) : Except RuanweiRefusal Unit :=
  match check number finalMessage channelId countryCode with
  | .error _ => .error .raised
  | .ok (some _) => .error (.result 17)
  | .ok none => .ok ()

def acceptRuanweiNumber (phone : String) : Except RuanweiRefusal PhoneInfo :=
  match validatePhoneNumber env.toChunkEnv phone with
  | .error _ => .error (.result 15)
  | .ok info =>
      if smsDestinationAllowed env.toChunkEnv account info.countryCode then .ok info
      else .error (.result 17)

def routeRuanwei (countryCode : String) : Except RuanweiRefusal Channel :=
  match env.selectChannel countryCode none accountId with
  | .error _ => .error .raised
  | .ok none => .error (.result 17)
  | .ok (some channel) => .ok channel

def acceptRuanwei (phone : String) : Except RuanweiRefusal Acceptance := do
  let info ← acceptRuanweiNumber env account phone
  let finalMessage :=
    if env.smsTemplateHasVariables content then env.renderSmsVariables content 1 info else content
  if (validateContent finalMessage).isSome then throw (.result 17)
  screenRuanwei check 0 finalMessage none none
  let channel ← routeRuanwei env accountId info.countryCode
  screenRuanwei check 1 finalMessage (some channel.id) (some info.countryCode)
  return ⟨channel, info.e164Format, info.countryCode, none, finalMessage⟩

namespace RuanweiLoop

def pass (loop : RuanweiLoop) (phone : String) (result : ℕ) : RuanweiLoop :=
  { loop with items := loop.items ++ [⟨phone, none, result⟩] }

def enqueue (loop : RuanweiLoop) (phone : String) (messageId : MessageId) (booked : Db) :
    RuanweiLoop :=
  if queueSms env.broker messageId then
    ⟨booked, booked, loop.items ++ [⟨phone, some messageId, 0⟩]⟩
  else
    ⟨booked,
      failUnqueued env.unicode booked messageId "ruanwei_queue_failed" "queue failed" env.now,
      loop.items ++ [⟨phone, some messageId, 17⟩]⟩

def recipient (index : ℕ) (phone : String) (loop : RuanweiLoop) : Option RuanweiLoop :=
  match acceptRuanwei env account check accountId content phone with
  | .error (.result code) => some (loop.pass phone code)
  | .error .raised => none
  | .ok accepted =>
      let messageId := env.drawnId index
      match accepted.calculateAndCharge env.toApiEnv accountId loop.db with
      | .charged paid charge =>
          let row := accepted.row accountId loop.db.nextId messageId charge env.now
          some (loop.enqueue env phone messageId (paid.addSmsLogs [row]))
      | .accountNotFound => some (loop.pass phone 10)
      | _ => none

def recipients : (index : ℕ) → List String → RuanweiLoop → RuanweiLoop × Bool
  | _, [], loop => (loop, false)
  | index, phone :: phones, loop =>
      match recipient env account check accountId content index phone loop with
      | none => (loop, true)
      | some next => recipients (index + 1) phones next

end RuanweiLoop

end

def mobileList (unicode : Unicode) (mobile : String) : List String :=
  ((mobile.splitOn ",").map (strip unicode)).filter (· ≠ "")

/-- The checks of the protocol: the status that it refuses a request with, or the account, the text
and the recipients. -/
def acceptRuanweiRequest (env : RuanweiEnv) (request : RuanweiRequest) :
    Except String (ℕ × String × List String) :=
  if request.action ≠ some "send" then .error "100"
  else
    let account := request.account.getD ""
    let mobile := request.mobile.getD ""
    let content := request.content.getD ""
    let password := request.password.getD ""
    if account = "" ∨ mobile = "" ∨ content = "" ∨ password = "" then .error "21"
    else
      match env.activeAccount account with
      | none => .error "3"
      | some (accountId, apiSecret) =>
          let secret := apiSecret.getD ""
          let expected := env.md5 (secret ++ request.extno.getD "" ++ content ++ mobile)
          if secret = "" ∨ env.unicode.lower expected ≠ env.unicode.lower password then .error "3"
          else
            let phones := mobileList env.unicode mobile
            if phones = [] then .error "21" else .ok (accountId, content, phones)

def ruanweiLoop (env : RuanweiEnv) (check : WordCheck) (accountId : ℕ) (content : String)
    (phones : List String) (db : Db) : RuanweiLoop × Bool :=
  match db.accounts accountId with
  | none => (⟨db, db, []⟩, false)
  | some account => RuanweiLoop.recipients env account check accountId content 0 phones ⟨db, db, []⟩

/-- `send_sms_ruanwei_compat`: the tables, and the response if no exception takes its place. -/
def sendSmsRuanweiCompat (env : RuanweiEnv) (check : WordCheck) (request : RuanweiRequest)
    (db : Db) : Db × Option (String × List RuanweiItem) :=
  match acceptRuanweiRequest env request with
  | .error status => (db, some (status, []))
  | .ok (accountId, content, phones) =>
      match ruanweiLoop env check accountId content phones db with
      | (loop, true) => (loop.committed, none)
      | (loop, false) => (loop.db, some ("0", loop.items))

end Klsmsc
