import Klsmsc.Chunk.Basic

/-!
# The checks in front of the charge

What `_do_process_chunk` does to each entry of its list before any money moves:
entries that are in the batch already are passed over, the others are brought to
a common spelling, parsed, screened and given a message and a channel. The
virtual fast path and the ordinary path share the screening; the ordinary path
keeps what fails, as the rows of the pre-failed entries, and takes an exception
for such a failure.
-/

namespace Klsmsc

def normalizePhone (unicode : Unicode) (phone : String) : String :=
  String.ofList ((strip unicode phone).toList.filter fun char => char ∉ [' ', '-', '(', ')'])

/-- `Validator.validate_phone_number`: the error text, or the number. -/
def validatePhoneNumber (env : ChunkEnv) (phone : String) : Except String PhoneInfo :=
  let fixed : Option String :=
    if phone.toList.head? = some '+' then some phone
    else if phone.toList ≠ [] ∧ phone.toList.all env.unicode.isDigit then some ("+" ++ phone)
    else none
  match fixed with
  | none => .error "号码必须以 + 开头 (E.164格式)"
  | some number =>
      match env.parseNumber number with
      | .error .numberParse => .error "号码解析失败"
      | .error .other => .error "系统验证错误"
      | .ok parsed =>
          if parsed.isValid ∨ parsed.isPossible then .ok parsed.toPhoneInfo
          else .error "无效的手机号码"

/-- `account_country_iso`. -/
def accountCountryIso (env : ChunkEnv) (account : Account) : Option String :=
  match account.countryCode with
  | none => none
  | some code =>
      if strip env.unicode code = "" then none
      else env.normalizeCountryCode (strip env.unicode code)

/-- `assert_sms_destination_allowed` does not raise. -/
def smsDestinationAllowed (env : ChunkEnv) (account : Account) (destination : String) : Bool :=
  match accountCountryIso env account with
  | none => true
  | some country => country = "" ∨ env.normalizeCountryCode destination = some country

structure CheckContext where
  alreadyDone : List String
  blacklistedPhones : List String
  account : Option Account

/-- An entry that has failed a check: the spelling, the country and the error of
the row that is to be written for it. -/
structure Prefailed where
  phone : String
  countryCode : Option String
  error : String
  deriving DecidableEq, Repr

structure ValidItem where
  phoneInfo : PhoneInfo
  finalMessage : String
  msgCount : ℕ
  batchIndex : ℕ
  channel : Channel
  deriving DecidableEq, Repr

section

variable (env : ChunkEnv) (input : ChunkInput) (context : CheckContext)

def screenNumber (phone : String) : Except Prefailed PhoneInfo :=
  match validatePhoneNumber env phone with
  | .error text => .error ⟨phone, none, text⟩
  | .ok info =>
      if phone ∈ context.blacklistedPhones ∨ info.e164Format ∈ context.blacklistedPhones then
        .error ⟨info.e164Format, some info.countryCode, "Blacklisted"⟩
      else if context.account.all fun account =>
          smsDestinationAllowed env account info.countryCode then
        .ok info
      else
        .error ⟨info.e164Format, some info.countryCode,
          "Country not allowed: " ++ info.countryCode⟩

def messageFor (batchIndex : ℕ) (info : PhoneInfo) : String :=
  let rawBody :=
    if 0 < input.rotMessages.length then
      input.rotMessages.getD ((batchIndex - 1) % input.rotMessages.length) ""
    else input.message
  if env.smsTemplateHasVariables rawBody then env.renderSmsVariables rawBody batchIndex info
  else rawBody

def checkVirtual (channel : Channel) (index : ℕ) (phone : String) : Except Prefailed ValidItem :=
  match screenNumber env context phone with
  | .error failure => .error failure
  | .ok info =>
      let batchIndex := input.startOffset + index + 1
      let finalMessage := messageFor env input batchIndex info
      .ok ⟨info, finalMessage, env.countSmsParts finalMessage, batchIndex, channel⟩

def checkNumber (index : ℕ) (phone : String) : Except Prefailed ValidItem :=
  match screenNumber env context phone with
  | .error failure => .error failure
  | .ok info =>
      let batchIndex := input.startOffset + index + 1
      let finalMessage := messageFor env input batchIndex info
      match env.selectChannel info.countryCode input.channelId input.accountId with
      | .error text => .error ⟨phone, none, text⟩
      | .ok none =>
          .error ⟨info.e164Format, some info.countryCode,
            "No available channel for " ++ info.countryCode⟩
      | .ok (some channel) =>
          if channel.isRcs then
            match env.validateRcsContent finalMessage with
            | some text => .error ⟨info.e164Format, some info.countryCode, text⟩
            | none => .ok ⟨info, finalMessage, 1, batchIndex, channel⟩
          else .ok ⟨info, finalMessage, env.countSmsParts finalMessage, batchIndex, channel⟩

end

structure Prechecked where
  done : ℕ
  prefailed : List Prefailed
  valid : List ValidItem
  deriving DecidableEq, Repr

namespace Prechecked

def empty : Prechecked := ⟨0, [], []⟩

def skip (rest : Prechecked) : Prechecked :=
  { rest with done := rest.done + 1 }

def add (result : Except Prefailed ValidItem) (rest : Prechecked) : Prechecked :=
  match result with
  | .error failure => { rest with prefailed := failure :: rest.prefailed }
  | .ok item => { rest with valid := item :: rest.valid }

end Prechecked

section

variable (env : ChunkEnv) (faults : Faults) (input : ChunkInput) (context : CheckContext)

def precheckVirtual (channel : Channel) : ℕ → List String → Except Raise Prechecked
  | _, [] => .ok .empty
  | index, phone :: phones =>
      if phone ∈ context.alreadyDone then
        (precheckVirtual channel (index + 1) phones).map Prechecked.skip
      else
        match faults (.precheck index) with
        | some fault => .error fault.raised
        | none =>
            (precheckVirtual channel (index + 1) phones).map
              (Prechecked.add
                (checkVirtual env input context channel index (normalizePhone env.unicode phone)))

def precheckNumber (index : ℕ) (phone : String) : Except Raise (Except Prefailed ValidItem) :=
  match faults (.precheck index) with
  | none => .ok (checkNumber env input context index (normalizePhone env.unicode phone))
  | some fault =>
      if fault.raised.isException then
        .ok (.error ⟨normalizePhone env.unicode phone, none, fault.raised.text⟩)
      else .error fault.raised

def precheck : ℕ → List String → Except Raise Prechecked
  | _, [] => .ok .empty
  | index, phone :: phones =>
      if phone ∈ context.alreadyDone then
        (precheck (index + 1) phones).map Prechecked.skip
      else
        (precheckNumber env faults input context index phone).bind fun result =>
          (precheck (index + 1) phones).map (Prechecked.add result)

end

def Prefailed.smsLog (env : ChunkEnv) (input : ChunkInput) (index : ℕ) (failure : Prefailed) :
    SmsLog where
  id := 0
  messageId := env.messageId (.prefailed index)
  upstreamMessageId := none
  accountId := input.accountId
  channelId := none
  batchId := some input.batchId
  phoneNumber := truncate 20 failure.phone
  countryCode := failure.countryCode
  senderId := none
  message := input.message
  messageCount := 1
  status := .failed
  costPrice := some 0
  sellingPrice := some 0
  currency := "USD"
  submitTime := some env.now
  sentTime := none
  deliveryTime := none
  errorMessage := some failure.error
  refundedAt := none
  refundedBy := none
  refundedAmount := none

end Klsmsc
