import Klsmsc.BannedWords
import Klsmsc.BuyAndSend
import Klsmsc.Chunk.Process
import Klsmsc.SubmitCore

/-!
# The ways into the platform

What a message passes between the request that names it and its charge, on each of the ways in:
`submit_sms_core`, the synchronous path of `send_batch_sms`, a chunk of a larger or a scheduled
batch, and `buy_and_send`. The first two refuse with an error that the caller sees; a message that
they accept is charged, stored and enqueued if the account can pay and the broker takes it. The
word check is a parameter, so that the other checks can be looked at by themselves.
-/

namespace Klsmsc

open Library

structure SubmitError where
  code : String
  message : String
  deriving DecidableEq, Repr

/-- `resolve_sender_id`, from the active sender ids and the marks of the defaults. -/
def resolveSender (unicode : Unicode) (active : List (String × Bool)) (countryCode : String)
    (requested : Option String) : Except String (Option String) :=
  let wanted := strip unicode (requested.getD "")
  if wanted ≠ "" then
    if active.any fun sender => sender.1 = wanted then .ok (some wanted)
    else
      let listed := "、".intercalate (active.map Prod.fst)
      let available := if listed = "" then "（该国家未配置SID）" else listed
      .error s!"发送者ID「{wanted}」不在该通道 {countryCode} 的可用SID中。可用：{available}"
  else .ok ((active.find? Prod.snd).map Prod.fst)

/-- The surroundings of the handlers: those of the chunk worker, the code of an RCS error, and the
active rows of `channel_country_sender_ids` with the marks of the defaults. The chunk worker
resolves a sender id that is asked for by the same function, and takes none when that fails. -/
structure SubmitEnv extends ChunkEnv where
  rcsErrorCode : String → String
  activeSenderIds : (channelId : ℕ) → (countryCode : String) → List (String × Bool)
  resolves : ∀ channelId countryCode requested, resolveSenderId channelId countryCode requested =
    (resolveSender unicode (activeSenderIds channelId countryCode) countryCode
      (some requested)).toOption.join

/-- `list_active_sender_ids`. -/
def SubmitEnv.listActiveSenderIds (env : SubmitEnv) (channelId : ℕ) (countryCode : String) :
    List (String × Bool) :=
  if channelId = 0 ∨ countryCode = "" then [] else env.activeSenderIds channelId countryCode

/-- `check_banned_words`, by the number of the check. -/
abbrev WordCheck :=
  (check : ℕ) → (content : String) → (channelId : Option ℕ) → (countryCode : Option String) →
    Except String (Option String)

def noWordCheck : WordCheck := fun _ _ _ _ => .ok none

/-- The arguments of `submit_sms_core`. -/
structure SubmitRequest where
  accountId : ℕ
  phoneNumber : String
  message : String
  channelId : Option ℕ
  senderId : Option String
  deriving DecidableEq, Repr

/-- `Validator.validate_content`: the error text of a text that is not valid. -/
def validateContent (content : String) : Option String :=
  if content = "" then some "内容不能为空"
  else if 1000 < content.length then some "内容过长（最大1000字符）"
  else none

section

variable (env : SubmitEnv) (account : Account) (check : WordCheck)

/-- The error of `assert_sms_destination_allowed`. -/
def countryNotAllowed (destination : String) : SubmitError :=
  let own := (accountCountryIso env.toChunkEnv account).getD ""
  let asked := (env.normalizeCountryCode destination).getD "None"
  ⟨"COUNTRY_NOT_ALLOWED", s!"当前账户仅允许向 {own} 国家/地区号码发送短信，目标号码归属为 {asked}"⟩

def acceptNumber (phone : String) : Except SubmitError PhoneInfo :=
  match validatePhoneNumber env.toChunkEnv phone with
  | .error text => .error ⟨"INVALID_PHONE", text⟩
  | .ok info =>
      if smsDestinationAllowed env.toChunkEnv account info.countryCode then .ok info
      else .error (countryNotAllowed env account info.countryCode)

def acceptContent (content : String) : Except SubmitError Unit :=
  match validateContent content with
  | some text => .error ⟨"INVALID_CONTENT", text⟩
  | none => .ok ()

def screenContent (raised : SubmitError) (number : ℕ) (content : String) (channelId : Option ℕ)
    (countryCode : Option String) : Except SubmitError Unit :=
  match check number content channelId countryCode with
  | .error _ => .error raised
  | .ok (some word) => .error ⟨"CONTENT_BLOCKED", s!"内容包含违禁词: {word}"⟩
  | .ok none => .ok ()

def routeMessage (countryCode : String) (preferred : Option ℕ) (accountId : ℕ) :
    Except SubmitError Channel :=
  match env.selectChannel countryCode preferred accountId with
  | .error text => .error ⟨"CHANNEL_NOT_AVAILABLE", text⟩
  | .ok none => .error ⟨"NO_CHANNEL", "No available channel"⟩
  | .ok (some channel) => .ok channel

def acceptRcsContent (channel : Channel) (content : String) : Except SubmitError Unit :=
  if channel.isRcs then
    match env.validateRcsContent content with
    | some text => .error ⟨env.rcsErrorCode content, text⟩
    | none => .ok ()
  else .ok ()

def acceptSenderId (channelId : ℕ) (countryCode : String) (requested : Option String) :
    Except SubmitError (Option String) :=
  match resolveSender env.unicode (env.listActiveSenderIds channelId countryCode) countryCode
    requested with
  | .error text => .error ⟨"INVALID_SENDER_ID", text⟩
  | .ok senderId => .ok senderId

def acceptSingle (channel : Channel) : Except SubmitError Unit :=
  if channel.isNodeRcs then
    .error ⟨"CHANNEL_BATCH_ONLY", "该 RCS 通道仅支持批量发送，请改用批量接口"⟩
  else .ok ()

def SubmitRequest.finalMessage (request : SubmitRequest) (info : PhoneInfo) : String :=
  if env.smsTemplateHasVariables request.message then
    env.renderSmsVariables request.message 1 info
  else request.message

/-- The error of an exception in `submit_sms_core`. -/
def internalError : SubmitError :=
  ⟨"INTERNAL_ERROR", "An internal error occurred. Please try again later."⟩

/-- The error of an exception for one recipient of `send_batch_sms`. -/
def sendFailed : SubmitError := ⟨"ERROR", "Send failed"⟩

/-- `submit_sms_core` up to the charge. -/
def acceptMessage (request : SubmitRequest) : Except SubmitError Acceptance := do
  let info ← acceptNumber env account request.phoneNumber
  let finalMessage := request.finalMessage env info
  acceptContent finalMessage
  screenContent check internalError 0 finalMessage none none
  let channel ← routeMessage env info.countryCode request.channelId request.accountId
  screenContent check internalError 1 finalMessage (some channel.id) (some info.countryCode)
  acceptSingle channel
  acceptRcsContent env channel finalMessage
  let senderId ← acceptSenderId env channel.id info.countryCode request.senderId
  return ⟨channel, info.e164Format, info.countryCode, senderId, finalMessage⟩

/-- The synchronous path of `send_batch_sms` up to the charge, for the recipient at an index. -/
def acceptRecipient (input : ChunkInput) (index : ℕ) (phone : String) :
    Except SubmitError Acceptance := do
  let info ← acceptNumber env account phone
  let finalMessage := messageFor env.toChunkEnv input (index + 1) info
  acceptContent finalMessage
  screenContent check sendFailed 0 finalMessage none none
  let channel ← routeMessage env info.countryCode input.channelId input.accountId
  let senderId ← acceptSenderId env channel.id info.countryCode input.senderId
  screenContent check sendFailed 1 finalMessage (some channel.id) (some info.countryCode)
  acceptRcsContent env channel finalMessage
  return ⟨channel, info.e164Format, info.countryCode, senderId, finalMessage⟩

end

def Acceptance.Passes (check : WordCheck) (accepted : Acceptance) : Prop :=
  check 0 accepted.finalMessage none none = .ok none ∧
    check 1 accepted.finalMessage (some accepted.channel.id) (some accepted.countryCode) = .ok none

section Checks

variable {env : SubmitEnv} {account : Account} {check : WordCheck} {accepted : Acceptance}

theorem screenContent_eq_ok {raised : SubmitError} {number : ℕ} {content : String}
    {channelId : Option ℕ} {countryCode : Option String} :
    screenContent check raised number content channelId countryCode = .ok () ↔
      check number content channelId countryCode = .ok none := by
  rw [screenContent]
  split
  · rename_i isCheck
    simp [isCheck]
  · rename_i isCheck
    simp [isCheck]
  · rename_i isCheck
    simp [isCheck]

theorem bind_eq_ok_iff {Error Value Result : Type} {first : Except Error Value}
    {next : Value → Except Error Result} {result : Result} :
    first >>= next = .ok result ↔ ∃ value, first = .ok value ∧ next value = .ok result := by
  cases first with
  | error error => simp [bind, Except.bind]
  | ok value => simp [bind, Except.bind]

theorem toOption_eq_some_iff {Error Value : Type} {result : Except Error Value} {value : Value} :
    result.toOption = some value ↔ result = .ok value := by
  cases result with
  | error error => simp [Except.toOption]
  | ok value => simp [Except.toOption]

theorem acceptMessage_eq_ok {request : SubmitRequest} :
    acceptMessage env account check request = .ok accepted ↔
      ∃ info channel senderId, acceptNumber env account request.phoneNumber = .ok info ∧
        acceptContent (request.finalMessage env info) = .ok () ∧
        routeMessage env info.countryCode request.channelId request.accountId =
          .ok channel ∧
        acceptSingle channel = .ok () ∧
        acceptRcsContent env channel (request.finalMessage env info) =
          .ok () ∧
        acceptSenderId env channel.id info.countryCode request.senderId =
          .ok senderId ∧
        accepted = ⟨channel, info.e164Format, info.countryCode, senderId,
          request.finalMessage env info⟩ ∧
        accepted.Passes check := by
  simp only [acceptMessage, bind_eq_ok_iff, Unique.exists_iff, PUnit.default_eq_unit,
    screenContent_eq_ok, pure, Except.pure, Except.ok.injEq]
  constructor
  · rintro ⟨info, number, content, early, channel, routed, late, single, rcs, senderId, sender, rfl⟩
    exact ⟨info, channel, senderId, number, content, routed, single, rcs, sender, rfl, early, late⟩
  · rintro ⟨info, channel, senderId, number, content, routed, single, rcs, sender, rfl, early, late⟩
    exact ⟨info, number, content, early, channel, routed, late, single, rcs, senderId, sender, rfl⟩

theorem acceptRecipient_eq_ok {input : ChunkInput} {index : ℕ} {phone : String} :
    acceptRecipient env account check input index phone = .ok accepted ↔
      ∃ info channel senderId, acceptNumber env account phone = .ok info ∧
        acceptContent (messageFor env.toChunkEnv input (index + 1) info) = .ok () ∧
        routeMessage env info.countryCode input.channelId input.accountId =
          .ok channel ∧
        acceptSenderId env channel.id info.countryCode input.senderId =
          .ok senderId ∧
        acceptRcsContent env channel
          (messageFor env.toChunkEnv input (index + 1) info) = .ok () ∧
        accepted = ⟨channel, info.e164Format, info.countryCode, senderId,
          messageFor env.toChunkEnv input (index + 1) info⟩ ∧
        accepted.Passes check := by
  simp only [acceptRecipient, bind_eq_ok_iff, Unique.exists_iff, PUnit.default_eq_unit,
    screenContent_eq_ok, pure, Except.pure, Except.ok.injEq]
  constructor
  · rintro ⟨info, number, content, early, channel, routed, senderId, sender, late, rcs, rfl⟩
    exact ⟨info, channel, senderId, number, content, routed, sender, rcs, rfl, early, late⟩
  · rintro ⟨info, channel, senderId, number, content, routed, sender, rcs, rfl, early, late⟩
    exact ⟨info, number, content, early, channel, routed, senderId, sender, late, rcs, rfl⟩

theorem acceptNumber_eq_ok {phone : String} {info : PhoneInfo} :
    acceptNumber env account phone = .ok info ↔
      validatePhoneNumber env.toChunkEnv phone = .ok info ∧
        smsDestinationAllowed env.toChunkEnv account info.countryCode = true := by
  unfold acceptNumber
  split
  · rename_i text refused
    simp [refused]
  · rename_i found parsed
    split
    · rename_i allowed
      rw [parsed]
      constructor
      · intro same
        cases same
        exact ⟨rfl, allowed⟩
      · rintro ⟨same, -⟩
        cases same
        rfl
    · rename_i foreign
      rw [parsed]
      constructor
      · intro same
        cases same
      · rintro ⟨same, allowed⟩
        cases same
        exact absurd allowed foreign

theorem acceptContent_eq_ok {content : String} :
    acceptContent content = .ok () ↔ validateContent content = none := by
  unfold acceptContent
  split
  · rename_i text invalid
    simp [invalid]
  · rename_i valid
    simp [valid]

theorem routeMessage_eq_ok {countryCode : String} {preferred : Option ℕ} {accountId : ℕ}
    {channel : Channel} :
    routeMessage env countryCode preferred accountId = .ok channel ↔
      env.selectChannel countryCode preferred accountId = .ok (some channel) := by
  unfold routeMessage
  split
  · rename_i text failed
    simp [failed]
  · rename_i nothing
    simp [nothing]
  · rename_i found routed
    simp [routed]

theorem acceptRcsContent_eq_ok {channel : Channel} {content : String} :
    acceptRcsContent env channel content = .ok () ↔
      (channel.isRcs = true → env.validateRcsContent content = none) := by
  unfold acceptRcsContent
  split
  · rename_i isRcs
    split
    · rename_i text invalid
      simp [isRcs, invalid]
    · rename_i valid
      simp [isRcs, valid]
  · rename_i other
    simp [other]

theorem passes_noWordCheck : accepted.Passes noWordCheck :=
  ⟨rfl, rfl⟩

end Checks

def ValidItem.acceptance (env : ChunkEnv) (input : ChunkInput) (item : ValidItem) : Acceptance where
  channel := item.channel
  phoneNumber := item.phoneInfo.e164Format
  countryCode := item.phoneInfo.countryCode
  senderId := resolveBatchSid env input item.channel.id item.phoneInfo.countryCode
  finalMessage := item.finalMessage

def chunkItems (env : ChunkEnv) (faults : Faults) (input : ChunkInput) (db : Db) :
    List ValidItem :=
  let context := checkContext env faults input db
  let checked :=
    match virtualChannel input db with
    | some channel => precheckVirtual env faults input context channel 0 input.phoneNumbers
    | none => precheck env faults input context 0 input.phoneNumbers
  match checked with
  | .ok checked => checked.valid
  | .error _ => []

/-- `ASYNC_THRESHOLD`. -/
def asyncThreshold : ℕ := 10

/-- The ways in, each with its request: a message, a small batch, a chunk with what raises in it, a
CSV batch, and the task of an order. -/
inductive EntryPath where
  | submitSmsCore (request : SubmitRequest)
  | smallBatch (input : ChunkInput)
  | processChunk (input : ChunkInput) (faults : Faults)
  | processBatch
  | buyAndSend (task : BuySendTask)

structure EntryEnv extends SubmitEnv where
  number : ℕ → Option DataNumber
  dialCode : String → String
  pinnedChannel : ℕ → Option Channel
  boundChannel : ℕ → Option Channel

/-- The surroundings of a task of `buy_and_send`. -/
def EntryEnv.buySend (env : EntryEnv) : BuySendEnv where
  toChunkEnv := env.toChunkEnv
  number := env.number
  dialCode := env.dialCode
  pinnedChannel := env.pinnedChannel
  boundChannel := env.boundChannel

def chunksOf (input : ChunkInput) : List ChunkInput :=
  (slices 2000 input.phoneNumbers).zipIdx.map fun part =>
    { input with phoneNumbers := part.1, startOffset := part.2 * 2000 }

/-- The paths that a request to `send_batch_sms` takes. -/
def sendBatchPaths (input : ChunkInput) (scheduled : Bool) (faults : Faults) : List EntryPath :=
  if asyncThreshold < input.phoneNumbers.length ∨ scheduled then
    (chunksOf input).map fun chunk => .processChunk chunk faults
  else [.smallBatch input]

namespace EntryPath

/-- The messages that pass the checks of their way in. The worker of the CSV batches stores no
message. -/
def accepted (env : EntryEnv) (check : WordCheck) (db : Db) : EntryPath → List Acceptance
  | submitSmsCore request =>
      match db.accounts request.accountId with
      | none => []
      | some account => (acceptMessage env.toSubmitEnv account check request).toOption.toList
  | smallBatch input =>
      match db.accounts input.accountId with
      | none => []
      | some account =>
          input.phoneNumbers.zipIdx.filterMap fun entry =>
            (acceptRecipient env.toSubmitEnv account check input entry.2 entry.1).toOption
  | processChunk input faults =>
      (chunkItems env.toChunkEnv faults input db).map (ValidItem.acceptance env.toChunkEnv input)
  | processBatch => []
  | buyAndSend task =>
      (routedNumbers env.buySend task).mapIdx fun index routed =>
        ⟨routed.channel, routed.number.phoneNumber, routed.number.countryCode, none,
          renderedMessage env.buySend task (index + 1) routed.number⟩

def screens : EntryPath → Bool
  | submitSmsCore _ | smallBatch _ => true
  | processChunk _ _ | processBatch | buyAndSend _ => false

end EntryPath

end Klsmsc
