import Mathlib.Data.List.Basic
import Mathlib.Data.Rat.Init
import Mathlib.Data.Int.Notation

/-!
# Deliveries of the gateway consumer

`workerProcessDelivery` takes the payloads of one delivery, has each processed by
`processSingleSMSData`, republishes those that failed transiently and answers the
delivery with one acknowledgement. The outcomes of the payloads and the publishes that
fail are given; a panic is not modelled.

A delivery is the JSON value of its body, if the body has one. Payloads are known by
their positions in the delivery. The groups of `republishSmppPayloads` are published in
the order in which their channels come up, where the source follows the order of a map.
-/

namespace Klsmsc

/-- What `json.Unmarshal` reads. An object is the list of its fields. -/
inductive Json where
  | null
  | bool (value : Bool)
  | num (value : ℚ)
  | str (text : String)
  | arr (items : List Json)
  | obj (fields : List (String × Json))

namespace Json

def field (fields : List (String × Json)) (name : String) : Option Json :=
  fields.reverse.lookup name

def toInt : Json → Option ℤ
  | num value => some (value.num.tdiv value.den)
  | _ => none

/-- `v, ok := m[name].(string)`. -/
def text (fields : List (String × Json)) (name : String) : Option String :=
  match field fields name with
  | some (str text) => some text
  | _ => none

def int (fields : List (String × Json)) (name : String) : ℤ :=
  ((field fields name).bind toInt).getD 0

end Json

/-- A payload of `sms_send_smpp`. -/
structure SendPayload where
  logId : ℤ
  messageId : String
  phoneNumber : String
  message : String
  channelId : ℤ
  batchStatus : String
  recordStatus : String
  batchId : ℤ
  senderId : String
  throttleRetry : ℤ
  deriving DecidableEq, Repr

/-- `parseSMSLogData`. -/
def parseSMSLogData (fields : List (String × Json)) : Option SendPayload := do
  let logId ← (Json.field fields "log_id").bind Json.toInt
  let messageId ← Json.text fields "message_id"
  pure
    { logId := logId
      messageId := messageId
      phoneNumber := (Json.text fields "phone_number").getD ""
      message := (Json.text fields "message").getD ""
      channelId := Json.int fields "channel_id"
      batchStatus := (Json.text fields "batch_status").getD ""
      recordStatus := (Json.text fields "record_status").getD ""
      batchId := Json.int fields "batch_id"
      senderId := (Json.text fields "sender_id").getD ""
      throttleRetry := Json.int fields "throttle_retry" }

/-- `stripCeleryEnvelope`. -/
def stripCeleryEnvelope : Option Json → Option Json
  | some (.arr (.obj fields :: rest)) => some (.arr (.obj fields :: rest))
  | some (.arr (.arr (.null :: _) :: _)) => none
  | some (.arr (.arr (first :: _) :: _)) => some first
  | some (.obj fields) =>
      match Json.field fields "args" with
      | some (.arr (.null :: _)) => none
      | some (.arr (first :: _)) => some first
      | some _ => none
      | none =>
          if (Json.field fields "log_id").isSome && (Json.field fields "message_id").isSome then
            some (.obj fields)
          else none
  | _ => none

/-- `smsPayloadsFromFirstTaskArg`. -/
def smsPayloadsFromFirstTaskArg : Json → Option (List SendPayload)
  | .obj fields => (parseSMSLogData fields).map fun payload => [payload]
  | .arr items => items.mapM fun item =>
      match item with
      | .obj fields => parseSMSLogData fields
      | _ => none
  | _ => none

/-- `extractSmsPayloads`, where poison is `none`. -/
def extractSmsPayloads (body : Option Json) : Option (List SendPayload) :=
  (stripCeleryEnvelope body).bind smsPayloadsFromFirstTaskArg

/-- The kinds that `processSingleSMSData` returns. -/
inductive SmsFailureKind where
  | sentOk
  | permanent
  | transient
  deriving DecidableEq, Repr

/-- The broker during one delivery: whether the publish channel is ready, whether every
channel has a queue of its own, and which publishes fail. All payloads go out in one
publish where channels have no queues, and in one for each channel where they have. -/
structure GatewayBroker where
  isReady : Bool
  perChannel : Bool
  fails : Option ℤ → Bool

/-- The groups of payloads that `republishSmppPayloads` publishes one by one. -/
def republishGroups (broker : GatewayBroker) (payloads : List (SendPayload × ℕ)) :
    List (Option ℤ × List (SendPayload × ℕ)) :=
  if broker.perChannel then
    (payloads.map fun payload => payload.1.channelId).eraseDups.map fun channelId =>
      (some channelId, payloads.filter fun payload => payload.1.channelId = channelId)
  else [(none, payloads)]

/-- `republishSmppPayloads`: the payloads that are published, and whether it returns an error. -/
def republishSmppPayloads (broker : GatewayBroker) (payloads : List (SendPayload × ℕ)) :
    List (SendPayload × ℕ) × Bool :=
  if broker.isReady then
    let groups := republishGroups broker payloads
    ((groups.filter fun group => !broker.fails group.1).flatMap Prod.snd,
      groups.any fun group => broker.fails group.1)
  else ([], true)

inductive AckOp where
  | ack
  | nack (requeue : Bool)
  deriving DecidableEq, Repr

structure DeliveryResult where
  republished : List (SendPayload × ℕ)
  op : AckOp
  deriving DecidableEq, Repr

/-- `workerProcessDelivery`, for the outcomes of the payloads by their positions. -/
def workerProcessDelivery (broker : GatewayBroker) (kind : ℕ → SmsFailureKind) (body : Option Json) :
    DeliveryResult :=
  match extractSmsPayloads body with
  | none => ⟨[], .nack false⟩
  | some [] => ⟨[], .ack⟩
  | some [_] =>
      match kind 0 with
      | .sentOk => ⟨[], .ack⟩
      | .permanent => ⟨[], .nack false⟩
      | .transient => ⟨[], .nack true⟩
  | some payloads =>
      let transientPayloads := payloads.zipIdx.filter fun payload => kind payload.2 = .transient
      let allTransient := payloads.zipIdx.all fun payload => kind payload.2 = .transient
      if transientPayloads.isEmpty then ⟨[], .ack⟩
      else
        let republished := republishSmppPayloads broker transientPayloads
        if republished.2 && allTransient then ⟨republished.1, .nack true⟩
        else ⟨republished.1, .ack⟩

def deliveryPayloads (body : Option Json) : List (SendPayload × ℕ) :=
  ((extractSmsPayloads body).getD []).zipIdx

def NoneTwice (broker : GatewayBroker) (kind : ℕ → SmsFailureKind) (body : Option Json) : Prop :=
  ∀ payload ∈ deliveryPayloads body,
    kind payload.2 = .sentOk ∨ payload ∈ (workerProcessDelivery broker kind body).republished →
      (workerProcessDelivery broker kind body).op ≠ .nack true

def GatewayBroker.Refuses (broker : GatewayBroker) (payload : SendPayload × ℕ) : Prop :=
  broker.isReady = false ∨
    broker.fails (if broker.perChannel then some payload.1.channelId else none) = true

/-- A transient payload is republished or requeued, unless others of the delivery are sent
or failed for good and its own publish fails. -/
def NoneDropped (broker : GatewayBroker) (kind : ℕ → SmsFailureKind) (body : Option Json) : Prop :=
  ∀ payload ∈ deliveryPayloads body, kind payload.2 = .transient →
    payload ∈ (workerProcessDelivery broker kind body).republished ∨
      (workerProcessDelivery broker kind body).op = .nack true ∨
      (∃ other ∈ deliveryPayloads body, kind other.2 ≠ .transient) ∧ broker.Refuses payload

/-- Several payloads all fail transiently, and the publish for the channel of one of them
fails and that for the channel of another does not. -/
def HalfRepublished (broker : GatewayBroker) (kind : ℕ → SmsFailureKind) (body : Option Json) : Prop :=
  1 < (deliveryPayloads body).length ∧
    (∀ payload ∈ deliveryPayloads body, kind payload.2 = .transient) ∧
    (∃ payload ∈ deliveryPayloads body, broker.Refuses payload) ∧
    ∃ payload ∈ deliveryPayloads body, ¬broker.Refuses payload

section

variable {broker : GatewayBroker} {kind : ℕ → SmsFailureKind} {body : Option Json}

theorem mem_republishGroups {indexed : List (SendPayload × ℕ)} {payload : SendPayload × ℕ}
    {target : Option ℤ} :
    (∃ group ∈ republishGroups broker indexed, group.1 = target ∧ payload ∈ group.2) ↔
      payload ∈ indexed ∧
        target = if broker.perChannel then some payload.1.channelId else none := by
  unfold republishGroups
  cases broker.perChannel with
  | true =>
      simp only [if_true, List.mem_map, List.mem_eraseDups]
      constructor
      · rintro ⟨_, ⟨channelId, _, rfl⟩, rfl, member⟩
        rcases List.mem_filter.mp member with ⟨inside, same⟩
        exact ⟨inside, congrArg some (of_decide_eq_true same).symm⟩
      · rintro ⟨inside, rfl⟩
        exact ⟨_, ⟨payload.1.channelId, ⟨payload, inside, rfl⟩, rfl⟩, rfl,
          List.mem_filter.mpr ⟨inside, decide_eq_true rfl⟩⟩
  | false =>
      simp only [Bool.false_eq_true, if_false, List.mem_singleton, exists_eq_left]
      exact ⟨fun both => ⟨both.2, both.1.symm⟩, fun both => ⟨both.2.symm, both.1⟩⟩

theorem mem_republishSmppPayloads {indexed : List (SendPayload × ℕ)} {payload : SendPayload × ℕ} :
    payload ∈ (republishSmppPayloads broker indexed).1 ↔
      payload ∈ indexed ∧ ¬broker.Refuses payload := by
  unfold republishSmppPayloads GatewayBroker.Refuses
  cases broker.isReady with
  | false => simp
  | true =>
      simp only [if_true, List.mem_flatMap, List.mem_filter, Bool.not_eq_true', Bool.true_eq_false,
        false_or, Bool.not_eq_true]
      constructor
      · rintro ⟨group, ⟨isGroup, passes⟩, member⟩
        rcases mem_republishGroups.mp ⟨group, isGroup, rfl, member⟩ with ⟨inside, target⟩
        rw [← target]
        exact ⟨inside, passes⟩
      · rintro ⟨inside, passes⟩
        rcases mem_republishGroups.mpr ⟨inside, rfl⟩ with ⟨group, isGroup, target, member⟩
        refine ⟨group, ⟨isGroup, ?_⟩, member⟩
        rw [target]
        exact passes

theorem republishGroups_ne_nil {indexed : List (SendPayload × ℕ)}
    {group : Option ℤ × List (SendPayload × ℕ)} (nonempty : indexed ≠ [])
    (isGroup : group ∈ republishGroups broker indexed) : ∃ payload, payload ∈ group.2 := by
  unfold republishGroups at isGroup
  split at isGroup
  · simp only [List.mem_map, List.mem_eraseDups] at isGroup
    rcases isGroup with ⟨channelId, ⟨payload, inside, same⟩, rfl⟩
    exact ⟨payload, List.mem_filter.mpr ⟨inside, decide_eq_true same⟩⟩
  · rw [List.mem_singleton.mp isGroup]
    exact List.exists_mem_of_ne_nil indexed nonempty

theorem republishSmppPayloads_fails {indexed : List (SendPayload × ℕ)}
    (nonempty : indexed ≠ []) :
    (republishSmppPayloads broker indexed).2 = true ↔
      ∃ payload ∈ indexed, broker.Refuses payload := by
  have some_payload := List.exists_mem_of_ne_nil indexed nonempty
  unfold republishSmppPayloads GatewayBroker.Refuses
  cases broker.isReady with
  | false => simpa using some_payload
  | true =>
      simp only [if_true, List.any_eq_true, Bool.true_eq_false, false_or]
      constructor
      · rintro ⟨group, isGroup, fails⟩
        rcases republishGroups_ne_nil nonempty isGroup with ⟨payload, member⟩
        rcases mem_republishGroups.mp ⟨group, isGroup, rfl, member⟩ with ⟨inside, target⟩
        refine ⟨payload, inside, ?_⟩
        rw [← target]
        exact fails
      · rintro ⟨payload, inside, fails⟩
        rcases mem_republishGroups.mpr ⟨inside, rfl⟩ with ⟨group, isGroup, target, member⟩
        refine ⟨group, isGroup, ?_⟩
        rw [target]
        exact fails

theorem perChannel_of_halfRepublished (half : HalfRepublished broker kind body) :
    broker.isReady = true ∧ broker.perChannel = true := by
  rcases half with ⟨_, _, ⟨_, _, refused⟩, ⟨_, _, passed⟩⟩
  unfold GatewayBroker.Refuses at refused passed
  rw [not_or] at passed
  refine ⟨by simpa using passed.1, ?_⟩
  by_contra shared
  rw [if_neg shared] at refused passed
  rcases refused with closed | fails
  · exact passed.1 closed
  · exact passed.2 fails

theorem workerProcessDelivery_several {first second : SendPayload} {rest : List SendPayload}
    (extracted : extractSmsPayloads body = some (first :: second :: rest)) :
    workerProcessDelivery broker kind body =
      if (deliveryPayloads body).filter (fun payload => kind payload.2 = .transient) = [] then
        ⟨[], .ack⟩
      else
        ⟨(republishSmppPayloads broker ((deliveryPayloads body).filter
            fun payload => kind payload.2 = .transient)).1,
          if (republishSmppPayloads broker ((deliveryPayloads body).filter
                fun payload => kind payload.2 = .transient)).2 = true ∧
              ∀ payload ∈ deliveryPayloads body, kind payload.2 = .transient
          then .nack true else .ack⟩ := by
  have positions : deliveryPayloads body = (first :: second :: rest).zipIdx := by
    simp [deliveryPayloads, extracted]
  unfold workerProcessDelivery
  rw [extracted, positions]
  simp only [List.isEmpty_iff, Bool.and_eq_true, List.all_eq_true, decide_eq_true_eq]
  by_cases none : (first :: second :: rest).zipIdx.filter
      (fun payload => kind payload.2 = .transient) = []
  · rw [if_pos none, if_pos none]
  · rw [if_neg none, if_neg none]
    split <;> rfl

theorem accounted_several_iff {first second : SendPayload} {rest : List SendPayload}
    (extracted : extractSmsPayloads body = some (first :: second :: rest)) :
    NoneTwice broker kind body ∧ NoneDropped broker kind body ↔
      ¬HalfRepublished broker kind body := by
  have several : 1 < (deliveryPayloads body).length := by
    simp [deliveryPayloads, extracted]
  have result := @workerProcessDelivery_several broker kind body _ _ _ extracted
  by_cases none : (deliveryPayloads body).filter (fun payload => kind payload.2 = .transient) = []
  · rw [if_pos none] at result
    have settled : ∀ payload ∈ deliveryPayloads body, kind payload.2 ≠ .transient := by
      simpa [List.filter_eq_nil_iff] using none
    refine iff_of_true ⟨?_, ?_⟩ ?_
    · intro payload _ _
      simp [result]
    · intro payload member transient
      exact absurd transient (settled payload member)
    · rintro ⟨_, allTransient, ⟨payload, member, _⟩, _⟩
      exact settled payload member (allTransient payload member)
  · rw [if_neg none] at result
    have fails := @republishSmppPayloads_fails broker _ none
    by_cases requeued : (republishSmppPayloads broker ((deliveryPayloads body).filter
          fun payload => kind payload.2 = .transient)).2 = true ∧
        ∀ payload ∈ deliveryPayloads body, kind payload.2 = .transient
    · rw [if_pos requeued] at result
      rcases requeued with ⟨failed, allTransient⟩
      rcases fails.mp failed with ⟨refused, inside, refuses⟩
      have member := (List.mem_filter.mp inside).1
      constructor
      · rintro ⟨noneTwice, _⟩ ⟨_, _, _, passed, passedMember, passes⟩
        refine noneTwice passed passedMember (Or.inr ?_) (by rw [result])
        rw [result, mem_republishSmppPayloads]
        exact ⟨List.mem_filter.mpr ⟨passedMember, by simpa using allTransient _ passedMember⟩,
          passes⟩
      · intro whole
        constructor
        · rintro payload payloadMember (sent | republished) _
          · rw [allTransient payload payloadMember] at sent
            cases sent
          · rw [result, mem_republishSmppPayloads] at republished
            exact whole ⟨several, allTransient, ⟨refused, member, refuses⟩,
              ⟨payload, payloadMember, republished.2⟩⟩
        · intro payload _ _
          exact Or.inr (Or.inl (by rw [result]))
    · rw [if_neg requeued] at result
      refine iff_of_true ⟨?_, ?_⟩ ?_
      · intro payload _ _
        simp [result]
      · intro payload member transient
        have inside : payload ∈ (deliveryPayloads body).filter
            fun payload => kind payload.2 = .transient :=
          List.mem_filter.mpr ⟨member, by simpa using transient⟩
        rw [result, mem_republishSmppPayloads]
        by_cases refuses : broker.Refuses payload
        · right
          right
          refine ⟨?_, refuses⟩
          by_contra others
          refine requeued ⟨fails.mpr ⟨payload, inside, refuses⟩, ?_⟩
          intro other otherMember
          by_contra differs
          exact others ⟨other, otherMember, differs⟩
        · exact Or.inl ⟨inside, refuses⟩
      · rintro ⟨_, allTransient, ⟨payload, member, refuses⟩, _⟩
        refine requeued ⟨fails.mpr ⟨payload, ?_, refuses⟩, allTransient⟩
        exact List.mem_filter.mpr ⟨member, by simpa using allTransient payload member⟩

/-- Every payload of a delivery is accounted for exactly once if and only if the republish of
several transient payloads does not succeed for one channel and fail for another. -/
theorem delivery_accounted_iff (broker : GatewayBroker) (kind : ℕ → SmsFailureKind)
    (body : Option Json) :
    NoneTwice broker kind body ∧ NoneDropped broker kind body ↔
      ¬HalfRepublished broker kind body := by
  cases extracted : extractSmsPayloads body with
  | none =>
      have empty : deliveryPayloads body = [] := by simp [deliveryPayloads, extracted]
      simp [NoneTwice, NoneDropped, HalfRepublished, empty]
  | some payloads =>
      match payloads, extracted with
      | [], extracted =>
          have empty : deliveryPayloads body = [] := by simp [deliveryPayloads, extracted]
          simp [NoneTwice, NoneDropped, HalfRepublished, empty]
      | [payload], extracted =>
          have single : deliveryPayloads body = [(payload, 0)] := by
            simp [deliveryPayloads, extracted]
          cases outcome : kind 0 <;>
            simp [NoneTwice, NoneDropped, HalfRepublished, single, workerProcessDelivery,
              extracted, outcome]
      | first :: second :: rest, extracted =>
          exact accounted_several_iff extracted

end

def payloadJson (logId channelId : ℚ) : Json :=
  .obj [("log_id", .num logId), ("message_id", .str "msg"), ("channel_id", .num channelId)]

def twoChannels : Json :=
  .arr [.arr [.arr [payloadJson 1 7, payloadJson 2 8]], .obj [], .obj []]

def halfBroker : GatewayBroker where
  isReady := true
  perChannel := true
  fails target := target = some 8

/-- Both payloads fail transiently; the first is republished and requeued with the delivery. -/
theorem delivery_half_republished :
    ((workerProcessDelivery halfBroker (fun _ => .transient) (some twoChannels)).republished.map
        Prod.snd = [0] ∧
      (workerProcessDelivery halfBroker (fun _ => .transient) (some twoChannels)).op =
        .nack true) ∧
      ¬NoneTwice halfBroker (fun _ => .transient) (some twoChannels) := by
  have outcome :
      (workerProcessDelivery halfBroker (fun _ => .transient) (some twoChannels)).republished.map
          Prod.snd = [0] ∧
        (workerProcessDelivery halfBroker (fun _ => .transient) (some twoChannels)).op =
          .nack true := by
    decide
  refine ⟨outcome, ?_⟩
  intro noneTwice
  have republished : ∃ payload ∈ deliveryPayloads (some twoChannels), payload ∈
      (workerProcessDelivery halfBroker (fun _ => .transient) (some twoChannels)).republished := by
    decide
  rcases republished with ⟨payload, member, again⟩
  exact noneTwice payload member (Or.inr again) outcome.2

example : (workerProcessDelivery halfBroker (fun position => if position = 0 then .transient
    else .sentOk) (some twoChannels)).op = .ack := by decide

end Klsmsc
