import Klsmsc.Gateway.Throttle
import Mathlib.Algebra.GroupWithZero.Nat

/-!
# Throttled messages are retried and settled

As long as the broker takes what is published there is one copy of a message, whose payload counts
the retries. It comes to `Submit` once for the first delivery and once for each retry, and otherwise
only after it was requeued. When there is no copy left, a result was published.
-/

namespace Klsmsc

open Library

structure GatewayBroker.Takes (broker : GatewayBroker) : Prop where
  isReady : broker.isReady = true
  passes : ∀ target, broker.fails target = false

theorem GatewayBroker.Takes.not_refuses {broker : GatewayBroker} (takes : broker.Takes)
    (payload : SendPayload × ℕ) : ¬ broker.Refuses payload := by
  simp [Refuses, takes.isReady, takes.passes]

section Requeued

variable {broker : GatewayBroker} {kind : ℕ → SmsFailureKind} {body : Json} {position : ℕ}
  {payload : SendPayload} {payloads : List SendPayload}

theorem mem_deliveryPayloads (extracted : extractSmsPayloads (some body) = some payloads)
    (found : payloads[position]? = some payload) :
    (payload, position) ∈ deliveryPayloads (some body) := by
  rw [deliveryPayloads, extracted, Option.getD_some, List.mem_zipIdx_iff_getElem?]
  exact found

theorem payload_queued_marshal {group : List (SendPayload × ℕ)} (exact : payload.Exact)
    (member : (payload, position) ∈ group) (cause : QueueCause) :
    (MessageCopy.queued (SendPayload.marshal (group.map Prod.fst))
      (group.idxOf (payload, position)) cause).payload = some payload := by
  have nonempty : group.map Prod.fst ≠ [] := by
    simpa using List.ne_nil_of_mem member
  have inside : group[group.idxOf (payload, position)]? = some (payload, position) :=
    List.getElem?_idxOf member
  simp only [MessageCopy.payload, extractSmsPayloads_marshal nonempty, Option.bind_some,
    List.getElem?_map, inside, Option.map_some, exact.reread_eq]

theorem requeuedCopies_of_settled (extracted : extractSmsPayloads (some body) = some payloads)
    (found : payloads[position]? = some payload) (settled : kind position ≠ .transient)
    {cause : QueueCause} :
    requeuedCopies broker kind body position payload cause = [] := by
  have absent : (payload, position) ∉ (workerProcessDelivery broker kind (some body)).republished ∧
      (workerProcessDelivery broker kind (some body)).op ≠ .nack true := by
    match payloads, extracted, found with
    | [only], extracted, found =>
        obtain ⟨here, -⟩ := List.getElem?_eq_some_iff.mp found
        have first : position = 0 := by simpa using here
        subst first
        unfold workerProcessDelivery
        rw [extracted]
        cases outcome : kind 0 with
        | transient => exact absurd outcome settled
        | sentOk => simp
        | permanent => simp
    | first :: second :: rest, extracted, found =>
        have member := mem_deliveryPayloads extracted found
        rw [workerProcessDelivery_several extracted]
        split
        · simp
        · refine ⟨?_, ?_⟩
          · rw [mem_republishSmppPayloads]
            rintro ⟨transient, -⟩
            exact settled (of_decide_eq_true (List.mem_filter.mp transient).2)
          · rw [if_neg]
            · simp
            · rintro ⟨-, all⟩
              exact settled (all _ member)
  have none : (republishGroups broker
      (workerProcessDelivery broker kind (some body)).republished).find?
        (fun group => (payload, position) ∈ group.2) = none := by
    rw [List.find?_eq_none]
    intro group isGroup member
    exact absent.1 (mem_republishGroups.mp
      ⟨group, isGroup, rfl, of_decide_eq_true member⟩).1
  simp [requeuedCopies, none, absent.2]

theorem requeuedCopies_of_transient (takes : broker.Takes) (exact : payload.Exact)
    (extracted : extractSmsPayloads (some body) = some payloads)
    (found : payloads[position]? = some payload) (transient : kind position = .transient)
    (cause : QueueCause) :
    ∃ body' position',
      requeuedCopies broker kind body position payload cause = [.queued body' position' cause] ∧
        (MessageCopy.queued body' position' cause).payload = some payload := by
  match payloads, extracted, found with
  | [only], extracted, found =>
      obtain ⟨here, -⟩ := List.getElem?_eq_some_iff.mp found
      have first : position = 0 := by simpa using here
      subst first
      have delivery : workerProcessDelivery broker kind (some body) = ⟨[], .nack true⟩ := by
        unfold workerProcessDelivery
        rw [extracted]
        simp [transient]
      refine ⟨body, 0, ?_, ?_⟩
      · have none : (republishGroups broker []).find?
            (fun group => (payload, 0) ∈ group.2) = none := by
          rw [List.find?_eq_none]
          intro group isGroup member
          have inside := (mem_republishGroups.mp
            ⟨group, isGroup, rfl, of_decide_eq_true member⟩).1
          simp at inside
        simp [requeuedCopies, delivery, none]
      · simp only [MessageCopy.payload, extracted, Option.bind_some]
        exact found
  | first :: second :: rest, extracted, found =>
      have member := mem_deliveryPayloads extracted found
      have inside : (payload, position) ∈ (deliveryPayloads (some body)).filter
          fun payload => kind payload.2 = .transient :=
        List.mem_filter.mpr ⟨member, decide_eq_true transient⟩
      have taken : (republishSmppPayloads broker ((deliveryPayloads (some body)).filter
          fun payload => kind payload.2 = .transient)).2 ≠ true := by
        rw [ne_eq, republishSmppPayloads_fails (List.ne_nil_of_mem inside)]
        rintro ⟨other, -, refuses⟩
        exact takes.not_refuses other refuses
      have delivery := @workerProcessDelivery_several broker kind _ _ _ _ extracted
      rw [if_neg (List.ne_nil_of_mem inside), if_neg fun both => taken both.1] at delivery
      have republished : (payload, position) ∈
          (workerProcessDelivery broker kind (some body)).republished := by
        rw [delivery, mem_republishSmppPayloads]
        exact ⟨inside, takes.not_refuses _⟩
      obtain ⟨group, isGroup, -, inGroup⟩ := mem_republishGroups.mpr ⟨republished, rfl⟩
      have some_group : ((republishGroups broker
          (workerProcessDelivery broker kind (some body)).republished).find?
            fun group => (payload, position) ∈ group.2).isSome = true :=
        List.find?_isSome.mpr ⟨group, isGroup, decide_eq_true inGroup⟩
      obtain ⟨found', isFound⟩ := Option.isSome_iff_exists.mp some_group
      have holds : (payload, position) ∈ found'.2 := by simpa using List.find?_some isFound
      refine ⟨_, _, ?_, payload_queued_marshal exact holds cause⟩
      have acked : (workerProcessDelivery broker kind (some body)).op ≠ .nack true := by
        rw [delivery]
        simp
      simp [requeuedCopies, isFound, acked]

end Requeued

theorem one_le_throttleMaxRetry (value : String) : 1 ≤ throttleMaxRetry value := by
  unfold throttleMaxRetry envInt
  split
  · split <;> omega
  · decide

def SendPayload.Open (unicode : Unicode) (payload : SendPayload) : Prop :=
  strip unicode payload.recordStatus ∉ finalStatuses

theorem strip_sublist (unicode : Unicode) (text : String) :
    (strip unicode text).toList.Sublist text.toList := by
  rw [strip, String.toList_ofList]
  have front := List.dropWhile_sublist (l := text.toList) unicode.isSpace
  have back := List.dropWhile_sublist
    (l := (text.toList.dropWhile unicode.isSpace).reverse) unicode.isSpace
  exact (List.reverse_sublist.mp (by simpa using back)).trans front

theorem SendPayload.retried_open (unicode : Unicode) (payload : SendPayload) :
    payload.retried.Open unicode := by
  have part := strip_sublist unicode "queued"
  change strip unicode "queued" ∉ finalStatuses
  intro final
  simp only [finalStatuses, List.mem_cons, List.not_mem_nil, or_false] at final
  rcases final with equal | equal | equal | equal <;>
    · rw [equal] at part
      revert part
      decide

theorem classifySendError_cases (err : ErrorText) :
    classifySendError (some err) = (.transient, none) ∨
      classifySendError (some err) = (.permanent, some err) := by
  unfold classifySendError
  dsimp only
  split
  · exact .inl rfl
  · split
    · exact .inl rfl
    · exact .inr rfl

theorem SubmitOutcome.error_of_ne {outcome : SubmitOutcome} (unsubmitted : outcome ≠ .submitted) :
    ∃ err, outcome.error = some err := by
  cases outcome with
  | submitted => exact absurd rfl unsubmitted
  | notEntered err => exact ⟨err, rfl⟩
  | refused errMsg => exact ⟨submitError errMsg, rfl⟩

/-- `processSingleSMSData` skips the message, or submits it, or fails to. It skips an open message
silently only when the database or Redis knows that it is over. -/
theorem processSingleSMSData_cases (unicode : Unicode) (answers : ProcessAnswers)
    (data : SendPayload) {processed : Processed}
    (returned : processSingleSMSData unicode answers data = processed) :
    (processed.outcome = none ∧ processed.kind = .sentOk ∧
        (processed.results ≠ [] ∨ ¬ data.Open unicode ∨
          answers.lookupCurrentStatus ∉ ["", "pending", "queued"] ∨
          answers.isAlreadySubmitted = true)) ∨
      (processed.outcome = some .submitted ∧ processed.kind = .sentOk) ∨
      (processed.outcome ≠ some .submitted ∧
        (processed.kind = .transient ∨ processed.kind = .permanent ∧ processed.results ≠ [])) := by
  subst returned
  unfold processSingleSMSData
  dsimp only
  generalize (if data.batchId = 0 then _ else _) = batchId
  split
  · exact .inl ⟨rfl, rfl, .inl (by simp)⟩
  split
  · rename_i final
    exact .inl ⟨rfl, rfl, .inr (.inl (not_not.mpr final))⟩
  split
  · rename_i changed
    exact .inl ⟨rfl, rfl, .inr (.inr (.inl changed.2))⟩
  split
  · rename_i submitted
    exact .inl ⟨rfl, rfl, .inr (.inr (.inr submitted))⟩
  by_cases called : answers.sendSMS = .submitted
  · rw [called]
    exact .inr (.inl ⟨rfl, rfl⟩)
  · obtain ⟨err, fails⟩ := SubmitOutcome.error_of_ne called
    refine .inr (.inr ⟨by simpa using called, ?_⟩)
    rw [fails]
    rcases classifySendError_cases err with requeues | publishes
    · exact .inl (by rw [requeues])
    · exact .inr (by simp [publishes])

theorem onSubmitSMResp_cases (maxRetry : ℤ) (broker : GatewayBroker) (payload : SendPayload)
    (commandStatus : ℕ) (messageID : String) {responded : Responded}
    (returned : onSubmitSMResp maxRetry broker payload commandStatus messageID = responded) :
    responded.republished = none ∧ responded.results ≠ [] ∨
      responded.republished = some payload.retried ∧ responded.marks = false ∧
        payload.throttleRetry < maxRetry := by
  subst returned
  unfold onSubmitSMResp
  split
  · exact .inl ⟨rfl, by simp⟩
  split
  · split
    · rename_i allowed
      split
      · exact .inl ⟨rfl, by simp⟩
      · exact .inr ⟨rfl, rfl, allowed.2⟩
    · exact .inl ⟨rfl, by simp⟩
  · exact .inl ⟨rfl, by simp⟩

/-- How often a copy can come to `Submit` before it is requeued or retried. -/
def MessageCopy.due : MessageCopy → ℕ
  | .queued _ _ cause => if cause = .requeued then 0 else 1
  | .inFlight _ => 0

def MessageCopy.waits : MessageCopy → ℕ
  | .queued _ _ _ => 1
  | .inFlight _ => 0

def ThrottleLabel.BrokerTakes : ThrottleLabel → Prop
  | .deliver _ _ _ _ broker takesResult => broker.Takes ∧ takesResult = true
  | .respond _ _ _ _ takesResult => takesResult = true
  | .sweep _ takesResult => takesResult = true

namespace ThrottledMessage

variable {unicode : Unicode} {maxRetry : ℤ} {first payload : SendPayload}
  {state after : ThrottledMessage}

/-- How often the message has come to `Submit` other than after a `Submit` that failed. -/
def submits (state : ThrottledMessage) : ℕ :=
  state.entries.countP fun cause => cause ≠ .requeued

structure Carries (unicode : Unicode) (first payload : SendPayload) (retries : ℕ) : Prop where
  exact : payload.Exact
  counts : payload.throttleRetry = first.throttleRetry + retries
  isOpen : first.Open unicode → payload.Open unicode

structure Sound (unicode : Unicode) (maxRetry : ℤ) (first : SendPayload)
    (state : ThrottledMessage) : Prop where
  marked : state.submitDone = true → state.published ≠ []
  bounded : state.retries = 0 ∨ first.throttleRetry + state.retries ≤ maxRetry
  due : state.submits + (state.copies.map MessageCopy.due).sum ≤ 1 + state.retries
  waits : state.submitted + (state.copies.map MessageCopy.waits).sum ≤ 1 + state.retries
  alone : state.copies = [] ∧ (first.Open unicode → state.published ≠ []) ∨
    ∃ copy payload, state.copies = [copy] ∧ copy.payload = some payload ∧
      Carries unicode first payload state.retries

theorem sound_start {body : Json} {position : ℕ}
    (carried : (MessageCopy.queued body position .enqueued).payload = some first)
    (exact : first.Exact) : (start body position).Sound unicode maxRetry first where
  marked := by simp [start]
  bounded := .inl rfl
  due := by simp [start, submits, MessageCopy.due]
  waits := by simp [start, MessageCopy.waits]
  alone := .inr ⟨_, first, rfl, carried, exact, by simp [start], id⟩

theorem Sound.copy_eq (sound : state.Sound unicode maxRetry first) {index : ℕ} {copy : MessageCopy}
    (found : state.copies[index]? = some copy) :
    state.copies = [copy] ∧ state.copies.eraseIdx index = [] ∧
      ∃ payload, copy.payload = some payload ∧ Carries unicode first payload state.retries := by
  rcases sound.alone with ⟨none, -⟩ | ⟨other, payload, only, carried, carries⟩
  · simp [none] at found
  · rw [only] at found
    obtain ⟨inside, same⟩ := List.getElem?_eq_some_iff.mp found
    have head : index = 0 := by simpa using inside
    subst head
    cases same
    exact ⟨only, by simp [only], payload, carried, carries⟩

theorem publish_ne_nil {results : List GatewayResult}
    (some_result : state.published ≠ [] ∨ results ≠ []) : state.publish results true ≠ [] := by
  rw [publish, if_pos rfl, ne_eq, List.append_eq_nil_iff, not_and_or]
  exact some_result

theorem deliver_cases {body : Json} {position : ℕ} {cause : QueueCause} {answers : ProcessAnswers}
    {kind : ℕ → SmsFailureKind} {swept : Bool} {broker : GatewayBroker}
    (marked : state.submitDone = true → state.published ≠ [])
    (carried : (MessageCopy.queued body position cause).payload = some payload)
    (exact : payload.Exact) (allowed : state.Allows answers) (takes : broker.Takes)
    (delivered : state.deliver unicode [] body position cause payload answers kind swept broker
      true = after) :
    ∃ enters : Bool,
      after.entries = (if enters then state.entries ++ [cause] else state.entries) ∧
        (after.copies = [] ∧ after.submitted = state.submitted ∧
            (payload.Open unicode → after.published ≠ []) ∨
          after.copies = [.inFlight payload] ∧ after.submitted = state.submitted + 1 ∨
          ∃ body' position',
            after.copies = [.queued body' position' (if enters then .requeued else cause)] ∧
              (extractSmsPayloads (some body')).bind (fun payloads => payloads[position']?) =
                some payload ∧
              after.submitted = state.submitted) := by
  obtain ⟨payloads, extracted, found⟩ := Option.bind_eq_some_iff.mp carried
  have settled {kind' : SmsFailureKind} {cause' : QueueCause} (final : kind' ≠ .transient) :
      requeuedCopies broker (Function.update kind position kind') body position payload cause' =
        [] :=
    requeuedCopies_of_settled extracted found (by rwa [Function.update_self])
  subst delivered
  unfold ThrottledMessage.deliver
  generalize returned : processSingleSMSData unicode answers payload = processed
  refine ⟨processed.outcome.any SubmitOutcome.enters, rfl, ?_⟩
  rcases processSingleSMSData_cases unicode answers payload returned with
    ⟨outcome, kinds, why⟩ | ⟨outcome, kinds⟩ | ⟨outcome, kinds | ⟨kinds, published⟩⟩
  · left
    refine ⟨by simp [outcome, kinds, settled], by simp [outcome], ?_⟩
    refine fun isOpen => publish_ne_nil ?_
    rcases why with published | closed | changed | submitted
    · exact .inr (by simp [published])
    · exact absurd isOpen closed
    · exact .inl (allowed.1.resolve_left changed)
    · exact .inl (marked (allowed.2 submitted))
  · right
    left
    exact ⟨by simp [outcome, kinds, settled], by simp [outcome]⟩
  · right
    right
    have requeued : Function.update kind position processed.kind position = .transient := by
      rwa [Function.update_self]
    obtain ⟨body', position', copies, carried'⟩ := requeuedCopies_of_transient takes exact extracted
      found requeued
        (if processed.outcome.any SubmitOutcome.enters then .requeued else cause)
    exact ⟨body', position', by simp [outcome, copies], carried', by simp [outcome]⟩
  · left
    refine ⟨by simp [outcome, kinds, settled], by simp [outcome], ?_⟩
    exact fun _ => publish_ne_nil (.inr (by simp [published]))

theorem Sound.deliver (sound : state.Sound unicode maxRetry first) {body : Json} {position : ℕ}
    {cause : QueueCause} {answers : ProcessAnswers} {kind : ℕ → SmsFailureKind} {swept : Bool}
    {broker : GatewayBroker} (only : state.copies = [.queued body position cause])
    (carried : (MessageCopy.queued body position cause).payload = some payload)
    (carries : Carries unicode first payload state.retries) (allowed : state.Allows answers)
    (takes : broker.Takes)
    (delivered : state.deliver unicode [] body position cause payload answers kind swept broker
      true = after) : after.Sound unicode maxRetry first := by
  obtain ⟨enters, entries, cases⟩ :=
    deliver_cases sound.marked carried carries.exact allowed takes delivered
  have retries : after.retries = state.retries := by rw [← delivered]; rfl
  have submitDone : after.submitDone = state.submitDone := by rw [← delivered]; rfl
  have published (before : state.published ≠ []) : after.published ≠ [] := by
    rw [← delivered]
    exact publish_ne_nil (.inl before)
  have submits : after.submits =
      state.submits + if enters = true ∧ cause ≠ .requeued then 1 else 0 := by
    rw [submits, entries]
    cases enters <;> cases cause <;> simp [ThrottledMessage.submits]
  have due := sound.due
  have waits := sound.waits
  rw [only] at due waits
  simp only [List.map_cons, List.map_nil, List.sum_cons, List.sum_nil, MessageCopy.due,
    MessageCopy.waits] at due waits
  refine ⟨fun marked => published (sound.marked (submitDone ▸ marked)), retries ▸ sound.bounded,
    ?_, ?_, ?_⟩
  · -- What is due is either spent on this entry or stays due.
    have spent : (if enters = true ∧ cause ≠ .requeued then 1 else 0) +
        (if (if enters then .requeued else cause) = QueueCause.requeued then 0 else 1) =
          if cause = .requeued then 0 else 1 := by
      cases enters <;> cases cause <;> rfl
    rw [submits, retries]
    rcases cases with ⟨copies, -⟩ | ⟨copies, -⟩ | ⟨body', position', copies, -⟩
    · simp only [copies, List.map_nil, List.sum_nil]
      omega
    · simp only [copies, List.map_cons, List.map_nil, List.sum_cons, List.sum_nil,
        MessageCopy.due]
      omega
    · simp only [copies, List.map_cons, List.map_nil, List.sum_cons, List.sum_nil,
        MessageCopy.due]
      omega
  · rw [retries]
    rcases cases with ⟨copies, same, -⟩ | ⟨copies, more⟩ | ⟨body', position', copies, -, same⟩
    · simp only [copies, List.map_nil, List.sum_nil]
      omega
    · simp only [copies, List.map_cons, List.map_nil, List.sum_cons, List.sum_nil,
        MessageCopy.waits]
      omega
    · simp only [copies, List.map_cons, List.map_nil, List.sum_cons, List.sum_nil,
        MessageCopy.waits]
      omega
  · rcases cases with ⟨copies, -, result⟩ | ⟨copies, -⟩ | ⟨body', position', copies, carried', -⟩
    · exact .inl ⟨copies, fun isOpen => result (carries.isOpen isOpen)⟩
    · exact .inr ⟨_, payload, copies, rfl, retries ▸ carries⟩
    · exact .inr ⟨_, payload, copies, carried', retries ▸ carries⟩

theorem Sound.respond (sound : state.Sound unicode maxRetry first)
    (nonneg : 0 ≤ first.throttleRetry) (small : maxRetry ≤ 2 ^ 53) {commandStatus : ℕ}
    {messageID : String} {broker : GatewayBroker}
    (only : state.copies = [.inFlight payload])
    (carries : Carries unicode first payload state.retries)
    (responded : state.respond maxRetry [] payload commandStatus messageID broker true = after) :
    after.Sound unicode maxRetry first := by
  have due := sound.due
  have waits := sound.waits
  rw [only] at due waits
  simp only [List.map_cons, List.map_nil, List.sum_cons, List.sum_nil, MessageCopy.due,
    MessageCopy.waits, Nat.add_zero] at due waits
  have counts := carries.counts
  subst responded
  unfold ThrottledMessage.respond
  generalize returned : onSubmitSMResp maxRetry broker payload commandStatus messageID = response
  rcases onSubmitSMResp_cases _ _ _ _ _ returned with ⟨none, results⟩ | ⟨retried, marks, below⟩
  · have published : state.publish response.results true ≠ [] := publish_ne_nil (.inr results)
    refine ⟨fun _ => published, ?_, ?_, ?_, .inl ⟨by simp [none], fun _ => published⟩⟩
    · simpa [none] using sound.bounded
    · simp only [none, Option.map_none, Option.toList_none, List.nil_append, List.map_nil,
        List.sum_nil, Option.isSome_none, Bool.false_eq_true, if_false, Nat.add_zero]
      exact due
    · simpa [none] using waits
  · have exact : payload.retried.Exact := by
      refine ⟨carries.exact.logId, carries.exact.channelId, carries.exact.batchId, ?_⟩
      change (payload.throttleRetry + 1).natAbs ≤ 2 ^ 53
      omega
    have carried : (MessageCopy.queued (SendPayload.marshal [payload.retried]) 0
        .throttled).payload = some payload.retried := by
      simpa using payload_queued_marshal exact
        (show (payload.retried, 0) ∈ [(payload.retried, 0)] from List.mem_cons_self) .throttled
    refine ⟨?_, ?_, ?_, ?_, .inr ⟨_, payload.retried, by simp [retried], carried, exact, ?_, ?_⟩⟩
    · intro marked
      exact publish_ne_nil (.inl (sound.marked (by simpa [marks] using marked)))
    · right
      simp only [retried, Option.isSome_some, if_true]
      omega
    · simp only [retried, Option.map_some, Option.toList_some, Option.isSome_some, if_true]
      change state.submits + 1 ≤ 1 + (state.retries + 1)
      omega
    · simp only [retried, Option.map_some, Option.toList_some, Option.isSome_some, if_true]
      change state.submitted + 1 ≤ 1 + (state.retries + 1)
      omega
    · simp only [retried, Option.isSome_some, if_true]
      change payload.throttleRetry + 1 = _
      omega
    · exact fun _ => payload.retried_open unicode

theorem Sound.next (sound : state.Sound unicode maxRetry first) (nonneg : 0 ≤ first.throttleRetry)
    (small : maxRetry ≤ 2 ^ 53) {label : ThrottleLabel} (takes : label.BrokerTakes)
    (step : state.next unicode maxRetry label = some after) :
    after.Sound unicode maxRetry first := by
  cases label with
  | deliver index answers kind swept broker takesResult =>
      obtain ⟨brokerTakes, rfl⟩ := takes
      simp only [ThrottledMessage.next] at step
      split at step
      · rename_i body position cause found
        obtain ⟨only, others, payload, carried, carries⟩ := sound.copy_eq found
        rw [carried, others] at step
        simp only [Option.ite_none_right_eq_some, Option.some.injEq] at step
        exact sound.deliver only carried carries step.1 brokerTakes step.2
      · cases step
  | respond index commandStatus messageID broker takesResult =>
      cases takes
      simp only [ThrottledMessage.next] at step
      split at step
      · rename_i payload found
        obtain ⟨only, others, _, carried, carries⟩ := sound.copy_eq found
        cases carried
        rw [others] at step
        exact sound.respond nonneg small only carries (Option.some.inj step)
      · cases step
  | sweep index takesResult =>
      cases takes
      simp only [ThrottledMessage.next] at step
      split at step
      · rename_i payload found
        obtain ⟨only, others, _⟩ := sound.copy_eq found
        rw [others] at step
        cases step
        have published : state.publish [payload.sent ""] true ≠ [] :=
          publish_ne_nil (.inr (by simp))
        have due := sound.due
        have waits := sound.waits
        refine ⟨fun _ => published, sound.bounded, ?_, ?_, .inl ⟨rfl, fun _ => published⟩⟩
        · change state.submits + 0 ≤ 1 + state.retries
          omega
        · change state.submitted + 0 ≤ 1 + state.retries
          omega
      · cases step

def Step (unicode : Unicode) (maxRetry : ℤ) (before : ThrottledMessage) (label : ThrottleLabel)
    (after : ThrottledMessage) : Prop :=
  before.next unicode maxRetry label = some after

/-- Payloads that are published again are read back as they were. A message is submitted at most
once more often than the limit of retries says, and comes no more often to `Submit` other than after
a `Submit` that failed; every copy of it counts its retries; and when there is none left, a result
was published. -/
theorem throttle_retries_bounded (unicode : Unicode) (value : String)
    (small : throttleMaxRetry value ≤ 2 ^ 53) {body : Json} {position : ℕ} {first : SendPayload}
    (carried : (MessageCopy.queued body position .enqueued).payload = some first)
    (exact : first.Exact) (nonneg : 0 ≤ first.throttleRetry)
    {transitions : List (Transition ThrottledMessage ThrottleLabel)} {last : ThrottledMessage}
    (run : Run (Step unicode (throttleMaxRetry value)) (start body position) transitions last)
    (takes : ∀ transition ∈ transitions, transition.label.BrokerTakes) :
    (∀ payloads : List SendPayload, payloads ≠ [] → (∀ payload ∈ payloads, payload.Exact) →
        extractSmsPayloads (some (SendPayload.marshal payloads)) = some payloads) ∧
      (last.submits : ℤ) ≤ 1 + throttleMaxRetry value ∧
      (last.submitted : ℤ) ≤ 1 + throttleMaxRetry value ∧
      (∀ copy ∈ last.copies, ∃ payload, copy.payload = some payload ∧
        payload.throttleRetry = first.throttleRetry + last.retries) ∧
      (first.Open unicode → last.copies = [] → last.published ≠ []) := by
  have kept : ∀ before label after,
      Guarded (Step unicode (throttleMaxRetry value)) (fun _ label => label.BrokerTakes)
          before label after →
        Sound unicode (throttleMaxRetry value) first before →
        Sound unicode (throttleMaxRetry value) first after :=
    fun _ _ _ step before => before.next nonneg small step.2 step.1
  have sound := (Run.invariant kept (run.guarded takes) (sound_start carried exact)).1
  have positive := one_le_throttleMaxRetry value
  have retries : (last.retries : ℤ) ≤ throttleMaxRetry value := by
    rcases sound.bounded with none | below <;> omega
  have due := sound.due
  have waits := sound.waits
  refine ⟨?_, by omega, by omega, ?_, ?_⟩
  · intro payloads nonempty allExact
    have unchanged : payloads.map SendPayload.reread = payloads.map id :=
      List.map_congr_left fun payload member => (allExact payload member).reread_eq
    rw [extractSmsPayloads_marshal nonempty, unchanged, List.map_id]
  · intro copy member
    rcases sound.alone with ⟨none, -⟩ | ⟨only, payload, copies, carried', carries⟩
    · simp [none] at member
    · rw [copies, List.mem_singleton] at member
      subst member
      exact ⟨payload, carried', carries.counts⟩
  · intro isOpen ended
    rcases sound.alone with ⟨-, published⟩ | ⟨only, payload, copies, -⟩
    · exact published isOpen
    · simp [copies] at ended

def freshPayload : SendPayload where
  logId := 7
  messageId := "msg"
  phoneNumber := "+66826483489"
  message := "hi"
  channelId := 64
  batchStatus := "processing"
  recordStatus := "queued"
  batchId := 0
  senderId := ""
  throttleRetry := 0

def steadyBroker : GatewayBroker := ⟨true, false, fun _ => false⟩

/-- The message is to be sent, and `SendSMS` submits it. -/
def submitting : ProcessAnswers where
  lookupBatchIDByLogID _ := 0
  isBatchCancelled _ := false
  lookupCurrentStatus := "queued"
  isAlreadySubmitted := false
  sendSMS := .submitted

def throttledOnce : List ThrottleLabel :=
  [.deliver 0 submitting (fun _ => .sentOk) false steadyBroker true,
    .respond 0 88 "" steadyBroker true,
    .deliver 0 submitting (fun _ => .sentOk) false steadyBroker true,
    .respond 0 0 "up" steadyBroker true]

/-- A message that is throttled once comes to `Submit` twice, and has a result then. -/
theorem throttle_retries_bounded_once :
    ∃ last : ThrottledMessage, last.retries = 1 ∧ last.copies.length = 0 ∧
      (last.submitted : ℤ) ≤ 4 ∧ last.published ≠ [] := by
  have passed : ((execute (fun state => state.next .ascii (throttleMaxRetry ""))
      (start (SendPayload.marshal [freshPayload]) 0) throttledOnce).any fun outcome =>
        decide (outcome.2.retries = 1 ∧ outcome.2.copies.length = 0)) = true := by
    decide
  obtain ⟨transitions, last, run, labels, checked⟩ := Run.exists_labelled_of_execute _ passed
  obtain ⟨retries, ended⟩ := of_decide_eq_true checked
  have takes : ∀ label ∈ throttledOnce, label.BrokerTakes := by
    have steady : steadyBroker.Takes := ⟨rfl, fun _ => rfl⟩
    simp [throttledOnce, ThrottleLabel.BrokerTakes, steady]
  have carried : (MessageCopy.queued (SendPayload.marshal [freshPayload]) 0 .enqueued).payload =
      some freshPayload := by
    decide
  have bounded := throttle_retries_bounded .ascii "" (by decide) carried
    ⟨by decide, by decide, by decide, by decide⟩ (by decide) run fun transition member =>
      takes _ (labels ▸ List.mem_map_of_mem member)
  refine ⟨last, retries, ended, bounded.2.2.1, ?_⟩
  refine bounded.2.2.2.2 ?_ (List.length_eq_zero_iff.mp ended)
  unfold SendPayload.Open
  decide

end ThrottledMessage

end Klsmsc
