import Klsmsc.Library.Slices
import Klsmsc.Tables
import Mathlib.Data.List.Perm.Basic

/-!
# The queue manager

The publishing functions of `utils/queue.py` and the composition that four
callers build from two of them: publish a whole package of SMPP payloads, and
if that is reported as failed, publish the payloads one by one. The callers are
the chunk worker, the batch worker's commit path, the small synchronous batch
of the API and buy-and-send; the second and the last do it window by window.

A call of `apply_async` that raises has published nothing, so the broker is an
oracle that says for every call and attempt whether it fails. What a function
publishes is returned next to its result.
-/

namespace Klsmsc

open Library

structure SmppPayload where
  logId : ℕ
  messageId : MessageId
  phoneNumber : String
  message : String
  channelId : ℕ
  batchStatus : String
  recordStatus : SmsStatus
  batchId : ℕ
  senderId : String
  deriving DecidableEq, Repr

/-- `smpp_payload_public_dict`, with the text sanitiser of the wire as a parameter. -/
def smppPayloadPublicDict (sanitize : String → String) (batchStatus : String)
    (row : SmsLog) : SmppPayload where
  logId := row.id
  messageId := row.messageId
  phoneNumber := row.phoneNumber
  message := sanitize row.message
  channelId := row.channelId.getD 0
  batchStatus := batchStatus
  recordStatus := row.status
  batchId := row.batchId.getD 0
  senderId := row.senderId.getD ""

structure Envelope where
  queue : String
  payloads : List SmppPayload
  deriving DecidableEq, Repr

/-- The calls whose attempts can fail, told apart by what they publish and by
the loop they stand in. -/
inductive BrokerCall where
  | smppPackage (payloads : List SmppPayload)
  | smppDegraded (payload : SmppPayload)
  | smppSingle (payload : SmppPayload)
  | smsProducer (messageIds : List MessageId)
  | smsBulk (messageId : MessageId)
  | sms (messageId : MessageId)
  deriving DecidableEq, Repr

/-- The message broker: the calls and attempts that raise, and whether the
gateway has a queue for each channel (`SMPP_PER_CHANNEL_QUEUES`). -/
structure Broker where
  fails : BrokerCall → ℕ → Bool
  perChannelQueues : Bool

/-- `_SMS_QUEUE_RETRIES`. -/
def smsQueueRetries : ℕ := 3

/-- The retry loop around `apply_async`: it ends with the first attempt that
does not raise, and that attempt alone publishes. -/
def Broker.accepts (broker : Broker) (call : BrokerCall) : Bool :=
  (List.range smsQueueRetries).any fun attempt => !broker.fails call attempt

/-- `_smpp_channel_queue_name`, with the queue that its callers fall back to. -/
def Broker.smppQueueName (broker : Broker) (payload : SmppPayload) : String :=
  if broker.perChannelQueues ∧ 0 < payload.channelId then
    s!"sms_send_smpp.{payload.channelId}"
  else "sms_send_smpp"

/-- `QueueManager.queue_sms`. -/
def queueSms (broker : Broker) (messageId : MessageId) : Bool :=
  broker.accepts (.sms messageId)

/-- `QueueManager.queue_sms_bulk`: the accepted and the failed message ids.
Without a producer it degrades to one call of `queue_sms` for each id. -/
def queueSmsBulk (broker : Broker) (messageIds : List MessageId) :
    List MessageId × List MessageId :=
  let accepted : MessageId → Bool :=
    if broker.fails (.smsProducer messageIds) 0 then queueSms broker
    else fun messageId => broker.accepts (.smsBulk messageId)
  (messageIds.filter accepted, messageIds.filter fun messageId => !accepted messageId)

/-- `QueueManager.queue_smpp_gateway` for a payload, called as `call`. -/
def queueSmppGateway (broker : Broker) (call : SmppPayload → BrokerCall)
    (payload : SmppPayload) : Bool × List Envelope :=
  if broker.accepts (call payload) then
    (true, [⟨broker.smppQueueName payload, [payload]⟩])
  else (false, [])

/-- `QueueManager.queue_sms_batch_smpp`: one publish for the package, which goes
to the queue of its first payload, and when all attempts at it fail one publish
for each payload. -/
def queueSmsBatchSmpp (broker : Broker) (items : List SmppPayload) : Bool × List Envelope :=
  match items with
  | [] => (true, [])
  | first :: _ =>
      if broker.accepts (.smppPackage items) then
        (true, [⟨broker.smppQueueName first, items⟩])
      else
        let results := items.map (queueSmppGateway broker .smppDegraded)
        (results.countP (·.1) = items.length, results.flatMap (·.2))

/-- The publish fallback of the callers: the payloads that they count as
succeeded, and everything that was published. -/
def publishSmpp (broker : Broker) (payloads : List SmppPayload) :
    List SmppPayload × List Envelope :=
  match queueSmsBatchSmpp broker payloads with
  | (true, published) => (payloads, published)
  | (false, published) =>
      (payloads.filter fun payload => (queueSmppGateway broker .smppSingle payload).1,
        published ++
          payloads.flatMap fun payload => (queueSmppGateway broker .smppSingle payload).2)

def publishSmppWindows (broker : Broker) (windows : List (List SmppPayload)) :
    List SmppPayload × List Envelope :=
  (windows.flatMap fun window => (publishSmpp broker window).1,
    windows.flatMap fun window => (publishSmpp broker window).2)

def publishedPayloads (envelopes : List Envelope) : List SmppPayload :=
  envelopes.flatMap Envelope.payloads

@[simp]
theorem publishedPayloads_nil : publishedPayloads [] = [] := rfl

@[simp]
theorem publishedPayloads_append (left right : List Envelope) :
    publishedPayloads (left ++ right) = publishedPayloads left ++ publishedPayloads right :=
  List.flatMap_append

section Bulk

variable (broker : Broker)

theorem queueSmsBulk_perm (messageIds : List MessageId) :
    ((queueSmsBulk broker messageIds).1 ++ (queueSmsBulk broker messageIds).2).Perm
      messageIds :=
  List.filter_append_perm _ messageIds

theorem publishedPayloads_singles (call : SmppPayload → BrokerCall)
    (payloads : List SmppPayload) :
    publishedPayloads (payloads.flatMap fun payload =>
        (queueSmppGateway broker call payload).2) =
      payloads.filter fun payload => broker.accepts (call payload) := by
  induction payloads with
  | nil => rfl
  | cons payload payloads ih =>
      rw [List.flatMap_cons, publishedPayloads_append, ih]
      by_cases accepted : broker.accepts (call payload)
      · simp [queueSmppGateway, accepted, publishedPayloads]
      · simp [queueSmppGateway, accepted]

theorem queueSmppGateway_fst (call : SmppPayload → BrokerCall) (payload : SmppPayload) :
    (queueSmppGateway broker call payload).1 = broker.accepts (call payload) := by
  unfold queueSmppGateway
  split <;> simp_all

end Bulk

/-- The broker patterns on which the publish fallback is safe: the package goes
out, or the degraded loop inside the bulk call publishes all of the payloads, or
it publishes none of them. -/
def AllOrNothing (broker : Broker) (payloads : List SmppPayload) : Prop :=
  broker.accepts (.smppPackage payloads) = true ∨
    (∀ payload ∈ payloads, broker.accepts (.smppDegraded payload) = true) ∨
      ∀ payload ∈ payloads, broker.accepts (.smppDegraded payload) = false

instance (broker : Broker) (payloads : List SmppPayload) :
    Decidable (AllOrNothing broker payloads) := by
  unfold AllOrNothing
  infer_instance

section Fallback

variable (broker : Broker) (payloads : List SmppPayload)

def degradedPayloads : List SmppPayload :=
  payloads.filter fun payload => broker.accepts (.smppDegraded payload)

def singlePayloads : List SmppPayload :=
  payloads.filter fun payload => broker.accepts (.smppSingle payload)

theorem queueSmsBatchSmpp_cases (nonempty : payloads ≠ []) :
    (broker.accepts (.smppPackage payloads) = true ∧
        (queueSmsBatchSmpp broker payloads).1 = true ∧
        publishedPayloads (queueSmsBatchSmpp broker payloads).2 = payloads) ∨
      (broker.accepts (.smppPackage payloads) = false ∧
        ((queueSmsBatchSmpp broker payloads).1 = true ↔
          ∀ payload ∈ payloads, broker.accepts (.smppDegraded payload) = true) ∧
        publishedPayloads (queueSmsBatchSmpp broker payloads).2 =
          degradedPayloads broker payloads) := by
  cases payloads with
  | nil => exact absurd rfl nonempty
  | cons first rest =>
      cases accepted : broker.accepts (.smppPackage (first :: rest)) with
      | true => simp [queueSmsBatchSmpp, accepted, publishedPayloads]
      | false =>
          right
          refine ⟨rfl, ?_, ?_⟩
          · simp only [queueSmsBatchSmpp, accepted, Bool.false_eq_true, if_false,
              decide_eq_true_eq, List.countP_map, List.countP_eq_length,
              Function.comp_apply, queueSmppGateway_fst]
          · simp only [queueSmsBatchSmpp, accepted, Bool.false_eq_true, if_false,
              List.flatMap_map]
            exact publishedPayloads_singles broker .smppDegraded (first :: rest)

theorem publishSmpp_of_allOrNothing (safe : AllOrNothing broker payloads) :
    publishedPayloads (publishSmpp broker payloads).2 = (publishSmpp broker payloads).1 ∧
      ((publishSmpp broker payloads).1).Sublist payloads := by
  by_cases nonempty : payloads = []
  · subst payloads
    simp [publishSmpp, queueSmsBatchSmpp]
  · rcases queueSmsBatchSmpp_cases broker payloads nonempty with
      ⟨_, result, published⟩ | ⟨refused, result, published⟩
    · generalize bulk : queueSmsBatchSmpp broker payloads = outcome at result published
      rcases outcome with ⟨reported, envelopes⟩
      simp only at result published
      subst reported
      simp [publishSmpp, bulk, published]
    · generalize bulk : queueSmsBatchSmpp broker payloads = outcome at result published
      rcases outcome with ⟨reported, envelopes⟩
      simp only at result published
      cases reported with
      | true =>
          have whole : degradedPayloads broker payloads = payloads :=
            List.filter_eq_self.mpr (result.mp rfl)
          simp [publishSmpp, bulk, published, whole]
      | false =>
          have none : degradedPayloads broker payloads = [] := by
            rcases safe with package | all | none
            · simp [package] at refused
            · exact absurd (result.mpr all) (by simp)
            · simpa [degradedPayloads] using none
          simp [publishSmpp, bulk, published, none, publishedPayloads_singles,
            queueSmppGateway_fst]

theorem publishSmpp_length (safe : ¬AllOrNothing broker payloads) :
    ((publishSmpp broker payloads).1).length <
      (publishedPayloads (publishSmpp broker payloads).2).length := by
  simp only [AllOrNothing, not_or, not_forall, Bool.not_eq_true, Bool.not_eq_false] at safe
  rcases safe with ⟨refused, ⟨lost, lostMem, lostRefused⟩, published, publishedMem, publishedOk⟩
  have nonempty : payloads ≠ [] := List.ne_nil_of_mem lostMem
  rcases queueSmsBatchSmpp_cases broker payloads nonempty with
    ⟨package, _, _⟩ | ⟨_, result, envelopesEq⟩
  · simp [package] at refused
  · generalize bulk : queueSmsBatchSmpp broker payloads = outcome at result envelopesEq
    rcases outcome with ⟨reported, envelopes⟩
    simp only at result envelopesEq
    cases reported with
    | true =>
        have accepted := result.mp rfl lost lostMem
        simp [accepted] at lostRefused
    | false =>
        have member : published ∈ degradedPayloads broker payloads := by
          simp [degradedPayloads, publishedMem, publishedOk]
        have positive := List.length_pos_of_mem member
        simp only [publishSmpp, bulk, publishedPayloads_append, envelopesEq,
          publishedPayloads_singles, queueSmppGateway_fst, List.length_append]
        omega

end Fallback

theorem publishedPayloads_windows (broker : Broker) (windows : List (List SmppPayload)) :
    publishedPayloads (publishSmppWindows broker windows).2 =
      windows.flatMap fun window => publishedPayloads (publishSmpp broker window).2 := by
  simp [publishSmppWindows, publishedPayloads, List.flatMap_assoc]

theorem publishSmppWindows_length (broker : Broker) (windows : List (List SmppPayload)) :
    ((publishSmppWindows broker windows).1).length ≤
        (publishedPayloads (publishSmppWindows broker windows).2).length ∧
      (((publishSmppWindows broker windows).1).length =
          (publishedPayloads (publishSmppWindows broker windows).2).length →
        ∀ window ∈ windows, AllOrNothing broker window) := by
  induction windows with
  | nil => simp [publishSmppWindows]
  | cons window windows ih =>
      rw [publishedPayloads_windows] at ih ⊢
      simp only [publishSmppWindows, List.flatMap_cons, List.length_append,
        List.forall_mem_cons] at ih ⊢
      by_cases safe : AllOrNothing broker window
      · have counted := (publishSmpp_of_allOrNothing broker window safe).1
        rw [counted]
        refine ⟨by omega, ?_⟩
        intro equal
        exact ⟨safe, ih.2 (by omega)⟩
      · have short := publishSmpp_length broker window safe
        refine ⟨by omega, ?_⟩
        intro equal
        omega

/-- The publish fallback puts each payload on the gateway queues at most once
and counts as succeeded exactly what it published, if and only if no degraded
loop inside a bulk call publishes some but not all payloads of its package. -/
theorem publishSmppWindows_exactly_once_iff (broker : Broker)
    (windows : List (List SmppPayload)) :
    ((publishedPayloads (publishSmppWindows broker windows).2).Perm
          (publishSmppWindows broker windows).1 ∧
        ∀ payload, (publishedPayloads (publishSmppWindows broker windows).2).count payload ≤
          windows.flatten.count payload) ↔
      ∀ window ∈ windows, AllOrNothing broker window := by
  constructor
  · rintro ⟨counted, _⟩
    exact (publishSmppWindows_length broker windows).2 counted.length_eq.symm
  · intro safe
    have counted : publishedPayloads (publishSmppWindows broker windows).2 =
        (publishSmppWindows broker windows).1 := by
      rw [publishedPayloads_windows]
      exact List.flatMap_congr fun window member =>
        (publishSmpp_of_allOrNothing broker window (safe window member)).1
    have within : ((publishSmppWindows broker windows).1).Sublist windows.flatten := by
      clear counted
      induction windows with
      | nil => simp [publishSmppWindows]
      | cons window windows ih =>
          simp only [publishSmppWindows, List.flatMap_cons, List.flatten_cons] at ih ⊢
          exact (publishSmpp_of_allOrNothing broker window (safe window (by simp))).2.append
            (ih fun other member => safe other (by simp [member]))
    rw [counted]
    exact ⟨List.Perm.refl _, fun payload => within.count_le payload⟩

def samplePayload (messageId : MessageId) : SmppPayload where
  logId := messageId
  messageId := messageId
  phoneNumber := "+8613800138000"
  message := "hello"
  channelId := 7
  batchStatus := "processing"
  recordStatus := .pending
  batchId := 1
  senderId := ""

def flakyBroker : Broker where
  fails call _ := match call with
    | .smppPackage _ => true
    | .smppDegraded payload => payload.messageId = 2
    | _ => false
  perChannelQueues := false

/-- Message 1 is published by the degraded loop and again by the caller's loop. -/
theorem publishSmpp_publishes_twice :
    (publishedPayloads (publishSmppWindows flakyBroker
        [[samplePayload 1, samplePayload 2]]).2).count (samplePayload 1) = 2 ∧
      ((publishSmppWindows flakyBroker [[samplePayload 1, samplePayload 2]]).1).length = 2 ∧
      ¬(∀ payload, (publishedPayloads (publishSmppWindows flakyBroker
          [[samplePayload 1, samplePayload 2]]).2).count payload ≤
        ([[samplePayload 1, samplePayload 2]].flatten).count payload) := by
  have twice : (publishedPayloads (publishSmppWindows flakyBroker
      [[samplePayload 1, samplePayload 2]]).2).count (samplePayload 1) = 2 := by decide
  refine ⟨twice, by decide, ?_⟩
  intro atMostOnce
  have bound := atMostOnce (samplePayload 1)
  rw [twice] at bound
  exact absurd bound (by decide)

end Klsmsc
