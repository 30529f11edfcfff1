import Klsmsc.Library.Runs
import Klsmsc.Queue
import Mathlib.Data.List.Nodup
import Mathlib.Logic.Function.Basic

/-!
# Redispatch of pending messages

A message of an SMPP channel that stays `pending` for some minutes is taken for one that was lost
before it came to the gateway, and the inspector publishes it again. Several rounds of the inspector
can be under way, and a message is often still `pending` when the next round comes, so each of them
claims a message in Redis before it publishes it. A claim ends by itself. It is long enough as long
as a round makes its claims soon after it has read the clock.
-/

namespace Klsmsc

open Library

structure Platform (submitted : MessageId → ℕ) where
  db : Db
  /-- `sms_batches.is_deleted`. -/
  isDeleted : ℕ → Bool
  keeps : ∀ row ∈ db.smsLogs, ∀ time, row.submitTime = some time → time = submitted row.messageId

structure RedispatchSettings where
  redispatchMinutes : ℕ
  orphanMinutes : ℕ

variable {submitted : MessageId → ℕ}

def Platform.redispatchable (platform : Platform submitted) (settings : RedispatchSettings)
    (clock : ℕ) (row : SmsLog) : Bool :=
  (row.channelId.bind platform.db.channels).any (fun channel => channel.protocol = .smpp) &&
    row.status = .pending && row.sentTime = none &&
    row.submitTime.any (fun time =>
      time + 60 * settings.redispatchMinutes < clock ∧
        clock ≤ time + 60 * settings.orphanMinutes) &&
    row.batchId.any fun batchId => !platform.isDeleted batchId &&
      (platform.db.batches batchId).any fun batch => batch.status = .processing

theorem Platform.redispatchable_times (platform : Platform submitted)
    {settings : RedispatchSettings} {clock : ℕ} {row : SmsLog}
    (found : row ∈ platform.db.smsLogs ∧ platform.redispatchable settings clock row = true) :
    submitted row.messageId + 60 * settings.redispatchMinutes < clock ∧
      clock ≤ submitted row.messageId + 60 * settings.orphanMinutes := by
  rcases found with ⟨member, found⟩
  simp only [redispatchable, Bool.and_eq_true, Option.any_eq_true, decide_eq_true_eq] at found
  rcases found with ⟨⟨-, time, stored, bounds⟩, -⟩
  rw [platform.keeps row member time stored] at bounds
  exact bounds

def Platform.Selects (platform : Platform submitted) (settings : RedispatchSettings) (clock : ℕ)
    (rows : List SmsLog) : Prop :=
  let found := platform.db.smsLogs.filter (platform.redispatchable settings clock)
  rows ⊆ found ∧ rows.Nodup ∧ rows.length = min 2000 found.length

instance (platform : Platform submitted) (settings : RedispatchSettings) (clock : ℕ)
    (rows : List SmsLog) : Decidable (platform.Selects settings clock rows) :=
  inferInstanceAs (Decidable (_ ∧ _ ∧ _))

/-- A round of the inspector: it has read the clock, or it has the rows that it still has to claim
and the payloads that it still has to publish. -/
inductive RedispatchRound where
  | looked (clock : ℕ)
  | sending (clock : ℕ) (rows : List SmsLog) (payloads : List SmppPayload)

/-- The tables, the keys `smsc:smpp_redispatch` by the times they end at, and the rounds. What was
claimed and when, and what was published, are kept as a record. -/
structure Redispatch (submitted : MessageId → ℕ) where
  now : ℕ
  platform : Platform submitted
  ends : MessageId → ℕ
  claims : List (MessageId × ℕ)
  rounds : ℕ → Option RedispatchRound
  published : List Envelope

inductive RedispatchEvent (submitted : MessageId → ℕ) where
  | tick (seconds : ℕ)
  | write (platform : Platform submitted)
  | forget (messageId : MessageId)
  | look (n : ℕ) (lagging : Bool)
  | query (n : ℕ) (rows : List SmsLog)
  | claim (n : ℕ) (arrives answered : Bool)
  | publish (n : ℕ) (broker : Broker)
  | stop (n : ℕ)

namespace Redispatch

def initial (platform : Platform submitted) : Redispatch submitted where
  now := 0
  platform := platform
  ends := fun _ => 0
  claims := []
  rounds := fun _ => none
  published := []

def setRound (state : Redispatch submitted) (n : ℕ) (round : Option RedispatchRound) :
    Redispatch submitted :=
  { state with rounds := Function.update state.rounds n round }

/-- `SET smsc:smpp_redispatch:.. NX EX`, and whether it has set the key. -/
def setNx (settings : RedispatchSettings) (state : Redispatch submitted) (messageId : MessageId) :
    Bool × Redispatch submitted :=
  if state.now < state.ends messageId then (false, state)
  else
    (true,
      { state with
        ends := Function.update state.ends messageId (state.now + 60 * settings.orphanMinutes)
        claims := state.claims ++ [(messageId, state.now)] })

/-- The state after an event. A round does nothing where the results of the gateway lag behind, and
it reads the clock once for both ends of the query. A claim arrives at Redis or does not, and where
no answer comes the round goes on as if the key were set. The payloads go out in windows of 500. An
exception stops a round. -/
def next (settings : RedispatchSettings) (sanitize : String → String)
    (state : Redispatch submitted) : RedispatchEvent submitted → Option (Redispatch submitted)
  | .tick seconds => some { state with now := state.now + seconds }
  | .write platform => some { state with platform }
  | .forget messageId => some { state with ends := Function.update state.ends messageId 0 }
  | .look n lagging =>
      match state.rounds n with
      | none => some (if lagging then state else state.setRound n (some (.looked state.now)))
      | some _ => none
  | .query n rows =>
      match state.rounds n with
      | some (.looked clock) =>
          if state.platform.Selects settings clock rows then
            some (state.setRound n (some (.sending clock rows [])))
          else none
      | _ => none
  | .claim n arrives answered =>
      match state.rounds n with
      | some (.sending clock (row :: rows) payloads) =>
          let reply := if arrives then state.setNx settings row.messageId else (true, state)
          let payload := smppPayloadPublicDict sanitize "processing" row
          let fresh := !answered || reply.1
          some
            (reply.2.setRound n
              (some (.sending clock rows (if fresh then payloads ++ [payload] else payloads))))
      | _ => none
  | .publish n broker =>
      match state.rounds n with
      | some (.sending clock [] (payload :: payloads)) =>
          let window := (payload :: payloads).take 500
          let sent := state.published ++ (queueSmsBatchSmpp broker window).2
          some
            ({ state with published := sent }.setRound n
              (some (.sending clock [] ((payload :: payloads).drop 500))))
      | _ => none
  | .stop n => some (state.setRound n none)

theorem setNx_now (settings : RedispatchSettings) (state : Redispatch submitted)
    (messageId : MessageId) : (state.setNx settings messageId).2.now = state.now := by
  unfold setNx
  split <;> rfl

theorem setNx_rounds (settings : RedispatchSettings) (state : Redispatch submitted)
    (messageId : MessageId) : (state.setNx settings messageId).2.rounds = state.rounds := by
  unfold setNx
  split <;> rfl

theorem setNx_published (settings : RedispatchSettings) (state : Redispatch submitted)
    (messageId : MessageId) : (state.setNx settings messageId).2.published = state.published := by
  unfold setNx
  split <;> rfl

def Step (settings : RedispatchSettings) (sanitize : String → String)
    (before : Redispatch submitted) (event : RedispatchEvent submitted)
    (after : Redispatch submitted) : Prop :=
  before.next settings sanitize event = some after

variable {settings : RedispatchSettings} {sanitize : String → String}
  {state after : Redispatch submitted}

/-! ### The places of a message -/

def payloads : Option RedispatchRound → List SmppPayload
  | some (.sending _ _ payloads) => payloads
  | _ => []

def messages (state : Redispatch submitted) : Option ℕ → List MessageId
  | some n => (payloads (state.rounds n)).map SmppPayload.messageId
  | none => (publishedPayloads state.published).map SmppPayload.messageId

def claimed (state : Redispatch submitted) : List MessageId :=
  state.claims.map Prod.fst

structure Apart (state : Redispatch submitted) : Prop where
  nodup : ∀ place, (state.messages place).Nodup
  separate : ∀ place other, place ≠ other →
    (state.messages place).Disjoint (state.messages other)
  claimed : ∀ place, state.messages place ⊆ state.claimed

def RoundTimed (submitted : MessageId → ℕ) (settings : RedispatchSettings) (now : ℕ) :
    RedispatchRound → Prop
  | .looked clock => clock ≤ now
  | .sending clock rows _ => clock ≤ now ∧ ∀ row ∈ rows,
      submitted row.messageId + 60 * settings.redispatchMinutes < clock ∧
        clock ≤ submitted row.messageId + 60 * settings.orphanMinutes

structure Timed (settings : RedispatchSettings) (state : Redispatch submitted) : Prop where
  claims : ∀ claim ∈ state.claims, submitted claim.1 + 60 * settings.redispatchMinutes < claim.2 ∧
    claim.2 + 60 * settings.orphanMinutes ≤ state.ends claim.1
  rounds : ∀ n round, state.rounds n = some round → RoundTimed submitted settings state.now round

def isPrompt (settings : RedispatchSettings) (state : Redispatch submitted) (n : ℕ) : Bool :=
  match state.rounds n with
  | some (.sending clock _ _) => state.now ≤ clock + 60 * settings.redispatchMinutes
  | _ => true

def Orderly (settings : RedispatchSettings) (state : Redispatch submitted) :
    RedispatchEvent submitted → Prop
  | .forget _ => False
  | .claim n arrives answered =>
      arrives = true ∧ answered = true ∧ state.isPrompt settings n = true
  | _ => True

namespace Apart

theorem initial (platform : Platform submitted) : (Redispatch.initial platform).Apart := by
  have empty : ∀ place, (Redispatch.initial platform).messages place = [] := by
    intro place
    cases place <;> rfl
  constructor <;> simp [empty]

theorem of_sublist (apart : state.Apart)
    (fewer : ∀ place, (after.messages place).Sublist (state.messages place))
    (claims : after.claims = state.claims) : after.Apart where
  nodup place := (fewer place).nodup (apart.nodup place)
  separate place other ne := by
    intro messageId left right
    exact apart.separate place other ne ((fewer place).subset left) ((fewer other).subset right)
  claimed place := by
    rw [Redispatch.claimed, claims]
    exact List.Subset.trans (fewer place).subset (apart.claimed place)

/-- A place gets messages that are nowhere else, and the other places get none. -/
theorem receive (apart : state.Apart) (place : Option ℕ) {new : List MessageId}
    (here : after.messages place = state.messages place ++ new)
    (others : ∀ other, other ≠ place →
      (after.messages other).Sublist (state.messages other))
    (nodup : new.Nodup) (absent : (state.messages place).Disjoint new)
    (gone : ∀ other, other ≠ place → (after.messages other).Disjoint new)
    (kept : state.claimed ⊆ after.claimed) (claimed : new ⊆ after.claimed) : after.Apart := by
  have beside : ∀ other, other ≠ place →
      (after.messages place).Disjoint (after.messages other) := by
    intro other ne messageId left right
    rw [here] at left
    rcases List.mem_append.mp left with before | received
    · exact apart.separate place other (Ne.symm ne) before ((others other ne).subset right)
    · exact gone other ne right received
  refine ⟨?_, ?_, ?_⟩
  · intro other
    by_cases same : other = place
    · subst other
      rw [here]
      exact (apart.nodup place).append nodup absent
    · exact (others other same).nodup (apart.nodup other)
  · intro one other ne
    by_cases first : one = place
    · subst one
      exact beside other (Ne.symm ne)
    · by_cases second : other = place
      · subst other
        exact fun messageId left right => beside one first right left
      · intro messageId left right
        exact apart.separate one other ne ((others one first).subset left)
          ((others other second).subset right)
  · intro other
    by_cases same : other = place
    · subst other
      rw [here]
      exact List.append_subset.mpr ⟨List.Subset.trans (apart.claimed place) kept, claimed⟩
    · exact List.Subset.trans (others other same).subset
        (List.Subset.trans (apart.claimed other) kept)

theorem claim (apart : state.Apart) {n : ℕ} {messageId : MessageId}
    (new : messageId ∉ state.claimed)
    (here : after.messages (some n) = state.messages (some n) ++ [messageId])
    (others : ∀ place, place ≠ some n → after.messages place = state.messages place)
    (claims : after.claimed = state.claimed ++ [messageId]) : after.Apart := by
  have absent : ∀ place, (state.messages place).Disjoint [messageId] := by
    intro place
    rw [List.disjoint_singleton]
    exact fun member => new (apart.claimed place member)
  apply apart.receive (some n) here
  · exact fun other ne => by rw [others other ne]
  · exact List.nodup_singleton messageId
  · exact absent (some n)
  · exact fun other ne => by rw [others other ne]; exact absent other
  · exact claims ▸ List.subset_append_left _ _
  · exact claims ▸ List.subset_append_right _ _

theorem publish (apart : state.Apart) (n : ℕ) (moved : List MessageId)
    (here : (moved ++ after.messages (some n)).Sublist (state.messages (some n)))
    (gone : after.messages none = state.messages none ++ moved)
    (others : ∀ m, m ≠ n → after.messages (some m) = state.messages (some m))
    (claims : after.claims = state.claims) : after.Apart := by
  have nodup := here.nodup (apart.nodup (some n))
  have fromRound : moved ⊆ state.messages (some n) :=
    List.Subset.trans (List.subset_append_left _ _) here.subset
  have kept : after.claimed = state.claimed := congrArg (List.map Prod.fst) claims
  apply apart.receive none gone
  · intro other ne
    cases other with
    | none => exact absurd rfl ne
    | some m =>
        by_cases same : m = n
        · subst m
          exact (List.sublist_append_right _ _).trans here
        · rw [others m same]
  · exact nodup.of_append_left
  · intro messageId before received
    exact apart.separate none (some n) (by simp) before (fromRound received)
  · intro other ne messageId left received
    cases other with
    | none => exact ne rfl
    | some m =>
        by_cases same : m = n
        · subst m
          exact List.disjoint_of_nodup_append nodup received left
        · rw [others m same] at left
          exact apart.separate (some m) (some n) (by simpa using same) left (fromRound received)
  · rw [kept]
    exact List.Subset.refl _
  · rw [kept]
    exact List.Subset.trans fromRound (apart.claimed (some n))

end Apart

theorem messages_setRound (state : Redispatch submitted) (n : ℕ)
    (round : Option RedispatchRound) :
    (state.setRound n round).messages (some n) = (payloads round).map SmppPayload.messageId ∧
      ∀ place, place ≠ some n → (state.setRound n round).messages place = state.messages place := by
  refine ⟨by simp [messages, Redispatch.setRound], ?_⟩
  intro place ne
  cases place with
  | none => rfl
  | some m =>
      have other : m ≠ n := fun same => ne (congrArg some same)
      simp [messages, Redispatch.setRound, other]

theorem Apart.setRound (apart : state.Apart) {n : ℕ} {round : Option RedispatchRound}
    (fewer : (payloads round).Sublist (payloads (state.rounds n))) :
    (state.setRound n round).Apart := by
  rcases messages_setRound state n round with ⟨here, others⟩
  refine apart.of_sublist ?_ rfl
  intro place
  by_cases same : place = some n
  · subst place
    rw [here]
    exact fewer.map _
  · rw [others place same]

namespace Timed

theorem initial (platform : Platform submitted) : (Redispatch.initial platform).Timed settings := by
  constructor <;> simp [Redispatch.initial]

theorem setRound (timed : state.Timed settings) {n : ℕ} {round : Option RedispatchRound}
    (new : ∀ next, round = some next → RoundTimed submitted settings state.now next) :
    (state.setRound n round).Timed settings where
  claims := timed.claims
  rounds := (Function.forall_update_iff state.rounds (fun _ next =>
    ∀ round, next = some round → RoundTimed submitted settings state.now round)).mpr
      ⟨new, fun m _ => timed.rounds m⟩

theorem setNx (timed : state.Timed settings) {messageId : MessageId}
    (old : submitted messageId + 60 * settings.redispatchMinutes < state.now) :
    (state.setNx settings messageId).2.Timed settings := by
  unfold Redispatch.setNx
  split
  · exact timed
  rename_i free
  refine ⟨?_, timed.rounds⟩
  intro claim member
  rcases List.mem_append.mp member with before | new
  · rcases timed.claims claim before with ⟨due, kept⟩
    refine ⟨due, ?_⟩
    by_cases same : claim.1 = messageId
    · rw [same] at kept ⊢
      simp only [Function.update_self]
      omega
    · simpa [same] using kept
  · rcases List.mem_singleton.mp new with rfl
    exact ⟨old, by simp⟩

theorem new (timed : state.Timed settings) {messageId : MessageId}
    (prompt : state.now ≤ submitted messageId + 60 * settings.orphanMinutes +
      60 * settings.redispatchMinutes)
    (free : ¬state.now < state.ends messageId) : messageId ∉ state.claimed := by
  intro member
  rcases List.mem_map.mp member with ⟨claim, claimed, rfl⟩
  rcases timed.claims claim claimed with ⟨due, kept⟩
  omega

end Timed

theorem Apart.claimRow (apart : state.Apart) {n clock : ℕ} {row : SmsLog} {rows : List SmsLog}
    {held : List SmppPayload}
    (found : state.rounds n = some (.sending clock (row :: rows) held))
    (new : ¬state.now < state.ends row.messageId → row.messageId ∉ state.claimed) :
    ((state.setNx settings row.messageId).2.setRound n
      (some (.sending clock rows
        (if (state.setNx settings row.messageId).1 then
          held ++ [smppPayloadPublicDict sanitize "processing" row]
        else held)))).Apart := by
  unfold setNx
  split
  · exact apart.setRound (by simp [found, payloads])
  · rename_i free
    refine apart.claim (new free) ((messages_setRound _ n _).1.trans ?_)
      (messages_setRound _ n _).2 ?_
    · simp [messages, found, payloads, smppPayloadPublicDict]
    · simp [Redispatch.claimed, Redispatch.setRound]

theorem published_sublist (broker : Broker) (window : List SmppPayload) :
    (publishedPayloads (queueSmsBatchSmpp broker window).2).Sublist window := by
  by_cases empty : window = []
  · simp [empty, queueSmsBatchSmpp]
  · rcases queueSmsBatchSmpp_cases broker window empty with ⟨-, -, whole⟩ | ⟨-, -, some⟩
    · rw [whole]
    · rw [some]
      exact List.filter_sublist

theorem Apart.publishWindow (apart : state.Apart) {n clock : ℕ} {rows : List SmsLog}
    {held : List SmppPayload} (found : state.rounds n = some (.sending clock rows held))
    (broker : Broker) :
    (Redispatch.setRound
      { state with
        published := state.published ++ (queueSmsBatchSmpp broker (held.take 500)).2 } n
      (some (.sending clock rows (held.drop 500)))).Apart := by
  have taken := (published_sublist broker (held.take 500)).append
    (List.Sublist.refl (held.drop 500))
  rw [List.take_append_drop] at taken
  refine apart.publish n ((publishedPayloads
    (queueSmsBatchSmpp broker (held.take 500)).2).map SmppPayload.messageId) ?_ ?_ ?_ rfl
  · simpa [messages, found, payloads, Redispatch.setRound] using taken.map SmppPayload.messageId
  · simp [messages, Redispatch.setRound]
  · intro m ne
    exact (messages_setRound _ n _).2 (some m) (by simpa using ne)

theorem apart_step (apart : state.Apart) (timed : state.Timed settings)
    {event : RedispatchEvent submitted} (orderly : state.Orderly settings event)
    (step : Step settings sanitize state event after) : after.Apart ∧ after.Timed settings := by
  cases event with
  | tick seconds =>
      rcases Option.some.inj step with rfl
      refine ⟨apart.of_sublist (fun place => List.Sublist.refl _) rfl, timed.claims, ?_⟩
      intro n round found
      have before := timed.rounds n round found
      cases round with
      | looked clock => exact Nat.le_trans before (Nat.le_add_right _ _)
      | sending clock rows payloads =>
          exact ⟨Nat.le_trans before.1 (Nat.le_add_right _ _), before.2⟩
  | write platform =>
      rcases Option.some.inj step with rfl
      exact ⟨apart.of_sublist (fun place => List.Sublist.refl _) rfl, timed.claims, timed.rounds⟩
  | forget messageId => exact orderly.elim
  | look n lagging =>
      simp only [Step, next] at step
      split at step
      · rcases Option.some.inj step with rfl
        cases lagging with
        | true => exact ⟨apart, timed⟩
        | false =>
            refine ⟨apart.setRound (List.nil_sublist _), timed.setRound ?_⟩
            rintro round ⟨⟩
            exact Nat.le_refl _
      · cases step
  | query n rows =>
      simp only [Step, next] at step
      split at step
      · rename_i clock looked
        split at step
        · rename_i selects
          rcases Option.some.inj step with rfl
          refine ⟨apart.setRound (List.nil_sublist _), timed.setRound ?_⟩
          rintro round ⟨⟩
          refine ⟨timed.rounds n _ looked, ?_⟩
          intro row member
          exact state.platform.redispatchable_times (List.mem_filter.mp (selects.1 member))
        · cases step
      · cases step
  | claim n arrives answered =>
      rcases orderly with ⟨rfl, rfl, prompt⟩
      simp only [Step, next] at step
      split at step
      · rename_i clock row rows payloads found
        rcases Option.some.inj step with rfl
        rcases timed.rounds n _ found with ⟨looked, due⟩
        have old := due row List.mem_cons_self
        have soon : state.now ≤ clock + 60 * settings.redispatchMinutes := by
          simpa [isPrompt, found] using prompt
        have timed' : (state.setNx settings row.messageId).2.Timed settings :=
          timed.setNx (by omega)
        refine ⟨?_, timed'.setRound ?_⟩
        · simpa using apart.claimRow found (timed.new (by omega))
        · rintro round ⟨⟩
          refine ⟨?_, fun row member => due row (List.mem_cons_of_mem _ member)⟩
          rw [setNx_now]
          exact looked
      · cases step
  | publish n broker =>
      simp only [Step, next] at step
      split at step
      · rename_i clock payload payloads found
        rcases Option.some.inj step with rfl
        rcases timed.rounds n _ found with ⟨looked, -⟩
        have timed' : Timed settings { state with
            published := state.published ++
              (queueSmsBatchSmpp broker ((payload :: payloads).take 500)).2 } :=
          ⟨timed.claims, timed.rounds⟩
        refine ⟨apart.publishWindow found broker, timed'.setRound ?_⟩
        rintro round ⟨⟩
        exact ⟨looked, by simp⟩
      · cases step
  | stop n =>
      rcases Option.some.inj step with rfl
      exact ⟨apart.setRound (List.nil_sublist _), timed.setRound (by simp)⟩

variable {platform : Platform submitted}
  {events : List (Transition (Redispatch submitted) (RedispatchEvent submitted))}
  {last : Redispatch submitted}

def Queried (settings : RedispatchSettings)
    (events : List (Transition (Redispatch submitted) (RedispatchEvent submitted)))
    (row : SmsLog) : Prop :=
  ∃ transition ∈ events, ∃ n clock rows, transition.label = .query n rows ∧ row ∈ rows ∧
    transition.before.rounds n = some (.looked clock) ∧
      row ∈ transition.before.platform.db.smsLogs.filter
        (transition.before.platform.redispatchable settings clock)

def FromQuery (settings : RedispatchSettings) (sanitize : String → String)
    (events : List (Transition (Redispatch submitted) (RedispatchEvent submitted)))
    (payload : SmppPayload) : Prop :=
  ∃ row, Queried settings events row ∧ payload = smppPayloadPublicDict sanitize "processing" row

def RoundJustified (settings : RedispatchSettings) (sanitize : String → String)
    (events : List (Transition (Redispatch submitted) (RedispatchEvent submitted))) :
    RedispatchRound → Prop
  | .looked _ => True
  | .sending _ rows held => (∀ row ∈ rows, Queried settings events row) ∧
      ∀ payload ∈ held, FromQuery settings sanitize events payload

structure Justified (settings : RedispatchSettings) (sanitize : String → String)
    (events : List (Transition (Redispatch submitted) (RedispatchEvent submitted)))
    (state : Redispatch submitted) : Prop where
  rounds : ∀ n round, state.rounds n = some round → RoundJustified settings sanitize events round
  published : ∀ payload ∈ publishedPayloads state.published,
    FromQuery settings sanitize events payload

theorem Justified.setRound (justified : state.Justified settings sanitize events)
    (rounds : after.rounds = state.rounds) (published : after.published = state.published) {n : ℕ}
    {round : Option RedispatchRound}
    (new : ∀ next, round = some next → RoundJustified settings sanitize events next) :
    (after.setRound n round).Justified settings sanitize events := by
  refine ⟨?_, ?_⟩
  · refine (Function.forall_update_iff after.rounds (fun _ next =>
      ∀ round, next = some round → RoundJustified settings sanitize events round)).mpr ⟨new, ?_⟩
    rw [rounds]
    exact fun m _ => justified.rounds m
  · simpa [Redispatch.setRound, published] using justified.published

theorem Justified.step (justified : state.Justified settings sanitize events)
    {event : RedispatchEvent submitted} (step : Step settings sanitize state event after)
    (took : ∃ transition ∈ events, transition.before = state ∧ transition.label = event) :
    after.Justified settings sanitize events := by
  cases event with
  | tick _ | write _ | forget _ =>
      rcases Option.some.inj step with rfl
      exact ⟨justified.rounds, justified.published⟩
  | look n lagging =>
      simp only [Step, next] at step
      split at step
      · rcases Option.some.inj step with rfl
        cases lagging with
        | true => exact justified
        | false =>
            apply justified.setRound rfl rfl
            rintro round ⟨⟩
            trivial
      · cases step
  | query n rows =>
      simp only [Step, next] at step
      split at step
      · rename_i clock looked
        split at step
        · rename_i selects
          rcases Option.some.inj step with rfl
          apply justified.setRound rfl rfl
          rintro round ⟨⟩
          refine ⟨?_, by simp⟩
          rcases took with ⟨transition, member, rfl, label⟩
          exact fun row inside =>
            ⟨transition, member, n, clock, rows, label, inside, looked, selects.1 inside⟩
        · cases step
      · cases step
  | claim n arrives answered =>
      simp only [Step, next] at step
      split at step
      · rename_i clock row rows held found
        rcases Option.some.inj step with rfl
        rcases justified.rounds n _ found with ⟨queried, before⟩
        apply justified.setRound
        · split
          · exact setNx_rounds settings state row.messageId
          · rfl
        · split
          · exact setNx_published settings state row.messageId
          · rfl
        rintro round ⟨⟩
        refine ⟨fun other member => queried other (List.mem_cons_of_mem _ member), ?_⟩
        intro payload member
        have added : ∀ fresh : Bool,
            payload ∈ (if fresh then held ++ [smppPayloadPublicDict sanitize "processing" row]
              else held) →
            payload ∈ held ∨ payload = smppPayloadPublicDict sanitize "processing" row := by
          intro fresh inside
          cases fresh with
          | true => simpa using inside
          | false => exact Or.inl inside
        rcases added _ member with old | rfl
        · exact before payload old
        · exact ⟨row, queried row List.mem_cons_self, rfl⟩
      · cases step
  | publish n broker =>
      simp only [Step, next] at step
      split at step
      · rename_i clock payload held found
        rcases Option.some.inj step with rfl
        rcases justified.rounds n _ found with ⟨-, before⟩
        have published : Justified settings sanitize events { state with
            published := state.published ++
              (queueSmsBatchSmpp broker ((payload :: held).take 500)).2 } := by
          refine ⟨justified.rounds, ?_⟩
          intro other member
          rw [publishedPayloads_append, List.mem_append] at member
          rcases member with old | new
          · exact justified.published other old
          · exact before other (List.mem_of_mem_take ((published_sublist broker _).subset new))
        apply published.setRound rfl rfl
        rintro round ⟨⟩
        exact ⟨by simp, fun other member => before other (List.mem_of_mem_drop member)⟩
      · cases step
  | stop n =>
      rcases Option.some.inj step with rfl
      exact justified.setRound rfl rfl (by simp)

def lostRow : SmsLog where
  id := 1
  messageId := 7
  upstreamMessageId := none
  accountId := 1
  channelId := some 1
  batchId := some 1
  phoneNumber := "+41"
  countryCode := none
  senderId := none
  message := "m"
  messageCount := 1
  status := .pending
  costPrice := none
  sellingPrice := none
  currency := "USD"
  submitTime := some 0
  sentTime := none
  deliveryTime := none
  errorMessage := none
  refundedAt := none
  refundedBy := none
  refundedAmount := none

def lostPlatform : Platform fun _ => 0 where
  db :=
    { accounts := fun _ => none
      smsLogs := [lostRow]
      balanceLogs := []
      batches := fun _ => some ⟨1, 0, 0, 0, 1, 0, .processing, none, none⟩
      channels := fun _ => some ⟨1, .smpp, ""⟩ }
  isDeleted _ := false
  keeps := by simp [lostRow]

/-- In every run what is published is made of a row that a round of the inspector has read when it
was pending without a sent time, in a batch under way, on an SMPP channel, and neither too young nor
too old. -/
theorem redispatches_justified (run : Run (Step settings sanitize) (initial platform) events last) :
    ∀ payload ∈ publishedPayloads last.published,
      FromQuery settings sanitize events payload := by
  have kept : ∀ (before : Redispatch submitted) event after,
      Guarded (Step settings sanitize)
        (fun state event => ∃ transition ∈ events, transition.before = state ∧
          transition.label = event) before event after →
        before.Justified settings sanitize events → after.Justified settings sanitize events :=
    fun before event after step justified => justified.step step.1 step.2
  have first : (initial platform).Justified settings sanitize events := by
    constructor <;> simp [initial]
  exact ((run.guarded fun transition member => ⟨transition, member, rfl, rfl⟩).invariant kept
    first).1.published

/-- The message of a row that is stuck is published again. -/
theorem redispatches_justified_lost :
    ∃ events last, Run (Step ⟨5, 30⟩ id) (initial lostPlatform) events last ∧
      smppPayloadPublicDict id "processing" lostRow ∈ publishedPayloads last.published ∧
      FromQuery ⟨5, 30⟩ id events (smppPayloadPublicDict id "processing" lostRow) := by
  have executed : execute (next ⟨5, 30⟩ id) (initial lostPlatform)
      [.tick 400, .look 0 false, .query 0 [lostRow], .claim 0 true true,
        .publish 0 ⟨fun _ _ => false, false⟩] = some (_, _) := rfl
  have run : Run (Step ⟨5, 30⟩ id) (initial lostPlatform) _ _ := Run.of_execute executed
  exact ⟨_, _, run, List.mem_singleton_self _,
    redispatches_justified run _ (List.mem_singleton_self _)⟩

/-- In a run in which Redis keeps its keys and answers, and each claim is made within the redispatch
threshold of the time its round has read the clock, the rounds publish no message twice. -/
theorem redispatched_once (run : Run (Step settings sanitize) (initial platform) events last)
    (orderly : ∀ transition ∈ events, transition.before.Orderly settings transition.label) :
    ((publishedPayloads last.published).map SmppPayload.messageId).Nodup := by
  have kept : ∀ (before : Redispatch submitted) event after,
      Guarded (Step settings sanitize) (Orderly settings) before event after →
        before.Apart ∧ before.Timed settings → after.Apart ∧ after.Timed settings :=
    fun before event after step sound => apart_step sound.1 sound.2 step.2 step.1
  exact ((run.guarded orderly).invariant kept
    ⟨Apart.initial platform, Timed.initial platform⟩).1.1.nodup none

/-- Two rounds have read the row, and one of them publishes its message. -/
theorem redispatched_once_of_two :
    ∃ events last, Run (Step ⟨5, 30⟩ id) (initial lostPlatform) events last ∧
      (∃ transition ∈ events, transition.label = .query 0 [lostRow]) ∧
      (∃ transition ∈ events, transition.label = .query 1 [lostRow]) ∧
      publishedPayloads last.published = [smppPayloadPublicDict id "processing" lostRow] ∧
      ((publishedPayloads last.published).map SmppPayload.messageId).Nodup := by
  have executed : execute (next ⟨5, 30⟩ id) (initial lostPlatform)
      [.tick 400, .look 0 false, .look 1 false, .query 0 [lostRow], .query 1 [lostRow],
        .claim 0 true true, .claim 1 true true, .publish 0 ⟨fun _ _ => false, false⟩] =
      some (_, _) := rfl
  have run : Run (Step ⟨5, 30⟩ id) (initial lostPlatform) _ _ := Run.of_execute executed
  refine ⟨_, _, run, by simp, by simp, rfl, redispatched_once run ?_⟩
  intro transition member
  simp only [List.mem_cons, List.not_mem_nil, or_false] at member
  rcases member with rfl | rfl | rfl | rfl | rfl | rfl | rfl | rfl <;>
    trivial

end Redispatch

end Klsmsc
