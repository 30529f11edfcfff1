import Klsmsc.BatchAdmin
import Klsmsc.Gateway
import Klsmsc.SendTask.RowWriters

/-!
# The channel of a sent row

One row of a batch with its send tasks, its payloads for the gateway, the results
of its submissions, and any number of runs of `switch_channel_for_unsent`. A run
reads the row and prices it; its update goes by the id of the row, whatever has
become of the row since. A payload holds the channel that the row had when the
payload was made, and can be taken until it is acknowledged. `SendSMS` has no
connection for a payload without a channel.

The state also keeps the channels through which the message was handed over, and
the channel and prices that the row was last charged for.
-/

namespace Klsmsc

open Library

structure Pricing where
  channelId : Option ℕ
  costPrice : Option Money
  sellingPrice : Option Money
  deriving DecidableEq, Repr

def SmsLog.pricing (row : SmsLog) : Pricing :=
  ⟨row.channelId, row.costPrice, row.sellingPrice⟩

def Repriced.pricing (repriced : Repriced) (channel : Channel) : Pricing :=
  ⟨some channel.id, some repriced.newCost, some repriced.newSell⟩

def SmsLog.gatewayData (row : SmsLog) (batchStatus : Option BatchStatus) : SmsLogData :=
  ⟨row.channelId.getD 0, batchStatus, some (.known row.status)⟩

/-- The row, the payloads that are not acknowledged, where the gateway stands with
them, what each switch has computed, the channels that carried the message, and the
last charge. -/
structure SwitchState where
  send : SendState
  payloads : List SmsLogData
  gateways : ℕ → GatewayStage
  switches : ℕ → Option (Channel × Repriced)
  carriedBy : List ℕ
  charged : Pricing

inductive SwitchEvent where
  | send (label : SendLabel) (batchStatus : Option BatchStatus)
  | publish (batchStatus : Option BatchStatus)
  | gateway (run : ℕ) (event : GatewayEvent) (isBatchCancelled isAlreadySubmitted : Bool)
  | acknowledge (data : SmsLogData)
  | result (result : SmsResult) (now : ℕ)
  | others (row : SmsLog)
  | computeRepricing (run : ℕ) (channel : Channel)
  | update (run : ℕ)
  | giveUp (run : ℕ)
  deriving DecidableEq, Repr

def SendStage.carriedBy : SendStage → SendEvent → List ℕ
  | .claimed _ channel, .submit _ => if channel.protocol = .smpp then [] else [channel.id]
  | _, _ => []

def SendStage.reroutes (batchStatus : Option BatchStatus) : SendStage → SendEvent →
    List SmsLogData
  | .linked orm channel, .slot _ onSmppQueue =>
      if channel.protocol = .smpp ∧ onSmppQueue = false then
        let status := if orm.memory.status = .pending then .queued else orm.memory.status
        [{ orm.memory with status := status }.gatewayData batchStatus]
      else []
  | _, _ => []

def GatewayStage.carriedBy : GatewayStage → List ℕ
  | .handedOver data => if data.channelId = 0 then [] else [data.channelId]
  | _ => []

def GatewayEvent.isQueuedIn (payloads : List SmsLogData) : GatewayEvent → Bool
  | .take data => data ∈ payloads
  | _ => true

namespace SwitchState

def row (state : SwitchState) : SmsLog := state.send.row

def setRow (state : SwitchState) (row : SmsLog) : SwitchState :=
  { state with send := { state.send with row := row } }

def sendNext (state : SwitchState) (label : SendLabel) (batchStatus : Option BatchStatus) :
    Option SwitchState :=
  let stage := state.send.stages label.task
  (state.send.next label).map fun send =>
    { state with
      send := send
      payloads := state.payloads ++ stage.reroutes batchStatus label.event
      carriedBy := state.carriedBy ++ stage.carriedBy label.event }

def gatewayNext (state : SwitchState) (run : ℕ) (event : GatewayEvent)
    (isBatchCancelled isAlreadySubmitted : Bool) : Option SwitchState :=
  if event.isQueuedIn state.payloads then
    (gatewayTurn ⟨.known state.row.status, isBatchCancelled, isAlreadySubmitted⟩
      (state.gateways run) event).map fun stage =>
        { state with
          gateways := Function.update state.gateways run stage
          carriedBy := state.carriedBy ++ stage.carriedBy }
  else none

def computeRepricing (env : RepricingEnv) (state : SwitchState) (run : ℕ) (channel : Channel) :
    Option SwitchState :=
  if state.row.unsent then
    match repriceRow env channel state.row with
    | .error _ => none
    | .ok repriced =>
        some { state with
          switches := Function.update state.switches run (some (channel, repriced)) }
  else none

def update (state : SwitchState) (run : ℕ) : Option SwitchState :=
  (state.switches run).map fun plan =>
    { state.setRow (state.row.switched plan.1 plan.2) with
      switches := Function.update state.switches run none
      charged := plan.2.pricing plan.1 }

def next (env : RepricingEnv) (unicode : Unicode) (state : SwitchState) :
    SwitchEvent → Option SwitchState
  | .send label batchStatus => state.sendNext label batchStatus
  | .publish batchStatus =>
      some { state with payloads := state.payloads ++ [state.row.gatewayData batchStatus] }
  | .gateway run event isBatchCancelled isAlreadySubmitted =>
      state.gatewayNext run event isBatchCancelled isAlreadySubmitted
  | .acknowledge data => some { state with payloads := state.payloads.erase data }
  | .result result now => some (state.setRow (applySmsResultRow unicode now state.row result))
  | .others row => if row.pricing = state.row.pricing then some (state.setRow row) else none
  | .computeRepricing run channel => state.computeRepricing env run channel
  | .update run => state.update run
  | .giveUp run => some { state with switches := Function.update state.switches run none }

def start (row : SmsLog) : SwitchState where
  send := .start row
  payloads := []
  gateways _ := .waiting
  switches _ := none
  carriedBy := []
  charged := row.pricing

/-- The row names every channel that carried the message, and its prices are those of its
last charge. -/
def KeepsChannel (state : SwitchState) : Prop :=
  ∀ channelId ∈ state.carriedBy,
    state.row.channelId = some channelId ∧ state.row.pricing = state.charged

instance (state : SwitchState) : Decidable state.KeepsChannel :=
  inferInstanceAs (Decidable (∀ _ ∈ _, _ ∧ _))

end SwitchState

def SwitchStep (env : RepricingEnv) (unicode : Unicode) (before : SwitchState)
    (event : SwitchEvent) (after : SwitchState) : Prop :=
  before.next env unicode event = some after

def Orm.OnChannel (channelId : Option ℕ) (orm : Orm) : Prop :=
  orm.loaded.channelId = channelId ∧ orm.memory.channelId = channelId

def SendStage.OnChannel (channelId : Option ℕ) : SendStage → Prop
  | .waiting => True
  | .loaded orm => orm.OnChannel channelId
  | .licensed orm => orm.OnChannel channelId
  | .checked orm => orm.OnChannel channelId
  | .cleared orm => orm.OnChannel channelId
  | .routed orm channel => orm.OnChannel channelId ∧ channelId = some channel.id
  | .linked orm channel => orm.OnChannel channelId ∧ channelId = some channel.id
  | .ready orm channel => orm.OnChannel channelId ∧ channelId = some channel.id
  | .claimed orm channel => orm.OnChannel channelId ∧ channelId = some channel.id
  | .answered orm channel _ => orm.OnChannel channelId ∧ channelId = some channel.id
  | .failing orm => orm.OnChannel channelId
  | .done => True

def SmsLogData.OnChannel (channelId : Option ℕ) (data : SmsLogData) : Prop :=
  data.channelId = 0 ∨ channelId = some data.channelId

/-- Everything that may still hand the message over, or has done so, goes by the given
channel. -/
structure SwitchState.OnChannel (channelId : Option ℕ) (state : SwitchState) : Prop where
  stages : ∀ task, (state.send.stages task).OnChannel channelId
  payloads : ∀ data ∈ state.payloads, data.OnChannel channelId
  gateways : ∀ run data, (state.gateways run).data? = some data → data.OnChannel channelId
  carriedBy : ∀ carrier ∈ state.carriedBy, channelId = some carrier

/-- A send task finds the channel of its row, and a switch is committed only when nothing
holds the row on another channel: no send task, no payload, and no upstream. -/
def SwitchesApart (state : SwitchState) : SwitchEvent → Prop
  | .send label _ =>
      ∀ orm channel, state.send.stages label.task = .cleared orm →
        label.event = .route (some channel) → orm.memory.channelId = some channel.id
  | .update run =>
      ∀ plan, state.switches run = some plan → state.OnChannel (some plan.1.id)
  | _ => True

namespace Orm.OnChannel

variable {channelId : Option ℕ} {orm : Orm}

theorem assign (own : orm.OnChannel channelId) {update : SmsLog → SmsLog}
    (keeps : (update orm.memory).channelId = orm.memory.channelId) :
    (orm.assign update).OnChannel channelId :=
  ⟨own.1, keeps.trans own.2⟩

theorem committed (own : orm.OnChannel channelId) : orm.committed.OnChannel channelId :=
  ⟨own.2, own.2⟩

theorem flush (own : orm.OnChannel channelId) (row : SmsLog) :
    (orm.flush row).pricing = row.pricing := by
  simp [Orm.flush, SmsLog.pricing, own.1, own.2]

end Orm.OnChannel

section

variable {row : SmsLog} {stage next : SendStage} {event : SendEvent} {flushed : Option Orm}

theorem onChannel_checkStatus {orm : Orm} {channelId : Option ℕ} (own : orm.OnChannel channelId)
    (batchStatus : Option BatchStatus) :
    (checkStatus orm batchStatus).1.OnChannel channelId ∧
      ∀ flushed, (checkStatus orm batchStatus).2 = some flushed → flushed.OnChannel channelId := by
  unfold checkStatus
  split
  · refine ⟨trivial, ?_⟩
    rintro flushed ⟨⟩
    exact own.assign rfl
  · split
    · exact ⟨trivial, by simp⟩
    · split
      · exact ⟨own, by simp⟩
      · exact ⟨trivial, by simp⟩

theorem onChannel_settleAnswer {orm : Orm} {channelId : Option ℕ} (own : orm.OnChannel channelId)
    (answer : AdapterAnswer) :
    (settleAnswer orm answer).1.OnChannel channelId ∧
      ∀ flushed, (settleAnswer orm answer).2 = some flushed → flushed.OnChannel channelId := by
  cases answer <;> refine ⟨trivial, ?_⟩ <;> rintro flushed ⟨⟩ <;> exact own.assign rfl

theorem onChannel_sendTurn (turn : sendTurn row stage event = some (next, flushed))
    (own : stage.OnChannel row.channelId)
    (found : ∀ orm channel, stage = .cleared orm → event = .route (some channel) →
      orm.memory.channelId = some channel.id) :
    next.OnChannel row.channelId ∧
      ∀ orm, flushed = some orm → orm.OnChannel row.channelId := by
  unfold sendTurn at turn
  split at turn
  case h_1 =>
      cases turn
      exact ⟨⟨rfl, rfl⟩, by simp⟩
  case h_2 =>
      cases turn
      exact ⟨own, by simp⟩
  case h_3 =>
      cases turn
      refine ⟨trivial, ?_⟩
      rintro orm ⟨⟩
      exact Orm.OnChannel.assign own rfl
  case h_4 orm status =>
      have spec := onChannel_checkStatus own status
      rw [Option.some.inj turn] at spec
      exact spec
  case h_5 =>
      split at turn <;> cases turn
      · refine ⟨trivial, ?_⟩
        rintro orm ⟨⟩
        exact Orm.OnChannel.assign own rfl
      · exact ⟨own, by simp⟩
  case h_6 =>
      cases turn
      refine ⟨trivial, ?_⟩
      rintro orm ⟨⟩
      exact Orm.OnChannel.assign own rfl
  case h_7 orm channel =>
      cases turn
      have isFound := found orm channel rfl rfl
      exact ⟨⟨own.assign isFound.symm, own.2.symm.trans isFound⟩, by simp⟩
  case h_8 =>
      cases turn
      exact ⟨own, by simp⟩
  case h_9 orm channel message =>
      cases turn
      have replaced : (orm.assign fun row => { row with message := message }).OnChannel
          row.channelId := own.1.assign rfl
      refine ⟨⟨replaced.committed, own.2⟩, ?_⟩
      rintro orm ⟨⟩
      exact replaced
  case h_10 =>
      split at turn
      · cases turn
        refine ⟨trivial, ?_⟩
        intro orm isFlushed
        split at isFlushed <;> cases isFlushed
        exact own.1.assign rfl
      · split at turn <;> cases turn
        · exact ⟨trivial, by simp⟩
        · exact ⟨own, by simp⟩
  case h_11 orm channel now =>
      cases turn
      have sent : (orm.assign fun row =>
          { row with status := .sent, sentTime := some now }).OnChannel row.channelId :=
        own.1.assign rfl
      refine ⟨⟨sent.committed, own.2⟩, ?_⟩
      rintro orm ⟨⟩
      exact sent
  case h_12 =>
      split at turn <;> cases turn
      · exact ⟨trivial, by simp⟩
      · exact ⟨own, by simp⟩
  case h_13 orm channel answer =>
      have spec := onChannel_settleAnswer own.1 answer
      rw [Option.some.inj turn] at spec
      exact spec
  case h_14 =>
      cases turn
      exact ⟨⟨rfl, rfl⟩, by simp⟩
  case h_15 orm =>
      cases turn
      refine ⟨trivial, ?_⟩
      rintro orm ⟨⟩
      exact own
  case h_16 =>
      cases turn
      exact ⟨trivial, by simp⟩
  case h_17 => cases turn

theorem afterCommit_pricing
    (own : ∀ orm, flushed = some orm → orm.OnChannel row.channelId) :
    (row.afterCommit flushed).pricing = row.pricing := by
  cases flushed with
  | none => rfl
  | some orm => exact (own orm rfl).flush row

end

/-- What holds in every state as long as nothing holds the row on another channel when a
switch is committed. -/
structure SwitchInvariant (state : SwitchState) : Prop where
  own : state.OnChannel state.row.channelId
  charged : state.row.pricing = state.charged

theorem onChannel_gatewayData (row : SmsLog) (batchStatus : Option BatchStatus) :
    (row.gatewayData batchStatus).OnChannel row.channelId := by
  cases isChannel : row.channelId with
  | none => exact Or.inl (by simp [SmsLog.gatewayData, isChannel])
  | some channelId => exact Or.inr (by simp [SmsLog.gatewayData, isChannel])

theorem onChannel_reroutes {channelId : Option ℕ} {stage : SendStage} (own : stage.OnChannel channelId)
    {batchStatus : Option BatchStatus} {event : SendEvent} {data : SmsLogData}
    (member : data ∈ stage.reroutes batchStatus event) : data.OnChannel channelId := by
  unfold SendStage.reroutes at member
  split at member
  · split at member
    · simp only [List.mem_singleton] at member
      subst data
      rw [← own.1.2]
      exact onChannel_gatewayData _ _
    · simp at member
  · simp at member

theorem eq_of_mem_carriedBy {channelId : Option ℕ} {stage : SendStage} (own : stage.OnChannel channelId)
    {event : SendEvent} {carrier : ℕ} (member : carrier ∈ stage.carriedBy event) :
    channelId = some carrier := by
  unfold SendStage.carriedBy at member
  split at member
  · split at member
    · simp at member
    · simp only [List.mem_singleton] at member
      subst carrier
      exact own.2
  · simp at member

theorem eq_of_mem_handedOver {channelId : Option ℕ} {stage : GatewayStage}
    (own : ∀ data, stage.data? = some data → data.OnChannel channelId) {carrier : ℕ}
    (member : carrier ∈ stage.carriedBy) : channelId = some carrier := by
  unfold GatewayStage.carriedBy at member
  split at member
  case h_1 data =>
      split at member
      · simp at member
      · rename_i isChannel
        simp only [List.mem_singleton] at member
        subst carrier
        exact (own data rfl).resolve_left isChannel
  case h_2 => simp at member

namespace SwitchInvariant

variable {env : RepricingEnv} {unicode : Unicode} {before after : SwitchState}

theorem start (row : SmsLog) : SwitchInvariant (SwitchState.start row) where
  own :=
    { stages := fun _ => trivial
      payloads := by simp [SwitchState.start]
      gateways := by simp [SwitchState.start, GatewayStage.data?]
      carriedBy := by simp [SwitchState.start] }
  charged := rfl

theorem setRow (inv : SwitchInvariant before) {row : SmsLog}
    (keeps : row.pricing = before.row.pricing) : SwitchInvariant (before.setRow row) where
  own := by
    have same : row.channelId = before.row.channelId := congrArg Pricing.channelId keeps
    rcases inv.own with ⟨stages, payloads, gateways, carriedBy⟩
    rw [← same] at stages payloads gateways carriedBy
    exact ⟨stages, payloads, gateways, carriedBy⟩
  charged := keeps.trans inv.charged

theorem sendNext (inv : SwitchInvariant before) {label : SendLabel}
    {batchStatus : Option BatchStatus} (step : before.sendNext label batchStatus = some after)
    (found : SwitchesApart before (.send label batchStatus)) : SwitchInvariant after := by
  rcases Option.map_eq_some_iff.mp step with ⟨send, moved, rfl⟩
  rcases Option.map_eq_some_iff.mp moved with ⟨⟨stage, flushed⟩, turn, rfl⟩
  have own := inv.own.stages label.task
  rcases onChannel_sendTurn turn own (fun orm channel => found orm channel) with
    ⟨ownNext, ownFlushed⟩
  have keeps : (before.row.afterCommit flushed).pricing = before.row.pricing :=
    afterCommit_pricing ownFlushed
  have same : (before.row.afterCommit flushed).channelId = before.row.channelId :=
    congrArg Pricing.channelId keeps
  refine ⟨?_, keeps.trans inv.charged⟩
  simp only [SwitchState.row] at same ⊢
  rw [same]
  constructor
  · intro task
    by_cases isTask : task = label.task
    · subst task
      simpa using ownNext
    · simp only
      rw [Function.update_of_ne isTask]
      exact inv.own.stages task
  · intro data member
    rcases List.mem_append.mp member with old | new
    · exact inv.own.payloads data old
    · exact onChannel_reroutes own new
  · exact inv.own.gateways
  · intro carrier member
    rcases List.mem_append.mp member with old | new
    · exact inv.own.carriedBy carrier old
    · exact eq_of_mem_carriedBy own new

theorem gatewayNext (inv : SwitchInvariant before) {run : ℕ} {event : GatewayEvent}
    {isBatchCancelled isAlreadySubmitted : Bool}
    (step : before.gatewayNext run event isBatchCancelled isAlreadySubmitted = some after) :
    SwitchInvariant after := by
  unfold SwitchState.gatewayNext at step
  split at step
  · rename_i isQueued
    rcases Option.map_eq_some_iff.mp step with ⟨stage, turn, rfl⟩
    have own : ∀ data, stage.data? = some data → data.OnChannel before.row.channelId := by
      intro data carries
      rcases data?_of_gatewayTurn turn carries with rfl | old
      · exact inv.own.payloads data (of_decide_eq_true isQueued)
      · exact inv.own.gateways run data old
    refine ⟨⟨inv.own.stages, inv.own.payloads, ?_, ?_⟩, inv.charged⟩
    · intro other data
      simp only
      by_cases same : other = run
      · subst other
        rw [Function.update_self]
        exact own data
      · rw [Function.update_of_ne same]
        exact inv.own.gateways other data
    · intro carrier member
      rcases List.mem_append.mp member with old | new
      · exact inv.own.carriedBy carrier old
      · exact eq_of_mem_handedOver own new
  · cases step

theorem computeRepricing (inv : SwitchInvariant before) {run : ℕ} {channel : Channel}
    (step : before.computeRepricing env run channel = some after) : SwitchInvariant after := by
  unfold SwitchState.computeRepricing at step
  split at step
  · split at step
    · cases step
    · cases step
      exact ⟨⟨inv.own.stages, inv.own.payloads, inv.own.gateways, inv.own.carriedBy⟩,
        inv.charged⟩
  · cases step

theorem update {run : ℕ} (step : before.update run = some after)
    (apart : SwitchesApart before (.update run)) : SwitchInvariant after := by
  rcases Option.map_eq_some_iff.mp step with ⟨plan, planned, rfl⟩
  have own := apart plan planned
  exact ⟨⟨own.stages, own.payloads, own.gateways, own.carriedBy⟩, rfl⟩

theorem step (inv : SwitchInvariant before) {event : SwitchEvent}
    (step : SwitchStep env unicode before event after) (apart : SwitchesApart before event) :
    SwitchInvariant after := by
  cases event with
  | send label batchStatus => exact inv.sendNext step apart
  | publish batchStatus =>
      cases step
      refine ⟨⟨inv.own.stages, ?_, inv.own.gateways, inv.own.carriedBy⟩, inv.charged⟩
      intro data member
      rcases List.mem_append.mp member with old | new
      · exact inv.own.payloads data old
      · rw [List.mem_singleton.mp new]
        exact onChannel_gatewayData _ _
  | gateway run event isBatchCancelled isAlreadySubmitted => exact inv.gatewayNext step
  | acknowledge data =>
      cases step
      refine ⟨⟨inv.own.stages, ?_, inv.own.gateways, inv.own.carriedBy⟩, inv.charged⟩
      intro other member
      exact inv.own.payloads other (List.mem_of_mem_erase member)
  | result result now =>
      cases step
      exact inv.setRow rfl
  | others row =>
      simp only [SwitchStep, SwitchState.next] at step
      split at step
      · rename_i keeps
        cases step
        exact inv.setRow keeps
      · cases step
  | computeRepricing run channel => exact inv.computeRepricing step
  | update run => exact update step apart
  | giveUp run =>
      cases step
      exact ⟨⟨inv.own.stages, inv.own.payloads, inv.own.gateways, inv.own.carriedBy⟩,
        inv.charged⟩

theorem kept (inv : SwitchInvariant before) : before.KeepsChannel :=
  fun carrier member => ⟨inv.own.carriedBy carrier member, inv.charged⟩

end SwitchInvariant

/-- As long as every send task finds the channel of its row, and no switch is committed while
a send task, a payload or an upstream holds the message on another channel, a row names the
channel that carried its message and carries the prices of its charge for it. -/
theorem keepsChannel {env : RepricingEnv} {unicode : Unicode} {row : SmsLog}
    {transitions : List (Transition SwitchState SwitchEvent)} {last : SwitchState}
    (run : Run (SwitchStep env unicode) (SwitchState.start row) transitions last)
    (apart : ∀ transition ∈ transitions, SwitchesApart transition.before transition.label) :
    last.KeepsChannel ∧ ∀ transition ∈ transitions, transition.after.KeepsChannel := by
  have preserved : ∀ before label after,
      Guarded (SwitchStep env unicode) SwitchesApart before label after →
        SwitchInvariant before → SwitchInvariant after :=
    fun _ _ _ guarded inv => inv.step guarded.1 guarded.2
  rcases (run.guarded apart).invariant preserved (.start row) with ⟨atEnd, inside⟩
  exact ⟨atEnd.kept, fun transition member => (inside transition member).2.kept⟩

def flatEnv : RepricingEnv where
  countSmsParts := fun _ => 1
  getPrice := fun _ _ _ => some 50
  resolveBaseCostPerSms := fun _ _ => 10
  validateChannelForCountry := fun id _ => .ok ⟨id, .smpp, ""⟩

def unsentSmsLog : SmsLog :=
  { submittedSmsLog with status := .queued, batchId := some 1, channelId := some 3 }

def switchesTo (channel : Channel) : List SwitchEvent :=
  [.computeRepricing 0 channel, .update 0]

/-- The payload of channel 3 is in the queue when the row is switched to channel 4, and the
gateway submits it. -/
theorem keepsChannel_fails :
    ∃ transitions last,
      Run (SwitchStep flatEnv Unicode.ascii) (SwitchState.start unsentSmsLog) transitions last ∧
        last.carriedBy = [3] ∧ last.row.channelId = some 4 ∧ ¬ last.KeepsChannel := by
  have passed : (execute (SwitchState.next flatEnv Unicode.ascii) (SwitchState.start unsentSmsLog)
      (.publish (some .processing) :: switchesTo ⟨4, .smpp, ""⟩ ++
        [.take ⟨3, some .processing, some (.known .queued)⟩, .checkSnapshot true,
          .lookupCurrentStatus true, .sendSms true].map (.gateway 0 · false false))).any
      (fun outcome =>
        decide (outcome.2.carriedBy = [3]) && decide (outcome.2.row.channelId = some 4) &&
          decide (¬ outcome.2.KeepsChannel)) = true := by decide
  rcases Run.exists_of_execute _ passed with ⟨transitions, last, run, checked⟩
  simp only [Bool.and_eq_true, decide_eq_true_eq] at checked
  exact ⟨transitions, last, run, checked.1.1, checked.1.2, checked.2⟩

/-- A row is switched to channel 4 before anybody holds it, and then sent. -/
theorem keepsChannel_switchedFirst :
    ∃ transitions last,
      Run (SwitchStep flatEnv Unicode.ascii) (SwitchState.start unsentSmsLog) transitions last ∧
        last.carriedBy = [4] ∧ last.KeepsChannel := by
  have run : Run (SwitchStep flatEnv Unicode.ascii) (SwitchState.start unsentSmsLog)
      [⟨_, .computeRepricing 0 ⟨4, .http, ""⟩, _⟩, ⟨_, .update 0, _⟩,
        ⟨_, .send ⟨0, .load⟩ none, _⟩, ⟨_, .send ⟨0, .license none⟩ none, _⟩,
        ⟨_, .send ⟨0, .batch (some .processing)⟩ none, _⟩,
        ⟨_, .send ⟨0, .blacklist false⟩ none, _⟩,
        ⟨_, .send ⟨0, .route (some ⟨4, .http, ""⟩)⟩ none, _⟩,
        ⟨_, .send ⟨0, .shortLink none⟩ none, _⟩, ⟨_, .send ⟨0, .slot true false⟩ none, _⟩,
        ⟨_, .send ⟨0, .claim 7⟩ none, _⟩, ⟨_, .send ⟨0, .submit (.success none)⟩ none, _⟩] _ :=
    .cons rfl (.cons rfl (.cons rfl (.cons rfl (.cons rfl (.cons rfl (.cons rfl (.cons rfl
      (.cons rfl (.cons rfl (.cons rfl (.nil _)))))))))))
  refine ⟨_, _, run, rfl, (keepsChannel run ?_).1⟩
  intro transition member
  simp only [List.mem_cons, List.not_mem_nil, or_false] at member
  rcases member with rfl | rfl | rfl | rfl | rfl | rfl | rfl | rfl | rfl | rfl | rfl
  case inr.inl =>
    rintro plan ⟨⟩
    exact ⟨fun _ => trivial, nofun, nofun, nofun⟩
  case inl => trivial
  all_goals
    rintro orm channel isCleared isRoute
    cases isRoute
  cases isCleared
  rfl

end Klsmsc
