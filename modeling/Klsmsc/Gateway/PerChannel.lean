import Klsmsc.Library.Runs
import Mathlib.Logic.Function.Basic

/-!
# The supervisor of the per-channel consumers

`pcSupervisor` keeps one consumer for each active channel. The map `running` holds
the cancel function of the consumer of a channel; here it holds the number of the
`runChannel` that the function cancels. `ensureConn`, `syncOnce`, `stopAll` and `drop`
each hold the mutex of the supervisor and are single steps. A `runChannel` opens its
AMQP channel, consumes, drains its work once the deliveries end, for however long that
takes, and drops the key of its channel when it returns.
-/

namespace Klsmsc

open Library

/-- Where a `runChannel` stands. -/
inductive RunStage where
  | starting
  | consuming
  | draining
  | exited
  deriving DecidableEq, Repr

/-- A `runChannel`, with the number of its connection. -/
structure ChannelRun where
  channelId : ℕ
  conn : ℕ
  isCancelled : Bool
  stage : RunStage
  deriving DecidableEq, Repr

/-- The supervisor with its connections and consumers. The last field says that the context
of the gateway is done. -/
structure PcSupervisor where
  conn : Option ℕ
  dialled : ℕ
  isClosed : ℕ → Bool
  running : ℕ → Option ℕ
  count : ℕ
  runs : ℕ → ChannelRun
  isDone : Bool

inductive PcLabel where
  | ensureConn (dials : Bool)
  | syncOnce (configs : List ℕ)
  | stopAll
  | closeConn (conn : ℕ)
  | shutdown
  | start (run : ℕ) (succeeds : Bool)
  | endDeliveries (run : ℕ)
  | exit (run : ℕ)
  deriving DecidableEq, Repr

namespace PcSupervisor

/-- `StartPerChannelSupervisor`. -/
def initial : PcSupervisor where
  conn := none
  dialled := 0
  isClosed _ := false
  running _ := none
  count := 0
  runs _ := ⟨0, 0, false, .exited⟩
  isDone := false

/-- `s.conn != nil && !s.conn.IsClosed()`. -/
def isConnected (state : PcSupervisor) : Bool :=
  state.conn.any fun conn => !state.isClosed conn

/-- `ensureConn`. A new connection forgets the consumers of the old one. -/
def ensureConn (state : PcSupervisor) (dials : Bool) : PcSupervisor :=
  if state.isConnected || !dials then state
  else
    { state with
      conn := some state.dialled
      dialled := state.dialled + 1
      isClosed := Function.update state.isClosed state.dialled false
      running := fun _ => none }

/-- A `runChannel` is spawned and its cancel function is stored. -/
def spawn (conn : ℕ) (state : PcSupervisor) (channelId : ℕ) : PcSupervisor :=
  { state with
    running := Function.update state.running channelId (some state.count)
    count := state.count + 1
    runs := Function.update state.runs state.count ⟨channelId, conn, state.isDone, .starting⟩ }

/-- The consumer of a channel is started unless `running` has one. -/
def startRun (conn : ℕ) (state : PcSupervisor) (channelId : ℕ) : PcSupervisor :=
  if state.running channelId = none then spawn conn state channelId else state

def cancelRuns (state : PcSupervisor) (channels : ℕ → Bool) : PcSupervisor :=
  { state with
    running := fun channelId => if channels channelId then none else state.running channelId
    runs := fun index =>
      let run := state.runs index
      if channels run.channelId && state.running run.channelId = some index then
        { run with isCancelled := true }
      else run }

/-- `syncOnce`, for the channels that the database lists. -/
def syncOnce (state : PcSupervisor) (configs : List ℕ) : PcSupervisor :=
  match state.conn with
  | none => state
  | some conn =>
      if state.isClosed conn then state
      else
        let want := configs.filter (0 < ·)
        (want.foldl (startRun conn) state).cancelRuns fun channelId => !want.contains channelId

/-- `stopAll`. -/
def stopAll (state : PcSupervisor) : PcSupervisor :=
  state.cancelRuns fun _ => true

/-- A `runChannel` goes on. -/
def setStage (state : PcSupervisor) (index : ℕ) (stage : RunStage) : PcSupervisor :=
  { state with
    runs := Function.update state.runs index { state.runs index with stage := stage } }

/-- `drop`. -/
def drop (state : PcSupervisor) (channelId : ℕ) : PcSupervisor :=
  { state with running := Function.update state.running channelId none }

/-- One step. A consumer cannot start on a closed connection; its deliveries end when it is
cancelled, when the connection breaks, or when the broker closes its channel. -/
def next (state : PcSupervisor) : PcLabel → Option PcSupervisor
  | .ensureConn dials => some (state.ensureConn dials)
  | .syncOnce configs => some (state.syncOnce configs)
  | .stopAll => some state.stopAll
  | .closeConn conn => some { state with isClosed := Function.update state.isClosed conn true }
  | .shutdown =>
      some
        { state with
          isDone := true
          runs := fun index => { state.runs index with isCancelled := true } }
  | .start index succeeds =>
      if (state.runs index).stage = .starting then
        some (state.setStage index
          (if succeeds && !state.isClosed (state.runs index).conn then .consuming else .draining))
      else none
  | .endDeliveries index =>
      if (state.runs index).stage = .consuming then some (state.setStage index .draining)
      else none
  | .exit index =>
      if (state.runs index).stage = .draining then
        some ((state.setStage index .exited).drop (state.runs index).channelId)
      else none

/-- The `runChannel` has not returned, and its connection is open. -/
def IsOpen (state : PcSupervisor) (index : ℕ) : Prop :=
  (state.runs index).stage ≠ .exited ∧ state.isClosed (state.runs index).conn = false

instance (state : PcSupervisor) (index : ℕ) : Decidable (state.IsOpen index) :=
  inferInstanceAs (Decidable (_ ∧ _))

/-- The stored cancel function of the channel is that of the `runChannel`. -/
def IsStored (state : PcSupervisor) (index : ℕ) : Prop :=
  state.running (state.runs index).channelId = some index

instance (state : PcSupervisor) (index : ℕ) : Decidable (state.IsStored index) :=
  inferInstanceAs (Decidable (_ = _))

/-- A channel has at most one `runChannel` on an open connection, and each of them has been
cancelled or can be. -/
structure OneConsumer (state : PcSupervisor) : Prop where
  unique : ∀ first second, state.IsOpen first → state.IsOpen second →
    (state.runs first).channelId = (state.runs second).channelId → first = second
  stored : ∀ index, state.IsOpen index →
    state.IsStored index ∨ (state.runs index).isCancelled = true

/-- No `drop` deletes the key of another `runChannel` on an open connection, and no consumer
is started for a channel while an earlier one is still on an open connection. -/
def OwnKeys (state : PcSupervisor) : PcLabel → Prop
  | .exit index =>
      ∀ other, state.running (state.runs index).channelId = some other → state.IsOpen other →
        other = index
  | .syncOnce configs =>
      state.isConnected = true → ∀ channelId ∈ configs, 0 < channelId →
        state.running channelId = none →
          ∀ index, state.IsOpen index → (state.runs index).channelId ≠ channelId
  | _ => True

section

variable {conn : ℕ} {state : PcSupervisor} {channelId index : ℕ}

@[simp]
theorem runs_spawn_self :
    (spawn conn state channelId).runs state.count =
      ⟨channelId, conn, state.isDone, .starting⟩ := by
  simp [spawn]

theorem runs_spawn_of_ne (differs : index ≠ state.count) :
    (spawn conn state channelId).runs index = state.runs index := by
  simp [spawn, differs]

end

structure Supervised (state : PcSupervisor) : Prop where
  one : state.OneConsumer
  keyed : ∀ channelId index, state.running channelId = some index →
    index < state.count ∧ (state.runs index).channelId = channelId
  fresh : ∀ index, state.count ≤ index → (state.runs index).stage = .exited
  current : ∀ index, state.IsOpen index → state.conn = some (state.runs index).conn
  dialled : ∀ index, (state.runs index).stage ≠ .exited →
    (state.runs index).conn < state.dialled
  conn : ∀ conn, state.conn = some conn → conn < state.dialled

namespace Supervised

variable {state : PcSupervisor}

theorem initial : Supervised initial where
  one := ⟨fun first _ isOpen => absurd rfl isOpen.1, fun index isOpen => absurd rfl isOpen.1⟩
  keyed := fun _ _ stored => by cases stored
  fresh := fun _ _ => rfl
  current := fun index isOpen => absurd rfl isOpen.1
  dialled := fun index live => absurd rfl live
  conn := fun _ some => by cases some

theorem not_isOpen (inv : Supervised state) (lost : state.isConnected = false) (index : ℕ) :
    ¬state.IsOpen index := by
  intro isOpen
  rw [isConnected, inv.current index isOpen] at lost
  simp [isOpen.2] at lost

theorem ensureConn (inv : Supervised state) (dials : Bool) :
    Supervised (state.ensureConn dials) := by
  unfold PcSupervisor.ensureConn
  split
  · exact inv
  · rename_i reconnects
    simp only [Bool.or_eq_true, not_or, Bool.not_eq_true] at reconnects
    have closed : ∀ index, (state.runs index).stage ≠ .exited →
        (Function.update state.isClosed state.dialled false) (state.runs index).conn = true := by
      intro index live
      rw [Function.update_of_ne (Nat.ne_of_lt (inv.dialled index live))]
      by_contra open_
      exact inv.not_isOpen reconnects.1 index ⟨live, by simpa using open_⟩
    constructor
    · constructor
      · intro first second isOpen
        exact absurd (closed first isOpen.1) (by simpa using isOpen.2)
      · intro index isOpen
        exact absurd (closed index isOpen.1) (by simpa using isOpen.2)
    · intro channelId index stored
      cases stored
    · exact inv.fresh
    · intro index isOpen
      exact absurd (closed index isOpen.1) (by simpa using isOpen.2)
    · intro index live
      exact Nat.lt_succ_of_lt (inv.dialled index live)
    · intro conn isCurrent
      cases isCurrent
      exact Nat.lt_succ_self _

theorem spawn (inv : Supervised state) {conn channelId : ℕ} (isCurrent : state.conn = some conn)
    (unserved : ∀ index, state.IsOpen index → (state.runs index).channelId ≠ channelId) :
    Supervised (spawn conn state channelId) := by
  have cases_open : ∀ index, (PcSupervisor.spawn conn state channelId).IsOpen index →
      index = state.count ∨ index ≠ state.count ∧ state.IsOpen index := by
    intro index isOpen
    by_cases new : index = state.count
    · exact Or.inl new
    · simp only [IsOpen, runs_spawn_of_ne new] at isOpen
      exact Or.inr ⟨new, isOpen⟩
  constructor
  · constructor
    · intro first second openFirst openSecond same
      rcases cases_open first openFirst with rfl | ⟨oldFirst, wasFirst⟩ <;>
        rcases cases_open second openSecond with rfl | ⟨oldSecond, wasSecond⟩
      · rfl
      · rw [runs_spawn_self, runs_spawn_of_ne oldSecond] at same
        exact absurd same.symm (unserved second wasSecond)
      · rw [runs_spawn_self, runs_spawn_of_ne oldFirst] at same
        exact absurd same (unserved first wasFirst)
      · rw [runs_spawn_of_ne oldFirst, runs_spawn_of_ne oldSecond] at same
        exact inv.one.unique first second wasFirst wasSecond same
    · intro index isOpen
      rcases cases_open index isOpen with rfl | ⟨old, was⟩
      · left
        simp [IsStored, PcSupervisor.spawn]
      · rw [IsStored, runs_spawn_of_ne old]
        rcases inv.one.stored index was with stored | cancelled
        · left
          simp only [PcSupervisor.spawn]
          rw [Function.update_of_ne (unserved index was)]
          exact stored
        · exact Or.inr cancelled
  · intro other index stored
    simp only [PcSupervisor.spawn, Function.update_apply] at stored
    split at stored
    · rename_i isNew
      cases stored
      exact ⟨Nat.lt_succ_self _, by rw [runs_spawn_self, isNew]⟩
    · rcases inv.keyed other index stored with ⟨inside, keyed⟩
      refine ⟨Nat.lt_succ_of_lt inside, ?_⟩
      rw [runs_spawn_of_ne (Nat.ne_of_lt inside)]
      exact keyed
  · intro index outside
    have outside : state.count < index := outside
    rw [runs_spawn_of_ne (Nat.ne_of_gt outside)]
    exact inv.fresh index (Nat.le_of_lt outside)
  · intro index isOpen
    rcases cases_open index isOpen with rfl | ⟨old, was⟩
    · rw [runs_spawn_self]
      exact isCurrent
    · rw [runs_spawn_of_ne old]
      exact inv.current index was
  · intro index live
    by_cases new : index = state.count
    · subst index
      rw [runs_spawn_self]
      exact inv.conn conn isCurrent
    · rw [runs_spawn_of_ne new] at live ⊢
      exact inv.dialled index live
  · exact inv.conn

theorem startAll (inv : Supervised state) {conn : ℕ} (isCurrent : state.conn = some conn)
    {want : List ℕ} (unserved : ∀ channelId ∈ want, state.running channelId = none →
      ∀ index, state.IsOpen index → (state.runs index).channelId ≠ channelId) :
    Supervised (want.foldl (startRun conn) state) := by
  induction want generalizing state with
  | nil => exact inv
  | cons channelId rest ih =>
      by_cases absent : state.running channelId = none
      · have started : startRun conn state channelId = PcSupervisor.spawn conn state channelId :=
          if_pos absent
        rw [List.foldl_cons, started]
        refine ih (inv.spawn isCurrent (unserved channelId List.mem_cons_self absent))
          isCurrent ?_
        intro other member unstored index isOpen
        have differs : other ≠ channelId := by
          rintro rfl
          simp [PcSupervisor.spawn] at unstored
        have unstoredBefore : state.running other = none := by
          simpa [PcSupervisor.spawn, Function.update_of_ne differs] using unstored
        by_cases new : index = state.count
        · subst index
          rw [runs_spawn_self]
          exact differs.symm
        · simp only [IsOpen, runs_spawn_of_ne new] at isOpen ⊢
          exact unserved other (List.mem_cons_of_mem _ member) unstoredBefore index isOpen
      · have kept : startRun conn state channelId = state := if_neg absent
        rw [List.foldl_cons, kept]
        exact ih inv isCurrent fun other member =>
          unserved other (List.mem_cons_of_mem _ member)

theorem cancelRuns (inv : Supervised state) (channels : ℕ → Bool) :
    Supervised (state.cancelRuns channels) := by
  have same : ∀ index, ((state.cancelRuns channels).runs index).channelId =
      (state.runs index).channelId ∧
      ((state.cancelRuns channels).runs index).conn = (state.runs index).conn ∧
      ((state.cancelRuns channels).runs index).stage = (state.runs index).stage := by
    intro index
    simp only [PcSupervisor.cancelRuns]
    split <;> exact ⟨rfl, rfl, rfl⟩
  have opened : ∀ index, (state.cancelRuns channels).IsOpen index → state.IsOpen index := by
    intro index isOpen
    rw [IsOpen, (same index).2.1, (same index).2.2] at isOpen
    exact isOpen
  constructor
  · constructor
    · intro first second openFirst openSecond equal
      rw [(same first).1, (same second).1] at equal
      exact inv.one.unique first second (opened first openFirst) (opened second openSecond) equal
    · intro index isOpen
      rw [IsStored, (same index).1]
      rcases inv.one.stored index (opened index isOpen) with stored | cancelled
      · have isStored : state.running (state.runs index).channelId = some index := stored
        by_cases hit : channels (state.runs index).channelId = true
        · right
          simp [PcSupervisor.cancelRuns, hit, isStored]
        · left
          simp [PcSupervisor.cancelRuns, hit, isStored]
      · right
        simp only [PcSupervisor.cancelRuns]
        split
        · rfl
        · exact cancelled
  · intro channelId index stored
    rw [(same index).1]
    simp only [PcSupervisor.cancelRuns] at stored
    split at stored
    · cases stored
    · exact inv.keyed channelId index stored
  · intro index outside
    rw [(same index).2.2]
    exact inv.fresh index outside
  · intro index isOpen
    rw [(same index).2.1]
    exact inv.current index (opened index isOpen)
  · intro index live
    rw [(same index).2.2] at live
    rw [(same index).2.1]
    exact inv.dialled index live
  · exact inv.conn

theorem syncOnce (inv : Supervised state) {configs : List ℕ}
    (own : state.OwnKeys (.syncOnce configs)) : Supervised (state.syncOnce configs) := by
  unfold PcSupervisor.syncOnce
  split
  · exact inv
  · rename_i conn isCurrent
    split
    · exact inv
    · rename_i open_
      have connected : state.isConnected = true := by
        simp [isConnected, isCurrent, open_]
      refine (inv.startAll isCurrent ?_).cancelRuns _
      intro channelId member absent
      rcases List.mem_filter.mp member with ⟨listed, positive⟩
      exact own connected channelId listed (of_decide_eq_true positive) absent

theorem closeConn (inv : Supervised state) (conn : ℕ) :
    Supervised { state with isClosed := Function.update state.isClosed conn true } := by
  have opened : ∀ index,
      PcSupervisor.IsOpen { state with isClosed := Function.update state.isClosed conn true }
        index → state.IsOpen index := by
    intro index isOpen
    refine ⟨isOpen.1, ?_⟩
    have stillOpen := isOpen.2
    simp only [Function.update_apply] at stillOpen
    split at stillOpen
    · cases stillOpen
    · exact stillOpen
  constructor
  · constructor
    · intro first second openFirst openSecond same
      exact inv.one.unique first second (opened first openFirst) (opened second openSecond) same
    · intro index isOpen
      exact inv.one.stored index (opened index isOpen)
  · exact inv.keyed
  · exact inv.fresh
  · intro index isOpen
    exact inv.current index (opened index isOpen)
  · exact inv.dialled
  · exact inv.conn

theorem shutdown (inv : Supervised state) :
    Supervised
      { state with
        isDone := true
        runs := fun index => { state.runs index with isCancelled := true } } where
  one := ⟨inv.one.unique, fun _ _ => Or.inr rfl⟩
  keyed := inv.keyed
  fresh := inv.fresh
  current := inv.current
  dialled := inv.dialled
  conn := inv.conn

section

variable {index : ℕ} {stage : RunStage}

theorem runs_setStage (other : ℕ) :
    ((state.setStage index stage).runs other).channelId = (state.runs other).channelId ∧
      ((state.setStage index stage).runs other).conn = (state.runs other).conn ∧
      ((state.setStage index stage).runs other).isCancelled =
        (state.runs other).isCancelled := by
  by_cases same : other = index
  · subst other
    simp [PcSupervisor.setStage]
  · simp [PcSupervisor.setStage, same]

theorem stage_setStage (other : ℕ) :
    ((state.setStage index stage).runs other).stage =
      if other = index then stage else (state.runs other).stage := by
  by_cases same : other = index
  · subst other
    simp [PcSupervisor.setStage]
  · simp [PcSupervisor.setStage, same]

theorem setStage (inv : Supervised state) (live : (state.runs index).stage ≠ .exited) :
    Supervised (state.setStage index stage) := by
  have wasLive : ∀ other, ((state.setStage index stage).runs other).stage ≠ .exited →
      (state.runs other).stage ≠ .exited := by
    intro other stays
    rw [stage_setStage] at stays
    split at stays
    · rename_i same
      rw [same]
      exact live
    · exact stays
  have opened : ∀ other, (state.setStage index stage).IsOpen other → state.IsOpen other := by
    intro other isOpen
    refine ⟨wasLive other isOpen.1, ?_⟩
    rw [← (@runs_setStage state index stage other).2.1]
    exact isOpen.2
  constructor
  · constructor
    · intro first second openFirst openSecond same
      rw [(runs_setStage first).1, (runs_setStage second).1] at same
      exact inv.one.unique first second (opened first openFirst) (opened second openSecond) same
    · intro other isOpen
      rw [IsStored, (runs_setStage other).1, (runs_setStage other).2.2]
      exact inv.one.stored other (opened other isOpen)
  · intro channelId other stored
    rw [(runs_setStage other).1]
    exact inv.keyed channelId other stored
  · intro other outside
    rw [stage_setStage]
    split
    · rename_i same
      subst other
      exact absurd (inv.fresh index outside) live
    · exact inv.fresh other outside
  · intro other isOpen
    rw [(runs_setStage other).2.1]
    exact inv.current other (opened other isOpen)
  · intro other stays
    rw [(runs_setStage other).2.1]
    exact inv.dialled other (wasLive other stays)
  · exact inv.conn

theorem drop (inv : Supervised state) {channelId : ℕ}
    (unneeded : ∀ other, state.running channelId = some other → ¬state.IsOpen other) :
    Supervised (state.drop channelId) where
  one := by
    refine ⟨inv.one.unique, ?_⟩
    intro other isOpen
    rcases inv.one.stored other isOpen with stored | cancelled
    · left
      have isStored : state.running (state.runs other).channelId = some other := stored
      have differs : (state.runs other).channelId ≠ channelId := by
        intro same
        rw [same] at isStored
        exact unneeded other isStored isOpen
      simp only [IsStored, PcSupervisor.drop, Function.update_of_ne differs]
      exact isStored
    · exact Or.inr cancelled
  keyed := by
    intro other index stored
    simp only [PcSupervisor.drop, Function.update_apply] at stored
    split at stored
    · cases stored
    · exact inv.keyed other index stored
  fresh := inv.fresh
  current := inv.current
  dialled := inv.dialled
  conn := inv.conn

end

theorem next {after : PcSupervisor} {label : PcLabel} (inv : Supervised state)
    (step : state.next label = some after) (own : state.OwnKeys label) : Supervised after := by
  cases label with
  | ensureConn dials =>
      cases step
      exact inv.ensureConn dials
  | syncOnce configs =>
      cases step
      exact inv.syncOnce own
  | stopAll =>
      cases step
      exact inv.cancelRuns _
  | closeConn conn =>
      cases step
      exact inv.closeConn conn
  | shutdown =>
      cases step
      exact inv.shutdown
  | start index succeeds =>
      simp only [PcSupervisor.next, Option.ite_none_right_eq_some, Option.some.injEq] at step
      rcases step with ⟨starting, rfl⟩
      exact inv.setStage (by simp [starting])
  | endDeliveries index =>
      simp only [PcSupervisor.next, Option.ite_none_right_eq_some, Option.some.injEq] at step
      rcases step with ⟨consuming, rfl⟩
      exact inv.setStage (by simp [consuming])
  | exit index =>
      simp only [PcSupervisor.next, Option.ite_none_right_eq_some, Option.some.injEq] at step
      rcases step with ⟨draining, rfl⟩
      refine (inv.setStage (by simp [draining])).drop ?_
      intro other stored isOpen
      have differs : other ≠ index := by
        rintro rfl
        exact isOpen.1 (by simp [stage_setStage])
      refine differs (own other stored ⟨?_, ?_⟩)
      · have live := isOpen.1
        rw [stage_setStage, if_neg differs] at live
        exact live
      · rw [← (@runs_setStage state index .exited other).2.1]
        exact isOpen.2

end Supervised

def Step (before : PcSupervisor) (label : PcLabel) (after : PcSupervisor) : Prop :=
  before.next label = some after

def reconnect : List PcLabel :=
  [.ensureConn true, .syncOnce [7], .start 0 true, .closeConn 0, .endDeliveries 0,
    .ensureConn true, .syncOnce [7], .start 1 true]

end PcSupervisor

end Klsmsc
