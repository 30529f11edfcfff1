import Klsmsc.Library.Runs
import Mathlib.Logic.Function.Basic

/-!
# The SMPP manager of the gateway

The manager keeps a pool of bound sessions for each channel. Besides `ReloadChannels`,
three loops of every session rebind: the callback `OnClosed`, the liveness watchdog and
the stale monitor. A step is what one goroutine does between two releases of a lock, so
the removal of a session from its pool, the registration of the bind that replaces it,
and that bind's completion are steps of their own.

Sessions, bind goroutines and submitted messages are numbered in the order in which they
come up. A submitted message is an entry of `sequenceMap` until someone takes it; the
number of outcomes that were published for it is kept beside it. Time is not modelled:
a session can be silent and an entry stale at any moment. An explicit `Close` does not
invoke `OnClosed`.
-/

namespace Klsmsc

open Library

/-- The configuration of a channel, as far as the pools depend on it. The field `usesTls`
is what `channelUsesTLS` reads from `config_json`. -/
structure ChannelConfig where
  id : ℕ
  host : String
  port : ℕ
  username : String
  password : String
  systemType : String
  bindMode : String
  usesTls : Bool
  concurrency : ℕ
  deriving DecidableEq, Repr

/-- `connParamsChanged`. -/
def connParamsChanged (a b : ChannelConfig) : Bool :=
  a.host ≠ b.host || a.port ≠ b.port || a.username ≠ b.username || a.password ≠ b.password ||
    a.systemType ≠ b.systemType || a.bindMode ≠ b.bindMode || a.usesTls ≠ b.usesTls

/-- The callback `OnClosed`: it removes the session, registers a bind if it has removed it,
collects the entries of the session and takes them one after the other. -/
inductive OnClosedStage where
  | idle
  | respawning
  | collecting
  | sweeping (keys : List ℕ)
  deriving DecidableEq, Repr

/-- The liveness watchdog: it closes a silent session and, after a grace period, removes it
and registers a bind if `OnClosed` has not. -/
inductive WatchdogStage where
  | running
  | grace
  | respawning
  | ended
  deriving DecidableEq, Repr

/-- The stale monitor: it takes the stale entries, removes and closes the session, and
registers a bind. -/
inductive MonitorStage where
  | running
  | taking (keys : List ℕ)
  | respawning
  | ended
  deriving DecidableEq, Repr

/-- A session that `bindSession` has returned. -/
structure BoundSession where
  cfg : ChannelConfig
  isClosing : Bool
  isClosed : Bool
  onClosed : OnClosedStage
  watchdog : WatchdogStage
  monitor : MonitorStage
  deriving DecidableEq, Repr

/-- The loops that spawn bind goroutines. Only that of `ReloadChannels` reads the latest
configuration before each attempt. -/
inductive BindSite where
  | reload
  | rebind
  deriving DecidableEq, Repr

/-- A bind goroutine: it checks that the channel exists, binds, appends the session to the
pool, and finally gives back its pending bind. -/
inductive BindStage where
  | checking
  | binding
  | bound (session : ℕ)
  | finishing (appended : Bool)
  | ended
  deriving DecidableEq, Repr

structure BindTask where
  cfg : ChannelConfig
  site : BindSite
  stage : BindStage
  deriving DecidableEq, Repr

/-- The end of `Submit` for an entry. -/
inductive SubmitStage where
  | submitting
  | submitted
  | failed
  deriving DecidableEq, Repr

/-- A message that `submitOneAndTrack` has stored in `sequenceMap`. -/
structure SequenceEntry where
  session : ℕ
  submit : SubmitStage
  inMap : Bool
  outcomes : ℕ
  deriving DecidableEq, Repr

/-- The status of a `SubmitSMResp`, with whether a throttled message is republished. -/
inductive ResponseStatus where
  | ok
  | throttled (retries : Bool)
  | failed
  deriving DecidableEq, Repr

/-- `SMPPManager`, with the goroutines that work on it. The list `toSpawn` holds the binds
that a `ReloadChannels` has counted and not yet registered. -/
structure Manager where
  configs : ℕ → Option ChannelConfig
  connections : ℕ → Option (List ℕ)
  pendingBinds : ℕ → ℕ
  toSpawn : ℕ → List ChannelConfig
  sessionCount : ℕ
  sessions : ℕ → BoundSession
  bindCount : ℕ
  binds : ℕ → BindTask
  entryCount : ℕ
  entries : ℕ → SequenceEntry

inductive ManagerLabel where
  | reload (configs : List ChannelConfig)
  | reloadSpawn (channelId : ℕ)
  | closeSession (session : ℕ)
  | bindCheck (task : ℕ)
  | bind (task : ℕ) (succeeds : Bool)
  | append (task : ℕ)
  | bindDone (task : ℕ)
  | onClosed (session : ℕ)
  | onClosedSpawn (session : ℕ)
  | onClosedCollect (session : ℕ)
  | onClosedTake (session : ℕ) (publishes : Bool)
  | watchdogTick (session : ℕ) (silent : Bool)
  | watchdogGrace (session : ℕ)
  | watchdogSpawn (session : ℕ)
  | monitorTick (session : ℕ) (stale : List ℕ)
  | monitorTake (session : ℕ) (publishes : Bool)
  | monitorRemove (session : ℕ)
  | monitorSpawn (session : ℕ)
  | store (session : ℕ)
  | submit (entry : ℕ) (succeeds : Bool)
  | response (entry : ℕ) (status : ResponseStatus) (republishes publishes : Bool)
  deriving DecidableEq, Repr

def ChannelConfig.empty : ChannelConfig := ⟨0, "", 0, "", "", "", "", false, 0⟩

/-- `sequenceMap.LoadAndDelete` and what is published for the entry. -/
def SequenceEntry.take (entry : SequenceEntry) (produces : Bool) : SequenceEntry :=
  if entry.inMap then
    { entry with inMap := false, outcomes := entry.outcomes + produces.toNat }
  else entry

/-- Whether the handler of a `SubmitSMResp` produces an outcome: it publishes a result or, for
a throttled message with retries left, republishes it and publishes a result if that fails. -/
def ResponseStatus.produces (status : ResponseStatus) (republishes publishes : Bool) : Bool :=
  match status with
  | .throttled true => republishes || publishes
  | _ => publishes

namespace Manager

/-- `InitSMPPManager`. -/
def initial : Manager where
  configs _ := none
  connections _ := none
  pendingBinds _ := 0
  toSpawn _ := []
  sessionCount := 0
  sessions _ := ⟨.empty, false, true, .sweeping [], .ended, .ended⟩
  bindCount := 0
  binds _ := ⟨.empty, .rebind, .ended⟩
  entryCount := 0
  entries _ := ⟨0, .failed, false, 0⟩

variable (state : Manager)

/-- `m.connections[id]`. -/
def pool (channelId : ℕ) : List ℕ :=
  (state.connections channelId).getD []

def channelOf (session : ℕ) : ℕ :=
  (state.sessions session).cfg.id

def InPool (session : ℕ) : Prop :=
  session ∈ state.pool (state.channelOf session)

instance (session : ℕ) : Decidable (state.InPool session) :=
  inferInstanceAs (Decidable (_ ∈ _))

def setSession (index : ℕ) (session : BoundSession) : Manager :=
  { state with sessions := Function.update state.sessions index session }

def setBind (index : ℕ) (task : BindTask) : Manager :=
  { state with binds := Function.update state.binds index task }

def setEntry (index : ℕ) (entry : SequenceEntry) : Manager :=
  { state with entries := Function.update state.entries index entry }

def removeSession (session : ℕ) : Manager :=
  { state with
    connections := Function.update state.connections (state.channelOf session)
      ((state.connections (state.channelOf session)).map fun conns => conns.erase session) }

/-- `addPendingBind` and the goroutine that it counts. -/
def spawnBind (cfg : ChannelConfig) (site : BindSite) : Manager :=
  { state with
    pendingBinds :=
      Function.update state.pendingBinds cfg.id (state.pendingBinds cfg.id + 1)
    bindCount := state.bindCount + 1
    binds := Function.update state.binds state.bindCount ⟨cfg, site, .checking⟩ }

/-- The session that `bindSession` returns, with its watchdog and its monitor. -/
def addSession (cfg : ChannelConfig) : Manager :=
  { state with
    sessionCount := state.sessionCount + 1
    sessions := Function.update state.sessions state.sessionCount
      ⟨cfg, false, false, .idle, .running, .running⟩ }

/-- `newConfigs[id]`. -/
def newConfig (configs : List ChannelConfig) (channelId : ℕ) : Option ChannelConfig :=
  configs.reverse.find? fun cfg => cfg.id = channelId

/-- The sessions of a channel that a `ReloadChannels` keeps before it looks at their number:
none of them if the connection parameters have changed. -/
def currentConns (cfg : ChannelConfig) : List ℕ :=
  if (state.configs cfg.id).any fun old => connParamsChanged old cfg then [] else state.pool cfg.id

/-- The pool of a channel after a `ReloadChannels`. -/
def reloadedConns (configs : List ChannelConfig) (channelId : ℕ) : Option (List ℕ) :=
  (newConfig configs channelId).bind fun cfg =>
    (state.connections channelId).map fun _ =>
      let current := state.currentConns cfg
      current.drop (current.length - cfg.concurrency)

/-- The binds of a channel that a `ReloadChannels` will register. -/
def neededBinds (configs : List ChannelConfig) (channelId : ℕ) : List ChannelConfig :=
  match newConfig configs channelId with
  | none => []
  | some cfg =>
      List.replicate
        (cfg.concurrency - (state.currentConns cfg).length - state.pendingBinds channelId) cfg

/-- The part of `ReloadChannels` that holds the lock of the manager. -/
def reload (configs : List ChannelConfig) : Manager :=
  { state with
    configs := fun channelId =>
      match newConfig configs channelId with
      | some cfg => some cfg
      | none =>
          if (state.connections channelId).isSome then none else state.configs channelId
    connections := state.reloadedConns configs
    toSpawn := fun channelId =>
      state.toSpawn channelId ++ state.neededBinds configs channelId
    sessions := fun session =>
      if state.InPool session ∧
          session ∉ (state.reloadedConns configs (state.channelOf session)).getD [] then
        { state.sessions session with isClosing := true }
      else state.sessions session }

def bindCheck (task : ℕ) : Manager :=
  let current := state.binds task
  match state.configs current.cfg.id with
  | none => state.setBind task { current with stage := .finishing false }
  | some latest =>
      state.setBind task
        { current with
          cfg := if current.site = .reload then latest else current.cfg
          stage := .binding }

/-- `bindSession` returns. -/
def bind (task : ℕ) (succeeds : Bool) : Manager :=
  let current := state.binds task
  if succeeds then
    (state.addSession current.cfg).setBind task
      { current with stage := .bound state.sessionCount }
  else state.setBind task { current with stage := .checking }

def append (task session : ℕ) : Manager :=
  let current := state.binds task
  if (state.configs current.cfg.id).isSome then
    { state with
      connections := Function.update state.connections current.cfg.id
        (some (state.pool current.cfg.id ++ [session]))
      binds := Function.update state.binds task { current with stage := .finishing true } }
  else
    (state.setSession session { state.sessions session with isClosed := true }).setBind task
      { current with stage := .finishing false }

/-- The deferred `done` of a bind goroutine. -/
def bindDone (task : ℕ) : Manager :=
  let current := state.binds task
  { state with
    pendingBinds :=
      Function.update state.pendingBinds current.cfg.id (state.pendingBinds current.cfg.id - 1)
    binds := Function.update state.binds task { current with stage := .ended } }

/-- The entries of a session in `sequenceMap`. -/
def keysOf (session : ℕ) : List ℕ :=
  (List.range state.entryCount).filter fun entry =>
    (state.entries entry).inMap && (state.entries entry).session = session

def takeEntry (entry : ℕ) (publishes : Bool) : Manager :=
  state.setEntry entry ((state.entries entry).take publishes)

/-- The session is closed by the upstream, and `OnClosed` removes it from its pool. -/
def onClosed (session : ℕ) : Manager :=
  (state.removeSession session).setSession session
    { state.sessions session with
      isClosed := true
      onClosed := if state.InPool session then .respawning else .collecting }

def watchdogTick (session : ℕ) (silent : Bool) : Manager :=
  let current := state.sessions session
  if (state.configs current.cfg.id).isSome ∧ state.InPool session then
    if silent then
      state.setSession session { current with isClosed := true, watchdog := .grace }
    else state
  else state.setSession session { current with watchdog := .ended }

def watchdogGrace (session : ℕ) : Manager :=
  (state.removeSession session).setSession session
    { state.sessions session with
      watchdog := if state.InPool session then .respawning else .ended }

def monitorTick (session : ℕ) (stale : List ℕ) : Manager :=
  let current := state.sessions session
  if (state.configs current.cfg.id).isNone then
    state.setSession session { current with monitor := .ended }
  else if stale = [] then state
  else state.setSession session { current with monitor := .taking stale }

def monitorRemove (session : ℕ) : Manager :=
  (state.removeSession session).setSession session
    { state.sessions session with isClosed := true, monitor := .respawning }

/-- `submitOneAndTrack` stores a message. -/
def store (session : ℕ) : Manager :=
  { state with
    entryCount := state.entryCount + 1
    entries := Function.update state.entries state.entryCount ⟨session, .submitting, true, 0⟩ }

/-- `Submit` returns. A failed message is deleted from `sequenceMap`. -/
def submit (entry : ℕ) (succeeds : Bool) : Manager :=
  let current := state.entries entry
  state.setEntry entry
    (if succeeds then { current with submit := .submitted }
    else { current with submit := .failed, inMap := false })

def next : ManagerLabel → Option Manager
  | .reload configs => some (state.reload configs)
  | .reloadSpawn channelId =>
      match state.toSpawn channelId with
      | [] => none
      | cfg :: rest =>
          some
            { state.spawnBind cfg .reload with
              toSpawn := Function.update state.toSpawn channelId rest }
  | .closeSession session =>
      let current := state.sessions session
      if current.isClosing then
        some (state.setSession session { current with isClosing := false, isClosed := true })
      else none
  | .bindCheck task =>
      if (state.binds task).stage = .checking then some (state.bindCheck task) else none
  | .bind task succeeds =>
      if (state.binds task).stage = .binding then some (state.bind task succeeds) else none
  | .append task =>
      match (state.binds task).stage with
      | .bound session => some (state.append task session)
      | _ => none
  | .bindDone task =>
      match (state.binds task).stage with
      | .finishing _ => some (state.bindDone task)
      | _ => none
  | .onClosed session =>
      let current := state.sessions session
      if current.onClosed = .idle ∧ current.isClosed = false then some (state.onClosed session)
      else none
  | .onClosedSpawn session =>
      let current := state.sessions session
      if current.onClosed = .respawning then
        some ((state.spawnBind current.cfg .rebind).setSession session
          { current with onClosed := .collecting })
      else none
  | .onClosedCollect session =>
      let current := state.sessions session
      if current.onClosed = .collecting then
        some (state.setSession session
          { current with onClosed := .sweeping (state.keysOf session) })
      else none
  | .onClosedTake session publishes =>
      let current := state.sessions session
      match current.onClosed with
      | .sweeping (entry :: rest) =>
          some ((state.takeEntry entry publishes).setSession session
            { current with onClosed := .sweeping rest })
      | _ => none
  | .watchdogTick session silent =>
      if (state.sessions session).watchdog = .running then
        some (state.watchdogTick session silent)
      else none
  | .watchdogGrace session =>
      if (state.sessions session).watchdog = .grace then some (state.watchdogGrace session)
      else none
  | .watchdogSpawn session =>
      let current := state.sessions session
      if current.watchdog = .respawning then
        some ((state.spawnBind current.cfg .rebind).setSession session
          { current with watchdog := .ended })
      else none
  | .monitorTick session stale =>
      if (state.sessions session).monitor = .running ∧
          stale.all fun entry => (state.keysOf session).contains entry then
        some (state.monitorTick session stale)
      else none
  | .monitorTake session publishes =>
      let current := state.sessions session
      match current.monitor with
      | .taking (entry :: rest) =>
          some ((state.takeEntry entry publishes).setSession session
            { current with monitor := .taking rest })
      | _ => none
  | .monitorRemove session =>
      if (state.sessions session).monitor = .taking [] then some (state.monitorRemove session)
      else none
  | .monitorSpawn session =>
      let current := state.sessions session
      if current.monitor = .respawning then
        some ((state.spawnBind current.cfg .rebind).setSession session
          { current with monitor := .ended })
      else none
  | .store session => if session < state.sessionCount then some (state.store session) else none
  | .submit entry succeeds =>
      let current := state.entries entry
      if current.submit = .submitting ∧
          (succeeds → (state.sessions current.session).isClosed = false) then
        some (state.submit entry succeeds)
      else none
  | .response entry status republishes publishes =>
      if entry < state.entryCount then
        some (state.takeEntry entry (status.produces republishes publishes))
      else none

def Step (before : Manager) (label : ManagerLabel) (after : Manager) : Prop :=
  before.next label = some after

inductive Performs (state : Manager) : ManagerLabel → Manager → Prop where
  | reload (configs : List ChannelConfig) :
      Performs state (.reload configs) (state.reload configs)
  | reloadSpawn {channelId : ℕ} {cfg : ChannelConfig} {rest : List ChannelConfig}
      (planned : state.toSpawn channelId = cfg :: rest) :
      Performs state (.reloadSpawn channelId)
        { state.spawnBind cfg .reload with
          toSpawn := Function.update state.toSpawn channelId rest }
  | closeSession {session : ℕ} (closing : (state.sessions session).isClosing = true) :
      Performs state (.closeSession session)
        (state.setSession session
          { state.sessions session with isClosing := false, isClosed := true })
  | bindCheck {task : ℕ} (checking : (state.binds task).stage = .checking) :
      Performs state (.bindCheck task) (state.bindCheck task)
  | bind {task : ℕ} {succeeds : Bool} (binding : (state.binds task).stage = .binding) :
      Performs state (.bind task succeeds) (state.bind task succeeds)
  | append {task session : ℕ} (bound : (state.binds task).stage = .bound session) :
      Performs state (.append task) (state.append task session)
  | bindDone {task : ℕ} {appended : Bool}
      (finishing : (state.binds task).stage = .finishing appended) :
      Performs state (.bindDone task) (state.bindDone task)
  | onClosed {session : ℕ} (idle : (state.sessions session).onClosed = .idle)
      (isOpen : (state.sessions session).isClosed = false) :
      Performs state (.onClosed session) (state.onClosed session)
  | onClosedSpawn {session : ℕ} (respawning : (state.sessions session).onClosed = .respawning) :
      Performs state (.onClosedSpawn session)
        ((state.spawnBind (state.sessions session).cfg .rebind).setSession session
          { state.sessions session with onClosed := .collecting })
  | onClosedCollect {session : ℕ} (collecting : (state.sessions session).onClosed = .collecting) :
      Performs state (.onClosedCollect session)
        (state.setSession session
          { state.sessions session with onClosed := .sweeping (state.keysOf session) })
  | onClosedTake {session entry : ℕ} {rest : List ℕ} {publishes : Bool}
      (sweeping : (state.sessions session).onClosed = .sweeping (entry :: rest)) :
      Performs state (.onClosedTake session publishes)
        ((state.takeEntry entry publishes).setSession session
          { state.sessions session with onClosed := .sweeping rest })
  | watchdogTick {session : ℕ} {silent : Bool}
      (running : (state.sessions session).watchdog = .running) :
      Performs state (.watchdogTick session silent) (state.watchdogTick session silent)
  | watchdogGrace {session : ℕ} (grace : (state.sessions session).watchdog = .grace) :
      Performs state (.watchdogGrace session) (state.watchdogGrace session)
  | watchdogSpawn {session : ℕ} (respawning : (state.sessions session).watchdog = .respawning) :
      Performs state (.watchdogSpawn session)
        ((state.spawnBind (state.sessions session).cfg .rebind).setSession session
          { state.sessions session with watchdog := .ended })
  | monitorTick {session : ℕ} {stale : List ℕ}
      (running : (state.sessions session).monitor = .running)
      (inMap : (stale.all fun entry => (state.keysOf session).contains entry) = true) :
      Performs state (.monitorTick session stale) (state.monitorTick session stale)
  | monitorTake {session entry : ℕ} {rest : List ℕ} {publishes : Bool}
      (taking : (state.sessions session).monitor = .taking (entry :: rest)) :
      Performs state (.monitorTake session publishes)
        ((state.takeEntry entry publishes).setSession session
          { state.sessions session with monitor := .taking rest })
  | monitorRemove {session : ℕ} (taken : (state.sessions session).monitor = .taking []) :
      Performs state (.monitorRemove session) (state.monitorRemove session)
  | monitorSpawn {session : ℕ} (respawning : (state.sessions session).monitor = .respawning) :
      Performs state (.monitorSpawn session)
        ((state.spawnBind (state.sessions session).cfg .rebind).setSession session
          { state.sessions session with monitor := .ended })
  | store {session : ℕ} (inside : session < state.sessionCount) :
      Performs state (.store session) (state.store session)
  | submit {entry : ℕ} {succeeds : Bool} (submitting : (state.entries entry).submit = .submitting)
      (isOpen : succeeds → (state.sessions (state.entries entry).session).isClosed = false) :
      Performs state (.submit entry succeeds) (state.submit entry succeeds)
  | response {entry : ℕ} {status : ResponseStatus} {republishes publishes : Bool}
      (inside : entry < state.entryCount) :
      Performs state (.response entry status republishes publishes)
        (state.takeEntry entry (status.produces republishes publishes))

variable {state} {after : Manager}

theorem performs_of_next {label : ManagerLabel} (step : state.next label = some after) :
    state.Performs label after := by
  cases label with
  | reload configs =>
      cases step
      exact .reload configs
  | reloadSpawn channelId =>
      simp only [next] at step
      split at step
      · cases step
      · rename_i planned
        cases step
        exact .reloadSpawn planned
  | append task =>
      simp only [next] at step
      split at step
      · rename_i bound
        cases step
        exact .append bound
      · cases step
  | bindDone task =>
      simp only [next] at step
      split at step
      · rename_i finishing
        cases step
        exact .bindDone finishing
      · cases step
  | onClosedTake session publishes =>
      simp only [next] at step
      split at step
      · rename_i sweeping
        cases step
        exact .onClosedTake sweeping
      · cases step
  | monitorTake session publishes =>
      simp only [next] at step
      split at step
      · rename_i taking
        cases step
        exact .monitorTake taking
      · cases step
  | closeSession session =>
      simp only [next, Option.ite_none_right_eq_some, Option.some.injEq] at step
      obtain ⟨closing, rfl⟩ := step
      exact .closeSession closing
  | bindCheck task =>
      simp only [next, Option.ite_none_right_eq_some, Option.some.injEq] at step
      obtain ⟨checking, rfl⟩ := step
      exact .bindCheck checking
  | bind task succeeds =>
      simp only [next, Option.ite_none_right_eq_some, Option.some.injEq] at step
      obtain ⟨binding, rfl⟩ := step
      exact .bind binding
  | onClosed session =>
      simp only [next, Option.ite_none_right_eq_some, Option.some.injEq] at step
      obtain ⟨⟨idle, isOpen⟩, rfl⟩ := step
      exact .onClosed idle isOpen
  | onClosedSpawn session =>
      simp only [next, Option.ite_none_right_eq_some, Option.some.injEq] at step
      obtain ⟨respawning, rfl⟩ := step
      exact .onClosedSpawn respawning
  | onClosedCollect session =>
      simp only [next, Option.ite_none_right_eq_some, Option.some.injEq] at step
      obtain ⟨collecting, rfl⟩ := step
      exact .onClosedCollect collecting
  | watchdogTick session silent =>
      simp only [next, Option.ite_none_right_eq_some, Option.some.injEq] at step
      obtain ⟨running, rfl⟩ := step
      exact .watchdogTick running
  | watchdogGrace session =>
      simp only [next, Option.ite_none_right_eq_some, Option.some.injEq] at step
      obtain ⟨grace, rfl⟩ := step
      exact .watchdogGrace grace
  | watchdogSpawn session =>
      simp only [next, Option.ite_none_right_eq_some, Option.some.injEq] at step
      obtain ⟨respawning, rfl⟩ := step
      exact .watchdogSpawn respawning
  | monitorTick session stale =>
      simp only [next, Option.ite_none_right_eq_some, Option.some.injEq] at step
      obtain ⟨⟨running, inMap⟩, rfl⟩ := step
      exact .monitorTick running inMap
  | monitorRemove session =>
      simp only [next, Option.ite_none_right_eq_some, Option.some.injEq] at step
      obtain ⟨taken, rfl⟩ := step
      exact .monitorRemove taken
  | monitorSpawn session =>
      simp only [next, Option.ite_none_right_eq_some, Option.some.injEq] at step
      obtain ⟨respawning, rfl⟩ := step
      exact .monitorSpawn respawning
  | store session =>
      simp only [next, Option.ite_none_right_eq_some, Option.some.injEq] at step
      obtain ⟨inside, rfl⟩ := step
      exact .store inside
  | submit entry succeeds =>
      simp only [next, Option.ite_none_right_eq_some, Option.some.injEq] at step
      obtain ⟨⟨submitting, isOpen⟩, rfl⟩ := step
      exact .submit submitting isOpen
  | response entry status republishes publishes =>
      simp only [next, Option.ite_none_right_eq_some, Option.some.injEq] at step
      obtain ⟨inside, rfl⟩ := step
      exact .response inside

end Manager

def channelSeven (host : String) : ChannelConfig :=
  ⟨7, host, 2775, "system", "secret", "", "transceiver", false, 1⟩

namespace Manager

def bindFirst (host : String) : List ManagerLabel :=
  [.reload [channelSeven host], .reloadSpawn 7, .bindCheck 0, .bind 0 true, .append 0,
    .bindDone 0]

end Manager

end Klsmsc
