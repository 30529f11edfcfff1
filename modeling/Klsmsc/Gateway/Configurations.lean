import Klsmsc.Gateway.Manager

/-!
# The configuration of new sessions

A bind goroutine of `ReloadChannels` reads the configuration before each attempt, the
other loops bind with the configuration of the session that they replace. When a bind
completes, only the existence of the channel is checked. A session therefore enters the
pool with the installed parameters as long as no reload changes them under a goroutine
that has taken its configuration, and no loop replaces a session whose parameters have
been changed.
-/

namespace Klsmsc

open Library

def BindTask.isCommitted (task : BindTask) : Bool :=
  match task.stage with
  | .checking => task.site = .rebind
  | .binding => true
  | .bound _ => true
  | _ => false

theorem connParamsChanged_self (cfg : ChannelConfig) : connParamsChanged cfg cfg = false := by
  simp [connParamsChanged]

namespace Manager

structure ConfigView where
  configs : ℕ → Option ChannelConfig
  binds : ℕ → BindTask
  bindCount : ℕ
  sessionCount : ℕ
  cfgOf : ℕ → ChannelConfig

def configView (state : Manager) : ConfigView where
  configs := state.configs
  binds := state.binds
  bindCount := state.bindCount
  sessionCount := state.sessionCount
  cfgOf session := (state.sessions session).cfg

section

variable (state : Manager)

theorem configView_setSession (index : ℕ) {session : BoundSession}
    (same : session.cfg = (state.sessions index).cfg) :
    (state.setSession index session).configView = state.configView := by
  unfold configView setSession
  congr 1
  funext other
  by_cases isIndex : other = index
  · subst other
    simpa using same
  · simp [isIndex]

@[simp]
theorem configView_removeSession (session : ℕ) :
    (state.removeSession session).configView = state.configView := rfl

@[simp]
theorem configView_setEntry (index : ℕ) (entry : SequenceEntry) :
    (state.setEntry index entry).configView = state.configView := rfl

end

def AppendsInstalled (state : Manager) (label : ManagerLabel) (_after : Manager) : Prop :=
  ∀ task session, label = .append task → (state.binds task).stage = .bound session →
    ∀ cfg, state.configs (state.binds task).cfg.id = some cfg →
      connParamsChanged (state.sessions session).cfg cfg = false

/-- No reload changes the parameters under a goroutine that has taken its configuration, and
no session is replaced whose parameters have been changed. -/
def ConfigStable (state : Manager) : ManagerLabel → Prop
  | .reload configs =>
      ∀ task, (state.binds task).isCommitted = true →
        ∀ cfg, newConfig configs (state.binds task).cfg.id = some cfg →
          connParamsChanged (state.binds task).cfg cfg = false
  | .onClosedSpawn session =>
      ∀ cfg, state.configs (state.channelOf session) = some cfg →
        connParamsChanged (state.sessions session).cfg cfg = false
  | .watchdogSpawn session =>
      ∀ cfg, state.configs (state.channelOf session) = some cfg →
        connParamsChanged (state.sessions session).cfg cfg = false
  | .monitorSpawn session =>
      ∀ cfg, state.configs (state.channelOf session) = some cfg →
        connParamsChanged (state.sessions session).cfg cfg = false
  | _ => True

structure Configured (view : ConfigView) : Prop where
  keyed : ∀ channelId cfg, view.configs channelId = some cfg → cfg.id = channelId
  committed : ∀ task, (view.binds task).isCommitted = true →
    ∀ cfg, view.configs (view.binds task).cfg.id = some cfg →
      connParamsChanged (view.binds task).cfg cfg = false
  bound : ∀ task session, (view.binds task).stage = .bound session →
    session < view.sessionCount ∧ view.cfgOf session = (view.binds task).cfg
  fresh : ∀ task, view.bindCount ≤ task → (view.binds task).stage = .ended

namespace Configured

variable {state after : Manager}

theorem initial : Configured initial.configView where
  keyed := fun _ _ installed => by cases installed
  committed := fun _ committed => by cases committed
  bound := fun _ _ stage => by cases stage
  fresh := fun _ _ => rfl

theorem newConfig_id {configs : List ChannelConfig} {channelId : ℕ} {cfg : ChannelConfig}
    (found : newConfig configs channelId = some cfg) : cfg.id = channelId := by
  simpa using List.find?_some found

theorem reload (inv : Configured state.configView) {configs : List ChannelConfig}
    (stable : state.ConfigStable (.reload configs)) :
    Configured (state.reload configs).configView where
  keyed := by
    intro channelId cfg installed
    simp only [configView, Manager.reload] at installed
    split at installed
    · rename_i found
      cases installed
      exact newConfig_id found
    · split at installed
      · cases installed
      · exact inv.keyed channelId cfg installed
  committed := by
    intro task committed cfg installed
    simp only [configView, Manager.reload] at installed
    split at installed
    · rename_i found
      cases installed
      exact stable task committed cfg found
    · split at installed
      · cases installed
      · exact inv.committed task committed cfg installed
  bound := by
    intro task session stage
    rcases inv.bound task session stage with ⟨inside, same⟩
    refine ⟨inside, ?_⟩
    simp only [configView, Manager.reload]
    split <;> exact same
  fresh := inv.fresh

theorem setBind (inv : Configured state.configView) {index : ℕ} {task : BindTask}
    (old : index < state.bindCount)
    (committed : task.isCommitted = true → ∀ cfg, state.configs task.cfg.id = some cfg →
      connParamsChanged task.cfg cfg = false)
    (bound : ∀ session, task.stage = .bound session →
      session < state.sessionCount ∧ (state.sessions session).cfg = task.cfg) :
    Configured (state.setBind index task).configView where
  keyed := inv.keyed
  committed := by
    intro other isCommitted
    simp only [configView, Manager.setBind, Function.update_apply] at isCommitted ⊢
    split at isCommitted
    · rename_i isIndex
      rw [if_pos isIndex]
      exact committed isCommitted
    · rename_i isOther
      rw [if_neg isOther]
      exact inv.committed other isCommitted
  bound := by
    intro other session stage
    simp only [configView, Manager.setBind, Function.update_apply] at stage ⊢
    split at stage
    · rename_i isIndex
      rw [if_pos isIndex]
      exact bound session stage
    · rename_i isOther
      rw [if_neg isOther]
      exact inv.bound other session stage
  fresh := by
    intro other outside
    have outside : state.bindCount ≤ other := outside
    have differs : other ≠ index := by omega
    simp only [configView, Manager.setBind, Function.update_of_ne differs]
    exact inv.fresh other outside

theorem spawnBind (inv : Configured state.configView) {cfg : ChannelConfig} {site : BindSite}
    (committed : site = .rebind → ∀ installed, state.configs cfg.id = some installed →
      connParamsChanged cfg installed = false) :
    Configured (state.spawnBind cfg site).configView where
  keyed := inv.keyed
  committed := by
    intro other isCommitted
    simp only [configView, Manager.spawnBind, Function.update_apply] at isCommitted ⊢
    split at isCommitted
    · rename_i isNew
      rw [if_pos isNew]
      exact committed (by simpa [BindTask.isCommitted] using isCommitted)
    · rename_i isOld
      rw [if_neg isOld]
      exact inv.committed other isCommitted
  bound := by
    intro other session stage
    simp only [configView, Manager.spawnBind, Function.update_apply] at stage ⊢
    split at stage
    · cases stage
    · rename_i isOld
      rw [if_neg isOld]
      exact inv.bound other session stage
  fresh := by
    intro other outside
    have outside : state.bindCount < other := outside
    have differs : other ≠ state.bindCount := by omega
    simp only [configView, Manager.spawnBind, Function.update_of_ne differs]
    exact inv.fresh other (Nat.le_of_lt outside)

theorem addSession (inv : Configured state.configView) (cfg : ChannelConfig) :
    Configured (state.addSession cfg).configView where
  keyed := inv.keyed
  committed := inv.committed
  bound := by
    intro task session stage
    rcases inv.bound task session stage with ⟨inside, same⟩
    have inside : session < state.sessionCount := inside
    have differs : session ≠ state.sessionCount := by omega
    refine ⟨Nat.lt_succ_of_lt inside, ?_⟩
    simp only [configView, Manager.addSession, Function.update_of_ne differs]
    exact same
  fresh := inv.fresh

theorem lt_bindCount (inv : Configured state.configView) {task : ℕ}
    (live : (state.binds task).stage ≠ .ended) : task < state.bindCount := by
  by_contra outside
  exact live (inv.fresh task (Nat.le_of_not_lt outside))

theorem of_view_eq (inv : Configured state.configView) (same : after.configView = state.configView) :
    Configured after.configView := by
  rw [same]
  exact inv

theorem setSession (inv : Configured state.configView) {index : ℕ} {session : BoundSession}
    (same : session.cfg = (state.sessions index).cfg) :
    Configured (state.setSession index session).configView :=
  inv.of_view_eq (configView_setSession state index same)

theorem bindCheck (inv : Configured state.configView) {task : ℕ}
    (checking : (state.binds task).stage = .checking) :
    Configured (state.bindCheck task).configView := by
  have old := inv.lt_bindCount (by rw [checking]; simp)
  unfold Manager.bindCheck
  simp only
  split
  · exact inv.setBind old (by simp [BindTask.isCommitted]) (by simp)
  · rename_i latest installed
    refine inv.setBind old ?_ (by simp)
    intro _ cfg found
    by_cases reads : (state.binds task).site = .reload
    · rw [if_pos reads] at found ⊢
      have isKey := inv.keyed _ _ installed
      rw [isKey] at found
      have isLatest : some latest = some cfg := installed.symm.trans found
      cases isLatest
      exact connParamsChanged_self latest
    · rw [if_neg reads] at found ⊢
      have isRebind : (state.binds task).site = .rebind := by
        cases site : (state.binds task).site with
        | reload => exact absurd site reads
        | rebind => rfl
      exact inv.committed task (by simp [configView, BindTask.isCommitted, checking, isRebind])
        cfg found

theorem bind (inv : Configured state.configView) {task : ℕ} (succeeds : Bool)
    (binding : (state.binds task).stage = .binding) :
    Configured (state.bind task succeeds).configView := by
  have old := inv.lt_bindCount (by rw [binding]; simp)
  have committed := inv.committed task (by simp [configView, BindTask.isCommitted, binding])
  unfold Manager.bind
  simp only
  split
  · refine (inv.addSession (state.binds task).cfg).setBind old (fun _ => committed) ?_
    intro session isBound
    cases isBound
    refine ⟨Nat.lt_succ_self _, ?_⟩
    simp [Manager.addSession]
  · exact inv.setBind old (fun _ => committed) (by simp)

theorem append (inv : Configured state.configView) {task session : ℕ}
    (isBound : (state.binds task).stage = .bound session) :
    Configured (state.append task session).configView := by
  have old := inv.lt_bindCount (by rw [isBound]; simp)
  unfold Manager.append
  simp only
  split
  · have moved : Configured
        (state.setBind task { state.binds task with stage := .finishing true }).configView :=
      inv.setBind old (by simp [BindTask.isCommitted]) (by simp)
    exact moved
  · have closed : Configured
        (state.setSession session { state.sessions session with isClosed := true }).configView :=
      inv.setSession rfl
    exact closed.setBind old (by simp [BindTask.isCommitted]) (by simp)

theorem bindDone (inv : Configured state.configView) {task : ℕ}
    (live : (state.binds task).stage ≠ .ended) :
    Configured (state.bindDone task).configView := by
  have moved : Configured
      (state.setBind task { state.binds task with stage := .ended }).configView :=
    inv.setBind (inv.lt_bindCount live) (by simp [BindTask.isCommitted]) (by simp)
  exact moved

theorem respawn (inv : Configured state.configView) {index : ℕ} {session : BoundSession}
    (same : session.cfg = (state.sessions index).cfg)
    (installed : ∀ cfg, state.configs (state.channelOf index) = some cfg →
      connParamsChanged (state.sessions index).cfg cfg = false) :
    Configured
      ((state.spawnBind (state.sessions index).cfg .rebind).setSession index session).configView :=
  (inv.spawnBind fun _ => installed).setSession same

theorem next {label : ManagerLabel} (inv : Configured state.configView)
    (step : state.next label = some after) (stable : state.ConfigStable label) :
    Configured after.configView := by
  cases performs_of_next step with
  | reload configs => exact inv.reload stable
  | @reloadSpawn _ cfg =>
      have spawned : Configured (state.spawnBind cfg .reload).configView :=
        inv.spawnBind (by simp)
      exact spawned
  | closeSession => exact inv.setSession rfl
  | bindCheck checking => exact inv.bindCheck checking
  | bind binding => exact inv.bind _ binding
  | append bound => exact inv.append bound
  | bindDone finishing => exact inv.bindDone (by rw [finishing]; simp)
  | onClosed => exact inv.setSession rfl
  | onClosedSpawn => exact inv.respawn rfl stable
  | onClosedCollect => exact inv.setSession rfl
  | onClosedTake => exact inv.setSession rfl
  | watchdogTick =>
      simp only [Manager.watchdogTick]
      split
      · split
        · exact inv.setSession rfl
        · exact inv
      · exact inv.setSession rfl
  | watchdogGrace => exact inv.setSession rfl
  | watchdogSpawn => exact inv.respawn rfl stable
  | monitorTick =>
      simp only [Manager.monitorTick]
      split
      · exact inv.setSession rfl
      · split
        · exact inv
        · exact inv.setSession rfl
  | monitorTake => exact inv.setSession rfl
  | monitorRemove => exact inv.setSession rfl
  | monitorSpawn => exact inv.respawn rfl stable
  | store => exact inv.of_view_eq rfl
  | submit => exact inv.of_view_eq rfl
  | response => exact inv.of_view_eq rfl

theorem appendsInstalled {label : ManagerLabel} (inv : Configured state.configView) :
    state.AppendsInstalled label after := by
  rintro task session rfl isBound cfg installed
  rw [(show (state.sessions session).cfg = (state.binds task).cfg from
    (inv.bound task session isBound).2)]
  exact inv.committed task (by simp [configView, BindTask.isCommitted, isBound]) cfg installed

end Configured

/-- In every run in which no reload changes the parameters under a goroutine that has taken
them, and no loop replaces a session whose parameters have been changed, every session that
enters a pool was bound with the parameters that are installed. -/
theorem pools_follow_configs {transitions : List (Transition Manager ManagerLabel)}
    {last : Manager} (run : Run Step initial transitions last)
    (stable : ∀ transition ∈ transitions, transition.before.ConfigStable transition.label) :
    ∀ transition ∈ transitions,
      transition.before.AppendsInstalled transition.label transition.after := by
  have preserved : ∀ before label after, Guarded Step ConfigStable before label after →
      Configured before.configView → Configured after.configView :=
    fun _ _ _ guarded inv => inv.next guarded.1 guarded.2
  have inside := ((run.guarded stable).invariant preserved Configured.initial).2
  intro transition member
  exact (inside transition member).1.appendsInstalled

/-- The session is closed by the upstream, and `OnClosed` spawns a bind goroutine with its
configuration. A reload installs another host; the goroutine binds to the old one, and the
next reload keeps its session. -/
theorem old_config_appended :
    ∃ transitions last, Run Step initial transitions last ∧
      (last.pool 7).map (fun session => (last.sessions session).cfg.host) = ["old"] ∧
      (last.configs 7).map ChannelConfig.host = some "new" ∧
      ¬∀ transition ∈ transitions,
        transition.before.AppendsInstalled transition.label transition.after := by
  have passed : (execute next initial (bindFirst "old" ++
      [.onClosed 0, .onClosedSpawn 0, .bindCheck 1, .reload [channelSeven "new"], .bind 1 true,
        .append 1, .bindDone 1, .reload [channelSeven "new"]])).any (fun outcome =>
      decide ((outcome.2.pool 7).map (fun session => (outcome.2.sessions session).cfg.host) =
          ["old"] ∧
        (outcome.2.configs 7).map ChannelConfig.host = some "new" ∧
        ∃ transition ∈ outcome.1, transition.label = .append 1 ∧
          (transition.before.binds 1).stage = .bound 1 ∧
          transition.before.configs (transition.before.binds 1).cfg.id =
            some (channelSeven "new") ∧
          connParamsChanged (transition.before.sessions 1).cfg (channelSeven "new") = true)) =
      true := by decide
  rcases Run.exists_of_execute _ passed with ⟨transitions, last, run, checked⟩
  rcases of_decide_eq_true checked with
    ⟨old, new, transition, member, label, isBound, installed, changed⟩
  refine ⟨transitions, last, run, old, new, ?_⟩
  intro follows
  have same := follows transition member 1 1 label isBound _ installed
  rw [changed] at same
  cases same

/-- The first session of the channel is bound with the parameters of the first load. -/
theorem pools_follow_configs_first :
    ∃ transitions last, Run Step initial transitions last ∧ last.pool 7 = [0] ∧
      ∀ transition ∈ transitions,
        transition.before.AppendsInstalled transition.label transition.after := by
  have bound := Run.exists_labels_of_execute (fun state : Manager => state.pool 7 = [0])
    (show ((execute next (initial.reload [channelSeven "old"]) (bindFirst "old").tail).any _) =
      true by decide)
  rcases bound with ⟨transitions, last, run, labels, pool⟩
  have loaded : Step initial (.reload [channelSeven "old"])
      (initial.reload [channelSeven "old"]) := rfl
  refine ⟨_, last, .cons loaded run, pool, pools_follow_configs (.cons loaded run) ?_⟩
  intro transition member
  rcases List.mem_cons.mp member with rfl | inRest
  · intro task committed
    cases committed
  · have label := labels transition inRest
    simp only [bindFirst, List.tail_cons, List.mem_cons, List.not_mem_nil, or_false] at label
    rcases label with label | label | label | label | label <;> (rw [label]; trivial)

end Manager

end Klsmsc
