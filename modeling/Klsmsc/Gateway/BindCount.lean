import Klsmsc.Gateway.Manager
import Klsmsc.Library.Counts

/-!
# The number of binds of a channel

`ReloadChannels` fills a pool up to the concurrency of its channel and counts the
pending binds of all four loops. Between the removal of a session and the registration
of the bind that replaces it, the session is in neither count; from the moment its
session is in the pool until its deferred `done`, a bind is in both. The bound below
counts each of them once. It is kept by every step but two: a reload that needs binds
while replacements are unregistered, and a stale monitor that replaces a session which
has been removed already.
-/

namespace Klsmsc

open Library

def BoundSession.unregistered (channelId : ℕ) (session : BoundSession) : ℕ :=
  if session.cfg.id = channelId then
    (if session.onClosed = .respawning then 1 else 0) +
      (if session.watchdog = .respawning then 1 else 0) +
      if session.monitor = .respawning then 1 else 0
  else 0

theorem BoundSession.unregistered_congr {channelId : ℕ} {before after : BoundSession}
    (cfg : after.cfg = before.cfg)
    (onClosed : after.onClosed = .respawning ↔ before.onClosed = .respawning)
    (watchdog : after.watchdog = .respawning ↔ before.watchdog = .respawning)
    (monitor : after.monitor = .respawning ↔ before.monitor = .respawning) :
    after.unregistered channelId = before.unregistered channelId := by
  simp only [unregistered, cfg, onClosed, watchdog, monitor]

def BindTask.live (channelId : ℕ) (task : BindTask) : ℕ :=
  if task.cfg.id = channelId ∧ task.stage ≠ .ended then 1 else 0

/-- A bind goroutine whose session is in the pool and whose `done` is still to come. -/
def BindTask.completed (channelId : ℕ) (task : BindTask) : ℕ :=
  if task.cfg.id = channelId ∧ task.stage = .finishing true then 1 else 0

theorem BindTask.completed_le_live (channelId : ℕ) (task : BindTask) :
    task.completed channelId ≤ task.live channelId := by
  unfold completed live
  split
  · rename_i both
    rw [if_pos ⟨both.1, by rw [both.2]; simp⟩]
  · omega

namespace Manager

variable (state : Manager) (channelId : ℕ)

def unregistered : ℕ :=
  (state.toSpawn channelId).length +
    weight state.sessionCount (BoundSession.unregistered channelId) state.sessions

def live : ℕ :=
  weight state.bindCount (BindTask.live channelId) state.binds

def completed : ℕ :=
  weight state.bindCount (BindTask.completed channelId) state.binds

/-- `len(connections[channel]) + pendingBinds[channel]`. -/
def bindTotal : ℕ :=
  (state.pool channelId).length + state.pendingBinds channelId

def HasConcurrency (concurrency : ℕ) : ManagerLabel → Prop
  | .reload configs =>
      ∀ cfg, newConfig configs channelId = some cfg → cfg.concurrency = concurrency
  | _ => True

/-- A reload that needs binds for the channel finds no more unregistered ones than binds that
it counts twice, and a stale monitor of the channel finds its session in the pool. -/
def Registered : ManagerLabel → Prop
  | .reload configs =>
      state.neededBinds configs channelId ≠ [] →
        state.unregistered channelId ≤ state.completed channelId
  | .monitorRemove session => state.channelOf session = channelId → state.InPool session
  | _ => True

def Quiet (session : BoundSession) : Prop :=
  session.onClosed = .sweeping [] ∧ session.watchdog = .ended ∧ session.monitor = .ended ∧
    session.isClosed = true

structure Counted (channelId concurrency : ℕ) (state : Manager) : Prop where
  keyed : ∀ channelId cfg, state.configs channelId = some cfg → cfg.id = channelId
  planned : ∀ channelId, ∀ cfg ∈ state.toSpawn channelId, cfg.id = channelId
  sessions : ∀ session, state.sessionCount ≤ session → Quiet (state.sessions session)
  binds : ∀ task, state.bindCount ≤ task → (state.binds task).stage = .ended
  pending : state.pendingBinds channelId = state.live channelId
  bound : state.bindTotal channelId + state.unregistered channelId ≤
    concurrency + state.completed channelId

theorem length_appendConn (own session : ℕ) :
    ((Function.update state.connections own (some (state.pool own ++ [session]))
        channelId).getD []).length =
      (state.pool channelId).length + if own = channelId then 1 else 0 := by
  by_cases isOwn : own = channelId
  · subst channelId
    simp
  · rw [Function.update_of_ne (Ne.symm isOwn), if_neg isOwn]
    rfl

theorem length_currentConns (cfg : ChannelConfig) :
    (state.currentConns cfg).length ≤ (state.pool cfg.id).length := by
  unfold currentConns
  split
  · exact Nat.zero_le _
  · exact Nat.le_refl _

theorem length_reloadedConns (configs : List ChannelConfig) :
    ((state.reloadedConns configs channelId).getD []).length ≤ (state.pool channelId).length ∧
      ∀ concurrency, HasConcurrency channelId concurrency (.reload configs) →
        state.neededBinds configs channelId ≠ [] →
          ((state.reloadedConns configs channelId).getD []).length +
              state.pendingBinds channelId + (state.neededBinds configs channelId).length ≤
            concurrency := by
  cases found : newConfig configs channelId with
  | none => simp [reloadedConns, neededBinds, found]
  | some cfg =>
      have isOwn : cfg.id = channelId := by simpa using List.find?_some found
      have kept : ((state.reloadedConns configs channelId).getD []).length ≤
          (state.currentConns cfg).length := by
        cases installed : state.connections channelId with
        | none => simp [reloadedConns, installed]
        | some conns => simp [reloadedConns, installed, found]
      have before := length_currentConns state cfg
      rw [isOwn] at before
      refine ⟨Nat.le_trans kept before, ?_⟩
      intro concurrency constant needs
      have isConcurrency := constant cfg found
      simp only [neededBinds, found, ne_eq, List.replicate_eq_nil_iff] at needs
      simp only [neededBinds, found, List.length_replicate]
      omega

section

variable {state} {session : ℕ}

theorem length_removeSession :
    ((state.removeSession session).pool channelId).length +
        (if state.InPool session ∧ state.channelOf session = channelId then 1 else 0) =
      (state.pool channelId).length := by
  by_cases own : state.channelOf session = channelId
  · subst channelId
    have removed : (state.removeSession session).pool (state.channelOf session) =
        (state.pool (state.channelOf session)).erase session := by
      simp only [pool, removeSession, Function.update_self]
      cases state.connections (state.channelOf session) <;> rfl
    rw [removed]
    by_cases inPool : state.InPool session
    · have nonempty := List.length_pos_of_mem inPool
      rw [if_pos ⟨inPool, rfl⟩, List.length_erase_of_mem inPool]
      omega
    · rw [if_neg (by simp [inPool]), List.erase_of_not_mem inPool]
      rfl
  · have others : (state.removeSession session).pool channelId = state.pool channelId := by
      simp only [pool, removeSession, Function.update_of_ne (Ne.symm own)]
    rw [others, if_neg (by simp [own])]
    rfl

theorem unregistered_setSession (inside : session < state.sessionCount) (new : BoundSession) :
    (state.setSession session new).unregistered channelId +
        (state.sessions session).unregistered channelId =
      state.unregistered channelId + new.unregistered channelId := by
  have exchanged := weight_update (BoundSession.unregistered channelId) state.sessions inside new
  simp only [unregistered, setSession]
  omega

theorem unregistered_setSession_of_eq {new : BoundSession}
    (same : new.unregistered channelId = (state.sessions session).unregistered channelId) :
    (state.setSession session new).unregistered channelId = state.unregistered channelId := by
  have exchanged : weight state.sessionCount (BoundSession.unregistered channelId)
      (Function.update state.sessions session new) =
        weight state.sessionCount (BoundSession.unregistered channelId) state.sessions :=
    weight_update_of_eq _ _ same
  simp only [unregistered, setSession]
  omega

theorem unregistered_addSession (cfg : ChannelConfig) :
    (state.addSession cfg).unregistered channelId = state.unregistered channelId := by
  have quiet : (⟨cfg, false, false, .idle, .running, .running⟩ : BoundSession).unregistered
      channelId = 0 := by
    simp [BoundSession.unregistered]
  simp only [unregistered, addSession, weight_succ, Function.update_self, quiet,
    weight_update_of_le _ _ (Nat.le_refl _), Nat.add_zero]

theorem unregistered_reload (configs : List ChannelConfig) :
    (state.reload configs).unregistered channelId =
      state.unregistered channelId + (state.neededBinds configs channelId).length := by
  have sessions : weight state.sessionCount (BoundSession.unregistered channelId)
      (state.reload configs).sessions =
        weight state.sessionCount (BoundSession.unregistered channelId) state.sessions := by
    refine weight_congr _ _ ?_
    intro session _
    simp only [reload]
    split <;> rfl
  have planned : ((state.reload configs).toSpawn channelId).length =
      (state.toSpawn channelId).length + (state.neededBinds configs channelId).length :=
    List.length_append
  have unfolded : (state.reload configs).unregistered channelId =
      ((state.reload configs).toSpawn channelId).length +
        weight state.sessionCount (BoundSession.unregistered channelId)
          (state.reload configs).sessions := rfl
  rw [unfolded, sessions, planned]
  unfold unregistered
  omega

theorem live_setBind {task : ℕ} {new : BindTask}
    (same : new.live channelId = (state.binds task).live channelId) :
    (state.setBind task new).live channelId = state.live channelId :=
  weight_update_of_eq _ _ same

theorem completed_setBind {task : ℕ} {new : BindTask}
    (same : new.completed channelId = (state.binds task).completed channelId) :
    (state.setBind task new).completed channelId = state.completed channelId :=
  weight_update_of_eq _ _ same

theorem live_exchange {task : ℕ} (inside : task < state.bindCount) (new : BindTask) :
    (state.setBind task new).live channelId + (state.binds task).live channelId =
      state.live channelId + new.live channelId :=
  weight_update _ _ inside new

theorem completed_exchange {task : ℕ} (inside : task < state.bindCount) (new : BindTask) :
    (state.setBind task new).completed channelId + (state.binds task).completed channelId =
      state.completed channelId + new.completed channelId :=
  weight_update _ _ inside new

theorem live_spawnBind (cfg : ChannelConfig) (site : BindSite) :
    (state.spawnBind cfg site).live channelId =
      state.live channelId + if cfg.id = channelId then 1 else 0 := by
  have new : (⟨cfg, site, .checking⟩ : BindTask).live channelId =
      if cfg.id = channelId then 1 else 0 := by
    simp [BindTask.live]
  simp only [live, spawnBind, weight_succ, Function.update_self, new,
    weight_update_of_le _ _ (Nat.le_refl _)]

theorem completed_spawnBind (cfg : ChannelConfig) (site : BindSite) :
    (state.spawnBind cfg site).completed channelId = state.completed channelId := by
  have new : (⟨cfg, site, .checking⟩ : BindTask).completed channelId = 0 := by
    simp [BindTask.completed]
  simp only [completed, spawnBind, weight_succ, Function.update_self, new,
    weight_update_of_le _ _ (Nat.le_refl _), Nat.add_zero]

theorem pendingBinds_spawnBind (cfg : ChannelConfig) (site : BindSite) :
    (state.spawnBind cfg site).pendingBinds channelId =
      state.pendingBinds channelId + if cfg.id = channelId then 1 else 0 := by
  by_cases own : cfg.id = channelId
  · subst channelId
    simp [spawnBind]
  · simp only [spawnBind, Function.update_of_ne (Ne.symm own), if_neg own, Nat.add_zero]

end

namespace Counted

variable {channelId concurrency : ℕ} {state after : Manager}

theorem initial : Counted channelId concurrency initial where
  keyed := fun _ _ installed => by cases installed
  planned := fun _ _ member => by cases member
  sessions := fun _ _ => ⟨rfl, rfl, rfl, rfl⟩
  binds := fun _ _ => rfl
  pending := rfl
  bound := Nat.zero_le _

theorem lt_sessionCount (inv : Counted channelId concurrency state) {session : ℕ}
    (live : ¬Quiet (state.sessions session)) : session < state.sessionCount := by
  by_contra outside
  exact live (inv.sessions session (Nat.le_of_not_lt outside))

theorem lt_bindCount (inv : Counted channelId concurrency state) {task : ℕ}
    (live : (state.binds task).stage ≠ .ended) : task < state.bindCount := by
  by_contra outside
  exact live (inv.binds task (Nat.le_of_not_lt outside))

theorem setSession (inv : Counted channelId concurrency state) {session : ℕ}
    {new : BoundSession} (quiet : Quiet (state.sessions session) → Quiet new)
    (same : new.unregistered channelId = (state.sessions session).unregistered channelId) :
    Counted channelId concurrency (state.setSession session new) where
  keyed := inv.keyed
  planned := inv.planned
  sessions := by
    intro other outside
    have before := inv.sessions other outside
    by_cases own : other = session
    · subst other
      simpa [Manager.setSession] using quiet before
    · simp only [Manager.setSession, Function.update_of_ne own]
      exact before
  binds := inv.binds
  pending := inv.pending
  bound := by
    have bound := inv.bound
    rw [unregistered_setSession_of_eq channelId same]
    exact bound

theorem remove (inv : Counted channelId concurrency state) {session : ℕ} {new : BoundSession}
    (inside : session < state.sessionCount)
    (owes : new.unregistered channelId = (state.sessions session).unregistered channelId +
      if state.InPool session ∧ state.channelOf session = channelId then 1 else 0) :
    Counted channelId concurrency
      ((state.removeSession session).setSession session new) where
  keyed := inv.keyed
  planned := inv.planned
  sessions := by
    intro other outside
    have outside : state.sessionCount ≤ other := outside
    simp only [Manager.setSession, Function.update_of_ne (show other ≠ session by omega)]
    exact inv.sessions other outside
  binds := inv.binds
  pending := inv.pending
  bound := by
    have owed : ((state.removeSession session).setSession session new).unregistered channelId +
        (state.sessions session).unregistered channelId =
          state.unregistered channelId + new.unregistered channelId :=
      unregistered_setSession channelId inside new
    have removed := @length_removeSession state channelId session
    have bound := inv.bound
    have total : ((state.removeSession session).setSession session new).bindTotal channelId =
      ((state.removeSession session).pool channelId).length + state.pendingBinds channelId := rfl
    have twice : ((state.removeSession session).setSession session new).completed channelId =
      state.completed channelId := rfl
    have before : state.bindTotal channelId =
      (state.pool channelId).length + state.pendingBinds channelId := rfl
    omega

theorem spawnBind (inv : Counted channelId concurrency state) {cfg : ChannelConfig}
    {site : BindSite} {owing : Manager}
    (same : owing = { state with sessions := owing.sessions, toSpawn := owing.toSpawn })
    (planned : ∀ channelId, ∀ cfg ∈ owing.toSpawn channelId, cfg.id = channelId)
    (sessions : ∀ session, state.sessionCount ≤ session → Quiet (owing.sessions session))
    (owed : owing.unregistered channelId + (if cfg.id = channelId then 1 else 0) =
      state.unregistered channelId) :
    Counted channelId concurrency (owing.spawnBind cfg site) where
  keyed := by
    rw [same]
    exact inv.keyed
  planned := planned
  sessions := by
    intro session outside
    have count : owing.sessionCount = state.sessionCount := by rw [same]
    have outside : owing.sessionCount ≤ session := outside
    exact sessions session (by omega)
  binds := by
    intro task outside
    have outside : owing.bindCount < task := outside
    have binds : owing.binds = state.binds := by rw [same]
    have count : owing.bindCount = state.bindCount := by rw [same]
    simp only [Manager.spawnBind, Function.update_of_ne (show task ≠ owing.bindCount by omega),
      binds]
    exact inv.binds task (by omega)
  pending := by
    have pending : owing.pendingBinds = state.pendingBinds := by rw [same]
    have live : owing.live channelId = state.live channelId := by rw [same]; rfl
    rw [pendingBinds_spawnBind, live_spawnBind, pending, live, inv.pending]
  bound := by
    have bound := inv.bound
    have pending := @pendingBinds_spawnBind owing channelId cfg site
    have total : (owing.spawnBind cfg site).bindTotal channelId =
      (owing.pool channelId).length + (owing.spawnBind cfg site).pendingBinds channelId := rfl
    have before : state.bindTotal channelId =
      (state.pool channelId).length + state.pendingBinds channelId := rfl
    have pool : owing.pool channelId = state.pool channelId := by rw [same]; rfl
    have counted : owing.pendingBinds = state.pendingBinds := by rw [same]
    have twice : (owing.spawnBind cfg site).completed channelId = state.completed channelId := by
      rw [completed_spawnBind, same]
      rfl
    have kept : (owing.spawnBind cfg site).unregistered channelId =
      owing.unregistered channelId := rfl
    rw [counted] at pending
    rw [pool] at total
    omega

theorem respawn (inv : Counted channelId concurrency state) {session : ℕ} {new : BoundSession}
    (inside : session < state.sessionCount)
    (owed : new.unregistered channelId +
      (if (state.sessions session).cfg.id = channelId then 1 else 0) =
        (state.sessions session).unregistered channelId) :
    Counted channelId concurrency
      ((state.spawnBind (state.sessions session).cfg .rebind).setSession session new) := by
  have exchanged := unregistered_setSession channelId inside new
  have spawned : Counted channelId concurrency
      ((state.setSession session new).spawnBind (state.sessions session).cfg .rebind) := by
    refine inv.spawnBind rfl inv.planned ?_ (by omega)
    intro other outside
    simp only [Manager.setSession, Function.update_of_ne (show other ≠ session by omega)]
    exact inv.sessions other outside
  exact spawned

theorem reloadSpawn (inv : Counted channelId concurrency state) {own : ℕ}
    {cfg : ChannelConfig} {rest : List ChannelConfig}
    (planned : state.toSpawn own = cfg :: rest) :
    Counted channelId concurrency
      { state.spawnBind cfg .reload with
        toSpawn := Function.update state.toSpawn own rest } := by
  have isOwn : cfg.id = own := inv.planned own cfg (by rw [planned]; simp)
  have spawned : Counted channelId concurrency
      (({ state with toSpawn := Function.update state.toSpawn own rest } : Manager).spawnBind
        cfg .reload) := by
    refine inv.spawnBind rfl ?_ inv.sessions ?_
    · intro other planned' member
      simp only [Function.update_apply] at member
      split at member
      · rename_i isOther
        subst isOther
        exact inv.planned other planned' (by rw [planned]; exact List.mem_cons_of_mem _ member)
      · exact inv.planned other planned' member
    · subst own
      simp only [unregistered, Function.update_apply]
      by_cases isChannel : cfg.id = channelId
      · subst channelId
        simp only [if_pos, planned, List.length_cons]
        omega
      · rw [if_neg (Ne.symm isChannel), if_neg isChannel]
        rfl
  exact spawned

theorem reload (inv : Counted channelId concurrency state) {configs : List ChannelConfig}
    (constant : HasConcurrency channelId concurrency (.reload configs))
    (registered : state.Registered channelId (.reload configs)) :
    Counted channelId concurrency (state.reload configs) where
  keyed := by
    intro own cfg installed
    simp only [Manager.reload] at installed
    split at installed
    · rename_i found
      cases installed
      simpa using List.find?_some found
    · split at installed
      · cases installed
      · exact inv.keyed own cfg installed
  planned := by
    intro own cfg member
    rcases List.mem_append.mp member with before | needed
    · exact inv.planned own cfg before
    · unfold neededBinds at needed
      split at needed
      · cases needed
      · rename_i found
        rw [List.eq_of_mem_replicate needed]
        simpa using List.find?_some found
  sessions := by
    intro session outside
    have quiet := inv.sessions session outside
    simp only [Manager.reload]
    split
    · exact quiet
    · exact quiet
  binds := inv.binds
  pending := inv.pending
  bound := by
    have bound := inv.bound
    have owed := @unregistered_reload state channelId configs
    have pool := length_reloadedConns state channelId configs
    have twice : (state.reload configs).completed channelId = state.completed channelId := rfl
    have total : (state.reload configs).bindTotal channelId =
      ((state.reloadedConns configs channelId).getD []).length + state.pendingBinds channelId := rfl
    have before : state.bindTotal channelId =
      (state.pool channelId).length + state.pendingBinds channelId := rfl
    by_cases needs : state.neededBinds configs channelId = []
    · have none : (state.neededBinds configs channelId).length = 0 := by rw [needs]; rfl
      omega
    · have few := registered needs
      have filled := pool.2 concurrency constant needs
      omega

theorem setBind (inv : Counted channelId concurrency state) {task : ℕ} {new : BindTask}
    (inside : task < state.bindCount)
    (live : new.live channelId = (state.binds task).live channelId)
    (completed : new.completed channelId = (state.binds task).completed channelId) :
    Counted channelId concurrency (state.setBind task new) where
  keyed := inv.keyed
  planned := inv.planned
  sessions := inv.sessions
  binds := by
    intro other outside
    have outside : state.bindCount ≤ other := outside
    simp only [Manager.setBind, Function.update_of_ne (show other ≠ task by omega)]
    exact inv.binds other outside
  pending := by
    rw [live_setBind channelId live]
    exact inv.pending
  bound := by
    rw [completed_setBind channelId completed]
    exact inv.bound

theorem bindCheck (inv : Counted channelId concurrency state) {task : ℕ}
    (checking : (state.binds task).stage = .checking) :
    Counted channelId concurrency (state.bindCheck task) := by
  have inside := inv.lt_bindCount (by rw [checking]; simp)
  unfold Manager.bindCheck
  simp only
  split
  · exact inv.setBind inside (by simp [BindTask.live, checking])
      (by simp [BindTask.completed, checking])
  · rename_i latest installed
    have isKey := inv.keyed _ _ installed
    by_cases reads : (state.binds task).site = .reload
    · rw [if_pos reads]
      exact inv.setBind inside (by simp [BindTask.live, checking, isKey])
        (by simp [BindTask.completed, checking])
    · rw [if_neg reads]
      exact inv.setBind inside (by simp [BindTask.live, checking])
        (by simp [BindTask.completed, checking])

theorem addSession (inv : Counted channelId concurrency state) (cfg : ChannelConfig) :
    Counted channelId concurrency (state.addSession cfg) where
  keyed := inv.keyed
  planned := inv.planned
  sessions := by
    intro session outside
    have outside : state.sessionCount < session := outside
    simp only [Manager.addSession,
      Function.update_of_ne (show session ≠ state.sessionCount by omega)]
    exact inv.sessions session (Nat.le_of_lt outside)
  binds := inv.binds
  pending := inv.pending
  bound := by
    rw [unregistered_addSession]
    exact inv.bound

theorem bind (inv : Counted channelId concurrency state) {task : ℕ} (succeeds : Bool)
    (binding : (state.binds task).stage = .binding) :
    Counted channelId concurrency (state.bind task succeeds) := by
  have inside := inv.lt_bindCount (by rw [binding]; simp)
  unfold Manager.bind
  simp only
  split
  · exact (inv.addSession (state.binds task).cfg).setBind inside
      (by simp [Manager.addSession, BindTask.live, binding])
      (by simp [Manager.addSession, BindTask.completed, binding])
  · exact inv.setBind inside (by simp [BindTask.live, binding])
      (by simp [BindTask.completed, binding])

theorem appendConn (inv : Counted channelId concurrency state) {task session : ℕ}
    (isBound : (state.binds task).stage = .bound session) :
    Counted channelId concurrency
      { state with
        connections := Function.update state.connections (state.binds task).cfg.id
          (some (state.pool (state.binds task).cfg.id ++ [session]))
        binds := Function.update state.binds task
          { state.binds task with stage := .finishing true } } := by
  have inside := inv.lt_bindCount (by rw [isBound]; simp)
  obtain ⟨moved, isMoved⟩ :
    ∃ moved, moved = { state.binds task with stage := .finishing true } := ⟨_, rfl⟩
  rw [← isMoved]
  have lives : moved.live channelId = (state.binds task).live channelId := by
    simp [isMoved, BindTask.live, isBound]
  have before : (state.binds task).completed channelId = 0 := by
    simp [BindTask.completed, isBound]
  have completes : moved.completed channelId =
      if (state.binds task).cfg.id = channelId then 1 else 0 := by
    simp [isMoved, BindTask.completed]
  have exchanged := completed_exchange channelId inside moved
  have bound := inv.bound
  refine ⟨inv.keyed, inv.planned, inv.sessions, ?_, ?_, ?_⟩
  · intro other outside
    have outside : state.bindCount ≤ other := outside
    simp only [Function.update_of_ne (show other ≠ task by omega)]
    exact inv.binds other outside
  · exact inv.pending.trans (live_setBind channelId lives).symm
  · have pool := length_appendConn state channelId (state.binds task).cfg.id session
    simp only [bindTotal, completed, Manager.pool, Manager.unregistered, Manager.setBind] at *
    omega

theorem append (inv : Counted channelId concurrency state) {task session : ℕ}
    (isBound : (state.binds task).stage = .bound session) :
    Counted channelId concurrency (state.append task session) := by
  have inside := inv.lt_bindCount (by rw [isBound]; simp)
  unfold Manager.append
  simp only
  split
  · exact inv.appendConn isBound
  · have closed : Counted channelId concurrency
        (state.setSession session { state.sessions session with isClosed := true }) :=
      inv.setSession (fun quiet => ⟨quiet.1, quiet.2.1, quiet.2.2.1, rfl⟩) rfl
    exact closed.setBind inside (by simp [Manager.setSession, BindTask.live, isBound])
      (by simp [Manager.setSession, BindTask.completed, isBound])

theorem bindDone (inv : Counted channelId concurrency state) {task : ℕ}
    (unfinished : (state.binds task).stage ≠ .ended) :
    Counted channelId concurrency (state.bindDone task) := by
  have inside := inv.lt_bindCount unfinished
  have lives := live_exchange channelId inside { state.binds task with stage := .ended }
  have twices := completed_exchange channelId inside { state.binds task with stage := .ended }
  have within : (state.binds task).live channelId ≤ state.live channelId :=
    le_weight _ _ inside
  have fewer := BindTask.completed_le_live channelId (state.binds task)
  have ended : ({ state.binds task with stage := .ended } : BindTask).live channelId = 0 := by
    simp [BindTask.live]
  have once : ({ state.binds task with stage := .ended } : BindTask).completed channelId = 0 := by
    simp [BindTask.completed]
  have pending := inv.pending
  have bound := inv.bound
  have given : (state.bindDone task).pendingBinds channelId =
      state.pendingBinds channelId - (state.binds task).live channelId := by
    by_cases own : (state.binds task).cfg.id = channelId
    · subst channelId
      simp [Manager.bindDone, BindTask.live, unfinished]
    · simp [Manager.bindDone, BindTask.live, own, Function.update_of_ne (Ne.symm own)]
  refine ⟨inv.keyed, inv.planned, inv.sessions, ?_, ?_, ?_⟩
  · intro other outside
    have outside : state.bindCount ≤ other := outside
    simp only [Manager.bindDone, Function.update_of_ne (show other ≠ task by omega)]
    exact inv.binds other outside
  · have live : (state.bindDone task).live channelId =
      (state.setBind task { state.binds task with stage := .ended }).live channelId := rfl
    omega
  · have twice : (state.bindDone task).completed channelId =
      (state.setBind task { state.binds task with stage := .ended }).completed channelId := rfl
    have total : (state.bindDone task).bindTotal channelId =
      (state.pool channelId).length + (state.bindDone task).pendingBinds channelId := rfl
    have before : state.bindTotal channelId =
      (state.pool channelId).length + state.pendingBinds channelId := rfl
    have owed : (state.bindDone task).unregistered channelId =
      state.unregistered channelId := rfl
    omega

theorem onClosed (inv : Counted channelId concurrency state) {session : ℕ}
    (idle : (state.sessions session).onClosed = .idle) :
    Counted channelId concurrency (state.onClosed session) := by
  have inside : session < state.sessionCount := inv.lt_sessionCount (by simp [Quiet, idle])
  refine inv.remove inside ?_
  simp only [BoundSession.unregistered, idle, channelOf]
  by_cases inPool : state.InPool session
  · simp only [inPool]
    grind
  · simp only [inPool]
    grind

theorem watchdogGrace (inv : Counted channelId concurrency state) {session : ℕ}
    (grace : (state.sessions session).watchdog = .grace) :
    Counted channelId concurrency (state.watchdogGrace session) := by
  have inside : session < state.sessionCount := inv.lt_sessionCount (by simp [Quiet, grace])
  refine inv.remove inside ?_
  simp only [BoundSession.unregistered, grace, channelOf]
  by_cases inPool : state.InPool session
  · simp only [inPool]
    grind
  · simp only [inPool]
    grind

theorem monitorRemove (inv : Counted channelId concurrency state) {session : ℕ}
    (taking : (state.sessions session).monitor = .taking [])
    (present : state.channelOf session = channelId → state.InPool session) :
    Counted channelId concurrency (state.monitorRemove session) := by
  have inside : session < state.sessionCount := inv.lt_sessionCount (by simp [Quiet, taking])
  refine inv.remove inside ?_
  simp only [BoundSession.unregistered, taking, channelOf] at present ⊢
  by_cases own : (state.sessions session).cfg.id = channelId
  · simp only [own, present own]
    grind
  · simp [own]

theorem watchdogTick (inv : Counted channelId concurrency state) {session : ℕ} (silent : Bool)
    (running : (state.sessions session).watchdog = .running) :
    Counted channelId concurrency (state.watchdogTick session silent) := by
  have busy : ¬Quiet (state.sessions session) := by simp [Quiet, running]
  unfold Manager.watchdogTick
  simp only
  split
  · split
    · exact inv.setSession (absurd · busy) (by simp [BoundSession.unregistered, running])
    · exact inv
  · exact inv.setSession (absurd · busy) (by simp [BoundSession.unregistered, running])

theorem monitorTick (inv : Counted channelId concurrency state) {session : ℕ} (stale : List ℕ)
    (running : (state.sessions session).monitor = .running) :
    Counted channelId concurrency (state.monitorTick session stale) := by
  have busy : ¬Quiet (state.sessions session) := by simp [Quiet, running]
  unfold Manager.monitorTick
  simp only
  split
  · exact inv.setSession (absurd · busy) (by simp [BoundSession.unregistered, running])
  · split
    · exact inv
    · exact inv.setSession (absurd · busy) (by simp [BoundSession.unregistered, running])

theorem takeEntry (inv : Counted channelId concurrency state) (entry : ℕ) (publishes : Bool) :
    Counted channelId concurrency (state.takeEntry entry publishes) :=
  ⟨inv.keyed, inv.planned, inv.sessions, inv.binds, inv.pending, inv.bound⟩

theorem next {label : ManagerLabel} (inv : Counted channelId concurrency state)
    (step : state.next label = some after) (constant : HasConcurrency channelId concurrency label)
    (registered : state.Registered channelId label) :
    Counted channelId concurrency after := by
  cases performs_of_next step with
  | reload configs => exact inv.reload constant registered
  | reloadSpawn planned => exact inv.reloadSpawn planned
  | closeSession =>
      exact inv.setSession (fun quiet => ⟨quiet.1, quiet.2.1, quiet.2.2.1, rfl⟩) rfl
  | bindCheck checking => exact inv.bindCheck checking
  | bind binding => exact inv.bind _ binding
  | append bound => exact inv.append bound
  | bindDone finishing => exact inv.bindDone (by rw [finishing]; simp)
  | onClosed idle => exact inv.onClosed idle
  | onClosedSpawn respawning =>
      refine inv.respawn (inv.lt_sessionCount (by simp [Quiet, respawning])) ?_
      simp only [BoundSession.unregistered, respawning]
      grind
  | onClosedCollect collecting =>
      exact inv.setSession (fun quiet => by simp [Quiet, collecting] at quiet)
        (by simp [BoundSession.unregistered, collecting])
  | onClosedTake sweeping =>
      exact (inv.takeEntry _ _).setSession
        (fun quiet => by simp [Quiet, Manager.takeEntry, setEntry, sweeping] at quiet)
        (BoundSession.unregistered_congr rfl (by simp [Manager.takeEntry, setEntry, sweeping])
          Iff.rfl Iff.rfl)
  | watchdogTick running => exact inv.watchdogTick _ running
  | watchdogGrace grace => exact inv.watchdogGrace grace
  | watchdogSpawn respawning =>
      refine inv.respawn (inv.lt_sessionCount (by simp [Quiet, respawning])) ?_
      simp only [BoundSession.unregistered, respawning]
      grind
  | monitorTick running => exact inv.monitorTick _ running
  | monitorTake taking =>
      exact (inv.takeEntry _ _).setSession
        (fun quiet => by simp [Quiet, Manager.takeEntry, setEntry, taking] at quiet)
        (BoundSession.unregistered_congr rfl Iff.rfl Iff.rfl
          (by simp [Manager.takeEntry, setEntry, taking]))
  | monitorRemove taken => exact inv.monitorRemove taken registered
  | monitorSpawn respawning =>
      refine inv.respawn (inv.lt_sessionCount (by simp [Quiet, respawning])) ?_
      simp only [BoundSession.unregistered, respawning]
      grind
  | store => exact ⟨inv.keyed, inv.planned, inv.sessions, inv.binds, inv.pending, inv.bound⟩
  | submit => exact ⟨inv.keyed, inv.planned, inv.sessions, inv.binds, inv.pending, inv.bound⟩
  | response => exact inv.takeEntry _ _

end Counted

/-- In every run in which no reload overlooks a bind that is owed, and every stale monitor
removes the session that it replaces, the pool and the pending binds of a channel, less those
that are in the pool already, stay within its concurrency. -/
theorem binds_within_concurrency {channelId concurrency : ℕ}
    {transitions : List (Transition Manager ManagerLabel)} {last : Manager}
    (run : Run Step initial transitions last)
    (constant : ∀ transition ∈ transitions,
      HasConcurrency channelId concurrency transition.label)
    (registered : ∀ transition ∈ transitions,
      transition.before.Registered channelId transition.label) :
    last.bindTotal channelId ≤ concurrency + last.completed channelId := by
  have preserved : ∀ before label after,
      Guarded Step (fun state label => HasConcurrency channelId concurrency label ∧
        state.Registered channelId label) before label after →
      Counted channelId concurrency before → Counted channelId concurrency after :=
    fun _ _ _ guarded inv => inv.next guarded.1 guarded.2.1 guarded.2.2
  have met : Run (Guarded Step fun state label => HasConcurrency channelId concurrency label ∧
      state.Registered channelId label) initial transitions last :=
    run.guarded fun transition member => ⟨constant transition member, registered transition member⟩
  have bound := (met.invariant preserved Counted.initial).1.bound
  omega

theorem hasConcurrency_bindFirst (label : ManagerLabel) (member : label ∈ bindFirst "smsc") :
    HasConcurrency 7 1 label := by
  simp only [bindFirst, List.mem_cons, List.not_mem_nil, or_false] at member
  rcases member with rfl | rfl | rfl | rfl | rfl | rfl
  · intro cfg found
    cases found
    rfl
  all_goals trivial

/-- The first load of channel 7 stays within its concurrency. -/
theorem binds_within_concurrency_first :
    ∃ transitions last, Run Step initial transitions last ∧ last.pool 7 = [0] ∧
      last.bindTotal 7 ≤ 1 + last.completed 7 := by
  have bound := Run.exists_labels_of_execute (fun state : Manager => state.pool 7 = [0])
    (show ((execute next (initial.reload [channelSeven "smsc"]) (bindFirst "smsc").tail).any _) =
      true by decide)
  rcases bound with ⟨transitions, last, run, labels, pool⟩
  have loaded : Step initial (.reload [channelSeven "smsc"])
      (initial.reload [channelSeven "smsc"]) := rfl
  refine ⟨_, last, .cons loaded run, pool, binds_within_concurrency (.cons loaded run) ?_ ?_⟩
  · intro transition member
    rcases List.mem_cons.mp member with rfl | inRest
    · exact hasConcurrency_bindFirst _ List.mem_cons_self
    · exact hasConcurrency_bindFirst _ (List.mem_of_mem_tail (labels transition inRest))
  · intro transition member
    rcases List.mem_cons.mp member with rfl | inRest
    · intro _
      decide
    · have label := labels transition inRest
      simp only [bindFirst, List.tail_cons, List.mem_cons, List.not_mem_nil, or_false] at label
      rcases label with label | label | label | label | label <;> (rw [label]; trivial)

/-- A session is replaced by `OnClosed` and by its monitor. -/
def replaceTwice : List ManagerLabel :=
  [.store 0, .submit 0 true, .monitorTick 0 [0], .onClosed 0, .onClosedSpawn 0,
    .monitorTake 0 true, .monitorRemove 0, .monitorSpawn 0, .bindCheck 1, .bind 1 true,
    .append 1, .bindDone 1, .bindCheck 2, .bind 2 true, .append 2, .bindDone 2]

/-- While a bind that has put its session into the pool has not returned, it is counted twice.
Once it has returned, a session with a stale entry is closed by the upstream: `OnClosed` removes
it and registers a bind, and its monitor, which has found the entry before, registers another.
Both bind. -/
theorem concurrency_exceeded :
    (∃ transitions last, Run Step initial transitions last ∧
      (∀ transition ∈ transitions, HasConcurrency 7 1 transition.label) ∧
      last.bindTotal 7 = 2 ∧ last.completed 7 = 1) ∧
    ∃ transitions last, Run Step initial transitions last ∧
      (∀ transition ∈ transitions, HasConcurrency 7 1 transition.label) ∧
      last.bindTotal 7 = 2 ∧ last.completed 7 = 0 ∧ last.pool 7 = [1, 2] := by
  have once := Run.exists_labels_of_execute
    (fun state : Manager => state.bindTotal 7 = 2 ∧ state.completed 7 = 1)
    (show ((execute next initial (bindFirst "smsc").dropLast).any _) = true by decide)
  have twice := Run.exists_labels_of_execute
    (fun state : Manager => state.bindTotal 7 = 2 ∧ state.completed 7 = 0 ∧ state.pool 7 = [1, 2])
    (show ((execute next initial (bindFirst "smsc" ++ replaceTwice)).any _) = true by
      decide)
  rcases once with ⟨transitions, last, run, labels, counts⟩
  rcases twice with ⟨transitions', last', run', labels', counts'⟩
  refine ⟨⟨transitions, last, run, ?_, counts⟩, ⟨transitions', last', run', ?_, counts'⟩⟩
  · intro transition member
    exact hasConcurrency_bindFirst _ (List.mem_of_mem_dropLast (labels transition member))
  · intro transition member
    rcases List.mem_append.mp (labels' transition member) with first | later
    · exact hasConcurrency_bindFirst _ first
    · simp only [replaceTwice, List.mem_cons, List.not_mem_nil, or_false] at later
      rcases later with label | label | label | label | label | label | label | label | label |
        label | label | label | label | label | label | label <;> (rw [label]; trivial)

end Manager

end Klsmsc
