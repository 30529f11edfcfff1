import Klsmsc.Gateway.Manager

/-!
# Messages in flight

A message stays in `sequenceMap` until its response arrives, its session is swept after an
unexpected close, or the stale monitor of its session finds it. The monitor ends when it
finds its channel removed, and after it has replaced its session; an explicit close sweeps
nothing. A message is therefore lost when it is still in the map as the monitor ends, unless
a sweep of its session is under way.
-/

namespace Klsmsc

open Library

/-- The sweep of `OnClosed` is still to come to an entry. -/
def OnClosedStage.Sweeps (stage : OnClosedStage) (entry : ℕ) : Prop :=
  match stage with
  | .idle => False
  | .respawning => True
  | .collecting => True
  | .sweeping keys => entry ∈ keys

def BoundSession.Watches (session : BoundSession) (entry : ℕ) : Prop :=
  session.monitor ≠ .ended ∨ session.onClosed.Sweeps entry

namespace Manager

variable (state : Manager)

/-- Every entry in the map is watched, and a submitted message has exactly one outcome once
its entry has left the map, and none before. -/
structure EntriesWatched : Prop where
  watched : ∀ entry, (state.entries entry).inMap = true →
    (state.sessions (state.entries entry).session).Watches entry
  once : ∀ entry, (state.entries entry).submit = .submitted →
    (state.entries entry).outcomes = if (state.entries entry).inMap then 0 else 1

def AllSwept (session : ℕ) : Prop :=
  ∀ entry, (state.entries entry).inMap = true → (state.entries entry).session = session →
    (state.sessions session).onClosed.Sweeps entry

/-- The outcome of an entry that is taken is published. A monitor ends when its session has
only entries that are to be swept, and a message is stored with a session that is watched. -/
def OutcomesKept : ManagerLabel → Prop
  | .onClosedTake session publishes =>
      ∀ entry rest, (state.sessions session).onClosed = .sweeping (entry :: rest) →
        (state.entries entry).inMap = true → publishes = true
  | .monitorTake session publishes =>
      ∀ entry rest, (state.sessions session).monitor = .taking (entry :: rest) →
        (state.entries entry).inMap = true → publishes = true
  | .response entry status republishes publishes =>
      (state.entries entry).inMap = true → status.produces republishes publishes = true
  | .monitorTick session _ =>
      state.configs (state.channelOf session) = none → state.AllSwept session
  | .monitorSpawn session => state.AllSwept session
  | .store session => (state.sessions session).Watches state.entryCount
  | _ => True

structure InFlight : Prop where
  fresh : ∀ entry, state.entryCount ≤ entry →
    (state.entries entry).inMap = false ∧ (state.entries entry).submit = .failed
  inside : ∀ entry, (state.entries entry).inMap = true →
    (state.entries entry).session < state.sessionCount
  watched : ∀ entry, (state.entries entry).inMap = true →
    (state.sessions (state.entries entry).session).Watches entry
  once : ∀ entry, (state.entries entry).submit ≠ .failed →
    (state.entries entry).outcomes = if (state.entries entry).inMap then 0 else 1

namespace InFlight

variable {state} {after : Manager}

theorem initial : InFlight initial where
  fresh := fun _ _ => ⟨rfl, rfl⟩
  inside := fun _ inMap => by cases inMap
  watched := fun _ inMap => by cases inMap
  once := fun _ live => absurd rfl live

theorem entriesWatched (inv : state.InFlight) : state.EntriesWatched where
  watched := inv.watched
  once := fun entry submitted => inv.once entry (by rw [submitted]; simp)

theorem mono (inv : state.InFlight) (entries : after.entries = state.entries)
    (count : after.entryCount = state.entryCount)
    (sessions : state.sessionCount ≤ after.sessionCount)
    (watched : ∀ entry, (state.entries entry).inMap = true →
      (state.sessions (state.entries entry).session).Watches entry →
        (after.sessions (state.entries entry).session).Watches entry) :
    after.InFlight where
  fresh := by
    rw [entries, count]
    exact inv.fresh
  inside := by
    intro entry inMap
    rw [entries] at inMap ⊢
    exact Nat.lt_of_lt_of_le (inv.inside entry inMap) sessions
  watched := by
    intro entry inMap
    rw [entries] at inMap ⊢
    exact watched entry inMap (inv.watched entry inMap)
  once := by
    rw [entries]
    exact inv.once

theorem of_same (inv : state.InFlight) (entries : after.entries = state.entries)
    (count : after.entryCount = state.entryCount)
    (number : after.sessionCount = state.sessionCount)
    (sessions : after.sessions = state.sessions) : after.InFlight := by
  refine inv.mono entries count (Nat.le_of_eq number.symm) ?_
  intro entry _ watched
  rw [sessions]
  exact watched

theorem setSession (inv : state.InFlight) {session : ℕ} {new : BoundSession}
    (watched : ∀ entry, (state.entries entry).inMap = true →
      (state.entries entry).session = session → (state.sessions session).Watches entry →
        new.Watches entry) :
    (state.setSession session new).InFlight := by
  refine inv.mono rfl rfl (Nat.le_refl _) ?_
  intro entry inMap before
  simp only [Manager.setSession, Function.update_apply]
  split
  · rename_i isSession
    exact watched entry inMap isSession (isSession ▸ before)
  · exact before

theorem setSession_of_eq (inv : state.InFlight) {session : ℕ} {new : BoundSession}
    (monitor : new.monitor = (state.sessions session).monitor)
    (onClosed : new.onClosed = (state.sessions session).onClosed) :
    (state.setSession session new).InFlight := by
  refine inv.setSession ?_
  intro entry _ _ watched
  unfold BoundSession.Watches at watched ⊢
  rw [monitor, onClosed]
  exact watched

theorem removeSession (inv : state.InFlight) (session : ℕ) :
    (state.removeSession session).InFlight :=
  inv.of_same rfl rfl rfl rfl

theorem spawnBind (inv : state.InFlight) (cfg : ChannelConfig) (site : BindSite) :
    (state.spawnBind cfg site).InFlight :=
  inv.of_same rfl rfl rfl rfl

theorem setBind (inv : state.InFlight) (task : ℕ) (new : BindTask) :
    (state.setBind task new).InFlight :=
  inv.of_same rfl rfl rfl rfl

theorem addSession (inv : state.InFlight) (cfg : ChannelConfig) :
    (state.addSession cfg).InFlight := by
  refine inv.mono rfl rfl (Nat.le_succ _) ?_
  intro entry inMap watched
  have inside := inv.inside entry inMap
  simp only [Manager.addSession, Function.update_of_ne (Nat.ne_of_lt inside)]
  exact watched

theorem reload (inv : state.InFlight) (configs : List ChannelConfig) :
    (state.reload configs).InFlight := by
  refine inv.mono rfl rfl (Nat.le_refl _) ?_
  intro entry _ watched
  simp only [Manager.reload]
  split
  · exact watched
  · exact watched

theorem lt_entryCount (inv : state.InFlight) {entry : ℕ}
    (known : (state.entries entry).inMap = true ∨ (state.entries entry).submit ≠ .failed) :
    entry < state.entryCount := by
  by_contra outside
  rcases inv.fresh entry (Nat.le_of_not_lt outside) with ⟨absent, failed⟩
  rcases known with inMap | live
  · rw [absent] at inMap
    cases inMap
  · exact live failed

theorem setEntry (inv : state.InFlight) {entry : ℕ} {new : SequenceEntry}
    (old : entry < state.entryCount) (session : new.session = (state.entries entry).session)
    (leaves : new.inMap = true → (state.entries entry).inMap = true)
    (once : new.submit ≠ .failed → new.outcomes = if new.inMap then 0 else 1) :
    (state.setEntry entry new).InFlight where
  fresh := by
    intro other outside
    have outside : state.entryCount ≤ other := outside
    simp only [Manager.setEntry, Function.update_of_ne (show other ≠ entry by omega)]
    exact inv.fresh other outside
  inside := by
    intro other inMap
    simp only [Manager.setEntry, Function.update_apply] at inMap ⊢
    split
    · rename_i isEntry
      rw [if_pos isEntry] at inMap
      rw [session]
      exact inv.inside entry (leaves inMap)
    · rename_i differs
      rw [if_neg differs] at inMap
      exact inv.inside other inMap
  watched := by
    intro other inMap
    simp only [Manager.setEntry, Function.update_apply] at inMap ⊢
    split
    · rename_i isEntry
      subst isEntry
      rw [if_pos rfl] at inMap
      rw [session]
      exact inv.watched other (leaves inMap)
    · rename_i differs
      rw [if_neg differs] at inMap
      exact inv.watched other inMap
  once := by
    intro other live
    simp only [Manager.setEntry, Function.update_apply] at live ⊢
    split
    · rename_i isEntry
      rw [if_pos isEntry] at live
      exact once live
    · rename_i differs
      rw [if_neg differs] at live
      exact inv.once other live

theorem takeEntry (inv : state.InFlight) {entry : ℕ} {produces : Bool}
    (outcome : (state.entries entry).inMap = true → produces = true) :
    (state.takeEntry entry produces).InFlight := by
  by_cases inMap : (state.entries entry).inMap = true
  · unfold Manager.takeEntry
    refine inv.setEntry (inv.lt_entryCount (Or.inl inMap)) ?_ (fun _ => inMap) ?_
    · simp [SequenceEntry.take, inMap]
    · intro live
      simp only [SequenceEntry.take, inMap, if_true] at live ⊢
      have before := inv.once entry live
      rw [inMap] at before
      simpa [outcome inMap] using before
  · have stays : state.takeEntry entry produces = state := by
      simp [Manager.takeEntry, SequenceEntry.take, inMap, Manager.setEntry]
    rw [stays]
    exact inv

theorem inMap_takeEntry {entry other : ℕ} {produces : Bool}
    (stays : ((state.takeEntry entry produces).entries other).inMap = true) : other ≠ entry := by
  rintro rfl
  simp only [Manager.takeEntry, Manager.setEntry, Function.update_self,
    SequenceEntry.take] at stays
  split at stays
  · cases stays
  · contradiction

theorem onClosedTake (inv : state.InFlight) {session entry : ℕ} {rest : List ℕ}
    {publishes : Bool} (sweeping : (state.sessions session).onClosed = .sweeping (entry :: rest))
    (outcome : (state.entries entry).inMap = true → publishes = true) :
    ((state.takeEntry entry publishes).setSession session
      { state.sessions session with onClosed := .sweeping rest }).InFlight := by
  refine (inv.takeEntry outcome).setSession ?_
  intro other stays _ watched
  have isOther := inMap_takeEntry stays
  have watched : (state.sessions session).Watches other := watched
  simp only [BoundSession.Watches, OnClosedStage.Sweeps, sweeping, List.mem_cons] at watched ⊢
  rcases watched with running | isEntry | inRest
  · exact Or.inl running
  · exact absurd isEntry isOther
  · exact Or.inr inRest

theorem monitorEnded (inv : state.InFlight) {session : ℕ} (swept : state.AllSwept session) :
    (state.setSession session { state.sessions session with monitor := .ended }).InFlight :=
  inv.setSession fun entry inMap isSession _ => Or.inr (swept entry inMap isSession)

theorem monitorTick (inv : state.InFlight) {session : ℕ} {stale : List ℕ}
    (swept : state.configs (state.channelOf session) = none → state.AllSwept session) :
    (state.monitorTick session stale).InFlight := by
  unfold Manager.monitorTick
  simp only
  split
  · rename_i removed
    exact inv.monitorEnded (swept (Option.isNone_iff_eq_none.mp removed))
  · split
    · exact inv
    · exact inv.setSession fun _ _ _ _ => Or.inl (by simp)

theorem watchdogTick (inv : state.InFlight) {session : ℕ} {silent : Bool} :
    (state.watchdogTick session silent).InFlight := by
  unfold Manager.watchdogTick
  simp only
  split
  · split
    · exact inv.setSession_of_eq rfl rfl
    · exact inv
  · exact inv.setSession_of_eq rfl rfl

theorem onClosed (inv : state.InFlight) {session : ℕ}
    (idle : (state.sessions session).onClosed = .idle) : (state.onClosed session).InFlight := by
  refine (inv.removeSession session).setSession ?_
  intro entry _ _ watched
  rcases watched with running | swept
  · exact Or.inl running
  · have swept : (state.sessions session).onClosed.Sweeps entry := swept
    rw [idle] at swept
    cases swept

theorem onClosedCollect (inv : state.InFlight) (session : ℕ) :
    (state.setSession session
      { state.sessions session with onClosed := .sweeping (state.keysOf session) }).InFlight := by
  refine inv.setSession ?_
  intro entry inMap isSession _
  refine Or.inr (List.mem_filter.mpr ⟨List.mem_range.mpr ?_, by simp [inMap, isSession]⟩)
  by_contra outside
  have fresh := (inv.fresh entry (Nat.le_of_not_lt outside)).1
  rw [inMap] at fresh
  cases fresh

theorem store (inv : state.InFlight) {session : ℕ} (inside : session < state.sessionCount)
    (watched : (state.sessions session).Watches state.entryCount) :
    (state.store session).InFlight where
  fresh := by
    intro entry outside
    have outside : state.entryCount < entry := outside
    simp only [Manager.store, Function.update_of_ne (Nat.ne_of_gt outside)]
    exact inv.fresh entry (Nat.le_of_lt outside)
  inside := by
    intro entry inMap
    simp only [Manager.store, Function.update_apply] at inMap ⊢
    split
    · exact inside
    · rename_i differs
      rw [if_neg differs] at inMap
      exact inv.inside entry inMap
  watched := by
    intro entry inMap
    simp only [Manager.store, Function.update_apply] at inMap ⊢
    split
    · rename_i isNew
      subst entry
      exact watched
    · rename_i differs
      rw [if_neg differs] at inMap
      exact inv.watched entry inMap
  once := by
    intro entry live
    simp only [Manager.store, Function.update_apply] at live ⊢
    split
    · rfl
    · rename_i differs
      rw [if_neg differs] at live
      exact inv.once entry live

theorem submit (inv : state.InFlight) {entry : ℕ} (succeeds : Bool)
    (submitting : (state.entries entry).submit = .submitting) :
    (state.submit entry succeeds).InFlight := by
  have live : (state.entries entry).submit ≠ .failed := by rw [submitting]; simp
  have old := inv.lt_entryCount (Or.inr live)
  unfold Manager.submit
  cases succeeds with
  | true => exact inv.setEntry old rfl id fun _ => inv.once entry live
  | false => exact inv.setEntry old rfl (by simp) (by simp)

theorem next {label : ManagerLabel} (inv : state.InFlight) (step : state.next label = some after)
    (kept : state.OutcomesKept label) : after.InFlight := by
  cases performs_of_next step with
  | reload configs => exact inv.reload configs
  | reloadSpawn => exact inv.of_same rfl rfl rfl rfl
  | closeSession => exact inv.setSession_of_eq rfl rfl
  | @bindCheck task =>
      simp only [Manager.bindCheck]
      split <;> exact inv.setBind task _
  | @bind task =>
      simp only [Manager.bind]
      split
      · exact (inv.addSession _).setBind task _
      · exact inv.setBind task _
  | @append task session =>
      simp only [Manager.append]
      split
      · exact inv.of_same rfl rfl rfl rfl
      · have closed : (state.setSession session
            { state.sessions session with isClosed := true }).InFlight :=
          inv.setSession_of_eq rfl rfl
        exact closed.setBind task _
  | bindDone => exact inv.of_same rfl rfl rfl rfl
  | onClosed idle => exact inv.onClosed idle
  | onClosedSpawn => exact (inv.spawnBind _ .rebind).setSession fun _ _ _ _ => Or.inr trivial
  | onClosedCollect => exact inv.onClosedCollect _
  | onClosedTake sweeping => exact inv.onClosedTake sweeping (kept _ _ sweeping)
  | watchdogTick => exact inv.watchdogTick
  | watchdogGrace => exact (inv.removeSession _).setSession_of_eq rfl rfl
  | watchdogSpawn => exact (inv.spawnBind _ .rebind).setSession_of_eq rfl rfl
  | monitorTick => exact inv.monitorTick kept
  | monitorTake taking =>
      exact (inv.takeEntry (kept _ _ taking)).setSession fun _ _ _ _ => Or.inl (by simp)
  | monitorRemove => exact (inv.removeSession _).setSession fun _ _ _ _ => Or.inl (by simp)
  | monitorSpawn => exact (inv.spawnBind _ .rebind).monitorEnded kept
  | store inside => exact inv.store inside kept
  | submit submitting => exact inv.submit _ submitting
  | response => exact inv.takeEntry kept

end InFlight

/-- In every run in which taken entries have their outcomes published, and no monitor ends and
no message is stored while an entry of the session would be left to nobody, every entry is
watched and every submitted message has its one outcome. -/
theorem entries_watched {transitions : List (Transition Manager ManagerLabel)} {last : Manager}
    (run : Run Step initial transitions last)
    (kept : ∀ transition ∈ transitions, transition.before.OutcomesKept transition.label) :
    last.EntriesWatched ∧ ∀ transition ∈ transitions, transition.after.EntriesWatched := by
  have preserved : ∀ before label after, Guarded Step OutcomesKept before label after →
      InFlight before → InFlight after :=
    fun _ _ _ guarded inv => inv.next guarded.1 guarded.2
  rcases (run.guarded kept).invariant preserved InFlight.initial with ⟨atEnd, inside⟩
  exact ⟨atEnd.entriesWatched, fun transition member => (inside transition member).2.entriesWatched⟩

/-- The channel of a message in flight is removed: the stale monitor ends at its next tick, and
the session is closed explicitly. The entry stays in the map. -/
theorem entry_leaked :
    ∃ transitions last, Run Step initial transitions last ∧
      (last.entries 0).submit = .submitted ∧ (last.entries 0).inMap = true ∧
      (last.sessions 0).isClosed = true ∧ ¬last.EntriesWatched := by
  have leaked := Run.exists_labels_of_execute
    (fun state : Manager => (state.entries 0).submit = .submitted ∧
      (state.entries 0).inMap = true ∧ (state.entries 0).session = 0 ∧
      (state.sessions 0).isClosed = true ∧
      (state.sessions 0).monitor = .ended ∧ (state.sessions 0).onClosed = .idle)
    (show ((execute next initial (bindFirst "smsc" ++
      [.store 0, .submit 0 true, .reload [], .monitorTick 0 [], .closeSession 0])).any _) = true by
        decide)
  rcases leaked with ⟨transitions, last, run, _, submitted, inMap, own, closed, ended, idle⟩
  refine ⟨transitions, last, run, submitted, inMap, closed, ?_⟩
  intro watched
  have watches := watched.watched 0 inMap
  rw [own] at watches
  rcases watches with running | swept
  · exact running ended
  · rw [idle] at swept
    cases swept

/-- The response to the first message of channel 7 arrives. -/
theorem entries_watched_first :
    ∃ transitions last, Run Step initial transitions last ∧
      (last.entries 0).submit = .submitted ∧ (last.entries 0).inMap = false ∧
      last.EntriesWatched := by
  have bound := Run.exists_labels_of_execute
    (fun state : Manager => (state.sessions 0).monitor = .running ∧
      (state.sessions 0).isClosed = false ∧ state.sessionCount = 1 ∧ state.entryCount = 0)
    (show ((execute next initial (bindFirst "smsc")).any _) = true by decide)
  rcases bound with ⟨transitions, last, run, labels, running, alive, one, none⟩
  have stored : Step last (.store 0) (last.store 0) := by simp [Step, next, one]
  have submitted : Step (last.store 0) (.submit 0 true) ((last.store 0).submit 0 true) := by
    simp [Step, next, Manager.store, none, alive]
  have answered : Step ((last.store 0).submit 0 true) (.response 0 .ok false true)
      (((last.store 0).submit 0 true).takeEntry 0 true) := by
    simp [Step, next, Manager.store, Manager.submit, Manager.setEntry, none,
      ResponseStatus.produces]
  have whole := run.append (.cons stored (.cons submitted (.cons answered (.nil _))))
  refine ⟨_, _, whole, ?_, ?_, (entries_watched whole ?_).1⟩
  · simp [Manager.takeEntry, SequenceEntry.take, Manager.setEntry, Manager.submit, Manager.store, none]
  · simp [Manager.takeEntry, SequenceEntry.take, Manager.setEntry, Manager.submit, Manager.store, none]
  · intro transition member
    simp only [List.mem_append, List.mem_cons, List.not_mem_nil, or_false] at member
    rcases member with first | rfl | rfl | rfl
    · have label := labels transition first
      simp only [bindFirst, List.mem_cons, List.not_mem_nil, or_false] at label
      rcases label with label | label | label | label | label | label <;> (rw [label]; trivial)
    · exact Or.inl (by rw [running]; simp)
    · trivial
    · intro _
      rfl

end Manager

end Klsmsc
