import Klsmsc.Gateway.SendSms

/-!
# The window of a channel

A call compares the number of entries with the window, and stores its own entry later: it waits for
the mutex of its session first. All calls that compare before one of them stores find the same
number. The window is kept in every run in which a comparison succeeds only while the entries
together with the calls that have passed it and have not stored yet leave room.
-/

namespace Klsmsc

open Library

def OutboundStage.claims : OutboundStage → ℕ
  | .passed _ _ => 1
  | .fetching _ _ => 1
  | .preparing _ _ _ => 1
  | .storing _ _ _ => 1
  | _ => 0

def OutboundLabel.compared : OutboundLabel → Option ℕ
  | .compare index => some index
  | _ => none

namespace Outbound

variable (channel : OutboundChannel) (state : Outbound)

def pending : ℕ :=
  weight state.callCount OutboundStage.claims state.calls

def passes (index : ℕ) : Bool :=
  match state.calls index with
  | .counting _ _ _ [] count => decide ((count : ℤ) < channel.inflightWindowMax)
  | _ => false

/-- A comparison that succeeds leaves room for the entries and for the calls that have passed
before. -/
def Heeds (label : OutboundLabel) : Prop :=
  ∀ index ∈ label.compared, state.passes channel index = true →
    (state.entries.length + state.pending : ℤ) < channel.inflightWindowMax

instance (label : OutboundLabel) : Decidable (state.Heeds channel label) :=
  inferInstanceAs (Decidable (∀ index ∈ label.compared, _ → _))

def WithinWindow : Prop :=
  (state.entries.length : ℤ) ≤ channel.inflightWindowMax

structure WindowSound : Prop where
  fresh : ∀ index, state.callCount ≤ index → state.calls index = .returned none
  room : (state.entries.length + state.pending : ℤ) ≤ channel.inflightWindowMax

variable {channel state} {after : Outbound}

theorem WindowSound.goesOn (sound : state.WindowSound channel) {index : ℕ}
    {stage next : OutboundStage} (current : state.calls index = stage)
    (running : stage ≠ .returned none)
    (calls : after.calls = Function.update state.calls index next)
    (same : after.callCount = state.callCount)
    (balanced : after.entries.length + next.claims ≤ state.entries.length + stage.claims) :
    after.WindowSound channel := by
  have inside : index < state.callCount := by
    by_contra beyond
    exact running (current.symm.trans (sound.fresh index (by omega)))
  have exchanged := weight_update OutboundStage.claims state.calls inside next
  have room := sound.room
  rw [current] at exchanged
  refine ⟨?_, ?_⟩
  · intro other beyond
    rw [same] at beyond
    rw [calls, Function.update_of_ne (by omega), sound.fresh other beyond]
  · unfold pending at room ⊢
    rw [calls, same]
    omega

theorem WindowSound.ofFewer (sound : state.WindowSound channel)
    (calls : after.calls = state.calls) (same : after.callCount = state.callCount)
    (fewer : after.entries.length ≤ state.entries.length) : after.WindowSound channel := by
  have room := sound.room
  refine ⟨by rw [calls, same]; exact sound.fresh, ?_⟩
  unfold pending at room ⊢
  rw [calls, same]
  omega

theorem length_storeEntry (key : SequenceKey) :
    (state.storeEntry key).length ≤ state.entries.length + 1 := by
  unfold storeEntry
  split
  · exact Nat.le_succ _
  · simp

theorem WindowSound.call (sound : state.WindowSound channel) :
    WindowSound channel
      { state.setCall state.callCount (.connecting 0) with callCount := state.callCount + 1 } := by
  have room := sound.room
  refine ⟨?_, ?_⟩
  · intro other beyond
    change Function.update state.calls state.callCount _ other = _
    change state.callCount + 1 ≤ other at beyond
    rw [Function.update_of_ne (by omega), sound.fresh other (by omega)]
  · have new : weight (state.callCount + 1) OutboundStage.claims
        (Function.update state.calls state.callCount (.connecting 0)) =
          weight state.callCount OutboundStage.claims state.calls := by
      rw [weight_succ, weight_update_of_le _ _ (Nat.le_refl _), Function.update_self]
      rfl
    unfold pending at room ⊢
    change ((state.entries.length : ℤ) + (weight (state.callCount + 1) OutboundStage.claims
      (Function.update state.calls state.callCount (.connecting 0)) : ℕ)) ≤ _
    rwa [new]

theorem WindowSound.pass (sound : state.WindowSound channel) {index session waited count : ℕ}
    {mutex : Bool} (counting : state.calls index = .counting session mutex waited [] count)
    (below : (count : ℤ) < channel.inflightWindowMax)
    (heeds : state.Heeds channel (.compare index)) :
    (state.setCall index (.passed session mutex)).WindowSound channel := by
  have inside : index < state.callCount := by
    by_contra beyond
    rw [sound.fresh index (by omega)] at counting
    cases counting
  have exchanged := weight_update OutboundStage.claims state.calls inside (.passed session mutex)
  rw [counting] at exchanged
  have room := heeds index rfl (by simp only [passes, counting, below, decide_true])
  refine ⟨?_, ?_⟩
  · intro other beyond
    change Function.update state.calls index _ other = _
    change state.callCount ≤ other at beyond
    rw [Function.update_of_ne (by omega), sound.fresh other beyond]
  · change weight _ _ _ + 0 = weight _ _ _ + 1 at exchanged
    change ((state.entries.length : ℤ) + (weight state.callCount OutboundStage.claims
      (Function.update state.calls index (.passed session mutex)) : ℕ)) ≤ _
    unfold pending at room
    omega

theorem WindowSound.step (sound : state.WindowSound channel) {label : OutboundLabel}
    (step : state.Step channel label after) (heeds : state.Heeds channel label) :
    after.WindowSound channel := by
  cases performs_of_step step with
  | call => exact sound.call
  | connected connecting => exact sound.goesOn connecting (by simp) rfl rfl (Nat.le_refl _)
  | neverConnected connecting => exact sound.goesOn connecting (by simp) rfl rfl (Nat.le_refl _)
  | stillConnecting connecting => exact sound.goesOn connecting (by simp) rfl rfl (Nat.le_refl _)
  | choose choosing => exact sound.goesOn choosing (by simp) rfl rfl (Nat.le_refl _)
  | chooseNone choosing => exact sound.goesOn choosing (by simp) rfl rfl (Nat.le_refl _)
  | waitLimiter limited => exact sound.goesOn limited (by simp) rfl rfl (Nat.le_refl _)
  | range checking => exact sound.goesOn checking (by simp) rfl rfl (Nat.le_refl _)
  | visit counting => exact sound.goesOn counting (by simp) rfl rfl (Nat.le_refl _)
  | pass counting below => exact sound.pass counting below heeds
  | neverPass counting => exact sound.goesOn counting (by simp) rfl rfl (Nat.le_refl _)
  | checkAgain counting => exact sound.goesOn counting (by simp) rfl rfl (Nat.le_refl _)
  | lock passed => exact sound.goesOn passed (by simp) rfl rfl (Nat.le_refl _)
  | noLock passed => exact sound.goesOn passed (by simp) rfl rfl (Nat.le_refl _)
  | fetch fetching => exact sound.goesOn fetching (by simp) rfl rfl (Nat.le_refl _)
  | prepare preparing => exact sound.goesOn preparing (by simp) rfl rfl (Nat.le_refl _)
  | prepareFails preparing => exact sound.goesOn preparing (by simp) rfl rfl (Nat.le_succ _)
  | store storing => exact sound.goesOn storing (by simp) rfl rfl (length_storeEntry _)
  | submit submitting => exact sound.goesOn submitting (by simp) rfl rfl (Nat.le_refl _)
  | submitFails submitting =>
      refine sound.goesOn submitting (by simp) rfl rfl ?_
      exact Nat.add_le_add_right (List.length_erase_le ..) 0
  | finish submitted => exact sound.goesOn submitted (by simp) rfl rfl (Nat.le_refl _)
  | add => exact sound.ofFewer rfl rfl (Nat.le_refl _)
  | remove => exact sound.ofFewer rfl rfl (Nat.le_refl _)
  | rebind => exact sound.ofFewer rfl rfl (Nat.le_refl _)
  | close => exact sound.ofFewer rfl rfl (Nat.le_refl _)
  | loadAndDelete => exact sound.ofFewer rfl rfl (List.length_erase_le ..)

/-- In every run in which each comparison that succeeds leaves room for the calls that have passed
before, the entries are within the window. -/
theorem within_window (wide : 1 ≤ channel.inflightWindowMax)
    {transitions : List (Transition Outbound OutboundLabel)} {last : Outbound}
    (run : Run (Step channel) initial transitions last)
    (heeds : ∀ transition ∈ transitions, transition.before.Heeds channel transition.label) :
    last.WithinWindow channel ∧ ∀ transition ∈ transitions,
      transition.before.WithinWindow channel ∧ transition.after.WithinWindow channel := by
  have first : initial.WindowSound channel := by
    refine ⟨fun _ _ => rfl, ?_⟩
    change (0 : ℤ) + (weight 0 _ _ : ℕ) ≤ _
    rw [weight_zero]
    omega
  have within : ∀ state : Outbound, state.WindowSound channel → state.WithinWindow channel := by
    intro state sound
    have room := sound.room
    unfold WithinWindow
    omega
  have preserved : ∀ before label after, Guarded (Step channel) (Heeds channel) before label after →
      before.WindowSound channel → after.WindowSound channel :=
    fun _ _ _ step sound => sound.step step.1 step.2
  have sound := (run.guarded heeds).invariant preserved first
  exact ⟨within _ sound.1, fun transition member =>
    ⟨within _ (sound.2 transition member).1, within _ (sound.2 transition member).2⟩⟩

def windowOfOne : OutboundChannel := ⟨7, some (.obj [("max_inflight", .num 1)])⟩

def untilPassed (index : ℕ) : List OutboundLabel :=
  [.checkConn index, .choose index 0, .waitLimiter index, .range index, .compare index]

def sincePassed (index sequenceNumber : ℕ) : List OutboundLabel :=
  [.lock index, .fetch index, .prepare index none, .store index sequenceNumber, .submit index,
    .finish index]

/-- One call after the other keeps a window of one message. -/
theorem within_window_oneCall :
    ∃ transitions last, Run (Step windowOfOne) initial transitions last ∧
      last.entries = [(0, 1)] ∧ last.WithinWindow windowOfOne := by
  have passed : ((execute (fun state => state.next windowOfOne) initial
      (.add 0 0 :: .call :: (untilPassed 0 ++ sincePassed 0 1))).any fun outcome =>
        decide (outcome.2.entries = [(0, 1)] ∧ ∀ transition ∈ outcome.1,
          transition.before.Heeds windowOfOne transition.label)) = true := by
    decide
  rcases Run.exists_of_execute _ passed with ⟨transitions, last, run, checked⟩
  rcases of_decide_eq_true checked with ⟨entries, heeds⟩
  exact ⟨transitions, last, run, entries, (within_window (by decide) run heeds).1⟩

/-- Two calls compare before one of them stores its entry, and both store one in the end, although
they send one after the other on one session. -/
theorem window_exceeded :
    ∃ transitions last, Run (Step windowOfOne) initial transitions last ∧
      windowOfOne.inflightWindowMax = 1 ∧ last.entries.length = 2 ∧
      ¬last.WithinWindow windowOfOne := by
  have passed : ((execute (fun state => state.next windowOfOne) initial
      (.add 0 0 :: .call :: .call :: (untilPassed 0 ++ untilPassed 1 ++ sincePassed 0 1 ++
        sincePassed 1 2))).any fun outcome =>
          decide (outcome.2.entries.length = 2)) = true := by
    decide
  rcases Run.exists_of_execute _ passed with ⟨transitions, last, run, checked⟩
  have two := of_decide_eq_true checked
  refine ⟨transitions, last, run, by decide, two, ?_⟩
  rw [WithinWindow, two]
  decide

end Outbound

end Klsmsc
