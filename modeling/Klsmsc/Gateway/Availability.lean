import Klsmsc.Gateway.SendSms

/-!
# Messages for which there is no connection

`SendSMS` asks for a session in a loop and again when it picks one, then asks the session for its
connection, and that connection for its state when it submits. What it returns where it finds none
decides between sending the message once more and giving it up, and the decision is made by the
first letters of the error. Only the second look into the pool has the wrong ones: the message is
given up when the last session leaves the pool between the two looks.
-/

namespace Klsmsc

open Library

def OutboundLabel.chooses : OutboundLabel → Bool
  | .choose _ _ => true
  | _ => false

namespace Outbound

variable (channel : OutboundChannel) (state : Outbound)

/-- The call finds no connection: the pool is empty, the session has no transmitter, or its
connection does not accept PDUs any more. -/
def LacksConnection (index : ℕ) : OutboundLabel → Prop
  | .checkConn other => other = index ∧ state.pool = []
  | .choose other _ => other = index ∧ state.pool = []
  | .fetch other =>
      other = index ∧ ∃ session mutex, state.calls index = .fetching session mutex ∧
        state.transmitter session = none
  | .submit other =>
      other = index ∧ ∃ session mutex connection key,
        state.calls index = .submitting session mutex (some connection) key ∧
          state.isAlive connection = false
  | _ => False

def Requeues (index : ℕ) : Prop :=
  ∀ err, state.calls index = .returned err → classifySendError err = (.transient, none)

def AlwaysTransient (before : Outbound) (label : OutboundLabel) (after : Outbound) : Prop :=
  ∀ index, before.LacksConnection index label → after.Requeues index

def FindsSession (before : Outbound) (label : OutboundLabel) (_after : Outbound) : Prop :=
  label.chooses = true → before.pool ≠ []

variable {channel state} {after : Outbound}

theorem classify_noConnectionsAfterWait :
    classifySendError (some channel.noConnectionsAfterWait) = (.transient, none) := rfl

theorem classify_noConnections :
    classifySendError (some channel.noConnections) =
      (.permanent, some channel.noConnections) := rfl

theorem classify_connectionClosing :
    classifySendError (some (submitError errConnectionClosing)) = (.transient, none) := by
  decide

theorem requeues_of_running {index : ℕ} {stage : OutboundStage}
    (calls : state.calls index = stage) (running : ∀ err, stage ≠ .returned err) :
    state.Requeues index := by
  intro err returned
  exact absurd (calls.symm.trans returned) (running err)

theorem requeues_of_returned {index : ℕ} {err : Option ErrorText}
    (calls : state.calls index = .returned err)
    (transient : classifySendError err = (.transient, none)) : state.Requeues index := by
  intro err' returned
  cases calls.symm.trans returned
  exact transient

theorem alwaysTransient_checkConn {index : ℕ}
    (step : state.Step channel (.checkConn index) after) :
    AlwaysTransient state (.checkConn index) after := by
  rintro _ ⟨rfl, empty⟩
  cases performs_of_step step with
  | connected _ available => exact absurd empty available
  | neverConnected =>
      exact requeues_of_returned (Function.update_self ..) classify_noConnectionsAfterWait
  | stillConnecting => exact requeues_of_running (Function.update_self ..) (by simp)

theorem not_requeues_choose {index nanos : ℕ} (empty : state.pool = [])
    (step : state.Step channel (.choose index nanos) after) : ¬after.Requeues index := by
  intro requeues
  cases performs_of_step step with
  | choose _ found =>
      rw [empty, List.getElem?_nil] at found
      cases found
  | chooseNone =>
      have transient := requeues (some channel.noConnections) (Function.update_self ..)
      rw [classify_noConnections] at transient
      cases transient

theorem alwaysTransient_fetch (index : ℕ) : AlwaysTransient state (.fetch index) after := by
  rintro _ ⟨rfl, session, mutex, -, none⟩
  cases none

theorem alwaysTransient_submit {index : ℕ} (step : state.Step channel (.submit index) after) :
    AlwaysTransient state (.submit index) after := by
  rintro _ ⟨rfl, session, mutex, connection, key, current, closed⟩
  simp only [Step, next, current, closed] at step
  cases step
  exact requeues_of_returned (Function.update_self ..) classify_connectionClosing

theorem alwaysTransient_iff (label : OutboundLabel) (step : state.Step channel label after) :
    AlwaysTransient state label after ↔ FindsSession state label after := by
  cases label with
  | choose index nanos =>
      constructor
      · intro transient _ empty
        exact not_requeues_choose empty step (transient index ⟨rfl, empty⟩)
      · rintro finds _ ⟨rfl, empty⟩
        exact absurd empty (finds rfl)
  | checkConn index => exact iff_of_true (alwaysTransient_checkConn step) (by rintro ⟨⟩)
  | fetch index => exact iff_of_true (alwaysTransient_fetch index) (by rintro ⟨⟩)
  | submit index => exact iff_of_true (alwaysTransient_submit step) (by rintro ⟨⟩)
  | _ => exact iff_of_true (by rintro _ ⟨⟩) (by rintro ⟨⟩)

/-- In every run, each call that finds no connection has its message requeued exactly if each call
that picks a session finds one in the pool. -/
theorem always_transient_iff {transitions : List (Transition Outbound OutboundLabel)}
    {last : Outbound} (run : Run (Step channel) initial transitions last) :
    (∀ transition ∈ transitions,
      AlwaysTransient transition.before transition.label transition.after) ↔
      ∀ transition ∈ transitions,
        FindsSession transition.before transition.label transition.after := by
  have agree : ∀ before label after, Step channel before label after → True →
      (AlwaysTransient before label after ↔ FindsSession before label after) :=
    fun _ label _ step _ => alwaysTransient_iff label step
  exact run.forall_iff (fun _ _ _ _ _ => trivial) agree trivial

def channelOfHundred : OutboundChannel := ⟨7, none⟩

/-- A connection is closed under a call, and the message is requeued. -/
theorem always_transient_iff_closing :
    ∃ transitions last, Run (Step channelOfHundred) initial transitions last ∧
      last.calls 0 = .returned (some (submitError errConnectionClosing)) ∧
      ∀ transition ∈ transitions,
        AlwaysTransient transition.before transition.label transition.after := by
  have passed : ((execute (fun state => state.next channelOfHundred) initial
      [.add 0 0, .call, .checkConn 0, .choose 0 0, .waitLimiter 0, .range 0, .compare 0, .lock 0,
        .close 0, .remove 0, .fetch 0, .prepare 0 none, .store 0 1, .submit 0]).any fun outcome =>
          decide (outcome.2.calls 0 = .returned (some (submitError errConnectionClosing)) ∧
            ∀ transition ∈ outcome.1,
              transition.label.chooses = true → transition.before.pool ≠ [])) = true := by
    decide
  rcases Run.exists_of_execute _ passed with ⟨transitions, last, run, checked⟩
  rcases of_decide_eq_true checked with ⟨returned, finds⟩
  exact ⟨transitions, last, run, returned, (always_transient_iff run).mpr finds⟩

/-- The only session leaves between the two looks, and the message has failed. -/
theorem session_vanishes :
    ∃ transitions last, Run (Step channelOfHundred) initial transitions last ∧
      last.calls 0 = .returned (some channelOfHundred.noConnections) ∧
      classifySendError (some channelOfHundred.noConnections) =
        (.permanent, some channelOfHundred.noConnections) ∧
      ¬∀ transition ∈ transitions,
        AlwaysTransient transition.before transition.label transition.after := by
  have passed : ((execute (fun state => state.next channelOfHundred) initial
      [.add 0 0, .call, .checkConn 0, .remove 0, .choose 0 0]).any fun outcome =>
        decide (outcome.2.calls 0 = .returned (some channelOfHundred.noConnections) ∧
          ∃ transition ∈ outcome.1, transition.label = .choose 0 0 ∧
            transition.before.pool = [] ∧
              transition.after.calls 0 = .returned (some channelOfHundred.noConnections))) =
                true := by
    decide
  rcases Run.exists_of_execute _ passed with ⟨transitions, last, run, checked⟩
  rcases of_decide_eq_true checked with ⟨returned, transition, member, label, empty, failed⟩
  refine ⟨transitions, last, run, returned, rfl, ?_⟩
  intro transient
  have requeues := transient transition member 0 (by rw [label]; exact ⟨rfl, empty⟩)
  cases requeues _ failed

end Outbound

end Klsmsc
