import Klsmsc.Gateway.TpsBucket
import Mathlib.Algebra.Group.Nat.Defs

/-!
# Adaptive throttling

When the upstream throttles a channel, `throttleChannel` puts a slow bucket in the place of its
bucket and starts a goroutine that sleeps for the duration of the throttle and then puts a bucket of
the ordinary rate there. The monitor of a session calls it directly, a response with status 88 by
way of `throttleChannelDedup`, which lets no call pass for the same duration. The goroutine of an
earlier throttle knows nothing of a later one. A throttle is not cut short in just the runs in which
no goroutine wakes up within the duration of the latest throttle, unless the slow bucket is no other
than the ordinary one.

Time is in nanoseconds. A goroutine can wake up at any time after its sleep. The configuration of
the channel does not change, and of a bucket it only matters how it was made.
-/

namespace Klsmsc

open Library

def throttleNanoseconds (cfg : RateConfig) : ℤ :=
  parseConfigJSONInt cfg.configJSON "throttle_duration_s" 120 * 1000000000

/-- `throttleDuration`, in a signed number of 64 bits. -/
def throttleDuration (cfg : RateConfig) : ℤ :=
  (throttleNanoseconds cfg).bmod (2 ^ 64)

/-- A call of `throttleChannel`: its time, and whether its goroutine has restored the rate. -/
structure ThrottleCall where
  calledAt : ℤ
  restored : Bool
  deriving DecidableEq, Repr

/-- The buckets, the calls of `throttleChannel` so far with the latest one first, the entry of
`throttleCoolUntil`, and the calls of `throttleChannelDedup` that are past the guard and have not
called `throttleChannel` yet. -/
structure AdaptiveThrottle where
  limiters : TpsLimiters
  now : ℤ
  calls : List ThrottleCall
  coolUntil : Option ℤ
  passed : ℕ

/-- What happens: time goes on, the monitor of a session throttles, a call of
`throttleChannelDedup` comes to its guard, one that has passed it throttles, or the goroutine of a
call restores the rate. -/
inductive ThrottleEvent
  | tick (nanoseconds : ℕ)
  | silent
  | guard
  | dedup
  | restore (call : ℕ)

namespace AdaptiveThrottle

variable (cfg : RateConfig) (channelID : ℕ) (state : AdaptiveThrottle)

structure Initial : Prop where
  limiter : state.limiters channelID = newTPSBucket cfg.maxTPS
  calls : state.calls = []

/-- `throttleChannel`. -/
def throttle : AdaptiveThrottle :=
  { state with
    limiters := throttleChannel state.limiters channelID cfg
    calls := ⟨state.now, false⟩ :: state.calls }

def restore (index : ℕ) (call : ThrottleCall) : AdaptiveThrottle :=
  { state with
    limiters := Function.update state.limiters channelID (newTPSBucket cfg.maxTPS)
    calls := state.calls.set index { call with restored := true } }

/-- The part of `throttleChannelDedup` that holds the lock. -/
def guard : AdaptiveThrottle :=
  if state.coolUntil.any fun coolUntil => state.now < coolUntil then state
  else
    { state with
      coolUntil := some (state.now + throttleDuration cfg)
      passed := state.passed + 1 }

def next : ThrottleEvent → Option AdaptiveThrottle
  | .tick nanoseconds => some { state with now := state.now + nanoseconds }
  | .silent => some (state.throttle cfg channelID)
  | .guard => some (state.guard cfg)
  | .dedup =>
      match state.passed with
      | 0 => none
      | passed + 1 => some { state.throttle cfg channelID with passed := passed }
  | .restore index =>
      state.calls[index]?.bind fun call =>
        if ¬ call.restored ∧ call.calledAt + throttleDuration cfg ≤ state.now then
          some (state.restore cfg channelID index call)
        else none

def Step (before : AdaptiveThrottle) (event : ThrottleEvent) (after : AdaptiveThrottle) : Prop :=
  before.next cfg channelID event = some after

/-- The channel is slow for the duration of the latest throttle, and at its ordinary rate when that
throttle has ended. -/
structure NotCutShort : Prop where
  throttled : ∀ call ∈ state.calls.head?, state.now < call.calledAt + throttleNanoseconds cfg →
    state.limiters channelID = newTPSBucket (throttleTPS cfg)
  ended : (∀ call ∈ state.calls.head?, call.restored = true) →
    state.limiters channelID = newTPSBucket cfg.maxTPS

def Heeds : ThrottleEvent → Prop
  | .restore _ => ∀ call ∈ state.calls.head?, call.calledAt + throttleNanoseconds cfg ≤ state.now
  | _ => True

/-! ### Steps -/

inductive Performs : ThrottleEvent → AdaptiveThrottle → Prop where
  | stay {event : ThrottleEvent} {after : AdaptiveThrottle} (free : state.Heeds cfg event)
      (later : state.now ≤ after.now) (calls : after.calls = state.calls)
      (limiters : after.limiters = state.limiters) : Performs event after
  | throttle {event : ThrottleEvent} {after : AdaptiveThrottle} (free : state.Heeds cfg event)
      (calls : after.calls = ⟨state.now, false⟩ :: state.calls)
      (limiters : after.limiters = throttleChannel state.limiters channelID cfg) :
      Performs event after
  | restore {index : ℕ} {call : ThrottleCall} (started : state.calls[index]? = some call) :
      Performs (.restore index) (state.restore cfg channelID index call)

variable {cfg channelID state} {after : AdaptiveThrottle} {event : ThrottleEvent}

theorem performs_of_step (step : state.Step cfg channelID event after) :
    state.Performs cfg channelID event after := by
  unfold Step at step
  cases event with
  | tick nanoseconds =>
      cases step
      exact .stay trivial (Int.le_add_of_nonneg_right (Int.natCast_nonneg nanoseconds)) rfl rfl
  | silent =>
      cases step
      exact .throttle trivial rfl rfl
  | guard =>
      cases step
      unfold guard
      split
      · exact .stay trivial (Int.le_refl _) rfl rfl
      · exact .stay trivial (Int.le_refl _) rfl rfl
  | dedup =>
      simp only [next] at step
      split at step
      · cases step
      · cases step
        exact .throttle trivial rfl rfl
  | restore index =>
      rw [next, Option.bind_eq_some_iff] at step
      rcases step with ⟨call, started, woken⟩
      split at woken
      · cases woken
        exact .restore started
      · cases woken

theorem latest_restore {index : ℕ} {call : ThrottleCall}
    (started : state.calls[index]? = some call) :
    (state.restore cfg channelID index call).calls.head?.map ThrottleCall.calledAt =
      state.calls.head?.map ThrottleCall.calledAt := by
  change (state.calls.set index { call with restored := true }).head?.map _ = _
  cases calls : state.calls with
  | nil => rfl
  | cons first rest =>
      rw [calls] at started
      cases index with
      | zero =>
          cases started
          rfl
      | succ index => rfl

theorem restore_limiters (index : ℕ) (call : ThrottleCall) :
    (state.restore cfg channelID index call).limiters channelID = newTPSBucket cfg.maxTPS :=
  Function.update_self ..

theorem throttleChannel_limiter (limiters : TpsLimiters) :
    throttleChannel limiters channelID cfg channelID = newTPSBucket (throttleTPS cfg) :=
  Function.update_self ..

/-! ### Runs -/

namespace NotCutShort

theorem initial (start : state.Initial cfg channelID) : state.NotCutShort cfg channelID := by
  constructor
  · intro call member
    rw [start.calls] at member
    cases member
  · exact fun _ => start.limiter

theorem step (kept : state.NotCutShort cfg channelID) (step : state.Step cfg channelID event after)
    (heeds : newTPSBucket (throttleTPS cfg) = newTPSBucket cfg.maxTPS ∨ state.Heeds cfg event) :
    after.NotCutShort cfg channelID := by
  cases performs_of_step step with
  | stay _ later calls limiters =>
      constructor
      · intro call member within
        rw [calls] at member
        rw [limiters]
        exact kept.throttled call member (by omega)
      · intro past
        rw [calls] at past
        rw [limiters]
        exact kept.ended past
  | throttle _ calls limiters =>
      constructor
      · intro call member within
        rw [limiters, throttleChannel_limiter]
      · intro past
        rw [calls] at past
        have restored := past _ rfl
        cases restored
  | @restore index call started =>
      refine ⟨?_, fun _ => restore_limiters index call⟩
      intro latest head within
      rw [restore_limiters]
      rcases heeds with same | heeds
      · exact same.symm
      · rcases Option.map_eq_some_iff.mp ((latest_restore started).symm.trans
          (congrArg (Option.map ThrottleCall.calledAt) head)) with ⟨before, member, same⟩
        have past := heeds before member
        rw [same] at past
        change state.now < latest.calledAt + throttleNanoseconds cfg at within
        omega

theorem heeds (kept : after.NotCutShort cfg channelID)
    (step : state.Step cfg channelID event after)
    (differs : newTPSBucket (throttleTPS cfg) ≠ newTPSBucket cfg.maxTPS) :
    state.Heeds cfg event := by
  cases performs_of_step step with
  | stay free later calls limiters => exact free
  | throttle free calls limiters => exact free
  | @restore index call started =>
      intro before member
      by_contra within
      rcases Option.map_eq_some_iff.mp ((latest_restore started).trans
        (congrArg (Option.map ThrottleCall.calledAt) member)) with ⟨latest, head, same⟩
      rw [← same] at within
      have slow := kept.throttled latest head (Int.not_le.mp within)
      rw [restore_limiters] at slow
      exact differs slow.symm

end NotCutShort

/-- No throttle is cut short exactly when no goroutine wakes up within the latest throttle, or the
slow bucket is the ordinary one. -/
theorem not_cut_short_iff (cfg : RateConfig) (channelID : ℕ) {first last : AdaptiveThrottle}
    (start : first.Initial cfg channelID)
    {transitions : List (Transition AdaptiveThrottle ThrottleEvent)}
    (run : Run (Step cfg channelID) first transitions last) :
    (last.NotCutShort cfg channelID ∧ ∀ transition ∈ transitions,
        transition.before.NotCutShort cfg channelID ∧
          transition.after.NotCutShort cfg channelID) ↔
      newTPSBucket (throttleTPS cfg) = newTPSBucket cfg.maxTPS ∨
        ∀ transition ∈ transitions, transition.before.Heeds cfg transition.label := by
  constructor
  · rintro ⟨-, inside⟩
    by_cases same : newTPSBucket (throttleTPS cfg) = newTPSBucket cfg.maxTPS
    · exact .inl same
    · exact .inr fun transition member =>
        (inside transition member).2.heeds (run.step_of_mem member) same
  · rintro (same | heeds)
    · exact run.invariant (fun _ _ _ step kept => kept.step step (.inl same)) (.initial start)
    · exact (run.guarded heeds).invariant (fun _ _ _ step kept => kept.step step.1 (.inr step.2))
        (.initial start)

def hundredPerSecond : RateConfig := ⟨100, none⟩

def unthrottled : AdaptiveThrottle :=
  ⟨fun _ => newTPSBucket 100, 0, [], none, 0⟩

/-- The one goroutine wakes up when the throttle is over. -/
theorem not_cut_short_iff_single :
    ∃ transitions last, Run (Step hundredPerSecond 1) unthrottled transitions last ∧
      last.calls = [⟨0, true⟩] ∧
      ((last.NotCutShort hundredPerSecond 1 ∧ ∀ transition ∈ transitions,
          transition.before.NotCutShort hundredPerSecond 1 ∧
            transition.after.NotCutShort hundredPerSecond 1) ↔
        newTPSBucket (throttleTPS hundredPerSecond) = newTPSBucket hundredPerSecond.maxTPS ∨
          ∀ transition ∈ transitions,
            transition.before.Heeds hundredPerSecond transition.label) := by
  have passed : ((execute (next hundredPerSecond 1) unthrottled
      [.guard, .dedup, .guard, .tick 120000000000, .restore 0]).any fun outcome =>
        decide (outcome.2.calls = [⟨0, true⟩])) = true := by
    decide
  rcases Run.exists_of_execute _ passed with ⟨transitions, last, run, checked⟩
  exact ⟨transitions, last, run, of_decide_eq_true checked,
    not_cut_short_iff hundredPerSecond 1 ⟨rfl, rfl⟩ run⟩

/-- A throttle after one minute is cut short by the goroutine of the one before it. -/
theorem cut_short :
    ∃ transitions last, Run (Step hundredPerSecond 1) unthrottled transitions last ∧
      last.calls = [⟨60000000000, false⟩, ⟨0, true⟩] ∧ last.now = 120000000000 ∧
      ¬last.NotCutShort hundredPerSecond 1 := by
  have passed : ((execute (next hundredPerSecond 1) unthrottled
      [.silent, .tick 60000000000, .silent, .tick 60000000000, .restore 1]).any fun outcome =>
        decide (outcome.2.calls = [⟨60000000000, false⟩, ⟨0, true⟩] ∧
          outcome.2.now = 120000000000 ∧
          outcome.2.limiters 1 ≠ newTPSBucket (throttleTPS hundredPerSecond))) = true := by
    decide
  rcases Run.exists_of_execute _ passed with ⟨transitions, last, run, checked⟩
  rcases of_decide_eq_true checked with ⟨calls, now, fast⟩
  refine ⟨transitions, last, run, calls, now, ?_⟩
  intro kept
  refine fast (kept.throttled ⟨60000000000, false⟩ (by rw [calls]; rfl) ?_)
  rw [now]
  decide

end AdaptiveThrottle

end Klsmsc
