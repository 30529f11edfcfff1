import Klsmsc.Library.Runs
import Mathlib.Data.List.Count
import Mathlib.Logic.Function.Basic

/-!
# The rate limiter of the send task

`acquire_send_slot` counts the sends of a channel in a key of Redis for each second, with a script
that compares and increments at once. The key ends 1100 ms after its first send. A worker reads the
clock before its script runs, so a script that is late finds the key gone and counts from zero.
-/

namespace Klsmsc

open Library

/-- The key `rate:ch:{channel_id}:{current_second}`. -/
structure SlotKey where
  channelId : ℕ
  second : ℕ
  deriving DecidableEq, Repr

structure RateCounter where
  count : ℕ
  ends : ℕ

/-- The keys, the calls that have read the clock, and what they answer: the slots that were granted,
and for a slot that was refused the limit too. Times are in milliseconds. -/
structure RateLimiter where
  now : ℕ
  counters : SlotKey → Option RateCounter
  calls : ℕ → Option (SlotKey × ℕ)
  granted : List SlotKey
  refused : List (SlotKey × ℕ)

inductive RateEvent where
  | tick (milliseconds : ℕ)
  | forget (key : SlotKey)
  | acquire (n channelId maxTps : ℕ)
  | reload (n : ℕ)
  | run (n : ℕ)
  | fail (n : ℕ)

namespace RateLimiter

def initial : RateLimiter where
  now := 0
  counters _ := none
  calls _ := none
  granted := []
  refused := []

variable (limiter : RateLimiter)

def live (key : SlotKey) : Option RateCounter :=
  (limiter.counters key).filter fun counter => limiter.now ≤ counter.ends

def setCall (n : ℕ) (call : Option (SlotKey × ℕ)) : RateLimiter :=
  { limiter with calls := Function.update limiter.calls n call }

/-- `_RATE_CHECK_SCRIPT`: the wait that it returns, and the limiter after it. -/
def rateCheck (key : SlotKey) (maxTps : ℕ) : ℕ × RateLimiter :=
  let current := (limiter.live key).elim 0 RateCounter.count
  if maxTps ≤ current then
    ((limiter.live key).elim 1000 fun counter => counter.ends - limiter.now, limiter)
  else
    let ends :=
      if current + 1 = 1 then limiter.now + 1100 else (limiter.live key).elim 0 RateCounter.ends
    (0, { limiter with
      counters := Function.update limiter.counters key (some ⟨current + 1, ends⟩) })

/-- The state after an event. A channel without a limit asks nobody. Where Redis does not know the
script the call loads it and starts again, and where it fails the slot is granted. -/
def next : RateEvent → Option RateLimiter
  | .tick milliseconds => some { limiter with now := limiter.now + milliseconds }
  | .forget key => some { limiter with counters := Function.update limiter.counters key none }
  | .acquire n channelId maxTps =>
      match limiter.calls n with
      | none =>
          some
            (if maxTps = 0 then limiter
            else limiter.setCall n (some (⟨channelId, limiter.now / 1000⟩, maxTps)))
      | some _ => none
  | .reload n =>
      match limiter.calls n with
      | some (key, maxTps) =>
          some (limiter.setCall n (some (⟨key.channelId, limiter.now / 1000⟩, maxTps)))
      | none => none
  | .run n =>
      match limiter.calls n with
      | some (key, maxTps) =>
          let checked := limiter.rateCheck key maxTps
          some
            (if 0 < checked.1 then
              { checked.2.setCall n none with refused := limiter.refused ++ [(key, maxTps)] }
            else { checked.2.setCall n none with granted := limiter.granted ++ [key] })
      | none => none
  | .fail n =>
      match limiter.calls n with
      | some (key, _) => some { limiter.setCall n none with granted := limiter.granted ++ [key] }
      | none => none

def Step (before : RateLimiter) (event : RateEvent) (after : RateLimiter) : Prop :=
  before.next event = some after

/-- The script of a call runs less than 1100 ms after the second of its key has begun. -/
def isPrompt (n : ℕ) : Bool :=
  match limiter.calls n with
  | some (key, _) => limiter.now < 1000 * key.second + 1100
  | none => true

/-- Redis keeps its keys and answers in time, and no call asks for more than its channel has. -/
def Heeds (limit : ℕ → ℕ) : RateEvent → Prop
  | .acquire _ channelId maxTps => maxTps ≤ limit channelId
  | .run n => limiter.isPrompt n = true
  | .forget _ | .fail _ => False
  | _ => True

/-- A key has the number of the slots that were granted, and outlives the prompt scripts. -/
def Counts (limit : ℕ → ℕ) (key : SlotKey) : Option RateCounter → Prop
  | none => limiter.granted.count key = 0
  | some counter => limiter.granted.count key = counter.count ∧
      counter.count ≤ limit key.channelId ∧ 1000 * key.second + 1100 ≤ counter.ends

structure Counted (limit : ℕ → ℕ) : Prop where
  calls : ∀ n call, limiter.calls n = some call →
    1000 * call.1.second ≤ limiter.now ∧ 0 < call.2 ∧ call.2 ≤ limit call.1.channelId
  counters : ∀ key, limiter.Counts limit key (limiter.counters key)
  refused : ∀ refusal ∈ limiter.refused, refusal.2 ≤ limiter.granted.count refusal.1

variable {limiter} {after : RateLimiter} {limit : ℕ → ℕ}

theorem Counted.setCall (counted : limiter.Counted limit) {n : ℕ} {call : Option (SlotKey × ℕ)}
    (new : ∀ one, call = some one →
      1000 * one.1.second ≤ limiter.now ∧ 0 < one.2 ∧ one.2 ≤ limit one.1.channelId) :
    (limiter.setCall n call).Counted limit where
  calls := (Function.forall_update_iff limiter.calls fun _ call => ∀ one, call = some one →
    1000 * one.1.second ≤ limiter.now ∧ 0 < one.2 ∧ one.2 ≤ limit one.1.channelId).mpr
      ⟨new, fun m _ => counted.calls m⟩
  counters := counted.counters
  refused := counted.refused

/-- A prompt script refuses a slot where the key has as many as the limit, and else counts one. -/
theorem rateCheck_cases (counted : limiter.Counted limit) {key : SlotKey} {maxTps : ℕ}
    (began : 1000 * key.second ≤ limiter.now) (prompt : limiter.now < 1000 * key.second + 1100)
    (positive : 0 < maxTps) :
    (0 < (limiter.rateCheck key maxTps).1 ∧ (limiter.rateCheck key maxTps).2 = limiter ∧
        maxTps ≤ limiter.granted.count key) ∨
      ((limiter.rateCheck key maxTps).1 = 0 ∧ ∃ ends, 1000 * key.second + 1100 ≤ ends ∧
        limiter.granted.count key + 1 ≤ maxTps ∧
        (limiter.rateCheck key maxTps).2 =
          { limiter with
            counters := Function.update limiter.counters key
              (some ⟨limiter.granted.count key + 1, ends⟩) }) := by
  have counts := counted.counters key
  cases stored : limiter.counters key with
  | none =>
      rw [stored] at counts
      have gone : limiter.live key = none := by simp [live, stored]
      have none : limiter.granted.count key = 0 := counts
      have limited : maxTps ≠ 0 := Nat.ne_of_gt positive
      right
      refine ⟨by simp [rateCheck, gone, limited], limiter.now + 1100, by omega, by omega, ?_⟩
      simp [rateCheck, gone, limited, none]
  | some counter =>
      rw [stored] at counts
      rcases counts with ⟨count, -, ends⟩
      have there : limiter.live key = some counter := by
        simp [live, stored]
        omega
      by_cases full : maxTps ≤ counter.count
      · left
        refine ⟨?_, by simp [rateCheck, there, full], by omega⟩
        simp only [rateCheck, there, Option.elim_some, full, if_true]
        omega
      · right
        refine ⟨by simp [rateCheck, there, full],
          if counter.count + 1 = 1 then limiter.now + 1100 else counter.ends, ?_, by omega, ?_⟩
        · split <;> omega
        · simp [rateCheck, there, full, count]

theorem Counted.grant (counted : limiter.Counted limit) {key : SlotKey} {ends : ℕ}
    (later : 1000 * key.second + 1100 ≤ ends)
    (room : limiter.granted.count key + 1 ≤ limit key.channelId) :
    Counted { limiter with
      counters := Function.update limiter.counters key
        (some ⟨limiter.granted.count key + 1, ends⟩)
      granted := limiter.granted ++ [key] } limit where
  calls := counted.calls
  counters := by
    intro other
    simp only [Function.update_apply]
    split
    · rename_i same
      subst other
      exact ⟨by simp, room, later⟩
    · rename_i same
      have before := counted.counters other
      have unchanged : (limiter.granted ++ [key]).count other = limiter.granted.count other := by
        simp [Ne.symm same]
      cases stored : limiter.counters other with
      | none =>
          rw [stored] at before
          exact unchanged.trans before
      | some counter =>
          rw [stored] at before
          exact ⟨unchanged.trans before.1, before.2⟩
  refused := by
    intro refusal member
    apply Nat.le_trans (counted.refused refusal member)
    exact (List.sublist_append_left limiter.granted [key]).count_le refusal.1

theorem Counted.step (counted : limiter.Counted limit) {event : RateEvent}
    (heeds : limiter.Heeds limit event) (step : Step limiter event after) :
    after.Counted limit := by
  cases event with
  | tick milliseconds =>
      rcases Option.some.inj step with rfl
      refine ⟨?_, counted.counters, counted.refused⟩
      intro n call found
      rcases counted.calls n call found with ⟨began, bounds⟩
      exact ⟨Nat.le_add_right_of_le began, bounds⟩
  | acquire n channelId maxTps =>
      simp only [Step, next] at step
      split at step
      · rcases Option.some.inj step with rfl
        split
        · exact counted
        · rename_i positive
          apply counted.setCall
          rintro call ⟨⟩
          exact ⟨Nat.mul_div_le _ _, Nat.pos_of_ne_zero positive, heeds⟩
      · cases step
  | reload n =>
      simp only [Step, next] at step
      split at step
      · rename_i key maxTps found
        rcases Option.some.inj step with rfl
        apply counted.setCall
        rintro call ⟨⟩
        exact ⟨Nat.mul_div_le _ _, (counted.calls n _ found).2⟩
      · cases step
  | run n =>
      simp only [Step, next] at step
      split at step
      · rename_i key maxTps found
        rcases Option.some.inj step with rfl
        rcases counted.calls n _ found with ⟨began, positive, within⟩
        have prompt : limiter.now < 1000 * key.second + 1100 := by
          simpa [Heeds, isPrompt, found] using heeds
        have ended : (limiter.setCall n none).Counted limit := counted.setCall (by simp)
        rcases rateCheck_cases counted began prompt positive with
          ⟨waits, same, full⟩ | ⟨free, ends, later, room, same⟩
        · rw [if_pos waits, same]
          refine ⟨ended.calls, ended.counters, ?_⟩
          intro refusal member
          rcases List.mem_append.mp member with before | new
          · exact counted.refused refusal before
          · rcases List.mem_singleton.mp new with rfl
            exact full
        · rw [if_neg (Nat.not_lt.mpr (Nat.le_of_eq free)), same]
          exact ended.grant later (Nat.le_trans room within)
      · cases step
  | forget key => exact heeds.elim
  | fail n => exact heeds.elim

/-- In a run in which Redis keeps its keys and answers in time, a channel gets no more slots in a
second than its limit, and a slot is refused only where as many were granted as the call allows. -/
theorem slots_within_limit (limit : ℕ → ℕ) {events : List (Transition RateLimiter RateEvent)}
    {last : RateLimiter} (run : Run Step initial events last)
    (heeds : ∀ transition ∈ events, transition.before.Heeds limit transition.label) :
    (∀ key, last.granted.count key ≤ limit key.channelId) ∧
      ∀ refusal ∈ last.refused, refusal.2 ≤ last.granted.count refusal.1 := by
  have kept : ∀ (before : RateLimiter) event after,
      Guarded Step (fun limiter event => limiter.Heeds limit event) before event after →
        before.Counted limit → after.Counted limit :=
    fun before event after step counted => counted.step step.2 step.1
  have first : initial.Counted limit := by
    constructor <;> simp [initial, Counts]
  have counted := ((run.guarded heeds).invariant kept first).1
  refine ⟨?_, counted.refused⟩
  intro key
  have counts := counted.counters key
  cases stored : last.counters key with
  | none =>
      rw [stored] at counts
      exact Nat.le_trans (Nat.le_of_eq counts) (Nat.zero_le _)
  | some counter =>
      rw [stored] at counts
      exact Nat.le_trans (Nat.le_of_eq counts.1) counts.2.1

/-- Two sends of a channel that may send one message in a second. -/
theorem slots_within_limit_one :
    ∃ events last, Run Step initial events last ∧ last.granted = [⟨1, 0⟩] ∧
      last.refused = [(⟨1, 0⟩, 1)] ∧ ∀ key, last.granted.count key ≤ 1 := by
  have executed : execute next initial
      [.acquire 0 1 1, .acquire 1 1 1, .run 0, .tick 500, .run 1] = some (_, _) := rfl
  have run : Run Step initial _ _ := Run.of_execute executed
  refine ⟨_, _, run, rfl, rfl, (slots_within_limit (fun _ => 1) run ?_).1⟩
  intro transition member
  simp only [List.mem_cons, List.not_mem_nil, or_false] at member
  rcases member with rfl | rfl | rfl | rfl | rfl
  · exact Nat.le_refl 1
  · exact Nat.le_refl 1
  · simp [Heeds, isPrompt, initial, setCall]
  · trivial
  · simp [Heeds, isPrompt, initial, setCall, rateCheck, live]

end RateLimiter

end Klsmsc
