import Klsmsc.Library.Runs
import Mathlib.Logic.Function.Basic
import Mathlib.Data.Nat.Basic

/-!
# The circuit breaker of the webhooks

A hash in Redis for each account counts the pushes that failed. When there are enough of them it
opens, and pushes to the account are rejected for some minutes. `_cb_allow` and `_cb_record` take
several commands each, and those of the worker processes come in any order, between the expiry of
the hash and its deletion by a push that succeeded.
-/

namespace Klsmsc

open Library

/-- `_CB_FAIL_THRESHOLD` and `_CB_OPEN_SECONDS`. -/
structure BreakerSettings where
  failThreshold : ℕ
  openSeconds : ℕ

inductive BreakerState where
  | opened
  | halfOpen
  deriving DecidableEq, Repr

/-- The hash `wh:cb:{account_id}`: its fields, and no failures where it has no such field. -/
structure BreakerHash where
  state : Option BreakerState
  openUntil : Option ℕ
  fails : ℕ
  deriving DecidableEq, Repr

def BreakerHash.empty : BreakerHash := ⟨none, none, 0⟩

/-- What a call of `_cb_allow` or of `_cb_record` does next. A failure that was counted has the
number of outcomes that were recorded up to it. -/
inductive BreakerStage where
  | asking
  | opened
  | comparing (openUntil : ℕ)
  | probing
  | recording (ok : Bool)
  | counted (fails outcomes : ℕ)
  | tripping (outcomes : ℕ)
  | opening (clock outcomes : ℕ)
  deriving DecidableEq, Repr

/-- The hash and the time it ends at, and the calls. The outcomes that Redis has got, the openings
with the numbers of outcomes they come from, and the times of the rejections are kept beside. -/
structure Breaker where
  now : ℕ
  hash : BreakerHash
  ends : Option ℕ
  calls : ℕ → Option BreakerStage
  outcomes : List Bool
  openings : List (ℕ × ℕ)
  rejected : List ℕ

inductive BreakerEvent where
  | tick (seconds : ℕ)
  | allow (n : ℕ)
  | record (n : ℕ) (ok : Bool)
  | command (n : ℕ) (answered : Bool)
  | fail (n : ℕ)
  deriving DecidableEq, Repr

namespace Breaker

def initial : Breaker where
  now := 0
  hash := .empty
  ends := none
  calls _ := none
  outcomes := []
  openings := []
  rejected := []

variable (settings : BreakerSettings) (breaker : Breaker)

def setCall (n : ℕ) (stage : Option BreakerStage) : Breaker :=
  { breaker with calls := Function.update breaker.calls n stage }

def perform : BreakerStage → Breaker × Option BreakerStage
  | .asking => (breaker, if breaker.hash.state = some .opened then some .opened else none)
  | .opened =>
      match breaker.hash.openUntil with
      | some openUntil => (breaker, some (.comparing openUntil))
      | none => (breaker, some .probing)
  | .comparing openUntil =>
      if breaker.now < openUntil then
        ({ breaker with rejected := breaker.rejected ++ [breaker.now] }, none)
      else (breaker, some .probing)
  | .probing => ({ breaker with hash := { breaker.hash with state := some .halfOpen } }, none)
  | .recording true =>
      ({ breaker with
        hash := .empty
        ends := none
        outcomes := breaker.outcomes ++ [true] }, none)
  | .recording false =>
      ({ breaker with
        hash := { breaker.hash with fails := breaker.hash.fails + 1 }
        outcomes := breaker.outcomes ++ [false] },
        some (.counted (breaker.hash.fails + 1) (breaker.outcomes.length + 1)))
  | .counted fails outcomes =>
      (if breaker.hash = .empty then breaker
        else { breaker with ends := some (breaker.now + (settings.openSeconds + 60)) },
        if settings.failThreshold ≤ fails then some (.tripping outcomes) else none)
  | .tripping outcomes => (breaker, some (.opening breaker.now outcomes))
  | .opening clock outcomes =>
      ({ breaker with
        hash :=
          { breaker.hash with
            state := some .opened
            openUntil := some (clock + settings.openSeconds) }
        openings := breaker.openings ++ [(clock, outcomes)] }, none)

/-- The state after an event. The hash is gone when its time is over. A call whose command gets no
answer ends, and so does one that cannot send it. -/
def next : BreakerEvent → Option Breaker
  | .tick seconds =>
      let now := breaker.now + seconds
      some
        (if breaker.ends.any (· ≤ now) then { breaker with now, hash := .empty, ends := none }
        else { breaker with now })
  | .allow n =>
      match breaker.calls n with
      | none => some (breaker.setCall n (some .asking))
      | some _ => none
  | .record n ok =>
      match breaker.calls n with
      | none => some (breaker.setCall n (some (.recording ok)))
      | some _ => none
  | .command n answered =>
      match breaker.calls n with
      | none => none
      | some stage =>
          let outcome := breaker.perform settings stage
          some (outcome.1.setCall n (if answered then outcome.2 else none))
  | .fail n => some (breaker.setCall n none)

def Step (before : Breaker) (event : BreakerEvent) (after : Breaker) : Prop :=
  before.next settings event = some after

def streak (outcomes : List Bool) : ℕ :=
  (outcomes.reverse.takeWhile (!·)).length

def Failing (fails number : ℕ) : Prop :=
  number ≤ breaker.outcomes.length ∧ fails ≤ streak (breaker.outcomes.take number)

def StageSound : BreakerStage → Prop
  | .comparing openUntil =>
      ∃ opening ∈ breaker.openings, openUntil = opening.1 + settings.openSeconds
  | .counted fails outcomes => breaker.Failing fails outcomes
  | .tripping outcomes => breaker.Failing settings.failThreshold outcomes
  | .opening clock outcomes =>
      clock ≤ breaker.now ∧ breaker.Failing settings.failThreshold outcomes
  | _ => True

structure Sound : Prop where
  fails : breaker.hash.fails ≤ streak breaker.outcomes
  openUntil : ∀ openUntil, breaker.hash.openUntil = some openUntil →
    ∃ opening ∈ breaker.openings, openUntil = opening.1 + settings.openSeconds
  openings : ∀ opening ∈ breaker.openings,
    opening.1 ≤ breaker.now ∧ breaker.Failing settings.failThreshold opening.2
  rejected : ∀ rejectedAt ∈ breaker.rejected, ∃ opening ∈ breaker.openings,
    opening.1 ≤ rejectedAt ∧ rejectedAt < opening.1 + settings.openSeconds
  calls : ∀ n stage, breaker.calls n = some stage → breaker.StageSound settings stage

variable {settings : BreakerSettings} {breaker after : Breaker}

theorem streak_failure (outcomes : List Bool) :
    streak (outcomes ++ [false]) = streak outcomes + 1 := by
  simp [streak]

structure Continues (breaker after : Breaker) : Prop where
  now : breaker.now ≤ after.now
  outcomes : ∃ more, after.outcomes = breaker.outcomes ++ more
  openings : breaker.openings ⊆ after.openings

theorem Continues.same (now : after.now = breaker.now)
    (outcomes : after.outcomes = breaker.outcomes) (openings : after.openings = breaker.openings) : breaker.Continues after :=
  ⟨now ▸ Nat.le_refl _, ⟨[], by simp [outcomes]⟩, by simp [openings]⟩

theorem Failing.mono {fails number : ℕ} (failing : breaker.Failing fails number)
    (continues : breaker.Continues after) : after.Failing fails number := by
  rcases continues.outcomes with ⟨more, grown⟩
  rcases failing with ⟨within, enough⟩
  refine ⟨?_, ?_⟩
  · rw [grown, List.length_append]
    omega
  · rw [grown, List.take_append_of_le_length within]
    exact enough

theorem StageSound.mono {stage : BreakerStage} (sound : breaker.StageSound settings stage)
    (continues : breaker.Continues after) : after.StageSound settings stage := by
  cases stage with
  | comparing openUntil =>
      rcases sound with ⟨opening, member, same⟩
      exact ⟨opening, continues.openings member, same⟩
  | counted fails outcomes => exact Failing.mono sound continues
  | tripping outcomes => exact Failing.mono sound continues
  | opening clock outcomes =>
      exact ⟨Nat.le_trans sound.1 continues.now, Failing.mono sound.2 continues⟩
  | asking | opened | probing | recording _ => trivial

theorem sound_initial : initial.Sound settings := by
  constructor <;> simp [initial, BreakerHash.empty]

/-- What an event leaves alone stays sound: the openings and rejections that were recorded, and the
stages of the calls. -/
theorem Sound.continue (sound : breaker.Sound settings) (continues : breaker.Continues after)
    (calls : after.calls = breaker.calls) (openings : after.openings = breaker.openings)
    (rejected : after.rejected = breaker.rejected)
    (fails : after.hash.fails ≤ streak after.outcomes)
    (openUntil : after.hash.openUntil = none ∨ after.hash.openUntil = breaker.hash.openUntil) :
    after.Sound settings where
  fails := fails
  openUntil time found := by
    rw [openings]
    rcases openUntil with gone | same
    · rw [gone] at found
      cases found
    · exact sound.openUntil time (same ▸ found)
  openings opening member := by
    rw [openings] at member
    rcases sound.openings opening member with ⟨before, failing⟩
    exact ⟨Nat.le_trans before continues.now, failing.mono continues⟩
  rejected time member := by
    rw [rejected] at member
    rw [openings]
    exact sound.rejected time member
  calls n stage found := by
    rw [calls] at found
    exact (sound.calls n stage found).mono continues

theorem Sound.setCall (sound : breaker.Sound settings) {n : ℕ} {stage : Option BreakerStage}
    (new : ∀ next, stage = some next → breaker.StageSound settings next) :
    (breaker.setCall n stage).Sound settings where
  fails := sound.fails
  openUntil := sound.openUntil
  openings := sound.openings
  rejected := sound.rejected
  calls := (Function.forall_update_iff breaker.calls (fun _ next =>
    ∀ stage, next = some stage → breaker.StageSound settings stage)).mpr
      ⟨new, fun m _ => sound.calls m⟩

theorem Sound.perform (sound : breaker.Sound settings) {stage : BreakerStage}
    (here : breaker.StageSound settings stage) :
    (breaker.perform settings stage).1.Sound settings ∧
      ∀ next, (breaker.perform settings stage).2 = some next →
        (breaker.perform settings stage).1.StageSound settings next := by
  cases stage with
  | asking =>
      refine ⟨sound, ?_⟩
      intro next found
      simp only [Breaker.perform] at found
      split at found
      · cases found
        trivial
      · cases found
  | opened =>
      simp only [Breaker.perform]
      split
      · rename_i openUntil read
        refine ⟨sound, ?_⟩
        rintro next ⟨⟩
        exact sound.openUntil openUntil read
      · refine ⟨sound, ?_⟩
        rintro next ⟨⟩
        trivial
  | comparing openUntil =>
      simp only [Breaker.perform]
      split
      · rename_i early
        refine ⟨⟨sound.fails, sound.openUntil, sound.openings, ?_, ?_⟩, by simp⟩
        · intro rejectedAt member
          rcases List.mem_append.mp member with before | now
          · exact sound.rejected rejectedAt before
          · rcases List.mem_singleton.mp now with rfl
            rcases here with ⟨opening, opened, rfl⟩
            exact ⟨opening, opened, (sound.openings opening opened).1, early⟩
        · intro n stage found
          exact (sound.calls n stage found).mono (.same rfl rfl rfl)
      · refine ⟨sound, ?_⟩
        rintro next ⟨⟩
        trivial
  | probing =>
      refine ⟨sound.continue (.same rfl rfl rfl) rfl rfl rfl sound.fails (Or.inr rfl), ?_⟩
      simp [Breaker.perform]
  | recording ok =>
      cases ok with
      | true =>
          refine ⟨sound.continue ⟨Nat.le_refl _, ⟨[true], rfl⟩, List.Subset.refl _⟩ rfl rfl rfl
            (Nat.zero_le _) (Or.inl rfl), ?_⟩
          simp [Breaker.perform]
      | false =>
          have counted : breaker.hash.fails + 1 ≤ streak (breaker.outcomes ++ [false]) := by
            rw [streak_failure]
            exact Nat.succ_le_succ sound.fails
          refine ⟨sound.continue ⟨Nat.le_refl _, ⟨[false], rfl⟩, List.Subset.refl _⟩ rfl rfl rfl
            counted (Or.inr rfl), ?_⟩
          rintro next ⟨⟩
          refine ⟨by simp [Breaker.perform], ?_⟩
          have whole : (breaker.outcomes ++ [false]).take (breaker.outcomes.length + 1) =
              breaker.outcomes ++ [false] := List.take_of_length_le (by simp)
          rw [← whole] at counted
          exact counted
  | counted fails outcomes =>
      have kept : (breaker.perform settings (.counted fails outcomes)).1.Sound settings ∧
          breaker.Continues (breaker.perform settings (.counted fails outcomes)).1 := by
        simp only [Breaker.perform]
        split
        · exact ⟨sound, .same rfl rfl rfl⟩
        · exact ⟨sound.continue (.same rfl rfl rfl) rfl rfl rfl sound.fails (Or.inr rfl),
            .same rfl rfl rfl⟩
      refine ⟨kept.1, ?_⟩
      intro next found
      simp only [Breaker.perform] at found
      split at found
      · rename_i enough
        cases found
        exact Failing.mono ⟨here.1, Nat.le_trans enough here.2⟩ kept.2
      · cases found
  | tripping outcomes =>
      refine ⟨sound, ?_⟩
      rintro next ⟨⟩
      exact ⟨Nat.le_refl _, here⟩
  | opening clock outcomes =>
      have continues : breaker.Continues (breaker.perform settings (.opening clock outcomes)).1 :=
        ⟨Nat.le_refl _, ⟨[], (List.append_nil _).symm⟩, List.subset_append_left _ _⟩
      refine ⟨⟨sound.fails, ?_, ?_, ?_, ?_⟩, by simp [Breaker.perform]⟩
      · rintro openUntil ⟨⟩
        exact ⟨(clock, outcomes), List.mem_append_right _ (List.mem_singleton_self _), rfl⟩
      · intro opening member
        rcases List.mem_append.mp member with before | new
        · exact sound.openings opening before
        · rcases List.mem_singleton.mp new with rfl
          exact here
      · intro rejectedAt member
        rcases sound.rejected rejectedAt member with ⟨opening, opened, bounds⟩
        exact ⟨opening, continues.openings opened, bounds⟩
      · intro n stage found
        exact (sound.calls n stage found).mono continues

theorem Sound.step (sound : breaker.Sound settings) {event : BreakerEvent}
    (step : Step settings breaker event after) : after.Sound settings := by
  cases event with
  | tick seconds =>
      simp only [Step, next] at step
      rcases Option.some.inj step with rfl
      have later : breaker.now ≤ breaker.now + seconds := Nat.le_add_right _ _
      split
      · exact sound.continue ⟨later, ⟨[], (List.append_nil _).symm⟩, List.Subset.refl _⟩ rfl rfl rfl
          (Nat.zero_le _) (Or.inl rfl)
      · exact sound.continue ⟨later, ⟨[], (List.append_nil _).symm⟩, List.Subset.refl _⟩ rfl rfl rfl
          sound.fails (Or.inr rfl)
  | allow n | record n ok =>
      simp only [Step, next] at step
      split at step
      · rcases Option.some.inj step with rfl
        apply sound.setCall
        rintro next ⟨⟩
        trivial
      · cases step
  | command n answered =>
      simp only [Step, next] at step
      split at step
      · cases step
      · rename_i stage found
        rcases Option.some.inj step with rfl
        rcases sound.perform (sound.calls n stage found) with ⟨performed, goesOn⟩
        apply performed.setCall
        cases answered with
        | true => exact goesOn
        | false => simp
  | fail n =>
      rcases Option.some.inj step with rfl
      exact sound.setCall (by simp)

/-- In every run each rejection comes in the time of an opening, which was made by a failure that
was recorded as the last of at least as many failures as the threshold says, one after the other,
without a success between them. -/
theorem rejections_justified {events : List (Transition Breaker BreakerEvent)} {last : Breaker}
    (run : Run (Step settings) initial events last) :
    ∀ rejectedAt ∈ last.rejected, ∃ opening ∈ last.openings,
      (opening.1 ≤ rejectedAt ∧ rejectedAt < opening.1 + settings.openSeconds) ∧
        last.Failing settings.failThreshold opening.2 := by
  have sound : last.Sound settings :=
    (run.invariant (fun before event after step sound => Sound.step sound step) sound_initial).1
  intro rejectedAt member
  rcases sound.rejected rejectedAt member with ⟨opening, opened, bounds⟩
  exact ⟨opening, opened, bounds, (sound.openings opening opened).2⟩

/-- A push is rejected after two failures. -/
theorem rejections_justified_two :
    ∃ events last, Run (Step ⟨2, 300⟩) initial events last ∧ last.rejected = [100] ∧
      ∃ opening ∈ last.openings, (opening.1 ≤ 100 ∧ 100 < opening.1 + 300) ∧
        last.Failing 2 opening.2 := by
  have passed : ((execute (next ⟨2, 300⟩) initial
      [.record 0 false, .record 1 false, .command 0 true, .command 1 true, .command 1 true,
        .command 1 true, .command 0 true, .command 1 true, .tick 100, .allow 0, .command 0 true,
        .command 0 true, .command 0 true]).any
        fun outcome => decide (outcome.2.rejected = [100])) = true := by
    decide
  rcases Run.exists_of_execute _ passed with ⟨events, last, run, checked⟩
  have rejected : last.rejected = [100] := of_decide_eq_true checked
  exact ⟨events, last, run, rejected, rejections_justified run 100 (by simp [rejected])⟩

end Breaker

end Klsmsc
