import Klsmsc.Library.Runs
import Mathlib.Data.List.Pairwise
import Mathlib.Logic.Function.Basic

/-!
# Marks that expire

Jobs that are not to be done again for a while. An attempt at a job asks a store whether the key of
the job is marked and is skipped where it is. Otherwise the job is tried, and where that succeeds
the key is marked for some time. Attempts interleave. The store is asked for some jobs only. It may
not answer, may not take a mark and may lose one, and an attempt can be cut off at any point.

An attempt is never skipped but for a success that was marked a short time before. Where the store
works and no two attempts with one key are under way, successes with one key are apart by the time
that a mark lasts.
-/

namespace Klsmsc.Library

variable {Job Key : Type*}

/-- Where an attempt stands that was not skipped. -/
inductive AttemptStage
  | trying
  | succeeded
  deriving DecidableEq, Repr

/-- A job that an attempt is at. -/
structure Attempt (Job : Type*) where
  job : Job
  stage : AttemptStage
  deriving DecidableEq, Repr

/-- The time, when the mark of each key ends, the attempts under way by their numbers, and what has
become of the others, with the times. -/
structure Marks (Job Key : Type*) where
  now : ℕ
  ends : Key → ℕ
  attempts : ℕ → Option (Attempt Job)
  arrived : List Job
  skipped : List (Job × ℕ)
  failed : List Job
  cutOff : List Job
  succeeded : List (Job × ℕ)
  marked : List (Key × ℕ)

/-- What happens: time passes; an attempt asks for the mark, ends, marks or is cut off; the store
loses a mark. -/
inductive MarkEvent (Job Key : Type*)
  | tick (elapsed : ℕ)
  | check (n : ℕ) (job : Job) (answers : Bool)
  | finish (n : ℕ) (success : Bool)
  | mark (n : ℕ) (stored : Bool)
  | cut (n : ℕ)
  | forget (key : Key)

namespace Marks

/-- Nothing has happened. -/
def initial : Marks Job Key where
  now := 0
  ends := fun _ => 0
  attempts := fun _ => none
  arrived := []
  skipped := []
  failed := []
  cutOff := []
  succeeded := []
  marked := []

section

variable {key : Job → Key} {ttl : ℕ} {marks after : Marks Job Key}

/-- The skip is for a success with the key, whose mark the skip has met in its time. -/
def Justified (key : Job → Key) (ttl : ℕ) (marks : Marks Job Key) (skip : Job × ℕ) : Prop :=
  ∃ success ∈ marks.succeeded, key success.1 = key skip.1 ∧
    ∃ markedAt, (key skip.1, markedAt) ∈ marks.marked ∧
      success.2 ≤ markedAt ∧ markedAt ≤ skip.2 ∧ skip.2 < markedAt + ttl

/-- The job is under way, or it has come to an end. -/
def Accounted (marks : Marks Job Key) (job : Job) : Prop :=
  (∃ n, marks.attempts n = some ⟨job, .trying⟩) ∨ job ∈ marks.skipped.map Prod.fst ∨
    job ∈ marks.failed ∨ job ∈ marks.cutOff ∨ job ∈ marks.succeeded.map Prod.fst

/-- Marks are for successes, and skips are for marks. -/
structure Sound (key : Job → Key) (ttl : ℕ) (marks : Marks Job Key) : Prop where
  past : ∀ success ∈ marks.succeeded, success.2 ≤ marks.now
  pending : ∀ n job, marks.attempts n = some ⟨job, .succeeded⟩ →
    job ∈ marks.succeeded.map Prod.fst
  marked : ∀ mark ∈ marks.marked, mark.2 ≤ marks.now ∧
    ∃ success ∈ marks.succeeded, key success.1 = mark.1 ∧ success.2 ≤ mark.2
  ends : ∀ k, marks.ends k = 0 ∨ ∃ markedAt, (k, markedAt) ∈ marks.marked ∧
    marks.ends k = markedAt + ttl
  skipped : ∀ skip ∈ marks.skipped, marks.Justified key ttl skip

/-- An attempt after the attempts have gone on in one place. -/
theorem attempts_update {n m : ℕ} {next : Option (Attempt Job)} {one : Attempt Job}
    (attempt : Function.update marks.attempts n next m = some one) :
    m = n ∧ next = some one ∨ m ≠ n ∧ marks.attempts m = some one := by
  by_cases same : m = n
  · subst m
    rw [Function.update_self] at attempt
    exact Or.inl ⟨rfl, attempt⟩
  · rw [Function.update_of_ne same] at attempt
    exact Or.inr ⟨same, attempt⟩

/-- What has come to an end stays so. -/
theorem Accounted.mono {job : Job} (accounted : marks.Accounted job)
    (skipped : marks.skipped ⊆ after.skipped) (failed : marks.failed ⊆ after.failed)
    (cutOff : marks.cutOff ⊆ after.cutOff) (succeeded : marks.succeeded ⊆ after.succeeded)
    (goes : ∀ n, marks.attempts n = some ⟨job, .trying⟩ → after.Accounted job) :
    after.Accounted job := by
  rcases accounted with ⟨n, trying⟩ | skip | fail | cut | success
  · exact goes n trying
  · exact Or.inr (Or.inl (List.map_subset _ skipped skip))
  · exact Or.inr (Or.inr (Or.inl (failed fail)))
  · exact Or.inr (Or.inr (Or.inr (Or.inl (cutOff cut))))
  · exact Or.inr (Or.inr (Or.inr (Or.inr (List.map_subset _ succeeded success))))

/-- An attempt is where it was, or the attempts have gone on in its place. -/
theorem accounted_of_update {job : Job} {n m : ℕ} {next : Option (Attempt Job)}
    (attempts : after.attempts = Function.update marks.attempts n next)
    (trying : marks.attempts m = some ⟨job, .trying⟩)
    (goes : marks.attempts n = some ⟨job, .trying⟩ → after.Accounted job) :
    after.Accounted job := by
  by_cases same : m = n
  · subst m
    exact goes trying
  · exact Or.inl ⟨m, by rw [attempts, Function.update_of_ne same, trying]⟩

theorem Justified.mono {skip : Job × ℕ} (justified : marks.Justified key ttl skip)
    (succeeded : marks.succeeded ⊆ after.succeeded) (marked : marks.marked ⊆ after.marked) :
    after.Justified key ttl skip := by
  rcases justified with ⟨success, done, same, markedAt, mark, bounds⟩
  exact ⟨success, succeeded done, same, markedAt, marked mark, bounds⟩

/-- Where no job succeeds and no mark is stored or lost. -/
theorem Sound.of_same (sound : marks.Sound key ttl) (now : after.now = marks.now)
    (ends : after.ends = marks.ends) (succeeded : after.succeeded = marks.succeeded)
    (marked : after.marked = marks.marked)
    (pending : ∀ n job, after.attempts n = some ⟨job, .succeeded⟩ →
      marks.attempts n = some ⟨job, .succeeded⟩)
    (skipped : ∀ skip ∈ after.skipped, marks.Justified key ttl skip) : after.Sound key ttl where
  past := by
    rw [now, succeeded]
    exact sound.past
  pending := by
    rw [succeeded]
    exact fun n job attempt => sound.pending n job (pending n job attempt)
  marked := by
    rw [now, succeeded, marked]
    exact sound.marked
  ends := by
    rw [ends, marked]
    exact sound.ends
  skipped := fun skip member =>
    (skipped skip member).mono (by rw [succeeded]; exact List.Subset.refl _)
      (by rw [marked]; exact List.Subset.refl _)

theorem sound_initial : (initial : Marks Job Key).Sound key ttl :=
  ⟨by simp [initial], by simp [initial], by simp [initial], by simp [initial], by simp [initial]⟩

/-- No two attempts with one key are under way, the store is asked and works, and no attempt is cut
off between its success and its mark. -/
def Orderly (key : Job → Key) (asks : Job → Bool) (marks : Marks Job Key)
    (event : MarkEvent Job Key) : Prop :=
  match event with
  | .check _ job answers => (asks job && answers) = true ∧
      ∀ n one, marks.attempts n = some one → key one.job ≠ key job
  | .mark n stored => ∀ one, marks.attempts n = some one → (asks one.job && stored) = true
  | .cut n => ∀ job, marks.attempts n ≠ some ⟨job, .succeeded⟩
  | .forget _ => False
  | _ => True

/-- Attempts with one key follow each other, and successes are as far apart as a mark lasts. -/
structure Spaced (key : Job → Key) (ttl : ℕ) (marks : Marks Job Key) : Prop where
  past : ∀ success ∈ marks.succeeded, success.2 ≤ marks.now
  alone : ∀ n m one other, marks.attempts n = some one → marks.attempts m = some other →
    key one.job = key other.job → n = m
  apart : marks.succeeded.Pairwise fun earlier later =>
    key earlier.1 = key later.1 → earlier.2 + ttl ≤ later.2
  marked : ∀ success ∈ marks.succeeded, success.2 + ttl ≤ marks.ends (key success.1) ∨
    ∃ n job, marks.attempts n = some ⟨job, .succeeded⟩ ∧ key job = key success.1
  trying : ∀ n job, marks.attempts n = some ⟨job, .trying⟩ →
    ∀ success ∈ marks.succeeded, key success.1 = key job → success.2 + ttl ≤ marks.now

/-- An attempt goes on with its job, or ends. -/
theorem Spaced.alone_update (spaced : marks.Spaced key ttl) {n : ℕ} {before : Attempt Job}
    (attempt : marks.attempts n = some before) {next : Option (Attempt Job)}
    (goes : ∀ one, next = some one → one.job = before.job) :
    ∀ m k one other, Function.update marks.attempts n next m = some one →
      Function.update marks.attempts n next k = some other → key one.job = key other.job →
        m = k := by
  have earlier : ∀ m one, Function.update marks.attempts n next m = some one →
      ∃ was, marks.attempts m = some was ∧ was.job = one.job := by
    intro m one later
    rcases attempts_update later with ⟨rfl, same⟩ | ⟨-, same⟩
    · exact ⟨before, attempt, (goes one same).symm⟩
    · exact ⟨one, same, rfl⟩
  intro m k one other first second same
  rcases earlier m one first with ⟨one', first, sameFirst⟩
  rcases earlier k other second with ⟨other', second, sameSecond⟩
  exact spaced.alone m k one' other' first second (by rw [sameFirst, sameSecond, same])

/-- An attempt that has not succeeded ends. -/
theorem Spaced.of_ending (spaced : marks.Spaced key ttl) {n : ℕ} {job : Job}
    (attempt : marks.attempts n = some ⟨job, .trying⟩) (now : after.now = marks.now)
    (ends : after.ends = marks.ends) (succeeded : after.succeeded = marks.succeeded)
    (attempts : after.attempts = Function.update marks.attempts n none) :
    after.Spaced key ttl := by
  refine ⟨?_, ?_, ?_, ?_, ?_⟩
  · rw [now, succeeded]
    exact spaced.past
  · rw [attempts]
    exact spaced.alone_update attempt (by simp)
  · rw [succeeded]
    exact spaced.apart
  · rw [succeeded, ends, attempts]
    intro success member
    refine (spaced.marked success member).imp_right ?_
    rintro ⟨m, one, pending, same⟩
    have other : m ≠ n := by
      rintro rfl
      simp [attempt] at pending
    exact ⟨m, one, (Function.update_of_ne other _ _).trans pending, same⟩
  · rw [succeeded, now, attempts]
    intro m one trying
    rcases attempts_update trying with ⟨-, same⟩ | ⟨-, earlier⟩
    · cases same
    · exact spaced.trying m one earlier

theorem spaced_initial : (initial : Marks Job Key).Spaced key ttl :=
  ⟨by simp [initial], by simp [initial], by simp [initial], by simp [initial], by simp [initial]⟩

end

variable [DecidableEq Key] (key : Job → Key) (asks : Job → Bool) (ttl : ℕ)

/-- The state after an event, if it can happen. -/
def next (marks : Marks Job Key) : MarkEvent Job Key → Option (Marks Job Key)
  | .tick elapsed => some { marks with now := marks.now + elapsed }
  | .check n job answers =>
      match marks.attempts n with
      | some _ => none
      | none =>
          if (asks job && answers) ∧ marks.now < marks.ends (key job) then
            some
              { marks with
                arrived := marks.arrived ++ [job]
                skipped := marks.skipped ++ [(job, marks.now)] }
          else
            some
              { marks with
                arrived := marks.arrived ++ [job]
                attempts := Function.update marks.attempts n (some ⟨job, .trying⟩) }
  | .finish n success =>
      match marks.attempts n with
      | some ⟨job, .trying⟩ =>
          if success then
            some
              { marks with
                succeeded := marks.succeeded ++ [(job, marks.now)]
                attempts := Function.update marks.attempts n (some ⟨job, .succeeded⟩) }
          else
            some
              { marks with
                failed := marks.failed ++ [job]
                attempts := Function.update marks.attempts n none }
      | _ => none
  | .mark n stored =>
      match marks.attempts n with
      | some ⟨job, .succeeded⟩ =>
          if asks job && stored then
            some
              { marks with
                ends := Function.update marks.ends (key job) (marks.now + ttl)
                marked := marks.marked ++ [(key job, marks.now)]
                attempts := Function.update marks.attempts n none }
          else some { marks with attempts := Function.update marks.attempts n none }
      | _ => none
  | .cut n =>
      match marks.attempts n with
      | some ⟨job, .trying⟩ =>
          some
            { marks with
              cutOff := marks.cutOff ++ [job]
              attempts := Function.update marks.attempts n none }
      | some ⟨_, .succeeded⟩ =>
          some { marks with attempts := Function.update marks.attempts n none }
      | none => none
  | .forget lost => some { marks with ends := Function.update marks.ends lost 0 }

/-- An event that happens. -/
def Step (before : Marks Job Key) (event : MarkEvent Job Key) (after : Marks Job Key) : Prop :=
  before.next key asks ttl event = some after

/-! ### What a step does -/

variable {key} {asks} {ttl} {marks after : Marks Job Key}

/-- What each step does, and when. -/
inductive Performs (key : Job → Key) (asks : Job → Bool) (ttl : ℕ) (marks : Marks Job Key) :
    MarkEvent Job Key → Marks Job Key → Prop
  | tick (elapsed : ℕ) :
      Performs key asks ttl marks (.tick elapsed) { marks with now := marks.now + elapsed }
  | skip {n : ℕ} {job : Job} {answers : Bool} (live : marks.now < marks.ends (key job)) :
      Performs key asks ttl marks (.check n job answers)
        { marks with
          arrived := marks.arrived ++ [job]
          skipped := marks.skipped ++ [(job, marks.now)] }
  | start {n : ℕ} {job : Job} {answers : Bool} (free : marks.attempts n = none)
      (unmarked : (asks job && answers) = true → marks.ends (key job) ≤ marks.now) :
      Performs key asks ttl marks (.check n job answers)
        { marks with
          arrived := marks.arrived ++ [job]
          attempts := Function.update marks.attempts n (some ⟨job, .trying⟩) }
  | succeed {n : ℕ} {job : Job} (attempt : marks.attempts n = some ⟨job, .trying⟩) :
      Performs key asks ttl marks (.finish n true)
        { marks with
          succeeded := marks.succeeded ++ [(job, marks.now)]
          attempts := Function.update marks.attempts n (some ⟨job, .succeeded⟩) }
  | fail {n : ℕ} {job : Job} (attempt : marks.attempts n = some ⟨job, .trying⟩) :
      Performs key asks ttl marks (.finish n false)
        { marks with
          failed := marks.failed ++ [job]
          attempts := Function.update marks.attempts n none }
  | store {n : ℕ} {job : Job} {stored : Bool}
      (attempt : marks.attempts n = some ⟨job, .succeeded⟩) :
      Performs key asks ttl marks (.mark n stored)
        { marks with
          ends := Function.update marks.ends (key job) (marks.now + ttl)
          marked := marks.marked ++ [(key job, marks.now)]
          attempts := Function.update marks.attempts n none }
  | unmarked {n : ℕ} {job : Job} {stored : Bool}
      (attempt : marks.attempts n = some ⟨job, .succeeded⟩) (lost : (asks job && stored) = false) :
      Performs key asks ttl marks (.mark n stored)
        { marks with attempts := Function.update marks.attempts n none }
  | cut {n : ℕ} {job : Job} (attempt : marks.attempts n = some ⟨job, .trying⟩) :
      Performs key asks ttl marks (.cut n)
        { marks with
          cutOff := marks.cutOff ++ [job]
          attempts := Function.update marks.attempts n none }
  | cutLate {n : ℕ} {job : Job} (attempt : marks.attempts n = some ⟨job, .succeeded⟩) :
      Performs key asks ttl marks (.cut n)
        { marks with attempts := Function.update marks.attempts n none }
  | forget (lost : Key) :
      Performs key asks ttl marks (.forget lost)
        { marks with ends := Function.update marks.ends lost 0 }

theorem performs_of_step {event : MarkEvent Job Key} (step : marks.Step key asks ttl event after) :
    marks.Performs key asks ttl event after := by
  rw [Step] at step
  cases event with
  | tick elapsed =>
      rcases Option.some.inj step with rfl
      exact .tick elapsed
  | check n job answers =>
      cases attempt : marks.attempts n with
      | some one => simp [next, attempt] at step
      | none =>
          simp only [next, attempt] at step
          split at step
          · rename_i live
            rcases Option.some.inj step with rfl
            exact .skip live.2
          · rename_i dead
            rcases Option.some.inj step with rfl
            exact .start attempt fun answered => Nat.not_lt.mp fun live => dead ⟨answered, live⟩
  | finish n success =>
      rcases attempt : marks.attempts n with _ | ⟨job, _ | _⟩
      · simp [next, attempt] at step
      · simp only [next, attempt] at step
        cases success with
        | true =>
            rcases Option.some.inj step with rfl
            exact .succeed attempt
        | false =>
            rcases Option.some.inj step with rfl
            exact .fail attempt
      · simp [next, attempt] at step
  | mark n stored =>
      rcases attempt : marks.attempts n with _ | ⟨job, _ | _⟩
      · simp [next, attempt] at step
      · simp [next, attempt] at step
      · simp only [next, attempt] at step
        split at step
        · rcases Option.some.inj step with rfl
          exact .store attempt
        · rename_i lost
          rcases Option.some.inj step with rfl
          exact .unmarked attempt (by simpa using lost)
  | cut n =>
      rcases attempt : marks.attempts n with _ | ⟨job, _ | _⟩
      · simp [next, attempt] at step
      · simp only [next, attempt] at step
        rcases Option.some.inj step with rfl
        exact .cut attempt
      · simp only [next, attempt] at step
        rcases Option.some.inj step with rfl
        exact .cutLate attempt
  | forget lost =>
      rcases Option.some.inj step with rfl
      exact .forget lost

/-! ### Skips have a reason -/

theorem Sound.step (sound : marks.Sound key ttl) {event : MarkEvent Job Key}
    (performs : marks.Performs key asks ttl event after) : after.Sound key ttl := by
  cases performs with
  | tick elapsed =>
      refine ⟨?_, sound.pending, ?_, sound.ends, sound.skipped⟩
      · exact fun success member => Nat.le_add_right_of_le (sound.past success member)
      · intro mark member
        rcases sound.marked mark member with ⟨past, success⟩
        exact ⟨Nat.le_add_right_of_le past, success⟩
  | @skip n job answers live =>
      refine sound.of_same rfl rfl rfl rfl (fun _ _ => id) ?_
      intro skip member
      rcases List.mem_append.mp member with earlier | new
      · exact sound.skipped skip earlier
      · rcases List.mem_singleton.mp new with rfl
        rcases sound.ends (key job) with none | ⟨markedAt, mark, ends⟩
        · omega
        · rcases sound.marked _ mark with ⟨past, success, done, same, before⟩
          rw [ends] at live
          exact ⟨success, done, same, markedAt, mark, before, past, live⟩
  | @start n job answers free unmarked =>
      refine sound.of_same rfl rfl rfl rfl ?_ sound.skipped
      intro m one attempt
      rcases attempts_update attempt with ⟨-, same⟩ | ⟨-, earlier⟩
      · cases same
      · exact earlier
  | @succeed n job attempt =>
      have more : marks.succeeded ⊆ marks.succeeded ++ [(job, marks.now)] :=
        List.subset_append_left _ _
      refine ⟨?_, ?_, ?_, sound.ends, ?_⟩
      · intro success member
        rcases List.mem_append.mp member with earlier | new
        · exact sound.past success earlier
        · rcases List.mem_singleton.mp new with rfl
          exact Nat.le_refl _
      · intro m one pending
        rcases attempts_update pending with ⟨-, same⟩ | ⟨-, earlier⟩
        · cases same
          simp
        · exact List.map_subset _ more (sound.pending m one earlier)
      · intro mark member
        rcases sound.marked mark member with ⟨past, success, done, rest⟩
        exact ⟨past, success, more done, rest⟩
      · exact fun skip member => (sound.skipped skip member).mono more (List.Subset.refl _)
  | @store n job stored attempt =>
      have more : marks.marked ⊆ marks.marked ++ [(key job, marks.now)] :=
        List.subset_append_left _ _
      refine ⟨sound.past, ?_, ?_, ?_, ?_⟩
      · intro m one pending
        rcases attempts_update pending with ⟨-, same⟩ | ⟨-, earlier⟩
        · cases same
        · exact sound.pending m one earlier
      · intro mark member
        rcases List.mem_append.mp member with earlier | new
        · exact sound.marked mark earlier
        · rcases List.mem_singleton.mp new with rfl
          rcases List.mem_map.mp (sound.pending n job attempt) with ⟨success, done, same⟩
          exact ⟨Nat.le_refl _, success, done, by rw [same], sound.past success done⟩
      · intro k
        by_cases same : k = key job
        · subst k
          exact Or.inr ⟨marks.now, by simp, by simp⟩
        · simp only [Function.update_of_ne same]
          exact (sound.ends k).imp_right fun ⟨markedAt, mark, ends⟩ => ⟨markedAt, more mark, ends⟩
      · exact fun skip member => (sound.skipped skip member).mono (List.Subset.refl _) more
  | forget lost =>
      refine ⟨sound.past, sound.pending, sound.marked, ?_, sound.skipped⟩
      intro k
      by_cases same : k = lost
      · subst k
        exact Or.inl (Function.update_self _ _ _)
      · simp only [Function.update_of_ne same]
        exact sound.ends k
  | _ =>
      refine sound.of_same rfl rfl rfl rfl ?_ sound.skipped
      intro m one pending
      rcases attempts_update pending with ⟨-, same⟩ | ⟨-, earlier⟩
      · cases same
      · exact earlier

theorem accounted_step (sound : ∀ job ∈ marks.arrived, marks.Accounted job)
    {event : MarkEvent Job Key} (performs : marks.Performs key asks ttl event after) :
    ∀ job ∈ after.arrived, after.Accounted job := by
  intro job member
  cases performs with
  | tick elapsed => exact sound job member
  | forget lost => exact sound job member
  | @skip n one answers live =>
      rcases List.mem_append.mp member with earlier | new
      · exact (sound job earlier).mono (List.subset_append_left _ _) (List.Subset.refl _)
          (List.Subset.refl _) (List.Subset.refl _) fun m trying => Or.inl ⟨m, trying⟩
      · rcases List.mem_singleton.mp new with rfl
        exact Or.inr (Or.inl (by simp))
  | @start n one answers free unmarked =>
      rcases List.mem_append.mp member with earlier | new
      · refine (sound job earlier).mono (List.Subset.refl _) (List.Subset.refl _)
          (List.Subset.refl _) (List.Subset.refl _) fun m trying => ?_
        refine accounted_of_update rfl trying fun here => ?_
        rw [free] at here
        cases here
      · rcases List.mem_singleton.mp new with rfl
        exact Or.inl ⟨n, Function.update_self _ _ _⟩
  | @succeed n one attempt =>
      refine (sound job member).mono (List.Subset.refl _) (List.Subset.refl _)
        (List.Subset.refl _) (List.subset_append_left _ _) fun m trying => ?_
      refine accounted_of_update rfl trying fun here => ?_
      rw [attempt] at here
      cases here
      exact Or.inr (Or.inr (Or.inr (Or.inr (by simp))))
  | @fail n one attempt =>
      refine (sound job member).mono (List.Subset.refl _) (List.subset_append_left _ _)
        (List.Subset.refl _) (List.Subset.refl _) fun m trying => ?_
      refine accounted_of_update rfl trying fun here => ?_
      rw [attempt] at here
      cases here
      exact Or.inr (Or.inr (Or.inl (by simp)))
  | @cut n one attempt =>
      refine (sound job member).mono (List.Subset.refl _) (List.Subset.refl _)
        (List.subset_append_left _ _) (List.Subset.refl _) fun m trying => ?_
      refine accounted_of_update rfl trying fun here => ?_
      rw [attempt] at here
      cases here
      exact Or.inr (Or.inr (Or.inr (Or.inl (by simp))))
  | @store n one stored attempt =>
      refine (sound job member).mono (List.Subset.refl _) (List.Subset.refl _)
        (List.Subset.refl _) (List.Subset.refl _) fun m trying => ?_
      refine accounted_of_update rfl trying fun here => ?_
      rw [attempt] at here
      cases here
  | @unmarked n one stored attempt lost =>
      refine (sound job member).mono (List.Subset.refl _) (List.Subset.refl _)
        (List.Subset.refl _) (List.Subset.refl _) fun m trying => ?_
      refine accounted_of_update rfl trying fun here => ?_
      rw [attempt] at here
      cases here
  | @cutLate n one attempt =>
      refine (sound job member).mono (List.Subset.refl _) (List.Subset.refl _)
        (List.Subset.refl _) (List.Subset.refl _) fun m trying => ?_
      refine accounted_of_update rfl trying fun here => ?_
      rw [attempt] at here
      cases here

theorem Spaced.step (spaced : marks.Spaced key ttl) {event : MarkEvent Job Key}
    (performs : marks.Performs key asks ttl event after) (orderly : marks.Orderly key asks event) :
    after.Spaced key ttl := by
  cases performs with
  | tick elapsed =>
      refine ⟨?_, spaced.alone, spaced.apart, spaced.marked, ?_⟩
      · exact fun success member => Nat.le_add_right_of_le (spaced.past success member)
      · exact fun n job trying success member same =>
          Nat.le_add_right_of_le (spaced.trying n job trying success member same)
  | skip live => exact ⟨spaced.past, spaced.alone, spaced.apart, spaced.marked, spaced.trying⟩
  | @start n job answers free unmarked =>
      rcases orderly with ⟨answered, others⟩
      refine ⟨spaced.past, ?_, spaced.apart, ?_, ?_⟩
      · intro m k one other first second same
        rcases attempts_update first with ⟨rfl, isNew⟩ | ⟨-, earlier⟩
        · cases isNew
          rcases attempts_update second with ⟨rfl, -⟩ | ⟨-, before⟩
          · rfl
          · exact absurd same.symm (others k other before)
        · rcases attempts_update second with ⟨rfl, isNew⟩ | ⟨-, before⟩
          · cases isNew
            exact absurd same (others m one earlier)
          · exact spaced.alone m k one other earlier before same
      · intro success member
        refine (spaced.marked success member).imp_right ?_
        rintro ⟨m, one, pending, same⟩
        have other : m ≠ n := by
          rintro rfl
          simp [free] at pending
        exact ⟨m, one, (Function.update_of_ne other _ _).trans pending, same⟩
      · intro m one trying success member same
        rcases attempts_update trying with ⟨rfl, isNew⟩ | ⟨-, earlier⟩
        · cases isNew
          -- the mark of the success has ended, or its attempt would be under way
          rcases spaced.marked success member with covered | ⟨k, before, pending, alike⟩
          · rw [same] at covered
            exact Nat.le_trans covered (unmarked answered)
          · exact absurd (alike.trans same) (others k _ pending)
        · exact spaced.trying m one earlier success member same
  | @succeed n job attempt =>
      refine ⟨?_, ?_, ?_, ?_, ?_⟩
      · intro success member
        rcases List.mem_append.mp member with earlier | new
        · exact spaced.past success earlier
        · rcases List.mem_singleton.mp new with rfl
          exact Nat.le_refl _
      · refine spaced.alone_update attempt ?_
        intro one same
        rcases Option.some.inj same with rfl
        rfl
      · refine List.pairwise_append.mpr ⟨spaced.apart, List.pairwise_singleton _ _, ?_⟩
        intro success member last isLast same
        rcases List.mem_singleton.mp isLast with rfl
        exact spaced.trying n job attempt success member same
      · intro success member
        rcases List.mem_append.mp member with earlier | new
        · refine (spaced.marked success earlier).imp_right ?_
          rintro ⟨m, one, pending, same⟩
          have other : m ≠ n := by
            rintro rfl
            simp [attempt] at pending
          exact ⟨m, one, (Function.update_of_ne other _ _).trans pending, same⟩
        · rcases List.mem_singleton.mp new with rfl
          exact Or.inr ⟨n, job, Function.update_self _ _ _, rfl⟩
      · intro m one trying success member same
        rcases attempts_update trying with ⟨-, isNew⟩ | ⟨different, earlier⟩
        · cases isNew
        · rcases List.mem_append.mp member with before | new
          · exact spaced.trying m one earlier success before same
          · rcases List.mem_singleton.mp new with rfl
            exact absurd (spaced.alone m n _ _ earlier attempt same.symm) different
  | fail attempt => exact spaced.of_ending attempt rfl rfl rfl rfl
  | @store n job stored attempt =>
      refine ⟨spaced.past, spaced.alone_update attempt (by simp), spaced.apart, ?_, ?_⟩
      · intro success member
        by_cases same : key success.1 = key job
        · left
          simp only [same, Function.update_self]
          exact Nat.add_le_add_right (spaced.past success member) ttl
        · simp only [Function.update_of_ne same]
          refine (spaced.marked success member).imp_right ?_
          rintro ⟨m, one, pending, alike⟩
          have other : m ≠ n := by
            rintro rfl
            rw [attempt] at pending
            cases pending
            exact same alike.symm
          exact ⟨m, one, (Function.update_of_ne other _ _).trans pending, alike⟩
      · intro m one trying
        rcases attempts_update trying with ⟨-, isNew⟩ | ⟨-, earlier⟩
        · cases isNew
        · exact spaced.trying m one earlier
  | unmarked attempt lost => exact absurd ((orderly _ attempt).symm.trans lost) (by simp)
  | cut attempt => exact spaced.of_ending attempt rfl rfl rfl rfl
  | cutLate attempt => exact absurd attempt (orderly _)
  | forget lost => exact orderly.elim

/-! ### Runs -/

section

open Library

variable {events : List (Transition (Marks Job Key) (MarkEvent Job Key))} {last : Marks Job Key}

/-- In every run each skip is for a success with its key, marked not long before. -/
theorem skips_justified (run : Run (Step key asks ttl) initial events last) :
    ∀ skip ∈ last.skipped, last.Justified key ttl skip :=
  (run.invariant (fun _ _ _ step sound => sound.step (performs_of_step step))
    sound_initial).1.skipped

/-- In every run each job that has come is under way or has come to an end. -/
theorem jobs_accounted (run : Run (Step key asks ttl) initial events last) :
    ∀ job ∈ last.arrived, last.Accounted job :=
  (run.invariant (fun _ _ _ step sound => accounted_step sound (performs_of_step step))
    (by simp [initial])).1

/-- In a run where the attempts with one key follow each other and the store works, the successes
with one key are as far apart as a mark lasts. -/
theorem successes_apart (run : Run (Step key asks ttl) initial events last)
    (orderly : ∀ transition ∈ events, transition.before.Orderly key asks transition.label) :
    last.succeeded.Pairwise fun earlier later =>
      key earlier.1 = key later.1 → earlier.2 + ttl ≤ later.2 :=
  ((run.guarded orderly).invariant
    (fun _ _ _ step spaced => spaced.step (performs_of_step step.1) step.2) spaced_initial).1.apart

end

end Marks

end Klsmsc.Library
