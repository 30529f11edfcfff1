import Klsmsc.Library.Runs

/-!
# Token buckets

A bucket starts full. With each tick a filler begins to put a batch of tokens into it, one by one
and only as long as the bucket is not full; meanwhile tokens are taken. What is granted is at most
what the bucket holds at the start and a batch for each tick, and if the demand is high enough it
is exactly that, however small the bucket is.
-/

namespace Klsmsc.Library

/-- The filler waits for a tick, has a part of a batch to put in, or is gone. -/
inductive Filler where
  | waiting
  | filling (left : ℕ)
  | gone
  deriving DecidableEq, Repr

/-- What the filler still has to put in. -/
def Filler.left : Filler → ℕ
  | .filling left => left
  | _ => 0

/-- A bucket with its filler, the ticks so far and the tokens that have been granted. -/
structure TokenBucket where
  capacity : ℕ
  batch : ℕ
  tokens : ℕ
  filler : Filler
  isStopped : Bool
  ticks : ℕ
  granted : ℕ
  deriving DecidableEq, Repr

/-- What happens at a bucket: a tick, one pass of the filler's loop, a token that is taken, a
request that goes on without a token, the request to stop, and the end of the filler. -/
inductive BucketEvent where
  | tick
  | put
  | take
  | expire
  | stop
  | leave
  deriving DecidableEq, Repr

namespace TokenBucket

/-- A bucket at the start. -/
def full (capacity batch : ℕ) : TokenBucket :=
  ⟨capacity, batch, capacity, .waiting, false, 0, 0⟩

/-- One step of a bucket. -/
def next (bucket : TokenBucket) : BucketEvent → Option TokenBucket
  | .tick =>
      if bucket.filler = .waiting then
        some { bucket with filler := .filling bucket.batch, ticks := bucket.ticks + 1 }
      else none
  | .put =>
      match bucket.filler with
      | .filling (left + 1) =>
          if bucket.tokens < bucket.capacity then
            some { bucket with tokens := bucket.tokens + 1, filler := .filling left }
          else some { bucket with filler := .waiting }
      | .filling 0 => some { bucket with filler := .waiting }
      | _ => none
  | .take =>
      if 0 < bucket.tokens then
        some { bucket with tokens := bucket.tokens - 1, granted := bucket.granted + 1 }
      else none
  | .expire => some bucket
  | .stop => some { bucket with isStopped := true }
  | .leave =>
      if bucket.filler = .waiting ∧ bucket.isStopped then some { bucket with filler := .gone }
      else none

/-- The steps of a bucket. -/
abbrev Step (before : TokenBucket) (event : BucketEvent) (after : TokenBucket) : Prop :=
  before.next event = some after

/-- The tokens that were granted, that lie in the bucket or are owed come from the start and
the ticks. -/
structure Sound (capacity batch : ℕ) (bucket : TokenBucket) : Prop where
  sized : bucket.capacity = capacity
  batched : bucket.batch = batch
  within : bucket.tokens ≤ capacity
  accounted : bucket.granted + bucket.tokens + bucket.filler.left ≤ capacity + bucket.ticks * batch

theorem sound_full (capacity batch : ℕ) : (full capacity batch).Sound capacity batch where
  sized := rfl
  batched := rfl
  within := Nat.le_refl _
  accounted := by simp [full, Filler.left]

theorem Sound.step {capacity batch : ℕ} {before after : TokenBucket} {event : BucketEvent}
    (step : before.Step event after) (sound : before.Sound capacity batch) :
    after.Sound capacity batch := by
  rcases sound with ⟨rfl, rfl, within, accounted⟩
  cases event with
  | tick =>
      rw [Step, next, Option.ite_none_right_eq_some] at step
      rcases step with ⟨waiting, stepped⟩
      cases stepped
      rw [waiting] at accounted
      refine ⟨rfl, rfl, within, ?_⟩
      simp only [Filler.left, Nat.succ_mul] at accounted ⊢
      omega
  | put =>
      rw [Step, next] at step
      split at step
      · rename_i left filling
        rw [filling] at accounted
        simp only [Filler.left] at accounted
        split at step <;> cases step
        · refine ⟨rfl, rfl, by simpa, ?_⟩
          simp only [Filler.left]
          omega
        · refine ⟨rfl, rfl, within, ?_⟩
          simp only [Filler.left]
          omega
      · cases step
        refine ⟨rfl, rfl, within, ?_⟩
        simp only [Filler.left]
        omega
      · cases step
  | take =>
      rw [Step, next, Option.ite_none_right_eq_some] at step
      rcases step with ⟨some, stepped⟩
      cases stepped
      refine ⟨rfl, rfl, Nat.le_trans (Nat.sub_le _ _) within, ?_⟩
      dsimp only
      omega
  | expire =>
      cases step
      exact ⟨rfl, rfl, within, accounted⟩
  | stop =>
      cases step
      exact ⟨rfl, rfl, within, accounted⟩
  | leave =>
      rw [Step, next, Option.ite_none_right_eq_some] at step
      rcases step with ⟨waiting, stepped⟩
      cases stepped
      refine ⟨rfl, rfl, within, ?_⟩
      simp only [Filler.left]
      omega

/-- In every run, the tokens that are granted are at most those of the start and of the ticks. -/
theorem granted_le {capacity batch : ℕ} {last : TokenBucket}
    {transitions : List (Transition TokenBucket BucketEvent)}
    (run : Run Step (full capacity batch) transitions last) :
    last.granted ≤ capacity + last.ticks * batch := by
  have preserved : ∀ before event after, Step before event after →
      before.Sound capacity batch → after.Sound capacity batch :=
    fun _ _ _ step sound => sound.step step
  have accounted := (run.invariant preserved (sound_full capacity batch)).1.accounted
  omega

/-! ### Demand that takes every token -/

/-- Some run leads from one state of a bucket to another. -/
def Leads (first last : TokenBucket) : Prop :=
  ∃ transitions, Run Step first transitions last

theorem Leads.trans {first middle last : TokenBucket} (left : first.Leads middle)
    (right : middle.Leads last) : first.Leads last := by
  rcases left with ⟨transitions, run⟩
  rcases right with ⟨transitions', run'⟩
  exact ⟨_, run.append run'⟩

theorem Leads.single {first last : TokenBucket} {event : BucketEvent}
    (step : first.Step event last) : first.Leads last :=
  ⟨_, Run.cons step (Run.nil _)⟩

theorem leads_drained (bucket : TokenBucket) :
    bucket.Leads { bucket with tokens := 0, granted := bucket.granted + bucket.tokens } := by
  rcases bucket with ⟨capacity, batch, tokens, filler, isStopped, ticks, granted⟩
  induction tokens generalizing granted with
  | zero => exact ⟨[], Run.nil _⟩
  | succ tokens ih =>
      have taken := ih (granted + 1)
      rw [Nat.add_right_comm] at taken
      have take : Step ⟨capacity, batch, tokens + 1, filler, isStopped, ticks, granted⟩ .take
          ⟨capacity, batch, tokens, filler, isStopped, ticks, granted + 1⟩ := by
        simp [Step, next]
      exact (Leads.single take).trans taken

/-- Each token of a batch is taken as soon as it is there. -/
theorem leads_batch {capacity : ℕ} (batch left ticks granted : ℕ) (isStopped : Bool)
    (room : 0 < capacity) :
    Leads ⟨capacity, batch, 0, .filling left, isStopped, ticks, granted⟩
      ⟨capacity, batch, 0, .waiting, isStopped, ticks, granted + left⟩ := by
  induction left generalizing granted with
  | zero =>
      have done : Step ⟨capacity, batch, 0, .filling 0, isStopped, ticks, granted⟩ .put
          ⟨capacity, batch, 0, .waiting, isStopped, ticks, granted⟩ := rfl
      exact Leads.single done
  | succ left ih =>
      have later := ih (granted + 1)
      rw [Nat.add_right_comm] at later
      have put : Step ⟨capacity, batch, 0, .filling (left + 1), isStopped, ticks, granted⟩ .put
          ⟨capacity, batch, 1, .filling left, isStopped, ticks, granted⟩ := if_pos room
      have take : Step ⟨capacity, batch, 1, .filling left, isStopped, ticks, granted⟩ .take
          ⟨capacity, batch, 0, .filling left, isStopped, ticks, granted + 1⟩ := rfl
      exact ((Leads.single put).trans (Leads.single take)).trans later

/-- The bound is reached after any number of ticks. -/
theorem leads_granted {capacity : ℕ} (batch ticks : ℕ) (room : 0 < capacity) :
    (full capacity batch).Leads
      ⟨capacity, batch, 0, .waiting, false, ticks, capacity + ticks * batch⟩ := by
  induction ticks with
  | zero => simpa [full] using leads_drained (full capacity batch)
  | succ ticks ih =>
      have tick : Step ⟨capacity, batch, 0, .waiting, false, ticks, capacity + ticks * batch⟩ .tick
          ⟨capacity, batch, 0, .filling batch, false, ticks + 1, capacity + ticks * batch⟩ := rfl
      rw [Nat.succ_mul, ← Nat.add_assoc]
      exact (ih.trans (Leads.single tick)).trans (leads_batch _ _ _ _ _ room)

end TokenBucket

end Klsmsc.Library
