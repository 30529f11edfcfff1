import Klsmsc.Library.Runs
import Mathlib.Data.Int.Notation
import Mathlib.Data.Nat.Notation

/-!
# Slots of an account

`_acct_slot` counts the callbacks of an account that are being pushed, in a key of Redis. A task
increments the key, goes on when the result is within the limit, and decrements the key when it is
done; a task that finds the limit exceeded decrements it at once. The increment that returns 1 lets
the key expire after a minute, which should clear what a crashed process has left. But a minute is
no limit for the others: while one task follows another the counter does not come back to 1, and the
key expires under tasks that will still decrement it. The slots hold in the runs in which the key
only expires while no task has its increment.

Time is in milliseconds. Redis answers every command.
-/

namespace Klsmsc

open Library

/-- The key `wh:inflight:…` of an account, as far as it is there. -/
structure InflightKey where
  count : ℤ
  expiresAt : Option ℕ
  deriving DecidableEq, Repr

inductive SlotTask
  | counted (n : ℤ)
  | inside
  deriving DecidableEq, Repr

def SlotTask.admitted (limit : ℤ) : SlotTask → Bool
  | .counted n => n ≤ limit
  | .inside => true

structure AccountSlots where
  key : Option InflightKey
  now : ℕ
  tasks : List SlotTask
  deriving DecidableEq, Repr

/-- What happens: time goes on, a task increments the counter, enters the slot, is refused, or
leaves the slot. -/
inductive SlotEvent
  | tick (milliseconds : ℕ)
  | increment
  | enter (task : ℕ)
  | refuse (task : ℕ)
  | leave (task : ℕ)

namespace AccountSlots

variable (limit : ℤ) (state : AccountSlots)

def initial : AccountSlots := ⟨none, 0, []⟩

def count : ℤ :=
  (state.key.map InflightKey.count).getD 0

/-- `r.incr(key)`, with the expiry that is set when it returns 1. -/
def incr : InflightKey where
  count := state.count + 1
  expiresAt :=
    if state.count + 1 = 1 then some (state.now + 60000)
    else state.key.bind InflightKey.expiresAt

/-- `r.decr(key)`. -/
def decr : InflightKey where
  count := state.count - 1
  expiresAt := state.key.bind InflightKey.expiresAt

def release (index : ℕ) : AccountSlots :=
  { state with
    key := some state.decr
    tasks := state.tasks.eraseIdx index }

def next : SlotEvent → Option AccountSlots
  | .tick milliseconds =>
      let now := state.now + milliseconds
      some
        { state with
          key := state.key.filter fun key => key.expiresAt.all fun due => now < due
          now := now }
  | .increment =>
      some
        { state with
          key := some state.incr
          tasks := .counted state.incr.count :: state.tasks }
  | .enter index =>
      match state.tasks[index]? with
      | some (.counted n) =>
          if n ≤ limit then some { state with tasks := state.tasks.set index .inside } else none
      | _ => none
  | .refuse index =>
      match state.tasks[index]? with
      | some (.counted n) => if limit < n then some (state.release index) else none
      | _ => none
  | .leave index =>
      match state.tasks[index]? with
      | some .inside => some (state.release index)
      | _ => none

def Step (before : AccountSlots) (event : SlotEvent) (after : AccountSlots) : Prop :=
  before.next limit event = some after

def inside : ℕ :=
  state.tasks.countP (· = .inside)

structure Kept : Prop where
  within : state.inside ≤ limit.toNat
  cleared : state.tasks = [] → state.count = 0

def Heeds : SlotEvent → Prop
  | .tick milliseconds =>
      state.tasks ≠ [] → ∀ key ∈ state.key, ∀ due ∈ key.expiresAt, state.now + milliseconds < due
  | _ => True

instance (event : SlotEvent) : Decidable (state.Heeds event) :=
  match event with
  | .tick _ => inferInstanceAs (Decidable (_ → ∀ key ∈ state.key, ∀ due ∈ key.expiresAt, _))
  | .increment | .enter _ | .refuse _ | .leave _ => inferInstanceAs (Decidable True)

/-! ### The counter -/

/-- The counter is the number of the tasks that hold an increment of it, and those that may enter
are within the limit. -/
structure Counts : Prop where
  count : state.count = state.tasks.length
  admitted : state.tasks.countP (SlotTask.admitted limit) ≤ limit.toNat

variable {limit state} {after : AccountSlots} {event : SlotEvent}

namespace Counts

theorem initial : AccountSlots.initial.Counts limit :=
  ⟨rfl, Nat.zero_le _⟩

theorem kept (counts : state.Counts limit) : state.Kept limit := by
  constructor
  · refine Nat.le_trans (List.countP_mono_left ?_) counts.admitted
    intro task _ inside
    rw [of_decide_eq_true inside]
    rfl
  · intro nobody
    rw [counts.count, nobody]
    rfl

theorem tick (counts : state.Counts limit) {milliseconds : ℕ}
    (heeds : state.Heeds (.tick milliseconds)) :
    Counts limit
      { state with
        key := state.key.filter fun key =>
          key.expiresAt.all fun due => state.now + milliseconds < due
        now := state.now + milliseconds } := by
  refine ⟨?_, counts.admitted⟩
  rw [← counts.count]
  cases found : state.key with
  | none => simp [AccountSlots.count, found]
  | some key =>
      by_cases stays : (key.expiresAt.all fun due => state.now + milliseconds < due) = true
      · simp [AccountSlots.count, found, Option.filter_some, stays]
      · have nobody : state.tasks = [] := by
          by_contra somebody
          refine stays ?_
          cases expiry : key.expiresAt with
          | none => rfl
          | some due =>
              have later := heeds somebody key (by rw [found]; rfl) due (by rw [expiry]; rfl)
              exact decide_eq_true later
        have zero := counts.count
        rw [nobody] at zero
        rw [zero]
        simp [AccountSlots.count, Option.filter_some, stays]

theorem increment (counts : state.Counts limit) :
    Counts limit
      { state with
        key := some state.incr
        tasks := .counted state.incr.count :: state.tasks } := by
  have number : state.incr.count = state.tasks.length + 1 := by
    rw [incr, counts.count]
  refine ⟨?_, ?_⟩
  · rw [List.length_cons, Int.natCast_succ, ← number]
    rfl
  · by_cases may : state.incr.count ≤ limit
    · have all : (SlotTask.counted state.incr.count :: state.tasks).countP
          (SlotTask.admitted limit) ≤ state.tasks.length + 1 := List.countP_le_length
      exact Nat.le_trans all (by omega)
    · rw [List.countP_cons_of_neg (by simpa [SlotTask.admitted] using may)]
      exact counts.admitted

theorem release (counts : state.Counts limit) {index : ℕ} (inside : index < state.tasks.length) :
    (state.release index).Counts limit := by
  refine ⟨?_, ?_⟩
  · change state.count - 1 = ((state.tasks.eraseIdx index).length : ℤ)
    rw [counts.count, List.length_eraseIdx_of_lt inside]
    omega
  · exact Nat.le_trans (List.eraseIdx_sublist state.tasks index).countP_le counts.admitted

theorem enter (counts : state.Counts limit) {index : ℕ} {n : ℤ}
    (waiting : state.tasks[index]? = some (.counted n)) (may : n ≤ limit) :
    Counts limit { state with tasks := state.tasks.set index .inside } := by
  rcases List.getElem?_eq_some_iff.mp waiting with ⟨inside, task⟩
  refine ⟨?_, ?_⟩
  · rw [List.length_set]
    exact counts.count
  · have admitted : SlotTask.admitted limit (.counted n) = true := decide_eq_true may
    have positive : 0 < state.tasks.countP (SlotTask.admitted limit) :=
      List.countP_pos_iff.mpr ⟨_, List.mem_of_getElem? waiting, admitted⟩
    have same := @List.countP_set _ (SlotTask.admitted limit) state.tasks index .inside inside
    have entered : SlotTask.admitted limit .inside = true := rfl
    rw [task, if_pos admitted, if_pos entered, Nat.sub_add_cancel positive] at same
    change (state.tasks.set index .inside).countP _ ≤ _
    rw [same]
    exact counts.admitted

theorem step (counts : state.Counts limit) (step : state.Step limit event after)
    (heeds : state.Heeds event) : after.Counts limit := by
  unfold Step at step
  cases event with
  | tick milliseconds =>
      cases step
      exact counts.tick heeds
  | increment =>
      cases step
      exact counts.increment
  | enter index =>
      simp only [next] at step
      split at step
      · rename_i n waiting
        split at step
        · rename_i may
          cases step
          exact counts.enter waiting may
        · cases step
      · cases step
  | refuse index =>
      simp only [next] at step
      split at step
      · rename_i n waiting
        split at step
        · cases step
          exact counts.release (List.getElem?_eq_some_iff.mp waiting).1
        · cases step
      · cases step
  | leave index =>
      simp only [next] at step
      split at step
      · rename_i waiting
        cases step
        exact counts.release (List.getElem?_eq_some_iff.mp waiting).1
      · cases step

end Counts

end AccountSlots

end Klsmsc
