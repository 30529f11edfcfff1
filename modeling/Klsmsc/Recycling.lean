import Klsmsc.DataNumbers
import Klsmsc.Library.Runs

/-!
# The recycling of numbers

`data_recycle_expired_numbers` gives numbers back that their account has not used for ninety days.
It looks at `last_used_at` only. The purchase to the stock and the purchase of a package do not set
that column, and the reset of a private library clears it, so that such a number goes back to the
public pool on the next day.

With a row goes what is known of its present owner: when it bought the number, when it used it last,
whether `last_used_at` was set at one of these times, and whether it was cleared since.
-/

namespace Klsmsc

open Library

structure OwnedNumber where
  number : DataNumber
  boughtAt : Option ℤ
  usedAt : Option ℤ
  stamped : Bool
  cleared : Bool
  deriving DecidableEq, Repr

/-- The rows of `data_numbers`, and the time. -/
structure NumberLibrary where
  now : ℤ
  rows : List OwnedNumber
  deriving DecidableEq, Repr

/-- `timedelta(days=90)` in seconds. -/
def recycleAge : ℤ :=
  90 * 86400

inductive PurchaseMode where
  | buyToStock
  | buyCombo
  | buyAndSend
  deriving DecidableEq, Repr

namespace OwnedNumber

def buy (row : OwnedNumber) (mode : PurchaseMode) (accountId : ℕ) (chosen : List ℕ) (now : ℤ) :
    OwnedNumber :=
  if row.number.id ∈ chosen ∧ row.number.accountId = none then
    { number :=
        match mode with
        | .buyAndSend => row.number.bindAndStamp accountId now
        | _ => row.number.bind accountId
      boughtAt := some now
      usedAt := none
      stamped := decide (mode = .buyAndSend)
      cleared := false }
  else row

/-- `_mark_private_library_used`, for the phone numbers and the batch of a send. -/
def markUsed (row : OwnedNumber) (accountId : ℕ) (chosen : DataNumber → Bool) (now : ℤ) :
    OwnedNumber :=
  if row.number.accountId = some accountId ∧ chosen row.number then
    { row with
      number := row.number.markUsed now, usedAt := some now, stamped := true, cleared := false }
  else row

/-- The task of `buy_and_send` counts what it has sent. -/
def countUse (row : OwnedNumber) (chosen : List ℕ) : OwnedNumber :=
  if row.number.id ∈ chosen then { row with number := row.number.countUse } else row

/-- `_execute_my_numbers_reset_used`, with any filters. -/
def resetUsed (row : OwnedNumber) (accountId : ℕ) (chosen : DataNumber → Bool) : OwnedNumber :=
  if row.number.accountId = some accountId ∧ 0 < row.number.useCount ∧ chosen row.number then
    { row with number := row.number.resetUsed, cleared := true }
  else row

/-- `_recycle_expired`. -/
def recycle (row : OwnedNumber) (now : ℤ) : OwnedNumber :=
  if row.number.Expired (now - recycleAge) then
    { row with number := row.number.release, boughtAt := none, usedAt := none }
  else row

def Recent (row : OwnedNumber) (now : ℤ) : Prop :=
  row.number.accountId.isSome ∧
    ((∃ time, row.boughtAt = some time ∧ now - time < recycleAge) ∨
      ∃ time, row.usedAt = some time ∧ now - time < recycleAge)

end OwnedNumber

inductive LibraryAction where
  | pass (seconds : ℕ)
  | buy (mode : PurchaseMode) (accountId : ℕ) (chosen : List ℕ)
  | markUsed (accountId : ℕ) (chosen : DataNumber → Bool)
  | countUse (chosen : List ℕ)
  | resetUsed (accountId : ℕ) (chosen : DataNumber → Bool)
  | recycle

namespace NumberLibrary

def start (now : ℤ) (numbers : List DataNumber) : NumberLibrary where
  now := now
  rows := numbers.map fun number => ⟨number.release, none, none, false, false⟩

def apply (library : NumberLibrary) : LibraryAction → NumberLibrary
  | .pass seconds => { library with now := library.now + seconds }
  | .buy mode accountId chosen =>
      { library with rows := library.rows.map (·.buy mode accountId chosen library.now) }
  | .markUsed accountId chosen =>
      { library with rows := library.rows.map (·.markUsed accountId chosen library.now) }
  | .countUse chosen => { library with rows := library.rows.map (·.countUse chosen) }
  | .resetUsed accountId chosen =>
      { library with rows := library.rows.map (·.resetUsed accountId chosen) }
  | .recycle => { library with rows := library.rows.map (·.recycle library.now) }

def Step (before : NumberLibrary) (action : LibraryAction) (after : NumberLibrary) : Prop :=
  after = before.apply action

def KeepsRecent (library : NumberLibrary) : LibraryAction → Prop
  | .recycle => ∀ row ∈ library.rows, row.Recent library.now →
      (row.recycle library.now).number.accountId = row.number.accountId
  | _ => True

/-- The condition on a step: when the recycler runs, every number that was bought or used lately
had `last_used_at` set when it was bought or when it was used, and no reset has cleared it since. -/
def Heeds (library : NumberLibrary) : LibraryAction → Prop
  | .recycle => ∀ row ∈ library.rows, row.Recent library.now →
      row.stamped = true ∧ row.cleared = false
  | _ => True

end NumberLibrary

/-! ### What `last_used_at` tells -/

namespace OwnedNumber

structure Stamped (row : OwnedNumber) (now : ℤ) : Prop where
  bought : ∀ time, row.boughtAt = some time → time ≤ now
  stamp : row.stamped = true → row.cleared = false → ∀ accountId,
    row.number.accountId = some accountId →
      ∃ time, row.number.lastUsedAt = some time ∧
        (∀ bought, row.boughtAt = some bought → bought ≤ time) ∧
          ∀ used, row.usedAt = some used → used ≤ time

variable {row : OwnedNumber} {now : ℤ}

theorem Stamped.pass (stamped : row.Stamped now) (seconds : ℕ) : row.Stamped (now + seconds) where
  bought time isTime := by
    have before := stamped.bought time isTime
    omega
  stamp := stamped.stamp

theorem Stamped.buy (stamped : row.Stamped now) (mode : PurchaseMode) (accountId : ℕ)
    (chosen : List ℕ) : (row.buy mode accountId chosen now).Stamped now := by
  unfold OwnedNumber.buy
  split
  · refine ⟨?_, ?_⟩
    · intro time isTime
      rw [Option.some.injEq] at isTime
      omega
    · intro isStamped _ owner _
      have sends : mode = .buyAndSend := of_decide_eq_true isStamped
      subst sends
      refine ⟨now, rfl, ?_, ?_⟩
      · intro bought isBought
        rw [Option.some.injEq] at isBought
        omega
      · intro used isUsed
        cases isUsed
  · exact stamped

theorem Stamped.markUsed (stamped : row.Stamped now) (accountId : ℕ)
    (chosen : DataNumber → Bool) : (row.markUsed accountId chosen now).Stamped now := by
  unfold OwnedNumber.markUsed
  split
  · refine ⟨stamped.bought, ?_⟩
    intro _ _ owner _
    refine ⟨now, rfl, stamped.bought, ?_⟩
    intro used isUsed
    rw [Option.some.injEq] at isUsed
    omega
  · exact stamped

theorem Stamped.countUse (stamped : row.Stamped now) (chosen : List ℕ) :
    (row.countUse chosen).Stamped now := by
  unfold OwnedNumber.countUse
  split
  · exact ⟨stamped.bought, stamped.stamp⟩
  · exact stamped

theorem Stamped.resetUsed (stamped : row.Stamped now) (accountId : ℕ)
    (chosen : DataNumber → Bool) : (row.resetUsed accountId chosen).Stamped now := by
  unfold OwnedNumber.resetUsed
  split
  · refine ⟨stamped.bought, ?_⟩
    intro _ notCleared
    cases notCleared
  · exact stamped

theorem Stamped.recycle (stamped : row.Stamped now) : (row.recycle now).Stamped now := by
  unfold OwnedNumber.recycle
  split
  · refine ⟨?_, ?_⟩
    · intro time isTime
      cases isTime
    · intro _ _ owner isOwner
      cases isOwner
  · exact stamped

theorem Stamped.not_expired (stamped : row.Stamped now) (recent : row.Recent now)
    (isStamped : row.stamped = true) (notCleared : row.cleared = false) :
    ¬ row.number.Expired (now - recycleAge) := by
  rcases recent with ⟨owned, recent⟩
  rcases Option.isSome_iff_exists.mp owned with ⟨accountId, isOwner⟩
  rcases stamped.stamp isStamped notCleared accountId isOwner with ⟨stamp, isStamp, bought, used⟩
  rintro ⟨-, none_ | ⟨time, isTime, old⟩⟩
  · rw [isStamp] at none_
    cases none_
  · rw [isStamp, Option.some.injEq] at isTime
    rcases recent with ⟨other, isOther, recently⟩ | ⟨other, isOther, recently⟩
    · have before := bought other isOther
      omega
    · have before := used other isOther
      omega

end OwnedNumber

namespace NumberLibrary

variable {library after : NumberLibrary} {action : LibraryAction}

def AllStamped (library : NumberLibrary) : Prop :=
  ∀ row ∈ library.rows, row.Stamped library.now

theorem start_allStamped (now : ℤ) (numbers : List DataNumber) :
    (start now numbers).AllStamped := by
  intro row member
  rcases List.mem_map.mp member with ⟨number, -, rfl⟩
  refine ⟨?_, ?_⟩
  · intro time isTime
    cases isTime
  · intro isStamped
    cases isStamped

theorem AllStamped.step (stamped : library.AllStamped) (step : Step library action after) :
    after.AllStamped := by
  rw [Step] at step
  subst step
  have mapped : ∀ (write : OwnedNumber → OwnedNumber),
      (∀ row, row.Stamped library.now → (write row).Stamped library.now) →
        ∀ row ∈ library.rows.map write, row.Stamped library.now := by
    intro write kept row member
    rcases List.mem_map.mp member with ⟨before, inside, rfl⟩
    exact kept before (stamped before inside)
  cases action with
  | pass seconds => exact fun row member => (stamped row member).pass seconds
  | buy mode accountId chosen =>
      exact mapped _ fun row rowStamped => rowStamped.buy mode accountId chosen
  | markUsed accountId chosen =>
      exact mapped _ fun row rowStamped => rowStamped.markUsed accountId chosen
  | countUse chosen => exact mapped _ fun row rowStamped => rowStamped.countUse chosen
  | resetUsed accountId chosen =>
      exact mapped _ fun row rowStamped => rowStamped.resetUsed accountId chosen
  | recycle => exact mapped _ fun row rowStamped => rowStamped.recycle

theorem AllStamped.keepsRecent (stamped : library.AllStamped) (heeds : library.Heeds action) :
    library.KeepsRecent action := by
  cases action with
  | recycle =>
      intro row member recent
      rcases heeds row member recent with ⟨isStamped, notCleared⟩
      rw [OwnedNumber.recycle,
        if_neg ((stamped row member).not_expired recent isStamped notCleared)]
  | _ => trivial

end NumberLibrary

/-- In a history whose steps heed the condition the recycler releases no number that its account
has bought or used in the last ninety days. -/
theorem recent_numbers_kept {now : ℤ} {numbers : List DataNumber} {last : NumberLibrary}
    {transitions : List (Transition NumberLibrary LibraryAction)}
    (run : Run NumberLibrary.Step (NumberLibrary.start now numbers) transitions last)
    (heeds : ∀ transition ∈ transitions, transition.before.Heeds transition.label) :
    ∀ transition ∈ transitions, transition.before.KeepsRecent transition.label := by
  have preserved : ∀ before action after, NumberLibrary.Step before action after →
      before.AllStamped → after.AllStamped :=
    fun before action after step stamped => stamped.step step
  have stamped := (run.invariant preserved (NumberLibrary.start_allStamped now numbers)).2
  intro transition member
  exact (stamped transition member).1.keepsRecent (heeds transition member)

def publicNumber : DataNumber where
  id := 1
  phoneNumber := "+8613800138000"
  countryCode := "CN"
  status := .active
  carrier := none
  source := none
  purpose := none
  dataDate := none
  batchId := none
  lastUsedAt := none
  useCount := 0
  accountId := none

def dayAfter (mode : PurchaseMode) : List (Transition NumberLibrary LibraryAction) :=
  let unsold := NumberLibrary.start 0 [publicNumber]
  let bought := unsold.apply (.buy mode 7 [1])
  let later := bought.apply (.pass 86400)
  [⟨unsold, .buy mode 7 [1], bought⟩, ⟨bought, .pass 86400, later⟩,
    ⟨later, .recycle, later.apply .recycle⟩]

theorem dayAfter_run (mode : PurchaseMode) :
    ∃ last, Run NumberLibrary.Step (NumberLibrary.start 0 [publicNumber]) (dayAfter mode) last :=
  ⟨_, .cons rfl (.cons rfl (.cons rfl (.nil _)))⟩

theorem recent_numbers_kept_dayAfter :
    ∃ last, Run NumberLibrary.Step (NumberLibrary.start 0 [publicNumber])
        (dayAfter .buyAndSend) last ∧
      ∀ transition ∈ dayAfter .buyAndSend, transition.before.KeepsRecent transition.label := by
  rcases dayAfter_run .buyAndSend with ⟨last, run⟩
  refine ⟨last, run, recent_numbers_kept run ?_⟩
  intro transition member
  simp only [dayAfter, List.mem_cons, List.not_mem_nil, or_false] at member
  rcases member with rfl | rfl | rfl
  · trivial
  · trivial
  · intro row inside _
    have only : row = ⟨publicNumber.bindAndStamp 7 0, some 0, none, true, false⟩ :=
      List.mem_singleton.mp inside
    rw [only]
    exact ⟨rfl, rfl⟩

/-- A number that was bought to the stock yesterday is released. -/
theorem stock_number_released :
    ¬ ∀ (now : ℤ) (numbers : List DataNumber) (last : NumberLibrary)
        (transitions : List (Transition NumberLibrary LibraryAction)),
      Run NumberLibrary.Step (NumberLibrary.start now numbers) transitions last →
        ∀ transition ∈ transitions, transition.before.KeepsRecent transition.label := by
  intro always
  rcases dayAfter_run .buyToStock with ⟨last, run⟩
  have kept := always 0 [publicNumber] last (dayAfter .buyToStock) run _
    (List.mem_cons_of_mem _ (List.mem_cons_of_mem _ List.mem_cons_self))
  have bought := kept ⟨publicNumber.bind 7, some 0, none, false, false⟩ List.mem_cons_self
    ⟨rfl, .inl ⟨0, rfl, by decide⟩⟩
  exact absurd bought (by decide)

end Klsmsc
