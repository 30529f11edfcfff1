import Mathlib.Algebra.BigOperators.Group.Finset.Piecewise
import Klsmsc.StockSummary

/-!
# What keeps the stock summary exact

The deltas of an operation are those of the rows it moves, grouped by the bucket of the day. They
keep the sum over the ages exact when every row that becomes or ceases to be for sale is counted in
its own bucket. The purchase of a package and the recycler do not touch the summary, the purchase to
the stock looks for a bucket without a batch, and a bucket keeps the age of the day of its import.
-/

namespace Klsmsc

open Library

variable {unicode : Unicode}

theorem sum_countP_stockKey (today : ℤ) (dims : StockDims) (rows : List DataNumber) :
    (∑ freshness : Freshness, rows.countP fun number =>
        number.stockKey unicode today = ⟨dims, freshness, .active⟩) =
      rows.countP fun number => number.dims unicode = dims ∧ number.status = .active := by
  induction rows with
  | nil => simp
  | cons number rows ih =>
      have parts : ∀ freshness, number.stockKey unicode today = ⟨dims, freshness, .active⟩ ↔
          computeFreshness today number.dataDate = freshness ∧
            number.dims unicode = dims ∧ number.status = .active := by
        intro freshness
        rw [DataNumber.stockKey, StockGroup.key, StockKey.mk.injEq, ← DataNumber.dims]
        exact and_left_comm
      have one : (∑ freshness : Freshness,
          if number.stockKey unicode today = ⟨dims, freshness, .active⟩ then 1 else 0) =
            if number.dims unicode = dims ∧ number.status = .active then 1 else 0 := by
        by_cases own : number.dims unicode = dims ∧ number.status = .active
        · simp [parts, own]
        · simp [parts, own]
      simp only [List.countP_cons, Finset.sum_add_distrib, ih, decide_eq_true_eq]
      rw [one]

theorem tallied_subtractWithBatch {today : ℤ} {sold : List DataNumber}
    (forSale : ∀ number ∈ sold, number.ForSale) (table : StockTable) (key : StockKey) :
    tallied (subtractWithBatch unicode today sold table) key =
      tallied table key - sold.countP fun number => number.stockKey unicode today = key := by
  have taken := tallied_sub_groups (fun number : DataNumber => (number.stockGroup, number.batchId))
    (fun group => group.1.key unicode today .active group.2) sold table key
  have own : ∀ number ∈ sold, number.stockGroup.key unicode today .active number.batchId =
      number.stockKey unicode today := by
    intro number member
    rw [DataNumber.stockKey, (forSale number member).2]
  rw [subtractWithBatch, taken]
  refine congrArg (tallied table key - ·) (List.countP_congr ?_)
  intro number member
  rw [own number member]

theorem tallied_subtractWithoutBatch {today : ℤ} {sold : List DataNumber}
    (forSale : ∀ number ∈ sold, number.ForSale)
    (noBatch : ∀ number ∈ sold, (number.dims unicode).batchId = none)
    (table : StockTable) (key : StockKey) :
    tallied (subtractWithoutBatch unicode today sold table) key =
      tallied table key - sold.countP fun number => number.stockKey unicode today = key := by
  have taken := tallied_sub_groups DataNumber.stockGroup
    (fun group => group.key unicode today .active none) sold table key
  have own : ∀ number ∈ sold, number.stockGroup.key unicode today .active none =
      number.stockKey unicode today := by
    intro number member
    have dims : number.stockGroup.dims unicode none =
        number.stockGroup.dims unicode number.batchId := by
      have none_ := noBatch number member
      simp only [DataNumber.dims, StockGroup.dims] at none_
      simp only [StockGroup.dims, none_]
      rfl
    rw [DataNumber.stockKey, (forSale number member).2, StockGroup.key, StockGroup.key, dims]
  rw [subtractWithoutBatch, taken]
  refine congrArg (tallied table key - ·) (List.countP_congr ?_)
  intro number member
  rw [own number member]

theorem countP_changed (state : StockState) {chosen : DataNumber → Bool}
    {change : DataNumber → DataNumber}
    (gone : ∀ number ∈ state.rows, chosen number = true → ¬ (change number).ForSale)
    (dims : StockDims) :
    ((state.changed chosen change).countP fun number =>
        number.dims unicode = dims ∧ number.ForSale) +
      ((state.rows.filter chosen).countP fun number =>
        number.dims unicode = dims ∧ number.ForSale) =
      state.rows.countP fun number => number.dims unicode = dims ∧ number.ForSale := by
  rw [StockState.changed]
  generalize state.rows = rows at gone ⊢
  induction rows with
  | nil => rfl
  | cons number rows ih =>
      have rest := ih fun other member => gone other (List.mem_cons_of_mem _ member)
      cases taken : chosen number with
      | true =>
          have unsold := gone number List.mem_cons_self taken
          simp only [List.map_cons, List.filter_cons, taken, if_true, List.countP_cons, unsold,
            and_false, decide_false, Bool.false_eq_true, if_false]
          omega
      | false =>
          simp only [List.map_cons, List.filter_cons, taken, Bool.false_eq_true, if_false,
            List.countP_cons]
          omega

theorem countP_changed_of_not_forSale (state : StockState) {chosen : DataNumber → Bool}
    {change : DataNumber → DataNumber}
    (before : ∀ number ∈ state.rows, chosen number = true → ¬ number.ForSale)
    (after : ∀ number ∈ state.rows, chosen number = true → ¬ (change number).ForSale)
    (dims : StockDims) :
    ((state.changed chosen change).countP fun number =>
        number.dims unicode = dims ∧ number.ForSale) =
      state.rows.countP fun number => number.dims unicode = dims ∧ number.ForSale := by
  have none_ : ((state.rows.filter chosen).countP fun number =>
      number.dims unicode = dims ∧ number.ForSale) = 0 := by
    rw [List.countP_eq_zero]
    intro number member
    rcases List.mem_filter.mp member with ⟨inside, taken⟩
    simp [before number inside taken]
  rw [← countP_changed state after dims, none_, Nat.add_zero]

theorem ImportFile.mem_inserted (file : ImportFile) (rows : List DataNumber) (nextId : ℕ) :
    ∀ number ∈ file.inserted rows nextId,
      number.batchId = some file.batchId ∧ number.ForSale := by
  rw [inserted]
  have kept : ∀ (lines : List (String × String × Option String)) (added : List DataNumber),
      (∀ number ∈ added, number.batchId = some file.batchId ∧ number.ForSale) →
        ∀ number ∈ lines.foldl (fun added line =>
          if (rows ++ added).any fun number => number.phoneNumber = line.1 then added
          else added ++ [file.row (nextId + added.length) line]) added,
          number.batchId = some file.batchId ∧ number.ForSale := by
    intro lines
    induction lines with
    | nil => exact fun _ all => all
    | cons line lines ih =>
        intro added all
        rw [List.foldl_cons]
        refine ih _ ?_
        split
        · exact all
        · intro number member
          rcases List.mem_append.mp member with old | new
          · exact all number old
          · rw [List.mem_singleton.mp new]
            exact ⟨rfl, rfl, rfl⟩
  exact kept file.lines [] (by simp)

theorem tallied_updateStockSummaryFromBatch {today : ℤ} {rows : List DataNumber}
    {batchId : String} {table : StockTable}
    (once : CreatesOnce table (batchEntries unicode today rows batchId)) (key : StockKey) :
    tallied (updateStockSummaryFromBatch unicode today rows batchId table) key =
      tallied table key +
        (unsoldOfBatch rows batchId).countP fun number =>
          number.stockKey unicode today = key := by
  have added := tallied_add_groups
    (fun number : DataNumber => (number.stockGroup, number.status))
    (fun group => group.1.key unicode today group.2 (some batchId))
    (unsoldOfBatch rows batchId) table key
  have own : ∀ number ∈ unsoldOfBatch rows batchId,
      number.stockGroup.key unicode today number.status (some batchId) =
        number.stockKey unicode today := by
    intro number member
    have chosen : number.batchId = some batchId ∧ number.accountId = none := by
      simpa using (List.mem_filter.mp member).2
    rw [DataNumber.stockKey, chosen.1]
  rw [updateStockSummaryFromBatch, if_pos once, batchEntries, added]
  refine congrArg (tallied table key + ·) (List.countP_congr ?_)
  intro number member
  rw [own number member]

namespace StockState

variable {state after : StockState}

theorem CanBuy.forSale {chosen : DataNumber → Bool} (canBuy : state.CanBuy chosen) :
    ∀ number ∈ state.rows.filter chosen, number.ForSale := by
  intro number member
  rcases List.mem_filter.mp member with ⟨inside, taken⟩
  exact canBuy.2 number inside taken

theorem Exact.sold (exact_ : state.Exact unicode) {chosen : DataNumber → Bool}
    {change : DataNumber → DataNumber} {table : StockTable} (canBuy : state.CanBuy chosen)
    (covers : state.Covers unicode chosen) (gone : ∀ number, ¬ (change number).ForSale)
    (counted : ∀ key, tallied table key = tallied state.summaries key -
      (state.rows.filter chosen).countP fun number => number.stockKey unicode state.today = key) :
    StockState.Exact unicode
      { state with rows := state.changed chosen change, summaries := table } := by
  intro dims
  have covered : ∀ key, tallied table key +
      ((state.rows.filter chosen).countP fun number =>
        number.stockKey unicode state.today = key) = tallied state.summaries key := by
    intro key
    rw [counted key]
    by_cases some_ : ∃ number ∈ state.rows.filter chosen,
        number.stockKey unicode state.today = key
    · rcases some_ with ⟨number, member, rfl⟩
      rcases List.mem_filter.mp member with ⟨inside, taken⟩
      exact Nat.sub_add_cancel (covers number inside taken)
    · have none_ : ((state.rows.filter chosen).countP fun number =>
          number.stockKey unicode state.today = key) = 0 := by
        rw [List.countP_eq_zero]
        intro number member same
        exact some_ ⟨number, member, of_decide_eq_true same⟩
      rw [none_, Nat.sub_zero, Nat.add_zero]
  have sums : (∑ freshness : Freshness, tallied table ⟨dims, freshness, .active⟩) +
      ((state.rows.filter chosen).countP fun number =>
        number.dims unicode = dims ∧ number.status = .active) =
        ∑ freshness : Freshness, tallied state.summaries ⟨dims, freshness, .active⟩ := by
    rw [← sum_countP_stockKey state.today, ← Finset.sum_add_distrib]
    exact Finset.sum_congr rfl fun freshness _ => covered _
  have forSale : ((state.rows.filter chosen).countP fun number =>
      number.dims unicode = dims ∧ number.status = .active) =
        (state.rows.filter chosen).countP fun number =>
          number.dims unicode = dims ∧ number.ForSale := by
    apply List.countP_congr
    intro number member
    rcases List.mem_filter.mp member with ⟨inside, taken⟩
    simp [(canBuy.2 number inside taken), (canBuy.2 number inside taken).2]
  have rows : ((state.changed chosen change).countP fun number =>
        number.dims unicode = dims ∧ number.ForSale) +
      ((state.rows.filter chosen).countP fun number =>
        number.dims unicode = dims ∧ number.ForSale) =
      state.rows.countP fun number => number.dims unicode = dims ∧ number.ForSale :=
    countP_changed state (fun number _ _ => gone number) dims
  have before := exact_ dims
  show (∑ freshness : Freshness, tallied table ⟨dims, freshness, .active⟩) =
    (state.changed chosen change).countP fun number => number.dims unicode = dims ∧ number.ForSale
  omega

theorem Exact.imported (exact_ : state.Exact unicode) {file : ImportFile}
    (fresh : ∀ number ∈ state.rows, number.ForSale → number.batchId ≠ some file.batchId)
    (once : CreatesOnce state.summaries (batchEntries unicode state.today
      (state.rows ++ file.inserted state.rows state.nextId) file.batchId)) (nextId : ℕ) :
    StockState.Exact unicode
      { state with
        nextId := nextId
        rows := state.rows ++ file.inserted state.rows state.nextId
        summaries := updateStockSummaryFromBatch unicode state.today
          (state.rows ++ file.inserted state.rows state.nextId) file.batchId state.summaries } := by
  intro dims
  have own := file.mem_inserted state.rows state.nextId
  have counted := tallied_updateStockSummaryFromBatch once
  generalize file.inserted state.rows state.nextId = added at own counted ⊢
  have oldOnes : ((unsoldOfBatch state.rows file.batchId).countP fun number =>
      number.dims unicode = dims ∧ number.status = .active) = 0 := by
    rw [List.countP_eq_zero]
    intro number member active
    rcases List.mem_filter.mp member with ⟨inside, unsold⟩
    have free : number.batchId = some file.batchId ∧ number.accountId = none := by
      simpa using unsold
    have status : number.dims unicode = dims ∧ number.status = .active := by simpa using active
    exact fresh number inside ⟨free.2, status.2⟩ free.1
  have newOnes : ((unsoldOfBatch added file.batchId).countP fun number =>
      number.dims unicode = dims ∧ number.status = .active) =
        added.countP fun number => number.dims unicode = dims ∧ number.ForSale := by
    have all : unsoldOfBatch added file.batchId = added := by
      rw [unsoldOfBatch, List.filter_eq_self]
      intro number member
      simp [(own number member).1, (own number member).2.1]
    rw [all]
    apply List.countP_congr
    intro number member
    simp [(own number member).2, (own number member).2.2]
  have sums : (∑ freshness : Freshness, tallied (updateStockSummaryFromBatch unicode state.today
      (state.rows ++ added) file.batchId state.summaries) ⟨dims, freshness, .active⟩) =
        (∑ freshness : Freshness, tallied state.summaries ⟨dims, freshness, .active⟩) +
          (unsoldOfBatch (state.rows ++ added) file.batchId).countP fun number =>
            number.dims unicode = dims ∧ number.status = .active := by
    rw [← sum_countP_stockKey state.today, ← Finset.sum_add_distrib]
    exact Finset.sum_congr rfl fun freshness _ => counted _
  have split : unsoldOfBatch (state.rows ++ added) file.batchId =
      unsoldOfBatch state.rows file.batchId ++ unsoldOfBatch added file.batchId :=
    List.filter_append ..
  show (∑ freshness : Freshness, tallied (updateStockSummaryFromBatch unicode state.today
    (state.rows ++ added) file.batchId state.summaries) ⟨dims, freshness, .active⟩) =
      (state.rows ++ added).countP fun number => number.dims unicode = dims ∧ number.ForSale
  rw [sums, exact_ dims, split, List.countP_append, List.countP_append, oldOnes, newOnes,
    Nat.zero_add]

theorem Exact.step (exact_ : state.Exact unicode) {action : StockAction}
    (step : Step unicode state action after) (heeds : state.Heeds unicode action) :
    after.Exact unicode := by
  cases action with
  | pass days =>
      cases step
      exact exact_
  | doImport file =>
      simp only [Step, next] at step
      split at step
      · cases step
      · cases step
        rcases heeds with nothing | ⟨fresh, once⟩
        · simpa [nothing] using exact_
        · by_cases nothing : file.inserted state.rows state.nextId = []
          · simpa [nothing] using exact_
          · rw [if_neg (by simpa using nothing)]
            exact exact_.imported fresh once _
  | buyToStock accountId chosen =>
      simp only [Step, next] at step
      split at step
      · rename_i canBuy
        cases step
        have forSale := canBuy.forSale
        have noBatch : ∀ number ∈ state.rows.filter chosen,
            (number.dims unicode).batchId = none := by
          intro number member
          rcases List.mem_filter.mp member with ⟨inside, taken⟩
          exact heeds.1 number inside taken
        exact exact_.sold canBuy heeds.2 (by simp [DataNumber.ForSale, DataNumber.bind])
          (tallied_subtractWithoutBatch forSale noBatch state.summaries)
      · cases step
  | buyCombo accountId chosen => exact heeds.elim
  | buyAndSend accountId now chosen =>
      simp only [Step, next] at step
      split at step
      · rename_i canBuy
        cases step
        have forSale := canBuy.forSale
        exact exact_.sold canBuy heeds (by simp [DataNumber.ForSale, DataNumber.bindAndStamp])
          (tallied_subtractWithBatch forSale state.summaries)
      · cases step
  | recycleExpired cutoff =>
      cases step
      intro dims
      refine (exact_ dims).trans (countP_changed_of_not_forSale state ?_ ?_ dims).symm
      · intro number _ expired forSale
        have owned := (of_decide_eq_true expired).1
        rw [forSale.1] at owned
        cases owned
      · intro number member expired forSale
        exact heeds number member (of_decide_eq_true expired) forSale.2
  | deletePrivate accountId chosen =>
      cases step
      intro dims
      refine (exact_ dims).trans (countP_changed_of_not_forSale state ?_ ?_ dims).symm
      · intro number _ taken forSale
        have owned := (of_decide_eq_true taken).1
        rw [forSale.1] at owned
        cases owned
      · intro number _ _ forSale
        cases forSale.2

end StockState

/-- In a history whose steps meet the condition the summary is exact at every moment. -/
theorem stock_summary_exact (unicode : Unicode) {today : ℤ} {last : StockState}
    {transitions : List (Transition StockState StockAction)}
    (run : Run (StockState.Step unicode) (StockState.start today) transitions last)
    (heeds : ∀ transition ∈ transitions, transition.before.Heeds unicode transition.label) :
    last.Exact unicode ∧
      ∀ transition ∈ transitions,
        transition.before.Exact unicode ∧ transition.after.Exact unicode := by
  have preserved : ∀ before action after,
      Guarded (StockState.Step unicode) (StockState.Heeds unicode) before action after →
        before.Exact unicode → after.Exact unicode := by
    intro before action after step exact_
    exact exact_.step step.1 step.2
  exact (run.guarded heeds).invariant preserved (by intro dims; simp [StockState.start, tallied])

def twoNumbers : ImportFile where
  batchId := "IMP-1"
  source := "otp"
  purpose := "bc"
  dataDate := 0
  lines := [("+8613800138000", "CN", none), ("+8613800138001", "CN", none)]

def StockState.followed (state : StockState) (action : StockAction) : StockState :=
  (state.next Unicode.ascii action).getD state

theorem StockState.step_followed {state : StockState} {action : StockAction}
    (succeeds : (state.next Unicode.ascii action).isSome = true) :
    StockState.Step Unicode.ascii state action (state.followed action) := by
  rcases Option.isSome_iff_exists.mp succeeds with ⟨after, computed⟩
  rw [StockState.Step, StockState.followed, computed, Option.getD_some]

def stocked : StockState :=
  (StockState.start 0).followed (.doImport twoNumbers)

def takesFirst (number : DataNumber) : Bool :=
  number.id = 1

def onStocked (action : StockAction) : List (Transition StockState StockAction) :=
  [⟨StockState.start 0, .doImport twoNumbers, stocked⟩,
    ⟨stocked, action, stocked.followed action⟩]

theorem onStocked_run {action : StockAction}
    (succeeds : (stocked.next Unicode.ascii action).isSome = true) :
    Run (StockState.Step Unicode.ascii) (StockState.start 0) (onStocked action)
      (stocked.followed action) :=
  .cons (StockState.step_followed (by decide))
    (.cons (StockState.step_followed succeeds) (.nil _))

theorem stock_summary_exact_buyAndSend :
    Run (StockState.Step Unicode.ascii) (StockState.start 0)
        (onStocked (.buyAndSend 7 0 takesFirst))
        (stocked.followed (.buyAndSend 7 0 takesFirst)) ∧
      (stocked.followed (.buyAndSend 7 0 takesFirst)).Exact Unicode.ascii := by
  have run := onStocked_run
    (show (stocked.next Unicode.ascii (.buyAndSend 7 0 takesFirst)).isSome = true by
      decide)
  refine ⟨run, (stock_summary_exact Unicode.ascii run ?_).1⟩
  intro transition member
  simp only [onStocked, List.mem_cons, List.not_mem_nil, or_false] at member
  rcases member with rfl | rfl
  · refine .inr ⟨?_, by decide⟩
    intro number inside
    cases inside
  · show ∀ number ∈ stocked.rows, takesFirst number = true → _ ≤ _
    decide

/-- The purchase of an imported number to the stock is not counted off. -/
theorem stock_purchase_not_subtracted :
    Run (StockState.Step Unicode.ascii) (StockState.start 0)
        (onStocked (.buyToStock 7 takesFirst))
        (stocked.followed (.buyToStock 7 takesFirst)) ∧
      ¬ (stocked.followed (.buyToStock 7 takesFirst)).Exact Unicode.ascii := by
  refine ⟨onStocked_run (by decide), ?_⟩
  intro exact_
  have drift := exact_ ⟨"CN", "Unknown", "otp", "bc", some "IMP-1"⟩
  revert drift
  decide

end Klsmsc
