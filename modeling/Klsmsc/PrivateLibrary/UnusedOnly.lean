import Klsmsc.Library.Keys
import Klsmsc.PrivateLibrary.Selection

/-!
# Unused numbers are taken once

A request that asks for unused numbers reads them long before it marks them, and the marks do not
look at the counts again. As long as every commit finds the numbers of the request still unused,
each of them is taken by one successful request: the marks reach every row whose number has been
taken, also where the batch has been dropped. Requests that overlap take the same numbers.
-/

namespace Klsmsc

open Library

namespace DetailRow

variable {unicode : Unicode} {task : SyncTask}

def Later (old new : DetailRow) : Prop :=
  ∃ marks, new = { old with useCount := old.useCount.map (· + marks) }

theorem later_refl (row : DetailRow) : row.Later row := by
  refine ⟨0, ?_⟩
  cases row
  simp

theorem Later.trans {first second third : DetailRow} (left : first.Later second)
    (right : second.Later third) : first.Later third := by
  obtain ⟨before, rfl⟩ := left
  obtain ⟨behind, rfl⟩ := right
  refine ⟨before + behind, ?_⟩
  simp [Function.comp_def, Nat.add_assoc]

theorem Later.key {old new : DetailRow} (later : old.Later new) : new.key = old.key := by
  obtain ⟨marks, rfl⟩ := later
  rfl

theorem Later.marks {old new : DetailRow} (later : old.Later new) :
    task.marks unicode new.number = task.marks unicode old.number := by
  obtain ⟨marks, rfl⟩ := later
  rfl

theorem Later.isSome {old new : DetailRow} (later : old.Later new) :
    new.useCount.isSome = old.useCount.isSome := by
  obtain ⟨marks, rfl⟩ := later
  simp

theorem later_marked (row : DetailRow) : row.Later (row.marked unicode task) :=
  ⟨task.marks unicode row.number, rfl⟩

theorem marked_useCount_ne (row : DetailRow)
    (found : 0 < task.marks unicode row.number ∨ row.useCount ≠ some 0) :
    (row.marked unicode task).useCount ≠ some 0 := by
  intro unused
  simp only [marked, Option.map_eq_some_iff] at unused
  obtain ⟨count, isCount, none_⟩ := unused
  rcases found with positive | used
  · omega
  · exact used (by rw [isCount, show count = 0 by omega])

end DetailRow

open DetailRow (Later later_refl later_marked)

abbrev Newer : List DetailRow → List DetailRow → Prop :=
  List.Forall₂ Later

theorem newer_refl (rows : List DetailRow) : Newer rows rows :=
  List.forall₂_same.mpr fun row _ => later_refl row

theorem newer_trans {first second third : List DetailRow} (left : Newer first second)
    (right : Newer second third) : Newer first third :=
  forall₂_trans (fun _ _ _ before behind => before.trans behind) left right

theorem newer_marked (unicode : Unicode) (task : SyncTask) (rows : List DetailRow) :
    Newer rows (rows.map (DetailRow.marked unicode task)) :=
  List.forall₂_map_right_iff.mpr (List.forall₂_same.mpr fun row _ => later_marked row)

/-! ### The marks reach what has been taken -/

section

variable {account : LibraryAccount} {filters : LibraryFilters} {country : Option String}
  {includeBatch : Bool} {row : DetailRow}

theorem bid_of_asked {unicode : Unicode} {accountId : ℕ} {phones : List String} {bid : String}
    (isBatch : bid ∈ filters.batch unicode) :
    (SyncTask.mk accountId phones (some bid)).bid unicode = bid := by
  simp only [LibraryFilters.batch, asked, Option.mem_def, Option.filter_eq_some_iff,
    Option.map_eq_some_iff] at isBatch
  obtain ⟨⟨raw, -, rfl⟩, -⟩ := isBatch
  exact strip_strip raw

theorem marks_pos {batch : Option String} {phones : List String}
    (finds : account.Finds filters country includeBatch row) (chosen : row.phoneNumber ∈ phones)
    (scope : batch = none ∨ includeBatch = true ∧ batch = filters.batch account.unicode) :
    0 < (SyncTask.mk account.id phones batch).marks account.unicode row.number := by
  have positive : 0 < syncSize := by decide
  rw [← flatten_slices positive phones] at chosen
  obtain ⟨chunk, isChunk, inside⟩ := List.mem_flatten.mp chosen
  refine List.countP_pos_iff.mpr ⟨chunk, isChunk, decide_eq_true ⟨finds.1, inside, finds.2.1, ?_⟩⟩
  intro named
  rcases scope with rfl | ⟨isIncluded, isBatch⟩
  · exact absurd (by simp [SyncTask.bid, normDim, strip]) named
  · cases batch with
    | none => exact absurd (by simp [SyncTask.bid, normDim, strip]) named
    | some bid =>
        have member : bid ∈ filters.batch account.unicode := isBatch.symm
        rw [bid_of_asked member]
        exact finds.2.2.2.1 isIncluded bid member

end

namespace LibrarySends

variable {account : LibraryAccount} {first state after : LibrarySends}

/-! ### The invariant -/

/-- A row that has been taken: it was in the tables, its later version is, it passed for unused, and
the marks of its request will find it. -/
structure Taken (account : LibraryAccount) (first : LibrarySends) (rows : List DetailRow)
    (task : SyncTask) (row : DetailRow) : Prop where
  early : ∃ old ∈ first.rows, old.Later row
  late : ∃ stored ∈ rows, row.Later stored
  unused : row.Unused
  reached : 0 < task.marks account.unicode row.number

def Fits (account : LibraryAccount) (first : LibrarySends) (rows : List DetailRow) :
    LibraryStage → Prop
  | .idle => True
  | .begun snapshot => Newer first.rows snapshot ∧ Newer snapshot rows
  | .unfound snapshot filters _ =>
      Newer first.rows snapshot ∧ Newer snapshot rows ∧ filters.unusedOnly = true
  | .selected task taken => ∀ row ∈ taken, Taken account first rows task row
  | .ended => True

theorem Fits.newer {rows later : List DetailRow} {stage : LibraryStage}
    (fits : Fits account first rows stage) (newer : Newer rows later) :
    Fits account first later stage := by
  cases stage with
  | idle => trivial
  | begun snapshot => exact ⟨fits.1, newer_trans fits.2 newer⟩
  | unfound snapshot filters country => exact ⟨fits.1, newer_trans fits.2.1 newer, fits.2.2⟩
  | selected task taken =>
      intro row member
      obtain ⟨early, ⟨stored, inside, isLater⟩, unused, reached⟩ := fits row member
      obtain ⟨new, isNew, isLater'⟩ := exists_right_of_forall₂ newer inside
      exact ⟨early, ⟨new, isNew, isLater.trans isLater'⟩, unused, reached⟩
  | ended => trivial

/-- Where the requests stand, what has become of the rows of the successful ones, and that none of
them has taken a row that another one has taken. -/
structure Orderly (account : LibraryAccount) (first state : LibrarySends) : Prop where
  newer : Newer first.rows state.rows
  fits : ∀ request, Fits account first state.rows (state.requests request)
  spent : ∀ taken ∈ state.successes, ∀ row ∈ taken, ∀ stored ∈ state.rows,
    stored.key = row.key → stored.useCount ≠ some 0
  once : UsedOnce first state

theorem Fresh.orderly (fresh : first.Fresh) : Orderly account first first := by
  refine ⟨newer_refl _, ?_, ?_, ?_⟩
  · intro request
    rw [fresh.idle]
    trivial
  · simp [fresh.unsent]
  · simp [UsedOnce, timesTaken, fresh.unsent]

namespace Orderly

theorem move (orderly : Orderly account first state) {request : ℕ} {stage : LibraryStage}
    (fits : Fits account first state.rows stage) :
    Orderly account first (state.setStage request stage) := by
  refine ⟨orderly.newer, ?_, orderly.spent, orderly.once⟩
  intro other
  simp only [setStage, Function.update_apply]
  split
  · exact fits
  · exact orderly.fits other

theorem take (orderly : Orderly account first state) {request : ℕ} {snapshot : List DetailRow}
    {filters : LibraryFilters} {country : Option String} {includeBatch latest : Bool}
    {batch : Option String} {phones : List String} (unusedOnly : filters.unusedOnly = true)
    (early : Newer first.rows snapshot) (late : Newer snapshot state.rows)
    (scope : batch = none ∨ includeBatch = true ∧ batch = filters.batch account.unicode) :
    Orderly account first (state.take account request batch
      (account.union filters country includeBatch (state.view snapshot latest)) phones) := by
  have read : Newer first.rows (state.view snapshot latest) ∧
      Newer (state.view snapshot latest) state.rows := by
    rw [view]
    split
    · exact ⟨orderly.newer, newer_refl _⟩
    · exact ⟨early, late⟩
  refine orderly.move ?_
  intro row member
  obtain ⟨inUnion, chosen⟩ := List.mem_filter.mp member
  obtain ⟨inRead, isFound⟩ := List.mem_filter.mp inUnion
  have finds := of_decide_eq_true isFound
  exact ⟨exists_left_of_forall₂ read.1 inRead, exists_right_of_forall₂ read.2 inRead,
    finds.2.2.2.2.2.2.2 unusedOnly, marks_pos finds (of_decide_eq_true chosen) scope⟩

theorem timesTaken_eq_zero (orderly : Orderly account first state)
    (keyed : (first.rows.map DetailRow.key).Nodup) {request : ℕ} {task : SyncTask}
    {taken : List DetailRow} (stage : state.requests request = .selected task taken)
    (undisturbed : state.StillUnused (.commit request)) {old : DetailRow}
    (initially : old ∈ first.rows) (unused : old.useCount = some 0)
    (member : old.key ∈ taken.map DetailRow.key) : state.timesTaken old = 0 := by
  obtain ⟨row, isTaken, sameKey⟩ := List.mem_map.mp member
  have fits := orderly.fits request
  rw [stage] at fits
  obtain ⟨⟨origin, isOld, later⟩, -, rowUnused, -⟩ := fits row isTaken
  have isOrigin : origin = old :=
    eq_of_key_eq keyed isOld initially (later.key.symm.trans sameKey)
  subst isOrigin
  have isZero : row.useCount = some 0 := by
    rcases rowUnused with zero | none_
    · exact zero
    · have known := later.isSome
      simp [none_, unused] at known
  refine List.countP_eq_zero.mpr ?_
  intro other success found
  obtain ⟨again, inOther, isSame⟩ := List.mem_map.mp (of_decide_eq_true found)
  have stored := undisturbed task taken stage row isTaken isZero
  exact orderly.spent other success again inOther row stored (sameKey.trans isSame.symm) isZero

theorem commit (orderly : Orderly account first state)
    (keyed : (first.rows.map DetailRow.key).Nodup) {request : ℕ} {task : SyncTask}
    {taken : List DetailRow} (stage : state.requests request = .selected task taken)
    (undisturbed : state.StillUnused (.commit request)) :
    Orderly account first { state.setStage request .ended with
      rows := state.rows.map (DetailRow.marked account.unicode task)
      successes := state.successes ++ [taken] } := by
  have newer := newer_marked account.unicode task state.rows
  have storedKeyed : (state.rows.map DetailRow.key).Nodup := by
    rw [map_key_of_forall₂ (fun _ _ later => Later.key later) orderly.newer]
    exact keyed
  refine ⟨newer_trans orderly.newer newer, ?_, ?_, ?_⟩
  · intro other
    refine Fits.newer ?_ newer
    simp only [setStage, Function.update_apply]
    split
    · trivial
    · exact orderly.fits other
  · intro success member row isTaken stored isStored sameKey
    obtain ⟨before, inside, rfl⟩ := List.mem_map.mp isStored
    refine DetailRow.marked_useCount_ne before ?_
    rcases List.mem_append.mp member with earlier | own
    · exact .inr (orderly.spent success earlier row isTaken before inside sameKey)
    · rw [List.mem_singleton.mp own] at isTaken
      have fits := orderly.fits request
      rw [stage] at fits
      obtain ⟨-, ⟨version, inRows, later⟩, -, reached⟩ := fits row isTaken
      have isVersion : before = version :=
        eq_of_key_eq storedKeyed inside inRows (sameKey.trans later.key.symm)
      rw [isVersion, later.marks]
      exact .inl reached
  · intro old initially unused
    have split : (state.successes ++ [taken]).countP (fun success =>
        old.key ∈ success.map DetailRow.key) =
          state.timesTaken old + if old.key ∈ taken.map DetailRow.key then 1 else 0 := by
      simp [timesTaken, List.countP_append, List.countP_singleton]
    change (state.successes ++ [taken]).countP _ ≤ 1
    rw [split]
    by_cases member : old.key ∈ taken.map DetailRow.key
    · rw [if_pos member,
        orderly.timesTaken_eq_zero keyed stage undisturbed initially unused member]
    · rw [if_neg member]
      exact orderly.once old initially unused

theorem next (orderly : Orderly account first state)
    (keyed : (first.rows.map DetailRow.key).Nodup) {label : LibraryLabel}
    (step : state.Step account label after) (unusedOnly : label.UnusedOnly)
    (undisturbed : state.StillUnused label) : Orderly account first after := by
  cases label with
  | begin request =>
      simp only [Step, LibrarySends.next] at step
      split at step
      · cases step
        exact orderly.move ⟨orderly.newer, newer_refl _⟩
      · cases step
  | select request filters latest phones =>
      simp only [Step, LibrarySends.next] at step
      split at step
      case h_2 => cases step
      case h_1 snapshot stage =>
        have fits := orderly.fits request
        rw [stage] at fits
        split at step
        · cases step
          exact orderly.move trivial
        · split at step
          · cases step
            exact orderly.move trivial
          · split at step
            · cases step
              exact orderly.move ⟨fits.1, fits.2, unusedOnly⟩
            · split at step
              · cases step
                exact orderly.take unusedOnly fits.1 fits.2 (.inr ⟨rfl, rfl⟩)
              · cases step
  | selectAgain request latest phones =>
      simp only [Step, LibrarySends.next] at step
      split at step
      case h_2 => cases step
      case h_1 snapshot filters country stage =>
        have fits := orderly.fits request
        rw [stage] at fits
        split at step
        · cases step
          exact orderly.take fits.2.2 fits.1 fits.2.1 (.inl rfl)
        · cases step
  | commit request =>
      simp only [Step, LibrarySends.next] at step
      split at step
      case h_1 task taken stage =>
        cases step
        exact orderly.commit keyed stage undisturbed
      case h_2 => cases step
  | fail request =>
      cases step
      exact orderly.move trivial

end Orderly

/-- In every run of requests for unused numbers in which no commit is disturbed, each row that was
unused in the beginning is taken by at most one successful request. -/
theorem unused_taken_once {first last : LibrarySends}
    {transitions : List (Transition LibrarySends LibraryLabel)} (fresh : first.Fresh)
    (run : Run (Step account) first transitions last)
    (unusedOnly : ∀ transition ∈ transitions, transition.label.UnusedOnly)
    (undisturbed : ∀ transition ∈ transitions,
      transition.before.StillUnused transition.label) :
    UsedOnce first last ∧ ∀ transition ∈ transitions, UsedOnce first transition.after := by
  have guarded : Run (Guarded (Step account) fun before label =>
      label.UnusedOnly ∧ before.StillUnused label) first transitions last :=
    run.guarded fun transition member =>
      ⟨unusedOnly transition member, undisturbed transition member⟩
  have initially : Orderly account first first := fresh.orderly
  have ordered := guarded.invariant
    (fun _ _ _ step orderly => orderly.next fresh.keyed step.1 step.2.1 step.2.2) initially
  exact ⟨ordered.1.once, fun transition member => (ordered.2 transition member).2.once⟩

def freeAccount : LibraryAccount where
  unicode := Unicode.ascii
  like pattern text := textContains text pattern
  id := 7
  countryCode := none

def unusedRow : DetailRow where
  id := 1
  origin := .manual
  accountId := 7
  phoneNumber := "+8613800138000"
  countryCode := "CN"
  source := none
  purpose := none
  batchId := some "A"
  carrier := none
  remarks := none
  useCount := some 0
  isDeleted := false

def oneNumber : LibrarySends := ⟨[unusedRow], fun _ => .idle, []⟩

def unusedOfBatch : LibraryFilters := ⟨some "CN", some "A", none, none, none, true, some 1⟩

theorem oneNumber_fresh : oneNumber.Fresh :=
  ⟨fun _ => rfl, rfl, by simp [oneNumber]⟩

theorem unused_taken_once_single :
    ∃ transitions last, Run (Step freeAccount) oneNumber transitions last ∧
      last.successes = [[unusedRow]] ∧ UsedOnce oneNumber last := by
  let task : SyncTask := ⟨7, ["+8613800138000"], some "A"⟩
  let isBegun := oneNumber.setStage 0 (.begun [unusedRow])
  let isSelected := isBegun.setStage 0 (.selected task [unusedRow])
  let isCommitted : LibrarySends := { isSelected.setStage 0 .ended with
    rows := [unusedRow.marked Unicode.ascii task]
    successes := [[unusedRow]] }
  have begun : oneNumber.Step freeAccount (.begin 0) isBegun := rfl
  have selected : isBegun.Step freeAccount
      (.select 0 unusedOfBatch true ["+8613800138000"]) isSelected := by
    have country : freeAccount.countryFor unusedOfBatch = some (some "CN") := by decide
    have found : freeAccount.union unusedOfBatch (some "CN") true [unusedRow] = [unusedRow] := by
      decide
    have chosen : unusedOfBatch.MayTake [unusedRow] ["+8613800138000"] := by decide
    have batch : unusedOfBatch.batch freeAccount.unicode = some "A" := by decide
    have stage : isBegun.requests 0 = .begun [unusedRow] := by simp [isBegun, setStage]
    have seen : isBegun.view [unusedRow] true = [unusedRow] := rfl
    have limit : ¬ unusedOfBatch.lim ≤ 0 := by decide
    simp only [Step, next, stage, country, seen, found, batch]
    rw [if_neg limit, if_neg (by simp), if_pos chosen]
    rfl
  have committed : isSelected.Step freeAccount (.commit 0) isCommitted := rfl
  have run := Run.cons begun (.cons selected (.cons committed (.nil _)))
  refine ⟨_, _, run, rfl, (unused_taken_once oneNumber_fresh run ?_ ?_).1⟩
  · intro transition member
    simp only [List.mem_cons, List.not_mem_nil, or_false] at member
    rcases member with rfl | rfl | rfl
    · trivial
    · rfl
    · trivial
  · intro transition member
    simp only [List.mem_cons, List.not_mem_nil, or_false] at member
    rcases member with rfl | rfl | rfl
    · trivial
    · trivial
    · rintro task taken ⟨⟩ row isTaken -
      exact isTaken

/-- Two requests select before either commits: a client that has sent its request again. -/
theorem unused_taken_twice :
    oneNumber.Fresh ∧ ∃ transitions last, Run (Step freeAccount) oneNumber transitions last ∧
      (∀ transition ∈ transitions, transition.label.UnusedOnly) ∧
        last.successes = [[unusedRow], [unusedRow]] ∧ ¬ UsedOnce oneNumber last := by
  have passed := Run.exists_labels_of_execute (fun last : LibrarySends =>
      last.successes = [[unusedRow], [unusedRow]] ∧ ¬ UsedOnce oneNumber last)
    (show ((execute (next freeAccount) oneNumber
      [.begin 0, .begin 1, .select 0 unusedOfBatch true ["+8613800138000"],
        .select 1 unusedOfBatch true ["+8613800138000"], .commit 0, .commit 1]).any _) = true by
      decide)
  rcases passed with ⟨transitions, last, run, labels, successes, twice⟩
  refine ⟨oneNumber_fresh, transitions, last, run, ?_, successes, twice⟩
  intro transition member
  have isLabel := labels transition member
  simp only [List.mem_cons, List.not_mem_nil, or_false] at isLabel
  rcases isLabel with label | label | label | label | label | label <;> rw [label] <;> trivial

end LibrarySends

end Klsmsc
