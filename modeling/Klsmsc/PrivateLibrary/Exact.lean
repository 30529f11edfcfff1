import Klsmsc.Library.Runs
import Klsmsc.PrivateLibrary.Buckets

/-!
# What keeps the private libraries exact

Between its operations a visible bucket counts the visible rows with its dimensions, and those that
have been used and are not waiting for a task. The operations keep this where their deltas and marks
are those of the rows that they change. Without outstanding tasks no row waits, and the summary is
exact.

The condition is about the differences. A task counts the rows that have been used exactly once,
whether they have been counted before or not; a purchase adds to whatever a deleted bucket had been
left with; a deletion marks or empties buckets by other columns than it looks for in the rows.
-/

namespace Klsmsc

open Library

variable {unicode : Unicode}

namespace PrivateState

structure Sound (unicode : Unicode) (state : PrivateState) : Prop where
  accurate : ∀ bucket ∈ state.buckets, bucket.isDeleted = false → state.Accurate unicode bucket
  once : ∀ number ∈ state.numbers, number.isDeleted = false → number.useCount = 1 →
    state.waits unicode number ≤ 1

variable {state after : PrivateState}

theorem Sound.exact (sound : state.Sound unicode) (settled : state.tasks = []) :
    state.Exact unicode := by
  intro bucket member visible
  rcases sound.accurate bucket member visible with ⟨total, used⟩
  refine ⟨total, used.trans (List.countP_congr ?_)⟩
  intro number _
  simp [Counted, waits, settled]

theorem counted_le_held (key : SummaryKey) : state.counted unicode key ≤ state.held unicode key := by
  refine List.countP_mono_left ?_
  intro number _ both
  exact decide_eq_true (of_decide_eq_true both).1

/-! ## Uploads and purchases -/

theorem total_deltaOf_bumpDeltas (rows : List PrivateNumber) (key : SummaryKey) :
    (deltaOf (bumpDeltas unicode rows) key).total =
      rows.countP fun row => row.key unicode = key := by
  induction rows with
  | nil => rfl
  | cons row rows ih =>
      simp only [deltaOf, bumpDeltas, List.map_cons, List.sum_cons, List.countP_cons] at ih ⊢
      rw [ih]
      by_cases same : row.key unicode = key
      · simp [same, add_comm]
      · simp [same]

theorem used_deltaOf_bumpDeltas (rows : List PrivateNumber) (key : SummaryKey) :
    (deltaOf (bumpDeltas unicode rows) key).used =
      rows.countP fun row => row.key unicode = key ∧ 0 < row.useCount := by
  induction rows with
  | nil => rfl
  | cons row rows ih =>
      simp only [deltaOf, bumpDeltas, List.map_cons, List.sum_cons, List.countP_cons] at ih ⊢
      rw [ih]
      by_cases same : row.key unicode = key
      · by_cases isUsed : 0 < row.useCount
        · simp [same, isUsed, add_comm]
        · simp [same, isUsed]
      · simp [same]

theorem held_append {rows : List PrivateNumber} (visible : ∀ row ∈ rows, row.isDeleted = false)
    {buckets : List SummaryBucket} (key : SummaryKey) :
    held unicode { state with numbers := state.numbers ++ rows, buckets := buckets } key =
      state.held unicode key + rows.countP fun row => row.key unicode = key := by
  rw [held, List.countP_append, ← held]
  refine congrArg (state.held unicode key + ·) (List.countP_congr ?_)
  intro row member
  simp [visible row member]

theorem counted_append {rows : List PrivateNumber} (visible : ∀ row ∈ rows, row.isDeleted = false)
    (fresh : ∀ row ∈ rows, row.useCount = 1 → state.waits unicode row = 0)
    {buckets : List SummaryBucket} (key : SummaryKey) :
    counted unicode { state with numbers := state.numbers ++ rows, buckets := buckets } key =
      state.counted unicode key +
        rows.countP fun row => row.key unicode = key ∧ 0 < row.useCount := by
  rw [counted, List.countP_append]
  refine congrArg (state.counted unicode key + ·) (List.countP_congr ?_)
  intro row member
  have isCounted : state.Counted unicode row ↔ 0 < row.useCount :=
    ⟨fun both => both.1, fun isUsed => ⟨isUsed, fresh row member⟩⟩
  have same : Counted unicode { state with numbers := state.numbers ++ rows, buckets := buckets }
      row ↔ 0 < row.useCount := isCounted
  simp [visible row member, same]

theorem mem_keys_bumpDeltas {rows : List PrivateNumber} {key : SummaryKey} :
    key ∈ (bumpDeltas unicode rows).map BucketDelta.key ↔ ∃ row ∈ rows, row.key unicode = key := by
  simp [bumpDeltas]

theorem countP_used_le (rows : List PrivateNumber) (key : SummaryKey) :
    (rows.countP fun row => row.key unicode = key ∧ 0 < row.useCount) ≤
      rows.countP fun row => row.key unicode = key := by
  refine List.countP_mono_left ?_
  intro row _ both
  exact decide_eq_true (of_decide_eq_true both).1

section Additions

variable {rows : List PrivateNumber} {left : List SummaryBucket} {bucket : SummaryBucket}

theorem accurate_append {key : SummaryKey} (isKey : bucket.key = key)
    (visible : ∀ row ∈ rows, row.isDeleted = false)
    (fresh : ∀ row ∈ rows, row.useCount = 1 → state.waits unicode row = 0)
    (total : bucket.totalCount = state.held unicode key +
      rows.countP fun row => row.key unicode = key)
    (used : bucket.usedCount = state.counted unicode key +
      rows.countP fun row => row.key unicode = key ∧ 0 < row.useCount) :
    Accurate unicode { state with numbers := state.numbers ++ rows, buckets := left } bucket := by
  subst isKey
  rw [Accurate, total, used, held_append visible, counted_append visible fresh]
  exact ⟨rfl, rfl⟩

theorem Accurate.append_untouched (accurate : state.Accurate unicode bucket)
    (visible : ∀ row ∈ rows, row.isDeleted = false)
    (fresh : ∀ row ∈ rows, row.useCount = 1 → state.waits unicode row = 0)
    (untouched : bucket.key ∉ (bumpDeltas unicode rows).map BucketDelta.key) :
    Accurate unicode { state with numbers := state.numbers ++ rows, buckets := left } bucket := by
  have nothing : (rows.countP fun row => row.key unicode = bucket.key) = 0 := by
    rw [List.countP_eq_zero]
    intro row isRow same
    exact untouched (mem_keys_bumpDeltas.mpr ⟨row, isRow, of_decide_eq_true same⟩)
  have less := @countP_used_le unicode rows bucket.key
  refine accurate_append rfl visible fresh ?_ ?_
  · rw [nothing, accurate.1, Nat.add_zero]
  · rw [accurate.2]
    omega

theorem Sound.added (sound : state.Sound unicode) {accountId : ℕ}
    (pruned : plsPruneNonPositive accountId
      (plsApplyDeltasBulk (sessionOf state.buckets) (bumpDeltas unicode rows)) = some left)
    (ready : ∀ row ∈ rows, state.Ready unicode (row.key unicode))
    (visible : ∀ row ∈ rows, row.isDeleted = false)
    (fresh : ∀ row ∈ rows, row.useCount = 1 → state.waits unicode row = 0) :
    Sound unicode { state with numbers := state.numbers ++ rows, buckets := left } := by
  constructor
  · intro bucket member isVisible
    rcases mem_plsPruneNonPositive pruned member with ⟨entry, inside, made⟩
    rcases mem_plsApplyDeltasBulk inside with
      ⟨old, isOld, rfl⟩ | ⟨unstored, key, isKey, -, none_, created⟩
    · by_cases touched : old.key ∈ (bumpDeltas unicode rows).map BucketDelta.key
      · rcases mem_keys_bumpDeltas.mp touched with ⟨row, isRow, same⟩
        have accurate := (ready row isRow).1 old isOld same.symm
        have more : 0 < rows.countP fun row => row.key unicode = old.key :=
          List.countP_pos_iff.mpr ⟨row, isRow, by simp [same]⟩
        have most := @countP_used_le unicode rows old.key
        have less := @counted_le_held unicode state old.key
        simp only [if_pos touched, total_deltaOf_bumpDeltas, used_deltaOf_bumpDeltas,
          SummaryBucket.changed, accurate.1, accurate.2] at made
        rcases made with rfl | ⟨empty, -⟩
        · refine @accurate_append _ _ _ _ _ old.key rfl visible fresh ?_ ?_
          · dsimp only
            omega
          · dsimp only
            omega
        · omega
      · have same : bucket = old := by
          simp only [if_neg touched] at made
          rcases made with rfl | ⟨-, stored⟩
          · rfl
          · exact (Option.some.inj stored).symm
        subst bucket
        exact (sound.accurate old isOld isVisible).append_untouched visible fresh touched
    · rcases made with rfl | ⟨-, stored⟩
      · rcases mem_keys_bumpDeltas.mp isKey with ⟨row, isRow, same⟩
        have empty : state.held unicode key = 0 := by
          rcases (ready row isRow).2 with ⟨old, isOld, isKey'⟩ | empty
          · exact absurd (isKey'.trans same) (none_ old isOld)
          · rwa [same] at empty
        have unused := @counted_le_held unicode state key
        have most := @countP_used_le unicode rows key
        rw [created, BucketDelta.created]
        refine @accurate_append _ _ _ _ _ key rfl visible fresh ?_ ?_
        · simp only [total_deltaOf_bumpDeltas]
          omega
        · simp only [total_deltaOf_bumpDeltas, used_deltaOf_bumpDeltas]
          omega
      · rw [unstored] at stored
        cases stored
  · intro number member isVisible isOne
    rcases List.mem_append.mp member with old | new
    · exact sound.once number old isVisible isOne
    · exact (fresh number new isOne).le.trans (Nat.zero_le 1)

end Additions

theorem Sound.uploaded (sound : state.Sound unicode) {upload : PrivateUpload}
    (step : Step unicode state (.upload upload) after)
    (heeds : state.Heeds unicode (.upload upload)) : after.Sound unicode := by
  have unused : ∀ row ∈ upload.rows, row.isDeleted = false ∧ row.useCount = 0 := by
    intro row member
    rcases List.mem_map.mp member with ⟨phoneNumber, -, rfl⟩
    exact ⟨rfl, rfl⟩
  have deltas : upload.deltas unicode = bumpDeltas unicode upload.rows := by
    refine List.map_congr_left ?_
    intro row member
    simp [(unused row member).2]
  have all : upload.inserted state.numbers = upload.rows := by
    refine List.filter_eq_self.mpr ?_
    intro row member
    exact decide_eq_true (heeds row member).1
  simp only [Step, next] at step
  split at step
  · cases step
  · rcases Option.map_eq_some_iff.mp step with ⟨left, pruned, rfl⟩
    rw [all]
    rw [deltas] at pruned
    refine sound.added pruned (fun row member => (heeds row member).2)
      (fun row member => (unused row member).1) ?_
    intro row member isOne
    rw [(unused row member).2] at isOne
    cases isOne

theorem Sound.purchased (sound : state.Sound unicode) {accountId : ℕ}
    {bought : List PrivateNumber} (step : Step unicode state (.purchase accountId bought) after)
    (heeds : state.Heeds unicode (.purchase accountId bought)) : after.Sound unicode := by
  have visible : ∀ row ∈ boughtBy accountId bought, row.isDeleted = false := by
    intro row member
    rcases List.mem_map.mp member with ⟨number, -, rfl⟩
    rfl
  simp only [Step, next] at step
  split at step
  · rcases Option.map_eq_some_iff.mp step with ⟨left, pruned, rfl⟩
    exact sound.added pruned (fun row member => (heeds row member).1) visible
      fun row member => (heeds row member).2
  · cases step

/-! ## Sends and their tasks -/

theorem Accurate.mapped {bucket : SummaryBucket} (accurate : state.Accurate unicode bucket)
    {change : PrivateNumber → PrivateNumber} {buckets : List SummaryBucket}
    {tasks : List SyncTask}
    (keeps : ∀ number, (change number).isDeleted = number.isDeleted ∧
      (change number).key unicode = number.key unicode)
    (same : ∀ number ∈ state.numbers, number.isDeleted = false →
      (Counted unicode ⟨state.numbers.map change, buckets, tasks⟩ (change number) ↔
        state.Counted unicode number)) :
    Accurate unicode ⟨state.numbers.map change, buckets, tasks⟩ bucket := by
  constructor
  · rw [accurate.1, held, held, List.countP_map]
    refine List.countP_congr ?_
    intro number _
    simp [keeps number]
  · rw [accurate.2, counted, counted, List.countP_map]
    refine List.countP_congr ?_
    intro number member
    have same' := same number member
    simp only [Function.comp_apply, decide_eq_true_eq, keeps number]
    constructor
    · rintro ⟨own, isCounted⟩
      exact ⟨own, (same' own.1).mpr isCounted⟩
    · rintro ⟨own, isCounted⟩
      exact ⟨own, (same' own.1).mp isCounted⟩

theorem Sound.sent (sound : state.Sound unicode) {call : SyncTask} {isPublished : Bool}
    (step : Step unicode state (.send call isPublished) after)
    (heeds : state.Heeds unicode (.send call isPublished)) : after.Sound unicode := by
  simp only [Step, next] at step
  split at step
  · cases step
    exact sound
  · cases step
    have waits_ : ∀ (numbers : List PrivateNumber) (number : PrivateNumber),
        waits unicode ⟨numbers, state.buckets,
            if isPublished then state.tasks ++ [call.published unicode] else state.tasks⟩ number =
          state.waits unicode number +
            if isPublished then (call.published unicode).times unicode number else 0 := by
      intro numbers number
      cases isPublished <;> simp [waits]
    -- what the send makes of a visible row
    have each : ∀ number ∈ state.numbers, number.isDeleted = false →
        (0 < number.useCount + call.marks unicode number ∧
            (number.useCount + call.marks unicode number = 1 →
              state.waits unicode number + (if isPublished then
                (call.published unicode).times unicode number else 0) = 0) ↔
          state.Counted unicode number) ∧
        (number.useCount + call.marks unicode number = 1 →
          state.waits unicode number + (if isPublished then
            (call.published unicode).times unicode number else 0) ≤ 1) := by
      intro number member visible
      have once := sound.once number member visible
      rw [Counted]
      by_cases more : 2 ≤ number.useCount
      · constructor
        · constructor
          · intro _
            exact ⟨by omega, by omega⟩
          · intro _
            exact ⟨by omega, by omega⟩
        · omega
      · rcases heeds number member visible (by omega) with ⟨marked, unmarked⟩
        by_cases marks : call.marks unicode number = 0
        · have noTimes : (if isPublished then
              (call.published unicode).times unicode number else 0) = 0 := by
            cases isPublished with
            | false => rfl
            | true => exact unmarked marks rfl
          rw [marks, noTimes, Nat.add_zero, Nat.add_zero]
          exact ⟨Iff.rfl, once⟩
        · rcases marked (by omega) with ⟨free, first⟩
          by_cases unused : number.useCount = 0
          · rcases first unused with ⟨rfl, one, times⟩
            simp [free, unused, one, times]
          · have isOne : number.useCount = 1 := by omega
            constructor
            · constructor
              · intro _
                exact ⟨by omega, fun _ => free⟩
              · intro _
                exact ⟨by omega, by omega⟩
            · omega
    constructor
    · intro bucket member visible
      refine (sound.accurate bucket member visible).mapped (fun number => ⟨rfl, rfl⟩) ?_
      intro number inside isVisible
      have same := (each number inside isVisible).1
      rw [← same, Counted, waits_]
      rfl
    · intro number member
      rcases List.mem_map.mp member with ⟨old, inside, rfl⟩
      intro isVisible isOne
      rw [waits_]
      exact (each old inside isVisible).2 isOne

def selected (unicode : Unicode) (task : SyncTask) (numbers : List PrivateNumber)
    (key : SummaryKey) : ℕ :=
  (numbers.map fun number =>
    if (number.isDeleted = false ∧ number.key unicode = key) ∧ number.useCount = 1 then
      task.times unicode number
    else 0).sum

theorem total_deltaOf_syncTask (task : SyncTask) (numbers : List PrivateNumber)
    (key : SummaryKey) : (deltaOf (task.deltas unicode numbers) key).total = 0 := by
  refine List.sum_eq_zero ?_
  intro value member
  rcases List.mem_map.mp member with ⟨delta, isDelta, rfl⟩
  rcases List.mem_flatMap.mp isDelta with ⟨chunk, -, inChunk⟩
  rcases List.mem_map.mp inChunk with ⟨number, -, rfl⟩
  exact ite_self 0

theorem sum_used_of_ones (rows : List PrivateNumber) (key : SummaryKey) :
    ((rows.map fun row => BucketDelta.mk (row.key unicode) 0 1).map fun delta =>
        if delta.key = key then delta.used else 0).sum =
      (rows.countP fun row => row.key unicode = key : ℕ) := by
  induction rows with
  | nil => rfl
  | cons row rows ih =>
      rw [List.map_cons, List.map_cons, List.sum_cons, ih, List.countP_cons]
      by_cases same : row.key unicode = key
      · simp [same, add_comm]
      · simp [same]

theorem used_deltaOf_syncTask (task : SyncTask) (numbers : List PrivateNumber)
    (key : SummaryKey) :
    (deltaOf (task.deltas unicode numbers) key).used = selected unicode task numbers key := by
  have byChunks : ∀ chunks : List (List String),
      ((chunks.flatMap fun chunk =>
          ((numbers.filter fun number => task.Selects unicode number chunk).map fun number =>
            BucketDelta.mk (number.key unicode) 0 1)).map fun delta =>
              if delta.key = key then delta.used else 0).sum =
        ((chunks.map fun chunk => numbers.countP fun number =>
          task.Selects unicode number chunk ∧ number.key unicode = key).sum : ℕ) := by
    intro chunks
    induction chunks with
    | nil => rfl
    | cons chunk chunks ih =>
        have here := @sum_used_of_ones unicode
          (numbers.filter fun number => task.Selects unicode number chunk) key
        rw [List.countP_filter] at here
        rw [List.flatMap_cons, List.map_append, List.sum_append, ih, here, List.map_cons,
          List.sum_cons, Int.natCast_add]
        refine congrArg (fun count : ℕ => (count : ℤ) + _) (List.countP_congr ?_)
        intro number _
        simp [and_comm]
  rw [deltaOf, SyncTask.deltas, byChunks, sum_countP_comm fun chunk number =>
    task.Selects unicode number chunk ∧ number.key unicode = key, selected]
  refine congrArg (fun sums : List ℕ => ((sums.sum : ℕ) : ℤ)) (List.map_congr_left ?_)
  intro number _
  by_cases own : (number.isDeleted = false ∧ number.key unicode = key) ∧ number.useCount = 1
  · rw [if_pos own, SyncTask.times]
    refine List.countP_congr ?_
    intro chunk _
    simp [SyncTask.Selects, own.1.1, own.1.2, own.2]
  · rw [if_neg own, List.countP_eq_zero]
    intro chunk _ both
    have parts := of_decide_eq_true both
    exact own ⟨⟨parts.1.2.1, parts.2⟩, parts.1.1⟩

theorem selected_of_not_mem {task : SyncTask} {numbers : List PrivateNumber} {key : SummaryKey}
    (untouched : key ∉ (task.deltas unicode numbers).map BucketDelta.key) :
    selected unicode task numbers key = 0 := by
  have nothing : (deltaOf (task.deltas unicode numbers) key).used = 0 := by
    refine List.sum_eq_zero ?_
    intro value isValue
    rcases List.mem_map.mp isValue with ⟨delta, isDelta, rfl⟩
    refine if_neg ?_
    intro same
    exact untouched (List.mem_map.mpr ⟨delta, isDelta, same⟩)
  rw [used_deltaOf_syncTask] at nothing
  omega

structure Synced (unicode : Unicode) (state : PrivateState) (task : SyncTask)
    (outcome : SyncOutcome) (after : PrivateState) : Prop where
  isTask : task ∈ state.tasks
  numbers : after.numbers = state.numbers
  tasks : after.tasks =
    if outcome = .redelivered then state.tasks else state.tasks.erase task
  buckets : after.buckets =
    if outcome = .lost then state.buckets
    else (plsApplyDeltasBulk (sessionOf state.buckets)
      (task.deltas unicode state.numbers)).map SessionBucket.current

section Tasks

variable {task : SyncTask} {outcome : SyncOutcome}

theorem synced_of_step (step : Step unicode state (.syncUsed task outcome) after) :
    Synced unicode state task outcome after := by
  simp only [Step, next] at step
  split at step
  · rename_i isTask
    cases step
    exact ⟨isTask, rfl, rfl, rfl⟩
  · cases step

theorem Synced.waits (synced : Synced unicode state task outcome after)
    (heeds : state.Heeds unicode (.syncUsed task outcome)) {number : PrivateNumber}
    (member : number ∈ state.numbers) (visible : number.isDeleted = false)
    (isOne : number.useCount = 1) :
    after.waits unicode number + task.times unicode number = state.waits unicode number := by
  rw [PrivateState.waits, synced.tasks]
  by_cases again : outcome = .redelivered
  · have nothing : task.times unicode number = 0 := by
      rcases heeds with isDone | nothing
      · rw [isDone] at again
        cases again
      · exact nothing number member visible isOne
    rw [if_pos again, nothing, Nat.add_zero, PrivateState.waits]
  · have erased :=
      List.sum_map_erase (fun task : SyncTask => task.times unicode number) synced.isTask
    rw [if_neg again, PrivateState.waits, ← erased, Nat.add_comm]

theorem Synced.held (synced : Synced unicode state task outcome after) (key : SummaryKey) :
    after.held unicode key = state.held unicode key := by
  rw [PrivateState.held, PrivateState.held, synced.numbers]

theorem Synced.counted (synced : Synced unicode state task outcome after)
    (sound : state.Sound unicode) (heeds : state.Heeds unicode (.syncUsed task outcome))
    (key : SummaryKey) :
    after.counted unicode key =
      state.counted unicode key + selected unicode task state.numbers key := by
  rw [PrivateState.counted, PrivateState.counted, synced.numbers]
  refine countP_eq_add_sum ?_
  intro number member
  by_cases own : number.isDeleted = false ∧ number.key unicode = key
  · by_cases isOne : number.useCount = 1
    · have less := synced.waits heeds member own.1 isOne
      have once := sound.once number member own.1 isOne
      simp only [own, isOne, Counted, and_self, true_and, Nat.one_pos, forall_const, if_true]
      split <;> split <;> omega
    · simp [own, isOne, Counted]
  · simp [own]

theorem Synced.accurate (synced : Synced unicode state task outcome after)
    (sound : state.Sound unicode) (heeds : state.Heeds unicode (.syncUsed task outcome))
    {bucket : SummaryBucket} (total : bucket.totalCount = state.held unicode bucket.key)
    (used : bucket.usedCount = state.counted unicode bucket.key +
      selected unicode task state.numbers bucket.key) : after.Accurate unicode bucket :=
  ⟨total.trans (synced.held _).symm, used.trans (synced.counted sound heeds _).symm⟩

theorem selected_of_not_done (heeds : state.Heeds unicode (.syncUsed task outcome))
    (notDone : outcome ≠ .done) (key : SummaryKey) :
    selected unicode task state.numbers key = 0 := by
  refine List.sum_eq_zero ?_
  intro value member
  rcases List.mem_map.mp member with ⟨number, inside, rfl⟩
  split
  · rename_i own
    exact (heeds.resolve_left notDone) number inside own.1.1 own.2
  · rfl

theorem Sound.synced (sound : state.Sound unicode)
    (step : Step unicode state (.syncUsed task outcome) after)
    (heeds : state.Heeds unicode (.syncUsed task outcome)) : after.Sound unicode := by
  have synced := synced_of_step step
  constructor
  · intro bucket member visible
    rw [synced.buckets] at member
    by_cases isLost : outcome = .lost
    · rw [if_pos isLost] at member
      have accurate := sound.accurate bucket member visible
      have nothing := selected_of_not_done heeds (by simp [isLost]) bucket.key
      refine synced.accurate sound heeds accurate.1 ?_
      rw [nothing, accurate.2, Nat.add_zero]
    rw [if_neg isLost] at member
    rcases List.mem_map.mp member with ⟨entry, inside, rfl⟩
    rcases mem_plsApplyDeltasBulk inside with ⟨old, isOld, rfl⟩ | ⟨-, key, -, more, -⟩
    · by_cases touched : old.key ∈ (task.deltas unicode state.numbers).map BucketDelta.key
      · simp only [if_pos touched, SummaryBucket.changed, total_deltaOf_syncTask,
          used_deltaOf_syncTask, lt_irrefl, if_false] at visible ⊢
        have accurate := sound.accurate old isOld visible
        have least := @counted_le_held unicode after old.key
        rw [synced.held, synced.counted sound heeds] at least
        refine synced.accurate sound heeds ?_ ?_
        · simp [accurate.1]
        · simp only [accurate.1, accurate.2]
          omega
      · simp only [if_neg touched] at visible ⊢
        have accurate := sound.accurate old isOld visible
        refine synced.accurate sound heeds accurate.1 ?_
        rw [selected_of_not_mem touched, accurate.2, Nat.add_zero]
    · rw [total_deltaOf_syncTask] at more
      exact absurd more (lt_irrefl 0)
  · intro number member visible isOne
    rw [synced.numbers] at member
    have less := synced.waits heeds member visible isOne
    have once := sound.once number member visible isOne
    omega

end Tasks

/-! ## Deletions and resets -/

theorem countP_filterMap_leaves (deletion : CardDeletion) {property : PrivateNumber → Prop}
    [DecidablePred property] (visible : ∀ number, property number → number.isDeleted = false)
    (numbers : List PrivateNumber) :
    ((numbers.filterMap (deletion.leaves unicode)).countP fun number => property number) +
      ((numbers.filter fun number => deletion.Takes unicode number).countP fun number =>
        property number) = numbers.countP fun number => property number := by
  induction numbers with
  | nil => rfl
  | cons number numbers ih =>
      have hidden : ¬ property { number with isDeleted := true } := by
        intro holds
        cases visible _ holds
      by_cases takes : deletion.Takes unicode number
      · by_cases gone : deletion.hardDelete = true ∨ number.origin = .purchased
        · have left : deletion.leaves unicode number = none := by
            simp [CardDeletion.leaves, takes, gone]
          rw [List.filterMap_cons_none left, List.filter_cons_of_pos (by simpa using takes),
            List.countP_cons, List.countP_cons]
          omega
        · have left : deletion.leaves unicode number =
              some { number with isDeleted := true } := by
            simp [CardDeletion.leaves, takes, gone]
          rw [List.filterMap_cons_some left, List.filter_cons_of_pos (by simpa using takes),
            List.countP_cons, List.countP_cons, List.countP_cons, if_neg (by simpa using hidden)]
          omega
      · have left : deletion.leaves unicode number = some number := by
          simp [CardDeletion.leaves, takes]
        rw [List.filterMap_cons_some left, List.filter_cons_of_neg (by simpa using takes),
          List.countP_cons, List.countP_cons]
        omega

theorem mem_filterMap_leaves {deletion : CardDeletion} {numbers : List PrivateNumber}
    {number : PrivateNumber} (member : number ∈ numbers.filterMap (deletion.leaves unicode))
    (visible : number.isDeleted = false) : number ∈ numbers := by
  rcases List.mem_filterMap.mp member with ⟨old, inside, left⟩
  rw [CardDeletion.leaves] at left
  split at left
  · cases left
    exact inside
  · split at left
    · cases left
    · cases left
      cases visible

theorem groupKey_groupOf {deletion : CardDeletion} {number : PrivateNumber}
    (own : number.accountId = deletion.accountId) :
    deletion.groupKey unicode (CardDeletion.groupOf number) = number.key unicode := by
  rw [CardDeletion.groupKey, PrivateNumber.key, own]
  rfl

theorem sum_neg_of_matching {Group : Type} (groups : List Group) (chosen : Group → Prop)
    [DecidablePred chosen] (count : Group → ℕ) :
    (groups.map fun group => if chosen group then -(count group : ℤ) else 0).sum =
      -((groups.map fun group => if chosen group then count group else 0).sum : ℕ) := by
  induction groups with
  | nil => rfl
  | cons group groups ih =>
      by_cases isChosen : chosen group
      · simp only [List.map_cons, List.sum_cons, ih, isChosen, if_true]
        omega
      · simp only [List.map_cons, List.sum_cons, ih, isChosen, if_false]
        omega

theorem deltaOf_cardDeletion (deletion : CardDeletion) (numbers : List PrivateNumber)
    (key : SummaryKey) :
    (deltaOf (deletion.deltas unicode numbers) key).total =
        -((numbers.filter fun number => deletion.Takes unicode number).countP fun number =>
          number.key unicode = key : ℕ) ∧
      (deltaOf (deletion.deltas unicode numbers) key).used =
        -((numbers.filter fun number => deletion.Takes unicode number).countP fun number =>
          number.key unicode = key ∧ 0 < number.useCount : ℕ) := by
  have own : ∀ number ∈ numbers.filter fun number => deletion.Takes unicode number,
      deletion.groupKey unicode (CardDeletion.groupOf number) = number.key unicode := by
    intro number member
    exact groupKey_groupOf (of_decide_eq_true (List.mem_filter.mp member).2).1
  simp only [deltaOf, CardDeletion.deltas, List.map_map]
  generalize (numbers.filter fun number => deletion.Takes unicode number) = taken at own ⊢
  have inside : ∀ number ∈ taken,
      CardDeletion.groupOf number ∈ (taken.map CardDeletion.groupOf).dedup :=
    fun number member => List.mem_dedup.mpr (List.mem_map_of_mem member)
  have split : ∀ (property : PrivateNumber → Prop) [DecidablePred property],
      (((taken.map CardDeletion.groupOf).dedup.map fun group =>
          if deletion.groupKey unicode group = key then
            taken.countP fun number => CardDeletion.groupOf number = group ∧ property number
          else 0).sum) =
        taken.countP fun number => number.key unicode = key ∧ property number := by
    intro property _
    rw [sum_countP_of_nodup CardDeletion.groupOf (deletion.groupKey unicode) property key
      (List.nodup_dedup _) inside]
    refine List.countP_congr ?_
    intro number member
    rw [own number member]
  constructor
  · have all := split fun _ => True
    simp only [and_true] at all
    rw [← all, ← sum_neg_of_matching]
    rfl
  · rw [← split fun number => 0 < number.useCount, ← sum_neg_of_matching]
    rfl

theorem mem_cleared {deletion : CardDeletion} {chosen : SummaryKey → Bool}
    {buckets : List SummaryBucket} {bucket : SummaryBucket}
    (member : bucket ∈ deletion.cleared chosen buckets) (visible : bucket.isDeleted = false) :
    bucket ∈ buckets ∧ ¬ (bucket.key.accountId = deletion.accountId ∧
      chosen bucket.key = true) := by
  rw [CardDeletion.cleared] at member
  split at member
  · rcases List.mem_filter.mp member with ⟨inside, kept⟩
    exact ⟨inside, of_decide_eq_true kept⟩
  · rcases List.mem_map.mp member with ⟨old, inside, made⟩
    split at made
    · rw [← made] at visible
      cases visible
    · rename_i other
      rw [← made]
      exact ⟨inside, other⟩

theorem mem_clearedCard {deletion : CardDeletion} {left : SummaryBucket → Bool}
    {buckets : List SummaryBucket} {bucket : SummaryBucket}
    (member : bucket ∈ deletion.clearedCard unicode left buckets)
    (visible : bucket.isDeleted = false) :
    bucket ∈ buckets ∧ ¬ (bucket.key.accountId = deletion.accountId ∧
      deletion.filter.onCard unicode bucket.key = true) := by
  rw [CardDeletion.clearedCard] at member
  split at member
  · exact mem_cleared (mem_cleared member visible).1 visible
  · exact mem_cleared member visible

section Deletion

variable {deletion : CardDeletion} {buckets : List SummaryBucket} {bucket stored : SummaryBucket}

def takenBy (unicode : Unicode) (state : PrivateState) (deletion : CardDeletion) :
    List PrivateNumber :=
  state.numbers.filter fun number => deletion.Takes unicode number

def leftBy (unicode : Unicode) (state : PrivateState) (deletion : CardDeletion)
    (buckets : List SummaryBucket) : PrivateState :=
  ⟨state.numbers.filterMap (deletion.leaves unicode), buckets, state.tasks⟩

theorem mem_takenBy {number : PrivateNumber} :
    number ∈ state.takenBy unicode deletion ↔
      number ∈ state.numbers ∧ deletion.Takes unicode number := by
  simp [takenBy]

theorem held_leftBy (key : SummaryKey) :
    (state.leftBy unicode deletion buckets).held unicode key +
      ((state.takenBy unicode deletion).countP fun number =>
        number.isDeleted = false ∧ number.key unicode = key) = state.held unicode key :=
  countP_filterMap_leaves deletion (fun _ both => both.1) state.numbers

theorem counted_leftBy (key : SummaryKey) :
    (state.leftBy unicode deletion buckets).counted unicode key +
      ((state.takenBy unicode deletion).countP fun number =>
        (number.isDeleted = false ∧ number.key unicode = key) ∧ state.Counted unicode number) =
      state.counted unicode key :=
  countP_filterMap_leaves deletion (fun _ both => both.1.1) state.numbers

theorem Accurate.leftBy (accurate : state.Accurate unicode bucket)
    (apart : ∀ number ∈ state.numbers, deletion.Takes unicode number →
      number.isDeleted = false → number.key unicode ≠ bucket.key) :
    (state.leftBy unicode deletion buckets).Accurate unicode bucket := by
  have noneHeld : ((state.takenBy unicode deletion).countP fun number =>
      number.isDeleted = false ∧ number.key unicode = bucket.key) = 0 := by
    rw [List.countP_eq_zero]
    intro number taken both
    have parts := of_decide_eq_true both
    obtain ⟨inside, takes⟩ := mem_takenBy.mp taken
    exact apart number inside takes parts.1 parts.2
  have noneCounted : ((state.takenBy unicode deletion).countP fun number =>
      (number.isDeleted = false ∧ number.key unicode = bucket.key) ∧
        state.Counted unicode number) = 0 := by
    rw [List.countP_eq_zero] at noneHeld ⊢
    intro number taken both
    exact noneHeld number taken (decide_eq_true (of_decide_eq_true both).1)
  have heldSame := @held_leftBy unicode state deletion buckets bucket.key
  have countedSame := @counted_leftBy unicode state deletion buckets bucket.key
  rw [noneHeld, Nat.add_zero] at heldSame
  rw [noneCounted, Nat.add_zero] at countedSame
  exact ⟨accurate.1.trans heldSame.symm, accurate.2.trans countedSame.symm⟩

theorem deltas_le (deletion : CardDeletion) (numbers : List PrivateNumber) :
    ∀ delta ∈ deletion.deltas unicode numbers, delta.total ≤ delta.used ∧ delta.used ≤ 0 := by
  intro delta isDelta
  rcases List.mem_map.mp isDelta with ⟨group, -, rfl⟩
  have part : ((numbers.filter fun number => deletion.Takes unicode number).countP fun number =>
        CardDeletion.groupOf number = group ∧ 0 < number.useCount) ≤
      (numbers.filter fun number => deletion.Takes unicode number).countP fun number =>
        CardDeletion.groupOf number = group := by
    refine List.countP_mono_left ?_
    intro number _ both
    exact decide_eq_true (of_decide_eq_true both).1
  dsimp only
  omega

/-- Where deltas only take away, each visible bucket behind the pruning is a stored one behind the
deltas, or one that has become empty in the session and is left as it was stored. -/
theorem stored_of_pruned {deltas : List BucketDelta} {pruned : List SummaryBucket}
    {accountId : ℕ} {hardDelete : Bool} (noMore : ∀ delta ∈ deltas, delta.total ≤ 0)
    (made : (if hardDelete then
        plsPruneNonPositive accountId (deltas.foldl plsApplyBucketDelta (sessionOf buckets))
      else
        some (plsSoftPruneNonPositive accountId
          (deltas.foldl plsApplyBucketDelta (sessionOf buckets)))) = some pruned)
    (member : bucket ∈ pruned) (visible : bucket.isDeleted = false) :
    ∃ stored ∈ buckets, stored.isDeleted = false ∧
      (bucket = deltas.foldl SummaryBucket.behind stored ∨
        hardDelete = true ∧ bucket = stored ∧
          (deltas.foldl SummaryBucket.behind stored).totalCount = 0) := by
  -- No delta creates a bucket.
  have ofStored : ∀ entry ∈ deltas.foldl plsApplyBucketDelta (sessionOf buckets),
      ∃ stored ∈ buckets, entry = ⟨some stored, deltas.foldl SummaryBucket.behind stored⟩ := by
    intro entry inside
    rcases mem_foldl_plsApplyBucketDelta inside with isStored | ⟨-, delta, isDelta, more, -⟩
    · exact isStored
    · exact absurd (noMore delta isDelta) (by omega)
  cases hardDelete with
  | true =>
      rcases mem_plsPruneNonPositive made member with ⟨entry, inside, source⟩
      rcases ofStored entry inside with ⟨stored, isStored, rfl⟩
      rcases source with rfl | ⟨empty, same⟩
      · exact ⟨stored, isStored, (foldl_behind_isDeleted noMore stored).symm.trans visible,
          .inl rfl⟩
      · cases same
        exact ⟨bucket, isStored, visible, .inr ⟨rfl, rfl, empty⟩⟩
  | false =>
      cases made
      rcases List.mem_map.mp member with ⟨entry, inside, source⟩
      split at source
      · rw [← source] at visible
        cases visible
      · rcases ofStored entry inside with ⟨stored, isStored, rfl⟩
        rw [← source] at visible ⊢
        exact ⟨stored, isStored, (foldl_behind_isDeleted noMore stored).symm.trans visible,
          .inl rfl⟩

theorem Accurate.behind_deltas (accurate : state.Accurate unicode stored)
    (visible : ∀ number ∈ state.numbers, deletion.Takes unicode number →
      number.key unicode = stored.key →
        number.isDeleted = false ∧ (0 < number.useCount → state.Counted unicode number)) :
    (deletion.deltas unicode state.numbers).foldl SummaryBucket.behind stored =
      { stored with
        totalCount := (state.leftBy unicode deletion buckets).held unicode stored.key
        usedCount := (state.leftBy unicode deletion buckets).counted unicode stored.key } := by
  have allVisible : ((state.takenBy unicode deletion).countP fun number =>
        number.isDeleted = false ∧ number.key unicode = stored.key) =
      (state.takenBy unicode deletion).countP fun number =>
        number.key unicode = stored.key := by
    refine List.countP_congr ?_
    intro number taken
    obtain ⟨inside, takes⟩ := mem_takenBy.mp taken
    simp only [decide_eq_true_eq]
    exact ⟨fun both => both.2, fun same => ⟨(visible number inside takes same).1, same⟩⟩
  have allCounted : ((state.takenBy unicode deletion).countP fun number =>
        (number.isDeleted = false ∧ number.key unicode = stored.key) ∧
          state.Counted unicode number) =
      (state.takenBy unicode deletion).countP fun number =>
        number.key unicode = stored.key ∧ 0 < number.useCount := by
    refine List.countP_congr ?_
    intro number taken
    obtain ⟨inside, takes⟩ := mem_takenBy.mp taken
    simp only [decide_eq_true_eq]
    constructor
    · rintro ⟨own, isCounted⟩
      exact ⟨own.2, isCounted.1⟩
    · rintro ⟨same, isUsed⟩
      have own := visible number inside takes same
      exact ⟨⟨own.1, same⟩, own.2 isUsed⟩
  have sums := @deltaOf_cardDeletion unicode deletion state.numbers stored.key
  have taken := @held_leftBy unicode state deletion buckets stored.key
  have takenUsed := @counted_leftBy unicode state deletion buckets stored.key
  rw [allVisible, ← accurate.1, takenBy] at taken
  rw [allCounted, ← accurate.2, takenBy] at takenUsed
  exact foldl_behind_of_taking (deltas_le deletion state.numbers) (by rw [sums.1]; omega)
    (by rw [sums.2]; omega) (counted_le_held stored.key)

theorem Sound.deleted (sound : state.Sound unicode) (step : Step unicode state (.delete deletion)
    after) (heeds : state.Heeds unicode (.delete deletion)) : after.Sound unicode := by
  rcases Option.map_eq_some_iff.mp step with ⟨buckets, made, rfl⟩
  change (state.leftBy unicode deletion buckets).Sound unicode
  constructor
  · intro bucket member visible
    rw [CardDeletion.buckets] at made
    split at made
    · rename_i nothing
      cases made
      have accurate := sound.accurate bucket (mem_clearedCard member visible).1 visible
      exact accurate.leftBy fun number inside takes => absurd takes (nothing number inside)
    split at made
    · rename_i specified
      have noMore : ∀ delta ∈ deletion.deltas unicode state.numbers, delta.total ≤ 0 := by
        intro delta isDelta
        have less := deltas_le deletion state.numbers delta isDelta
        omega
      rcases stored_of_pruned noMore made member visible with
        ⟨stored, isStored, isVisible, source⟩
      have accurate := sound.accurate stored isStored isVisible
      have fits : ∀ number ∈ state.numbers, deletion.Takes unicode number →
          number.key unicode = stored.key →
            number.isDeleted = false ∧ (0 < number.useCount → state.Counted unicode number) ∧
              (deletion.hardDelete = true → ∃ other ∈ state.numbers,
                other.isDeleted = false ∧ other.key unicode = stored.key ∧
                  ¬ deletion.Takes unicode other) := by
        intro number inside takes same
        have all := heeds number inside takes stored isStored isVisible same.symm
        rwa [if_pos specified] at all
      rw [@Accurate.behind_deltas unicode state deletion buckets stored accurate
        fun number inside takes same =>
          ⟨(fits number inside takes same).1, (fits number inside takes same).2.1⟩] at source
      rcases source with rfl | ⟨hard, rfl, empty⟩
      · exact ⟨rfl, rfl⟩
      · refine accurate.leftBy ?_
        intro number inside takes _ same
        rcases (fits number inside takes same).2.2 hard with
          ⟨other, isOther, otherVisible, otherKey, stays⟩
        have left : deletion.leaves unicode other = some other := by
          simp [CardDeletion.leaves, stays]
        rw [held, List.countP_eq_zero] at empty
        exact empty other (List.mem_filterMap.mpr ⟨other, isOther, left⟩)
          (decide_eq_true ⟨otherVisible, otherKey⟩)
    · rename_i unspecified
      cases made
      rcases mem_clearedCard member visible with ⟨inside, other⟩
      refine (sound.accurate bucket inside visible).leftBy ?_
      intro number isNumber takes isVisible same
      have card := heeds number isNumber takes bucket inside visible same.symm
      rw [if_neg unspecified] at card
      exact other ⟨by rw [← same]; exact takes.1, card isVisible⟩
  · intro number member visible isOne
    exact sound.once number (mem_filterMap_leaves member visible) visible isOne

end Deletion

theorem Sound.reset (sound : state.Sound unicode) {reset : UsedReset}
    (step : Step unicode state (.resetUsed reset) after)
    (heeds : state.Heeds unicode (.resetUsed reset)) : after.Sound unicode := by
  simp only [Step, next] at step
  split at step
  · rename_i some_
    have agree := heeds some_
    have numbers_ : after.numbers = state.numbers.map fun number =>
        if reset.Takes unicode number then { number with useCount := 0 } else number := by
      cases step
      rfl
    have tasks_ : after.tasks = state.tasks := by
      cases step
      rfl
    have buckets_ : after.buckets = state.buckets.map fun bucket =>
        if reset.TakesBucket unicode bucket then { bucket with usedCount := 0 } else bucket := by
      cases step
      rfl
    have held_ : ∀ key, after.held unicode key = state.held unicode key := by
      intro key
      rw [held, held, numbers_, List.countP_map]
      refine List.countP_congr ?_
      intro number _
      simp only [Function.comp_apply]
      split <;> rfl
    have counted_ : ∀ key, after.counted unicode key = state.numbers.countP fun number =>
        ((number.isDeleted = false ∧ number.key unicode = key) ∧
          state.Counted unicode number) ∧ ¬ reset.Takes unicode number := by
      intro key
      rw [counted, numbers_, List.countP_map]
      refine List.countP_congr ?_
      intro number _
      simp only [Function.comp_apply, decide_eq_true_eq]
      by_cases takes : reset.Takes unicode number
      · simp [takes, Counted]
      · simp [takes, Counted, waits, tasks_]
    constructor
    · intro bucket member visible
      rw [buckets_] at member
      rcases List.mem_map.mp member with ⟨old, isOld, rfl⟩
      have isVisible : old.isDeleted = false := by
        by_cases takes : reset.TakesBucket unicode old
        · rwa [if_pos takes] at visible
        · rwa [if_neg takes] at visible
      have accurate := sound.accurate old isOld isVisible
      by_cases takes : reset.TakesBucket unicode old
      · rw [if_pos takes]
        refine ⟨accurate.1.trans (held_ _).symm, ?_⟩
        rw [counted_, eq_comm, List.countP_eq_zero]
        intro number inside both
        rcases of_decide_eq_true both with ⟨⟨⟨seen, same⟩, isCounted⟩, stays⟩
        exact stays ((agree old isOld isVisible number inside seen same isCounted).mpr takes)
      · rw [if_neg takes]
        refine ⟨accurate.1.trans (held_ _).symm, ?_⟩
        rw [counted_, accurate.2]
        refine List.countP_congr ?_
        intro number inside
        simp only [decide_eq_true_eq]
        constructor
        · rintro ⟨⟨seen, same⟩, isCounted⟩
          refine ⟨⟨⟨seen, same⟩, isCounted⟩, ?_⟩
          intro taken
          exact takes ((agree old isOld isVisible number inside seen same isCounted).mp taken)
        · exact fun both => both.1
    · intro number member
      rw [numbers_] at member
      rcases List.mem_map.mp member with ⟨old, inside, rfl⟩
      intro visible isOne
      rw [waits, tasks_]
      by_cases takes : reset.Takes unicode old
      · rw [if_pos takes] at isOne
        cases isOne
      · rw [if_neg takes] at visible isOne ⊢
        exact sound.once old inside visible isOne
  · cases step
    exact sound

theorem Sound.step (sound : state.Sound unicode) {action : PrivateAction}
    (step : Step unicode state action after) (heeds : state.Heeds unicode action) :
    after.Sound unicode := by
  cases action with
  | upload upload => exact sound.uploaded step heeds
  | purchase accountId bought => exact sound.purchased step heeds
  | send call isPublished => exact sound.sent step heeds
  | syncUsed task outcome => exact sound.synced step heeds
  | delete deletion => exact sound.deleted step heeds
  | resetUsed reset => exact sound.reset step heeds

end PrivateState

/-- In a history whose steps meet the condition the summary is exact whenever no task is
outstanding. -/
theorem private_library_summary_exact (unicode : Unicode) {last : PrivateState}
    {transitions : List (Transition PrivateState PrivateAction)}
    (run : Run (PrivateState.Step unicode) PrivateState.start transitions last)
    (heeds : ∀ transition ∈ transitions, transition.before.Heeds unicode transition.label) :
    (last.tasks = [] → last.Exact unicode) ∧
      ∀ transition ∈ transitions,
        (transition.before.tasks = [] → transition.before.Exact unicode) ∧
          (transition.after.tasks = [] → transition.after.Exact unicode) := by
  have preserved : ∀ before action after,
      Guarded (PrivateState.Step unicode) (PrivateState.Heeds unicode) before action after →
        before.Sound unicode → after.Sound unicode :=
    fun _ _ _ guarded sound => sound.step guarded.1 guarded.2
  have initially : PrivateState.start.Sound unicode :=
    ⟨fun _ member => absurd member List.not_mem_nil, fun _ member => absurd member List.not_mem_nil⟩
  rcases (run.guarded heeds).invariant preserved initially with ⟨atEnd, inside⟩
  refine ⟨atEnd.exact, ?_⟩
  intro transition member
  exact ⟨(inside transition member).1.exact, (inside transition member).2.exact⟩

def oneNumber : PrivateUpload where
  accountId := 7
  countryCode := "CN"
  source := some "otp"
  purpose := some "bc"
  remarks := none
  batchId := "UP-1"
  numbers := ["+8613800138000"]
  carrier _ := none

def toOneNumber : SyncTask where
  accountId := 7
  phoneNumbers := ["+8613800138000"]
  batchId := some "UP-1"

def PrivateState.followed (state : PrivateState) (action : PrivateAction) : PrivateState :=
  (state.next Unicode.ascii action).getD state

theorem PrivateState.step_followed {state : PrivateState} {action : PrivateAction}
    (succeeds : (state.next Unicode.ascii action).isSome = true) :
    PrivateState.Step Unicode.ascii state action (state.followed action) := by
  rcases Option.isSome_iff_exists.mp succeeds with ⟨after, computed⟩
  rw [PrivateState.Step, PrivateState.followed, computed, Option.getD_some]

def uploadedOne : PrivateState :=
  PrivateState.start.followed (.upload oneNumber)

def sentOne : PrivateState :=
  uploadedOne.followed (.send toOneNumber true)

theorem private_library_summary_exact_oneNumber :
    Run (PrivateState.Step Unicode.ascii) PrivateState.start
        [⟨PrivateState.start, .upload oneNumber, uploadedOne⟩,
          ⟨uploadedOne, .send toOneNumber true, sentOne⟩,
          ⟨sentOne, .syncUsed toOneNumber .done,
            sentOne.followed (.syncUsed toOneNumber .done)⟩]
        (sentOne.followed (.syncUsed toOneNumber .done)) ∧
      (sentOne.followed (.syncUsed toOneNumber .done)).Exact Unicode.ascii := by
  have run : Run (PrivateState.Step Unicode.ascii) PrivateState.start
      [⟨PrivateState.start, .upload oneNumber, uploadedOne⟩,
        ⟨uploadedOne, .send toOneNumber true, sentOne⟩,
        ⟨sentOne, .syncUsed toOneNumber .done,
          sentOne.followed (.syncUsed toOneNumber .done)⟩]
      (sentOne.followed (.syncUsed toOneNumber .done)) :=
    .cons (PrivateState.step_followed (by decide))
      (.cons (PrivateState.step_followed (by decide))
        (.cons (PrivateState.step_followed (by decide)) (.nil _)))
  refine ⟨run, (private_library_summary_exact Unicode.ascii run ?_).1 (by decide)⟩
  intro transition member
  simp only [List.mem_cons, List.not_mem_nil, or_false] at member
  rcases member with rfl | rfl | rfl
  · show ∀ row ∈ oneNumber.rows, _ ∧ _
    decide
  · show ∀ number ∈ uploadedOne.numbers, _ → _ → _ ∧ _
    decide
  · exact .inl rfl

/-- A number that is sent to twice before the first task runs is never counted. -/
theorem second_send_never_counted :
    ∃ transitions last,
      Run (PrivateState.Step Unicode.ascii) PrivateState.start transitions last ∧
        last.tasks = [] ∧ ¬ last.Exact Unicode.ascii := by
  have passed : ((execute (PrivateState.next Unicode.ascii) PrivateState.start
      [.upload oneNumber, .send toOneNumber true, .send toOneNumber true,
        .syncUsed toOneNumber .done, .syncUsed toOneNumber .done]).any fun outcome =>
          decide (outcome.2.tasks = [] ∧ ¬ outcome.2.Exact Unicode.ascii)) = true := by
    decide
  rcases Run.exists_of_execute _ passed with ⟨transitions, last, run, checked⟩
  exact ⟨transitions, last, run, of_decide_eq_true checked⟩

end Klsmsc
