import Klsmsc.SubmitResults

/-!
# What the flushes keep

A result leaves a buffer when a flush removes the rows that it has written, and the stream
when it is deleted behind such a flush. Both go wrong in the same way: rows are removed by
their log id, so a later result for the same log goes with the one that was written, although
it is in no snapshot. Moreover the stream drops old entries, and the buffer of a process that
ends is gone. A result is safe as long as none of this hits one that is kept nowhere else.
-/

namespace Klsmsc

open Library

theorem flushed_of_not_mem {ok buffer : List BufferItem} {item : BufferItem}
    (member : item ∈ buffer) (gone : item ∉ removeFlushed ok buffer) :
    item.result.logId ∈ flushedIds ok := by
  by_contra other
  exact gone (List.mem_filter.mpr ⟨member, by simpa using other⟩)

namespace ResultBuffers

variable (state : ResultBuffers)

def Held (result : SubmitResult) : Prop :=
  result ∈ state.applied ∨ (∃ process, ∃ item ∈ state.buffers process, item.result = result) ∨
    ∃ entry ∈ state.wal, entry.call = result.call

def NothingLost : Prop :=
  ∀ result ∈ state.handed, ∃ later ∈ state.handed, later.logId = result.logId ∧
    result.position ≤ later.position ∧ state.Held later

def RemovesTaken (label : ResultLabel) (after : ResultBuffers) : Prop :=
  ∀ index, label = .remove index → ∀ process, ∀ item ∈ state.buffers process,
    item ∉ after.buffers process → item.result.position < (state.threads index).taken

/-- A flush has written, for each result that it removes, this result or a later one for the
same log. An entry that the stream drops is in the table or in a buffer, and a result in the
buffer of a process that ends is in the table or in the stream. -/
def Spares : ResultLabel → Prop
  | .remove index =>
      (state.threads index).attempts = none → ∀ rows ok,
        (state.threads index).stage = .writing rows [] ok → ∀ item ∈ state.bufferOf index,
          item.result.logId ∈ flushedIds ok → ∃ row ∈ ok,
            row.result.logId = item.result.logId ∧ item.result.position ≤ row.result.position
  | .xadd _ stores _ trimmed =>
      stores = true → ∀ entry ∈ state.wal.take trimmed, ∀ result ∈ state.handed,
        result.call = entry.call → result ∈ state.applied ∨
          ∃ process, ∃ item ∈ state.buffers process, item.result = result
  | .shutdown process =>
      ∀ item ∈ state.buffers process, item.result ∈ state.applied ∨
        ∃ entry ∈ state.wal, entry.call = item.result.call
  | .restart process =>
      ∀ item ∈ state.buffers process, item.result ∈ state.applied ∨
        ∃ entry ∈ state.wal, entry.call = item.result.call
  | _ => True

def Names (id call : ℕ) : Prop :=
  id < state.nextWal ∧ ∀ entry ∈ state.wal, entry.id = id → entry.call = call

def ItemSound (item : BufferItem) : Prop :=
  item.result ∈ state.handed ∧ ∀ id, item.walId = some id → state.Names id item.result.call

def EntrySound (entry : WalEntry) : Prop :=
  entry.call < state.callCount ∧ state.Names entry.id entry.call

def RowsSound (taken : ℕ) (rows : List BufferItem) : Prop :=
  ∀ row ∈ rows, state.ItemSound row ∧ row.result.position < taken

def WrittenSound (rows ok : List BufferItem) : Prop :=
  ∀ row ∈ ok, row ∈ rows ∧ row.result ∈ state.applied

def StageSound (taken : ℕ) : ResultStage → Prop
  | .logging call _ => call < state.callCount
  | .appending call _ walId =>
      call < state.callCount ∧ ∀ id, walId = some id → state.Names id call
  | .bulk rows _ => state.RowsSound taken rows
  | .writing rows rest ok =>
      state.RowsSound taken rows ∧ (∀ row ∈ rest, row ∈ rows) ∧ state.WrittenSound rows ok
  | .deleting rows ok => state.RowsSound taken rows ∧ state.WrittenSound rows ok
  | _ => True

structure ThreadSound (thread : ResultThread) : Prop where
  stage : state.StageSound thread.taken thread.stage
  pending : ∀ entry ∈ thread.pending, state.EntrySound entry

structure Sound : Prop where
  unique : ∀ first ∈ state.handed, ∀ second ∈ state.handed, first.call = second.call →
    first = second
  handed : ∀ result ∈ state.handed,
    result.call < state.callCount ∧ result.position < state.handed.length
  items : ∀ process, ∀ item ∈ state.buffers process, state.ItemSound item
  entries : ∀ entry ∈ state.wal, state.EntrySound entry
  applied : ∀ result ∈ state.applied, result ∈ state.handed
  threads : ∀ index, state.ThreadSound (state.threads index)
  kept : state.NothingLost

structure Extends (before after : ResultBuffers) : Prop where
  handed : ∀ result ∈ before.handed, result ∈ after.handed
  callCount : before.callCount ≤ after.callCount
  applied : ∀ result ∈ before.applied, result ∈ after.applied
  names : ∀ id call, before.Names id call → after.Names id call

section

variable {state} {after : ResultBuffers}

theorem Names.of_subset {id call : ℕ} (named : state.Names id call)
    (nextWal : after.nextWal = state.nextWal) (subset : ∀ entry ∈ after.wal, entry ∈ state.wal) :
    after.Names id call :=
  ⟨nextWal ▸ named.1, fun entry member => named.2 entry (subset entry member)⟩

theorem Extends.item (ext : Extends state after) {item : BufferItem}
    (sound : state.ItemSound item) : after.ItemSound item :=
  ⟨ext.handed _ sound.1, fun id isId => ext.names _ _ (sound.2 id isId)⟩

theorem Extends.entry (ext : Extends state after) {entry : WalEntry}
    (sound : state.EntrySound entry) : after.EntrySound entry :=
  ⟨Nat.lt_of_lt_of_le sound.1 ext.callCount, ext.names _ _ sound.2⟩

theorem Extends.rows (ext : Extends state after) {taken : ℕ} {rows : List BufferItem}
    (sound : state.RowsSound taken rows) : after.RowsSound taken rows :=
  fun row member => ⟨ext.item (sound row member).1, (sound row member).2⟩

theorem Extends.written (ext : Extends state after) {rows ok : List BufferItem}
    (sound : state.WrittenSound rows ok) : after.WrittenSound rows ok :=
  fun row member => ⟨(sound row member).1, ext.applied _ (sound row member).2⟩

theorem Extends.stage (ext : Extends state after) {taken : ℕ} {stage : ResultStage}
    (sound : state.StageSound taken stage) : after.StageSound taken stage := by
  cases stage with
  | logging call logId => exact Nat.lt_of_lt_of_le sound ext.callCount
  | appending call logId walId =>
      exact ⟨Nat.lt_of_lt_of_le sound.1 ext.callCount,
        fun id isId => ext.names _ _ (sound.2 id isId)⟩
  | waiting => trivial
  | bulk rows isRetry => exact ext.rows sound
  | writing rows rest ok => exact ⟨ext.rows sound.1, sound.2.1, ext.written sound.2.2⟩
  | deleting rows ok => exact ⟨ext.rows sound.1, ext.written sound.2⟩
  | ended => trivial

theorem Extends.thread (ext : Extends state after) {thread : ResultThread}
    (sound : state.ThreadSound thread) : after.ThreadSound thread :=
  ⟨ext.stage sound.stage, fun entry member => ext.entry (sound.pending entry member)⟩

theorem Extends.of_eq (handed : after.handed = state.handed)
    (callCount : after.callCount = state.callCount) (applied : after.applied = state.applied)
    (nextWal : after.nextWal = state.nextWal) (wal : after.wal = state.wal) :
    Extends state after where
  handed := by rw [handed]; exact fun _ member => member
  callCount := Nat.le_of_eq callCount.symm
  applied := by rw [applied]; exact fun _ member => member
  names := fun id call named => named.of_subset nextWal (by rw [wal]; exact fun _ member => member)

theorem ThreadSound.ended {thread : ResultThread} (sound : state.ThreadSound thread) :
    state.ThreadSound { thread with stage := .ended } :=
  ⟨trivial, sound.pending⟩

theorem NothingLost.step (kept : state.NothingLost) (handed : after.handed = state.handed)
    (held : ∀ result ∈ state.handed, state.Held result → ∃ later ∈ state.handed,
      later.logId = result.logId ∧ result.position ≤ later.position ∧ after.Held later) :
    after.NothingLost := by
  unfold NothingLost
  rw [handed]
  intro result member
  rcases kept result member with ⟨later, inHanded, sameLog, isLater, isHeld⟩
  rcases held later inHanded isHeld with ⟨last, inHanded', sameLog', isLater', isHeld'⟩
  exact ⟨last, inHanded', sameLog'.trans sameLog, Nat.le_trans isLater isLater', isHeld'⟩

theorem NothingLost.mono (kept : state.NothingLost) (handed : after.handed = state.handed)
    (held : ∀ result, state.Held result → after.Held result) : after.NothingLost :=
  kept.step handed fun result member isHeld =>
    ⟨result, member, rfl, Nat.le_refl _, held result isHeld⟩

end

namespace Sound

variable {state after : ResultBuffers} {index : ℕ}

theorem initial : initial.Sound where
  unique := fun _ member => by cases member
  handed := fun _ member => by cases member
  items := fun _ _ member => by cases member
  entries := fun _ member => by cases member
  applied := fun _ member => by cases member
  threads := fun _ => ⟨trivial, fun _ member => by cases member⟩
  kept := fun _ member => by cases member

theorem step (inv : state.Sound) (ext : Extends state after)
    (handed : after.handed = state.handed)
    (items : ∀ process, ∀ item ∈ after.buffers process, ∃ process, item ∈ state.buffers process)
    (entries : ∀ entry ∈ after.wal, entry ∈ state.wal)
    (applied : ∀ result ∈ after.applied, result ∈ state.handed)
    (threads : ∀ index, after.ThreadSound (after.threads index)) (kept : after.NothingLost) :
    after.Sound where
  unique := by rw [handed]; exact inv.unique
  handed := by
    rw [handed]
    intro result member
    rcases inv.handed result member with ⟨call, position⟩
    exact ⟨Nat.lt_of_lt_of_le call ext.callCount, position⟩
  items := by
    intro process item member
    rcases items process item member with ⟨before, inBefore⟩
    exact ext.item (inv.items before item inBefore)
  entries := fun entry member => ext.entry (inv.entries entry (entries entry member))
  applied := by rw [handed]; exact applied
  threads := threads
  kept := kept

theorem threads_update (inv : state.Sound) (ext : Extends state after) {thread : ResultThread}
    (threads : after.threads = Function.update state.threads index thread)
    (sound : after.ThreadSound thread) : ∀ other, after.ThreadSound (after.threads other) := by
  intro other
  rw [threads]
  by_cases isIndex : other = index
  · subst other
    rwa [Function.update_self]
  · rw [Function.update_of_ne isIndex]
    exact ext.thread (inv.threads other)

theorem setThread (inv : state.Sound) {thread : ResultThread}
    (sound : state.ThreadSound thread) : (state.setThread index thread).Sound := by
  have ext : Extends state (state.setThread index thread) := .of_eq rfl rfl rfl rfl rfl
  exact inv.step ext rfl (fun process _ member => ⟨process, member⟩) (fun _ member => member)
    inv.applied (inv.threads_update ext rfl (ext.thread sound))
    (inv.kept.mono rfl fun _ isHeld => isHeld)

theorem setStage (inv : state.Sound) {stage : ResultStage}
    (sound : state.StageSound (state.threads index).taken stage) :
    (state.setStage index stage).Sound :=
  inv.setThread ⟨sound, (inv.threads index).pending⟩

theorem ended (inv : state.Sound) : (state.setStage index .ended).Sound :=
  inv.setStage trivial

theorem setTimer (inv : state.Sound) (process : ℕ) (timer : Option ℕ) :
    (state.setTimer process timer).Sound := by
  have ext : Extends state (state.setTimer process timer) := .of_eq rfl rfl rfl rfl rfl
  exact inv.step ext rfl (fun process _ member => ⟨process, member⟩) (fun _ member => member)
    inv.applied (fun other => ext.thread (inv.threads other))
    (inv.kept.mono rfl fun _ isHeld => isHeld)

theorem spawn (inv : state.Sound) {thread : ResultThread} (sound : state.ThreadSound thread) :
    (state.spawn thread).Sound := by
  have ext : Extends state (state.spawn thread) := .of_eq rfl rfl rfl rfl rfl
  exact inv.step ext rfl (fun process _ member => ⟨process, member⟩) (fun _ member => member)
    inv.applied (inv.threads_update ext rfl (ext.thread sound))
    (inv.kept.mono rfl fun _ isHeld => isHeld)

theorem enqueue (inv : state.Sound) (process logId : ℕ) :
    (state.enqueue process logId).Sound := by
  have ext : Extends state (state.enqueue process logId) :=
    ⟨fun _ member => member, Nat.le_succ _, fun _ member => member,
      fun _ _ named => named.of_subset rfl fun _ member => member⟩
  refine inv.step ext rfl (fun process _ member => ⟨process, member⟩) (fun _ member => member)
    inv.applied (inv.threads_update ext rfl ?_) (inv.kept.mono rfl fun _ isHeld => isHeld)
  exact ⟨Nat.lt_succ_self _, fun _ member => by cases member⟩

theorem rows_of_buffer (inv : state.Sound) (process : ℕ) :
    state.RowsSound state.handed.length (state.buffers process) := by
  intro row member
  have sound := inv.items process row member
  exact ⟨sound, (inv.handed row.result sound.1).2⟩

theorem fire (inv : state.Sound) : (state.fire index).Sound := by
  refine (inv.setTimer (state.threads index).process none).setThread
    ⟨?_, (inv.threads index).pending⟩
  by_cases isEmpty : state.bufferOf index = []
  · simp only [isEmpty, if_true]
    trivial
  · simp only [isEmpty, if_false]
    exact inv.rows_of_buffer _

theorem commit (inv : state.Sound) {rows : List BufferItem} {taken : ℕ}
    (sound : state.RowsSound taken rows) (commits : Bool) :
    ({ state with
      applied := if commits then state.applied ++ rows.map BufferItem.result
        else state.applied } : ResultBuffers).Sound := by
  cases commits with
  | false => exact inv
  | true =>
      have ext : Extends state
          { state with applied := state.applied ++ rows.map BufferItem.result } :=
        ⟨fun _ member => member, Nat.le_refl _, fun _ member => List.mem_append_left _ member,
          fun _ _ named => named.of_subset rfl fun _ member => member⟩
      refine inv.step ext rfl (fun process _ member => ⟨process, member⟩) (fun _ member => member)
        ?_ (fun other => ext.thread (inv.threads other)) (inv.kept.mono rfl ?_)
      · intro result member
        rcases List.mem_append.mp member with before | written
        · exact inv.applied result before
        · rcases List.mem_map.mp written with ⟨row, inRows, rfl⟩
          exact (sound row inRows).1.1
      · intro result isHeld
        rcases isHeld with before | elsewhere
        · exact Or.inl (List.mem_append_left _ before)
        · exact Or.inr elsewhere

theorem bulk (inv : state.Sound) {rows : List BufferItem} {isRetry commits : Bool}
    {outcome : BulkOutcome} (isBulk : (state.threads index).stage = .bulk rows isRetry)
    (committed : outcome = .ok → commits = true) :
    (state.bulk index rows isRetry commits outcome).Sound := by
  have sound : state.RowsSound (state.threads index).taken rows := by
    have stage := (inv.threads index).stage
    rwa [isBulk] at stage
  have written := inv.commit sound commits
  have ext : Extends state
      { state with
        applied := if commits then state.applied ++ rows.map BufferItem.result
          else state.applied } := by
    refine ⟨fun _ member => member, Nat.le_refl _, fun result member => ?_,
      fun _ _ named => named.of_subset rfl fun _ member => member⟩
    cases commits with
    | false => exact member
    | true => exact List.mem_append_left _ member
  refine written.setStage ?_
  have none : WrittenSound
      { state with
        applied := if commits then state.applied ++ rows.map BufferItem.result
          else state.applied } rows [] := fun _ member => by cases member
  cases outcome with
  | ok =>
      refine ⟨ext.rows sound, fun _ member => (by cases member), fun row member => ⟨member, ?_⟩⟩
      simp only [committed rfl, if_true]
      exact List.mem_append_right _ (List.mem_map_of_mem member)
  | deadlock =>
      cases isRetry with
      | true => exact ⟨ext.rows sound, fun _ member => member, none⟩
      | false => exact ext.rows sound
  | failed => exact ⟨ext.rows sound, fun _ member => member, none⟩

theorem row (inv : state.Sound) {rows rest ok : List BufferItem} {row : BufferItem}
    {commits answers : Bool}
    (isWriting : (state.threads index).stage = .writing rows (row :: rest) ok)
    (committed : answers = true → commits = true) :
    (state.row index rows row rest ok commits answers).Sound := by
  have stage : state.StageSound (state.threads index).taken (.writing rows (row :: rest) ok) := by
    rw [← isWriting]
    exact (inv.threads index).stage
  rcases stage with ⟨sound, inRows, writtenOk⟩
  have isRow : row ∈ rows := inRows row List.mem_cons_self
  have others : ∀ other ∈ rest, other ∈ rows :=
    fun other member => inRows other (List.mem_cons_of_mem _ member)
  unfold ResultBuffers.row
  split
  · exact inv.setStage ⟨sound, others, writtenOk⟩
  · have alone : state.RowsSound (state.threads index).taken [row] := by
      intro other member
      rw [List.mem_singleton.mp member]
      exact sound row isRow
    have applied : ∀ result ∈ state.applied,
        result ∈ (if commits then state.applied ++ [row.result] else state.applied) := by
      intro result member
      cases commits with
      | false => exact member
      | true => exact List.mem_append_left _ member
    have ext : Extends state
        { state with
          applied := if commits then state.applied ++ [row.result] else state.applied } :=
      ⟨fun _ member => member, Nat.le_refl _, applied,
        fun _ _ named => named.of_subset rfl fun _ member => member⟩
    refine (inv.commit alone commits).setStage ⟨ext.rows sound, others, ?_⟩
    intro other member
    cases answers with
    | false => exact ⟨(writtenOk other member).1, applied _ (writtenOk other member).2⟩
    | true =>
        rcases List.mem_append.mp member with before | isLast
        · exact ⟨(writtenOk other before).1, applied _ (writtenOk other before).2⟩
        · rw [List.mem_singleton.mp isLast]
          refine ⟨isRow, ?_⟩
          simp only [committed rfl, if_true]
          exact List.mem_append_right _ (List.mem_singleton.mpr rfl)

theorem setBuffer (inv : state.Sound) {process : ℕ} {buffer : List BufferItem}
    (subset : ∀ item ∈ buffer, item ∈ state.buffers process)
    (safe : ∀ item ∈ state.buffers process, item ∉ buffer → ∃ later ∈ state.handed,
      later.logId = item.result.logId ∧ item.result.position ≤ later.position ∧
        (state.setBuffer process buffer).Held later) :
    (state.setBuffer process buffer).Sound := by
  have ext : Extends state (state.setBuffer process buffer) := .of_eq rfl rfl rfl rfl rfl
  refine inv.step ext rfl ?_ (fun _ member => member) inv.applied
    (fun other => ext.thread (inv.threads other)) (inv.kept.step rfl ?_)
  · intro other item member
    by_cases isProcess : other = process
    · subst other
      simp only [ResultBuffers.setBuffer, Function.update_self] at member
      exact ⟨process, subset item member⟩
    · simp only [ResultBuffers.setBuffer, Function.update_of_ne isProcess] at member
      exact ⟨other, member⟩
  · intro result inHanded isHeld
    rcases isHeld with applied | ⟨other, item, member, rfl⟩ | inWal
    · exact ⟨result, inHanded, rfl, Nat.le_refl _, Or.inl applied⟩
    · by_cases isProcess : other = process
      · subst other
        by_cases stays : item ∈ buffer
        · refine ⟨item.result, inHanded, rfl, Nat.le_refl _, Or.inr (Or.inl ⟨process, item, ?_, rfl⟩)⟩
          simpa only [ResultBuffers.setBuffer, Function.update_self] using stays
        · exact safe item member stays
      · refine ⟨item.result, inHanded, rfl, Nat.le_refl _, Or.inr (Or.inl ⟨other, item, ?_, rfl⟩)⟩
        simpa only [ResultBuffers.setBuffer, Function.update_of_ne isProcess] using member
    · exact ⟨result, inHanded, rfl, Nat.le_refl _, Or.inr (Or.inr inWal)⟩

theorem remove (inv : state.Sound) {rows ok : List BufferItem}
    (isWriting : (state.threads index).stage = .writing rows [] ok)
    (spares : ∀ item ∈ state.bufferOf index, item.result.logId ∈ flushedIds ok → ∃ row ∈ ok,
      row.result.logId = item.result.logId ∧ item.result.position ≤ row.result.position) :
    ((state.setBuffer (state.threads index).process
      (removeFlushed ok (state.bufferOf index))).setStage index (.deleting rows ok)).Sound := by
  have stage : state.StageSound (state.threads index).taken (.writing rows [] ok) := by
    rw [← isWriting]
    exact (inv.threads index).stage
  rcases stage with ⟨sound, _, written⟩
  have removed : (state.setBuffer (state.threads index).process
      (removeFlushed ok (state.bufferOf index))).Sound := by
    refine inv.setBuffer (fun item member => (List.mem_filter.mp member).1) ?_
    intro item member gone
    have flushed := flushed_of_not_mem member gone
    rcases spares item member flushed with ⟨row, inOk, sameLog, isLater⟩
    have applied := (written row inOk).2
    exact ⟨row.result, inv.applied _ applied, sameLog, isLater, Or.inl applied⟩
  have ext : Extends state (state.setBuffer (state.threads index).process
      (removeFlushed ok (state.bufferOf index))) := .of_eq rfl rfl rfl rfl rfl
  exact removed.setStage ⟨ext.rows sound, ext.written written⟩

theorem dropEntries (inv : state.Sound) {wal : List WalEntry}
    (subset : ∀ entry ∈ wal, entry ∈ state.wal)
    (safe : ∀ entry ∈ state.wal, entry ∉ wal → ∀ result ∈ state.handed,
      result.call = entry.call → result ∈ state.applied ∨
        ∃ process, ∃ item ∈ state.buffers process, item.result = result) :
    ({ state with wal := wal } : ResultBuffers).Sound := by
  have ext : Extends state { state with wal := wal } :=
    ⟨fun _ member => member, Nat.le_refl _, fun _ member => member,
      fun _ _ named => named.of_subset rfl subset⟩
  refine inv.step ext rfl (fun process _ member => ⟨process, member⟩) subset inv.applied
    (fun other => ext.thread (inv.threads other)) (inv.kept.step rfl ?_)
  intro result inHanded isHeld
  refine ⟨result, inHanded, rfl, Nat.le_refl _, ?_⟩
  rcases isHeld with applied | buffered | ⟨entry, member, isCall⟩
  · exact Or.inl applied
  · exact Or.inr (Or.inl buffered)
  · by_cases stays : entry ∈ wal
    · exact Or.inr (Or.inr ⟨entry, stays, isCall⟩)
    · rcases safe entry member stays result inHanded isCall.symm with applied | buffered
      · exact Or.inl applied
      · exact Or.inr (Or.inl buffered)

theorem finish (inv : state.Sound) {rows ok : List BufferItem}
    (isDeleting : (state.threads index).stage = .deleting rows ok) :
    (state.finish index rows ok).Sound := by
  have stage : state.StageSound (state.threads index).taken (.deleting rows ok) := by
    rw [← isDeleting]
    exact (inv.threads index).stage
  unfold ResultBuffers.finish
  simp only
  split
  · split
    · exact inv.ended
    · refine inv.setThread ⟨?_, (inv.threads index).pending⟩
      exact fun row member => stage.1 row (List.mem_filter.mp member).1
  · exact inv.ended

theorem delete (inv : state.Sound) {rows ok : List BufferItem} (reaches : Bool)
    (isDeleting : (state.threads index).stage = .deleting rows ok) :
    ({ state.finish index rows ok with
      wal := if reaches then xdelResults ok state.wal else state.wal } : ResultBuffers).Sound := by
  have stage : state.StageSound (state.threads index).taken (.deleting rows ok) := by
    rw [← isDeleting]
    exact (inv.threads index).stage
  have deleted : ({ state with
      wal := if reaches then xdelResults ok state.wal else state.wal } : ResultBuffers).Sound := by
    cases reaches with
    | false => exact inv
    | true =>
        refine inv.dropEntries (fun entry member => (List.mem_filter.mp member).1) ?_
        intro entry member gone result inHanded isCall
        have written : some entry.id ∈ ok.map BufferItem.walId := by
          by_contra other
          exact gone (List.mem_filter.mpr ⟨member, by simpa using other⟩)
        rcases List.mem_map.mp written with ⟨row, inOk, isId⟩
        have inRows := (stage.2 row inOk).1
        have applied := (stage.2 row inOk).2
        have isRow : entry.call = row.result.call :=
          ((stage.1 row inRows).1.2 entry.id isId).2 entry member rfl
        rw [inv.unique result inHanded row.result (inv.applied _ applied) (isCall.trans isRow)]
        exact Or.inl applied
  have commutes : ({ state.finish index rows ok with
      wal := if reaches then xdelResults ok state.wal else state.wal } : ResultBuffers) =
      ({ state with
        wal := if reaches then xdelResults ok state.wal else state.wal } : ResultBuffers).finish
          index rows ok := by
    unfold ResultBuffers.finish
    simp only
    split
    · split <;> rfl
    · rfl
  rw [commutes]
  exact deleted.finish isDeleting

theorem addEntry (inv : state.Sound) {call : ℕ} (logId : ℕ) (known : call < state.callCount) :
    let after : ResultBuffers :=
      { state with
        wal := state.wal ++ [⟨state.nextWal, call, logId⟩]
        nextWal := state.nextWal + 1 }
    after.Sound ∧ Extends state after ∧ after.Names state.nextWal call := by
  intro after
  have names : ∀ id call, state.Names id call → after.Names id call := by
    intro id other named
    refine ⟨Nat.lt_succ_of_lt named.1, ?_⟩
    intro entry member isId
    rcases List.mem_append.mp member with before | new
    · exact named.2 entry before isId
    · rw [List.mem_singleton.mp new] at isId
      exact absurd isId.symm (Nat.ne_of_lt named.1)
  have own : after.Names state.nextWal call := by
    refine ⟨Nat.lt_succ_self _, ?_⟩
    intro entry member isId
    rcases List.mem_append.mp member with before | new
    · exact absurd isId (Nat.ne_of_lt (inv.entries entry before).2.1)
    · rw [List.mem_singleton.mp new]
  have ext : Extends state after :=
    ⟨fun _ member => member, Nat.le_refl _, fun _ member => member, names⟩
  refine ⟨⟨inv.unique, inv.handed, ?_, ?_, inv.applied, ?_, ?_⟩, ext, own⟩
  · exact fun process item member => ext.item (inv.items process item member)
  · intro entry member
    rcases List.mem_append.mp member with before | new
    · exact ext.entry (inv.entries entry before)
    · rw [List.mem_singleton.mp new]
      exact ⟨known, own⟩
  · exact fun other => ext.thread (inv.threads other)
  · refine inv.kept.mono rfl ?_
    intro result isHeld
    rcases isHeld with applied | buffered | ⟨entry, member, isCall⟩
    · exact Or.inl applied
    · exact Or.inr (Or.inl buffered)
    · exact Or.inr (Or.inr ⟨entry, List.mem_append_left _ member, isCall⟩)

theorem xadd (inv : state.Sound) {call logId : ℕ} {stores answers : Bool} {trimmed : ℕ}
    (isLogging : (state.threads index).stage = .logging call logId)
    (stored : answers = true → stores = true)
    (spares : stores = true → ∀ entry ∈ state.wal.take trimmed, ∀ result ∈ state.handed,
      result.call = entry.call → result ∈ state.applied ∨
        ∃ process, ∃ item ∈ state.buffers process, item.result = result) :
    (state.xadd index call logId stores answers trimmed).Sound := by
  have known : call < state.callCount := by
    have stage := (inv.threads index).stage
    rwa [isLogging] at stage
  unfold ResultBuffers.xadd
  simp only
  split
  · rename_i isStored
    have dropped : ({ state with wal := state.wal.drop trimmed } : ResultBuffers).Sound := by
      refine inv.dropEntries (fun entry member => List.mem_of_mem_drop member) ?_
      intro entry member gone
      refine spares isStored entry ?_
      rw [← List.take_append_drop trimmed state.wal] at member
      exact (List.mem_append.mp member).resolve_right gone
    rcases dropped.addEntry logId known with ⟨added, _, own⟩
    refine added.setStage ⟨known, ?_⟩
    intro id isId
    cases answers with
    | false => cases isId
    | true =>
        cases isId
        exact own
  · rename_i isLost
    refine inv.setStage ⟨known, ?_⟩
    intro id isId
    cases answers with
    | false => cases isId
    | true => exact absurd (stored rfl) isLost

theorem handed_cases (state : ResultBuffers) (call logId : ℕ) :
    (state.resultOf call logId ∈ state.handed ∧ (state.resultOf call logId).call = call ∧
        state.handedWith call logId = state.handed) ∨
      ((∀ result ∈ state.handed, result.call ≠ call) ∧
        state.resultOf call logId = ⟨call, logId, state.handed.length⟩ ∧
        state.handedWith call logId =
          state.handed ++ [⟨call, logId, state.handed.length⟩]) := by
  cases found : state.handed.find? fun result => result.call = call with
  | none =>
      right
      have absent : ∀ result ∈ state.handed, result.call ≠ call := by simpa using found
      refine ⟨absent, by simp [resultOf, found], ?_⟩
      have none : (state.handed.any fun result => decide (result.call = call)) = false := by
        simpa using absent
      simp [handedWith, none]
  | some result =>
      left
      have isCall : result.call = call := by simpa using List.find?_some found
      have member := List.mem_of_find?_eq_some found
      have isResult : state.resultOf call logId = result := by simp [resultOf, found]
      have any : (state.handed.any fun result => decide (result.call = call)) = true :=
        List.any_eq_true.mpr ⟨result, member, by simpa using isCall⟩
      rw [isResult]
      exact ⟨member, isCall, by simp [handedWith, any]⟩

theorem call_resultOf (state : ResultBuffers) (call logId : ℕ) :
    (state.resultOf call logId).call = call := by
  rcases handed_cases state call logId with ⟨_, same, _⟩ | ⟨_, new, _⟩
  · exact same
  · rw [new]

theorem resultOf_mem_handedWith (state : ResultBuffers) (call logId : ℕ) :
    state.resultOf call logId ∈ state.handedWith call logId := by
  rcases handed_cases state call logId with ⟨member, _, same⟩ | ⟨_, new, added⟩
  · rwa [same]
  · rw [new, added]
    exact List.mem_append_right _ (List.mem_singleton.mpr rfl)

theorem mem_handedWith {call logId : ℕ} {result : SubmitResult} :
    result ∈ state.handedWith call logId ↔
      result ∈ state.handed ∨ result = state.resultOf call logId := by
  rcases handed_cases state call logId with ⟨member, _, same⟩ | ⟨_, new, added⟩
  · rw [same]
    constructor
    · exact Or.inl
    · rintro (before | rfl)
      · exact before
      · exact member
  · rw [added, new, List.mem_append, List.mem_singleton]

theorem unique_handedWith (inv : state.Sound) (call logId : ℕ) :
    ∀ first ∈ state.handedWith call logId, ∀ second ∈ state.handedWith call logId,
      first.call = second.call → first = second := by
  intro first inFirst second inSecond same
  rcases handed_cases state call logId with ⟨_, _, unchanged⟩ | ⟨absent, _, _⟩
  · rw [unchanged] at inFirst inSecond
    exact inv.unique first inFirst second inSecond same
  · rcases mem_handedWith.mp inFirst with oldFirst | rfl
    · rcases mem_handedWith.mp inSecond with oldSecond | rfl
      · exact inv.unique first oldFirst second oldSecond same
      · rw [call_resultOf] at same
        exact absurd same (absent first oldFirst)
    · rcases mem_handedWith.mp inSecond with oldSecond | rfl
      · rw [call_resultOf] at same
        exact absurd same.symm (absent second oldSecond)
      · rfl

theorem bounds_handedWith (inv : state.Sound) {call logId : ℕ} (known : call < state.callCount) :
    ∀ result ∈ state.handedWith call logId, result.call < state.callCount ∧
      result.position < (state.handedWith call logId).length := by
  intro result member
  rcases handed_cases state call logId with ⟨_, _, unchanged⟩ | ⟨_, new, added⟩
  · rw [unchanged] at member ⊢
    exact inv.handed result member
  · rcases mem_handedWith.mp member with old | rfl
    · have bounds := inv.handed result old
      rw [added, List.length_append]
      exact ⟨bounds.1, Nat.lt_of_lt_of_le bounds.2 (Nat.le_add_right _ _)⟩
    · rw [added, new, List.length_append]
      exact ⟨known, Nat.lt_succ_self _⟩

theorem mem_buffers_pushResult {process other call logId : ℕ} {walId : Option ℕ}
    {item : BufferItem} :
    item ∈ (state.pushResult process call logId walId).buffers other ↔
      item ∈ state.buffers other ∨
        other = process ∧ item = ⟨state.resultOf call logId, walId⟩ := by
  by_cases isProcess : other = process
  · subst other
    simp [ResultBuffers.pushResult, ResultBuffers.setBuffer]
  · simp [ResultBuffers.pushResult, ResultBuffers.setBuffer, isProcess]

theorem held_pushResult {process call logId : ℕ} {walId : Option ℕ} {result : SubmitResult}
    (held : state.Held result) : (state.pushResult process call logId walId).Held result := by
  rcases held with applied | ⟨other, item, member, same⟩ | inWal
  · exact Or.inl applied
  · exact Or.inr (Or.inl ⟨other, item, mem_buffers_pushResult.mpr (Or.inl member), same⟩)
  · exact Or.inr (Or.inr inWal)

theorem pushResult (inv : state.Sound) {process call : ℕ} (logId : ℕ) {walId : Option ℕ}
    (known : call < state.callCount) (named : ∀ id, walId = some id → state.Names id call) :
    (state.pushResult process call logId walId).Sound ∧
      Extends state (state.pushResult process call logId walId) := by
  have inAfter := resultOf_mem_handedWith state call logId
  have subset : ∀ result ∈ state.handed, result ∈ state.handedWith call logId :=
    fun result member => mem_handedWith.mpr (Or.inl member)
  have ext : Extends state (state.pushResult process call logId walId) :=
    ⟨subset, Nat.le_refl _, fun _ member => member,
      fun _ _ before => before.of_subset rfl fun _ member => member⟩
  have isHeld : (state.pushResult process call logId walId).Held
      (state.resultOf call logId) := by
    refine Or.inr (Or.inl ⟨process, ⟨state.resultOf call logId, walId⟩, ?_, rfl⟩)
    exact mem_buffers_pushResult.mpr (Or.inr ⟨rfl, rfl⟩)
  refine ⟨⟨inv.unique_handedWith call logId, inv.bounds_handedWith known, ?_, ?_, ?_, ?_, ?_⟩, ext⟩
  · intro other item member
    rcases mem_buffers_pushResult.mp member with old | ⟨-, rfl⟩
    · exact ext.item (inv.items other item old)
    · refine ⟨inAfter, fun id isId => ?_⟩
      rw [call_resultOf]
      exact ext.names id call (named id isId)
  · exact fun entry member => ext.entry (inv.entries entry member)
  · exact fun result member => subset result (inv.applied result member)
  · exact fun other => ext.thread (inv.threads other)
  · intro result member
    rcases mem_handedWith.mp member with old | rfl
    · rcases inv.kept result old with ⟨later, inHanded, sameLog, isLater, held⟩
      exact ⟨later, subset later inHanded, sameLog, isLater, held_pushResult held⟩
    · exact ⟨_, inAfter, rfl, Nat.le_refl _, isHeld⟩

theorem cancelTimer (inv : state.Sound) (timer : Option ℕ) :
    (state.cancelTimer timer).Sound ∧ Extends state (state.cancelTimer timer) := by
  cases timer with
  | none => exact ⟨inv, .of_eq rfl rfl rfl rfl rfl⟩
  | some timer =>
      simp only [ResultBuffers.cancelTimer]
      split
      · exact ⟨inv.ended, .of_eq rfl rfl rfl rfl rfl⟩
      · exact ⟨inv, .of_eq rfl rfl rfl rfl rfl⟩

theorem append (inv : state.Sound) {call logId : ℕ} {walId : Option ℕ}
    (isAppending : (state.threads index).stage = .appending call logId walId) :
    (state.append index call logId walId).Sound := by
  have stage : state.StageSound (state.threads index).taken (.appending call logId walId) := by
    rw [← isAppending]
    exact (inv.threads index).stage
  have pushing : (state.pushResult (state.threads index).process call logId walId).Sound ∧
      Extends state (state.pushResult (state.threads index).process call logId walId) :=
    inv.pushResult logId stage.1 stage.2
  rcases pushing with ⟨pushed, ext⟩
  unfold ResultBuffers.append
  simp only
  split
  · rcases pushed.cancelTimer (state.timers (state.threads index).process) with
      ⟨cancelled, ext'⟩
    refine (cancelled.setTimer (state.threads index).process none).setThread ⟨?_, ?_⟩
    · intro row member
      have sound := pushed.rows_of_buffer _ row (List.mem_of_mem_take member)
      exact ⟨ext'.item sound.1, sound.2⟩
    · exact fun entry member => ext'.entry (ext.entry ((inv.threads index).pending entry member))
  · split
    · refine (pushed.ended.spawn ?_).setTimer _ _
      exact ⟨trivial, fun _ member => by cases member⟩
    · exact pushed.ended

theorem replay (inv : state.Sound) (process : ℕ) :
    (state.spawn ⟨process, .ended, state.wal.take replayCount, 0, none⟩).Sound :=
  inv.spawn ⟨trivial, fun entry member => inv.entries entry (List.mem_of_mem_take member)⟩

theorem replayNext (inv : state.Sound) {entry : WalEntry} {rest : List WalEntry}
    (pending : (state.threads index).pending = entry :: rest) :
    (state.setThread index
      { state.threads index with
        stage := .appending entry.call entry.logId (some entry.id)
        pending := rest
        attempts := none }).Sound := by
  have entries : ∀ other ∈ entry :: rest, state.EntrySound other := by
    rw [← pending]
    exact (inv.threads index).pending
  have own := entries entry List.mem_cons_self
  refine inv.setThread ⟨⟨own.1, ?_⟩, fun other member => entries other (List.mem_cons_of_mem _ member)⟩
  intro id isId
  cases isId
  exact own.2

theorem clear (inv : state.Sound) {process : ℕ}
    (spares : ∀ item ∈ state.buffers process, item.result ∈ state.applied ∨
      ∃ entry ∈ state.wal, entry.call = item.result.call) :
    (state.setBuffer process []).Sound := by
  refine inv.setBuffer (fun item member => by cases member) ?_
  intro item member _
  refine ⟨item.result, (inv.items process item member).1, rfl, Nat.le_refl _, ?_⟩
  rcases spares item member with applied | inWal
  · exact Or.inl applied
  · exact Or.inr (Or.inr inWal)

theorem shutdown (inv : state.Sound) {process : ℕ}
    (spares : ∀ item ∈ state.buffers process, item.result ∈ state.applied ∨
      ∃ entry ∈ state.wal, entry.call = item.result.call) :
    ((state.setBuffer process []).spawn
      { process := process
        stage := if state.buffers process = [] then .ended
          else .bulk (state.buffers process) false
        pending := []
        taken := state.handed.length
        attempts := some shutdownRetries }).Sound := by
  have ext : Extends state (state.setBuffer process []) := .of_eq rfl rfl rfl rfl rfl
  refine (inv.clear spares).spawn ⟨?_, fun _ member => by cases member⟩
  by_cases isEmpty : state.buffers process = []
  · simp only [isEmpty, if_true]
    trivial
  · simp only [isEmpty, if_false]
    exact ext.rows (inv.rows_of_buffer process)

theorem restart (inv : state.Sound) {process : ℕ}
    (spares : ∀ item ∈ state.buffers process, item.result ∈ state.applied ∨
      ∃ entry ∈ state.wal, entry.call = item.result.call) :
    ({ (state.setBuffer process []).setTimer process none with
      threads := fun index =>
        if (state.threads index).process = process then .done process
        else state.threads index } : ResultBuffers).Sound := by
  have cleared := (inv.clear spares).setTimer process none
  have ext : Extends ((state.setBuffer process []).setTimer process none)
      { (state.setBuffer process []).setTimer process none with
        threads := fun index =>
          if (state.threads index).process = process then .done process
          else state.threads index } := .of_eq rfl rfl rfl rfl rfl
  refine cleared.step ext rfl (fun process _ member => ⟨process, member⟩)
    (fun _ member => member) cleared.applied ?_ (cleared.kept.mono rfl fun _ isHeld => isHeld)
  intro index
  simp only
  split
  · exact ⟨trivial, fun _ member => by cases member⟩
  · exact ext.thread (cleared.threads index)

theorem next {label : ResultLabel} (inv : state.Sound) (step : state.next label = some after)
    (spares : state.Spares label) : after.Sound := by
  cases performs_of_next step with
  | enqueue process logId => exact inv.enqueue process logId
  | xadd logging stored => exact inv.xadd logging stored spares
  | append appending => exact inv.append appending
  | fire => exact inv.fire
  | bulk isBulk committed => exact inv.bulk isBulk committed
  | row writing committed => exact inv.row writing committed
  | remove writing isFlush => exact inv.remove writing (spares isFlush _ _ writing)
  | @removeNothing index rows ok writing =>
      have stage : state.StageSound (state.threads index).taken (.writing rows [] ok) := by
        rw [← writing]
        exact (inv.threads index).stage
      exact inv.setStage ⟨stage.1, stage.2.2⟩
  | delete deleting => exact inv.delete _ deleting
  | abort => exact inv.ended
  | replay process => exact inv.replay process
  | replayNext _ pending => exact inv.replayNext pending
  | shutdown => exact inv.shutdown spares
  | restart => exact inv.restart spares

theorem removesTaken {label : ResultLabel} (inv : state.Sound)
    (step : state.next label = some after) (spares : state.Spares label) :
    state.RemovesTaken label after := by
  rintro index rfl process item member gone
  cases performs_of_next step with
  | @remove _ rows ok writing isFlush =>
      have stage : state.StageSound (state.threads index).taken (.writing rows [] ok) := by
        rw [← writing]
        exact (inv.threads index).stage
      by_cases isProcess : process = (state.threads index).process
      · subst isProcess
        simp only [ResultBuffers.setStage, ResultBuffers.setThread, ResultBuffers.setBuffer,
          Function.update_self] at gone
        have flushed := flushed_of_not_mem member gone
        rcases spares isFlush rows ok writing item member flushed with ⟨row, inOk, _, isLater⟩
        exact Nat.lt_of_le_of_lt isLater (stage.1 row (stage.2.2 row inOk).1).2
      · refine absurd ?_ gone
        simpa only [ResultBuffers.setStage, ResultBuffers.setThread, ResultBuffers.setBuffer,
          Function.update_of_ne isProcess] using member
  | removeNothing => exact absurd member gone

end Sound

end ResultBuffers

end Klsmsc
