import Klsmsc.BatchProgress.Decisions
import Klsmsc.Library.Sessions

/-!
# Cancelled batches

The operations of `services/batch_admin.py` and `cancel_batch` on the row of one
batch, interleaved at their commits. An operation that locks the row reads its
committed status; `cancel_batch` reads without a lock, and every update of the
row waits until no other session holds the lock. A commit releases it, also the
one that `switch_channel_for_unsent` makes inside `resume_batch`.

The objects of a session are not expired by a commit, so `resume_batch` does not
read the status again, and the aggregation at the end of `clear_batch_queue`
starts from the status that its session has just stored. An unchanged status is
not written; so a call of `cancel_batch` on a cancelled batch is left out. What
is kept of the row is its status and the list of the statuses stored so far.
-/

namespace Klsmsc

open Library

structure BatchRow where
  status : BatchStatus
  stored : List BatchStatus
  deriving DecidableEq, Repr

/-- `UPDATE sms_batches SET status = ..`. -/
def BatchRow.store (row : BatchRow) (status : BatchStatus) : BatchRow :=
  ⟨status, row.stored ++ [status]⟩

inductive AdminPhase where
  | idle
  | pausing
  | clearing
  | cleared
  | cancelling
  | resuming (switches : Bool)
  | switched
  deriving DecidableEq, Repr

def AdminPhase.Locks : AdminPhase → Prop
  | .pausing => True
  | .clearing => True
  | .resuming _ => True
  | _ => False

def AdminPhase.stores : AdminPhase → Option BatchStatus
  | .pausing => some .paused
  | .clearing => some .cancelled
  | .cancelling => some .cancelled
  | .resuming false => some .processing
  | .switched => some .processing
  | _ => none

def AdminPhase.continues : AdminPhase → AdminPhase
  | .clearing => .cleared
  | _ => .idle

abbrev AdminStore := Store BatchRow BatchStatus Unit AdminPhase

def AdminStore.start (status : BatchStatus) : AdminStore where
  committed := ⟨status, []⟩
  sessions := fun _ => ⟨[], [], .idle⟩

def AdminStore.stored (store : AdminStore) (index : ℕ) (statuses : List BatchStatus)
    (phase : AdminPhase) : AdminStore :=
  (store.write index statuses).commit BatchRow.store index phase

inductive AdminLabel where
  | pauseBatch (index : ℕ)
  | clearBatchQueue (index : ℕ)
  | cancelBatch (index : ℕ)
  | resumeBatch (index : ℕ) (switches : Bool)
  | switchCommit (index : ℕ)
  | commit (index : ℕ)
  | updateBatchProgress (index : ℕ) (view : ProgressView) (now : ℕ)
  | leave (index : ℕ)

def AdminStore.enter (store : AdminStore) (index : ℕ) (phase : AdminPhase) : AdminStore :=
  (store.lock index ()).move index phase

inductive AdminStep (unicode : Unicode) : AdminStore → AdminLabel → AdminStore → Prop where
  | pauseBatch {store : AdminStore} {index : ℕ}
      (idle : (store.sessions index).phase = .idle) (free : store.Free index ())
      (allowed : store.committed.status = .processing ∨ store.committed.status = .pending) :
      AdminStep unicode store (.pauseBatch index) (store.enter index .pausing)
  | clearBatchQueue {store : AdminStore} {index : ℕ}
      (idle : (store.sessions index).phase = .idle) (free : store.Free index ())
      (allowed : store.committed.status = .paused) :
      AdminStep unicode store (.clearBatchQueue index) (store.enter index .clearing)
  | cancelBatch {store : AdminStore} {index : ℕ}
      (idle : (store.sessions index).phase = .idle)
      (allowed : store.committed.status ≠ .completed ∧ store.committed.status ≠ .failed ∧
        store.committed.status ≠ .cancelled) :
      AdminStep unicode store (.cancelBatch index) (store.move index .cancelling)
  | resumeBatch {store : AdminStore} {index : ℕ} {switches : Bool}
      (idle : (store.sessions index).phase = .idle) (free : store.Free index ())
      (allowed : store.committed.status = .paused) :
      AdminStep unicode store (.resumeBatch index switches)
        (store.enter index (.resuming switches))
  | switchCommit {store : AdminStore} {index : ℕ}
      (checked : (store.sessions index).phase = .resuming true) :
      AdminStep unicode store (.switchCommit index) (store.stored index [] .switched)
  | commit {store : AdminStore} {index : ℕ} {status : BatchStatus}
      (stores : (store.sessions index).phase.stores = some status)
      (free : store.Free index ()) :
      AdminStep unicode store (.commit index)
        (store.stored index [status] (store.sessions index).phase.continues)
  | updateBatchProgress {store : AdminStore} {index : ℕ} {view : ProgressView} {now : ℕ}
      (cleared : (store.sessions index).phase = .cleared) (free : store.Free index ())
      (loaded : view.batch.status = .cancelled) :
      AdminStep unicode store (.updateBatchProgress index view now)
        (store.stored index
          ([(view.updated unicode now).batch.status].filter fun status => status ≠ .cancelled)
          .idle)
  | leave {store : AdminStore} {index : ℕ} :
      AdminStep unicode store (.leave index) (store.rollback index .idle)

/-- No commit stores `processing` behind one that stores `cancelled`. -/
def NeverReopened (stored : List BatchStatus) : Prop :=
  stored.Pairwise fun earlier later => ¬ (earlier = .cancelled ∧ later = .processing)

instance (stored : List BatchStatus) : Decidable (NeverReopened stored) :=
  inferInstanceAs (Decidable (List.Pairwise _ _))

/-- A batch is not cancelled while an operation stands between the commit of its switch
and its own, and what a cleared batch has left is no small remainder of pending
messages. -/
def CancelsApart (store : AdminStore) : AdminLabel → Prop
  | .commit index =>
      (store.sessions index).phase.stores = some .cancelled →
        ∀ other, (store.sessions other).phase ≠ .switched
  | .updateBatchProgress _ view _ => fewPending view.counts view.total = false
  | _ => True

structure BatchRow.Settled (row : BatchRow) : Prop where
  closed : .cancelled ∈ row.stored →
    row.status = .cancelled ∨ row.status = .completed ∨ row.status = .failed
  never : NeverReopened row.stored

def AdminPhase.Knows : AdminPhase → BatchRow → Prop
  | .pausing, row => row.status = .processing ∨ row.status = .pending
  | .clearing, row => row.status = .paused
  | .resuming _, row => row.status = .paused
  | .switched, row => .cancelled ∉ row.stored
  | _, _ => True

structure AdminSession (row : BatchRow) (session : Session BatchStatus Unit AdminPhase) :
    Prop where
  clean : session.pending = []
  locked : session.phase.Locks → () ∈ session.locks
  knows : session.phase.Knows row

structure AdminInvariant (store : AdminStore) : Prop where
  exclusive : store.Exclusive
  row : store.committed.Settled
  sessions : ∀ index, AdminSession store.committed (store.sessions index)

section

variable {store : AdminStore} {index : ℕ}

theorem stored_committed (clean : (store.sessions index).pending = [])
    (statuses : List BatchStatus) (phase : AdminPhase) :
    (store.stored index statuses phase).committed =
      statuses.foldl BatchRow.store store.committed := by
  simp [AdminStore.stored, Store.view, clean]

theorem stored_same (statuses : List BatchStatus) (phase : AdminPhase) :
    (store.stored index statuses phase).sessions index = ⟨[], [], phase⟩ := by
  simp [AdminStore.stored]

theorem stored_other {other : ℕ} (differs : other ≠ index) (statuses : List BatchStatus)
    (phase : AdminPhase) :
    (store.stored index statuses phase).sessions other = store.sessions other := by
  simp [AdminStore.stored, Store.commit_other _ _ _ _ differs, Store.write,
    Store.setSession_other _ _ _ differs]

theorem stored_exclusive (exclusive : store.Exclusive) (statuses : List BatchStatus)
    (phase : AdminPhase) : (store.stored index statuses phase).Exclusive :=
  (exclusive.write statuses).commit BatchRow.store phase

theorem enter_same (phase : AdminPhase) :
    (store.enter index phase).sessions index =
      ⟨(store.sessions index).pending, () :: (store.sessions index).locks, phase⟩ := by
  simp [AdminStore.enter]

theorem enter_other {other : ℕ} (differs : other ≠ index) (phase : AdminPhase) :
    (store.enter index phase).sessions other = store.sessions other := by
  simp [AdminStore.enter, Store.move, Store.lock, Store.setSession_other _ _ _ differs]

end

namespace BatchRow.Settled

variable {row : BatchRow}

theorem store (settled : row.Settled) {status : BatchStatus}
    (closed : .cancelled ∈ row.stored →
      status = .cancelled ∨ status = .completed ∨ status = .failed) :
    (row.store status).Settled where
  closed := by
    intro known
    simp only [BatchRow.store, List.mem_append, List.mem_singleton] at known ⊢
    rcases known with before | isCancelled
    · exact closed before
    · exact Or.inl isCancelled.symm
  never := by
    simp only [NeverReopened, BatchRow.store, List.pairwise_append, List.pairwise_singleton,
      List.mem_singleton, true_and]
    refine ⟨settled.never, ?_⟩
    rintro earlier before later rfl ⟨rfl, rfl⟩
    rcases closed before with isOther | isOther | isOther <;> cases isOther

theorem not_cancelled (settled : row.Settled)
    (opened : row.status = .processing ∨ row.status = .pending ∨ row.status = .paused) :
    .cancelled ∉ row.stored := by
  intro known
  rcases settled.closed known with closed | closed | closed <;> simp [closed] at opened

end BatchRow.Settled

namespace AdminSession

variable {row : BatchRow} {session : Session BatchStatus Unit AdminPhase}

theorem of_other (own : AdminSession row session) {after : BatchRow}
    (unlocked : () ∉ session.locks)
    (apart : session.phase = .switched → .cancelled ∉ after.stored) :
    AdminSession after session where
  clean := own.clean
  locked := own.locked
  knows := by
    have free : ¬ session.phase.Locks := fun locks => unlocked (own.locked locks)
    cases phase : session.phase <;> simp_all [AdminPhase.Knows, AdminPhase.Locks]

end AdminSession

namespace AdminInvariant

variable {store : AdminStore} {index : ℕ}

theorem start (status : BatchStatus) : AdminInvariant (AdminStore.start status) where
  exclusive := by
    intro first key member
    simp [AdminStore.start] at member
  row := ⟨by simp [AdminStore.start], by simp [AdminStore.start, NeverReopened]⟩
  sessions := by
    intro first
    constructor <;> simp [AdminStore.start, AdminPhase.Locks, AdminPhase.Knows]

theorem setSession (inv : AdminInvariant store) {session : Session BatchStatus Unit AdminPhase}
    (exclusive : (store.setSession index session).Exclusive)
    (own : AdminSession store.committed session) :
    AdminInvariant (store.setSession index session) where
  exclusive := exclusive
  row := inv.row
  sessions := by
    intro other
    by_cases same : other = index
    · subst other
      rw [Store.setSession_same]
      exact own
    · rw [Store.setSession_other _ _ _ same]
      exact inv.sessions other

theorem enter (inv : AdminInvariant store) (free : store.Free index ()) {phase : AdminPhase}
    (knows : phase.Knows store.committed) : AdminInvariant (store.enter index phase) where
  exclusive := (inv.exclusive.lock free).move phase
  row := inv.row
  sessions := by
    intro other
    by_cases same : other = index
    · subst other
      rw [enter_same]
      exact ⟨(inv.sessions index).clean, fun _ => List.mem_cons_self, knows⟩
    · rw [enter_other same]
      exact inv.sessions other

theorem stored (inv : AdminInvariant store) (free : store.Free index ())
    {statuses : List BatchStatus} {phase : AdminPhase}
    (settled : (statuses.foldl BatchRow.store store.committed).Settled)
    (unlocks : ¬ phase.Locks)
    (knows : phase.Knows (statuses.foldl BatchRow.store store.committed))
    (apart : ∀ other, (store.sessions other).phase = .switched →
      .cancelled ∉ (statuses.foldl BatchRow.store store.committed).stored) :
    AdminInvariant (store.stored index statuses phase) where
  exclusive := stored_exclusive inv.exclusive statuses phase
  row := by
    rw [stored_committed (inv.sessions index).clean]
    exact settled
  sessions := by
    rw [stored_committed (inv.sessions index).clean]
    intro other
    by_cases same : other = index
    · subst other
      rw [stored_same]
      exact ⟨rfl, fun locks => absurd locks unlocks, knows⟩
    · rw [stored_other same]
      exact (inv.sessions other).of_other (free other same) (apart other)

theorem commit (inv : AdminInvariant store) (free : store.Free index ()) {status : BatchStatus}
    (stores : (store.sessions index).phase.stores = some status)
    (apart : status = .cancelled → ∀ other, (store.sessions other).phase ≠ .switched) :
    AdminInvariant (store.stored index [status] (store.sessions index).phase.continues) := by
  have knows := (inv.sessions index).knows
  have closed : .cancelled ∈ store.committed.stored →
      status = .cancelled ∨ status = .completed ∨ status = .failed := by
    intro known
    have open_ := fun opened => inv.row.not_cancelled opened known
    cases phase : (store.sessions index).phase with
    | idle => simp [phase, AdminPhase.stores] at stores
    | pausing =>
        rw [phase] at knows
        rcases knows with processing | pending
        · exact absurd (Or.inl processing) open_
        · exact absurd (Or.inr (Or.inl pending)) open_
    | clearing => exact Or.inl (by simpa [phase, AdminPhase.stores] using stores.symm)
    | cleared => simp [phase, AdminPhase.stores] at stores
    | cancelling => exact Or.inl (by simpa [phase, AdminPhase.stores] using stores.symm)
    | resuming switches =>
        rw [phase] at knows
        exact absurd (Or.inr (Or.inr knows)) open_
    | switched =>
        rw [phase] at knows
        exact absurd known knows
  apply inv.stored free
  · exact inv.row.store closed
  · cases (store.sessions index).phase <;> simp [AdminPhase.continues, AdminPhase.Locks]
  · cases (store.sessions index).phase <;> simp [AdminPhase.continues, AdminPhase.Knows]
  · intro other switched
    have before := (inv.sessions other).knows
    rw [switched] at before
    have differs : ¬ status = .cancelled := fun isCancelled => apart isCancelled other switched
    simpa [BatchRow.store, AdminPhase.Knows, eq_comm, differs] using before

theorem updateBatchProgress {unicode : Unicode} (inv : AdminInvariant store)
    (free : store.Free index ()) {view : ProgressView} (now : ℕ)
    (loaded : view.batch.status = .cancelled)
    (calm : fewPending view.counts view.total = false) :
    AdminInvariant (store.stored index
      ([(view.updated unicode now).batch.status].filter fun status => status ≠ .cancelled)
      .idle) := by
  have outcome : (view.updated unicode now).batch.status = .cancelled ∨
      (view.updated unicode now).batch.status = .completed ∨
      (view.updated unicode now).batch.status = .failed := by
    have lasting : ¬ view.Expires := by simp [ProgressView.Expires, calm]
    rw [status_updated, if_neg lasting]
    by_cases allDone : view.AllDone
    · exact Or.inr (target_of_allDone allDone now)
    · exact Or.inl (by rw [target_of_cancelled loaded allDone, calm]; rfl)
  have untouched : ∀ other, (store.sessions other).phase = .switched →
      .cancelled ∉ store.committed.stored := by
    intro other switched
    have before := (inv.sessions other).knows
    rwa [switched] at before
  rcases outcome with isCancelled | ended
  · rw [isCancelled]
    exact inv.stored free inv.row (by simp [AdminPhase.Locks]) trivial untouched
  · have open_ : (view.updated unicode now).batch.status ≠ .cancelled := by
      rcases ended with completed | failed
      · simp [completed]
      · simp [failed]
    have single : [(view.updated unicode now).batch.status].filter
        (fun status => status ≠ .cancelled) = [(view.updated unicode now).batch.status] := by
      simp [open_]
    rw [single]
    apply inv.stored free
    · exact inv.row.store fun _ => Or.inr ended
    · simp [AdminPhase.Locks]
    · trivial
    · intro other switched
      simpa [BatchRow.store, open_.symm] using untouched other switched

theorem step {unicode : Unicode} (inv : AdminInvariant store) {label : AdminLabel}
    {after : AdminStore} (step : AdminStep unicode store label after)
    (apart : CancelsApart store label) : AdminInvariant after := by
  cases step with
  | pauseBatch idle free allowed => exact inv.enter free allowed
  | clearBatchQueue idle free allowed => exact inv.enter free allowed
  | resumeBatch idle free allowed => exact inv.enter free allowed
  | cancelBatch idle allowed =>
      apply inv.setSession (inv.exclusive.move _)
      exact ⟨(inv.sessions _).clean, fun locks => False.elim locks, trivial⟩
  | @switchCommit index checked =>
      have own := inv.sessions index
      have knows := own.knows
      have held := own.locked (by rw [checked]; trivial)
      rw [checked] at knows
      have never := inv.row.not_cancelled (Or.inr (Or.inr knows))
      exact inv.stored (inv.exclusive index () held) inv.row (fun locks => locks) never
        fun _ _ => never
  | commit stores free =>
      apply inv.commit free stores
      rintro rfl
      exact apart stores
  | updateBatchProgress cleared free loaded =>
      exact inv.updateBatchProgress free _ loaded apart
  | leave =>
      apply inv.setSession (inv.exclusive.rollback _)
      exact ⟨rfl, fun locks => False.elim locks, trivial⟩

end AdminInvariant

/-- As long as no batch is cancelled between the commit of a switch and the commit of the
operation around it, and none is cleared down to a remainder that counts as few pending
messages, no commit stores `processing` for a batch that has been cancelled. -/
theorem cancelled_never_reopened {unicode : Unicode} {status : BatchStatus}
    {transitions : List (Transition AdminStore AdminLabel)} {last : AdminStore}
    (run : Run (AdminStep unicode) (AdminStore.start status) transitions last)
    (apart : ∀ transition ∈ transitions, CancelsApart transition.before transition.label) :
    NeverReopened last.committed.stored ∧
      ∀ transition ∈ transitions, NeverReopened transition.after.committed.stored := by
  have preserved : ∀ before label after, Guarded (AdminStep unicode) CancelsApart before label after →
      AdminInvariant before → AdminInvariant after :=
    fun _ _ _ guarded inv => inv.step guarded.1 guarded.2
  rcases (run.guarded apart).invariant preserved (AdminInvariant.start status) with
    ⟨atEnd, inside⟩
  exact ⟨atEnd.row.never, fun transition member => (inside transition member).2.row.never⟩

theorem free_of_locks {store : AdminStore} {index : ℕ}
    (unlocked : ∀ other, other ≠ index → (store.sessions other).locks = []) :
    store.Free index () := by
  intro other differs
  rw [unlocked other differs]
  exact List.not_mem_nil

/-- A batch is cancelled while nothing else goes on. -/
theorem cancelled_never_reopened_cancelBatch :
    let reading : AdminStore := (AdminStore.start .processing).move 0 .cancelling
    let last := reading.stored 0 [.cancelled] .idle
    last.committed.stored = [.cancelled] ∧ NeverReopened last.committed.stored := by
  have run : Run (AdminStep Unicode.ascii) (AdminStore.start .processing)
      [⟨_, .cancelBatch 0, _⟩, ⟨_, .commit 0, _⟩] _ :=
    .cons (.cancelBatch rfl (by decide)) (.cons (.commit rfl (free_of_locks (by
      intro other differs
      simp [AdminStore.start, Store.move, Store.setSession, differs]))) (.nil _))
  refine ⟨rfl, (cancelled_never_reopened run ?_).1⟩
  intro transition member
  simp only [List.mem_cons, List.not_mem_nil, or_false] at member
  rcases member with rfl | rfl
  · trivial
  · intro _ other
    by_cases same : other = 0
    · simp [AdminStore.start, Store.move, Store.setSession, same]
    · simp [AdminStore.start, Store.move, Store.setSession, same]

/-- The switch of a resumed batch commits, the batch is cleared, and the operation that
resumes it stores `processing`. -/
theorem cancelled_reopened_by_resume :
    ∃ transitions last,
      Run (AdminStep Unicode.ascii) (AdminStore.start .paused) transitions last ∧
        last.committed.stored = [.cancelled, .processing] ∧
        ¬ NeverReopened last.committed.stored := by
  let checked := (AdminStore.start .paused).enter 0 (.resuming true)
  let switched := checked.stored 0 [] .switched
  let clearing := switched.enter 1 .clearing
  let cleared := clearing.stored 1 [.cancelled] .cleared
  let last := cleared.stored 0 [.processing] .idle
  have nobody : (AdminStore.start .paused).Free 0 () := free_of_locks fun _ _ => rfl
  have released : switched.Free 1 () := free_of_locks (by
    intro other _
    by_cases same : other = 0
    · subst other
      simp [switched, stored_same]
    · simp [switched, checked, stored_other same, enter_other same, AdminStore.start])
  have alone : clearing.Free 1 () := free_of_locks (by
    intro other differs
    by_cases same : other = 0
    · subst other
      simp [clearing, switched, enter_other differs, stored_same]
    · simp [clearing, switched, checked, enter_other differs, stored_other same,
        enter_other same, AdminStore.start])
  have open_ : cleared.Free 0 () := free_of_locks (by
    intro other differs
    by_cases same : other = 1
    · subst other
      simp [cleared, stored_same]
    · simp [cleared, clearing, switched, checked, enter_other same, stored_other same,
        stored_other differs, enter_other differs, AdminStore.start])
  have run : Run (AdminStep Unicode.ascii) (AdminStore.start .paused)
      [⟨_, .resumeBatch 0 true, _⟩, ⟨_, .switchCommit 0, _⟩, ⟨_, .clearBatchQueue 1, _⟩,
        ⟨_, .commit 1, _⟩, ⟨_, .commit 0, _⟩] last :=
    .cons (.resumeBatch rfl nobody rfl) (.cons (.switchCommit rfl)
      (.cons (.clearBatchQueue rfl released rfl) (.cons (.commit rfl alone)
        (.cons (.commit rfl open_) (.nil _)))))
  exact ⟨_, last, run, rfl, by decide⟩

end Klsmsc
