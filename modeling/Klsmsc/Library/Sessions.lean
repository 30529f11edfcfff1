import Mathlib.Data.List.Basic
import Mathlib.Logic.Function.Basic

/-!
# Transactional sessions over shared data

Several sessions work on one store. Each session has an open transaction: the
writes it has made since its last commit, which only it can see, and the locks
it has taken, which it keeps until it commits or rolls back. A lock can be taken
only while no other session holds it, so the locks of two sessions never meet.
-/

namespace Klsmsc.Library

universe u v w x

variable {Data : Type u} {Write : Type v} {Key : Type w} {Phase : Type x}

/-- A session: the writes and locks of its open transaction, and where it stands. -/
structure Session (Write : Type v) (Key : Type w) (Phase : Type x) where
  pending : List Write
  locks : List Key
  phase : Phase

/-- The committed data, and the sessions that work on it. -/
structure Store (Data : Type u) (Write : Type v) (Key : Type w) (Phase : Type x) where
  committed : Data
  sessions : ℕ → Session Write Key Phase

namespace Store

/-- What a session sees: the committed data with its own writes. -/
def view (apply : Data → Write → Data) (store : Store Data Write Key Phase) (index : ℕ) : Data :=
  (store.sessions index).pending.foldl apply store.committed

/-- No other session holds the lock. -/
def Free (store : Store Data Write Key Phase) (index : ℕ) (key : Key) : Prop :=
  ∀ other, other ≠ index → key ∉ (store.sessions other).locks

/-- The locks of two sessions never meet. -/
def Exclusive (store : Store Data Write Key Phase) : Prop :=
  ∀ index, ∀ key ∈ (store.sessions index).locks, store.Free index key

/-- Replace one session. -/
def setSession (store : Store Data Write Key Phase) (index : ℕ)
    (session : Session Write Key Phase) : Store Data Write Key Phase :=
  { store with sessions := Function.update store.sessions index session }

/-- The session moves on without touching the data. -/
def move (store : Store Data Write Key Phase) (index : ℕ) (phase : Phase) :
    Store Data Write Key Phase :=
  store.setSession index { store.sessions index with phase := phase }

/-- The session takes a lock. -/
def lock (store : Store Data Write Key Phase) (index : ℕ) (key : Key) :
    Store Data Write Key Phase :=
  store.setSession index
    { store.sessions index with locks := key :: (store.sessions index).locks }

/-- The session writes. -/
def write (store : Store Data Write Key Phase) (index : ℕ) (writes : List Write) :
    Store Data Write Key Phase :=
  store.setSession index
    { store.sessions index with pending := (store.sessions index).pending ++ writes }

/-- The session's writes become visible to all, and its locks are released. -/
def commit (apply : Data → Write → Data) (store : Store Data Write Key Phase) (index : ℕ)
    (phase : Phase) : Store Data Write Key Phase where
  committed := store.view apply index
  sessions := Function.update store.sessions index ⟨[], [], phase⟩

/-- The session's writes are forgotten, and its locks are released. -/
def rollback (store : Store Data Write Key Phase) (index : ℕ) (phase : Phase) :
    Store Data Write Key Phase :=
  store.setSession index ⟨[], [], phase⟩

section

variable (apply : Data → Write → Data) (store : Store Data Write Key Phase)
  (index : ℕ) (session : Session Write Key Phase) (phase : Phase) (key : Key)
  (writes : List Write)

@[simp]
theorem setSession_committed : (store.setSession index session).committed = store.committed :=
  rfl

@[simp]
theorem setSession_same : (store.setSession index session).sessions index = session := by
  simp [setSession]

theorem setSession_other {other : ℕ} (differs : other ≠ index) :
    (store.setSession index session).sessions other = store.sessions other := by
  simp [setSession, differs]

@[simp]
theorem move_committed : (store.move index phase).committed = store.committed := rfl

@[simp]
theorem lock_committed : (store.lock index key).committed = store.committed := rfl

@[simp]
theorem write_committed : (store.write index writes).committed = store.committed := rfl

@[simp]
theorem rollback_committed : (store.rollback index phase).committed = store.committed := rfl

@[simp]
theorem commit_committed : (store.commit apply index phase).committed = store.view apply index :=
  rfl

@[simp]
theorem move_same : (store.move index phase).sessions index =
    { store.sessions index with phase := phase } := by
  simp [move]

@[simp]
theorem lock_same : (store.lock index key).sessions index =
    { store.sessions index with locks := key :: (store.sessions index).locks } := by
  simp [lock]

@[simp]
theorem write_same : (store.write index writes).sessions index =
    { store.sessions index with pending := (store.sessions index).pending ++ writes } := by
  simp [write]

@[simp]
theorem rollback_same : (store.rollback index phase).sessions index = ⟨[], [], phase⟩ := by
  simp [rollback]

@[simp]
theorem commit_same : (store.commit apply index phase).sessions index = ⟨[], [], phase⟩ := by
  simp [commit]

theorem commit_other {other : ℕ} (differs : other ≠ index) :
    (store.commit apply index phase).sessions other = store.sessions other := by
  simp [commit, differs]

end

namespace Exclusive

variable {store : Store Data Write Key Phase} {index : ℕ}

/-- Replacing one session keeps the locks apart if each of its locks is one it
held before or one that is free. -/
theorem setSession (exclusive : store.Exclusive) {session : Session Write Key Phase}
    (held : ∀ key ∈ session.locks,
      key ∈ (store.sessions index).locks ∨ store.Free index key) :
    (store.setSession index session).Exclusive := by
  have free : ∀ key ∈ session.locks, store.Free index key := by
    intro key member
    rcases held key member with before | free
    · exact exclusive index key before
    · exact free
  intro first key member second differs
  by_cases isFirst : first = index
  · subst first
    rw [setSession_same] at member
    rw [setSession_other _ _ _ differs]
    exact free key member second differs
  · rw [setSession_other _ _ _ isFirst] at member
    by_cases isSecond : second = index
    · subst second
      rw [setSession_same]
      intro shared
      exact free key shared first isFirst member
    · rw [setSession_other _ _ _ isSecond]
      exact exclusive first key member second differs

theorem move (exclusive : store.Exclusive) (phase : Phase) :
    (store.move index phase).Exclusive :=
  exclusive.setSession fun _ member => Or.inl member

theorem write (exclusive : store.Exclusive) (writes : List Write) :
    (store.write index writes).Exclusive :=
  exclusive.setSession fun _ member => Or.inl member

theorem rollback (exclusive : store.Exclusive) (phase : Phase) :
    (store.rollback index phase).Exclusive :=
  exclusive.setSession (by simp)

theorem lock (exclusive : store.Exclusive) {key : Key} (free : store.Free index key) :
    (store.lock index key).Exclusive := by
  refine exclusive.setSession ?_
  intro other member
  rcases List.mem_cons.mp member with rfl | before
  · exact Or.inr free
  · exact Or.inl before

/-- Committing changes the locks as rolling back does. -/
theorem commit (exclusive : store.Exclusive) (apply : Data → Write → Data) (phase : Phase) :
    (store.commit apply index phase).Exclusive :=
  fun first key member second differs => exclusive.rollback phase first key member second differs

end Exclusive

/-- The data are written under one lock only, and a property holds of the committed data and of
what each session sees. -/
structure Upheld (apply : Data → Write → Data) (key : Key) (property : Data → Prop)
    (store : Store Data Write Key Phase) : Prop where
  exclusive : store.Exclusive
  held : ∀ index, (store.sessions index).pending ≠ [] → key ∈ (store.sessions index).locks
  committed : property store.committed
  seen : ∀ index, property (store.view apply index)

namespace Upheld

variable {apply : Data → Write → Data} {key : Key} {property : Data → Prop}
  {store : Store Data Write Key Phase} {index : ℕ}

/-- Replacing one session keeps a property of the data if the session sees it. -/
theorem setSession (upheld : store.Upheld apply key property)
    {session : Session Write Key Phase}
    (locked : ∀ other ∈ session.locks,
      other ∈ (store.sessions index).locks ∨ store.Free index other)
    (held : session.pending ≠ [] → key ∈ session.locks)
    (sees : property (session.pending.foldl apply store.committed)) :
    (store.setSession index session).Upheld apply key property := by
  refine ⟨upheld.exclusive.setSession locked, ?_, upheld.committed, ?_⟩
  · intro other
    by_cases same : other = index
    · subst other
      rw [setSession_same]
      exact held
    · rw [setSession_other _ _ _ same]
      exact upheld.held other
  · intro other
    by_cases same : other = index
    · subst other
      rw [view, setSession_same]
      exact sees
    · rw [view, setSession_other _ _ _ same]
      exact upheld.seen other

theorem move (upheld : store.Upheld apply key property) (phase : Phase) :
    (store.move index phase).Upheld apply key property :=
  upheld.setSession (fun _ member => Or.inl member) (upheld.held index) (upheld.seen index)

theorem rollback (upheld : store.Upheld apply key property) (phase : Phase) :
    (store.rollback index phase).Upheld apply key property :=
  upheld.setSession (by simp) (by simp) upheld.committed

theorem lock (upheld : store.Upheld apply key property) {other : Key}
    (free : store.Free index other) : (store.lock index other).Upheld apply key property := by
  refine upheld.setSession ?_ ?_ (upheld.seen index)
  · intro taken member
    rcases List.mem_cons.mp member with rfl | before
    · exact Or.inr free
    · exact Or.inl before
  · exact fun writes => List.mem_cons_of_mem _ (upheld.held index writes)

/-- A session that holds the lock may make any write after which it sees the property. -/
theorem write (upheld : store.Upheld apply key property) {writes : List Write}
    (holds : key ∈ (store.sessions index).locks)
    (sees : property (writes.foldl apply (store.view apply index))) :
    (store.write index writes).Upheld apply key property := by
  refine upheld.setSession (fun _ member => Or.inl member) (fun _ => holds) ?_
  rw [List.foldl_append]
  exact sees

/-- Committing changes what another session sees only as long as that one has not written. -/
theorem commit (upheld : store.Upheld apply key property) (phase : Phase) :
    (store.commit apply index phase).Upheld apply key property := by
  refine ⟨upheld.exclusive.commit apply phase, ?_, upheld.seen index, ?_⟩
  · intro other
    by_cases same : other = index
    · subst other
      simp
    · rw [commit_other _ _ _ _ same]
      exact upheld.held other
  · intro other
    by_cases same : other = index
    · subst other
      rw [view, commit_same]
      exact upheld.seen index
    · rw [view, commit_other _ _ _ _ same]
      by_cases written : (store.sessions other).pending = []
      · rw [written]
        exact upheld.seen index
      · have held := upheld.held other written
        have nothing : (store.sessions index).pending = [] := by
          by_contra writes
          exact upheld.exclusive other key held index (Ne.symm same) (upheld.held index writes)
        rw [commit_committed, view, nothing]
        exact upheld.seen other

end Upheld

end Store

end Klsmsc.Library
