import Klsmsc.Inbound.Session
import Klsmsc.Library.BackingArrays

/-!
# The registry of inbound sessions

The registry keeps a slice of sessions for each system id. `Add` appends to it, `Remove` filters it
in place, `EvictOldest` cuts its first entry off, and all of them work on arrays that earlier slices
of the system id may share. A slice of another system id never shares them, so each operation is the
one on lists that its name says.
-/

namespace Klsmsc

open Library

/-- `inboundRegistry`, with the arrays behind its slices. Sessions are known by numbers, in place
of their addresses. -/
structure InboundRegistry where
  arrays : Arrays ℕ
  bySystem : GoString → Option Slice

def newInboundRegistry : InboundRegistry :=
  ⟨⟨fun _ _ => 0, 0⟩, fun _ => none⟩

namespace InboundRegistry

variable (reg : InboundRegistry) (spare : ℕ → ℕ) (systemID : GoString) (s : ℕ)

/-- `r.bySystem[systemID]`. -/
def slice : Slice :=
  (reg.bySystem systemID).getD Slice.nil

def sessions : List ℕ :=
  reg.arrays.entries (reg.slice systemID)

/-- `CountBySystem`. -/
def countBySystem : ℕ :=
  (reg.slice systemID).length

/-- `Add`. -/
def add : InboundRegistry :=
  let (arrays, slice) := reg.arrays.append (reg.slice systemID) spare s
  ⟨arrays, Function.update reg.bySystem systemID (some slice)⟩

/-- `Remove`. -/
def remove : InboundRegistry :=
  let (arrays, out) := reg.arrays.keepInPlace (reg.slice systemID) spare fun ss => ss ≠ s
  ⟨arrays,
    Function.update reg.bySystem systemID (if out.length = 0 then none else some out)⟩

/-- `EvictOldest`. -/
def evictOldest : Option ℕ × InboundRegistry :=
  let arr := reg.slice systemID
  if arr.length = 0 then (none, reg)
  else
    let oldest := reg.arrays.cell arr.array arr.offset
    (some oldest,
      { reg with
        bySystem := Function.update reg.bySystem systemID
          (if arr.length = 1 then none else some arr.tail) })

/-- `PickReceiver`. -/
def pickReceiver (bindType : ℕ → BindType) (closed : ℕ → Bool) : Option ℕ :=
  let arr := reg.sessions systemID
  (arr.find? fun s => bindType s = .bindRX ∧ ¬ closed s).or
    (arr.find? fun s => bindType s = .bindTRX ∧ ¬ closed s)

def WellFormed : Prop :=
  reg.arrays.Separate reg.slice

theorem wellFormed_newInboundRegistry : newInboundRegistry.WellFormed :=
  ⟨fun _ => ⟨Nat.le_refl _, fun some => absurd some (Nat.lt_irrefl _)⟩,
    fun _ _ _ some => absurd some (Nat.lt_irrefl _)⟩

@[simp]
theorem sessions_newInboundRegistry : newInboundRegistry.sessions systemID = [] := rfl

variable {reg} {systemID}

theorem slice_update {arrays : Arrays ℕ} (entry : Option Slice) :
    (InboundRegistry.mk arrays (Function.update reg.bySystem systemID entry)).slice =
      Function.update reg.slice systemID (entry.getD Slice.nil) := by
  funext other
  by_cases same : other = systemID
  · subst other
    simp [slice]
  · simp [slice, same]

theorem sessions_of_same {arrays : Arrays ℕ} {entry : Option Slice} :
    (InboundRegistry.mk arrays (Function.update reg.bySystem systemID entry)).sessions systemID =
      arrays.entries (entry.getD Slice.nil) := by
  rw [sessions, slice_update, Function.update_self]

theorem sessions_of_other {arrays : Arrays ℕ} {entry : Option Slice} {other : GoString}
    (differs : other ≠ systemID) :
    (InboundRegistry.mk arrays (Function.update reg.bySystem systemID entry)).sessions other =
      arrays.entries (reg.slice other) := by
  rw [sessions, slice_update, Function.update_of_ne differs]

theorem remove_eq :
    reg.remove spare systemID s =
      let kept := reg.arrays.keepInPlace (reg.slice systemID) spare fun ss => ss ≠ s
      ⟨kept.1, Function.update reg.bySystem systemID
        (if kept.2.length = 0 then none else some kept.2)⟩ := rfl

theorem entries_getD_ite {arrays : Arrays ℕ} {out : Slice} :
    arrays.entries ((if out.length = 0 then none else some out).getD Slice.nil) =
      arrays.entries out := by
  split
  · rename_i empty
    rw [Option.getD_none, Arrays.entries, Arrays.entries, empty]
    rfl
  · rfl

namespace WellFormed

variable (wellFormed : reg.WellFormed)
include wellFormed

theorem add : (reg.add spare systemID s).WellFormed := by
  rw [WellFormed, InboundRegistry.add, slice_update]
  exact Arrays.Separate.append spare wellFormed systemID s

theorem sessions_add (other : GoString) :
    (reg.add spare systemID s).sessions other =
      if other = systemID then reg.sessions systemID ++ [s] else reg.sessions other := by
  by_cases same : other = systemID
  · subst other
    rw [if_pos rfl]
    exact sessions_of_same.trans (Arrays.entries_append _ _ _ _)
  · rw [if_neg same]
    exact (sessions_of_other same).trans
      (Arrays.Separate.entries_append_other spare wellFormed s same)

theorem remove : (reg.remove spare systemID s).WellFormed := by
  have kept := Arrays.keepInPlace_kept spare (fun ss => decide (ss ≠ s)) (wellFormed.fits systemID)
  rw [WellFormed, remove_eq, slice_update]
  split
  · exact Arrays.Separate.nil wellFormed systemID (Nat.le_of_eq kept.allocated.symm)
  · exact Arrays.Separate.keepInPlace spare wellFormed systemID _

theorem sessions_remove (other : GoString) :
    (reg.remove spare systemID s).sessions other =
      if other = systemID then (reg.sessions systemID).filter fun ss => ss ≠ s
      else reg.sessions other := by
  by_cases same : other = systemID
  · subst other
    rw [if_pos rfl, remove_eq]
    dsimp only
    rw [sessions_of_same, entries_getD_ite,
      Arrays.entries_keepInPlace spare _ (wellFormed.fits systemID)]
    rfl
  · rw [if_neg same, remove_eq]
    exact (sessions_of_other same).trans
      (Arrays.Separate.entries_keepInPlace_other spare wellFormed _ same)

theorem evictOldest : (reg.evictOldest systemID).2.WellFormed := by
  rw [InboundRegistry.evictOldest]
  split
  · exact wellFormed
  · rw [WellFormed, slice_update]
    split
    · exact Arrays.Separate.nil wellFormed systemID (Nat.le_refl _)
    · exact Arrays.Separate.tail wellFormed systemID

end WellFormed

theorem evictOldest_fst : (reg.evictOldest systemID).1 = (reg.sessions systemID).head? := by
  rw [evictOldest, sessions, Arrays.entries]
  rcases slice : (reg.slice systemID).length with _ | length
  · rfl
  · rw [if_neg (by simp), List.range_succ_eq_map]
    rfl

theorem sessions_evictOldest (other : GoString) :
    (reg.evictOldest systemID).2.sessions other =
      if other = systemID then (reg.sessions systemID).tail else reg.sessions other := by
  rw [evictOldest]
  by_cases empty : (reg.slice systemID).length = 0
  · have none : reg.sessions systemID = [] := by
      rw [sessions, Arrays.entries, empty]
      rfl
    rw [if_pos empty]
    split
    · rename_i same
      rw [same, none]
      rfl
    · rfl
  · rw [if_neg empty]
    by_cases same : other = systemID
    · subst other
      rw [if_pos rfl, sessions_of_same, sessions, ← Arrays.entries_tail]
      split
      · rename_i one
        rw [Option.getD_none, Arrays.entries, Arrays.entries, Slice.tail, one]
        rfl
      · rfl
    · rw [if_neg same]
      exact sessions_of_other same

theorem pickReceiver_eq_some {bindType : ℕ → BindType} {closed : ℕ → Bool} {s : ℕ}
    (picked : reg.pickReceiver systemID bindType closed = some s) :
    s ∈ reg.sessions systemID ∧ bindType s ≠ .bindTX ∧ closed s = false := by
  rw [pickReceiver, Option.or_eq_some_iff] at picked
  rcases picked with found | ⟨_, found⟩
  all_goals
    have holds := List.find?_some found
    have member := List.mem_of_find?_eq_some found
    simp only [decide_eq_true_eq, Bool.not_eq_true] at holds
    refine ⟨member, ?_, holds.2⟩
    rw [holds.1]
    exact nofun

end InboundRegistry

end Klsmsc
