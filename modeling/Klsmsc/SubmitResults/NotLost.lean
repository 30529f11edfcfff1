import Klsmsc.SubmitResults.Sound

/-!
# Results that are not lost

The table shows the result that was committed last. It is the latest one for its log only
if the flushes, of which several can be under way, commit in order. The counterexample
needs two results for one log, and the second one to come while the first is flushed.
-/

namespace Klsmsc

open Library

namespace ResultBuffers

def rowOf (state : ResultBuffers) (logId : ℕ) : Option SubmitResult :=
  state.applied.reverse.find? fun result => result.logId = logId

def LatestStands (state : ResultBuffers) : Prop :=
  ∀ result ∈ state.applied, ∀ last, state.rowOf result.logId = some last →
    result.position ≤ last.position

def Ordered (first second : SubmitResult) : Prop :=
  first.logId = second.logId → first.position ≤ second.position

def InOrder (state : ResultBuffers) : ResultLabel → Prop
  | .bulk index commits _ =>
      commits = true → ∀ rows isRetry, (state.threads index).stage = .bulk rows isRetry →
        (rows.map BufferItem.result).Pairwise Ordered ∧
          ∀ before ∈ state.applied, ∀ row ∈ rows, Ordered before row.result
  | .row index commits _ =>
      commits = true → ∀ rows row rest ok,
        (state.threads index).stage = .writing rows (row :: rest) ok →
          ∀ before ∈ state.applied, Ordered before row.result
  | _ => True

theorem latestStands_of_pairwise {state : ResultBuffers}
    (ordered : state.applied.Pairwise Ordered) : state.LatestStands := by
  intro result member last found
  unfold rowOf at found
  rcases List.find?_eq_some_iff_append.mp found with ⟨isLog, later, earlier, split, others⟩
  have reversed : state.applied.reverse.Pairwise fun first second => Ordered second first :=
    List.pairwise_reverse.mpr ordered
  have inReverse : result ∈ state.applied.reverse := List.mem_reverse.mpr member
  rw [split] at reversed inReverse
  have behind := (List.pairwise_append.mp reversed).2.1
  rcases List.mem_append.mp inReverse with isLater | inRest
  · have differs := others result isLater
    simp at differs
  · rcases List.mem_cons.mp inRest with rfl | isEarlier
    · exact Nat.le_refl _
    · exact (List.pairwise_cons.mp behind).1 result isEarlier (of_decide_eq_true isLog).symm

theorem applied_cancelTimer (state : ResultBuffers) (timer : Option ℕ) :
    (state.cancelTimer timer).applied = state.applied := by
  cases timer with
  | none => rfl
  | some timer =>
      simp only [cancelTimer]
      split <;> rfl

theorem ordered_next {state after : ResultBuffers} {label : ResultLabel}
    (step : state.next label = some after) (inOrder : state.InOrder label)
    (ordered : state.applied.Pairwise Ordered) : after.applied.Pairwise Ordered := by
  cases performs_of_next step with
  | @bulk _ rows isRetry commits _ isBulk =>
      cases commits with
      | false => exact ordered
      | true =>
          rcases inOrder rfl rows isRetry isBulk with ⟨own, behind⟩
          refine List.pairwise_append.mpr ⟨ordered, own, ?_⟩
          intro before inApplied result inRows
          rcases List.mem_map.mp inRows with ⟨row, member, rfl⟩
          exact behind before inApplied row member
  | @row _ rows rest ok row commits _ writing =>
      simp only [ResultBuffers.row]
      split
      · exact ordered
      · cases commits with
        | false => exact ordered
        | true =>
            refine List.pairwise_append.mpr ⟨ordered, List.pairwise_singleton _ _, ?_⟩
            intro before inApplied result isRow
            rw [List.mem_singleton.mp isRow]
            exact inOrder rfl rows row rest ok writing before inApplied
  | append =>
      simp only [append]
      split
      · simp only [setThread, setTimer, applied_cancelTimer]
        exact ordered
      · split <;> exact ordered
  | delete =>
      simp only [finish]
      split
      · split <;> exact ordered
      · exact ordered
  | xadd =>
      simp only [xadd]
      split <;> exact ordered
  | _ => exact ordered

/-- In every run in which flushes remove nothing later than what they have written, and neither
the stream nor the end of a process drops what is kept nowhere else, no result is lost, and
what flushes remove had come before their snapshots. If flushes commit in order as well, the
rows have the latest of their results. -/
theorem nothing_lost {transitions : List (Transition ResultBuffers ResultLabel)}
    {last : ResultBuffers} (run : Run Step initial transitions last)
    (spares : ∀ transition ∈ transitions, transition.before.Spares transition.label) :
    last.NothingLost ∧
      (∀ transition ∈ transitions, transition.after.NothingLost ∧
        transition.before.RemovesTaken transition.label transition.after) ∧
      ((∀ transition ∈ transitions, transition.before.InOrder transition.label) →
        last.LatestStands) := by
  have preserved : ∀ before label after, Guarded Step Spares before label after →
      Sound before → Sound after :=
    fun _ _ _ guarded inv => inv.next guarded.1 guarded.2
  rcases (run.guarded spares).invariant preserved Sound.initial with ⟨atEnd, inside⟩
  refine ⟨atEnd.kept, ?_, ?_⟩
  · intro transition member
    rcases inside transition member with ⟨before, after⟩
    exact ⟨after.kept, before.removesTaken (run.step_of_mem member) (spares transition member)⟩
  · intro inOrder
    have ordered : ∀ before label after, Guarded Step InOrder before label after →
        before.applied.Pairwise Ordered → after.applied.Pairwise Ordered :=
      fun _ _ _ guarded before => ordered_next guarded.1 guarded.2 before
    exact latestStands_of_pairwise ((run.guarded inOrder).invariant ordered List.Pairwise.nil).1

/-- A second result for a log comes while the first one is being flushed, and Redis cannot be
reached. -/
def lateResult : List ResultLabel :=
  [.enqueue 0 1, .xadd 0 true true 0, .append 0, .fire 1, .enqueue 0 1, .xadd 2 false false 0,
    .append 2, .bulk 1 true .ok, .remove 1]

/-- The flush removes both results. The second one was not in its snapshot, and is gone. -/
theorem late_result_lost :
    ∃ transitions last, Run Step initial transitions last ∧ ¬last.NothingLost ∧
      ¬∀ transition ∈ transitions,
        transition.before.RemovesTaken transition.label transition.after := by
  have passed : (execute next initial lateResult).any (fun outcome =>
      decide (outcome.2.handed = [⟨0, 1, 0⟩, ⟨1, 1, 1⟩] ∧ outcome.2.applied = [⟨0, 1, 0⟩] ∧
        outcome.2.wal = [⟨0, 0, 1⟩] ∧
        ∃ transition ∈ outcome.1, transition.label = .remove 1 ∧
          ⟨⟨1, 1, 1⟩, none⟩ ∈ transition.before.buffers 0 ∧ transition.after.buffers 0 = [] ∧
          (transition.before.threads 1).taken = 1)) = true := by decide
  have empty : ∀ process, (execute next initial lateResult).all (fun outcome =>
      decide (outcome.2.buffers process = [])) = true := by
    intro process
    cases process with
    | zero => decide
    | succ process => rfl
  cases executed : execute next initial lateResult with
  | none =>
      rw [executed] at passed
      cases passed
  | some outcome =>
      rw [executed] at passed empty
      rcases of_decide_eq_true passed with
        ⟨handed, applied, wal, transition, member, label, buffered, removed, taken⟩
      refine ⟨outcome.1, outcome.2, Run.of_execute executed, ?_, ?_⟩
      · intro kept
        rcases kept ⟨1, 1, 1⟩ (by rw [handed]; simp) with
          ⟨later, inHanded, _, isLater, inTable | ⟨process, item, inBuffer, _⟩ | inStream⟩
        · rw [applied, List.mem_singleton] at inTable
          rw [inTable] at isLater
          exact absurd isLater (by decide)
        · rw [of_decide_eq_true (empty process)] at inBuffer
          cases inBuffer
        · rcases inStream with ⟨entry, inWal, isCall⟩
          rw [wal, List.mem_singleton] at inWal
          rw [handed] at inHanded
          subst inWal
          rcases List.mem_cons.mp inHanded with rfl | isSecond
          · exact absurd isLater (by decide)
          · rw [List.mem_singleton.mp isSecond] at isCall
            exact absurd isCall (by decide)
      · intro removes
        have early := removes transition member 1 label 0 _ buffered (by rw [removed]; simp)
        rw [taken] at early
        exact absurd early (by decide)

def firstItem : BufferItem := ⟨⟨0, 1, 0⟩, some 0⟩

/-- The first result is flushed. -/
theorem nothing_lost_first :
    ∃ transitions last, Run Step initial transitions last ∧ last.applied = [⟨0, 1, 0⟩] ∧
      last.buffers 0 = [] ∧ last.NothingLost := by
  have written := Run.exists_labels_of_execute
    (fun state : ResultBuffers =>
      state.threads 1 = ⟨0, .writing [firstItem] [] [firstItem], [], 1, none⟩ ∧
        state.buffers 0 = [firstItem] ∧ state.applied = [⟨0, 1, 0⟩])
    (show ((execute next initial [.enqueue 0 1, .xadd 0 true true 0, .append 0, .fire 1,
      .bulk 1 true .ok]).any _) = true by decide)
  rcases written with ⟨transitions, last, run, labels, thread, buffer, applied⟩
  have removed : Step last (.remove 1) ((last.setBuffer 0 []).setStage 1
      (.deleting [firstItem] [firstItem])) := by
    simp only [Step, next, thread, bufferOf, buffer]
    rfl
  have whole := run.append (.cons removed (.nil _))
  refine ⟨_, _, whole, applied, ?_, (nothing_lost whole ?_).1⟩
  · simp [setStage, setThread, setBuffer]
  · intro transition member
    rcases List.mem_append.mp member with before | isLast
    · have label := labels transition before
      simp only [List.mem_cons, List.not_mem_nil, or_false] at label
      rcases label with label | label | label | label | label <;> rw [label]
      case' inr.inl => exact fun _ entry none => by cases none
      all_goals trivial
    · rw [List.mem_singleton.mp isLast]
      intro _ rows ok isWriting item inBuffer _
      rw [thread] at isWriting
      cases isWriting
      rw [bufferOf, thread, buffer] at inBuffer
      exact ⟨item, inBuffer, rfl, Nat.le_refl _⟩

end ResultBuffers

end Klsmsc
