import Mathlib.Data.List.Basic

/-!
# Runs of labelled transition systems

A system is a relation between a state, a label and the next state. A run is
kept as the list of its transitions, so that a property of single transitions
can be asked of every transition of a run, and a property of states of every
state that a run goes through. The rules below carry a fact about one step to
all runs; guarding a relation with a condition on its steps gives the runs all
of whose steps meet that condition.
-/

namespace Klsmsc.Library

universe u v

variable {State : Type u} {Label : Type v}

/-- One transition of a run, with the states on both sides of it. -/
structure Transition (State : Type u) (Label : Type v) where
  before : State
  label : Label
  after : State

/-- `Run step first transitions last`: from `first` the transitions lead, one
after the other, to `last`. -/
inductive Run (step : State → Label → State → Prop) :
    State → List (Transition State Label) → State → Prop where
  | nil (state : State) : Run step state [] state
  | cons {first middle last : State} {label : Label}
      {rest : List (Transition State Label)}
      (head : step first label middle) (tail : Run step middle rest last) :
      Run step first (⟨first, label, middle⟩ :: rest) last

/-- The steps of a relation that meet a condition on their state and label. -/
def Guarded (step : State → Label → State → Prop) (condition : State → Label → Prop)
    (before : State) (label : Label) (after : State) : Prop :=
  step before label after ∧ condition before label

/-- A state that some run from an initial state ends in. -/
def Reachable (initial : State → Prop) (step : State → Label → State → Prop)
    (state : State) : Prop :=
  ∃ first transitions, initial first ∧ Run step first transitions state

/-- Run labels one after the other, where the next state is computed. -/
def execute (next : State → Label → Option State) :
    State → List Label → Option (List (Transition State Label) × State)
  | state, [] => some ([], state)
  | state, label :: labels =>
      (next state label).bind fun after =>
        (execute next after labels).map fun rest => (⟨state, label, after⟩ :: rest.1, rest.2)

namespace Run

variable {step : State → Label → State → Prop}

theorem append {first middle last : State} {left right : List (Transition State Label)}
    (leftRun : Run step first left middle) (rightRun : Run step middle right last) :
    Run step first (left ++ right) last := by
  induction leftRun with
  | nil state => exact rightRun
  | cons head tail ih => exact Run.cons head (ih rightRun)

theorem step_of_mem {first last : State} {transitions : List (Transition State Label)}
    (run : Run step first transitions last) {transition : Transition State Label}
    (member : transition ∈ transitions) :
    step transition.before transition.label transition.after := by
  induction run with
  | nil state => simp at member
  | cons head tail ih =>
      rcases List.mem_cons.mp member with rfl | inTail
      · exact head
      · exact ih inTail

/-- An invariant of the single steps holds before and after every transition
of a run that starts in it, and at the run's end. -/
theorem invariant {invariant : State → Prop}
    (preserved : ∀ before label after, step before label after →
      invariant before → invariant after)
    {first last : State} {transitions : List (Transition State Label)}
    (run : Run step first transitions last) (initially : invariant first) :
    invariant last ∧
      ∀ transition ∈ transitions, invariant transition.before ∧ invariant transition.after := by
  induction run with
  | nil state => exact ⟨initially, by simp⟩
  | cons head tail ih =>
      have next := preserved _ _ _ head initially
      rcases ih next with ⟨atEnd, inside⟩
      refine ⟨atEnd, ?_⟩
      intro transition member
      rcases List.mem_cons.mp member with rfl | inTail
      · exact ⟨initially, next⟩
      · exact inside transition inTail

/-- A run whose transitions all meet a condition is a run of the guarded steps. -/
theorem guarded {condition : State → Label → Prop} {first last : State}
    {transitions : List (Transition State Label)} (run : Run step first transitions last)
    (met : ∀ transition ∈ transitions, condition transition.before transition.label) :
    Run (Guarded step condition) first transitions last := by
  induction run with
  | nil state => exact Run.nil state
  | cons head tail ih =>
      refine Run.cons ⟨head, met _ List.mem_cons_self⟩ (ih ?_)
      intro transition member
      exact met transition (List.mem_cons_of_mem _ member)

/-- Two properties that agree on every step of an invariant agree on the runs
that start in the invariant. -/
theorem forall_iff {invariant : State → Prop} {left right : State → Label → State → Prop}
    (preserved : ∀ before label after, step before label after →
      invariant before → invariant after)
    (agree : ∀ before label after, step before label after → invariant before →
      (left before label after ↔ right before label after))
    {first last : State} {transitions : List (Transition State Label)}
    (run : Run step first transitions last) (initially : invariant first) :
    (∀ transition ∈ transitions, left transition.before transition.label transition.after) ↔
      ∀ transition ∈ transitions, right transition.before transition.label transition.after := by
  have inside := (run.invariant preserved initially).2
  constructor
  · intro holds transition member
    exact (agree _ _ _ (run.step_of_mem member) (inside transition member).1).mp
      (holds transition member)
  · intro holds transition member
    exact (agree _ _ _ (run.step_of_mem member) (inside transition member).1).mpr
      (holds transition member)

theorem of_execute {next : State → Label → Option State} {first last : State}
    {labels : List Label} {transitions : List (Transition State Label)}
    (executed : execute next first labels = some (transitions, last)) :
    Run (fun before label after => next before label = some after) first transitions last := by
  induction labels generalizing first transitions with
  | nil =>
      cases executed
      exact Run.nil _
  | cons label labels ih =>
      simp only [execute, Option.bind_eq_some_iff, Option.map_eq_some_iff] at executed
      rcases executed with ⟨after, head, ⟨rest, last'⟩, tail, equal⟩
      cases equal
      exact Run.cons head (ih tail)

theorem labels_of_execute {next : State → Label → Option State} {first last : State}
    {labels : List Label} {transitions : List (Transition State Label)}
    (executed : execute next first labels = some (transitions, last)) :
    transitions.map Transition.label = labels := by
  induction labels generalizing first transitions with
  | nil =>
      cases executed
      rfl
  | cons label labels ih =>
      simp only [execute, Option.bind_eq_some_iff, Option.map_eq_some_iff] at executed
      rcases executed with ⟨after, head, ⟨rest, last'⟩, tail, equal⟩
      cases equal
      rw [List.map_cons, ih tail]

/-- A check of an execution is a fact about a run with its labels. -/
theorem exists_labelled_of_execute {next : State → Label → Option State} {first : State}
    {labels : List Label} (check : List (Transition State Label) × State → Bool)
    (passed : (execute next first labels).any check = true) :
    ∃ transitions last,
      Run (fun before label after => next before label = some after) first transitions last ∧
        transitions.map Transition.label = labels ∧ check (transitions, last) = true := by
  cases executed : execute next first labels with
  | none => simp [executed] at passed
  | some outcome =>
      rw [executed] at passed
      exact ⟨outcome.1, outcome.2, of_execute executed, labels_of_execute executed, passed⟩

/-- A check of an execution is a fact about a run. -/
theorem exists_of_execute {next : State → Label → Option State} {first : State}
    {labels : List Label} (check : List (Transition State Label) × State → Bool)
    (passed : (execute next first labels).any check = true) :
    ∃ transitions last,
      Run (fun before label after => next before label = some after) first transitions last ∧
        check (transitions, last) = true := by
  rcases exists_labelled_of_execute check passed with ⟨transitions, last, run, -, checked⟩
  exact ⟨transitions, last, run, checked⟩

/-- A check of the state that an execution ends in, with the labels of the run. -/
theorem exists_labels_of_execute {next : State → Label → Option State} {first : State}
    {labels : List Label} (holds : State → Prop) [DecidablePred holds]
    (passed : ((execute next first labels).any fun outcome => decide (holds outcome.2)) = true) :
    ∃ transitions last,
      Run (fun before label after => next before label = some after) first transitions last ∧
        (∀ transition ∈ transitions, transition.label ∈ labels) ∧ holds last := by
  rcases exists_labelled_of_execute _ passed with ⟨transitions, last, run, isLabels, checked⟩
  refine ⟨transitions, last, run, ?_, of_decide_eq_true checked⟩
  intro transition member
  rw [← isLabels]
  exact List.mem_map_of_mem member

end Run

theorem Reachable.invariant {initial : State → Prop} {step : State → Label → State → Prop}
    {invariant : State → Prop} (initially : ∀ state, initial state → invariant state)
    (preserved : ∀ before label after, step before label after →
      invariant before → invariant after)
    {state : State} (reachable : Reachable initial step state) : invariant state := by
  rcases reachable with ⟨first, transitions, start, run⟩
  exact (run.invariant preserved (initially first start)).1

end Klsmsc.Library
