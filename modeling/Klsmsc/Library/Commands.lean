import Mathlib.Data.List.Basic

/-!
# Commands that can raise

A command works on a state and either returns a value or raises an error; both
ways it leaves a state behind. A triple bounds what a command can do: from a
state that meets the precondition it returns in a state that meets the first
postcondition, or raises in a state that meets the second. The rules below
compose triples along the structure of a program; the loop rule carries an
invariant that names the entries already worked on.
-/

namespace Klsmsc.Library

universe u v

variable {Error State Value Result : Type u} {Entry : Type v}

/-- `Triple pre command normally raising`: run from a state in `pre`, the
command returns in `normally` or raises in `raising`. -/
def Triple (pre : State → Prop) (command : EStateM Error State Value)
    (normally : Value → State → Prop) (raising : Error → State → Prop) : Prop :=
  ∀ state, pre state →
    match command state with
    | .ok value after => normally value after
    | .error error after => raising error after

/-- `try`: the errors that are caught go to the handler, in the state that the
body has left behind. -/
def catching (caught : Error → Bool) (body : EStateM Error State Value)
    (handler : Error → EStateM Error State Value) : EStateM Error State Value := fun state =>
  match body state with
  | .ok value after => .ok value after
  | .error error after => if caught error then handler error after else .error error after

/-- The state that a command leaves behind, whichever way it ends. -/
def finalState (command : EStateM Error State Value) (state : State) : State :=
  match command state with
  | .ok _ after => after
  | .error _ after => after

namespace Triple

variable {pre pre' : State → Prop} {command : EStateM Error State Value}
  {normally normally' : Value → State → Prop} {raising raising' : Error → State → Prop}

theorem weaken (triple : Triple pre' command normally' raising')
    (stronger : ∀ state, pre state → pre' state)
    (weaker : ∀ value state, normally' value state → normally value state)
    (weakerRaising : ∀ error state, raising' error state → raising error state) :
    Triple pre command normally raising := by
  intro state holds
  have outcome := triple state (stronger state holds)
  cases result : command state with
  | ok value after =>
      rw [result] at outcome
      exact weaker value after outcome
  | error error after =>
      rw [result] at outcome
      exact weakerRaising error after outcome

theorem pure {value : Value} :
    Triple (normally value) (Pure.pure value : EStateM Error State Value) normally raising := by
  intro state holds
  exact holds

theorem bind {next : Value → EStateM Error State Result}
    {middle : Value → State → Prop} {normally : Result → State → Prop}
    (first : Triple pre command middle raising)
    (second : ∀ value, Triple (middle value) (next value) normally raising) :
    Triple pre (command >>= next) normally raising := by
  intro state holds
  have outcome := first state holds
  change match EStateM.bind command next state with
    | .ok value after => normally value after
    | .error error after => raising error after
  unfold EStateM.bind
  cases result : command state with
  | ok value after =>
      rw [result] at outcome
      exact second value after outcome
  | error error after =>
      rw [result] at outcome
      exact outcome

/-- A sequence, with the condition between its parts given. -/
theorem seq {next : Value → EStateM Error State Result}
    (middle : Value → State → Prop) {normally : Result → State → Prop}
    (first : Triple pre command middle raising)
    (second : ∀ value, Triple (middle value) (next value) normally raising) :
    Triple pre (command >>= next) normally raising :=
  first.bind second

/-- A triple serves for a single state that meets its precondition. -/
theorem at_state {current : State} (triple : Triple pre command normally raising)
    (holds : pre current) : Triple (fun state => state = current) command normally raising := by
  rintro state rfl
  exact triple state holds

/-- A fact in the precondition is a hypothesis. -/
theorem assume {fact : Prop} (holds : fact → Triple pre command normally raising) :
    Triple (fun state => fact ∧ pre state) command normally raising := by
  rintro state ⟨given, holdsPre⟩
  exact holds given state holdsPre

/-- A precondition that says that something exists. -/
theorem exists_pre {Index : Type v} {pre : Index → State → Prop}
    (each : ∀ index, Triple (pre index) command normally raising) :
    Triple (fun state => ∃ index, pre index state) command normally raising := by
  rintro state ⟨index, holds⟩
  exact each index state holds

/-- Reading the state fixes it for what comes next. -/
theorem get_bind {next : State → EStateM Error State Value}
    (rest : ∀ current, pre current →
      Triple (fun state => state = current) (next current) normally raising) :
    Triple pre (get >>= next) normally raising := by
  intro state holds
  exact rest state holds state rfl

theorem modify {update : State → State} {after : State → Prop}
    (changed : ∀ state, pre state → after (update state)) :
    Triple pre (modify update : EStateM Error State PUnit) (fun _ => after) raising := by
  intro state holds
  exact changed state holds

theorem ite {condition : Prop} [Decidable condition] {other : EStateM Error State Value}
    (positive : condition → Triple pre command normally raising)
    (negative : ¬condition → Triple pre other normally raising) :
    Triple pre (if condition then command else other) normally raising := by
  split
  · exact positive ‹_›
  · exact negative ‹_›

/-- Two triples of one command hold together. -/
theorem and (left : Triple pre command normally raising)
    (right : Triple pre' command normally' raising') :
    Triple (fun state => pre state ∧ pre' state) command
      (fun value state => normally value state ∧ normally' value state)
      (fun error state => raising error state ∧ raising' error state) := by
  intro state holds
  have leftOutcome := left state holds.1
  have rightOutcome := right state holds.2
  cases result : command state with
  | ok value after =>
      rw [result] at leftOutcome rightOutcome
      exact ⟨leftOutcome, rightOutcome⟩
  | error error after =>
      rw [result] at leftOutcome rightOutcome
      exact ⟨leftOutcome, rightOutcome⟩

/-- A loop over a list, with an invariant of the entries done so far. -/
theorem forM {body : Entry → EStateM Error State PUnit} {entries : List Entry}
    (invariant : List Entry → State → Prop)
    (step : ∀ done entry rest, entries = done ++ entry :: rest →
      Triple (invariant done) (body entry) (fun _ => invariant (done ++ [entry])) raising) :
    Triple (invariant []) (entries.forM body) (fun _ => invariant entries) raising := by
  have rest : ∀ done rest, entries = done ++ rest →
      Triple (invariant done) (rest.forM body) (fun _ => invariant entries) raising := by
    intro done rest
    induction rest generalizing done with
    | nil =>
        intro whole
        have equal : done = entries := by simp [whole]
        subst equal
        intro state holds
        exact holds
    | cons entry rest ih =>
        intro whole
        refine Triple.bind (step done entry rest whole) ?_
        intro _
        exact ih (done ++ [entry]) (by simp [whole])
  exact rest [] entries rfl

theorem catching {caught : Error → Bool} {handler : Error → EStateM Error State Value}
    (middle : Error → State → Prop)
    (body : Triple pre command normally middle)
    (escapes : ∀ error state, caught error = false → middle error state → raising error state)
    (handled : ∀ error, caught error = true →
      Triple (middle error) (handler error) normally raising) :
    Triple pre (catching caught command handler) normally raising := by
  intro state holds
  have outcome := body state holds
  unfold Library.catching
  cases result : command state with
  | ok value after =>
      rw [result] at outcome
      exact outcome
  | error error after =>
      rw [result] at outcome
      by_cases takes : caught error = true
      · simp only [if_pos takes]
        exact handled error takes after outcome
      · simp only [if_neg takes]
        exact escapes error after (by simpa using takes) outcome

/-- What a triple says of the state at the end. -/
theorem finalState {property : State → Prop}
    (triple : Triple pre command (fun _ => property) (fun _ => property))
    {state : State} (holds : pre state) : property (finalState command state) := by
  have outcome := triple state holds
  unfold Library.finalState
  cases result : command state with
  | ok value after =>
      rw [result] at outcome
      exact outcome
  | error error after =>
      rw [result] at outcome
      exact outcome

end Triple

/-- From every state the command returns. -/
def Calm (command : EStateM Error State Value) : Prop :=
  ∀ state, ∃ value after, command state = .ok value after

namespace Calm

variable {command other : EStateM Error State Value}
  {next : Value → EStateM Error State Result}

theorem pure {value : Value} : Calm (Pure.pure value : EStateM Error State Value) :=
  fun state => ⟨value, state, rfl⟩

theorem modify (update : State → State) :
    Calm (modify update : EStateM Error State PUnit) :=
  fun state => ⟨⟨⟩, update state, rfl⟩

theorem bind (first : Calm command) (second : ∀ value, Calm (next value)) :
    Calm (command >>= next) := by
  intro state
  rcases first state with ⟨value, middle, firstEnds⟩
  rcases second value middle with ⟨result, after, secondEnds⟩
  refine ⟨result, after, ?_⟩
  change EStateM.bind command next state = _
  rw [EStateM.bind, firstEnds]
  exact secondEnds

theorem get_bind {next : State → EStateM Error State Value} (rest : ∀ state, Calm (next state)) :
    Calm (get >>= next) :=
  fun state => rest state state

theorem ite {condition : Prop} [Decidable condition] (positive : condition → Calm command)
    (negative : ¬condition → Calm other) : Calm (if condition then command else other) := by
  split
  · exact positive ‹_›
  · exact negative ‹_›

theorem forM {body : Entry → EStateM Error State PUnit} {entries : List Entry}
    (each : ∀ entry, Calm (body entry)) : Calm (entries.forM body) := by
  induction entries with
  | nil => exact pure
  | cons entry entries ih => exact bind (each entry) fun _ => ih

theorem catching {caught : Error → Bool} {handler : Error → EStateM Error State Value}
    (body : Calm command) : Calm (catching caught command handler) := by
  intro state
  rcases body state with ⟨value, after, ends⟩
  exact ⟨value, after, by rw [Library.catching, ends]⟩

/-- A command that returns raises nothing. -/
theorem triple (calm : Calm command) {pre : State → Prop} {normally : Value → State → Prop}
    {raising raising' : Error → State → Prop} (triple : Triple pre command normally raising) :
    Triple pre command normally raising' := by
  intro state holds
  rcases calm state with ⟨value, after, ends⟩
  have outcome := triple state holds
  rw [ends] at outcome ⊢
  exact outcome

end Calm

/-- When the command returns it has kept a property of the state. -/
def Keeps (property : State → Prop) (command : EStateM Error State Value) : Prop :=
  Triple property command (fun _ => property) (fun _ _ => True)

namespace Keeps

variable {property : State → Prop} {command other : EStateM Error State Value}
  {next : Value → EStateM Error State Result}

theorem pure {value : Value} : Keeps property (Pure.pure value : EStateM Error State Value) :=
  fun _ holds => holds

theorem modify {update : State → State} (keeps : ∀ state, property state → property (update state)) :
    Keeps property (modify update : EStateM Error State PUnit) :=
  keeps

theorem bind (first : Keeps property command) (second : ∀ value, Keeps property (next value)) :
    Keeps property (command >>= next) :=
  Triple.bind first second

theorem get_bind {next : State → EStateM Error State Value}
    (rest : ∀ state, property state → Keeps property (next state)) :
    Keeps property (get >>= next) :=
  fun state holds => rest state holds state holds

theorem ite {condition : Prop} [Decidable condition]
    (positive : condition → Keeps property command)
    (negative : ¬condition → Keeps property other) :
    Keeps property (if condition then command else other) :=
  Triple.ite positive negative

theorem forM {body : Entry → EStateM Error State PUnit} {entries : List Entry}
    (each : ∀ entry ∈ entries, Keeps property (body entry)) :
    Keeps property (entries.forM body) := by
  induction entries with
  | nil => exact pure
  | cons entry entries ih =>
      rw [List.forall_mem_cons] at each
      exact bind each.1 fun _ => ih each.2

/-- A body that returns never comes to its handler. -/
theorem catching {caught : Error → Bool} {handler : Error → EStateM Error State Value}
    (calm : Calm command) (body : Keeps property command) :
    Keeps property (catching caught command handler) := by
  intro state holds
  rcases calm state with ⟨value, after, ends⟩
  have outcome := body state holds
  rw [ends] at outcome
  rw [Library.catching, ends]
  exact outcome

end Keeps

/-- The command keeps a property of the state, whichever way it ends. -/
def Upholds (property : State → Prop) (command : EStateM Error State Value) : Prop :=
  Triple property command (fun _ => property) (fun _ => property)

namespace Upholds

variable {property : State → Prop} {command other : EStateM Error State Value}
  {next : Value → EStateM Error State Result}

theorem pure {value : Value} : Upholds property (Pure.pure value : EStateM Error State Value) :=
  fun _ holds => holds

theorem throw {error : Error} :
    Upholds property (MonadExcept.throw error : EStateM Error State Value) :=
  fun _ holds => holds

theorem modify {update : State → State} (keeps : ∀ state, property state → property (update state)) :
    Upholds property (modify update : EStateM Error State PUnit) :=
  keeps

theorem bind (first : Upholds property command) (second : ∀ value, Upholds property (next value)) :
    Upholds property (command >>= next) :=
  Triple.bind first second

theorem get_bind {next : State → EStateM Error State Value}
    (rest : ∀ state, property state → Upholds property (next state)) :
    Upholds property (get >>= next) :=
  fun state holds => rest state holds state holds

theorem ite {condition : Prop} [Decidable condition]
    (positive : condition → Upholds property command)
    (negative : ¬condition → Upholds property other) :
    Upholds property (if condition then command else other) :=
  Triple.ite positive negative

theorem forM {body : Entry → EStateM Error State PUnit} {entries : List Entry}
    (each : ∀ entry ∈ entries, Upholds property (body entry)) :
    Upholds property (entries.forM body) := by
  induction entries with
  | nil => exact pure
  | cons entry entries ih =>
      rw [List.forall_mem_cons] at each
      exact bind each.1 fun _ => ih each.2

theorem catching {caught : Error → Bool} {handler : Error → EStateM Error State Value}
    (body : Upholds property command) (handled : ∀ error, Upholds property (handler error)) :
    Upholds property (catching caught command handler) :=
  Triple.catching (fun _ => property) body (fun _ _ _ holds => holds) fun error _ => handled error

end Upholds

end Klsmsc.Library
