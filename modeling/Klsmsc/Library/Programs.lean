import Mathlib.Data.List.Perm.Basic
import Mathlib.Data.Set.Insert

/-!
# Programs that send commands

A program sends commands to a shared store, one at a time, and goes on with the replies. Programs
that run concurrently interleave at their commands: a pool keeps what is left of each of them next
to the store.

What a program does after a command can be asked of it as a rule on the command, its reply and the
next command of the program. Such rules go through the structure of a program.
-/

namespace Klsmsc.Library

universe u v

/-- A program over commands with their replies. -/
inductive Program {Command : Type u} (Reply : Command → Type u) (Result : Type u) : Type u where
  | done (result : Result)
  | send (command : Command) (next : Reply command → Program Reply Result)

namespace Program

variable {Command : Type u} {Reply : Command → Type u} {Result Other : Type u}

/-- One program after the other. -/
def bind : Program Reply Result → (Result → Program Reply Other) → Program Reply Other
  | done result, rest => rest result
  | send command next, rest => send command fun reply => (next reply).bind rest

instance : Monad (Program Reply) where
  pure := done
  bind := bind

/-- The program that sends one command. -/
def perform (command : Command) : Program Reply (Reply command) :=
  send command done

/-- The next command of a program. -/
def head? : Program Reply Result → Option Command
  | done _ => none
  | send command _ => some command

@[simp]
theorem head?_pure (result : Result) : (pure result : Program Reply Result).head? = none := rfl

@[simp]
theorem head?_perform (command : Command) :
    (perform command : Program Reply (Reply command)).head? = some command := rfl

@[simp]
theorem head?_perform_bind (command : Command) (rest : Reply command → Program Reply Result) :
    (perform command >>= rest).head? = some command := rfl

/-- Every command of the program, whatever the reply to it, is followed as the rule asks. -/
def Obeys (rule : (command : Command) → Reply command → Option Command → Prop) :
    Program Reply Result → Prop
  | done _ => True
  | send command next =>
      ∀ reply, rule command reply (next reply).head? ∧ (next reply).Obeys rule

namespace Obeys

variable {rule : (command : Command) → Reply command → Option Command → Prop}
  {program : Program Reply Result}

@[simp]
theorem pure (result : Result) : (Pure.pure result : Program Reply Result).Obeys rule :=
  trivial

theorem perform {command : Command} (ends : ∀ reply, rule command reply none) :
    (Program.perform command : Program Reply (Reply command)).Obeys rule :=
  fun reply => ⟨ends reply, trivial⟩

theorem perform_bind {command : Command} {rest : Reply command → Program Reply Result}
    (follows : ∀ reply, rule command reply (rest reply).head?)
    (obeys : ∀ reply, (rest reply).Obeys rule) :
    (Program.perform command >>= rest).Obeys rule :=
  fun reply => ⟨follows reply, obeys reply⟩

/-- A program after whose last command anything may come obeys the rule whatever comes. -/
theorem bind (free : ∀ command reply next, rule command reply none → rule command reply next)
    (obeys : program.Obeys rule) {rest : Result → Program Reply Other}
    (later : ∀ result, (rest result).Obeys rule) : (program >>= rest).Obeys rule := by
  change (program.bind rest).Obeys rule
  induction program with
  | done result => exact later result
  | send command next ih =>
      intro reply
      obtain ⟨follows, goesOn⟩ := obeys reply
      refine ⟨?_, ih reply goesOn⟩
      change rule command reply ((next reply).bind rest).head?
      cases here : next reply with
      | done result =>
          rw [here] at follows
          exact free _ _ _ follows
      | send command' next' =>
          rw [here] at follows
          exact follows

end Obeys

end Program

/-- A shared store, and what is left of the programs that run on it. -/
structure Pool (Shared : Type v) {Command : Type u} (Reply : Command → Type u) (Result : Type u)
    where
  shared : Shared
  ongoing : List (Program Reply Result)

namespace Pool

variable {Shared : Type v} {Command : Type u} {Reply : Command → Type u} {Result : Type u}
  {pool after : Pool Shared Reply Result} {index : ℕ}

/-- A program joins the pool. -/
def start (pool : Pool Shared Reply Result) (program : Program Reply Result) :
    Pool Shared Reply Result :=
  { pool with ongoing := pool.ongoing ++ [program] }

/-- The program at the index sends its next command to the store. -/
def advance (answer : Shared → (command : Command) → Option (Reply command × Shared))
    (pool : Pool Shared Reply Result) (index : ℕ) : Option (Pool Shared Reply Result) :=
  match pool.ongoing[index]? with
  | some (.send command next) =>
      (answer pool.shared command).map fun outcome =>
        ⟨outcome.2, pool.ongoing.set index (next outcome.1)⟩
  | _ => none

/-- Some program is about to send the command. -/
def Sends (programs : List (Program Reply Result)) (command : Command) : Prop :=
  ∃ program ∈ programs, program.head? = some command

instance [DecidableEq Command] (programs : List (Program Reply Result)) (command : Command) :
    Decidable (Sends programs command) :=
  inferInstanceAs (Decidable (∃ program ∈ programs, program.head? = some command))

theorem Sends.append {programs : List (Program Reply Result)} {command : Command}
    (sends : Sends programs command) (others : List (Program Reply Result)) :
    Sends (programs ++ others) command := by
  obtain ⟨program, member, next⟩ := sends
  exact ⟨program, List.mem_append_left _ member, next⟩

/-- What a step of a program does to the pool. -/
structure Advanced (answer : Shared → (command : Command) → Option (Reply command × Shared))
    (pool : Pool Shared Reply Result) (index : ℕ) (command : Command)
    (next : Reply command → Program Reply Result) (reply : Reply command)
    (after : Pool Shared Reply Result) : Prop where
  found : pool.ongoing[index]? = some (.send command next)
  answered : answer pool.shared command = some (reply, after.shared)
  replaced : after.ongoing = pool.ongoing.set index (next reply)

/-- A step comes from the answer to the next command of the program. -/
theorem advance_cases
    {answer : Shared → (command : Command) → Option (Reply command × Shared)}
    (advanced : pool.advance answer index = some after) :
    ∃ command next reply, Advanced answer pool index command next reply after := by
  unfold advance at advanced
  split at advanced
  · rename_i command next found
    obtain ⟨⟨reply, shared⟩, answered, rfl⟩ := Option.map_eq_some_iff.mp advanced
    exact ⟨command, next, reply, found, answered, rfl⟩
  · simp at advanced

namespace Advanced

variable {answer : Shared → (command : Command) → Option (Reply command × Shared)}
  {command : Command} {next : Reply command → Program Reply Result} {reply : Reply command}

theorem inside (advanced : Advanced answer pool index command next reply after) :
    index < pool.ongoing.length :=
  (List.getElem?_eq_some_iff.mp advanced.found).1

theorem before_perm (advanced : Advanced answer pool index command next reply after) :
    pool.ongoing.Perm (.send command next :: pool.ongoing.eraseIdx index) := by
  obtain ⟨inside, found⟩ := List.getElem?_eq_some_iff.mp advanced.found
  rw [← found]
  exact (List.getElem_cons_eraseIdx_perm inside).symm

theorem after_perm (advanced : Advanced answer pool index command next reply after) :
    after.ongoing.Perm (next reply :: pool.ongoing.eraseIdx index) := by
  rw [advanced.replaced]
  exact List.set_perm_cons_eraseIdx advanced.inside _

/-- Before the step, a command is sent by the program itself or by another one. -/
theorem sends_before (advanced : Advanced answer pool index command next reply after)
    {other : Command} :
    Sends pool.ongoing other ↔ command = other ∨ Sends (pool.ongoing.eraseIdx index) other := by
  simp only [Sends, advanced.before_perm.mem_iff, List.exists_mem_cons_iff, Program.head?,
    Option.some.injEq]

/-- After the step, a command is sent by the rest of the program or by another program. -/
theorem sends_after (advanced : Advanced answer pool index command next reply after)
    {other : Command} :
    Sends after.ongoing other ↔
      (next reply).head? = some other ∨ Sends (pool.ongoing.eraseIdx index) other := by
  simp only [Sends, advanced.after_perm.mem_iff, List.exists_mem_cons_iff]

/-- A step of a program that obeys a rule keeps all programs of the pool within the rule. -/
theorem obeys {rule : (command : Command) → Reply command → Option Command → Prop}
    (advanced : Advanced answer pool index command next reply after)
    (obeys : ∀ program ∈ pool.ongoing, program.Obeys rule) :
    rule command reply (next reply).head? ∧ ∀ program ∈ after.ongoing, program.Obeys rule := by
  have own : Program.Obeys rule (.send command next) :=
    obeys _ (advanced.before_perm.mem_iff.mpr List.mem_cons_self)
  refine ⟨(own reply).1, ?_⟩
  intro program member
  rcases List.mem_cons.mp (advanced.after_perm.mem_iff.mp member) with rfl | other
  · exact (own reply).2
  · exact obeys _ (advanced.before_perm.mem_iff.mpr (List.mem_cons_of_mem _ other))

end Advanced

end Pool

section InStep

variable {Key : Type u} {left right adding adding' dropping dropping' : Set Key} {key : Key}

/-- Two sets are kept equal, the left one written first. A key that only the left one has is still
to be added to the right one, and a key that only the right one has is still to be dropped. -/
structure InStep (left right adding dropping : Set Key) : Prop where
  added : ∀ key ∈ left, key ∉ right → key ∈ adding
  dropped : ∀ key ∈ right, key ∉ left → key ∈ dropping

namespace InStep

/-- With nothing still to come the sets are equal. -/
theorem eq (inStep : InStep left right ∅ ∅) : left = right := by
  ext key
  constructor
  · intro inLeft
    by_contra absent
    exact inStep.added key inLeft absent
  · intro inRight
    by_contra absent
    exact inStep.dropped key inRight absent

theorem mono (inStep : InStep left right adding dropping) (adds : adding ⊆ adding')
    (drops : dropping ⊆ dropping') : InStep left right adding' dropping' where
  added key inLeft absent := adds (inStep.added key inLeft absent)
  dropped key inRight absent := drops (inStep.dropped key inRight absent)

theorem insert_left (inStep : InStep left right adding dropping)
    (covered : key ∈ right ∨ key ∈ adding) : InStep (insert key left) right adding dropping where
  added other inLeft absent := by
    rcases inLeft with rfl | inLeft
    · exact covered.resolve_left absent
    · exact inStep.added other inLeft absent
  dropped other inRight absent :=
    inStep.dropped other inRight fun inLeft => absent (Set.mem_insert_of_mem _ inLeft)

theorem erase_left (inStep : InStep left right adding dropping) (covered : key ∈ dropping) :
    InStep (left \ {key}) right adding dropping where
  added other inLeft absent := inStep.added other inLeft.1 absent
  dropped other inRight absent := by
    by_cases same : other = key
    · exact same ▸ covered
    · exact inStep.dropped other inRight fun inLeft => absent ⟨inLeft, same⟩

/-- The key that was still to be added is there now. -/
theorem insert_right (inStep : InStep left right (insert key adding) dropping)
    (kept : key ∈ left ∨ key ∈ dropping) : InStep left (insert key right) adding dropping where
  added other inLeft absent := by
    have elsewhere : other ≠ key := fun same => absent (same ▸ Set.mem_insert _ _)
    have missing : other ∉ right := fun inRight => absent (Set.mem_insert_of_mem _ inRight)
    exact (inStep.added other inLeft missing).resolve_left elsewhere
  dropped other inRight absent := by
    rcases inRight with rfl | inRight
    · exact kept.resolve_left absent
    · exact inStep.dropped other inRight absent

/-- The key that was still to be dropped is gone now. -/
theorem erase_right (inStep : InStep left right adding (insert key dropping))
    (gone : key ∉ left ∨ key ∈ adding) : InStep left (right \ {key}) adding dropping where
  added other inLeft absent := by
    by_cases same : other = key
    · subst same
      exact gone.resolve_left (not_not.mpr inLeft)
    · exact inStep.added other inLeft fun inRight => absent ⟨inRight, same⟩
  dropped other inRight absent :=
    (inStep.dropped other inRight.1 absent).resolve_left inRight.2

/-- Keys that leave both sets at once. -/
theorem erase_both (inStep : InStep left right adding dropping) (keys : Set Key) :
    InStep (left \ keys) (right \ keys) adding dropping where
  added other inLeft absent :=
    inStep.added other inLeft.1 fun inRight => absent ⟨inRight, inLeft.2⟩
  dropped other inRight absent :=
    inStep.dropped other inRight.1 fun inLeft => absent ⟨inLeft, inRight.2⟩

end InStep

end InStep

end Klsmsc.Library
