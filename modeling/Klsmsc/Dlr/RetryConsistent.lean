import Klsmsc.Dlr.RetryBuffer

/-!
# The two keys of the retry buffer

The Hash is written first and the ZSET after it, by separate commands. The keys list the same fields
as long as the second command of an operation still finds what the first one has left behind: the
field is buffered when its entry is added, it is gone when its entry is removed, and a retry count
is written for a field that has its entry.

`increment_retry_count` does not look whether its item is still there. When the replayed report was
dropped as a foreign one, which deletes the item, it comes back without an entry and never expires.
-/

namespace Klsmsc

open Library

/-- After a field is added to the Hash its entry is added, and after a field is deleted from it its
entry is removed. -/
def WritesFollow : (command : RetryCommand) → RetryReply command → Option RetryCommand → Prop
  | .hsetnx field _, added, next => (show Bool from added) = true → next = some (.zaddNx field)
  | .hdel field, _, next => next = some (.zrem field)
  | _, _, _ => True

theorem writesFollow_of_none {command : RetryCommand} {reply : RetryReply command}
    (next : Option RetryCommand) (last : WritesFollow command reply none) :
    WritesFollow command reply next := by
  cases command with
  | hsetnx field item =>
      intro added
      simp [WritesFollow, added] at last
  | hdel field => simp [WritesFollow] at last
  | _ => trivial

section Obeys

open Program (Obeys perform)

variable {Result Other : Type}

theorem obeys_bind {program : RetryProgram Result} {rest : Result → RetryProgram Other}
    (obeys : program.Obeys WritesFollow) (later : ∀ result, (rest result).Obeys WritesFollow) :
    (program >>= rest).Obeys WritesFollow :=
  Obeys.bind (fun _ _ next => writesFollow_of_none next) obeys later

theorem obeys_delete (field : String) {rest : RetryProgram Result}
    (later : rest.Obeys WritesFollow) :
    (do
      let _ ← perform (RetryCommand.hdel field)
      let _ ← perform (RetryCommand.zrem field)
      rest : RetryProgram Result).Obeys WritesFollow := by
  refine Obeys.perform_bind (fun _ => rfl) fun _ => ?_
  exact Obeys.perform_bind (fun _ => trivial) fun _ => later

theorem bufferUnmatchedDlr_obeys (ownershipFilter : Bool) (dlr : UnmatchedDlr) :
    (bufferUnmatchedDlr ownershipFilter dlr).Obeys WritesFollow := by
  have buffers : (do
      let added : Bool ← perform (RetryCommand.hsetnx dlr.field ⟨dlr, 0, none⟩)
      if added then
        let _ ← perform (RetryCommand.zaddNx dlr.field)
        return true
      else return true : RetryProgram Bool).Obeys WritesFollow := by
    refine Obeys.perform_bind ?_ ?_
    · rintro (_ | _) added
      · exact absurd added Bool.false_ne_true
      · rfl
    · rintro (_ | _)
      · exact Obeys.pure true
      · exact Obeys.perform_bind (fun _ => trivial) fun _ => Obeys.pure true
  unfold bufferUnmatchedDlr
  split
  · exact Obeys.pure false
  · split
    · refine Obeys.perform_bind (fun _ => trivial) ?_
      rintro (_ | _)
      · exact obeys_delete dlr.field (Obeys.pure false)
      · exact buffers
    · exact buffers

theorem collectItems_obeys (entries : List (String × Option RetryItem)) :
    (collectItems entries).Obeys WritesFollow := by
  induction entries with
  | nil => exact Obeys.pure []
  | cons entry rest ih =>
      obtain ⟨field, _ | item⟩ := entry
      · exact Obeys.perform_bind (fun _ => trivial) fun _ => ih
      · exact obeys_bind ih fun _ => Obeys.pure _

theorem indexItems_obeys (entries : List (String × RetryItem)) :
    (indexItems entries).Obeys WritesFollow := by
  induction entries with
  | nil => exact Obeys.pure []
  | cons entry rest ih =>
      refine Obeys.perform_bind (fun _ => trivial) fun _ => ?_
      exact obeys_bind ih fun _ => Obeys.pure _

theorem popRetryBuffer_obeys (limit : ℕ) : (popRetryBuffer limit).Obeys WritesFollow := by
  refine Obeys.perform_bind (fun _ => trivial) fun fields => ?_
  split
  · exact Obeys.perform_bind (fun _ => trivial) fun _ => indexItems_obeys _
  · exact Obeys.perform_bind (fun _ => trivial) fun _ => collectItems_obeys _

theorem removeRetryItem_obeys (field : String) : (removeRetryItem field).Obeys WritesFollow :=
  obeys_delete field (Obeys.pure _)

theorem incrementRetryCount_obeys (field : String) (item : RetryItem) :
    (incrementRetryCount field item).Obeys WritesFollow := by
  unfold incrementRetryCount
  dsimp only
  split
  · exact removeRetryItem_obeys field
  · exact Obeys.perform_bind (fun _ => trivial) fun _ => Obeys.pure _

theorem cleanupExpired_obeys : cleanupExpired.Obeys WritesFollow := by
  refine Obeys.perform_bind (fun _ => trivial) fun expired => ?_
  split
  · exact Obeys.pure 0
  · exact Obeys.perform_bind (fun _ => trivial) fun _ => Obeys.pure _

theorem retryItem_obeys (ownershipFilter : Bool) (item : RetryItem) :
    (retryItem ownershipFilter item).Obeys WritesFollow := by
  refine Obeys.perform_bind (fun _ => trivial) ?_
  rintro (_ | _ | _ | _)
  · exact removeRetryItem_obeys _
  · exact incrementRetryCount_obeys _ item
  · exact obeys_bind (bufferUnmatchedDlr_obeys ownershipFilter _)
      fun _ => incrementRetryCount_obeys _ item
  · exact incrementRetryCount_obeys _ item

theorem retryItems_obeys (ownershipFilter : Bool) (items : List RetryItem) :
    (retryItems ownershipFilter items).Obeys WritesFollow := by
  induction items with
  | nil => exact Obeys.pure _
  | cons item rest ih =>
      refine Obeys.perform_bind (fun _ => trivial) ?_
      rintro (_ | _)
      · exact obeys_bind (retryItem_obeys ownershipFilter item) fun _ => ih
      · exact Obeys.pure _

theorem releaseLock_obeys : releaseLock.Obeys WritesFollow :=
  Obeys.perform_bind (fun _ => trivial) fun _ => Obeys.pure _

theorem flushDlrRetryBuffer_obeys (ownershipFilter : Bool) :
    (flushDlrRetryBuffer ownershipFilter).Obeys WritesFollow := by
  refine Obeys.perform_bind (fun _ => trivial) ?_
  rintro (_ | _)
  · exact Obeys.pure _
  · refine obeys_bind cleanupExpired_obeys fun _ => ?_
    refine Obeys.perform_bind (fun _ => trivial) fun size => ?_
    split
    · exact releaseLock_obeys
    · refine obeys_bind (popRetryBuffer_obeys 50) fun items => ?_
      exact obeys_bind (retryItems_obeys ownershipFilter items) fun _ => releaseLock_obeys

theorem receiveUnmatchedDlr_obeys (ownershipFilter : Bool) (dlr : UnmatchedDlr) :
    (receiveUnmatchedDlr ownershipFilter dlr).Obeys WritesFollow :=
  obeys_bind (bufferUnmatchedDlr_obeys ownershipFilter dlr) fun _ => Obeys.pure _

end Obeys

def RetryCommand.writesExpire : RetryCommand → Bool
  | .zaddNx _ | .zrem _ => true
  | _ => false

/-- The second command of an operation still finds what the first one has left, or another program
is about to make up for it. The programs are those that do not send the command. -/
def RetryCommand.Safe (keys : RetryKeys) (others : List (RetryProgram PUnit)) :
    RetryCommand → Prop
  | .hset field _ => field ∈ keys.expire ∨ Pool.Sends others (.zaddNx field)
  | .zaddNx field => field ∈ keys.hash ∨ Pool.Sends others (.zrem field)
  | .zrem field => field ∉ keys.hash ∨ Pool.Sends others (.zaddNx field)
  | _ => True

instance (keys : RetryKeys) (others : List (RetryProgram PUnit)) (command : RetryCommand) :
    Decidable (command.Safe keys others) := by
  cases command <;> unfold RetryCommand.Safe <;> infer_instance

namespace RetryBuffer

variable {buffer after : RetryBuffer}

def Safe (buffer : RetryBuffer) : RetryBufferLabel → Prop
  | .command index _ =>
      ∀ command ∈ buffer.ongoing[index]?.bind Program.head?,
        command.Safe buffer.shared (buffer.ongoing.eraseIdx index)
  | _ => True

instance (buffer : RetryBuffer) (label : RetryBufferLabel) : Decidable (buffer.Safe label) := by
  cases label <;> unfold Safe <;> infer_instance

structure Sound (buffer : RetryBuffer) : Prop where
  inStep : InStep { field | field ∈ buffer.shared.hash } { field | field ∈ buffer.shared.expire }
    { field | Pool.Sends buffer.ongoing (.zaddNx field) }
    { field | Pool.Sends buffer.ongoing (.zrem field) }
  obeys : ∀ program ∈ buffer.ongoing, program.Obeys WritesFollow

theorem sound_empty : empty.Sound where
  inStep := {
    added := by simp [empty]
    dropped := by simp [empty] }
  obeys := by simp [empty]

theorem Sound.start (sound : buffer.Sound) {program : RetryProgram PUnit}
    (obeys : program.Obeys WritesFollow) : Sound (buffer.start program) where
  inStep := sound.inStep.mono (fun _ sends => sends.append _) (fun _ sends => sends.append _)
  obeys := by
    intro other member
    rcases List.mem_append.mp member with before | new
    · exact sound.obeys other before
    · exact List.mem_singleton.mp new ▸ obeys

section Fields

variable {Value : Type} (table : AList fun _ : String => Value)

theorem fields_insert (field : String) (value : Value) :
    { other | other ∈ table.insert field value } = insert field { other | other ∈ table } :=
  Set.ext fun _ => AList.mem_insert table

theorem fields_erase (field : String) :
    { other | other ∈ table.erase field } = { other | other ∈ table } \ {field} :=
  Set.ext fun _ => AList.mem_erase.trans and_comm

theorem fields_foldl_erase (fields : List String) :
    { other | other ∈ fields.foldl (fun table field => table.erase field) table } =
      { other | other ∈ table } \ { other | other ∈ fields } := by
  induction fields generalizing table with
  | nil => simp
  | cons head rest ih =>
      rw [List.foldl_cons, ih, fields_erase, Set.sdiff_sdiff]
      congr 1
      ext other
      simp

end Fields

theorem answer_inStep {keys changed : RetryKeys} {others : List (RetryProgram PUnit)}
    {env : Surroundings} {command : RetryCommand} {reply : RetryReply command}
    {next : Option RetryCommand} (answered : keys.answer env command = some (reply, changed))
    (follows : WritesFollow command reply next) (safe : command.Safe keys others)
    (inStep : InStep { field | field ∈ keys.hash } { field | field ∈ keys.expire }
      { field | command = .zaddNx field ∨ Pool.Sends others (.zaddNx field) }
      { field | command = .zrem field ∨ Pool.Sends others (.zrem field) }) :
    InStep { field | field ∈ changed.hash } { field | field ∈ changed.expire }
      { field | next = some (.zaddNx field) ∨ Pool.Sends others (.zaddNx field) }
      { field | next = some (.zrem field) ∨ Pool.Sends others (.zrem field) } := by
  have later {hash expire : Set String}
      (meanwhile : InStep hash expire { field | Pool.Sends others (.zaddNx field) }
        { field | Pool.Sends others (.zrem field) }) :
      InStep hash expire
        { field | next = some (.zaddNx field) ∨ Pool.Sends others (.zaddNx field) }
        { field | next = some (.zrem field) ∨ Pool.Sends others (.zrem field) } :=
    meanwhile.mono (fun _ => .inr) (fun _ => .inr)
  cases command with
  | hsetnx field item =>
      simp only [reduceCtorEq, false_or] at inStep
      simp only [RetryKeys.answer] at answered
      split at answered
      · obtain ⟨rfl, rfl⟩ := Prod.mk.inj (Option.some.inj answered)
        exact later inStep
      · obtain ⟨rfl, rfl⟩ := Prod.mk.inj (Option.some.inj answered)
        have comes : next = some (.zaddNx field) := follows rfl
        rw [fields_insert]
        exact (later inStep).insert_left (.inr (.inl comes))
  | hset field item =>
      simp only [reduceCtorEq, false_or] at inStep
      obtain ⟨-, rfl⟩ := Prod.mk.inj (Option.some.inj answered)
      rw [fields_insert]
      exact later (inStep.insert_left safe)
  | hdel field =>
      simp only [reduceCtorEq, false_or] at inStep
      obtain ⟨-, rfl⟩ := Prod.mk.inj (Option.some.inj answered)
      rw [fields_erase]
      exact (later inStep).erase_left (.inl follows)
  | zaddNx field =>
      simp only [RetryCommand.zaddNx.injEq, reduceCtorEq, false_or] at inStep
      have owed : InStep { other | other ∈ keys.hash } { other | other ∈ keys.expire }
          (insert field { other | Pool.Sends others (.zaddNx other) })
          { other | Pool.Sends others (.zrem other) } :=
        inStep.mono (fun _ sends => sends.imp_left Eq.symm) (fun _ => id)
      have added := owed.insert_right safe
      simp only [RetryKeys.answer] at answered
      split at answered
      · rename_i present
        obtain ⟨-, rfl⟩ := Prod.mk.inj (Option.some.inj answered)
        rw [Set.insert_eq_of_mem (show field ∈ { other | other ∈ keys.expire } from present)]
          at added
        exact later added
      · obtain ⟨-, rfl⟩ := Prod.mk.inj (Option.some.inj answered)
        rw [fields_insert]
        exact later added
  | zrem field =>
      simp only [RetryCommand.zrem.injEq, reduceCtorEq, false_or] at inStep
      have owed : InStep { other | other ∈ keys.hash } { other | other ∈ keys.expire }
          { other | Pool.Sends others (.zaddNx other) }
          (insert field { other | Pool.Sends others (.zrem other) }) :=
        inStep.mono (fun _ => id) (fun _ sends => sends.imp_left Eq.symm)
      obtain ⟨-, rfl⟩ := Prod.mk.inj (Option.some.inj answered)
      rw [fields_erase]
      exact later (owed.erase_right safe)
  | pipeline fields =>
      simp only [reduceCtorEq, false_or] at inStep
      obtain ⟨-, rfl⟩ := Prod.mk.inj (Option.some.inj answered)
      rw [fields_foldl_erase, fields_foldl_erase]
      exact later (inStep.erase_both { field | field ∈ fields })
  | hgetall =>
      simp only [reduceCtorEq, false_or] at inStep
      simp only [RetryKeys.answer] at answered
      split at answered
      · obtain ⟨-, rfl⟩ := Prod.mk.inj (Option.some.inj answered)
        exact later inStep
      · cases answered
  | _ =>
      simp only [reduceCtorEq, false_or] at inStep
      obtain ⟨-, rfl⟩ := Prod.mk.inj (Option.some.inj answered)
      exact later inStep

theorem Sound.next (sound : buffer.Sound) {label : RetryBufferLabel} (safe : buffer.Safe label)
    (step : buffer.next label = some after) : after.Sound := by
  cases label with
  | receive ownershipFilter dlr =>
      cases step
      exact sound.start (receiveUnmatchedDlr_obeys ownershipFilter dlr)
  | flush ownershipFilter =>
      cases step
      exact sound.start (flushDlrRetryBuffer_obeys ownershipFilter)
  | command index env =>
      obtain ⟨command, rest, reply, advanced⟩ := Pool.advance_cases step
      obtain ⟨follows, obeys⟩ := advanced.obeys sound.obeys
      have safeCommand := safe command (by rw [advanced.found]; rfl)
      have inStep := sound.inStep
      simp only [advanced.sends_before] at inStep
      refine ⟨?_, obeys⟩
      simp only [advanced.sends_after]
      exact answer_inStep advanced.answered follows safeCommand inStep
  | expireLock =>
      cases step
      exact ⟨sound.inStep, sound.obeys⟩

def Between (buffer : RetryBuffer) : Prop :=
  ∀ program ∈ buffer.ongoing, ∀ command ∈ program.head?, command.writesExpire = false

instance (buffer : RetryBuffer) : Decidable buffer.Between :=
  inferInstanceAs (Decidable (∀ program ∈ buffer.ongoing, ∀ command ∈ program.head?, _))

theorem Sound.mem_iff (sound : buffer.Sound) (between : buffer.Between) (field : String) :
    field ∈ buffer.shared.hash ↔ field ∈ buffer.shared.expire := by
  have nothing : InStep { field | field ∈ buffer.shared.hash }
      { field | field ∈ buffer.shared.expire } ∅ ∅ :=
    sound.inStep.mono
      (fun field ⟨program, member, next⟩ =>
        Bool.noConfusion (between program member (.zaddNx field) next))
      (fun field ⟨program, member, next⟩ =>
        Bool.noConfusion (between program member (.zrem field) next))
  exact Set.ext_iff.mp nothing.eq field

/-- In a run whose second commands find what the first ones have left, the Hash and the ZSET have
the same fields whenever no operation is in progress. -/
theorem retry_buffer_consistent {transitions : List (Transition RetryBuffer RetryBufferLabel)}
    {last : RetryBuffer}
    (run : Run (fun before label after => before.next label = some after) empty transitions last)
    (safe : ∀ transition ∈ transitions, transition.before.Safe transition.label)
    {reached : RetryBuffer}
    (inRun : reached = last ∨ ∃ transition ∈ transitions, reached = transition.before)
    (between : reached.Between) (field : String) :
    field ∈ reached.shared.hash ↔ field ∈ reached.shared.expire := by
  have kept : ∀ before label after,
      Guarded (fun before label after => before.next label = some after) Safe before label after →
        Sound before → Sound after :=
    fun _ _ _ step sound => sound.next step.2 step.1
  have visited := Run.invariant kept (run.guarded safe) sound_empty
  rcases inRun with rfl | ⟨transition, member, rfl⟩
  · exact visited.1.mem_iff between field
  · exact (visited.2 transition member).1.mem_iff between field

/-- A report for the upstream id `a` on the first channel. -/
def lateDlr : UnmatchedDlr := ⟨1, "a", "delivered", "DELIVRD", "000", "+8613800138000", "", ""⟩

def unowned : Surroundings where
  now := 0
  owned := false
  listing := []
  late := false
  replayed := .unmatched

/-- A report is buffered, and a run of the task counts the retry. -/
theorem retry_buffer_consistent_counted :
    ∃ reached : RetryBuffer,
      lateDlr.field ∈ reached.shared.hash ∧ lateDlr.field ∈ reached.shared.expire := by
  have passed : ((execute next empty
      ([.receive false lateDlr, .command 0 unowned, .command 0 unowned, .flush false] ++
        List.replicate 10 (.command 1 unowned))).any fun outcome =>
      decide ((∀ transition ∈ outcome.1, transition.before.Safe transition.label) ∧
        outcome.2.Between ∧ lateDlr.field ∈ outcome.2.shared.hash)) = true := by
    decide
  obtain ⟨transitions, last, run, checked⟩ := Run.exists_of_execute _ passed
  obtain ⟨safe, between, buffered⟩ := of_decide_eq_true checked
  exact ⟨last, buffered, (retry_buffer_consistent run safe (.inl rfl) between _).mp buffered⟩

/-- A report is buffered before the ownership filter is switched on. The task replays it, drops it
as a foreign one, and writes its retry count: it is back in the Hash, and not in the ZSET. -/
theorem retry_buffer_forgets_expiry :
    ∃ transitions last,
      Run (fun before label after => before.next label = some after) empty transitions last ∧
        (∀ program ∈ last.ongoing, program.head? = none) ∧
        lateDlr.field ∈ last.shared.hash ∧ lateDlr.field ∉ last.shared.expire := by
  have passed : ((execute next empty
      ([.receive false lateDlr, .command 0 unowned, .command 0 unowned, .flush true] ++
        List.replicate 12 (.command 1 unowned))).any fun outcome =>
      decide ((∀ program ∈ outcome.2.ongoing, program.head? = none) ∧
        lateDlr.field ∈ outcome.2.shared.hash ∧
          lateDlr.field ∉ outcome.2.shared.expire)) = true := by
    decide
  obtain ⟨transitions, last, run, checked⟩ := Run.exists_of_execute _ passed
  exact ⟨transitions, last, run, of_decide_eq_true checked⟩

end RetryBuffer

end Klsmsc
