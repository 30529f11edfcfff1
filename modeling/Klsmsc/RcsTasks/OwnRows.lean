import Klsmsc.RcsTasks

/-!
# Results and the rows of their task

The UPDATEs of `apply_result` find rows by channel, batch and number. They reach only rows of the
task when no other row that they match is open, and a second application of a file changes nothing
as long as no row is opened again.
-/

namespace Klsmsc

open Library

def SmsLog.NamedIn (row : SmsLog) (mapping : List (String × Bool)) : Prop :=
  ∃ entry ∈ mapping, row.phoneNumber ∈ spellings entry.1

instance (row : SmsLog) (mapping : List (String × Bool)) : Decidable (row.NamedIn mapping) :=
  inferInstanceAs (Decidable (∃ entry ∈ mapping, _))

def SmsLog.Agreed (row : SmsLog) (mapping : List (String × Bool)) : Prop :=
  ∀ left ∈ mapping, ∀ right ∈ mapping, row.phoneNumber ∈ spellings left.1 →
    row.phoneNumber ∈ spellings right.1 → left.2 = right.2

instance (row : SmsLog) (mapping : List (String × Bool)) : Decidable (row.Agreed mapping) :=
  inferInstanceAs (Decidable (∀ left ∈ mapping, _))

def verdictStatus (ok : Bool) : SmsStatus :=
  if ok then .delivered else .failed

namespace RcsSystem

def verdicts (unicode : Unicode) (text : Option String) : List (String × Bool) :=
  text.elim [] (parseResultText unicode)

/-- A result changes the status of rows of its own task only, to what the file says of the number,
and a second application changes nothing. -/
def OwnRows (unicode : Unicode) (transition : Transition RcsSystem RcsEvent) : Prop :=
  ∀ index text now, transition.label = .apply index text now →
    ∀ task ∈ transition.before.tasks[index]?,
      (∀ (position : ℕ) (row changed : SmsLog), transition.before.rows[position]? = some row →
        transition.after.rows[position]? = some changed → changed.status ≠ row.status →
          row.id ∈ task.logs ∧ row.NamedIn (verdicts unicode text) ∧
            ∀ entry ∈ verdicts unicode text, row.phoneNumber ∈ spellings entry.1 →
              changed.status = verdictStatus entry.2) ∧
      ∀ again ∈ text, (index, again) ∈ transition.before.applied →
        transition.after.rows = transition.before.rows

/-- The open rows that a result is written to were submitted in its task, and the file does not
contradict itself about them. A row with an outcome is not opened again. -/
def Heeds (unicode : Unicode) (state : RcsSystem) : RcsEvent → Prop
  | .apply index text _ => ∀ task ∈ state.tasks[index]?, ∀ row ∈ state.rows, task.Covers row →
      row.NamedIn (verdicts unicode text) →
        row.id ∈ task.logs ∧ row.Agreed (verdicts unicode text)
  | .setStatus id status => ∀ row ∈ state.rows, row.id = id → ¬row.IsOpen →
      status ∉ [.sent, .queued, .pending]
  | _ => True

instance (unicode : Unicode) (state : RcsSystem) (event : RcsEvent) :
    Decidable (state.Heeds unicode event) :=
  match event with
  | .apply _ _ _ => inferInstanceAs (Decidable (∀ task ∈ _, ∀ row ∈ _, _))
  | .setStatus _ _ => inferInstanceAs (Decidable (∀ row ∈ _, _))
  | .insert _ => .isTrue trivial
  | .submit _ _ _ _ => .isTrue trivial
  | .poll _ _ => .isTrue trivial

end RcsSystem

/-! ### One row -/

namespace RcsSendTask

variable {task other : RcsSendTask} {now : ℕ} {mapping : List (String × Bool)}
  {row changed : SmsLog}

def outcome (task : RcsSendTask) (now : ℕ) (mapping : List (String × Bool)) (row : SmsLog) :
    SmsLog :=
  mapping.foldl (task.writeVerdict now) row

theorem writeBack_eq_map (rows : List SmsLog) :
    task.writeBack now mapping rows = rows.map (task.outcome now mapping) := by
  induction mapping generalizing rows with
  | nil => exact (List.map_id' rows).symm
  | cons entry mapping ih =>
      change task.writeBack now mapping _ = _
      rw [ih, List.map_map]
      rfl

structure Resolves (row changed : SmsLog) : Prop where
  id_eq : changed.id = row.id
  channelId_eq : changed.channelId = row.channelId
  batchId_eq : changed.batchId = row.batchId
  phoneNumber_eq : changed.phoneNumber = row.phoneNumber
  isOpen : changed.IsOpen → row.IsOpen

theorem Resolves.refl (row : SmsLog) : Resolves row row :=
  ⟨rfl, rfl, rfl, rfl, fun isOpen => isOpen⟩

structure Same (task other : RcsSendTask) : Prop where
  channelId_eq : other.channelId = task.channelId
  batchId_eq : other.batchId = task.batchId
  logs_eq : other.logs = task.logs

theorem covers_of_resolves (same : Same task other) (resolves : Resolves row changed)
    (covers : other.Covers changed) : task.Covers row := by
  rcases covers with ⟨channel, isOpen, batch⟩
  refine ⟨?_, resolves.isOpen isOpen, ?_⟩
  · rw [← resolves.channelId_eq, channel, same.channelId_eq]
  · rw [← resolves.batchId_eq, ← same.batchId_eq]
    exact batch

theorem outcome_of_not_covers (uncovered : ¬task.Covers row) :
    task.outcome now mapping row = row := by
  induction mapping with
  | nil => rfl
  | cons entry mapping ih =>
      have same : task.writeVerdict now row entry = row := if_neg fun both => uncovered both.1
      change task.outcome now mapping (task.writeVerdict now row entry) = row
      rw [same]
      exact ih

theorem not_isOpen_of_status {ok : Bool} (status : row.status = verdictStatus ok) :
    ¬row.IsOpen := by
  unfold SmsLog.IsOpen
  rw [status]
  cases ok <;> decide

theorem writeVerdict_of_names {entry : String × Bool} (covers : task.Covers row)
    (names : row.phoneNumber ∈ spellings entry.1) :
    Resolves row (task.writeVerdict now row entry) ∧
      ¬(task.writeVerdict now row entry).IsOpen ∧
        (task.writeVerdict now row entry).status = verdictStatus entry.2 := by
  unfold writeVerdict verdictStatus
  rw [if_pos ⟨covers, names⟩]
  split
  · have status : SmsStatus.delivered = verdictStatus true := rfl
    exact ⟨⟨rfl, rfl, rfl, rfl, fun _ => covers.2.1⟩, not_isOpen_of_status status, rfl⟩
  · have status : SmsStatus.failed = verdictStatus false := rfl
    exact ⟨⟨rfl, rfl, rfl, rfl, fun _ => covers.2.1⟩, not_isOpen_of_status status, rfl⟩

theorem outcome_cases (task : RcsSendTask) (now : ℕ) (mapping : List (String × Bool))
    (row : SmsLog) :
    task.outcome now mapping row = row ∧ ¬(task.Covers row ∧ row.NamedIn mapping) ∨
      task.Covers row ∧ Resolves row (task.outcome now mapping row) ∧
        ¬(task.outcome now mapping row).IsOpen ∧
          ∃ entry ∈ mapping, row.phoneNumber ∈ spellings entry.1 ∧
            (task.outcome now mapping row).status = verdictStatus entry.2 := by
  induction mapping with
  | nil =>
      refine Or.inl ⟨rfl, ?_⟩
      rintro ⟨-, entry, inside, -⟩
      cases inside
  | cons entry mapping ih =>
      have first : task.outcome now (entry :: mapping) row =
          task.outcome now mapping (task.writeVerdict now row entry) := rfl
      rw [first]
      by_cases matched : task.Covers row ∧ row.phoneNumber ∈ spellings entry.1
      · rcases writeVerdict_of_names matched.1 matched.2 with ⟨resolves, closed, status⟩
        have uncovered : ¬task.Covers (task.writeVerdict now row entry) :=
          fun covers => closed covers.2.1
        rw [outcome_of_not_covers uncovered]
        exact Or.inr ⟨matched.1, resolves, closed, entry, List.mem_cons_self, matched.2, status⟩
      · have same : task.writeVerdict now row entry = row := if_neg matched
        rw [same]
        rcases ih with ⟨stays, unnamed⟩ | ⟨covers, resolves, closed, found, inside, names, status⟩
        · refine Or.inl ⟨stays, ?_⟩
          rintro ⟨covers, found, inside, names⟩
          rcases List.mem_cons.mp inside with rfl | inRest
          · exact matched ⟨covers, names⟩
          · exact unnamed ⟨covers, found, inRest, names⟩
        · exact Or.inr ⟨covers, resolves, closed, found, List.mem_cons_of_mem _ inside, names,
            status⟩

theorem outcome_resolves : Resolves row (task.outcome now mapping row) := by
  rcases outcome_cases task now mapping row with ⟨stays, -⟩ | ⟨-, resolves, -⟩
  · rw [stays]
    exact Resolves.refl row
  · exact resolves

theorem not_covers_outcome (same : Same task other) :
    ¬(other.Covers (task.outcome now mapping row) ∧
      (task.outcome now mapping row).NamedIn mapping) := by
  rintro ⟨covers, named⟩
  rcases outcome_cases task now mapping row with ⟨stays, unnamed⟩ | ⟨-, -, closed, -⟩
  · rw [stays] at covers named
    exact unnamed ⟨covers_of_resolves same (Resolves.refl row) covers, named⟩
  · exact closed covers.2.1

end RcsSendTask

namespace RcsSystem

open RcsSendTask

variable {unicode : Unicode} {state after : RcsSystem} {event : RcsEvent}

/-- Every row of a task is there, and no row of a task is open that a result named which was applied
to the task. -/
structure Settled (unicode : Unicode) (state : RcsSystem) : Prop where
  known : ∀ task ∈ state.tasks, ∀ id ∈ task.logs, ∃ row ∈ state.rows, row.id = id
  inside : ∀ entry ∈ state.applied, entry.1 < state.tasks.length
  settled : ∀ entry ∈ state.applied, ∀ task, state.tasks[entry.1]? = some task →
    ∀ row ∈ state.rows, row.id ∈ task.logs →
      ¬(task.Covers row ∧ row.NamedIn (parseResultText unicode entry.2))

namespace Settled

theorem map_rows (settled : state.Settled unicode) {change : SmsLog → SmsLog}
    (resolves : ∀ row ∈ state.rows, Resolves row (change row)) :
    Settled unicode { state with rows := state.rows.map change } := by
  refine ⟨?_, settled.inside, ?_⟩
  · intro task member id its
    rcases settled.known task member id its with ⟨row, inside, rfl⟩
    exact ⟨change row, List.mem_map_of_mem inside, (resolves row inside).id_eq⟩
  · intro entry applied task found changed member its
    rcases List.mem_map.mp member with ⟨row, inside, rfl⟩
    rintro ⟨covers, named⟩
    have kept := resolves row inside
    rw [kept.id_eq] at its
    refine settled.settled entry applied task found row inside its ⟨?_, ?_⟩
    · exact covers_of_resolves ⟨rfl, rfl, rfl⟩ kept covers
    · rcases named with ⟨verdict, isVerdict, spelled⟩
      rw [kept.phoneNumber_eq] at spelled
      exact ⟨verdict, isVerdict, spelled⟩

theorem set_task (settled : state.Settled unicode) {index : ℕ} {task changed : RcsSendTask}
    (found : state.tasks[index]? = some task) (same : Same task changed) :
    Settled unicode { state with tasks := state.tasks.set index changed } := by
  rcases List.getElem?_eq_some_iff.mp found with ⟨within, its⟩
  refine ⟨?_, ?_, ?_⟩
  · intro other member id isLog
    rcases List.mem_or_eq_of_mem_set member with before | rfl
    · exact settled.known other before id isLog
    · rw [same.logs_eq] at isLog
      exact settled.known task (List.mem_of_getElem? found) id isLog
  · intro entry applied
    rw [List.length_set]
    exact settled.inside entry applied
  · intro entry applied other foundOther row member isLog
    rw [List.getElem?_set] at foundOther
    split at foundOther
    · rename_i isIndex
      cases foundOther
      rw [same.logs_eq] at isLog
      rintro ⟨covers, named⟩
      exact settled.settled entry applied task (isIndex ▸ found) row member isLog
        ⟨covers_of_resolves same (Resolves.refl row) covers, named⟩
    · exact settled.settled entry applied other foundOther row member isLog

theorem insert (settled : state.Settled unicode) {row : SmsLog}
    (isNew : ∀ other ∈ state.rows, other.id ≠ row.id) :
    Settled unicode { state with rows := state.rows ++ [row] } := by
  refine ⟨?_, settled.inside, ?_⟩
  · intro task member id isLog
    rcases settled.known task member id isLog with ⟨other, inside, its⟩
    exact ⟨other, List.mem_append_left _ inside, its⟩
  · intro entry applied task found other member isLog
    rcases List.mem_append.mp member with before | itself
    · exact settled.settled entry applied task found other before isLog
    · rw [List.mem_singleton.mp itself] at isLog
      rcases settled.known task (List.mem_of_getElem? found) row.id isLog with
        ⟨earlier, inside, its⟩
      exact absurd its (isNew earlier inside)

theorem submit (settled : state.Settled unicode) {task : RcsSendTask}
    (logs : ∀ id ∈ task.logs, ∃ row ∈ state.rows, row.id = id) :
    Settled unicode { state with tasks := state.tasks ++ [task] } := by
  refine ⟨?_, ?_, ?_⟩
  · intro other member
    rcases List.mem_append.mp member with before | itself
    · exact settled.known other before
    · rw [List.mem_singleton.mp itself]
      exact logs
  · intro entry applied
    have inside := settled.inside entry applied
    rw [List.length_append, List.length_singleton]
    omega
  · intro entry applied other found
    have inside := settled.inside entry applied
    rw [List.getElem?_append_left inside] at found
    exact settled.settled entry applied other found

theorem logs_submitTask {logs : List SmsLog} {channelId : ℕ} {batchId : Option ℕ}
    {answer : CreateAnswer} {task : RcsSendTask}
    (submitted : submitTask unicode logs channelId batchId answer = some task) :
    task.logs = logs.map SmsLog.id := by
  simp only [submitTask] at submitted
  split at submitted
  · cases answer <;> (cases submitted; rfl)
  · cases submitted

theorem apply (settled : state.Settled unicode) {index now : ℕ} {text : String}
    {task : RcsSendTask} (found : state.tasks[index]? = some task) :
    Settled unicode
      { rows := task.writeBack now (parseResultText unicode text) state.rows
        tasks := state.tasks.set index { task with state := .applied }
        applied := (index, text) :: state.applied } := by
  rw [RcsSendTask.writeBack_eq_map]
  have same : Same task { task with state := .applied } := ⟨rfl, rfl, rfl⟩
  have before : Settled unicode
      { rows := state.rows.map (task.outcome now (parseResultText unicode text))
        tasks := state.tasks.set index { task with state := .applied }
        applied := state.applied } :=
    (settled.set_task found same).map_rows fun row _ => outcome_resolves
  refine ⟨before.known, ?_, ?_⟩
  · intro entry member
    rcases List.mem_cons.mp member with rfl | earlier
    · rw [List.length_set]
      exact (List.getElem?_eq_some_iff.mp found).1
    · exact before.inside entry earlier
  · intro entry member other foundOther changed isRow isLog
    rcases List.mem_cons.mp member with rfl | earlier
    · rcases List.mem_map.mp isRow with ⟨row, -, rfl⟩
      rw [List.getElem?_set_self (List.getElem?_eq_some_iff.mp found).1] at foundOther
      cases foundOther
      exact not_covers_outcome same
    · exact before.settled entry earlier other foundOther changed isRow isLog

theorem empty : Settled unicode RcsSystem.empty :=
  ⟨List.forall_mem_nil _, List.forall_mem_nil _, List.forall_mem_nil _⟩

theorem step (settled : state.Settled unicode) (step : state.Step unicode event after)
    (heeds : state.Heeds unicode event) : after.Settled unicode := by
  unfold Step at step
  cases event with
  | insert row =>
      simp only [next] at step
      split at step
      · rename_i isNew
        cases step
        exact settled.insert isNew
      · cases step
  | submit logs channelId batchId answer =>
      rcases Option.map_eq_some_iff.mp step with ⟨task, submitted, rfl⟩
      refine settled.submit fun id isLog => ?_
      rw [logs_submitTask submitted] at isLog
      rcases List.mem_map.mp isLog with ⟨row, member, its⟩
      exact ⟨row, (List.mem_filter.mp member).1, its⟩
  | poll index status =>
      rcases Option.bind_eq_some_iff.mp step with ⟨task, found, step⟩
      split at step
      · cases step
        refine settled.set_task found ?_
        unfold RcsSendTask.poll
        split <;> exact ⟨rfl, rfl, rfl⟩
      · cases step
  | apply index text now =>
      rcases Option.bind_eq_some_iff.mp step with ⟨task, found, step⟩
      split at step
      · cases text with
        | none =>
            cases step
            exact settled
        | some text =>
            cases step
            exact settled.apply found
      · cases step
  | setStatus id status =>
      cases step
      refine settled.map_rows fun row member => ?_
      split
      · rename_i its
        refine ⟨rfl, rfl, rfl, rfl, fun isOpen => ?_⟩
        by_contra closed
        exact heeds row member its closed isOpen
      · exact Resolves.refl row

end Settled

/-! ### Runs -/

theorem rows_apply {index now : ℕ} {text : Option String} {task : RcsSendTask}
    (step : state.Step unicode (.apply index text now) after)
    (found : state.tasks[index]? = some task) :
    after.rows = state.rows.map (task.outcome now (verdicts unicode text)) := by
  rcases Option.bind_eq_some_iff.mp step with ⟨other, foundOther, step⟩
  rw [found] at foundOther
  cases foundOther
  split at step
  · cases text with
    | none =>
        cases step
        exact (List.map_id' state.rows).symm
    | some text =>
        cases step
        exact task.writeBack_eq_map state.rows
  · cases step

theorem status_apply {index now : ℕ} {text : Option String} {task : RcsSendTask}
    (found : state.tasks[index]? = some task)
    (heeds : state.Heeds unicode (.apply index text now)) {row : SmsLog} (member : row ∈ state.rows)
    (differs : (task.outcome now (verdicts unicode text) row).status ≠ row.status) :
    row.id ∈ task.logs ∧ row.NamedIn (verdicts unicode text) ∧
      ∀ entry ∈ verdicts unicode text, row.phoneNumber ∈ spellings entry.1 →
        (task.outcome now (verdicts unicode text) row).status = verdictStatus entry.2 := by
  rcases outcome_cases task now (verdicts unicode text) row with
    ⟨stays, -⟩ | ⟨covers, -, -, given, isGiven, names, status⟩
  · rw [stays] at differs
    exact absurd rfl differs
  · rcases heeds task found row member covers ⟨given, isGiven, names⟩ with ⟨isLog, agreed⟩
    refine ⟨isLog, ⟨given, isGiven, names⟩, fun entry inside spelled => ?_⟩
    rw [status, agreed given isGiven entry inside names spelled]

theorem rows_apply_again (settled : state.Settled unicode) {index now : ℕ} {text : String}
    (step : state.Step unicode (.apply index (some text) now) after) {task : RcsSendTask}
    (found : state.tasks[index]? = some task)
    (heeds : state.Heeds unicode (.apply index (some text) now))
    (applied : (index, text) ∈ state.applied) : after.rows = state.rows := by
  rw [rows_apply step found]
  have stays : ∀ row ∈ state.rows, task.outcome now (parseResultText unicode text) row = row := by
    intro row member
    rcases outcome_cases task now (parseResultText unicode text) row with
      ⟨stays, -⟩ | ⟨covers, -, -, given, isGiven, names, -⟩
    · exact stays
    · have isLog := (heeds task found row member covers ⟨given, isGiven, names⟩).1
      exact absurd ⟨covers, given, isGiven, names⟩
        (settled.settled _ applied task found row member isLog)
  exact (List.map_congr_left stays).trans (List.map_id' state.rows)

theorem ownRows_of_heeds (settled : state.Settled unicode) (step : state.Step unicode event after)
    (heeds : state.Heeds unicode event) : OwnRows unicode ⟨state, event, after⟩ := by
  rintro index text now rfl task found
  refine ⟨?_, ?_⟩
  · intro position row changed atRow atChanged differs
    change after.rows[position]? = some changed at atChanged
    rw [rows_apply step found, List.getElem?_map, atRow] at atChanged
    cases atChanged
    exact status_apply found heeds (List.mem_of_getElem? atRow) differs
  · rintro again rfl applied
    exact rows_apply_again settled step found heeds applied

/-- In every run in which no result matches an open row of another task, or contradicts itself about
an open row, and no row with an outcome is opened again, the results reach only their own rows. -/
theorem own_rows (unicode : Unicode) {transitions : List (Transition RcsSystem RcsEvent)}
    {last : RcsSystem} (run : Run (Step unicode) empty transitions last)
    (heeds : ∀ transition ∈ transitions, transition.before.Heeds unicode transition.label) :
    ∀ transition ∈ transitions, OwnRows unicode transition := by
  have preserved : ∀ before label after, Guarded (Step unicode) (Heeds unicode) before label after →
      before.Settled unicode → after.Settled unicode :=
    fun _ _ _ step settled => settled.step step.1 step.2
  have settled := ((run.guarded heeds).invariant preserved Settled.empty).2
  intro transition member
  exact ownRows_of_heeds (settled transition member).1 (run.step_of_mem member)
    (heeds transition member)

def thaiRow (id : ℕ) : SmsLog :=
  { id
    messageId := id
    upstreamMessageId := none
    accountId := 1
    channelId := some 1
    batchId := some 3
    phoneNumber := "+66812345678"
    countryCode := some "TH"
    senderId := none
    message := "Hello"
    messageCount := 1
    status := .pending
    costPrice := some 0
    sellingPrice := some 0
    currency := "USD"
    submitTime := some 0
    sentTime := none
    deliveryTime := none
    errorMessage := none
    refundedAt := none
    refundedBy := none
    refundedAmount := none }

/-- One task, whose result is applied twice. -/
theorem own_rows_twice :
    ∃ transitions last, Run (Step Unicode.ascii) empty transitions last ∧
      last.rows.map SmsLog.status = [.delivered] ∧
        ∀ transition ∈ transitions, OwnRows Unicode.ascii transition := by
  have passed : ((execute (next Unicode.ascii) empty
      [.insert (thaiRow 1), .submit [1] 1 (some 3) (.accepted (some "sn")), .setStatus 1 .sent,
        .poll 0 (some 5), .apply 0 (some "66812345678 delivered") 9,
        .apply 0 (some "66812345678 delivered") 10]).any fun outcome =>
      decide (outcome.2.rows.map SmsLog.status = [.delivered] ∧
        ∀ transition ∈ outcome.1,
          transition.before.Heeds Unicode.ascii transition.label)) = true := by
    decide
  rcases Run.exists_of_execute _ passed with ⟨transitions, last, run, checked⟩
  rcases of_decide_eq_true checked with ⟨statuses, heeds⟩
  exact ⟨transitions, last, run, statuses, own_rows Unicode.ascii run heeds⟩

/-- The transition applies a result that changes the status of the row at a position, which is not
one of the task. -/
def reachesOther (position : ℕ) (transition : Transition RcsSystem RcsEvent) : Bool :=
  match transition.label with
  | .apply index _ _ =>
      transition.before.tasks[index]?.any fun task =>
        transition.before.rows[position]?.any fun row =>
          transition.after.rows[position]?.any fun changed =>
            changed.status ≠ row.status ∧ row.id ∉ task.logs
  | _ => false

theorem not_ownRows_of_reachesOther {position : ℕ} {transition : Transition RcsSystem RcsEvent}
    (reaches : reachesOther position transition = true) : ¬OwnRows unicode transition := by
  rcases transition with ⟨before, label, after⟩
  unfold reachesOther at reaches
  split at reaches
  · rename_i index text now isApply
    rcases (Option.any_eq_true _ _).mp reaches with ⟨task, found, reaches⟩
    rcases (Option.any_eq_true _ _).mp reaches with ⟨row, atRow, reaches⟩
    rcases (Option.any_eq_true _ _).mp reaches with ⟨changed, atChanged, reaches⟩
    rcases of_decide_eq_true reaches with ⟨differs, notLog⟩
    intro own
    exact notLog ((own index text now isApply task found).1 position row changed atRow atChanged
      differs).1
  · cases reaches

/-- Two tasks of one batch with one number: the result of the first closes the row of the second as
well. -/
theorem not_own_rows_batch :
    ∃ transitions last, Run (Step Unicode.ascii) empty transitions last ∧
      last.rows.map SmsLog.status = [.delivered, .delivered] ∧
        ∃ transition ∈ transitions, ¬OwnRows Unicode.ascii transition := by
  have passed : ((execute (next Unicode.ascii) empty
      [.insert (thaiRow 1), .insert (thaiRow 2), .submit [1] 1 (some 3) (.accepted (some "first")),
        .submit [2] 1 (some 3) (.accepted (some "second")), .setStatus 1 .sent, .setStatus 2 .sent,
        .poll 0 (some 5), .apply 0 (some "66812345678 delivered") 9]).any fun outcome =>
      decide (outcome.2.rows.map SmsLog.status = [.delivered, .delivered] ∧
        ∃ transition ∈ outcome.1, reachesOther 1 transition = true)) = true := by
    decide
  rcases Run.exists_of_execute _ passed with ⟨transitions, last, run, checked⟩
  rcases of_decide_eq_true checked with ⟨statuses, transition, member, reaches⟩
  exact ⟨transitions, last, run, statuses, transition, member,
    not_ownRows_of_reachesOther reaches⟩

end RcsSystem

end Klsmsc
