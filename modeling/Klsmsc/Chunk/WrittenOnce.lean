import Klsmsc.Chunk.Returns
import Mathlib.Algebra.Order.BigOperators.Group.List

/-!
# The write loop stores each row once

An attempt at a slice that has raised may be durable all the same, when the connection
is lost behind the commit. The next attempt builds the rows anew under fresh ids, so
it cannot notice. An execution that returns from the write loop has therefore stored
one row for each item exactly when no attempt that was tried again had become
durable; and then it has handed over all of them.
-/

namespace Klsmsc

open Library

def writtenRows (db : Db) (checked : Prechecked) (after : Db) : List SmsLog :=
  after.smsLogs.drop (db.smsLogs.length + checked.prefailed.length)

structure WrittenOnce (items : List ValidItem) (rows : List SmsLog) (handed : List MessageId) :
    Prop where
  one_each : rows.map SmsLog.phoneNumber = items.map fun item => item.phoneInfo.e164Format
  handed : ∀ row ∈ rows, row.messageId ∈ handed

instance (items : List ValidItem) (rows : List SmsLog) (handed : List MessageId) :
    Decidable (WrittenOnce items rows handed) :=
  decidable_of_iff (rows.map SmsLog.phoneNumber = items.map (fun item => item.phoneInfo.e164Format) ∧
    ∀ row ∈ rows, row.messageId ∈ handed)
    ⟨fun both => ⟨both.1, both.2⟩, fun once => ⟨once.one_each, once.handed⟩⟩

/-- Of the attempts at a slice that fail, one after the other from the first one on, none
has become durable. -/
def RetriesLost (faults : Faults) (slice : ℕ) : Prop :=
  ∀ attempt raised durable, attemptFault faults slice attempt = some (raised, durable) →
    (∀ earlier < attempt, (attemptFault faults slice earlier).isSome) → durable = false

structure WritesItems (env : ChunkEnv) (faults : Faults) (input : ChunkInput) (db : Db)
    (checked : Prechecked) : Prop where
  opened : (db.batches input.batchId).any (fun batch => batch.status.stopped) = false
  ordinary : virtualChannel input db = none
  checks : precheck env faults input (checkContext env faults input db) 0 input.phoneNumbers =
    .ok checked
  paid : chargeRun faults (canPay (db.accounts input.accountId)
    (checkContext env faults input db).isPostpaid (totalSell env input checked.valid))
      (totalSell env input checked.valid) ≠ .unpaid

section

variable {env : ChunkEnv} {faults : Faults} {input : ChunkInput} {slice left final : ℕ}

/-- Of the attempts from `first` on that fail one after the other none has become durable. -/
def RetriesLostFrom (faults : Faults) (slice first : ℕ) : Prop :=
  ∀ attempt raised durable, first ≤ attempt →
    attemptFault faults slice attempt = some (raised, durable) →
      (∀ earlier, first ≤ earlier → earlier < attempt →
        (attemptFault faults slice earlier).isSome) → durable = false

theorem retriesLostFrom_zero : RetriesLostFrom faults slice 0 ↔ RetriesLost faults slice := by
  constructor
  · intro lost attempt raised durable fails before
    exact lost attempt raised durable (Nat.zero_le _) fails fun earlier _ => before earlier
  · intro lost attempt raised durable _ fails before
    exact lost attempt raised durable fails fun earlier => before earlier (Nat.zero_le _)

theorem retriesLostFrom_of_passes {first : ℕ} (passes : attemptFault faults slice first = none) :
    RetriesLostFrom faults slice first := by
  intro attempt raised durable after fails before
  rcases Nat.eq_or_lt_of_le after with rfl | later
  · simp [passes] at fails
  · have failed := before first (Nat.le_refl _) later
    simp [passes] at failed

theorem retriesLostFrom_of_fails {first : ℕ} {raised : Raise} {durable : Bool}
    (fails : attemptFault faults slice first = some (raised, durable)) :
    RetriesLostFrom faults slice first ↔
      durable = false ∧ RetriesLostFrom faults slice (first + 1) := by
  constructor
  · intro lost
    refine ⟨lost first raised durable (Nat.le_refl _) fails fun earlier _ _ => by omega, ?_⟩
    intro attempt other isDurable after failsThere before
    apply lost attempt other isDurable (by omega) failsThere
    intro earlier atLeast below
    rcases Nat.eq_or_lt_of_le atLeast with rfl | later
    · simp [fails]
    · exact before earlier later below
  · rintro ⟨notDurable, lost⟩ attempt other isDurable after failsThere before
    rcases Nat.eq_or_lt_of_le after with rfl | later
    · rw [fails] at failsThere
      simp only [Option.some.injEq, Prod.mk.injEq] at failsThere
      rw [← failsThere.2, notDurable]
    · exact lost attempt other isDurable later failsThere fun earlier atLeast below =>
        before earlier (by omega) below

theorem sliceWrite_durable_iff (enough : left < writeAttempts)
    (ended : (sliceWrite faults slice left).ended = .ok final) :
    (sliceWrite faults slice left).durable.length = 1 ↔
      RetriesLostFrom faults slice (writeAttempts - 1 - left) := by
  induction left with
  | zero =>
      cases build : faults (.build slice (writeAttempts - 1)) with
      | some fault => simp [sliceWrite, build] at ended
      | none =>
          cases store : attemptFault faults slice (writeAttempts - 1) with
          | none =>
              have lost := retriesLostFrom_of_passes store
              simpa [sliceWrite, build, store] using lost
          | some failure => simp [sliceWrite, build, store] at ended
  | succ left ih =>
      have next : writeAttempts - 1 - (left + 1) + 1 = writeAttempts - 1 - left := by omega
      cases build : faults (.build slice (writeAttempts - 1 - (left + 1))) with
      | some fault => simp [sliceWrite, build] at ended
      | none =>
          cases store : attemptFault faults slice (writeAttempts - 1 - (left + 1)) with
          | none =>
              have lost := retriesLostFrom_of_passes store
              simpa [sliceWrite, build, store] using lost
          | some failure =>
              rcases failure with ⟨raised, durable⟩
              by_cases retried : retryable [1205, 1213, 2013] raised = true
              · cases backoff : faults (.writeBackoff slice (writeAttempts - 1 - (left + 1))) with
                | some fault => simp [sliceWrite, build, store, retried, backoff] at ended
                | none =>
                    simp only [sliceWrite, build, store, retried, backoff, if_true] at ended ⊢
                    have some := List.length_pos_of_mem (sliceWrite_ended_mem ended)
                    rw [retriesLostFrom_of_fails store, next, ← ih (by omega) ended]
                    cases durable with
                    | false => simp
                    | true =>
                        simp only [if_true, List.length_append, List.length_singleton,
                          Bool.true_eq_false, false_and, iff_false]
                        omega
              · simp [sliceWrite, build, store, retried] at ended

theorem writtenOnce_slice (ended : (sliceWrite faults slice (writeAttempts - 1)).ended = .ok final) :
    (sliceWrite faults slice (writeAttempts - 1)).durable.length = 1 ↔ RetriesLost faults slice := by
  rw [sliceWrite_durable_iff (by decide) ended, Nat.sub_self, retriesLostFrom_zero]

theorem length_durableRows (items : List ValidItem) (attempts : List ℕ) :
    (durableRows env input slice items attempts).length = attempts.length * items.length := by
  simp [durableRows, attemptRows, List.length_flatMap]

theorem phoneNumber_attemptRows (items : List ValidItem) (attempt : ℕ) :
    (durableRows env input slice items [attempt]).map LogCore.phoneNumber =
      items.map fun item => item.phoneInfo.e164Format := by
  refine List.ext_getElem (by simp [durableRows, attemptRows]) ?_
  intro index _ _
  simp [durableRows, attemptRows, SmsLog.core, ValidItem.smsLog]

theorem eq_one_of_sum_mul {Part : Type} {parts : List Part} {count size : Part → ℕ}
    (positive : ∀ part ∈ parts, 0 < count part ∧ 0 < size part)
    (equal : (parts.map fun part => count part * size part).sum = (parts.map size).sum) :
    ∀ part ∈ parts, count part = 1 := by
  induction parts with
  | nil => simp
  | cons part parts ih =>
      rw [List.forall_mem_cons] at positive ⊢
      have rest : (parts.map size).sum ≤ (parts.map fun part => count part * size part).sum := by
        refine List.sum_le_sum fun other member => ?_
        exact Nat.le_mul_of_pos_left _ (positive.2 other member).1
      have first : size part ≤ count part * size part :=
        Nat.le_mul_of_pos_left _ positive.1.1
      simp only [List.map_cons, List.sum_cons] at equal
      have same : count part * size part = 1 * size part := by omega
      exact ⟨Nat.eq_of_mul_eq_mul_right positive.1.2 same, ih positive.2 (by omega)⟩

section Loop

variable {parts : List (List ValidItem × ℕ)}

theorem sliceRun_ended {items : List ValidItem}
    (passes : (sliceRun env faults input items slice).stopped = none) :
    ∃ final, (sliceWrite faults slice (writeAttempts - 1)).ended = .ok final := by
  cases ended : (sliceWrite faults slice (writeAttempts - 1)).ended with
  | error raised => simp [sliceRun, ended] at passes
  | ok final => exact ⟨final, rfl⟩

theorem sliceRun_rows (items : List ValidItem) :
    (sliceRun env faults input items slice).rows =
      durableRows env input slice items (sliceWrite faults slice (writeAttempts - 1)).durable := by
  simp only [sliceRun]
  split <;> rfl

theorem loopRun_cons {part : List ValidItem × ℕ}
    (passes : (loopRun env faults input (part :: parts)).stopped = none) :
    (sliceRun env faults input part.1 part.2).stopped = none ∧
      (loopRun env faults input parts).stopped = none ∧
      (loopRun env faults input (part :: parts)).rows =
        (sliceRun env faults input part.1 part.2).rows ++ (loopRun env faults input parts).rows ∧
      (loopRun env faults input (part :: parts)).handed =
        (sliceRun env faults input part.1 part.2).handed ++
          (loopRun env faults input parts).handed ∧
      (loopRun env faults input (part :: parts)).virtualIds =
        (sliceRun env faults input part.1 part.2).virtualIds ++
          (loopRun env faults input parts).virtualIds := by
  rcases part with ⟨items, index⟩
  simp only [loopRun, LoopRun.andThen] at passes ⊢
  cases stopped : (sliceRun env faults input items index).stopped with
  | some raised => simp [stopped] at passes
  | none =>
      simp only [stopped] at passes ⊢
      exact ⟨trivial, passes, trivial, trivial, trivial⟩

theorem loopRun_ended (passes : (loopRun env faults input parts).stopped = none) :
    ∀ part ∈ parts, ∃ final,
      (sliceWrite faults part.2 (writeAttempts - 1)).ended = .ok final := by
  induction parts with
  | nil => simp
  | cons part parts ih =>
      rcases loopRun_cons passes with ⟨first, rest, _⟩
      exact List.forall_mem_cons.mpr ⟨sliceRun_ended first, ih rest⟩

theorem length_loopRun_rows (passes : (loopRun env faults input parts).stopped = none) :
    (loopRun env faults input parts).rows.length =
      (parts.map fun part =>
        (sliceWrite faults part.2 (writeAttempts - 1)).durable.length * part.1.length).sum := by
  induction parts with
  | nil => rfl
  | cons part parts ih =>
      rcases loopRun_cons passes with ⟨_, rest, rows, _⟩
      rw [rows, List.length_append, ih rest, sliceRun_rows, length_durableRows, List.map_cons,
        List.sum_cons]

theorem loopRun_one_each_iff (passes : (loopRun env faults input parts).stopped = none)
    (filled : ∀ part ∈ parts, part.1 ≠ []) :
    (loopRun env faults input parts).rows.map LogCore.phoneNumber =
        (parts.flatMap Prod.fst).map (fun item => item.phoneInfo.e164Format) ↔
      ∀ part ∈ parts, RetriesLost faults part.2 := by
  have ended := loopRun_ended passes
  constructor
  · intro equal part member
    have sizes := congrArg List.length equal
    rw [List.length_map, List.length_map, length_loopRun_rows passes, List.length_flatMap] at sizes
    have positive : ∀ part ∈ parts,
        0 < (sliceWrite faults part.2 (writeAttempts - 1)).durable.length ∧
          0 < part.1.length := by
      intro part member
      rcases ended part member with ⟨final, isFinal⟩
      exact ⟨List.length_pos_of_mem (sliceWrite_ended_mem isFinal),
        List.length_pos_iff.mpr (filled part member)⟩
    rcases ended part member with ⟨final, isFinal⟩
    exact (writtenOnce_slice isFinal).mp (eq_one_of_sum_mul positive sizes part member)
  · intro lost
    clear ended
    induction parts with
    | nil => rfl
    | cons part parts ih =>
        rcases loopRun_cons passes with ⟨first, rest, rows, _⟩
        rw [List.forall_mem_cons] at filled lost
        rcases sliceRun_ended first with ⟨final, isFinal⟩
        rcases List.length_eq_one_iff.mp ((writtenOnce_slice isFinal).mpr lost.1) with
          ⟨attempt, isAttempt⟩
        rw [rows, sliceRun_rows, isAttempt, List.map_append, phoneNumber_attemptRows,
          ih rest filled.2 lost.2, List.flatMap_cons, List.map_append]

theorem mem_attemptIds {items : List ValidItem} {attempt : ℕ} {row : SmsLog}
    (member : row ∈ attemptRows env input slice attempt items) :
    row.messageId ∈ attemptIds env input slice attempt .smpp items ∨
      row.messageId ∈ attemptIds env input slice attempt .http items ∨
      row.messageId ∈ attemptIds env input slice attempt .virtual items := by
  rcases List.mem_iff_getElem.mp member with ⟨index, inside, rfl⟩
  have inItems : index < items.length := by simpa [attemptRows] using inside
  have paired : (items[index], (attemptRows env input slice attempt items)[index]) ∈
      items.zip (attemptRows env input slice attempt items) :=
    List.mem_iff_getElem.mpr ⟨index, by simpa [attemptRows] using inItems, by simp⟩
  have onOwn : (attemptRows env input slice attempt items)[index].messageId ∈
      attemptIds env input slice attempt items[index].channel.protocol items :=
    List.mem_map.mpr ⟨_, List.mem_filter.mpr ⟨paired, by simp⟩, rfl⟩
  cases protocol : items[index].channel.protocol with
  | smpp => exact Or.inl (protocol ▸ onOwn)
  | http => exact Or.inr (Or.inl (protocol ▸ onOwn))
  | virtual => exact Or.inr (Or.inr (protocol ▸ onOwn))

theorem loopRun_handed (passes : (loopRun env faults input parts).stopped = none)
    (lost : ∀ part ∈ parts, RetriesLost faults part.2) :
    ∀ row ∈ (loopRun env faults input parts).rows,
      row.messageId ∈ (loopRun env faults input parts).handed ∨
        row.messageId ∈ (loopRun env faults input parts).virtualIds := by
  induction parts with
  | nil => simp [loopRun]
  | cons part parts ih =>
      rcases loopRun_cons passes with ⟨first, rest, rows, handed, virtualIds⟩
      rw [List.forall_mem_cons] at lost
      rcases sliceRun_ended first with ⟨final, isFinal⟩
      rw [rows, handed, virtualIds]
      intro row member
      rcases List.mem_append.mp member with inFirst | inRest
      · rcases List.length_eq_one_iff.mp ((writtenOnce_slice isFinal).mpr lost.1) with
          ⟨attempt, isAttempt⟩
        have same : final = attempt := by simpa [isAttempt] using sliceWrite_ended_mem isFinal
        subst same
        rw [sliceRun_rows, isAttempt] at inFirst
        simp only [durableRows, List.flatMap_cons, List.flatMap_nil, List.append_nil] at inFirst
        rcases List.mem_map.mp inFirst with ⟨stored, isStored, rfl⟩
        have onOwn := mem_attemptIds isStored
        simp only [sliceRun, isFinal, List.mem_append]
        rcases onOwn with smpp | http | virtual
        · exact Or.inl (Or.inl (Or.inl smpp))
        · exact Or.inl (Or.inl (Or.inr http))
        · exact Or.inr (Or.inl virtual)
      · rcases ih rest lost.2 row inRest with there | there
        · exact Or.inl (List.mem_append_right _ there)
        · exact Or.inr (List.mem_append_right _ there)

end Loop

def WritesRows (env : ChunkEnv) (faults : Faults) (input : ChunkInput) (checked : Prechecked)
    (ledger : Ledger) : Prop :=
  ledger.rows = (checked.prefailed.mapIdx (Prefailed.smsLog env input)).map SmsLog.core ++
    (writeRun env faults input checked.valid).rows

def EndsLoop (run : LoopRun) (values : Locals) : Prop :=
  run.stopped = none ∧ ∃ before : Locals, before.Finished run values

theorem sendItems_writes {db : Db} {context : CheckContext} {batchStatus : String}
    {items : List ValidItem} {before : Locals} {ledger : Ledger}
    (paid : chargeRun faults (canPay context.account context.isPostpaid
      (totalSell env input items)) (totalSell env input items) ≠ .unpaid)
    (noChannel : before.virtualChannelId = none) (noIds : before.virtualIds = []) :
    Triple (Ready db input.accountId ledger before context.account)
      (sendItems env faults input context batchStatus items)
      (fun _ => Within db input.accountId
        (fun after => after.rows = ledger.rows ++ (writeRun env faults input items).rows)
        (EndsLoop (writeRun env faults input items)))
      (fun _ _ => True) := by
  have loop : ∀ {started : Ledger} {values : Locals}, values.virtualChannelId = none →
      values.virtualIds = [] → started.rows = ledger.rows →
      Triple (Stands db input.accountId started started (· = values))
        (writeLoop env faults input batchStatus items)
        (fun _ => Within db input.accountId
          (fun after => after.rows = ledger.rows ++ (writeRun env faults input items).rows)
          (EndsLoop (writeRun env faults input items)))
        (fun _ _ => True) := by
    intro started values noChannel noIds same
    refine (writeLoop_triple noChannel noIds).weaken (fun _ stands => stands) ?_
      fun _ _ _ => trivial
    rintro _ state ⟨passes, stands⟩
    have rows : (started.add (writeRun env faults input items).rows).rows =
        ledger.rows ++ (writeRun env faults input items).rows := by
      rw [Ledger.add, same]
    exact ⟨_, _, rows, rows, stands.weaken fun _ finished => ⟨passes, values, finished⟩⟩
  unfold sendItems
  refine Triple.bind ((chargeChunk_triple rfl).weaken (fun _ ready => ready)
    (fun _ _ done => done) fun _ _ _ => trivial) fun paidNow => ?_
  rintro state (⟨_, rfl, stands⟩ | ⟨unpaid, _⟩ | ⟨_, rfl, stands⟩)
  · exact loop noChannel noIds rfl state stands
  · exact absurd unpaid paid
  · have same : (ledger.pay (-totalSell env input items)).rows = ledger.rows := rfl
    refine loop ?_ ?_ same state stands
    exacts [noChannel, noIds]

theorem ordinaryPath_writes {db : Db} {context : CheckContext} {batchStatus : String}
    {checked : Prechecked}
    (checks : precheck env faults input context 0 input.phoneNumbers = .ok checked)
    (paid : chargeRun faults (canPay context.account context.isPostpaid
      (totalSell env input checked.valid)) (totalSell env input checked.valid) ≠ .unpaid) :
    Triple (Ready db input.accountId .empty .start context.account)
      (ordinaryPath env faults input context batchStatus)
      (fun _ => Within db input.accountId (WritesRows env faults input checked)
        (EndsLoop (writeRun env faults input checked.valid)))
      (fun _ _ => True) := by
  unfold ordinaryPath
  refine Triple.bind (Chunk.lift_triple.weaken (fun _ ready => ready) (fun _ _ done => done)
    fun _ _ _ => trivial) fun result => Triple.assume fun isResult => ?_
  rw [checks, Except.ok.injEq] at isResult
  subst isResult
  refine Triple.seq (fun _ state => ∃ before : Locals, (before.virtualChannelId = none ∧
    before.virtualIds = []) ∧ Ready db input.accountId .empty before context.account state) ?_
      fun _ => Triple.exists_pre fun before => Triple.assume fun fresh => ?_
  · intro state ready
    exact ⟨_, ⟨rfl, rfl⟩, ready.relocate fun values =>
      { values with
        succeeded := values.succeeded + checked.done
        failed := values.failed + checked.prefailed.length }⟩
  refine Triple.bind ((storeFailed_ready ?_).weaken (fun _ ready => ready)
    (fun _ _ done => done.2) fun _ _ _ => trivial) fun _ => ?_
  · intro row member
    rcases List.mem_mapIdx.mp member with ⟨index, inside, rfl⟩
    rfl
  refine Triple.ite (fun _ => ?_) fun none => ?_
  · refine (sendItems_writes paid fresh.1 fresh.2).weaken (fun _ ready => ready) ?_
      fun _ _ _ => trivial
    rintro _ state ⟨committed, working, onCommitted, onWorking, stands⟩
    exact ⟨committed, working, by simpa [WritesRows, Ledger.add, Ledger.empty] using onCommitted,
      by simpa [WritesRows, Ledger.add, Ledger.empty] using onWorking, stands⟩
  · intro state ready
    have nothing : checked.valid = [] := by simpa using none
    have rows : WritesRows env faults input checked (Ledger.empty.add
        ((checked.prefailed.mapIdx (Prefailed.smsLog env input)).map SmsLog.core)) := by
      simp [WritesRows, nothing, writeRun, loopRun, Ledger.add, Ledger.empty]
    refine ⟨_, _, rows, rows, ready.stands.weaken ?_⟩
    rintro values rfl
    rw [nothing]
    exact ⟨rfl, values, by simp [writeRun, loopRun], rfl, by simp [writeRun, loopRun, fresh.1],
      by simp [writeRun, loopRun, fresh.2], by simp [writeRun, loopRun]⟩

theorem Locals.Finished.handed_dispatched {before values : Locals} {run : LoopRun}
    (finished : before.Finished run values) {messageId : MessageId}
    (given : messageId ∈ run.handed ∨ messageId ∈ run.virtualIds) :
    messageId ∈ values.dispatched.handedIds := by
  unfold Locals.dispatched
  rcases given with handed | virtual
  · have before := finished.handed messageId handed
    split
    · simp only [Locals.handedIds, List.map_append, List.mem_append] at before ⊢
      exact Or.inl before
    · exact before
  · have some : run.virtualIds ≠ [] := List.ne_nil_of_mem virtual
    have sends : values.virtualChannelId.isSome ∧ values.virtualIds ≠ [] := by
      rw [finished.virtualChannelId, finished.virtualIds]
      simpa using some
    rw [if_pos sends]
    simp only [Locals.handedIds, List.map_append, List.mem_append, List.map_map,
      Function.comp_def, List.map_id', finished.virtualIds]
    exact Or.inr virtual

end

def loneChunk : ChunkInput := .plain ["+8613800138000"] none

/-- The tables of an account that can pay for `loneChunk`. -/
def loneTables : Db := .plain 1000 (.plain .smpp) []

/-- What the checks make of `loneChunk`. -/
def loneChecked : Prechecked :=
  ⟨0, [], [⟨⟨"+8613800138000", "CN"⟩, "hello", 1, 1, .plain .smpp⟩]⟩

def lostBehindCommit : Faults :=
  .only (.writeCommit 0 0) ⟨.operational 2013, true, true⟩

theorem loneChunk_writes :
    WritesItems (.plain (.plain .smpp) 100) lostBehindCommit loneChunk loneTables loneChecked where
  opened := by decide
  ordinary := by decide
  checks := by decide
  paid := by decide

end Klsmsc
