import Klsmsc.Chunk.WriteLoop

/-!
# The other phases on the ledger

The rows of failed entries, the charge of the chunk, the fallback path, the
virtual fast path, the batch progress and the refund of the exception handler.
The fallback charges an item and stores its row in one transaction, so whatever
of it becomes durable is paid for.
-/

namespace Klsmsc

open Library

section

variable {start : Db} {accountId : ℕ} {ledger : Ledger} {env : ChunkEnv} {faults : Faults}
  {input : ChunkInput} {locals : Locals → Prop}

theorem statement_keeps {property : ChunkState → Prop} {site : Site}
    (drop : ∀ state, property state → property { state with working := state.committed }) :
    Triple property (Chunk.statement faults site)
      (fun _ state => faults site = none ∧ property state)
      (fun raised state => Raises faults site raised ∧ property state) := by
  intro state holds
  unfold Chunk.statement
  cases atSite : faults site with
  | none => exact ⟨rfl, holds⟩
  | some fault =>
      refine ⟨by simp [Raises, atSite], ?_⟩
      split
      · exact drop state holds
      · exact holds

/-- What is left of a state when an exception leaves the session: the committed
tables and the local variables. -/
structure Leaves (start : Db) (accountId : ℕ) (ledger : Ledger) (locals : Locals → Prop)
    (state : ChunkState) : Prop where
  committed : Since start accountId ledger state.committed
  locals : locals state.toLocals

theorem Stands.leaves {committed working : Ledger} {state : ChunkState}
    (stands : Stands start accountId committed working locals state) :
    Leaves start accountId committed locals state :=
  ⟨stands.committed, stands.locals⟩

def storePasses (faults : Faults) (flushSite commitSite : ℕ → Site) (rows : List SmsLog) : Prop :=
  ∀ part ∈ (slices dbLogChunk rows).zipIdx,
    faults (flushSite part.2) = none ∧ faults (commitSite part.2) = none

theorem storeParts_triple {flushSite commitSite : ℕ → Site} (parts : List (List SmsLog × ℕ))
    (fresh : ∀ part ∈ parts, ∀ row ∈ part.1, row.refundedAt = none) :
    Triple (Stands start accountId ledger ledger locals)
      (parts.forM fun (slice, index) => do
        Chunk.flush faults (flushSite index)
        Chunk.change fun db => db.insertSmsLogs slice
        Chunk.commit faults (commitSite index))
      (fun _ state => (∀ part ∈ parts,
          faults (flushSite part.2) = none ∧ faults (commitSite part.2) = none) ∧
        Stands start accountId (ledger.add ((parts.flatMap Prod.fst).map SmsLog.core))
          (ledger.add ((parts.flatMap Prod.fst).map SmsLog.core)) locals state)
      (fun _ state => (¬∀ part ∈ parts,
          faults (flushSite part.2) = none ∧ faults (commitSite part.2) = none) ∧
        ∃ kept, kept <+: (parts.flatMap Prod.fst).map SmsLog.core ∧
          Stands start accountId (ledger.add kept) (ledger.add kept) locals state) := by
  induction parts generalizing ledger with
  | nil =>
      intro state stands
      exact ⟨by simp, by simpa using stands⟩
  | cons part parts ih =>
      rcases part with ⟨slice, index⟩
      simp only [List.forall_mem_cons, List.flatMap_cons, List.map_append] at fresh ⊢
      refine Triple.seq (fun _ state =>
        (faults (flushSite index) = none ∧ faults (commitSite index) = none) ∧
          Stands start accountId (ledger.add (slice.map SmsLog.core))
            (ledger.add (slice.map SmsLog.core)) locals state) ?_ ?_
      · refine flush_bind ?_ ?_
        · intro fault found state stands
          exact ⟨by simp [found], [], List.nil_prefix, by simpa using stands⟩
        · intro flushPasses
          refine change_bind (fun db since => since.insert fresh.1) ?_
          refine commit_triple.weaken (fun _ stands => stands) ?_ ?_
          · rintro _ state ⟨commitPasses, stands⟩
            exact ⟨⟨flushPasses, commitPasses⟩, stands⟩
          · rintro raised state ⟨fault, found, _, stands⟩
            refine ⟨by simp [found], ?_⟩
            split at stands
            · exact ⟨_, List.prefix_append _ _, stands⟩
            · exact ⟨[], List.nil_prefix, by simpa using stands⟩
      · intro _
        refine Triple.assume fun passes => ?_
        refine (ih fresh.2).weaken (fun _ stands => stands) ?_ ?_
        · rintro _ state ⟨rest, stands⟩
          exact ⟨⟨passes, rest⟩, by simpa using stands⟩
        · rintro raised state ⟨fails, kept, isPrefix, stands⟩
          refine ⟨fun all => fails all.2, slice.map SmsLog.core ++ kept, ?_, by simpa using stands⟩
          exact (List.prefix_append_right_inj _).mpr isPrefix

theorem storeFailed_triple {flushSite commitSite : ℕ → Site} {rows : List SmsLog}
    (fresh : ∀ row ∈ rows, row.refundedAt = none) :
    Triple (Stands start accountId ledger ledger locals)
      (storeFailed faults flushSite commitSite rows)
      (fun _ state => storePasses faults flushSite commitSite rows ∧
        Stands start accountId (ledger.add (rows.map SmsLog.core))
          (ledger.add (rows.map SmsLog.core)) locals state)
      (fun _ state => ¬storePasses faults flushSite commitSite rows ∧
        ∃ kept, kept <+: rows.map SmsLog.core ∧
          Stands start accountId (ledger.add kept) (ledger.add kept) locals state) := by
  have whole : (slices dbLogChunk rows).zipIdx.flatMap Prod.fst = rows := by
    rw [List.flatMap_def, List.zipIdx_map_fst]
    exact flatten_slices (by decide) rows
  have freshParts : ∀ part ∈ (slices dbLogChunk rows).zipIdx, ∀ row ∈ part.1,
      row.refundedAt = none := by
    intro part member row rowMem
    refine fresh row ?_
    rw [← whole]
    exact List.mem_flatMap.mpr ⟨part, member, rowMem⟩
  have parts := @storeParts_triple start accountId ledger faults locals flushSite commitSite
    _ freshParts
  rw [whole] at parts
  exact parts

def canPay (account : Option Account) (isPostpaid : Bool) (amount : Money) : Bool :=
  account.any fun account => isPostpaid ∨ amount ≤ account.balance

theorem deduct_isSome (db : Db) (isPostpaid : Bool) (amount : Money) :
    (db.deduct accountId isPostpaid amount).isSome =
      canPay (db.accounts accountId) isPostpaid amount := by
  unfold Db.deduct canPay
  cases db.accounts accountId with
  | none => rfl
  | some account =>
      simp only [Option.any_some]
      by_cases pays : isPostpaid = true ∨ amount ≤ account.balance <;> simp [pays]

structure Ready (start : Db) (accountId : ℕ) (ledger : Ledger) (before : Locals)
    (account : Option Account) (state : ChunkState) : Prop where
  stands : Stands start accountId ledger ledger (· = before) state
  committed : state.committed.accounts accountId = account
  working : state.working.accounts accountId = account

theorem Ready.drop {before : Locals} {account : Option Account} {state : ChunkState}
    (ready : Ready start accountId ledger before account state) :
    Ready start accountId ledger before account { state with working := state.committed } :=
  ⟨ready.stands.drop, ready.committed, ready.committed⟩

theorem storeFailed_ready {flushSite commitSite : ℕ → Site} {rows : List SmsLog}
    {before : Locals} {account : Option Account} (fresh : ∀ row ∈ rows, row.refundedAt = none) :
    Triple (Ready start accountId ledger before account)
      (storeFailed faults flushSite commitSite rows)
      (fun _ state => storePasses faults flushSite commitSite rows ∧
        Ready start accountId (ledger.add (rows.map SmsLog.core)) before account state)
      (fun _ state => ¬storePasses faults flushSite commitSite rows ∧
        ∃ kept, kept <+: rows.map SmsLog.core ∧
          Stands start accountId (ledger.add kept) (ledger.add kept) (· = before) state) := by
  let known (state : ChunkState) : Prop := state.committed.accounts accountId = account ∧
    state.working.accounts accountId = account
  have accounts : Triple known (storeFailed faults flushSite commitSite rows)
      (fun _ => known) (fun _ _ => True) := by
    unfold storeFailed
    refine Triple.forM (fun _ => known) ?_
    rintro _ ⟨slice, index⟩ _ _ state ⟨onCommitted, onWorking⟩
    simp only [bind, EStateM.bind, Chunk.flush_apply, Chunk.change, modify, modifyGet,
      MonadStateOf.modifyGet, Chunk.commit]
    cases faults (flushSite index) with
    | some fault => trivial
    | none =>
        cases faults (commitSite index) with
        | some fault => trivial
        | none => exact ⟨onWorking, onWorking⟩
  refine ((storeFailed_triple fresh).and accounts).weaken
    (fun _ ready => ⟨ready.stands, ready.committed, ready.working⟩) ?_ (fun _ _ done => done.1)
  rintro _ state ⟨⟨passes, stands⟩, onCommitted, onWorking⟩
  exact ⟨passes, stands, onCommitted, onWorking⟩

structure Deducted (start : Db) (accountId : ℕ) (committed working : Ledger) (before : Locals)
    (account : Option Account) (state : ChunkState) : Prop where
  stands : Stands start accountId committed working (· = before) state
  committed : state.committed.accounts accountId = account

section

variable {before : Locals} {account : Option Account} {isPostpaid : Bool} {total : Money}

def deducted (ledger : Ledger) (paid : Bool) (total : Money) : Ledger :=
  if paid then ledger.pay (-total) else ledger

theorem deductOnce_triple {attempt : ℕ} (isAccount : input.accountId = accountId) :
    Triple (Ready start accountId ledger before account)
      (deductOnce faults input isPostpaid total attempt)
      (fun paid state => (faults (.deduct attempt) = none ∧
          paid = canPay account isPostpaid total) ∧
        Stands start accountId ledger (deducted ledger paid total) (· = before) state)
      (fun raised state => Raises faults (.deduct attempt) raised ∧
        Ready start accountId ledger before account state) := by
  unfold deductOnce
  refine Triple.bind (statement_keeps fun _ ready => ready.drop) fun _ =>
    Triple.assume fun noFault => ?_
  refine Triple.get_bind fun current ready => ?_
  have pays : (current.working.deduct accountId isPostpaid total).isSome = _ :=
    deduct_isSome current.working isPostpaid total
  rw [ready.working] at pays
  rw [isAccount]
  cases after : current.working.deduct accountId isPostpaid total with
  | none =>
      rintro state rfl
      rw [after] at pays
      exact ⟨⟨noFault, by simpa using pays⟩, ready.stands⟩
  | some db =>
      rw [after] at pays
      rintro state rfl
      refine ⟨⟨noFault, by simpa using pays⟩, ready.stands.committed, ?_, ready.stands.locals⟩
      exact ready.stands.working.deduct after

theorem deductRetrying_triple {left : ℕ} (isAccount : input.accountId = accountId) :
    Triple (Ready start accountId ledger before account)
      (deductRetrying faults input isPostpaid total left)
      (fun paid state => (deductRun faults left = none ∧
          paid = canPay account isPostpaid total) ∧
        Stands start accountId ledger (deducted ledger paid total) (· = before) state)
      (fun raised state => deductRun faults left = some raised ∧
        Stands start accountId ledger ledger (· = before) state) := by
  induction left with
  | zero =>
      refine (deductOnce_triple isAccount).weaken (fun _ ready => ready) ?_ ?_
      · rintro paid state ⟨⟨noFault, pays⟩, stands⟩
        exact ⟨⟨by simp [deductRun, noFault], pays⟩, stands⟩
      · rintro raised state ⟨atSite, ready⟩
        exact ⟨atSite, ready.stands⟩
  | succ left ih =>
      refine Triple.catching _ ((deductOnce_triple isAccount).weaken (fun _ ready => ready) ?_
        (fun _ _ done => done)) ?_ ?_
      · rintro paid state ⟨⟨noFault, pays⟩, stands⟩
        exact ⟨⟨by simp [deductRun, noFault], pays⟩, stands⟩
      · rintro raised state escapes ⟨atSite, ready⟩
        rcases Option.map_eq_some_iff.mp atSite with ⟨fault, found, rfl⟩
        refine ⟨?_, ready.stands⟩
        simp only [deductRun, found, escapes, Bool.false_eq_true, if_false]
      · intro raised caught
        refine Triple.assume fun atSite => ?_
        rcases Option.map_eq_some_iff.mp atSite with ⟨fault, found, rfl⟩
        refine Triple.seq (fun _ => Ready start accountId ledger before account)
          (Triple.modify fun _ ready => ready.drop) fun _ => ?_
        refine Triple.bind ((statement_keeps fun _ ready => Ready.drop ready).weaken
          (fun _ ready => ready) (fun _ _ done => done) ?_) fun _ =>
            Triple.assume fun backoffPasses => ?_
        · rintro raised state ⟨atBackoff, ready⟩
          rcases Option.map_eq_some_iff.mp atBackoff with ⟨backoff, isBackoff, rfl⟩
          refine ⟨?_, ready.stands⟩
          simp only [deductRun, found, caught, isBackoff, if_true]
        · simp only [deductRun, found, caught, backoffPasses, if_true]
          exact ih

theorem chargeChunk_triple (isAccount : input.accountId = accountId) :
    Triple (Ready start accountId ledger before account)
      (chargeChunk faults input isPostpaid total)
      (fun paid state =>
        (chargeRun faults (canPay account isPostpaid total) total = .free ∧ paid = true ∧
          Stands start accountId ledger ledger (· = before) state) ∨
        (chargeRun faults (canPay account isPostpaid total) total = .unpaid ∧ paid = false ∧
          Stands start accountId ledger ledger (· = before) state) ∨
        (chargeRun faults (canPay account isPostpaid total) total = .charged ∧ paid = true ∧
          Stands start accountId (ledger.pay (-total)) (ledger.pay (-total))
            (· = { before with charged := total }) state))
      (fun raised state => ∃ durable,
        chargeRun faults (canPay account isPostpaid total) total = .stopped raised durable ∧
          Leaves start accountId (if durable then ledger.pay (-total) else ledger)
            (· = before) state) := by
  subst isAccount
  unfold chargeChunk chargeRun
  by_cases free : total ≤ 0
  · simp only [free, if_true]
    intro state ready
    exact Or.inl ⟨trivial, rfl, ready.stands⟩
  · simp only [free, if_false]
    refine Triple.bind ((deductRetrying_triple rfl).weaken (fun _ ready => ready)
      (fun _ _ done => done) ?_) ?_
    · rintro raised state ⟨stopped, stands⟩
      exact ⟨false, by simp [stopped], stands.leaves⟩
    · intro paid
      refine Triple.assume fun reached => ?_
      rcases reached with ⟨reached, isPaid⟩
      rw [← isPaid]
      cases paid with
      | false =>
          intro state stands
          exact Or.inr (Or.inl ⟨by simp [reached], rfl, stands⟩)
      | true =>
          simp only [reached, if_true]
          refine Triple.bind (statement_triple.weaken (fun _ stands => stands)
            (fun _ _ done => done) ?_) fun _ => Triple.assume fun readPasses => ?_
          · rintro raised state ⟨atSite, stands⟩
            rcases Option.map_eq_some_iff.mp atSite with ⟨fault, found, rfl⟩
            refine ⟨false, by simp [found], ?_⟩
            rcases stands with stands | stands <;> exact stands.leaves
          · simp only [readPasses]
            refine change_bind (fun db since => since.logCharge total) ?_
            refine commit_bind ?_ ?_
            · intro fault found state stands
              exact ⟨fault.commits, by simp [found], stands.leaves⟩
            · intro commitPasses
              refine Triple.seq (fun _ => Stands start input.accountId
                (ledger.pay (-total)) (ledger.pay (-total))
                (· = { before with charged := total })) ?_ fun _ => ?_
              · refine locals_triple (fun _ => ⟨rfl, rfl⟩) ?_
                rintro state rfl
                rfl
              · intro state stands
                exact Or.inr (Or.inr ⟨by simp [commitPasses], rfl, stands⟩)

end

def Within (start : Db) (accountId : ℕ) (fine : Ledger → Prop) (locals : Locals → Prop)
    (state : ChunkState) : Prop :=
  ∃ committed working, fine committed ∧ fine working ∧
    Stands start accountId committed working locals state

section

variable {fine : Ledger → Prop} {site : Site}

theorem Within.drop {state : ChunkState} (within : Within start accountId fine locals state) :
    Within start accountId fine locals { state with working := state.committed } := by
  rcases within with ⟨committed, working, fineCommitted, _, stands⟩
  exact ⟨committed, committed, fineCommitted, fineCommitted, stands.drop⟩

theorem within_statement :
    Triple (Within start accountId fine locals) (Chunk.statement faults site)
      (fun _ state => faults site = none ∧ Within start accountId fine locals state)
      (fun raised state => Raises faults site raised ∧
        Within start accountId fine locals state) :=
  statement_keeps fun _ => Within.drop

theorem within_commit :
    Triple (Within start accountId fine locals) (Chunk.commit faults site)
      (fun _ => Within start accountId fine locals)
      (fun _ => Within start accountId fine locals) := by
  refine Triple.exists_pre fun committed => Triple.exists_pre fun working =>
    Triple.assume fun fineCommitted => Triple.assume fun fineWorking => ?_
  refine commit_triple.weaken (fun _ stands => stands) ?_ ?_
  · rintro _ state ⟨_, stands⟩
    exact ⟨working, working, fineWorking, fineWorking, stands⟩
  · rintro raised state ⟨fault, _, _, stands⟩
    split at stands
    · exact ⟨working, working, fineWorking, fineWorking, stands⟩
    · exact ⟨committed, committed, fineCommitted, fineCommitted, stands⟩

theorem within_change {update : Db → Db} {raising : Raise → ChunkState → Prop}
    (unseen : ∀ ledger db, Since start accountId ledger db →
      Since start accountId ledger (update db)) :
    Triple (Within start accountId fine locals) (Chunk.change update)
      (fun _ => Within start accountId fine locals) raising := by
  rintro state ⟨committed, working, fineCommitted, fineWorking, stands⟩
  exact ⟨committed, working, fineCommitted, fineWorking, stands.committed,
    unseen working _ stands.working, stands.locals⟩

end

theorem updateBatchProgress_triple {fine : Ledger → Prop} {batchId : ℕ} :
    Triple (Within start accountId fine locals)
      (updateBatchProgress env faults batchId)
      (fun _ => Within start accountId fine locals)
      (fun raised state => raised.isException = false ∧
        Within start accountId fine locals state) := by
  unfold updateBatchProgress
  refine Triple.catching (fun _ => Within start accountId fine locals) ?_ ?_ ?_
  · refine Triple.seq (fun _ => Within start accountId fine locals)
      (within_statement.weaken (fun _ within => within) (fun _ _ done => done.2)
        fun _ _ done => done.2) fun _ => ?_
    refine Triple.get_bind fun current within => Triple.at_state ?_ within
    split
    · intro state within
      exact within
    · refine Triple.bind (within_change fun _ _ since => since.setBatch _ _) fun _ => ?_
      refine Triple.bind within_commit fun _ state within => ?_
      exact within
    · refine Triple.bind (within_change fun _ _ since => since.expireLogs _ _ _) fun _ => ?_
      refine Triple.bind within_commit fun _ => ?_
      refine Triple.get_bind fun later within => Triple.at_state ?_ within
      refine Triple.bind (within_change fun _ _ since => since.setBatch _ _) fun _ => ?_
      refine Triple.bind within_commit fun _ state within => ?_
      exact within
  · intro raised state escapes within
    exact ⟨escapes, within⟩
  · intro raised _ state within
    exact within.drop

theorem closing_triple {Value : Type} {body : Chunk Value} {pre : ChunkState → Prop}
    {normally : Value → ChunkState → Prop} {raising : Raise → ChunkState → Prop}
    (triple : Triple pre body
      (fun value state => normally value { state with working := state.committed })
      (fun raised state => raising raised { state with working := state.committed })) :
    Triple pre (closing body) normally raising := by
  intro state holds
  have outcome := triple state holds
  unfold closing
  cases result : body state with
  | ok value after =>
      rw [result] at outcome
      exact outcome
  | error raised after =>
      rw [result] at outcome
      exact outcome

theorem Leaves.close {state : ChunkState} (leaves : Leaves start accountId ledger locals state) :
    Stands start accountId ledger ledger locals { state with working := state.committed } :=
  ⟨leaves.committed, leaves.committed, leaves.locals⟩

def refundPasses (faults : Faults) : Bool :=
  (faults .refund).isNone &&
    match faults .refundCommit with
    | none => true
    | some fault => fault.commits

theorem refundCharged_triple {before : Locals} (isAccount : input.accountId = accountId) :
    Triple (Stands start accountId ledger ledger (· = before)) (refundCharged faults input)
      (fun _ => Leaves start accountId
        (if refundPasses faults then ledger.pay before.charged else ledger) (· = before))
      (fun _ => Leaves start accountId
        (if refundPasses faults then ledger.pay before.charged else ledger) (· = before)) := by
  subst isAccount
  unfold refundCharged
  have body : Triple (Stands start input.accountId ledger ledger (· = before))
      (do
        Chunk.statement faults .refund
        let charged := (← get).charged
        Chunk.change fun db => db.addBalance input.accountId charged
        Chunk.change fun db =>
          db.addBalanceLog ⟨input.accountId, .refund, charged, (db.balance input.accountId).getD 0⟩
        Chunk.commit faults .refundCommit)
      (fun _ => Leaves start input.accountId
        (if refundPasses faults then ledger.pay before.charged else ledger) (· = before))
      (fun _ => Leaves start input.accountId
        (if refundPasses faults then ledger.pay before.charged else ledger) (· = before)) := by
    refine statement_bind ?_ ?_
    · intro fault found state stands
      simp only [refundPasses, found, Option.isNone_some, Bool.false_and, Bool.false_eq_true,
        if_false]
      exact stands.leaves
    · intro noFault
      refine Triple.get_bind fun current stands => ?_
      have charged : current.charged = before.charged := by rw [← stands.locals]
      rw [charged]
      refine Triple.at_state
        (?_ : Triple (Stands start input.accountId ledger ledger (· = before)) _ _ _) stands
      refine change_bind (fun db since => since.addBalance before.charged) ?_
      refine change_bind (fun db since => since.addBalanceLog _) ?_
      refine commit_triple.weaken (fun _ stands => stands) ?_ ?_
      · rintro _ state ⟨commitPasses, stands⟩
        simp only [refundPasses, noFault, commitPasses, Option.isNone_none, Bool.and_self, if_true]
        exact stands.leaves
      · rintro raised state ⟨fault, found, _, stands⟩
        simp only [refundPasses, noFault, found, Option.isNone_none, Bool.true_and]
        split at stands
        · rename_i durable
          simp only [durable, if_true]
          exact stands.leaves
        · rename_i lost
          simp only [if_neg lost]
          exact stands.leaves
  refine Triple.catching (fun _ => Leaves start input.accountId
    (if refundPasses faults then ledger.pay before.charged else ledger) (· = before)) ?_ ?_ ?_
  · exact closing_triple (body.weaken (fun _ stands => stands)
      (fun _ _ leaves => leaves.close.leaves) (fun _ _ leaves => leaves.close.leaves))
  · intro raised state _ leaves
    exact leaves
  · intro raised _ state leaves
    exact leaves

end

end Klsmsc
