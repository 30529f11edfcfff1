import Klsmsc.BalanceLogs
import Klsmsc.Chunk.Writes
import Mathlib.Tactic.Linarith

/-!
# The log explains the balances

An operation that moves the balance of an account and appends an entry for it explains the change
when both have the same amount. The worker of a chunk does so in each of its transactions, and the
worker of CSV files moves nothing. The purchase of a package appends no entry; the entry of an
inbound message can fail behind the charge; and a total price that ends with half a unit is rounded
up in the log, and down in the balance.
-/

namespace Klsmsc

def Explained (start db : Db) : Prop :=
  ∃ entries, db.balanceLogs = start.balanceLogs ++ entries ∧
    ∀ accountId, db.balance accountId =
      (start.balance accountId).map (· + loggedAmount entries accountId)

structure Moves (db after : Db) (accountId : ℕ) (moved logged : Money) : Prop where
  balance : ∀ id, after.balance id =
    if id = accountId then (db.balance id).map (· + moved) else db.balance id
  entries : ∃ entries, after.balanceLogs = db.balanceLogs ++ entries ∧
    ∀ id, loggedAmount entries id = if id = accountId then logged else 0

@[simp]
theorem loggedAmount_nil (accountId : ℕ) : loggedAmount [] accountId = 0 := rfl

theorem loggedAmount_append (left right : List BalanceLog) (accountId : ℕ) :
    loggedAmount (left ++ right) accountId =
      loggedAmount left accountId + loggedAmount right accountId := by
  simp [loggedAmount]

theorem loggedAmount_singleton (entry : BalanceLog) (accountId : ℕ) :
    loggedAmount [entry] accountId = if accountId = entry.accountId then entry.amount else 0 := by
  by_cases same : entry.accountId = accountId
  · simp [loggedAmount, same]
  · simp [loggedAmount, same, Ne.symm same]

namespace Explained

variable {start middle db after : Db}

theorem refl (db : Db) : Explained db db :=
  ⟨[], by simp, fun accountId => by simp⟩

theorem trans (first : Explained start middle) (second : Explained middle db) :
    Explained start db := by
  rcases first with ⟨before, beforeLogs, beforeBalance⟩
  rcases second with ⟨since, sinceLogs, sinceBalance⟩
  refine ⟨before ++ since, by rw [sinceLogs, beforeLogs, List.append_assoc], fun accountId => ?_⟩
  rw [sinceBalance, beforeBalance, Option.map_map]
  congr 1
  funext balance
  simp only [Function.comp_apply, loggedAmount_append]
  ring

theorem of_trans (first : Explained start middle) (whole : Explained start db)
    (appended : ∃ entries, db.balanceLogs = middle.balanceLogs ++ entries) :
    Explained middle db := by
  rcases first with ⟨before, beforeLogs, beforeBalance⟩
  rcases whole with ⟨all, allLogs, allBalance⟩
  rcases appended with ⟨since, sinceLogs⟩
  have split : all = before ++ since := by
    rw [allLogs, beforeLogs, List.append_assoc, List.append_cancel_left_eq] at sinceLogs
    exact sinceLogs
  refine ⟨since, sinceLogs, fun accountId => ?_⟩
  rw [allBalance, beforeBalance, Option.map_map, split]
  congr 1
  funext balance
  simp only [Function.comp_apply, loggedAmount_append]
  ring

theorem of_same (accounts : after.accounts = db.accounts)
    (logs : after.balanceLogs = db.balanceLogs) : Explained db after :=
  ⟨[], by simp [logs], fun accountId => by simp [Db.balance, accounts, Function.comp_def]⟩

end Explained

namespace Moves

variable {db after : Db} {accountId : ℕ} {moved logged amount : Money}

theorem explained (moves : Moves db after accountId amount amount) : Explained db after := by
  rcases moves with ⟨balance, entries, appended, sums⟩
  refine ⟨entries, appended, fun id => ?_⟩
  rw [balance, sums]
  by_cases same : id = accountId
  · simp [same]
  · simp [same]

theorem appends (moves : Moves db after accountId moved logged) :
    ∃ entries, after.balanceLogs = db.balanceLogs ++ entries := by
  rcases moves.entries with ⟨entries, appended, -⟩
  exact ⟨entries, appended⟩

theorem explained_iff (moves : Moves db after accountId moved logged)
    (present : (db.balance accountId).isSome = true) : Explained db after ↔ moved = logged := by
  constructor
  · rintro ⟨entries, appended, sums⟩
    rcases moves with ⟨balance, others, othersAppended, othersSums⟩
    have same : others = entries := by
      rw [appended, List.append_cancel_left_eq] at othersAppended
      exact othersAppended.symm
    rcases Option.isSome_iff_exists.mp present with ⟨before, isBefore⟩
    have both := (balance accountId).symm.trans (sums accountId)
    rw [← same, othersSums, if_pos rfl, if_pos rfl, isBefore] at both
    simpa using both
  · rintro rfl
    exact moves.explained

theorem of_entry (db : Db) (accountId : ℕ) (moved : Money) {entry : BalanceLog}
    (owner : entry.accountId = accountId) :
    Moves db ((db.addBalance accountId moved).addBalanceLog entry) accountId moved
      entry.amount where
  balance id := by rw [Db.addBalanceLog_balance, Db.balance_addBalance]
  entries := ⟨[entry], rfl, fun id => by rw [loggedAmount_singleton, owner]⟩

theorem of_charge (db : Db) (accountId : ℕ) (amount : Money) :
    Moves db ((db.addBalance accountId (-amount)).logCharge accountId amount) accountId (-amount)
      (-amount) :=
  of_entry db accountId (-amount) rfl

theorem of_deduct {paid : Db} {isPostpaid : Bool}
    (deducted : db.deduct accountId isPostpaid amount = some paid) :
    Moves db (paid.logCharge accountId amount) accountId (-amount) (-amount) :=
  eq_addBalance_of_deduct deducted ▸ of_charge db accountId amount

end Moves

theorem explained_refundBy (unicode : Unicode) (db : Db) (call : RefundCall) (now : ℕ) :
    Explained db (refundBy unicode db call now) := by
  unfold refundBy
  split
  · exact .refl db
  · rename_i row found
    split
    · exact .refl db
    · let claim := call.claim row now
      have claimed : Explained db
          (db.updateSmsLogs claim.applies fun row => row.refunded claim) := .of_same rfl rfl
      exact claimed.trans (Moves.of_entry _ claim.accountId claim.amount rfl).explained

theorem explained_refundMessage (unicode : Unicode) (db : Db) (messageId : MessageId) (now : ℕ) :
    Explained db (refundMessage unicode db messageId now) := by
  unfold refundMessage
  split
  · exact .refl db
  · exact explained_refundBy unicode db ⟨.autoRefund "batch_queue_fail" false, _⟩ now

theorem explained_keptByWrites (start : Db) :
    KeptByWrites (Explained start) (fun _ => True) (fun _ => True) where
  insert explained _ := explained.trans (.of_same rfl rfl)
  update explained _ := explained.trans (.of_same rfl rfl)
  setBatch _ _ explained := explained.trans (.of_same rfl rfl)
  refundMessage unicode messageId now explained :=
    explained.trans (explained_refundMessage unicode _ messageId now)
  charge explained _ deducted := explained.trans (Moves.of_deduct deducted).explained
  giveBack accountId amount _ explained :=
    explained.trans (Moves.explained (Moves.of_entry _ accountId amount rfl))

theorem explained_chunkTables (env : ChunkEnv) (faults : Faults) (input : ChunkInput) (db : Db) :
    Explained db (chunkTables env faults input db) := by
  have writes := explained_keptByWrites db
  refine writes.chunkTables_kept (.refl db) ?_ ?_
  · intro channel _ _
    exact writes.virtualPath_kept (.refl db) rfl fun _ _ _ => ⟨fun _ _ => trivial, trivial⟩
  · intro batchStatus _ _
    exact writes.ordinaryPath_kept fun _ _ =>
      ⟨fun _ _ => trivial, fun _ _ => trivial, fun _ _ => trivial, trivial⟩

section Csv

variable {env : CsvEnv} {batchId : ℕ} {resume : Bool} {state : CsvState} {db : Db}

theorem explained_updateBatchProgress (unicode : Unicode) (db : Db) (batchId now : ℕ)
    (report : String) :
    Explained db (db.updateBatchProgress unicode batchId now report) := by
  unfold Db.updateBatchProgress
  split <;> exact .of_same rfl rfl

theorem explained_finishCsv (db : Db) (totalRows : ℕ) (batch : SmsBatch) :
    Explained db (finishCsv env db batchId totalRows batch) := by
  have counted : Explained db ((db.setBatch batchId
      { batch with totalCount := totalRows }).updateBatchProgress env.unicode batchId env.now
        env.expiredReport) :=
    .trans (.of_same rfl rfl) (explained_updateBatchProgress ..)
  simp only [finishCsv]
  split
  · exact counted
  · split
    · exact counted
    · exact counted.trans (.of_same rfl rfl)

theorem explained_doProcessBatch (batchId : ℕ) (resume : Bool) (state : CsvState) :
    Explained state.db (doProcessBatch env batchId resume state).1.db := by
  unfold doProcessBatch
  split
  · exact .refl _
  · split
    · exact .refl _
    · dsimp only
      split
      · exact .of_same rfl rfl
      · split
        · exact .of_same rfl rfl
        · dsimp only [processCsvFile]
          split
          · exact .of_same rfl rfl
          · split
            · exact .of_same rfl rfl
            · exact .trans (.of_same rfl rfl) (explained_finishCsv _ _ _)

theorem explained_csvCommits (member : db ∈ csvCommits env batchId resume state) :
    Explained state.db db := by
  unfold csvCommits at member
  split at member
  · cases member
  · split at member
    · cases member
    · rcases List.mem_cons.mp member with rfl | later
      · exact .of_same rfl rfl
      · rcases List.mem_append.mp later with inside | last
        · split at inside
          · rcases List.mem_append.mp inside with looped | expired
            · rcases List.mem_map.mp looped with ⟨batch, _, rfl⟩
              exact .of_same rfl rfl
            · split at expired
              · split at expired
                · cases expired
                · rw [List.mem_singleton.mp expired]
                  exact .of_same rfl rfl
              · cases expired
          · cases inside
        · rw [List.mem_singleton.mp last]
          exact explained_doProcessBatch batchId resume state

theorem explained_interruptedBatch (commits : ℕ) (stored : Option String) :
    Explained state.db (interruptedBatch env batchId resume state commits stored) := by
  have reached : Explained state.db
      ((((csvCommits env batchId resume state).take commits).getLast?).getD state.db) := by
    cases last : ((csvCommits env batchId resume state).take commits).getLast? with
    | none => exact .refl _
    | some db =>
        have member := List.mem_of_getLast? last
        exact explained_csvCommits (List.mem_of_mem_take member)
  unfold interruptedBatch
  dsimp only
  split
  · exact reached.trans (.of_same rfl rfl)
  · exact reached

end Csv

end Klsmsc
