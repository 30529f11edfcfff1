import Klsmsc.Chunk.Writes

/-!
# What an execution adds to the tables

Whatever raises, an execution stores rows only for entries that its checks have found and logs
charges only for them; it takes no row and no log away. So a property of the numbers and the
amounts that it may add holds of all that it adds.
-/

namespace Klsmsc

open Library

structure Adds (start : Db) (phoneOk : String → Prop) (amountOk : Money → Prop) (db : Db) :
    Prop where
  phones : ∃ phones, db.smsLogs.map SmsLog.phoneNumber =
    start.smsLogs.map SmsLog.phoneNumber ++ phones ∧ ∀ phone ∈ phones, phoneOk phone
  charges : ∃ logs, db.balanceLogs = start.balanceLogs ++ logs ∧
    ∀ log ∈ logs, log.changeType = .charge → amountOk (-log.amount)

namespace Adds

variable {start db : Db} {phoneOk : String → Prop} {amountOk : Money → Prop}

theorem refl (start : Db) (phoneOk : String → Prop) (amountOk : Money → Prop) :
    Adds start phoneOk amountOk start :=
  ⟨⟨[], by simp, by simp⟩, ⟨[], by simp, by simp⟩⟩

theorem insert (adds : Adds start phoneOk amountOk db) {rows : List SmsLog}
    (ok : ∀ row ∈ rows, phoneOk row.phoneNumber) :
    Adds start phoneOk amountOk (db.insertSmsLogs rows) := by
  rcases adds with ⟨⟨phones, before, okBefore⟩, charges⟩
  refine ⟨⟨phones ++ rows.map SmsLog.phoneNumber, ?_, ?_⟩, charges⟩
  · have placed : (db.placed rows).map SmsLog.phoneNumber = rows.map SmsLog.phoneNumber :=
      List.ext_getElem (by simp [Db.placed]) fun index _ _ => by simp [Db.placed]
    rw [Db.insertSmsLogs, Db.addSmsLogs_smsLogs, List.map_append, placed, before,
      List.append_assoc]
  · intro phone member
    rcases List.mem_append.mp member with earlier | new
    · exact okBefore phone earlier
    · rcases List.mem_map.mp new with ⟨row, isRow, rfl⟩
      exact ok row isRow

theorem update (adds : Adds start phoneOk amountOk db) {condition : SmsLog → Bool}
    {change : SmsLog → SmsLog} (same : ∀ row, (change row).phoneNumber = row.phoneNumber) :
    Adds start phoneOk amountOk (db.updateSmsLogs condition change) := by
  rcases adds with ⟨⟨phones, before, ok⟩, charges⟩
  refine ⟨⟨phones, ?_, ok⟩, charges⟩
  rw [← before, Db.updateSmsLogs_smsLogs, List.map_map]
  apply List.map_congr_left
  intro row _
  by_cases applies : condition row = true
  · simp [applies, same]
  · simp [applies]

theorem addBalance (adds : Adds start phoneOk amountOk db) (accountId : ℕ) (amount : Money) :
    Adds start phoneOk amountOk (db.addBalance accountId amount) :=
  ⟨adds.phones, adds.charges⟩

theorem setBatch (adds : Adds start phoneOk amountOk db) (batchId : ℕ) (batch : SmsBatch) :
    Adds start phoneOk amountOk (db.setBatch batchId batch) :=
  ⟨adds.phones, adds.charges⟩

theorem addBalanceLog (adds : Adds start phoneOk amountOk db) {entry : BalanceLog}
    (ok : entry.changeType = .charge → amountOk (-entry.amount)) :
    Adds start phoneOk amountOk (db.addBalanceLog entry) := by
  rcases adds with ⟨phones, logs, before, okBefore⟩
  refine ⟨phones, logs ++ [entry], ?_, ?_⟩
  · rw [Db.addBalanceLog_balanceLogs, before, List.append_assoc]
  · intro log member
    rcases List.mem_append.mp member with earlier | new
    · exact okBefore log earlier
    · rw [List.mem_singleton.mp new]
      exact ok

theorem logCharge (adds : Adds start phoneOk amountOk db) (accountId : ℕ) {amount : Money}
    (ok : amountOk amount) : Adds start phoneOk amountOk (db.logCharge accountId amount) :=
  adds.addBalanceLog fun _ => by simpa using ok

theorem deduct (adds : Adds start phoneOk amountOk db) {accountId : ℕ} {isPostpaid : Bool}
    {amount : Money} {after : Db} (deducted : db.deduct accountId isPostpaid amount = some after) :
    Adds start phoneOk amountOk after :=
  eq_addBalance_of_deduct deducted ▸ adds.addBalance accountId (-amount)

theorem claimed (adds : Adds start phoneOk amountOk db) (claim : Claim) :
    Adds start phoneOk amountOk
      (db.updateSmsLogs claim.applies fun row => row.refunded claim) :=
  adds.update fun _ => rfl

theorem refundMessage (adds : Adds start phoneOk amountOk db) (unicode : Unicode)
    (messageId : MessageId) (now : ℕ) :
    Adds start phoneOk amountOk (refundMessage unicode db messageId now) := by
  unfold Klsmsc.refundMessage
  split
  · exact adds
  · unfold executeAutoRefund
    split
    · exact adds
    · split
      · exact adds
      · refine addBalanceLog (addBalance (adds.claimed _) _ _) fun charge => ?_
        cases charge

theorem keptByWrites (start : Db) (phoneOk : String → Prop) (amountOk : Money → Prop) :
    KeptByWrites (Adds start phoneOk amountOk) phoneOk amountOk where
  insert adds ok := adds.insert ok
  update adds same := adds.update same
  setBatch batchId batch adds := adds.setBatch batchId batch
  refundMessage unicode messageId now adds := adds.refundMessage unicode messageId now
  charge adds ok deducted := (adds.deduct deducted).logCharge _ ok
  giveBack accountId amount balanceAfter adds :=
    (adds.addBalance accountId amount).addBalanceLog fun charge => by cases charge

end Adds

end Klsmsc
