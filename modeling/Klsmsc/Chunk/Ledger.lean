import Klsmsc.Chunk.Process
import Klsmsc.Library.Keys
import Mathlib.Algebra.BigOperators.Group.List.Basic
import Mathlib.Algebra.Order.Group.Int
import Mathlib.Tactic.Linarith

/-!
# The ledger of an execution

The abstract view of what the worker does to the tables: the rows it has
appended, of which only the columns count that nothing changes later, and the
money it has moved. Money is what is on the account, less the refunds that the
refund service has credited row by row; so a node task that is turned down and
refunded leaves the ledger as it was, and so do the statuses, links and error
texts that are written to stored rows.
-/

namespace Klsmsc

open Library

structure LogCore where
  messageId : MessageId
  accountId : ℕ
  channelId : Option ℕ
  batchId : Option ℕ
  phoneNumber : String
  price : Money
  deriving DecidableEq, Repr

def SmsLog.core (row : SmsLog) : LogCore :=
  ⟨row.messageId, row.accountId, row.channelId, row.batchId, row.phoneNumber, row.price⟩

def SmsLog.credit (row : SmsLog) : Money :=
  if row.refundedAt = none then 0 else row.refundedAmount.getD 0

def Db.credited (db : Db) (accountId : ℕ) : Money :=
  (db.smsLogs.map fun row => if row.accountId = accountId then row.credit else 0).sum

def Db.purse (db : Db) (accountId : ℕ) : Money :=
  (db.balance accountId).getD 0 - db.credited accountId

structure Ledger where
  rows : List LogCore
  money : Money
  deriving DecidableEq, Repr

namespace Ledger

def empty : Ledger := ⟨[], 0⟩

def add (ledger : Ledger) (rows : List LogCore) : Ledger :=
  { ledger with rows := ledger.rows ++ rows }

def pay (ledger : Ledger) (amount : Money) : Ledger :=
  { ledger with money := ledger.money + amount }

def price (ledger : Ledger) : Money :=
  (ledger.rows.map LogCore.price).sum

@[simp]
theorem add_nil (ledger : Ledger) : ledger.add [] = ledger := by
  simp [add]

@[simp]
theorem add_add (ledger : Ledger) (left right : List LogCore) :
    (ledger.add left).add right = ledger.add (left ++ right) := by
  simp [add]

@[simp]
theorem add_money (ledger : Ledger) (rows : List LogCore) :
    (ledger.add rows).money = ledger.money := rfl

@[simp]
theorem money_empty : empty.money = 0 := rfl

@[simp]
theorem price_empty : empty.price = 0 := rfl

@[simp]
theorem money_pay (ledger : Ledger) (amount : Money) :
    (ledger.pay amount).money = ledger.money + amount := rfl

@[simp]
theorem price_pay (ledger : Ledger) (amount : Money) :
    (ledger.pay amount).price = ledger.price := rfl

@[simp]
theorem price_add (ledger : Ledger) (rows : List LogCore) :
    (ledger.add rows).price = ledger.price + (rows.map LogCore.price).sum := by
  simp [price, add]

end Ledger

def Account.holder (account : Account) : PaymentType × Option String :=
  (account.paymentType, account.countryCode)

structure Since (start : Db) (accountId : ℕ) (ledger : Ledger) (db : Db) : Prop where
  cores : db.smsLogs.map SmsLog.core = start.smsLogs.map SmsLog.core ++ ledger.rows
  keyed : (db.smsLogs.map SmsLog.id).Nodup
  holder : (db.accounts accountId).map Account.holder =
    (start.accounts accountId).map Account.holder
  purse : (start.accounts accountId).isSome →
    db.purse accountId = start.purse accountId + ledger.money

structure Neutral (update : SmsLog → SmsLog) : Prop where
  core : ∀ row, (update row).core = row.core
  id : ∀ row, (update row).id = row.id
  credit : ∀ row, (update row).credit = row.credit

theorem le_foldr_max {numbers : List ℕ} {number : ℕ} (member : number ∈ numbers) :
    number ≤ numbers.foldr max 0 := by
  induction numbers with
  | nil => simp at member
  | cons head tail ih =>
      rcases List.mem_cons.mp member with rfl | inTail
      · simp
      · simp [ih inTail]

namespace Db

variable (db : Db)

theorem id_lt_nextId {row : SmsLog} (member : row ∈ db.smsLogs) : row.id < db.nextId := by
  have isId : row.id ∈ db.smsLogs.map SmsLog.id := List.mem_map_of_mem member
  have bound := le_foldr_max isId
  unfold nextId
  omega

@[simp]
theorem placed_map_core (rows : List SmsLog) :
    (db.placed rows).map SmsLog.core = rows.map SmsLog.core := by
  refine List.ext_getElem (by simp [placed]) ?_
  intro index _ _
  simp [placed, SmsLog.core, SmsLog.price]

theorem placed_map_id (rows : List SmsLog) :
    (db.placed rows).map SmsLog.id = (List.range rows.length).map (db.nextId + ·) := by
  refine List.ext_getElem (by simp [placed]) ?_
  intro index _ _
  simp [placed]

theorem credited_placed {rows : List SmsLog} {accountId : ℕ}
    (fresh : ∀ row ∈ rows, row.refundedAt = none) :
    ((db.placed rows).map fun row => if row.accountId = accountId then row.credit else 0).sum =
      0 := by
  refine List.sum_eq_zero ?_
  intro amount member
  simp only [placed, List.mem_map, List.mem_mapIdx] at member
  rcases member with ⟨row, ⟨index, inside, rfl⟩, rfl⟩
  have unrefunded := fresh rows[index] (List.getElem_mem inside)
  simp [SmsLog.credit, unrefunded]

end Db

namespace Since

variable {start db : Db} {accountId : ℕ} {ledger : Ledger}

theorem refl (keyed : (start.smsLogs.map SmsLog.id).Nodup) :
    Since start accountId .empty start where
  cores := by simp [Ledger.empty]
  keyed := keyed
  holder := rfl
  purse := by simp [Ledger.empty]

theorem insert (since : Since start accountId ledger db) {rows : List SmsLog}
    (fresh : ∀ row ∈ rows, row.refundedAt = none) :
    Since start accountId (ledger.add (rows.map SmsLog.core)) (db.insertSmsLogs rows) where
  cores := by
    simp [Db.insertSmsLogs, since.cores, Ledger.add]
  keyed := by
    simp only [Db.insertSmsLogs, Db.addSmsLogs_smsLogs, List.map_append, Db.placed_map_id]
    refine List.nodup_append'.mpr ⟨since.keyed, ?_, ?_⟩
    · exact List.nodup_range.map fun left right equal => by simpa using equal
    · intro id old new
      rcases List.mem_map.mp old with ⟨row, member, rfl⟩
      rcases List.mem_map.mp new with ⟨offset, _, equal⟩
      have bound := db.id_lt_nextId member
      omega
  holder := by simpa [Db.insertSmsLogs] using since.holder
  purse := by
    intro present
    have before := since.purse present
    have added : _ = (0 : Money) := @Db.credited_placed db rows accountId fresh
    simp only [Db.purse, Db.credited, Db.insertSmsLogs, Db.addSmsLogs_balance,
      Db.addSmsLogs_smsLogs, List.map_append, List.sum_append, added, add_zero,
      Ledger.add_money] at before ⊢
    exact before

theorem update (since : Since start accountId ledger db) {condition : SmsLog → Bool}
    {change : SmsLog → SmsLog} (neutral : Neutral change) :
    Since start accountId ledger (db.updateSmsLogs condition change) where
  cores := by
    rw [← since.cores, Db.updateSmsLogs_smsLogs, List.map_map]
    refine List.map_congr_left ?_
    intro row _
    by_cases changed : condition row = true
    · simp [changed, neutral.core]
    · simp [changed]
  keyed := by
    have same : ((db.updateSmsLogs condition change).smsLogs.map SmsLog.id) =
        db.smsLogs.map SmsLog.id := by
      rw [Db.updateSmsLogs_smsLogs, List.map_map]
      refine List.map_congr_left ?_
      intro row _
      by_cases changed : condition row = true
      · simp [changed, neutral.id]
      · simp [changed]
    rw [same]
    exact since.keyed
  holder := since.holder
  purse := by
    intro present
    have same : (db.updateSmsLogs condition change).credited accountId =
        db.credited accountId := by
      unfold Db.credited
      rw [Db.updateSmsLogs_smsLogs, List.map_map]
      refine congrArg List.sum (List.map_congr_left ?_)
      intro row _
      have owner := congrArg LogCore.accountId (neutral.core row)
      simp only [SmsLog.core] at owner
      by_cases changed : condition row = true
      · simp [changed, owner, neutral.credit]
      · simp [changed]
    rw [Db.purse, same, Db.updateSmsLogs_balance]
    exact since.purse present

theorem addBalanceLog (since : Since start accountId ledger db) (entry : BalanceLog) :
    Since start accountId ledger (db.addBalanceLog entry) :=
  ⟨since.cores, since.keyed, since.holder, since.purse⟩

theorem setBatch (since : Since start accountId ledger db) (batchId : ℕ) (batch : SmsBatch) :
    Since start accountId ledger (db.setBatch batchId batch) :=
  ⟨since.cores, since.keyed, since.holder, since.purse⟩

theorem isSome_iff (since : Since start accountId ledger db) :
    (db.accounts accountId).isSome = (start.accounts accountId).isSome := by
  have same := congrArg Option.isSome since.holder
  simpa using same

theorem addBalance (since : Since start accountId ledger db) (amount : Money) :
    Since start accountId (ledger.pay amount) (db.addBalance accountId amount) where
  cores := since.cores
  keyed := since.keyed
  holder := by
    rw [← since.holder]
    simp only [Db.addBalance, if_true]
    cases db.accounts accountId <;> rfl
  purse := by
    intro present
    have before := since.purse present
    rw [← since.isSome_iff] at present
    rcases Option.isSome_iff_exists.mp present with ⟨account, found⟩
    have owned : (db.balance accountId) = some account.balance := by
      simp [Db.balance, found]
    simp only [Db.purse, Db.credited, Db.balance_addBalance, Db.addBalance_smsLogs, owned,
      if_true, Option.map_some, Option.getD_some, Ledger.pay] at before ⊢
    linarith

theorem deduct (since : Since start accountId ledger db) {isPostpaid : Bool} {amount : Money}
    {after : Db} (deducted : db.deduct accountId isPostpaid amount = some after) :
    Since start accountId (ledger.pay (-amount)) after := by
  unfold Db.deduct at deducted
  split at deducted
  · cases deducted
  · split at deducted
    · cases deducted
      exact since.addBalance (-amount)
    · cases deducted

theorem logCharge (since : Since start accountId ledger db) (amount : Money) :
    Since start accountId ledger (db.logCharge accountId amount) :=
  since.addBalanceLog _

end Since

theorem neutral_linked (env : ChunkEnv) : Neutral (SmsLog.linked env) :=
  ⟨fun _ => rfl, fun _ => rfl, fun _ => rfl⟩

theorem neutral_rejected (text : String) : Neutral fun row => row.rejected text :=
  ⟨fun _ => rfl, fun _ => rfl, fun _ => rfl⟩

theorem neutral_submitted (serial : Option String) : Neutral fun row => row.submitted serial :=
  ⟨fun _ => rfl, fun _ => rfl, fun _ => rfl⟩

section Refunds

variable {start db : Db} {accountId : ℕ} {ledger : Ledger}

theorem executeAutoRefund_cases (unicode : Unicode) (db : Db) (smsLogId : ℕ) (source : String)
    (now : ℕ) :
    executeAutoRefund unicode db smsLogId source now = db ∨
      ∃ row ∈ db.smsLogs, ∃ claim : Claim, ∃ entry, row.refundedAt = none ∧
        0 < row.price ∧ claim.smsLogId = row.id ∧ claim.accountId = row.accountId ∧
        claim.amount = row.price ∧
        executeAutoRefund unicode db smsLogId source now =
          ((db.updateSmsLogs claim.applies fun row => row.refunded claim).addBalance
            claim.accountId claim.amount).addBalanceLog entry := by
  unfold executeAutoRefund
  split
  · exact Or.inl rfl
  · rename_i row found
    split
    · exact Or.inl rfl
    · rename_i category granted
      right
      simp only [RefundEntry.grant, RefundEntry.check] at granted
      have unrefunded : row.refundedAt = none := by
        by_contra refunded
        simp [refunded] at granted
      have positive : 0 < row.price := by
        by_contra small
        simp only [unrefunded, ne_eq, not_true_eq_false, if_false] at granted
        rw [if_pos (not_lt.mp small)] at granted
        cases granted
      exact ⟨row, List.mem_of_find?_eq_some found, _, _, unrefunded, positive, rfl, rfl, rfl, rfl⟩

theorem credited_claim (keyed : (db.smsLogs.map SmsLog.id).Nodup) {row : SmsLog} {claim : Claim}
    (member : row ∈ db.smsLogs) (unrefunded : row.refundedAt = none)
    (isRow : claim.smsLogId = row.id) (owner : claim.accountId = row.accountId) :
    (db.updateSmsLogs claim.applies fun row => row.refunded claim).credited accountId =
      db.credited accountId + if claim.accountId = accountId then claim.amount else 0 := by
  let creditTo (row : SmsLog) : Money := if row.accountId = accountId then row.credit else 0
  let updated (row : SmsLog) : SmsLog :=
    if claim.applies row = true then row.refunded claim else row
  have summed : (db.smsLogs.map fun row => creditTo (updated row)).sum =
      (db.smsLogs.map creditTo).sum + (creditTo (updated row) - creditTo row) :=
    sum_map_update keyed member ?_
  · have applies : claim.applies row = true := by simp [Claim.applies, isRow, unrefunded]
    have changed : creditTo (updated row) - creditTo row =
        if claim.accountId = accountId then claim.amount else 0 := by
      simp only [creditTo, updated, applies, if_true, owner]
      by_cases owned : row.accountId = accountId <;>
        simp [SmsLog.refunded, SmsLog.credit, unrefunded, owned]
    unfold Db.credited
    rw [Db.updateSmsLogs_smsLogs, List.map_map, ← changed]
    exact summed
  · intro other _ differs
    have skipped : claim.applies other = false := by
      simp only [Claim.applies, decide_eq_false_iff_not, not_and]
      intro equal
      exact absurd (equal.trans isRow) differs
    simp [updated, skipped]

theorem Since.executeAutoRefund (since : Since start accountId ledger db) (unicode : Unicode)
    (smsLogId : ℕ) (source : String) (now : ℕ) :
    Since start accountId ledger (executeAutoRefund unicode db smsLogId source now) := by
  rcases executeAutoRefund_cases unicode db smsLogId source now with
    same | ⟨row, member, claim, entry, unrefunded, _, isRow, owner, _, changed⟩
  · rw [same]
    exact since
  · rw [changed]
    refine Since.addBalanceLog ?_ entry
    have cores : ∀ row : SmsLog, (row.refunded claim).core = row.core := fun _ => rfl
    refine ⟨?_, ?_, ?_, ?_⟩
    · rw [Db.addBalance_smsLogs, Db.updateSmsLogs_smsLogs, ← since.cores, List.map_map]
      refine List.map_congr_left ?_
      intro other _
      by_cases applies : claim.applies other = true <;> simp [applies, cores]
    · have same : ((db.updateSmsLogs claim.applies fun row => row.refunded claim).smsLogs.map
          SmsLog.id) = db.smsLogs.map SmsLog.id := by
        rw [Db.updateSmsLogs_smsLogs, List.map_map]
        refine List.map_congr_left ?_
        intro other _
        by_cases applies : claim.applies other = true <;> simp [applies, SmsLog.refunded]
      rw [Db.addBalance_smsLogs, same]
      exact since.keyed
    · rw [← since.holder]
      simp only [Db.addBalance, Db.updateSmsLogs_accounts]
      split
      · cases db.accounts accountId <;> rfl
      · rfl
    · intro present
      have before := since.purse present
      rw [← since.isSome_iff] at present
      rcases Option.isSome_iff_exists.mp present with ⟨account, found⟩
      have owned : db.balance accountId = some account.balance := by simp [Db.balance, found]
      have credited := @credited_claim db accountId since.keyed row claim member unrefunded
        isRow owner
      simp only [Db.purse, Db.balance_addBalance, Db.updateSmsLogs_balance, owned] at before ⊢
      rw [Db.credited, Db.addBalance_smsLogs, ← Db.credited, credited]
      by_cases same : accountId = claim.accountId
      · subst accountId
        simp only [if_true, Option.map_some, Option.getD_some] at before ⊢
        linarith
      · have other : ¬claim.accountId = accountId := fun equal => same equal.symm
        simp only [same, other, if_false, Option.getD_some] at before ⊢
        linarith

theorem Since.refundMessage (since : Since start accountId ledger db) (unicode : Unicode)
    (messageId : MessageId) (now : ℕ) :
    Since start accountId ledger (refundMessage unicode db messageId now) := by
  unfold Klsmsc.refundMessage
  split
  · exact since
  · exact since.executeAutoRefund unicode _ _ now

end Refunds

theorem Since.expireLogs {start db : Db} {accountId : ℕ} {ledger : Ledger}
    (since : Since start accountId ledger db) (rows : List SmsLog) (now : ℕ) (report : String) :
    Since start accountId ledger (expireLogs db rows now report) :=
  since.update ⟨fun _ => rfl, fun _ => rfl, fun _ => rfl⟩

end Klsmsc
