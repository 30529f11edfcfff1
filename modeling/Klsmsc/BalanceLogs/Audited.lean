import Klsmsc.BalanceLogs.Explained
import Mathlib.Algebra.Order.Floor.Ring
import Mathlib.Tactic.Linarith

/-!
# Which operations the log explains

For every operation the condition on its inputs, and on the tables before it, under which the log
explains what it does; and for a sequence of operations that the log explains the tables after
each of them exactly when every operation meets its condition.
-/

namespace Klsmsc

theorem decimalColumn_sub_iff {balance : Money} {amount : ℚ} (enough : amount ≤ balance) :
    decimalColumn (balance - amount) - balance = decimalColumn (-amount) ↔
      (0 < amount → Int.fract amount ≠ 1 / 2) := by
  have rest : decimalColumn (balance - amount) - balance = ⌊1 / 2 - amount⌋ := by
    rw [decimalColumn, if_pos (sub_nonneg.mpr enough),
      show (balance : ℚ) - amount + 1 / 2 = balance + (1 / 2 - amount) by ring,
      Int.floor_intCast_add]
    ring
  rw [rest]
  by_cases positive : 0 < amount
  · have split : amount = ⌊amount⌋ + Int.fract amount := (Int.floor_add_fract amount).symm
    have nonneg := Int.fract_nonneg amount
    have small := Int.fract_lt_one amount
    have left : ⌊1 / 2 - amount⌋ = ⌊1 / 2 - Int.fract amount⌋ - ⌊amount⌋ := by
      rw [← Int.floor_sub_intCast]
      congr 1
      linarith
    have right : decimalColumn (-amount) = -(⌊Int.fract amount + 1 / 2⌋ + ⌊amount⌋) := by
      rw [decimalColumn, if_neg (by linarith), neg_neg, ← Int.floor_add_intCast]
      congr 2
      linarith
    rw [left, right]
    rcases lt_trichotomy (Int.fract amount) (1 / 2) with below | half | above
    · have floors : ⌊1 / 2 - Int.fract amount⌋ = 0 ∧ ⌊Int.fract amount + 1 / 2⌋ = 0 := by
        constructor <;> rw [Int.floor_eq_iff] <;> constructor <;> push_cast <;> linarith
      rw [floors.1, floors.2]
      exact iff_of_true (by ring) fun _ => below.ne
    · have floors : ⌊1 / 2 - Int.fract amount⌋ = 0 ∧ ⌊Int.fract amount + 1 / 2⌋ = 1 := by
        constructor <;> rw [Int.floor_eq_iff] <;> constructor <;> push_cast <;> linarith
      rw [floors.1, floors.2]
      refine iff_of_false (fun equal => ?_) fun differs => differs positive half
      linarith
    · have floors : ⌊1 / 2 - Int.fract amount⌋ = -1 ∧ ⌊Int.fract amount + 1 / 2⌋ = 1 := by
        constructor <;> rw [Int.floor_eq_iff] <;> constructor <;> push_cast <;> linarith
      rw [floors.1, floors.2]
      exact iff_of_true (by ring) fun _ => above.ne'
  · have same : decimalColumn (-amount) = ⌊1 / 2 - amount⌋ := by
      rw [decimalColumn, if_pos (by linarith)]
      congr 1
      ring
    exact iff_of_true same.symm fun isPositive => absurd isPositive positive

def SingleSend.units (message : SingleSend) (env : ChunkEnv) : ℕ :=
  if message.channel.isRcs then 1 else env.countSmsParts message.message

def RoundsAlike (db : Db) (accountId : ℕ) (total : Except PurchaseFailure ℚ) : Prop :=
  ∀ amount account, total = .ok amount → db.accounts accountId = some account →
    amount ≤ account.balance → 0 < amount → Int.fract amount ≠ 1 / 2

/-- The condition under which the log explains what an operation does: the package of a purchase
that commits costs nothing, the total price of a purchase of data is not stored with half a unit,
and the entry of an inbound message whose charge is committed is stored. -/
def LedgerOperation.Logs (db : Db) : LedgerOperation → Prop
  | purchasePackage env accountId packageId ending => ending = .committed →
      ∀ account price, db.accounts accountId = some account →
        env.packages packageId = some price → price ≤ account.balance → price = 0
  | buyToStock env accountId data ending =>
      ending = .committed → RoundsAlike db accountId (toStockTotal env accountId data)
  | buyCombo env accountId productId quantity ending =>
      ending = .committed → RoundsAlike db accountId (comboTotal env accountId productId quantity)
  | buyAndSend env accountId data ending =>
      ending = .committed → RoundsAlike db accountId (andSendTotal env accountId data)
  | sendInbound env message ending logEnding => ending = .committed → logEnding = .rolledBack →
      ∀ account price currency, db.accounts message.accountId = some account →
        env.getPrice message.channel.id message.countryCode message.accountId =
          some (price, currency) →
        (account.paymentType = .postpaid ∨ price * message.units env ≤ account.balance) →
          price * message.units env = 0
  | _ => True

section

variable {db after : Db}

theorem Moves.of_setBalance {accountId : ℕ} {account : Account} (balance : Money)
    (isAccount : db.accounts accountId = some account) :
    Moves db (db.setBalance accountId balance) accountId (balance - account.balance) 0 where
  balance id := by
    unfold Db.setBalance Db.balance
    by_cases same : id = accountId
    · subst same
      simp [isAccount]
    · simp [same]
  entries := ⟨[], by simp [Db.setBalance], fun id => by simp⟩

theorem Moves.log {accountId : ℕ} {moved : Money} (moves : Moves db after accountId moved 0)
    {entry : BalanceLog} (owner : entry.accountId = accountId) :
    Moves db (after.addBalanceLog entry) accountId moved entry.amount where
  balance id := by rw [Db.addBalanceLog_balance, moves.balance]
  entries := by
    rcases moves.entries with ⟨entries, appended, sums⟩
    refine ⟨entries ++ [entry], by simp [appended], fun id => ?_⟩
    rw [loggedAmount_append, sums, loggedAmount_singleton, owner]
    by_cases same : id = accountId
    · simp [same]
    · simp [same]

theorem balance_isSome {accountId : ℕ} {account : Account}
    (isAccount : db.accounts accountId = some account) :
    (db.balance accountId).isSome = true := by
  simp [Db.balance, isAccount]

structure ExplainedIff (db after : Db) (condition : Prop) : Prop where
  iff : Explained db after ↔ condition
  appends : ∃ entries, after.balanceLogs = db.balanceLogs ++ entries

theorem Explained.explainedIff (explained : Explained db after) {condition : Prop}
    (holds : condition) : ExplainedIff db after condition where
  iff := iff_of_true explained holds
  appends := by
    rcases explained with ⟨entries, appended, -⟩
    exact ⟨entries, appended⟩

theorem Moves.explainedIff {accountId : ℕ} {moved logged : Money}
    (moves : Moves db after accountId moved logged) {account : Account}
    (isAccount : db.accounts accountId = some account) {condition : Prop}
    (same : moved = logged ↔ condition) : ExplainedIff db after condition :=
  ⟨(moves.explained_iff (balance_isSome isAccount)).trans same, moves.appends⟩

theorem ExplainedIff.ending {condition : Prop} (ending : Ending)
    (committed : ExplainedIff db after condition) :
    ExplainedIff db (ending.tables db after) (ending = .committed → condition) := by
  cases ending with
  | committed => simpa [Ending.tables] using committed
  | rolledBack => exact (Explained.refl db).explainedIff fun isCommitted => by cases isCommitted

theorem purchasePackage_explainedIff (env : PurchaseEnv) (accountId packageId : ℕ) :
    ExplainedIff db ((purchasePackage env db accountId packageId).toOption.getD db)
      (∀ account price, db.accounts accountId = some account →
        env.packages packageId = some price → price ≤ account.balance → price = 0) := by
  unfold purchasePackage
  cases isAccount : db.accounts accountId with
  | none => exact (Explained.refl db).explainedIff (by simp)
  | some account =>
      cases isPrice : env.packages packageId with
      | none => exact (Explained.refl db).explainedIff (by simp)
      | some price =>
          by_cases poor : account.balance < price
          · simp only [poor, if_true]
            refine (Explained.refl db).explainedIff fun other otherPrice isOther isOtherPrice enough => ?_
            cases isOther
            cases isOtherPrice
            exact absurd poor (not_lt.mpr enough)
          · simp only [poor, if_false]
            refine (Moves.of_setBalance _ isAccount).explainedIff isAccount ⟨?_, ?_⟩
            · intro unmoved other otherPrice isOther isOtherPrice _
              cases isOther
              cases isOtherPrice
              linarith
            · intro free
              rw [free account price rfl rfl (not_lt.mp poor)]
              ring

theorem payTotal_explainedIff (accountId : ℕ) (total : Except PurchaseFailure ℚ) :
    ExplainedIff db ((total.bind (payTotal db accountId)).toOption.getD db)
      (RoundsAlike db accountId total) := by
  cases total with
  | error failure => exact (Explained.refl db).explainedIff fun _ _ isTotal => by cases isTotal
  | ok amount =>
      change ExplainedIff db ((payTotal db accountId amount).toOption.getD db) _
      unfold payTotal
      cases isAccount : db.accounts accountId with
      | none =>
          refine (Explained.refl db).explainedIff fun _ account _ isOther => ?_
          rw [isAccount] at isOther
          cases isOther
      | some account =>
          by_cases enough : amount ≤ account.balance
          · simp only [enough, if_true]
            refine ((Moves.of_setBalance _ isAccount).log rfl).explainedIff isAccount
              ((decimalColumn_sub_iff enough).trans ⟨?_, ?_⟩)
            · intro rounds other otherAccount isTotal isOther _
              cases isTotal
              exact rounds
            · intro rounds
              exact rounds amount account rfl isAccount enough
          · simp only [enough, if_false]
            refine (Explained.refl db).explainedIff fun other otherAccount isTotal isOther affords => ?_
            cases isTotal
            rw [isAccount] at isOther
            cases isOther
            exact absurd affords enough

theorem SingleSend.charge_cases (message : SingleSend) (env : ChunkEnv) (db : Db)
    (skipBalanceLog : Bool) :
    (∃ account price currency charge, db.accounts message.accountId = some account ∧
      env.getPrice message.channel.id message.countryCode message.accountId =
        some (price, currency) ∧
      (account.paymentType = .postpaid ∨ price * message.units env ≤ account.balance) ∧
      charge.totalCost = price * message.units env ∧
      message.charge env db skipBalanceLog = .charged
        (if skipBalanceLog then db.addBalance message.accountId (-charge.totalCost)
        else (db.addBalance message.accountId (-charge.totalCost)).logCharge message.accountId
          charge.totalCost) charge) ∨
    ((∀ account price currency, db.accounts message.accountId = some account →
      env.getPrice message.channel.id message.countryCode message.accountId =
        some (price, currency) →
      ¬(account.paymentType = .postpaid ∨ price * message.units env ≤ account.balance)) ∧
      ∀ paid charge, message.charge env db skipBalanceLog ≠ .charged paid charge) := by
  unfold SingleSend.charge PricingEngine.calculateAndCharge
  cases isPrice : env.getPrice message.channel.id message.countryCode message.accountId with
  | none => exact .inr ⟨by simp, by simp⟩
  | some priced =>
      rcases priced with ⟨price, currency⟩
      cases isAccount : db.accounts message.accountId with
      | none => exact .inr ⟨by simp, by simp⟩
      | some account =>
          by_cases pays : account.paymentType = .postpaid ∨
            price * message.units env ≤ account.balance
          · refine .inl ⟨account, price, currency,
              ⟨message.units env, env.resolveBaseCostPerSms message.channel.id message.countryCode *
                message.units env, price * message.units env, currency⟩, rfl, rfl, pays, rfl, ?_⟩
            simp only [Db.deduct, isAccount, decide_eq_true_eq]
            rw [SingleSend.units] at pays
            rw [if_pos pays]
            rfl
          · refine .inr ⟨fun other otherPrice otherCurrency isOther isOtherPrice => ?_, ?_⟩
            · cases isOther
              cases isOtherPrice
              exact pays
            · simp only [Db.deduct, isAccount, decide_eq_true_eq]
              rw [SingleSend.units] at pays
              rw [if_neg pays]
              simp

theorem send_explained (env : ChunkEnv) (message : SingleSend) (ending : Ending) :
    Explained db ((LedgerOperation.send env message ending).tables db) := by
  rcases message.charge_cases env db false with
    ⟨_, _, _, charge, _, _, _, _, isCharged⟩ | ⟨_, uncharged⟩
  · simp only [LedgerOperation.tables, isCharged]
    cases ending with
    | committed => exact (Moves.of_charge db message.accountId charge.totalCost).explained
    | rolledBack => exact .refl db
  · simp only [LedgerOperation.tables]
    exact .refl db

theorem sendInbound_explainedIff (env : ChunkEnv) (message : SingleSend)
    (ending logEnding : Ending) :
    ExplainedIff db ((LedgerOperation.sendInbound env message ending logEnding).tables db)
      ((LedgerOperation.sendInbound env message ending logEnding).Logs db) := by
  rcases message.charge_cases env db true with
    ⟨account, price, currency, charge, isAccount, isPrice, pays, isTotal, isCharged⟩ |
      ⟨unpaid, uncharged⟩
  · simp only [LedgerOperation.tables, isCharged, if_true]
    refine ExplainedIff.ending ending ?_
    cases logEnding with
    | committed =>
        have logged := (Moves.of_charge db message.accountId charge.totalCost).explained
        exact logged.explainedIff fun isLost => by cases isLost
    | rolledBack =>
        have moves : Moves db (db.addBalance message.accountId (-charge.totalCost))
            message.accountId (-charge.totalCost) 0 :=
          ⟨fun id => Db.balance_addBalance .., [], by simp, fun id => by simp⟩
        refine moves.explainedIff isAccount ⟨?_, ?_⟩
        · intro free _ other otherPrice otherCurrency _ isOtherPrice _
          rw [isPrice] at isOtherPrice
          cases isOtherPrice
          rw [← isTotal]
          linarith
        · intro free
          rw [isTotal, free rfl account price currency isAccount isPrice pays]
          ring
  · simp only [LedgerOperation.tables]
    refine (Explained.refl db).explainedIff fun _ _ account price currency isAccount isPrice pays => ?_
    exact absurd pays (unpaid account price currency isAccount isPrice)

theorem updateSwitched_same (db : Db) (channel : Channel) (rows : List Repriced) :
    (updateSwitched db channel rows).accounts = db.accounts ∧
      (updateSwitched db channel rows).balanceLogs = db.balanceLogs := by
  unfold updateSwitched
  induction rows generalizing db with
  | nil => exact ⟨rfl, rfl⟩
  | cons repriced rows ih => exact ih _

theorem switchChannel_explained (env : RepricingEnv) (batchId accountId newChannelId : ℕ)
    (ending : Ending) :
    Explained db
      ((LedgerOperation.switchChannel env batchId accountId newChannelId ending).tables db) := by
  have whole : ∀ channel rows difference paid,
      payDifference db accountId difference = some paid →
        Explained db (logDifference (updateSwitched paid channel rows) accountId difference) := by
    intro channel rows difference paid isPaid
    rcases updateSwitched_same paid channel rows with ⟨accounts, logs⟩
    have moved : ∀ amount, paid = db.addBalance accountId amount → amount = -difference →
        Explained db ((updateSwitched paid channel rows).addBalanceLog
          ⟨accountId, .adjustment, -difference,
            ((updateSwitched paid channel rows).balance accountId).getD 0⟩) := by
      rintro amount rfl rfl
      refine Moves.explained (Moves.log ⟨fun id => ?_, [], by simp [logs], fun id => by simp⟩ rfl)
      rw [Db.balance, accounts]
      exact Db.balance_addBalance ..
    unfold payDifference at isPaid
    rcases lt_trichotomy 0 difference with up | same | down
    · rw [if_pos up] at isPaid
      split at isPaid
      · cases isPaid
        rw [logDifference, if_pos up.ne']
        exact moved _ rfl rfl
      · cases isPaid
    · rw [← same] at isPaid ⊢
      cases isPaid
      exact .of_same accounts logs
    · rw [if_neg (not_lt.mpr down.le), if_pos down] at isPaid
      cases isPaid
      rw [logDifference, if_pos down.ne]
      exact moved _ rfl (Int.ofNat_natAbs_of_nonpos down.le)
  simp only [LedgerOperation.tables, switchChannelForUnsent]
  cases planSwitch env db batchId newChannelId with
  | error reason => exact .refl db
  | ok plan =>
      rcases plan with ⟨channel, rows⟩
      cases isPaid : payDifference db accountId (totalDiff rows) with
      | none =>
          simp only [isPaid]
          exact .refl db
      | some paid =>
          simp only [isPaid]
          cases ending with
          | committed => exact whole channel rows _ paid isPaid
          | rolledBack => exact .refl db

theorem LedgerOperation.explainedIff (db : Db) (operation : LedgerOperation) :
    ExplainedIff db (operation.tables db) (operation.Logs db) := by
  cases operation with
  | purchasePackage env accountId packageId ending =>
      exact (purchasePackage_explainedIff env accountId packageId).ending ending
  | buyToStock env accountId data ending => exact (payTotal_explainedIff accountId _).ending ending
  | buyCombo env accountId productId quantity ending =>
      exact (payTotal_explainedIff accountId _).ending ending
  | buyAndSend env accountId data ending => exact (payTotal_explainedIff accountId _).ending ending
  | send env message ending => exact (send_explained env message ending).explainedIff trivial
  | sendInbound env message ending logEnding =>
      exact sendInbound_explainedIff env message ending logEnding
  | processBatch env batchId resume columns interrupted =>
      refine Explained.explainedIff ?_ trivial
      cases interrupted with
      | none => exact explained_doProcessBatch batchId resume (columns.state db)
      | some cut => exact explained_interruptedBatch cut.1 cut.2
  | processChunk env faults input =>
      exact (explained_chunkTables env faults input db).explainedIff trivial
  | switchChannel env batchId accountId newChannelId ending =>
      exact (switchChannel_explained env batchId accountId newChannelId ending).explainedIff trivial
  | refund unicode call now ending =>
      refine Explained.explainedIff ?_ trivial
      cases ending with
      | committed => exact explained_refundBy unicode db call now
      | rolledBack => exact .refl db

end

theorem tablesAfter_take_succ {db : Db} {operations : List LedgerOperation} {index : ℕ}
    (inside : index < operations.length) :
    tablesAfter db (operations.take (index + 1)) =
      (operations[index]).tables (tablesAfter db (operations.take index)) := by
  rw [List.take_succ_eq_append_getElem inside, tablesAfter, List.foldl_append]
  rfl

def PurchaseEnv.plain : PurchaseEnv where
  toChunkEnv := .plain (.plain .smpp) 1
  decimal _ := none
  packages id := if id = 1 then some 20 else none
  products _ := none
  matchesAccountCountry _ _ := true
  calculateStock _ := 0
  numberIds _ _ := none
  lockNumbers _ := 0
  numberCountry _ := none
  dialCode country := country

def Db.shop : Db := .plain 100 (.plain .smpp) []

end Klsmsc
