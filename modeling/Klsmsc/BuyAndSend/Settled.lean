import Klsmsc.BuyAndSend.AtMostOnce
import Klsmsc.Library.Runs
import Klsmsc.Purchases

/-!
# What an order of numbers and messages costs

`buy_and_send` takes an estimate off the balance: the price of the numbers, and for every number
the price of one part of a message to the country of the first one. Nothing that the task does
afterwards is charged or credited, so the order costs the estimate, whatever is sent.
-/

namespace Klsmsc

open Library

structure SameMoney (before after : Db) : Prop where
  accounts : after.accounts = before.accounts
  balanceLogs : after.balanceLogs = before.balanceLogs

namespace SameMoney

theorem refl (db : Db) : SameMoney db db := ⟨rfl, rfl⟩

theorem trans {first second third : Db} (left : SameMoney first second)
    (right : SameMoney second third) : SameMoney first third :=
  ⟨right.accounts.trans left.accounts, right.balanceLogs.trans left.balanceLogs⟩

theorem modifyBatch (db : Db) (batchId : ℕ) (change : SmsBatch → SmsBatch) :
    SameMoney db (db.modifyBatch batchId change) := by
  unfold Db.modifyBatch
  split <;> exact ⟨rfl, rfl⟩

theorem updateBatchProgress (db : Db) (unicode : Unicode) (batchId now : ℕ) (report : String) :
    SameMoney db (db.updateBatchProgress unicode batchId now report) := by
  unfold Db.updateBatchProgress
  split <;> exact ⟨rfl, rfl⟩

end SameMoney

section Purchase

variable {env : PurchaseEnv} {db paid : Db} {accountId : ℕ} {data : DataOrderCreate}

theorem payTotal_eq_ok {total : ℚ} (bought : payTotal db accountId total = .ok paid) :
    paid.balance accountId =
        (db.balance accountId).map (fun balance => decimalColumn (balance - total)) ∧
      ∃ balance, paid.balanceLogs =
        db.balanceLogs ++ [⟨accountId, .charge, decimalColumn (-total), balance⟩] := by
  unfold payTotal at bought
  split at bought
  · cases bought
  · rename_i account isAccount
    split at bought
    · rw [← Except.ok.inj bought]
      refine ⟨?_, _, rfl⟩
      simp [Db.balance, Db.setBalance, isAccount]
    · cases bought

theorem andSendTotal_eq_ok {total : ℚ} (isTotal : andSendTotal env accountId data = .ok total) :
    ∃ filter unitPrice unit first rest,
      validatePurchase env accountId data = .ok (filter, unitPrice) ∧
        env.decimal unitPrice = some unit ∧
        env.numberIds (filter.withCarrier data.carrier) data.quantity = some (first :: rest) ∧
        total = unit * data.quantity + sampleSmsPrice env accountId first * data.quantity := by
  unfold andSendTotal at isTotal
  split at isTotal
  · cases isTotal
  · rename_i filter unitPrice isValid
    dsimp only at isTotal
    split at isTotal
    · cases isTotal
    · split at isTotal
      · cases isTotal
      · rename_i ids found
        split at isTotal
        · cases isTotal
        · split at isTotal
          · cases isTotal
          · rename_i first rest _
            split at isTotal
            · cases isTotal
            · rename_i dataCost isCost
              unfold findNumbers at found
              split at found
              · cases found
              · rename_i listed isListed
                split at found
                · cases found
                · cases found
                  unfold decimalPrice at isCost
                  split at isCost
                  · cases isCost
                  · rename_i unit isUnit
                    cases isCost
                    cases isTotal
                    exact ⟨filter, unitPrice, unit, first, rest, isValid, isUnit, isListed, rfl⟩

end Purchase

def BuySendLabel.attempt : BuySendLabel → ℕ
  | .commitRows attempt _ _ => attempt
  | .readPage attempt _ _ => attempt
  | .publish attempt _ => attempt
  | .finish attempt _ => attempt
  | .raise attempt _ => attempt

namespace BuySend

variable {task : BuySendTask} {state after : BuySend}

theorem sameMoney_next {label : BuySendLabel} (step : state.Step task label after) :
    SameMoney state.db after.db := by
  cases performs_of_step step with
  | @commitRows _ firstLogId env =>
      have added : SameMoney state.db
          (state.db.addSmsLogs (sendRows env task state.drawn firstLogId)) := ⟨rfl, rfl⟩
      exact added.trans (.modifyBatch _ _ _)
  | readPage => exact .refl _
  | replaceLinks => exact ⟨rfl, rfl⟩
  | publish => exact .refl _
  | finish => exact (SameMoney.updateBatchProgress _ _ _ _ _).trans (.modifyBatch _ _ _)
  | raise => exact .refl _
  | raiseFinalized => exact .modifyBatch _ _ _

theorem attempts_next {label : BuySendLabel} (step : state.Step task label after) {attempt : ℕ}
    (other : label.attempt ≠ attempt) : after.attempts attempt = state.attempts attempt := by
  cases performs_of_step step <;> exact Function.update_of_ne other.symm _ _

theorem sameMoney_run {first last : BuySend}
    {transitions : List (Transition BuySend BuySendLabel)}
    (run : Run (Step task) first transitions last) : SameMoney first.db last.db := by
  have preserved : ∀ before label after, Step task before label after →
      SameMoney first.db before.db → SameMoney first.db after.db :=
    fun _ _ _ step same => same.trans (sameMoney_next step)
  exact (run.invariant preserved (.refl _)).1

theorem attempts_run {first last : BuySend}
    {transitions : List (Transition BuySend BuySendLabel)}
    (run : Run (Step task) first transitions last) {attempt : ℕ}
    (others : ∀ transition ∈ transitions, transition.label.attempt ≠ attempt) :
    last.attempts attempt = first.attempts attempt := by
  induction run with
  | nil state => rfl
  | cons head tail ih =>
      rw [ih fun transition member => others transition (List.mem_cons_of_mem _ member)]
      exact attempts_next head (others _ List.mem_cons_self)

structure Placed (env : PurchaseEnv) (accountId : ℕ) (data : DataOrderCreate) (paid : Db)
    (task : BuySendTask) (first : BuySend) : Prop where
  money : SameMoney paid first.db
  fresh : first.Fresh task
  account : task.accountId = accountId
  numbers : ∃ filter unitPrice, validatePurchase env accountId data = .ok (filter, unitPrice) ∧
    env.numberIds (filter.withCarrier data.carrier) data.quantity =
      some (task.entries.map OrderEntry.numberId)

def Over (state : BuySend) : Prop :=
  (∃ attempt, state.attempts attempt = .ended) ∧
    ∀ attempt, (state.attempts attempt).isSending = false

def enqueuedRows (task : BuySendTask) (state : BuySend) : List SmsLog :=
  (state.db.batchLogs task.batchId).filter fun row => row.messageId ∈ state.handed

def SettlesExactly (env : PurchaseEnv) (data : DataOrderCreate) (db : Db) (task : BuySendTask)
    (last : BuySend) : Prop :=
  ∀ filter unitPrice unit before after,
    validatePurchase env task.accountId data = .ok (filter, unitPrice) →
      env.decimal unitPrice = some unit → db.balance task.accountId = some before →
        last.db.balance task.accountId = some after →
          ((before - after : Money) : ℚ) =
            unit * data.quantity + (((last.enqueuedRows task).map SmsLog.price).sum : Money)

/-- Whatever the task does, the order costs the price of its numbers and, for each of them, the
price of one part of a message to the country of the first one, as the balance column stores the
rest. -/
theorem order_costs_estimate {env : PurchaseEnv} {db paid : Db} {accountId : ℕ}
    {data : DataOrderCreate} (bought : buyAndSend env db accountId data = .ok paid)
    {first last : BuySend} {transitions : List (Transition BuySend BuySendLabel)}
    (placed : first.Placed env accountId data paid task)
    (run : Run (Step task) first transitions last) :
    ∃ filter unitPrice unit number rest,
      validatePurchase env accountId data = .ok (filter, unitPrice) ∧
        env.decimal unitPrice = some unit ∧
        env.numberIds (filter.withCarrier data.carrier) data.quantity = some (number :: rest) ∧
        last.db.balance accountId = (db.balance accountId).map (fun balance =>
          decimalColumn (balance -
            (unit * data.quantity + sampleSmsPrice env accountId number * data.quantity))) ∧
        ∃ balance, last.db.balanceLogs = db.balanceLogs ++ [⟨accountId, .charge, decimalColumn
          (-(unit * data.quantity + sampleSmsPrice env accountId number * data.quantity)),
            balance⟩] := by
  unfold buyAndSend at bought
  cases isTotal : andSendTotal env accountId data with
  | error failure =>
      rw [isTotal] at bought
      cases bought
  | ok total =>
      rw [isTotal] at bought
      rcases andSendTotal_eq_ok isTotal with
        ⟨filter, unitPrice, unit, number, rest, isValid, isUnit, isListed, rfl⟩
      rcases payTotal_eq_ok bought with ⟨deducted, balance, logged⟩
      have same := placed.money.trans (sameMoney_run run)
      refine ⟨filter, unitPrice, unit, number, rest, isValid, isUnit, isListed, ?_, balance, ?_⟩
      · rw [← deducted]
        unfold Db.balance
        rw [same.accounts]
      · rw [same.balanceLogs, logged]

def oneNumberShop : PurchaseEnv where
  toChunkEnv := .plain (.plain .http) 500
  decimal _ := some 10
  packages _ := none
  products _ := none
  matchesAccountCountry _ _ := true
  calculateStock _ := 1
  numberIds _ _ := some [20]
  lockNumbers _ := 1
  numberCountry _ := some "CN"
  dialCode _ := "86"

def oneNumberRequest : DataOrderCreate :=
  ⟨none, [("country", "CN")], 1, none⟩

def oneNumberDb : Db := .plain 10000 (.plain .http) []

def oneNumberPaid : Db :=
  (buyAndSend oneNumberShop oneNumberDb 1 oneNumberRequest).toOption.getD oneNumberDb

theorem oneNumber_paid :
    buyAndSend oneNumberShop oneNumberDb 1 oneNumberRequest = .ok oneNumberPaid := by
  have succeeds :
      (buyAndSend oneNumberShop oneNumberDb 1 oneNumberRequest).toOption.isSome = true := by
    decide +kernel
  cases bought : buyAndSend oneNumberShop oneNumberDb 1 oneNumberRequest with
  | error failure =>
      rw [bought] at succeeds
      cases succeeds
  | ok paid =>
      unfold oneNumberPaid
      rw [bought]
      rfl

theorem oneNumber_placed :
    ({ oneNumberBought with db := oneNumberPaid } : BuySend).Placed oneNumberShop 1
      oneNumberRequest oneNumberPaid oneNumber where
  money := .refl _
  fresh := ⟨by decide +kernel, rfl, rfl, fun _ => rfl⟩
  account := rfl
  numbers := ⟨[("country", "CN")], "0.001", rfl, rfl⟩

/-- A message of two parts is charged as one. -/
theorem two_parts_cost_one :
    ¬∀ (env : PurchaseEnv) (db paid : Db) (accountId : ℕ) (data : DataOrderCreate)
        (task : BuySendTask) (first last : BuySend)
        (transitions : List (Transition BuySend BuySendLabel)),
      buyAndSend env db accountId data = .ok paid → first.Placed env accountId data paid task →
        Run (Step task) first transitions last → last.Over →
          last.SettlesExactly env data db task := by
  intro always
  let twoParts : BuySendEnv := { oneNumberEnv with countSmsParts := fun _ => 2 }
  have sent := Run.exists_labels_of_execute
    (fun state : BuySend => state.attempts 0 = .ended ∧ state.db.balance 1 = some 9490 ∧
      ((state.enqueuedRows oneNumber).map SmsLog.price).sum = 1000)
    (show ((execute (BuySend.next oneNumber) { oneNumberBought with db := oneNumberPaid }
      [.commitRows 0 twoParts 1, .readPage 0 twoParts false, .publish 0 twoParts.broker,
        .finish 0 twoParts]).any _) = true by decide +kernel)
  rcases sent with ⟨transitions, last, run, labels, isEnded, balance, prices⟩
  have isOver : last.Over := by
    refine ⟨⟨0, isEnded⟩, fun attempt => ?_⟩
    by_cases isFirst : attempt = 0
    · rw [isFirst, isEnded]
      rfl
    · have kept : last.attempts attempt = .notStarted := by
        refine attempts_run run ?_
        intro transition member
        have label := labels transition member
        simp only [List.mem_cons, List.not_mem_nil, or_false] at label
        rcases label with label | label | label | label <;> rw [label] <;> exact Ne.symm isFirst
      rw [kept]
      rfl
  have settles := always oneNumberShop oneNumberDb oneNumberPaid 1 oneNumberRequest oneNumber _
    last transitions oneNumber_paid oneNumber_placed run isOver
    [("country", "CN")] "0.001" 10 10000 9490 rfl rfl rfl balance
  rw [prices] at settles
  norm_num [oneNumberRequest] at settles

theorem order_costs_estimate_oneNumber :
    ∃ transitions last,
      Run (Step oneNumber) { oneNumberBought with db := oneNumberPaid } transitions last ∧
        last.handed = [0] ∧ last.db.balance 1 = some 9490 ∧ ∃ filter unitPrice unit number rest,
          validatePurchase oneNumberShop 1 oneNumberRequest = .ok (filter, unitPrice) ∧
            oneNumberShop.decimal unitPrice = some unit ∧
            oneNumberShop.numberIds (filter.withCarrier none) 1 = some (number :: rest) ∧
            last.db.balance 1 = (oneNumberDb.balance 1).map fun balance => decimalColumn (balance -
              (unit * 1 + sampleSmsPrice oneNumberShop 1 number * 1)) := by
  have sent := Run.exists_labels_of_execute
    (fun state : BuySend => state.handed = [0] ∧ state.db.balance 1 = some 9490)
    (show ((execute (BuySend.next oneNumber) { oneNumberBought with db := oneNumberPaid }
      [.commitRows 0 oneNumberEnv 1, .readPage 0 oneNumberEnv false,
        .publish 0 oneNumberEnv.broker]).any _) = true by decide +kernel)
  rcases sent with ⟨transitions, last, run, -, handed, balance⟩
  rcases order_costs_estimate oneNumber_paid oneNumber_placed run with
    ⟨filter, unitPrice, unit, number, rest, isValid, isUnit, isListed, costs, -⟩
  refine ⟨transitions, last, run, handed, balance, filter, unitPrice, unit, number, rest, isValid,
    isUnit, isListed, ?_⟩
  simpa [oneNumberRequest] using costs

end BuySend

end Klsmsc
