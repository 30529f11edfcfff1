import Klsmsc.Library.Runs
import Klsmsc.Library.Sessions
import Klsmsc.Tables

/-!
# Updates of a balance

What the requests and workers do to the balance of one account, statement by statement. All but one
change it by an UPDATE that subtracts or adds an amount, with a lower bound or without. The purchase
of a package reads the account at the beginning of its request, subtracts the price in memory, and
writes the difference when it commits.

The statements of concurrent sessions interleave. An UPDATE of the account needs its row lock and
keeps it until the session commits or rolls back, and a session can roll back at any point. The
amounts of the charges and credits whose transactions were committed are kept with the balance.
-/

namespace Klsmsc

open Library

structure AccountTally where
  balance : Money
  charged : Money
  credited : Money
  deriving DecidableEq, Repr

inductive BalanceWrite where
  | deduct (amount : Money)
  | credit (amount : Money)
  | assign (balance price : Money)
  deriving DecidableEq, Repr

def BalanceWrite.apply (tally : AccountTally) : BalanceWrite → AccountTally
  | deduct amount =>
      { tally with balance := tally.balance - amount, charged := tally.charged + amount }
  | credit amount =>
      { tally with balance := tally.balance + amount, credited := tally.credited + amount }
  | assign balance price =>
      { tally with balance := balance, charged := tally.charged + price }

/-- The operations that change the balance by an UPDATE, with the amounts that they have worked
out: the three purchases of data, the charge of one message, the charge of a chunk, the refund of
a message and that of a chunk. -/
inductive BalanceOperation where
  | buyToStock (totalPrice : Money)
  | buyCombo (totalPrice : Money)
  | buyAndSend (totalCost : Money)
  | calculateAndCharge (totalSellPrice : Money)
  | bulkDeduct (totalSell : Money)
  | doRefund (amount : Money)
  | chunkRefund (chargedAmount : Money)
  deriving DecidableEq, Repr

namespace BalanceOperation

def Reaches : BalanceOperation → Prop
  | bulkDeduct totalSell => 0 < totalSell
  | doRefund amount => ¬ amount ≤ 0
  | chunkRefund chargedAmount => 0 < chargedAmount
  | _ => True

def write (paymentType : PaymentType) (balance : Money) : BalanceOperation → Option BalanceWrite
  | buyToStock totalPrice => if totalPrice ≤ balance then some (.deduct totalPrice) else none
  | buyCombo totalPrice => if totalPrice ≤ balance then some (.deduct totalPrice) else none
  | buyAndSend totalCost => if totalCost ≤ balance then some (.deduct totalCost) else none
  | calculateAndCharge totalSellPrice =>
      if paymentType = .postpaid ∨ totalSellPrice ≤ balance then some (.deduct totalSellPrice)
      else none
  | bulkDeduct totalSell =>
      if paymentType = .postpaid ∨ totalSell ≤ balance then some (.deduct totalSell) else none
  | doRefund amount => some (.credit amount)
  | chunkRefund chargedAmount => some (.credit chargedAmount)

end BalanceOperation

inductive BalancePhase where
  | idle
  | loaded (price seen : Money)
  | flushed
  deriving DecidableEq, Repr

abbrev BalanceStore := Store AccountTally BalanceWrite Unit BalancePhase

namespace BalanceStore

def start (balance : Money) : BalanceStore where
  committed := ⟨balance, 0, 0⟩
  sessions _ := ⟨[], [], .idle⟩

def visible (store : BalanceStore) (index : ℕ) : AccountTally :=
  store.view BalanceWrite.apply index

end BalanceStore

inductive BalanceAction where
  | update (operation : BalanceOperation)
  | load (price : Money)
  | flush
  | commit
  | rollback
  deriving DecidableEq, Repr

structure BalanceLabel where
  session : ℕ
  action : BalanceAction
  deriving DecidableEq, Repr

inductive BalanceStep (paymentType : PaymentType) :
    BalanceStore → BalanceLabel → BalanceStore → Prop where
  /-- An UPDATE that changes the balance, or that finds it too low. -/
  | update {store : BalanceStore} {index : ℕ} (operation : BalanceOperation)
      (idle : (store.sessions index).phase = .idle) (reaches : operation.Reaches)
      (free : store.Free index ()) :
      BalanceStep paymentType store ⟨index, .update operation⟩
        ((store.lock index ()).write index
          (operation.write paymentType (store.visible index).balance).toList)
  /-- `get_current_account` of `purchase_package`, in a session of its own. -/
  | load {store : BalanceStore} {index : ℕ} (price : Money)
      (fresh : store.sessions index = ⟨[], [], .idle⟩) :
      BalanceStep paymentType store ⟨index, .load price⟩
        (store.move index (.loaded price (store.visible index).balance))
  /-- The flush of `db.commit()`, when the price is not above the balance in memory. -/
  | flush {store : BalanceStore} {index : ℕ} {price seen : Money}
      (loaded : (store.sessions index).phase = .loaded price seen) (enough : ¬ seen < price)
      (changed : price ≠ 0) (free : store.Free index ()) :
      BalanceStep paymentType store ⟨index, .flush⟩
        (((store.lock index ()).write index [.assign (seen - price) price]).move index .flushed)
  /-- The flush leaves out a balance that has not changed. -/
  | unchanged {store : BalanceStore} {index : ℕ} {seen : Money}
      (loaded : (store.sessions index).phase = .loaded 0 seen) (enough : ¬ seen < 0) :
      BalanceStep paymentType store ⟨index, .flush⟩ (store.move index .flushed)
  | commit {store : BalanceStore} {index : ℕ}
      (done : (store.sessions index).phase = .idle ∨ (store.sessions index).phase = .flushed) :
      BalanceStep paymentType store ⟨index, .commit⟩
        (store.commit BalanceWrite.apply index .idle)
  | rollback {store : BalanceStore} {index : ℕ} :
      BalanceStep paymentType store ⟨index, .rollback⟩ (store.rollback index .idle)

end Klsmsc
