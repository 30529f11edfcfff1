import Klsmsc.Library.Sessions
import Klsmsc.Library.Slices
import Klsmsc.Purchases
import Klsmsc.Recycling
import Klsmsc.StockSummary

/-!
# The sale of public numbers

`buy_to_stock`, `buy_combo` and `buy_and_send` on the rows of `data_numbers`, statement by statement.
A purchase reads the numbers it wants from the snapshot of its transaction, without a lock. It binds
them by conditional UPDATEs, one for all of them or one for every chunk, deducts the total price by
another one, and writes the order, its numbers and the summaries before it commits. The rows that an
UPDATE looks at stay locked until the transaction ends, and `get_db` rolls back on an exception.
`buy_and_send` publishes its task behind the commit.

Which numbers a filter finds, in which order, and the total price are up to the request. A number is
released by the recycler or by a deletion, whose transaction is one step. Of the ids in
`data_order_numbers` those since the last release of the number are kept with it.
-/

namespace Klsmsc

open Library

structure PoolView where
  owner : ℕ → Option ℕ
  active : ℕ → Bool

/-- A row of `data_orders` with its numbers, and what its purchase saw when it started. -/
structure SaleOrder where
  id : ℕ
  accountId : ℕ
  quantity : ℕ
  totalPrice : ℚ
  numbers : List ℕ
  seen : PoolView

structure SaleBooks where
  pool : PoolView
  recorded : ℕ → List ℕ
  balance : ℕ → Option Money
  orders : List SaleOrder
  stock : StockTable

inductive SaleWrite where
  | claim (accountId : ℕ) (numbers : List ℕ)
  | pay (accountId : ℕ) (total : ℚ)
  | record (order : SaleOrder) (stock : List (StockKey × ℕ))

def PoolView.claim (pool : PoolView) (accountId : ℕ) (numbers : List ℕ) : PoolView :=
  { pool with owner := fun id => if id ∈ numbers then some accountId else pool.owner id }

def SaleWrite.apply (books : SaleBooks) : SaleWrite → SaleBooks
  | claim accountId numbers => { books with pool := books.pool.claim accountId numbers }
  | pay accountId total =>
      { books with
        balance := fun id =>
          if id = accountId then
            (books.balance id).map fun balance => decimalColumn (balance - total)
          else books.balance id }
  | record order stock =>
      { books with
        orders := books.orders ++ [order]
        recorded := fun id =>
          if id ∈ order.numbers then books.recorded id ++ [order.id] else books.recorded id
        stock := stock.foldl (fun table entry => Function.update table entry.1 (some entry.2))
          books.stock }

/-- What is locked: rows of `data_numbers`, `accounts` and `data_orders`. -/
inductive SaleKey where
  | number (id : ℕ)
  | account (id : ℕ)
  | order (id : ℕ)
  deriving DecidableEq, Repr

structure Purchase where
  mode : PurchaseMode
  accountId : ℕ
  quantity : ℕ
  total : ℚ
  numbers : List ℕ
  seen : PoolView

def Purchase.chunks (purchase : Purchase) : List (List ℕ) :=
  match purchase.mode with
  | .buyAndSend => slices lockChunk purchase.numbers
  | _ => [purchase.numbers]

def Purchase.order (purchase : Purchase) (id : ℕ) : SaleOrder where
  id := id
  accountId := purchase.accountId
  quantity := purchase.quantity
  totalPrice := purchase.total
  numbers := purchase.numbers
  seen := purchase.seen

/-- Where a session stands. A purchase that has ended reports a success or not, and has committed
its transaction or not. -/
inductive SalePhase where
  | idle
  | reading (seen : PoolView)
  | claiming (purchase : Purchase) (claims rest : List (List ℕ))
  | paid (purchase : Purchase) (claims : List (List ℕ))
  | recorded (purchase : Purchase) (claims : List (List ℕ)) (orderId : ℕ)
      (stock : List (StockKey × ℕ))
  | saved (purchase : Purchase)
  | ended (succeeded committed : Bool)

abbrev SaleStore := Store SaleBooks SaleWrite SaleKey SalePhase

namespace SaleStore

def start (pool : PoolView) (balance : ℕ → Option Money) (stock : StockTable) : SaleStore where
  committed := ⟨pool, fun _ => [], balance, [], stock⟩
  sessions _ := ⟨[], [], .idle⟩

def visible (store : SaleStore) (index : ℕ) : SaleBooks :=
  store.view SaleWrite.apply index

def unsold (store : SaleStore) (index : ℕ) (chunk : List ℕ) : List ℕ :=
  chunk.filter fun id => ((store.visible index).pool.owner id).isNone

def execute (store : SaleStore) (index : ℕ) (keys : List SaleKey) (writes : List SaleWrite)
    (phase : SalePhase) : SaleStore :=
  store.setSession index
    { pending := (store.sessions index).pending ++ writes
      locks := keys ++ (store.sessions index).locks
      phase := phase }

def release (store : SaleStore) (number : ℕ) (active : Bool) : SaleStore :=
  { store with
    committed :=
      { store.committed with
        pool :=
          { owner := Function.update store.committed.pool.owner number none
            active := Function.update store.committed.pool.active number active }
        recorded := Function.update store.committed.recorded number [] } }

end SaleStore

inductive SaleAction where
  | begin
  | select (mode : PurchaseMode) (accountId quantity : ℕ) (total : ℚ) (numbers : List ℕ)
  | claim
  | pay
  | record (orderId : ℕ) (stock : List (StockKey × ℕ))
  | commit
  | publish (works : Bool)
  | fail
  | release (number : ℕ) (active : Bool)

structure SaleLabel where
  session : ℕ
  action : SaleAction

inductive SaleStep : SaleStore → SaleLabel → SaleStore → Prop where
  /-- The first SELECT of a request fixes the snapshot. -/
  | begin {store : SaleStore} {index : ℕ}
      (free : (store.sessions index).phase = .idle ∨
        ∃ succeeded committed, (store.sessions index).phase = .ended succeeded committed) :
      SaleStep store ⟨index, .begin⟩
        (store.rollback index (.reading store.committed.pool))
  /-- The SELECT of the numbers has found as many as are wanted. -/
  | select {store : SaleStore} {index : ℕ} {seen : PoolView} (mode : PurchaseMode)
      (accountId quantity : ℕ) (total : ℚ) (numbers : List ℕ)
      (reading : (store.sessions index).phase = .reading seen) (wanted : 1 ≤ quantity)
      (distinct : numbers.Nodup) (enough : numbers.length = quantity)
      (forSale : ∀ id ∈ numbers, seen.owner id = none ∧ seen.active id = true) :
      SaleStep store ⟨index, .select mode accountId quantity total numbers⟩
        (store.move index
          (.claiming ⟨mode, accountId, quantity, total, numbers, seen⟩ []
            (Purchase.chunks ⟨mode, accountId, quantity, total, numbers, seen⟩)))
  /-- `UPDATE data_numbers .. WHERE id IN (..) AND account_id IS NULL`. -/
  | claim {store : SaleStore} {index : ℕ} {purchase : Purchase} {claims rest : List (List ℕ)}
      {chunk : List ℕ}
      (claiming : (store.sessions index).phase = .claiming purchase claims (chunk :: rest))
      (free : ∀ id ∈ chunk, store.Free index (.number id)) :
      SaleStep store ⟨index, .claim⟩
        (store.execute index (chunk.map .number)
          [.claim purchase.accountId (store.unsold index chunk)]
          (.claiming purchase (claims ++ [store.unsold index chunk]) rest))
  /-- `UPDATE accounts .. WHERE balance >= total`, when enough numbers are bound. -/
  | pay {store : SaleStore} {index : ℕ} {purchase : Purchase} {claims : List (List ℕ)}
      {balance : Money}
      (claiming : (store.sessions index).phase = .claiming purchase claims [])
      (bound : ¬ claims.flatten.length < purchase.quantity)
      (free : store.Free index (.account purchase.accountId))
      (isBalance : (store.visible index).balance purchase.accountId = some balance)
      (enough : purchase.total ≤ balance) :
      SaleStep store ⟨index, .pay⟩
        (store.execute index [.account purchase.accountId]
          [.pay purchase.accountId purchase.total] (.paid purchase claims))
  /-- The flush of the order, its numbers and the summaries. -/
  | record {store : SaleStore} {index : ℕ} {purchase : Purchase} {claims : List (List ℕ)}
      (orderId : ℕ) (stock : List (StockKey × ℕ))
      (paid : (store.sessions index).phase = .paid purchase claims)
      (free : store.Free index (.order orderId))
      (fresh : ∀ order ∈ (store.visible index).orders, order.id ≠ orderId) :
      SaleStep store ⟨index, .record orderId stock⟩
        (store.execute index [.order orderId] [.record (purchase.order orderId) stock]
          (.recorded purchase claims orderId stock))
  | commit {store : SaleStore} {index : ℕ} {purchase : Purchase} {claims : List (List ℕ)}
      {orderId : ℕ} {stock : List (StockKey × ℕ)}
      (recorded : (store.sessions index).phase = .recorded purchase claims orderId stock) :
      SaleStep store ⟨index, .commit⟩
        (store.commit SaleWrite.apply index
          (if purchase.mode = .buyAndSend then .saved purchase else .ended true true))
  /-- The task of `buy_and_send`. -/
  | publish {store : SaleStore} {index : ℕ} {purchase : Purchase} (works : Bool)
      (saved : (store.sessions index).phase = .saved purchase) :
      SaleStep store ⟨index, .publish works⟩ (store.move index (.ended works true))
  /-- A refusal, a lost race, or any other exception before the commit. -/
  | fail {store : SaleStore} {index : ℕ}
      (working : ∀ purchase, (store.sessions index).phase ≠ .saved purchase)
      (open_ : (store.sessions index).phase ≠ .idle ∧
        ∀ succeeded committed, (store.sessions index).phase ≠ .ended succeeded committed) :
      SaleStep store ⟨index, .fail⟩ (store.rollback index (.ended false false))
  | release {store : SaleStore} {index : ℕ} (number : ℕ) (active : Bool)
      (free : ∀ other, .number number ∉ (store.sessions other).locks) :
      SaleStep store ⟨index, .release number active⟩ (store.release number active)

/-- An order has as many different numbers as were wanted, which were active and unsold when its
purchase started. -/
def SaleOrder.Fair (order : SaleOrder) : Prop :=
  1 ≤ order.quantity ∧ order.numbers.Nodup ∧ order.numbers.length = order.quantity ∧
    ∀ id ∈ order.numbers, order.seen.owner id = none ∧ order.seen.active id = true

namespace SaleBooks

/-- A number stands in at most one order since its last release, and then it is bound to the account
of that order. -/
def SoldOnce (books : SaleBooks) : Prop :=
  ∀ id, (books.recorded id).length ≤ 1 ∧ ∀ orderId ∈ books.recorded id,
    ∃ order ∈ books.orders, order.id = orderId ∧ id ∈ order.numbers ∧
      books.pool.owner id = some order.accountId

def PaidExactly (initial : ℕ → Option Money) (books : SaleBooks) : Prop :=
  ∀ accountId balance, initial accountId = some balance →
    ∃ left, books.balance accountId = some left ∧
      (left : ℚ) + ((books.orders.filter fun order => order.accountId = accountId).map
        SaleOrder.totalPrice).sum = balance

structure Sound (initial : ℕ → Option Money) (books : SaleBooks) : Prop where
  soldOnce : books.SoldOnce
  fair : ∀ order ∈ books.orders, order.Fair
  distinct : (books.orders.map SaleOrder.id).Nodup
  paid : books.PaidExactly initial

/-- The sale of an order in one piece: its numbers, which are unsold, go to its account, which pays
for them. -/
structure Sells (before : SaleBooks) (order : SaleOrder) (after : SaleBooks) : Prop where
  fair : order.Fair
  fresh : ∀ earlier ∈ before.orders, earlier.id ≠ order.id
  unsold : ∀ id ∈ order.numbers, before.pool.owner id = none
  bound : after.pool = before.pool.claim order.accountId order.numbers
  recorded : ∀ id, after.recorded id =
    if id ∈ order.numbers then before.recorded id ++ [order.id] else before.recorded id
  orders : after.orders = before.orders ++ [order]
  charged : ∃ balance left, before.balance order.accountId = some balance ∧
    after.balance = Function.update before.balance order.accountId (some left) ∧
      (left : ℚ) = balance - order.totalPrice

end SaleBooks

def SaleStore.Settled (store : SaleStore) : Prop :=
  ∀ index succeeded committed,
    (store.sessions index).phase = .ended succeeded committed → succeeded = committed

/-- What a step does to the tables: a commit sells an order, a release gives a number back, and
nothing else changes them. -/
def SaleStore.Lawful (store : SaleStore) (label : SaleLabel) (after : SaleStore) : Prop :=
  match label.action with
  | .commit => ∃ order, store.committed.Sells order after.committed
  | .release number active => after = store.release number active
  | _ => after.committed = store.committed

def SaleAction.Heeds : SaleAction → Prop
  | .select _ _ _ total _ => ∃ units : Money, total = units
  | .publish works => works = true
  | _ => True

end Klsmsc
