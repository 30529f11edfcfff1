import Klsmsc.NumberSales

/-!
# Every number is sold once

A session that has bound a number holds its row until it ends, so that the number stays unsold in
the committed tables while the purchase is under way. What a purchase commits is therefore the sale
of its order in one piece, whatever the other sessions do in between.
-/

namespace Klsmsc

open Library

theorem decimalColumn_intCast (units : Money) : decimalColumn (units : ℚ) = units := by
  have half : ∀ value : ℤ, ⌊(value : ℚ) + 1 / 2⌋ = value := by
    intro value
    rw [Int.floor_intCast_add]
    norm_num
  by_cases positive : (0 : ℚ) ≤ units
  · rw [decimalColumn, if_pos positive]
    exact half units
  · rw [decimalColumn, if_neg positive, ← Int.cast_neg]
    have floor := half (-units)
    rw [floor]
    exact neg_neg units

namespace PoolView

theorem claim_nil (pool : PoolView) (accountId : ℕ) : pool.claim accountId [] = pool := by
  simp [claim]

theorem claim_claim (pool : PoolView) (accountId : ℕ) (left right : List ℕ) :
    (pool.claim accountId left).claim accountId right = pool.claim accountId (left ++ right) := by
  simp only [claim, mk.injEq, and_true]
  funext id
  by_cases first : id ∈ left
  · simp [first]
  · simp [first]

theorem claim_owner_of_not_mem (pool : PoolView) (accountId : ℕ) {numbers : List ℕ} {id : ℕ}
    (other : id ∉ numbers) : (pool.claim accountId numbers).owner id = pool.owner id :=
  if_neg other

theorem claim_owner_of_mem (pool : PoolView) (accountId : ℕ) {numbers : List ℕ} {id : ℕ}
    (member : id ∈ numbers) : (pool.claim accountId numbers).owner id = some accountId :=
  if_pos member

end PoolView

theorem foldl_claims (accountId : ℕ) (claims : List (List ℕ)) (books : SaleBooks) :
    (claims.map (SaleWrite.claim accountId)).foldl SaleWrite.apply books =
      { books with pool := books.pool.claim accountId claims.flatten } := by
  induction claims generalizing books with
  | nil => simp [PoolView.claim_nil]
  | cons claim claims ih =>
      rw [List.map_cons, List.foldl_cons, ih, SaleWrite.apply, PoolView.claim_claim,
        List.flatten_cons]

namespace SaleBooks

variable {initial : ℕ → Option Money} {before after : SaleBooks} {order : SaleOrder}

theorem SoldOnce.recorded_eq_nil (soldOnce : before.SoldOnce) {id : ℕ}
    (unsold : before.pool.owner id = none) : before.recorded id = [] := by
  rw [List.eq_nil_iff_forall_not_mem]
  intro orderId member
  rcases (soldOnce id).2 orderId member with ⟨order, -, -, -, owned⟩
  rw [unsold] at owned
  cases owned

theorem SoldOnce.sells (soldOnce : before.SoldOnce) (sells : before.Sells order after) :
    after.SoldOnce := by
  intro id
  by_cases member : id ∈ order.numbers
  · have alone : after.recorded id = [order.id] := by
      rw [sells.recorded, if_pos member, soldOnce.recorded_eq_nil (sells.unsold id member)]
      rfl
    rw [alone]
    refine ⟨Nat.le_refl 1, ?_⟩
    intro orderId isOrder
    cases List.mem_singleton.mp isOrder
    refine ⟨order, ?_, rfl, member, ?_⟩
    · rw [sells.orders]
      exact List.mem_append_right _ List.mem_cons_self
    · rw [sells.bound]
      exact PoolView.claim_owner_of_mem _ _ member
  · rw [sells.recorded, if_neg member]
    rcases soldOnce id with ⟨once, stands⟩
    refine ⟨once, ?_⟩
    intro orderId isOrder
    rcases stands orderId isOrder with ⟨earlier, listed, isId, inside, owned⟩
    refine ⟨earlier, ?_, isId, inside, ?_⟩
    · rw [sells.orders]
      exact List.mem_append_left _ listed
    · rw [sells.bound, PoolView.claim_owner_of_not_mem _ _ member]
      exact owned

theorem PaidExactly.sells (paid : before.PaidExactly initial) (sells : before.Sells order after) :
    after.PaidExactly initial := by
  intro accountId balance isInitial
  rcases paid accountId balance isInitial with ⟨earlier, isEarlier, sum⟩
  rcases sells.charged with ⟨own, left, isOwn, isLeft, price⟩
  rw [isLeft, sells.orders, List.filter_append, List.map_append, List.sum_append]
  by_cases same : order.accountId = accountId
  · subst same
    rw [isEarlier] at isOwn
    cases isOwn
    refine ⟨left, Function.update_self _ _ _, ?_⟩
    simp only [List.filter_cons, decide_true, if_true, List.filter_nil, List.map_cons,
      List.map_nil, List.sum_cons, List.sum_nil]
    linarith
  · refine ⟨earlier, ?_, ?_⟩
    · rw [Function.update_of_ne (Ne.symm same)]
      exact isEarlier
    · simp only [List.filter_cons, same, decide_false, Bool.false_eq_true, if_false,
        List.filter_nil, List.map_nil, List.sum_nil, add_zero]
      exact sum

theorem Sound.sells (sound : before.Sound initial) (sells : before.Sells order after) :
    after.Sound initial := by
  refine ⟨sound.soldOnce.sells sells, ?_, ?_, sound.paid.sells sells⟩
  · rw [sells.orders]
    intro other member
    rcases List.mem_append.mp member with earlier | new
    · exact sound.fair other earlier
    · cases List.mem_singleton.mp new
      exact sells.fair
  · rw [sells.orders, List.map_append, List.map_cons, List.map_nil]
    apply sound.distinct.append (List.nodup_singleton _)
    intro id old new
    cases List.mem_singleton.mp new
    rcases List.mem_map.mp old with ⟨earlier, member, same⟩
    exact sells.fresh earlier member same

theorem Sound.release {store : SaleStore} (sound : store.committed.Sound initial) (number : ℕ)
    (active : Bool) : (store.release number active).committed.Sound initial := by
  refine ⟨?_, sound.fair, sound.distinct, sound.paid⟩
  intro id
  by_cases same : id = number
  · subst same
    simp [SaleStore.release]
  · simp only [SaleStore.release, Function.update_of_ne same]
    exact sound.soldOnce id

end SaleBooks

namespace SaleStore

structure Binds (store : SaleStore) (index : ℕ) (purchase : Purchase) (numbers : List ℕ) :
    Prop where
  fair : ∀ id, (purchase.order id).Fair
  units : ∃ units : Money, purchase.total = units
  locked : ∀ id ∈ numbers, SaleKey.number id ∈ (store.sessions index).locks
  unsold : ∀ id ∈ numbers, store.committed.pool.owner id = none

def Progress (store : SaleStore) (index : ℕ) : SalePhase → Prop
  | .idle | .reading _ | .saved _ => (store.sessions index).pending = []
  | .ended succeeded committed => (store.sessions index).pending = [] ∧ succeeded = committed
  | .claiming purchase claims rest =>
      (store.sessions index).pending = claims.map (.claim purchase.accountId) ∧
        (claims.flatten ++ rest.flatten).Sublist purchase.numbers ∧
        store.Binds index purchase claims.flatten
  | .paid purchase claims =>
      (store.sessions index).pending = claims.map (.claim purchase.accountId) ++
          [.pay purchase.accountId purchase.total] ∧
        claims.flatten = purchase.numbers ∧ store.Binds index purchase purchase.numbers ∧
        (store.committed.balance purchase.accountId).isSome = true
  | .recorded purchase claims orderId stock =>
      (store.sessions index).pending = claims.map (.claim purchase.accountId) ++
          [.pay purchase.accountId purchase.total, .record (purchase.order orderId) stock] ∧
        claims.flatten = purchase.numbers ∧ store.Binds index purchase purchase.numbers ∧
        (store.committed.balance purchase.accountId).isSome = true ∧
        SaleKey.order orderId ∈ (store.sessions index).locks ∧
        ∀ order ∈ store.committed.orders, order.id ≠ orderId

structure Leaves (before after : SaleBooks) (locks : List SaleKey) : Prop where
  owner : ∀ id, SaleKey.number id ∈ locks → after.pool.owner id = before.pool.owner id
  balance : ∀ id, (after.balance id).isSome = (before.balance id).isSome
  orders : ∀ order ∈ after.orders, SaleKey.order order.id ∈ locks → order ∈ before.orders

theorem Leaves.refl (books : SaleBooks) (locks : List SaleKey) : Leaves books books locks :=
  ⟨fun _ _ => rfl, fun _ => rfl, fun _ member _ => member⟩

section

variable {store after : SaleStore} {index : ℕ}

theorem Binds.other {purchase : Purchase} {numbers : List ℕ}
    (binds : store.Binds index purchase numbers)
    (same : after.sessions index = store.sessions index)
    (leaves : Leaves store.committed after.committed (store.sessions index).locks) :
    after.Binds index purchase numbers := by
  refine ⟨binds.fair, binds.units, ?_, ?_⟩
  · rw [same]
    exact binds.locked
  · intro id member
    rw [leaves.owner id (binds.locked id member)]
    exact binds.unsold id member

theorem Progress.other {phase : SalePhase} (progress : store.Progress index phase)
    (same : after.sessions index = store.sessions index)
    (leaves : Leaves store.committed after.committed (store.sessions index).locks) :
    after.Progress index phase := by
  cases phase with
  | idle | reading seen | saved purchase =>
      rw [Progress, same]
      exact progress
  | ended succeeded committed =>
      rw [Progress, same]
      exact progress
  | claiming purchase claims rest =>
      rcases progress with ⟨pending, found, binds⟩
      rw [Progress, same]
      exact ⟨pending, found, binds.other same leaves⟩
  | paid purchase claims =>
      rcases progress with ⟨pending, found, binds, balance⟩
      rw [Progress, same, leaves.balance]
      exact ⟨pending, found, binds.other same leaves, balance⟩
  | recorded purchase claims orderId stock =>
      rcases progress with ⟨pending, found, binds, balance, locked, fresh⟩
      rw [Progress, same, leaves.balance]
      refine ⟨pending, found, binds.other same leaves, balance, locked, ?_⟩
      intro order member isId
      subst isId
      exact fresh order (leaves.orders order member locked) rfl

theorem Progress.sells {purchase : Purchase} {claims : List (List ℕ)} {orderId : ℕ}
    {stock : List (StockKey × ℕ)}
    (progress : store.Progress index (.recorded purchase claims orderId stock)) :
    store.committed.Sells (purchase.order orderId) (store.visible index) := by
  rcases progress with ⟨pending, found, binds, balance, -, fresh⟩
  rcases Option.isSome_iff_exists.mp balance with ⟨before, isBefore⟩
  rcases binds.units with ⟨units, isUnits⟩
  let bound := store.committed.pool.claim purchase.accountId purchase.numbers
  have view : store.visible index =
      SaleWrite.apply (SaleWrite.apply { store.committed with pool := bound }
        (.pay purchase.accountId purchase.total)) (.record (purchase.order orderId) stock) := by
    rw [visible, Store.view, pending, List.foldl_append, foldl_claims, found]
    rfl
  rw [view]
  refine ⟨binds.fair orderId, fresh, binds.unsold, rfl, fun _ => rfl, rfl, ?_⟩
  refine ⟨before, before - units, isBefore, ?_, ?_⟩
  · have rounded : decimalColumn ((before : ℚ) - purchase.total) = before - units := by
      rw [isUnits, ← Int.cast_sub]
      exact decimalColumn_intCast _
    funext id
    by_cases same : id = purchase.accountId
    · subst same
      simp [SaleWrite.apply, Purchase.order, isBefore, rounded]
    · simp [SaleWrite.apply, Purchase.order, same]
  · rw [Purchase.order, isUnits]
    exact Int.cast_sub _ _

end

end SaleStore

structure SaleInvariant (initial : ℕ → Option Money) (store : SaleStore) : Prop where
  exclusive : store.Exclusive
  sound : store.committed.Sound initial
  progress : ∀ index, store.Progress index (store.sessions index).phase

namespace SaleInvariant

variable {initial : ℕ → Option Money} {store after : SaleStore} {index : ℕ}

theorem start (pool : PoolView) (balance : ℕ → Option Money) (stock : StockTable) :
    SaleInvariant balance (SaleStore.start pool balance stock) := by
  refine ⟨?_, ⟨?_, ?_, List.nodup_nil, ?_⟩, fun _ => rfl⟩
  · intro index key member
    simp [SaleStore.start] at member
  · intro id
    simp [SaleStore.start]
  · intro order member
    simp [SaleStore.start] at member
  · intro accountId left isInitial
    exact ⟨left, isInitial, by simp [SaleStore.start]⟩

theorem setSession (invariant : SaleInvariant initial store)
    {session : Session SaleWrite SaleKey SalePhase}
    (locked : ∀ key ∈ session.locks,
      key ∈ (store.sessions index).locks ∨ store.Free index key)
    (own : SaleStore.Progress (store.setSession index session) index session.phase) :
    SaleInvariant initial (store.setSession index session) := by
  refine ⟨invariant.exclusive.setSession locked, invariant.sound, ?_⟩
  intro other
  by_cases same : other = index
  · subst same
    rw [Store.setSession_same]
    exact own
  · rw [Store.setSession_other _ _ _ same]
    exact (invariant.progress other).other (Store.setSession_other _ _ _ same)
      (SaleStore.Leaves.refl _ _)

theorem rollback (invariant : SaleInvariant initial store) {phase : SalePhase}
    (own : SaleStore.Progress (store.rollback index phase) index phase) :
    SaleInvariant initial (store.rollback index phase) :=
  invariant.setSession (by simp) own

theorem move (invariant : SaleInvariant initial store) {phase : SalePhase}
    (own : SaleStore.Progress (store.move index phase) index phase) :
    SaleInvariant initial (store.move index phase) :=
  invariant.setSession (fun _ member => Or.inl member) own

theorem execute (invariant : SaleInvariant initial store) {keys : List SaleKey}
    {writes : List SaleWrite} {phase : SalePhase} (free : ∀ key ∈ keys, store.Free index key)
    (own : (store.execute index keys writes phase).Progress index phase) :
    SaleInvariant initial (store.execute index keys writes phase) := by
  refine invariant.setSession ?_ own
  intro key member
  rcases List.mem_append.mp member with new | old
  · exact Or.inr (free key new)
  · exact Or.inl old

theorem select (invariant : SaleInvariant initial store) {purchase : Purchase}
    (reading : (store.sessions index).phase = .reading purchase.seen)
    (fair : ∀ id, (purchase.order id).Fair) (units : ∃ units : Money, purchase.total = units) :
    SaleInvariant initial (store.move index (.claiming purchase [] purchase.chunks)) := by
  have pending : (store.sessions index).pending = [] := by
    have progress := invariant.progress index
    rw [reading] at progress
    exact progress
  have chunks : purchase.chunks.flatten = purchase.numbers := by
    rw [Purchase.chunks]
    split
    · exact flatten_slices (by decide) _
    · exact List.append_nil _
  refine invariant.move ⟨?_, ?_, fair, units, ?_, ?_⟩
  · rw [Store.move_same]
    exact pending
  · rw [List.flatten_nil, List.nil_append, chunks]
  · intro id member
    cases member
  · intro id member
    cases member

theorem claim (invariant : SaleInvariant initial store) {purchase : Purchase}
    {claims rest : List (List ℕ)} {chunk : List ℕ}
    (claiming : (store.sessions index).phase = .claiming purchase claims (chunk :: rest))
    (free : ∀ id ∈ chunk, store.Free index (.number id)) :
    SaleInvariant initial (store.execute index (chunk.map .number)
      [.claim purchase.accountId (store.unsold index chunk)]
      (.claiming purchase (claims ++ [store.unsold index chunk]) rest)) := by
  have progress := invariant.progress index
  rw [claiming] at progress
  rcases progress with ⟨pending, found, binds⟩
  have visible : (store.visible index).pool =
      store.committed.pool.claim purchase.accountId claims.flatten := by
    rw [SaleStore.visible, Store.view, pending, foldl_claims]
  apply invariant.execute
  · intro key member
    rcases List.mem_map.mp member with ⟨id, inside, rfl⟩
    exact free id inside
  · rw [SaleStore.Progress, SaleStore.execute, Store.setSession_same]
    refine ⟨?_, ?_, binds.fair, binds.units, ?_, ?_⟩
    · rw [pending, List.map_append]
      rfl
    · rw [List.flatten_append, List.flatten_singleton, List.append_assoc]
      refine List.Sublist.trans (List.Sublist.append_left ?_ _) found
      exact List.filter_sublist.append_right _
    · intro id member
      rw [Store.setSession_same]
      rw [List.flatten_append, List.flatten_singleton] at member
      rcases List.mem_append.mp member with old | new
      · exact List.mem_append_right _ (binds.locked id old)
      · exact List.mem_append_left _ (List.mem_map_of_mem (List.mem_of_mem_filter new))
    · intro id member
      rw [List.flatten_append, List.flatten_singleton] at member
      rcases List.mem_append.mp member with old | new
      · exact binds.unsold id old
      · have unsold := (List.mem_filter.mp new).2
        rw [visible, Option.isNone_iff_eq_none] at unsold
        by_cases bound : id ∈ claims.flatten
        · exact binds.unsold id bound
        · rw [PoolView.claim_owner_of_not_mem _ _ bound] at unsold
          exact unsold

theorem pay (invariant : SaleInvariant initial store) {purchase : Purchase}
    {claims : List (List ℕ)} {balance : Money}
    (claiming : (store.sessions index).phase = .claiming purchase claims [])
    (bound : ¬ claims.flatten.length < purchase.quantity)
    (free : store.Free index (.account purchase.accountId))
    (isBalance : (store.visible index).balance purchase.accountId = some balance) :
    SaleInvariant initial (store.execute index [.account purchase.accountId]
      [.pay purchase.accountId purchase.total] (.paid purchase claims)) := by
  have progress := invariant.progress index
  rw [claiming] at progress
  rcases progress with ⟨pending, found, binds⟩
  rw [List.flatten_nil, List.append_nil] at found
  have all : claims.flatten = purchase.numbers := by
    apply found.eq_of_length_le
    have wanted : purchase.numbers.length = purchase.quantity := (binds.fair 0).2.2.1
    omega
  have visible : (store.visible index).balance = store.committed.balance := by
    rw [SaleStore.visible, Store.view, pending, foldl_claims]
  rw [visible] at isBalance
  apply invariant.execute
  · intro key member
    cases List.mem_singleton.mp member
    exact free
  · rw [SaleStore.Progress, SaleStore.execute, Store.setSession_same]
    refine ⟨?_, all, ⟨binds.fair, binds.units, ?_, ?_⟩, ?_⟩
    · rw [pending]
    · intro id member
      rw [Store.setSession_same]
      rw [← all] at member
      exact List.mem_append_right _ (binds.locked id member)
    · rw [← all]
      exact binds.unsold
    · rw [Store.setSession_committed, isBalance]
      rfl

theorem record (invariant : SaleInvariant initial store) {purchase : Purchase}
    {claims : List (List ℕ)} {orderId : ℕ} {stock : List (StockKey × ℕ)}
    (paid : (store.sessions index).phase = .paid purchase claims)
    (free : store.Free index (.order orderId))
    (fresh : ∀ order ∈ (store.visible index).orders, order.id ≠ orderId) :
    SaleInvariant initial (store.execute index [.order orderId]
      [.record (purchase.order orderId) stock] (.recorded purchase claims orderId stock)) := by
  have progress := invariant.progress index
  rw [paid] at progress
  rcases progress with ⟨pending, all, binds, balance⟩
  have visible : (store.visible index).orders = store.committed.orders := by
    rw [SaleStore.visible, Store.view, pending, List.foldl_append, foldl_claims]
    rfl
  rw [visible] at fresh
  apply invariant.execute
  · intro key member
    cases List.mem_singleton.mp member
    exact free
  · rw [SaleStore.Progress, SaleStore.execute, Store.setSession_same]
    refine ⟨?_, all, ⟨binds.fair, binds.units, ?_, binds.unsold⟩, balance,
      List.mem_append_left _ List.mem_cons_self, fresh⟩
    · rw [pending, List.append_assoc]
      rfl
    · intro id member
      rw [Store.setSession_same]
      exact List.mem_append_right _ (binds.locked id member)

theorem commit (invariant : SaleInvariant initial store) {purchase : Purchase}
    {claims : List (List ℕ)} {orderId : ℕ} {stock : List (StockKey × ℕ)} {phase : SalePhase}
    (recorded : (store.sessions index).phase = .recorded purchase claims orderId stock)
    (own : SaleStore.Progress (store.commit SaleWrite.apply index phase) index phase) :
    SaleInvariant initial (store.commit SaleWrite.apply index phase) := by
  have progress := invariant.progress index
  rw [recorded] at progress
  have sells := progress.sells
  rcases progress with ⟨-, -, binds, -, locked, -⟩
  refine ⟨invariant.exclusive.commit _ _, invariant.sound.sells sells, ?_⟩
  intro other
  by_cases same : other = index
  · subst same
    rw [Store.commit_same]
    exact own
  · rw [Store.commit_other _ _ _ _ same]
    refine (invariant.progress other).other (Store.commit_other _ _ _ _ same) ⟨?_, ?_, ?_⟩
    · intro id held
      have elsewhere : id ∉ purchase.numbers := fun member =>
        invariant.exclusive index _ (binds.locked id member) other same held
      rw [Store.commit_committed]
      have bound := sells.bound
      rw [SaleStore.visible] at bound
      rw [bound]
      exact PoolView.claim_owner_of_not_mem _ _ elsewhere
    · intro id
      rcases sells.charged with ⟨before, left, isBefore, isLeft, -⟩
      rw [SaleStore.visible] at isLeft
      rw [Store.commit_committed, isLeft]
      by_cases charged : id = (purchase.order orderId).accountId
      · subst charged
        rw [Function.update_self, isBefore]
        rfl
      · rw [Function.update_of_ne charged]
    · intro order member held
      have orders := sells.orders
      rw [SaleStore.visible] at orders
      rw [Store.commit_committed, orders] at member
      rcases List.mem_append.mp member with old | new
      · exact old
      · cases List.mem_singleton.mp new
        exact absurd held (invariant.exclusive index _ locked other same)

theorem release (invariant : SaleInvariant initial store) {number : ℕ} {active : Bool}
    (free : ∀ other, SaleKey.number number ∉ (store.sessions other).locks) :
    SaleInvariant initial (store.release number active) := by
  refine ⟨invariant.exclusive, invariant.sound.release number active, ?_⟩
  intro other
  refine (invariant.progress other).other rfl ⟨?_, fun _ => rfl, fun _ member _ => member⟩
  intro id held
  refine Function.update_of_ne ?_ _ _
  intro same
  subst same
  exact free other held

theorem step {label : SaleLabel} (invariant : SaleInvariant initial store)
    (step : SaleStep store label after) (heeds : label.action.Heeds) :
    SaleInvariant initial after := by
  cases step with
  | begin free => exact invariant.rollback (by simp [SaleStore.Progress])
  | select mode accountId quantity total numbers reading wanted distinct enough forSale =>
      exact invariant.select reading (fun _ => ⟨wanted, distinct, enough, forSale⟩) heeds
  | claim claiming free => exact invariant.claim claiming free
  | pay claiming bound free isBalance enough => exact invariant.pay claiming bound free isBalance
  | record orderId stock paid free fresh => exact invariant.record paid free fresh
  | commit recorded =>
      refine invariant.commit recorded ?_
      split
      · simp [SaleStore.Progress]
      · simp [SaleStore.Progress]
  | @publish index purchase works saved =>
      have progress := invariant.progress index
      rw [saved] at progress
      refine invariant.move ⟨?_, heeds⟩
      rw [Store.move_same]
      exact progress
  | fail working open_ => exact invariant.rollback (by simp [SaleStore.Progress])
  | release number active free => exact invariant.release free

theorem settled (invariant : SaleInvariant initial store) : store.Settled := by
  intro index succeeded committed ended
  have progress := invariant.progress index
  rw [ended] at progress
  exact progress.2

theorem lawful {label : SaleLabel} (invariant : SaleInvariant initial store)
    (step : SaleStep store label after) : store.Lawful label after := by
  cases step with
  | @commit index purchase claims orderId stock recorded =>
      have progress := invariant.progress index
      rw [recorded] at progress
      exact ⟨purchase.order orderId, progress.sells⟩
  | begin | select | claim | pay | record | publish | fail | release => rfl

end SaleInvariant

/-- In a run whose prices are whole numbers of units and whose tasks are all published, every number
is sold once and paid for exactly, and a purchase that has failed has changed nothing. -/
theorem numbers_sold_once (pool : PoolView) (balance : ℕ → Option Money) (stock : StockTable)
    {last : SaleStore} {transitions : List (Transition SaleStore SaleLabel)}
    (run : Run SaleStep (SaleStore.start pool balance stock) transitions last)
    (heeds : ∀ transition ∈ transitions, transition.label.action.Heeds) :
    (last.committed.Sound balance ∧ last.Settled) ∧
      ∀ transition ∈ transitions,
        transition.before.Lawful transition.label transition.after ∧
          transition.after.committed.Sound balance ∧ transition.after.Settled := by
  have kept : ∀ store label after,
      Guarded SaleStep (fun _ label => label.action.Heeds) store label after →
        SaleInvariant balance store → SaleInvariant balance after := by
    intro store label after stepped invariant
    exact invariant.step stepped.1 stepped.2
  rcases (run.guarded heeds).invariant kept (SaleInvariant.start pool balance stock) with
    ⟨atEnd, inside⟩
  refine ⟨⟨atEnd.sound, atEnd.settled⟩, ?_⟩
  intro transition member
  rcases inside transition member with ⟨before, after⟩
  exact ⟨before.lawful (run.step_of_mem member), after.sound, after.settled⟩

def newShop : SaleStore :=
  SaleStore.start ⟨fun _ => none, fun _ => true⟩ (fun _ => some 100) fun _ => none

def buysOne (mode : PurchaseMode) (total : ℚ) : Purchase :=
  ⟨mode, 7, 1, total, [1], newShop.committed.pool⟩

def oneFound (mode : PurchaseMode) (total : ℚ) : SaleStore :=
  (newShop.rollback 0 (.reading newShop.committed.pool)).move 0
    (.claiming (buysOne mode total) [] [[1]])

def oneBound (mode : PurchaseMode) (total : ℚ) : SaleStore :=
  (oneFound mode total).execute 0 [.number 1] [.claim 7 [1]]
    (.claiming (buysOne mode total) [[1]] [])

def onePaid (mode : PurchaseMode) (total : ℚ) : SaleStore :=
  (oneBound mode total).execute 0 [.account 7] [.pay 7 total] (.paid (buysOne mode total) [[1]])

def oneRecorded (mode : PurchaseMode) (total : ℚ) : SaleStore :=
  (onePaid mode total).execute 0 [.order 1] [.record ((buysOne mode total).order 1) []]
    (.recorded (buysOne mode total) [[1]] 1 [])

def oneSold (mode : PurchaseMode) (total : ℚ) : SaleStore :=
  (oneRecorded mode total).commit SaleWrite.apply 0
    (if mode = .buyAndSend then .saved (buysOne mode total) else .ended true true)

def sale (mode : PurchaseMode) (total : ℚ) : List (Transition SaleStore SaleLabel) :=
  [⟨newShop, ⟨0, .begin⟩, newShop.rollback 0 (.reading newShop.committed.pool)⟩,
    ⟨newShop.rollback 0 (.reading newShop.committed.pool), ⟨0, .select mode 7 1 total [1]⟩,
      oneFound mode total⟩,
    ⟨oneFound mode total, ⟨0, .claim⟩, oneBound mode total⟩,
    ⟨oneBound mode total, ⟨0, .pay⟩, onePaid mode total⟩,
    ⟨onePaid mode total, ⟨0, .record 1 []⟩, oneRecorded mode total⟩,
    ⟨oneRecorded mode total, ⟨0, .commit⟩, oneSold mode total⟩]

theorem sale_run (mode : PurchaseMode) {total : ℚ} (enough : total ≤ 100) :
    Run SaleStep newShop (sale mode total) (oneSold mode total) := by
  have begin_ : SaleStep newShop ⟨0, .begin⟩
      (newShop.rollback 0 (.reading newShop.committed.pool)) := .begin (Or.inl rfl)
  have select : SaleStep (newShop.rollback 0 (.reading newShop.committed.pool))
      ⟨0, .select mode 7 1 total [1]⟩ (oneFound mode total) := by
    have step := SaleStep.select mode 7 1 total [1]
      (show ((newShop.rollback 0 (.reading newShop.committed.pool)).sessions 0).phase =
        .reading newShop.committed.pool from rfl) (by decide) (by decide) rfl
      (fun _ _ => ⟨rfl, rfl⟩)
    cases mode with
    | buyToStock | buyCombo | buyAndSend => exact step
  have alone : ∀ other, other ≠ 0 → ((oneFound mode total).sessions other).locks = [] ∧
      ((oneBound mode total).sessions other).locks = [] ∧
      ((onePaid mode total).sessions other).locks = [] := by
    intro other differs
    simp [onePaid, oneBound, oneFound, SaleStore.execute, Store.move, Store.rollback,
      Store.setSession, differs, newShop, SaleStore.start]
  have claim : SaleStep (oneFound mode total) ⟨0, .claim⟩ (oneBound mode total) := by
    refine @SaleStep.claim (oneFound mode total) 0 (buysOne mode total) [] [] [1] rfl ?_
    intro id _ other differs
    rw [(alone other differs).1]
    exact List.not_mem_nil
  have pay : SaleStep (oneBound mode total) ⟨0, .pay⟩ (onePaid mode total) := by
    refine @SaleStep.pay _ _ (buysOne mode total) [[1]] 100 rfl (Nat.lt_irrefl 1) ?_ rfl enough
    intro other differs
    rw [(alone other differs).2.1]
    exact List.not_mem_nil
  have record : SaleStep (onePaid mode total) ⟨0, .record 1 []⟩ (oneRecorded mode total) := by
    refine SaleStep.record 1 [] rfl ?_ ?_
    · intro other differs
      rw [(alone other differs).2.2]
      exact List.not_mem_nil
    · intro order member
      cases member
  have commit : SaleStep (oneRecorded mode total) ⟨0, .commit⟩ (oneSold mode total) :=
    @SaleStep.commit _ _ (buysOne mode total) [[1]] 1 [] rfl
  exact .cons begin_ (.cons select (.cons claim (.cons pay (.cons record (.cons commit
    (.nil _))))))

theorem numbers_sold_once_toStock :
    Run SaleStep newShop (sale .buyToStock 30) (oneSold .buyToStock 30) ∧
      (oneSold .buyToStock 30).committed.balance 7 = some 70 ∧
      (oneSold .buyToStock 30).committed.Sound fun _ => some 100 := by
  have run := sale_run .buyToStock (show (30 : ℚ) ≤ 100 by norm_num)
  refine ⟨run, by decide +kernel, (numbers_sold_once _ _ _ run ?_).1.1⟩
  intro transition member
  simp only [sale, List.mem_cons, List.not_mem_nil, or_false] at member
  rcases member with rfl | rfl | rfl | rfl | rfl | rfl
  · trivial
  · exact ⟨30, rfl⟩
  · trivial
  · trivial
  · trivial
  · trivial

/-- A purchase whose task is not published fails although its number is sold, and half a unit of a
price is not charged. -/
theorem failed_purchase_sold :
    (∃ transitions last, Run SaleStep newShop transitions last ∧
      (last.sessions 0).phase = .ended false true ∧
      last.committed.pool.owner 1 = some 7 ∧ last.committed.balance 7 = some 70 ∧
      last.committed.orders.length = 1 ∧ ¬ last.Settled) ∧
    ∃ transitions last, Run SaleStep newShop transitions last ∧
      (last.sessions 0).phase = .ended true true ∧
      last.committed.balance 7 = some 100 ∧
      ¬ last.committed.PaidExactly fun _ => some 100 := by
  constructor
  · have run := sale_run .buyAndSend (show (30 : ℚ) ≤ 100 by norm_num)
    have publish : SaleStep (oneSold .buyAndSend 30) ⟨0, .publish false⟩
        ((oneSold .buyAndSend 30).move 0 (.ended false true)) := .publish false rfl
    refine ⟨_, _, run.append (.cons publish (.nil _)), rfl, rfl, by decide +kernel, rfl, ?_⟩
    intro settled
    cases settled 0 false true rfl
  · have run := sale_run .buyToStock (show (1 / 2 : ℚ) ≤ 100 by norm_num)
    have kept : (oneSold .buyToStock (1 / 2)).committed.balance 7 = some 100 := by
      decide +kernel
    refine ⟨_, _, run, rfl, kept, ?_⟩
    intro paid
    rcases paid 7 100 rfl with ⟨left, isLeft, sum⟩
    rw [kept] at isLeft
    cases isLeft
    simp [oneSold, Store.view, oneRecorded, onePaid, oneBound, oneFound, SaleStore.execute,
      SaleWrite.apply, Purchase.order, buysOne, newShop, SaleStore.start] at sum

end Klsmsc
