import Klsmsc.Library.Keys
import Klsmsc.Refund
import Mathlib.Data.List.Induction

/-!
# Settled refunds

What a list of successes makes of the tables, when each of them made the writes
of its call and no two of them claimed the same row. All that refunding can do
to balances, rows and `BalanceLog` is derived from this description.
-/

namespace Klsmsc

open Library

def Refund.writes (refund : Refund) : List RefundWrite :=
  [.claim refund.toClaim, .credit refund.accountId refund.amount, .record refund]

def Books.settle (books : Books) (refunds : List Refund) : Books :=
  (refunds.flatMap Refund.writes).foldl RefundWrite.apply books

def Claim.Genuine (db : Db) (claim : Claim) : Prop :=
  ∃ row ∈ db.smsLogs, row.id = claim.smsLogId ∧ row.accountId = claim.accountId ∧
    row.refundedAt = none ∧ row.price = claim.amount ∧ 0 < claim.amount

structure Sound (db : Db) (claims : List Claim) : Prop where
  once : (claims.map Claim.smsLogId).Nodup
  genuine : ∀ claim ∈ claims, claim.Genuine db

def SmsLog.settled (row : SmsLog) (claims : List Claim) : SmsLog :=
  match claims.find? fun claim => claim.smsLogId = row.id with
  | none => row
  | some claim => row.refunded claim

/-- The rows of an account that are refunded in `after` and were not in `before`. -/
def newlyRefunded (before after : Db) (accountId : ℕ) : List SmsLog :=
  after.smsLogs.filter fun row =>
    row.accountId = accountId ∧ row.refundedAt ≠ none ∧
      before.smsLogs.any fun old => old.id = row.id ∧ old.refundedAt = none

/-- The sum of `refunded_amount` over rows. -/
def refundedSum (rows : List SmsLog) : Money :=
  (rows.map fun row => row.refundedAmount.getD 0).sum

/-- What distinguishes the tables before and after a list of successes. Each
row is claimed at most once, and for its positive selling price. The claimed
rows carry the claim and the others are as before. An account has got what its
newly refunded rows say. Each success has one `BalanceLog`. -/
structure Conserved (before after : Db) (successes : List Refund) : Prop where
  sound : Sound before (successes.map Refund.toClaim)
  smsLogs : after.smsLogs =
    before.smsLogs.map fun row => row.settled (successes.map Refund.toClaim)
  balances : ∀ accountId, after.balance accountId =
    (before.balance accountId).map (· + refundedSum (newlyRefunded before after accountId))
  balanceLogs : after.balanceLogs = before.balanceLogs ++ successes.map Refund.balanceLog

namespace SmsLog

variable (row : SmsLog)

@[simp]
theorem refunded_id (claim : Claim) : (row.refunded claim).id = row.id := rfl

@[simp]
theorem refunded_accountId (claim : Claim) :
    (row.refunded claim).accountId = row.accountId := rfl

@[simp]
theorem settled_id (claims : List Claim) : (row.settled claims).id = row.id := by
  unfold settled
  split <;> rfl

@[simp]
theorem settled_accountId (claims : List Claim) :
    (row.settled claims).accountId = row.accountId := by
  unfold settled
  split <;> rfl

variable {row}

theorem settled_of_unclaimed {claims : List Claim}
    (unclaimed : row.id ∉ claims.map Claim.smsLogId) : row.settled claims = row := by
  have notFound : (claims.find? fun claim => claim.smsLogId = row.id) = none := by
    simp only [List.find?_eq_none, decide_eq_true_eq]
    intro claim member equal
    exact unclaimed (equal ▸ List.mem_map_of_mem member)
  simp [settled, notFound]

theorem settled_concat_of_ne {claims : List Claim} {claim : Claim}
    (differs : row.id ≠ claim.smsLogId) :
    row.settled (claims ++ [claim]) = row.settled claims := by
  have notLast : ¬claim.smsLogId = row.id := fun equal => differs equal.symm
  simp [settled, List.find?_append, notLast]

theorem settled_concat_of_eq {claims : List Claim} {claim : Claim}
    (isRow : row.id = claim.smsLogId) (unclaimed : row.id ∉ claims.map Claim.smsLogId) :
    row.settled (claims ++ [claim]) = row.refunded claim := by
  have notFound : (claims.find? fun claim => claim.smsLogId = row.id) = none := by
    simp only [List.find?_eq_none, decide_eq_true_eq]
    intro claim member equal
    exact unclaimed (equal ▸ List.mem_map_of_mem member)
  simp [settled, List.find?_append, notFound, isRow.symm]

theorem unclaimed_of_settled {claims : List Claim}
    (unrefunded : (row.settled claims).refundedAt = none) :
    row.id ∉ claims.map Claim.smsLogId := by
  intro claimed
  rcases List.mem_map.mp claimed with ⟨claim, member, isRow⟩
  unfold settled at unrefunded
  split at unrefunded
  · rename_i notFound
    have := List.find?_eq_none.mp notFound claim member
    simp [isRow] at this
  · simp [refunded] at unrefunded

theorem price_eq_of_sameButRefund {other : SmsLog} (same : row.SameButRefund other) :
    row.id = other.id ∧ row.accountId = other.accountId ∧ row.price = other.price := by
  unfold SameButRefund at same
  simp only [mk.injEq] at same
  simp only [price]
  grind

end SmsLog

namespace Sound

variable {db : Db} {claims : List Claim}

theorem nil : Sound db [] where
  once := List.nodup_nil
  genuine := by simp

theorem concat {claim : Claim} (sound : Sound db claims) (genuine : claim.Genuine db)
    (unclaimed : claim.smsLogId ∉ claims.map Claim.smsLogId) :
    Sound db (claims ++ [claim]) where
  once := by
    rw [List.map_append, List.map_singleton]
    rw [← List.concat_eq_append]
    exact sound.once.concat unclaimed
  genuine other member := by
    rcases List.mem_append.mp member with old | new
    · exact sound.genuine other old
    · rw [List.mem_singleton.mp new]
      exact genuine

theorem sublist {fewer : List Claim} (sound : Sound db claims) (sub : fewer.Sublist claims) :
    Sound db fewer where
  once := sound.once.sublist (sub.map _)
  genuine claim member := sound.genuine claim (sub.mem member)

end Sound

namespace Books

variable (books : Books) (refunds : List Refund)

@[simp]
theorem settle_nil : books.settle [] = books := rfl

theorem settle_append (left right : List Refund) :
    books.settle (left ++ right) = (books.settle left).settle right := by
  simp [settle, List.flatMap_append, List.foldl_append]

theorem settle_singleton (refund : Refund) :
    books.settle [refund] =
      { db := ((books.db.updateSmsLogs refund.applies
            fun row => row.refunded refund.toClaim).addBalance
          refund.accountId refund.amount).addBalanceLog refund.balanceLog
        successes := books.successes ++ [refund] } := rfl

@[simp]
theorem settle_successes : (books.settle refunds).successes = books.successes ++ refunds := by
  induction refunds using List.reverseRecOn with
  | nil => simp
  | append_singleton refunds refund ih =>
      rw [settle_append, settle_singleton, ih]
      simp

@[simp]
theorem settle_balanceLogs :
    (books.settle refunds).db.balanceLogs =
      books.db.balanceLogs ++ refunds.map Refund.balanceLog := by
  induction refunds using List.reverseRecOn with
  | nil => simp
  | append_singleton refunds refund ih =>
      rw [settle_append, settle_singleton]
      simp [ih]

theorem settle_balance (accountId : ℕ) :
    (books.settle refunds).db.balance accountId =
      (books.db.balance accountId).map
        (· + ((refunds.filter fun refund => refund.accountId = accountId).map
          fun refund => refund.amount).sum) := by
  induction refunds using List.reverseRecOn with
  | nil => simp
  | append_singleton refunds refund ih =>
      rw [settle_append, settle_singleton]
      simp only [Db.addBalanceLog_balance, Db.balance_addBalance, Db.updateSmsLogs_balance, ih,
        List.filter_append, List.map_append, List.sum_append]
      by_cases same : accountId = refund.accountId
      · subst accountId
        cases books.db.balance refund.accountId with
        | none => simp
        | some balance => simp [Int.add_assoc]
      · have differs : ¬refund.accountId = accountId := fun equal => same equal.symm
        simp [same, differs]

theorem settle_smsLogs (keyed : (books.db.smsLogs.map SmsLog.id).Nodup)
    (sound : Sound books.db (refunds.map Refund.toClaim)) :
    (books.settle refunds).db.smsLogs =
      books.db.smsLogs.map fun row => row.settled (refunds.map Refund.toClaim) := by
  induction refunds using List.reverseRecOn with
  | nil => simp [SmsLog.settled]
  | append_singleton refunds refund ih =>
      rw [List.map_append, List.map_singleton] at sound ⊢
      have once := sound.once
      rw [List.map_append, List.map_singleton, List.nodup_append] at once
      have unclaimed : refund.smsLogId ∉ (refunds.map Refund.toClaim).map Claim.smsLogId := by
        intro member
        exact once.2.2 _ member refund.smsLogId (by simp) rfl
      rcases sound.genuine refund.toClaim (by simp) with
        ⟨own, ownMem, ownId, _, unrefunded, _, _⟩
      rw [settle_append, settle_singleton]
      simp only [Db.addBalanceLog_smsLogs, Db.addBalance_smsLogs, Db.updateSmsLogs_smsLogs,
        ih (sound.sublist (List.sublist_append_left _ _)), List.map_map]
      refine List.map_congr_left ?_
      intro row member
      simp only [Function.comp_apply, Claim.applies, SmsLog.settled_id, Bool.decide_and,
        Bool.and_eq_true, decide_eq_true_eq]
      by_cases isRow : row.id = refund.smsLogId
      · have same : row = own :=
          eq_of_key_eq keyed member ownMem (isRow.trans ownId.symm)
        have fresh : row.settled (refunds.map Refund.toClaim) = row :=
          SmsLog.settled_of_unclaimed (isRow ▸ unclaimed)
        rw [fresh, SmsLog.settled_concat_of_eq isRow (isRow ▸ unclaimed), same]
        simp [unrefunded, ownId]
      · rw [SmsLog.settled_concat_of_ne isRow]
        simp [isRow]

end Books

def claimedAmount (claims : List Claim) (accountId : ℕ) (row : SmsLog) : Money :=
  if row.accountId = accountId ∧ row.refundedAt = none then
    ((claims.find? fun claim => claim.smsLogId = row.id).map Claim.amount).getD 0
  else 0

theorem refundedSum_newlyRefunded {before after : Db} {claims : List Claim}
    (keyed : (before.smsLogs.map SmsLog.id).Nodup)
    (settled : after.smsLogs = before.smsLogs.map fun row => row.settled claims)
    (accountId : ℕ) :
    refundedSum (newlyRefunded before after accountId) =
      (before.smsLogs.map (claimedAmount claims accountId)).sum := by
  have known : ∀ row ∈ before.smsLogs,
      (before.smsLogs.any fun old => old.id = row.id ∧ old.refundedAt = none) =
        decide (row.refundedAt = none) := by
    intro row member
    rw [Bool.eq_iff_iff, List.any_eq_true, decide_eq_true_eq]
    constructor
    · rintro ⟨old, oldMem, found⟩
      simp only [Bool.decide_and, Bool.and_eq_true, decide_eq_true_eq] at found
      rw [← eq_of_key_eq keyed oldMem member found.1]
      exact found.2
    · intro unrefunded
      exact ⟨row, member, by simp [unrefunded]⟩
  have summands : ∀ rows : List SmsLog, (∀ row ∈ rows, row ∈ before.smsLogs) →
      (((rows.map fun row => row.settled claims).filter fun row =>
        row.accountId = accountId ∧ row.refundedAt ≠ none ∧
          before.smsLogs.any fun old => old.id = row.id ∧ old.refundedAt = none).map
            fun row => row.refundedAmount.getD 0).sum =
        (rows.map (claimedAmount claims accountId)).sum := by
    intro rows within
    induction rows with
    | nil => rfl
    | cons row rows ih =>
        have rest := ih fun other member => within other (by simp [member])
        have unrefunded := known row (within row (by simp))
        simp only [List.map_cons, List.sum_cons, ← rest, List.filter_cons, claimedAmount,
          SmsLog.settled_accountId, SmsLog.settled_id, unrefunded]
        cases found : claims.find? fun claim => claim.smsLogId = row.id with
        | none =>
            have asBefore : row.settled claims = row := by simp [SmsLog.settled, found]
            rw [asBefore]
            by_cases fresh : row.refundedAt = none <;> simp [fresh]
        | some claim =>
            have claimed : row.settled claims = row.refunded claim := by
              simp [SmsLog.settled, found]
            rw [claimed]
            by_cases counted : row.accountId = accountId ∧ row.refundedAt = none
            · simp [counted, SmsLog.refunded]
            · by_cases own : row.accountId = accountId
              · have old : row.refundedAt ≠ none := fun fresh => counted ⟨own, fresh⟩
                simp [own, old, SmsLog.refunded]
              · simp [own]
  unfold refundedSum newlyRefunded
  rw [settled]
  exact summands before.smsLogs fun row member => member

theorem sum_claimedAmount {db : Db} {claims : List Claim}
    (keyed : (db.smsLogs.map SmsLog.id).Nodup) (sound : Sound db claims) (accountId : ℕ) :
    (db.smsLogs.map (claimedAmount claims accountId)).sum =
      ((claims.filter fun claim => claim.accountId = accountId).map Claim.amount).sum := by
  induction claims using List.reverseRecOn with
  | nil =>
      have zero : ∀ row ∈ db.smsLogs, claimedAmount [] accountId row = 0 := by
        simp [claimedAmount]
      rw [sum_map_congr zero]
      simp
  | append_singleton claims claim ih =>
      have once := sound.once
      rw [List.map_append, List.map_singleton, List.nodup_append] at once
      have unclaimed : claim.smsLogId ∉ claims.map Claim.smsLogId := by
        intro member
        exact once.2.2 _ member claim.smsLogId (by simp) rfl
      rcases sound.genuine claim (by simp) with
        ⟨own, ownMem, ownId, ownAccount, unrefunded, _, _⟩
      have others : ∀ row ∈ db.smsLogs, row.id ≠ own.id →
          claimedAmount (claims ++ [claim]) accountId row =
            claimedAmount claims accountId row := by
        intro row _ differs
        have notLast : ¬claim.smsLogId = row.id := by
          intro equal
          exact differs (by rw [← equal, ownId])
        simp [claimedAmount, List.find?_append, notLast]
      have notFound : (claims.find? fun claim => claim.smsLogId = own.id) = none := by
        simp only [List.find?_eq_none, decide_eq_true_eq]
        intro other member equal
        exact unclaimed (by rw [← ownId, ← equal]; exact List.mem_map_of_mem member)
      rw [sum_map_update keyed ownMem others,
        ih (sound.sublist (List.sublist_append_left _ _)), List.filter_append, List.map_append,
        List.sum_append]
      by_cases isAccount : claim.accountId = accountId
      · simp [claimedAmount, List.find?_append, notFound, ownAccount, ownId.symm, isAccount,
          unrefunded]
      · simp [claimedAmount, ownAccount, isAccount]

theorem Books.settle_conserved {db : Db} {refunds : List Refund}
    (keyed : (db.smsLogs.map SmsLog.id).Nodup)
    (sound : Sound db (refunds.map Refund.toClaim)) :
    Conserved db (Books.settle ⟨db, []⟩ refunds).db refunds where
  sound := sound
  smsLogs := Books.settle_smsLogs ⟨db, []⟩ refunds keyed sound
  balances accountId := by
    have settled := Books.settle_smsLogs ⟨db, []⟩ refunds keyed sound
    rw [Books.settle_balance, refundedSum_newlyRefunded keyed settled,
      sum_claimedAmount keyed sound, List.filter_map, List.map_map]
    rfl
  balanceLogs := Books.settle_balanceLogs ⟨db, []⟩ refunds

end Klsmsc
