import Mathlib.Tactic.Ring
import Klsmsc.Library.Keys
import Klsmsc.Refund.Conservation
import Klsmsc.Retry

/-!
# The bills of retried rows

What `retry_batch_failed` and the refund service do to the prices and refunds of
the rows, and to the account. A retry charges some of the rows that it selects;
of those it cannot enqueue it credits the ones that were not refunded before; and
it moves the account by its credits less its charges.
-/

namespace Klsmsc

open Library

structure Bill where
  id : ℕ
  messageId : MessageId
  price : Money
  isRefunded : Bool
  deriving DecidableEq, Repr

def SmsLog.bill (row : SmsLog) : Bill :=
  ⟨row.id, row.messageId, row.price, row.refundedAt.isSome⟩

def Db.bills (db : Db) : List Bill :=
  db.smsLogs.map SmsLog.bill

structure Db.Keyed (db : Db) : Prop where
  ids : (db.smsLogs.map SmsLog.id).Nodup
  messageIds : (db.smsLogs.map SmsLog.messageId).Nodup

section Bills

variable {db : Db}

theorem bills_updateSmsLogs (db : Db) {condition : SmsLog → Bool} {update : SmsLog → SmsLog}
    (change : Bill → Bill)
    (agree : ∀ row, (if condition row then update row else row).bill = change row.bill) :
    (db.updateSmsLogs condition update).bills = db.bills.map change := by
  simp only [Db.bills, Db.updateSmsLogs_smsLogs, List.map_map]
  exact List.map_congr_left fun row _ => agree row

theorem bills_updateSmsLogs_same (db : Db) {condition : SmsLog → Bool}
    {update : SmsLog → SmsLog} (same : ∀ row, (update row).bill = row.bill) :
    (db.updateSmsLogs condition update).bills = db.bills := by
  refine (bills_updateSmsLogs db id ?_).trans (List.map_id _)
  intro row
  split
  · exact same row
  · rfl

def Bill.priced (id : ℕ) (amount : Money) (bill : Bill) : Bill :=
  if bill.id = id then { bill with price := amount } else bill

def Bill.refunded (id : ℕ) (bill : Bill) : Bill :=
  if bill.id = id then { bill with isRefunded := true } else bill

@[simp]
theorem Bill.priced_id (id : ℕ) (amount : Money) (bill : Bill) :
    (bill.priced id amount).id = bill.id := by
  unfold Bill.priced
  split <;> rfl

@[simp]
theorem Bill.priced_messageId (id : ℕ) (amount : Money) (bill : Bill) :
    (bill.priced id amount).messageId = bill.messageId := by
  unfold Bill.priced
  split <;> rfl

@[simp]
theorem Bill.refunded_id (id : ℕ) (bill : Bill) : (bill.refunded id).id = bill.id := by
  unfold Bill.refunded
  split <;> rfl

@[simp]
theorem Bill.refunded_messageId (id : ℕ) (bill : Bill) :
    (bill.refunded id).messageId = bill.messageId := by
  unfold Bill.refunded
  split <;> rfl

theorem map_bill_id (db : Db) : db.bills.map Bill.id = db.smsLogs.map SmsLog.id := by
  simp [Db.bills, SmsLog.bill, Function.comp_def]

theorem map_bill_messageId (db : Db) :
    db.bills.map Bill.messageId = db.smsLogs.map SmsLog.messageId := by
  simp [Db.bills, SmsLog.bill, Function.comp_def]

theorem Db.Keyed.of_map {after : Db} (keyed : db.Keyed) {change : Bill → Bill}
    (bills : after.bills = db.bills.map change) (ids : ∀ bill, (change bill).id = bill.id)
    (messageIds : ∀ bill, (change bill).messageId = bill.messageId) : after.Keyed where
  ids := by
    have same : Bill.id ∘ change = Bill.id := funext ids
    rw [← map_bill_id, bills, List.map_map, same, map_bill_id]
    exact keyed.ids
  messageIds := by
    have same : Bill.messageId ∘ change = Bill.messageId := funext messageIds
    rw [← map_bill_messageId, bills, List.map_map, same, map_bill_messageId]
    exact keyed.messageIds

end Bills

section Refunds

variable {unicode : Unicode} {env : ChunkEnv} {db : Db}

theorem unrefunded_of_grant {entry : RefundEntry} {row : SmsLog} {category : String}
    (granted : entry.grant unicode row = .ok category) : row.refundedAt = none := by
  by_contra refunded
  cases entry with
  | refund adminUsername =>
      by_cases failed : row.status = .failed <;>
        simp [RefundEntry.grant, RefundEntry.check, classifyRefundCandidate, failed, refunded]
          at granted
  | autoRefund source flag => simp [RefundEntry.grant, RefundEntry.check, refunded] at granted
  | adminForceRefund adminUsername =>
      by_cases failed : row.status = .failed <;>
        simp [RefundEntry.grant, RefundEntry.check, failed, refunded] at granted

theorem bills_claim (db : Db) (row : SmsLog) (call : RefundCall) (now : ℕ) :
    (db.updateSmsLogs (call.claim row now).applies fun stored =>
      stored.refunded (call.claim row now)).bills = db.bills.map (Bill.refunded row.id) := by
  apply bills_updateSmsLogs
  intro stored
  by_cases same : stored.id = row.id <;> by_cases refunded : stored.refundedAt = none <;>
    simp [Claim.applies, RefundCall.claim, SmsLog.refunded, SmsLog.bill, SmsLog.price,
      Bill.refunded, same, refunded, Option.isSome_iff_ne_none]

theorem bills_refundBy (unicode : Unicode) (db : Db) (call : RefundCall) (now : ℕ) :
    ((refundBy unicode db call now).bills = db.bills ∧ creditOf unicode db call = 0) ∨
      ∃ row ∈ db.smsLogs, row.id = call.smsLogId ∧ row.refundedAt = none ∧ 0 < row.price ∧
        (refundBy unicode db call now).bills = db.bills.map (Bill.refunded row.id) ∧
        creditOf unicode db call = row.price := by
  unfold refundBy creditOf
  cases found : db.smsLogs.find? fun row => row.id = call.smsLogId with
  | none => exact Or.inl ⟨rfl, rfl⟩
  | some row =>
      simp only
      cases granted : call.entry.grant unicode row with
      | error reason => exact Or.inl ⟨rfl, rfl⟩
      | ok category =>
          refine Or.inr ⟨row, List.mem_of_find?_eq_some found, ?_, unrefunded_of_grant granted,
            price_pos_of_grant granted, bills_claim db row call now, rfl⟩
          have hit := List.find?_some found
          exact of_decide_eq_true hit

theorem creditOf_autoRefund (unicode : Unicode) (keyed : db.Keyed) {row : SmsLog} (member : row ∈ db.smsLogs)
    (source : String) :
    creditOf unicode db ⟨.autoRefund source false, row.id⟩ =
      if row.refundedAt = none ∧ 0 < row.price then row.price else 0 := by
  unfold creditOf
  rw [find?_of_key keyed.ids member]
  by_cases refunded : row.refundedAt = none <;> by_cases positive : 0 < row.price <;>
    simp [RefundEntry.grant, RefundEntry.check, refunded, positive, Int.not_le.mpr,
      Int.not_lt.mp]

end Refunds

section Retry

variable {env : ChunkEnv}

theorem chargeAgain_charged {db paid : Db} {accountId : ℕ} {row : SmsLog} {charge : RetryCharge}
    (charged : chargeAgain env db accountId row = .charged paid charge) :
    paid = db.addBalance accountId (-charge.totalCost) := by
  unfold chargeAgain at charged
  simp only at charged
  split at charged
  · cases charged
  · split at charged
    · cases charged
    · split at charged
      · cases charged
      · rename_i deducted
        cases charged
        exact eq_addBalance_of_deduct deducted

theorem retryRow_spec {accountId : ℕ} {loop after : RetryLoop} {row : SmsLog}
    (moved : retryRow env accountId false loop row = some after) :
    (after.db.bills = loop.db.bills ∧ after.retried = loop.retried) ∨
      ∃ amount, after.db.bills = loop.db.bills.map (Bill.priced row.id amount) ∧
        after.retried = loop.retried ++ [(row, amount)] := by
  unfold retryRow at moved
  split at moved
  · cases moved
    exact Or.inl ⟨bills_updateSmsLogs_same _ fun _ => rfl, rfl⟩
  · split at moved
    · cases moved
      exact Or.inl ⟨rfl, rfl⟩
    · simp only [Bool.false_eq_true, if_false] at moved
      split at moved
      · cases moved
        exact Or.inl ⟨bills_updateSmsLogs_same _ fun _ => rfl, rfl⟩
      · cases moved
        exact Or.inl ⟨rfl, rfl⟩
      · cases moved
      · rename_i paid charge charged
        cases moved
        refine Or.inr ⟨charge.totalCost, ?_, rfl⟩
        have bills : paid.bills = loop.db.bills := by
          rw [chargeAgain_charged charged]
          rfl
        have priced : (paid.updateRow row.id fun row => row.charged charge).bills =
            paid.bills.map (Bill.priced row.id charge.totalCost) := by
          apply bills_updateSmsLogs
          intro stored
          by_cases same : stored.id = row.id <;>
            simp [same, Bill.priced, SmsLog.bill, SmsLog.charged, SmsLog.price]
        rw [← bills, ← priced]
        exact bills_updateSmsLogs_same _ fun _ => rfl

def Bill.pricedBy (charges : List (SmsLog × Money)) (bill : Bill) : Bill :=
  charges.foldl (fun bill charge => bill.priced charge.1.id charge.2) bill

theorem retryRows_spec {accountId : ℕ} {loop after : RetryLoop} {rows : List SmsLog}
    (moved : retryRows env accountId false loop rows = some after) :
    ∃ charges : List (SmsLog × Money), after.retried = loop.retried ++ charges ∧
      (charges.map Prod.fst).Sublist rows ∧
      after.db.bills = loop.db.bills.map (Bill.pricedBy charges) := by
  induction rows generalizing loop with
  | nil =>
      cases moved
      exact ⟨[], by simp, by simp, (List.map_id _).symm⟩
  | cons row rows ih =>
      rcases Option.bind_eq_some_iff.mp moved with ⟨middle, first, rest⟩
      rcases ih rest with ⟨charges, retried, sublist, bills⟩
      rcases retryRow_spec first with ⟨sameBills, sameRetried⟩ | ⟨amount, priced, added⟩
      · rw [sameBills] at bills
        rw [sameRetried] at retried
        exact ⟨charges, retried, sublist.cons row, bills⟩
      · refine ⟨(row, amount) :: charges, ?_, ?_, ?_⟩
        · rw [retried, added, List.append_assoc, List.singleton_append]
        · exact sublist.cons_cons row
        · rw [bills, priced, List.map_map]
          rfl

section PricedBy

variable {charges : List (SmsLog × Money)} {bill : Bill}

theorem Bill.pricedBy_id : (bill.pricedBy charges).id = bill.id := by
  induction charges generalizing bill with
  | nil => rfl
  | cons charge charges ih =>
      simp only [Bill.pricedBy, List.foldl_cons] at ih ⊢
      rw [ih, Bill.priced_id]

theorem Bill.pricedBy_messageId : (bill.pricedBy charges).messageId = bill.messageId := by
  induction charges generalizing bill with
  | nil => rfl
  | cons charge charges ih =>
      simp only [Bill.pricedBy, List.foldl_cons] at ih ⊢
      rw [ih, Bill.priced_messageId]

theorem Bill.pricedBy_of_not_mem (other : ∀ charge ∈ charges, charge.1.id ≠ bill.id) :
    bill.pricedBy charges = bill := by
  induction charges with
  | nil => rfl
  | cons charge charges ih =>
      have first : bill.priced charge.1.id charge.2 = bill :=
        if_neg fun equal => other charge (by simp) equal.symm
      have rest := ih fun charge member => other charge (by simp [member])
      simp only [Bill.pricedBy, List.foldl_cons] at rest ⊢
      rw [first, rest]

theorem Bill.pricedBy_of_mem (keyed : (charges.map fun charge => charge.1.id).Nodup)
    {charge : SmsLog × Money} (member : charge ∈ charges) (isRow : charge.1.id = bill.id) :
    bill.pricedBy charges = { bill with price := charge.2 } := by
  induction charges generalizing bill with
  | nil => simp at member
  | cons first charges ih =>
      rw [List.map_cons, List.nodup_cons] at keyed
      have step : bill.pricedBy (first :: charges) =
          (bill.priced first.1.id first.2).pricedBy charges := rfl
      rw [step]
      rcases List.mem_cons.mp member with rfl | inRest
      · have priced : bill.priced charge.1.id charge.2 = { bill with price := charge.2 } :=
          if_pos isRow.symm
        rw [priced]
        apply Bill.pricedBy_of_not_mem
        intro other otherMem equal
        refine keyed.1 (List.mem_map.mpr ⟨other, otherMem, ?_⟩)
        exact equal.trans isRow.symm
      · have differs : bill.id ≠ first.1.id := by
          intro equal
          exact keyed.1 (List.mem_map.mpr ⟨charge, inRest, isRow.trans equal⟩)
        have same : bill.priced first.1.id first.2 = bill := if_neg differs
        rw [same]
        exact ih keyed.2 inRest isRow

end PricedBy

theorem failRetried_spec (env : ChunkEnv) {db : Db} (keyed : db.Keyed) {row : SmsLog} {amount : Money}
    (charged : { row.bill with price := amount } ∈ db.bills) :
    creditFor env db row amount =
        (if 0 < amount ∧ row.refundedAt = none then amount else 0) ∧
      (failRetried env db row amount).bills = db.bills.map fun bill =>
        if creditFor env db row amount = 0 then bill else bill.refunded row.id := by
  rcases List.mem_map.mp charged with ⟨stored, member, isStored⟩
  have sameId : stored.id = row.id := congrArg Bill.id isStored
  have sameMessageId : stored.messageId = row.messageId := congrArg Bill.messageId isStored
  have samePrice : stored.price = amount := congrArg Bill.price isStored
  have sameRefund : stored.refundedAt.isSome = row.refundedAt.isSome :=
    congrArg Bill.isRefunded isStored
  have found := find?_of_key keyed.messageIds member
  rw [sameMessageId] at found
  have bills : (failRetried env db row amount).bills =
      (if 0 < amount then refundLineCharge env db row.messageId else db).bills :=
    bills_updateSmsLogs_same _ fun _ => rfl
  rw [bills]
  unfold creditFor
  by_cases positive : 0 < amount
  · have credit : refundOfLine env db row.messageId =
        if row.refundedAt = none then amount else 0 := by
      have credited := creditOf_autoRefund env.unicode keyed member "retry_queue_failed"
      have unrefunded : stored.refundedAt = none ↔ row.refundedAt = none := by
        rw [← Option.not_isSome_iff_eq_none, ← Option.not_isSome_iff_eq_none, sameRefund]
      simp only [refundOfLine, found, credited, samePrice, positive, and_true, unrefunded]
    simp only [positive, if_true, true_and]
    refine ⟨credit, ?_⟩
    have refund : refundLineCharge env db row.messageId =
        refundBy env.unicode db ⟨.autoRefund "retry_queue_failed" false, stored.id⟩ env.now := by
      simp [refundLineCharge, found]
    have isCredit : refundOfLine env db row.messageId =
        creditOf env.unicode db ⟨.autoRefund "retry_queue_failed" false, stored.id⟩ := by
      simp [refundOfLine, found]
    rw [refund, isCredit]
    rcases bills_refundBy env.unicode db
        ⟨.autoRefund "retry_queue_failed" false, stored.id⟩ env.now with
      ⟨same, nothing⟩ | ⟨other, _, isOther, _, otherPrice, refunded, credited⟩
    · simp [nothing, same]
    · have isSame : other.id = row.id := isOther.trans sameId
      simp only [credited, if_neg (Int.ne_of_gt otherPrice), refunded, isSame]
  · simp [positive]

def Bill.creditedBy (outcomes : List Retried) (bill : Bill) : Bill :=
  outcomes.foldl
    (fun bill outcome => if outcome.credited = 0 then bill else bill.refunded outcome.row.id) bill

section CreditedBy

variable {outcomes : List Retried} {outcome : Retried} {bill : Bill}

theorem Bill.creditedBy_cons :
    bill.creditedBy (outcome :: outcomes) =
      (if outcome.credited = 0 then bill else bill.refunded outcome.row.id).creditedBy outcomes :=
  rfl

theorem Bill.creditedBy_keeps :
    (bill.creditedBy outcomes).id = bill.id ∧
      (bill.creditedBy outcomes).messageId = bill.messageId ∧
      (bill.creditedBy outcomes).price = bill.price ∧
      (bill.isRefunded = true → (bill.creditedBy outcomes).isRefunded = true) := by
  induction outcomes generalizing bill with
  | nil => exact ⟨rfl, rfl, rfl, fun refunded => refunded⟩
  | cons outcome outcomes ih =>
      rw [Bill.creditedBy_cons]
      split
      · exact ih
      · rcases @ih (bill.refunded outcome.row.id) with ⟨sameId, sameMessageId, samePrice, stays⟩
        refine ⟨sameId.trans (by simp), sameMessageId.trans (by simp), samePrice.trans ?_, ?_⟩
        · unfold Bill.refunded
          split <;> rfl
        · intro refunded
          apply stays
          unfold Bill.refunded
          split
          · rfl
          · exact refunded

theorem Bill.creditedBy_of_not_mem (other : ∀ outcome ∈ outcomes, outcome.row.id ≠ bill.id) :
    bill.creditedBy outcomes = bill := by
  induction outcomes with
  | nil => rfl
  | cons outcome outcomes ih =>
      have same : bill.refunded outcome.row.id = bill :=
        if_neg fun equal => other outcome (by simp) equal.symm
      rw [Bill.creditedBy_cons, same, ite_self]
      exact ih fun outcome member => other outcome (by simp [member])

theorem Bill.isRefunded_creditedBy (member : outcome ∈ outcomes)
    (credited : outcome.credited ≠ 0) (isRow : outcome.row.id = bill.id) :
    (bill.creditedBy outcomes).isRefunded = true := by
  induction outcomes generalizing bill with
  | nil => simp at member
  | cons first outcomes ih =>
      rw [Bill.creditedBy_cons]
      rcases List.mem_cons.mp member with rfl | inRest
      · rw [if_neg credited]
        apply Bill.creditedBy_keeps.2.2.2
        simp [Bill.refunded, isRow]
      · apply ih inRest
        split
        · exact isRow
        · rw [Bill.refunded_id]
          exact isRow

end CreditedBy

theorem enqueueRetried_spec {db : Db} (keyed : db.Keyed) {retried : List (SmsLog × Money)}
    (distinct : (retried.map fun charge => charge.1.id).Nodup)
    (charged : ∀ charge ∈ retried, { charge.1.bill with price := charge.2 } ∈ db.bills) :
    (enqueueRetried env db retried).2.map (fun outcome => (outcome.row, outcome.amount)) = retried ∧
      (enqueueRetried env db retried).1.bills =
        db.bills.map (Bill.creditedBy (enqueueRetried env db retried).2) ∧
      ∀ outcome ∈ (enqueueRetried env db retried).2, outcome.isEnqueued = false →
        outcome.credited =
          if 0 < outcome.amount ∧ outcome.row.refundedAt = none then outcome.amount else 0 := by
  induction retried generalizing db with
  | nil => exact ⟨rfl, (List.map_id _).symm, by simp [enqueueRetried]⟩
  | cons charge rest ih =>
      rcases charge with ⟨row, amount⟩
      rw [List.map_cons, List.nodup_cons] at distinct
      have chargedRest : ∀ charge ∈ rest, { charge.1.bill with price := charge.2 } ∈ db.bills :=
        fun charge member => charged charge (by simp [member])
      unfold enqueueRetried
      split
      · rcases ih keyed distinct.2 chargedRest with ⟨retried, bills, credited⟩
        refine ⟨by simp [retried], bills, ?_⟩
        intro outcome member failed
        rcases List.mem_cons.mp member with rfl | inRest
        · cases failed
        · exact credited outcome inRest failed
      · rcases failRetried_spec env keyed (charged (row, amount) (by simp)) with
          ⟨credit, failBills⟩
        have keyedNext : (failRetried env db row amount).Keyed := by
          refine keyed.of_map failBills ?_ ?_ <;> intro bill <;> split <;> simp
        have chargedNext : ∀ charge ∈ rest, { charge.1.bill with price := charge.2 } ∈
            (failRetried env db row amount).bills := by
          intro charge member
          rw [failBills]
          refine List.mem_map.mpr ⟨_, chargedRest charge member, ?_⟩
          have differs : charge.1.id ≠ row.id := fun equal =>
            distinct.1 (List.mem_map.mpr ⟨charge, member, equal⟩)
          split
          · rfl
          · exact if_neg differs
        rcases ih keyedNext distinct.2 chargedNext with ⟨retried, bills, credited⟩
        refine ⟨by simp [retried], ?_, ?_⟩
        · rw [bills, failBills, List.map_map]
          rfl
        · intro outcome member failed
          rcases List.mem_cons.mp member with rfl | inRest
          · exact credit
          · exact credited outcome inRest failed

structure RetrySpec (before after : Db) (outcomes : List Retried) : Prop where
  keyed : after.Keyed
  credited : ∀ outcome ∈ outcomes, outcome.isEnqueued = false →
    outcome.credited =
      if 0 < outcome.amount ∧ outcome.row.refundedAt = none then outcome.amount else 0
  untouched : ∀ bill ∈ after.bills, (∀ outcome ∈ outcomes, outcome.row.id ≠ bill.id) →
    bill ∈ before.bills
  settled : ∀ bill ∈ after.bills, ∀ outcome ∈ outcomes, outcome.row.id = bill.id →
    outcome.isEnqueued = false → bill.isRefunded = true ∨ bill.price ≤ 0

theorem bills_logRetryCharges (db : Db) (accountId : ℕ) (retried : List (SmsLog × Money)) :
    (logRetryCharges db accountId retried).bills = db.bills := by
  unfold logRetryCharges
  simp only
  split <;> rfl

theorem retrySpec_of_loop {db : Db} (keyed : db.Keyed) {batchId accountId : ℕ} {loop : RetryLoop}
    (moved : retryRows env accountId false (.start db) (retriableLogs db batchId accountId) =
      some loop) :
    RetrySpec db (enqueueRetried env (logRetryCharges loop.db accountId loop.retried)
        loop.retried).1
      (enqueueRetried env (logRetryCharges loop.db accountId loop.retried) loop.retried).2 := by
  have keyedIds := keyed.ids
  rcases retryRows_spec moved with ⟨charges, retried, sublist, bills⟩
  simp only [RetryLoop.start, List.nil_append] at retried bills
  rw [retried]
  have rows : (charges.map Prod.fst).Sublist db.smsLogs := sublist.trans List.filter_sublist
  have distinct : (charges.map fun charge => charge.1.id).Nodup := by
    have sub := keyed.ids.sublist (rows.map SmsLog.id)
    rwa [List.map_map] at sub
  have billsLog := bills_logRetryCharges loop.db accountId charges
  rw [bills] at billsLog
  have keyedLog : (logRetryCharges loop.db accountId charges).Keyed :=
    keyed.of_map billsLog (fun _ => Bill.pricedBy_id) fun _ => Bill.pricedBy_messageId
  have charged : ∀ charge ∈ charges, { charge.1.bill with price := charge.2 } ∈
      (logRetryCharges loop.db accountId charges).bills := by
    intro charge member
    rw [billsLog]
    have isRow : charge.1 ∈ db.smsLogs := rows.subset (List.mem_map_of_mem member)
    exact List.mem_map.mpr ⟨charge.1.bill, List.mem_map_of_mem isRow,
      Bill.pricedBy_of_mem distinct member rfl⟩
  rcases enqueueRetried_spec keyedLog distinct charged with ⟨outcomes, after, credited⟩
  have chargeOf : ∀ outcome ∈ (enqueueRetried env (logRetryCharges loop.db accountId charges)
      charges).2, (outcome.row, outcome.amount) ∈ charges := by
    intro outcome member
    rw [← outcomes]
    exact List.mem_map.mpr ⟨outcome, member, rfl⟩
  refine ⟨?_, credited, ?_, ?_⟩
  · exact keyedLog.of_map after (fun _ => Bill.creditedBy_keeps.1)
      fun _ => Bill.creditedBy_keeps.2.1
  · intro bill member other
    rw [after, billsLog, List.map_map] at member
    rcases List.mem_map.mp member with ⟨old, oldMem, rfl⟩
    simp only [Function.comp_apply, Bill.creditedBy_keeps.1, Bill.pricedBy_id] at other ⊢
    have unpriced : old.pricedBy charges = old := by
      apply Bill.pricedBy_of_not_mem
      intro charge chargeMem
      rw [← outcomes] at chargeMem
      rcases List.mem_map.mp chargeMem with ⟨outcome, outcomeMem, rfl⟩
      exact other outcome outcomeMem
    rw [unpriced, Bill.creditedBy_of_not_mem other]
    exact oldMem
  · intro bill member outcome outcomeMem isRow failed
    rw [after, billsLog, List.map_map] at member
    rcases List.mem_map.mp member with ⟨old, oldMem, rfl⟩
    simp only [Function.comp_apply, Bill.creditedBy_keeps.1, Bill.pricedBy_id,
      Bill.creditedBy_keeps.2.2.1] at isRow ⊢
    have chargeMem := chargeOf outcome outcomeMem
    have priced : old.pricedBy charges = { old with price := outcome.amount } :=
      Bill.pricedBy_of_mem distinct chargeMem isRow
    have rowMem : outcome.row ∈ db.smsLogs := rows.subset (List.mem_map_of_mem chargeMem)
    have isOld : outcome.row.bill = old := by
      rw [← map_bill_id] at keyedIds
      exact eq_of_key_eq keyedIds (List.mem_map_of_mem rowMem) oldMem isRow
    by_cases positive : 0 < outcome.amount
    · left
      by_cases refunded : outcome.row.refundedAt = none
      · apply Bill.isRefunded_creditedBy outcomeMem
        · rw [credited outcome outcomeMem failed, if_pos ⟨positive, refunded⟩]
          exact Int.ne_of_gt positive
        · rw [Bill.pricedBy_id]
          exact isRow
      · apply Bill.creditedBy_keeps.2.2.2
        rw [priced, ← isOld]
        simpa [SmsLog.bill, Option.isSome_iff_ne_none] using refunded
    · right
      rw [priced]
      exact Int.not_lt.mp positive

theorem retryRows_skipSmsCharge {accountId : ℕ} {loop after : RetryLoop} {rows : List SmsLog}
    (moved : retryRows env accountId true loop rows = some after)
    (free : ∀ charge ∈ loop.retried, charge.2 = 0) :
    after.db.bills = loop.db.bills ∧ ∀ charge ∈ after.retried, charge.2 = 0 := by
  induction rows generalizing loop with
  | nil =>
      cases moved
      exact ⟨rfl, free⟩
  | cons row rows ih =>
      rcases Option.bind_eq_some_iff.mp moved with ⟨middle, first, rest⟩
      have one : middle.db.bills = loop.db.bills ∧ ∀ charge ∈ middle.retried, charge.2 = 0 := by
        unfold retryRow at first
        split at first
        · cases first
          exact ⟨bills_updateSmsLogs_same _ fun _ => rfl, free⟩
        · split at first
          · cases first
            exact ⟨rfl, free⟩
          · simp only [if_true] at first
            cases first
            refine ⟨bills_updateSmsLogs_same _ fun _ => rfl, ?_⟩
            intro charge member
            rcases List.mem_append.mp member with old | new
            · exact free charge old
            · rw [List.mem_singleton.mp new]
      rcases ih rest one.2 with ⟨bills, free⟩
      exact ⟨bills.trans one.1, free⟩

theorem bills_enqueueRetried_free {db : Db} {retried : List (SmsLog × Money)}
    (free : ∀ charge ∈ retried, charge.2 = 0) :
    (enqueueRetried env db retried).1.bills = db.bills := by
  induction retried generalizing db with
  | nil => rfl
  | cons charge rest ih =>
      rcases charge with ⟨row, amount⟩
      have isFree : amount = 0 := free (row, amount) (by simp)
      subst amount
      have freeRest : ∀ charge ∈ rest, charge.2 = 0 := fun charge member =>
        free charge (by simp [member])
      unfold enqueueRetried
      split
      · exact ih freeRest
      · refine (ih freeRest).trans ?_
        exact bills_updateSmsLogs_same _ fun _ => rfl

theorem retryBatchFailed_spec {db after : Db} (keyed : db.Keyed) {batchId accountId : ℕ}
    {skipSmsCharge : Bool} {outcomes : List Retried} {skipped pendingSkipped : ℕ}
    (ended : retryBatchFailed env db batchId accountId skipSmsCharge =
      .retried after outcomes skipped pendingSkipped) :
    (skipSmsCharge = true ∧ after.bills = db.bills) ∨
      (skipSmsCharge = false ∧ RetrySpec db after outcomes) := by
  unfold retryBatchFailed at ended
  split at ended
  · cases ended
  · split at ended
    · cases ended
    · split at ended
      · cases ended
      · rename_i loop moved
        cases ended
        cases skipSmsCharge with
        | false => exact Or.inr ⟨rfl, retrySpec_of_loop keyed moved⟩
        | true =>
            rcases retryRows_skipSmsCharge moved (by simp [RetryLoop.start]) with ⟨bills, free⟩
            refine Or.inl ⟨rfl, (bills_enqueueRetried_free free).trans ?_⟩
            exact (bills_logRetryCharges _ _ _).trans bills

end Retry

section Balance

variable {env : ChunkEnv} {accountId : ℕ}

def Db.owners (db : Db) : List (MessageId × ℕ) :=
  db.smsLogs.map fun row => (row.messageId, row.accountId)

theorem owners_updateSmsLogs (db : Db) {condition : SmsLog → Bool} {update : SmsLog → SmsLog}
    (same : ∀ row, (update row).messageId = row.messageId ∧
      (update row).accountId = row.accountId) :
    (db.updateSmsLogs condition update).owners = db.owners := by
  simp only [Db.owners, Db.updateSmsLogs_smsLogs, List.map_map]
  refine List.map_congr_left ?_
  intro row _
  simp only [Function.comp_apply]
  split
  · rw [(same row).1, (same row).2]
  · rfl

theorem map_add_zero (balance : Option Money) : balance.map (· + 0) = balance := by
  cases balance <;> simp

theorem balance_retryRows {skipSmsCharge : Bool} {loop after : RetryLoop} {rows : List SmsLog}
    (moved : retryRows env accountId skipSmsCharge loop rows = some after) :
    ∃ charges : List (SmsLog × Money), after.retried = loop.retried ++ charges ∧
      (∀ charge ∈ charges, charge.1 ∈ rows) ∧ after.db.owners = loop.db.owners ∧
      after.db.balance accountId =
        (loop.db.balance accountId).map (· + -(charges.map Prod.snd).sum) := by
  induction rows generalizing loop with
  | nil =>
      cases moved
      exact ⟨[], by simp, by simp, rfl, (map_add_zero _).symm⟩
  | cons row rows ih =>
      rcases Option.bind_eq_some_iff.mp moved with ⟨middle, first, rest⟩
      rcases ih rest with ⟨charges, retried, inRows, owners, balance⟩
      have one : ∃ charge : List (SmsLog × Money), middle.retried = loop.retried ++ charge ∧
          (∀ entry ∈ charge, entry.1 = row) ∧ middle.db.owners = loop.db.owners ∧
          middle.db.balance accountId =
            (loop.db.balance accountId).map (· + -(charge.map Prod.snd).sum) := by
        unfold retryRow at first
        split at first
        · cases first
          exact ⟨[], by simp [RetryLoop.unpaid], by simp,
            owners_updateSmsLogs _ fun _ => ⟨rfl, rfl⟩, (map_add_zero _).symm⟩
        · split at first
          · cases first
            exact ⟨[], by simp [RetryLoop.skip], by simp, rfl, (map_add_zero _).symm⟩
          · split at first
            · cases first
              exact ⟨[(row, 0)], rfl, by simp, owners_updateSmsLogs _ fun _ => ⟨rfl, rfl⟩,
                (map_add_zero _).symm⟩
            · split at first
              · cases first
                exact ⟨[], by simp [RetryLoop.unpaid], by simp,
                  owners_updateSmsLogs _ fun _ => ⟨rfl, rfl⟩, (map_add_zero _).symm⟩
              · cases first
                exact ⟨[], by simp [RetryLoop.skip], by simp, rfl, (map_add_zero _).symm⟩
              · cases first
              · rename_i paid charge charged
                cases first
                have isPaid := chargeAgain_charged charged
                refine ⟨[(row, charge.totalCost)], rfl, by simp, ?_, ?_⟩
                · have chargedOwners :
                      (paid.updateRow row.id fun row => row.charged charge).owners = paid.owners :=
                    owners_updateSmsLogs _ fun _ => ⟨rfl, rfl⟩
                  have paidOwners : paid.owners = loop.db.owners := by
                    rw [isPaid]
                    rfl
                  rw [← paidOwners, ← chargedOwners]
                  exact owners_updateSmsLogs _ fun _ => ⟨rfl, rfl⟩
                · have balance : paid.balance accountId =
                      (loop.db.balance accountId).map (· + -charge.totalCost) := by
                    rw [isPaid, Db.balance_addBalance, if_pos rfl]
                  simp only [List.map_cons, List.map_nil, List.sum_singleton]
                  exact balance
      rcases one with ⟨charge, retriedOne, isRow, ownersOne, balanceOne⟩
      refine ⟨charge ++ charges, ?_, ?_, owners.trans ownersOne, ?_⟩
      · rw [retried, retriedOne, List.append_assoc]
      · intro entry member
        rcases List.mem_append.mp member with first | later
        · simp [isRow entry first]
        · simp [inRows entry later]
      · rw [balance, balanceOne, Option.map_map, List.map_append, List.sum_append]
        congr 1
        funext amount
        simp only [Function.comp_apply]
        ring

theorem balance_refundBy (unicode : Unicode) (db : Db) (call : RefundCall) (now : ℕ)
    (owned : ∀ row ∈ db.smsLogs, row.id = call.smsLogId → row.accountId = accountId) :
    (refundBy unicode db call now).balance accountId =
        (db.balance accountId).map (· + creditOf unicode db call) ∧
      (refundBy unicode db call now).owners = db.owners := by
  unfold refundBy creditOf
  cases found : db.smsLogs.find? fun row => row.id = call.smsLogId with
  | none => exact ⟨(map_add_zero _).symm, rfl⟩
  | some row =>
      simp only
      cases granted : call.entry.grant unicode row with
      | error reason => exact ⟨(map_add_zero _).symm, rfl⟩
      | ok category =>
          have hit := List.find?_some found
          have isOwner := owned row (List.mem_of_find?_eq_some found) (of_decide_eq_true hit)
          refine ⟨?_, owners_updateSmsLogs db fun _ => ⟨rfl, rfl⟩⟩
          simp [RefundCall.claim, Db.balance_addBalance, isOwner]

theorem refundLineCharge_cases (env : ChunkEnv) {db : Db} (keyed : db.Keyed)
    (messageId : MessageId) :
    (refundLineCharge env db messageId = db ∧ refundOfLine env db messageId = 0) ∨
      ∃ row ∈ db.smsLogs, row.messageId = messageId ∧
        (∀ other ∈ db.smsLogs, other.id = row.id → other = row) ∧
        refundLineCharge env db messageId =
          refundBy env.unicode db ⟨.autoRefund "retry_queue_failed" false, row.id⟩ env.now ∧
        refundOfLine env db messageId =
          creditOf env.unicode db ⟨.autoRefund "retry_queue_failed" false, row.id⟩ := by
  unfold refundLineCharge refundOfLine
  cases found : db.smsLogs.find? fun row => row.messageId = messageId with
  | none => exact Or.inl ⟨rfl, rfl⟩
  | some row =>
      have hit := List.find?_some found
      have member := List.mem_of_find?_eq_some found
      exact Or.inr ⟨row, member, of_decide_eq_true hit,
        fun other otherMem same => eq_of_key_eq keyed.ids otherMem member same, rfl, rfl⟩

theorem balance_failRetried (env : ChunkEnv) {db : Db} (keyed : db.Keyed) {row : SmsLog}
    (amount : Money)
    (owned : ∀ owner ∈ db.owners, owner.1 = row.messageId → owner.2 = accountId) :
    (failRetried env db row amount).Keyed ∧
      (failRetried env db row amount).owners = db.owners ∧
      (failRetried env db row amount).balance accountId =
        (db.balance accountId).map (· + creditFor env db row amount) := by
  have bills : (failRetried env db row amount).bills =
      (if 0 < amount then refundLineCharge env db row.messageId else db).bills :=
    bills_updateSmsLogs_same _ fun _ => rfl
  have owners : (failRetried env db row amount).owners =
      (if 0 < amount then refundLineCharge env db row.messageId else db).owners :=
    owners_updateSmsLogs _ fun _ => ⟨rfl, rfl⟩
  have balance : (failRetried env db row amount).balance accountId =
      (if 0 < amount then refundLineCharge env db row.messageId else db).balance accountId := rfl
  have unchanged : db.bills = db.bills.map id := (List.map_id _).symm
  rw [owners, balance]
  unfold creditFor
  by_cases positive : 0 < amount
  · simp only [if_pos positive] at bills ⊢
    rcases refundLineCharge_cases env keyed row.messageId with
      ⟨same, nothing⟩ | ⟨stored, member, isMessage, only, refund, credit⟩
    · rw [same] at bills ⊢
      rw [nothing]
      exact ⟨keyed.of_map (bills.trans unchanged) (fun _ => rfl) fun _ => rfl, rfl,
        (map_add_zero _).symm⟩
    · rw [refund] at bills ⊢
      rw [credit]
      have owner : stored.accountId = accountId :=
        owned (stored.messageId, stored.accountId) (List.mem_map_of_mem member) isMessage
      rcases balance_refundBy env.unicode db
          ⟨.autoRefund "retry_queue_failed" false, stored.id⟩ env.now (fun other otherMem same =>
            (congrArg SmsLog.accountId (only other otherMem same)).trans owner) with
        ⟨credited, sameOwners⟩
      refine ⟨?_, sameOwners, credited⟩
      rcases bills_refundBy env.unicode db
          ⟨.autoRefund "retry_queue_failed" false, stored.id⟩ env.now with
        ⟨same, _⟩ | ⟨other, _, _, _, _, refunded, _⟩
      · exact keyed.of_map ((bills.trans same).trans unchanged) (fun _ => rfl) fun _ => rfl
      · exact keyed.of_map (bills.trans refunded) (by simp) (by simp)
  · rw [if_neg positive] at bills ⊢
    rw [if_neg positive]
    exact ⟨keyed.of_map (bills.trans unchanged) (fun _ => rfl) fun _ => rfl, rfl,
      (map_add_zero _).symm⟩

theorem balance_enqueueRetried {db : Db} (keyed : db.Keyed) {retried : List (SmsLog × Money)}
    (owned : ∀ charge ∈ retried, ∀ owner ∈ db.owners, owner.1 = charge.1.messageId →
      owner.2 = accountId) :
    (enqueueRetried env db retried).1.balance accountId =
      (db.balance accountId).map
        (· + ((enqueueRetried env db retried).2.map Retried.credited).sum) := by
  induction retried generalizing db with
  | nil => exact (map_add_zero _).symm
  | cons charge rest ih =>
      rcases charge with ⟨row, amount⟩
      unfold enqueueRetried
      split
      · rw [ih keyed fun charge member => owned charge (by simp [member])]
        simp
      · rcases balance_failRetried env keyed amount (owned (row, amount) (by simp)) with
          ⟨keyedNext, owners, balance⟩
        rw [ih keyedNext fun charge member => owners ▸ owned charge (by simp [member]), balance,
          Option.map_map]
        congr 1
        funext old
        simp only [Function.comp_apply, List.map_cons, List.sum_cons]
        ring

theorem map_amount_enqueueRetried (db : Db) (retried : List (SmsLog × Money)) :
    (enqueueRetried env db retried).2.map Retried.amount = retried.map Prod.snd := by
  induction retried generalizing db with
  | nil => rfl
  | cons charge rest ih =>
      rcases charge with ⟨row, amount⟩
      unfold enqueueRetried
      split <;> simp [ih]

theorem balance_retryBatchFailed {db after : Db} (keyed : db.Keyed) {batchId : ℕ}
    {skipSmsCharge : Bool} {outcomes : List Retried} {skipped pendingSkipped : ℕ}
    (ended : retryBatchFailed env db batchId accountId skipSmsCharge =
      .retried after outcomes skipped pendingSkipped) :
    after.balance accountId = (db.balance accountId).map
      (· + ((outcomes.map Retried.credited).sum - (outcomes.map Retried.amount).sum)) := by
  unfold retryBatchFailed at ended
  split at ended
  · cases ended
  · split at ended
    · cases ended
    · split at ended
      · cases ended
      · rename_i loop moved
        cases ended
        rcases balance_retryRows moved with ⟨charges, retried, rows, owners, balance⟩
        simp only [RetryLoop.start, List.nil_append] at retried owners balance
        have keyedLog : (logRetryCharges loop.db accountId loop.retried).Keyed := by
          have log := bills_logRetryCharges loop.db accountId loop.retried
          cases skipSmsCharge with
          | false =>
              rcases retryRows_spec moved with ⟨_, _, _, bills⟩
              exact keyed.of_map (log.trans bills) (fun _ => Bill.pricedBy_id)
                fun _ => Bill.pricedBy_messageId
          | true =>
              have bills := (retryRows_skipSmsCharge moved (by simp [RetryLoop.start])).1
              exact keyed.of_map ((log.trans bills).trans (List.map_id _).symm) (fun _ => rfl)
                fun _ => rfl
        have ownersLog : (logRetryCharges loop.db accountId loop.retried).owners = db.owners := by
          rw [← owners]
          unfold logRetryCharges
          simp only
          split <;> rfl
        have balanceLog : (logRetryCharges loop.db accountId loop.retried).balance accountId =
            loop.db.balance accountId := by
          unfold logRetryCharges
          simp only
          split <;> rfl
        rw [balance_enqueueRetried keyedLog, balanceLog, balance, Option.map_map,
          map_amount_enqueueRetried, retried]
        · congr 1
          funext old
          simp only [Function.comp_apply]
          ring
        · intro charge member owner ownerMem isMessage
          rw [ownersLog] at ownerMem
          rcases List.mem_map.mp ownerMem with ⟨row, rowMem, rfl⟩
          rw [retried] at member
          have isRetriable := List.mem_filter.mp (rows charge member)
          have same : row = charge.1 :=
            eq_of_key_eq keyed.messageIds rowMem isRetriable.1 isMessage
          rw [same]
          exact (of_decide_eq_true isRetriable.2).2.1

end Balance

end Klsmsc
