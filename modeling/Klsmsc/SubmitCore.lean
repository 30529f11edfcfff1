import Klsmsc.Purchases
import Klsmsc.Retry.Bills

/-!
# One message on the way to the queue

What `submit_sms_core` commits for a message that has passed its checks, and what it does when the
message cannot be enqueued: a refund through the refund service and the status of the row, in one
transaction.
-/

namespace Klsmsc

open Library

/-- What the checks of `submit_sms_core` settle for a message that they let through. -/
structure Acceptance where
  channel : Channel
  phoneNumber : String
  countryCode : String
  senderId : Option String
  finalMessage : String
  deriving DecidableEq, Repr

def Acceptance.row (accepted : Acceptance) (accountId id : ℕ) (messageId : MessageId)
    (charge : RetryCharge) (now : ℕ) : SmsLog where
  id := id
  messageId := messageId
  upstreamMessageId := none
  accountId := accountId
  channelId := some accepted.channel.id
  batchId := none
  phoneNumber := accepted.phoneNumber
  countryCode := some accepted.countryCode
  senderId := accepted.senderId
  message := accepted.finalMessage
  messageCount := charge.messageCount
  status := .queued
  costPrice := some charge.totalBaseCost
  sellingPrice := some charge.totalCost
  currency := charge.currency
  submitTime := some now
  sentTime := none
  deliveryTime := none
  errorMessage := none
  refundedAt := none
  refundedBy := none
  refundedAmount := none

def bookMessage (env : ChunkEnv) (db : Db) (accountId id : ℕ) (messageId : MessageId)
    (accepted : Acceptance) (skipBalanceLog : Bool) : Option Db :=
  match PricingEngine.calculateAndCharge env db accountId accepted.channel accepted.countryCode
    accepted.finalMessage skipBalanceLog with
  | .charged paid charge =>
      some (paid.addSmsLogs [accepted.row accountId id messageId charge env.now])
  | _ => none

/-- `_refund_line_charge`, for a source. -/
def refundLine (unicode : Unicode) (db : Db) (messageId : MessageId) (source : String)
    (now : ℕ) : Db :=
  match db.smsLogs.find? fun row => row.messageId = messageId with
  | none => db
  | some row => refundBy unicode db ⟨.autoRefund source false, row.id⟩ now

def markUnqueued (db : Db) (messageId : MessageId) (text : String) : Db :=
  db.updateSmsLogs (fun row => row.messageId = messageId) fun row =>
    { row with status := .failed, errorMessage := some text }

def failUnqueued (unicode : Unicode) (db : Db) (messageId : MessageId) (source text : String)
    (now : ℕ) : Db :=
  markUnqueued (refundLine unicode db messageId source now) messageId text

def SmsLog.Compensated (row : SmsLog) : Prop :=
  row.status = .failed ∧ (row.price ≤ 0 ∨ row.refundedAmount = some row.price)

section

variable {env : ChunkEnv} {db booked : Db} {accountId id : ℕ} {messageId : MessageId}
  {accepted : Acceptance} {skipBalanceLog : Bool}

theorem calculateAndCharge_spec {channel : Channel} {country message : String} {paid : Db}
    {charge : RetryCharge}
    (charged : PricingEngine.calculateAndCharge env db accountId channel country message
      skipBalanceLog = .charged paid charge) :
    paid.smsLogs = db.smsLogs ∧ ∀ other, paid.balance other =
      (db.addBalance accountId (-charge.totalCost)).balance other := by
  rw [PricingEngine.calculateAndCharge] at charged
  split at charged
  · cases charged
  · split at charged
    · cases charged
    · split at charged
      · cases charged
      · rename_i deducted
        cases charged
        rw [eq_addBalance_of_deduct deducted]
        split
        · exact ⟨rfl, fun other => rfl⟩
        · exact ⟨rfl, fun other => rfl⟩

theorem bookMessage_spec
    (isBooked : bookMessage env db accountId id messageId accepted skipBalanceLog = some booked) :
    ∃ row, booked.smsLogs = db.smsLogs ++ [row] ∧ row.id = id ∧ row.messageId = messageId ∧
      row.accountId = accountId ∧ row.refundedAt = none ∧
      ∀ other, booked.balance other = (db.addBalance accountId (-row.price)).balance other := by
  rw [bookMessage] at isBooked
  split at isBooked
  · rename_i paid charge charged
    cases isBooked
    rcases calculateAndCharge_spec charged with ⟨logs, balances⟩
    refine ⟨accepted.row accountId id messageId charge env.now, ?_, rfl, rfl, rfl, rfl,
      balances⟩
    rw [Db.addSmsLogs_smsLogs, logs]
  · cases isBooked

theorem refundBy_autoRefund (unicode : Unicode) (keyed : db.Keyed) {row : SmsLog}
    (member : row ∈ db.smsLogs) (unrefunded : row.refundedAt = none) (positive : 0 < row.price)
    (source : String) (now : ℕ) :
    let claim := RefundCall.claim ⟨.autoRefund source false, row.id⟩ row now
    (refundBy unicode db ⟨.autoRefund source false, row.id⟩ now).smsLogs =
        (db.smsLogs.map fun stored =>
          if claim.applies stored then stored.refunded claim else stored) ∧
      ∀ other, (refundBy unicode db ⟨.autoRefund source false, row.id⟩ now).balance other =
        (db.addBalance row.accountId row.price).balance other := by
  have granted : (RefundEntry.autoRefund source false).grant unicode row = .ok source := by
    simp [RefundEntry.grant, RefundEntry.check, unrefunded, Int.not_le.mpr positive]
  have found : (db.smsLogs.find? fun stored => stored.id = row.id) = some row :=
    find?_of_key keyed.ids member
  simp only [refundBy, found, granted]
  exact ⟨rfl, fun other => rfl⟩

theorem refundBy_of_free (unicode : Unicode) (keyed : db.Keyed) {row : SmsLog}
    (member : row ∈ db.smsLogs) (free : row.price ≤ 0) (source : String) (now : ℕ) :
    refundBy unicode db ⟨.autoRefund source false, row.id⟩ now = db := by
  have found : (db.smsLogs.find? fun stored => stored.id = row.id) = some row :=
    find?_of_key keyed.ids member
  rw [refundBy]
  simp only [found]
  split
  · rfl
  · rename_i granted
    exact absurd (price_pos_of_grant granted) (Int.not_lt.mpr free)

theorem failUnqueued_spec (unicode : Unicode) (keyed : db.Keyed) {row : SmsLog}
    (member : row ∈ db.smsLogs) (unrefunded : row.refundedAt = none) (source text : String)
    (now : ℕ) :
    (∀ stored ∈ (failUnqueued unicode db row.messageId source text now).smsLogs,
        stored.messageId = row.messageId → stored.Compensated) ∧
      ∀ other, (failUnqueued unicode db row.messageId source text now).balance other =
        (db.addBalance row.accountId (max 0 row.price)).balance other := by
  have found : (db.smsLogs.find? fun stored => stored.messageId = row.messageId) = some row :=
    find?_of_key keyed.messageIds member
  have only : ∀ stored ∈ db.smsLogs, stored.messageId = row.messageId → stored = row :=
    fun stored inside same => eq_of_key_eq keyed.messageIds inside member same
  simp only [failUnqueued, refundLine, found]
  by_cases positive : 0 < row.price
  · rcases refundBy_autoRefund unicode keyed member unrefunded positive source now with
      ⟨logs, balances⟩
    refine ⟨?_, ?_⟩
    · intro stored inside same
      rw [markUnqueued, Db.updateSmsLogs_smsLogs, logs, List.map_map] at inside
      rcases List.mem_map.mp inside with ⟨before, beforeIn, rfl⟩
      have isRow : before = row := by
        apply only before beforeIn
        revert same
        simp only [Function.comp_apply, SmsLog.refunded]
        split <;> split <;> intro same <;> exact same
      subst before
      simp [Claim.applies, RefundCall.claim, SmsLog.refunded, unrefunded, SmsLog.Compensated,
        SmsLog.price]
    · intro other
      rw [markUnqueued, Db.updateSmsLogs_balance, balances,
        max_eq_right (Int.le_of_lt positive)]
  · have free : row.price ≤ 0 := Int.not_lt.mp positive
    rw [refundBy_of_free unicode keyed member free, max_eq_left free]
    refine ⟨?_, ?_⟩
    · intro stored inside same
      rw [markUnqueued, Db.updateSmsLogs_smsLogs] at inside
      rcases List.mem_map.mp inside with ⟨before, beforeIn, rfl⟩
      have isRow : before = row := by
        apply only before beforeIn
        revert same
        split <;> intro same <;> exact same
      subst before
      simp only [decide_true, if_true]
      exact ⟨rfl, .inl free⟩
    · intro other
      rw [markUnqueued, Db.updateSmsLogs_balance, Db.balance_addBalance]
      split
      · simp
      · rfl

end

end Klsmsc
