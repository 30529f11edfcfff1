import Klsmsc.Chunk.Ledger
import Klsmsc.DirectSends

/-!
# What a request leaves behind

The outcome of a request that charges messages and hands them over itself: the rows that it has
added, and which of their messages no attempt has enqueued. The requests are followed from one
booking to the next, with the rows that they have added so far and what these have cost.
-/

namespace Klsmsc

open Library

def SmsLog.CostsNothing (row : SmsLog) : Prop :=
  row.price ≤ row.credit

def sumFor (accountId : ℕ) (amount : SmsLog → Money) (rows : List SmsLog) : Money :=
  (rows.map fun row => if row.accountId = accountId then amount row else 0).sum

/-- A request, or a task, behind its end: the tables, the rows that it has added, what it has
charged to each account, the messages that every attempt has failed to enqueue, and those that the
response reports as failed. -/
structure SendOutcome where
  before : Db
  after : Db
  rows : List SmsLog
  charged : (accountId : ℕ) → Money
  lost : MessageId → Prop
  reported : List MessageId

structure SendOutcome.Settles (outcome : SendOutcome) : Prop where
  lost : ∀ row ∈ outcome.rows, outcome.lost row.messageId →
    row.status = .failed ∧ row.CostsNothing
  reported : ∀ row ∈ outcome.rows, row.messageId ∈ outcome.reported → row.CostsNothing
  balance : ∀ accountId, outcome.after.balance accountId =
    (outcome.before.balance accountId).map fun balance =>
      balance - outcome.charged accountId + sumFor accountId SmsLog.credit outcome.rows

def chargedOutcome (before after : Db) (lost : MessageId → Prop) (reported : List MessageId) :
    SendOutcome :=
  let rows := after.smsLogs.drop before.smsLogs.length
  { before := before
    after := after
    rows := rows
    charged := fun accountId => sumFor accountId SmsLog.price rows
    lost := lost
    reported := reported }

section

variable {accountId : ℕ} {amount : SmsLog → Money} {rows : List SmsLog} {row : SmsLog}

theorem sumFor_append (left right : List SmsLog) :
    sumFor accountId amount (left ++ right) =
      sumFor accountId amount left + sumFor accountId amount right := by
  rw [sumFor, List.map_append, List.sum_append]
  rfl

theorem sumFor_singleton :
    sumFor accountId amount [row] = if row.accountId = accountId then amount row else 0 := by
  simp [sumFor]

end

/-! ### A booking -/

structure Booking (db booked : Db) (row : SmsLog) : Prop where
  logs : booked.smsLogs = db.smsLogs ++ [row]
  balance : ∀ accountId, booked.balance accountId =
    (db.balance accountId).map (· - sumFor accountId SmsLog.price [row])
  isNew : row.id = db.nextId
  queued : row.status = .queued
  unrefunded : row.refundedAt = none

section

variable {db booked : Db} {row : SmsLog}

theorem booking_of_charged (row : SmsLog) {env : ChunkEnv} {accountId : ℕ} {channel : Channel}
    {countryCode message : String} {skipBalanceLog : Bool} {paid : Db} {charge : RetryCharge}
    (charged : PricingEngine.calculateAndCharge env db accountId channel countryCode message
      skipBalanceLog = .charged paid charge)
    (account : row.accountId = accountId) (price : row.price = charge.totalCost)
    (isNew : row.id = db.nextId) (queued : row.status = .queued)
    (unrefunded : row.refundedAt = none) : Booking db (paid.addSmsLogs [row]) row := by
  rcases calculateAndCharge_spec charged with ⟨logs, balances⟩
  refine ⟨?_, ?_, isNew, queued, unrefunded⟩
  · rw [Db.addSmsLogs_smsLogs, logs]
  · intro other
    rw [Db.addSmsLogs_balance, balances, Db.balance_addBalance, sumFor_singleton, account, price]
    by_cases same : other = accountId
    · rw [if_pos same, if_pos same.symm]
      rfl
    · rw [if_neg same, if_neg (Ne.symm same)]
      simp

theorem Booking.keyed (booking : Booking db booked row) (keyed : db.Keyed)
    (fresh : ∀ stored ∈ db.smsLogs, stored.messageId ≠ row.messageId) : booked.Keyed := by
  constructor
  · rw [booking.logs, List.map_append, List.map_singleton, booking.isNew]
    refine InboundJob.nodup_concat keyed.ids ?_
    intro inside
    rcases List.mem_map.mp inside with ⟨stored, member, same⟩
    exact absurd same (Nat.ne_of_lt (db.id_lt_nextId member))
  · rw [booking.logs, List.map_append, List.map_singleton]
    refine InboundJob.nodup_concat keyed.messageIds ?_
    intro inside
    rcases List.mem_map.mp inside with ⟨stored, member, same⟩
    exact fresh stored member same

theorem credit_of_unrefunded (unrefunded : row.refundedAt = none) : row.credit = 0 := by
  rw [SmsLog.credit, if_pos unrefunded]

structure Unqueued (row failed : SmsLog) : Prop where
  id : failed.id = row.id
  messageId : failed.messageId = row.messageId
  accountId : failed.accountId = row.accountId
  price : failed.price = row.price
  status : failed.status = .failed
  credit : failed.credit = max 0 row.price

theorem unqueued_last (unicode : Unicode) (keyed : db.Keyed) {rows : List SmsLog}
    (logs : db.smsLogs = rows ++ [row]) (unrefunded : row.refundedAt = none)
    (source text : String) (now : ℕ) :
    ∃ failed, (failUnqueued unicode db row.messageId source text now).smsLogs =
      rows ++ [failed] ∧ Unqueued row failed := by
  have member : row ∈ db.smsLogs := by
    rw [logs]
    exact List.mem_append_right _ List.mem_cons_self
  have found : (db.smsLogs.find? fun stored => stored.messageId = row.messageId) = some row :=
    find?_of_key keyed.messageIds member
  have alone : ∀ stored ∈ rows, stored.id ≠ row.id ∧ stored.messageId ≠ row.messageId := by
    have ids := keyed.ids
    have messageIds := keyed.messageIds
    rw [logs, List.map_append, List.nodup_append'] at ids messageIds
    intro stored inRows
    constructor
    · intro same
      exact ids.2.2 (List.mem_map_of_mem inRows) (by simp [same])
    · intro same
      exact messageIds.2.2 (List.mem_map_of_mem inRows) (by simp [same])
  simp only [failUnqueued, refundLine, found]
  by_cases positive : 0 < row.price
  · have refunded :=
      (refundBy_autoRefund unicode keyed member unrefunded positive source now).1
    refine ⟨{ row.refunded (RefundCall.claim ⟨.autoRefund source false, row.id⟩ row now) with
      status := .failed, errorMessage := some text }, ?_, rfl, rfl, rfl, rfl, rfl, ?_⟩
    · rw [markUnqueued, Db.updateSmsLogs_smsLogs, refunded, logs, List.map_map, List.map_append,
        List.map_singleton]
      congr 1
      · refine (List.map_congr_left ?_).trans (List.map_id _)
        intro stored inRows
        rcases alone stored inRows with ⟨otherId, otherMessage⟩
        simp [Claim.applies, RefundCall.claim, otherId, otherMessage]
      · simp [Claim.applies, RefundCall.claim, SmsLog.refunded, unrefunded]
    · rw [max_eq_right (Int.le_of_lt positive)]
      rfl
  · have free : row.price ≤ 0 := Int.not_lt.mp positive
    rw [refundBy_of_free unicode keyed member free]
    refine ⟨{ row with status := .failed, errorMessage := some text }, ?_, rfl, rfl, rfl, rfl,
      rfl, ?_⟩
    · rw [markUnqueued, Db.updateSmsLogs_smsLogs, logs, List.map_append, List.map_singleton]
      congr 1
      · refine (List.map_congr_left ?_).trans (List.map_id _)
        intro stored inRows
        simp [(alone stored inRows).2]
      · simp
    · rw [max_eq_left free]
      exact credit_of_unrefunded unrefunded

end

/-! ### The way to the outcome -/

/-- What a request has done to the tables: rows behind those that were there, and money of their
accounts. -/
structure Settling (before : Db) (rows : List SmsLog) (db : Db) : Prop where
  logs : ∃ kept, kept.length = before.smsLogs.length ∧ db.smsLogs = kept ++ rows
  balance : ∀ accountId, db.balance accountId = (before.balance accountId).map fun balance =>
    balance - sumFor accountId SmsLog.price rows + sumFor accountId SmsLog.credit rows

section

variable {before db booked : Db} {rows : List SmsLog} {row : SmsLog}

theorem Settling.start (db : Db) : Settling db [] db where
  logs := ⟨db.smsLogs, rfl, (List.append_nil _).symm⟩
  balance accountId := by simp [sumFor]

theorem Settling.of_same (settling : Settling before rows db) {other : Db}
    (logs : other.smsLogs = db.smsLogs)
    (balance : ∀ accountId, other.balance accountId = db.balance accountId) :
    Settling before rows other where
  logs := by
    rw [logs]
    exact settling.logs
  balance accountId := (balance accountId).trans (settling.balance accountId)

theorem Settling.book (settling : Settling before rows db) (booking : Booking db booked row) :
    Settling before (rows ++ [row]) booked where
  logs := by
    rcases settling.logs with ⟨kept, same, logs⟩
    exact ⟨kept, same, by rw [booking.logs, logs, List.append_assoc]⟩
  balance accountId := by
    have nothing : sumFor accountId SmsLog.credit [row] = 0 := by
      rw [sumFor_singleton, credit_of_unrefunded booking.unrefunded, ite_self]
    rw [booking.balance, settling.balance, Option.map_map, sumFor_append, sumFor_append, nothing]
    congr 1
    funext balance
    simp only [Function.comp_apply]
    ring

def Db.logKeys (db : Db) : List (ℕ × MessageId) :=
  db.smsLogs.map fun row => (row.id, row.messageId)

theorem Settling.fail (settling : Settling before (rows ++ [row]) db) (keyed : db.Keyed)
    (unrefunded : row.refundedAt = none) (unicode : Unicode) (source text : String) (now : ℕ) :
    let after := failUnqueued unicode db row.messageId source text now
    ∃ failed, Unqueued row failed ∧ Settling before (rows ++ [failed]) after ∧
      after.logKeys = db.logKeys := by
  rcases settling.logs with ⟨kept, same, logs⟩
  rw [← List.append_assoc] at logs
  have member : row ∈ db.smsLogs := by
    rw [logs]
    exact List.mem_append_right _ List.mem_cons_self
  rcases unqueued_last unicode keyed logs unrefunded source text now with
    ⟨failed, failedLogs, unqueued⟩
  refine ⟨failed, unqueued, ⟨⟨kept, same, ?_⟩, ?_⟩, ?_⟩
  · rw [failedLogs, List.append_assoc]
  · intro accountId
    have paid := (failUnqueued_spec unicode keyed member unrefunded source text now).2 accountId
    rw [paid, Db.balance_addBalance, settling.balance]
    simp only [sumFor_append, sumFor_singleton, unqueued.accountId, unqueued.price,
      unqueued.credit, credit_of_unrefunded unrefunded]
    by_cases own : accountId = row.accountId
    · rw [if_pos own, Option.map_map]
      simp only [own.symm, if_true]
      congr 1
      funext balance
      simp only [Function.comp_apply]
      ring
    · rw [if_neg own]
      simp only [Ne.symm own, if_false]
  · simp only [Db.logKeys, failedLogs, logs, List.map_append, List.map_singleton, unqueued.id,
      unqueued.messageId]

theorem Unqueued.costsNothing {failed : SmsLog} (unqueued : Unqueued row failed) :
    failed.CostsNothing := by
  rw [SmsLog.CostsNothing, unqueued.credit, unqueued.price]
  exact le_max_right _ _

structure Lasting (row later : SmsLog) : Prop where
  messageId : later.messageId = row.messageId
  accountId : later.accountId = row.accountId
  price : later.price = row.price
  credit : later.credit = row.credit
  status : later.status = .failed → row.status = .failed

theorem Settling.update (settling : Settling before rows db) (condition : SmsLog → Bool)
    (change : SmsLog → SmsLog) (lasting : ∀ row, Lasting row (change row)) :
    ∃ later : SmsLog → SmsLog, (∀ row, Lasting row (later row)) ∧
      Settling before (rows.map later) (db.updateSmsLogs condition change) := by
  let later : SmsLog → SmsLog := fun row => if condition row then change row else row
  have laterLasts : ∀ row, Lasting row (later row) := by
    intro row
    simp only [later]
    split
    · exact lasting row
    · exact ⟨rfl, rfl, rfl, rfl, id⟩
  have sums : ∀ (accountId : ℕ) (amount : SmsLog → Money),
      (∀ row, amount (later row) = amount row) →
        sumFor accountId amount (rows.map later) = sumFor accountId amount rows := by
    intro accountId amount same
    rw [sumFor, sumFor, List.map_map]
    congr 1
    refine List.map_congr_left ?_
    intro row _
    simp only [Function.comp_apply, (laterLasts row).accountId, same row]
  refine ⟨later, laterLasts, ?_, ?_⟩
  · rcases settling.logs with ⟨old, same, logs⟩
    refine ⟨old.map later, by rw [List.length_map, same], ?_⟩
    rw [Db.updateSmsLogs_smsLogs, logs, List.map_append]
  · intro accountId
    rw [Db.updateSmsLogs_balance, settling.balance,
      sums accountId _ fun row => (laterLasts row).price,
      sums accountId _ fun row => (laterLasts row).credit]

theorem Settling.settles_iff (settling : Settling before rows db) (lost : MessageId → Prop)
    (reported : List MessageId) :
    (chargedOutcome before db lost reported).Settles ↔
      (∀ row ∈ rows, lost row.messageId → row.status = .failed ∧ row.CostsNothing) ∧
        ∀ row ∈ rows, row.messageId ∈ reported → row.CostsNothing := by
  have added : db.smsLogs.drop before.smsLogs.length = rows := by
    rcases settling.logs with ⟨kept, same, logs⟩
    rw [logs, ← same, List.drop_left]
  constructor
  · intro settles
    have whole := settles.lost
    have told := settles.reported
    simp only [chargedOutcome, added] at whole told
    exact ⟨whole, told⟩
  · rintro ⟨whole, told⟩
    constructor
    · simpa only [chargedOutcome, added] using whole
    · simpa only [chargedOutcome, added] using told
    · simpa only [chargedOutcome, added] using settling.balance

end

end Klsmsc
