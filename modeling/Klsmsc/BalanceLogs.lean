import Klsmsc.CsvBatch
import Klsmsc.Purchases

/-!
# Balances and their log

The operations that charge and credit accounts, one after the other, each as a whole: what it
leaves in the tables, whether it ends normally or by an exception. A request is one transaction, so
an exception either comes before its commit, and nothing is left, or behind it. An inbound message
is charged in one transaction and logged in a second one. The worker of a chunk has the oracle of
its sites, and the worker of CSV files the commit after which it is interrupted.

The batch variants of the refunds commit message by message, so they are sequences of refunds.
-/

namespace Klsmsc

inductive Ending where
  | committed
  | rolledBack
  deriving DecidableEq, Repr

def Ending.tables (ending : Ending) (before after : Db) : Db :=
  match ending with
  | committed => after
  | rolledBack => before

structure SingleSend where
  accountId : ℕ
  channel : Channel
  countryCode : String
  message : String
  deriving DecidableEq, Repr

structure CsvColumns where
  templateId : Option ℕ
  filePath : Option String
  startedAt : Option ℕ
  deriving DecidableEq, Repr

def CsvColumns.state (columns : CsvColumns) (db : Db) : CsvState :=
  ⟨db, columns.templateId, columns.filePath, columns.startedAt⟩

inductive LedgerOperation where
  | purchasePackage (env : PurchaseEnv) (accountId packageId : ℕ) (ending : Ending)
  | buyToStock (env : PurchaseEnv) (accountId : ℕ) (data : DataOrderCreate) (ending : Ending)
  | buyCombo (env : PurchaseEnv) (accountId productId : ℕ) (quantity : ℤ) (ending : Ending)
  | buyAndSend (env : PurchaseEnv) (accountId : ℕ) (data : DataOrderCreate) (ending : Ending)
  | send (env : ChunkEnv) (message : SingleSend) (ending : Ending)
  | sendInbound (env : ChunkEnv) (message : SingleSend) (ending logEnding : Ending)
  | processBatch (env : CsvEnv) (batchId : ℕ) (resume : Bool) (columns : CsvColumns)
      (interrupted : Option (ℕ × Option String))
  | processChunk (env : ChunkEnv) (faults : Faults) (input : ChunkInput)
  | switchChannel (env : RepricingEnv) (batchId accountId newChannelId : ℕ) (ending : Ending)
  | refund (unicode : Unicode) (call : RefundCall) (now : ℕ) (ending : Ending)

def SingleSend.charge (message : SingleSend) (env : ChunkEnv) (db : Db) (skipBalanceLog : Bool) :
    RetryChargeResult :=
  PricingEngine.calculateAndCharge env db message.accountId message.channel message.countryCode
    message.message skipBalanceLog

namespace LedgerOperation

def tables (db : Db) : LedgerOperation → Db
  | purchasePackage env accountId packageId ending =>
      ending.tables db ((Klsmsc.purchasePackage env db accountId packageId).toOption.getD db)
  | buyToStock env accountId data ending =>
      ending.tables db ((Klsmsc.buyToStock env db accountId data).toOption.getD db)
  | buyCombo env accountId productId quantity ending =>
      ending.tables db ((Klsmsc.buyCombo env db accountId productId quantity).toOption.getD db)
  | buyAndSend env accountId data ending =>
      ending.tables db ((Klsmsc.buyAndSend env db accountId data).toOption.getD db)
  | send env message ending =>
      match message.charge env db false with
      | .charged paid _ => ending.tables db paid
      | _ => db
  | sendInbound env message ending logEnding =>
      match message.charge env db true with
      | .charged paid charge =>
          ending.tables db
            (logEnding.tables paid (paid.logCharge message.accountId charge.totalCost))
      | _ => db
  | processBatch env batchId resume columns interrupted =>
      match interrupted with
      | none => (doProcessBatch env batchId resume (columns.state db)).1.db
      | some (commits, stored) =>
          interruptedBatch env batchId resume (columns.state db) commits stored
  | processChunk env faults input => chunkTables env faults input db
  | switchChannel env batchId accountId newChannelId ending =>
      match switchChannelForUnsent env db batchId accountId newChannelId with
      | .switched after _ _ _ => ending.tables db after
      | _ => db
  | refund unicode call now ending => ending.tables db (refundBy unicode db call now)

end LedgerOperation

def tablesAfter (db : Db) (operations : List LedgerOperation) : Db :=
  operations.foldl LedgerOperation.tables db

def loggedAmount (entries : List BalanceLog) (accountId : ℕ) : Money :=
  ((entries.filter fun entry => entry.accountId = accountId).map BalanceLog.amount).sum

end Klsmsc
