import Klsmsc.Dlr
import Klsmsc.Library.Keys

/-!
# Terminal states under delivery reports

The guard of `_process_smpp_dlr_async` compares two terminal states only. A
report with an intermediate stat carries the status `sent`, passes the guard and
is written over a terminal status. Everything else that a report can do keeps
the terminal statuses, so a run of reports keeps them exactly when no such
report reaches a row in a terminal status.
-/

namespace Klsmsc

open Library

/-- A report from the gateway, the replay of a buffered report, or the expiry of
Redis keys. -/
inductive DlrEvent where
  | report (deliver : DeliverSm) (call : DlrCall) (faults : DlrFaults) (now : ℕ)
  | flush (call : DlrCall) (faults : DlrFaults) (now : ℕ)
  | expire
  deriving DecidableEq, Repr

def DlrEvent.processed : DlrEvent → Option (DlrCall × DlrFaults)
  | report _ call faults _ => some (call, faults)
  | flush call faults _ => some ({ call with fromFlush := true }, faults)
  | expire => none

section

variable (unicode : Unicode) (sqlEq : String → String → Bool)

/-- One replay of `flush_dlr_retry_buffer`. -/
def flushReport (store : DlrStore) (faults : DlrFaults) (call : DlrCall) (now : ℕ) : DlrStore :=
  let outcome := processSmppDlr unicode sqlEq store faults { call with fromFlush := true } now
  if outcome.2.matched then
    { outcome.1 with
      redis :=
        { outcome.1.redis with pendingRetry := outcome.1.redis.pendingRetry.erase call } }
  else outcome.1

inductive DlrStep : DlrStore → DlrEvent → DlrStore → Prop where
  | report {store : DlrStore} {deliver : DeliverSm} {call : DlrCall} {faults : DlrFaults}
      {now : ℕ} (published : handleDeliverSM deliver = some call) :
      DlrStep store (.report deliver call faults now)
        (processSmppDlr unicode sqlEq store faults call now).1
  | flush {store : DlrStore} {call : DlrCall} {faults : DlrFaults} {now : ℕ}
      (buffered : call ∈ store.redis.pendingRetry) :
      DlrStep store (.flush call faults now) (flushReport unicode sqlEq store faults call now)
  | expire {store : DlrStore} {redis : DlrRedis}
      (seen : redis.seen.Sublist store.redis.seen)
      (unmatched : redis.unmatched.Sublist store.redis.unmatched)
      (effects : redis.effects.Sublist store.redis.effects)
      (pendingRetry : redis.pendingRetry.Sublist store.redis.pendingRetry) :
      DlrStep store .expire { store with redis := redis }

def LateIntermediate (store : DlrStore) (event : DlrEvent) : Prop :=
  ∃ call faults row, event.processed = some (call, faults) ∧
    shortCircuited unicode store.redis faults call = false ∧
    call.newStatus.isTerminal = false ∧
    matchSmsLog unicode sqlEq store.db call = some row ∧ row.status.isTerminal = true

def dlrTarget (store : DlrStore) (faults : DlrFaults) (call : DlrCall) : Option SmsLog :=
  if shortCircuited unicode store.redis faults call then none
  else
    (matchSmsLog unicode sqlEq store.db call).filter fun row =>
      row.status ≠ call.newStatus && !(row.status.isTerminal && call.newStatus.isTerminal)

variable {unicode sqlEq}

theorem processSmppDlr_db (store : DlrStore) (faults : DlrFaults) (call : DlrCall) (now : ℕ) :
    (processSmppDlr unicode sqlEq store faults call now).1.db =
      match dlrTarget unicode sqlEq store faults call with
      | none => store.db
      | some row =>
          store.db.updateSmsLogs (fun stored => stored.id = row.id)
            fun stored => stored.withDlr unicode call now := by
  unfold processSmppDlr dlrTarget
  by_cases dropped : shortCircuited unicode store.redis faults call = true
  · simp [dropped]
  · cases found : matchSmsLog unicode sqlEq store.db call with
    | none => simp [dropped]
    | some row =>
        by_cases same : row.status = call.newStatus
        · simp [dropped, same, Option.filter_some]
        · cases old : row.status.isTerminal with
          | false => simp [dropped, same, old, Option.filter_some]
          | true =>
              cases call.newStatus.isTerminal <;>
                simp [dropped, same, old, Option.filter_some]

theorem flushReport_db (store : DlrStore) (faults : DlrFaults) (call : DlrCall) (now : ℕ) :
    (flushReport unicode sqlEq store faults call now).db =
      (processSmppDlr unicode sqlEq store faults { call with fromFlush := true } now).1.db := by
  unfold flushReport
  simp only
  split <;> rfl

theorem dlrTarget_isTerminal {store : DlrStore} {faults : DlrFaults} {call : DlrCall} :
    (∃ row, dlrTarget unicode sqlEq store faults call = some row ∧
        row.status.isTerminal = true) ↔
      shortCircuited unicode store.redis faults call = false ∧
        call.newStatus.isTerminal = false ∧
        ∃ row, matchSmsLog unicode sqlEq store.db call = some row ∧
          row.status.isTerminal = true := by
  unfold dlrTarget
  constructor
  · rintro ⟨row, target, terminal⟩
    split at target
    · cases target
    · rename_i through
      rw [Option.filter_eq_some_iff] at target
      refine ⟨by simpa using through, ?_, row, target.1, terminal⟩
      simpa [terminal] using (Bool.and_eq_true_iff.mp target.2).2
  · rintro ⟨through, intermediate, row, found, terminal⟩
    refine ⟨row, ?_, terminal⟩
    have differs : row.status ≠ call.newStatus := by
      intro equal
      rw [equal, intermediate] at terminal
      cases terminal
    simp [through, found, differs, intermediate]

theorem dlrTarget_mem {store : DlrStore} {faults : DlrFaults} {call : DlrCall} {row : SmsLog}
    (target : dlrTarget unicode sqlEq store faults call = some row) :
    row ∈ store.db.smsLogs ∧ row.status ≠ call.newStatus := by
  unfold dlrTarget at target
  split at target
  · cases target
  · rw [Option.filter_eq_some_iff] at target
    refine ⟨matchSmsLog_mem target.1, ?_⟩
    simpa using (Bool.and_eq_true_iff.mp target.2).1

end

def TerminalKept (before after : Db) : Prop :=
  List.Forall₂ (fun old new : SmsLog =>
      new.id = old.id ∧ (old.status.isTerminal = true → new.status = old.status))
    before.smsLogs after.smsLogs

section

variable {unicode : Unicode} {sqlEq : String → String → Bool}

theorem TerminalKept.refl (db : Db) : TerminalKept db db :=
  List.forall₂_same.mpr fun _ _ => ⟨rfl, fun _ => rfl⟩

theorem terminalKept_update_iff {db : Db} (keyed : (db.smsLogs.map SmsLog.id).Nodup)
    {row : SmsLog} (member : row ∈ db.smsLogs) {call : DlrCall}
    (differs : row.status ≠ call.newStatus) (now : ℕ) :
    TerminalKept db (db.updateSmsLogs (fun stored => stored.id = row.id)
        fun stored => stored.withDlr unicode call now) ↔
      row.status.isTerminal = false := by
  have pointwise : TerminalKept db (db.updateSmsLogs (fun stored => stored.id = row.id)
      fun stored => stored.withDlr unicode call now) ↔
      ∀ stored ∈ db.smsLogs, stored.id = row.id → stored.status.isTerminal = true →
        call.newStatus = stored.status := by
    simp only [TerminalKept, Db.updateSmsLogs_smsLogs, List.forall₂_map_right_iff,
      List.forall₂_same, decide_eq_true_eq]
    constructor
    · intro kept stored storedMem isRow terminal
      have := (kept stored storedMem).2 terminal
      simpa [isRow, SmsLog.withDlr] using this
    · intro kept stored storedMem
      by_cases isRow : stored.id = row.id
      · simpa [isRow, SmsLog.withDlr] using kept stored storedMem isRow
      · simp [isRow]
  rw [pointwise]
  constructor
  · intro kept
    by_contra terminal
    exact differs (kept row member rfl (by simpa using terminal)).symm
  · intro intermediate stored storedMem isRow terminal
    rw [eq_of_key_eq keyed storedMem member isRow, intermediate] at terminal
    cases terminal

theorem terminalKept_process_iff {store : DlrStore}
    (keyed : (store.db.smsLogs.map SmsLog.id).Nodup) (faults : DlrFaults) (call : DlrCall)
    (now : ℕ) :
    TerminalKept store.db (processSmppDlr unicode sqlEq store faults call now).1.db ↔
      ¬∃ row, dlrTarget unicode sqlEq store faults call = some row ∧
        row.status.isTerminal = true := by
  rw [processSmppDlr_db]
  cases target : dlrTarget unicode sqlEq store faults call with
  | none => simp [TerminalKept.refl]
  | some row =>
      rcases dlrTarget_mem target with ⟨member, differs⟩
      simp only [terminalKept_update_iff keyed member differs now, Option.some.injEq,
        exists_eq_left', Bool.not_eq_true]

theorem DlrStep.terminalKept_iff {before after : DlrStore} {event : DlrEvent}
    (step : DlrStep unicode sqlEq before event after)
    (keyed : (before.db.smsLogs.map SmsLog.id).Nodup) :
    TerminalKept before.db after.db ↔ ¬LateIntermediate unicode sqlEq before event := by
  cases step with
  | @report deliver call faults now published =>
      rw [terminalKept_process_iff keyed, dlrTarget_isTerminal]
      simp [LateIntermediate, DlrEvent.processed]
  | @flush call faults now buffered =>
      rw [flushReport_db, terminalKept_process_iff keyed, dlrTarget_isTerminal]
      simp [LateIntermediate, DlrEvent.processed]
  | expire seen unmatched effects pendingRetry =>
      simp [LateIntermediate, DlrEvent.processed, TerminalKept.refl]

theorem processSmppDlr_ids (store : DlrStore) (faults : DlrFaults) (call : DlrCall) (now : ℕ) :
    (processSmppDlr unicode sqlEq store faults call now).1.db.smsLogs.map SmsLog.id =
      store.db.smsLogs.map SmsLog.id := by
  rw [processSmppDlr_db]
  split
  · rfl
  · simp only [Db.updateSmsLogs_smsLogs, List.map_map]
    refine List.map_congr_left ?_
    intro stored _
    simp only [Function.comp_apply]
    split <;> rfl

theorem DlrStep.ids {before after : DlrStore} {event : DlrEvent}
    (step : DlrStep unicode sqlEq before event after) :
    after.db.smsLogs.map SmsLog.id = before.db.smsLogs.map SmsLog.id := by
  cases step with
  | report published => exact processSmppDlr_ids _ _ _ _
  | flush buffered =>
      rw [flushReport_db]
      exact processSmppDlr_ids _ _ _ _
  | expire seen unmatched effects pendingRetry => rfl

/-- In a run of reports the terminal statuses are absorbing if and only if no
report without a final stat gets through to a row in a terminal status. -/
theorem dlr_terminal_absorbing_iff {first last : DlrStore}
    {transitions : List (Transition DlrStore DlrEvent)}
    (keyed : (first.db.smsLogs.map SmsLog.id).Nodup)
    (run : Run (DlrStep unicode sqlEq) first transitions last) :
    (∀ transition ∈ transitions, TerminalKept transition.before.db transition.after.db) ↔
      ∀ transition ∈ transitions,
        ¬LateIntermediate unicode sqlEq transition.before transition.label := by
  have preserved : ∀ before event after, DlrStep unicode sqlEq before event after →
      (before.db.smsLogs.map SmsLog.id).Nodup → (after.db.smsLogs.map SmsLog.id).Nodup := by
    intro before event after step keyed
    rw [step.ids]
    exact keyed
  have agree : ∀ before event after, DlrStep unicode sqlEq before event after →
      (before.db.smsLogs.map SmsLog.id).Nodup →
        (TerminalKept before.db after.db ↔ ¬LateIntermediate unicode sqlEq before event) := by
    intro before event after step keyed
    exact step.terminalKept_iff keyed
  exact run.forall_iff preserved agree keyed

end

/-- A delivered row with upstream id `abc` on channel 7. -/
def deliveredSmsLog : SmsLog where
  id := 1
  messageId := 1
  upstreamMessageId := some "abc"
  accountId := 1
  channelId := some 7
  batchId := none
  phoneNumber := "+8613800138000"
  countryCode := some "CN"
  senderId := none
  message := "hello"
  messageCount := 1
  status := .delivered
  costPrice := some 10
  sellingPrice := some 30
  currency := "USD"
  submitTime := some 1
  sentTime := some 2
  deliveryTime := some 3
  errorMessage := none
  refundedAt := none
  refundedBy := none
  refundedAmount := none

def deliveredStore : DlrStore where
  db :=
    { accounts _ := none
      smsLogs := [deliveredSmsLog]
      balanceLogs := []
      batches _ := none
      channels _ := none }
  redis := ⟨[], [], [], []⟩

def noFaults : DlrFaults := ⟨false, false, false, false, false, false, false⟩

/-- A PDU on channel 7 with an owned report for `abc`. -/
def deliverSm (stat : String) : DeliverSm where
  channelId := 7
  decoded := "id:abc stat:" ++ stat
  raw := none
  isOwned := true
  isDuplicate := false

def dlrCall (stat : String) : DlrCall where
  channelId := 7
  upstreamId := "abc"
  newStatus := finalStatus stat
  stat := stat
  err := "000"
  destAddr := ""
  sourceAddr := ""
  receiptedMessageId := "abc"
  fromFlush := false

/-- A late report with the stat ACCEPTD takes the status `delivered` back to `sent`. -/
theorem late_intermediate_report_downgrades :
    ∃ transitions last, Run (DlrStep .ascii (· == ·)) deliveredStore transitions last ∧
      last.db.smsLogs.map SmsLog.status = [.sent] ∧
      ¬∀ transition ∈ transitions, TerminalKept transition.before.db transition.after.db := by
  have step : DlrStep .ascii (· == ·) deliveredStore
      (.report (deliverSm "ACCEPTD") (dlrCall "ACCEPTD") noFaults 9)
      (processSmppDlr .ascii (· == ·) deliveredStore noFaults (dlrCall "ACCEPTD") 9).1 :=
    .report (by decide)
  have sent : (processSmppDlr .ascii (· == ·) deliveredStore noFaults (dlrCall "ACCEPTD")
      9).1.db.smsLogs.map SmsLog.status = [.sent] := by decide
  refine ⟨_, _, .cons step (.nil _), sent, ?_⟩
  intro kept
  have first := kept _ List.mem_cons_self
  simp only [TerminalKept] at first
  generalize (processSmppDlr .ascii (· == ·) deliveredStore noFaults (dlrCall "ACCEPTD")
    9).1.db.smsLogs = rows at sent first
  cases first with
  | cons same rest =>
      have unchanged := same.2 rfl
      cases rest
      simp [unchanged, deliveredSmsLog] at sent

/-- A repeated DELIVRD is no late intermediate report. -/
theorem dlr_terminal_absorbing_delivrd :
    TerminalKept deliveredStore.db
      (processSmppDlr .ascii (· == ·) deliveredStore noFaults (dlrCall "DELIVRD") 9).1.db := by
  have step : DlrStep .ascii (· == ·) deliveredStore
      (.report (deliverSm "DELIVRD") (dlrCall "DELIVRD") noFaults 9)
      (processSmppDlr .ascii (· == ·) deliveredStore noFaults (dlrCall "DELIVRD") 9).1 :=
    .report (by decide)
  refine (dlr_terminal_absorbing_iff (by decide) (.cons step (.nil _))).mpr ?_ _
    List.mem_cons_self
  intro transition member
  rw [List.mem_singleton.mp member]
  rintro ⟨call, faults, row, processed, _, intermediate, _⟩
  cases processed
  exact absurd intermediate (by decide)

end Klsmsc
