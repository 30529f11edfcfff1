import Klsmsc.Dlr.Absorbing

/-!
# Terminal reports and the short circuits

Two keys answer a report before the database is asked. The key `dlr_seen` is set
once a row has the status of the report or another terminal one. The key
`dlr_unmatched` only says that some report for the upstream id matched no row, and
`buffer_unmatched_dlr` keeps the first report for a field, whatever its status. A
terminal report is therefore lost when it meets `dlr_unmatched` while the row has no
terminal status and no terminal report is buffered, and in no other way as long as
no late intermediate report takes a terminal status back.
-/

namespace Klsmsc

open Library

/-- A report for the worker, the replay of a buffered report, the expiry of Redis
keys, or a change of the tables by another writer, such as the one that makes the
row of a message visible. -/
inductive ReceiptEvent where
  | report (call : DlrCall) (faults : DlrFaults) (now : ℕ)
  | flush (call : DlrCall) (faults : DlrFaults) (now : ℕ)
  | expire
  | others
  deriving DecidableEq, Repr

def ReceiptEvent.processed : ReceiptEvent → Option (DlrCall × DlrFaults × ℕ)
  | report call faults now => some ({ call with fromFlush := false }, faults, now)
  | flush call faults now => some ({ call with fromFlush := true }, faults, now)
  | expire => none
  | others => none

def RowTerminal (rowId : ℕ) (db : Db) : Prop :=
  ∃ row ∈ db.smsLogs, row.id = rowId ∧ row.status.isTerminal = true

def RowHas (rowId : ℕ) (status : SmsStatus) (db : Db) : Prop :=
  ∃ row ∈ db.smsLogs, row.id = rowId ∧ row.status = status

instance (rowId : ℕ) (db : Db) : Decidable (RowTerminal rowId db) :=
  inferInstanceAs (Decidable (∃ row ∈ db.smsLogs, _))

instance (rowId : ℕ) (status : SmsStatus) (db : Db) : Decidable (RowHas rowId status db) :=
  inferInstanceAs (Decidable (∃ row ∈ db.smsLogs, _))

def BufferTerminal (channelId : ℕ) (upstreamId : String) (redis : DlrRedis) : Prop :=
  ∃ entry ∈ redis.pendingRetry, entry.channelId = channelId ∧ entry.upstreamId = upstreamId ∧
    entry.newStatus.isTerminal = true

instance (channelId : ℕ) (upstreamId : String) (redis : DlrRedis) :
    Decidable (BufferTerminal channelId upstreamId redis) :=
  inferInstanceAs (Decidable (∃ entry ∈ redis.pendingRetry, _))

theorem RowHas.terminal {rowId : ℕ} {status : SmsStatus} {db : Db} (has : RowHas rowId status db)
    (terminal : status.isTerminal = true) : RowTerminal rowId db := by
  rcases has with ⟨row, member, isRow, rfl⟩
  exact ⟨row, member, isRow, terminal⟩

section

variable (unicode : Unicode) (sqlEq : String → String → Bool)

/-- Reports arrive in any order, buffered ones are replayed, Redis forgets keys, and
other writers change rows without a terminal status. -/
inductive ReceiptStep : DlrStore → ReceiptEvent → DlrStore → Prop where
  | report {store : DlrStore} {call : DlrCall} {faults : DlrFaults} {now : ℕ} :
      ReceiptStep store (.report call faults now)
        (processSmppDlr unicode sqlEq store faults { call with fromFlush := false } now).1
  | flush {store : DlrStore} {call : DlrCall} {faults : DlrFaults} {now : ℕ}
      (buffered : call ∈ store.redis.pendingRetry) :
      ReceiptStep store (.flush call faults now)
        (flushReport unicode sqlEq store faults call now)
  | expire {store : DlrStore} {redis : DlrRedis}
      (seen : redis.seen.Sublist store.redis.seen)
      (unmatched : redis.unmatched.Sublist store.redis.unmatched)
      (effects : redis.effects.Sublist store.redis.effects)
      (pendingRetry : redis.pendingRetry.Sublist store.redis.pendingRetry) :
      ReceiptStep store .expire { store with redis := redis }
  | others {store : DlrStore} {db : Db} (keyed : (db.smsLogs.map SmsLog.id).Nodup)
      (kept : ∀ rowId, RowTerminal rowId store.db → RowTerminal rowId db) :
      ReceiptStep store .others { store with db := db }

def LateReport (store : DlrStore) (event : ReceiptEvent) : Prop :=
  ∃ call faults now row, event.processed = some (call, faults, now) ∧
    shortCircuited unicode store.redis faults call = false ∧
    call.newStatus.isTerminal = false ∧
    matchSmsLog unicode sqlEq store.db call = some row ∧ row.status.isTerminal = true

def SameKey (channelId : ℕ) (upstreamId : String) (call : DlrCall) : Prop :=
  call.channelId = channelId ∧ strip unicode call.upstreamId = strip unicode upstreamId

def MatchesRow (channelId : ℕ) (upstreamId : String) (rowId : ℕ) (store : DlrStore)
    (event : ReceiptEvent) : Prop :=
  ∀ call faults now row, event.processed = some (call, faults, now) →
    SameKey unicode channelId upstreamId call →
    matchSmsLog unicode sqlEq store.db call = some row → row.id = rowId

/-- If the worker answers `True` to a terminal report for the upstream id, then its
status stands in the row, or the row had a terminal status already, or the buffer
holds a terminal report for the same field. -/
def ReceiptKept (channelId : ℕ) (upstreamId : String) (rowId : ℕ) (before : DlrStore)
    (event : ReceiptEvent) (_after : DlrStore) : Prop :=
  ∀ call faults now, event.processed = some (call, faults, now) →
    call.channelId = channelId → call.upstreamId = upstreamId →
    call.newStatus.isTerminal = true →
    let outcome := processSmppDlr unicode sqlEq before faults call now
    outcome.2.matched = true →
      RowHas rowId call.newStatus outcome.1.db ∨ RowTerminal rowId before.db ∨
        BufferTerminal channelId upstreamId outcome.1.redis

/-- A terminal report for the upstream id meets `dlr_unmatched`, but not its own
`dlr_seen`, while the row has no terminal status and the buffer no terminal report. -/
def Swallowed (channelId : ℕ) (upstreamId : String) (rowId : ℕ) (store : DlrStore)
    (event : ReceiptEvent) : Prop :=
  ∃ call faults now, event = .report call faults now ∧
    call.channelId = channelId ∧ call.upstreamId = upstreamId ∧ upstreamId ≠ "" ∧
    call.newStatus.isTerminal = true ∧
    (faults.seenRead = true ∨
      (channelId, strip unicode upstreamId, call.newStatus) ∉ store.redis.seen) ∧
    faults.unmatchedRead = false ∧
    (channelId, strip unicode upstreamId) ∈ store.redis.unmatched ∧
    ¬RowTerminal rowId store.db ∧ ¬BufferTerminal channelId upstreamId store.redis

/-- The keys `dlr_seen` of the upstream id stand for a row with a terminal status. -/
def SeenSettled (channelId : ℕ) (upstreamId : String) (rowId : ℕ) (store : DlrStore) : Prop :=
  ∀ status, (channelId, strip unicode upstreamId, status) ∈ store.redis.seen →
    RowTerminal rowId store.db

variable {unicode sqlEq}

theorem TerminalKept.rowTerminal {before after : Db} (kept : TerminalKept before after)
    {rowId : ℕ} (terminal : RowTerminal rowId before) : RowTerminal rowId after := by
  rcases terminal with ⟨row, member, isRow, isTerminal⟩
  rcases List.mem_iff_getElem.mp member with ⟨index, inside, rfl⟩
  have same := List.forall₂_iff_get.mp kept
  have insideAfter : index < after.smsLogs.length := by
    rw [← same.1]
    exact inside
  have pair := same.2 index inside insideAfter
  simp only [List.get_eq_getElem] at pair
  refine ⟨after.smsLogs[index], List.getElem_mem insideAfter, ?_, ?_⟩
  · rw [pair.1]
    exact isRow
  · rw [pair.2 isTerminal]
    exact isTerminal

theorem processSmppDlr_row {store : DlrStore} {faults : DlrFaults} {call : DlrCall} {now : ℕ}
    {row : SmsLog} (through : shortCircuited unicode store.redis faults call = false)
    (found : matchSmsLog unicode sqlEq store.db call = some row) :
    RowHas row.id call.newStatus (processSmppDlr unicode sqlEq store faults call now).1.db ∨
      RowTerminal row.id store.db ∧
        (processSmppDlr unicode sqlEq store faults call now).1.db = store.db := by
  have member := matchSmsLog_mem found
  rw [processSmppDlr_db]
  cases target : dlrTarget unicode sqlEq store faults call with
  | none =>
      simp only [dlrTarget, through, found, Bool.false_eq_true, if_false,
        Option.filter_eq_none_iff, Option.some.injEq, forall_eq'] at target
      by_cases same : row.status = call.newStatus
      · exact Or.inl ⟨row, member, rfl, same⟩
      · right
        refine ⟨⟨row, member, rfl, ?_⟩, rfl⟩
        simp only [same, ne_eq, not_false_eq_true, decide_true, Bool.true_and,
          Bool.not_eq_true, Bool.not_eq_false', Bool.and_eq_true] at target
        exact target.1
  | some written =>
      have isRow : written = row := by
        simp only [dlrTarget, through, found, Bool.false_eq_true, if_false,
          Option.filter_eq_some_iff, Option.some.injEq] at target
        exact target.1.symm
      subst written
      left
      refine ⟨row.withDlr unicode call now, ?_, rfl, rfl⟩
      simp only [Db.updateSmsLogs_smsLogs, List.mem_map]
      exact ⟨row, member, by simp⟩

theorem processSmppDlr_rowTerminal {store : DlrStore} {faults : DlrFaults} {call : DlrCall}
    {now : ℕ} {row : SmsLog} (through : shortCircuited unicode store.redis faults call = false)
    (found : matchSmsLog unicode sqlEq store.db call = some row)
    (terminal : call.newStatus.isTerminal = true) :
    RowTerminal row.id (processSmppDlr unicode sqlEq store faults call now).1.db := by
  rcases @processSmppDlr_row unicode sqlEq store faults call now row through found with
    written | ⟨old, unchanged⟩
  · exact written.terminal terminal
  · rw [unchanged]
    exact old

theorem mem_seen_of_markSeen {redis : DlrRedis} {faults : DlrFaults} {call : DlrCall}
    {key : ℕ × String × SmsStatus} (member : key ∈ (markSeen unicode redis faults call).seen) :
    key ∈ redis.seen ∨ seenKey unicode call = some key := by
  unfold markSeen at member
  split at member
  · exact Or.inl member
  · simp only [List.mem_append, Option.mem_toList] at member
    exact member.symm

theorem mem_seen_of_processSmppDlr {store : DlrStore} {faults : DlrFaults} {call : DlrCall}
    {now : ℕ} {key : ℕ × String × SmsStatus}
    (member : key ∈ (processSmppDlr unicode sqlEq store faults call now).1.redis.seen) :
    key ∈ store.redis.seen ∨
      seenKey unicode call = some key ∧
        shortCircuited unicode store.redis faults call = false ∧
        ∃ row, matchSmsLog unicode sqlEq store.db call = some row := by
  unfold processSmppDlr at member
  split at member
  · exact Or.inl member
  · rename_i through
    split at member
    · exact Or.inl member
    · rename_i row found
      have marked : key ∈ store.redis.seen ∨ seenKey unicode call = some key := by
        split at member
        · exact mem_seen_of_markSeen member
        · have marked := mem_seen_of_markSeen member
          exact marked
      rcases marked with old | new
      · exact Or.inl old
      · exact Or.inr ⟨new, by simpa using through, row, found⟩

theorem ReceiptStep.processed_db {before after : DlrStore} {event : ReceiptEvent}
    (step : ReceiptStep unicode sqlEq before event after) {call : DlrCall} {faults : DlrFaults}
    {now : ℕ} (processed : event.processed = some (call, faults, now)) :
    after.db = (processSmppDlr unicode sqlEq before faults call now).1.db ∧
      after.redis.seen = (processSmppDlr unicode sqlEq before faults call now).1.redis.seen := by
  cases step with
  | report =>
      cases processed
      exact ⟨rfl, rfl⟩
  | flush buffered =>
      cases processed
      refine ⟨flushReport_db _ _ _ _, ?_⟩
      unfold flushReport
      simp only
      split <;> rfl
  | expire seen unmatched effects pendingRetry => cases processed
  | others keyed kept => cases processed

theorem ReceiptStep.rowTerminal {before after : DlrStore} {event : ReceiptEvent}
    (step : ReceiptStep unicode sqlEq before event after)
    (keyed : (before.db.smsLogs.map SmsLog.id).Nodup)
    (inTime : ¬LateReport unicode sqlEq before event) {rowId : ℕ}
    (terminal : RowTerminal rowId before.db) : RowTerminal rowId after.db := by
  cases processed : event.processed with
  | none =>
      cases step with
      | report => cases processed
      | flush buffered => cases processed
      | expire seen unmatched effects pendingRetry => exact terminal
      | others keyed kept => exact kept rowId terminal
  | some arguments =>
      rcases arguments with ⟨call, faults, now⟩
      rw [(step.processed_db processed).1]
      refine TerminalKept.rowTerminal ((terminalKept_process_iff keyed faults call now).mpr ?_)
        terminal
      rw [dlrTarget_isTerminal]
      rintro ⟨through, intermediate, row, found, isTerminal⟩
      exact inTime ⟨call, faults, now, row, processed, through, intermediate, found, isTerminal⟩

theorem ReceiptStep.keyed {before after : DlrStore} {event : ReceiptEvent}
    (step : ReceiptStep unicode sqlEq before event after)
    (keyed : (before.db.smsLogs.map SmsLog.id).Nodup) :
    (after.db.smsLogs.map SmsLog.id).Nodup := by
  cases processed : event.processed with
  | none =>
      cases step with
      | report => cases processed
      | flush buffered => cases processed
      | expire seen unmatched effects pendingRetry => exact keyed
      | others keyed kept => exact keyed
  | some arguments =>
      rcases arguments with ⟨call, faults, now⟩
      rw [(step.processed_db processed).1, processSmppDlr_ids]
      exact keyed

theorem isTerminal_of_seenKey {call : DlrCall} {key : ℕ × String × SmsStatus}
    (isKey : seenKey unicode call = some key) :
    call.newStatus.isTerminal = true ∧
      key = (call.channelId, strip unicode call.upstreamId, call.newStatus) := by
  unfold seenKey at isKey
  split at isKey
  · rename_i named
    cases isKey
    exact ⟨named.2, rfl⟩
  · cases isKey

section

variable {channelId : ℕ} {upstreamId : String} {rowId : ℕ}

theorem SeenSettled.step {before after : DlrStore} {event : ReceiptEvent}
    (settled : SeenSettled unicode channelId upstreamId rowId before)
    (step : ReceiptStep unicode sqlEq before event after)
    (keyed : (before.db.smsLogs.map SmsLog.id).Nodup)
    (inTime : ¬LateReport unicode sqlEq before event)
    (one : MatchesRow unicode sqlEq channelId upstreamId rowId before event) :
    SeenSettled unicode channelId upstreamId rowId after := by
  intro status member
  cases processed : event.processed with
  | none =>
      refine step.rowTerminal keyed inTime (settled status ?_)
      cases step with
      | report => cases processed
      | flush buffered => cases processed
      | expire seen unmatched effects pendingRetry => exact seen.subset member
      | others keyed kept => exact member
  | some arguments =>
      rcases arguments with ⟨call, faults, now⟩
      rw [(step.processed_db processed).2] at member
      rcases mem_seen_of_processSmppDlr member with old | ⟨isKey, through, row, found⟩
      · exact step.rowTerminal keyed inTime (settled status old)
      · rcases isTerminal_of_seenKey isKey with ⟨terminal, equal⟩
        simp only [Prod.mk.injEq] at equal
        have isRow := one call faults now row processed ⟨equal.1.symm, equal.2.1.symm⟩ found
        rw [(step.processed_db processed).1, ← isRow]
        exact processSmppDlr_rowTerminal through found terminal

theorem shortCircuited_cases {store : DlrStore} {faults : DlrFaults} {call : DlrCall}
    (short : shortCircuited unicode store.redis faults call = true)
    (terminal : call.newStatus.isTerminal = true) :
    (faults.seenRead = false ∧
        (call.channelId, strip unicode call.upstreamId, call.newStatus) ∈ store.redis.seen) ∨
      call.upstreamId ≠ "" ∧ call.fromFlush = false ∧ faults.unmatchedRead = false ∧
        (call.channelId, strip unicode call.upstreamId) ∈ store.redis.unmatched := by
  by_cases named : call.upstreamId = ""
  · simp [shortCircuited, seenKey, unmatchedKey, named] at short
  · simp only [shortCircuited, seenKey, unmatchedKey, named, ne_eq, not_false_eq_true, terminal,
      and_self, if_true, Option.any_some, Bool.or_eq_true, Bool.and_eq_true,
      Bool.not_eq_true', List.contains_iff_mem] at short
    rcases short with seen | unmatched
    · exact Or.inl seen
    · exact Or.inr ⟨named, unmatched.1.1, unmatched.1.2, unmatched.2⟩

theorem processSmppDlr_of_shortCircuited {store : DlrStore} {faults : DlrFaults} {call : DlrCall}
    {now : ℕ} (short : shortCircuited unicode store.redis faults call = true) :
    processSmppDlr unicode sqlEq store faults call now = (store, ⟨true, false⟩) := by
  simp [processSmppDlr, short]

theorem receiptKept_of_not_swallowed {before after : DlrStore} {event : ReceiptEvent}
    (settled : SeenSettled unicode channelId upstreamId rowId before)
    (one : MatchesRow unicode sqlEq channelId upstreamId rowId before event)
    (passed : ¬Swallowed unicode channelId upstreamId rowId before event) :
    ReceiptKept unicode sqlEq channelId upstreamId rowId before event after := by
  rintro call faults now processed rfl rfl terminal outcome matched
  by_cases short : shortCircuited unicode before.redis faults call = true
  · have unchanged : outcome = (before, ⟨true, false⟩) := processSmppDlr_of_shortCircuited short
    by_cases settledRow : RowTerminal rowId before.db
    · exact Or.inr (Or.inl settledRow)
    · have unseen :
          (call.channelId, strip unicode call.upstreamId, call.newStatus) ∉ before.redis.seen :=
        fun seen => settledRow (settled call.newStatus seen)
      rcases shortCircuited_cases short terminal with ⟨_, seen⟩ | ⟨named, live, readable, unmatched⟩
      · exact absurd seen unseen
      · right
        right
        rw [unchanged]
        by_contra empty
        apply passed
        cases event with
        | report reported reportedFaults reportedNow =>
            cases processed
            exact ⟨reported, faults, now, rfl, rfl, rfl, named, terminal, Or.inr unseen,
              readable, unmatched, settledRow, empty⟩
        | flush replayed replayedFaults replayedNow =>
            cases processed
            cases live
        | expire => cases processed
        | others => cases processed
  · have through : shortCircuited unicode before.redis faults call = false := by
      simpa using short
    cases found : matchSmsLog unicode sqlEq before.db call with
    | none =>
        have unmatched : outcome.2.matched = false := by
          simp [outcome, processSmppDlr, through, found]
        rw [unmatched] at matched
        cases matched
    | some row =>
        have isRow := one call faults now row processed ⟨rfl, rfl⟩ found
        subst rowId
        rcases @processSmppDlr_row unicode sqlEq before faults call now row through found with
          written | ⟨old, _⟩
        · exact Or.inl written
        · exact Or.inr (Or.inl old)

theorem not_receiptKept_of_swallowed {before after : DlrStore} {event : ReceiptEvent}
    (swallowed : Swallowed unicode channelId upstreamId rowId before event) :
    ¬ReceiptKept unicode sqlEq channelId upstreamId rowId before event after := by
  rcases swallowed with ⟨call, faults, now, rfl, rfl, rfl, named, terminal, _, readable, unmatched,
    openRow, empty⟩
  intro kept
  have short : shortCircuited unicode before.redis faults { call with fromFlush := false } =
      true := by
    simp only [shortCircuited, unmatchedKey, named, ne_eq, not_false_eq_true, if_true,
      Option.any_some, Bool.or_eq_true, Bool.and_eq_true, Bool.not_eq_true',
      List.contains_iff_mem]
    exact Or.inr ⟨⟨trivial, readable⟩, unmatched⟩
  have found := kept _ faults now rfl rfl rfl terminal
  simp only [processSmppDlr_of_shortCircuited short] at found
  rcases found trivial with written | old | buffered
  · exact openRow (written.terminal terminal)
  · exact openRow old
  · exact empty buffered

theorem receiptKept_iff {before after : DlrStore} {event : ReceiptEvent}
    (settled : SeenSettled unicode channelId upstreamId rowId before)
    (one : MatchesRow unicode sqlEq channelId upstreamId rowId before event) :
    ReceiptKept unicode sqlEq channelId upstreamId rowId before event after ↔
      ¬Swallowed unicode channelId upstreamId rowId before event :=
  ⟨fun kept swallowed => not_receiptKept_of_swallowed swallowed kept,
    receiptKept_of_not_swallowed settled one⟩

/-- In a run without late reports, in which the reports for an upstream id find no row but
one, every terminal report for it is kept if and only if none meets `dlr_unmatched` while the
row has no terminal status and the buffer no terminal report. -/
theorem receipts_kept_iff {first last : DlrStore}
    {transitions : List (Transition DlrStore ReceiptEvent)}
    (keyed : (first.db.smsLogs.map SmsLog.id).Nodup)
    (unseen : ∀ status, (channelId, strip unicode upstreamId, status) ∉ first.redis.seen)
    (run : Run (ReceiptStep unicode sqlEq) first transitions last)
    (one : ∀ transition ∈ transitions,
      MatchesRow unicode sqlEq channelId upstreamId rowId transition.before transition.label)
    (inTime : ∀ transition ∈ transitions,
      ¬LateReport unicode sqlEq transition.before transition.label) :
    (∀ transition ∈ transitions, ReceiptKept unicode sqlEq channelId upstreamId rowId
        transition.before transition.label transition.after) ↔
      ∀ transition ∈ transitions,
        ¬Swallowed unicode channelId upstreamId rowId transition.before transition.label := by
  have met : ∀ transition ∈ transitions,
      MatchesRow unicode sqlEq channelId upstreamId rowId transition.before transition.label ∧
        ¬LateReport unicode sqlEq transition.before transition.label :=
    fun transition member => ⟨one transition member, inTime transition member⟩
  have preserved : ∀ before event after,
      ReceiptStep unicode sqlEq before event after ∧
          (MatchesRow unicode sqlEq channelId upstreamId rowId before event ∧
            ¬LateReport unicode sqlEq before event) →
        (before.db.smsLogs.map SmsLog.id).Nodup ∧
            SeenSettled unicode channelId upstreamId rowId before →
          (after.db.smsLogs.map SmsLog.id).Nodup ∧
            SeenSettled unicode channelId upstreamId rowId after := by
    rintro before event after ⟨step, one, inTime⟩ ⟨keyed, settled⟩
    exact ⟨step.keyed keyed, settled.step step keyed inTime one⟩
  have agree : ∀ before event after,
      ReceiptStep unicode sqlEq before event after ∧
          (MatchesRow unicode sqlEq channelId upstreamId rowId before event ∧
            ¬LateReport unicode sqlEq before event) →
        (before.db.smsLogs.map SmsLog.id).Nodup ∧
            SeenSettled unicode channelId upstreamId rowId before →
          (ReceiptKept unicode sqlEq channelId upstreamId rowId before event after ↔
            ¬Swallowed unicode channelId upstreamId rowId before event) := by
    rintro before event after ⟨step, one, inTime⟩ ⟨keyed, settled⟩
    exact receiptKept_iff settled one
  refine (Run.guarded run met).forall_iff preserved agree ⟨keyed, ?_⟩
  intro status member
  exact absurd member (unseen status)

end

end

/-- The row of `deliveredSmsLog` before its submit result is written back. -/
def hiddenSmsLog : SmsLog :=
  { deliveredSmsLog with upstreamMessageId := none, status := .queued, deliveryTime := none }

def receiptDb (row : SmsLog) : Db :=
  { deliveredStore.db with smsLogs := [row] }

def hiddenStore : DlrStore where
  db := receiptDb hiddenSmsLog
  redis := ⟨[], [], [], []⟩

def bufferedStore (stat : String) : DlrStore :=
  { hiddenStore with redis := ⟨[], [(7, "abc")], [], [dlrCall stat]⟩ }

def visibleStore (stat : String) : DlrStore :=
  { bufferedStore stat with
    db := receiptDb { hiddenSmsLog with upstreamMessageId := some "abc", status := .sent } }

theorem not_rowTerminal_hidden (rowId : ℕ) : ¬RowTerminal rowId hiddenStore.db := by
  simp [RowTerminal, hiddenStore, receiptDb, hiddenSmsLog, SmsStatus.isTerminal]

/-- The first report is intermediate and is buffered; the terminal report behind it meets
`dlr_unmatched` and is answered with `True`. When the row becomes visible, the buffer
replays the intermediate report, and nothing is left of the terminal one. -/
theorem terminal_receipt_swallowed :
    ∃ transitions last,
      Run (ReceiptStep .ascii (· == ·)) hiddenStore transitions last ∧
        last.db.smsLogs.map SmsLog.status = [.sent] ∧ last.redis.pendingRetry = [] ∧
        ¬∀ transition ∈ transitions, ReceiptKept .ascii (· == ·) 7 "abc" 1
          transition.before transition.label transition.after := by
  have first : ReceiptStep .ascii (· == ·) hiddenStore
      (.report (dlrCall "ACCEPTD") noFaults 5) (bufferedStore "ACCEPTD") :=
    .report
  have second : ReceiptStep .ascii (· == ·) (bufferedStore "ACCEPTD")
      (.report (dlrCall "DELIVRD") noFaults 6) (bufferedStore "ACCEPTD") :=
    .report
  have third : ReceiptStep .ascii (· == ·) (bufferedStore "ACCEPTD") .others
      (visibleStore "ACCEPTD") :=
    .others (by decide) fun rowId terminal => absurd terminal (not_rowTerminal_hidden rowId)
  have fourth : ReceiptStep .ascii (· == ·) (visibleStore "ACCEPTD")
      (.flush (dlrCall "ACCEPTD") noFaults 8)
      (flushReport .ascii (· == ·) (visibleStore "ACCEPTD") noFaults (dlrCall "ACCEPTD") 8) :=
    .flush (by decide)
  refine ⟨_, _, .cons first (.cons second (.cons third (.cons fourth (.nil _)))), by decide,
    by decide, ?_⟩
  intro kept
  refine not_receiptKept_of_swallowed ?_
    (kept _ (List.mem_cons_of_mem _ List.mem_cons_self))
  exact ⟨dlrCall "DELIVRD", noFaults, 6, rfl, rfl, rfl, by decide, rfl, Or.inr (by decide), rfl,
    by decide, not_rowTerminal_hidden 1, by decide⟩

/-- A repeated DELIVRD meets `dlr_unmatched` too, but the first one is buffered. -/
theorem receipts_kept_delivrd :
    ReceiptKept .ascii (· == ·) 7 "abc" 1 (bufferedStore "DELIVRD")
      (.report (dlrCall "DELIVRD") noFaults 6) (bufferedStore "DELIVRD") := by
  have step : ReceiptStep .ascii (· == ·) (bufferedStore "DELIVRD")
      (.report (dlrCall "DELIVRD") noFaults 6) (bufferedStore "DELIVRD") :=
    .report
  refine (receipts_kept_iff (by decide) (by simp [bufferedStore]) (.cons step (.nil _))
    ?_ ?_).mpr ?_ _ List.mem_cons_self
  · intro transition member call faults now row processed _ found
    rw [List.mem_singleton.mp member] at processed found
    cases processed
    have unmatched : matchSmsLog .ascii (· == ·) (bufferedStore "DELIVRD").db
        (dlrCall "DELIVRD") = none := by decide
    cases found.symm.trans unmatched
  · intro transition member
    rw [List.mem_singleton.mp member]
    rintro ⟨call, faults, now, row, processed, _, intermediate, _⟩
    cases processed
    exact absurd intermediate (by decide)
  · intro transition member
    rw [List.mem_singleton.mp member]
    rintro ⟨_, _, _, _, _, _, _, _, _, _, _, _, empty⟩
    exact empty (by decide)

end Klsmsc
