import Klsmsc.BatchWorker.Accounted
import Klsmsc.Chunk.OwnRoutes
import Klsmsc.Resend.AtMostOnce
import Klsmsc.Resend.OwnRoutes

/-!
# Messages of the batch worker and their own routes

The three ways in which the batch worker writes rows: chunks, retries as a new batch, and CSV
files, of which no row is written.
-/

namespace Klsmsc

open Library

/-- The messages of a chunk, and those of a retry, go the ways of their own channels exactly under
these conditions. A CSV file writes no rows. -/
theorem messages_ownRoutes_iff (env : ChunkEnv) (unicode : Unicode) (csvEnv : CsvEnv) :
    (∀ (input : ChunkInput) (db : Db) (result : ChunkResult) (after : ChunkState),
      (db.smsLogs.map SmsLog.id).Nodup → Function.Injective env.messageId →
        env.Routes db.channels →
          (∀ id channel, db.channels id = some channel → channel.id = id) →
            runChunk env .never input db = .ok result after →
              (OwnRoutes db.channels env.isSent
                  ((after.committed.smsLogs.drop db.smsLogs.length).map SmsLog.core) after.handed ↔
                input.IsOwn env db)) ∧
      (∀ (first last : Resend)
        (transitions : List (Transition Resend ResendLabel)) (channels : ℕ → Option Channel),
        Run (Resend.Step unicode) first transitions last → first.Unstarted →
          (∀ transition ∈ transitions, transition.label.IsPlain channels) →
            (∀ index < last.runCount, (last.runs index).stage = .ended) →
              (last.OwnRoutes channels ↔ last.OnKnownWays channels)) ∧
        ∀ (batchId : ℕ) (resume : Bool) (state : CsvState),
          (doProcessBatch csvEnv batchId resume state).1.db.smsLogs.length =
            state.db.smsLogs.length := by
  refine ⟨?_, ?_, ?_⟩
  · intro input db result after keyed unique routes named returned
    exact runChunk_ownRoutes_iff keyed unique routes named returned
  · intro first last transitions channels run unstarted plain ended
    exact Resend.resent_ownRoutes_iff run unstarted plain ended
  · intro batchId resume state
    have same := congrArg List.length (@batchId_doProcessBatch csvEnv batchId resume state)
    simpa using same

def mixedEnv : ChunkEnv :=
  { ChunkEnv.plain (.plain .http) 1 with
    parseNumber := fun number =>
      .ok ⟨⟨number, if number = "+12025550100" then "US" else "CN"⟩, true, true⟩
    selectChannel := fun countryCode _ _ =>
      .ok (some (if countryCode = "US" then ⟨1, .http, ""⟩ else ⟨2, .http, "node"⟩)) }

def mixedTables : Db :=
  { Db.plain 100 (.plain .http) [] with
    channels := fun id =>
      if id = 1 then some ⟨1, .http, ""⟩ else if id = 2 then some ⟨2, .http, "node"⟩ else none }

def mixedChunk : ChunkInput :=
  .plain ["+12025550100", "+8613800138000"] none

def virtualSeven (id : ℕ) : Option Channel :=
  if id = 7 then some ⟨7, .virtual, ""⟩ else none

def resendOn (channel : Channel) : List ResendLabel :=
  [.start, .scan 0, .row 0 (some (some channel)), .charge 0 (.priced ⟨1, 1, 1, "USD"⟩),
    .row 0 none, .scan 0, .commit 0 .done, .log 0 true, .queue 0 1 none, .annotate 0 .done,
    .finish 0 .processing none]

/-- The message for the plain HTTP channel goes to the node, because the last item of the slice
does, and a message that is resent on a virtual channel goes to the task for HTTP channels. -/
theorem messages_leave_own_routes :
    (∃ result after, runChunk mixedEnv .never mixedChunk mixedTables = .ok result after ∧
      ¬OwnRoutes mixedTables.channels mixedEnv.isSent
        (after.committed.smsLogs.map SmsLog.core) after.handed) ∧
      ∃ transitions last, Run (Resend.Step .ascii) Resend.failedOne transitions last ∧
        (∀ index < last.runCount, (last.runs index).stage = .ended) ∧
          ¬last.OwnRoutes virtualSeven := by
  constructor
  · have passed : (match runChunk mixedEnv .never mixedChunk mixedTables with
      | .ok _ after => decide (
          (after.committed.smsLogs.map fun row => (row.messageId, row.channelId)) =
            [(2, some 1), (127, some 2)] ∧ (2, Route.nodeTask) ∈ after.handed)
      | .error _ _ => false) = true := by
      decide
    cases ended : runChunk mixedEnv .never mixedChunk mixedTables with
    | error raised after => simp [ended] at passed
    | ok result after =>
        rw [ended] at passed
        rcases of_decide_eq_true passed with ⟨rows, toNode⟩
        refine ⟨result, after, rfl, ?_⟩
        intro own
        have first : (2, some 1) ∈
            after.committed.smsLogs.map fun row => (row.messageId, row.channelId) := by
          rw [rows]
          exact List.mem_cons_self
        rcases List.mem_map.mp first with ⟨row, member, same⟩
        simp only [Prod.mk.injEq] at same
        rcases own row.core (List.mem_map_of_mem member)
          ⟨.written 0 0 0, rfl, same.1.symm⟩ with ⟨channelId, channel, isId, isChannel, ways⟩
        have isFirst : channelId = 1 := by
          have known : row.channelId = some channelId := isId
          rw [same.2, Option.some.injEq] at known
          exact known.symm
        subst isFirst
        cases isChannel
        have wrong := (ways .nodeTask).mp (by
          change (row.messageId, Route.nodeTask) ∈ after.handed
          rw [same.1]
          exact toNode)
        exact absurd wrong (by decide)
  · have passed : (execute (Resend.next .ascii) Resend.failedOne
        (resendOn ⟨7, .virtual, ""⟩)).any (fun outcome => decide (
          outcome.2.rows.map (fun row => (row.messageId, row.channelId)) = [(1, 7)] ∧
            outcome.2.handed = [(1, .smsSend)] ∧
              ∀ index < outcome.2.runCount, (outcome.2.runs index).stage = .ended)) = true := by
      decide +kernel
    rcases Run.exists_of_execute _ passed with ⟨transitions, last, run, checked⟩
    rcases of_decide_eq_true checked with ⟨rows, handed, ended⟩
    refine ⟨transitions, last, run, ended, ?_⟩
    intro own
    have first : (1, 7) ∈ last.rows.map fun row => (row.messageId, row.channelId) := by
      rw [rows]
      exact List.mem_cons_self
    rcases List.mem_map.mp first with ⟨row, member, same⟩
    simp only [Prod.mk.injEq] at same
    rcases own row member with ⟨channel, isChannel, ways⟩
    rw [same.2] at isChannel
    cases isChannel
    have sent : (row.messageId, Route.smsSend) ∈ last.handed := by
      rw [handed, same.1]
      exact List.mem_cons_self
    exact absurd ((ways .smsSend).mp sent) (by decide)

def smppEnv : ChunkEnv :=
  { ChunkEnv.plain (.plain .smpp) 1 with messageId := pairedId }

/-- The number goes to the gateway, as it does when it is resent on an SMPP channel. -/
theorem messages_ownRoutes_iff_smpp :
    (∃ result after,
      runChunk smppEnv .never (.plain ["+8613800138000"] none) (.plain 100 (.plain .smpp) []) =
        .ok result after ∧
      (OwnRoutes (Db.plain 100 (.plain .smpp) []).channels smppEnv.isSent
          ((after.committed.smsLogs.drop 0).map SmsLog.core) after.handed ↔
        (ChunkInput.plain ["+8613800138000"] none).IsOwn smppEnv (.plain 100 (.plain .smpp) []))) ∧
      ∃ transitions last, Run (Resend.Step .ascii) Resend.failedOne transitions last ∧
        last.rows.length = 1 ∧
          (last.OwnRoutes (fun _ => some ⟨7, .smpp, ""⟩) ↔
            last.OnKnownWays fun _ => some ⟨7, .smpp, ""⟩) := by
  constructor
  · have returns : (match runChunk smppEnv .never (.plain ["+8613800138000"] none)
        (.plain 100 (.plain .smpp) []) with
      | .ok _ _ => true
      | .error _ _ => false) = true := by
      decide
    cases ended : runChunk smppEnv .never (.plain ["+8613800138000"] none)
      (.plain 100 (.plain .smpp) []) with
    | error raised after => simp [ended] at returns
    | ok result after =>
        refine ⟨result, after, rfl, (messages_ownRoutes_iff smppEnv .ascii csvPlain).1 _ _ result
          after (by decide) pairedId_injective ?_ ?_ ended⟩
        · intro countryCode preferred accountId channel routed
          cases routed
          rfl
        · intro id channel found
          simp only [Db.plain, Option.ite_none_right_eq_some, Option.some.injEq] at found
          rw [← found.2]
          exact found.1.symm
  · have sent := Run.exists_labels_of_execute
      (fun state : Resend => state.rows.length = 1 ∧
        ∀ index < state.runCount, (state.runs index).stage = .ended)
      (show ((execute (Resend.next .ascii) Resend.failedOne
        (resendOn ⟨7, .smpp, ""⟩)).any _) = true by decide +kernel)
    rcases sent with ⟨transitions, last, run, labels, one, ended⟩
    refine ⟨transitions, last, run, one,
      (messages_ownRoutes_iff smppEnv .ascii csvPlain).2.1 _ last transitions _ run
        ⟨rfl, rfl, fun _ => rfl⟩ ?_ ended⟩
    intro transition member
    have label := labels transition member
    simp only [resendOn, List.mem_cons, List.not_mem_nil, or_false] at label
    rcases label with label | label | label | label | label | label | label | label | label |
      label | label <;> rw [label]
    case' inr.inr.inl => exact ⟨trivial, rfl⟩
    case' inr.inr.inr.inl => exact ⟨nofun, trivial⟩
    all_goals first
      | exact ⟨trivial, trivial⟩
      | exact ⟨rfl, trivial⟩

end Klsmsc
