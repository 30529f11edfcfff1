import Klsmsc.Dispatch
import Klsmsc.Resend

/-!
# The routes of resent messages

An execution hands over what it has collected before it goes on with another channel, so a
commit batch is handed over for the channel of each of its rows. For virtual channels
`_queue_commit_batch` knows no way of their own: it takes that of the HTTP channels.
-/

namespace Klsmsc

open Library

def ResendLabel.IsUndisturbed : ResendLabel → Prop
  | .charge _ answer => ∀ text, answer ≠ .raises text
  | .commit _ outcome => outcome = .done
  | .queue _ _ raised => raised = none
  | .annotate _ outcome => outcome = .done
  | .finish _ _ raised => raised = none
  | .handle _ _ => False
  | .raises _ _ => False
  | .kill _ => False
  | _ => True

def ResendLabel.Routes (fits : Channel → Prop) : ResendLabel → Prop
  | .row _ (some (some channel)) => fits channel
  | _ => True

def AfterFlush.Fits (fits : Channel → Prop) : AfterFlush → Prop
  | .charge _ channel => fits channel
  | _ => True

def ResendRun.waiting (run : ResendRun) : List ResentRow :=
  match run.stage with
  | .logging _ _ => run.commitBatch
  | .queueing _ _ => run.commitBatch
  | _ => []

structure OneChannel (fits : Channel → Prop) (run : ResendRun) : Prop where
  cache : ∀ entry ∈ run.routeCache, ∀ channel, entry.2 = some channel → fits channel
  current : ∀ channel, run.chunkChannel = some channel → fits channel
  collected : ∀ row ∈ run.commitBatch, ∃ channel, run.chunkChannel = some channel ∧
    row.channelId = channel.id

/-- What an execution has collected is pending, or committed from `_flush` on. -/
def StageRoutes (fits : Channel → Prop) (rows : List ResentRow) (run : ResendRun) : Prop :=
  match run.stage with
  | .scanning => run.pending = run.commitBatch
  | .rows => run.pending = run.commitBatch
  | .charging _ channel => run.chunkChannel = some channel ∧ run.pending = run.commitBatch
  | .committing channel next =>
      run.chunkChannel = some channel ∧ next.Fits fits ∧ run.pending = run.commitBatch
  | .logging channel next =>
      run.chunkChannel = some channel ∧ next.Fits fits ∧ run.pending = [] ∧
        ∀ row ∈ run.commitBatch, row ∈ rows
  | .queueing channel next =>
      run.chunkChannel = some channel ∧ next.Fits fits ∧ run.pending = [] ∧
        ∀ row ∈ run.commitBatch, row ∈ rows
  | .annotating next => next.Fits fits ∧ run.pending = []
  | _ => True

/-- The ids of all rows are different, and those from `next` on are free. -/
structure Numbered (next : MessageId) (rows : List ResentRow) (pending : ℕ → List ResentRow) :
    Prop where
  old : ∀ index, ∀ row ∈ rows ++ pending index, row.messageId < next
  once : ∀ index, ((rows ++ pending index).map ResentRow.messageId).Nodup
  apart : ∀ first second, first ≠ second → ∀ left ∈ pending first, ∀ right ∈ pending second,
    left.messageId ≠ right.messageId

def InTable (channels : ℕ → Option Channel) (channel : Channel) : Prop :=
  channels channel.id = some channel

def ResendLabel.IsPlain (channels : ℕ → Option Channel) (label : ResendLabel) : Prop :=
  label.IsUndisturbed ∧ label.Routes (InTable channels)

namespace Resend

def OwnRoutes (state : Resend) (channels : ℕ → Option Channel) : Prop :=
  ∀ row ∈ state.rows, ∃ channel, channels row.channelId = some channel ∧
    ∀ route, (row.messageId, route) ∈ state.handed ↔ route = channel.route

/-- Each row of the new batch is on a channel whose way out `_queue_commit_batch` takes. -/
def OnKnownWays (state : Resend) (channels : ℕ → Option Channel) : Prop :=
  ∀ row ∈ state.rows, ∀ channel, channels row.channelId = some channel →
    commitBatchRoute channel = channel.route

structure Routed (fits : Channel → Prop) (state : Resend) : Prop where
  together : ∀ index, OneChannel fits (state.runs index)
  staged : ∀ index, StageRoutes fits state.rows (state.runs index)
  unstarted : ∀ index, state.runCount ≤ index → (state.runs index).stage = .ended
  handed : ∀ entry ∈ state.handed, ∃ row ∈ state.rows, row.messageId = entry.1 ∧
    ∃ channel, fits channel ∧ row.channelId = channel.id ∧ entry.2 = commitBatchRoute channel
  complete : ∀ row ∈ state.rows, (∃ route, (row.messageId, route) ∈ state.handed) ∨
    ∃ index, row ∈ (state.runs index).waiting
  numbered : Numbered state.nextMessageId state.rows fun index => (state.runs index).pending

end Resend

section

variable {fits : Channel → Prop} {rows more : List ResentRow} {run : ResendRun}
  {next : AfterFlush}

theorem StageRoutes.append (staged : StageRoutes fits rows run) (more : List ResentRow) :
    StageRoutes fits (rows ++ more) run := by
  unfold StageRoutes at staged ⊢
  split at staged
  · exact staged
  · exact staged
  · exact staged
  · exact staged
  · exact ⟨staged.1, staged.2.1, staged.2.2.1,
      fun row member => List.mem_append_left _ (staged.2.2.2 row member)⟩
  · exact ⟨staged.1, staged.2.1, staged.2.2.1,
      fun row member => List.mem_append_left _ (staged.2.2.2 row member)⟩
  · exact staged
  · trivial

theorem OneChannel.flush (together : OneChannel fits run)
    (pending : run.pending = run.commitBatch) (follows : next.Fits fits) :
    OneChannel fits (run.flush run.chunkChannel next) ∧
      StageRoutes fits rows (run.flush run.chunkChannel next) ∧
        (run.flush run.chunkChannel next).pending = run.pending ∧
          (run.flush run.chunkChannel next).waiting = [] := by
  unfold ResendRun.flush
  split
  · rename_i channel row others current batch
    exact ⟨⟨together.cache, together.current, together.collected⟩,
      ⟨current, follows, pending⟩, rfl, rfl⟩
  · rename_i none
    have empty : run.commitBatch = [] := by
      cases batch : run.commitBatch with
      | nil => rfl
      | cons row others =>
          rcases together.collected row (batch ▸ List.mem_cons_self) with ⟨channel, current, _⟩
          exact absurd batch (none channel row others current)
    cases next with
    | charge row channel =>
        refine ⟨⟨together.cache, ?_, ?_⟩, ⟨rfl, pending⟩, rfl, rfl⟩
        · intro other same
          cases same
          exact follows
        · simp [empty]
    | rows => exact ⟨⟨together.cache, together.current, together.collected⟩, pending, rfl, rfl⟩
    | finish =>
        exact ⟨⟨together.cache, together.current, together.collected⟩, trivial, rfl, rfl⟩

theorem OneChannel.goOn (together : OneChannel fits run) (pending : run.pending = run.commitBatch)
    (follows : next.Fits fits)
    (same : ∀ row channel, next = .charge row channel → ∀ resent ∈ run.commitBatch,
      resent.channelId = channel.id) :
    OneChannel fits (run.flush none next) ∧ StageRoutes fits rows (run.flush none next) ∧
      (run.flush none next).pending = run.pending := by
  cases next with
  | charge row channel =>
      refine ⟨⟨together.cache, ?_, ?_⟩, ⟨rfl, pending⟩, rfl⟩
      · intro other isOther
        cases isOther
        exact follows
      · intro resent member
        exact ⟨channel, rfl, same row channel rfl resent member⟩
  | rows => exact ⟨⟨together.cache, together.current, together.collected⟩, pending, rfl⟩
  | finish => exact ⟨⟨together.cache, together.current, together.collected⟩, trivial, rfl⟩

theorem OneChannel.route (together : OneChannel fits run) {index : ℕ}
    {answer : Option (Option Channel)} (routes : ResendLabel.Routes fits (.row index answer))
    (row : SourceRow) (countryCode : String) :
    (∀ channel, (run.route row countryCode answer).1 = some channel → fits channel) ∧
      ∀ entry ∈ (run.route row countryCode answer).2, ∀ channel, entry.2 = some channel →
        fits channel := by
  unfold ResendRun.route
  cases found : run.routeCache.find? fun entry => entry.1 = (countryCode, row.channelId) with
  | some entry =>
      refine ⟨?_, together.cache⟩
      intro channel isChannel
      exact together.cache entry (List.mem_of_find?_eq_some found) channel isChannel
  | none =>
      cases answer with
      | none => exact ⟨nofun, together.cache⟩
      | some routed =>
          have known : ∀ channel, routed = some channel → fits channel := by
            rintro channel rfl
            exact routes
          refine ⟨known, ?_⟩
          intro entry member channel isChannel
          rcases List.mem_append.mp member with old | new
          · exact together.cache entry old channel isChannel
          · rw [List.mem_singleton.mp new] at isChannel
            exact known channel isChannel

theorem OneChannel.takeRow (together : OneChannel fits run)
    (pending : run.pending = run.commitBatch) {index : ℕ} {answer : Option (Option Channel)}
    (routes : ResendLabel.Routes fits (.row index answer)) (unicode : Unicode) (row : SourceRow)
    (rest : List SourceRow) :
    OneChannel fits (run.takeRow unicode row rest answer) ∧
      StageRoutes fits rows (run.takeRow unicode row rest answer) ∧
        (run.takeRow unicode row rest answer).pending = run.pending := by
  have passes : ∀ cache, (∀ entry ∈ cache, ∀ channel, entry.2 = some channel → fits channel) →
      OneChannel fits { run with page := rest, routeCache := cache } := by
    intro cache known
    exact ⟨known, together.current, together.collected⟩
  have skips : ∀ cache, (∀ entry ∈ cache, ∀ channel, entry.2 = some channel → fits channel) →
      OneChannel fits { run with page := rest, routeCache := cache }.skip ∧
        StageRoutes fits rows { run with page := rest, routeCache := cache }.skip ∧
          { run with page := rest, routeCache := cache }.skip.pending = run.pending := by
    intro cache known
    exact ⟨⟨known, together.current, together.collected⟩, pending, rfl⟩
  simp only [ResendRun.takeRow]
  split
  · exact skips _ together.cache
  · split
    · exact skips _ together.cache
    · rename_i countryCode _
      split
      · exact skips _ together.cache
      · rcases together.route routes row countryCode with ⟨known, cache⟩
        split
        · exact skips _ cache
        · rename_i channel routed
          have follows : AfterFlush.Fits fits (.charge row channel) := known channel routed
          have taken := passes _ cache
          split
          · rcases taken.flush pending follows with ⟨still, staged, kept, _⟩
            exact ⟨still, staged, kept⟩
          · rename_i same
            refine taken.goOn pending follows ?_
            intro _ other isOther resent member
            cases isOther
            rcases together.collected resent member with ⟨current, isCurrent, onCurrent⟩
            simp only [isCurrent, Option.any_some, decide_not, Bool.not_eq_true',
              decide_eq_false_iff_not, not_not] at same
            exact onCurrent.trans same

theorem OneChannel.addRow (together : OneChannel fits run) {channel : Channel}
    {added : ResentRow} (current : run.chunkChannel = some channel)
    (pending : run.pending = run.commitBatch) (onChannel : added.channelId = channel.id) :
    OneChannel fits (run.addRow channel added) ∧
      StageRoutes fits rows (run.addRow channel added) ∧
        (run.addRow channel added).pending = run.pending ++ [added] := by
  have grown : ∀ stage deducted ids retried charged, OneChannel fits
      { run with
        stage := stage
        commitBatch := run.commitBatch ++ [added]
        chunkDeducted := deducted
        annotateIds := ids
        retried := retried
        pending := run.pending ++ [added]
        charged := charged } := by
    intro stage deducted ids retried charged
    refine ⟨together.cache, together.current, ?_⟩
    intro row member
    rcases List.mem_append.mp member with old | new
    · exact together.collected row old
    · exact ⟨channel, current, List.mem_singleton.mp new ▸ onChannel⟩
  have both : run.pending ++ [added] = run.commitBatch ++ [added] := by rw [pending]
  simp only [ResendRun.addRow]
  split
  · rw [← current]
    have follows : AfterFlush.Fits fits .rows := trivial
    rcases (grown run.stage _ _ _ _).flush both follows with ⟨still, staged, kept, _⟩
    exact ⟨still, staged, kept⟩
  · exact ⟨grown .rows _ _ _ _, both, rfl⟩

namespace Numbered

variable {nextId index : ℕ} {pending : ℕ → List ResentRow} {added : ResentRow}

theorem clear (numbered : Numbered nextId rows pending) (index : ℕ) :
    Numbered nextId rows (Function.update pending index []) := by
  have less : ∀ other row, row ∈ Function.update pending index [] other →
      row ∈ pending other := by
    intro other row member
    rcases eq_or_ne other index with rfl | different
    · simp at member
    · rwa [Function.update_of_ne different] at member
  refine ⟨?_, ?_, ?_⟩
  · intro other row member
    apply numbered.old other row
    rcases List.mem_append.mp member with inRows | inPending
    · exact List.mem_append_left _ inRows
    · exact List.mem_append_right _ (less other row inPending)
  · intro other
    rcases eq_or_ne other index with rfl | different
    · rw [Function.update_self, List.append_nil]
      exact (numbered.once other).sublist ((List.sublist_append_left _ _).map _)
    · rw [Function.update_of_ne different]
      exact numbered.once other
  · intro first second different left inLeft right inRight
    exact numbered.apart first second different left (less _ _ inLeft) right (less _ _ inRight)

theorem commit (numbered : Numbered nextId rows pending) (index : ℕ) :
    Numbered nextId (rows ++ pending index) (Function.update pending index []) := by
  have cleared := numbered.clear index
  have known : ∀ row ∈ rows ++ pending index, row.messageId < nextId := numbered.old index
  refine ⟨?_, ?_, cleared.apart⟩
  · intro other row member
    rcases List.mem_append.mp member with inRows | inPending
    · exact known row inRows
    · exact cleared.old other row (List.mem_append_right _ inPending)
  · intro other
    rcases eq_or_ne other index with rfl | different
    · rw [Function.update_self, List.append_nil]
      exact numbered.once other
    · rw [Function.update_of_ne different, List.map_append, List.nodup_append]
      have own := numbered.once other
      rw [List.map_append, List.nodup_append] at own
      refine ⟨numbered.once index, own.2.1, ?_⟩
      intro first inFirst second inSecond same
      rcases List.mem_map.mp inFirst with ⟨left, inLeft, rfl⟩
      rcases List.mem_map.mp inSecond with ⟨right, inRight, rfl⟩
      rcases List.mem_append.mp inLeft with inRows | inPending
      · exact own.2.2 _ (List.mem_map_of_mem inRows) _ (List.mem_map_of_mem inRight) same
      · exact numbered.apart index other different.symm left inPending right inRight same

theorem add (numbered : Numbered nextId rows pending) (index : ℕ)
    (isNext : added.messageId = nextId) :
    Numbered (nextId + 1) rows (Function.update pending index (pending index ++ [added])) := by
  have split : ∀ other row,
      row ∈ Function.update pending index (pending index ++ [added]) other →
        row ∈ pending other ∨ other = index ∧ row = added := by
    intro other row member
    rcases eq_or_ne other index with rfl | different
    · rw [Function.update_self] at member
      rcases List.mem_append.mp member with before | isAdded
      · exact .inl before
      · exact .inr ⟨rfl, List.mem_singleton.mp isAdded⟩
    · rw [Function.update_of_ne different] at member
      exact .inl member
  have below : ∀ other, ∀ row ∈ pending other, row.messageId < nextId := by
    intro other row member
    exact numbered.old other row (List.mem_append_right _ member)
  refine ⟨?_, ?_, ?_⟩
  · intro other row member
    rcases List.mem_append.mp member with inRows | inPending
    · exact Nat.lt_succ_of_lt (numbered.old other row (List.mem_append_left _ inRows))
    · rcases split other row inPending with before | ⟨_, rfl⟩
      · exact Nat.lt_succ_of_lt (below other row before)
      · exact isNext ▸ Nat.lt_succ_self _
  · intro other
    rcases eq_or_ne other index with rfl | different
    · rw [Function.update_self, ← List.append_assoc, List.map_append, List.nodup_append]
      refine ⟨numbered.once other, by simp, ?_⟩
      intro first inFirst second inSecond same
      rcases List.mem_map.mp inFirst with ⟨left, inLeft, rfl⟩
      have less := numbered.old other left inLeft
      simp only [List.map_cons, List.map_nil, List.mem_singleton] at inSecond
      exact Nat.ne_of_lt less (same.trans (inSecond.trans isNext))
    · rw [Function.update_of_ne different]
      exact numbered.once other
  · intro first second different left inLeft right inRight
    rcases split first left inLeft with oldLeft | ⟨rfl, rfl⟩
    · rcases split second right inRight with oldRight | ⟨rfl, rfl⟩
      · exact numbered.apart first second different left oldLeft right oldRight
      · exact Nat.ne_of_lt (isNext ▸ below first left oldLeft)
    · rcases split second right inRight with oldRight | ⟨rfl, rfl⟩
      · exact (Nat.ne_of_lt (isNext ▸ below second right oldRight)).symm
      · exact absurd rfl different

end Numbered

end

namespace Resend

section

variable {unicode : Unicode} {fits : Channel → Prop} {state after : Resend}
  {label : ResendLabel} {index : ℕ} {run : ResendRun}

theorem pending_update (runs : ℕ → ResendRun) (index : ℕ) (run : ResendRun) :
    (fun other => (Function.update runs index run other).pending) =
      Function.update (fun other => (runs other).pending) index run.pending := by
  funext other
  rcases eq_or_ne other index with rfl | different
  · rw [Function.update_self, Function.update_self]
  · rw [Function.update_of_ne different, Function.update_of_ne different]

namespace Routed

theorem started (routed : state.Routed fits) (going : (state.runs index).stage ≠ .ended) :
    index < state.runCount := by
  by_contra beyond
  exact going (routed.unstarted index (by omega))

theorem nothingKept (rows : List ResentRow) (run : ResendRun) :
    ∃ more, rows = rows ++ more ∧ ∀ row ∈ more, row ∈ run.waiting :=
  ⟨[], (List.append_nil _).symm, List.forall_mem_nil _⟩

theorem goOn (routed : state.Routed fits) (going : (state.runs index).stage ≠ .ended)
    (runs : after.runs = Function.update state.runs index run)
    (count : after.runCount = state.runCount)
    (kept : ∃ more, after.rows = state.rows ++ more ∧ ∀ row ∈ more, row ∈ run.waiting)
    (together : OneChannel fits run) (staged : StageRoutes fits after.rows run)
    (waits : ∀ row ∈ (state.runs index).waiting, row ∈ run.waiting ∨
      ∃ route, (row.messageId, route) ∈ after.handed)
    (grows : ∀ entry ∈ state.handed, entry ∈ after.handed)
    (handed : ∀ entry ∈ after.handed, entry ∈ state.handed ∨ ∃ row ∈ state.rows,
      row.messageId = entry.1 ∧ ∃ channel, fits channel ∧ row.channelId = channel.id ∧
        entry.2 = commitBatchRoute channel)
    (numbered : Numbered after.nextMessageId after.rows
      (Function.update (fun other => (state.runs other).pending) index run.pending)) :
    after.Routed fits := by
  have here : after.runs index = run := by rw [runs, Function.update_self]
  have there : ∀ other, other ≠ index → after.runs other = state.runs other := by
    intro other different
    rw [runs, Function.update_of_ne different]
  rcases kept with ⟨more, rows, new⟩
  refine ⟨?_, ?_, ?_, ?_, ?_, ?_⟩
  · intro other
    rcases eq_or_ne other index with rfl | different
    · rw [here]
      exact together
    · rw [there other different]
      exact routed.together other
  · intro other
    rcases eq_or_ne other index with rfl | different
    · rw [here]
      exact staged
    · rw [there other different, rows]
      exact (routed.staged other).append more
  · intro other beyond
    have before := routed.started going
    rw [there other (by omega)]
    exact routed.unstarted other (by omega)
  · intro entry member
    have known : ∃ row ∈ state.rows, row.messageId = entry.1 ∧ ∃ channel, fits channel ∧
        row.channelId = channel.id ∧ entry.2 = commitBatchRoute channel := by
      rcases handed entry member with old | new
      · exact routed.handed entry old
      · exact new
    rcases known with ⟨row, inRows, same, onChannel⟩
    rw [rows]
    exact ⟨row, List.mem_append_left _ inRows, same, onChannel⟩
  · intro row member
    rw [rows] at member
    rcases List.mem_append.mp member with old | isNew
    · rcases routed.complete row old with ⟨route, inHanded⟩ | ⟨other, waiting⟩
      · exact .inl ⟨route, grows _ inHanded⟩
      · rcases eq_or_ne other index with rfl | different
        · rcases waits row waiting with still | done
          · exact .inr ⟨other, by rwa [here]⟩
          · exact .inl done
        · exact .inr ⟨other, by rwa [there other different]⟩
    · exact .inr ⟨index, by rw [here]; exact new row isNew⟩
  · rw [runs, pending_update]
    exact numbered

theorem setRun (routed : state.Routed fits) (going : (state.runs index).stage ≠ .ended)
    (together : OneChannel fits run) (staged : StageRoutes fits state.rows run)
    (pending : run.pending = (state.runs index).pending)
    (waits : ∀ row ∈ (state.runs index).waiting, row ∈ run.waiting) :
    (state.setRun index run).Routed fits := by
  have same : Function.update (fun other => (state.runs other).pending) index run.pending =
      fun other => (state.runs other).pending := by
    rw [pending]
    exact Function.update_eq_self index _
  refine routed.goOn going rfl rfl (nothingKept _ _) together staged ?_ ?_ ?_ ?_
  · intro row waiting
    exact .inl (waits row waiting)
  · intro entry member
    exact member
  · intro entry member
    exact .inl member
  · rw [same]
    exact routed.numbered

theorem start (routed : state.Routed fits) : state.start.Routed fits := by
  have here : state.start.runs state.runCount = .first := Function.update_self ..
  have there : ∀ other, other ≠ state.runCount → state.start.runs other = state.runs other :=
    fun other different => Function.update_of_ne different ..
  have before : (state.runs state.runCount).stage = .ended :=
    routed.unstarted _ (Nat.le_refl _)
  refine ⟨?_, ?_, ?_, routed.handed, ?_, ?_⟩
  · intro other
    rcases eq_or_ne other state.runCount with rfl | different
    · rw [here]
      exact ⟨by simp [ResendRun.first], nofun, by simp [ResendRun.first]⟩
    · rw [there other different]
      exact routed.together other
  · intro other
    rcases eq_or_ne other state.runCount with rfl | different
    · rw [here]
      rfl
    · rw [there other different]
      exact routed.staged other
  · intro other beyond
    have beyond : state.runCount + 1 ≤ other := beyond
    rw [there other (by omega)]
    exact routed.unstarted other (by omega)
  · intro row member
    rcases routed.complete row member with done | ⟨other, waiting⟩
    · exact .inl done
    · rcases eq_or_ne other state.runCount with rfl | different
      · simp [ResendRun.waiting, before] at waiting
      · exact .inr ⟨other, by rwa [there other different]⟩
  · have cleared := routed.numbered.clear state.runCount
    rwa [show ([] : List ResentRow) = ResendRun.first.pending from rfl, ← pending_update] at cleared

theorem scan (routed : state.Routed fits) (scanning : (state.runs index).stage = .scanning) :
    (state.scan index).Routed fits := by
  have going : (state.runs index).stage ≠ .ended := by simp [scanning]
  have together := routed.together index
  have pending : (state.runs index).pending = (state.runs index).commitBatch := by
    have staged := routed.staged index
    rwa [StageRoutes, scanning] at staged
  have idle : (state.runs index).waiting = [] := by simp [ResendRun.waiting, scanning]
  have ends : (state.setRun index
      ((state.runs index).flush (state.runs index).chunkChannel .finish)).Routed fits := by
    have follows : AfterFlush.Fits fits .finish := trivial
    rcases together.flush pending follows with ⟨still, staged, kept, _⟩
    exact routed.setRun going still staged kept (by simp [idle])
  simp only [Resend.scan]
  split
  · exact ends
  · split
    · exact ends
    · exact routed.setRun going ⟨together.cache, together.current, together.collected⟩ pending
        rfl (by simp [idle])

theorem charge (routed : state.Routed fits) {row : SourceRow} {channel : Channel}
    (charging : (state.runs index).stage = .charging row channel) {answer : PricingAnswer}
    (undisturbed : ∀ text, answer ≠ .raises text) :
    (state.charge index row channel answer).Routed fits := by
  have going : (state.runs index).stage ≠ .ended := by simp [charging]
  have together := routed.together index
  have stands : (state.runs index).chunkChannel = some channel ∧
      (state.runs index).pending = (state.runs index).commitBatch := by
    have staged := routed.staged index
    rwa [StageRoutes, charging] at staged
  have idle : (state.runs index).waiting = [] := by simp [ResendRun.waiting, charging]
  have same : OneChannel fits (state.runs index) →
      OneChannel fits (state.runs index).skip := fun together =>
    ⟨together.cache, together.current, together.collected⟩
  cases answer with
  | notFound => exact routed.setRun going (same together) stands.2 rfl (by simp [idle])
  | raises text => exact absurd rfl (undisturbed text)
  | priced quote =>
      simp only [Resend.charge]
      split
      · exact routed.setRun going ⟨together.cache, together.current, together.collected⟩
          trivial rfl (by simp [idle])
      · split
        · exact routed.setRun going ⟨together.cache, together.current, together.collected⟩
            stands.2 rfl (by simp [idle])
        · rcases together.addRow stands.1 stands.2
            (show (resentRow row state.nextMessageId channel quote).channelId = channel.id from rfl)
            with ⟨still, staged, kept⟩
          refine routed.goOn going rfl rfl (nothingKept _ _) still staged ?_ ?_
            ?_ ?_
          · simp [idle]
          · intro entry member
            exact member
          · intro entry member
            exact .inl member
          · rw [kept]
            exact routed.numbered.add index rfl

theorem commitRows (routed : state.Routed fits) {channel : Channel} {next : AfterFlush}
    (committing : (state.runs index).stage = .committing channel next) :
    (state.commitRows index channel next .done).Routed fits := by
  have going : (state.runs index).stage ≠ .ended := by simp [committing]
  have together := routed.together index
  have stands : (state.runs index).chunkChannel = some channel ∧ next.Fits fits ∧
      (state.runs index).pending = (state.runs index).commitBatch := by
    have staged := routed.staged index
    rwa [StageRoutes, committing] at staged
  refine routed.goOn going rfl rfl ⟨(state.runs index).pending, rfl, ?_⟩
    ⟨together.cache, together.current, together.collected⟩
    ⟨stands.1, stands.2.1, rfl, ?_⟩ ?_ ?_ ?_ ?_
  · intro row member
    have collected : row ∈ (state.runs index).commitBatch := stands.2.2 ▸ member
    exact collected
  · intro row member
    exact List.mem_append_right _ (stands.2.2 ▸ member)
  · simp [ResendRun.waiting, committing]
  · intro entry member
    exact member
  · intro entry member
    exact .inl member
  · exact routed.numbered.commit index

theorem logBalance (routed : state.Routed fits) {channel : Channel} {next : AfterFlush}
    (logging : (state.runs index).stage = .logging channel next) (succeeds : Bool) :
    (state.logBalance index channel next succeeds).Routed fits := by
  have going : (state.runs index).stage ≠ .ended := by simp [logging]
  have together := routed.together index
  have stands := routed.staged index
  rw [StageRoutes, logging] at stands
  refine routed.goOn going rfl rfl (nothingKept _ _)
    ⟨together.cache, together.current, together.collected⟩ stands ?_ ?_ ?_ ?_
  · intro row waiting
    rw [ResendRun.waiting, logging] at waiting
    exact .inl waiting
  · intro entry member
    exact member
  · intro entry member
    exact .inl member
  · rw [Function.update_eq_self_iff.mpr rfl]
    exact routed.numbered

theorem queue (routed : state.Routed fits) {channel : Channel} {next : AfterFlush}
    (queueing : (state.runs index).stage = .queueing channel next) (count : ℕ) :
    (state.queue index channel next count none).Routed fits := by
  have going : (state.runs index).stage ≠ .ended := by simp [queueing]
  have together := routed.together index
  have stands : (state.runs index).chunkChannel = some channel ∧ next.Fits fits ∧
      (state.runs index).pending = [] ∧ ∀ row ∈ (state.runs index).commitBatch,
        row ∈ state.rows := by
    have staged := routed.staged index
    rwa [StageRoutes, queueing] at staged
  refine routed.goOn going rfl rfl (nothingKept _ _)
    ⟨together.cache, together.current, together.collected⟩
    ⟨stands.2.1, stands.2.2.1⟩ ?_ ?_ ?_ ?_
  · intro row waiting
    rw [ResendRun.waiting, queueing] at waiting
    exact .inr ⟨commitBatchRoute channel,
      List.mem_append_right _ (List.mem_map.mpr ⟨row, waiting, rfl⟩)⟩
  · intro entry member
    exact List.mem_append_left _ member
  · intro entry member
    rcases List.mem_append.mp member with old | new
    · exact .inl old
    · rcases List.mem_map.mp new with ⟨row, inBatch, rfl⟩
      rcases together.collected row inBatch with ⟨other, isOther, onOther⟩
      rw [stands.1, Option.some.injEq] at isOther
      subst isOther
      exact .inr ⟨row, stands.2.2.2 row inBatch, rfl, channel,
        together.current channel stands.1, onOther, rfl⟩
  · rw [Function.update_eq_self_iff.mpr rfl]
    exact routed.numbered

theorem annotate (routed : state.Routed fits) {next : AfterFlush}
    (annotating : (state.runs index).stage = .annotating next) :
    (state.annotate index next .done).Routed fits := by
  have going : (state.runs index).stage ≠ .ended := by simp [annotating]
  have together := routed.together index
  have stands : next.Fits fits ∧ (state.runs index).pending = [] := by
    have staged := routed.staged index
    rwa [StageRoutes, annotating] at staged
  have cleared : OneChannel fits
      { state.runs index with commitBatch := [], chunkDeducted := 0, annotateIds := [] } :=
    ⟨together.cache, together.current, List.forall_mem_nil _⟩
  have emptied : ∀ (row : SourceRow) (channel : Channel), next = .charge row channel →
      ∀ resent ∈ ([] : List ResentRow), resent.channelId = channel.id := by
    intro row channel _ resent member
    cases member
  rcases cleared.goOn stands.2 stands.1 emptied with ⟨still, staged, kept⟩
  change ((state.annotated (state.runs index).annotateIds).setRun index
    ((state.runs index).flushed next)).Routed fits
  refine routed.goOn going rfl rfl (nothingKept _ _) still staged ?_ ?_ ?_ ?_
  · simp [ResendRun.waiting, annotating]
  · intro entry member
    exact member
  · intro entry member
    exact .inl member
  · have same : ((state.runs index).flushed next).pending = (state.runs index).pending := kept
    rw [same, Function.update_eq_self_iff.mpr rfl]
    exact routed.numbered

theorem finish (routed : state.Routed fits) (finishing : (state.runs index).stage = .finishing)
    (status : BatchStatus) : (state.finish index status none).Routed fits := by
  have going : (state.runs index).stage ≠ .ended := by simp [finishing]
  have together := routed.together index
  refine routed.goOn going rfl rfl (nothingKept _ _)
    ⟨together.cache, together.current, together.collected⟩ trivial ?_ ?_ ?_ ?_
  · simp [ResendRun.waiting, finishing]
  · intro entry member
    exact member
  · intro entry member
    exact .inl member
  · rw [Function.update_eq_self_iff.mpr rfl]
    exact routed.numbered

theorem pageDone (routed : state.Routed fits) (inRows : (state.runs index).stage = .rows) :
    (state.setRun index { state.runs index with stage := .scanning }).Routed fits := by
  have together := routed.together index
  have staged := routed.staged index
  rw [StageRoutes, inRows] at staged
  exact routed.setRun (by simp [inRows]) ⟨together.cache, together.current, together.collected⟩
    staged rfl (by simp [ResendRun.waiting, inRows])

theorem row (routed : state.Routed fits) {answer : Option (Option Channel)}
    (routes : ResendLabel.Routes fits (.row index answer))
    (inRows : (state.runs index).stage = .rows) (row : SourceRow) (rest : List SourceRow) :
    (state.setRun index ((state.runs index).takeRow unicode row rest answer)).Routed fits := by
  have staged := routed.staged index
  rw [StageRoutes, inRows] at staged
  rcases (routed.together index).takeRow staged routes unicode row rest with
    ⟨still, fitting, kept⟩
  exact routed.setRun (by simp [inRows]) still fitting kept (by simp [ResendRun.waiting, inRows])

theorem step (routed : state.Routed fits) (undisturbed : label.IsUndisturbed)
    (routes : label.Routes fits) (stepped : Step unicode state label after) :
    after.Routed fits := by
  cases performs_of_step stepped with
  | start => exact routed.start
  | scan scanning => exact routed.scan scanning
  | pageDone inRows => exact routed.pageDone inRows
  | row inRows => exact routed.row routes inRows _ _
  | charge charging => exact routed.charge charging undisturbed
  | commit committing =>
      cases undisturbed
      exact routed.commitRows committing
  | log logging => exact routed.logBalance logging _
  | queue queueing =>
      cases undisturbed
      exact routed.queue queueing _
  | annotate annotating =>
      cases undisturbed
      exact routed.annotate annotating
  | finish finishing =>
      cases undisturbed
      exact routed.finish finishing _
  | handle => exact undisturbed.elim
  | raises => exact undisturbed.elim
  | kill => exact undisturbed.elim
  | others =>
      exact ⟨routed.together, routed.staged, routed.unstarted, routed.handed, routed.complete,
        routed.numbered⟩

/-- Behind all executions, each row has been handed over on the route that
`_queue_commit_batch` takes for its channel. -/
theorem handed_iff {channels : ℕ → Option Channel} (routed : state.Routed (InTable channels))
    (ended : ∀ index < state.runCount, (state.runs index).stage = .ended) {row : ResentRow}
    (member : row ∈ state.rows) : ∃ channel, channels row.channelId = some channel ∧
      ∀ route, (row.messageId, route) ∈ state.handed ↔ route = commitBatchRoute channel := by
  have unique : ∀ other ∈ state.rows, other.messageId = row.messageId → other = row := by
    have distinct := routed.numbered.once 0
    rw [List.map_append] at distinct
    intro other isOther same
    exact List.inj_on_of_nodup_map (List.nodup_append.mp distinct).1 isOther member same
  have routes : ∀ route, (row.messageId, route) ∈ state.handed →
      ∃ channel, channels row.channelId = some channel ∧ route = commitBatchRoute channel := by
    intro route inHanded
    rcases routed.handed _ inHanded with ⟨other, isOther, same, channel, known, onChannel, isRoute⟩
    rw [← unique other isOther same, onChannel]
    exact ⟨channel, known, isRoute⟩
  rcases routed.complete row member with ⟨route, inHanded⟩ | ⟨index, waiting⟩
  · rcases routes route inHanded with ⟨channel, known, isRoute⟩
    refine ⟨channel, known, ?_⟩
    intro other
    constructor
    · intro also
      rcases routes other also with ⟨same, isSame, isOther⟩
      rw [known, Option.some.injEq] at isSame
      rw [isOther, isSame]
    · rintro rfl
      exact isRoute ▸ inHanded
  · have isEnded : (state.runs index).stage = .ended := by
      by_cases started : index < state.runCount
      · exact ended index started
      · exact routed.unstarted index (by omega)
    simp [ResendRun.waiting, isEnded] at waiting

theorem ownRoutes_iff {channels : ℕ → Option Channel} (routed : state.Routed (InTable channels))
    (ended : ∀ index < state.runCount, (state.runs index).stage = .ended) :
    state.OwnRoutes channels ↔ state.OnKnownWays channels := by
  constructor
  · intro own row member channel isChannel
    rcases own row member with ⟨same, isSame, ways⟩
    rcases routed.handed_iff ended member with ⟨other, isOther, routes⟩
    rw [isChannel, Option.some.injEq] at isSame isOther
    subst isSame isOther
    exact (ways _).mp ((routes _).mpr rfl)
  · intro known row member
    rcases routed.handed_iff ended member with ⟨channel, isChannel, routes⟩
    refine ⟨channel, isChannel, ?_⟩
    rw [← known row member channel isChannel]
    exact routes

end Routed

structure Unstarted (state : Resend) : Prop where
  rows : state.rows = []
  handed : state.handed = []
  runs : ∀ index, state.runs index = .idle

theorem Unstarted.routed (unstarted : state.Unstarted) : state.Routed fits where
  together index := by
    rw [unstarted.runs index]
    exact ⟨List.forall_mem_nil _, nofun, List.forall_mem_nil _⟩
  staged index := by
    rw [unstarted.runs index]
    trivial
  unstarted index _ := by rw [unstarted.runs index]; rfl
  handed := by simp [unstarted.handed]
  complete := by simp [unstarted.rows]
  numbered := by
    have pending : ∀ index, (state.runs index).pending = [] := by
      intro index
      rw [unstarted.runs index]
      rfl
    refine ⟨?_, ?_, ?_⟩
    · simp [unstarted.rows, pending]
    · simp [unstarted.rows, pending]
    · simp [pending]

/-- When every execution has ended without an exception, each resent message has gone the way of
its own channel exactly when `_queue_commit_batch` takes these ways. -/
theorem resent_ownRoutes_iff {first last : Resend}
    {transitions : List (Transition Resend ResendLabel)}
    (run : Run (Step unicode) first transitions last) (unstarted : first.Unstarted)
    {channels : ℕ → Option Channel}
    (plain : ∀ transition ∈ transitions, transition.label.IsPlain channels)
    (ended : ∀ index < last.runCount, (last.runs index).stage = .ended) :
    last.OwnRoutes channels ↔ last.OnKnownWays channels := by
  have preserved : ∀ before label after,
      Guarded (Step unicode) (fun _ label => label.IsPlain channels) before label after →
        Routed (InTable channels) before → Routed (InTable channels) after :=
    fun _ _ _ guarded routed => routed.step guarded.2.1 guarded.2.2 guarded.1
  have guarded : Run (Guarded (Step unicode) fun _ label => label.IsPlain channels) first
    transitions last := run.guarded plain
  exact (guarded.invariant preserved unstarted.routed).1.ownRoutes_iff ended

end

end Resend

end Klsmsc
