import Klsmsc.Resend
import Mathlib.Data.List.Infix
import Mathlib.Data.List.Nodup

/-!
# Source rows that are resent once

An execution takes the source rows in the order of their ids and takes none twice. A later
execution passes over the rows that are annotated. So a source row is resent twice only when
an execution starts while a row of the new batch has a source row without the annotation: an
earlier one has died or raised between the two commits, or its exception handler has committed
what was pending.
-/

namespace Klsmsc

open Library

def PassedOver (newBatchId : ℕ) (source : List SourceRow) (sourceId : ℕ) : Prop :=
  ∀ row ∈ source, row.id = sourceId → row.isOpen newBatchId = false

def AfterFlush.todo (page : List SourceRow) : AfterFlush → List SourceRow
  | .charge row _ => row :: page
  | _ => page

def ResendRun.todo (run : ResendRun) : List SourceRow :=
  match run.stage with
  | .charging row _ => row :: run.page
  | .committing _ next => next.todo run.page
  | .logging _ next => next.todo run.page
  | .queueing _ next => next.todo run.page
  | .annotating next => next.todo run.page
  | _ => run.page

structure RunFits (newBatchId : ℕ) (source : List SourceRow) (rows : List ResentRow)
    (run : ResendRun) : Prop where
  once : ((rows ++ run.pending).map ResentRow.sourceId).Nodup
  behind : ∀ row ∈ rows, PassedOver newBatchId source row.sourceId ∨ row.sourceId ≤ run.lastId
  taken : ∀ row ∈ run.pending, row.sourceId ≤ run.lastId
  ahead : ∀ row ∈ run.todo, row.id ≤ run.lastId ∧
    ∀ resent ∈ rows ++ run.pending, resent.sourceId ≠ row.id
  distinct : (run.todo.map SourceRow.id).Nodup

namespace Resend

def ResentOnce (state : Resend) : Prop :=
  (state.rows.map ResentRow.sourceId).Nodup

def Active (state : Resend) (index : ℕ) : Prop :=
  (state.runs index).stage ≠ .ended

/-- An execution starts alone, and passes over what has been resent. Other writers do not
undo this. -/
def Resumes (state : Resend) : ResendLabel → Prop
  | .start =>
      (∀ index, ¬state.Active index) ∧
        ∀ row ∈ state.rows, PassedOver state.newBatchId state.source row.sourceId
  | .others source _ =>
      ∀ row ∈ state.rows, PassedOver state.newBatchId state.source row.sourceId →
        PassedOver state.newBatchId source row.sourceId
  | _ => True

structure Resuming (state : Resend) : Prop where
  keyed : (state.source.map SourceRow.id).Nodup
  single : ∀ first second, state.Active first → state.Active second → first = second
  once : state.ResentOnce
  fits : ∀ index, state.Active index →
    RunFits state.newBatchId state.source state.rows (state.runs index)

end Resend

section

variable {newBatchId lastId : ℕ} {source : List SourceRow} {rows : List ResentRow}
  {run other : ResendRun} {row : SourceRow}

theorem mem_resendPageOf (member : row ∈ resendPageOf source newBatchId lastId) :
    row ∈ source ∧ row.isOpen newBatchId = true ∧ lastId < row.id := by
  have inSorted := List.mem_of_mem_take member
  rw [List.mem_mergeSort, List.mem_filter] at inSorted
  simp only [Bool.and_eq_true, decide_eq_true_eq] at inSorted
  exact ⟨inSorted.1, inSorted.2.1, inSorted.2.2⟩

theorem resendPageOf_distinct (keyed : (source.map SourceRow.id).Nodup) :
    ((resendPageOf source newBatchId lastId).map SourceRow.id).Nodup := by
  apply List.Nodup.sublist ((List.take_sublist _ _).map _)
  rw [((List.mergeSort_perm _ _).map SourceRow.id).nodup_iff]
  exact keyed.sublist (List.filter_sublist.map _)

theorem resendPageOf_last {last : SourceRow}
    (ends : (resendPageOf source newBatchId lastId).getLast? = some last)
    (member : row ∈ resendPageOf source newBatchId lastId) : row.id ≤ last.id := by
  have sorted : (resendPageOf source newBatchId lastId).Pairwise
      fun first second => decide (first.id ≤ second.id) = true := by
    apply List.Pairwise.sublist (List.take_sublist _ _)
    apply List.pairwise_mergeSort
    · intro first second third left right
      simp only [decide_eq_true_eq] at left right ⊢
      omega
    · intro first second
      simp only [Bool.or_eq_true, decide_eq_true_eq]
      omega
  rcases List.getLast?_eq_some_iff.mp ends with ⟨front, split⟩
  rw [split] at sorted member
  rcases List.mem_append.mp member with inFront | atEnd
  · exact of_decide_eq_true
      ((List.pairwise_append.mp sorted).2.2 row inFront last List.mem_cons_self)
  · rw [List.mem_singleton.mp atEnd]

theorem ResendRun.page_sublist (run : ResendRun) : run.page.Sublist run.todo := by
  have kept : ∀ next : AfterFlush, run.page.Sublist (next.todo run.page) := by
    intro next
    cases next with
    | charge row channel => exact List.sublist_cons_self _ _
    | rows => exact List.Sublist.refl _
    | finish => exact List.Sublist.refl _
  unfold ResendRun.todo
  split
  · exact List.sublist_cons_self _ _
  · exact kept _
  · exact kept _
  · exact kept _
  · exact kept _
  · exact List.Sublist.refl _

theorem ResendRun.flush_keeps (run : ResendRun) (channel : Option Channel) (next : AfterFlush) :
    (run.flush channel next).pending = run.pending ∧
      (run.flush channel next).lastId = run.lastId ∧
        (run.flush channel next).todo = next.todo run.page := by
  unfold ResendRun.flush
  split
  · exact ⟨rfl, rfl, rfl⟩
  · cases next with
    | charge row channel => exact ⟨rfl, rfl, rfl⟩
    | rows => exact ⟨rfl, rfl, rfl⟩
    | finish => exact ⟨rfl, rfl, rfl⟩

theorem ResendRun.takeRow_keeps (unicode : Unicode) (run : ResendRun) (row : SourceRow)
    (rest : List SourceRow) (answer : Option (Option Channel)) :
    (run.takeRow unicode row rest answer).pending = run.pending ∧
      (run.takeRow unicode row rest answer).lastId = run.lastId ∧
        (run.takeRow unicode row rest answer).todo.Sublist (row :: rest) := by
  have passes : rest.Sublist (row :: rest) := List.sublist_cons_self row rest
  have stays : (row :: rest).Sublist (row :: rest) := List.Sublist.refl _
  simp only [ResendRun.takeRow]
  split
  · exact ⟨rfl, rfl, passes⟩
  · split
    · exact ⟨rfl, rfl, passes⟩
    · split
      · exact ⟨rfl, rfl, passes⟩
      · split
        · exact ⟨rfl, rfl, passes⟩
        · split
          · rcases ResendRun.flush_keeps _ _ _ with ⟨pending, position, todo⟩
            exact ⟨pending, position, todo ▸ stays⟩
          · rcases ResendRun.flush_keeps _ _ _ with ⟨pending, position, todo⟩
            exact ⟨pending, position, todo ▸ stays⟩

theorem ResendRun.addRow_keeps (run : ResendRun) (channel : Channel) (added : ResentRow) :
    (run.addRow channel added).pending = run.pending ++ [added] ∧
      (run.addRow channel added).lastId = run.lastId ∧
        (run.addRow channel added).todo = run.page := by
  simp only [ResendRun.addRow]
  split
  · exact ResendRun.flush_keeps _ _ _
  · exact ⟨rfl, rfl, rfl⟩

namespace RunFits

theorem of_sublist (fits : RunFits newBatchId source rows run)
    (pending : other.pending = run.pending) (position : other.lastId = run.lastId)
    (less : other.todo.Sublist run.todo) : RunFits newBatchId source rows other where
  once := pending ▸ fits.once
  behind := position ▸ fits.behind
  taken := by
    rw [pending, position]
    exact fits.taken
  ahead := by
    rw [pending, position]
    intro row member
    exact fits.ahead row (less.subset member)
  distinct := fits.distinct.sublist (less.map _)

theorem commit (fits : RunFits newBatchId source rows run) (pending : other.pending = [])
    (position : other.lastId = run.lastId) (less : other.todo.Sublist run.todo) :
    RunFits newBatchId source (rows ++ run.pending) other where
  once := by
    rw [pending, List.append_nil]
    exact fits.once
  behind := by
    intro row member
    rw [position]
    rcases List.mem_append.mp member with old | new
    · exact fits.behind row old
    · exact .inr (fits.taken row new)
  taken := by simp [pending]
  ahead := by
    rw [pending, position, List.append_nil]
    intro row member
    exact fits.ahead row (less.subset member)
  distinct := fits.distinct.sublist (less.map _)

theorem discard (fits : RunFits newBatchId source rows run) (pending : other.pending = [])
    (position : other.lastId = run.lastId) (less : other.todo.Sublist run.todo) :
    RunFits newBatchId source rows other where
  once := by
    rw [pending, List.append_nil]
    exact fits.once.sublist ((List.sublist_append_left _ _).map _)
  behind := position ▸ fits.behind
  taken := by simp [pending]
  ahead := by
    rw [pending, position, List.append_nil]
    intro row member
    rcases fits.ahead row (less.subset member) with ⟨within, fresh⟩
    exact ⟨within, fun resent old => fresh resent (List.mem_append_left _ old)⟩
  distinct := fits.distinct.sublist (less.map _)

theorem add (fits : RunFits newBatchId source rows run) {added : ResentRow}
    (todo : run.todo = row :: other.todo) (of : added.sourceId = row.id)
    (pending : other.pending = run.pending ++ [added]) (position : other.lastId = run.lastId) :
    RunFits newBatchId source rows other := by
  have atHead := fits.ahead row (by rw [todo]; exact List.mem_cons_self)
  have distinct := fits.distinct
  rw [todo, List.map_cons, List.nodup_cons] at distinct
  refine ⟨?_, position ▸ fits.behind, ?_, ?_, distinct.2⟩
  · rw [pending, ← List.append_assoc, List.map_append, List.nodup_append]
    refine ⟨fits.once, by simp, ?_⟩
    intro first old second new same
    rcases List.mem_map.mp old with ⟨resent, member, rfl⟩
    simp only [List.map_cons, List.map_nil, List.mem_singleton] at new
    exact atHead.2 resent member (same.trans (new.trans of))
  · intro resent member
    rw [position]
    rw [pending] at member
    rcases List.mem_append.mp member with old | new
    · exact fits.taken resent old
    · rw [List.mem_singleton.mp new, of]
      exact atHead.1
  · intro next member
    have before := fits.ahead next (by rw [todo]; exact List.mem_cons_of_mem _ member)
    refine ⟨position ▸ before.1, ?_⟩
    intro resent inRows
    rw [pending, ← List.append_assoc] at inRows
    rcases List.mem_append.mp inRows with old | new
    · exact before.2 resent old
    · rw [List.mem_singleton.mp new, of]
      intro same
      exact distinct.1 (same ▸ List.mem_map_of_mem member)

theorem scan (fits : RunFits newBatchId source rows run)
    (keyed : (source.map SourceRow.id).Nodup) {last : SourceRow}
    (ends : (resendPageOf source newBatchId run.lastId).getLast? = some last)
    (todo : other.todo = resendPageOf source newBatchId run.lastId)
    (pending : other.pending = run.pending) (position : other.lastId = last.id) :
    RunFits newBatchId source rows other := by
  have further : run.lastId ≤ last.id :=
    Nat.le_of_lt (mem_resendPageOf (List.mem_of_getLast? ends)).2.2
  refine ⟨pending ▸ fits.once, ?_, ?_, ?_, ?_⟩
  · intro resent member
    rcases fits.behind resent member with passed | before
    · exact .inl passed
    · exact .inr (by omega)
  · intro resent member
    have before := fits.taken resent (pending ▸ member)
    omega
  · intro next member
    rw [todo] at member
    rcases mem_resendPageOf member with ⟨inSource, isOpen, beyond⟩
    refine ⟨position ▸ resendPageOf_last ends member, ?_⟩
    intro resent inRows same
    rw [pending] at inRows
    rcases List.mem_append.mp inRows with old | new
    · rcases fits.behind resent old with passed | before
      · rw [passed next inSource same.symm] at isOpen
        exact absurd isOpen (by decide)
      · omega
    · have before := fits.taken resent new
      omega
  · rw [todo]
    exact resendPageOf_distinct keyed

theorem change {changed : List SourceRow} (fits : RunFits newBatchId source rows run)
    (kept : ∀ row ∈ rows, PassedOver newBatchId source row.sourceId →
      PassedOver newBatchId changed row.sourceId) :
    RunFits newBatchId changed rows run where
  once := fits.once
  behind := by
    intro row member
    rcases fits.behind row member with passed | before
    · exact .inl (kept row member passed)
    · exact .inr before
  taken := fits.taken
  ahead := fits.ahead
  distinct := fits.distinct

end RunFits

theorem textContains_append (front needle back : String) :
    textContains (front ++ needle ++ back) needle = true := by
  simp only [textContains, String.toList_append, List.any_eq_true, List.mem_tails]
  refine ⟨needle.toList ++ back.toList, ?_, ?_⟩
  · rw [List.append_assoc]
    exact List.suffix_append _ _
  · rw [List.isPrefixOf_iff_prefix]
    exact List.prefix_append _ _

theorem SourceRow.isOpen_annotate (row : SourceRow) :
    (row.annotate newBatchId).isOpen newBatchId = false := by
  have tagged : (row.annotate newBatchId).isAnnotated newBatchId = true := by
    have appended := textContains_append (row.errorMessage.getD "" ++ " [")
      (resendTag newBatchId) "]"
    simpa [SourceRow.isAnnotated, SourceRow.annotate, String.append_assoc, toString] using appended
  simp [SourceRow.isOpen, tagged]

end

namespace Resend

section

variable {unicode : Unicode} {state after : Resend} {label : ResendLabel} {index : ℕ}
  {run : ResendRun}

theorem passedOver_annotated {ids : List ℕ} {sourceId : ℕ}
    (passed : PassedOver state.newBatchId state.source sourceId) :
    PassedOver state.newBatchId (state.annotated ids).source sourceId := by
  intro row member same
  rcases List.mem_map.mp member with ⟨old, inSource, rfl⟩
  split at same <;> rename_i inIds
  · rw [if_pos inIds]
    exact old.isOpen_annotate
  · rw [if_neg inIds]
    exact passed old inSource same

theorem keyed_annotated (keyed : (state.source.map SourceRow.id).Nodup) (ids : List ℕ) :
    ((state.annotated ids).source.map SourceRow.id).Nodup := by
  have same : (state.annotated ids).source.map SourceRow.id = state.source.map SourceRow.id := by
    simp only [annotated, List.map_map]
    apply List.map_congr_left
    intro row member
    simp only [Function.comp_apply]
    split <;> rfl
  rw [same]
  exact keyed

namespace Resuming

theorem goOn (resuming : state.Resuming) (active : state.Active index)
    (keyed : (after.source.map SourceRow.id).Nodup)
    (runs : after.runs = Function.update state.runs index run)
    (once : after.ResentOnce)
    (fits : RunFits after.newBatchId after.source after.rows run) : after.Resuming := by
  have here : after.runs index = run := by rw [runs, Function.update_self]
  have only : ∀ other, after.Active other → other = index := by
    intro other going
    by_contra different
    apply different
    apply resuming.single other index _ active
    simpa [Active, runs, Function.update_of_ne different] using going
  refine ⟨keyed, ?_, once, ?_⟩
  · intro first second left right
    rw [only first left, only second right]
  · intro other going
    rw [only other going, here]
    exact fits

theorem setRun (resuming : state.Resuming) (active : state.Active index)
    (fits : RunFits state.newBatchId state.source state.rows run) :
    (state.setRun index run).Resuming :=
  resuming.goOn active resuming.keyed rfl resuming.once fits

theorem commit (resuming : state.Resuming) (active : state.Active index)
    (pending : run.pending = []) (position : run.lastId = (state.runs index).lastId)
    (less : run.todo.Sublist (state.runs index).todo) :
    ((state.commit index).setRun index run).Resuming := by
  have fits := resuming.fits index active
  exact resuming.goOn active resuming.keyed rfl fits.once
    (fits.commit pending position less)

theorem discard (resuming : state.Resuming) (active : state.Active index)
    (pending : run.pending = []) (position : run.lastId = (state.runs index).lastId)
    (less : run.todo.Sublist (state.runs index).todo) :
    (state.setRun index run).Resuming :=
  resuming.setRun active ((resuming.fits index active).discard pending position less)

theorem start (resuming : state.Resuming) (resumes : state.Resumes .start) :
    state.start.Resuming := by
  have only : ∀ other, state.start.Active other → other = state.runCount := by
    intro other going
    by_contra different
    apply resumes.1 other
    simpa [Active, Resend.start, Function.update_of_ne different] using going
  have here : state.start.runs state.runCount = .first := Function.update_self ..
  refine ⟨resuming.keyed, ?_, resuming.once, ?_⟩
  · intro first second left right
    rw [only first left, only second right]
  · intro other going
    rw [only other going, here]
    refine ⟨?_, ?_, ?_, ?_, ?_⟩
    · rw [show ResendRun.first.pending = [] from rfl, List.append_nil]
      exact resuming.once
    · intro row member
      exact .inl (resumes.2 row member)
    · simp [ResendRun.first]
    · simp [ResendRun.todo, ResendRun.first]
    · simp [ResendRun.todo, ResendRun.first]

theorem scan (resuming : state.Resuming) (active : state.Active index)
    (scanning : (state.runs index).stage = .scanning) : (state.scan index).Resuming := by
  have fits := resuming.fits index active
  have todo : (state.runs index).todo = (state.runs index).page := by
    simp [ResendRun.todo, scanning]
  have ends : (state.setRun index
      ((state.runs index).flush (state.runs index).chunkChannel .finish)).Resuming := by
    rcases ResendRun.flush_keeps (state.runs index) (state.runs index).chunkChannel .finish with
      ⟨pending, position, less⟩
    apply resuming.setRun active
    apply fits.of_sublist pending position
    rw [less, todo]
    exact List.Sublist.refl _
  simp only [Resend.scan]
  split
  · exact ends
  · split <;> rename_i last
    · exact ends
    · exact resuming.setRun active (fits.scan resuming.keyed last rfl rfl rfl)

theorem charge (resuming : state.Resuming) (active : state.Active index) {row : SourceRow}
    {channel : Channel} (charging : (state.runs index).stage = .charging row channel)
    (answer : PricingAnswer) : (state.charge index row channel answer).Resuming := by
  have fits := resuming.fits index active
  have todo : (state.runs index).todo = row :: (state.runs index).page := by
    simp [ResendRun.todo, charging]
  have passes : (state.runs index).page.Sublist (state.runs index).todo := by
    rw [todo]
    exact List.sublist_cons_self _ _
  have goesOn : ∀ run : ResendRun, run.pending = (state.runs index).pending →
      run.lastId = (state.runs index).lastId → run.todo = (state.runs index).page →
        (state.setRun index run).Resuming := by
    intro run pending position less
    exact resuming.setRun active (fits.of_sublist pending position (less ▸ passes))
  cases answer with
  | notFound => exact goesOn _ rfl rfl rfl
  | raises text => exact goesOn _ rfl rfl rfl
  | priced quote =>
      simp only [Resend.charge]
      split
      · exact goesOn _ rfl rfl rfl
      · split
        · exact goesOn _ rfl rfl rfl
        · rcases ResendRun.addRow_keeps (state.runs index) channel
            (resentRow row state.nextMessageId channel quote) with ⟨pending, position, less⟩
          have added := fits.add (less.symm ▸ todo) rfl pending position
          exact resuming.goOn active resuming.keyed rfl resuming.once added

theorem commitRows (resuming : state.Resuming) (active : state.Active index) {channel : Channel}
    {next : AfterFlush} (committing : (state.runs index).stage = .committing channel next)
    (outcome : CommitOutcome) : (state.commitRows index channel next outcome).Resuming := by
  have todo : (state.runs index).todo = next.todo (state.runs index).page := by
    simp [ResendRun.todo, committing]
  cases outcome with
  | done => exact resuming.commit active rfl rfl (todo ▸ List.Sublist.refl _)
  | refused text => exact resuming.discard active rfl rfl (state.runs index).page_sublist
  | unanswered text => exact resuming.commit active rfl rfl (state.runs index).page_sublist

theorem logBalance (resuming : state.Resuming) (active : state.Active index) {channel : Channel}
    {next : AfterFlush} (logging : (state.runs index).stage = .logging channel next)
    (succeeds : Bool) : (state.logBalance index channel next succeeds).Resuming := by
  have todo : (state.runs index).todo = next.todo (state.runs index).page := by
    simp [ResendRun.todo, logging]
  have goesOn : RunFits state.newBatchId state.source state.rows
      { state.runs index with stage := .queueing channel next } :=
    (resuming.fits index active).of_sublist rfl rfl (todo ▸ List.Sublist.refl _)
  exact resuming.goOn active resuming.keyed rfl resuming.once goesOn

theorem queue (resuming : state.Resuming) (active : state.Active index) {channel : Channel}
    {next : AfterFlush} (queueing : (state.runs index).stage = .queueing channel next)
    (count : ℕ) (raised : Option String) :
    (state.queue index channel next count raised).Resuming := by
  have todo : (state.runs index).todo = next.todo (state.runs index).page := by
    simp [ResendRun.todo, queueing]
  have fits := resuming.fits index active
  cases raised with
  | none =>
      have goesOn : RunFits state.newBatchId state.source state.rows
          { state.runs index with stage := .annotating next } :=
        fits.of_sublist rfl rfl (todo ▸ List.Sublist.refl _)
      exact resuming.goOn active resuming.keyed rfl resuming.once goesOn
  | some text =>
      have stops : RunFits state.newBatchId state.source state.rows
          { state.runs index with stage := .handling text } :=
        fits.of_sublist rfl rfl (state.runs index).page_sublist
      exact resuming.goOn active resuming.keyed rfl resuming.once stops

theorem annotate (resuming : state.Resuming) (active : state.Active index) {next : AfterFlush}
    (annotating : (state.runs index).stage = .annotating next) (outcome : CommitOutcome) :
    (state.annotate index next outcome).Resuming := by
  have todo : (state.runs index).todo = next.todo (state.runs index).page := by
    simp [ResendRun.todo, annotating]
  have fits := resuming.fits index active
  have keyed := keyed_annotated resuming.keyed (state.runs index).annotateIds
  have annotates : ∀ run : ResendRun,
      RunFits state.newBatchId state.source state.rows run →
        ((state.annotated (state.runs index).annotateIds).setRun index run).Resuming := by
    intro run goesOn
    have changed : RunFits state.newBatchId
        (state.annotated (state.runs index).annotateIds).source state.rows run := by
      apply goesOn.change
      intro row member passed
      exact passedOver_annotated passed
    exact resuming.goOn active keyed rfl resuming.once changed
  cases outcome with
  | done =>
      rcases ResendRun.flush_keeps
        { state.runs index with commitBatch := [], chunkDeducted := 0, annotateIds := [] }
        none next with ⟨pending, position, less⟩
      apply annotates
      exact fits.of_sublist pending position (todo ▸ less ▸ List.Sublist.refl _)
  | refused text =>
      apply resuming.setRun active
      exact fits.of_sublist rfl rfl (state.runs index).page_sublist
  | unanswered text =>
      apply annotates
      exact fits.of_sublist rfl rfl (state.runs index).page_sublist

theorem finish (resuming : state.Resuming) (active : state.Active index) (status : BatchStatus)
    (raised : Option String) : (state.finish index status raised).Resuming := by
  have fits := resuming.fits index active
  cases raised with
  | some text =>
      apply resuming.setRun active
      exact fits.of_sublist rfl rfl (state.runs index).page_sublist
  | none =>
      have stops : RunFits state.newBatchId state.source state.rows
          { state.runs index with stage := .ended } :=
        fits.of_sublist rfl rfl (state.runs index).page_sublist
      exact resuming.goOn active resuming.keyed rfl resuming.once stops

theorem handle (resuming : state.Resuming) (active : state.Active index) (text : String)
    (commits : Bool) : (state.handle index text commits).Resuming := by
  simp only [Resend.handle]
  split
  · have fits := resuming.fits index active
    have committed : RunFits state.newBatchId state.source
        (state.rows ++ (state.runs index).pending) ((state.runs index).discard .ended) :=
      fits.commit rfl rfl (state.runs index).page_sublist
    exact resuming.goOn active resuming.keyed rfl fits.once committed
  · exact resuming.discard active rfl rfl (state.runs index).page_sublist

theorem kill (resuming : state.Resuming) (index : ℕ) :
    (state.setRun index ((state.runs index).discard .ended)).Resuming := by
  by_cases active : state.Active index
  · exact resuming.discard active rfl rfl (state.runs index).page_sublist
  · have same : ∀ other, (state.setRun index ((state.runs index).discard .ended)).Active other →
        other ≠ index ∧ state.Active other := by
      intro other going
      by_cases equal : other = index
      · subst equal
        simp [Active, Resend.setRun, ResendRun.discard] at going
      · refine ⟨equal, ?_⟩
        simpa [Active, Resend.setRun, Function.update_of_ne equal] using going
    refine ⟨resuming.keyed, ?_, resuming.once, ?_⟩
    · intro first second left right
      exact resuming.single first second (same first left).2 (same second right).2
    · intro other going
      have fits := resuming.fits other (same other going).2
      simpa [Resend.setRun, Function.update_of_ne (same other going).1] using fits

theorem others (resuming : state.Resuming) {source : List SourceRow} {account : Option Account}
    (resumes : state.Resumes (.others source account)) (keyed : (source.map SourceRow.id).Nodup) :
    { state with source := source, account := account }.Resuming where
  keyed := keyed
  single := resuming.single
  once := resuming.once
  fits index active := (resuming.fits index active).change resumes

end Resuming

theorem Resuming.step (resuming : state.Resuming) (resumes : state.Resumes label)
    (stepped : Step unicode state label after) : after.Resuming := by
  have active : ∀ index stage, (state.runs index).stage = stage → stage ≠ .ended →
      state.Active index := by
    intro index stage equal going
    rw [Active, equal]
    exact going
  cases performs_of_step stepped with
  | start => exact resuming.start resumes
  | scan scanning => exact resuming.scan (active _ _ scanning nofun) scanning
  | @pageDone index _ inRows =>
      have going := active index _ inRows nofun
      apply resuming.setRun going
      exact (resuming.fits index going).of_sublist rfl rfl (state.runs index).page_sublist
  | @row index _ _ answer inRows page =>
      have going := active index _ inRows nofun
      rcases ResendRun.takeRow_keeps unicode (state.runs index) _ _ answer with
        ⟨pending, position, less⟩
      apply resuming.setRun going
      apply (resuming.fits index going).of_sublist pending position
      simpa [ResendRun.todo, inRows, page] using less
  | charge charging => exact resuming.charge (active _ _ charging nofun) charging _
  | commit committing => exact resuming.commitRows (active _ _ committing nofun) committing _
  | log logging => exact resuming.logBalance (active _ _ logging nofun) logging _
  | queue queueing => exact resuming.queue (active _ _ queueing nofun) queueing _ _
  | annotate annotating =>
      exact resuming.annotate (active _ _ annotating nofun) annotating _
  | finish finishing => exact resuming.finish (active _ _ finishing nofun) _ _
  | handle handling => exact resuming.handle (active _ _ handling nofun) _ _
  | @raises index _ _ going =>
      have going : state.Active index := going
      apply resuming.setRun going
      exact (resuming.fits index going).of_sublist rfl rfl (state.runs index).page_sublist
  | kill index => exact resuming.kill index
  | others keyed => exact resuming.others resumes keyed

/-- In every run whose executions start alone and pass over what has been resent, a source row
is resent at most once. -/
theorem resent_once {first last : Resend} {transitions : List (Transition Resend ResendLabel)}
    (run : Run (Step unicode) first transitions last)
    (keyed : (first.source.map SourceRow.id).Nodup) (idle : ∀ index, ¬first.Active index)
    (unsent : first.rows = [])
    (resumes : ∀ transition ∈ transitions, transition.before.Resumes transition.label) :
    last.ResentOnce ∧
      ∀ transition ∈ transitions, transition.before.ResentOnce ∧ transition.after.ResentOnce := by
  have initially : first.Resuming := by
    refine ⟨keyed, ?_, ?_, ?_⟩
    · intro index other going
      exact absurd going (idle index)
    · simp [ResentOnce, unsent]
    · intro index going
      exact absurd going (idle index)
  have guarded := run.guarded resumes
  rcases guarded.invariant (fun _ _ _ step resuming => resuming.step step.2 step.1) initially with
    ⟨atEnd, inside⟩
  refine ⟨atEnd.once, ?_⟩
  intro transition member
  exact ⟨(inside transition member).1.once, (inside transition member).2.once⟩

end

def failedOne : Resend where
  newBatchId := 2
  source := [⟨1, some 7, "+8613800138000", some "CN", some "hello", .failed, none⟩]
  account := some ⟨100, .prepaid, some "CN"⟩
  rows := []
  batchStatus := .processing
  totalCount := 0
  errorMessage := none
  balanceLogs := []
  handed := []
  nextMessageId := 1
  runCount := 0
  runs _ := .idle

theorem failedOne_idle (index : ℕ) : ¬failedOne.Active index :=
  fun active => active rfl

def resendFirst (run : ℕ) : List ResendLabel :=
  [.scan run, .row run (some (some ⟨7, .smpp, ""⟩)), .charge run (.priced ⟨1, 1, 1, "USD"⟩),
    .row run none, .scan run, .commit run .done]

/-- The worker dies between the commit of the row and the annotation, and the task is delivered
again. -/
theorem resent_twice :
    ∃ transitions last, Run (Step .ascii) failedOne transitions last ∧ ¬last.ResentOnce := by
  have passed : (execute (next .ascii) failedOne
      ([.start] ++ resendFirst 0 ++ [.kill 0, .start] ++ resendFirst 1)).any
        (fun outcome => decide (outcome.2.rows.map ResentRow.sourceId = [1, 1])) = true := by
    decide +kernel
  rcases Run.exists_of_execute _ passed with ⟨transitions, last, run, checked⟩
  refine ⟨transitions, last, run, ?_⟩
  rw [ResentOnce, of_decide_eq_true checked]
  decide

/-- The message is resent, and the execution ends. -/
theorem resent_once_failedOne :
    ∃ transitions last, Run (Step .ascii) failedOne transitions last ∧
      last.rows.map ResentRow.sourceId = [1] ∧ last.ResentOnce := by
  have sent := Run.exists_labels_of_execute
    (fun state : Resend => state.rows.map ResentRow.sourceId = [1])
    (show ((execute (next .ascii) failedOne.start
      (resendFirst 0 ++ [.log 0 true, .queue 0 1 none, .annotate 0 .done,
        .finish 0 .processing none])).any _) = true by decide +kernel)
  rcases sent with ⟨transitions, last, run, labels, ids⟩
  have whole : Run (Step .ascii) failedOne
      (⟨failedOne, .start, failedOne.start⟩ :: transitions) last := .cons rfl run
  refine ⟨_, last, whole, ids, (resent_once whole (by decide) failedOne_idle rfl ?_).1⟩
  intro transition member
  rcases List.mem_cons.mp member with rfl | later
  · exact ⟨failedOne_idle, nofun⟩
  · have label := labels transition later
    simp only [resendFirst, List.cons_append, List.nil_append, List.mem_cons, List.not_mem_nil,
      or_false] at label
    rcases label with label | label | label | label | label | label | label | label | label |
      label <;> rw [label] <;> trivial

end Resend

end Klsmsc
