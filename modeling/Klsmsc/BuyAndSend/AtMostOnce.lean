import Mathlib.Data.List.Nodup
import Klsmsc.BuyAndSend
import Klsmsc.Library.Keys
import Klsmsc.Library.Runs

/-!
# Each number of an order is sent at most once

An attempt by itself writes one row for each entry and hands each of its rows over once: it takes
the numbers of a country together, but every number has one country, and its pages follow each
other by the primary key. What an earlier attempt has committed no attempt looks at. So the law
depends on when an attempt comes to its first commit, and on the publish fallback, which can hand a
payload over twice by itself.
-/

namespace Klsmsc

open Library

section Lists

universe u v w

variable {α : Type u} {β : Type v} {γ : Type w}

theorem nodup_eraseDups [DecidableEq α] (entries : List α) : entries.eraseDups.Nodup := by
  induction size : entries.length using Nat.strongRecOn generalizing entries with
  | _ size ih =>
      cases entries with
      | nil => exact List.nodup_nil
      | cons entry entries =>
          rw [List.eraseDups_cons, List.nodup_cons, List.mem_eraseDups]
          constructor
          · simp
          · have shorter := List.length_filter_le (fun other => !other == entry) entries
            refine ih _ ?_ _ rfl
            rw [← size, List.length_cons]
            omega

theorem map_mapIdx (entries : List α) (make : ℕ → α → β) (read : β → γ) :
    (entries.mapIdx make).map read = entries.mapIdx fun index entry => read (make index entry) := by
  apply List.ext_getElem <;> simp

theorem mapIdx_add (first : ℕ) (entries : List α) :
    entries.mapIdx (fun index _ => first + index) = List.range' first entries.length := by
  apply List.ext_getElem <;> simp

end Lists

section Entries

variable {env : BuySendEnv} {task : BuySendTask} {chunk : List OrderEntry}
  {ordered : List OrderedNumber}

theorem entries_orderedNumbers (env : BuySendEnv) (chunk : List OrderEntry) :
    ((orderedNumbers env chunk).map OrderedNumber.entry).Sublist (chunk.map OrderEntry.id) := by
  induction chunk with
  | nil => exact .slnil
  | cons entry chunk ih =>
      simp only [orderedNumbers, List.filterMap_cons] at ih ⊢
      cases env.number entry.numberId with
      | none => exact ih.cons _
      | some number => exact ih.cons_cons _

theorem mem_countryNumbers {country : String} {routed : RoutedNumber}
    (member : routed ∈ countryNumbers env task ordered country) :
    routed.toOrderedNumber ∈ ordered ∧ routed.country = country := by
  unfold countryNumbers at member
  split at member
  · cases member
  · rcases List.mem_map.mp member with ⟨number, isOrdered, rfl⟩
    simpa using isOrdered

theorem entries_countryNumbers (country : String) :
    ((countryNumbers env task ordered country).map fun routed => routed.entry).Sublist
      (ordered.map OrderedNumber.entry) := by
  unfold countryNumbers
  split
  · exact List.nil_sublist _
  · rw [List.map_map]
    exact List.filter_sublist.map OrderedNumber.entry

theorem entries_routedChunk (task : BuySendTask)
    (distinct : (chunk.map OrderEntry.id).Nodup) :
    ((routedChunk env task chunk).map fun routed => routed.entry).Nodup ∧
      ∀ routed ∈ routedChunk env task chunk, routed.entry ∈ chunk.map OrderEntry.id := by
  have orderedDistinct := distinct.sublist (entries_orderedNumbers env chunk)
  constructor
  · unfold routedChunk
    rw [List.map_flatMap, List.nodup_flatMap]
    constructor
    · intro country _
      exact orderedDistinct.sublist (entries_countryNumbers country)
    · refine (nodup_eraseDups _).imp ?_
      intro first second different
      refine List.disjoint_left.mpr ?_
      intro entry inFirst inSecond
      rcases List.mem_map.mp inFirst with ⟨one, isOne, rfl⟩
      rcases List.mem_map.mp inSecond with ⟨other, isOther, same⟩
      have ⟨oneOrdered, oneCountry⟩ := mem_countryNumbers isOne
      have ⟨otherOrdered, otherCountry⟩ := mem_countryNumbers isOther
      have equal := List.inj_on_of_nodup_map orderedDistinct otherOrdered oneOrdered same
      apply different
      rw [← oneCountry, ← otherCountry, equal]
  · intro routed member
    rcases List.mem_flatMap.mp member with ⟨country, _, inCountry⟩
    exact (entries_orderedNumbers env chunk).subset
      (List.mem_map_of_mem (mem_countryNumbers inCountry).1)

theorem entries_routedNumbers (env : BuySendEnv) (task : BuySendTask) :
    ((routedNumbers env task).map fun routed => routed.entry).Nodup := by
  have whole : ((slices buySendChunk task.entries).map
      fun chunk => chunk.map OrderEntry.id).flatten.Nodup := by
    rw [← List.map_flatten, flatten_slices (by decide)]
    exact task.entries_nodup
  rw [List.nodup_flatten, List.pairwise_map] at whole
  rcases whole with ⟨each, apart⟩
  have eachChunk : ∀ chunk ∈ slices buySendChunk task.entries,
      (chunk.map OrderEntry.id).Nodup :=
    fun chunk member => each _ (List.mem_map_of_mem member)
  unfold routedNumbers
  rw [List.map_flatMap, List.nodup_flatMap]
  constructor
  · intro chunk member
    exact (entries_routedChunk task (eachChunk chunk member)).1
  · refine apart.imp_of_mem ?_
    intro first second isFirst isSecond disjoint
    refine List.disjoint_left.mpr ?_
    intro entry inFirst inSecond
    rcases List.mem_map.mp inFirst with ⟨one, isOne, rfl⟩
    rcases List.mem_map.mp inSecond with ⟨other, isOther, same⟩
    have fromFirst := (entries_routedChunk task (eachChunk first isFirst)).2 one isOne
    have fromSecond := (entries_routedChunk task (eachChunk second isSecond)).2 other isOther
    rw [same] at fromSecond
    exact disjoint fromFirst fromSecond

end Entries

def Db.batchKeys (db : Db) (batchId : ℕ) : List (ℕ × MessageId) :=
  (db.batchLogs batchId).map fun row => (row.id, row.messageId)

section Keys

variable (db : Db) (batchId : ℕ)

theorem batchLogs_congr {other : Db} (same : other.smsLogs = db.smsLogs) :
    other.batchLogs batchId = db.batchLogs batchId := by
  unfold Db.batchLogs
  rw [same]

theorem smsLogs_modifyBatch (change : SmsBatch → SmsBatch) :
    (db.modifyBatch batchId change).smsLogs = db.smsLogs := by
  unfold Db.modifyBatch
  split <;> rfl

@[simp]
theorem batchKeys_modifyBatch (other : ℕ) (change : SmsBatch → SmsBatch) :
    (db.modifyBatch other change).batchKeys batchId = db.batchKeys batchId := by
  unfold Db.batchKeys
  rw [batchLogs_congr db batchId (smsLogs_modifyBatch db other change)]

theorem batchKeys_updateSmsLogs (condition : SmsLog → Bool) {update : SmsLog → SmsLog}
    (kept : ∀ row, (update row).id = row.id ∧ (update row).messageId = row.messageId ∧
      (update row).batchId = row.batchId) :
    (db.updateSmsLogs condition update).batchKeys batchId = db.batchKeys batchId := by
  have inBatch : ∀ row : SmsLog,
      (if condition row then update row else row).batchId = row.batchId := by
    intro row
    split
    · exact (kept row).2.2
    · rfl
  unfold Db.batchKeys Db.batchLogs
  rw [Db.updateSmsLogs_smsLogs, List.filter_map, List.map_map]
  simp only [Function.comp_def, inBatch]
  refine List.map_congr_left ?_
  intro row _
  split
  · rw [(kept row).1, (kept row).2.1]
  · rfl

theorem batchKeys_updateBatchProgress (unicode : Unicode) (other now : ℕ) (report : String) :
    (db.updateBatchProgress unicode other now report).batchKeys batchId =
      db.batchKeys batchId := by
  unfold Db.updateBatchProgress
  split
  · rfl
  · rfl
  · exact batchKeys_updateSmsLogs db batchId _ fun _ => ⟨rfl, rfl, rfl⟩

theorem batchKeys_addSmsLogs (rows : List SmsLog) (own : ∀ row ∈ rows, row.batchId = some batchId) :
    (db.addSmsLogs rows).batchKeys batchId =
      db.batchKeys batchId ++ rows.map fun row => (row.id, row.messageId) := by
  have all : (rows.filter fun row => row.batchId = some batchId) = rows :=
    List.filter_eq_self.mpr fun row member => decide_eq_true (own row member)
  unfold Db.batchKeys Db.batchLogs
  rw [Db.addSmsLogs_smsLogs, List.filter_append, all, List.map_append]

end Keys

section Pages

variable {db : Db} {batchId lastLogId : ℕ}

theorem mem_nextPage {row : SmsLog} (member : row ∈ nextPage db batchId lastLogId) :
    row ∈ db.batchLogs batchId ∧ lastLogId < row.id := by
  simpa using (List.mem_insertionSort _).mp (List.mem_of_mem_take member)

theorem key_of_mem_nextPage {row : SmsLog} (member : row ∈ nextPage db batchId lastLogId) :
    (row.id, row.messageId) ∈ db.batchKeys batchId :=
  List.mem_map_of_mem (mem_nextPage member).1

theorem nodup_nextPage (distinct : ((db.batchKeys batchId).map Prod.snd).Nodup) (lastLogId : ℕ) :
    ((nextPage db batchId lastLogId).map SmsLog.messageId).Nodup := by
  unfold Db.batchKeys at distinct
  rw [List.map_map] at distinct
  have filtered := distinct.sublist
    ((List.filter_sublist (p := fun row => lastLogId < row.id)).map _)
  have sorted := ((List.perm_insertionSort (fun first second : SmsLog => first.id ≤ second.id)
    _).map SmsLog.messageId).nodup_iff.mpr filtered
  exact sorted.sublist ((List.take_sublist _ _).map _)

theorem id_le_getLast {row last : SmsLog}
    (isLast : (nextPage db batchId lastLogId).getLast? = some last)
    (member : row ∈ nextPage db batchId lastLogId) : row.id ≤ last.id := by
  have total : Std.Total fun first second : SmsLog => first.id ≤ second.id :=
    ⟨fun first second => Nat.le_total first.id second.id⟩
  have transitive : IsTrans SmsLog fun first second => first.id ≤ second.id :=
    ⟨fun _ _ _ => Nat.le_trans⟩
  have sorted : (nextPage db batchId lastLogId).Pairwise fun first second =>
      first.id ≤ second.id :=
    (List.pairwise_insertionSort _ _).sublist (List.take_sublist _ _)
  rcases List.getLast?_eq_some_iff.mp isLast with ⟨others, split⟩
  rw [split] at sorted member
  rcases List.mem_append.mp member with inOthers | isLast
  · exact (List.pairwise_append.mp sorted).2.2 row inOthers last (by simp)
  · exact Nat.le_of_eq (congrArg SmsLog.id (List.mem_singleton.mp isLast))

end Pages

def SendCall.messageIds : SendCall → List MessageId
  | .smpp payloads => payloads.map SmppPayload.messageId
  | .sms messageId => [messageId]

theorem messageIds_pageCalls (values : Sending) (sanitize : String → String) (page : List SmsLog) :
    ((values.pageCalls sanitize page).flatMap SendCall.messageIds).Perm
      (page.map SmsLog.messageId) := by
  have packages : (slices mqBatchSize ((page.filter values.isSmpp).map
      (rowPayload sanitize values.batchStatus))).flatMap (fun window =>
        SendCall.messageIds (.smpp window)) =
      (page.filter values.isSmpp).map SmsLog.messageId := by
    change (slices mqBatchSize _).flatMap (List.map SmppPayload.messageId) = _
    rw [List.flatMap, ← List.map_flatten, flatten_slices (by decide), List.map_map]
    rfl
  have singles : (page.filter fun row => !values.isSmpp row).flatMap (fun row =>
      SendCall.messageIds (.sms row.messageId)) =
      (page.filter fun row => !values.isSmpp row).map SmsLog.messageId := by
    exact List.map_eq_flatMap.symm
  unfold Sending.pageCalls
  rw [List.flatMap_append, List.flatMap_map, List.flatMap_map, packages, singles,
    ← List.map_append]
  exact (List.filter_append_perm _ page).map _

def SendCall.Safe (broker : Broker) : SendCall → Prop
  | .smpp payloads => AllOrNothing broker payloads
  | .sms _ => True

theorem published_sublist {broker : Broker} {call : SendCall} (safe : call.Safe broker) :
    (call.published broker).Sublist call.messageIds := by
  cases call with
  | smpp payloads =>
      have ⟨counted, within⟩ := publishSmpp_of_allOrNothing broker payloads safe
      simp only [SendCall.published, SendCall.messageIds, counted]
      exact within.map _
  | sms messageId =>
      simp only [SendCall.published, SendCall.messageIds]
      split
      · exact .refl _
      · exact List.nil_sublist _

def AttemptStage.isSending : AttemptStage → Bool
  | .sending _ => true
  | _ => false

namespace BuySend

variable (task : BuySendTask)

def rowsOf (state : BuySend) (entry : ℕ) : List SmsLog :=
  (state.db.batchLogs task.batchId).filter fun row => (entry, row.messageId) ∈ state.origins

def handedOf (state : BuySend) (entry : ℕ) : List MessageId :=
  state.handed.filter fun messageId => (entry, messageId) ∈ state.origins

def AtMostOnce (state : BuySend) : Prop :=
  ∀ entry ∈ task.entries,
    (state.rowsOf task entry.id).length ≤ 1 ∧ (state.handedOf entry.id).length ≤ 1

/-- An attempt that commits rows finds no row of their entries, nothing that has been handed
over, and no other attempt that is about to hand rows over; and no package is published in
part. -/
def StartsOver (before : BuySend) : BuySendLabel → Prop
  | .commitRows _ env _ =>
      (∀ routed ∈ routedNumbers env task, routed.entry ∉ before.origins.map Prod.fst) ∧
        before.handed = [] ∧ ∀ attempt, (before.attempts attempt).isSending = false
  | .publish attempt broker =>
      ∀ values call calls, before.attempts attempt = .sending values →
        values.calls = call :: calls → call.Safe broker
  | _ => True

def messages (state : BuySend) : List MessageId :=
  (state.db.batchKeys task.batchId).map Prod.snd

structure Fits (state : BuySend) (values : Sending) : Prop where
  once : (state.handed ++ values.calls.flatMap SendCall.messageIds).Nodup
  own : ∀ messageId ∈ values.calls.flatMap SendCall.messageIds, messageId ∈ state.messages task
  later : ∀ key ∈ state.db.batchKeys task.batchId, values.lastLogId < key.1 →
    key.2 ∉ state.handed ++ values.calls.flatMap SendCall.messageIds

structure Orderly (state : BuySend) : Prop where
  entries : (state.origins.map Prod.fst).Nodup
  distinct : (state.messages task).Nodup
  origins : state.origins.map Prod.snd = state.messages task
  drawn : ∀ messageId ∈ state.messages task, messageId < state.drawn
  once : state.handed.Nodup
  single : ∀ first second, (state.attempts first).isSending = true →
    (state.attempts second).isSending = true → first = second
  fits : ∀ attempt values, state.attempts attempt = .sending values → state.Fits task values

section

variable {task} {state : BuySend}

theorem Fresh.orderly (fresh : state.Fresh task) : state.Orderly task := by
  have none : state.messages task = [] := by
    unfold messages Db.batchKeys
    rw [fresh.noRows]
    rfl
  refine ⟨?_, ?_, ?_, ?_, ?_, ?_, ?_⟩
  · rw [fresh.noOrigins]
    exact List.nodup_nil
  · rw [none]
    exact List.nodup_nil
  · rw [none, fresh.noOrigins]
    rfl
  · rw [none]
    intro messageId member
    cases member
  · rw [fresh.unsent]
    exact List.nodup_nil
  · intro first _ isSending
    rw [fresh.unstarted] at isSending
    cases isSending
  · intro attempt values isSending
    rw [fresh.unstarted] at isSending
    cases isSending

theorem Orderly.atMostOnce (orderly : state.Orderly task) : state.AtMostOnce task := by
  have unique : ∀ entry first second, (entry, first) ∈ state.origins →
      (entry, second) ∈ state.origins → first = second := by
    intro entry first second isFirst isSecond
    have equal := List.inj_on_of_nodup_map orderly.entries isFirst isSecond rfl
    exact congrArg Prod.snd equal
  intro entry _
  constructor
  · have distinct := orderly.distinct
    unfold messages Db.batchKeys at distinct
    rw [List.map_map] at distinct
    have rows : ((state.rowsOf task entry.id).map SmsLog.messageId).Nodup :=
      distinct.sublist (List.filter_sublist.map _)
    rw [← List.length_map SmsLog.messageId]
    refine length_le_one rows ?_
    intro first isFirst second isSecond
    rcases List.mem_map.mp isFirst with ⟨one, isOne, rfl⟩
    rcases List.mem_map.mp isSecond with ⟨other, isOther, rfl⟩
    have ⟨_, oneOrigin⟩ := List.mem_filter.mp isOne
    have ⟨_, otherOrigin⟩ := List.mem_filter.mp isOther
    exact unique _ _ _ (of_decide_eq_true oneOrigin) (of_decide_eq_true otherOrigin)
  · refine length_le_one (orderly.once.filter _) ?_
    intro first isFirst second isSecond
    have ⟨_, firstOrigin⟩ := List.mem_filter.mp isFirst
    have ⟨_, secondOrigin⟩ := List.mem_filter.mp isSecond
    exact unique _ _ _ (of_decide_eq_true firstOrigin) (of_decide_eq_true secondOrigin)

end

theorem Fits.write {task : BuySendTask} {state : BuySend} {values : Sending}
    (fits : state.Fits task values) {db : Db} (order : DataOrder)
    (kept : db.batchKeys task.batchId = state.db.batchKeys task.batchId) :
    Fits task { state with db := db, order := order } values := by
  refine ⟨fits.once, ?_, ?_⟩
  · intro messageId member
    have own := fits.own messageId member
    unfold messages at own ⊢
    rwa [kept]
  · rw [kept]
    exact fits.later

namespace Orderly

variable {task} {state : BuySend}

theorem write (orderly : state.Orderly task) {db : Db} (order : DataOrder)
    (kept : db.batchKeys task.batchId = state.db.batchKeys task.batchId) :
    Orderly task { state with db := db, order := order } := by
  have same : messages task { state with db := db, order := order } = state.messages task :=
    congrArg (List.map Prod.snd) kept
  refine ⟨orderly.entries, ?_, ?_, ?_, orderly.once, orderly.single, ?_⟩
  · rw [same]
    exact orderly.distinct
  · rw [same]
    exact orderly.origins
  · rw [same]
    exact orderly.drawn
  · intro attempt values isSending
    exact (orderly.fits attempt values isSending).write order kept

theorem setStage (orderly : state.Orderly task) {attempt : ℕ} {stage : AttemptStage}
    (only : stage.isSending = true → ∀ other, (state.attempts other).isSending = true →
      other = attempt)
    (fits : ∀ values, stage = .sending values → state.Fits task values) :
    (state.setStage attempt stage).Orderly task := by
  refine ⟨orderly.entries, orderly.distinct, orderly.origins, orderly.drawn, orderly.once, ?_, ?_⟩
  · intro first second firstSending secondSending
    simp only [BuySend.setStage, Function.update_apply] at firstSending secondSending
    split at firstSending <;> split at secondSending
    · rename_i isFirst isSecond
      rw [isFirst, isSecond]
    · rename_i isFirst _
      rw [isFirst, only firstSending second secondSending]
    · rename_i _ isSecond
      rw [isSecond, only secondSending first firstSending]
    · exact orderly.single first second firstSending secondSending
  · intro other values isSending
    simp only [BuySend.setStage, Function.update_apply] at isSending
    split at isSending
    · have kept := fits values isSending
      exact ⟨kept.once, kept.own, kept.later⟩
    · have kept := orderly.fits other values isSending
      exact ⟨kept.once, kept.own, kept.later⟩

theorem finished (orderly : state.Orderly task) (attempt : ℕ) :
    (state.setStage attempt .ended).Orderly task :=
  orderly.setStage (fun isSending => by cases isSending) fun _ isSending => by cases isSending

theorem only (orderly : state.Orderly task) {attempt : ℕ} {values : Sending}
    (isSending : state.attempts attempt = .sending values) (other : ℕ)
    (otherSending : (state.attempts other).isSending = true) : other = attempt :=
  orderly.single other attempt otherSending (by rw [isSending]; rfl)

theorem commitRows (orderly : state.Orderly task) (attempt : ℕ) {env : BuySendEnv}
    {firstLogId : ℕ} (startsOver : state.StartsOver task (.commitRows attempt env firstLogId)) :
    (state.commitRows task attempt env firstLogId).Orderly task := by
  rcases startsOver with ⟨newEntries, unsent, idle⟩
  set routed := routedNumbers env task with isRouted
  have own : ∀ row ∈ sendRows env task state.drawn firstLogId, row.batchId = some task.batchId := by
    intro row member
    rcases List.mem_mapIdx.mp member with ⟨index, bound, rfl⟩
    rfl
  have ids : (sendRows env task state.drawn firstLogId).map SmsLog.messageId =
      List.range' state.drawn routed.length := by
    rw [sendRows, map_mapIdx]
    exact mapIdx_add _ _
  have messages : (state.commitRows task attempt env firstLogId).messages task =
      state.messages task ++ List.range' state.drawn routed.length := by
    unfold BuySend.messages BuySend.commitRows
    rw [batchKeys_modifyBatch, batchKeys_addSmsLogs _ _ _ own, List.map_append, List.map_map]
    exact congrArg _ ids
  have origins : (state.commitRows task attempt env firstLogId).origins.map Prod.snd =
      state.origins.map Prod.snd ++ List.range' state.drawn routed.length := by
    simp only [BuySend.commitRows, List.map_append, map_mapIdx]
    exact congrArg _ (mapIdx_add _ _)
  have entries : (state.commitRows task attempt env firstLogId).origins.map Prod.fst =
      state.origins.map Prod.fst ++ routed.map fun number => number.entry := by
    simp only [BuySend.commitRows, List.map_append, map_mapIdx]
    refine congrArg _ ?_
    apply List.ext_getElem <;> simp [isRouted]
  refine ⟨?_, ?_, ?_, ?_, ?_, ?_, ?_⟩
  · rw [entries]
    refine List.Nodup.append orderly.entries (entries_routedNumbers env task) ?_
    refine List.disjoint_left.mpr ?_
    intro entry isOld isNew
    rcases List.mem_map.mp isNew with ⟨number, member, rfl⟩
    exact newEntries number member isOld
  · rw [messages]
    refine List.Nodup.append orderly.distinct (List.nodup_range' ..) ?_
    refine List.disjoint_left.mpr ?_
    intro messageId isOld isNew
    have below := orderly.drawn messageId isOld
    have above := (List.mem_range'_1.mp isNew).1
    exact Nat.not_le_of_lt below above
  · rw [origins, messages, orderly.origins]
  · rw [messages]
    intro messageId member
    change messageId < state.drawn + routed.length
    rcases List.mem_append.mp member with isOld | isNew
    · exact Nat.lt_add_right _ (orderly.drawn messageId isOld)
    · exact (List.mem_range'_1.mp isNew).2
  · exact orderly.once
  · intro first second firstSending secondSending
    simp only [BuySend.commitRows, BuySend.setStage,
      Function.update_apply] at firstSending secondSending
    split at firstSending
    · split at secondSending
      · rename_i isFirst isSecond
        rw [isFirst, isSecond]
      · rw [idle second] at secondSending
        cases secondSending
    · rw [idle first] at firstSending
      cases firstSending
  · intro other values isSending
    simp only [BuySend.commitRows, BuySend.setStage, Function.update_apply] at isSending
    split at isSending
    · injection isSending with isValues
      subst isValues
      refine ⟨?_, ?_, ?_⟩
      · change (state.handed ++ []).Nodup
        rw [unsent]
        exact List.nodup_nil
      · intro messageId member
        cases member
      · intro key _ _
        change key.2 ∉ state.handed ++ []
        rw [unsent]
        exact List.not_mem_nil
    · have none := idle other
      rw [isSending] at none
      cases none

theorem messageId_withLinks (env : BuySendEnv) (row : SmsLog) :
    (row.withLinks env).messageId = row.messageId := by
  unfold SmsLog.withLinks
  split <;> rfl

theorem batchKeys_replaceLinks (state : BuySend) (env : BuySendEnv) (page : List SmsLog)
    (batchId : ℕ) :
    (state.replaceLinks env page).db.batchKeys batchId = state.db.batchKeys batchId := by
  refine batchKeys_updateSmsLogs state.db batchId _ ?_
  intro row
  unfold SmsLog.withLinks
  split <;> exact ⟨rfl, rfl, rfl⟩

theorem fits_readPage (orderly : state.Orderly task) {attempt : ℕ} {values : Sending}
    (isSending : state.attempts attempt = .sending values) {last : SmsLog}
    (sanitize : String → String) (page : List SmsLog)
    (isLast : (nextPage state.db task.batchId values.lastLogId).getLast? = some last)
    (samePage : page.map SmsLog.messageId =
      (nextPage state.db task.batchId values.lastLogId).map SmsLog.messageId) :
    state.Fits task
      { values with lastLogId := last.id, calls := values.pageCalls sanitize page } := by
  have fits := orderly.fits attempt values isSending
  have calls : ((values.pageCalls sanitize page).flatMap SendCall.messageIds).Perm
      ((nextPage state.db task.batchId values.lastLogId).map SmsLog.messageId) :=
    samePage ▸ messageIds_pageCalls values sanitize page
  have unsent : ∀ key ∈ state.db.batchKeys task.batchId, values.lastLogId < key.1 →
      key.2 ∉ state.handed := by
    intro key isKey later isHanded
    exact fits.later key isKey later (List.mem_append_left _ isHanded)
  have atLast : values.lastLogId < last.id := by
    rcases List.getLast?_eq_some_iff.mp isLast with ⟨others, split⟩
    exact (mem_nextPage (by rw [split]; simp)).2
  refine ⟨?_, ?_, ?_⟩
  · refine List.Nodup.append orderly.once
      (calls.nodup_iff.mpr (nodup_nextPage orderly.distinct values.lastLogId)) ?_
    refine List.disjoint_left.mpr ?_
    intro messageId isHanded inCalls
    rcases List.mem_map.mp (calls.mem_iff.mp inCalls) with ⟨row, onPage, rfl⟩
    exact unsent _ (key_of_mem_nextPage onPage) (mem_nextPage onPage).2 isHanded
  · intro messageId inCalls
    rcases List.mem_map.mp (calls.mem_iff.mp inCalls) with ⟨row, onPage, rfl⟩
    exact List.mem_map_of_mem (key_of_mem_nextPage onPage)
  · intro key isKey later member
    rcases List.mem_append.mp member with isHanded | inCalls
    · exact unsent key isKey (Nat.lt_trans atLast later) isHanded
    · rcases List.mem_map.mp (calls.mem_iff.mp inCalls) with ⟨row, onPage, same⟩
      have equal := List.inj_on_of_nodup_map orderly.distinct
        (key_of_mem_nextPage onPage) isKey same
      have atMost := id_le_getLast isLast onPage
      rw [← equal] at later
      exact Nat.not_lt_of_le atMost later

theorem publish (orderly : state.Orderly task) {attempt : ℕ} {values : Sending} {call : SendCall}
    {calls : List SendCall} (isSending : state.attempts attempt = .sending values)
    (isNext : values.calls = call :: calls) {broker : Broker} (safe : call.Safe broker) :
    Orderly task
      { state.setStage attempt (.sending
          { values with calls := calls, queued := values.queued + call.counted broker }) with
        handed := state.handed ++ call.published broker } := by
  have fits := orderly.fits attempt values isSending
  have part : (state.handed ++ call.published broker ++
      calls.flatMap SendCall.messageIds).Sublist
        (state.handed ++ values.calls.flatMap SendCall.messageIds) := by
    rw [isNext, List.flatMap_cons, List.append_assoc]
    exact (List.Sublist.refl _).append ((published_sublist safe).append (.refl _))
  refine ⟨orderly.entries, orderly.distinct, orderly.origins, orderly.drawn, ?_, ?_, ?_⟩
  · exact fits.once.sublist ((List.sublist_append_left _ _).trans part)
  · intro first second firstSending secondSending
    have isAttempt : ∀ other, ((Function.update state.attempts attempt (.sending
        { values with calls := calls, queued := values.queued + call.counted broker }))
          other).isSending = true → other = attempt := by
      intro other otherSending
      by_contra different
      rw [Function.update_of_ne different] at otherSending
      exact different (orderly.only isSending other otherSending)
    rw [isAttempt first firstSending, isAttempt second secondSending]
  · intro other otherValues otherSending
    simp only [BuySend.setStage, Function.update_apply] at otherSending
    split at otherSending
    · injection otherSending with isValues
      subst isValues
      refine ⟨fits.once.sublist part, ?_, ?_⟩
      · intro messageId member
        refine fits.own messageId ?_
        rw [isNext, List.flatMap_cons]
        exact List.mem_append_right _ member
      · intro key isKey later member
        exact fits.later key isKey later (part.subset member)
    · rename_i different
      exact absurd (orderly.only isSending other (by rw [otherSending]; rfl)) different

theorem next (orderly : state.Orderly task) {label : BuySendLabel} {after : BuySend}
    (step : state.Step task label after) (startsOver : state.StartsOver task label) :
    after.Orderly task := by
  cases performs_of_step step with
  | commitRows => exact orderly.commitRows _ startsOver
  | readPage isSending _ isLast =>
      refine orderly.setStage (fun _ => orderly.only isSending) ?_
      intro read isRead
      rw [← AttemptStage.sending.inj isRead]
      exact orderly.fits_readPage isSending _ _ isLast rfl
  | @replaceLinks _ env values _ isSending _ isLast =>
      let loaded := nextPage state.db task.batchId values.lastLogId
      have kept := batchKeys_replaceLinks state env loaded task.batchId
      have stored := orderly.write state.order kept
      refine stored.setStage (fun _ => orderly.only isSending) ?_
      intro read isRead
      rw [← AttemptStage.sending.inj isRead]
      have samePage : (loaded.map (SmsLog.withLinks env)).map SmsLog.messageId =
          loaded.map SmsLog.messageId := by
        rw [List.map_map]
        exact List.map_congr_left fun row _ => messageId_withLinks env row
      exact (orderly.fits_readPage isSending _ _ isLast samePage).write state.order kept
  | publish isSending isNext =>
      exact orderly.publish isSending isNext (startsOver _ _ _ isSending isNext)
  | finish =>
      refine (orderly.finished _).write _ ?_
      rw [batchKeys_modifyBatch, batchKeys_updateBatchProgress]
      rfl
  | raise => exact orderly.finished _
  | raiseFinalized =>
      refine (orderly.finished _).write _ ?_
      rw [batchKeys_modifyBatch]
      rfl

end Orderly

/-- In every run in which attempts start over, each entry of the order gives rise to at most one
row, which is handed over at most once. -/
theorem entries_sent_at_most_once {task : BuySendTask} {first last : BuySend}
    {transitions : List (Transition BuySend BuySendLabel)} (fresh : first.Fresh task)
    (run : Run (Step task) first transitions last)
    (startsOver : ∀ transition ∈ transitions,
      transition.before.StartsOver task transition.label) :
    last.AtMostOnce task ∧ ∀ transition ∈ transitions, transition.after.AtMostOnce task := by
  have preserved : ∀ before label after,
      Guarded (Step task) (StartsOver task) before label after →
        before.Orderly task → after.Orderly task :=
    fun _ _ _ guarded orderly => orderly.next guarded.1 guarded.2
  rcases (run.guarded startsOver).invariant preserved fresh.orderly with ⟨atEnd, inside⟩
  exact ⟨atEnd.atMostOnce, fun transition member => (inside transition member).2.atMostOnce⟩

def oneNumber : BuySendTask where
  batchId := 1
  accountId := 1
  entries := [⟨10, 20⟩]
  message := "hello"
  messages := []
  channelId := none
  entries_nodup := by decide

def oneNumberEnv : BuySendEnv where
  toChunkEnv := .plain (.plain .http) 500
  number _ := some
    { id := 20
      phoneNumber := "+8613800138000"
      countryCode := "CN"
      status := .active
      carrier := none
      source := none
      purpose := none
      dataDate := none
      batchId := none
      lastUsedAt := none
      useCount := 0
      accountId := some 1 }
  dialCode _ := "86"
  pinnedChannel _ := none
  boundChannel _ := none

def oneNumberBought : BuySend where
  db := .plain 0 (.plain .http) []
  order := ⟨.processing, 0, none⟩
  drawn := 0
  origins := []
  handed := []
  attempts _ := .notStarted

theorem oneNumberBought_fresh : oneNumberBought.Fresh oneNumber where
  noRows := by decide
  noOrigins := rfl
  unsent := rfl
  unstarted := fun _ => rfl

/-- The first attempt sends the number, and a deadlock in one of its last statements ends it; the
second attempt writes another row and hands both rows over. -/
theorem sent_again_after_deadlock :
    ¬∀ (task : BuySendTask) (first last : BuySend)
        (transitions : List (Transition BuySend BuySendLabel)), first.Fresh task →
      Run (Step task) first transitions last → last.AtMostOnce task := by
  intro always
  have sent := Run.exists_labels_of_execute
    (fun state : BuySend =>
      (state.rowsOf oneNumber 10).length = 2 ∧ (state.handedOf 10).length = 3)
    (show ((execute (BuySend.next oneNumber) oneNumberBought
      [.commitRows 0 oneNumberEnv 1, .readPage 0 oneNumberEnv false,
        .publish 0 oneNumberEnv.broker, .raise 0 none, .commitRows 1 oneNumberEnv 2,
        .readPage 1 oneNumberEnv false, .publish 1 oneNumberEnv.broker,
        .publish 1 oneNumberEnv.broker]).any _) = true by decide)
  rcases sent with ⟨transitions, last, run, -, rows, -⟩
  have bound := (always oneNumber oneNumberBought last transitions oneNumberBought_fresh run
    ⟨10, 20⟩ (by decide)).1
  change (last.rowsOf oneNumber 10).length ≤ 1 at bound
  omega

theorem safe_oneNumber (call : SendCall) : call.Safe oneNumberEnv.broker := by
  cases call with
  | smpp payloads => exact .inl rfl
  | sms messageId => trivial

theorem entries_sent_at_most_once_oneNumber :
    ∃ transitions last, Run (Step oneNumber) oneNumberBought transitions last ∧
      last.handed = [0] ∧ last.AtMostOnce oneNumber := by
  have passed : (execute (BuySend.next oneNumber) oneNumberBought
      [.commitRows 0 oneNumberEnv 1, .readPage 0 oneNumberEnv false,
        .publish 0 oneNumberEnv.broker]).any (fun outcome => outcome.2.handed = [0]) = true := by
    decide
  rcases Run.exists_labelled_of_execute _ passed with ⟨transitions, last, run, labels, handed⟩
  refine ⟨transitions, last, run, of_decide_eq_true handed,
    (entries_sent_at_most_once oneNumberBought_fresh run ?_).1⟩
  clear passed handed
  cases run with
  | nil => cases labels
  | cons head tail =>
      rcases List.cons.inj labels with ⟨rfl, rest⟩
      intro transition member
      rcases List.mem_cons.mp member with rfl | later
      · exact ⟨fun _ _ => List.not_mem_nil, rfl, fun _ => rfl⟩
      · have label : transition.label ∈ [.readPage 0 oneNumberEnv false,
            .publish 0 oneNumberEnv.broker] := rest ▸ List.mem_map_of_mem later
        simp only [List.mem_cons, List.not_mem_nil, or_false] at label
        rcases label with label | label
        · rw [label]
          trivial
        · rw [label]
          exact fun _ call _ _ _ => safe_oneNumber call

end BuySend

end Klsmsc
