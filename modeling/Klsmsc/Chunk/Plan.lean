import Klsmsc.Chunk.FallbackRun
import Klsmsc.Chunk.WriteRun
import Klsmsc.Dispatch
import Mathlib.Data.Nat.Pairing

/-!
# What an undisturbed execution does

The rows that an undisturbed execution stores and where it hands over those that are to be
sent, as functions of its arguments and of the tables: first for each of the ways that the
valid entries can go, then for the paths and the whole execution.
-/

namespace Klsmsc

open Library

def IdSite.isSent : IdSite → Bool
  | .virtual _ => true
  | .written _ _ _ => true
  | .fallback _ => true
  | .prefailed _ => false
  | .exhausted _ => false

def ChunkEnv.isSent (env : ChunkEnv) (messageId : MessageId) : Prop :=
  ∃ site : IdSite, site.isSent ∧ env.messageId site = messageId

def pairedId : IdSite → ℕ
  | .virtual index => 5 * index
  | .prefailed index => 5 * index + 1
  | .written slice attempt index => 5 * Nat.pair slice (Nat.pair attempt index) + 2
  | .fallback index => 5 * index + 3
  | .exhausted index => 5 * index + 4

theorem pairedId_injective : Function.Injective pairedId := by
  intro one two same
  cases one <;> cases two <;> simp only [pairedId] at same
  case written.written slice attempt index slice' attempt' index' =>
    have pairs : Nat.pair slice (Nat.pair attempt index) =
        Nat.pair slice' (Nat.pair attempt' index') := by omega
    rw [Nat.pair_eq_pair, Nat.pair_eq_pair] at pairs
    rw [pairs.1, pairs.2.1, pairs.2.2]
  all_goals first
    | omega
    | (congr 1; omega)

structure Plan where
  rows : List LogCore
  dispatches : List Dispatch

def Plan.empty : Plan := ⟨[], []⟩

def sliceRoute (last : Option Channel) (item : ValidItem) : Route :=
  match item.channel.protocol with
  | .virtual => .simulation
  | .smpp => .smppQueue
  | .http => httpRoute last

def windowRoute (label : Option GroupLabel) (item : ValidItem) : Option Route :=
  if item.isVirtual then some .simulation else label.bind GroupLabel.route

section

variable (env : ChunkEnv) (input : ChunkInput)

def sliceDispatches (part : List ValidItem × ℕ) : List Dispatch :=
  part.1.mapIdx fun index item =>
    ⟨env.messageId (.written part.2 0 index), item.channel,
      some (sliceRoute (part.1.getLast?.map ValidItem.channel) item)⟩

def windowDispatches (window : List ChargedItem × Option GroupLabel) : List Dispatch :=
  window.1.map fun entry =>
    ⟨entry.messageId env, entry.1.1.channel, windowRoute window.2 entry.1.1⟩

def fallbackWindows (account : Account) (items : List ValidItem) :
    List (List ChargedItem × Option GroupLabel) :=
  let charged := chargedItems env input account items
  windows commitEvery (groupLabel charged)
    (some (reached none items charged.length, charged.any fun entry => entry.1.isVirtual))
    charged.zipIdx

def writePlan (items : List ValidItem) : Plan where
  rows := (slices dbLogChunk items).zipIdx.flatMap (sliceRows env input)
  dispatches := (slices dbLogChunk items).zipIdx.flatMap (sliceDispatches env)

def fallbackPlan (account : Option Account) (items : List ValidItem) : Plan :=
  match account with
  | none => ⟨unownedRows env input items, []⟩
  | some account =>
      ⟨fallbackRows env input account items,
        (fallbackWindows env input account items).flatMap (windowDispatches env)⟩

def CheckContext.affords (context : CheckContext) (items : List ValidItem) : Bool :=
  totalSell env input items ≤ 0 ∨
    canPay context.account context.isPostpaid (totalSell env input items)

def sendPlan (context : CheckContext) (items : List ValidItem) : Plan :=
  if items = [] then .empty
  else if context.affords env input items then writePlan env input items
  else fallbackPlan env input context.account items

def ordinaryPlan (context : CheckContext) (checked : Prechecked) : Plan where
  rows := (checked.prefailed.mapIdx (Prefailed.smsLog env input)).map SmsLog.core ++
    (sendPlan env input context checked.valid).rows
  dispatches := (sendPlan env input context checked.valid).dispatches

def virtualPlan (context : CheckContext) (checked : Prechecked) : Plan :=
  if context.affords env input checked.valid then
    ⟨(checked.valid.mapIdx fun index item => item.smsLog env input (.virtual index)).map
        SmsLog.core,
      checked.valid.mapIdx fun index item =>
        ⟨env.messageId (.virtual index), item.channel, some .simulation⟩⟩
  else .empty

def checkedOf (result : Except Raise Prechecked) : Prechecked :=
  match result with
  | .ok checked => checked
  | .error _ => .empty

def chunkChecked (db : Db) : Prechecked :=
  let context := checkContext env .never input db
  match virtualChannel input db with
  | some channel => checkedOf (precheckVirtual env .never input context channel 0 input.phoneNumbers)
  | none => checkedOf (precheck env .never input context 0 input.phoneNumbers)

def ChunkInput.isStopped (db : Db) : Bool :=
  (db.batches input.batchId).any fun batch => batch.status.stopped

def chunkPlan (db : Db) : Plan :=
  let context := checkContext env .never input db
  if input.isStopped db then .empty
  else if (virtualChannel input db).isSome then
    virtualPlan env input context (chunkChecked env input db)
  else ordinaryPlan env input context (chunkChecked env input db)

end

section

variable {env : ChunkEnv} {input : ChunkInput}

theorem zip_mapIdx {α β : Type} (entries : List α) (update : ℕ → α → β) :
    entries.zip (entries.mapIdx update) =
      entries.mapIdx fun index entry => (entry, update index entry) := by
  refine List.ext_getElem (by simp) fun index _ _ => ?_
  simp

theorem mem_writtenIds {protocol : Protocol} {part : List ValidItem × ℕ} {messageId : MessageId} :
    messageId ∈ writtenIds env input protocol part ↔
      ∃ index, ∃ inside : index < part.1.length,
        (part.1[index]).channel.protocol = protocol ∧
          env.messageId (.written part.2 0 index) = messageId := by
  simp only [writtenIds, attemptIds, idsOn, attemptRows, zip_mapIdx, List.mem_map, List.mem_filter,
    List.mem_mapIdx, decide_eq_true_eq]
  constructor
  · rintro ⟨_, ⟨⟨index, inside, rfl⟩, on⟩, isId⟩
    exact ⟨index, inside, on, isId⟩
  · rintro ⟨index, inside, on, isId⟩
    exact ⟨_, ⟨⟨index, inside, rfl⟩, on⟩, isId⟩

theorem slice_delivers (part : List ValidItem × ℕ) :
    Delivers (sliceDispatches env part) (sliceEntries env input part ++
      Route.simulation.entries (writtenIds env input .virtual part)) := by
  intro messageId route
  simp only [sliceEntries, List.mem_append, Route.mem_entries, mem_writtenIds, sliceDispatches,
    List.mem_mapIdx]
  constructor
  · rintro ((⟨⟨index, inside, on, isId⟩, rfl⟩ | ⟨⟨index, inside, on, isId⟩, rfl⟩) |
      ⟨⟨index, inside, on, isId⟩, rfl⟩) <;>
      exact ⟨_, ⟨index, inside, rfl⟩, isId, by simp [sliceRoute, on]⟩
  · rintro ⟨_, ⟨index, inside, rfl⟩, isId, toRoute⟩
    have routed := Option.some.inj toRoute
    cases on : (part.1[index]).channel.protocol with
    | virtual =>
        simp only [sliceRoute, on] at routed
        exact Or.inr ⟨⟨index, inside, on, isId⟩, routed.symm⟩
    | smpp =>
        simp only [sliceRoute, on] at routed
        exact Or.inl (Or.inl ⟨⟨index, inside, on, isId⟩, routed.symm⟩)
    | http =>
        simp only [sliceRoute, on] at routed
        exact Or.inl (Or.inr ⟨⟨index, inside, on, isId⟩, routed.symm⟩)

theorem write_delivers (items : List ValidItem) :
    Delivers (writePlan env input items).dispatches
      ((slices dbLogChunk items).zipIdx.flatMap (sliceEntries env input) ++
        Route.simulation.entries
          ((slices dbLogChunk items).zipIdx.flatMap (writtenIds env input .virtual))) := by
  exact Delivers.flatMap_kept fun part _ => slice_delivers part

theorem fallbackWindows_virtual {account : Account} {items : List ValidItem}
    {window : List ChargedItem × Option GroupLabel}
    (isWindow : window ∈ fallbackWindows env input account items) {route : Route}
    (routed : window.2.bind GroupLabel.route = some route) {entry : ChargedItem}
    (member : entry ∈ window.1) : entry.1.1.isVirtual = false := by
  rcases mem_windows (by decide) isWindow with ⟨part, label⟩
  have charged := List.fst_mem_of_mem_zipIdx (part.mem member)
  have unseen : ∀ label : GroupLabel, label.route = some route → label.2 = false := by
    intro label isRoute
    unfold GroupLabel.route at isRoute
    split at isRoute
    · cases isRoute
    · simpa using ‹¬label.2 = true›
  rcases label with isLast | ⟨filled, isFilled, isLabel⟩
  · rw [isLast, Option.bind_some] at routed
    have none := unseen _ routed
    simp only [List.any_eq_false] at none
    simpa using none entry.1 charged
  · rw [isLabel, Option.bind_some] at routed
    have none : virtualBy (chargedItems env input account items) filled.2 = false :=
      unseen _ routed
    have split := List.dropLast_append_getLast? filled isFilled
    have before : entry.2 ≤ filled.2 := by
      have order := (pairwise_zipIdx (chargedItems env input account items)).sublist part
      rw [← split] at member order
      rcases List.mem_append.mp member with earlier | isLast
      · have less := (List.pairwise_append.mp order).2.2 entry earlier filled List.mem_cons_self
        omega
      · rw [List.mem_singleton.mp isLast]
    have here := List.mk_mem_zipIdx_iff_getElem?.mp (part.mem member)
    have taken : entry.1 ∈ (chargedItems env input account items).take (filled.2 + 1) := by
      have inFront : ((chargedItems env input account items).take (filled.2 + 1))[entry.2]? =
          some entry.1 := by
        rw [List.getElem?_take_of_lt (by omega)]
        exact here
      exact List.mem_of_getElem? inFront
    simp only [virtualBy, List.any_eq_false] at none
    simpa using none entry.1 taken

theorem window_delivers {account : Account} {items : List ValidItem}
    {window : List ChargedItem × Option GroupLabel}
    (isWindow : window ∈ fallbackWindows env input account items) :
    Delivers (windowDispatches env window)
      (windowEntries env window ++ Route.simulation.entries (virtualIdsOf env window.1)) := by
  intro messageId route
  have plain : ∀ route, window.2.bind GroupLabel.route = some route →
      ∀ entry ∈ window.1, entry.1.1.isVirtual = false :=
    fun _ routed _ member => fallbackWindows_virtual isWindow routed member
  simp only [windowEntries, windowDispatches, virtualIdsOf, List.mem_append, Route.mem_entries,
    List.mem_map, List.mem_filter, windowRoute]
  constructor
  · rintro (inGroup | ⟨⟨entry, ⟨member, virtual⟩, isId⟩, rfl⟩)
    · cases routed : window.2.bind GroupLabel.route with
      | none => simp [routed] at inGroup
      | some group =>
          simp only [routed, Route.mem_entries, List.mem_map] at inGroup
          rcases inGroup with ⟨⟨entry, member, isId⟩, rfl⟩
          refine ⟨_, ⟨entry, member, rfl⟩, isId, ?_⟩
          simp [plain _ routed entry member]
    · exact ⟨_, ⟨entry, member, rfl⟩, isId, by simp [virtual]⟩
  · rintro ⟨_, ⟨entry, member, rfl⟩, isId, toRoute⟩
    by_cases virtual : entry.1.1.isVirtual = true
    · simp only [virtual, if_true, Option.some.injEq] at toRoute
      exact Or.inr ⟨⟨entry, ⟨member, virtual⟩, isId⟩, toRoute.symm⟩
    · simp only [virtual] at toRoute
      have routed : window.2.bind GroupLabel.route = some route := toRoute
      refine Or.inl ?_
      simp only [routed, Route.mem_entries, List.mem_map]
      exact ⟨⟨entry, member, isId⟩, trivial⟩

theorem virtualIdsOf_flatMap (windows : List (List ChargedItem × Option GroupLabel)) :
    virtualIdsOf env (windows.flatMap Prod.fst) =
      windows.flatMap fun window => virtualIdsOf env window.1 := by
  simp [virtualIdsOf, List.filter_flatMap, List.map_flatMap]

theorem fallback_delivers (account : Account) (items : List ValidItem) :
    Delivers (fallbackPlan env input (some account) items).dispatches
      ((fallbackWindows env input account items).flatMap (windowEntries env) ++
        Route.simulation.entries
          (virtualIdsOf env (chargedItems env input account items).zipIdx)) := by
  have all : (fallbackWindows env input account items).flatMap Prod.fst =
      (chargedItems env input account items).zipIdx :=
    flatMap_windows (by decide) _ _ _
  rw [← all, virtualIdsOf_flatMap]
  exact Delivers.flatMap_kept fun window isWindow => window_delivers isWindow

theorem virtual_delivers (items : List ValidItem) :
    Delivers (items.mapIdx fun index item =>
        ⟨env.messageId (.virtual index), item.channel, some .simulation⟩)
      (Route.simulation.entries
        (items.mapIdx fun index _ => env.messageId (.virtual index))) := by
  intro messageId route
  simp only [Route.mem_entries, List.mem_mapIdx]
  constructor
  · rintro ⟨⟨index, inside, isId⟩, rfl⟩
    exact ⟨_, ⟨index, inside, rfl⟩, isId, rfl⟩
  · rintro ⟨_, ⟨index, inside, rfl⟩, isId, toRoute⟩
    exact ⟨⟨index, inside, isId⟩, (Option.some.inj toRoute).symm⟩

theorem Locals.dispatched_handed {values : Locals}
    (known : values.virtualIds ≠ [] → values.virtualChannelId.isSome) :
    values.dispatched.handed = values.handed ++ Route.simulation.entries values.virtualIds := by
  unfold Locals.dispatched
  by_cases none : values.virtualIds = []
  · simp [none]
  · rw [if_pos ⟨known none, none⟩]
    rfl

variable {start : Db} {ledger : Ledger} {before : Locals} {account : Option Account}
  {isPostpaid : Bool} {total : Money} {batchStatus : String}

theorem chargeChunk_unpaid (costs : ¬total ≤ 0) (short : canPay account isPostpaid total = false) :
    Triple (Ready start input.accountId ledger before account)
      (chargeChunk .never input isPostpaid total)
      (fun paid state => paid = false ∧ Ready start input.accountId ledger before account state)
      (fun _ _ => True) := by
  unfold chargeChunk
  rw [if_neg costs]
  refine Triple.seq (fun paid state => paid = false ∧
    Ready start input.accountId ledger before account state) ?_ fun paid => ?_
  · refine Triple.catching (fun _ _ => False) ?_ (fun _ _ _ never => never.elim)
      fun _ _ _ never => never.elim
    unfold deductOnce
    simp only [statement_never, pure_bind]
    refine Triple.get_bind fun current ready => ?_
    have none : (current.working.deduct input.accountId isPostpaid total).isSome = _ :=
      deduct_isSome current.working isPostpaid total
    rw [ready.working, short, Option.isSome_eq_false_iff, Option.isNone_iff_eq_none] at none
    rw [none]
    rintro state rfl
    exact ⟨rfl, ready⟩
  · refine Triple.assume fun unpaid => ?_
    subst unpaid
    intro state ready
    exact ⟨rfl, ready⟩

def Follows (start : Db) (accountId : ℕ) (ledger : Ledger) (plan : Plan) (state : ChunkState) :
    Prop :=
  Within start accountId (fun after => after.rows = ledger.rows ++ plan.rows)
    (fun values => Delivers plan.dispatches values.dispatched.handed) state

structure Locals.Fresh (values : Locals) : Prop where
  virtualChannelId : values.virtualChannelId = none
  virtualIds : values.virtualIds = []
  commitBatch : values.commitBatch = []
  handed : values.handed = []

theorem writeLoop_follows {items : List ValidItem} (fresh : before.Fresh) :
    Triple (Stands start input.accountId ledger ledger (· = before))
      (writeLoop env .never input batchStatus items)
      (fun _ => Follows start input.accountId ledger (writePlan env input items))
      (fun _ _ => True) := by
  refine (writeLoop_wrote items).weaken (fun _ stands => stands) ?_ fun _ _ _ => trivial
  intro _ state stands
  refine ⟨_, _, rfl, rfl, stands.weaken fun values wrote => ?_⟩
  have ids := wrote.virtualIds
  have channel := wrote.virtualChannelId
  rw [fresh.virtualIds, List.nil_append] at ids
  rw [fresh.virtualChannelId, ← ids] at channel
  rw [Locals.dispatched_handed fun some => by simpa [channel] using some, wrote.handed,
    fresh.handed, List.nil_append, ids]
  exact write_delivers items

theorem fallback_follows {items : List ValidItem} (fresh : before.Fresh) :
    Triple (Ready start input.accountId ledger before account)
      (fallback env .never input batchStatus items)
      (fun _ => Follows start input.accountId ledger (fallbackPlan env input account items))
      (fun _ _ => True) := by
  cases account with
  | none =>
      refine (fallback_unowned fresh.commitBatch).weaken
        (fun _ ready => ⟨ready.working, ready.stands⟩) ?_ fun _ _ never => never.elim
      intro _ state stands
      refine ⟨_, _, rfl, rfl, stands.weaken fun values handed => ?_⟩
      have noIds : values.virtualIds = [] := handed.virtualIds.trans fresh.virtualIds
      rw [Locals.dispatched_handed fun some => absurd noIds some, handed.handed, fresh.handed,
        noIds]
      exact .nil
  | some account =>
      refine (fallback_runs fresh.commitBatch fresh.virtualChannelId).weaken
        (fun _ ready => ⟨ready.working, ready.stands⟩) ?_ fun _ _ never => never.elim
      rintro _ state ⟨working, rows, stands⟩
      refine ⟨working, working, rows, rows, stands.weaken fun values fallen => ?_⟩
      have ids := fallen.virtualIds
      rw [fresh.virtualIds, List.nil_append] at ids
      rw [Locals.dispatched_handed ?_, fallen.handed, fresh.handed, List.nil_append, ids]
      · exact fallback_delivers account items
      · intro some
        rw [fallen.virtualChannelId, List.any_eq_true]
        rcases List.exists_mem_of_ne_nil _ some with ⟨messageId, member⟩
        rw [ids, virtualIdsOf] at member
        rcases List.mem_map.mp member with ⟨entry, isVirtual, _⟩
        rcases List.mem_filter.mp isVirtual with ⟨entryMem, virtual⟩
        exact ⟨entry.1, List.fst_mem_of_mem_zipIdx entryMem, virtual⟩

theorem chargeRun_never (pays : Bool) (total : Money) :
    chargeRun .never pays total = if total ≤ 0 then .free else if pays then .charged else .unpaid := by
  unfold chargeRun
  cases pays <;> rfl

variable {context : CheckContext}

theorem sendItems_follows {items : List ValidItem} (some : items ≠ []) (fresh : before.Fresh) :
    Triple (Ready start input.accountId ledger before context.account)
      (sendItems env .never input context batchStatus items)
      (fun _ => Follows start input.accountId ledger (sendPlan env input context items))
      (fun _ _ => True) := by
  unfold sendItems sendPlan
  rw [if_neg some]
  by_cases affords : context.affords env input items = true
  · rw [if_pos affords]
    simp only [CheckContext.affords, decide_eq_true_eq] at affords
    refine Triple.bind ((chargeChunk_triple rfl).weaken (fun _ ready => ready)
      (fun _ _ done => done) fun _ _ _ => trivial) fun paid => ?_
    rw [chargeRun_never]
    rintro state (⟨_, rfl, stands⟩ | ⟨unpaid, _⟩ | ⟨_, rfl, stands⟩)
    · exact writeLoop_follows fresh state stands
    · rcases affords with free | pays
      · simp [free] at unpaid
      · simp only [pays, if_true] at unpaid
        split at unpaid <;> cases unpaid
    · have charged : Locals.Fresh { before with charged := totalSell env input items } :=
        ⟨fresh.virtualChannelId, fresh.virtualIds, fresh.commitBatch, fresh.handed⟩
      have loop : Triple (Stands start input.accountId
          (ledger.pay (-totalSell env input items)) (ledger.pay (-totalSell env input items)) _)
          (writeLoop env .never input batchStatus items) _ _ :=
        writeLoop_follows charged
      exact loop state stands
  · rw [if_neg affords]
    simp only [CheckContext.affords, decide_eq_true_eq, not_or, Bool.not_eq_true] at affords
    refine Triple.bind (chargeChunk_unpaid affords.1 affords.2) fun paid => ?_
    refine Triple.assume fun unpaid => ?_
    subst unpaid
    exact fallback_follows fresh

theorem ordinaryPath_follows {checked : Prechecked}
    (checks : precheck env .never input context 0 input.phoneNumbers = .ok checked) :
    Triple (Ready start input.accountId .empty .start context.account)
      (ordinaryPath env .never input context batchStatus)
      (fun _ => Follows start input.accountId .empty (ordinaryPlan env input context checked))
      (fun _ _ => True) := by
  unfold ordinaryPath
  rw [checks]
  refine Triple.seq (fun result state => result = checked ∧
    Ready start input.accountId .empty .start context.account state) ?_ fun result =>
      Triple.assume fun isResult => ?_
  · intro state ready
    exact ⟨rfl, ready⟩
  subst isResult
  refine Triple.seq (fun _ state => ∃ before : Locals, before.Fresh ∧
    Ready start input.accountId .empty before context.account state) ?_ fun _ =>
      Triple.exists_pre fun before => Triple.assume fun fresh => ?_
  · intro state ready
    exact ⟨_, ⟨rfl, rfl, rfl, rfl⟩, ready.relocate fun values =>
      { values with
        succeeded := values.succeeded + result.done
        failed := values.failed + result.prefailed.length }⟩
  refine Triple.bind ((storeFailed_ready ?_).weaken (fun _ ready => ready)
    (fun _ _ done => done.2) fun _ _ _ => trivial) fun _ => ?_
  · intro row member
    rcases List.mem_mapIdx.mp member with ⟨index, inside, rfl⟩
    rfl
  have extends_ : ∀ state, Follows start input.accountId (Ledger.empty.add
      ((result.prefailed.mapIdx (Prefailed.smsLog env input)).map SmsLog.core))
        (sendPlan env input context result.valid) state →
      Follows start input.accountId .empty (ordinaryPlan env input context result) state := by
    rintro state ⟨committed, working, onCommitted, onWorking, stands⟩
    exact ⟨committed, working, by simpa [ordinaryPlan, Ledger.add, Ledger.empty] using onCommitted,
      by simpa [ordinaryPlan, Ledger.add, Ledger.empty] using onWorking, stands⟩
  refine Triple.ite (fun some => ?_) fun none => ?_
  · refine (sendItems_follows (by simpa using some) fresh).weaken (fun _ ready => ready)
      (fun _ state follows => extends_ state follows) fun _ _ _ => trivial
  · intro state ready
    have nothing : result.valid = [] := by simpa using none
    refine extends_ state ⟨_, _, ?_, ?_, ready.stands.weaken ?_⟩
    · simp [sendPlan, nothing, Plan.empty]
    · simp [sendPlan, nothing, Plan.empty]
    · rintro values rfl
      have idle : values.dispatched.handed = [] := by
        rw [Locals.dispatched_handed fun some => absurd fresh.virtualIds some, fresh.handed,
          fresh.virtualIds]
        rfl
      rw [idle, sendPlan, if_pos nothing]
      exact .nil

structure Locals.Kept (before : Locals) (messageIds : List MessageId) (after : Locals) : Prop where
  handed : after.handed = before.handed
  virtualIds : after.virtualIds = before.virtualIds ++ messageIds
  virtualChannelId : after.virtualChannelId = before.virtualChannelId

theorem storeVirtual_stores {committed working : Ledger} {slice : ℕ} {rows : List SmsLog}
    (new : ∀ row ∈ rows, row.refundedAt = none) :
    Triple (Stands start input.accountId committed working (· = before))
      (storeVirtual env .never slice rows)
      (fun _ => Stands start input.accountId (working.add (rows.map SmsLog.core))
        (working.add (rows.map SmsLog.core)) (before.Kept (rows.map SmsLog.messageId)))
      (fun _ _ => True) := by
  let kept : Locals := { before with
    virtualIds := before.virtualIds ++ rows.map SmsLog.messageId
    succeeded := before.succeeded + rows.length
    failed := before.failed + 0 }
  unfold storeVirtual
  simp only [statement_never, flush_never, pure_bind]
  refine Triple.seq (fun _ => Stands start input.accountId committed working
    (· = { before with virtualIds := before.virtualIds ++ rows.map SmsLog.messageId })) ?_
      fun _ => ?_
  · refine locals_triple (fun _ => ⟨rfl, rfl⟩) ?_
    rintro state rfl
    rfl
  refine Triple.seq (fun _ => Stands start input.accountId committed working (· = kept)) ?_
    fun _ => ?_
  · refine locals_triple (fun _ => ⟨rfl, rfl⟩) ?_
    rintro state isState
    rw [isState]
  refine Triple.get_bind fun current stands => Triple.at_state ?_ stands
  refine change_bind (fun db since => since.insert new) ?_
  refine Triple.bind (replaceTrackUrlsForLogs_triple.weaken (fun _ stands => stands)
    (fun _ _ done => done) fun _ _ _ => trivial) fun linked =>
      Triple.assume fun _ => Triple.assume fun _ => ?_
  refine commit_triple.weaken (fun _ stands => stands) ?_ fun _ _ _ => trivial
  rintro _ state ⟨_, stands⟩
  exact stands.weaken fun values isKept => isKept ▸ ⟨rfl, rfl, rfl⟩

theorem Locals.Kept.trans {middle after : Locals} {first second : List MessageId}
    (one : before.Kept first middle) (two : middle.Kept second after) :
    before.Kept (first ++ second) after where
  handed := two.handed.trans one.handed
  virtualIds := by rw [two.virtualIds, one.virtualIds, List.append_assoc]
  virtualChannelId := two.virtualChannelId.trans one.virtualChannelId

theorem storeSlices_stores (parts : List (List SmsLog × ℕ))
    (new : ∀ part ∈ parts, ∀ row ∈ part.1, row.refundedAt = none) :
    Triple (Stands start input.accountId ledger ledger (· = before))
      (parts.forM fun (rows, slice) => storeVirtual env .never slice rows)
      (fun _ => Stands start input.accountId
        (ledger.add ((parts.flatMap Prod.fst).map SmsLog.core))
        (ledger.add ((parts.flatMap Prod.fst).map SmsLog.core))
        (before.Kept ((parts.flatMap Prod.fst).map SmsLog.messageId)))
      (fun _ _ => True) := by
  induction parts generalizing ledger before with
  | nil =>
      intro state stands
      have same : ledger.add ((([] : List (List SmsLog × ℕ)).flatMap Prod.fst).map SmsLog.core) =
          ledger := by
        simp
      rw [same]
      exact stands.weaken fun values isBefore => isBefore ▸ ⟨rfl, by simp, rfl⟩
  | cons part parts ih =>
      rw [List.forall_mem_cons] at new
      refine Triple.bind (storeVirtual_stores new.1) fun _ => Triple.fix_locals fun middle kept => ?_
      refine (ih new.2).weaken (fun _ stands => stands) ?_ fun _ _ _ => trivial
      intro _ state stands
      simp only [List.flatMap_cons, List.map_append, ← Ledger.add_add]
      exact stands.weaken fun values rest => kept.trans rest

theorem virtualSlices_stores {committed working : Ledger} {items : List ValidItem}
    (some : items ≠ []) :
    Triple (Stands start input.accountId committed working (· = before))
      ((virtualSlices env input items).forM fun (rows, slice) =>
        storeVirtual env .never slice rows)
      (fun _ => Stands start input.accountId
        (working.add ((items.mapIdx fun index item =>
          item.smsLog env input (.virtual index)).map SmsLog.core))
        (working.add ((items.mapIdx fun index item =>
          item.smsLog env input (.virtual index)).map SmsLog.core))
        (before.Kept (items.mapIdx fun index _ => env.messageId (.virtual index))))
      (fun _ _ => True) := by
  have whole : (virtualSlices env input items).flatMap Prod.fst =
      items.mapIdx fun index item => item.smsLog env input (.virtual index) := by
    rw [virtualSlices, List.flatMap_def, List.zipIdx_map_fst]
    exact flatten_slices (by decide) _
  have ids : items.mapIdx (fun index _ => env.messageId (.virtual index)) =
      ((virtualSlices env input items).flatMap Prod.fst).map SmsLog.messageId := by
    rw [whole]
    refine List.ext_getElem (by simp) fun index _ _ => ?_
    simp [ValidItem.smsLog]
  rw [ids, ← whole]
  cases parts : virtualSlices env input items with
  | nil => exact absurd (virtualSlices_eq_nil parts) some
  | cons part parts' =>
      have new : ∀ other ∈ part :: parts', ∀ row ∈ other.1, row.refundedAt = none := by
        rw [← parts]
        exact fun other member => (mem_virtualSlices member).2
      rw [List.forall_mem_cons] at new
      refine Triple.bind (storeVirtual_stores new.1) fun _ => Triple.fix_locals fun middle kept => ?_
      refine (storeSlices_stores parts' new.2).weaken (fun _ stands => stands) ?_
        fun _ _ _ => trivial
      intro _ state stands
      simp only [List.flatMap_cons, List.map_append, ← Ledger.add_add]
      exact stands.weaken fun values rest => kept.trans rest

theorem virtualPath_follows {channel : Channel} {checked : Prechecked}
    (checks : precheckVirtual env .never input context channel 0 input.phoneNumbers =
      .ok checked) :
    Triple (Ready start input.accountId .empty .start context.account)
      (virtualPath env .never input context channel)
      (fun _ => Follows start input.accountId .empty (virtualPlan env input context checked))
      (fun _ _ => True) := by
  unfold virtualPath
  rw [checks]
  refine Triple.seq (fun _ => Ready start input.accountId .empty
    { Locals.start with virtualChannelId := some channel.id } context.account) ?_ fun _ => ?_
  · intro state ready
    exact ready.relocate fun values => { values with virtualChannelId := some channel.id }
  refine Triple.seq (fun result state => result = checked ∧ Ready start input.accountId .empty
    { Locals.start with virtualChannelId := some channel.id } context.account state) ?_
      fun result => Triple.assume fun isResult => ?_
  · intro state ready
    exact ⟨rfl, ready⟩
  subst isResult
  refine Triple.seq (fun _ state => ∃ before : Locals, (before.virtualChannelId = some channel.id ∧
    before.virtualIds = [] ∧ before.handed = []) ∧
      Ready start input.accountId .empty before context.account state) ?_ fun _ =>
        Triple.exists_pre fun before => Triple.assume fun begins => ?_
  · intro state ready
    exact ⟨_, ⟨rfl, rfl, rfl⟩, ready.relocate fun values =>
      { values with
        succeeded := values.succeeded + result.done
        failed := values.failed + result.prefailed.length }⟩
  rcases begins with ⟨isVirtual, noIds, nothing⟩
  have idle : ∀ values : Locals, values.virtualIds = [] → values.handed = [] →
      Delivers [] values.dispatched.handed := by
    intro values noIds nothing
    rw [Locals.dispatched_handed fun some => absurd noIds some, nothing, noIds]
    exact .nil
  refine Triple.ite (fun some => ?_) fun none => ?_
  · have some : result.valid ≠ [] := by simpa using some
    unfold sendVirtual
    refine Triple.bind ((chargeVirtual_triple rfl).weaken (fun _ ready => ready)
      (fun _ _ done => done) fun _ _ _ => trivial) fun paid => Triple.assume fun reached => ?_
    have refused := reached.2
    cases paid with
    | true =>
        have affords : context.affords env input result.valid = true := by
          simp only [CheckContext.affords, decide_eq_true_eq]
          by_contra poor
          rw [not_or, Bool.not_eq_true, not_le] at poor
          exact Bool.true_eq_false_eq_False (refused.mpr poor)
        rw [if_pos rfl, virtualPlan, if_pos affords]
        refine (virtualSlices_stores some).weaken (fun _ stands => stands) ?_ fun _ _ _ => trivial
        intro _ state stands
        refine ⟨_, _, rfl, rfl, stands.weaken fun values kept => ?_⟩
        have ids := kept.virtualIds
        rw [noIds, List.nil_append] at ids
        rw [Locals.dispatched_handed fun _ => by rw [kept.virtualChannelId, isVirtual]; rfl,
          kept.handed, nothing, List.nil_append, ids]
        exact virtual_delivers result.valid
    | false =>
        have poor : ¬context.affords env input result.valid = true := by
          simp only [CheckContext.affords, decide_eq_true_eq, not_or, Bool.not_eq_true, not_le]
          exact refused.mp rfl
        rw [virtualPlan, if_neg poor]
        intro state stands
        refine ⟨.empty, .empty, rfl, rfl, stands.committed, stands.working, idle _ ?_ ?_⟩
        · exact (congrArg Locals.virtualIds stands.locals).trans noIds
        · exact (congrArg Locals.handed stands.locals).trans nothing
  · intro state ready
    have empty : result.valid = [] := by simpa using none
    have plan : virtualPlan env input context result = .empty := by
      simp [virtualPlan, empty, CheckContext.affords, totalSell, Plan.empty]
    rw [plan]
    refine ⟨.empty, .empty, rfl, rfl, ready.stands.weaken ?_⟩
    rintro values rfl
    exact idle values noIds nothing

theorem runChunk_stopped {db : Db} (stopped : input.isStopped db = true) :
    runChunk env .never input db = .ok ⟨0, 0, true⟩ (ChunkState.start db) := by
  have goes : (db.batches input.batchId).any (fun batch => batch.status.stopped) = true := stopped
  have session : chunkSession env .never input (ChunkState.start db) =
      .ok false (ChunkState.start db) := by
    unfold chunkSession
    simp only [statement_never, pure_bind]
    change (if (db.batches input.batchId).any (fun batch => batch.status.stopped) then
      (pure false : Chunk Bool) else _) (ChunkState.start db) = _
    rw [if_pos goes]
    rfl
  have body : chunkBody env .never input (ChunkState.start db) =
      .ok ⟨0, 0, true⟩ (ChunkState.start db) := by
    change EStateM.bind (closing (chunkSession env .never input)) _ (ChunkState.start db) = _
    rw [EStateM.bind, closing, session]
    rfl
  rw [runChunk, doProcessChunk, catching, body]

theorem runChunk_follows {db : Db} (keyed : (db.smsLogs.map SmsLog.id).Nodup)
    {result : ChunkResult} {after : ChunkState}
    (returned : runChunk env .never input db = .ok result after) :
    after.committed.smsLogs.map SmsLog.core =
        db.smsLogs.map SmsLog.core ++ (chunkPlan env input db).rows ∧
      Delivers (chunkPlan env input db).dispatches after.handed := by
  cases stopped : input.isStopped db with
  | true =>
      rw [runChunk_stopped stopped] at returned
      cases returned
      rw [chunkPlan, if_pos stopped]
      exact ⟨by simp [Plan.empty, ChunkState.start], .nil⟩
  | false =>
      have path : PathLeaves env .never input db
          (fun ledger => ledger.rows = (chunkPlan env input db).rows)
          (fun values => Delivers (chunkPlan env input db).dispatches values.dispatched.handed) := by
        unfold PathLeaves chunkPlan chunkChecked
        rw [stopped]
        cases isVirtual : virtualChannel input db with
        | some channel =>
            rcases precheckVirtual_never env input (checkContext env .never input db) channel
              input.phoneNumbers 0 with ⟨checked, checks⟩
            simp only [Option.isSome_some, checks, checkedOf]
            exact virtualPath_follows checks
        | none =>
            rcases precheck_never env input (checkContext env .never input db)
              input.phoneNumbers 0 with ⟨checked, checks⟩
            simp only [Option.isSome_none, checks, checkedOf]
            intro batchStatus
            exact ordinaryPath_follows checks
      have ends := runChunk_returns keyed stopped path returned
      rcases ends.tables with ⟨ledger, rows, since⟩
      rcases ends.handed with ⟨values, delivers, dispatched⟩
      refine ⟨by rw [since.cores, rows], ?_⟩
      rw [show after.handed = values.dispatched.handed by rw [← dispatched]]
      exact delivers

def LogCore.key (row : LogCore) : MessageId × Option ℕ :=
  (row.messageId, row.channelId)

def Dispatch.key (dispatch : Dispatch) : MessageId × Option ℕ :=
  (dispatch.messageId, some dispatch.channel.id)

structure Plan.Covers (env : ChunkEnv) (plan : Plan) : Prop where
  rows : ∃ front sent back, plan.rows = front ++ sent ++ back ∧
    sent.map LogCore.key = plan.dispatches.map Dispatch.key ∧
    ∀ row ∈ front ++ back, ∃ site : IdSite, site.isSent = false ∧
      row.messageId = env.messageId site
  isSent : ∀ dispatch ∈ plan.dispatches, env.isSent dispatch.messageId
  distinct : (plan.dispatches.map Dispatch.messageId).Nodup

theorem Plan.Covers.empty : Plan.Covers env .empty :=
  ⟨⟨[], [], [], rfl, rfl, by simp⟩, by simp [Plan.empty], by simp [Plan.empty]⟩

theorem Plan.Covers.after {plan : Plan} (covers : plan.Covers env) {failed : List LogCore}
    (isFailed : ∀ row ∈ failed, ∃ site : IdSite, site.isSent = false ∧
      row.messageId = env.messageId site) :
    Plan.Covers env { plan with rows := failed ++ plan.rows } := by
  rcases covers.rows with ⟨front, sent, back, rows, keys, others⟩
  refine ⟨⟨failed ++ front, sent, back, by simp [rows], keys, fun row member => ?_⟩,
    covers.isSent, covers.distinct⟩
  rw [List.append_assoc] at member
  rcases List.mem_append.mp member with inFailed | later
  · exact isFailed row inFailed
  · exact others row later

theorem nodup_mapIdx {α : Type} (entries : List α) {site : ℕ → IdSite}
    (unique : Function.Injective env.messageId) (each : Function.Injective site) :
    (entries.mapIdx fun index _ => env.messageId (site index)).Nodup := by
  rw [List.nodup_iff_injective_getElem]
  intro one two same
  simp only [List.getElem_mapIdx] at same
  exact Fin.ext (each (unique same))

theorem writePlan_keys (items : List ValidItem) :
    (writePlan env input items).rows.map LogCore.key =
      (writePlan env input items).dispatches.map Dispatch.key := by
  simp only [writePlan, List.map_flatMap]
  refine List.flatMap_congr fun part _ => List.ext_getElem ?_ fun index _ _ => ?_
  · simp [sliceRows, sliceDispatches, attemptRows]
  · simp [sliceRows, sliceDispatches, attemptRows, LogCore.key, Dispatch.key, SmsLog.core,
      ValidItem.smsLog]

theorem writePlan_covers (unique : Function.Injective env.messageId) (items : List ValidItem) :
    (writePlan env input items).Covers env where
  rows := ⟨[], (writePlan env input items).rows, [], by simp, writePlan_keys items, by simp⟩
  isSent := by
    intro dispatch member
    rcases List.mem_flatMap.mp member with ⟨part, _, inPart⟩
    rcases List.mem_mapIdx.mp inPart with ⟨index, _, rfl⟩
    exact ⟨.written part.2 0 index, rfl, rfl⟩
  distinct := by
    have ids : ∀ part : List ValidItem × ℕ, (sliceDispatches env part).map Dispatch.messageId =
        part.1.mapIdx fun index _ => env.messageId (.written part.2 0 index) := by
      intro part
      refine List.ext_getElem (by simp [sliceDispatches]) fun index _ _ => ?_
      simp [sliceDispatches]
    simp only [writePlan, List.map_flatMap, ids]
    refine List.nodup_flatMap.mpr ⟨fun part _ => ?_, ?_⟩
    · exact nodup_mapIdx part.1 unique fun one two same => by cases same; rfl
    · refine (pairwise_zipIdx (slices dbLogChunk items)).imp fun {one two} less => ?_
      intro messageId inOne inTwo
      rcases List.mem_mapIdx.mp inOne with ⟨first, _, isOne⟩
      rcases List.mem_mapIdx.mp inTwo with ⟨second, _, isTwo⟩
      have same := unique (isOne.trans isTwo.symm)
      rw [IdSite.written.injEq] at same
      omega

theorem fallbackPlan_covers (unique : Function.Injective env.messageId)
    (account : Option Account) (items : List ValidItem) :
    (fallbackPlan env input account items).Covers env := by
  have exhausted : ∀ rest : List ValidItem, ∀ row ∈ (rest.mapIdx fun index item =>
      item.exhaustedSmsLog env input index).map SmsLog.core, ∃ site : IdSite,
        site.isSent = false ∧ row.messageId = env.messageId site := by
    intro rest row member
    rcases List.mem_map.mp member with ⟨log, isLog, rfl⟩
    rcases List.mem_mapIdx.mp isLog with ⟨index, _, rfl⟩
    exact ⟨.exhausted index, rfl, rfl⟩
  cases account with
  | none =>
      have failed : ∀ row ∈ unownedRows env input items, ∃ site : IdSite,
          site.isSent = false ∧ row.messageId = env.messageId site := exhausted _
      exact ⟨⟨unownedRows env input items, [], [], by simp [fallbackPlan], rfl, by simpa using failed⟩,
        by simp [fallbackPlan], by simp [fallbackPlan]⟩
  | some account =>
      have all : (fallbackWindows env input account items).flatMap Prod.fst =
          (chargedItems env input account items).zipIdx :=
        flatMap_windows (by decide) _ _ _
      have entries : ∀ {Value : Type} (view : Dispatch → Value) (key : ChargedItem → Value),
          (∀ entry route, view ⟨ChargedItem.messageId env entry, entry.1.1.channel, route⟩ =
            key entry) →
          (fallbackPlan env input (some account) items).dispatches.map view =
            (chargedItems env input account items).zipIdx.map key := by
        intro Value view key same
        rw [← all, fallbackPlan, List.map_flatMap, List.map_flatMap]
        refine List.flatMap_congr fun window _ => ?_
        simp [windowDispatches, Function.comp_def, same]
      refine ⟨⟨[], _, _, by rw [List.nil_append]; rfl, ?_, ?_⟩, ?_, ?_⟩
      · rw [entries Dispatch.key
          (fun entry => (ChargedItem.messageId env entry, some entry.1.1.channel.id))
          fun _ _ => rfl, List.map_map]
        rfl
      · rw [List.nil_append]
        exact exhausted _
      · intro dispatch member
        rcases List.mem_flatMap.mp member with ⟨window, _, inWindow⟩
        rcases List.mem_map.mp inWindow with ⟨entry, _, rfl⟩
        exact ⟨.fallback entry.2, rfl, rfl⟩
      · rw [entries Dispatch.messageId (ChargedItem.messageId env) fun _ _ => rfl]
        refine List.pairwise_map.mpr ((pairwise_zipIdx _).imp fun {one two} less same => ?_)
        have sites := unique same
        rw [IdSite.fallback.injEq] at sites
        omega

theorem virtualPlan_covers (unique : Function.Injective env.messageId)
    (checked : Prechecked) : (virtualPlan env input context checked).Covers env := by
  unfold virtualPlan
  by_cases affords : context.affords env input checked.valid = true
  · rw [if_pos affords]
    refine ⟨⟨[], _, [], (List.append_nil _).symm, ?_, by simp⟩, ?_, ?_⟩
    · refine List.ext_getElem (by simp) fun index _ _ => ?_
      simp [LogCore.key, Dispatch.key, SmsLog.core, ValidItem.smsLog]
    · intro dispatch member
      rcases List.mem_mapIdx.mp member with ⟨index, _, rfl⟩
      exact ⟨.virtual index, rfl, rfl⟩
    · have ids : (checked.valid.mapIdx fun index item => (⟨env.messageId (.virtual index),
          item.channel, some .simulation⟩ : Dispatch)).map Dispatch.messageId =
            checked.valid.mapIdx fun index _ => env.messageId (.virtual index) := by
        refine List.ext_getElem (by simp) fun index _ _ => ?_
        simp
      rw [ids]
      exact nodup_mapIdx _ unique fun one two same => by cases same; rfl
  · rw [if_neg affords]
    exact .empty

theorem chunkPlan_covers (unique : Function.Injective env.messageId) (db : Db) :
    (chunkPlan env input db).Covers env := by
  have sends : ∀ context items, (sendPlan env input context items).Covers env := by
    intro context items
    unfold sendPlan
    by_cases none : items = []
    · rw [if_pos none]
      exact .empty
    · rw [if_neg none]
      split
      · exact writePlan_covers unique items
      · exact fallbackPlan_covers unique _ items
  unfold chunkPlan
  split
  · exact .empty
  · dsimp only
    split
    · exact virtualPlan_covers unique _
    · refine (sends _ _).after fun row member => ?_
      rcases List.mem_map.mp member with ⟨log, isLog, rfl⟩
      rcases List.mem_mapIdx.mp isLog with ⟨index, _, rfl⟩
      exact ⟨.prefailed index, rfl, rfl⟩

theorem Plan.Covers.accounts {plan : Plan} (covers : plan.Covers env)
    (unique : Function.Injective env.messageId) {handed : List (MessageId × Route)}
    (delivers : Delivers plan.dispatches handed) :
    Accounts env.isSent plan.rows handed plan.dispatches := by
  rcases covers.rows with ⟨front, sent, back, rows, keys, others⟩
  refine ⟨delivers, ?_, ?_, ?_⟩
  · rintro row member ⟨site, isSent, isId⟩
    rw [rows, List.append_assoc] at member
    have failed : row ∉ front ++ back := by
      intro isOther
      rcases others row isOther with ⟨other, notSent, sameId⟩
      have same := unique (isId.trans sameId)
      rw [same, notSent] at isSent
      cases isSent
    have inSent : row ∈ sent := by
      simp only [List.mem_append, not_or] at member failed
      tauto
    have inKeys : row.key ∈ plan.dispatches.map Dispatch.key := by
      rw [← keys]
      exact List.mem_map_of_mem inSent
    rcases List.mem_map.mp inKeys with ⟨dispatch, isDispatch, same⟩
    rw [Dispatch.key, LogCore.key, Prod.mk.injEq] at same
    exact ⟨dispatch, isDispatch, same.1, same.2.symm⟩
  · intro dispatch isDispatch
    refine ⟨covers.isSent dispatch isDispatch, ?_⟩
    have inKeys : dispatch.key ∈ sent.map LogCore.key := by
      rw [keys]
      exact List.mem_map_of_mem isDispatch
    rcases List.mem_map.mp inKeys with ⟨row, inSent, same⟩
    rw [Dispatch.key, LogCore.key, Prod.mk.injEq] at same
    exact ⟨row, by simp [rows, inSent], same.1, same.2⟩
  · intro one isOne two isTwo same
    exact List.inj_on_of_nodup_map covers.distinct isOne isTwo same

end

end Klsmsc
