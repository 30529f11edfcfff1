import Klsmsc.Chunk.Plan

/-!
# When a chunk hands over its messages on their own routes

The worker hands over the HTTP messages of a slice for the channel of the slice's last item,
and a window of the fallback path for the channel of the item that has filled it. So the
items that are put together have to take the same way out.
-/

namespace Klsmsc

open Library

def OwnSlices (items : List ValidItem) : Prop :=
  ∀ slice ∈ slices dbLogChunk items, ∀ item ∈ slice, item.channel.protocol = .http →
    (slice.getLast?.any fun last => last.channel.isNodeRcs) = item.channel.isNodeRcs

section

variable (env : ChunkEnv) (input : ChunkInput)

def OwnGroups (account : Account) (items : List ValidItem) : Prop :=
  ∀ window ∈ fallbackWindows env input account items, ∀ entry ∈ window.1,
    windowRoute window.2 entry.1.1 = some entry.1.1.channel.route

def ChunkInput.IsOwn (db : Db) : Prop :=
  let context := checkContext env .never input db
  let items := (chunkChecked env input db).valid
  input.isStopped db = false → virtualChannel input db = none →
    if context.affords env input items then OwnSlices items
    else ∀ account, context.account = some account → OwnGroups env input account items

def ChunkEnv.Routes (channels : ℕ → Option Channel) : Prop :=
  ∀ countryCode preferred accountId channel,
    env.selectChannel countryCode preferred accountId = .ok (some channel) →
      channels channel.id = some channel

end

section

variable {env : ChunkEnv} {input : ChunkInput} {db : Db} {context : CheckContext}

theorem httpRoute_eq_iff (last : Option Channel) {channel : Channel}
    (isHttp : channel.protocol = .http) :
    httpRoute last = channel.route ↔ last.any Channel.isNodeRcs = channel.isNodeRcs := by
  unfold httpRoute Channel.route
  rw [isHttp]
  cases last.any Channel.isNodeRcs <;> cases channel.isNodeRcs <;> simp

theorem sliceRoute_own_iff (last : Option Channel) (item : ValidItem) :
    sliceRoute last item = item.channel.route ↔
      (item.channel.protocol = .http →
        last.any Channel.isNodeRcs = item.channel.isNodeRcs) := by
  unfold sliceRoute
  cases on : item.channel.protocol with
  | virtual => simp [Channel.route, on]
  | smpp => simp [Channel.route, on]
  | http => simp [httpRoute_eq_iff last on]

theorem writePlan_own_iff (items : List ValidItem) :
    (∀ dispatch ∈ (writePlan env input items).dispatches, dispatch.IsOwn) ↔ OwnSlices items := by
  have each : ∀ part : List ValidItem × ℕ,
      (∀ dispatch ∈ sliceDispatches env part, dispatch.IsOwn) ↔
        ∀ item ∈ part.1, item.channel.protocol = .http →
          (part.1.getLast?.any fun last => last.channel.isNodeRcs) =
            item.channel.isNodeRcs := by
    intro part
    have last : (part.1.getLast?.any fun last => last.channel.isNodeRcs) =
        (part.1.getLast?.map ValidItem.channel).any Channel.isNodeRcs := by
      cases part.1.getLast? <;> rfl
    rw [last]
    constructor
    · intro own item member
      rcases List.mem_iff_getElem.mp member with ⟨index, inside, rfl⟩
      have isOwn := own _ (List.mem_mapIdx.mpr ⟨index, inside, rfl⟩)
      exact (sliceRoute_own_iff _ _).mp (Option.some.inj isOwn)
    · intro own dispatch member
      rcases List.mem_mapIdx.mp member with ⟨index, inside, rfl⟩
      exact congrArg some ((sliceRoute_own_iff _ _).mpr (own _ (List.getElem_mem inside)))
  have slice : ∀ part : List ValidItem × ℕ, part ∈ (slices dbLogChunk items).zipIdx →
      part.1 ∈ slices dbLogChunk items := fun _ => List.fst_mem_of_mem_zipIdx
  constructor
  · intro own part isPart
    rcases List.mem_iff_getElem.mp isPart with ⟨index, inside, rfl⟩
    refine (each (_, index)).mp fun dispatch member => own dispatch ?_
    refine List.mem_flatMap.mpr ⟨_, ?_, member⟩
    exact List.mk_mem_zipIdx_iff_getElem?.mpr (List.getElem?_eq_getElem inside)
  · intro own dispatch member
    rcases List.mem_flatMap.mp member with ⟨part, isPart, inPart⟩
    exact (each part).mpr (own part.1 (slice part isPart)) dispatch inPart

theorem fallbackPlan_own_iff (account : Option Account) (items : List ValidItem) :
    (∀ dispatch ∈ (fallbackPlan env input account items).dispatches, dispatch.IsOwn) ↔
      ∀ owner, account = some owner → OwnGroups env input owner items := by
  cases account with
  | none => simp [fallbackPlan]
  | some account =>
      simp only [fallbackPlan, windowDispatches, List.mem_flatMap, List.mem_map,
        Option.some.injEq, forall_eq', OwnGroups]
      constructor
      · intro own window isWindow entry member
        exact own _ ⟨window, isWindow, entry, member, rfl⟩
      · rintro own _ ⟨window, isWindow, entry, member, rfl⟩
        exact own window isWindow entry member

theorem sendPlan_eq (items : List ValidItem) :
    sendPlan env input context items =
      if context.affords env input items then writePlan env input items
      else fallbackPlan env input context.account items := by
  unfold sendPlan
  by_cases none : items = []
  · have affords : context.affords env input [] = true := by
      simp [CheckContext.affords, totalSell]
    subst none
    rw [if_pos rfl, if_pos affords]
    rfl
  · rw [if_neg none]

theorem sendPlan_own_iff (items : List ValidItem) :
    (∀ dispatch ∈ (sendPlan env input context items).dispatches, dispatch.IsOwn) ↔
      if context.affords env input items then OwnSlices items
      else ∀ account, context.account = some account → OwnGroups env input account items := by
  rw [sendPlan_eq]
  by_cases affords : context.affords env input items = true
  · simp only [if_pos affords]
    exact writePlan_own_iff items
  · simp only [if_neg affords]
    exact fallbackPlan_own_iff _ items

theorem Prechecked.forall_valid_add {property : ValidItem → Prop}
    {result : Except Prefailed ValidItem} {rest : Prechecked}
    (passes : ∀ item, result = .ok item → property item)
    (others : ∀ item ∈ rest.valid, property item) :
    ∀ item ∈ (rest.add result).valid, property item := by
  cases result with
  | error failure => exact others
  | ok item => exact List.forall_mem_cons.mpr ⟨passes item rfl, others⟩

theorem precheckVirtual_valid {channel : Channel} {property : ValidItem → Prop}
    (passes : ∀ index phone item, checkVirtual env input context channel index phone = .ok item →
      property item)
    (phones : List String) (index : ℕ) {checked : Prechecked}
    (checks : precheckVirtual env .never input context channel index phones = .ok checked) :
    ∀ item ∈ checked.valid, property item := by
  induction phones generalizing index checked with
  | nil =>
      cases checks
      simp [Prechecked.empty]
  | cons phone phones ih =>
      rcases precheckVirtual_never env input context channel phones (index + 1) with ⟨rest, isRest⟩
      rw [precheckVirtual, isRest] at checks
      by_cases done : phone ∈ context.alreadyDone
      · rw [if_pos done] at checks
        rw [← Except.ok.inj checks]
        change ∀ item ∈ rest.valid, property item
        exact ih (index + 1) isRest
      · rw [if_neg done] at checks
        rw [← Except.ok.inj checks]
        exact Prechecked.forall_valid_add (passes _ _) (ih (index + 1) isRest)

theorem precheck_valid {property : ValidItem → Prop}
    (passes : ∀ index phone item, checkNumber env input context index phone = .ok item →
      property item)
    (phones : List String) (index : ℕ) {checked : Prechecked}
    (checks : precheck env .never input context index phones = .ok checked) :
    ∀ item ∈ checked.valid, property item := by
  induction phones generalizing index checked with
  | nil =>
      cases checks
      simp [Prechecked.empty]
  | cons phone phones ih =>
      rcases precheck_never env input context phones (index + 1) with ⟨rest, isRest⟩
      rw [precheck, isRest] at checks
      by_cases done : phone ∈ context.alreadyDone
      · rw [if_pos done] at checks
        rw [← Except.ok.inj checks]
        change ∀ item ∈ rest.valid, property item
        exact ih (index + 1) isRest
      · rw [if_neg done] at checks
        rw [← Except.ok.inj checks]
        exact Prechecked.forall_valid_add (passes _ _) (ih (index + 1) isRest)

theorem checkVirtual_channel {channel : Channel} {index : ℕ} {phone : String} {item : ValidItem}
    (passes : checkVirtual env input context channel index phone = .ok item) :
    item.channel = channel := by
  unfold checkVirtual at passes
  split at passes
  · cases passes
  · cases passes
    rfl

theorem checkNumber_channel {channels : ℕ → Option Channel} (routes : env.Routes channels)
    {index : ℕ} {phone : String} {item : ValidItem}
    (passes : checkNumber env input context index phone = .ok item) :
    channels item.channel.id = some item.channel := by
  unfold checkNumber at passes
  split at passes
  · cases passes
  · dsimp only at passes
    split at passes
    · cases passes
    · cases passes
    · rename_i channel routed
      have known := routes _ _ _ _ routed
      split at passes
      · split at passes
        · cases passes
        · cases passes
          exact known
      · cases passes
        exact known

theorem chargedItems_mem {items : List ValidItem} {account : Account}
    {entry : ValidItem × Money} (member : entry ∈ chargedItems env input account items) :
    entry.1 ∈ items := by
  induction items generalizing account with
  | nil => simp [chargedItems] at member
  | cons item items ih =>
      unfold chargedItems at member
      split at member
      · simp at member
      · rcases List.mem_cons.mp member with rfl | later
        · exact List.mem_cons_self
        · exact List.mem_cons_of_mem _ (ih later)

theorem sendPlan_channel {items : List ValidItem} {dispatch : Dispatch}
    (member : dispatch ∈ (sendPlan env input context items).dispatches) :
    ∃ item ∈ items, dispatch.channel = item.channel := by
  rw [sendPlan_eq] at member
  split at member
  · rcases List.mem_flatMap.mp member with ⟨part, isPart, inPart⟩
    rcases List.mem_mapIdx.mp inPart with ⟨index, inside, rfl⟩
    have isSlice := List.fst_mem_of_mem_zipIdx isPart
    exact ⟨_, mem_of_mem_slices isSlice (List.getElem_mem inside), rfl⟩
  · cases isAccount : context.account with
    | none => simp [fallbackPlan, isAccount] at member
    | some account =>
        rw [isAccount] at member
        rcases List.mem_flatMap.mp member with ⟨window, isWindow, inWindow⟩
        rcases List.mem_map.mp inWindow with ⟨entry, isEntry, rfl⟩
        have inside := mem_of_mem_windows (by decide) isWindow isEntry
        exact ⟨_, chargedItems_mem (List.fst_mem_of_mem_zipIdx inside), rfl⟩

theorem virtualChannel_known
    (named : ∀ id channel, db.channels id = some channel → channel.id = id) {channel : Channel}
    (isVirtual : virtualChannel input db = some channel) :
    channel.protocol = .virtual ∧ db.channels channel.id = some channel := by
  rcases Option.filter_eq_some_iff.mp isVirtual with ⟨found, virtual⟩
  refine ⟨by simpa using virtual, ?_⟩
  unfold preChannel at found
  split at found
  · cases found
  · split at found
    · cases found
    · rw [named _ _ found]
      exact found

theorem virtualPlan_channel {channel : Channel} {checked : Prechecked}
    (onChannel : ∀ item ∈ checked.valid, item.channel = channel) {dispatch : Dispatch}
    (member : dispatch ∈ (virtualPlan env input context checked).dispatches) :
    dispatch.channel = channel ∧ dispatch.route = some .simulation := by
  unfold virtualPlan at member
  split at member
  · rcases List.mem_mapIdx.mp member with ⟨index, inside, rfl⟩
    exact ⟨onChannel _ (List.getElem_mem inside), rfl⟩
  · simp [Plan.empty] at member

theorem chunkChecked_virtual {channel : Channel}
    (isVirtual : virtualChannel input db = some channel) :
    ∀ item ∈ (chunkChecked env input db).valid, item.channel = channel := by
  rcases precheckVirtual_never env input (checkContext env .never input db) channel
    input.phoneNumbers 0 with ⟨checked, checks⟩
  simp only [chunkChecked, isVirtual, checks, checkedOf]
  exact precheckVirtual_valid (fun _ _ _ => checkVirtual_channel) _ _ checks

theorem chunkChecked_known (routes : env.Routes db.channels)
    (notVirtual : virtualChannel input db = none) :
    ∀ item ∈ (chunkChecked env input db).valid,
      db.channels item.channel.id = some item.channel := by
  rcases precheck_never env input (checkContext env .never input db) input.phoneNumbers 0 with
    ⟨checked, checks⟩
  simp only [chunkChecked, notVirtual, checks, checkedOf]
  exact precheck_valid (fun _ _ _ => checkNumber_channel routes) _ _ checks

theorem chunkPlan_known (routes : env.Routes db.channels)
    (named : ∀ id channel, db.channels id = some channel → channel.id = id) :
    ∀ dispatch ∈ (chunkPlan env input db).dispatches,
      db.channels dispatch.channel.id = some dispatch.channel := by
  intro dispatch member
  unfold chunkPlan at member
  cases stopped : input.isStopped db with
  | true => simp [stopped, Plan.empty] at member
  | false =>
      simp only [stopped, Bool.false_eq_true, if_false] at member
      cases isVirtual : virtualChannel input db with
      | some channel =>
          rw [isVirtual] at member
          have onChannel := virtualPlan_channel (chunkChecked_virtual isVirtual) member
          rw [onChannel.1]
          exact (virtualChannel_known named isVirtual).2
      | none =>
          rw [isVirtual] at member
          rcases sendPlan_channel member with ⟨item, isItem, same⟩
          rw [same]
          exact chunkChecked_known routes isVirtual item isItem

theorem chunkPlan_own_iff
    (named : ∀ id channel, db.channels id = some channel → channel.id = id) :
    (∀ dispatch ∈ (chunkPlan env input db).dispatches, dispatch.IsOwn) ↔
      input.IsOwn env db := by
  unfold chunkPlan ChunkInput.IsOwn
  cases stopped : input.isStopped db with
  | true => simp [Plan.empty]
  | false =>
      simp only [Bool.false_eq_true, if_false, true_implies]
      cases isVirtual : virtualChannel input db with
      | some channel =>
          simp only [Option.isSome_some, if_true, reduceCtorEq, false_implies, iff_true]
          intro dispatch member
          rcases virtualPlan_channel (chunkChecked_virtual isVirtual) member with
            ⟨onChannel, simulated⟩
          have virtual := (virtualChannel_known named isVirtual).1
          rw [Dispatch.IsOwn, simulated, onChannel, Channel.route, virtual]
      | none =>
          simp only [Option.isSome_none, Bool.false_eq_true, if_false, true_implies]
          exact sendPlan_own_iff _

/-- An undisturbed execution hands over each message on the route of its own channel exactly
when its items take the ways of those that they are put together with. -/
theorem runChunk_ownRoutes_iff (keyed : (db.smsLogs.map SmsLog.id).Nodup)
    (unique : Function.Injective env.messageId) (routes : env.Routes db.channels)
    (named : ∀ id channel, db.channels id = some channel → channel.id = id)
    {result : ChunkResult} {after : ChunkState}
    (returned : runChunk env .never input db = .ok result after) :
    OwnRoutes db.channels env.isSent
        ((after.committed.smsLogs.drop db.smsLogs.length).map SmsLog.core) after.handed ↔
      input.IsOwn env db := by
  rcases runChunk_follows keyed returned with ⟨rows, delivers⟩
  have new : (after.committed.smsLogs.drop db.smsLogs.length).map SmsLog.core =
      (chunkPlan env input db).rows := by
    rw [List.map_drop, rows, List.drop_left' (by simp)]
  have accounts := (chunkPlan_covers unique db).accounts unique delivers
  rw [new, accounts.ownRoutes_iff (chunkPlan_known routes named), chunkPlan_own_iff named]

end

end Klsmsc
