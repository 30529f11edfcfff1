import Klsmsc.PriceCache.Patterns
import Klsmsc.PriceCache.Steps

/-!
# Cached prices are current or still to be deleted

The dictionary of another process is out of reach of an invalidation and never expires, so that a
call there can return a price that was changed long ago. This does not happen as long as no other
process holds an outdated price when an invalidation returns, a held price is used for an hour at
most, and what a call has read is stored while it still holds. Under this condition each step keeps
every cached price current or still to be deleted.
-/

namespace Klsmsc

open Library

variable {sameCode : String → String → Bool}

/-! ### The property -/

namespace PriceCall

def Saw (sameCode : String → String → Bool) (call : PriceCall) (result : Option PriceInfo) :
    Prop :=
  ∃ tables ∈ call.seen, tables.priceOf sameCode call.query = .ok result

/-- A call whose key was left alone returns the price of the committed tables, and no call returns
a price that was read more than an hour ago. -/
def Correct (sameCode : String → String → Bool) (call : PriceCall) : Prop :=
  ∀ result time, call.stage = .returned result time →
    (call.leftAlone → call.Saw sameCode (result.map CachedPrice.info)) ∧
      ∀ cached, result = some cached → time ≤ cached.readAt + 3600

end PriceCall

def DeletionStage.Deletes (key : String) : DeletionStage → Prop
  | called => True
  | listed keys => key ∈ keys
  | deleted => False

namespace PriceSystem

def PricesTakeEffect (sameCode : String → String → Bool) (system : PriceSystem) : Prop :=
  ∀ id call, system.calls id = some call → call.Correct sameCode

/-! ### When the code keeps it -/

def Gives (sameCode : String → String → Bool) (system : PriceSystem) (query : PriceQuery)
    (info : PriceInfo) : Prop :=
  system.tables.priceOf sameCode query = .ok (some info)

def WillDelete (system : PriceSystem) (key : String) : Prop :=
  ∃ id deletion, system.deletions id = some deletion ∧ deletion.invalidation.Lists key ∧
    deletion.stage.Deletes key

def Caches (system : PriceSystem) (key : String) : Prop :=
  (∃ cached, system.live key = some cached) ∨
    ∃ process cached, system.localCache process key = some cached

/-- The condition on a step.

A call finds a held price that is an hour old at most, the queries of a call whose key is left
alone see what is committed, and a price is stored and returned in the second in which it was read
or received, while the committed tables give it or an invalidation is still to remove it. When an
invalidation returns, the other processes hold no outdated price under its keys. The codes have no
character with a meaning of its own, and no cached key spells the country of a changed row in
another way. -/
def Heeds (sameCode : String → String → Bool) (system : PriceSystem) : PriceAction → Prop
  | .begin _ process query =>
      query.Plain ∧ ∀ cached, system.localCache process query.cacheKey = some cached →
        system.clock ≤ cached.readAt + 3600
  | .receive id =>
      ∀ call cached time, system.calls id = some call →
        call.stage = .answered (some cached) time →
          system.clock = time ∧
            (system.Gives sameCode call.query cached.info ∨ system.Pending call.key)
  | .lookup id view =>
      ∀ call asked lookup rest, system.calls id = some call →
        call.stage = .reading asked (lookup :: rest) → call.leftAlone →
          (∀ earlier ∈ asked, system.tables.answer sameCode call.query earlier = .ok none) ∧
            view.answer sameCode call.query lookup =
              system.tables.answer sameCode call.query lookup
  | .setex id =>
      ∀ call cached, system.calls id = some call → call.stage = .found cached →
        system.clock = cached.readAt ∧
          (system.Gives sameCode call.query cached.info ∨ system.WillDelete call.key)
  | .finish id =>
      ∀ call cached, system.calls id = some call → call.stage = .stored cached →
        system.clock = cached.readAt ∧
          (system.Gives sameCode call.query cached.info ∨ system.Pending call.key)
  | .change _ _ change _ =>
      change.invalidation.Plain ∧ ∀ query : PriceQuery, query.Plain →
        system.Caches query.cacheKey → change.Affects sameCode query → change.Spells query
  | .invalidate _ _ invalidation => invalidation.Plain
  | .forget id =>
      ∀ deletion, system.deletions id = some deletion → ∀ process ≠ deletion.process,
        ∀ query : PriceQuery, query.Plain → ∀ cached,
          system.localCache process query.cacheKey = some cached →
            deletion.invalidation.Lists query.cacheKey →
              system.Gives sameCode query cached.info
  | _ => True

/-! ### The invariant -/

def Fits (sameCode : String → String → Bool) (system : PriceSystem) (call : PriceCall) : Prop :=
  match call.stage with
  | .asking =>
      call.leftAlone → ∀ cached, system.live call.key = some cached →
        call.Saw sameCode (some cached.info)
  | .answered found time =>
      ∀ cached, found = some cached → time ≤ cached.readAt + 3600 ∧
        (call.leftAlone → call.Saw sameCode (some cached.info))
  | .reading asked remaining => asked ++ remaining = PriceLookup.all
  | .found cached => call.leftAlone → call.Saw sameCode (some cached.info)
  | .stored cached => call.leftAlone → call.Saw sameCode (some cached.info)
  | .returned result time =>
      (call.leftAlone → call.Saw sameCode (result.map CachedPrice.info)) ∧
        ∀ cached, result = some cached → time ≤ cached.readAt + 3600
  | .raised _ => True

structure Sound (sameCode : String → String → Bool) (system : PriceSystem) : Prop where
  plain : ∀ id call, system.calls id = some call → call.query.Plain
  fits : ∀ id call, system.calls id = some call → system.Fits sameCode call
  current : ∀ id call, system.calls id = some call → ¬ call.stage.Ended →
    system.tables ∈ call.seen
  alone : ∀ id call, system.calls id = some call → call.stage = .asking → call.leftAlone →
    ∀ other filler, system.calls other = some filler → filler.key = call.key →
      ¬ filler.stage.Filling
  redis : ∀ query : PriceQuery, query.Plain → ∀ cached,
    system.live query.cacheKey = some cached →
      system.Gives sameCode query cached.info ∨ system.WillDelete query.cacheKey
  expiry : ∀ key entry, system.redis key = some entry →
    entry.expiresAt = entry.cached.readAt + 3600
  held : ∀ query : PriceQuery, query.Plain → ∀ process cached,
    system.localCache process query.cacheKey = some cached →
      system.Gives sameCode query cached.info ∨ system.Pending query.cacheKey

theorem start_sound (clock : ℕ) (tables : PriceTables) :
    (start clock tables).Sound sameCode where
  plain _ _ isCall := by cases isCall
  fits _ _ isCall := by cases isCall
  current _ _ isCall := by cases isCall
  alone _ _ isCall := by cases isCall
  redis _ _ _ isLive := by cases isLive
  expiry _ _ isEntry := by cases isEntry
  held _ _ _ _ isHeld := by cases isHeld

section

variable {system after : PriceSystem} {call : PriceCall} {key : String}

theorem WillDelete.pending (will : system.WillDelete key) : system.Pending key := by
  rcases will with ⟨id, deletion, isDeletion, lists, -⟩
  exact ⟨id, deletion, isDeletion, lists⟩

theorem Gives.of_key {query other : PriceQuery} {info : PriceInfo}
    (gives : system.Gives sameCode query info) (plain : query.Plain) (otherPlain : other.Plain)
    (same : other.cacheKey = query.cacheKey) : system.Gives sameCode other info := by
  rcases otherPlain.of_cacheKey plain same with ⟨account, channel, country⟩
  exact (PriceTables.priceOf_congr account channel country).trans gives

theorem Fits.mono {found : PriceCall} (fits : system.Fits sameCode call)
    (stage : found.stage = call.stage) (leftAlone : found.leftAlone → call.leftAlone)
    (saw : ∀ result, call.Saw sameCode result → found.Saw sameCode result)
    (live : call.stage = .asking → found.leftAlone →
      ∀ cached, after.live found.key = some cached → system.live call.key = some cached) :
    after.Fits sameCode found := by
  unfold Fits at fits ⊢
  rw [stage]
  cases isStage : call.stage with
  | asking =>
      rw [isStage] at fits
      intro alone cached isLive
      exact saw _ (fits (leftAlone alone) cached (live isStage alone cached isLive))
  | answered answer time =>
      rw [isStage] at fits
      intro cached isAnswer
      rcases fits cached isAnswer with ⟨age, sees⟩
      exact ⟨age, fun alone => saw _ (sees (leftAlone alone))⟩
  | reading asked remaining =>
      rw [isStage] at fits
      exact fits
  | found cached =>
      rw [isStage] at fits
      exact fun alone => saw _ (fits (leftAlone alone))
  | stored cached =>
      rw [isStage] at fits
      exact fun alone => saw _ (fits (leftAlone alone))
  | returned result time =>
      rw [isStage] at fits
      exact ⟨fun alone => saw _ (fits.1 (leftAlone alone)), fits.2⟩
  | raised error => trivial

theorem live_readAt (sound : system.Sound sameCode) {cached : CachedPrice}
    (isLive : system.live key = some cached) : system.clock ≤ cached.readAt + 3600 := by
  rw [live, Option.map_eq_some_iff] at isLive
  rcases isLive with ⟨entry, kept, rfl⟩
  rw [Option.filter_eq_some_iff, decide_eq_true_eq] at kept
  have expiry := sound.expiry key entry kept.1
  have inTime := kept.2
  omega

/-! ### Steps of a call -/

theorem setCall_cases {id other : ℕ} {next found : PriceCall}
    (isCall : (system.setCall id next).calls other = some found) :
    other = id ∧ found = next ∨ other ≠ id ∧ system.calls other = some found := by
  by_cases same : other = id
  · left
    subst same
    simp only [setCall, Function.update_self, Option.some.injEq] at isCall
    exact ⟨rfl, isCall.symm⟩
  · right
    simp only [setCall, Function.update_of_ne same] at isCall
    exact ⟨same, isCall⟩

theorem Sound.setCall (sound : system.Sound sameCode) {id : ℕ} {next : PriceCall}
    (plain : next.query.Plain) (fits : system.Fits sameCode next)
    (current : ¬ next.stage.Ended → system.tables ∈ next.seen)
    (asks : next.stage = .asking → next.leftAlone → ∀ other filler,
      system.calls other = some filler → filler.key = next.key → ¬ filler.stage.Filling)
    (fills : next.stage.Filling → ∀ other call, other ≠ id → system.calls other = some call →
      call.stage = .asking → call.leftAlone → next.key ≠ call.key) :
    (system.setCall id next).Sound sameCode where
  plain other found isCall := by
    rcases setCall_cases isCall with ⟨-, rfl⟩ | ⟨-, was⟩
    · exact plain
    · exact sound.plain other found was
  fits other found isCall := by
    rcases setCall_cases isCall with ⟨-, rfl⟩ | ⟨-, was⟩
    · exact fits
    · exact sound.fits other found was
  current other found isCall running := by
    rcases setCall_cases isCall with ⟨-, rfl⟩ | ⟨-, was⟩
    · exact current running
    · exact sound.current other found was running
  alone other found isCall asking leftAlone third filler isFiller sameKey := by
    rcases setCall_cases isCall with ⟨-, rfl⟩ | ⟨different, was⟩
    · rcases setCall_cases isFiller with ⟨-, rfl⟩ | ⟨-, fillerWas⟩
      · rw [asking]
        exact fun filling => filling
      · exact asks asking leftAlone third filler fillerWas sameKey
    · rcases setCall_cases isFiller with ⟨-, rfl⟩ | ⟨-, fillerWas⟩
      · intro filling
        exact fills filling other found different was asking leftAlone sameKey
      · exact sound.alone other found was asking leftAlone third filler fillerWas sameKey
  redis := sound.redis
  expiry := sound.expiry
  held := sound.held

theorem Sound.advance (sound : system.Sound sameCode) {id : ℕ}
    (isCall : system.calls id = some call) (running : ¬ call.stage.Ended) {stage : PriceStage}
    (fits : system.Fits sameCode { call with stage := stage }) (notAsking : stage ≠ .asking)
    (filling : stage.Filling → call.stage.Filling) :
    (system.setCall id { call with stage := stage }).Sound sameCode := by
  refine sound.setCall (sound.plain id call isCall) fits ?_ ?_ ?_
  · intro _
    exact sound.current id call isCall running
  · intro asking
    exact absurd asking notAsking
  · intro fills other found _ isFound asking leftAlone sameKey
    exact sound.alone other found isFound asking leftAlone id call isCall sameKey (filling fills)

theorem Sound.hold (sound : system.Sound sameCode) {process : ℕ} {query : PriceQuery}
    {cached : CachedPrice} (plain : query.Plain)
    (good : system.Gives sameCode query cached.info ∨ system.Pending query.cacheKey) :
    (system.hold process query.cacheKey cached).Sound sameCode where
  plain := sound.plain
  fits := sound.fits
  current := sound.current
  alone := sound.alone
  redis := sound.redis
  expiry := sound.expiry
  held other otherPlain inProcess found isHeld := by
    simp only [PriceSystem.hold] at isHeld
    split at isHeld
    · rename_i same
      rw [Option.some.injEq] at isHeld
      rw [← isHeld]
      refine good.imp ?_ ?_
      · intro gives
        exact Gives.of_key gives plain otherPlain same.2
      · intro pending
        rw [same.2]
        exact pending
    · exact sound.held other otherPlain inProcess found isHeld

theorem Sound.keep (sound : system.Sound sameCode) {id : ℕ} (isCall : system.calls id = some call)
    (running : ¬ call.stage.Ended) {cached : CachedPrice}
    (saw : call.leftAlone → call.Saw sameCode (some cached.info))
    (age : system.clock ≤ cached.readAt + 3600)
    (good : system.Gives sameCode call.query cached.info ∨ system.Pending call.key) :
    ((system.hold call.process call.key cached).setCall id
      { call with stage := .returned (some cached) system.clock }).Sound sameCode := by
  have held : (system.hold call.process call.key cached).Sound sameCode :=
    sound.hold (sound.plain id call isCall) good
  refine held.advance isCall running ?_ (by simp) (by simp [PriceStage.Filling])
  refine ⟨saw, ?_⟩
  intro other same
  rw [Option.some.injEq] at same
  rw [← same]
  exact age

/-! ### Other steps -/

theorem Sound.tick (sound : system.Sound sameCode) :
    ({ system with clock := system.clock + 1 } : PriceSystem).Sound sameCode := by
  have earlier : ∀ key cached,
      ({ system with clock := system.clock + 1 } : PriceSystem).live key = some cached →
        system.live key = some cached := by
    intro key cached isLive
    simp only [live, Option.map_eq_some_iff, Option.filter_eq_some_iff, decide_eq_true_eq]
      at isLive ⊢
    rcases isLive with ⟨entry, ⟨isEntry, inTime⟩, same⟩
    exact ⟨entry, ⟨isEntry, by omega⟩, same⟩
  exact
    { plain := sound.plain
      fits := fun id call isCall =>
        (sound.fits id call isCall).mono rfl (fun alone => alone) (fun _ saw => saw)
          fun _ _ cached isLive => earlier _ cached isLive
      current := sound.current
      alone := sound.alone
      redis := fun query plain cached isLive =>
        sound.redis query plain cached (earlier _ cached isLive)
      expiry := sound.expiry
      held := sound.held }

theorem live_setex (system : PriceSystem) (key other : String) (cached : CachedPrice) :
    (system.setex key 3600 cached).live other =
      if other = key then some cached else system.live other := by
  by_cases same : other = key
  · subst same
    simp [live, PriceSystem.setex]
  · rw [if_neg same]
    simp only [live, PriceSystem.setex, Function.update_of_ne same]
    rfl

theorem Sound.setex (sound : system.Sound sameCode) {query : PriceQuery} {cached : CachedPrice}
    (plain : query.Plain) (now : system.clock = cached.readAt)
    (good : system.Gives sameCode query cached.info ∨ system.WillDelete query.cacheKey)
    (nobodyAsks : ∀ id call, system.calls id = some call → call.stage = .asking →
      call.leftAlone → call.key ≠ query.cacheKey) :
    (system.setex query.cacheKey 3600 cached).Sound sameCode where
  plain := sound.plain
  fits id call isCall := by
    refine (sound.fits id call isCall).mono rfl (fun alone => alone) (fun _ saw => saw) ?_
    intro asking leftAlone found isLive
    rw [live_setex, if_neg (nobodyAsks id call isCall asking leftAlone)] at isLive
    exact isLive
  current := sound.current
  alone := sound.alone
  redis other otherPlain found isLive := by
    rw [live_setex] at isLive
    split at isLive
    · rename_i same
      rw [Option.some.injEq] at isLive
      rw [← isLive]
      refine good.imp ?_ ?_
      · intro gives
        exact Gives.of_key gives plain otherPlain same
      · intro will
        rw [same]
        exact will
    · exact sound.redis other otherPlain found isLive
  expiry key entry isEntry := by
    by_cases same : key = query.cacheKey
    · subst same
      simp only [PriceSystem.setex, Function.update_self, Option.some.injEq] at isEntry
      rw [← isEntry, now]
    · simp only [PriceSystem.setex, Function.update_of_ne same] at isEntry
      exact sound.expiry key entry isEntry
  held := sound.held

end

end PriceSystem

namespace PriceCall

variable {call : PriceCall} {key : String} {tables : PriceTables}

@[simp] theorem see_query : (call.see tables).query = call.query := by
  unfold see
  split <;> rfl

@[simp] theorem see_stage : (call.see tables).stage = call.stage := by
  unfold see
  split <;> rfl

@[simp] theorem see_leftAlone : (call.see tables).leftAlone = call.leftAlone := by
  unfold see
  split <;> rfl

theorem see_seen (running : ¬ call.stage.Ended) : tables ∈ (call.see tables).seen := by
  rw [see, if_neg running]
  exact List.mem_cons_self

theorem Saw.see {result : Option PriceInfo} (saw : call.Saw sameCode result) :
    (call.see tables).Saw sameCode result := by
  rcases saw with ⟨seen, member, gives⟩
  unfold PriceCall.see
  split
  · exact ⟨seen, member, gives⟩
  · exact ⟨seen, List.mem_cons_of_mem _ member, gives⟩

@[simp] theorem disturb_query : (call.disturb key).query = call.query := by
  unfold disturb
  split <;> rfl

@[simp] theorem disturb_stage : (call.disturb key).stage = call.stage := by
  unfold disturb
  split <;> rfl

@[simp] theorem disturb_seen : (call.disturb key).seen = call.seen := by
  unfold disturb
  split <;> rfl

theorem disturb_leftAlone (alone : (call.disturb key).leftAlone) :
    call.leftAlone ∧ (call.stage.Ended ∨ call.key ≠ key) := by
  unfold disturb at alone
  split at alone
  · rename_i apart
    exact ⟨alone, apart⟩
  · exact alone.elim

end PriceCall

namespace PriceSystem

variable {system : PriceSystem} {call : PriceCall} {key : String}

theorem Sound.disturb (sound : system.Sound sameCode) (key : String) :
    (system.disturb key).Sound sameCode where
  plain id found isCall := by
    rcases Option.map_eq_some_iff.mp isCall with ⟨call, was, rfl⟩
    rw [PriceCall.disturb_query]
    exact sound.plain id call was
  fits id found isCall := by
    rcases Option.map_eq_some_iff.mp isCall with ⟨call, was, rfl⟩
    refine (sound.fits id call was).mono PriceCall.disturb_stage
      (fun alone => (PriceCall.disturb_leftAlone alone).1) ?_ ?_
    · rintro result ⟨tables, member, gives⟩
      refine ⟨tables, ?_, ?_⟩
      · rw [PriceCall.disturb_seen]
        exact member
      · rw [PriceCall.disturb_query]
        exact gives
    · intro _ _ cached isLive
      rw [PriceCall.key, PriceCall.disturb_query] at isLive
      exact isLive
  current id found isCall running := by
    rcases Option.map_eq_some_iff.mp isCall with ⟨call, was, rfl⟩
    rw [PriceCall.disturb_stage] at running
    rw [PriceCall.disturb_seen]
    exact sound.current id call was running
  alone id found isCall asking leftAlone other filler isFiller sameKey := by
    rcases Option.map_eq_some_iff.mp isCall with ⟨call, was, rfl⟩
    rcases Option.map_eq_some_iff.mp isFiller with ⟨fillerBefore, fillerWas, rfl⟩
    simp only [PriceCall.key, PriceCall.disturb_query] at sameKey
    rw [PriceCall.disturb_stage] at asking ⊢
    exact sound.alone id call was asking (PriceCall.disturb_leftAlone leftAlone).1 other
      fillerBefore fillerWas sameKey
  redis := sound.redis
  expiry := sound.expiry
  held := sound.held

theorem Sound.miss (sound : system.Sound sameCode) {id : ℕ} (isCall : system.calls id = some call)
    (running : ¬ call.stage.Ended) :
    ((system.disturb call.key).setCall id
      { call with stage := .reading [] PriceLookup.all }).Sound sameCode := by
  refine (sound.disturb call.key).setCall (sound.plain id call isCall) ?_ ?_ ?_ ?_
  · exact List.nil_append _
  · intro _
    exact sound.current id call isCall running
  · intro asking
    cases asking
  · intro _ other found _ isFound asking leftAlone sameKey
    rcases Option.map_eq_some_iff.mp isFound with ⟨before, -, rfl⟩
    rw [PriceCall.disturb_stage] at asking
    rw [PriceCall.key, PriceCall.key, PriceCall.disturb_query] at sameKey
    rcases (PriceCall.disturb_leftAlone leftAlone).2 with ended | different
    · rw [asking] at ended
      exact ended
    · exact different sameKey.symm

/-! ### Invalidations -/

theorem setDeletion_self {id : ℕ} {next : Option PriceDeletion} :
    (system.setDeletion id next).deletions id = next := by
  simp [setDeletion]

theorem setDeletion_other {id other : ℕ} {next : Option PriceDeletion} (different : other ≠ id) :
    (system.setDeletion id next).deletions other = system.deletions other := by
  simp [setDeletion, different]

theorem Sound.invalidate (sound : system.Sound sameCode) {id : ℕ}
    (new : system.deletions id = none) (deletion : PriceDeletion) :
    (system.setDeletion id (some deletion)).Sound sameCode := by
  have others : ∀ other found, system.deletions other = some found →
      (system.setDeletion id (some deletion)).deletions other = some found := by
    intro other found isDeletion
    have different : other ≠ id := by
      rintro rfl
      rw [new] at isDeletion
      cases isDeletion
    rw [setDeletion_other different]
    exact isDeletion
  exact
    { plain := sound.plain
      fits := sound.fits
      current := sound.current
      alone := sound.alone
      redis := by
        intro query plain cached isLive
        refine (sound.redis query plain cached isLive).imp_right ?_
        rintro ⟨other, found, isDeletion, rest⟩
        exact ⟨other, found, others other found isDeletion, rest⟩
      expiry := sound.expiry
      held := by
        intro query plain process cached isHeld
        refine (sound.held query plain process cached isHeld).imp_right ?_
        rintro ⟨other, found, isDeletion, lists⟩
        exact ⟨other, found, others other found isDeletion, lists⟩ }

theorem Sound.moveDeletion (sound : system.Sound sameCode) {id : ℕ} {deletion : PriceDeletion}
    (isDeletion : system.deletions id = some deletion) {next : Option PriceDeletion}
    (redis : ∀ query : PriceQuery, query.Plain → ∀ cached,
      system.live query.cacheKey = some cached → deletion.invalidation.Lists query.cacheKey →
        deletion.stage.Deletes query.cacheKey →
          (system.setDeletion id next).WillDelete query.cacheKey)
    (held : ∀ query : PriceQuery, query.Plain → ∀ process cached,
      system.localCache process query.cacheKey = some cached →
        deletion.invalidation.Lists query.cacheKey →
          system.Gives sameCode query cached.info ∨
            (system.setDeletion id next).Pending query.cacheKey) :
    (system.setDeletion id next).Sound sameCode := by
  have moved : ∀ other found, system.deletions other = some found →
      found = deletion ∨ (system.setDeletion id next).deletions other = some found := by
    intro other found isFound
    by_cases same : other = id
    · left
      rw [same, isDeletion, Option.some.injEq] at isFound
      exact isFound.symm
    · right
      rw [setDeletion_other same]
      exact isFound
  exact
    { plain := sound.plain
      fits := sound.fits
      current := sound.current
      alone := sound.alone
      redis := by
        intro query plain cached isLive
        refine (sound.redis query plain cached isLive).imp_right ?_
        rintro ⟨other, found, isFound, lists, deletes⟩
        rcases moved other found isFound with rfl | stays
        · exact redis query plain cached isLive lists deletes
        · exact ⟨other, found, stays, lists, deletes⟩
      expiry := sound.expiry
      held := by
        intro query plain process cached isHeld
        rcases sound.held query plain process cached isHeld with
          gives | ⟨other, found, isFound, lists⟩
        · exact .inl gives
        · rcases moved other found isFound with rfl | stays
          · exact held query plain process cached isHeld lists
          · exact .inr ⟨other, found, stays, lists⟩ }

theorem Sound.list (sound : system.Sound sameCode) {id : ℕ} {deletion : PriceDeletion}
    {keys : List String} (isDeletion : system.deletions id = some deletion)
    (lists : ∀ key, key ∈ keys ↔ (system.live key).isSome ∧ deletion.invalidation.Lists key) :
    (system.setDeletion id (some { deletion with stage := .listed keys })).Sound sameCode := by
  refine sound.moveDeletion isDeletion ?_ ?_
  · intro query _ cached isLive inPattern _
    have listed : query.cacheKey ∈ keys := by
      rw [lists, isLive]
      exact ⟨rfl, inPattern⟩
    exact ⟨id, _, setDeletion_self, inPattern, listed⟩
  · intro query _ process cached _ inPattern
    exact .inr ⟨id, _, setDeletion_self, inPattern⟩

theorem live_del (system : PriceSystem) (keys : List String) (key : String) :
    (system.del keys).live key = if key ∈ keys then none else system.live key := by
  by_cases member : key ∈ keys
  · simp [live, del, member]
  · simp only [live, del, if_neg member]
    rfl

theorem Sound.del (sound : system.Sound sameCode) (keys : List String) :
    (system.del keys).Sound sameCode where
  plain := sound.plain
  fits id call isCall := by
    refine (sound.fits id call isCall).mono rfl (fun alone => alone) (fun _ saw => saw) ?_
    intro _ _ cached isLive
    rw [live_del] at isLive
    split at isLive
    · cases isLive
    · exact isLive
  current := sound.current
  alone := sound.alone
  redis query plain cached isLive := by
    rw [live_del] at isLive
    split at isLive
    · cases isLive
    · exact sound.redis query plain cached isLive
  expiry key entry isEntry := by
    simp only [PriceSystem.del] at isEntry
    split at isEntry
    · cases isEntry
    · exact sound.expiry key entry isEntry
  held := sound.held

theorem Sound.delete (sound : system.Sound sameCode) {id : ℕ} {deletion : PriceDeletion}
    {keys : List String} (isDeletion : system.deletions id = some deletion)
    (stage : deletion.stage = .listed keys) :
    ((system.del keys).setDeletion id (some { deletion with stage := .deleted })).Sound
      sameCode := by
  refine (sound.del keys).moveDeletion isDeletion ?_ ?_
  · intro query _ cached isLive _ deletes
    rw [stage] at deletes
    have member : query.cacheKey ∈ keys := deletes
    rw [live_del, if_pos member] at isLive
    cases isLive
  · intro query _ process cached _ inPattern
    exact .inr ⟨id, _, setDeletion_self, inPattern⟩

theorem Sound.forgetLocal (sound : system.Sound sameCode) (process : ℕ)
    (invalidation : PriceInvalidation) :
    (system.forget process invalidation).Sound sameCode where
  plain := sound.plain
  fits := sound.fits
  current := sound.current
  alone := sound.alone
  redis := sound.redis
  expiry := sound.expiry
  held query plain other cached isHeld := by
    simp only [PriceSystem.forget] at isHeld
    split at isHeld
    · cases isHeld
    · exact sound.held query plain other cached isHeld

theorem Sound.forget (sound : system.Sound sameCode) {id : ℕ} {deletion : PriceDeletion}
    (isDeletion : system.deletions id = some deletion)
    (stage : deletion.stage = .listed [] ∨ deletion.stage = .deleted)
    (others : ∀ process ≠ deletion.process, ∀ query : PriceQuery, query.Plain → ∀ cached,
      system.localCache process query.cacheKey = some cached →
        deletion.invalidation.Lists query.cacheKey → system.Gives sameCode query cached.info) :
    ((system.forget deletion.process deletion.invalidation).setDeletion id none).Sound
      sameCode := by
  refine (sound.forgetLocal deletion.process deletion.invalidation).moveDeletion isDeletion ?_ ?_
  · intro query _ cached _ _ deletes
    rcases stage with nothing | deleted
    · rw [nothing] at deletes
      cases deletes
    · rw [deleted] at deletes
      exact deletes.elim
  · intro query plain process cached isHeld inPattern
    left
    simp only [PriceSystem.forget] at isHeld
    split at isHeld
    · cases isHeld
    · rename_i notDropped
      refine others process ?_ query plain cached isHeld inPattern
      intro own
      exact notDropped ⟨own, inPattern.matches_plain plain⟩

theorem Sound.commit (sound : system.Sound sameCode) {tables : PriceTables}
    (covers : ∀ query : PriceQuery, query.Plain → system.Caches query.cacheKey →
      tables.priceOf sameCode query = system.tables.priceOf sameCode query ∨
        system.WillDelete query.cacheKey) :
    (system.commit tables).Sound sameCode where
  plain id found isCall := by
    rcases Option.map_eq_some_iff.mp isCall with ⟨call, was, rfl⟩
    rw [PriceCall.see_query]
    exact sound.plain id call was
  fits id found isCall := by
    rcases Option.map_eq_some_iff.mp isCall with ⟨call, was, rfl⟩
    refine (sound.fits id call was).mono PriceCall.see_stage ?_ (fun _ saw => saw.see) ?_
    · rw [PriceCall.see_leftAlone]
      exact fun alone => alone
    · intro _ _ cached isLive
      rw [PriceCall.key, PriceCall.see_query] at isLive
      exact isLive
  current id found isCall running := by
    rcases Option.map_eq_some_iff.mp isCall with ⟨call, was, rfl⟩
    rw [PriceCall.see_stage] at running
    exact PriceCall.see_seen running
  alone id found isCall asking leftAlone other filler isFiller sameKey := by
    rcases Option.map_eq_some_iff.mp isCall with ⟨call, was, rfl⟩
    rcases Option.map_eq_some_iff.mp isFiller with ⟨fillerBefore, fillerWas, rfl⟩
    simp only [PriceCall.key, PriceCall.see_query] at sameKey
    rw [PriceCall.see_stage] at asking ⊢
    rw [PriceCall.see_leftAlone] at leftAlone
    exact sound.alone id call was asking leftAlone other fillerBefore fillerWas sameKey
  redis query plain cached isLive := by
    rcases sound.redis query plain cached isLive with gives | will
    · rcases covers query plain (.inl ⟨cached, isLive⟩) with same | will
      · exact .inl (same.trans gives)
      · exact .inr will
    · exact .inr will
  expiry := sound.expiry
  held query plain process cached isHeld := by
    rcases sound.held query plain process cached isHeld with gives | pending
    · rcases covers query plain (.inr ⟨process, cached, isHeld⟩) with same | will
      · exact .inl (same.trans gives)
      · exact .inr will.pending
    · exact .inr pending

theorem Sound.change (sound : system.Sound sameCode) {id process : ℕ} {change : PriceChange}
    {after : PriceTables} (new : system.deletions id = none)
    (commits : change.Commits system.tables after) (plain : change.invalidation.Plain)
    (spelled : ∀ query : PriceQuery, query.Plain → system.Caches query.cacheKey →
      change.Affects sameCode query → change.Spells query) :
    ((system.commit after).setDeletion id (some ⟨process, change.invalidation, .called⟩)).Sound
      sameCode := by
  refine (sound.invalidate new ⟨process, change.invalidation, .called⟩).commit ?_
  intro query queryPlain caches
  by_cases affects : change.Affects sameCode query
  · right
    have lists := PriceChange.lists_of_affects affects (spelled query queryPlain caches affects)
      plain
    exact ⟨id, _, setDeletion_self, lists, trivial⟩
  · exact .inl (PriceTables.priceOf_of_not_affects commits affects)

end PriceSystem

end Klsmsc
