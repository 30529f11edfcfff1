import Klsmsc.PriceCache.Sound

/-!
# Changes of prices take effect

In a run whose steps all heed the condition, calls return the prices of the committed tables. The
run below does not: a price is changed in one process, and another goes on with the old one.
-/

namespace Klsmsc

open Library

variable {sameCode : String → String → Bool}

namespace PriceSystem

variable {system : PriceSystem} {call : PriceCall}

/-! ### Runs -/

theorem Sound.begin (sound : system.Sound sameCode) {id process : ℕ} {query : PriceQuery}
    (plain : query.Plain) {stage : PriceStage}
    (fits : system.Fits sameCode (system.newCall process query stage))
    (notFilling : ¬ stage.Filling) :
    (system.setCall id (system.newCall process query stage)).Sound sameCode := by
  refine sound.setCall plain fits ?_ ?_ ?_
  · intro _
    exact List.mem_cons_self
  · intro _ leftAlone
    exact leftAlone.2
  · intro filling
    exact absurd filling notFilling

theorem saw_newCall {process : ℕ} {query : PriceQuery} {stage : PriceStage} {info : PriceInfo}
    (gives : system.Gives sameCode query info) :
    (system.newCall process query stage).Saw sameCode (some info) :=
  ⟨system.tables, List.mem_cons_self, gives⟩

theorem Sound.lookup (sound : system.Sound sameCode) {id : ℕ} {view : PriceTables}
    {asked rest : List PriceLookup} {lookup : PriceLookup}
    (isCall : system.calls id = some call) (stage : call.stage = .reading asked (lookup :: rest))
    (heeds : system.Heeds sameCode (.lookup id view)) :
    (system.setCall id
      { call with
        stage := .afterLookup asked lookup rest system.clock
          (view.answer sameCode call.query lookup) }).Sound sameCode := by
  have running : ¬ call.stage.Ended := by
    rw [stage]
    exact fun ended => ended
  have order : asked ++ lookup :: rest = PriceLookup.all := by
    have fits := sound.fits id call isCall
    rw [Fits, stage] at fits
    exact fits
  have filling : call.stage.Filling := by
    rw [stage]
    trivial
  have current := sound.current id call isCall running
  have committed := heeds call asked lookup rest isCall stage
  have first : ∀ answers : PriceLookup → Except PriceError (Option PriceInfo),
      (∀ earlier ∈ asked, answers earlier = .ok none) →
        PriceTables.firstPrice answers PriceLookup.all =
          PriceTables.firstPrice answers (lookup :: rest) := by
    intro answers nothing
    rw [← order]
    exact PriceTables.firstPrice_append nothing
  refine sound.advance isCall running ?_ ?_ (fun _ => filling)
  · cases answer : view.answer sameCode call.query lookup with
    | error error => trivial
    | ok found =>
        cases found with
        | some info =>
            intro leftAlone
            refine ⟨system.tables, current, ?_⟩
            rw [PriceTables.priceOf, first _ (committed leftAlone).1, PriceTables.firstPrice,
              ← (committed leftAlone).2, answer]
        | none =>
            rw [PriceStage.afterLookup]
            split
            · rename_i last
              refine ⟨?_, by simp⟩
              intro leftAlone
              refine ⟨system.tables, current, ?_⟩
              rw [PriceTables.priceOf, first _ (committed leftAlone).1, PriceTables.firstPrice,
                ← (committed leftAlone).2, answer, last]
              rfl
            · simp only [Fits, List.append_assoc, List.singleton_append]
              exact order
  · cases view.answer sameCode call.query lookup with
    | error error => simp [PriceStage.afterLookup]
    | ok found =>
        cases found with
        | some info => simp [PriceStage.afterLookup]
        | none =>
            rw [PriceStage.afterLookup]
            split <;> simp

theorem sound_step {after : PriceSystem} {action : PriceAction}
    (step : PriceStep sameCode system action after) (heeds : system.Heeds sameCode action)
    (sound : system.Sound sameCode) : after.Sound sameCode := by
  cases step with
  | tick => exact sound.tick
  | hit new held =>
      rename_i id process query cached
      refine sound.begin heeds.1 ⟨?_, ?_⟩ (fun filling => filling)
      · intro leftAlone
        rcases sound.held query heeds.1 process cached held with gives | pending
        · exact saw_newCall gives
        · exact absurd pending leftAlone.1
      · intro other same
        rw [Option.some.injEq] at same
        rw [← same]
        exact heeds.2 cached held
  | ask new absent =>
      rename_i id process query
      refine sound.begin heeds.1 ?_ (fun filling => filling)
      intro leftAlone cached isLive
      rcases sound.redis query heeds.1 cached isLive with gives | will
      · exact saw_newCall gives
      · exact absurd will.pending leftAlone.1
  | get isCall stage =>
      rename_i id call
      have running : ¬ call.stage.Ended := by
        rw [stage]
        exact fun ended => ended
      have fits := sound.fits id call isCall
      rw [Fits, stage] at fits
      refine sound.advance isCall running ?_ (by simp) (fun filling => filling.elim)
      intro cached isLive
      exact ⟨live_readAt sound isLive, fun leftAlone => fits leftAlone cached isLive⟩
  | keep isCall stage =>
      rename_i id call cached time
      have running : ¬ call.stage.Ended := by
        rw [stage]
        exact fun ended => ended
      have fits := sound.fits id call isCall
      rw [Fits, stage] at fits
      rcases heeds call cached time isCall stage with ⟨now, good⟩
      rcases fits cached rfl with ⟨age, saw⟩
      exact sound.keep isCall running saw (now ▸ age) good
  | miss isCall stage =>
      rename_i id call time
      have running : ¬ call.stage.Ended := by
        rw [stage]
        exact fun ended => ended
      exact sound.miss isCall running
  | lookup isCall stage committed => exact sound.lookup isCall stage heeds
  | setex isCall stage =>
      rename_i id call cached
      have running : ¬ call.stage.Ended := by
        rw [stage]
        exact fun ended => ended
      have filling : call.stage.Filling := by
        rw [stage]
        trivial
      have fits := sound.fits id call isCall
      rw [Fits, stage] at fits
      rcases heeds call cached isCall stage with ⟨now, good⟩
      have plain := sound.plain id call isCall
      have stored : (system.setex call.key 3600 cached).Sound sameCode := by
        refine sound.setex plain now good ?_
        intro other asker isAsker asking leftAlone sameKey
        exact sound.alone other asker isAsker asking leftAlone id call isCall sameKey.symm filling
      exact stored.advance isCall running fits (by simp) (fun filling => filling.elim)
  | finish isCall stage =>
      rename_i id call cached
      have running : ¬ call.stage.Ended := by
        rw [stage]
        exact fun ended => ended
      have fits := sound.fits id call isCall
      rw [Fits, stage] at fits
      rcases heeds call cached isCall stage with ⟨now, good⟩
      exact sound.keep isCall running fits (by omega) good
  | change new commits => exact sound.change new commits heeds.1 heeds.2
  | invalidate new => exact sound.invalidate new _
  | list isDeletion stage lists => exact sound.list isDeletion lists
  | delete isDeletion stage nonempty => exact sound.delete isDeletion stage
  | forget isDeletion stage => exact sound.forget isDeletion stage (heeds _ isDeletion)

theorem Sound.pricesTakeEffect (sound : system.Sound sameCode) :
    system.PricesTakeEffect sameCode := by
  intro id call isCall result time stage
  have fits := sound.fits id call isCall
  rw [Fits, stage] at fits
  exact fits

end PriceSystem

/-- In a run whose steps heed the condition every call returns the price of tables committed while
it ran, if its key is left alone, and none returns a price that is more than an hour old. -/
theorem prices_take_effect {clock : ℕ} {tables : PriceTables} {last : PriceSystem}
    {transitions : List (Transition PriceSystem PriceAction)}
    (run : Run (PriceStep sameCode) (PriceSystem.start clock tables) transitions last)
    (heeds : ∀ transition ∈ transitions, transition.before.Heeds sameCode transition.label) :
    last.PricesTakeEffect sameCode ∧
      ∀ transition ∈ transitions, transition.after.PricesTakeEffect sameCode := by
  have preserved : ∀ before action after,
      Guarded (PriceStep sameCode) (PriceSystem.Heeds sameCode) before action after →
        before.Sound sameCode → after.Sound sameCode := by
    rintro before action after ⟨step, heeds⟩ sound
    exact PriceSystem.sound_step step heeds sound
  have sound := (run.guarded heeds).invariant preserved (PriceSystem.start_sound clock tables)
  refine ⟨sound.1.pricesTakeEffect, ?_⟩
  intro transition member
  exact (sound.2 transition member).2.pricesTakeEffect

/-! ### A price that is changed in another process -/

namespace OtherProcess

def sameText (left right : String) : Bool :=
  left = right

def tables (unitPrice : Money) : PriceTables where
  accounts := [⟨1, some unitPrice, "USD"⟩]
  accountPricing := []
  countryPricing := []

def query : PriceQuery where
  channelId := 3
  countryCode := "CN"
  mnc := none
  accountId := some 1

def price (unitPrice : Money) : CachedPrice where
  info := ⟨unitPrice, "USD", some "account_unit_price", none⟩
  readAt := 0

def system : PriceSystem :=
  PriceSystem.start 0 (tables 500)

def call (stage : PriceStage) : PriceCall :=
  system.newCall 1 query stage

def asking : PriceSystem :=
  system.setCall 0 (call .asking)

def answered : PriceSystem :=
  asking.setCall 0 (call (.answered none 0))

def reading : PriceSystem :=
  (answered.disturb query.cacheKey).setCall 0 (call (.reading [] PriceLookup.all))

def found : PriceSystem :=
  reading.setCall 0 (call (.found (price 500)))

def stored : PriceSystem :=
  (found.setex query.cacheKey 3600 (price 500)).setCall 0 (call (.stored (price 500)))

def returned : PriceSystem :=
  (stored.hold 1 query.cacheKey (price 500)).setCall 0 (call (.returned (some (price 500)) 0))

theorem fills :
    Run (PriceStep sameText) system
      [⟨system, .begin 0 1 query, asking⟩, ⟨asking, .get 0, answered⟩,
        ⟨answered, .receive 0, reading⟩, ⟨reading, .lookup 0 (tables 500), found⟩,
        ⟨found, .setex 0, stored⟩, ⟨stored, .finish 0, returned⟩] returned := by
  have ask : PriceStep sameText system (.begin 0 1 query) asking := .ask rfl rfl
  have get : PriceStep sameText asking (.get 0) answered :=
    @PriceStep.get _ asking 0 (call .asking) rfl rfl
  have miss : PriceStep sameText answered (.receive 0) reading :=
    @PriceStep.miss _ answered 0 (call (.answered none 0)) 0 rfl rfl
  have lookup : PriceStep sameText reading (.lookup 0 (tables 500)) found :=
    @PriceStep.lookup _ reading 0 (call (.reading [] PriceLookup.all)) _ _ _ (tables 500) rfl rfl
      (.inl rfl)
  have setex : PriceStep sameText found (.setex 0) stored :=
    @PriceStep.setex _ found 0 (call (.found (price 500))) (price 500) rfl rfl
  have finish : PriceStep sameText stored (.finish 0) returned :=
    @PriceStep.finish _ stored 0 (call (.stored (price 500))) (price 500) rfl rfl
  exact .cons ask (.cons get (.cons miss (.cons lookup (.cons setex (.cons finish (.nil _))))))

theorem fills_heeds :
    system.Heeds sameText (.begin 0 1 query) ∧ answered.Heeds sameText (.receive 0) ∧
      reading.Heeds sameText (.lookup 0 (tables 500)) ∧ found.Heeds sameText (.setex 0) ∧
      stored.Heeds sameText (.finish 0) := by
  have country : (query.countryCode.toList.all fun char =>
      decide (char ≠ ':' ∧ char ≠ '\n')) = true := by decide
  have plain : query.Plain :=
    ⟨fun char member => of_decide_eq_true (List.all_eq_true.mp country char member),
      fun mnc given => by cases given⟩
  have gives : (tables 500).priceOf sameText query = .ok (some (price 500).info) := by decide
  refine ⟨⟨plain, fun cached held => by cases held⟩, ?_, ?_, ?_, ?_⟩
  · rintro found cached time isCall stage
    have same : call (.answered none 0) = found := Option.some.inj isCall
    rw [← same] at stage
    cases stage
  · rintro found asked lookup rest isCall stage -
    have same : call (.reading [] PriceLookup.all) = found := Option.some.inj isCall
    rw [← same] at stage
    have parts : PriceStage.reading [] PriceLookup.all = .reading asked (lookup :: rest) := stage
    rw [PriceStage.reading.injEq] at parts
    rw [← parts.1]
    exact ⟨by simp, rfl⟩
  · rintro found cached isCall stage
    have same : call (.found (price 500)) = found := Option.some.inj isCall
    rw [← same] at stage ⊢
    have parts : PriceStage.found (price 500) = .found cached := stage
    rw [PriceStage.found.injEq] at parts
    rw [← parts]
    exact ⟨rfl, .inl gives⟩
  · rintro found cached isCall stage
    have same : call (.stored (price 500)) = found := Option.some.inj isCall
    rw [← same] at stage ⊢
    have parts : PriceStage.stored (price 500) = .stored cached := stage
    rw [PriceStage.stored.injEq] at parts
    rw [← parts]
    exact ⟨rfl, .inl gives⟩

def deletion (stage : DeletionStage) : PriceDeletion :=
  ⟨0, .invalidatePriceCacheForAccount 1, stage⟩

def changed : PriceSystem :=
  (returned.commit (tables 700)).setDeletion 0 (some (deletion .called))

def listed : PriceSystem :=
  changed.setDeletion 0 (some (deletion (.listed [query.cacheKey])))

def deleted : PriceSystem :=
  (listed.del [query.cacheKey]).setDeletion 0 (some (deletion .deleted))

def forgotten : PriceSystem :=
  (deleted.forget 0 (.invalidatePriceCacheForAccount 1)).setDeletion 0 none

def outdated : PriceCall :=
  forgotten.newCall 1 query (.returned (some (price 500)) 0)

theorem changes :
    Run (PriceStep sameText) returned
      [⟨returned, .change 0 0 (.unitPrice 1) (tables 700), changed⟩, ⟨changed, .list 0, listed⟩,
        ⟨listed, .delete 0, deleted⟩, ⟨deleted, .forget 0, forgotten⟩,
        ⟨forgotten, .begin 1 1 query, forgotten.setCall 1 outdated⟩]
      (forgotten.setCall 1 outdated) := by
  have commits : (PriceChange.unitPrice 1).Commits returned.tables (tables 700) := by
    refine ⟨?_, rfl, rfl⟩
    intro other different
    have notFirst : ¬ 1 = other := fun same => different same.symm
    simp [tables, returned, PriceSystem.hold, PriceSystem.setCall, stored, PriceSystem.setex,
      found, reading, PriceSystem.disturb, answered, asking, system, PriceSystem.start, notFirst]
  have change : PriceStep sameText returned (.change 0 0 (.unitPrice 1) (tables 700)) changed :=
    .change rfl commits
  have live : ∀ key, changed.live key = if key = query.cacheKey then some (price 500) else none :=
    fun key => PriceSystem.live_setex found query.cacheKey key (price 500)
  have inPattern : (PriceInvalidation.invalidatePriceCacheForAccount 1).Lists query.cacheKey :=
    @PriceChange.lists_of_affects sameText query (.unitPrice 1) rfl trivial trivial
  have list : PriceStep sameText changed (.list 0) listed := by
    refine @PriceStep.list _ changed 0 (deletion .called) [query.cacheKey] rfl rfl ?_
    intro key
    rw [List.mem_singleton, live]
    constructor
    · rintro rfl
      exact ⟨by simp, inPattern⟩
    · rintro ⟨isLive, -⟩
      by_contra different
      rw [if_neg different] at isLive
      cases isLive
  have delete : PriceStep sameText listed (.delete 0) deleted :=
    @PriceStep.delete _ listed 0 (deletion (.listed [query.cacheKey])) [query.cacheKey] rfl rfl
      (by simp)
  have forget : PriceStep sameText deleted (.forget 0) forgotten :=
    @PriceStep.forget _ deleted 0 (deletion .deleted) rfl (.inr rfl)
  have held : forgotten.localCache 1 query.cacheKey = some (price 500) := by
    simp [forgotten, PriceSystem.forget, PriceSystem.setDeletion, deleted, PriceSystem.del, listed,
      changed, PriceSystem.commit, returned, PriceSystem.hold, PriceSystem.setCall]
  have hit : PriceStep sameText forgotten (.begin 1 1 query) (forgotten.setCall 1 outdated) :=
    .hit rfl held
  exact .cons change (.cons list (.cons delete (.cons forget (.cons hit (.nil _)))))

theorem outdated_leftAlone : outdated.leftAlone := by
  constructor
  · rintro ⟨id, deletion, isDeletion, -⟩
    by_cases first : id = 0
    · subst first
      cases isDeletion
    · simp [forgotten, PriceSystem.forget, PriceSystem.setDeletion, deleted, PriceSystem.del,
        listed, changed, PriceSystem.commit, returned, PriceSystem.hold, PriceSystem.setCall,
        stored, PriceSystem.setex, found, reading, PriceSystem.disturb, answered, asking, system,
        PriceSystem.start] at isDeletion
  · intro id other isCall _
    by_cases first : id = 0
    · subst first
      have same : call (.returned (some (price 500)) 0) = other := Option.some.inj isCall
      rw [← same]
      exact fun filling => filling
    · simp [forgotten, PriceSystem.forget, PriceSystem.setDeletion, deleted, PriceSystem.del,
        listed, changed, PriceSystem.commit, returned, PriceSystem.hold, PriceSystem.setCall,
        stored, PriceSystem.setex, found, reading, PriceSystem.disturb, answered, asking, system,
        PriceSystem.start, first] at isCall

end OtherProcess

/-- A price that one process has changed is not the price that another goes on to return. -/
theorem old_price_returned :
    ¬ ∀ (clock : ℕ) (tables : PriceTables) (last : PriceSystem)
        (transitions : List (Transition PriceSystem PriceAction)),
      Run (PriceStep OtherProcess.sameText) (PriceSystem.start clock tables) transitions last →
        last.PricesTakeEffect OtherProcess.sameText := by
  intro always
  have effect := always 0 (OtherProcess.tables 500) _ _
    (OtherProcess.fills.append OtherProcess.changes)
  have correct := effect 1 OtherProcess.outdated rfl (some (OtherProcess.price 500)) 0 rfl
  rcases correct.1 OtherProcess.outdated_leftAlone with ⟨tables, member, gives⟩
  have seen : OtherProcess.outdated.seen = [OtherProcess.tables 700] := rfl
  rw [seen, List.mem_singleton] at member
  rw [member] at gives
  exact absurd gives (by decide)

theorem prices_take_effect_first_call :
    OtherProcess.returned.PricesTakeEffect OtherProcess.sameText := by
  refine (prices_take_effect OtherProcess.fills ?_).1
  intro transition member
  rcases OtherProcess.fills_heeds with ⟨first, receive, lookup, setex, finish⟩
  simp only [List.mem_cons, List.not_mem_nil, or_false] at member
  rcases member with rfl | rfl | rfl | rfl | rfl | rfl
  · exact first
  · trivial
  · exact receive
  · exact lookup
  · exact setex
  · exact finish

end Klsmsc
