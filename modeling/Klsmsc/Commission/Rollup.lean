import Klsmsc.Commission

/-!
# Commission from the daily statistics

The sums of a covered day are those of its messages until one of them is written or changed. The
rollup of a month therefore gives the commission of the live branch when all its days were refreshed
since, no price is missing, and the floats of the two parts add up to that of the whole.
-/

namespace Klsmsc

open Library

def CommissionLog.profit (log : CommissionLog) : Money :=
  log.sellingPrice.getD 0 - log.costPrice.getD 0

def PricesPaired (logs : List CommissionLog) : Prop :=
  (∃ log ∈ logs, log.sellingPrice.isSome = true) ↔ ∃ log ∈ logs, log.costPrice.isSome = true

def Floats.AddsUp {Float : Type} (floats : Floats Float) (left right : Money) : Prop :=
  floats.add (floats.add floats.zero (floats.ofMoney left)) (floats.ofMoney right) =
    floats.add floats.zero (floats.ofMoney (left + right))

def StaffDirectory.concerns (directory : StaffDirectory) (salesId : Option ℕ) (sales : ℕ)
    (key : StatKey) : Bool :=
  key.status = .delivered ∧ directory.counts salesId key.accountId key.channelId ∧
    directory.salesOf key.accountId = some sales

theorem StaffDirectory.concerns_iff {directory : StaffDirectory} {salesId : Option ℕ} {sales : ℕ}
    {key : StatKey} :
    directory.concerns salesId sales key = true ↔
      key.status = .delivered ∧ directory.counts salesId key.accountId key.channelId = true ∧
        directory.salesOf key.accountId = some sales :=
  decide_eq_true_iff

namespace StatsSystem

section

variable (state : StatsSystem) (directory : StaffDirectory) (salesId : Option ℕ) (sales : ℕ)

def messagesOf (days : ℤ → Bool) : List CommissionLog :=
  state.logs.filter fun log => days log.day && directory.concerns salesId sales log.key

def earlier (firstDay today : ℤ) : List CommissionLog :=
  state.messagesOf directory salesId sales fun day => firstDay ≤ day ∧ day ≤ today - 1

def since (today : ℤ) : List CommissionLog :=
  state.messagesOf directory salesId sales fun day => today ≤ day

end

/-- The days of the month before today were refreshed since their messages changed. The messages of
the staff in the month have both kinds of price or none, and so have those of today, and the sums of
the two parts add up as floats. -/
structure RollsUp {Float : Type} (floats : Floats Float) (directory : StaffDirectory)
    (firstDay today : ℤ) (salesId : Option ℕ) (state : StatsSystem) : Prop where
  refreshed : ∀ day ∈ state.stale, ¬(firstDay ≤ day ∧ day ≤ today - 1)
  priced : ∀ sales, PricesPaired (state.since directory salesId sales firstDay) ∧
    PricesPaired (state.since directory salesId sales today)
  exact : ∀ sales, state.earlier directory salesId sales firstDay today ≠ [] →
    state.since directory salesId sales today ≠ [] →
      floats.AddsUp
        ((state.earlier directory salesId sales firstDay today).map CommissionLog.profit).sum
        ((state.since directory salesId sales today).map CommissionLog.profit).sum

end StatsSystem

/-! ### Sums -/

theorem sqlSum_getD (values : List (Option Money)) :
    (sqlSum values).getD 0 = (values.map fun value => value.getD 0).sum := by
  unfold sqlSum
  split
  · rename_i missing
    have zero : ∀ value ∈ values, value.getD 0 = 0 := by
      intro value inside
      rw [Option.isNone_iff_eq_none.mp (List.all_eq_true.mp missing value inside)]
      rfl
    rw [List.map_congr_left zero]
    simp
  · rfl

theorem sum_profit (logs : List CommissionLog) :
    (logs.map CommissionLog.profit).sum =
      ((logs.map CommissionLog.sellingPrice).map fun price => price.getD 0).sum -
        ((logs.map CommissionLog.costPrice).map fun price => price.getD 0).sum := by
  induction logs with
  | nil => rfl
  | cons log logs ih =>
      simp only [List.map_cons, List.sum_cons, ih, CommissionLog.profit]
      exact sub_add_sub_comm _ _ _ _

theorem sqlSum_isSome {values : List (Option Money)} :
    (sqlSum values).isSome = true ↔ ∃ value ∈ values, value.isSome = true := by
  unfold sqlSum
  split
  · rename_i missing
    rw [List.all_eq_true] at missing
    refine iff_of_false (by decide) ?_
    rintro ⟨value, inside, present⟩
    rw [Option.isNone_iff_eq_none.mp (missing value inside)] at present
    cases present
  · rename_i present
    refine iff_of_true rfl ?_
    rw [List.all_eq_true] at present
    push Not at present
    rcases present with ⟨value, inside, there⟩
    exact ⟨value, inside, Option.isSome_iff_ne_none.mpr fun none => there (none ▸ rfl)⟩

theorem PricesPaired.of_forall {logs : List CommissionLog}
    (priced : ∀ log ∈ logs, log.sellingPrice.isSome = true ∧ log.costPrice.isSome = true) :
    PricesPaired logs :=
  ⟨fun ⟨log, inside, _⟩ => ⟨log, inside, (priced log inside).2⟩,
    fun ⟨log, inside, _⟩ => ⟨log, inside, (priced log inside).1⟩⟩

theorem sqlProfit_getD {logs : List CommissionLog} (paired : PricesPaired logs) :
    (sqlProfit logs).getD 0 = (logs.map CommissionLog.profit).sum := by
  have together : (sqlSum (logs.map CommissionLog.sellingPrice)).isSome = true ↔
      (sqlSum (logs.map CommissionLog.costPrice)).isSome = true := by
    simpa [sqlSum_isSome, PricesPaired] using paired
  rw [sum_profit, ← sqlSum_getD, ← sqlSum_getD, sqlProfit]
  cases selling : sqlSum (logs.map CommissionLog.sellingPrice) with
  | none =>
      cases cost : sqlSum (logs.map CommissionLog.costPrice) with
      | none => rfl
      | some bought =>
          rw [selling, cost] at together
          cases together.mpr rfl
  | some sold =>
      cases cost : sqlSum (logs.map CommissionLog.costPrice) with
      | none =>
          rw [selling, cost] at together
          cases together.mp rfl
      | some bought => rfl

theorem members_aggregate (logs : List CommissionLog) (key : StatKey) :
    ((members DailyStat.key (aggregate logs) key).map DailyStat.profit).sum =
        ((members CommissionLog.key logs key).map CommissionLog.profit).sum ∧
      (members DailyStat.key (aggregate logs) key = [] ↔
        members CommissionLog.key logs key = []) := by
  have grouped : members DailyStat.key (aggregate logs) key = _ :=
    members_map_groupBy fun _ => rfl
  rw [grouped]
  split
  · rename_i none
    rw [none]
    exact ⟨rfl, iff_of_true rfl rfl⟩
  · rename_i some
    refine ⟨?_, iff_of_false (List.cons_ne_nil _ _) some⟩
    rw [List.map_singleton, List.sum_singleton, sum_profit, ← sqlSum_getD, ← sqlSum_getD]
    rfl

/-! ### Covered days -/

namespace CommissionLog

variable (log : CommissionLog)

theorem midnight_le_submitTime {day : ℤ} : midnight day ≤ log.submitTime ↔ day ≤ log.day :=
  (Int.le_ediv_iff_mul_le (by decide)).symm

@[simp]
theorem key_day : log.key.day = log.day := rfl

@[simp]
theorem key_accountId : log.key.accountId = log.accountId := rfl

@[simp]
theorem key_channelId : log.key.channelId = log.channelId.getD 0 := rfl

@[simp]
theorem key_status : log.key.status = log.status := rfl

end CommissionLog

namespace StatsSystem

variable {state after : StatsSystem} {event : Event} {key : StatKey}

def AgreesOn (state : StatsSystem) (key : StatKey) : Prop :=
  ((members DailyStat.key state.stats key).map DailyStat.profit).sum =
      ((members CommissionLog.key state.logs key).map CommissionLog.profit).sum ∧
    (members DailyStat.key state.stats key = [] ↔
      members CommissionLog.key state.logs key = [])

def Accurate (state : StatsSystem) : Prop :=
  ∀ key : StatKey, key.day ∉ state.stale → (state.coverage key.day).isSome = true →
    state.AgreesOn key

namespace Accurate

theorem empty (clock : ℤ) : Accurate (StatsSystem.empty clock) :=
  fun _ _ covered => nomatch covered

theorem of_logs (accurate : state.Accurate) {logs : List CommissionLog} {stale : List ℤ}
    (known : ∀ day, day ∉ stale → day ∉ state.stale)
    (same : ∀ key : StatKey, key.day ∉ stale →
      members CommissionLog.key logs key = members CommissionLog.key state.logs key) :
    Accurate { state with logs, stale } := by
  intro key fresh covered
  have agrees := accurate key (known key.day fresh) covered
  unfold AgreesOn at agrees ⊢
  rw [same key fresh]
  exact agrees

theorem insert (accurate : state.Accurate) (log : CommissionLog) :
    Accurate { state with logs := state.logs ++ [log], stale := log.day :: state.stale } := by
  refine accurate.of_logs (fun day fresh inside => fresh (List.mem_cons_of_mem _ inside)) ?_
  intro key fresh
  have differs : ¬log.key = key := by
    rintro rfl
    exact fresh List.mem_cons_self
  rw [members_append]
  simp [members, differs]

theorem members_map_change {change : CommissionLog → CommissionLog} {id : ℕ}
    (sameDay : ∀ log, (change log).day = log.day) {logs : List CommissionLog}
    (untouched : ∀ log ∈ logs, log.id = id → log.day ≠ key.day) :
    members CommissionLog.key (logs.map fun log => if log.id = id then change log else log) key =
      members CommissionLog.key logs key := by
  induction logs with
  | nil => rfl
  | cons log logs ih =>
      have rest := ih fun other inside => untouched other (List.mem_cons_of_mem _ inside)
      unfold members at rest ⊢
      rw [List.map_cons, List.filter_cons, List.filter_cons, rest]
      by_cases its : log.id = id
      · have differs := untouched log List.mem_cons_self its
        have before : ¬log.key = key := fun same => differs (congrArg StatKey.day same)
        have afterwards : ¬(change log).key = key :=
          fun same => differs ((sameDay log).symm.trans (congrArg StatKey.day same))
        simp [its, before, afterwards]
      · simp [its]

theorem update (accurate : state.Accurate) {change : CommissionLog → CommissionLog} {id : ℕ}
    (sameDay : ∀ log, (change log).day = log.day) :
    Accurate
      { state with
        logs := state.logs.map fun log => if log.id = id then change log else log
        stale :=
          (state.logs.filter fun log => log.id = id).map CommissionLog.day ++ state.stale } := by
  refine accurate.of_logs (fun day fresh inside => fresh (List.mem_append_right _ inside)) ?_
  intro key fresh
  refine members_map_change sameDay fun log inside its onDay => ?_
  have changed : log ∈ state.logs.filter fun log => log.id = id :=
    List.mem_filter.mpr ⟨inside, decide_eq_true its⟩
  exact fresh (List.mem_append_left _ (List.mem_map.mpr ⟨log, changed, onDay⟩))

theorem members_between (logs : List CommissionLog) (startDate endDate : ℤ) (key : StatKey) :
    members CommissionLog.key (logs.filter fun log =>
        midnight startDate ≤ log.submitTime ∧ log.submitTime < midnight (endDate + 1)) key =
      if startDate ≤ key.day ∧ key.day ≤ endDate then members CommissionLog.key logs key
      else [] := by
  have onDays : ∀ log : CommissionLog,
      (midnight startDate ≤ log.submitTime ∧ log.submitTime < midnight (endDate + 1)) ↔
        startDate ≤ log.day ∧ log.day ≤ endDate := by
    intro log
    rw [log.midnight_le_submitTime, ← Int.not_le, log.midnight_le_submitTime]
    omega
  unfold members
  rw [List.filter_filter]
  simp only [onDays]
  split
  · rename_i within
    refine List.filter_congr fun log _ => ?_
    by_cases same : log.key = key
    · have day : log.day = key.day := congrArg StatKey.day same
      simp [same, day, within]
    · simp [same]
  · rename_i outside
    refine List.filter_eq_nil_iff.mpr fun log _ => ?_
    by_cases same : log.key = key
    · have day : log.day = key.day := congrArg StatKey.day same
      simp [same, day, outside]
    · simp [same]

theorem members_outside (stats : List DailyStat) (startDate endDate : ℤ) (key : StatKey) :
    members DailyStat.key (stats.filter fun stat =>
        ¬(startDate ≤ stat.key.day ∧ stat.key.day ≤ endDate)) key =
      if startDate ≤ key.day ∧ key.day ≤ endDate then []
      else members DailyStat.key stats key := by
  unfold members
  rw [List.filter_filter]
  split
  · rename_i within
    refine List.filter_eq_nil_iff.mpr fun stat _ => ?_
    by_cases same : stat.key = key
    · simp [same, within]
    · simp [same]
  · rename_i outside
    refine List.filter_congr fun stat _ => ?_
    by_cases same : stat.key = key
    · simp [same, outside]
    · simp [same]

theorem refresh (accurate : state.Accurate) (startDate endDate : ℤ) :
    Accurate (state.refreshDailyStats startDate endDate) := by
  unfold refreshDailyStats
  split
  · exact accurate
  · intro key fresh covered
    unfold AgreesOn
    simp only [members_append, List.map_append, List.sum_append, List.append_eq_nil_iff,
      members_outside]
    have rebuilt := members_aggregate (state.logs.filter fun log =>
      midnight startDate ≤ log.submitTime ∧ log.submitTime < midnight (endDate + 1)) key
    rw [members_between] at rebuilt
    by_cases within : startDate ≤ key.day ∧ key.day ≤ endDate
    · rw [if_pos within] at rebuilt ⊢
      refine ⟨?_, ?_⟩
      · rw [List.map_nil, List.sum_nil, zero_add]
        exact rebuilt.1
      · exact (and_iff_right rfl).trans rebuilt.2
    · rw [if_neg within] at rebuilt ⊢
      have nothing := rebuilt.2.mpr rfl
      have stillFresh : key.day ∉ state.stale :=
        fun stale => fresh (List.mem_filter.mpr ⟨stale, decide_eq_true within⟩)
      have agrees := accurate key stillFresh (by simpa only [if_neg within] using covered)
      rw [nothing, List.map_nil, List.sum_nil, add_zero]
      exact ⟨agrees.1, (and_iff_left rfl).trans agrees.2⟩

theorem step (accurate : state.Accurate) (step : state.Step event after) : after.Accurate := by
  unfold Step at step
  cases event with
  | tick seconds =>
      cases step
      exact accurate
  | insert log =>
      simp only [next] at step
      split at step
      · cases step
        exact accurate.insert log
      · cases step
  | update id status costPrice sellingPrice =>
      cases step
      exact accurate.update fun _ => rfl
  | refresh startDate endDate =>
      cases step
      exact accurate.refresh startDate endDate

end Accurate

/-! ### One member of the staff -/

variable {directory : StaffDirectory} {salesId : Option ℕ} {sales : ℕ} {firstDay today : ℤ}

theorem covered_of_useRollup (uses : state.useRollup firstDay today = true) {day : ℤ}
    (after : firstDay ≤ day) (before : day ≤ today - 1) : (state.coverage day).isSome = true := by
  simp only [useRollup, hasCompleteDailyStats, Bool.and_eq_true, decide_eq_true_eq] at uses
  rcases uses with ⟨-, complete⟩
  split at complete
  · cases complete
  · split at complete
    · cases complete
    · rename_i counted
      have length : (daysBetween firstDay (today - 1)).length =
          (today - 1 - firstDay + 1).toNat := by
        simp [daysBetween]
      have all :
          ((daysBetween firstDay (today - 1)).countP fun day => (state.coverage day).isSome) =
            (daysBetween firstDay (today - 1)).length := by
        rw [length]
        omega
      refine List.countP_eq_length.mp all day (List.mem_map.mpr ⟨(day - firstDay).toNat, ?_, ?_⟩)
      · rw [List.mem_range]
        omega
      · omega

theorem firstDay_le_of_useRollup (uses : state.useRollup firstDay today = true) :
    firstDay ≤ today - 1 := by
  simp only [useRollup, Bool.and_eq_true, decide_eq_true_eq] at uses
  exact uses.1

theorem counts_channel (log : CommissionLog) :
    log.channelId.any (directory.counts salesId log.accountId) =
      directory.counts salesId log.accountId (log.channelId.getD 0) := by
  cases log.channelId with
  | some channelId => rfl
  | none => simp [StaffDirectory.counts, directory.numbered]

theorem members_live (start : ℤ) :
    members (fun log : CommissionLog => directory.salesOf log.accountId)
        (state.logs.filter fun log =>
          midnight start ≤ log.submitTime ∧ log.status = .delivered ∧
            log.channelId.any (directory.counts salesId log.accountId)) (some sales) =
      state.since directory salesId sales start := by
  unfold members since messagesOf
  rw [List.filter_filter]
  refine List.filter_congr fun log _ => ?_
  rw [Bool.eq_iff_iff]
  simp only [Bool.and_eq_true, decide_eq_true_eq, StaffDirectory.concerns_iff,
    CommissionLog.midnight_le_submitTime, counts_channel, CommissionLog.key_accountId,
    CommissionLog.key_channelId, CommissionLog.key_status]
  tauto

theorem lookup_live (start : ℤ) :
    (state.liveProfitSince directory (midnight start) salesId).lookup (some sales) =
      if state.since directory salesId sales start = [] then none
      else some (sqlProfit (state.since directory salesId sales start)) := by
  rw [liveProfitSince, lookup_map_groupBy, members_live]

def isEarlier (directory : StaffDirectory) (salesId : Option ℕ) (sales : ℕ) (firstDay today : ℤ)
    (key : StatKey) : Bool :=
  decide (firstDay ≤ key.day ∧ key.day ≤ today - 1) && directory.concerns salesId sales key

theorem lookup_rollup :
    (state.rollupProfit directory firstDay (today - 1) salesId).lookup (some sales) =
      if (state.stats.filter fun stat =>
          isEarlier directory salesId sales firstDay today stat.key) = [] then none
      else some (sqlStatProfit (state.stats.filter fun stat =>
        isEarlier directory salesId sales firstDay today stat.key)) := by
  have grouped : members (fun stat : DailyStat => directory.salesOf stat.key.accountId)
      (state.stats.filter fun stat =>
        firstDay ≤ stat.key.day ∧ stat.key.day ≤ today - 1 ∧ stat.key.status = .delivered ∧
          directory.counts salesId stat.key.accountId stat.key.channelId) (some sales) =
      state.stats.filter fun stat =>
        isEarlier directory salesId sales firstDay today stat.key := by
    unfold members isEarlier
    rw [List.filter_filter]
    refine List.filter_congr fun stat _ => ?_
    rw [Bool.eq_iff_iff]
    simp only [Bool.and_eq_true, decide_eq_true_eq, StaffDirectory.concerns_iff]
    tauto
  rw [rollupProfit, lookup_map_groupBy, grouped]

theorem stats_earlier (accurate : state.Accurate)
    (uses : state.useRollup firstDay today = true)
    (refreshed : ∀ day ∈ state.stale, ¬(firstDay ≤ day ∧ day ≤ today - 1)) :
    ((state.stats.filter fun stat =>
        isEarlier directory salesId sales firstDay today stat.key).map DailyStat.profit).sum =
      ((state.earlier directory salesId sales firstDay today).map CommissionLog.profit).sum ∧
    ((state.stats.filter fun stat =>
        isEarlier directory salesId sales firstDay today stat.key) = [] ↔
      state.earlier directory salesId sales firstDay today = []) := by
  have agrees : ∀ key, isEarlier directory salesId sales firstDay today key = true →
      state.AgreesOn key := by
    intro key earlier
    have onDays := of_decide_eq_true (Bool.and_eq_true_iff.mp earlier).1
    exact accurate key (fun stale => refreshed key.day stale onDays)
      (covered_of_useRollup uses onDays.1 onDays.2)
  exact ⟨sum_filter_eq_of_members fun key earlier => (agrees key earlier).1,
    filter_eq_nil_iff_of_members fun key earlier => (agrees key earlier).2⟩

theorem earlier_append_since_perm (within : firstDay ≤ today - 1) :
    (state.earlier directory salesId sales firstDay today ++
      state.since directory salesId sales today).Perm
        (state.since directory salesId sales firstDay) := by
  have before : (state.since directory salesId sales firstDay).filter (fun log =>
      decide (log.day ≤ today - 1)) = state.earlier directory salesId sales firstDay today := by
    unfold since earlier messagesOf
    rw [List.filter_filter]
    refine List.filter_congr fun log _ => ?_
    rw [Bool.eq_iff_iff]
    simp only [Bool.and_eq_true, decide_eq_true_eq]
    tauto
  have later : (state.since directory salesId sales firstDay).filter (fun log =>
      !decide (log.day ≤ today - 1)) = state.since directory salesId sales today := by
    unfold since messagesOf
    rw [List.filter_filter]
    refine List.filter_congr fun log _ => ?_
    have from_today : ¬log.day ≤ today - 1 ∧ firstDay ≤ log.day ↔ today ≤ log.day := by
      omega
    rw [Bool.eq_iff_iff]
    simp only [Bool.and_eq_true, Bool.not_eq_true', decide_eq_false_iff_not, decide_eq_true_eq,
      ← and_assoc, from_today]
  rw [← before, ← later]
  exact List.filter_append_perm _ _

theorem accumulate_apply {Float : Type} (floats : Floats Float)
    {rows : List (Option ℕ × Option Money)} (distinct : (rows.map Prod.fst).Nodup)
    (map : ℕ → Option Float) (id : ℕ) :
    accumulate floats rows map id =
      match rows.lookup (some id) with
      | none => map id
      | some profit =>
          some (floats.add ((map id).getD floats.zero) (floats.ofMoney (profit.getD 0))) := by
  induction rows generalizing map with
  | nil => rfl
  | cons row rows ih =>
      rcases row with ⟨sales, profit⟩
      rcases List.nodup_cons.mp distinct with ⟨absent, rest⟩
      have tail := ih rest
      cases sales with
      | none =>
          rw [List.lookup_cons, beq_false_of_ne (Option.some_ne_none id)]
          exact tail map
      | some sales =>
          rw [List.lookup_cons]
          by_cases same : id = sales
          · subst same
            have unlisted : rows.lookup (some id) = none := by
              rw [List.lookup_eq_none_iff]
              intro entry inside
              have other : some id ≠ entry.1 :=
                fun its => absent (List.mem_map.mpr ⟨entry, inside, its.symm⟩)
              exact bne_iff_ne.mpr other
            change accumulate floats rows _ id = _
            rw [tail, unlisted, beq_self_eq_true]
            simp
          · have differs : some id ≠ some sales := fun equal => same (Option.some.inj equal)
            change accumulate floats rows _ id = _
            rw [tail, beq_false_of_ne differs]
            simp only [if_neg same]

theorem nodup_live {start : ℤ} :
    ((state.liveProfitSince directory start salesId).map Prod.fst).Nodup :=
  nodup_keys_groupBy

theorem nodup_rollup {lastDay : ℤ} :
    ((state.rollupProfit directory firstDay lastDay salesId).map Prod.fst).Nodup :=
  nodup_keys_groupBy

/-- In every run, the rollup gives the commission of the live branch where the days were refreshed
since their messages changed. -/
theorem rollup_eq_live {Float : Type} (floats : Floats Float) (directory : StaffDirectory)
    {clock : ℤ} {transitions : List (Transition StatsSystem Event)} {last : StatsSystem}
    (run : Run Step (empty clock) transitions last) {firstDay today : ℤ} {salesId : Option ℕ}
    (uses : last.useRollup firstDay today = true)
    (rollsUp : RollsUp floats directory firstDay today salesId last) :
    last.getMonthlyCommissionMap floats directory firstDay today salesId =
      last.liveCommissionMap floats directory firstDay salesId := by
  have accurate : last.Accurate :=
    (run.invariant (fun _ _ _ step accurate => accurate.step step) (Accurate.empty clock)).1
  funext id
  have within := firstDay_le_of_useRollup uses
  have part : _ ∧ (_ ↔ last.earlier directory salesId id firstDay today = []) :=
    stats_earlier accurate uses rollsUp.refreshed
  rcases part with ⟨sums, present⟩
  have split : (last.earlier directory salesId id firstDay today ++
      last.since directory salesId id today).Perm (last.since directory salesId id firstDay) :=
    earlier_append_since_perm within
  rcases rollsUp.priced id with ⟨priced, pricedSince⟩
  have whole : last.since directory salesId id firstDay = [] ↔
      last.earlier directory salesId id firstDay today = [] ∧
        last.since directory salesId id today = [] := by
    rw [← List.append_eq_nil_iff]
    exact ⟨fun none => (none ▸ split).eq_nil, fun none => (none ▸ split.symm).eq_nil⟩
  have sum : ((last.since directory salesId id firstDay).map CommissionLog.profit).sum =
      ((last.earlier directory salesId id firstDay today).map CommissionLog.profit).sum +
        ((last.since directory salesId id today).map CommissionLog.profit).sum := by
    rw [← (split.map CommissionLog.profit).sum_eq, List.map_append, List.sum_append]
  have stats : ∀ group : List DailyStat, (sqlStatProfit group).getD 0 =
      (group.map DailyStat.profit).sum := fun _ => rfl
  unfold getMonthlyCommissionMap liveCommissionMap
  rw [if_pos uses, accumulate_apply floats nodup_live, accumulate_apply floats nodup_rollup,
    accumulate_apply floats nodup_live, lookup_live, lookup_rollup, lookup_live]
  by_cases noPast : last.earlier directory salesId id firstDay today = []
  · rw [if_pos (present.mpr noPast)]
    by_cases noToday : last.since directory salesId id today = []
    · rw [if_pos noToday, if_pos (whole.mpr ⟨noPast, noToday⟩)]
    · rw [if_neg noToday, if_neg fun none => noToday (whole.mp none).2]
      rw [noPast, List.map_nil, List.sum_nil, zero_add] at sum
      simp only [sqlProfit_getD priced, sqlProfit_getD pricedSince, sum]
  · rw [if_neg fun none => noPast (present.mp none), if_neg fun none => noPast (whole.mp none).1]
    by_cases noToday : last.since directory salesId id today = []
    · rw [if_pos noToday]
      rw [noToday, List.map_nil, List.sum_nil, add_zero] at sum
      simp only [sqlProfit_getD priced, stats, sums, sum]
    · rw [if_neg noToday]
      simp only [sqlProfit_getD priced, sqlProfit_getD pricedSince, stats, sums, sum]
      exact congrArg some (rollsUp.exact id noPast noToday)

def wholeFloats : Floats ℤ :=
  ⟨0, fun left right => left + right, id⟩

def oneDirectory : StaffDirectory :=
  ⟨[(1, some 9)], [(1, .smpp)], rfl⟩

def soldMessage (id : ℕ) (status : SmsStatus) (submitTime : ℤ) : CommissionLog :=
  ⟨id, 1, some 1, status, some 1, some 3, submitTime⟩

/-- The day before was refreshed after its message was delivered. -/
theorem rollup_eq_live_refreshed :
    ∃ transitions last, Run Step (empty 0) transitions last ∧
      last.liveCommissionMap wholeFloats oneDirectory 0 none 9 = some 4 ∧
      last.getMonthlyCommissionMap wholeFloats oneDirectory 0 1 none =
        last.liveCommissionMap wholeFloats oneDirectory 0 none := by
  have passed : ((execute next (empty 0)
      [.insert (soldMessage 1 .sent 0), .update 1 .delivered (some 1) (some 3), .tick 86400,
        .refresh 0 1, .insert (soldMessage 2 .delivered 86400)]).any fun outcome =>
      decide (outcome.2.useRollup 0 1 = true ∧
        outcome.2.liveCommissionMap wholeFloats oneDirectory 0 none 9 = some 4 ∧
        (∀ day ∈ outcome.2.stale, ¬(0 ≤ day ∧ day ≤ 1 - 1)) ∧
        ∀ log ∈ outcome.2.logs,
          log.sellingPrice.isSome = true ∧ log.costPrice.isSome = true)) = true := by
    decide
  rcases Run.exists_of_execute _ passed with ⟨transitions, last, run, checked⟩
  rcases of_decide_eq_true checked with ⟨uses, four, refreshed, priced⟩
  have paired : ∀ sales start, PricesPaired (last.since oneDirectory none sales start) :=
    fun _ _ => .of_forall fun log inside => priced log (List.mem_filter.mp inside).1
  have exact : ∀ left right, wholeFloats.AddsUp left right := by
    intro left right
    simp only [Floats.AddsUp, wholeFloats, id_eq, zero_add]
  exact ⟨transitions, last, run, four, rollup_eq_live wholeFloats oneDirectory run uses
    ⟨refreshed, fun sales => ⟨paired sales 0, paired sales 1⟩, fun _ _ _ => exact _ _⟩⟩

/-- The receipt of a message comes four days after it, when its day is no longer refreshed. -/
theorem not_rollup_eq_live_lateReceipt :
    ∃ transitions last, Run Step (empty 0) transitions last ∧
      last.useRollup 0 4 = true ∧
      last.getMonthlyCommissionMap wholeFloats oneDirectory 0 4 none ≠
        last.liveCommissionMap wholeFloats oneDirectory 0 none := by
  have passed : ((execute next (empty 0)
      [.insert (soldMessage 1 .sent 0), .refresh (-2) 0, .tick 86400, .refresh (-1) 1, .tick 86400,
        .refresh 0 2, .tick 86400, .refresh 1 3, .tick 86400,
        .update 1 .delivered (some 1) (some 3), .refresh 2 4]).any fun outcome =>
      decide (outcome.2.useRollup 0 4 = true ∧
        outcome.2.getMonthlyCommissionMap wholeFloats oneDirectory 0 4 none 9 = none ∧
        outcome.2.liveCommissionMap wholeFloats oneDirectory 0 none 9 = some 2)) = true := by
    decide
  rcases Run.exists_of_execute _ passed with ⟨transitions, last, run, checked⟩
  rcases of_decide_eq_true checked with ⟨uses, nothing, two⟩
  refine ⟨transitions, last, run, uses, fun same => ?_⟩
  rw [same, two] at nothing
  cases nothing

end StatsSystem

end Klsmsc
