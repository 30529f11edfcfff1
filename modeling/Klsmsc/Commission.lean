import Klsmsc.Library.Grouping
import Klsmsc.Library.Runs
import Klsmsc.Tables

/-!
# The commission of the staff

`get_monthly_commission_map` adds up the profit of the delivered messages of a month for every
member of the staff. When every day of the month before today is covered by `sms_daily_stats`, it
reads those days there and only today from `sms_logs`; otherwise it reads the whole month from
`sms_logs`. `refresh_daily_stats` rebuilds the sums of some days and marks them as covered.

Times are seconds and dates are days, both of one clock. The first day of the month comes with a
call, and Python's floats are a parameter.
-/

namespace Klsmsc

open Library

structure Floats (Float : Type) where
  zero : Float
  add : Float → Float → Float
  ofMoney : Money → Float

/-- The columns of `sms_logs` that the statistics read. -/
structure CommissionLog where
  id : ℕ
  accountId : ℕ
  channelId : Option ℕ
  status : SmsStatus
  costPrice : Option Money
  sellingPrice : Option Money
  submitTime : ℤ

structure StatKey where
  day : ℤ
  accountId : ℕ
  channelId : ℕ
  status : SmsStatus
  deriving DecidableEq

/-- A row of `sms_daily_stats`. -/
structure DailyStat where
  key : StatKey
  submitTotal : ℕ
  pricedCount : ℕ
  totalCost : Money
  totalRevenue : Money

/-- The tables `accounts`, with the member of the staff, and `channels`, whose ids are not zero. -/
structure StaffDirectory where
  accounts : List (ℕ × Option ℕ)
  channels : List (ℕ × Protocol)
  numbered : channels.lookup 0 = none

/-- The tables, which days are covered and since when, and the days with a message that was written
or changed after the last refresh of the day, for which there is no table. -/
structure StatsSystem where
  clock : ℤ
  logs : List CommissionLog
  stats : List DailyStat
  coverage : ℤ → Option ℤ
  stale : List ℤ

def midnight (day : ℤ) : ℤ :=
  day * 86400

/-- `CURRENT_DAY_MAX_AGE`. -/
def currentDayMaxAge : ℤ := 1800

/-- `SUM` of a column: there is none when no value is. -/
def sqlSum (values : List (Option Money)) : Option Money :=
  if values.all Option.isNone then none else some (values.map fun value => value.getD 0).sum

namespace CommissionLog

/-- `DATE(submit_time)`. -/
def day (log : CommissionLog) : ℤ :=
  log.submitTime / 86400

def key (log : CommissionLog) : StatKey :=
  ⟨log.day, log.accountId, log.channelId.getD 0, log.status⟩

end CommissionLog

def DailyStat.ofGroup (entry : StatKey × List CommissionLog) : DailyStat where
  key := entry.1
  submitTotal := entry.2.length
  pricedCount := entry.2.countP fun log => log.sellingPrice.isSome
  totalCost := (sqlSum (entry.2.map CommissionLog.costPrice)).getD 0
  totalRevenue := (sqlSum (entry.2.map CommissionLog.sellingPrice)).getD 0

/-- The SELECT of `refresh_daily_stats`. -/
def aggregate (logs : List CommissionLog) : List DailyStat :=
  (groupBy CommissionLog.key logs).map DailyStat.ofGroup

/-- `SUM(selling_price) - SUM(cost_price)`. -/
def sqlProfit (logs : List CommissionLog) : Option Money :=
  (sqlSum (logs.map CommissionLog.sellingPrice)).bind fun revenue =>
    (sqlSum (logs.map CommissionLog.costPrice)).map fun cost => revenue - cost

/-- `total_revenue - total_cost`. -/
def DailyStat.profit (stat : DailyStat) : Money :=
  stat.totalRevenue - stat.totalCost

/-- `SUM(total_revenue - total_cost)`, of some rows. -/
def sqlStatProfit (stats : List DailyStat) : Option Money :=
  some (stats.map DailyStat.profit).sum

namespace StaffDirectory

variable (directory : StaffDirectory)

/-- `Account.sales_id`, by the join. -/
def salesOf (accountId : ℕ) : Option ℕ :=
  (directory.accounts.lookup accountId).join

/-- The joins and the conditions on their tables: the account is there, and is one of the member of
the staff that is asked for, and the channel is there and is not virtual. -/
def counts (salesId : Option ℕ) (accountId channelId : ℕ) : Bool :=
  (directory.accounts.lookup accountId).any (fun sales =>
    salesId.all fun wanted => sales = some wanted) &&
  (directory.channels.lookup channelId).any fun protocol => protocol ≠ .virtual

end StaffDirectory

/-- `_accumulate`. -/
def accumulate {Float : Type} (floats : Floats Float) (rows : List (Option ℕ × Option Money))
    (map : ℕ → Option Float) : ℕ → Option Float :=
  rows.foldl (fun map row =>
    match row.1 with
    | none => map
    | some sales => fun id =>
        if id = sales then
          some (floats.add ((map sales).getD floats.zero) (floats.ofMoney (row.2.getD 0)))
        else map id) map

namespace StatsSystem

section

variable (state : StatsSystem)

/-- `_live_profit_since`. -/
def liveProfitSince (directory : StaffDirectory) (start : ℤ) (salesId : Option ℕ) :
    List (Option ℕ × Option Money) :=
  (groupBy (fun log => directory.salesOf log.accountId) (state.logs.filter fun log =>
      start ≤ log.submitTime ∧ log.status = .delivered ∧
        log.channelId.any (directory.counts salesId log.accountId))).map fun entry =>
    (entry.1, sqlProfit entry.2)

/-- `_rollup_profit`. -/
def rollupProfit (directory : StaffDirectory) (firstDay lastDay : ℤ) (salesId : Option ℕ) :
    List (Option ℕ × Option Money) :=
  (groupBy (fun stat => directory.salesOf stat.key.accountId) (state.stats.filter fun stat =>
      firstDay ≤ stat.key.day ∧ stat.key.day ≤ lastDay ∧ stat.key.status = .delivered ∧
        directory.counts salesId stat.key.accountId stat.key.channelId)).map fun entry =>
    (entry.1, sqlStatProfit entry.2)

def daysBetween (first last : ℤ) : List ℤ :=
  (List.range (last - first + 1).toNat).map fun offset : ℕ => first + offset

/-- `has_complete_daily_stats`. The number of covered days is asked for first. -/
def hasCompleteDailyStats (startDate endDate : ℤ) : Bool :=
  if endDate < startDate then false
  else if ((daysBetween startDate endDate).countP fun day => (state.coverage day).isSome : ℤ) ≠
      endDate - startDate + 1 then false
  else
    let today := state.clock / 86400
    if startDate ≤ today ∧ today ≤ endDate then
      (state.coverage today).any fun refreshedAt => state.clock - currentDayMaxAge ≤ refreshedAt
    else true

/-- `use_rollup`, for the first day of the month. -/
def useRollup (firstDay today : ℤ) : Bool :=
  firstDay ≤ today - 1 && state.hasCompleteDailyStats firstDay (today - 1)

def liveCommissionMap {Float : Type} (floats : Floats Float) (directory : StaffDirectory)
    (firstDay : ℤ) (salesId : Option ℕ) : ℕ → Option Float :=
  accumulate floats (state.liveProfitSince directory (midnight firstDay) salesId) fun _ => none

/-- `get_monthly_commission_map`. -/
def getMonthlyCommissionMap {Float : Type} (floats : Floats Float) (directory : StaffDirectory)
    (firstDay today : ℤ) (salesId : Option ℕ) : ℕ → Option Float :=
  if state.useRollup firstDay today then
    accumulate floats (state.liveProfitSince directory (midnight today) salesId)
      (accumulate floats (state.rollupProfit directory firstDay (today - 1) salesId) fun _ => none)
  else state.liveCommissionMap floats directory firstDay salesId

end

/-! ### Steps -/

/-- What happens: time passes, a message is written, its status and prices are set, or the
statistics of some days are refreshed. -/
inductive Event
  | tick (seconds : ℕ)
  | insert (log : CommissionLog)
  | update (id : ℕ) (status : SmsStatus) (costPrice sellingPrice : Option Money)
  | refresh (startDate endDate : ℤ)

def empty (clock : ℤ) : StatsSystem :=
  ⟨clock, [], [], fun _ => none, []⟩

variable (state : StatsSystem)

/-- `refresh_daily_stats`. -/
def refreshDailyStats (startDate endDate : ℤ) : StatsSystem :=
  if endDate < startDate then state
  else
    { state with
      stats :=
        (state.stats.filter fun stat => ¬(startDate ≤ stat.key.day ∧ stat.key.day ≤ endDate)) ++
          aggregate (state.logs.filter fun log =>
            midnight startDate ≤ log.submitTime ∧ log.submitTime < midnight (endDate + 1))
      coverage := fun day =>
        if startDate ≤ day ∧ day ≤ endDate then some state.clock else state.coverage day
      stale := state.stale.filter fun day => ¬(startDate ≤ day ∧ day ≤ endDate) }

def next : Event → Option StatsSystem
  | .tick seconds => some { state with clock := state.clock + seconds }
  | .insert log =>
      if ∀ other ∈ state.logs, other.id ≠ log.id then
        some { state with logs := state.logs ++ [log], stale := log.day :: state.stale }
      else none
  | .update id status costPrice sellingPrice =>
      some
        { state with
          logs := state.logs.map fun log =>
            if log.id = id then { log with status, costPrice, sellingPrice } else log
          stale := (state.logs.filter fun log => log.id = id).map CommissionLog.day ++ state.stale }
  | .refresh startDate endDate => some (state.refreshDailyStats startDate endDate)

def Step (before : StatsSystem) (event : Event) (after : StatsSystem) : Prop :=
  before.next event = some after

end StatsSystem

end Klsmsc
