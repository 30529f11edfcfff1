import Mathlib.Data.Prod.Lex
import Klsmsc.BannedWords
import Klsmsc.CountryCode
import Klsmsc.Library.Ranking
import Mathlib.Algebra.Ring.Int.Defs

/-!
# The choice of a channel

`RoutingEngine.select_channel` of `core/router.py`. The channels for a country come from the routing
rules, or from a cache of channel ids in which an earlier call has left them; the channels that are
not bound to the account are dropped, and a strategy chooses one of the others.

What the database returns for the two queries of channels is an argument: both leave open in which
order some of the rows come.
-/

namespace Klsmsc

open Library

/-! ### Tables -/

/-- The column `channels.status`. -/
inductive ChannelStatus where
  | active
  | inactive
  | maintenance
  deriving DecidableEq, Repr

/-- What routing reads of a row of `channels`. -/
structure RouteChannel where
  id : ℕ
  channelCode : String
  status : ChannelStatus
  isDeleted : Bool
  priority : ℤ
  weight : ℤ
  deriving DecidableEq, Repr

def RouteChannel.available (channel : RouteChannel) : Bool :=
  channel.status = .active ∧ channel.isDeleted = false

/-- A row of `routing_rules`. -/
structure RouteRule where
  channelId : ℕ
  countryCode : String
  priority : ℤ
  isActive : Bool
  deriving DecidableEq, Repr

/-- A row of `account_channels`. -/
structure AccountChannel where
  accountId : ℕ
  channelId : ℕ
  countryCode : Option String
  deriving DecidableEq, Repr

structure RouteTables where
  channels : List RouteChannel
  rules : List RouteRule
  accountChannels : List AccountChannel
  deriving DecidableEq, Repr

/-- A channel with its `_route_priority`. -/
structure Candidate where
  channel : RouteChannel
  routePriority : ℤ
  deriving DecidableEq, Repr

namespace Candidate

def order (candidate : Candidate) : ℤ ×ₗ ℤ :=
  toLex (candidate.routePriority, candidate.channel.priority)

/-- `_route_priority or priority or 0`. -/
def score (candidate : Candidate) : ℤ :=
  if candidate.routePriority ≠ 0 then candidate.routePriority else candidate.channel.priority

end Candidate

structure RouteCache where
  channelIds : List ℕ
  channelCodes : List String
  priorities : List ℤ
  routePriorities : List ℤ
  deriving DecidableEq, Repr

/-- What the database returns: the rows of the query that joins channels and rules, and those of the
query for the cached ids. -/
structure RouteAnswers where
  rows : List Candidate
  reload : List RouteChannel
  deriving DecidableEq, Repr

/-- `strategy`, and for the load balance the position that `random.choices` draws. -/
inductive RouteStrategy where
  | priority
  | quality
  | loadBalance (position : ℕ)
  | other
  deriving DecidableEq, Repr

inductive RoutingError where
  | channelNotAvailable (message : String)
  | attributeError (name : String)
  | valueError
  deriving DecidableEq, Repr

/-! ### Channels of a country -/

namespace RouteTables

section

variable (unicode : Unicode) (sameCode : String → String → Bool) (tables : RouteTables)
  (countryCode : String)

def applies (rule : RouteRule) : Bool :=
  rule.isActive &&
    ((codesToTry unicode countryCode).any (sameCode rule.countryCode) ||
      sameCode rule.countryCode "*")

def joined : List Candidate :=
  tables.channels.flatMap fun channel =>
    (tables.rules.filter fun rule =>
      channel.id = rule.channelId && applies unicode sameCode countryCode rule &&
        channel.available).map fun rule => ⟨channel, rule.priority⟩

/-- `merged[cid] = (channel, route_priority)`, if the priority is greater. -/
def mergeRow (merged : List Candidate) (row : Candidate) : List Candidate :=
  if merged.any fun candidate => candidate.channel.id = row.channel.id then
    merged.map fun candidate =>
      if candidate.channel.id = row.channel.id ∧ candidate.routePriority < row.routePriority then
        row
      else candidate
  else merged ++ [row]

def computed (rows : List Candidate) : List Candidate :=
  rankedBy Candidate.order (rows.foldl mergeRow [])

end

end RouteTables

namespace RouteCache

def store (channels : List Candidate) : Option RouteCache :=
  if channels = [] then none
  else
    some
      { channelIds := channels.map fun candidate => candidate.channel.id
        channelCodes := channels.map fun candidate => candidate.channel.channelCode
        priorities := channels.map fun candidate => candidate.channel.priority
        routePriorities := channels.map Candidate.routePriority }

/-- `priority_map.get(id, 0)`. -/
def priorityOf (cache : RouteCache) (id : ℕ) : ℤ :=
  ((cache.channelIds.zip cache.routePriorities).reverse.lookup id).getD 0

def restore (cache : RouteCache) (reload : List RouteChannel) : List Candidate :=
  rankedBy Candidate.routePriority
    (reload.map fun channel => ⟨channel, cache.priorityOf channel.id⟩)

end RouteCache

/-- `_get_available_channels`, with what the cache has. -/
def getAvailableChannels (cache : Option RouteCache) (answers : RouteAnswers) : List Candidate :=
  match cache.filter fun cached => cached.channelIds ≠ [] with
  | some cached => cached.restore answers.reload
  | none => RouteTables.computed answers.rows

/-! ### Channels of an account -/

section

variable (unicode : Unicode) (tables : RouteTables) (accountId : ℕ) (countryCode : String)

def AccountChannel.isDefault (row : AccountChannel) : Bool :=
  row.countryCode.all fun code => strip unicode code = ""

def AccountChannel.isSpecific (row : AccountChannel) : Bool :=
  !row.isDefault unicode &&
    row.countryCode.any fun code =>
      countryCode ≠ "" ∧ normalizeCountryCode unicode (some countryCode) ≠ none ∧
        (normalizeCountryCode unicode (some code) =
            normalizeCountryCode unicode (some countryCode) ∨
          code = countryCode)

def RouteTables.boundIds : Option (List ℕ) :=
  let rows := tables.accountChannels.filter fun row => row.accountId = accountId
  if rows = [] then none
  else
    let specific := rows.filter fun row => row.isSpecific unicode countryCode
    let default := rows.filter fun row => row.isDefault unicode
    some ((if specific ≠ [] then specific else default).map AccountChannel.channelId)

/-- `_get_channel_if_available`. -/
def RouteTables.channelIfAvailable (channelId : ℕ) (account : Option ℕ) : Option RouteChannel :=
  (tables.channels.find? fun channel => channel.id = channelId && channel.available).filter
    fun channel =>
      (account.bind fun accountId => tables.boundIds unicode accountId countryCode).all
        fun ids => channel.id ∈ ids

end

/-! ### The choice -/

/-- The order of the integers that `argmax` computes with. -/
local instance intPreorder : Preorder ℤ := Int.instLinearOrder.toPreorder

/-- What the strategy chooses. A channel has no attribute `success_rate`. -/
def choose (strategy : RouteStrategy) (channels : List Candidate) :
    Except RoutingError RouteChannel :=
  let chosen (candidate : Option Candidate) : Except RoutingError RouteChannel :=
    match candidate with
    | some candidate => .ok candidate.channel
    | none => .error .valueError
  match strategy with
  | .priority => chosen (channels.argmax Candidate.score)
  | .quality => .error (.attributeError "success_rate")
  | .loadBalance position =>
      let weights := channels.map fun candidate =>
        if candidate.channel.weight ≠ 0 then candidate.channel.weight else 100
      if weights.sum ≤ 0 then .error .valueError else chosen channels[position % channels.length]?
  | .other => chosen channels.head?

section

variable (unicode : Unicode) (tables : RouteTables) (countryCode : String)

def RouteTables.selectFrom (strategy : RouteStrategy) (account : Option ℕ)
    (channels : List Candidate) : Except RoutingError RouteChannel :=
  if channels = [] then
    .error (.channelNotAvailable s!"No available channel for country {countryCode}")
  else
    match account with
    | none => choose strategy channels
    | some accountId =>
        match tables.boundIds unicode accountId countryCode with
        | none => choose strategy channels
        | some ids =>
            let bound := channels.filter fun candidate => candidate.channel.id ∈ ids
            if bound = [] then
              .error (.channelNotAvailable
                s!"账户 {accountId} 在国家 {countryCode} 未配置可用通道，请在账户「国家路由」中配置")
            else choose strategy bound

/-- `select_channel`. -/
def RouteTables.selectChannel (preferredChannel : Option ℕ) (strategy : RouteStrategy)
    (accountId : Option ℕ) (cache : Option RouteCache) (answers : RouteAnswers) :
    Except RoutingError RouteChannel :=
  let account := accountId.filter (· ≠ 0)
  match (preferredChannel.filter (· ≠ 0)).bind fun channelId =>
      tables.channelIfAvailable unicode countryCode channelId account with
  | some channel => .ok channel
  | none => tables.selectFrom unicode countryCode strategy account
      (getAvailableChannels cache answers)

end

end Klsmsc
