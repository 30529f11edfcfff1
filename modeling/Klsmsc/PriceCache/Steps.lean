import Klsmsc.PriceCache

/-!
# Processes that share a price cache

The calls of `get_price` in all processes, and the changes of prices with the deletions that follow
them. A call that finds its key in the dictionary of its process returns without waiting for
anything. Otherwise it waits for Redis, and when Redis has no price for the statements on the
tables and for `SETEX`; each of its queries sees a state of the tables that was committed, the last
one or, in a transaction that began earlier, one before it.

With a call go the committed tables that were in force at some time since it began, and whether its
key was left alone: no invalidation of the key was under way when it began, and no other call has
been filling the key since.
-/

namespace Klsmsc

open Library

structure CachedPrice where
  info : PriceInfo
  readAt : ℕ
  deriving DecidableEq, Repr

structure RedisPrice where
  cached : CachedPrice
  expiresAt : ℕ
  deriving DecidableEq, Repr

/-- Where a call of `get_price` stands. -/
inductive PriceStage where
  /-- `GET` has been sent. -/
  | asking
  /-- Redis has answered, at this time. -/
  | answered (found : Option CachedPrice) (time : ℕ)
  /-- Some queries have found nothing, the others are to come. -/
  | reading (asked remaining : List PriceLookup)
  /-- `SETEX` has been sent. -/
  | found (cached : CachedPrice)
  /-- Redis has the price. -/
  | stored (cached : CachedPrice)
  | returned (result : Option CachedPrice) (time : ℕ)
  | raised (error : PriceError)
  deriving DecidableEq, Repr

namespace PriceStage

def Filling : PriceStage → Prop
  | reading _ _ => True
  | found _ => True
  | _ => False

def Ended : PriceStage → Prop
  | returned _ _ => True
  | raised _ => True
  | _ => False

instance (stage : PriceStage) : Decidable stage.Ended := by
  cases stage <;> first | exact isTrue trivial | exact isFalse id

def afterLookup (asked : List PriceLookup) (lookup : PriceLookup) (rest : List PriceLookup)
    (clock : ℕ) : Except PriceError (Option PriceInfo) → PriceStage
  | .error error => raised error
  | .ok (some info) => found ⟨info, clock⟩
  | .ok none => if rest = [] then returned none clock else reading (asked ++ [lookup]) rest

end PriceStage

/-- A call of `get_price`. -/
structure PriceCall where
  process : ℕ
  query : PriceQuery
  stage : PriceStage
  leftAlone : Prop
  seen : List PriceTables

namespace PriceCall

def key (call : PriceCall) : String :=
  call.query.cacheKey

def see (call : PriceCall) (tables : PriceTables) : PriceCall :=
  if call.stage.Ended then call else { call with seen := tables :: call.seen }

def disturb (call : PriceCall) (key : String) : PriceCall :=
  if call.stage.Ended ∨ call.key ≠ key then call else { call with leftAlone := False }

end PriceCall

/-- How far `delete_pattern` is. -/
inductive DeletionStage where
  | called
  /-- `KEYS` has listed the keys, and `DEL` has been sent. -/
  | listed (keys : List String)
  | deleted
  deriving DecidableEq, Repr

structure PriceDeletion where
  process : ℕ
  invalidation : PriceInvalidation
  stage : DeletionStage
  deriving DecidableEq, Repr

structure PriceSystem where
  clock : ℕ
  tables : PriceTables
  past : List PriceTables
  redis : String → Option RedisPrice
  localCache : ℕ → String → Option CachedPrice
  calls : ℕ → Option PriceCall
  deletions : ℕ → Option PriceDeletion

namespace PriceSystem

def start (clock : ℕ) (tables : PriceTables) : PriceSystem where
  clock := clock
  tables := tables
  past := []
  redis _ := none
  localCache _ _ := none
  calls _ := none
  deletions _ := none

/-- What `GET` answers: a key is gone when its time has passed. -/
def live (system : PriceSystem) (key : String) : Option CachedPrice :=
  ((system.redis key).filter fun entry => system.clock ≤ entry.expiresAt).map RedisPrice.cached

def setCall (system : PriceSystem) (id : ℕ) (call : PriceCall) : PriceSystem :=
  { system with calls := Function.update system.calls id (some call) }

def setDeletion (system : PriceSystem) (id : ℕ) (deletion : Option PriceDeletion) : PriceSystem :=
  { system with deletions := Function.update system.deletions id deletion }

/-- `self._local_cache[key] = value`. -/
def hold (system : PriceSystem) (process : ℕ) (key : String) (cached : CachedPrice) :
    PriceSystem :=
  { system with
    localCache := fun other otherKey =>
      if other = process ∧ otherKey = key then some cached
      else system.localCache other otherKey }

/-- `SETEX`. -/
def setex (system : PriceSystem) (key : String) (ttl : ℕ) (cached : CachedPrice) : PriceSystem :=
  { system with
    redis := Function.update system.redis key (some ⟨cached, system.clock + ttl⟩) }

/-- `DEL`. -/
def del (system : PriceSystem) (keys : List String) : PriceSystem :=
  { system with redis := fun key => if key ∈ keys then none else system.redis key }

def forget (system : PriceSystem) (process : ℕ) (invalidation : PriceInvalidation) :
    PriceSystem :=
  { system with
    localCache := fun other key =>
      if other = process ∧ invalidation.Matches key then none else system.localCache other key }

def commit (system : PriceSystem) (tables : PriceTables) : PriceSystem :=
  { system with
    tables := tables
    past := system.tables :: system.past
    calls := fun id => (system.calls id).map (·.see tables) }

def disturb (system : PriceSystem) (key : String) : PriceSystem :=
  { system with calls := fun id => (system.calls id).map (·.disturb key) }

def Pending (system : PriceSystem) (key : String) : Prop :=
  ∃ id deletion, system.deletions id = some deletion ∧ deletion.invalidation.Lists key

def LeftAlone (system : PriceSystem) (key : String) : Prop :=
  ¬ system.Pending key ∧
    ∀ id call, system.calls id = some call → call.key = key → ¬ call.stage.Filling

def newCall (system : PriceSystem) (process : ℕ) (query : PriceQuery) (stage : PriceStage) :
    PriceCall where
  process := process
  query := query
  stage := stage
  leftAlone := system.LeftAlone query.cacheKey
  seen := [system.tables]

end PriceSystem

inductive PriceAction where
  | tick
  | begin (id process : ℕ) (query : PriceQuery)
  | get (id : ℕ)
  | receive (id : ℕ)
  | lookup (id : ℕ) (view : PriceTables)
  | setex (id : ℕ)
  | finish (id : ℕ)
  | change (id process : ℕ) (change : PriceChange) (after : PriceTables)
  | invalidate (id process : ℕ) (invalidation : PriceInvalidation)
  | list (id : ℕ)
  | delete (id : ℕ)
  | forget (id : ℕ)
  deriving DecidableEq, Repr

inductive PriceStep (sameCode : String → String → Bool) :
    PriceSystem → PriceAction → PriceSystem → Prop where
  | tick {system : PriceSystem} :
      PriceStep sameCode system .tick { system with clock := system.clock + 1 }
  /-- The dictionary of the process has the key. -/
  | hit {system : PriceSystem} {id process : ℕ} {query : PriceQuery} {cached : CachedPrice}
      (new : system.calls id = none)
      (held : system.localCache process query.cacheKey = some cached) :
      PriceStep sameCode system (.begin id process query)
        (system.setCall id
          (system.newCall process query (.returned (some cached) system.clock)))
  | ask {system : PriceSystem} {id process : ℕ} {query : PriceQuery}
      (new : system.calls id = none)
      (absent : system.localCache process query.cacheKey = none) :
      PriceStep sameCode system (.begin id process query)
        (system.setCall id (system.newCall process query .asking))
  | get {system : PriceSystem} {id : ℕ} {call : PriceCall}
      (isCall : system.calls id = some call) (stage : call.stage = .asking) :
      PriceStep sameCode system (.get id)
        (system.setCall id
          { call with stage := .answered (system.live call.key) system.clock })
  /-- A price that Redis has is kept in the dictionary. -/
  | keep {system : PriceSystem} {id : ℕ} {call : PriceCall} {cached : CachedPrice} {time : ℕ}
      (isCall : system.calls id = some call) (stage : call.stage = .answered (some cached) time) :
      PriceStep sameCode system (.receive id)
        ((system.hold call.process call.key cached).setCall id
          { call with stage := .returned (some cached) system.clock })
  | miss {system : PriceSystem} {id : ℕ} {call : PriceCall} {time : ℕ}
      (isCall : system.calls id = some call) (stage : call.stage = .answered none time) :
      PriceStep sameCode system (.receive id)
        ((system.disturb call.key).setCall id
          { call with stage := .reading [] PriceLookup.all })
  | lookup {system : PriceSystem} {id : ℕ} {call : PriceCall} {asked rest : List PriceLookup}
      {lookup : PriceLookup} {view : PriceTables}
      (isCall : system.calls id = some call) (stage : call.stage = .reading asked (lookup :: rest))
      (committed : view = system.tables ∨ view ∈ system.past) :
      PriceStep sameCode system (.lookup id view)
        (system.setCall id
          { call with
            stage := .afterLookup asked lookup rest system.clock
              (view.answer sameCode call.query lookup) })
  | setex {system : PriceSystem} {id : ℕ} {call : PriceCall} {cached : CachedPrice}
      (isCall : system.calls id = some call) (stage : call.stage = .found cached) :
      PriceStep sameCode system (.setex id)
        ((system.setex call.key 3600 cached).setCall id { call with stage := .stored cached })
  | finish {system : PriceSystem} {id : ℕ} {call : PriceCall} {cached : CachedPrice}
      (isCall : system.calls id = some call) (stage : call.stage = .stored cached) :
      PriceStep sameCode system (.finish id)
        ((system.hold call.process call.key cached).setCall id
          { call with stage := .returned (some cached) system.clock })
  /-- A change is committed, and its invalidation is called. -/
  | change {system : PriceSystem} {id process : ℕ} {change : PriceChange} {after : PriceTables}
      (new : system.deletions id = none) (commits : change.Commits system.tables after) :
      PriceStep sameCode system (.change id process change after)
        ((system.commit after).setDeletion id (some ⟨process, change.invalidation, .called⟩))
  /-- `update_channel` invalidates the prices of the channel without a change of a price. -/
  | invalidate {system : PriceSystem} {id process : ℕ} {invalidation : PriceInvalidation}
      (new : system.deletions id = none) :
      PriceStep sameCode system (.invalidate id process invalidation)
        (system.setDeletion id (some ⟨process, invalidation, .called⟩))
  | list {system : PriceSystem} {id : ℕ} {deletion : PriceDeletion} {keys : List String}
      (isDeletion : system.deletions id = some deletion) (stage : deletion.stage = .called)
      (lists : ∀ key, key ∈ keys ↔
        (system.live key).isSome ∧ deletion.invalidation.Lists key) :
      PriceStep sameCode system (.list id)
        (system.setDeletion id (some { deletion with stage := .listed keys }))
  | delete {system : PriceSystem} {id : ℕ} {deletion : PriceDeletion} {keys : List String}
      (isDeletion : system.deletions id = some deletion)
      (stage : deletion.stage = .listed keys) (some_key : keys ≠ []) :
      PriceStep sameCode system (.delete id)
        ((system.del keys).setDeletion id (some { deletion with stage := .deleted }))
  /-- The dictionary is cleared, at once when Redis listed no key, and the invalidation returns. -/
  | forget {system : PriceSystem} {id : ℕ} {deletion : PriceDeletion}
      (isDeletion : system.deletions id = some deletion)
      (stage : deletion.stage = .listed [] ∨ deletion.stage = .deleted) :
      PriceStep sameCode system (.forget id)
        ((system.forget deletion.process deletion.invalidation).setDeletion id none)

end Klsmsc
