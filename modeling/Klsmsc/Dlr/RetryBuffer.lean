import Klsmsc.Library.Programs
import Klsmsc.Library.Runs
import Mathlib.Data.List.AList
import Mathlib.Data.List.Sort

/-!
# The retry buffer for unmatched reports

`utils/dlr_buffer.py` keeps reports that matched no row in the Hash `dlr_pending_retry`, and the
time at which each of them expires in the ZSET `dlr_pending_retry:expire`. The operations and the
task that empties the buffer are programs over Redis commands, and programs interleave at their
commands. A pipeline is sent as a transaction, so its commands are one.

Answers that come from elsewhere are the environment's: the clock, the ownership keys, the order in
which a Hash is listed, whether the time budget of the task is used up, and what a replayed report
meets in the database. The time `first_seen`, which nothing reads, is left out.
-/

namespace Klsmsc

open Library

/-- The arguments of `buffer_unmatched_dlr`. -/
structure UnmatchedDlr where
  channelId : ℕ
  upstreamId : String
  newStatus : String
  stat : String
  err : String
  destAddr : String
  sourceAddr : String
  receiptedMessageId : String
  deriving DecidableEq, Repr

/-- The field `{channel_id}:{upstream_id}`. -/
def UnmatchedDlr.field (dlr : UnmatchedDlr) : String :=
  toString dlr.channelId ++ ":" ++ dlr.upstreamId

/-- A value of the Hash. The key `_field` comes in when an item is popped. -/
structure RetryItem extends UnmatchedDlr where
  retryCount : ℕ
  poppedFrom : Option String
  deriving DecidableEq, Repr

/-- The Hash, the ZSET with its scores, and whether `dlr_flush:lock` is there. -/
structure RetryKeys where
  hash : AList fun _ : String => RetryItem
  expire : AList fun _ : String => ℕ
  lock : Bool

/-- `_RETRY_TTL`. -/
def retryTtl : ℕ := 3600

inductive RetryCommand where
  | isOwned (dlr : UnmatchedDlr)
  | hsetnx (field : String) (item : RetryItem)
  | hset (field : String) (item : RetryItem)
  | hdel (field : String)
  | hmget (fields : List String)
  | hgetall
  | hlen
  | zaddNx (field : String)
  | zrem (field : String)
  | zrange (limit : ℕ)
  | zrangeByScore (num : ℕ)
  | pipeline (fields : List String)
  | setLock
  | deleteLock
  | pastDeadline
  | replay (item : RetryItem)
  deriving DecidableEq, Repr

/-- How `_process_smpp_dlr_async` ends for a replayed report. An orphan is not buffered again. -/
inductive Replayed where
  | matched
  | orphan
  | unmatched
  | raised
  deriving DecidableEq, Repr

def RetryReply : RetryCommand → Type
  | .isOwned _ => Bool
  | .hsetnx _ _ => Bool
  | .hmget _ => List (Option RetryItem)
  | .hgetall => List (String × RetryItem)
  | .hlen => ℕ
  | .zrange _ => List String
  | .zrangeByScore _ => List String
  | .setLock => Bool
  | .pastDeadline => Bool
  | .replay _ => Replayed
  | .hset _ _ | .hdel _ | .zaddNx _ | .zrem _ | .pipeline _ | .deleteLock => PUnit

abbrev RetryProgram := Program RetryReply

section Operations

open Program (perform)
open RetryCommand

/-- `buffer_unmatched_dlr`. The flag is `settings.DLR_OWNERSHIP_FILTER`. -/
def bufferUnmatchedDlr (ownershipFilter : Bool) (dlr : UnmatchedDlr) : RetryProgram Bool :=
  let buffer : RetryProgram Bool := do
    let added : Bool ← perform (hsetnx dlr.field ⟨dlr, 0, none⟩)
    if added then
      let _ ← perform (zaddNx dlr.field)
      return true
    else return true
  if dlr.upstreamId = "" then return false
  else if ownershipFilter then do
    let owned : Bool ← perform (isOwned dlr)
    if owned then buffer
    else
      let _ ← perform (hdel dlr.field)
      let _ ← perform (zrem dlr.field)
      return false
  else buffer

/-- The items that `HMGET` has found. A member of the ZSET without an item is removed. -/
def collectItems : List (String × Option RetryItem) → RetryProgram (List RetryItem)
  | [] => return []
  | (field, none) :: rest => do
      let _ ← perform (zrem field)
      collectItems rest
  | (field, some item) :: rest => do
      let items ← collectItems rest
      return { item with poppedFrom := some field } :: items

def indexItems : List (String × RetryItem) → RetryProgram (List RetryItem)
  | [] => return []
  | (field, item) :: rest => do
      let _ ← perform (zaddNx field)
      let items ← indexItems rest
      return { item with poppedFrom := some field } :: items

/-- `pop_retry_buffer`. -/
def popRetryBuffer (limit : ℕ) : RetryProgram (List RetryItem) := do
  let fields : List String ← perform (zrange limit)
  if fields = [] then
    let raw : List (String × RetryItem) ← perform hgetall
    indexItems (raw.take limit)
  else
    let raws : List (Option RetryItem) ← perform (hmget fields)
    collectItems (fields.zip raws)

/-- `remove_retry_item`. -/
def removeRetryItem (field : String) : RetryProgram PUnit := do
  let _ ← perform (hdel field)
  let _ ← perform (zrem field)
  return

/-- `increment_retry_count`. -/
def incrementRetryCount (field : String) (item : RetryItem) : RetryProgram PUnit :=
  let counted := { item with retryCount := item.retryCount + 1 }
  if 20 ≤ counted.retryCount then removeRetryItem field
  else do
    let _ ← perform (hset field counted)
    return

/-- `cleanup_expired`. -/
def cleanupExpired : RetryProgram ℕ := do
  let expired : List String ← perform (zrangeByScore 500)
  if expired = [] then return 0
  else
    let _ ← perform (pipeline expired)
    return expired.length

/-- What `_flush_dlr_retry_buffer_async` does with one item. -/
def retryItem (ownershipFilter : Bool) (item : RetryItem) : RetryProgram PUnit := do
  let field := item.poppedFrom.getD ""
  let replayed : Replayed ← perform (replay item)
  match replayed with
  | .matched => removeRetryItem field
  | .orphan => incrementRetryCount field item
  | .unmatched =>
      let _ ← bufferUnmatchedDlr ownershipFilter item.toUnmatchedDlr
      incrementRetryCount field item
  | .raised => incrementRetryCount field item

/-- The loop of `_flush_dlr_retry_buffer_async`. -/
def retryItems (ownershipFilter : Bool) : List RetryItem → RetryProgram PUnit
  | [] => return
  | item :: rest => do
      let late : Bool ← perform pastDeadline
      if late then return
      else
        retryItem ownershipFilter item
        retryItems ownershipFilter rest

/-- The `finally` of `_flush_dlr_retry_buffer_async`, with the lock. -/
def releaseLock : RetryProgram PUnit := do
  let _ ← perform deleteLock
  return

/-- `_flush_dlr_retry_buffer_async`. -/
def flushDlrRetryBuffer (ownershipFilter : Bool) : RetryProgram PUnit := do
  let gotLock : Bool ← perform setLock
  if gotLock then
    let _ ← cleanupExpired
    let size : ℕ ← perform hlen
    if size ≤ 0 then releaseLock
    else
      let items ← popRetryBuffer 50
      retryItems ownershipFilter items
      releaseLock
  else return

def receiveUnmatchedDlr (ownershipFilter : Bool) (dlr : UnmatchedDlr) : RetryProgram PUnit := do
  let _ ← bufferUnmatchedDlr ownershipFilter dlr
  return

end Operations

structure Surroundings where
  now : ℕ
  owned : Bool
  listing : List (String × RetryItem)
  late : Bool
  replayed : Replayed
  deriving DecidableEq, Repr

namespace RetryKeys

def byScore (keys : RetryKeys) : List (String × ℕ) :=
  (keys.expire.entries.map fun entry => (entry.1, entry.2)).insertionSort fun left right =>
    left.2 < right.2 ∨ left.2 = right.2 ∧ left.1 ≤ right.1

def answer (env : Surroundings) (keys : RetryKeys) :
    (command : RetryCommand) → Option (RetryReply command × RetryKeys)
  | .isOwned _ => some (env.owned, keys)
  | .hsetnx field item =>
      if field ∈ keys.hash then some (false, keys)
      else some (true, { keys with hash := keys.hash.insert field item })
  | .hset field item => some (⟨⟩, { keys with hash := keys.hash.insert field item })
  | .hdel field => some (⟨⟩, { keys with hash := keys.hash.erase field })
  | .hmget fields => some (fields.map fun field => keys.hash.lookup field, keys)
  | .hgetall =>
      if env.listing.Perm (keys.hash.entries.map fun entry => (entry.1, entry.2)) then
        some (env.listing, keys)
      else none
  | .hlen => some (keys.hash.entries.length, keys)
  | .zaddNx field =>
      if field ∈ keys.expire then some (⟨⟩, keys)
      else some (⟨⟩, { keys with expire := keys.expire.insert field (env.now + retryTtl) })
  | .zrem field => some (⟨⟩, { keys with expire := keys.expire.erase field })
  | .zrange limit => some ((keys.byScore.take limit).map Prod.fst, keys)
  | .zrangeByScore num =>
      some (((keys.byScore.filter fun entry => entry.2 ≤ env.now).take num).map Prod.fst, keys)
  | .pipeline fields =>
      some (⟨⟩, { keys with
        hash := fields.foldl (fun hash field => hash.erase field) keys.hash
        expire := fields.foldl (fun expire field => expire.erase field) keys.expire })
  | .setLock => some (!keys.lock, { keys with lock := true })
  | .deleteLock => some (⟨⟩, { keys with lock := false })
  | .pastDeadline => some (env.late, keys)
  | .replay _ => some (env.replayed, keys)

end RetryKeys

abbrev RetryBuffer := Pool RetryKeys RetryReply PUnit

/-- A worker gets an unmatched report, the task is scheduled, a program sends its next command, or
the lock expires. -/
inductive RetryBufferLabel where
  | receive (ownershipFilter : Bool) (dlr : UnmatchedDlr)
  | flush (ownershipFilter : Bool)
  | command (index : ℕ) (env : Surroundings)
  | expireLock
  deriving DecidableEq, Repr

namespace RetryBuffer

def empty : RetryBuffer := ⟨⟨∅, ∅, false⟩, []⟩

def next (buffer : RetryBuffer) : RetryBufferLabel → Option RetryBuffer
  | .receive ownershipFilter dlr => some (buffer.start (receiveUnmatchedDlr ownershipFilter dlr))
  | .flush ownershipFilter => some (buffer.start (flushDlrRetryBuffer ownershipFilter))
  | .command index env => buffer.advance (RetryKeys.answer env) index
  | .expireLock => some { buffer with shared := { buffer.shared with lock := false } }

end RetryBuffer

end Klsmsc
