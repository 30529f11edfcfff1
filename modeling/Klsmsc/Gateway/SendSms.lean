import Klsmsc.Gateway.TpsBucket
import Klsmsc.Library.Counts

/-!
# Calls of `SendSMS` on a channel

Any number of calls send on one channel. A step is what a call does between two accesses to what
it shares: the pool of sessions, the map of messages in flight, the mutex of a session and the
connection under it. `Range` goes through the keys that are there when it begins, and counts those
that are still there when it comes to them. Sessions come, go and lose their connections at any
moment, and responses take entries out of the map.

The limiter lets every call through in the end. Only the first segment of a message is tracked;
what becomes of the others does not change what is returned.
-/

namespace Klsmsc

open Library

structure OutboundChannel where
  channelID : ℕ
  configJSON : Option Json

/-- `inflightWindowMax`. -/
def OutboundChannel.inflightWindowMax (channel : OutboundChannel) : ℤ :=
  parseConfigJSONInt channel.configJSON "max_inflight" 100

abbrev ErrorText := List Char

inductive PrepareError where
  | latin1ShortMessage (cause : ErrorText)
  | gsm7ShortMessage (cause : ErrorText)
  | gsm7EncodeSegment (cause : ErrorText)
  | gsm7UdhSeg1 (cause : ErrorText)
  | ucs2Encode (cause : ErrorText)
  | shortMessage (cause : ErrorText)
  | udhSegment1Set (cause : ErrorText)
  | emptyShortMessage (cause : ErrorText)
  deriving DecidableEq, Repr

def PrepareError.text : PrepareError → ErrorText
  | .latin1ShortMessage cause => "latin1 short_message: ".toList ++ cause
  | .gsm7ShortMessage cause => "gsm7 short_message: ".toList ++ cause
  | .gsm7EncodeSegment cause => "gsm7 encode segment 1: ".toList ++ cause
  | .gsm7UdhSeg1 cause => "gsm7 udh seg1: ".toList ++ cause
  | .ucs2Encode cause => "ucs2 encode: ".toList ++ cause
  | .shortMessage cause => "short_message: ".toList ++ cause
  | .udhSegment1Set cause => "udh segment 1 set: ".toList ++ cause
  | .emptyShortMessage cause => "empty short_message: ".toList ++ cause

namespace OutboundChannel

variable (channel : OutboundChannel)

def noConnectionsAfterWait : ErrorText :=
  "_temp_error: no active connections for channel ".toList ++
    (toString channel.channelID).toList ++ " after 30s".toList

def noConnections : ErrorText :=
  "no active connections for channel ".toList ++ (toString channel.channelID).toList

def windowFull : ErrorText :=
  "_window_full: channel ".toList ++ (toString channel.channelID).toList ++
    " in-flight window full after 2m0s".toList

end OutboundChannel

/-- The text when `Transmitter` returns nil. -/
def noTransmitter : ErrorText := "session has no transmitter".toList

/-- `ErrConnectionClosing`. -/
def errConnectionClosing : ErrorText :=
  "connection is closing, can not send PDU to SMSC".toList

/-- The error that `submitOneAndTrack` makes of one of `Submit`. -/
def submitError (errMsg : ErrorText) : ErrorText :=
  if "closing".toList <:+: errMsg ∨ "closed".toList <:+: errMsg then
    "_temp_error: session closing: ".toList ++ errMsg
  else errMsg

/-- What `processSingleSMSData` makes of the error of `SendSMS`: the kind, and the error of the
result `failed` if it publishes one. -/
def classifySendError : Option ErrorText → SmsFailureKind × Option ErrorText
  | none => (.sentOk, none)
  | some errStr =>
      if "_window_full:".toList.isPrefixOf errStr then (.transient, none)
      else if "_temp_error:".toList.isPrefixOf errStr then (.transient, none)
      else (.permanent, some errStr)

/-- A key of `sequenceMap`: the session and the sequence number. -/
abbrev SequenceKey := ℕ × ℕ

/-- A call holds its session, whether the session has a mutex, and from `fetching` on that mutex,
if there is one. `link` is the connection that `Transmitter` has given it. -/
inductive OutboundStage where
  | connecting (waited : ℕ)
  | choosing
  | limited (session : ℕ) (mutex : Bool)
  | checking (session : ℕ) (mutex : Bool) (waited : ℕ)
  | counting (session : ℕ) (mutex : Bool) (waited : ℕ) (keys : List SequenceKey) (count : ℕ)
  | passed (session : ℕ) (mutex : Bool)
  | fetching (session : ℕ) (mutex : Bool)
  | preparing (session : ℕ) (mutex : Bool) (link : Option ℕ)
  | storing (session : ℕ) (mutex : Bool) (link : Option ℕ)
  | submitting (session : ℕ) (mutex : Bool) (link : Option ℕ) (key : SequenceKey)
  | submitted (session : ℕ) (mutex : Bool)
  | returned (err : Option ErrorText)
  deriving DecidableEq, Repr

/-- What the calls on a channel share: its pool, the sessions with a mutex, the mutexes that are
held, the connection of each session, the connections that accept PDUs, and the entries of the
channel in `sequenceMap`; and the calls. -/
structure Outbound where
  pool : List ℕ
  mutexes : ℕ → Bool
  locked : ℕ → Bool
  trx : ℕ → Option ℕ
  isAlive : ℕ → Bool
  entries : List SequenceKey
  callCount : ℕ
  calls : ℕ → OutboundStage

inductive OutboundLabel where
  | call
  | checkConn (index : ℕ)
  | choose (index : ℕ) (nanos : ℕ)
  | waitLimiter (index : ℕ)
  | range (index : ℕ)
  | visit (index : ℕ)
  | compare (index : ℕ)
  | lock (index : ℕ)
  | fetch (index : ℕ)
  | prepare (index : ℕ) (error : Option PrepareError)
  | store (index : ℕ) (sequenceNumber : ℕ)
  | submit (index : ℕ)
  | finish (index : ℕ)
  | add (session : ℕ) (connection : ℕ)
  | remove (session : ℕ)
  | rebind (session : ℕ) (connection : ℕ)
  | close (connection : ℕ)
  | loadAndDelete (key : SequenceKey)
  deriving DecidableEq, Repr

namespace Outbound

def initial : Outbound where
  pool := []
  mutexes _ := false
  locked _ := false
  trx _ := none
  isAlive _ := false
  entries := []
  callCount := 0
  calls _ := .returned none

variable (state : Outbound)

def setCall (index : ℕ) (stage : OutboundStage) : Outbound :=
  { state with calls := Function.update state.calls index stage }

def finishCall (index session : ℕ) (mutex : Bool) (err : Option ErrorText) : Outbound :=
  { state.setCall index (.returned err) with
    locked := if mutex then Function.update state.locked session false else state.locked }

/-- What `Transmitter` returns. It is an interface around a pointer, and so it is never nil, not
even around a nil pointer. -/
def transmitter (session : ℕ) : Option (Option ℕ) :=
  some (state.trx session)

/-- `sequenceMap.Store`. -/
def storeEntry (key : SequenceKey) : List SequenceKey :=
  if key ∈ state.entries then state.entries else state.entries ++ [key]

def noConnWaitMax : ℕ := 150

def inflightWaitMax : ℕ := 600

def next (channel : OutboundChannel) : OutboundLabel → Option Outbound
  | .call =>
      some { state.setCall state.callCount (.connecting 0) with callCount := state.callCount + 1 }
  | .checkConn index =>
      match state.calls index with
      | .connecting waited =>
          if state.pool ≠ [] then some (state.setCall index .choosing)
          else if noConnWaitMax ≤ waited then
            some (state.setCall index (.returned (some channel.noConnectionsAfterWait)))
          else some (state.setCall index (.connecting (waited + 1)))
      | _ => none
  | .choose index nanos =>
      match state.calls index with
      | .choosing =>
          match state.pool[nanos % state.pool.length]? with
          | none => some (state.setCall index (.returned (some channel.noConnections)))
          | some session => some (state.setCall index (.limited session (state.mutexes session)))
      | _ => none
  | .waitLimiter index =>
      match state.calls index with
      | .limited session mutex => some (state.setCall index (.checking session mutex 0))
      | _ => none
  | .range index =>
      match state.calls index with
      | .checking session mutex waited =>
          some (state.setCall index (.counting session mutex waited state.entries 0))
      | _ => none
  | .visit index =>
      match state.calls index with
      | .counting session mutex waited (key :: keys) count =>
          let count := if key ∈ state.entries then count + 1 else count
          some (state.setCall index (.counting session mutex waited keys count))
      | _ => none
  | .compare index =>
      match state.calls index with
      | .counting session mutex waited [] count =>
          if (count : ℤ) < channel.inflightWindowMax then
            some (state.setCall index (.passed session mutex))
          else if inflightWaitMax ≤ waited then
            some (state.setCall index (.returned (some channel.windowFull)))
          else some (state.setCall index (.checking session mutex (waited + 1)))
      | _ => none
  | .lock index =>
      match state.calls index with
      | .passed session mutex =>
          if mutex then
            if state.locked session then none
            else
              some
                { state.setCall index (.fetching session mutex) with
                  locked := Function.update state.locked session true }
          else some (state.setCall index (.fetching session mutex))
      | _ => none
  | .fetch index =>
      match state.calls index with
      | .fetching session mutex =>
          match state.transmitter session with
          | none => some (state.finishCall index session mutex (some noTransmitter))
          | some link => some (state.setCall index (.preparing session mutex link))
      | _ => none
  | .prepare index error =>
      match state.calls index with
      | .preparing session mutex link =>
          match error with
          | none => some (state.setCall index (.storing session mutex link))
          | some error => some (state.finishCall index session mutex (some error.text))
      | _ => none
  | .store index sequenceNumber =>
      match state.calls index with
      | .storing session mutex link =>
          let key := (session, sequenceNumber)
          some
            { state.setCall index (.submitting session mutex link key) with
              entries := state.storeEntry key }
      | _ => none
  | .submit index =>
      match state.calls index with
      | .submitting session mutex (some connection) key =>
          if state.isAlive connection then
            some (state.setCall index (.submitted session mutex))
          else
            some
              { state.finishCall index session mutex (some (submitError errConnectionClosing)) with
                entries := state.entries.erase key }
      | _ => none
  | .finish index =>
      match state.calls index with
      | .submitted session mutex => some (state.finishCall index session mutex none)
      | _ => none
  | .add session connection =>
      some
        { state with
          pool := state.pool ++ [session]
          mutexes := Function.update state.mutexes session true
          trx := Function.update state.trx session (some connection)
          isAlive := Function.update state.isAlive connection true }
  | .remove session =>
      some
        { state with
          pool := state.pool.erase session
          mutexes := Function.update state.mutexes session false }
  | .rebind session connection =>
      some
        { state with
          trx := Function.update state.trx session (some connection)
          isAlive := Function.update state.isAlive connection true }
  | .close connection =>
      some { state with isAlive := Function.update state.isAlive connection false }
  | .loadAndDelete key => some { state with entries := state.entries.erase key }

def Step (channel : OutboundChannel) (before : Outbound) (label : OutboundLabel)
    (after : Outbound) : Prop :=
  before.next channel label = some after

inductive Performs (channel : OutboundChannel) (state : Outbound) :
    OutboundLabel → Outbound → Prop where
  | call :
      Performs channel state .call
        { state.setCall state.callCount (.connecting 0) with callCount := state.callCount + 1 }
  | connected {index waited : ℕ} (connecting : state.calls index = .connecting waited)
      (available : state.pool ≠ []) :
      Performs channel state (.checkConn index) (state.setCall index .choosing)
  | neverConnected {index waited : ℕ} (connecting : state.calls index = .connecting waited)
      (unavailable : state.pool = []) (atEnd : noConnWaitMax ≤ waited) :
      Performs channel state (.checkConn index)
        (state.setCall index (.returned (some channel.noConnectionsAfterWait)))
  | stillConnecting {index waited : ℕ} (connecting : state.calls index = .connecting waited)
      (unavailable : state.pool = []) (waits : waited < noConnWaitMax) :
      Performs channel state (.checkConn index) (state.setCall index (.connecting (waited + 1)))
  | choose {index nanos session : ℕ} (choosing : state.calls index = .choosing)
      (found : state.pool[nanos % state.pool.length]? = some session) :
      Performs channel state (.choose index nanos)
        (state.setCall index (.limited session (state.mutexes session)))
  | chooseNone {index nanos : ℕ} (choosing : state.calls index = .choosing)
      (nothing : state.pool[nanos % state.pool.length]? = none) :
      Performs channel state (.choose index nanos)
        (state.setCall index (.returned (some channel.noConnections)))
  | waitLimiter {index session : ℕ} {mutex : Bool}
      (limited : state.calls index = .limited session mutex) :
      Performs channel state (.waitLimiter index)
        (state.setCall index (.checking session mutex 0))
  | range {index session waited : ℕ} {mutex : Bool}
      (checking : state.calls index = .checking session mutex waited) :
      Performs channel state (.range index)
        (state.setCall index (.counting session mutex waited state.entries 0))
  | visit {index session waited count : ℕ} {mutex : Bool} {key : SequenceKey}
      {keys : List SequenceKey}
      (counting : state.calls index = .counting session mutex waited (key :: keys) count) :
      Performs channel state (.visit index)
        (state.setCall index (.counting session mutex waited keys
          (if key ∈ state.entries then count + 1 else count)))
  | pass {index session waited count : ℕ} {mutex : Bool}
      (counting : state.calls index = .counting session mutex waited [] count)
      (below : (count : ℤ) < channel.inflightWindowMax) :
      Performs channel state (.compare index) (state.setCall index (.passed session mutex))
  | neverPass {index session waited count : ℕ} {mutex : Bool}
      (counting : state.calls index = .counting session mutex waited [] count)
      (full : channel.inflightWindowMax ≤ count) (atEnd : inflightWaitMax ≤ waited) :
      Performs channel state (.compare index)
        (state.setCall index (.returned (some channel.windowFull)))
  | checkAgain {index session waited count : ℕ} {mutex : Bool}
      (counting : state.calls index = .counting session mutex waited [] count)
      (full : channel.inflightWindowMax ≤ count) (waits : waited < inflightWaitMax) :
      Performs channel state (.compare index)
        (state.setCall index (.checking session mutex (waited + 1)))
  | lock {index session : ℕ} (passed : state.calls index = .passed session true)
      (free : state.locked session = false) :
      Performs channel state (.lock index)
        { state.setCall index (.fetching session true) with
          locked := Function.update state.locked session true }
  | noLock {index session : ℕ} (passed : state.calls index = .passed session false) :
      Performs channel state (.lock index) (state.setCall index (.fetching session false))
  | fetch {index session : ℕ} {mutex : Bool}
      (fetching : state.calls index = .fetching session mutex) :
      Performs channel state (.fetch index)
        (state.setCall index (.preparing session mutex (state.trx session)))
  | prepare {index session : ℕ} {mutex : Bool} {link : Option ℕ}
      (preparing : state.calls index = .preparing session mutex link) :
      Performs channel state (.prepare index none)
        (state.setCall index (.storing session mutex link))
  | prepareFails {index session : ℕ} {mutex : Bool} {link : Option ℕ} {error : PrepareError}
      (preparing : state.calls index = .preparing session mutex link) :
      Performs channel state (.prepare index (some error))
        (state.finishCall index session mutex (some error.text))
  | store {index session sequenceNumber : ℕ} {mutex : Bool} {link : Option ℕ}
      (storing : state.calls index = .storing session mutex link) :
      Performs channel state (.store index sequenceNumber)
        { state.setCall index (.submitting session mutex link (session, sequenceNumber)) with
          entries := state.storeEntry (session, sequenceNumber) }
  | submit {index session connection : ℕ} {mutex : Bool} {key : SequenceKey}
      (submitting : state.calls index = .submitting session mutex (some connection) key)
      (isAlive : state.isAlive connection = true) :
      Performs channel state (.submit index) (state.setCall index (.submitted session mutex))
  | submitFails {index session connection : ℕ} {mutex : Bool} {key : SequenceKey}
      (submitting : state.calls index = .submitting session mutex (some connection) key)
      (closed : state.isAlive connection = false) :
      Performs channel state (.submit index)
        { state.finishCall index session mutex (some (submitError errConnectionClosing)) with
          entries := state.entries.erase key }
  | finish {index session : ℕ} {mutex : Bool}
      (submitted : state.calls index = .submitted session mutex) :
      Performs channel state (.finish index) (state.finishCall index session mutex none)
  | add (session connection : ℕ) :
      Performs channel state (.add session connection)
        { state with
          pool := state.pool ++ [session]
          mutexes := Function.update state.mutexes session true
          trx := Function.update state.trx session (some connection)
          isAlive := Function.update state.isAlive connection true }
  | remove (session : ℕ) :
      Performs channel state (.remove session)
        { state with
          pool := state.pool.erase session
          mutexes := Function.update state.mutexes session false }
  | rebind (session connection : ℕ) :
      Performs channel state (.rebind session connection)
        { state with
          trx := Function.update state.trx session (some connection)
          isAlive := Function.update state.isAlive connection true }
  | close (connection : ℕ) :
      Performs channel state (.close connection)
        { state with isAlive := Function.update state.isAlive connection false }
  | loadAndDelete (key : SequenceKey) :
      Performs channel state (.loadAndDelete key)
        { state with entries := state.entries.erase key }

theorem performs_of_step {channel : OutboundChannel} {state after : Outbound}
    {label : OutboundLabel} (step : state.Step channel label after) :
    state.Performs channel label after := by
  unfold Step at step
  cases label with
  | call =>
      cases step
      exact .call
  | checkConn index =>
      simp only [next] at step
      split at step
      · rename_i connecting
        split at step
        · rename_i available
          cases step
          exact .connected connecting available
        · rename_i unavailable
          split at step
          · rename_i atEnd
            cases step
            exact .neverConnected connecting (not_not.mp unavailable) atEnd
          · rename_i waits
            cases step
            exact .stillConnecting connecting (not_not.mp unavailable) (Nat.not_le.mp waits)
      · cases step
  | choose index nanos =>
      simp only [next] at step
      split at step
      · rename_i choosing
        split at step
        · rename_i nothing
          cases step
          exact .chooseNone choosing nothing
        · rename_i found
          cases step
          exact .choose choosing found
      · cases step
  | waitLimiter index =>
      simp only [next] at step
      split at step
      · rename_i limited
        cases step
        exact .waitLimiter limited
      · cases step
  | range index =>
      simp only [next] at step
      split at step
      · rename_i checking
        cases step
        exact .range checking
      · cases step
  | visit index =>
      simp only [next] at step
      split at step
      · rename_i counting
        cases step
        exact .visit counting
      · cases step
  | compare index =>
      simp only [next] at step
      split at step
      · rename_i counting
        split at step
        · rename_i below
          cases step
          exact .pass counting below
        · rename_i full
          split at step
          · rename_i atEnd
            cases step
            exact .neverPass counting (Int.not_lt.mp full) atEnd
          · rename_i waits
            cases step
            exact .checkAgain counting (Int.not_lt.mp full) (Nat.not_le.mp waits)
      · cases step
  | lock index =>
      simp only [next] at step
      split at step
      · rename_i session mutex passed
        cases mutex with
        | true =>
            simp only [if_true, Option.ite_none_left_eq_some, Option.some.injEq] at step
            obtain ⟨free, rfl⟩ := step
            exact .lock passed (Bool.eq_false_iff.mpr free)
        | false =>
            cases step
            exact .noLock passed
      · cases step
  | fetch index =>
      simp only [next] at step
      split at step
      · rename_i fetching
        cases step
        exact .fetch fetching
      · cases step
  | prepare index error =>
      simp only [next] at step
      split at step
      · rename_i preparing
        cases error with
        | none =>
            cases step
            exact .prepare preparing
        | some error =>
            cases step
            exact .prepareFails preparing
      · cases step
  | store index sequenceNumber =>
      simp only [next] at step
      split at step
      · rename_i storing
        cases step
        exact .store storing
      · cases step
  | submit index =>
      simp only [next] at step
      split at step
      · rename_i submitting
        split at step
        · rename_i isAlive
          cases step
          exact .submit submitting isAlive
        · rename_i closed
          cases step
          exact .submitFails submitting (Bool.eq_false_iff.mpr closed)
      · cases step
  | finish index =>
      simp only [next] at step
      split at step
      · rename_i submitted
        cases step
        exact .finish submitted
      · cases step
  | add session connection =>
      cases step
      exact .add session connection
  | remove session =>
      cases step
      exact .remove session
  | rebind session connection =>
      cases step
      exact .rebind session connection
  | close connection =>
      cases step
      exact .close connection
  | loadAndDelete key =>
      cases step
      exact .loadAndDelete key

end Outbound

end Klsmsc
