import Klsmsc.Chunk.Ledger

/-!
# How the phases of an execution end

What the sites that raise and the answers of the broker and the node make of the
charge, of a slice and of the write loop. These are functions of the inputs alone;
the triples about the worker tie them to what it does.
-/

namespace Klsmsc

open Library

/-- How the charge of the chunk ends. A charge that is stopped may be durable
although its commit has raised. -/
inductive ChargeRun where
  | free
  | unpaid
  | charged
  | stopped (raised : Raise) (durable : Bool)
  deriving DecidableEq, Repr

def deductRun (faults : Faults) : ℕ → Option Raise
  | 0 => (faults (.deduct (writeAttempts - 1))).map Fault.raised
  | left + 1 =>
      match faults (.deduct (writeAttempts - 1 - (left + 1))) with
      | none => none
      | some fault =>
          if retryable [1205, 1213] fault.raised then
            match faults (.deductBackoff (writeAttempts - 1 - (left + 1))) with
            | some fault => some fault.raised
            | none => deductRun faults left
          else some fault.raised

def chargeRun (faults : Faults) (canPay : Bool) (total : Money) : ChargeRun :=
  if total ≤ 0 then .free
  else
    match deductRun faults (writeAttempts - 1) with
    | some raised => .stopped raised false
    | none =>
        if canPay then
          match faults .readBalance with
          | some fault => .stopped fault.raised false
          | none =>
              match faults .chargeCommit with
              | some fault => .stopped fault.raised fault.commits
              | none => .charged
        else .unpaid

/-- What an attempt at a slice raises behind `try`, and whether its rows are
durable all the same. -/
def attemptFault (faults : Faults) (slice attempt : ℕ) : Option (Raise × Bool) :=
  match faults (.insert slice attempt), faults (.replaceLinks slice attempt),
      faults (.writeCommit slice attempt) with
  | some fault, _, _ => some (fault.raised, false)
  | none, some fault, _ => some (fault.raised, false)
  | none, none, some fault => some (fault.raised, fault.commits)
  | none, none, none => none

/-- The attempts at a slice whose rows are durable, and the attempt that
succeeds or what is raised. -/
structure SliceWrite where
  durable : List ℕ
  ended : Except Raise ℕ

def sliceWrite (faults : Faults) (slice : ℕ) : ℕ → SliceWrite
  | 0 =>
      match faults (.build slice (writeAttempts - 1)) with
      | some fault => ⟨[], .error fault.raised⟩
      | none =>
          match attemptFault faults slice (writeAttempts - 1) with
          | none => ⟨[writeAttempts - 1], .ok (writeAttempts - 1)⟩
          | some (raised, durable) =>
              ⟨if durable then [writeAttempts - 1] else [], .error raised⟩
  | left + 1 =>
      let attempt := writeAttempts - 1 - (left + 1)
      match faults (.build slice attempt) with
      | some fault => ⟨[], .error fault.raised⟩
      | none =>
          match attemptFault faults slice attempt with
          | none => ⟨[attempt], .ok attempt⟩
          | some (raised, durable) =>
              let kept := if durable then [attempt] else []
              if retryable [1205, 1213, 2013] raised then
                match faults (.writeBackoff slice attempt) with
                | some fault => ⟨kept, .error fault.raised⟩
                | none =>
                    ⟨kept ++ (sliceWrite faults slice left).durable,
                      (sliceWrite faults slice left).ended⟩
              else ⟨kept, .error raised⟩

/-- How a slice of the virtual fast path ends: it passes, or it raises and its
rows are durable all the same or not. -/
def virtualFault (faults : Faults) (slice : ℕ) : Option Bool :=
  match faults (.virtualBuild slice), faults (.virtualInsert slice),
      faults (.virtualLinks slice), faults (.virtualCommit slice) with
  | none, none, none, none => none
  | none, none, none, some fault => some fault.commits
  | _, _, _, _ => some false

def virtualRows (faults : Faults) : List (List SmsLog × ℕ) → List LogCore
  | [] => []
  | (rows, slice) :: rest =>
      match virtualFault faults slice with
      | none => rows.map SmsLog.core ++ virtualRows faults rest
      | some durable => if durable then rows.map SmsLog.core else []

structure QueueRun where
  counted : Bool
  stopped : Option Raise
  deriving DecidableEq, Repr

section

variable (env : ChunkEnv) (faults : Faults)

def ChunkEnv.publishes (call : QueueCall) : Bool :=
  (List.range smsQueueRetries).any fun attempt => !env.publishFails call attempt

/-- `queue_sms_batch_smpp` answers true. -/
def ChunkEnv.packageSucceeds (messageIds : List MessageId) : Bool :=
  env.publishes (.smppPackage messageIds) ||
    messageIds.all fun messageId => env.publishes (.smppDegraded messageId)

def singlesRun (single : MessageId → Site) : List MessageId → QueueRun
  | [] => ⟨false, none⟩
  | messageId :: messageIds =>
      match faults (single messageId) with
      | some fault => ⟨false, some fault.raised⟩
      | none =>
          ⟨env.publishes (.smppSingle messageId) || (singlesRun single messageIds).counted,
            (singlesRun single messageIds).stopped⟩

def publishRun (site : Site) (single : MessageId → Site) (messageIds : List MessageId) :
    QueueRun :=
  match faults site with
  | some fault => ⟨false, some fault.raised⟩
  | none =>
      if env.packageSucceeds messageIds then ⟨!messageIds.isEmpty, none⟩
      else singlesRun env faults single messageIds

def smppRun (slice : ℕ) (messageIds : List MessageId) : QueueRun :=
  if messageIds.isEmpty then ⟨false, none⟩
  else publishRun env faults (.queueSmpp slice) (.queueSmppSingle slice) messageIds

/-- What is raised at a site behind `try`, where every exception is caught. -/
def cancellation (site : Site) : Option Raise :=
  (faults site).bind fun fault => if fault.raised.isException then none else some fault.raised

def refundsRun (slice : ℕ) (messageIds : List MessageId) : Option Raise :=
  messageIds.findSome? fun messageId => cancellation faults (.refundSingle slice messageId)

/-- The node's answer to the messages of a slice: whether it takes them, or what
is raised. -/
def nodeAnswer (slice : ℕ) (messageIds : List MessageId) : Except Raise Bool :=
  match faults (.nodeSubmit slice) with
  | some fault => if fault.raised.isException then .ok false else .error fault.raised
  | none => .ok (env.submitTask messageIds).isOk

def nodeRun (slice : ℕ) (messageIds : List MessageId) : QueueRun :=
  match faults (.nodeRead slice), faults (.nodeLinks slice), nodeAnswer env faults slice messageIds,
      faults (.nodeCommit slice) with
  | some fault, _, _, _ => ⟨false, some fault.raised⟩
  | none, some fault, _, _ => ⟨false, some fault.raised⟩
  | none, none, .error raised, _ => ⟨false, some raised⟩
  | none, none, .ok _, some fault => ⟨false, some fault.raised⟩
  | none, none, .ok true, none => ⟨true, none⟩
  | none, none, .ok false, none => ⟨false, refundsRun faults slice messageIds⟩

def httpRun (slice : ℕ) (channel : Option Channel) (messageIds : List MessageId) : QueueRun :=
  if messageIds.isEmpty then ⟨false, none⟩
  else if channel.any Channel.isNodeRcs then nodeRun env faults slice messageIds
  else
    match faults (.queueHttp slice) with
    | some fault => ⟨false, some fault.raised⟩
    | none => ⟨!(queueSmsBulk env.broker messageIds).1.isEmpty, none⟩

def QueueRun.andThen (first second : QueueRun) : QueueRun :=
  match first.stopped with
  | some _ => first
  | none => ⟨first.counted || second.counted, second.stopped⟩

variable (input : ChunkInput)

def attemptIds (slice attempt : ℕ) (protocol : Protocol) (items : List ValidItem) :
    List MessageId :=
  idsOn protocol items (attemptRows env input slice attempt items)

def queueRun (slice attempt : ℕ) (items : List ValidItem) : QueueRun :=
  (smppRun env faults slice (attemptIds env input slice attempt .smpp items)).andThen
    (httpRun env faults slice (items.getLast?.map ValidItem.channel)
      (attemptIds env input slice attempt .http items))

/-- What the write loop leaves behind: the durable rows, whether it has counted a
message, the ids it has handed over, those for the virtual simulation, and what
stopped it. -/
structure LoopRun where
  rows : List LogCore
  counted : Bool
  handed : List MessageId
  virtualIds : List MessageId
  stopped : Option Raise

def durableRows (slice : ℕ) (items : List ValidItem) (attempts : List ℕ) : List LogCore :=
  attempts.flatMap fun attempt =>
    (attemptRows env input slice attempt items).map SmsLog.core

def sliceRun (items : List ValidItem) (slice : ℕ) : LoopRun :=
  let write := sliceWrite faults slice (writeAttempts - 1)
  let rows := durableRows env input slice items write.durable
  match write.ended with
  | .error raised => ⟨rows, false, [], [], some raised⟩
  | .ok attempt =>
      ⟨rows, (queueRun env faults input slice attempt items).counted,
        attemptIds env input slice attempt .smpp items ++
          attemptIds env input slice attempt .http items,
        attemptIds env input slice attempt .virtual items,
        (queueRun env faults input slice attempt items).stopped⟩

def LoopRun.andThen (first second : LoopRun) : LoopRun :=
  match first.stopped with
  | some _ => first
  | none =>
      ⟨first.rows ++ second.rows, first.counted || second.counted,
        first.handed ++ second.handed, first.virtualIds ++ second.virtualIds, second.stopped⟩

def loopRun : List (List ValidItem × ℕ) → LoopRun
  | [] => ⟨[], false, [], [], none⟩
  | (items, slice) :: rest => (sliceRun env faults input items slice).andThen (loopRun rest)

end

end Klsmsc
