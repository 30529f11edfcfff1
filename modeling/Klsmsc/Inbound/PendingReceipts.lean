import Klsmsc.Inbound.Receipts

/-!
# Receipts that wait for their client

Receipts come from the backend by a queue and from the gateway itself, as rejections. A receipt is
written to a session of its system id, or it is stored when none takes it. A client that binds to
receive starts a goroutine that loads what is stored for its system id, writes it to the session and
deletes row by row what was written.

All of this interleaves: sessions come and go, several goroutines send what is stored, and the
gateway can stop at any point, which loses what it had in hand and lets the broker deliver again
what was not acknowledged. The table compares system ids by its collation, here by the key that the
collation has for a string.
-/

namespace Klsmsc

open Library

/-- Where `dispatchDLRPayload` stands with a receipt. -/
inductive ReceiptStage
  | starting
  | sending (s : ℕ)
  | storing
  | done
  deriving DecidableEq, Repr

/-- A call of `dispatchDLRPayload`, and whether it handles a delivery of the queue. -/
structure DispatchCall where
  delivered : Bool
  stage : ReceiptStage
  deriving DecidableEq, Repr

/-- A row of `smpp_pending_dlrs`, with the number of its receipt. -/
structure PendingDLR where
  id : ℕ
  systemID : GoString
  payload : DLRPayload
  expiresAt : ℕ
  receipt : ℕ

/-- A goroutine of `drainPendingDLRs`: the rows that it has yet to send, and the id of the row that
it has sent and has yet to delete. -/
structure Drain where
  rows : List PendingDLR
  deleting : Option ℕ

/-- A `deliver_sm` that a connection took. -/
structure Push where
  session : ℕ
  receipt : ℕ
  deliver : DeliverSMParams

/-- The receipts of the gateway by their numbers, with the deliveries that wait in
`sms_inbound_dlr`, the calls that are under way, the table of stored ones, the goroutines that send
these, and all that was written. -/
structure ReceiptDesk where
  binds : Binds
  now : ℕ
  receipts : List DLRPayload
  queue : List ℕ
  dispatches : ℕ → Option DispatchCall
  table : List PendingDLR
  inserted : ℕ
  drains : ℕ → Option Drain
  pushed : List Push

/-- What happens: something about the sessions; time passes; a receipt is published, or made for a
rejection; the broker expires a delivery; the consumer takes one; a call looks for a session,
writes, stores or ends; a goroutine loads its rows, writes one or deletes one; or the gateway stops.
-/
inductive DeskEvent
  | bind (event : BindEvent)
  | tick (elapsed : ℕ)
  | publish (payload : DLRPayload)
  | reject (payload : DLRPayload)
  | expire
  | take
  | pick (n : ℕ)
  | send (n : ℕ) (written : Bool) (clock : GoString)
  | store (n : ℕ) (inserted : Bool)
  | ack (n : ℕ)
  | load (s : ℕ)
  | resend (s : ℕ) (written : Bool) (clock : GoString)
  | delete (s : ℕ) (deleted : Bool)
  | crash

/-- `pendingDLRTTL`, in milliseconds. -/
def pendingDLRTTL : ℕ := 86400000

def Binds.crash (binds : Binds) : Binds where
  registry := newInboundRegistry
  accepted := binds.accepted
  connections := fun s => ⟨(binds.connections s).session, .ended⟩
  closed := fun _ => true

@[simp]
theorem Binds.session_move (binds : Binds) (s other : ℕ) (phase : BindPhase) :
    ((binds.move s phase).connections other).session = (binds.connections other).session := by
  by_cases same : other = s
  · subst other
    simp [Binds.move]
  · simp [Binds.move, same]

theorem Binds.sessions_of_step {settings : BindSettings} {binds next : Binds} {event : BindEvent}
    (step : binds.Step settings event next) :
    binds.accepted ≤ next.accepted ∧ ∀ s < binds.accepted,
      (next.connections s).session = (binds.connections s).session := by
  cases Binds.performs_of_step step with
  | authenticate session =>
      refine ⟨Nat.le_succ _, ?_⟩
      intro s inside
      simp [Function.update_of_ne (Nat.ne_of_lt inside)]
  | shut s => exact ⟨Nat.le_refl _, fun _ _ => rfl⟩
  | _ => exact ⟨Nat.le_refl _, fun other _ => Binds.session_move _ _ other _⟩

namespace ReceiptDesk

variable (settings : BindSettings) (collate : GoString → GoString) (desk : ReceiptDesk)

def initial : ReceiptDesk :=
  ⟨Binds.initial, 0, [], [], fun _ => none, [], 0, fun _ => none, []⟩

def payload (n : ℕ) : DLRPayload := desk.receipts.getD n []

/-- `systemID` of a payload. -/
def systemID (n : ℕ) : GoString := (desk.payload n).text "system_id"

def proceed (n : ℕ) (dispatch : DispatchCall) (stage : ReceiptStage) : ReceiptDesk :=
  { desk with dispatches := Function.update desk.dispatches n (some { dispatch with stage }) }

def drainOn (s : ℕ) (drain : Drain) : ReceiptDesk :=
  { desk with drains := Function.update desk.drains s (some drain) }

/-- `LoadPendingDLRs` with the limit of 200. -/
def loadPendingDLRs (systemID : GoString) : List PendingDLR :=
  (desk.table.filter fun row =>
    collate row.systemID = collate systemID ∧ desk.now < row.expiresAt).take 200

/-- A call of `dispatchDLRPayload` begins with a new receipt. -/
def begins (payload : DLRPayload) : ReceiptDesk :=
  { desk with
    receipts := desk.receipts ++ [payload]
    dispatches := Function.update desk.dispatches desk.receipts.length
      (some ⟨false, .starting⟩) }

def unacknowledged : List ℕ :=
  (List.range desk.receipts.length).filter fun n =>
    match desk.dispatches n with
    | some dispatch => dispatch.delivered
    | none => false

def crashed : ReceiptDesk :=
  { desk with
    binds := desk.binds.crash
    queue := desk.unacknowledged ++ desk.queue
    dispatches := fun _ => none
    drains := fun s => if s < desk.binds.accepted then some ⟨[], none⟩ else none }

def next : DeskEvent → Option ReceiptDesk
  | .bind event => (desk.binds.next settings event).map fun binds => { desk with binds }
  | .tick elapsed => some { desk with now := desk.now + elapsed }
  | .publish payload =>
      some
        { desk with
          receipts := desk.receipts ++ [payload]
          queue := desk.queue ++ [desk.receipts.length] }
  | .reject payload => some (desk.begins payload)
  | .expire =>
      match desk.queue with
      | _ :: queue => some { desk with queue }
      | [] => none
  | .take =>
      match desk.queue with
      | n :: queue =>
          -- the consumer handles one delivery after the other
          if desk.unacknowledged ≠ [] then none
          else
            some
              { desk with
                queue
                dispatches := Function.update desk.dispatches n (some ⟨true, .starting⟩) }
      | [] => none
  | .pick n =>
      match desk.dispatches n with
      | some dispatch =>
          if dispatch.stage = .starting then
            if desk.systemID n = [] then some (desk.proceed n dispatch .done)
            else
              match desk.binds.receiver (desk.systemID n) with
              | some s => some (desk.proceed n dispatch (.sending s))
              | none => some (desk.proceed n dispatch .storing)
          else none
      | none => none
  | .send n written clock =>
      match desk.dispatches n with
      | some ⟨delivered, .sending s⟩ =>
          if written then
            some
              { desk.proceed n ⟨delivered, .sending s⟩ .done with
                pushed := desk.pushed ++ [⟨s, n, pushDeliverSM clock (desk.payload n)⟩] }
          else some (desk.proceed n ⟨delivered, .sending s⟩ .storing)
      | _ => none
  | .store n inserted =>
      match desk.dispatches n with
      | some dispatch =>
          if dispatch.stage = .storing then
            if inserted then
              some
                { desk.proceed n dispatch .done with
                  table := desk.table ++
                    [⟨desk.inserted, desk.systemID n, (desk.payload n).stored,
                      desk.now + pendingDLRTTL, n⟩]
                  inserted := desk.inserted + 1 }
            else some (desk.proceed n dispatch .done)
          else none
      | none => none
  | .ack n =>
      match desk.dispatches n with
      | some dispatch =>
          if dispatch.stage = .done then
            some { desk with dispatches := Function.update desk.dispatches n none }
          else none
      | none => none
  | .load s =>
      if s < desk.binds.accepted ∧ (desk.binds.connections s).phase ∈ [.bound, .ended] ∧
          desk.binds.bindType s ≠ .bindTX ∧ (desk.drains s).isNone then
        some (desk.drainOn s ⟨desk.loadPendingDLRs collate (desk.binds.systemID s), none⟩)
      else none
  | .resend s written clock =>
      match desk.drains s with
      | some ⟨row :: rows, none⟩ =>
          if desk.binds.closed s then some (desk.drainOn s ⟨[], none⟩)
          else if written then
            some
              { desk.drainOn s ⟨rows, some row.id⟩ with
                pushed := desk.pushed ++ [⟨s, row.receipt, pushDeliverSM clock row.payload⟩] }
          else some (desk.drainOn s ⟨[], none⟩)
      | _ => none
  | .delete s deleted =>
      match desk.drains s with
      | some ⟨rows, some id⟩ =>
          some
            { desk.drainOn s ⟨rows, none⟩ with
              table := if deleted then desk.table.filter fun row => row.id ≠ id else desk.table }
      | _ => none
  | .crash => some desk.crashed

def Step (before : ReceiptDesk) (event : DeskEvent) (after : ReceiptDesk) : Prop :=
  before.next settings collate event = some after

/-! ### What a step does -/

variable {settings} {collate} {desk} {after : ReceiptDesk}

inductive Performs (settings : BindSettings) (collate : GoString → GoString) (desk : ReceiptDesk) :
    DeskEvent → ReceiptDesk → Prop
  | bind {event : BindEvent} {binds : Binds} (step : desk.binds.Step settings event binds) :
      Performs settings collate desk (.bind event) { desk with binds }
  | tick (elapsed : ℕ) :
      Performs settings collate desk (.tick elapsed) { desk with now := desk.now + elapsed }
  | publish (payload : DLRPayload) :
      Performs settings collate desk (.publish payload)
        { desk with
          receipts := desk.receipts ++ [payload]
          queue := desk.queue ++ [desk.receipts.length] }
  | reject (payload : DLRPayload) :
      Performs settings collate desk (.reject payload) (desk.begins payload)
  | expire {n : ℕ} {queue : List ℕ} (first : desk.queue = n :: queue) :
      Performs settings collate desk .expire { desk with queue }
  | take {n : ℕ} {queue : List ℕ} (first : desk.queue = n :: queue) :
      Performs settings collate desk .take
        { desk with
          queue, dispatches := Function.update desk.dispatches n (some ⟨true, .starting⟩) }
  | nobody {n : ℕ} {delivered : Bool} (call : desk.dispatches n = some ⟨delivered, .starting⟩)
      (nameless : desk.systemID n = []) :
      Performs settings collate desk (.pick n) (desk.proceed n ⟨delivered, .starting⟩ .done)
  | picked {n s : ℕ} {delivered : Bool} (call : desk.dispatches n = some ⟨delivered, .starting⟩)
      (receiver : desk.binds.receiver (desk.systemID n) = some s) :
      Performs settings collate desk (.pick n) (desk.proceed n ⟨delivered, .starting⟩ (.sending s))
  | offline {n : ℕ} {delivered : Bool} (call : desk.dispatches n = some ⟨delivered, .starting⟩) :
      Performs settings collate desk (.pick n) (desk.proceed n ⟨delivered, .starting⟩ .storing)
  | sent {n s : ℕ} {delivered : Bool} (clock : GoString)
      (call : desk.dispatches n = some ⟨delivered, .sending s⟩) :
      Performs settings collate desk (.send n true clock)
        { desk.proceed n ⟨delivered, .sending s⟩ .done with
          pushed := desk.pushed ++ [⟨s, n, pushDeliverSM clock (desk.payload n)⟩] }
  | unsent {n s : ℕ} {delivered : Bool} {clock : GoString}
      (call : desk.dispatches n = some ⟨delivered, .sending s⟩) :
      Performs settings collate desk (.send n false clock)
        (desk.proceed n ⟨delivered, .sending s⟩ .storing)
  | stored {n : ℕ} {delivered : Bool} (call : desk.dispatches n = some ⟨delivered, .storing⟩) :
      Performs settings collate desk (.store n true)
        { desk.proceed n ⟨delivered, .storing⟩ .done with
          table := desk.table ++
            [⟨desk.inserted, desk.systemID n, (desk.payload n).stored, desk.now + pendingDLRTTL,
              n⟩]
          inserted := desk.inserted + 1 }
  | unstored {n : ℕ} {delivered : Bool} (call : desk.dispatches n = some ⟨delivered, .storing⟩) :
      Performs settings collate desk (.store n false) (desk.proceed n ⟨delivered, .storing⟩ .done)
  | ack {n : ℕ} {delivered : Bool} (call : desk.dispatches n = some ⟨delivered, .done⟩) :
      Performs settings collate desk (.ack n)
        { desk with dispatches := Function.update desk.dispatches n none }
  | load {s : ℕ} (inside : s < desk.binds.accepted) (receives : desk.binds.bindType s ≠ .bindTX)
      (fresh : desk.drains s = none) :
      Performs settings collate desk (.load s)
        (desk.drainOn s ⟨desk.loadPendingDLRs collate (desk.binds.systemID s), none⟩)
  | resent {s : ℕ} {row : PendingDLR} {rows : List PendingDLR} (clock : GoString)
      (drain : desk.drains s = some ⟨row :: rows, none⟩) :
      Performs settings collate desk (.resend s true clock)
        { desk.drainOn s ⟨rows, some row.id⟩ with
          pushed := desk.pushed ++ [⟨s, row.receipt, pushDeliverSM clock row.payload⟩] }
  | stops {s : ℕ} {row : PendingDLR} {rows : List PendingDLR} {written : Bool} {clock : GoString}
      (drain : desk.drains s = some ⟨row :: rows, none⟩) :
      Performs settings collate desk (.resend s written clock) (desk.drainOn s ⟨[], none⟩)
  | delete {s id : ℕ} {rows : List PendingDLR} (deleted : Bool)
      (drain : desk.drains s = some ⟨rows, some id⟩) :
      Performs settings collate desk (.delete s deleted)
        { desk.drainOn s ⟨rows, none⟩ with
          table := if deleted then desk.table.filter fun row => row.id ≠ id else desk.table }
  | crash : Performs settings collate desk .crash desk.crashed

theorem performs_of_step {event : DeskEvent} (step : desk.Step settings collate event after) :
    desk.Performs settings collate event after := by
  rw [Step] at step
  cases event with
  | bind event =>
      rcases Option.map_eq_some_iff.mp step with ⟨binds, moved, rfl⟩
      exact .bind moved
  | tick elapsed =>
      rcases Option.some.inj step with rfl
      exact .tick elapsed
  | publish payload =>
      rcases Option.some.inj step with rfl
      exact .publish payload
  | reject payload =>
      rcases Option.some.inj step with rfl
      exact .reject payload
  | expire =>
      cases first : desk.queue with
      | nil => simp [next, first] at step
      | cons n queue =>
          simp only [next, first] at step
          rcases Option.some.inj step with rfl
          exact .expire first
  | take =>
      cases first : desk.queue with
      | nil => simp [next, first] at step
      | cons n queue =>
          simp only [next, first] at step
          split at step
          · cases step
          · rcases Option.some.inj step with rfl
            exact .take first
  | pick n =>
      rcases call : desk.dispatches n with _ | ⟨delivered, stage⟩
      · simp [next, call] at step
      · simp only [next, call] at step
        split at step
        · rename_i starting
          subst starting
          split at step
          · rename_i nameless
            rcases Option.some.inj step with rfl
            exact .nobody call nameless
          · cases receiver : desk.binds.receiver (desk.systemID n) with
            | some s =>
                simp only [receiver] at step
                rcases Option.some.inj step with rfl
                exact .picked call receiver
            | none =>
                simp only [receiver] at step
                rcases Option.some.inj step with rfl
                exact .offline call
        · cases step
  | send n written clock =>
      rcases call : desk.dispatches n with _ | ⟨delivered, _ | s | _ | _⟩
      all_goals simp only [next, call] at step
      all_goals try cases step
      cases written with
      | true =>
          rcases Option.some.inj step with rfl
          exact .sent clock call
      | false =>
          rcases Option.some.inj step with rfl
          exact .unsent call
  | store n inserted =>
      rcases call : desk.dispatches n with _ | ⟨delivered, stage⟩
      · simp [next, call] at step
      · simp only [next, call] at step
        split at step
        · rename_i storing
          subst storing
          cases inserted with
          | true =>
              rcases Option.some.inj step with rfl
              exact .stored call
          | false =>
              rcases Option.some.inj step with rfl
              exact .unstored call
        · cases step
  | ack n =>
      rcases call : desk.dispatches n with _ | ⟨delivered, stage⟩
      · simp [next, call] at step
      · simp only [next, call] at step
        split at step
        · rename_i done
          subst done
          rcases Option.some.inj step with rfl
          exact .ack call
        · cases step
  | load s =>
      simp only [next] at step
      split at step
      · rename_i ready
        rcases Option.some.inj step with rfl
        exact .load ready.1 ready.2.2.1 (Option.isNone_iff_eq_none.mp ready.2.2.2)
      · cases step
  | resend s written clock =>
      rcases drain : desk.drains s with _ | ⟨_ | ⟨row, rows⟩, _ | id⟩
      all_goals simp only [next, drain] at step
      all_goals try cases step
      split at step
      · rcases Option.some.inj step with rfl
        exact .stops drain
      · cases written with
        | true =>
            rcases Option.some.inj step with rfl
            exact .resent clock drain
        | false =>
            rcases Option.some.inj step with rfl
            exact .stops drain
  | delete s deleted =>
      rcases drain : desk.drains s with _ | ⟨rows, _ | id⟩
      · simp [next, drain] at step
      · simp [next, drain] at step
      · simp only [next, drain] at step
        rcases Option.some.inj step with rfl
        exact .delete deleted drain
  | crash =>
      rcases Option.some.inj step with rfl
      exact .crash

/-! ### What holds in every run -/

structure Grows (before after : ReceiptDesk) : Prop where
  accepted : before.binds.accepted ≤ after.binds.accepted
  session : ∀ s < before.binds.accepted,
    (after.binds.connections s).session = (before.binds.connections s).session
  receipts : before.receipts <+: after.receipts
  inserted : before.inserted ≤ after.inserted

namespace Grows

variable {before : ReceiptDesk}

theorem of_same (binds : after.binds = before.binds) (receipts : after.receipts = before.receipts)
    (inserted : before.inserted ≤ after.inserted) : Grows before after :=
  ⟨by rw [binds], by simp [binds], by rw [receipts], inserted⟩

theorem payload (grows : Grows before after) {n : ℕ} (inside : n < before.receipts.length) :
    after.payload n = before.payload n := by
  rcases grows.receipts with ⟨more, same⟩
  simp only [ReceiptDesk.payload, ← same, List.getD_eq_getElem?_getD,
    List.getElem?_append_left inside]

theorem systemID (grows : Grows before after) {n : ℕ} (inside : n < before.receipts.length) :
    after.systemID n = before.systemID n := by
  rw [ReceiptDesk.systemID, ReceiptDesk.systemID, grows.payload inside]

end Grows

theorem Performs.grows {event : DeskEvent} (performs : desk.Performs settings collate event after) :
    Grows desk after := by
  cases performs with
  | bind step =>
      rcases Binds.sessions_of_step step with ⟨accepted, session⟩
      exact ⟨accepted, session, List.prefix_refl _, Nat.le_refl _⟩
  | publish payload =>
      exact ⟨Nat.le_refl _, fun _ _ => rfl, List.prefix_append _ _, Nat.le_refl _⟩
  | reject payload =>
      exact ⟨Nat.le_refl _, fun _ _ => rfl, List.prefix_append _ _, Nat.le_refl _⟩
  | stored call => exact Grows.of_same rfl rfl (Nat.le_succ _)
  | crash => exact ⟨Nat.le_refl _, fun _ _ => rfl, List.prefix_refl _, Nat.le_refl _⟩
  | _ => exact Grows.of_same rfl rfl (Nat.le_refl _)

structure Belongs (desk : ReceiptDesk) (row : PendingDLR) : Prop where
  id : row.id < desk.inserted
  receipt : row.receipt < desk.receipts.length
  systemID : row.systemID = desk.systemID row.receipt
  payload : row.payload = (desk.payload row.receipt).stored

structure Rightful (collate : GoString → GoString) (desk : ReceiptDesk) (push : Push) : Prop where
  session : push.session < desk.binds.accepted
  receipt : push.receipt < desk.receipts.length
  receives : desk.binds.bindType push.session ≠ .bindTX
  systemID : collate (desk.binds.systemID push.session) = collate (desk.systemID push.receipt)
  deliver : ∃ clock, push.deliver = pushDeliverSM clock (desk.payload push.receipt) ∨
    push.deliver = pushDeliverSM clock (desk.payload push.receipt).stored

namespace Grows

variable {before : ReceiptDesk}

theorem bindType (grows : Grows before after) {s : ℕ} (inside : s < before.binds.accepted) :
    after.binds.bindType s = before.binds.bindType s := by
  rw [Binds.bindType, Binds.bindType, grows.session s inside]

theorem sessionID (grows : Grows before after) {s : ℕ} (inside : s < before.binds.accepted) :
    after.binds.systemID s = before.binds.systemID s := by
  rw [Binds.systemID, Binds.systemID, grows.session s inside]

theorem length (grows : Grows before after) : before.receipts.length ≤ after.receipts.length :=
  grows.receipts.length_le

theorem belongs (grows : Grows before after) {row : PendingDLR} (belongs : before.Belongs row) :
    after.Belongs row where
  id := lt_of_lt_of_le belongs.id grows.inserted
  receipt := lt_of_lt_of_le belongs.receipt grows.length
  systemID := by rw [grows.systemID belongs.receipt, belongs.systemID]
  payload := by rw [grows.payload belongs.receipt, belongs.payload]

theorem rightful (grows : Grows before after) {push : Push}
    (rightful : before.Rightful collate push) : after.Rightful collate push where
  session := lt_of_lt_of_le rightful.session grows.accepted
  receipt := lt_of_lt_of_le rightful.receipt grows.length
  receives := by
    rw [grows.bindType rightful.session]
    exact rightful.receives
  systemID := by
    rw [grows.sessionID rightful.session, grows.systemID rightful.receipt, rightful.systemID]
  deliver := by
    rw [grows.payload rightful.receipt]
    exact rightful.deliver

end Grows

structure CallsSound (desk : ReceiptDesk) : Prop where
  registered : desk.binds.Registered
  queued : ∀ n ∈ desk.queue, n < desk.receipts.length
  inside : ∀ n call, desk.dispatches n = some call → n < desk.receipts.length
  sending : ∀ n delivered s, desk.dispatches n = some ⟨delivered, .sending s⟩ →
    s < desk.binds.accepted ∧ desk.binds.bindType s ≠ .bindTX ∧
      desk.binds.systemID s = desk.systemID n

structure Loaded (collate : GoString → GoString) (desk : ReceiptDesk) (s : ℕ) (row : PendingDLR) :
    Prop where
  inside : s < desk.binds.accepted
  receives : desk.binds.bindType s ≠ .bindTX
  systemID : collate (desk.binds.systemID s) = collate row.systemID
  belongs : desk.Belongs row
  same : ∀ other ∈ desk.table, other.id = row.id → other = row

def Written (desk : ReceiptDesk) (id : ℕ) : Prop :=
  id < desk.inserted ∧ ∀ row ∈ desk.table, row.id = id →
    ∃ push ∈ desk.pushed, push.receipt = row.receipt

/-- The rows are those of their receipts, in the table and with the goroutines that send them, and
what a goroutine deletes was written. -/
structure RowsSound (collate : GoString → GoString) (desk : ReceiptDesk) : Prop where
  rows : ∀ row ∈ desk.table, desk.Belongs row
  distinct : (desk.table.map (·.id)).Nodup
  drains : ∀ s drain, desk.drains s = some drain → ∀ row ∈ drain.rows, desk.Loaded collate s row
  deleting : ∀ s rows id, desk.drains s = some ⟨rows, some id⟩ → desk.Written id
  pushes : ∀ push ∈ desk.pushed, desk.Rightful collate push

namespace CallsSound

theorem of_grows (sound : desk.CallsSound) (grows : Grows desk after)
    (registered : after.binds.Registered) (queue : ∀ n ∈ after.queue, n < after.receipts.length)
    (dispatches : after.dispatches = desk.dispatches) : after.CallsSound where
  registered := registered
  queued := queue
  inside := by
    intro n call calls
    rw [dispatches] at calls
    exact lt_of_lt_of_le (sound.inside n call calls) grows.length
  sending := by
    intro n delivered s calls
    rw [dispatches] at calls
    rcases sound.sending n delivered s calls with ⟨accepted, receives, same⟩
    rw [grows.bindType accepted, grows.sessionID accepted,
      grows.systemID (sound.inside n _ calls)]
    exact ⟨lt_of_lt_of_le accepted grows.accepted, receives, same⟩

theorem update (sound : desk.CallsSound) (grows : Grows desk after)
    (binds : after.binds = desk.binds) (queue : ∀ n ∈ after.queue, n < after.receipts.length)
    {n : ℕ} {call : Option DispatchCall}
    (dispatches : after.dispatches = Function.update desk.dispatches n call)
    (inside : n < after.receipts.length)
    (sending : ∀ delivered s, call = some ⟨delivered, .sending s⟩ →
      s < desk.binds.accepted ∧ desk.binds.bindType s ≠ .bindTX ∧
        desk.binds.systemID s = after.systemID n) : after.CallsSound where
  registered := by
    rw [binds]
    exact sound.registered
  queued := queue
  inside := by
    intro other one calls
    rw [dispatches] at calls
    by_cases same : other = n
    · rw [same]
      exact inside
    · rw [Function.update_of_ne same] at calls
      exact lt_of_lt_of_le (sound.inside other one calls) grows.length
  sending := by
    intro other delivered s calls
    rw [dispatches] at calls
    rw [binds]
    by_cases same : other = n
    · subst other
      rw [Function.update_self] at calls
      exact sending delivered s calls
    · rw [Function.update_of_ne same] at calls
      rw [grows.systemID (sound.inside other _ calls)]
      exact sound.sending other delivered s calls

end CallsSound

theorem registered_crash (binds : Binds) : binds.crash.Registered :=
  ⟨InboundRegistry.wellFormed_newInboundRegistry, fun _ _ => rfl,
    fun systemID s member => by simp [Binds.crash] at member, fun systemID => by simp [Binds.crash]⟩

theorem CallsSound.step (sound : desk.CallsSound) {event : DeskEvent}
    (performs : desk.Performs settings collate event after) : after.CallsSound := by
  have grows := performs.grows
  have queue : ∀ n ∈ desk.queue, n < after.receipts.length :=
    fun n member => lt_of_lt_of_le (sound.queued n member) grows.length
  cases performs with
  | bind step => exact sound.of_grows grows (sound.registered.step step) sound.queued rfl
  | publish payload =>
      refine sound.of_grows grows sound.registered ?_ rfl
      intro n member
      rcases List.mem_append.mp member with earlier | new
      · exact queue n earlier
      · rcases List.mem_singleton.mp new with rfl
        simp
  | reject payload => exact sound.update grows rfl queue rfl (by simp [begins]) (by simp)
  | expire first =>
      refine sound.of_grows grows sound.registered ?_ rfl
      intro n member
      exact sound.queued n (first ▸ List.mem_cons_of_mem _ member)
  | take first =>
      refine sound.update grows rfl ?_ rfl (sound.queued _ (by simp [first])) (by simp)
      intro n member
      exact sound.queued n (first ▸ List.mem_cons_of_mem _ member)
  | nobody call nameless =>
      exact sound.update grows rfl queue rfl (sound.inside _ _ call) (by simp)
  | @picked n s delivered call receiver =>
      refine sound.update grows rfl queue rfl (sound.inside _ _ call) ?_
      intro _ other same
      obtain ⟨-, rfl⟩ : _ ∧ s = other := by simpa using same
      rcases InboundRegistry.pickReceiver_eq_some receiver with ⟨member, receives, -⟩
      rcases sound.registered.bound _ s member with ⟨bound, named⟩
      exact ⟨sound.registered.inside (by simp [bound]), receives, named⟩
  | offline call => exact sound.update grows rfl queue rfl (sound.inside _ _ call) (by simp)
  | sent clock call => exact sound.update grows rfl queue rfl (sound.inside _ _ call) (by simp)
  | unsent call => exact sound.update grows rfl queue rfl (sound.inside _ _ call) (by simp)
  | stored call => exact sound.update grows rfl queue rfl (sound.inside _ _ call) (by simp)
  | unstored call => exact sound.update grows rfl queue rfl (sound.inside _ _ call) (by simp)
  | ack call => exact sound.update grows rfl queue rfl (sound.inside _ _ call) (by simp)
  | crash =>
      refine ⟨registered_crash _, ?_, by simp [crashed], by simp [crashed]⟩
      intro n member
      rcases List.mem_append.mp member with hand | earlier
      · exact List.mem_range.mp (List.mem_of_mem_filter hand)
      · exact sound.queued n earlier
  | tick _ => exact sound.of_grows grows sound.registered queue rfl
  | load _ _ _ => exact sound.of_grows grows sound.registered queue rfl
  | resent _ _ => exact sound.of_grows grows sound.registered queue rfl
  | stops _ => exact sound.of_grows grows sound.registered queue rfl
  | delete _ _ => exact sound.of_grows grows sound.registered queue rfl

theorem Loaded.of_grows {s : ℕ} {row : PendingDLR} (loaded : desk.Loaded collate s row)
    (grows : Grows desk after) (table : ∀ other ∈ after.table, other ∈ desk.table) :
    after.Loaded collate s row where
  inside := lt_of_lt_of_le loaded.inside grows.accepted
  receives := by
    rw [grows.bindType loaded.inside]
    exact loaded.receives
  systemID := by
    rw [grows.sessionID loaded.inside]
    exact loaded.systemID
  belongs := grows.belongs loaded.belongs
  same := fun other member => loaded.same other (table other member)

namespace RowsSound

theorem of_grows (sound : desk.RowsSound collate) (grows : Grows desk after)
    (table : after.table.Sublist desk.table) (more : List Push)
    (pushed : after.pushed = desk.pushed ++ more)
    (rightful : ∀ push ∈ more, desk.Rightful collate push)
    (loaded : ∀ s drain, after.drains s = some drain → ∀ row ∈ drain.rows,
      desk.Loaded collate s row)
    (deleting : ∀ s rows id, after.drains s = some ⟨rows, some id⟩ → id < desk.inserted ∧
      ∀ row ∈ desk.table, row.id = id → ∃ push ∈ after.pushed, push.receipt = row.receipt) :
    after.RowsSound collate where
  rows := fun row member => grows.belongs (sound.rows row (table.subset member))
  distinct := sound.distinct.sublist (table.map _)
  drains := fun s drain drains row member =>
    (loaded s drain drains row member).of_grows grows fun _ => (table.subset ·)
  deleting := by
    intro s rows id drains
    rcases deleting s rows id drains with ⟨inside, written⟩
    exact ⟨lt_of_lt_of_le inside grows.inserted,
      fun row member => written row (table.subset member)⟩
  pushes := by
    intro push member
    rw [pushed] at member
    rcases List.mem_append.mp member with earlier | new
    · exact grows.rightful (sound.pushes push earlier)
    · exact grows.rightful (rightful push new)

theorem of_same (sound : desk.RowsSound collate) (grows : Grows desk after)
    (table : after.table = desk.table) (pushed : after.pushed = desk.pushed)
    (drains : after.drains = desk.drains) : after.RowsSound collate := by
  refine sound.of_grows grows (by rw [table]) [] (by simp [pushed]) (by simp) ?_ ?_
  · intro s drain one
    rw [drains] at one
    exact sound.drains s drain one
  · intro s rows id one
    rw [drains] at one
    rw [pushed]
    exact sound.deleting s rows id one

end RowsSound

theorem drains_update {s : ℕ} {drain : Drain} {other : ℕ} {one : Drain}
    (drains : Function.update desk.drains s (some drain) other = some one) :
    other = s ∧ drain = one ∨ other ≠ s ∧ desk.drains other = some one := by
  by_cases same : other = s
  · subst other
    rw [Function.update_self] at drains
    exact Or.inl ⟨rfl, Option.some.inj drains⟩
  · rw [Function.update_of_ne same] at drains
    exact Or.inr ⟨same, drains⟩

theorem RowsSound.step (sound : desk.RowsSound collate) (calls : desk.CallsSound)
    {event : DeskEvent} (performs : desk.Performs settings collate event after) :
    after.RowsSound collate := by
  have grows := performs.grows
  cases performs with
  | @sent n s delivered clock call =>
      rcases calls.sending n delivered s call with ⟨inside, receives, named⟩
      refine sound.of_grows grows (List.Sublist.refl _) _ rfl ?_ sound.drains ?_
      · intro push member
        rcases List.mem_singleton.mp member with rfl
        exact ⟨inside, calls.inside n _ call, receives, congrArg collate named, clock, Or.inl rfl⟩
      · intro other rows id drains
        rcases sound.deleting other rows id drains with ⟨below, written⟩
        refine ⟨below, fun row member same => ?_⟩
        rcases written row member same with ⟨push, pushed, receipt⟩
        exact ⟨push, List.mem_append_left _ pushed, receipt⟩
  | @stored n delivered call =>
      have new : ∀ row ∈ desk.table, row.id ≠ desk.inserted :=
        fun row member => Nat.ne_of_lt (sound.rows row member).id
      refine ⟨?_, ?_, ?_, ?_, fun push member => grows.rightful (sound.pushes push member)⟩
      · intro row member
        rcases List.mem_append.mp member with earlier | last
        · exact grows.belongs (sound.rows row earlier)
        · rcases List.mem_singleton.mp last with rfl
          exact ⟨Nat.lt_succ_self _, calls.inside n _ call, rfl, rfl⟩
      · rw [List.map_append, List.nodup_append]
        refine ⟨sound.distinct, List.nodup_singleton _, ?_⟩
        intro id member last isLast
        rcases List.mem_map.mp member with ⟨row, inTable, rfl⟩
        rcases List.mem_singleton.mp isLast with rfl
        exact new row inTable
      · intro s drain drains row member
        have loaded := sound.drains s drain drains row member
        refine ⟨loaded.inside, loaded.receives, loaded.systemID, grows.belongs loaded.belongs, ?_⟩
        intro other inTable same
        rcases List.mem_append.mp inTable with earlier | last
        · exact loaded.same other earlier same
        · rcases List.mem_singleton.mp last with rfl
          exact absurd same (Nat.ne_of_gt loaded.belongs.id)
      · intro s rows id drains
        rcases sound.deleting s rows id drains with ⟨below, written⟩
        refine ⟨Nat.lt_succ_of_lt below, ?_⟩
        intro row inTable same
        rcases List.mem_append.mp inTable with earlier | last
        · exact written row earlier same
        · rcases List.mem_singleton.mp last with rfl
          exact absurd same (Nat.ne_of_gt below)
  | @load s inside receives fresh =>
      refine sound.of_grows grows (List.Sublist.refl _) [] (by simp [drainOn]) (by simp)
        ?_ ?_
      · intro other drain drains row member
        rcases drains_update drains with ⟨rfl, rfl⟩ | ⟨-, earlier⟩
        · have inTable := List.mem_filter.mp (List.mem_of_mem_take member)
          rcases of_decide_eq_true inTable.2 with ⟨named, -⟩
          refine ⟨inside, receives, named.symm, sound.rows row inTable.1, ?_⟩
          intro another member' same
          exact List.inj_on_of_nodup_map sound.distinct member' inTable.1 same
        · exact sound.drains other drain earlier row member
      · intro other rows id drains
        rcases drains_update drains with ⟨-, same⟩ | ⟨-, earlier⟩
        · cases same
        · exact sound.deleting other rows id earlier
  | @resent s row rows clock drain =>
      have loaded := sound.drains s _ drain
      have first := loaded row List.mem_cons_self
      refine sound.of_grows grows (List.Sublist.refl _) _ rfl ?_ ?_ ?_
      · intro push member
        rcases List.mem_singleton.mp member with rfl
        refine ⟨first.inside, first.belongs.receipt, first.receives, ?_, clock, Or.inr ?_⟩
        · rw [first.systemID, first.belongs.systemID]
        · rw [first.belongs.payload]
      · intro other drain drains row member
        rcases drains_update drains with ⟨rfl, rfl⟩ | ⟨-, earlier⟩
        · exact loaded row (List.mem_cons_of_mem _ member)
        · exact sound.drains other drain earlier row member
      · intro other rows id drains
        rcases drains_update drains with ⟨-, same⟩ | ⟨-, earlier⟩
        · cases same
          refine ⟨first.belongs.id, ?_⟩
          intro another member same
          rw [first.same another member same]
          exact ⟨_, List.mem_append_right _ List.mem_cons_self, rfl⟩
        · rcases sound.deleting other rows id earlier with ⟨below, written⟩
          refine ⟨below, fun another member same => ?_⟩
          rcases written another member same with ⟨push, pushed, receipt⟩
          exact ⟨push, List.mem_append_left _ pushed, receipt⟩
  | @stops s row rows written clock drain =>
      refine sound.of_grows grows (List.Sublist.refl _) [] (by simp [drainOn]) (by simp)
        ?_ ?_
      · intro other drain drains row member
        rcases drains_update drains with ⟨rfl, rfl⟩ | ⟨-, earlier⟩
        · simp at member
        · exact sound.drains other drain earlier row member
      · intro other rows id drains
        rcases drains_update drains with ⟨-, same⟩ | ⟨-, earlier⟩
        · cases same
        · exact sound.deleting other rows id earlier
  | @delete s id rows deleted drain =>
      have table : (if deleted then desk.table.filter fun row => row.id ≠ id
          else desk.table).Sublist desk.table := by
        split
        · exact List.filter_sublist
        · exact List.Sublist.refl _
      refine sound.of_grows grows table [] (by simp [drainOn]) (by simp) ?_ ?_
      · intro other one drains row member
        rcases drains_update drains with ⟨rfl, rfl⟩ | ⟨-, earlier⟩
        · exact sound.drains other _ drain row member
        · exact sound.drains other one earlier row member
      · intro other rows id drains
        rcases drains_update drains with ⟨-, same⟩ | ⟨-, earlier⟩
        · cases same
        · exact sound.deleting other rows id earlier
  | crash =>
      refine sound.of_grows grows (List.Sublist.refl _) [] (by simp [crashed]) (by simp)
        ?_ ?_
      · intro s drain drains row member
        simp only [crashed] at drains
        split at drains
        · rcases Option.some.inj drains with rfl
          simp at member
        · cases drains
      · intro s rows id drains
        simp only [crashed] at drains
        split at drains
        · cases Option.some.inj drains
        · cases drains
  | _ => exact sound.of_same grows rfl rfl rfl

def Kept (desk : ReceiptDesk) (n : ℕ) : Prop :=
  n ∈ desk.queue ∨ (∃ call, desk.dispatches n = some call ∧ call.stage ≠ .done) ∨
    (∃ row ∈ desk.table, row.receipt = n) ∨ ∃ push ∈ desk.pushed, push.receipt = n

/-- An event gives a receipt up: its delivery expires in the broker, it has no system id, it cannot
be stored, or the gateway stops while it has the receipt of a rejection in hand. -/
def GivesUp (desk : ReceiptDesk) (event : DeskEvent) (n : ℕ) : Prop :=
  match event with
  | .expire => desk.queue.head? = some n
  | .pick m => m = n ∧ desk.systemID n = []
  | .store m inserted => m = n ∧ inserted = false
  | .crash => ∃ stage, desk.dispatches n = some ⟨false, stage⟩ ∧ stage ≠ .done
  | _ => False

namespace Kept

variable {n : ℕ}

theorem mono (kept : desk.Kept n) (queue : ∀ m ∈ desk.queue, m ∈ after.queue)
    (calls : ∀ call, desk.dispatches n = some call → call.stage ≠ .done →
      after.dispatches n = some call)
    (table : ∀ row ∈ desk.table, row ∈ after.table)
    (pushed : ∀ push ∈ desk.pushed, push ∈ after.pushed) : after.Kept n := by
  rcases kept with queued | ⟨call, calling, running⟩ | ⟨row, stored, same⟩ | ⟨push, wrote, same⟩
  · exact Or.inl (queue n queued)
  · exact Or.inr (Or.inl ⟨call, calls call calling running, running⟩)
  · exact Or.inr (Or.inr (Or.inl ⟨row, table row stored, same⟩))
  · exact Or.inr (Or.inr (Or.inr ⟨push, pushed push wrote, same⟩))

theorem update (kept : desk.Kept n) {m : ℕ} {call : Option DispatchCall}
    (queue : ∀ m ∈ desk.queue, m ∈ after.queue)
    (dispatches : after.dispatches = Function.update desk.dispatches m call)
    (table : ∀ row ∈ desk.table, row ∈ after.table)
    (pushed : ∀ push ∈ desk.pushed, push ∈ after.pushed)
    (goes : m = n → (∃ one, desk.dispatches n = some one ∧ one.stage ≠ .done) → after.Kept n) :
    after.Kept n := by
  by_cases same : m = n
  · by_cases running : ∃ one, desk.dispatches n = some one ∧ one.stage ≠ .done
    · exact goes same running
    · rcases kept with queued | calling | ⟨row, stored, of⟩ | ⟨push, wrote, of⟩
      · exact Or.inl (queue n queued)
      · exact absurd calling running
      · exact Or.inr (Or.inr (Or.inl ⟨row, table row stored, of⟩))
      · exact Or.inr (Or.inr (Or.inr ⟨push, pushed push wrote, of⟩))
  · refine kept.mono queue ?_ table pushed
    intro one calling _
    rw [dispatches, Function.update_of_ne (Ne.symm same), calling]

theorem step (kept : desk.Kept n) (inside : n < desk.receipts.length)
    (sound : desk.RowsSound collate) {event : DeskEvent}
    (performs : desk.Performs settings collate event after) :
    after.Kept n ∨ desk.GivesUp event n := by
  have self {α : Type} (entries more : List α) : ∀ entry ∈ entries, entry ∈ entries ++ more :=
    fun _ => List.mem_append_left more
  cases performs with
  | publish payload =>
      exact Or.inl (kept.mono (self _ _) (fun _ calling _ => calling) (fun _ => id) fun _ => id)
  | reject payload =>
      refine Or.inl (kept.update (fun _ => id) rfl (fun _ => id) (fun _ => id) ?_)
      intro same _
      exact absurd same (Nat.ne_of_gt inside)
  | @expire m queue first =>
      by_cases same : m = n
      · exact Or.inr (by simp [GivesUp, first, same])
      · rcases kept with queued | rest
        · rw [first, List.mem_cons] at queued
          exact Or.inl (Or.inl (queued.resolve_left (Ne.symm same)))
        · exact Or.inl (Or.inr rest)
  | @take m queue first =>
      left
      by_cases same : m = n
      · subst same
        exact Or.inr (Or.inl ⟨⟨true, .starting⟩, by simp, by simp⟩)
      · rcases kept with queued | ⟨call, calling, running⟩ | rest
        · rw [first, List.mem_cons] at queued
          exact Or.inl (queued.resolve_left (Ne.symm same))
        · exact Or.inr (Or.inl ⟨call, by simp [Function.update_of_ne (Ne.symm same), calling],
            running⟩)
        · exact Or.inr (Or.inr rest)
  | @nobody m delivered call nameless =>
      by_cases same : m = n
      · subst same
        exact Or.inr ⟨rfl, nameless⟩
      · exact Or.inl (kept.update (fun _ => id) rfl (fun _ => id) (fun _ => id)
          fun equal => absurd equal same)
  | @picked m s delivered call receiver =>
      refine Or.inl (kept.update (fun _ => id) rfl (fun _ => id) (fun _ => id) ?_)
      rintro rfl -
      exact Or.inr (Or.inl ⟨⟨delivered, .sending s⟩, by simp [proceed], by simp⟩)
  | @offline m delivered call =>
      refine Or.inl (kept.update (fun _ => id) rfl (fun _ => id) (fun _ => id) ?_)
      rintro rfl -
      exact Or.inr (Or.inl ⟨⟨delivered, .storing⟩, by simp [proceed], by simp⟩)
  | sent clock call =>
      refine Or.inl (kept.update (fun _ => id) rfl (fun _ => id) (self _ _) ?_)
      rintro rfl -
      exact Or.inr (Or.inr (Or.inr ⟨_, List.mem_append_right _ List.mem_cons_self, rfl⟩))
  | @unsent m s delivered clock call =>
      refine Or.inl (kept.update (fun _ => id) rfl (fun _ => id) (fun _ => id) ?_)
      rintro rfl -
      exact Or.inr (Or.inl ⟨⟨delivered, .storing⟩, by simp [proceed], by simp⟩)
  | stored call =>
      refine Or.inl (kept.update (fun _ => id) rfl (self _ _) (fun _ => id) ?_)
      rintro rfl -
      exact Or.inr (Or.inr (Or.inl ⟨_, List.mem_append_right _ List.mem_cons_self, rfl⟩))
  | @unstored m delivered call =>
      by_cases same : m = n
      · exact Or.inr ⟨same, rfl⟩
      · exact Or.inl (kept.update (fun _ => id) rfl (fun _ => id) (fun _ => id)
          fun equal => absurd equal same)
  | ack call =>
      refine Or.inl (kept.update (fun _ => id) rfl (fun _ => id) (fun _ => id) ?_)
      rintro rfl ⟨one, calling, running⟩
      rw [call] at calling
      rcases Option.some.inj calling with rfl
      exact absurd rfl running
  | resent clock drain =>
      exact Or.inl (kept.mono (fun _ => id) (fun _ calling _ => calling) (fun _ => id) (self _ _))
  | @delete s id rows deleted drain =>
      left
      rcases kept with queued | calling | ⟨row, stored, same⟩ | wrote
      · exact Or.inl queued
      · exact Or.inr (Or.inl calling)
      · by_cases gone : row.id = id
        · rcases (sound.deleting s rows id drain).2 row stored gone with ⟨push, pushed, receipt⟩
          exact Or.inr (Or.inr (Or.inr ⟨push, pushed, receipt.trans same⟩))
        · refine Or.inr (Or.inr (Or.inl ⟨row, ?_, same⟩))
          cases deleted <;> simp [stored, gone]
      · exact Or.inr (Or.inr (Or.inr wrote))
  | crash =>
      rcases kept with queued | ⟨⟨delivered, stage⟩, calling, running⟩ | rest
      · exact Or.inl (Or.inl (List.mem_append_right _ queued))
      · cases delivered with
        | true =>
            refine Or.inl (Or.inl (List.mem_append_left _ ?_))
            exact List.mem_filter.mpr ⟨List.mem_range.mpr inside, by simp [calling]⟩
        | false => exact Or.inr ⟨stage, calling, running⟩
      · exact Or.inl (Or.inr (Or.inr rest))
  | _ =>
      exact Or.inl (kept.mono (fun _ => id) (fun _ calling _ => calling) (fun _ => id) fun _ => id)

end Kept

theorem kept_of_new {event : DeskEvent} (performs : desk.Performs settings collate event after)
    {n : ℕ} (new : desk.receipts.length ≤ n) (inside : n < after.receipts.length) :
    after.Kept n := by
  cases performs with
  | publish payload =>
      have last : n = desk.receipts.length := by
        simp only [List.length_append, List.length_singleton] at inside
        omega
      subst last
      exact Or.inl (List.mem_append_right _ List.mem_cons_self)
  | reject payload =>
      have last : n = desk.receipts.length := by
        simp only [begins, List.length_append, List.length_singleton] at inside
        omega
      subst last
      exact Or.inr (Or.inl ⟨⟨false, .starting⟩, by simp [begins], by simp⟩)
  | _ => exact absurd inside (Nat.not_lt.mpr new)

/-! ### Runs -/

theorem callsSound_initial : initial.CallsSound :=
  ⟨Binds.registered_initial, by simp [initial], by simp [initial], by simp [initial]⟩

theorem rowsSound_initial : initial.RowsSound collate :=
  ⟨by simp [initial], by simp [initial], by simp [initial], by simp [initial], by simp [initial]⟩

theorem sound_run {transitions : List (Transition ReceiptDesk DeskEvent)} {last : ReceiptDesk}
    (run : Run (Step settings collate) initial transitions last) :
    (last.CallsSound ∧ last.RowsSound collate) ∧ ∀ transition ∈ transitions,
      (transition.before.CallsSound ∧ transition.before.RowsSound collate) ∧
        transition.after.CallsSound ∧ transition.after.RowsSound collate := by
  have preserved : ∀ before event after, Step settings collate before event after →
      before.CallsSound ∧ before.RowsSound collate →
      after.CallsSound ∧ after.RowsSound collate := by
    intro before event after step sound
    have performs := performs_of_step step
    exact ⟨sound.1.step performs, sound.2.step sound.1 performs⟩
  exact run.invariant preserved ⟨callsSound_initial, rowsSound_initial⟩

/-- In every run each `deliver_sm` for a receipt is the one that `pushDeliverSM` makes of it, and it
is written to a session that receives and whose system id the database takes for that of the
receipt. -/
theorem receipts_reach_their_client {transitions : List (Transition ReceiptDesk DeskEvent)}
    {last : ReceiptDesk} (run : Run (Step settings collate) initial transitions last) :
    ∀ push ∈ last.pushed, last.Rightful collate push :=
  (sound_run run).1.2.pushes

def lateClient : List DeskEvent :=
  [.publish [("system_id", .str [0x61])], .take, .pick 0, .store 0 true, .ack 0,
    .bind (.authenticate Binds.transceiver), .bind (.count 0), .bind (.add 0), .load 0,
    .resend 0 true [], .delete 0 true]

/-- The session of the client that binds late gets the receipt. -/
theorem receipts_reach_late_client :
    ∃ transitions last, Run (Step Binds.oneBind id) initial transitions last ∧
      last.pushed.map (·.receipt) = [0] ∧ ∀ push ∈ last.pushed, last.Rightful id push := by
  have passed : ((execute (next Binds.oneBind id) initial lateClient).any fun outcome =>
      decide (outcome.2.pushed.map (·.receipt) = [0])) = true := by
    decide
  rcases Run.exists_of_execute _ passed with ⟨transitions, last, run, checked⟩
  exact ⟨transitions, last, run, of_decide_eq_true checked, receipts_reach_their_client run⟩

/-- In every run each receipt waits or was written to a session, unless an event has given it up. -/
theorem receipts_kept {transitions : List (Transition ReceiptDesk DeskEvent)}
    {last : ReceiptDesk} (run : Run (Step settings collate) initial transitions last) :
    ∀ n < last.receipts.length, last.Kept n ∨
      ∃ transition ∈ transitions, transition.before.GivesUp transition.label n := by
  have general : ∀ first, first.CallsSound → first.RowsSound collate →
      Run (Step settings collate) first transitions last →
      (∀ n < first.receipts.length, first.Kept n → last.Kept n ∨
        ∃ transition ∈ transitions, transition.before.GivesUp transition.label n) ∧
      ∀ n < last.receipts.length, first.receipts.length ≤ n → last.Kept n ∨
        ∃ transition ∈ transitions, transition.before.GivesUp transition.label n := by
    intro first calls rows run
    clear * - calls rows run
    induction run with
    | nil state =>
        exact ⟨fun n _ kept => Or.inl kept,
          fun n inside beyond => absurd inside (Nat.not_lt.mpr beyond)⟩
    | @cons first middle last event rest head tail ih =>
        have performs := performs_of_step head
        have grows := performs.grows.length
        rcases ih (calls.step performs) (rows.step calls performs) with ⟨keeps, news⟩
        have later : ∀ n < middle.receipts.length, middle.Kept n → last.Kept n ∨
            ∃ transition ∈ ⟨first, event, middle⟩ :: rest,
              transition.before.GivesUp transition.label n := by
          intro n inside kept
          exact (keeps n inside kept).imp_right fun ⟨transition, member, gives⟩ =>
            ⟨transition, List.mem_cons_of_mem _ member, gives⟩
        constructor
        · intro n inside kept
          rcases kept.step inside rows performs with still | gives
          · exact later n (Nat.lt_of_lt_of_le inside grows) still
          · exact Or.inr ⟨_, List.mem_cons_self, gives⟩
        · intro n inside beyond
          by_cases early : n < middle.receipts.length
          · exact later n early (kept_of_new performs beyond early)
          · exact (news n inside (Nat.not_lt.mp early)).imp_right
              fun ⟨transition, member, gives⟩ =>
                ⟨transition, List.mem_cons_of_mem _ member, gives⟩
  intro n inside
  exact (general initial callsSound_initial rowsSound_initial run).2 n inside (Nat.zero_le _)

/-- Where the gateway stops with a receipt of the queue in hand, the receipt is kept. -/
theorem receipts_kept_stopping :
    ∃ transitions last, Run (Step Binds.oneBind id) initial transitions last ∧
      last.queue = [0] ∧ ∀ n < last.receipts.length, last.Kept n ∨
        ∃ transition ∈ transitions, transition.before.GivesUp transition.label n := by
  have passed : ((execute (next Binds.oneBind id) initial
      [.publish [("system_id", .str [0x61])], .take, .pick 0, .crash]).any fun outcome =>
      decide (outcome.2.queue = [0])) = true := by
    decide
  rcases Run.exists_of_execute _ passed with ⟨transitions, last, run, checked⟩
  exact ⟨transitions, last, run, of_decide_eq_true checked, receipts_kept run⟩

end ReceiptDesk

end Klsmsc
