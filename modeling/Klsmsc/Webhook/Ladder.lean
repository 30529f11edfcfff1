import Klsmsc.Gateway.Delivery
import Klsmsc.Library.Runs
import Klsmsc.Text

/-!
# The retries of a callback

A callback that fails is published again, to a queue without consumers, where it waits until its
time to live is over and the broker hands it back to `webhook_tasks`. Its retry number is nowhere
but in the arguments of the message: a failure takes the callback to the next of five queues, and
from behind the last one to the dead letters, while a callback that is throttled waits for a moment
without a change. A callback is always in one place. The dead letters are kept for seven days; then
the broker drops them.

Time is in milliseconds. Publishing and dead-lettering do not fail, and the account and the row are
there; a message that the broker has handed back to `webhook_tasks` is being processed.
-/

namespace Klsmsc

open Library

/-- The arguments of `send_webhook_task`. -/
structure WebhookArgs where
  accountId : ℕ
  messageId : MessageId
  status : String
  data : Json
  retryNo : ℕ

/-- The entries of a result that `send_webhook_task` looks at. -/
structure WebhookResult where
  success : Bool
  skipped : Bool
  throttle : Bool
  retriable : Bool
  deriving DecidableEq, Repr

/-- How `_send_webhook_async` ends: with HTTP 200, without a push, throttled, or with a failure that
can be retried. -/
inductive WebhookDelivery
  | success
  | skipped
  | throttled
  | failed
  deriving DecidableEq, Repr

/-- The result of `_send_webhook_async`. -/
def WebhookDelivery.result : WebhookDelivery → WebhookResult
  | success => ⟨true, false, false, false⟩
  | skipped => ⟨true, true, false, false⟩
  | throttled => ⟨false, false, true, false⟩
  | failed => ⟨false, false, false, true⟩

/-- `_NON_TERMINAL_WEBHOOK_STATUSES`. -/
def nonTerminalWebhookStatuses : List String :=
  ["sent", "submitted", "accepted", "queued", "enroute", "en_route", "processing", "pending",
    "buffered", "scheduled", "in_progress"]

/-- `_webhook_status_worth_sending`, for the value of `_WEBHOOK_TERMINAL_ONLY`. -/
def webhookStatusWorthSending (unicode : Unicode) (terminalOnly : Bool) (status : String) : Bool :=
  !terminalOnly || unicode.lower (strip unicode status) ∉ nonTerminalWebhookStatuses

/-- `_RETRY_QUEUES`. -/
def retryQueues : List String :=
  ["webhook.retry.1m", "webhook.retry.5m", "webhook.retry.30m", "webhook.retry.2h",
    "webhook.retry.6h"]

/-- `_DLQ_QUEUE`. -/
def dlqQueue : String := "webhook.dlq"

/-- `_THROTTLE_QUEUE`. -/
def throttleQueue : String := "webhook.throttle"

def webhookTasks : String := "webhook_tasks"

/-- `queue_arguments`: the time to live of a message, and the queue that it goes to afterwards. -/
structure QueueArguments where
  messageTtl : ℕ
  deadLetter : Option String
  deriving DecidableEq, Repr

/-- `_webhook_dlx_queues`. -/
def webhookDlxQueues : List (String × QueueArguments) :=
  [("webhook.retry.1m", ⟨60000, some webhookTasks⟩),
    ("webhook.retry.5m", ⟨300000, some webhookTasks⟩),
    ("webhook.retry.30m", ⟨1800000, some webhookTasks⟩),
    ("webhook.retry.2h", ⟨7200000, some webhookTasks⟩),
    ("webhook.retry.6h", ⟨21600000, some webhookTasks⟩),
    ("webhook.throttle", ⟨10000, some webhookTasks⟩),
    ("webhook.dlq", ⟨604800000, none⟩)]

/-- What `send_webhook_task` publishes, if it does, and where. -/
def sendWebhookTask (unicode : Unicode) (terminalOnly : Bool) (args : WebhookArgs)
    (result : WebhookResult) : WebhookResult × Option (String × WebhookArgs) :=
  if ¬ webhookStatusWorthSending unicode terminalOnly args.status then
    (⟨true, true, false, false⟩, none)
  else if result.throttle then (result, some (throttleQueue, args))
  else if result.success ∨ result.skipped ∨ ¬ result.retriable then (result, none)
  else
    match retryQueues[args.retryNo]? with
    | some queue => (result, some (queue, { args with retryNo := args.retryNo + 1 }))
    | none => (result, some (dlqQueue, { args with retryNo := 0 }))

structure QueuedWebhook where
  queue : String
  args : WebhookArgs
  publishedAt : ℕ

/-- The messages in the queues, the callbacks that a worker is at, the results of those that were
not published again, those that the broker has dropped, and the number of failures so far. -/
structure WebhookSystem where
  now : ℕ
  queued : List QueuedWebhook
  running : List WebhookArgs
  finished : List WebhookResult
  dropped : List WebhookArgs
  failures : ℕ

/-- What happens: time goes on, a worker takes a message, a delivery ends, or the time of a message
in a queue is over. -/
inductive WebhookEvent
  | tick (milliseconds : ℕ)
  | take (message : ℕ)
  | answer (task : ℕ) (delivery : WebhookDelivery)
  | expire (message : ℕ)

inductive WebhookPlace
  | processed
  | waiting
  | finished
  | dlq
  | dropped
  deriving DecidableEq, Repr

namespace WebhookSystem

def published (args : WebhookArgs) (now : ℕ) : WebhookSystem :=
  ⟨now, [⟨webhookTasks, args, now⟩], [], [], [], 0⟩

section

variable (unicode : Unicode) (terminalOnly : Bool) (state : WebhookSystem)

def next : WebhookEvent → Option WebhookSystem
  | .tick milliseconds => some { state with now := state.now + milliseconds }
  | .take index =>
      state.queued[index]?.bind fun message =>
        if message.queue = webhookTasks then
          some
            { state with
              queued := state.queued.eraseIdx index
              running := message.args :: state.running }
        else none
  | .answer index delivery =>
      state.running[index]?.map fun args =>
        let outcome := sendWebhookTask unicode terminalOnly args delivery.result
        let state :=
          { state with
            running := state.running.eraseIdx index
            failures :=
              if delivery = WebhookDelivery.failed then state.failures + 1 else state.failures }
        match outcome.2 with
        | some (queue, args) => { state with queued := ⟨queue, args, state.now⟩ :: state.queued }
        | none => { state with finished := outcome.1 :: state.finished }
  | .expire index =>
      state.queued[index]?.bind fun message =>
        (webhookDlxQueues.lookup message.queue).bind fun arguments =>
          if message.publishedAt + arguments.messageTtl ≤ state.now then
            let state := { state with queued := state.queued.eraseIdx index }
            match arguments.deadLetter with
            | some queue =>
                some { state with queued := ⟨queue, message.args, state.now⟩ :: state.queued }
            | none => some { state with dropped := message.args :: state.dropped }
          else none

def Step (before : WebhookSystem) (event : WebhookEvent) (after : WebhookSystem) : Prop :=
  before.next unicode terminalOnly event = some after

def placeOf (queue : String) : WebhookPlace :=
  if queue = webhookTasks then .processed else if queue = dlqQueue then .dlq else .waiting

def places : List WebhookPlace :=
  state.queued.map (fun message => placeOf message.queue) ++
    state.running.map (fun _ => .processed) ++ state.finished.map (fun _ => .finished) ++
      state.dropped.map (fun _ => .dropped)

end

def liveQueues : List String :=
  webhookTasks :: throttleQueue :: retryQueues

/-- The callback is in one place. It has its number of failures for its retry number, it is with the
dead letters or dropped after six of them, and it is finished when it was pushed or skipped. -/
structure Kept (state : WebhookSystem) : Prop where
  once : ∃ place, state.places = [place]
  known : ∀ message ∈ state.queued, message.queue = dlqQueue ∨ message.queue ∈ liveQueues
  retries : ∀ args ∈ state.running, args.retryNo = state.failures
  waiting : ∀ message ∈ state.queued, placeOf message.queue ≠ .dlq →
    message.args.retryNo = state.failures
  dead : WebhookPlace.dlq ∈ state.places ∨ WebhookPlace.dropped ∈ state.places → state.failures = 6
  finished : ∀ result ∈ state.finished, result.success = true ∨ result.skipped = true

/-! ### One place -/

structure Live (status : String) (failures : ℕ) (args : WebhookArgs) : Prop where
  status_eq : args.status = status
  retryNo_eq : args.retryNo = failures
  few : failures ≤ 5

inductive Placed (status : String) : WebhookSystem → Prop where
  | running {now failures : ℕ} {args : WebhookArgs} (live : Live status failures args) :
      Placed status ⟨now, [], [args], [], [], failures⟩
  | queued {now failures : ℕ} {message : QueuedWebhook} (live : Live status failures message.args)
      (queue : message.queue ∈ liveQueues) :
      Placed status ⟨now, [message], [], [], [], failures⟩
  | dead {now : ℕ} {message : QueuedWebhook} (queue : message.queue = dlqQueue) :
      Placed status ⟨now, [message], [], [], [], 6⟩
  | finished {now failures : ℕ} {result : WebhookResult}
      (done : result.success = true ∨ result.skipped = true) :
      Placed status ⟨now, [], [], [result], [], failures⟩
  | dropped {now : ℕ} {args : WebhookArgs} : Placed status ⟨now, [], [], [], [args], 6⟩

theorem deadLetter_of_mem_liveQueues {queue : String} (live : queue ∈ liveQueues)
    {arguments : QueueArguments} (found : webhookDlxQueues.lookup queue = some arguments) :
    arguments.deadLetter = some webhookTasks := by
  have handsBack : ∀ queue ∈ liveQueues,
      (webhookDlxQueues.lookup queue).all (·.deadLetter = some webhookTasks) = true := by
    decide
  have checked := handsBack queue live
  rw [found] at checked
  exact of_decide_eq_true checked

theorem lookup_dlqQueue : webhookDlxQueues.lookup dlqQueue = some ⟨604800000, none⟩ := by
  decide

theorem placeOf_of_mem_liveQueues {queue : String} (live : queue ∈ liveQueues) :
    placeOf queue ≠ .dlq := by
  have none_dead : ∀ queue ∈ liveQueues, placeOf queue ≠ .dlq := by
    decide
  exact none_dead queue live

theorem sendWebhookTask_failed {unicode : Unicode} {terminalOnly : Bool} {args : WebhookArgs}
    (terminal : webhookStatusWorthSending unicode terminalOnly args.status = true)
    (few : args.retryNo ≤ 5) :
    (∃ queue ∈ retryQueues, args.retryNo ≤ 4 ∧
      (sendWebhookTask unicode terminalOnly args WebhookDelivery.failed.result).2 =
        some (queue, { args with retryNo := args.retryNo + 1 })) ∨
    args.retryNo = 5 ∧
      (sendWebhookTask unicode terminalOnly args WebhookDelivery.failed.result).2 =
        some (dlqQueue, { args with retryNo := 0 }) := by
  have length : retryQueues.length = 5 := rfl
  unfold sendWebhookTask
  rw [if_neg (not_not_intro terminal)]
  rcases Nat.lt_or_ge args.retryNo 5 with more | last
  · have inside : args.retryNo < retryQueues.length := more
    refine Or.inl ⟨retryQueues[args.retryNo], List.getElem_mem inside, by omega, ?_⟩
    rw [List.getElem?_eq_getElem inside]
    rfl
  · refine Or.inr ⟨by omega, ?_⟩
    rw [List.getElem?_eq_none last]
    rfl

variable {status : String} {state after : WebhookSystem} {unicode : Unicode} {terminalOnly : Bool}
  {event : WebhookEvent}

namespace Placed

theorem kept (placed : Placed status state) : state.Kept := by
  cases placed with
  | running live =>
      refine ⟨⟨_, rfl⟩, nofun, ?_, nofun, ?_, nofun⟩
      · intro args member
        rw [List.mem_singleton.mp member]
        exact live.retryNo_eq
      · rintro (dead | dead) <;> simp [places] at dead
  | queued live queue =>
      have alive := placeOf_of_mem_liveQueues queue
      refine ⟨⟨_, rfl⟩, ?_, nofun, ?_, ?_, nofun⟩
      · intro other member
        rw [List.mem_singleton.mp member]
        exact Or.inr queue
      · intro other member _
        rw [List.mem_singleton.mp member]
        exact live.retryNo_eq
      · rintro (dead | dead)
        · exact absurd (List.mem_singleton.mp dead).symm alive
        · have dropped : .dropped = placeOf _ := List.mem_singleton.mp dead
          unfold placeOf at dropped
          split at dropped
          · cases dropped
          · split at dropped <;> cases dropped
  | dead queue =>
      refine ⟨⟨_, rfl⟩, ?_, nofun, ?_, fun _ => rfl, nofun⟩
      · intro other member
        rw [List.mem_singleton.mp member]
        exact Or.inl queue
      · intro other member alive
        rw [List.mem_singleton.mp member, queue] at alive
        exact absurd rfl alive
  | finished done =>
      refine ⟨⟨_, rfl⟩, nofun, nofun, nofun, ?_, ?_⟩
      · rintro (dead | dead) <;> simp [places] at dead
      · intro result member
        rw [List.mem_singleton.mp member]
        exact done
  | dropped => exact ⟨⟨_, rfl⟩, nofun, nofun, nofun, fun _ => rfl, nofun⟩

theorem take (placed : Placed status state) {index : ℕ}
    (step : state.Step unicode terminalOnly (.take index) after) : Placed status after := by
  rcases Option.bind_eq_some_iff.mp step with ⟨message, found, step⟩
  split at step
  · rename_i queue
    cases step
    cases placed with
    | queued live _ =>
        cases index with
        | zero =>
            cases found
            exact .running live
        | succ index => cases found
    | dead dead =>
        cases index with
        | zero =>
            cases found
            rw [dead] at queue
            exact absurd queue (by decide)
        | succ index => cases found
    | running _ | finished _ | dropped => cases found
  · cases step

theorem answer (placed : Placed status state)
    (terminal : webhookStatusWorthSending unicode terminalOnly status = true) {index : ℕ}
    {delivery : WebhookDelivery}
    (step : state.Step unicode terminalOnly (.answer index delivery) after) :
    Placed status after := by
  rcases Option.map_eq_some_iff.mp step with ⟨args, found, step⟩
  subst step
  cases placed with
  | @running now failures args live =>
      cases index with
      | succ index => cases found
      | zero =>
          cases found
          rw [← live.status_eq] at terminal
          cases delivery with
          | success =>
              simp only [sendWebhookTask, if_neg (not_not_intro terminal)]
              exact .finished (Or.inl rfl)
          | skipped =>
              simp only [sendWebhookTask, if_neg (not_not_intro terminal)]
              exact .finished (Or.inl rfl)
          | throttled =>
              simp only [sendWebhookTask, if_neg (not_not_intro terminal)]
              exact .queued live (List.mem_cons_of_mem _ List.mem_cons_self)
          | failed =>
              have few : args.retryNo ≤ 5 := live.retryNo_eq ▸ live.few
              rcases sendWebhookTask_failed terminal few with
                ⟨queue, retry, more, next⟩ | ⟨last, next⟩
              · have count := live.retryNo_eq
                have fits : failures + 1 ≤ 5 := by omega
                simp only [next, if_true]
                refine .queued ⟨live.status_eq, congrArg (· + 1) count, fits⟩ ?_
                exact List.mem_cons_of_mem _ (List.mem_cons_of_mem _ retry)
              · have five : failures = 5 := live.retryNo_eq.symm.trans last
                simp only [next, if_true, five]
                exact .dead rfl
  | queued _ _ | dead _ | finished _ | dropped => cases found

theorem expire (placed : Placed status state) {index : ℕ}
    (step : state.Step unicode terminalOnly (.expire index) after) : Placed status after := by
  rcases Option.bind_eq_some_iff.mp step with ⟨message, found, step⟩
  rcases Option.bind_eq_some_iff.mp step with ⟨arguments, declared, step⟩
  split at step
  · cases placed with
    | queued live queue =>
        cases index with
        | zero =>
            cases found
            rw [deadLetter_of_mem_liveQueues queue declared] at step
            cases step
            exact .queued live List.mem_cons_self
        | succ index => cases found
    | dead queue =>
        cases index with
        | zero =>
            cases found
            rw [queue, lookup_dlqQueue] at declared
            cases declared
            cases step
            exact .dropped
        | succ index => cases found
    | running _ | finished _ | dropped => cases found
  · cases step

theorem step (placed : Placed status state)
    (terminal : webhookStatusWorthSending unicode terminalOnly status = true)
    (step : state.Step unicode terminalOnly event after) : Placed status after := by
  cases event with
  | tick milliseconds =>
      cases step
      cases placed with
      | running live => exact .running live
      | queued live queue => exact .queued live queue
      | dead queue => exact .dead queue
      | finished done => exact .finished done
      | dropped => exact .dropped
  | take index => exact placed.take step
  | answer index delivery => exact placed.answer terminal step
  | expire index => exact placed.expire step

end Placed

theorem throttled (placed : Placed status state)
    (terminal : webhookStatusWorthSending unicode terminalOnly status = true) {index : ℕ}
    (step : state.Step unicode terminalOnly (.answer index .throttled) after) :
    ∃ args, state.running = [args] ∧ after.queued = [⟨throttleQueue, args, state.now⟩] ∧
      after.failures = state.failures := by
  rcases Option.map_eq_some_iff.mp step with ⟨args, found, step⟩
  subst step
  cases placed with
  | running live =>
      cases index with
      | succ index => cases found
      | zero =>
          cases found
          rw [← live.status_eq] at terminal
          refine ⟨args, rfl, ?_⟩
          simp only [sendWebhookTask, if_neg (not_not_intro terminal)]
          exact ⟨rfl, rfl⟩
  | queued _ _ | dead _ | finished _ | dropped => cases found

/-- In every run a callback is in one place: it is processed, waits, is finished, or is with the
dead letters until these drop it. A throttled callback waits without a change. -/
theorem callback_kept (unicode : Unicode) (terminalOnly : Bool) {args : WebhookArgs} (now : ℕ)
    (terminal : webhookStatusWorthSending unicode terminalOnly args.status = true)
    (unsent : args.retryNo = 0) {transitions : List (Transition WebhookSystem WebhookEvent)}
    {last : WebhookSystem}
    (run : Run (Step unicode terminalOnly) (published args now) transitions last) :
    last.Kept ∧ ∀ transition ∈ transitions,
      transition.before.Kept ∧ transition.after.Kept ∧
        ∀ index, transition.label = .answer index .throttled →
          ∃ args, transition.before.running = [args] ∧
            transition.after.queued = [⟨throttleQueue, args, transition.before.now⟩] ∧
              transition.after.failures = transition.before.failures := by
  have initially : Placed args.status (published args now) :=
    .queued ⟨rfl, unsent, Nat.zero_le 5⟩ List.mem_cons_self
  have preserved : ∀ before label after, Step unicode terminalOnly before label after →
      Placed args.status before → Placed args.status after :=
    fun _ _ _ step placed => placed.step terminal step
  have placed := run.invariant preserved initially
  refine ⟨placed.1.kept, fun transition member => ?_⟩
  have inside := placed.2 transition member
  refine ⟨inside.1.kept, inside.2.kept, fun index label => ?_⟩
  have step := run.step_of_mem member
  rw [label] at step
  exact throttled inside.1 terminal step

def delivered : WebhookArgs :=
  ⟨1, 7, "delivered", .null, 0⟩

/-- A callback that is throttled, fails once and is pushed. -/
theorem callback_kept_pushed :
    ∃ transitions last,
      Run (Step Unicode.ascii true) (published delivered 0) transitions last ∧
        last.places = [.finished] ∧ last.failures = 1 ∧ last.Kept := by
  have terminal : webhookStatusWorthSending Unicode.ascii true delivered.status = true := by
    decide
  have passed : ((execute (next Unicode.ascii true) (published delivered 0)
      [.take 0, .answer 0 .throttled, .tick 10000, .expire 0, .take 0, .answer 0 .failed,
        .tick 60000, .expire 0, .take 0, .answer 0 .success]).any fun outcome =>
      decide (outcome.2.places = [.finished] ∧ outcome.2.failures = 1)) = true := by
    decide
  rcases Run.exists_of_execute _ passed with ⟨transitions, last, run, checked⟩
  rcases of_decide_eq_true checked with ⟨pushed, failures⟩
  exact ⟨transitions, last, run, pushed, failures,
    (callback_kept Unicode.ascii true 0 terminal rfl run).1⟩

/-- After six failures and seven days with the dead letters a callback is in no queue, with no
worker and not finished. -/
theorem dead_letter_dropped :
    webhookStatusWorthSending Unicode.ascii true delivered.status = true ∧
      ∃ transitions last,
        Run (Step Unicode.ascii true) (published delivered 0) transitions last ∧
          last.failures = 6 ∧ last.places = [.dropped] := by
  refine ⟨by decide, ?_⟩
  have passed : ((execute (next Unicode.ascii true) (published delivered 0)
      (([60000, 300000, 1800000, 7200000, 21600000, 604800000] : List ℕ).flatMap fun ttl =>
        [.take 0, .answer 0 .failed, .tick ttl, .expire 0])).any fun outcome =>
      decide (outcome.2.failures = 6 ∧ outcome.2.places = [.dropped])) = true := by
    decide
  rcases Run.exists_of_execute _ passed with ⟨transitions, last, run, checked⟩
  exact ⟨transitions, last, run, of_decide_eq_true checked⟩

end WebhookSystem

end Klsmsc
