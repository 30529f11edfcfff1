import Klsmsc.BaseCost
import Klsmsc.Library.Runs
import Klsmsc.Sms.Segment
import Mathlib.Tactic.Ring

/-!
# Charges and refunds of a prepaid account

The calls of `PricingEngine.calculate_and_charge` and of `_do_refund` for one account. What a call
reads of prices, of the channel and of the account it reads in statements of its own, before the
UPDATE that compares the balance with the total and subtracts it.

The statements of concurrent calls interleave, each of them is atomic and can fail, and in between
the tables of prices, the channels and the caches can change in any way. The queries of
`resolve_base_cost_per_sms` are one step.
-/

namespace Klsmsc

open Library

structure PricedChannel where
  channel : Channel
  costRate : Option Money
  deriving DecidableEq, Repr

structure PricingData where
  tables : PriceTables
  channels : ℕ → Option PricedChannel
  cachedPrice : String → Option PriceInfo
  cachedRcs : ℕ → Option Bool
  cachedCost : ℕ → String → Option Money

/-- The arguments of `calculate_and_charge`, without the account. -/
structure ChargeArgs where
  channelId : ℕ
  countryCode : String
  message : Sms.Text
  mnc : Option String
  channel : Option PricedChannel
  skipBalanceLog : Bool
  deriving DecidableEq, Repr

/-- `is_rcs_channel`. -/
def PricingData.isRcsChannel (pricing : PricingData) (args : ChargeArgs) : Bool :=
  match args.channel with
  | some given => given.channel.isRcs
  | none =>
      (pricing.cachedRcs args.channelId).getD
        ((pricing.channels args.channelId).any fun found => found.channel.isRcs)

/-- `billable_units`. -/
def chargedUnits (unicode : Unicode) (message : Sms.Text) (isRcs : Bool) : ℕ :=
  if isRcs then 1 else Sms.countSmsParts unicode message

structure ChargedAccount where
  paymentType : PaymentType
  balance : Money
  deriving DecidableEq, Repr

structure ChargeQuote where
  isRcs : Bool
  info : PriceInfo
  baseCost : Money
  deriving DecidableEq, Repr

/-- The exceptions that `calculate_and_charge` raises itself. -/
inductive ChargeError where
  | insufficientBalance (required available : Money)
  | pricingNotFound (error : PricingNotFound)
  deriving DecidableEq, Repr

/-- Where a call of `calculate_and_charge` stands. -/
inductive ChargeStage where
  | called
  | counted (isRcs : Bool)
  /-- The cache has no price, and these queries of `get_price` are to come. -/
  | pricing (isRcs : Bool) (remaining : List PriceLookup)
  | priced (isRcs : Bool) (info : PriceInfo)
  | quoted (quote : ChargeQuote)
  /-- The payment type and the balance have been read. -/
  | typed (quote : ChargeQuote) (isPostpaid : Bool) (available : Money)
  | deducted (quote : ChargeQuote)
  | returned (quote : ChargeQuote) (balanceAfter : Option Money)
  | accountNotFound
  | raised (error : ChargeError)
  /-- Another exception, after the UPDATE or before it. -/
  | crashed (deducted : Option ChargeQuote)
  deriving DecidableEq, Repr

/-- A call of `calculate_and_charge`. -/
structure ChargeCall where
  args : ChargeArgs
  stage : ChargeStage
  deriving DecidableEq, Repr

/-- Where a call of `_do_refund` stands. -/
inductive CreditStage where
  | called
  /-- The row is marked as refunded. -/
  | claimed
  | ended (success : Bool)
  deriving DecidableEq, Repr

/-- A call of `_do_refund` for a row of the account. -/
structure CreditCall where
  rowId : ℕ
  amount : Money
  stage : CreditStage
  deriving DecidableEq, Repr

structure ChargeSystem where
  account : Option ChargedAccount
  pricing : PricingData
  refunded : ℕ → Bool
  charges : ℕ → Option ChargeCall
  credits : ℕ → Option CreditCall

/-- What happens next: a call begins, executes its next statement or fails in it, or other
requests change what is priced from. -/
inductive ChargeLabel where
  | begin (id : ℕ) (args : ChargeArgs)
  | charge (id : ℕ)
  | crash (id : ℕ)
  | beginRefund (id rowId : ℕ) (amount : Money)
  | refund (id : ℕ)
  | crashRefund (id : ℕ)
  | change (pricing : PricingData)

section

-- What Python promises of strings, the order in which the variants of a code are listed, and the
-- codes that the database takes for equal.
variable (unicode : Unicode) (order : List String → List String)
  (sameCode : String → String → Bool) (accountId : ℕ)

def ChargeQuote.total (quote : ChargeQuote) (message : Sms.Text) : Money :=
  quote.info.price * chargedUnits unicode message quote.isRcs

/-- The next statement of `calculate_and_charge`: where it leaves the call, and the account. -/
def ChargeCall.statement (call : ChargeCall) (pricing : PricingData)
    (account : Option ChargedAccount) : Option (ChargeStage × Option ChargedAccount) :=
  let query : PriceQuery :=
    ⟨call.args.channelId, call.args.countryCode, call.args.mnc, some accountId⟩
  let notFound : ChargeStage :=
    .raised (.pricingNotFound ⟨call.args.countryCode, call.args.channelId⟩)
  match call.stage with
  | .called => some (.counted (pricing.isRcsChannel call.args), account)
  | .counted isRcs =>
      match pricing.cachedPrice query.cacheKey with
      | some info => some (.priced isRcs info, account)
      | none => some (.pricing isRcs PriceLookup.all, account)
  | .pricing _ [] => some (notFound, account)
  | .pricing isRcs (lookup :: remaining) =>
      match pricing.tables.answer sameCode query lookup with
      | .error _ => some (.crashed none, account)
      | .ok (some info) => some (.priced isRcs info, account)
      | .ok none => some (.pricing isRcs remaining, account)
  | .priced isRcs info =>
      let channel := (call.args.channel.or (pricing.channels call.args.channelId)).map
        fun found => (⟨found.costRate, found.channel.protocol⟩ : CostChannel)
      match pricing.tables.resolveBaseCostPerSms unicode order sameCode call.args.channelId
          (pricing.cachedCost call.args.channelId call.args.countryCode) channel
          call.args.countryCode with
      | .ok baseCost => some (.quoted ⟨isRcs, info, baseCost⟩, account)
      | .error error => some (.raised (.pricingNotFound error), account)
  | .quoted quote =>
      match account with
      | none => some (.accountNotFound, account)
      | some row => some (.typed quote (row.paymentType = .postpaid) row.balance, account)
  | .typed quote isPostpaid available =>
      let total := quote.total unicode call.args.message
      match account.filter fun row => isPostpaid || total ≤ row.balance with
      | none => some (.raised (.insufficientBalance total available), account)
      | some row => some (.deducted quote, some { row with balance := row.balance - total })
  | .deducted quote =>
      if call.args.skipBalanceLog then some (.returned quote none, account)
      else
        match account with
        | none => some (.crashed (some quote), account)
        | some row => some (.returned quote (some row.balance), account)
  | .returned _ _ => none
  | .accountNotFound => none
  | .raised _ => none
  | .crashed _ => none

def ChargeStage.fail : ChargeStage → Option ChargeStage
  | .deducted quote => some (.crashed (some quote))
  | .returned _ _ => none
  | .accountNotFound => none
  | .raised _ => none
  | .crashed _ => none
  | _ => some (.crashed none)

namespace ChargeSystem

variable (system : ChargeSystem)

def setCharge (id : ℕ) (call : ChargeCall) : ChargeSystem :=
  { system with charges := Function.update system.charges id (some call) }

def setCredit (id : ℕ) (call : CreditCall) : ChargeSystem :=
  { system with credits := Function.update system.credits id (some call) }

/-- The next statement of `_do_refund`. -/
def refund (id : ℕ) (call : CreditCall) : Option ChargeSystem :=
  match call.stage with
  | .called =>
      if call.amount ≤ 0 then some (system.setCredit id { call with stage := .ended false })
      else if system.refunded call.rowId then
        some (system.setCredit id { call with stage := .ended false })
      else
        let refunded := Function.update system.refunded call.rowId true
        some (setCredit { system with refunded := refunded } id { call with stage := .claimed })
  | .claimed =>
      let account := system.account.map fun row => { row with balance := row.balance + call.amount }
      some (setCredit { system with account := account } id { call with stage := .ended true })
  | .ended _ => none

def next : ChargeLabel → Option ChargeSystem
  | .begin id args =>
      if (system.charges id).isSome then none else some (system.setCharge id ⟨args, .called⟩)
  | .charge id =>
      (system.charges id).bind fun call =>
        (call.statement unicode order sameCode accountId system.pricing system.account).map
          fun outcome =>
            ChargeSystem.setCharge { system with account := outcome.2 } id
              { call with stage := outcome.1 }
  | .crash id =>
      (system.charges id).bind fun call =>
        call.stage.fail.map fun stage => system.setCharge id { call with stage := stage }
  | .beginRefund id rowId amount =>
      if (system.credits id).isSome then none
      else some (system.setCredit id ⟨rowId, amount, .called⟩)
  | .refund id => (system.credits id).bind (system.refund id)
  | .crashRefund id =>
      (system.credits id).bind fun call =>
        if call.stage ∈ [.called, .claimed] then
          some (system.setCredit id { call with stage := .ended false })
        else none
  | .change pricing => some { system with pricing := pricing }

end ChargeSystem

end

/-! ### What a call pays -/

section

variable {unicode : Unicode} {order : List String → List String}
  {sameCode : String → String → Bool} {accountId : ℕ}

def ChargeStage.paid (unicode : Unicode) (message : Sms.Text) : ChargeStage → Money
  | .deducted quote => quote.total unicode message
  | .returned quote _ => quote.total unicode message
  | .crashed (some quote) => quote.total unicode message
  | _ => 0

def balanceOf (account : Option ChargedAccount) : Money :=
  (account.map ChargedAccount.balance).getD 0

theorem statement_cases {call : ChargeCall} {pricing : PricingData}
    {account : Option ChargedAccount} {outcome : ChargeStage × Option ChargedAccount}
    (executed : call.statement unicode order sameCode accountId pricing account = some outcome) :
    (∃ quote isPostpaid available row,
        call.stage = .typed quote isPostpaid available ∧ account = some row ∧
          (isPostpaid = true ∨ quote.total unicode call.args.message ≤ row.balance) ∧
          outcome = (.deducted quote,
            some { row with balance := row.balance - quote.total unicode call.args.message })) ∨
      (outcome.2 = account ∧
        outcome.1.paid unicode call.args.message = call.stage.paid unicode call.args.message ∧
        ∀ quote isPostpaid available, outcome.1 = .typed quote isPostpaid available →
          ∃ row, account = some row ∧ isPostpaid = decide (row.paymentType = .postpaid)) := by
  rcases call with ⟨args, stage⟩
  cases stage with
  | called =>
      cases executed
      exact .inr ⟨rfl, rfl, fun _ _ _ typed => ChargeStage.noConfusion typed⟩
  | counted isRcs =>
      simp only [ChargeCall.statement] at executed
      split at executed
      · cases executed
        exact .inr ⟨rfl, rfl, fun _ _ _ typed => ChargeStage.noConfusion typed⟩
      · cases executed
        exact .inr ⟨rfl, rfl, fun _ _ _ typed => ChargeStage.noConfusion typed⟩
  | pricing isRcs remaining =>
      cases remaining with
      | nil =>
          cases executed
          exact .inr ⟨rfl, rfl, fun _ _ _ typed => ChargeStage.noConfusion typed⟩
      | cons lookup remaining =>
          simp only [ChargeCall.statement] at executed
          split at executed
          · cases executed
            exact .inr ⟨rfl, rfl, fun _ _ _ typed => ChargeStage.noConfusion typed⟩
          · cases executed
            exact .inr ⟨rfl, rfl, fun _ _ _ typed => ChargeStage.noConfusion typed⟩
          · cases executed
            exact .inr ⟨rfl, rfl, fun _ _ _ typed => ChargeStage.noConfusion typed⟩
  | priced isRcs info =>
      simp only [ChargeCall.statement] at executed
      split at executed
      · cases executed
        exact .inr ⟨rfl, rfl, fun _ _ _ typed => ChargeStage.noConfusion typed⟩
      · cases executed
        exact .inr ⟨rfl, rfl, fun _ _ _ typed => ChargeStage.noConfusion typed⟩
  | quoted quote =>
      simp only [ChargeCall.statement] at executed
      split at executed
      · cases executed
        exact .inr ⟨rfl, rfl, fun _ _ _ typed => ChargeStage.noConfusion typed⟩
      · rename_i row
        cases executed
        refine .inr ⟨rfl, rfl, ?_⟩
        rintro quote' isPostpaid available same
        cases same
        exact ⟨row, rfl, rfl⟩
  | typed quote isPostpaid available =>
      simp only [ChargeCall.statement] at executed
      split at executed
      · cases executed
        exact .inr ⟨rfl, rfl, fun _ _ _ typed => ChargeStage.noConfusion typed⟩
      · rename_i row found
        cases executed
        rw [Option.filter_eq_some_iff, Bool.or_eq_true, decide_eq_true_eq] at found
        exact .inl ⟨quote, isPostpaid, available, row, rfl, found.1, found.2, rfl⟩
  | deducted quote =>
      simp only [ChargeCall.statement] at executed
      split at executed
      · cases executed
        exact .inr ⟨rfl, rfl, fun _ _ _ typed => ChargeStage.noConfusion typed⟩
      · split at executed
        · cases executed
          exact .inr ⟨rfl, rfl, fun _ _ _ typed => ChargeStage.noConfusion typed⟩
        · cases executed
          exact .inr ⟨rfl, rfl, fun _ _ _ typed => ChargeStage.noConfusion typed⟩
  | returned quote balanceAfter => cases executed
  | accountNotFound => cases executed
  | raised error => cases executed
  | crashed quote => cases executed

theorem fail_spec {message : Sms.Text} {stage after : ChargeStage}
    (failed : stage.fail = some after) :
    after.paid unicode message = stage.paid unicode message ∧
      ∃ deducted, after = .crashed deducted := by
  cases stage <;> cases failed <;> exact ⟨rfl, _, rfl⟩

def ChargeLabel.isOf (id : ℕ) : ChargeLabel → Bool
  | .charge other => other = id
  | _ => false

namespace ChargeSystem

variable {system after : ChargeSystem} {label : ChargeLabel}

def paid (unicode : Unicode) (system : ChargeSystem) (id : ℕ) : Money :=
  ((system.charges id).map fun call => call.stage.paid unicode call.args.message).getD 0

/-- The account is prepaid and not in debt, every call that knows its payment type knows it, and
every refund that has marked a row adds something. -/
structure Solvent (system : ChargeSystem) : Prop where
  account : ∃ balance, system.account = some ⟨.prepaid, balance⟩ ∧ 0 ≤ balance
  typed : ∀ id call quote isPostpaid available, system.charges id = some call →
    call.stage = .typed quote isPostpaid available → isPostpaid = false
  claimed : ∀ id call, system.credits id = some call → call.stage = .claimed → 0 < call.amount

theorem Solvent.setCharge (solvent : system.Solvent) (id : ℕ) (call : ChargeCall)
    (typed : ∀ quote isPostpaid available,
      call.stage = .typed quote isPostpaid available → isPostpaid = false) :
    (system.setCharge id call).Solvent := by
  refine ⟨solvent.account, ?_, solvent.claimed⟩
  intro other otherCall quote isPostpaid available found stage
  by_cases same : other = id
  · subst same
    simp only [ChargeSystem.setCharge, Function.update_self, Option.some.injEq] at found
    exact typed quote isPostpaid available (found ▸ stage)
  · simp only [ChargeSystem.setCharge, Function.update_of_ne same] at found
    exact solvent.typed other otherCall quote isPostpaid available found stage

theorem Solvent.setCredit (solvent : system.Solvent) (id : ℕ) (call : CreditCall)
    (claimed : call.stage = .claimed → 0 < call.amount) : (system.setCredit id call).Solvent := by
  refine ⟨solvent.account, solvent.typed, ?_⟩
  intro other otherCall found stage
  by_cases same : other = id
  · subst same
    simp only [ChargeSystem.setCredit, Function.update_self, Option.some.injEq] at found
    exact found ▸ claimed (found ▸ stage)
  · simp only [ChargeSystem.setCredit, Function.update_of_ne same] at found
    exact solvent.claimed other otherCall found stage

theorem Solvent.withBalance (solvent : system.Solvent) {balance : Money}
    (covered : 0 ≤ balance) : Solvent { system with account := some ⟨.prepaid, balance⟩ } :=
  ⟨⟨balance, rfl, covered⟩, solvent.typed, solvent.claimed⟩

theorem Solvent.refund (solvent : system.Solvent) {id : ℕ} {call : CreditCall}
    (found : system.credits id = some call) (stepped : system.refund id call = some after) :
    after.Solvent := by
  rw [ChargeSystem.refund] at stepped
  split at stepped
  · split at stepped
    · cases stepped
      exact solvent.setCredit id _ nofun
    · rename_i positive
      split at stepped
      · cases stepped
        exact solvent.setCredit id _ nofun
      · cases stepped
        have marked : Solvent
            { system with refunded := Function.update system.refunded call.rowId true } :=
          ⟨solvent.account, solvent.typed, solvent.claimed⟩
        exact marked.setCredit id _ fun _ => by simpa using positive
  · rename_i stage
    cases stepped
    have adds := solvent.claimed id call found stage
    obtain ⟨balance, account, covered⟩ := solvent.account
    refine Solvent.setCredit ?_ id _ nofun
    rw [account]
    exact solvent.withBalance (Int.add_nonneg covered (Int.le_of_lt adds))
  · cases stepped

theorem Solvent.next (solvent : system.Solvent)
    (stepped : system.next unicode order sameCode accountId label = some after) :
    after.Solvent := by
  cases label with
  | begin id args =>
      simp only [ChargeSystem.next] at stepped
      split at stepped
      · cases stepped
      · cases stepped
        exact solvent.setCharge id _ nofun
  | charge id =>
      simp only [ChargeSystem.next, Option.bind_eq_some_iff, Option.map_eq_some_iff] at stepped
      obtain ⟨call, found, outcome, executed, rfl⟩ := stepped
      obtain ⟨balance, account, covered⟩ := solvent.account
      rcases statement_cases executed with
        ⟨quote, isPostpaid, available, row, typed, isRow, enough, rfl⟩ | ⟨same, -, readTyped⟩
      · rw [account, Option.some.injEq] at isRow
        subst isRow
        have prepaid := solvent.typed id call quote isPostpaid available found typed
        have covers := enough.resolve_left (by simp [prepaid])
        refine Solvent.setCharge ?_ id _ nofun
        exact solvent.withBalance (Int.sub_nonneg_of_le covers)
      · refine Solvent.setCharge ?_ id _ ?_
        · rw [same]
          exact ⟨⟨balance, account, covered⟩, solvent.typed, solvent.claimed⟩
        · intro quote isPostpaid available typed
          obtain ⟨row, isRow, isType⟩ := readTyped quote isPostpaid available typed
          rw [account, Option.some.injEq] at isRow
          rw [isType, ← isRow]
          rfl
  | crash id =>
      simp only [ChargeSystem.next, Option.bind_eq_some_iff, Option.map_eq_some_iff] at stepped
      obtain ⟨call, found, stage, failed, rfl⟩ := stepped
      obtain ⟨-, deducted, crashed⟩ := @fail_spec unicode call.args.message _ _ failed
      subst crashed
      exact solvent.setCharge id _ nofun
  | beginRefund id rowId amount =>
      simp only [ChargeSystem.next] at stepped
      split at stepped
      · cases stepped
      · cases stepped
        exact solvent.setCredit id _ nofun
  | refund id =>
      simp only [ChargeSystem.next, Option.bind_eq_some_iff] at stepped
      obtain ⟨call, found, refunded⟩ := stepped
      exact solvent.refund found refunded
  | crashRefund id =>
      simp only [ChargeSystem.next, Option.bind_eq_some_iff] at stepped
      obtain ⟨call, found, ended⟩ := stepped
      split at ended
      · cases ended
        exact solvent.setCredit id _ nofun
      · cases ended
  | change pricing =>
      cases stepped
      exact ⟨solvent.account, solvent.typed, solvent.claimed⟩

theorem paid_setCharge (id other : ℕ) (call : ChargeCall) :
    (system.setCharge id call).paid unicode other =
      if other = id then call.stage.paid unicode call.args.message
      else system.paid unicode other := by
  by_cases same : other = id
  · subst same
    simp [paid, setCharge]
  · simp [paid, setCharge, same]

theorem paid_of_charges {other : ChargeSystem} (same : other.charges = system.charges) (id : ℕ) :
    other.paid unicode id = system.paid unicode id := by
  rw [paid, paid, same]

theorem balance_of_isOf {id : ℕ} (own : label.isOf id = true)
    (stepped : system.next unicode order sameCode accountId label = some after) :
    balanceOf after.account - balanceOf system.account =
      system.paid unicode id - after.paid unicode id := by
  cases label with
  | charge other =>
      have isId : other = id := of_decide_eq_true own
      subst isId
      simp only [ChargeSystem.next, Option.bind_eq_some_iff, Option.map_eq_some_iff] at stepped
      obtain ⟨call, found, outcome, executed, rfl⟩ := stepped
      have before : system.paid unicode other = call.stage.paid unicode call.args.message := by
        rw [paid, found]
        rfl
      rw [paid_setCharge, if_pos rfl, before]
      rcases statement_cases executed with
        ⟨quote, isPostpaid, available, row, typed, isRow, -, rfl⟩ | ⟨same, paidSame, -⟩
      · rw [typed, isRow]
        simp only [setCharge, balanceOf, ChargeStage.paid, Option.map_some, Option.getD_some]
        ring
      · rw [paidSame]
        simp [setCharge, same]
  | _ => cases own

theorem paid_of_not_isOf {id : ℕ} (other : label.isOf id = false)
    (stepped : system.next unicode order sameCode accountId label = some after) :
    after.paid unicode id = system.paid unicode id := by
  cases label with
  | begin new args =>
      simp only [ChargeSystem.next] at stepped
      split at stepped
      · cases stepped
      · rename_i unused
        cases stepped
        rw [paid_setCharge]
        split
        · rename_i isNew
          have none : system.charges new = none := by simpa using unused
          rw [isNew, paid, none]
          rfl
        · rfl
  | charge running =>
      have isOther : ¬ id = running := fun same => by simp [ChargeLabel.isOf, same] at other
      simp only [ChargeSystem.next, Option.bind_eq_some_iff, Option.map_eq_some_iff] at stepped
      obtain ⟨call, found, outcome, executed, rfl⟩ := stepped
      rw [paid_setCharge, if_neg isOther]
      exact paid_of_charges rfl id
  | crash running =>
      simp only [ChargeSystem.next, Option.bind_eq_some_iff, Option.map_eq_some_iff] at stepped
      obtain ⟨call, found, stage, failed, rfl⟩ := stepped
      rw [paid_setCharge]
      split
      · rename_i isRunning
        subst isRunning
        rw [paid, found]
        exact (fail_spec failed).1
      · rfl
  | beginRefund new rowId amount =>
      simp only [ChargeSystem.next] at stepped
      split at stepped
      · cases stepped
      · cases stepped
        exact paid_of_charges rfl id
  | refund running =>
      simp only [ChargeSystem.next, Option.bind_eq_some_iff, ChargeSystem.refund] at stepped
      obtain ⟨call, found, refunded⟩ := stepped
      split at refunded
      · split at refunded
        · cases refunded
          exact paid_of_charges rfl id
        · split at refunded
          · cases refunded
            exact paid_of_charges rfl id
          · cases refunded
            exact paid_of_charges rfl id
      · cases refunded
        exact paid_of_charges rfl id
      · cases refunded
  | crashRefund running =>
      simp only [ChargeSystem.next, Option.bind_eq_some_iff] at stepped
      obtain ⟨call, found, ended⟩ := stepped
      split at ended
      · cases ended
        exact paid_of_charges rfl id
      · cases ended
  | change pricing =>
      cases stepped
      exact paid_of_charges rfl id

def addedBy (id : ℕ) (transitions : List (Transition ChargeSystem ChargeLabel)) : Money :=
  ((transitions.filter fun transition => transition.label.isOf id).map fun transition =>
    balanceOf transition.after.account - balanceOf transition.before.account).sum

theorem addedBy_run {first last : ChargeSystem}
    {transitions : List (Transition ChargeSystem ChargeLabel)}
    (run : Run (fun before label after =>
      before.next unicode order sameCode accountId label = some after) first transitions last)
    (id : ℕ) :
    addedBy id transitions = first.paid unicode id - last.paid unicode id := by
  induction run with
  | nil state => simp [addedBy]
  | @cons first middle last label rest head tail ih =>
      rw [addedBy, List.filter_cons]
      cases own : label.isOf id with
      | true =>
          have step := balance_of_isOf own head
          simp only [if_true, List.map_cons, List.sum_cons]
          rw [step]
          change _ + addedBy id rest = _
          rw [ih]
          ring
      | false =>
          change addedBy id rest = _
          rw [ih, paid_of_not_isOf own head]

def start (balance : Money) (pricing : PricingData) (refunded : ℕ → Bool) : ChargeSystem where
  account := some ⟨.prepaid, balance⟩
  pricing := pricing
  refunded := refunded
  charges _ := none
  credits _ := none

theorem start_solvent {balance : Money} (covered : 0 ≤ balance) (pricing : PricingData)
    (refunded : ℕ → Bool) : (start balance pricing refunded).Solvent := by
  refine ⟨⟨balance, rfl, covered⟩, ?_, ?_⟩
  · intro id call quote isPostpaid available found
    cases found
  · intro id call found
    cases found

/-- In a run of charges and refunds the account stays out of debt. A call that has returned has
subtracted its price for each unit of its message, and one that has raised an exception of its own
has subtracted nothing. -/
theorem charges_are_exact (unicode : Unicode) (order : List String → List String)
    (sameCode : String → String → Bool) (accountId : ℕ) {balance : Money} (covered : 0 ≤ balance)
    (pricing : PricingData) (refunded : ℕ → Bool) {last : ChargeSystem}
    {transitions : List (Transition ChargeSystem ChargeLabel)}
    (run : Run (fun before label after =>
        before.next unicode order sameCode accountId label = some after)
      (start balance pricing refunded) transitions last) :
    (∀ transition ∈ transitions, ∃ balance,
        transition.after.account = some ⟨.prepaid, balance⟩ ∧ 0 ≤ balance) ∧
      ∀ id call, last.charges id = some call →
        (∀ quote balanceAfter, call.stage = .returned quote balanceAfter →
          addedBy id transitions =
            -(quote.info.price * chargedUnits unicode call.args.message quote.isRcs)) ∧
        ∀ error, call.stage = .raised error → addedBy id transitions = 0 := by
  have solvent := run.invariant (fun before label after stepped solvent => solvent.next stepped)
    (start_solvent covered pricing refunded)
  refine ⟨fun transition member => (solvent.2 transition member).2.account, ?_⟩
  intro id call found
  have added := addedBy_run run id
  have nothing : (start balance pricing refunded).paid unicode id = 0 := rfl
  have paid : last.paid unicode id = call.stage.paid unicode call.args.message := by
    rw [ChargeSystem.paid, found]
    rfl
  rw [nothing, paid, zero_sub] at added
  constructor
  · intro quote balanceAfter returned
    rw [added, returned]
    rfl
  · intro error raised
    rw [added, raised]
    exact neg_zero

def cachedPricing : PricingData where
  tables := ⟨[], [], []⟩
  channels _ := none
  cachedPrice _ := some ⟨3, "USD", none, none⟩
  cachedRcs _ := none
  cachedCost _ _ := some 1

def shortMessage : ChargeArgs where
  channelId := 7
  countryCode := "CN"
  message := ['h', 'i']
  mnc := none
  channel := none
  skipBalanceLog := true

def chargeAndRefund : List ChargeLabel :=
  [.begin 1 shortMessage, .charge 1, .charge 1, .charge 1, .beginRefund 1 5 3, .charge 1,
    .refund 1, .charge 1, .refund 1, .charge 1]

theorem charges_are_exact_short :
    ∃ transitions last,
      Run (fun before label after =>
          before.next .ascii id (· == ·) 1 label = some after)
        (start 10 cachedPricing fun _ => false) transitions last ∧
      last.account = some ⟨.prepaid, 10⟩ ∧ addedBy 1 transitions = -3 := by
  let returned : ChargeCall := ⟨shortMessage, .returned ⟨false, ⟨3, "USD", none, none⟩, 1⟩ none⟩
  have executed : (execute (ChargeSystem.next .ascii id (· == ·) 1)
      (start 10 cachedPricing fun _ => false) chargeAndRefund).any (fun outcome =>
        decide (outcome.2.account = some ⟨.prepaid, 10⟩ ∧
          outcome.2.charges 1 = some returned)) = true := by
    decide
  obtain ⟨transitions, last, run, passed⟩ := Run.exists_of_execute _ executed
  obtain ⟨account, call⟩ := of_decide_eq_true passed
  refine ⟨transitions, last, run, account, ?_⟩
  exact ((charges_are_exact .ascii id (· == ·) 1 (by decide) cachedPricing (fun _ => false)
    run).2 1 returned call).1 _ none rfl

end ChargeSystem

end

end Klsmsc
