import Mathlib.Data.List.Nodup
import Mathlib.Tactic.Ring
import Klsmsc.BatchAdmin

/-!
# Exact repricing

A switch of the channel is exact when each unsent row carries what sending it on
the new channel would be charged, the account has moved by the difference of the
prices, the preview has announced that difference, and a switch fails for want of
balance only where a charge of the difference would. The prices are taken times
the number of parts that was counted for the old channel, and the balance has to
cover the difference whatever the account's payment type, so the first and the last
hold only under conditions on the rows and on the account.
-/

namespace Klsmsc

section

variable (env : RepricingEnv)

/-- `billable_units` of the message of a row on a channel. -/
def billableUnits (channel : Channel) (row : SmsLog) : ℕ :=
  if channel.isRcs then 1 else env.countSmsParts row.message

/-- What `calculate_and_charge` would charge for a row on a channel, and what it would cost. -/
def chargeOn (channel : Channel) (row : SmsLog) : Option (Money × Money) :=
  (env.getPrice channel.id row.country row.accountId).map fun price =>
    (price * billableUnits env channel row,
      env.resolveBaseCostPerSms channel.id row.country * billableUnits env channel row)

def priceIn (db : Db) (row : SmsLog) : Money :=
  ((db.smsLogs.find? fun stored => stored.id = row.id).map SmsLog.price).getD 0

/-- `calculate_and_charge` would refuse an amount for want of balance. -/
def ChargeRefused (db : Db) (accountId : ℕ) (amount : Money) : Prop :=
  ∃ account, db.accounts accountId = some account ∧ account.paymentType ≠ .postpaid ∧
    account.balance < amount

def SwitchExact (db : Db) (batchId accountId newChannelId : ℕ) : Prop :=
  match switchChannelForUnsent env db batchId accountId newChannelId with
  | .refused _ => True
  | .insufficientBalance required => ChargeRefused db accountId required
  | .switched after channel _ difference =>
      (∀ row ∈ selectUnsentLogs db batchId, ∀ stored ∈ after.smsLogs, stored.id = row.id →
        ∃ charge, chargeOn env channel row = some charge ∧
          stored.sellingPrice = some charge.1 ∧ stored.costPrice = some charge.2) ∧
      after.balance accountId = (db.balance accountId).map
        (· + ((selectUnsentLogs db batchId).map fun row => row.price - priceIn after row).sum) ∧
      previewSwitchChannel env db batchId newChannelId = .ok difference

def CountAgrees (channel : Channel) (row : SmsLog) : Prop :=
  row.repricedCount = billableUnits env channel row ∨
    (env.getPrice channel.id row.country row.accountId = some 0 ∧
      env.resolveBaseCostPerSms channel.id row.country = 0)

def CanPay (db : Db) (accountId : ℕ) (difference : Money) : Prop :=
  0 < difference → ∃ account, db.accounts accountId = some account ∧ difference ≤ account.balance

/-- Once a switch has its prices: if the account can pay, the unsent rows carry the counts
of the new channel; if it cannot, it is there and not postpaid. -/
def SwitchWellPosed (db : Db) (batchId accountId newChannelId : ℕ) : Prop :=
  match planSwitch env db batchId newChannelId with
  | .error _ => True
  | .ok (channel, rows) =>
      (CanPay db accountId (totalDiff rows) →
        ∀ row ∈ selectUnsentLogs db batchId, CountAgrees env channel row) ∧
      (¬ CanPay db accountId (totalDiff rows) →
        ∃ account, db.accounts accountId = some account ∧ account.paymentType ≠ .postpaid)

variable {env} {db : Db} {channel : Channel} {accountId : ℕ}

theorem repriceRow_row {row : SmsLog} {repriced : Repriced}
    (prices : repriceRow env channel row = .ok repriced) : repriced.row = row := by
  rw [repriceRow] at prices
  split at prices <;> cases prices
  rfl

theorem computeRepricing_spec {rows : List SmsLog} {repriced : List Repriced}
    (prices : computeRepricing env channel rows = .ok repriced) :
    repriced.map Repriced.row = rows ∧
      ∀ entry ∈ repriced, repriceRow env channel entry.row = .ok entry := by
  induction rows generalizing repriced with
  | nil =>
      cases prices
      simp
  | cons row rows ih =>
      rw [computeRepricing] at prices
      cases head : repriceRow env channel row with
      | error reason => simp [head] at prices
      | ok entry =>
          cases rest : computeRepricing env channel rows with
          | error reason => simp [head, rest, Except.map] at prices
          | ok others =>
              simp only [head, rest, Except.map, Except.ok.injEq] at prices
              subst prices
              rcases ih rest with ⟨sameRows, priced⟩
              have sameRow := repriceRow_row head
              subst sameRow
              exact ⟨by simp [sameRows], List.forall_mem_cons.mpr ⟨head, priced⟩⟩

def rowAfter (channel : Channel) (rows : List Repriced) (row : SmsLog) : SmsLog :=
  rows.foldl
    (fun row repriced => if row.id = repriced.row.id then row.switched channel repriced else row)
    row

theorem smsLogs_updateSwitched (rows : List Repriced) :
    (updateSwitched db channel rows).smsLogs = db.smsLogs.map (rowAfter channel rows) := by
  induction rows generalizing db with
  | nil =>
      have untouched : rowAfter channel [] = id := rfl
      simp [updateSwitched, untouched]
  | cons repriced rows ih =>
      have rest := @ih (db.updateSmsLogs (fun row => row.id = repriced.row.id) fun row =>
        row.switched channel repriced)
      rw [updateSwitched, List.foldl_cons]
      rw [updateSwitched] at rest
      rw [rest, Db.updateSmsLogs_smsLogs, List.map_map]
      apply List.map_congr_left
      intro row _
      simp [rowAfter]

theorem balance_updateSwitched (rows : List Repriced) :
    (updateSwitched db channel rows).balance accountId = db.balance accountId := by
  induction rows generalizing db with
  | nil => rfl
  | cons repriced rows ih =>
      rw [updateSwitched, List.foldl_cons]
      exact ih

@[simp]
theorem rowAfter_id (rows : List Repriced) (row : SmsLog) :
    (rowAfter channel rows row).id = row.id := by
  induction rows generalizing row with
  | nil => rfl
  | cons repriced rows ih =>
      rw [rowAfter, List.foldl_cons]
      rw [← rowAfter, ih]
      split <;> rfl

theorem rowAfter_of_not_mem {rows : List Repriced} {row : SmsLog}
    (other : row.id ∉ rows.map fun repriced => repriced.row.id) :
    rowAfter channel rows row = row := by
  induction rows with
  | nil => rfl
  | cons repriced rows ih =>
      rw [List.map_cons, List.mem_cons, not_or] at other
      rw [rowAfter, List.foldl_cons, if_neg other.1]
      exact ih other.2

theorem rowAfter_of_mem {rows : List Repriced} {repriced : Repriced} (member : repriced ∈ rows)
    (distinct : (rows.map fun repriced => repriced.row.id).Nodup) :
    rowAfter channel rows repriced.row = repriced.row.switched channel repriced := by
  induction rows with
  | nil => simp at member
  | cons first rows ih =>
      rw [List.map_cons, List.nodup_cons] at distinct
      rw [rowAfter, List.foldl_cons, ← rowAfter]
      rcases List.mem_cons.mp member with rfl | inRest
      · rw [if_pos rfl]
        exact rowAfter_of_not_mem distinct.1
      · have differs : ¬ repriced.row.id = first.row.id := by
          intro same
          exact distinct.1 (same ▸ List.mem_map_of_mem inRest)
        rw [if_neg differs]
        exact ih inRest distinct.2

theorem payDifference_smsLogs {paid : Db} {difference : Money}
    (pays : payDifference db accountId difference = some paid) : paid.smsLogs = db.smsLogs := by
  simp only [payDifference] at pays
  split at pays
  · split at pays <;> cases pays
    rfl
  · split at pays <;> cases pays <;> rfl

theorem payDifference_balance {paid : Db} {difference : Money}
    (pays : payDifference db accountId difference = some paid) :
    paid.balance accountId = (db.balance accountId).map (· + -difference) := by
  simp only [payDifference] at pays
  split at pays
  · split at pays <;> cases pays
    rw [Db.balance_addBalance, if_pos rfl]
  · rename_i notMore
    split at pays <;> cases pays
    · rename_i less
      have amount : ((difference.natAbs : ℕ) : Money) = -difference :=
        Int.ofNat_natAbs_of_nonpos (Int.le_of_lt less)
      rw [Db.balance_addBalance, if_pos rfl, amount]
    · rename_i notLess
      have nothing : difference = 0 := Int.le_antisymm (Int.not_lt.mp notMore) (Int.not_lt.mp notLess)
      simp [nothing]

theorem payDifference_eq_none_iff {difference : Money} :
    payDifference db accountId difference = none ↔ ¬ CanPay db accountId difference := by
  rw [payDifference]
  by_cases more : 0 < difference
  · rw [if_pos more]
    cases found : db.accounts accountId with
    | none => simp [CanPay, more, found]
    | some account =>
        by_cases pays : difference ≤ account.balance
        · simp [CanPay, found, pays]
        · simp [CanPay, more, found, pays]
  · rw [if_neg more]
    have can : CanPay db accountId difference := fun positive => absurd positive more
    split <;> simp [can]

theorem logDifference_smsLogs (difference : Money) :
    (logDifference db accountId difference).smsLogs = db.smsLogs := by
  rw [logDifference]
  split <;> rfl

theorem logDifference_balance (difference : Money) :
    (logDifference db accountId difference).balance accountId = db.balance accountId := by
  rw [logDifference]
  split <;> rfl


theorem planSwitch_spec {batchId newChannelId : ℕ} {rows : List Repriced}
    (plan : planSwitch env db batchId newChannelId = .ok (channel, rows)) :
    rows.map Repriced.row = selectUnsentLogs db batchId ∧
      ∀ entry ∈ rows, repriceRow env channel entry.row = .ok entry := by
  simp only [planSwitch] at plan
  split at plan
  · cases plan
  · split at plan
    · cases plan
    · split at plan
      · cases plan
      · split at plan
        · cases plan
        · rename_i found _ _ _
          cases prices : computeRepricing env found (selectUnsentLogs db batchId) with
          | error reason =>
              rw [prices] at plan
              cases plan
          | ok repriced =>
              rw [prices] at plan
              cases plan
              exact computeRepricing_spec prices

theorem repriceRow_agrees_iff {entry : Repriced}
    (prices : repriceRow env channel entry.row = .ok entry) :
    (∃ charge, chargeOn env channel entry.row = some charge ∧
      some entry.newSell = some charge.1 ∧ some entry.newCost = some charge.2) ↔
      CountAgrees env channel entry.row := by
  rw [repriceRow] at prices
  cases found : env.getPrice channel.id entry.row.country entry.row.accountId with
  | none => simp [found] at prices
  | some price =>
      simp only [found, Except.ok.injEq] at prices
      have sell : entry.newSell = price * entry.row.repricedCount := by rw [← prices]
      have cost : entry.newCost =
          env.resolveBaseCostPerSms channel.id entry.row.country * entry.row.repricedCount := by
        rw [← prices]
      simp only [chargeOn, found, Option.map_some, Option.some.injEq, exists_eq_left', sell, cost,
        CountAgrees, mul_units_eq_iff]
      exact or_and_left.symm

theorem switched_row {batchId newChannelId : ℕ} {rows : List Repriced} {paid : Db}
    (keyed : (db.smsLogs.map SmsLog.id).Nodup)
    (plan : planSwitch env db batchId newChannelId = .ok (channel, rows))
    (sameRows : paid.smsLogs = db.smsLogs) {entry : Repriced} (member : entry ∈ rows)
    {stored : SmsLog} (isStored : stored ∈ (updateSwitched paid channel rows).smsLogs)
    (same : stored.id = entry.row.id) :
    stored = entry.row.switched channel entry := by
  rcases planSwitch_spec plan with ⟨unsent, _⟩
  have ids : (rows.map fun repriced => repriced.row.id) =
      (selectUnsentLogs db batchId).map SmsLog.id := by
    rw [← unsent, List.map_map]
    rfl
  have distinct : (rows.map fun repriced => repriced.row.id).Nodup := by
    rw [ids]
    exact keyed.sublist (List.Sublist.map _ List.filter_sublist)
  have ofBatch : entry.row ∈ db.smsLogs := by
    have inUnsent : entry.row ∈ selectUnsentLogs db batchId := by
      rw [← unsent]
      exact List.mem_map_of_mem member
    exact (List.mem_filter.mp inUnsent).1
  rw [smsLogs_updateSwitched, sameRows] at isStored
  rcases List.mem_map.mp isStored with ⟨old, isOld, rfl⟩
  rw [rowAfter_id] at same
  have isEntry := List.inj_on_of_nodup_map keyed isOld ofBatch same
  subst isEntry
  exact rowAfter_of_mem member distinct

def afterSwitch (paid : Db) (channel : Channel) (accountId : ℕ) (rows : List Repriced) : Db :=
  logDifference (updateSwitched paid channel rows) accountId (totalDiff rows)

section

variable {batchId newChannelId : ℕ} {rows : List Repriced} {paid : Db}

theorem exists_stored (plan : planSwitch env db batchId newChannelId = .ok (channel, rows))
    (sameRows : paid.smsLogs = db.smsLogs) {entry : Repriced} (member : entry ∈ rows) :
    ∃ stored ∈ (afterSwitch paid channel accountId rows).smsLogs, stored.id = entry.row.id := by
  rcases planSwitch_spec plan with ⟨unsent, _⟩
  have inUnsent : entry.row ∈ selectUnsentLogs db batchId := by
    rw [← unsent]
    exact List.mem_map_of_mem member
  rw [afterSwitch, logDifference_smsLogs, smsLogs_updateSwitched, sameRows]
  exact ⟨_, List.mem_map_of_mem (List.mem_filter.mp inUnsent).1, rowAfter_id rows entry.row⟩

theorem priceIn_afterSwitch (keyed : (db.smsLogs.map SmsLog.id).Nodup)
    (plan : planSwitch env db batchId newChannelId = .ok (channel, rows))
    (sameRows : paid.smsLogs = db.smsLogs) {entry : Repriced} (member : entry ∈ rows) :
    priceIn (afterSwitch paid channel accountId rows) entry.row = entry.newSell := by
  rw [priceIn]
  cases found : (afterSwitch paid channel accountId rows).smsLogs.find?
      fun stored => stored.id = entry.row.id with
  | none =>
      rcases @exists_stored env db channel accountId batchId newChannelId rows paid plan sameRows
        entry member with ⟨stored, isStored, same⟩
      have missing := List.find?_eq_none.mp found stored isStored
      simp [same] at missing
  | some stored =>
      have same : stored.id = entry.row.id := by simpa using List.find?_some found
      have isStored := List.mem_of_find?_eq_some found
      rw [afterSwitch, logDifference_smsLogs] at isStored
      rw [switched_row keyed plan sameRows member isStored same]
      rfl

theorem rows_exact_iff (keyed : (db.smsLogs.map SmsLog.id).Nodup)
    (plan : planSwitch env db batchId newChannelId = .ok (channel, rows))
    (sameRows : paid.smsLogs = db.smsLogs) :
    (∀ row ∈ selectUnsentLogs db batchId,
        ∀ stored ∈ (afterSwitch paid channel accountId rows).smsLogs, stored.id = row.id →
          ∃ charge, chargeOn env channel row = some charge ∧
            stored.sellingPrice = some charge.1 ∧ stored.costPrice = some charge.2) ↔
      ∀ row ∈ selectUnsentLogs db batchId, CountAgrees env channel row := by
  rcases planSwitch_spec plan with ⟨unsent, prices⟩
  rw [← unsent, List.forall_mem_map, List.forall_mem_map]
  apply forall₂_congr
  intro entry member
  rw [← repriceRow_agrees_iff (prices entry member)]
  constructor
  · intro exact_
    rcases @exists_stored env db channel accountId batchId newChannelId rows paid plan sameRows
      entry member with ⟨stored, isStored, same⟩
    rcases exact_ stored isStored same with ⟨charge, found, carried⟩
    rw [afterSwitch, logDifference_smsLogs] at isStored
    rw [switched_row keyed plan sameRows member isStored same] at carried
    exact ⟨charge, found, carried⟩
  · rintro ⟨charge, found, carried⟩ stored isStored same
    rw [afterSwitch, logDifference_smsLogs] at isStored
    rw [switched_row keyed plan sameRows member isStored same]
    exact ⟨charge, found, carried⟩

theorem sum_map_neg (rows : List Repriced) :
    (rows.map fun entry => entry.row.price - entry.newSell).sum = -totalDiff rows := by
  rw [totalDiff]
  induction rows with
  | nil => rfl
  | cons entry rows ih =>
      rw [List.map_cons, List.sum_cons, ih, List.map_cons, List.sum_cons, Repriced.diff]
      ring

theorem balance_afterSwitch (keyed : (db.smsLogs.map SmsLog.id).Nodup)
    (plan : planSwitch env db batchId newChannelId = .ok (channel, rows))
    (pays : payDifference db accountId (totalDiff rows) = some paid) :
    (afterSwitch paid channel accountId rows).balance accountId =
      (db.balance accountId).map (· + ((selectUnsentLogs db batchId).map fun row =>
        row.price - priceIn (afterSwitch paid channel accountId rows) row).sum) := by
  have moved : ((selectUnsentLogs db batchId).map fun row =>
      row.price - priceIn (afterSwitch paid channel accountId rows) row).sum =
        -totalDiff rows := by
    rw [← (planSwitch_spec plan).1, List.map_map, ← sum_map_neg]
    congr 1
    apply List.map_congr_left
    intro entry member
    rw [Function.comp, priceIn_afterSwitch keyed plan (payDifference_smsLogs pays) member]
  rw [moved, ← payDifference_balance pays, afterSwitch, logDifference_balance,
    balance_updateSwitched]

theorem chargeRefused_iff {difference : Money} (cannot : ¬ CanPay db accountId difference) :
    ChargeRefused db accountId difference ↔
      ∃ account, db.accounts accountId = some account ∧ account.paymentType ≠ .postpaid := by
  constructor
  · rintro ⟨account, found, prepaid, _⟩
    exact ⟨account, found, prepaid⟩
  · rintro ⟨account, found, prepaid⟩
    refine ⟨account, found, prepaid, ?_⟩
    by_contra enough
    exact cannot fun _ => ⟨account, found, Int.not_lt.mp enough⟩

/-- A switch is exact exactly when the rows carry the counts of the new channel and, if the
account cannot pay, the account is there and not postpaid. -/
theorem switchExact_iff (env : RepricingEnv) (db : Db) (batchId accountId newChannelId : ℕ)
    (keyed : (db.smsLogs.map SmsLog.id).Nodup) :
    SwitchExact env db batchId accountId newChannelId ↔
      SwitchWellPosed env db batchId accountId newChannelId := by
  cases plan : planSwitch env db batchId newChannelId with
  | error reason => simp [SwitchExact, SwitchWellPosed, switchChannelForUnsent, plan]
  | ok planned =>
      rcases planned with ⟨channel, rows⟩
      simp only [SwitchExact, SwitchWellPosed, switchChannelForUnsent, plan]
      cases pays : payDifference db accountId (totalDiff rows) with
      | none =>
          have cannot := payDifference_eq_none_iff.mp pays
          simp only [cannot, false_implies, true_and, not_false_eq_true, true_implies]
          exact chargeRefused_iff cannot
      | some paid =>
          have can : CanPay db accountId (totalDiff rows) := by
            by_contra cannot
            rw [payDifference_eq_none_iff.mpr cannot] at pays
            cases pays
          have announced : previewSwitchChannel env db batchId newChannelId =
              .ok (totalDiff rows) := by
            rw [previewSwitchChannel, plan]
            rfl
          have moved := balance_afterSwitch keyed plan pays
          have carried := @rows_exact_iff env db channel accountId batchId newChannelId rows paid
            keyed plan (payDifference_smsLogs pays)
          simp only [afterSwitch] at moved carried
          simp only [can, not_true_eq_false, false_implies, and_true, true_implies, announced,
            moved, carried]

end

end

def twoPartRow : SmsLog where
  id := 1
  messageId := 1
  upstreamMessageId := none
  accountId := 1
  channelId := some 1
  batchId := some 1
  phoneNumber := "+8613800138000"
  countryCode := some "CN"
  senderId := none
  message := String.ofList (List.replicate 161 'a')
  messageCount := 2
  status := .queued
  costPrice := some 0
  sellingPrice := some 100
  currency := "USD"
  submitTime := none
  sentTime := none
  deliveryTime := none
  errorMessage := none
  refundedAt := none
  refundedBy := none
  refundedAmount := none

def twoPartTables : Db where
  accounts := fun id => if id = 1 then some ⟨1000, .prepaid, none⟩ else none
  smsLogs := [twoPartRow]
  balanceLogs := []
  batches := fun id => if id = 1 then some ⟨1, 0, 0, 0, 1, 0, .paused, none, none⟩ else none
  channels := fun _ => none

def rcsEnv : RepricingEnv where
  countSmsParts := fun _ => 2
  getPrice := fun _ _ _ => some 50
  resolveBaseCostPerSms := fun _ _ => 0
  validateChannelForCountry := fun id _ => .ok ⟨id, .http, "vendor"⟩

theorem switchExact_iff_twoPart :
    (twoPartTables.smsLogs.map SmsLog.id).Nodup ∧
      (SwitchExact rcsEnv twoPartTables 1 1 2 ↔ SwitchWellPosed rcsEnv twoPartTables 1 1 2) :=
  ⟨by decide, switchExact_iff rcsEnv twoPartTables 1 1 2 (by decide)⟩

/-- The row keeps the price of two parts, though an RCS channel charges one unit. -/
theorem switchExact_fails :
    chargeOn rcsEnv ⟨2, .http, "vendor"⟩ twoPartRow = some (50, 0) ∧
      ¬ SwitchExact rcsEnv twoPartTables 1 1 2 := by
  have single : chargeOn rcsEnv ⟨2, .http, "vendor"⟩ twoPartRow = some (50, 0) := by
    decide
  refine ⟨single, ?_⟩
  intro exact_
  have carried := exact_.1 twoPartRow (by decide +kernel)
    (twoPartRow.switched ⟨2, .http, "vendor"⟩ ⟨twoPartRow, 0, 100⟩) (by decide +kernel) rfl
  rcases carried with ⟨charge, found, carries, _⟩
  have fifty : charge = (50, 0) := Option.some.inj (found.symm.trans single)
  rw [fifty] at carries
  exact absurd carries (by decide)

end Klsmsc
