import Klsmsc.Retry
import Mathlib.Algebra.Order.Floor.Ring
import Mathlib.Data.Rat.Floor

/-!
# Purchases from the balance

`purchase_package` and the three purchases of data, `buy_to_stock`, `buy_combo` and
`buy_and_send`. All of them are one transaction that ends with a commit. The prices of data
products are texts, so that a total price can be a decimal finer than the columns of the balance
and of its log; the database rounds what it stores there.

What the purchases read of the shop is a parameter: the packages and products that can be bought,
the numbers that a filter finds, and how many of them a conditional UPDATE locks. The rows that
they write for orders, numbers, packages and stock are left out.
-/

namespace Klsmsc

/-- What a column with four decimals stores of a decimal: the nearest unit, away from zero when
there are two. -/
def decimalColumn (value : ℚ) : Money :=
  if 0 ≤ value then ⌊value + 1 / 2⌋ else -⌊-value + 1 / 2⌋

/-- `UPDATE accounts SET balance = .. WHERE id = accountId`. -/
def Db.setBalance (db : Db) (accountId : ℕ) (balance : Money) : Db :=
  { db with
    accounts := fun id =>
      if id = accountId then
        (db.accounts id).map fun account => { account with balance := balance }
      else db.accounts id }

abbrev DataFilter := List (String × String)

/-- `filter_criteria["carrier"] = data.carrier`, when the request names one. -/
def DataFilter.withCarrier (filter : DataFilter) : Option String → DataFilter
  | none => filter
  | some carrier =>
      if carrier = "" then filter
      else filter.filter (fun entry => entry.1 ≠ "carrier") ++ [("carrier", carrier)]

structure DataProduct where
  isCombo : Bool
  filterCriteria : DataFilter
  minPurchase : ℤ
  maxPurchase : ℤ
  pricePerNumber : String
  bundlePrice : Option String
  deriving DecidableEq, Repr

structure DataOrderCreate where
  productId : Option ℕ
  filterCriteria : DataFilter
  quantity : ℤ
  carrier : Option String
  deriving DecidableEq, Repr

inductive PurchaseFailure where
  | refused (status : ℕ)
  | raised
  deriving DecidableEq, Repr

structure PurchaseEnv extends ChunkEnv where
  decimal : String → Option ℚ
  packages : ℕ → Option Money
  products : ℕ → Option DataProduct
  matchesAccountCountry : (accountId : ℕ) → DataFilter → Bool
  calculateStock : DataFilter → ℤ
  numberIds : DataFilter → (limit : ℤ) → Option (List ℕ)
  lockNumbers : List ℕ → ℤ
  numberCountry : ℕ → Option String
  dialCode : String → String

section

variable (env : PurchaseEnv)

/-- `purchase_package`. The request has read the account before. -/
def purchasePackage (db : Db) (accountId packageId : ℕ) : Except PurchaseFailure Db :=
  match db.accounts accountId with
  | none => .error (.refused 401)
  | some account =>
      match env.packages packageId with
      | none => .error (.refused 404)
      | some price =>
          if account.balance < price then .error (.refused 400)
          else .ok (db.setBalance accountId (account.balance - price))

/-- `_validate_purchase`: the filter and the price of a number. -/
def validatePurchase (accountId : ℕ) (data : DataOrderCreate) :
    Except PurchaseFailure (DataFilter × String) :=
  match data.productId.filter (· ≠ 0) with
  | some productId =>
      match env.products productId with
      | none => .error (.refused 404)
      | some product =>
          if data.quantity < product.minPurchase ∨ product.maxPurchase < data.quantity then
            .error (.refused 400)
          else if env.matchesAccountCountry accountId product.filterCriteria then
            .ok (product.filterCriteria, product.pricePerNumber)
          else .error (.refused 400)
  | none =>
      if data.filterCriteria = [] then .error (.refused 400)
      else if env.matchesAccountCountry accountId data.filterCriteria then
        .ok (data.filterCriteria, "0.001")
      else .error (.refused 400)

/-- `Decimal(str(price)) * quantity`. -/
def decimalPrice (price : String) (quantity : ℤ) : Except PurchaseFailure ℚ :=
  match env.decimal price with
  | none => .error .raised
  | some unit => .ok (unit * quantity)

def findNumbers (filter : DataFilter) (quantity : ℤ) : Except PurchaseFailure (List ℕ) :=
  match env.numberIds filter quantity with
  | none => .error .raised
  | some ids => if ids.length < quantity then .error (.refused 400) else .ok ids

def lockNumbers (filter : DataFilter) (quantity : ℤ) (total : ℚ) : Except PurchaseFailure ℚ :=
  match findNumbers env filter quantity with
  | .error failure => .error failure
  | .ok ids => if env.lockNumbers ids < quantity then .error (.refused 400) else .ok total

/-- `buy_to_stock` as far as its deduction: the total price. -/
def toStockTotal (accountId : ℕ) (data : DataOrderCreate) : Except PurchaseFailure ℚ :=
  match validatePurchase env accountId data with
  | .error failure => .error failure
  | .ok (filter, unitPrice) =>
      match decimalPrice env unitPrice data.quantity with
      | .error failure => .error failure
      | .ok total => lockNumbers env (filter.withCarrier data.carrier) data.quantity total

def DataProduct.comboPrice (product : DataProduct) : String :=
  (product.bundlePrice.filter (· ≠ "")).getD product.pricePerNumber

/-- `buy_combo` as far as its deduction: the total price. -/
def comboTotal (accountId productId : ℕ) (quantity : ℤ) : Except PurchaseFailure ℚ :=
  match (env.products productId).filter DataProduct.isCombo with
  | none => .error (.refused 404)
  | some product =>
      if quantity < product.minPurchase ∨ product.maxPurchase < quantity then
        .error (.refused 400)
      else if !env.matchesAccountCountry accountId product.filterCriteria then
        .error (.refused 400)
      else if env.calculateStock product.filterCriteria < quantity then .error (.refused 400)
      else
        match decimalPrice env product.comboPrice quantity with
        | .error failure => .error failure
        | .ok total => lockNumbers env product.filterCriteria quantity total

/-- The number of rows that one UPDATE of `buy_and_send` locks (`LOCK_CHUNK`). -/
def lockChunk : ℕ := 5000

def sampleSmsPrice (accountId first : ℕ) : Money :=
  let country := ((env.numberCountry first).filter (· ≠ "")).getD "PH"
  let dialCode := env.dialCode country
  let channel := [dialCode, country].findSome? fun code =>
    (env.selectChannel code none accountId).toOption.join
  match channel with
  | none => 0
  | some channel =>
      match env.getPrice channel.id dialCode accountId with
      | some (price, _) => price
      | none => ((env.getPrice channel.id country accountId).map Prod.fst).getD 0

/-- `buy_and_send` as far as its deduction: the total price, with the estimated messages. -/
def andSendTotal (accountId : ℕ) (data : DataOrderCreate) : Except PurchaseFailure ℚ :=
  match validatePurchase env accountId data with
  | .error failure => .error failure
  | .ok (criteria, unitPrice) =>
      let filter := criteria.withCarrier data.carrier
      if env.calculateStock filter < data.quantity then .error (.refused 400)
      else
        match findNumbers env filter data.quantity with
        | .error failure => .error failure
        | .ok ids =>
            if ((Library.slices lockChunk ids).map env.lockNumbers).sum < data.quantity then
              .error (.refused 400)
            else
              match ids with
              | [] => .error .raised
              | first :: _ =>
                  match decimalPrice env unitPrice data.quantity with
                  | .error failure => .error failure
                  | .ok dataCost =>
                      .ok (dataCost + sampleSmsPrice env accountId first * data.quantity)

/-- The UPDATE that deducts a total price, and its entry in `balance_logs`. -/
def payTotal (db : Db) (accountId : ℕ) (total : ℚ) : Except PurchaseFailure Db :=
  match db.accounts accountId with
  | none => .error (.refused 400)
  | some account =>
      if total ≤ account.balance then
        let paid := db.setBalance accountId (decimalColumn (account.balance - total))
        .ok (paid.addBalanceLog
          ⟨accountId, .charge, decimalColumn (-total), (paid.balance accountId).getD 0⟩)
      else .error (.refused 400)

/-- `buy_to_stock`. -/
def buyToStock (db : Db) (accountId : ℕ) (data : DataOrderCreate) : Except PurchaseFailure Db :=
  (toStockTotal env accountId data).bind (payTotal db accountId)

/-- `buy_combo`. -/
def buyCombo (db : Db) (accountId productId : ℕ) (quantity : ℤ) : Except PurchaseFailure Db :=
  (comboTotal env accountId productId quantity).bind (payTotal db accountId)

/-- `buy_and_send`, as far as its transaction. -/
def buyAndSend (db : Db) (accountId : ℕ) (data : DataOrderCreate) : Except PurchaseFailure Db :=
  (andSendTotal env accountId data).bind (payTotal db accountId)

end

namespace PricingEngine

/-- `PricingEngine.calculate_and_charge` for a message to a country over a channel. -/
def calculateAndCharge (env : ChunkEnv) (db : Db) (accountId : ℕ) (channel : Channel)
    (countryCode message : String) (skipBalanceLog : Bool) : RetryChargeResult :=
  let units := if channel.isRcs then 1 else env.countSmsParts message
  match env.getPrice channel.id countryCode accountId with
  | none => .pricingNotFound
  | some (price, currency) =>
      match db.accounts accountId with
      | none => .accountNotFound
      | some account =>
          match db.deduct accountId (account.paymentType = .postpaid) (price * units) with
          | none => .insufficientBalance
          | some paid =>
              .charged (if skipBalanceLog then paid else paid.logCharge accountId (price * units))
                ⟨units, env.resolveBaseCostPerSms channel.id countryCode * units, price * units,
                  currency⟩

end PricingEngine

end Klsmsc
