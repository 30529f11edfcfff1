import Klsmsc.Library.Globs
import Klsmsc.Library.Runs
import Klsmsc.Tables
import Mathlib.Data.List.MinMax
import Mathlib.Logic.Function.Basic

/-!
# The cache of selling prices

`PricingEngine.get_price` looks a price up in the `CacheManager` of its process, and in the tables
if the cache has none. The manager keeps prices in Redis for an hour and in a dictionary of its own
process for good. A change of a price is committed, and then the process that made it deletes the
keys that may hold the old price, from Redis and from its dictionary.

The commands of one Redis, the statements on the tables and the writes to the dictionaries are
single steps, and those of concurrent calls interleave. A cached price carries the time at which it
was read from the tables; the program does not store that time. The clock counts seconds.
-/

namespace Klsmsc

open Library

/-! ### Prices -/

/-- The dictionary that `get_price` returns. -/
structure PriceInfo where
  price : Money
  currency : String
  source : Option String
  country : Option String
  deriving DecidableEq, Repr

/-- A row of `accounts`. -/
structure PricedAccount where
  id : ℕ
  unitPrice : Option Money
  currency : String
  deriving DecidableEq, Repr

/-- A row of `account_pricing`. -/
structure AccountPricing where
  accountId : ℕ
  countryCode : String
  businessType : String
  price : Money
  deriving DecidableEq, Repr

/-- A row of `country_pricing`. -/
structure CountryPricing where
  channelId : ℕ
  countryCode : String
  countryName : Option String
  pricePerSms : Money
  currency : String
  effectiveDate : ℕ
  deriving DecidableEq, Repr

structure PriceTables where
  accounts : List PricedAccount
  accountPricing : List AccountPricing
  countryPricing : List CountryPricing
  deriving DecidableEq, Repr

/-- The arguments of `get_price`. -/
structure PriceQuery where
  channelId : ℕ
  countryCode : String
  mnc : Option String
  accountId : Option ℕ
  deriving DecidableEq, Repr

/-- `if account_id`. -/
def PriceQuery.account (query : PriceQuery) : Option ℕ :=
  query.accountId.filter (· ≠ 0)

/-- `MultipleResultsFound`, which `scalar_one_or_none` raises. -/
inductive PriceError where
  | multipleResultsFound
  deriving DecidableEq, Repr

/-- The queries of `get_price`, one after the other. -/
inductive PriceLookup where
  | accountUnitPrice
  | accountCountryPricing
  | countryPricing
  | worldPricing
  deriving DecidableEq, Repr

def PriceLookup.all : List PriceLookup :=
  [accountUnitPrice, accountCountryPricing, countryPricing, worldPricing]

namespace PriceTables

section

-- The codes that the database takes for equal; its collation ignores case.
variable (sameCode : String → String → Bool)

/-- `scalar_one_or_none`. -/
def scalarOneOrNone {Row : Type} : List Row → Except PriceError (Option Row)
  | [] => .ok none
  | [row] => .ok (some row)
  | _ => .error .multipleResultsFound

def latest (tables : PriceTables) (channelId : ℕ) (countryCode : String) :
    Option CountryPricing :=
  (tables.countryPricing.filter fun row =>
    row.channelId = channelId && sameCode row.countryCode countryCode).argmax
      CountryPricing.effectiveDate

def answer (tables : PriceTables) (query : PriceQuery) :
    PriceLookup → Except PriceError (Option PriceInfo)
  | .accountUnitPrice =>
      .ok <| query.account.bind fun accountId =>
        (tables.accounts.find? (·.id = accountId)).bind fun account =>
          (account.unitPrice.filter (0 ≤ ·)).map fun price =>
            { price := price
              currency := if account.currency = "" then "USD" else account.currency
              source := some "account_unit_price"
              country := none }
  | .accountCountryPricing =>
      match query.account with
      | none => .ok none
      | some accountId =>
          (scalarOneOrNone (tables.accountPricing.filter fun row =>
            row.accountId = accountId && sameCode row.countryCode query.countryCode &&
              row.businessType = "sms")).map fun found =>
            found.map fun row =>
              { price := row.price
                currency := "USD"
                source := some "account_country_pricing"
                country := none }
  | .countryPricing =>
      .ok <| (tables.latest sameCode query.channelId query.countryCode).map fun row =>
        { price := row.pricePerSms
          currency := row.currency
          source := none
          country := row.countryName }
  | .worldPricing =>
      .ok <| (tables.latest sameCode query.channelId "*").map fun row =>
        { price := row.pricePerSms
          currency := row.currency
          source := none
          country := some (if row.countryName.getD "" = "" then "全球" else row.countryName.getD "") }

def firstPrice (answer : PriceLookup → Except PriceError (Option PriceInfo)) :
    List PriceLookup → Except PriceError (Option PriceInfo)
  | [] => .ok none
  | lookup :: rest =>
      match answer lookup with
      | .error error => .error error
      | .ok (some info) => .ok (some info)
      | .ok none => firstPrice answer rest

def priceOf (tables : PriceTables) (query : PriceQuery) : Except PriceError (Option PriceInfo) :=
  firstPrice (tables.answer sameCode query) PriceLookup.all

end

end PriceTables

/-! ### Keys and patterns -/

/-- `f"price:{account_id or 'all'}:{channel_id}:{country_code}:{mnc or 'default'}"`. -/
def PriceQuery.cacheKey (query : PriceQuery) : String :=
  let account := (query.account.map toString).getD "all"
  let mnc := if query.mnc.getD "" = "" then "default" else query.mnc.getD ""
  s!"price:{account}:{query.channelId}:{query.countryCode}:{mnc}"

inductive PriceInvalidation where
  | invalidatePriceCache (channelId : Option ℕ) (countryCode : Option String)
  | invalidatePriceCacheForAccount (accountId : ℕ)
  deriving DecidableEq, Repr

def PriceInvalidation.pattern : PriceInvalidation → String
  | invalidatePriceCache (some channelId) countryCode =>
      let country := countryCode.getD ""
      if country = "" then s!"price:*:{channelId}:*" else s!"price:*:{channelId}:{country}:*"
  | invalidatePriceCache none countryCode =>
      let country := countryCode.getD ""
      if country = "" then "price:*" else s!"price:*:*:{country}:*"
  | invalidatePriceCacheForAccount accountId => s!"price:{accountId}:*"

/-- `KEYS` of Redis, for patterns whose only special character is the star. -/
def redisGlob : Glob Char where
  star := '*'
  skips _ := true
  ends := List.isEmpty

/-- `re.match` of a pattern whose stars have become `.*`, for patterns whose only special character
is the star: a dot does not match the end of a line, and the end of the key need not match. -/
def localGlob : Glob Char where
  star := '*'
  skips char := char != '\n'
  ends _ := true

namespace PriceInvalidation

def Lists (invalidation : PriceInvalidation) (key : String) : Prop :=
  redisGlob.accepts invalidation.pattern.toList key.toList

/-- `_match_pattern`. -/
def Matches (invalidation : PriceInvalidation) (key : String) : Prop :=
  localGlob.accepts invalidation.pattern.toList key.toList

instance (invalidation : PriceInvalidation) (key : String) : Decidable (invalidation.Lists key) :=
  inferInstanceAs (Decidable (_ = true))

instance (invalidation : PriceInvalidation) (key : String) :
    Decidable (invalidation.Matches key) :=
  inferInstanceAs (Decidable (_ = true))

end PriceInvalidation

/-! ### Changes of a price -/

inductive PriceChange where
  | unitPrice (accountId : ℕ)
  | accountPricing (accountId : ℕ)
  | countryPricing (channelId : ℕ) (countryCode : String)
  deriving DecidableEq, Repr

namespace PriceChange

def Commits (before : PriceTables) : PriceChange → PriceTables → Prop
  | unitPrice accountId, after =>
      (∀ other ≠ accountId,
        after.accounts.find? (·.id = other) = before.accounts.find? (·.id = other)) ∧
      after.accountPricing = before.accountPricing ∧ after.countryPricing = before.countryPricing
  | accountPricing accountId, after =>
      after.accounts = before.accounts ∧
      after.accountPricing.filter (·.accountId ≠ accountId) =
        before.accountPricing.filter (·.accountId ≠ accountId) ∧
      after.countryPricing = before.countryPricing
  | countryPricing channelId countryCode, after =>
      after.accounts = before.accounts ∧ after.accountPricing = before.accountPricing ∧
      after.countryPricing.filter
          (fun row => ¬(row.channelId = channelId ∧ row.countryCode = countryCode)) =
        before.countryPricing.filter
          fun row => ¬(row.channelId = channelId ∧ row.countryCode = countryCode)

/-- The call that follows the commit, in `update_account_admin`, in `set_account_country_routes`, and
in `create_pricing`, `update_pricing` and `delete_pricing`. -/
def invalidation : PriceChange → PriceInvalidation
  | unitPrice accountId => .invalidatePriceCacheForAccount accountId
  | accountPricing accountId => .invalidatePriceCacheForAccount accountId
  | countryPricing channelId countryCode =>
      .invalidatePriceCache (some channelId) (some countryCode)

end PriceChange

end Klsmsc
