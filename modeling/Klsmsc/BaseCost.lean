import Klsmsc.CountryCode
import Klsmsc.PriceCache

/-!
# The cost of a message

`PricingEngine.resolve_base_cost_per_sms` looks for the cost of a message under all spellings of its
country, `get_price` for its price under the one spelling that it is called with. Which rows of
`country_pricing` the two find.
-/

namespace Klsmsc

/-- What `resolve_base_cost_per_sms` reads of a channel. -/
structure CostChannel where
  costRate : Option Money
  protocol : Protocol
  deriving DecidableEq, Repr

/-- `PricingNotFoundError`. -/
structure PricingNotFound where
  countryCode : String
  channelId : ℕ
  deriving DecidableEq, Repr

def orderedCodes (unicode : Unicode) (order : List String → List String) (code : String) :
    List String :=
  let spell (text : String) : String := unicode.upper (strip unicode text)
  let iso := spell ((normalizeCountryCode unicode (some code)).getD "")
  (getCountryVariants unicode order (some code)).foldl
    (fun codes variant =>
      let spelt := spell variant
      if spelt ≠ "" ∧ spelt ∉ codes then codes ++ [spelt] else codes)
    (if iso = "" then [] else [iso])

namespace PriceTables

section

variable (unicode : Unicode) (order : List String → List String)
  (sameCode : String → String → Bool) (tables : PriceTables) (channelId : ℕ)

def latestCost (code : String) : Option CountryPricing :=
  (tables.countryPricing.filter fun row =>
    row.channelId = channelId && sameCode (unicode.upper row.countryCode) code).argmax
      CountryPricing.effectiveDate

def specificCost (code : String) : Option CountryPricing :=
  (orderedCodes unicode order code).findSome? fun spelling =>
    (tables.latestCost unicode sameCode channelId spelling).filter fun row => 0 < row.pricePerSms

/-- `resolve_base_cost_per_sms`, with what the cache has. -/
def resolveBaseCostPerSms (cached : Option Money) (channel : Option CostChannel) (code : String) :
    Except PricingNotFound Money :=
  match cached with
  | some cost => .ok cost
  | none =>
      match tables.specificCost unicode order sameCode channelId code with
      | some row => .ok row.pricePerSms
      | none =>
          let world := (tables.latest sameCode channelId "*").filter fun row => 0 < row.pricePerSms
          match world with
          | some row => .ok row.pricePerSms
          | none =>
              match (channel.bind CostChannel.costRate).filter fun rate => 0 < rate with
              | some rate => .ok rate
              | none =>
                  if channel.any fun channel => channel.protocol = .virtual then .ok 0
                  else .error ⟨code, channelId⟩

/-- The row from which `get_price` takes a price when the account has none of its own. -/
def salesRow (code : String) : Option CountryPricing :=
  (tables.latest sameCode channelId code).or (tables.latest sameCode channelId "*")

def HasCost (code : String) : Prop :=
  ∃ spelling ∈ orderedCodes unicode order code, ∃ row,
    tables.latestCost unicode sameCode channelId spelling = some row ∧ 0 < row.pricePerSms

def HasRow (code : String) : Prop :=
  ∃ row ∈ tables.countryPricing, row.channelId = channelId ∧ sameCode row.countryCode code = true

end

section

variable (sameCode : String → String → Bool) (tables : PriceTables) (query : PriceQuery)

def NoOverride : Prop :=
  tables.answer sameCode query .accountUnitPrice = .ok none ∧
    tables.answer sameCode query .accountCountryPricing = .ok none

def PricedFromCountry (unicode : Unicode) : Prop :=
  ∃ row info, tables.salesRow sameCode query.channelId query.countryCode = some row ∧
    normalizeCountryCode unicode (some row.countryCode) =
      normalizeCountryCode unicode (some query.countryCode) ∧
    tables.priceOf sameCode query = .ok (some info) ∧ info.price = row.pricePerSms

end

section

variable {unicode : Unicode} {order : List String → List String}
  {sameCode : String → String → Bool} {tables : PriceTables} {channelId : ℕ} {code : String}

theorem specificCost_isSome :
    (tables.specificCost unicode order sameCode channelId code).isSome ↔
      tables.HasCost unicode order sameCode channelId code := by
  rw [specificCost, List.findSome?_isSome_iff, HasCost]
  apply exists_congr
  intro spelling
  apply and_congr_right
  intro _
  cases tables.latestCost unicode sameCode channelId spelling with
  | none => simp
  | some row => simp [Option.filter_some]

theorem priceOf_of_noOverride {query : PriceQuery} (noOverride : tables.NoOverride sameCode query) :
    ∃ found, tables.priceOf sameCode query = .ok found ∧
      found.map PriceInfo.price =
        (tables.salesRow sameCode query.channelId query.countryCode).map
          CountryPricing.pricePerSms := by
  rcases noOverride with ⟨noUnit, noCountry⟩
  rw [priceOf, PriceLookup.all, firstPrice, noUnit]
  dsimp only
  rw [firstPrice, noCountry]
  dsimp only
  rw [salesRow]
  cases local_ : tables.latest sameCode query.channelId query.countryCode with
  | some row => simp [firstPrice, answer, local_]
  | none =>
      cases world : tables.latest sameCode query.channelId "*" with
      | some row => simp [firstPrice, answer, local_, world]
      | none => simp [firstPrice, answer, local_, world]

theorem latest_eq_some {row : CountryPricing}
    (found : tables.latest sameCode channelId code = some row) :
    row ∈ tables.countryPricing ∧ row.channelId = channelId ∧
      sameCode row.countryCode code = true := by
  have member := List.argmax_mem found
  simpa using member

theorem latest_eq_none :
    tables.latest sameCode channelId code = none ↔ ¬tables.HasRow sameCode channelId code := by
  rw [latest, List.argmax_eq_none, List.filter_eq_nil_iff, HasRow]
  simp

end

section

variable {unicode : Unicode} {order : List String → List String}
  {sameCode : String → String → Bool} {tables : PriceTables} {query : PriceQuery}

theorem star_not_recognised (star : normalizeCountryCode unicode (some "*") = some "*")
    {code : String} (recognised : Recognised unicode code) :
    normalizeCountryCode unicode (some "*") ≠ normalizeCountryCode unicode (some code) := by
  rcases recognised with ⟨country, member, normal⟩
  have named : ∀ country ∈ countryData, country.iso ≠ "*" := by decide +kernel
  rw [star, normal]
  intro same
  exact named country member (Option.some.inj same).symm

/-- A price of the country is found exactly when there is a row with the code as it is: under the
code alone, and behind it the star, which is no spelling of a country. -/
theorem pricedFromCountry_iff (star : normalizeCountryCode unicode (some "*") = some "*")
    (spelt : ∀ row ∈ tables.countryPricing,
      Recognised unicode row.countryCode ∨ row.countryCode = "*")
    (collates : ∀ left right, (Recognised unicode left ∨ left = "*") →
      (Recognised unicode right ∨ right = "*") → sameCode left right = true →
        normalizeCountryCode unicode (some left) = normalizeCountryCode unicode (some right))
    (recognised : Recognised unicode query.countryCode)
    (noOverride : tables.NoOverride sameCode query) :
    tables.PricedFromCountry sameCode query unicode ↔
      tables.HasRow sameCode query.channelId query.countryCode := by
  constructor
  · rintro ⟨row, info, found, sameCountry, -⟩
    by_contra absent
    rw [salesRow, latest_eq_none.mpr absent, Option.none_or] at found
    rcases latest_eq_some found with ⟨member, -, starred⟩
    have same := collates _ _ (spelt row member) (.inr rfl) starred
    exact star_not_recognised star recognised (same.symm.trans sameCountry)
  · intro present
    cases found : tables.latest sameCode query.channelId query.countryCode with
    | none => exact absurd present (latest_eq_none.mp found)
    | some row =>
        rcases latest_eq_some found with ⟨member, -, sameSpelling⟩
        have same := collates _ _ (spelt row member) (.inl recognised) sameSpelling
        rcases priceOf_of_noOverride noOverride with ⟨price, priced, amount⟩
        have taken : tables.salesRow sameCode query.channelId query.countryCode = some row := by
          rw [salesRow, found, Option.some_or]
        rw [taken] at amount
        rcases Option.map_eq_some_iff.mp amount with ⟨info, rfl, equal⟩
        exact ⟨row, info, taken, same, priced, equal⟩

/-- Where a cost is found for the country, the message is sold at a price of the country exactly
when the code itself is in the table; and no list of variants is complete. -/
theorem cost_and_price_agree_iff (star : normalizeCountryCode unicode (some "*") = some "*")
    (blank : unicode.isSpace ' ' = true) (permutes : ∀ codes, (order codes).Perm codes)
    (spelt : ∀ row ∈ tables.countryPricing,
      Recognised unicode row.countryCode ∨ row.countryCode = "*")
    (collates : ∀ left right, (Recognised unicode left ∨ left = "*") →
      (Recognised unicode right ∨ right = "*") → sameCode left right = true →
        normalizeCountryCode unicode (some left) = normalizeCountryCode unicode (some right))
    (recognised : Recognised unicode query.countryCode)
    (noOverride : tables.NoOverride sameCode query) :
    (((tables.specificCost unicode order sameCode query.channelId query.countryCode).isSome →
        tables.PricedFromCountry sameCode query unicode) ↔
      ¬tables.HasCost unicode order sameCode query.channelId query.countryCode ∨
        tables.HasRow sameCode query.channelId query.countryCode) ∧
    ∀ code, ∃ spelling,
      normalizeCountryCode unicode (some spelling) = normalizeCountryCode unicode code ∧
        spelling ∉ getCountryVariants unicode order code := by
  refine ⟨?_, variants_incomplete blank permutes⟩
  rw [specificCost_isSome, pricedFromCountry_iff star spelt collates recognised noOverride,
    imp_iff_not_or]

end

/-- One row of `country_pricing`, for the first channel. -/
def onePrice (code : String) : PriceTables where
  accounts := []
  accountPricing := []
  countryPricing := [⟨1, code, none, 5, "USD", 0⟩]

theorem spellings_of_thailand :
    normalizeCountryCode .ascii (some "*") = some "*" ∧
      normalizeCountryCode .ascii (some "TH") = some "TH" ∧
      normalizeCountryCode .ascii (some "066") = some "TH" ∧
      "TH" ∉ getCountryVariants .ascii id (some "066") ∧
      (onePrice "66").specificCost .ascii id (· == ·) 1 "TH" =
        some ⟨1, "66", none, 5, "USD", 0⟩ := by
  decide +kernel

theorem cost_and_price_agree_iff_thailand :
    ((((onePrice "TH").specificCost .ascii id (· == ·) 1 "TH").isSome →
        (onePrice "TH").PricedFromCountry (· == ·) ⟨1, "TH", none, none⟩ .ascii) ↔
      ¬(onePrice "TH").HasCost .ascii id (· == ·) 1 "TH" ∨
        (onePrice "TH").HasRow (· == ·) 1 "TH") ∧
    ∀ code, ∃ spelling,
      normalizeCountryCode .ascii (some spelling) = normalizeCountryCode .ascii code ∧
        spelling ∉ getCountryVariants .ascii id code := by
  rcases spellings_of_thailand with ⟨star, normal, -⟩
  have thailand : Recognised .ascii "TH" :=
    ⟨⟨"TH", "66", ["泰国"]⟩, by decide +kernel, normal⟩
  have spelt : ∀ row ∈ (onePrice "TH").countryPricing,
      Recognised .ascii row.countryCode ∨ row.countryCode = "*" := by
    intro row member
    rw [List.mem_singleton.mp member]
    exact .inl thailand
  refine @cost_and_price_agree_iff .ascii id (· == ·) (onePrice "TH") ⟨1, "TH", none, none⟩
    star (by decide) (fun codes => .refl codes) spelt ?_ thailand ⟨rfl, rfl⟩
  intro left right _ _ same
  rw [eq_of_beq same]

/-- With the calling code in the table, a message to `TH` has a cost and no price; and the variants
of the padded calling code lack `TH`. -/
theorem cost_without_price :
    (onePrice "66").specificCost .ascii id (· == ·) 1 "TH" = some ⟨1, "66", none, 5, "USD", 0⟩ ∧
      (onePrice "66").priceOf (· == ·) ⟨1, "TH", none, none⟩ = .ok none ∧
      ¬(onePrice "66").PricedFromCountry (· == ·) ⟨1, "TH", none, none⟩ .ascii ∧
      normalizeCountryCode .ascii (some "TH") = normalizeCountryCode .ascii (some "066") ∧
      "TH" ∉ getCountryVariants .ascii id (some "066") := by
  have unpriced : (onePrice "66").priceOf (· == ·) ⟨1, "TH", none, none⟩ = .ok none := by
    decide +kernel
  rcases spellings_of_thailand with ⟨-, normal, padded, unlisted, cost⟩
  refine ⟨cost, unpriced, ?_, normal.trans padded.symm, unlisted⟩
  rintro ⟨row, info, -, -, priced, -⟩
  rw [unpriced] at priced
  cases priced

end PriceTables

end Klsmsc
