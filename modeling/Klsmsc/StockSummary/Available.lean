import Klsmsc.CountryCode
import Klsmsc.Dlr.Receipts
import Klsmsc.StockSummary
import Mathlib.Algebra.GroupWithZero.Nat

/-!
# What is available

The same filter is answered twice. `calculate_stock` adds up buckets of the summary,
`build_filter_query` selects rows of the pool, and a purchase takes the rows of the query for a
quantity that it has checked against the buckets.

The buckets hold the dimensions without blanks around them and one label of age for each number. The
query compares the columns as they are stored, converts a calling code into a country, takes an age
as a range of dates that begins today, and knows of numbers that cool down. It does not know of
batches. Even where the summary is exact, the two agree only when as many numbers fall out on the
one side as on the other.
-/

namespace Klsmsc

open Library

/-- A row of `data_numbers` with the end of its cooling down. -/
structure PooledNumber extends DataNumber where
  cooldownUntil : Option ℤ
  deriving DecidableEq, Repr

/-- A row of `data_stock_summaries`. -/
structure StockBucket where
  key : StockKey
  totalCount : ℕ
  deriving DecidableEq, Repr

def Freshness.label : Freshness → String
  | .threeDays => "3day"
  | .sevenDays => "7day"
  | .thirtyDays => "30day"
  | .history => "history"

/-- `freshness_to_date_range`. -/
def freshnessToDateRange (today : ℤ) (label : String) : Option ℤ × ℤ :=
  if label = "3day" then (some (today - 3), today)
  else if label = "7day" then (some (today - 7), today)
  else if label = "30day" then (some (today - 30), today)
  else (none, today - 30)

/-- The condition on `data_date` that `build_filter_query` makes of a range. -/
def InDateRange (dataDate : Option ℤ) : Option ℤ × ℤ → Prop
  | (some first, last) => ∃ date ∈ dataDate, first ≤ date ∧ date ≤ last
  | (none, last) => ∀ date ∈ dataDate, date < last

instance (dataDate : Option ℤ) (range : Option ℤ × ℤ) : Decidable (InDateRange dataDate range) :=
  match range with
  | (some _, _) => inferInstanceAs (Decidable (∃ date ∈ dataDate, _))
  | (none, _) => inferInstanceAs (Decidable (∀ date ∈ dataDate, _))

/-- A `filter_criteria` without `tags` and `exclude_used_days`. -/
structure StockCriteria where
  country : Option String
  carrier : Option String
  source : Option String
  purpose : Option String
  freshness : Option String
  batchId : Option String
  deriving DecidableEq, Repr

namespace StockCriteria

/-- The conditions of `calculate_stock` on a bucket. -/
def Counts (criteria : StockCriteria) (key : StockKey) : Prop :=
  key.status = .active ∧
    (∀ country ∈ asked criteria.country, key.dims.countryCode = country) ∧
    (∀ carrier ∈ asked criteria.carrier, key.dims.carrier = carrier) ∧
    (∀ source ∈ asked criteria.source, key.dims.source = source) ∧
    (∀ purpose ∈ asked criteria.purpose, key.dims.purpose = purpose) ∧
    (∀ label ∈ asked criteria.freshness, key.freshness.label = label) ∧
    ∀ batchId ∈ asked criteria.batchId, key.dims.batchId = some batchId

instance (criteria : StockCriteria) (key : StockKey) : Decidable (criteria.Counts key) :=
  inferInstanceAs (Decidable (_ ∧ _))

/-- `calculate_stock`. -/
def calculateStock (criteria : StockCriteria) (buckets : List StockBucket) : ℕ :=
  ((buckets.filter fun bucket => criteria.Counts bucket.key).map StockBucket.totalCount).sum

section

variable (unicode : Unicode) (regionCodes : ℕ → List String) (today now : ℤ)

/-- The country that `build_filter_query` takes a spelling for, if `int` reads the digits. -/
def regionOf (country : String) : Option String :=
  if isDigits unicode country then
    (readInt unicode country).map fun code => (regionCodes code).head?.getD country
  else some country

/-- The country that `build_filter_query` compares with, if there is one. -/
def queriedCountry (criteria : StockCriteria) : Option (Option String) :=
  match asked criteria.country with
  | none => some none
  | some country => (regionOf unicode regionCodes country).map some

/-- The conditions of `build_filter_query` on a row, with `public_only`. -/
def Selects (criteria : StockCriteria) (country : Option String) (number : PooledNumber) : Prop :=
  number.status = .active ∧ number.accountId = none ∧
    (∀ region ∈ country, number.countryCode = region) ∧
    (∀ carrier ∈ asked criteria.carrier, number.carrier = some carrier) ∧
    (∀ source ∈ asked criteria.source, number.source = some source) ∧
    (∀ purpose ∈ asked criteria.purpose, number.purpose = some purpose) ∧
    (∀ label ∈ asked criteria.freshness,
      InDateRange number.dataDate (freshnessToDateRange today label)) ∧
    ∀ time ∈ number.cooldownUntil, time < now

instance (criteria : StockCriteria) (country : Option String) (number : PooledNumber) :
    Decidable (criteria.Selects today now country number) :=
  inferInstanceAs (Decidable (_ ∧ _))

/-- `build_filter_query`. It raises where `int` does. -/
def buildFilterQuery (criteria : StockCriteria) : Option (PooledNumber → Bool) :=
  (criteria.queriedCountry unicode regionCodes).map fun country number =>
    criteria.Selects today now country number

def Agrees (criteria : StockCriteria) (rows : List PooledNumber) (buckets : List StockBucket) :
    Prop :=
  ∃ selects ∈ criteria.buildFilterQuery unicode regionCodes today now,
    criteria.calculateStock buckets = rows.countP selects

instance (criteria : StockCriteria) (rows : List PooledNumber) (buckets : List StockBucket) :
    Decidable (criteria.Agrees unicode regionCodes today now rows buckets) :=
  inferInstanceAs (Decidable (∃ selects ∈ _, _))

end

end StockCriteria

structure ExactBuckets (unicode : Unicode) (today : ℤ) (rows : List PooledNumber)
    (buckets : List StockBucket) : Prop where
  once : (buckets.map StockBucket.key).Nodup
  counts : ∀ bucket ∈ buckets, bucket.totalCount =
    rows.countP fun number =>
      number.accountId = none ∧ number.stockKey unicode today = bucket.key
  reached : ∀ number ∈ rows, number.accountId = none →
    number.stockKey unicode today ∈ buckets.map StockBucket.key

/-! ### Ages -/

/-- A date in the range of a label whose numbers carry another label: the ranges begin today, so
that they hold the younger numbers, and an unknown label is taken for the history. -/
def OtherLabel (today : ℤ) (dataDate : Option ℤ) (label : String) : Prop :=
  (label = "7day" ∧ ∃ date ∈ dataDate, today - date ≤ 3) ∨
    (label = "30day" ∧ ∃ date ∈ dataDate, today - date ≤ 7) ∨
    label ∉ ["3day", "7day", "30day", "history"]

instance (today : ℤ) (dataDate : Option ℤ) (label : String) :
    Decidable (OtherLabel today dataDate label) :=
  inferInstanceAs (Decidable (_ ∨ _))

theorem computeFreshness_label_eq_iff (today date : ℤ) (label : String) :
    (computeFreshness today (some date)).label = label ↔
      (label = "3day" ∧ today - date ≤ 3) ∨
        (label = "7day" ∧ 3 < today - date ∧ today - date ≤ 7) ∨
        (label = "30day" ∧ 7 < today - date ∧ today - date ≤ 30) ∨
        (label = "history" ∧ 30 < today - date) := by
  simp only [computeFreshness]
  split
  · rename_i age
    have notOlder : ¬ 3 < today - date ∧ ¬ 7 < today - date ∧ ¬ 30 < today - date := by omega
    simp [Freshness.label, age, notOlder, eq_comm]
  · split
    · rename_i older age
      have notOlder : 3 < today - date ∧ ¬ 7 < today - date ∧ ¬ 30 < today - date := by omega
      simp [Freshness.label, older, age, notOlder, eq_comm]
    · split
      · rename_i young older age
        have notOlder : 7 < today - date ∧ ¬ 30 < today - date := by omega
        simp [Freshness.label, young, older, age, notOlder, eq_comm]
      · rename_i young older oldest
        have notYounger : 30 < today - date := by omega
        simp [Freshness.label, young, older, oldest, notYounger, eq_comm]

theorem inDateRange_some_iff (today date : ℤ) (label : String) :
    InDateRange (some date) (freshnessToDateRange today label) ↔
      if label = "3day" then 0 ≤ today - date ∧ today - date ≤ 3
      else if label = "7day" then 0 ≤ today - date ∧ today - date ≤ 7
      else if label = "30day" then 0 ≤ today - date ∧ today - date ≤ 30
      else 30 < today - date := by
  rw [freshnessToDateRange]
  split
  · simp [InDateRange]
    omega
  · split
    · simp [InDateRange]
      omega
    · split
      · simp [InDateRange]
        omega
      · simp [InDateRange]
        omega

theorem inDateRange_label_iff (today : ℤ) (dataDate : Option ℤ) :
    InDateRange dataDate
        (freshnessToDateRange today (computeFreshness today dataDate).label) ↔
      ∀ date ∈ dataDate, date ≤ today := by
  cases dataDate with
  | none => simp [computeFreshness, Freshness.label, freshnessToDateRange, InDateRange]
  | some date =>
      have labelled := (computeFreshness_label_eq_iff today date _).mp rfl
      rw [inDateRange_some_iff]
      simp only [Option.mem_some_iff, forall_eq']
      rcases labelled with ⟨is, age⟩ | ⟨is, age⟩ | ⟨is, age⟩ | ⟨is, age⟩
      · simp [is]
        omega
      · simp [is]
        omega
      · simp [is]
        omega
      · simp [is]
        omega

theorem label_ne_iff {today : ℤ} {dataDate : Option ℤ} {label : String}
    (inside : InDateRange dataDate (freshnessToDateRange today label)) :
    (computeFreshness today dataDate).label ≠ label ↔ OtherLabel today dataDate label := by
  cases dataDate with
  | none =>
      have old : label ≠ "3day" ∧ label ≠ "7day" ∧ label ≠ "30day" := by
        refine ⟨?_, ?_, ?_⟩
        all_goals
          rintro rfl
          simp [freshnessToDateRange, InDateRange] at inside
      simp [computeFreshness, Freshness.label, OtherLabel, old, eq_comm]
  | some date =>
      rw [inDateRange_some_iff] at inside
      rw [Ne, computeFreshness_label_eq_iff]
      by_cases three : label = "3day"
      · simp [OtherLabel, three] at inside ⊢
        omega
      by_cases seven : label = "7day"
      · simp [OtherLabel, seven] at inside ⊢
        omega
      by_cases thirty : label = "30day"
      · simp [OtherLabel, thirty] at inside ⊢
        omega
      simp only [three, seven, thirty, if_false] at inside
      simp [OtherLabel, three, seven, thirty, inside]

/-! ### Where the two sides differ -/

namespace StockCriteria

variable (unicode : Unicode) (today now : ℤ) (criteria : StockCriteria) (region : Option String)
  (number : PooledNumber)

/-- The summary counts the number, but the query does not select it: the country was a
calling code, or a column of the number is missing or has blanks around it, or it is dated in the
future, or it cools down. -/
def Overcounted : Prop :=
  number.accountId = none ∧ criteria.Counts (number.stockKey unicode today) ∧
    ((∃ country ∈ region, number.countryCode ≠ country) ∨
      (∃ carrier ∈ asked criteria.carrier, number.carrier ≠ some carrier) ∨
      (∃ source ∈ asked criteria.source, number.source ≠ some source) ∨
      (∃ purpose ∈ asked criteria.purpose, number.purpose ≠ some purpose) ∨
      ((asked criteria.freshness).isSome ∧ ∃ date ∈ number.dataDate, today < date) ∨
      ∃ time ∈ number.cooldownUntil, now ≤ time)

/-- The query selects the number, but the summary does not count it: the country was a calling code,
or a criterion has blanks around it, or the label of the number is another one, or it is of another
batch. -/
def Overlooked : Prop :=
  criteria.Selects today now region number ∧
    ((∃ country ∈ asked criteria.country, normDim unicode (some number.countryCode) ≠ country) ∨
      (∃ carrier ∈ asked criteria.carrier, (number.dims unicode).carrier ≠ carrier) ∨
      (∃ source ∈ asked criteria.source, normDim unicode number.source ≠ source) ∨
      (∃ purpose ∈ asked criteria.purpose, normDim unicode number.purpose ≠ purpose) ∨
      (∃ label ∈ asked criteria.freshness, OtherLabel today number.dataDate label) ∨
      ∃ batchId ∈ asked criteria.batchId, (number.dims unicode).batchId ≠ some batchId)

instance : Decidable (criteria.Overcounted unicode today now region number) :=
  inferInstanceAs (Decidable (_ ∧ _))

instance : Decidable (criteria.Overlooked unicode today now region number) :=
  inferInstanceAs (Decidable (_ ∧ _))

section

variable {unicode : Unicode} {today now : ℤ} {criteria : StockCriteria} {region : Option String}
  {number : PooledNumber}

theorem counts_and_not_selects_iff :
    (number.accountId = none ∧ criteria.Counts (number.stockKey unicode today)) ∧
        ¬ criteria.Selects today now region number ↔
      criteria.Overcounted unicode today now region number := by
  rw [Overcounted, and_assoc]
  refine and_congr_right fun unsold => and_congr_right fun counts => ?_
  have active : number.status = .active := counts.1
  have aged : (∃ label ∈ asked criteria.freshness,
      ¬ InDateRange number.dataDate (freshnessToDateRange today label)) ↔
        (asked criteria.freshness).isSome ∧ ∃ date ∈ number.dataDate, today < date := by
    have labelled := counts.2.2.2.2.2.1
    cases named : asked criteria.freshness with
    | none => simp
    | some label =>
        have own : (computeFreshness today number.dataDate).label = label := labelled label named
        simp [← own, inDateRange_label_iff]
  rw [← aged]
  simp only [Selects, active, unsold, true_and, not_and_or, not_forall, not_lt, exists_prop]

theorem selects_and_not_counts_iff :
    criteria.Selects today now region number ∧
        ¬ (number.accountId = none ∧ criteria.Counts (number.stockKey unicode today)) ↔
      criteria.Overlooked unicode today now region number := by
  rw [Overlooked]
  refine and_congr_right fun selects => ?_
  rcases selects with ⟨active, unsold, _, _, _, _, aged, _⟩
  have labelled : (∃ label ∈ asked criteria.freshness,
      (computeFreshness today number.dataDate).label ≠ label) ↔
        ∃ label ∈ asked criteria.freshness, OtherLabel today number.dataDate label :=
    exists_congr fun label => and_congr_right fun named => label_ne_iff (aged label named)
  rw [← labelled]
  have status : (number.stockKey unicode today).status = .active := active
  simp only [Counts, status, unsold, true_and, not_and_or, not_forall, exists_prop]
  rfl

theorem calculateStock_eq_countP {rows : List PooledNumber} {buckets : List StockBucket}
    (exact_ : ExactBuckets unicode today rows buckets) :
    criteria.calculateStock buckets = rows.countP fun number =>
      number.accountId = none ∧ criteria.Counts (number.stockKey unicode today) := by
  have once : ((buckets.map fun bucket => (bucket.key, bucket.totalCount)).map Prod.fst).Nodup := by
    rw [List.map_map]
    exact exact_.once
  have counts : ∀ entry ∈ buckets.map fun bucket => (bucket.key, bucket.totalCount),
      entry.2 = (rows.filter fun number => number.accountId = none).countP fun number =>
        number.stockKey unicode today = entry.1 := by
    intro entry member
    obtain ⟨bucket, inside, rfl⟩ := List.mem_map.mp member
    rw [exact_.counts bucket inside, List.countP_filter]
    exact List.countP_congr fun number _ => by simp [and_comm]
  have reached : ∀ number ∈ rows.filter fun number => number.accountId = none,
      number.stockKey unicode today ∈
        (buckets.map fun bucket => (bucket.key, bucket.totalCount)).map Prod.fst := by
    intro number member
    obtain ⟨inside, unsold⟩ := List.mem_filter.mp member
    rw [List.map_map]
    exact exact_.reached number inside (of_decide_eq_true unsold)
  have summed := sum_counts_of_nodup (fun number : PooledNumber => number.stockKey unicode today)
    criteria.Counts once counts reached
  rw [List.filter_map, List.map_map, List.countP_filter] at summed
  exact summed.trans (List.countP_congr fun number _ => by simp [and_comm])

end

/-- What the buckets hold is what the query selects just when as many numbers are counted and not
selected as are selected and not counted. -/
theorem agrees_iff (unicode : Unicode) (regionCodes : ℕ → List String) (today now : ℤ)
    (criteria : StockCriteria) {rows : List PooledNumber} {buckets : List StockBucket}
    (exact_ : ExactBuckets unicode today rows buckets) :
    criteria.Agrees unicode regionCodes today now rows buckets ↔
      ∃ region ∈ criteria.queriedCountry unicode regionCodes,
        (rows.countP fun number => criteria.Overcounted unicode today now region number) =
          rows.countP fun number => criteria.Overlooked unicode today now region number := by
  have balance : ∀ region : Option String,
      ((rows.countP fun number =>
          number.accountId = none ∧ criteria.Counts (number.stockKey unicode today)) =
        rows.countP fun number => criteria.Selects today now region number) ↔
      (rows.countP fun number => criteria.Overcounted unicode today now region number) =
        rows.countP fun number => criteria.Overlooked unicode today now region number := by
    intro region
    rw [countP_eq_countP_iff]
    simp only [counts_and_not_selects_iff, selects_and_not_counts_iff]
  rw [Agrees, buildFilterQuery, calculateStock_eq_countP exact_]
  constructor
  · rintro ⟨selects, built, same⟩
    obtain ⟨region, queried, rfl⟩ := Option.map_eq_some_iff.mp built
    exact ⟨region, queried, (balance region).mp same⟩
  · rintro ⟨region, queried, balanced⟩
    exact ⟨_, Option.map_eq_some_iff.mpr ⟨region, queried, rfl⟩, (balance region).mpr balanced⟩

def collectedToday : PooledNumber where
  id := 1
  phoneNumber := "+8613800138000"
  countryCode := "CN"
  status := .active
  carrier := some "China Mobile"
  source := some "otp"
  purpose := some "bc"
  dataDate := some 0
  batchId := some "IMP-1"
  lastUsedAt := none
  useCount := 0
  accountId := none
  cooldownUntil := none

def bucketOfToday : StockBucket where
  key := ⟨⟨"CN", "China Mobile", "otp", "bc", some "IMP-1"⟩, .threeDays, .active⟩
  totalCount := 1

theorem collectedToday_exact : ExactBuckets Unicode.ascii 0 [collectedToday] [bucketOfToday] where
  once := by decide
  counts := by decide
  reached := by decide

def chinaOnly (code : ℕ) : List String :=
  if code = 86 then ["CN"] else []

def byCallingCode : StockCriteria where
  country := some "86"
  carrier := none
  source := none
  purpose := none
  freshness := none
  batchId := none

theorem agrees_iff_callingCode :
    ¬ byCallingCode.Agrees Unicode.ascii chinaOnly 0 0 [collectedToday] [bucketOfToday] := by
  rw [agrees_iff Unicode.ascii chinaOnly 0 0 byCallingCode collectedToday_exact]
  decide

def ofTheWeek : StockCriteria where
  country := some "CN"
  carrier := none
  source := some "otp"
  purpose := some "bc"
  freshness := some "7day"
  batchId := none

/-- The query selects the number of today, and the summary counts none. -/
theorem week_without_today :
    ExactBuckets Unicode.ascii 0 [collectedToday] [bucketOfToday] ∧
      ¬ ofTheWeek.Agrees Unicode.ascii chinaOnly 0 0 [collectedToday] [bucketOfToday] := by
  exact ⟨collectedToday_exact, by decide⟩

end StockCriteria

end Klsmsc
