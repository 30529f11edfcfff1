import Klsmsc.Library.Memos
import Klsmsc.PrivateLibrary.UploadParse
import Mathlib.Algebra.GroupWithZero.Nat

/-!
# The numbers of other countries

Several countries share a calling code. `filter_numbers_by_real_country` asks `phonenumbers` for the
region of a number with such a code, and takes the numbers of other countries than that of the
account out of an upload. A memo keeps the regions under the first six characters of the numbers.

The table of calling codes and the region of a number are parameters.
-/

namespace Klsmsc

open Library
open Sms (Text)

/-- What `phonenumbers` knows: `COUNTRY_CODE_TO_REGION_CODE`, and the region of a number. A number
that it cannot parse has none. -/
structure PhoneRegions where
  ofCode : ℕ → Option (List String)
  ofNumber : Text → Option String

/-- The number with its sign: `s`. -/
def withPlus (number : Text) : Text :=
  match number with
  | '+' :: _ => number
  | _ => '+' :: number

/-- `dropped[country] = dropped.get(country, 0) + 1`. -/
def countDropped (country : String) : List (String × ℕ) → List (String × ℕ)
  | [] => [(country, 1)]
  | (other, count) :: rest =>
      if other = country then (other, count + 1) :: rest
      else (other, count) :: countDropped country rest

/-- `(iso or acc) == acc`. -/
def keepsRegion (account : String) (region : Option String) : Bool :=
  (asked region).getD account = account

structure CountryFilter where
  memo : List (Text × Option String)
  kept : List Text
  dropped : List (String × ℕ)

namespace PhoneRegions

variable (unicode : Unicode) (regions : PhoneRegions)

/-- The code is one of `_shared_calling_codes`. -/
def isShared (code : ℕ) : Bool :=
  (regions.ofCode code).any fun names =>
    1 < (names.filter fun name => name ≠ "" ∧ name ≠ "ZZ").length

/-- `_calling_code_of`. The numbers are those of E.164: `int` takes what `isdigit` does. -/
def callingCodeOf (digits : Text) : Option ℕ :=
  [3, 2, 1].findSome? fun length =>
    if length ≤ digits.length ∧ (digits.take length).all unicode.isDigit then
      (digitsValue unicode.decimal 10 0 (digits.take length)).filter fun code =>
        (regions.ofCode code).isSome
    else none

def hasSharedCode (number : Text) : Bool :=
  (regions.callingCodeOf unicode ((withPlus number).drop 1)).any regions.isShared

def regionKey (number : Text) : Text :=
  (withPlus number).take 6

def regionOf (number : Text) : Option String :=
  regions.ofNumber (withPlus number)

def take (account : String) (state : CountryFilter) (number : Text) : CountryFilter :=
  if regions.hasSharedCode unicode number then
    let found := memoised regionKey regions.regionOf state.memo number
    if keepsRegion account found.1 then
      { state with memo := found.2, kept := state.kept ++ [number] }
    else
      { state with
        memo := found.2
        dropped := countDropped ((asked found.1).getD "UNKNOWN") state.dropped }
  else { state with kept := state.kept ++ [number] }

/-- `filter_numbers_by_real_country`. -/
def filterNumbersByRealCountry (accIso : Option String) (numbers : List Text) :
    List Text × List (String × ℕ) :=
  match uploadRegion unicode accIso with
  | none => (numbers, [])
  | some account =>
      let state := numbers.foldl (regions.take unicode account) ⟨[], [], []⟩
      (state.kept, state.dropped)

def keepsAlone (accIso : Option String) (number : Text) : Bool :=
  match uploadRegion unicode accIso with
  | none => true
  | some account =>
      !regions.hasSharedCode unicode number || keepsRegion account (regions.regionOf number)

/-- The filter keeps the numbers that it keeps one by one, whatever their order, and counts the
others. -/
structure OrderFree (accIso : Option String) (numbers : List Text) : Prop where
  separately : (regions.filterNumbersByRealCountry unicode accIso numbers).1 =
    numbers.filter (regions.keepsAlone unicode accIso)
  permuted : ∀ others : List Text, others.Perm numbers →
    (regions.filterNumbersByRealCountry unicode accIso others).1.Perm
      (regions.filterNumbersByRealCountry unicode accIso numbers).1
  counted : (regions.filterNumbersByRealCountry unicode accIso numbers).1.length +
    ((regions.filterNumbersByRealCountry unicode accIso numbers).2.map Prod.snd).sum =
      numbers.length

/-- Two numbers with shared codes whose first six characters are the same are both of the country of
the account, or unknown, or neither is. -/
def SameByKey (accIso : Option String) (numbers : List Text) : Prop :=
  ∀ account, uploadRegion unicode accIso = some account →
    ∀ left ∈ numbers.filter (regions.hasSharedCode unicode),
      ∀ right ∈ numbers.filter (regions.hasSharedCode unicode), regionKey left = regionKey right →
        keepsRegion account (regions.regionOf left) = keepsRegion account (regions.regionOf right)

/-! ### The loop -/

def passes (account : String) (memo : List (Text × Option String)) (number : Text) : Bool :=
  !regions.hasSharedCode unicode number ||
    (memo.lookup (regionKey number)).any (keepsRegion account)

variable {unicode : Unicode} {regions : PhoneRegions} {account : String} {accIso : Option String}
  {numbers : List Text}

theorem sum_countDropped (country : String) (dropped : List (String × ℕ)) :
    ((countDropped country dropped).map Prod.snd).sum = (dropped.map Prod.snd).sum + 1 := by
  induction dropped with
  | nil => rfl
  | cons entry rest ih =>
      rcases entry with ⟨other, count⟩
      simp only [countDropped]
      split
      · simp only [List.map_cons, List.sum_cons]
        omega
      · simp only [List.map_cons, List.sum_cons, ih]
        omega

theorem memo_take (state : CountryFilter) (number : Text) :
    (regions.take unicode account state number).memo =
      if regions.hasSharedCode unicode number then
        (memoised regionKey regions.regionOf state.memo number).2
      else state.memo := by
  unfold take
  split
  · simp only
    split <;> rfl
  · rfl

theorem memo_foldl (state : CountryFilter) :
    (numbers.foldl (regions.take unicode account) state).memo =
      memoAfter regionKey regions.regionOf state.memo
        (numbers.filter (regions.hasSharedCode unicode)) := by
  induction numbers generalizing state with
  | nil => rfl
  | cons number numbers ih =>
      rw [List.foldl_cons, ih, memo_take]
      split
      · rename_i shared
        rw [List.filter_cons_of_pos shared]
        rfl
      · rename_i alone
        rw [List.filter_cons_of_neg alone]

theorem kept_take {state : CountryFilter} {number : Text} {memo : List (Text × Option String)}
    (known : ∀ key region,
      (regions.take unicode account state number).memo.lookup key = some region →
        memo.lookup key = some region) :
    (regions.take unicode account state number).kept =
      state.kept ++ [number].filter (regions.passes unicode account memo) := by
  cases shared : regions.hasSharedCode unicode number with
  | false => simp [take, passes, shared]
  | true =>
      rw [memo_take, if_pos shared] at known
      have found := known _ _ lookup_memoised_self
      simp only [take, passes, shared, if_true, List.filter_cons, found, List.filter_nil]
      cases keeps : keepsRegion account
        (memoised regionKey regions.regionOf state.memo number).1 <;> simp [keeps]

theorem kept_foldl (state : CountryFilter) :
    (numbers.foldl (regions.take unicode account) state).kept =
      state.kept ++ numbers.filter (regions.passes unicode account
        (numbers.foldl (regions.take unicode account) state).memo) := by
  induction numbers generalizing state with
  | nil => simp
  | cons number numbers ih =>
      have known : ∀ key region,
          (regions.take unicode account state number).memo.lookup key = some region →
          (numbers.foldl (regions.take unicode account)
            (regions.take unicode account state number)).memo.lookup key = some region := by
        intro key region found
        rw [memo_foldl]
        exact lookup_memoAfter_of_known found
      change _ = _ ++ ([number] ++ numbers).filter _
      rw [List.foldl_cons, ih, kept_take known, List.filter_append, List.append_assoc]

theorem counted_foldl (state : CountryFilter) :
    (numbers.foldl (regions.take unicode account) state).kept.length +
        ((numbers.foldl (regions.take unicode account) state).dropped.map Prod.snd).sum =
      state.kept.length + (state.dropped.map Prod.snd).sum + numbers.length := by
  induction numbers generalizing state with
  | nil => rfl
  | cons number numbers ih =>
      rw [List.foldl_cons, ih, List.length_cons]
      unfold take
      simp only
      split
      · split
        · simp only [List.length_append, List.length_singleton]
          omega
        · simp only [sum_countDropped]
          omega
      · simp only [List.length_append, List.length_singleton]
        omega

/-! ### The order of the numbers -/

theorem passes_eq_keepsAlone_iff {memo : List (Text × Option String)}
    (named : uploadRegion unicode accIso = some account) :
    (∀ number ∈ numbers,
      regions.passes unicode account memo number = regions.keepsAlone unicode accIso number) ↔
    ∀ number ∈ numbers.filter (regions.hasSharedCode unicode),
      (memo.lookup (regionKey number)).any (keepsRegion account) =
        keepsRegion account (regions.regionOf number) := by
  simp only [List.mem_filter, keepsAlone, passes, named]
  constructor
  · rintro agrees number ⟨inside, shared⟩
    have agreed := agrees number inside
    rw [shared] at agreed
    exact agreed
  · intro agrees number inside
    cases shared : regions.hasSharedCode unicode number with
    | false => rfl
    | true => exact agrees number ⟨inside, shared⟩

theorem separately_iff :
    (regions.filterNumbersByRealCountry unicode accIso numbers).1 =
        numbers.filter (regions.keepsAlone unicode accIso) ↔
      regions.SameByKey unicode accIso numbers := by
  unfold filterNumbersByRealCountry SameByKey
  cases named : uploadRegion unicode accIso with
  | none =>
      have all : ∀ number ∈ numbers, regions.keepsAlone unicode accIso number = true := by
        intro number _
        simp [keepsAlone, named]
      simp [List.filter_eq_self.mpr all]
  | some account =>
      simp only [kept_foldl, memo_foldl, List.nil_append, filter_eq_filter_iff]
      rw [passes_eq_keepsAlone_iff named, test_memoAfter_iff]
      constructor
      · intro same other isAccount
        cases isAccount
        exact same
      · exact fun same => same account rfl

/-- The filter does not depend on the order of the numbers exactly when the key of the memo tells
those of the country of the account from the others. -/
theorem filterNumbersByRealCountry_orderFree_iff :
    regions.OrderFree unicode accIso numbers ↔ regions.SameByKey unicode accIso numbers := by
  constructor
  · exact fun free => separately_iff.mp free.separately
  · intro same
    refine ⟨separately_iff.mpr same, ?_, ?_⟩
    · intro others permuted
      have sameOthers : regions.SameByKey unicode accIso others := by
        intro account named left inLeft right inRight
        exact same account named left ((permuted.filter _).mem_iff.mp inLeft) right
          ((permuted.filter _).mem_iff.mp inRight)
      rw [separately_iff.mpr same, separately_iff.mpr sameOthers]
      exact permuted.filter _
    · unfold filterNumbersByRealCountry
      cases uploadRegion unicode accIso with
      | none => rfl
      | some account =>
          refine (counted_foldl ⟨[], [], []⟩).trans ?_
          exact Nat.zero_add _

def british : PhoneRegions where
  ofCode code := if code = 44 then some ["GB", "GG", "IM", "JE"] else none
  ofNumber number :=
    if "+4479111".toList.isPrefixOf number ∨ "+4479117".toList.isPrefixOf number then some "GG"
    else some "GB"

/-- A British number and one of Guernsey with the same first six characters: the first of them
decides about both. -/
theorem not_orderFree_british :
    (british.filterNumbersByRealCountry Unicode.ascii (some "GB")
        ["+447912345678".toList, "+447911123456".toList]).1 =
      ["+447912345678".toList, "+447911123456".toList] ∧
    british.filterNumbersByRealCountry Unicode.ascii (some "GB")
        ["+447911123456".toList, "+447912345678".toList] = ([], [("GG", 2)]) ∧
    ¬british.OrderFree Unicode.ascii (some "GB")
        ["+447912345678".toList, "+447911123456".toList] := by
  have kept : (british.filterNumbersByRealCountry Unicode.ascii (some "GB")
        ["+447912345678".toList, "+447911123456".toList]).1 =
      ["+447912345678".toList, "+447911123456".toList] := by
    decide
  refine ⟨kept, by decide, fun free => ?_⟩
  have alone := free.separately
  rw [kept] at alone
  exact absurd alone (by decide)

end PhoneRegions

end Klsmsc
