import Klsmsc.Library.Numerals
import Klsmsc.PriceCache

/-!
# The keys of a change

What a change of a price alters, and that the pattern deleted after it matches every key whose
price it alters, as long as no code holds a character with a meaning of its own and the key spells
the country as the changed row does.
-/

namespace Klsmsc

open Library

/-! ### Codes -/

structure PriceQuery.Plain (query : PriceQuery) : Prop where
  country : ∀ char ∈ query.countryCode.toList, char ≠ ':' ∧ char ≠ '\n'
  mnc : ∀ mnc, query.mnc = some mnc → '\n' ∉ mnc.toList

def patternCharacters : List Char :=
  "*?[]\\.^$+{}|()".toList

def PriceInvalidation.Plain : PriceInvalidation → Prop
  | invalidatePriceCache _ (some countryCode) =>
      countryCode = "*" ∨ ∀ char ∈ countryCode.toList, char ∉ patternCharacters
  | _ => True

namespace PriceQuery

def accountText (query : PriceQuery) : List Char :=
  (((query.account.map toString).getD "all" : String)).toList

def mncText (query : PriceQuery) : List Char :=
  (if query.mnc.getD "" = "" then "default" else query.mnc.getD "").toList

variable {query left right : PriceQuery}

theorem cacheKey_toList (query : PriceQuery) :
    query.cacheKey.toList =
      "price:".toList ++ (query.accountText ++ ':' :: ((toString query.channelId).toList ++
        ':' :: (query.countryCode.toList ++ ':' :: query.mncText))) := by
  simp [cacheKey, accountText, mncText, toString]

theorem accountText_none (noAccount : query.account = none) :
    query.accountText = ['a', 'l', 'l'] := by
  rw [accountText, noAccount]
  rfl

theorem accountText_some {accountId : ℕ} (isAccount : query.account = some accountId) :
    query.accountText = (toString accountId).toList := by
  rw [accountText, isAccount]
  rfl

theorem accountText_chars {char : Char} (member : char ∈ query.accountText) :
    char.isDigit = true ∨ char = 'a' ∨ char = 'l' := by
  cases isAccount : query.account with
  | none =>
      rw [accountText_none isAccount] at member
      simp only [List.mem_cons, List.not_mem_nil, or_false] at member
      right
      rcases member with rfl | rfl | rfl
      · exact .inl rfl
      · exact .inr rfl
      · exact .inr rfl
  | some accountId =>
      rw [accountText_some isAccount] at member
      exact .inl (toString_digits member)

theorem accountText_injective (equal : left.accountText = right.accountText) :
    left.account = right.account := by
  have all : ∀ number : ℕ, (toString number).toList ≠ ['a', 'l', 'l'] := by
    intro number same
    have member : 'a' ∈ (toString number).toList := by
      rw [same]
      exact List.mem_cons_self
    exact absurd (toString_digits member) (by decide)
  cases leftAccount : left.account with
  | none =>
      cases rightAccount : right.account with
      | none => rfl
      | some number =>
          rw [accountText_none leftAccount, accountText_some rightAccount] at equal
          exact absurd equal.symm (all number)
  | some number =>
      cases rightAccount : right.account with
      | none =>
          rw [accountText_some leftAccount, accountText_none rightAccount] at equal
          exact absurd equal (all number)
      | some other =>
          rw [accountText_some leftAccount, accountText_some rightAccount] at equal
          rw [toString_injective (String.toList_injective equal)]

end PriceQuery

theorem eq_of_append_separator {α : Type} {separator : α} {left right leftRest rightRest : List α}
    (notLeft : separator ∉ left) (notRight : separator ∉ right)
    (equal : left ++ separator :: leftRest = right ++ separator :: rightRest) :
    left = right ∧ leftRest = rightRest := by
  induction left generalizing right with
  | nil =>
      cases right with
      | nil => exact ⟨rfl, (List.cons.inj equal).2⟩
      | cons head tail =>
          have same := (List.cons.inj equal).1
          exact absurd (same ▸ List.mem_cons_self) notRight
  | cons head tail ih =>
      cases right with
      | nil =>
          have same := (List.cons.inj equal).1
          exact absurd (same ▸ List.mem_cons_self) notLeft
      | cons other rest =>
          rw [List.mem_cons, not_or] at notLeft notRight
          rcases List.cons.inj equal with ⟨rfl, tails⟩
          rcases ih notLeft.2 notRight.2 tails with ⟨rfl, same⟩
          exact ⟨rfl, same⟩

namespace PriceQuery

variable {query left right : PriceQuery}

theorem Plain.of_cacheKey (leftPlain : left.Plain) (rightPlain : right.Plain)
    (equal : left.cacheKey = right.cacheKey) :
    left.account = right.account ∧ left.channelId = right.channelId ∧
      left.countryCode = right.countryCode := by
  have noAccount : ∀ query : PriceQuery, ':' ∉ query.accountText := by
    intro query member
    have chars := accountText_chars member
    revert chars
    decide
  have noChannel : ∀ number : ℕ, ':' ∉ (toString number).toList := by
    intro number member
    exact absurd (toString_digits member) (by decide)
  have noCountry : ∀ query : PriceQuery, query.Plain → ':' ∉ query.countryCode.toList := by
    intro query plain member
    exact (plain.country ':' member).1 rfl
  have texts := congrArg String.toList equal
  rw [cacheKey_toList, cacheKey_toList] at texts
  have parts := List.append_cancel_left texts
  rcases eq_of_append_separator (noAccount left) (noAccount right) parts with ⟨account, parts⟩
  rcases eq_of_append_separator (noChannel _) (noChannel _) parts with ⟨channel, parts⟩
  rcases eq_of_append_separator (noCountry left leftPlain) (noCountry right rightPlain) parts with
    ⟨country, -⟩
  exact ⟨accountText_injective account, toString_injective (String.toList_injective channel),
    String.toList_injective country⟩

theorem Plain.one_line (plain : query.Plain) : '\n' ∉ query.cacheKey.toList := by
  have account : '\n' ∉ query.accountText := by
    intro member
    have chars := accountText_chars member
    revert chars
    decide
  have channel : '\n' ∉ (toString query.channelId).toList := by
    intro member
    exact absurd (toString_digits member) (by decide)
  have country : '\n' ∉ query.countryCode.toList := by
    intro member
    exact (plain.country '\n' member).2 rfl
  have mnc : '\n' ∉ query.mncText := by
    unfold mncText
    cases given : query.mnc with
    | none => decide
    | some mnc =>
        have inside := plain.mnc mnc given
        rw [Option.getD_some]
        split
        · decide
        · exact inside
  rw [cacheKey_toList]
  simp only [List.mem_append, List.mem_cons, not_or]
  exact ⟨by decide, account, by decide, channel, by decide, country, by decide, mnc⟩

end PriceQuery

theorem PriceInvalidation.Lists.matches_plain {invalidation : PriceInvalidation}
    {query : PriceQuery} (lists : invalidation.Lists query.cacheKey) (plain : query.Plain) :
    invalidation.Matches query.cacheKey := by
  refine @Glob.accepts_mono _ _ _ _ redisGlob localGlob rfl ?_ (fun _ _ => rfl) lists
  intro char member _
  have different : char ≠ '\n' := by
    rintro rfl
    exact plain.one_line member
  simp [localGlob, different]

/-! ### What a change alters -/

namespace PriceChange

def Affects (sameCode : String → String → Bool) (query : PriceQuery) : PriceChange → Prop
  | unitPrice accountId => query.account = some accountId
  | accountPricing accountId => query.account = some accountId
  | countryPricing channelId countryCode =>
      query.channelId = channelId ∧
        (sameCode countryCode query.countryCode ∨ sameCode countryCode "*")

def Spells (query : PriceQuery) : PriceChange → Prop
  | countryPricing _ countryCode => countryCode = query.countryCode ∨ countryCode = "*"
  | _ => True

end PriceChange

namespace PriceTables

variable {sameCode : String → String → Bool} {before after : PriceTables} {query : PriceQuery}

theorem priceOf_congr {other : PriceQuery} (account : other.account = query.account)
    (channel : other.channelId = query.channelId) (country : other.countryCode = query.countryCode) :
    before.priceOf sameCode other = before.priceOf sameCode query := by
  have answers : before.answer sameCode other = before.answer sameCode query := by
    funext lookup
    cases lookup <;> simp only [answer, account, channel, country]
  rw [priceOf, priceOf, answers]

theorem filter_congr_of_filter {Row : Type} {wide narrow : Row → Bool} {left right : List Row}
    (same : left.filter wide = right.filter wide)
    (narrower : ∀ row, narrow row = true → wide row = true) :
    left.filter narrow = right.filter narrow := by
  have both : ∀ rows : List Row, (rows.filter wide).filter narrow = rows.filter narrow := by
    intro rows
    rw [List.filter_filter]
    refine List.filter_congr ?_
    intro row _
    cases chosen : narrow row with
    | false => simp
    | true => simp [narrower row chosen]
  rw [← both left, ← both right, same]

theorem firstPrice_append {answers : PriceLookup → Except PriceError (Option PriceInfo)}
    {asked rest : List PriceLookup} (nothing : ∀ lookup ∈ asked, answers lookup = .ok none) :
    firstPrice answers (asked ++ rest) = firstPrice answers rest := by
  induction asked with
  | nil => rfl
  | cons lookup asked ih =>
      rw [List.cons_append, firstPrice, nothing lookup List.mem_cons_self]
      exact ih fun other member => nothing other (List.mem_cons_of_mem _ member)

theorem priceOf_of_not_affects {change : PriceChange} (commits : change.Commits before after)
    (unaffected : ¬ change.Affects sameCode query) :
    after.priceOf sameCode query = before.priceOf sameCode query := by
  have answers : after.answer sameCode query = before.answer sameCode query := by
    funext lookup
    cases change with
    | unitPrice accountId =>
        rcases commits with ⟨accounts, pricing, countries⟩
        cases lookup with
        | accountUnitPrice =>
            cases isAccount : query.account with
            | none => simp only [answer, isAccount, Option.bind_none]
            | some other =>
                have different : other ≠ accountId := by
                  rintro rfl
                  exact unaffected isAccount
                simp only [answer, isAccount, Option.bind_some, accounts other different]
        | _ => simp only [answer, latest, pricing, countries]
    | accountPricing accountId =>
        rcases commits with ⟨accounts, pricing, countries⟩
        cases lookup with
        | accountCountryPricing =>
            cases isAccount : query.account with
            | none => simp only [answer, isAccount]
            | some other =>
                have different : other ≠ accountId := by
                  rintro rfl
                  exact unaffected isAccount
                have rows : (after.accountPricing.filter fun row =>
                      row.accountId = other && sameCode row.countryCode query.countryCode &&
                        row.businessType = "sms") =
                    before.accountPricing.filter fun row =>
                      row.accountId = other && sameCode row.countryCode query.countryCode &&
                        row.businessType = "sms" := by
                  refine filter_congr_of_filter pricing ?_
                  intro row chosen
                  simp only [Bool.and_eq_true, decide_eq_true_eq] at chosen ⊢
                  rw [chosen.1.1]
                  exact different
                simp only [answer, isAccount, rows]
        | _ => simp only [answer, latest, accounts, countries]
    | countryPricing channelId countryCode =>
        rcases commits with ⟨accounts, pricing, countries⟩
        have rows : ∀ code, code = query.countryCode ∨ code = "*" →
            after.latest sameCode query.channelId code =
              before.latest sameCode query.channelId code := by
          intro code isCode
          have chosen : (after.countryPricing.filter fun row =>
                row.channelId = query.channelId && sameCode row.countryCode code) =
              before.countryPricing.filter fun row =>
                row.channelId = query.channelId && sameCode row.countryCode code := by
            refine filter_congr_of_filter countries ?_
            intro row chosen
            simp only [Bool.and_eq_true, decide_eq_true_eq] at chosen ⊢
            rintro ⟨sameChannel, sameCountry⟩
            rw [sameCountry] at chosen
            refine unaffected ⟨chosen.1.symm.trans sameChannel, ?_⟩
            rcases isCode with rfl | rfl
            · exact .inl chosen.2
            · exact .inr chosen.2
          rw [latest, latest, chosen]
        cases lookup with
        | countryPricing => simp only [answer, rows _ (.inl rfl)]
        | worldPricing => simp only [answer, rows _ (.inr rfl)]
        | _ => simp only [answer, accounts, pricing]
  rw [priceOf, priceOf, answers]

end PriceTables

namespace PriceChange

variable {sameCode : String → String → Bool} {query : PriceQuery} {change : PriceChange}

theorem not_star_of_digits {number : ℕ} : '*' ∉ (toString number).toList := by
  intro member
  exact absurd (toString_digits member) (by decide)

theorem redisGlob_star {pattern front rest : List Char}
    (accepted : redisGlob.accepts pattern rest = true) :
    redisGlob.accepts ('*' :: pattern) (front ++ rest) = true :=
  Glob.accepts_star (by simp [redisGlob]) accepted

theorem redisGlob_last (rest : List Char) : redisGlob.accepts ['*'] rest = true := by
  have empty : redisGlob.accepts [] [] = true := rfl
  simpa using @redisGlob_star [] rest [] empty

theorem redisGlob_literal {front pattern rest : List Char} (literal : '*' ∉ front)
    (accepted : redisGlob.accepts pattern rest = true) :
    redisGlob.accepts (front ++ pattern) (front ++ rest) = true :=
  (Glob.accepts_literal literal).trans accepted

theorem redisGlob_colon {pattern rest : List Char}
    (accepted : redisGlob.accepts pattern rest = true) :
    redisGlob.accepts (':' :: pattern) (':' :: rest) = true :=
  @redisGlob_literal [':'] pattern rest (by decide) accepted

theorem lists_of_affects (affects : change.Affects sameCode query) (spells : change.Spells query)
    (plain : change.invalidation.Plain) : change.invalidation.Lists query.cacheKey := by
  have account : ∀ accountId, query.account = some accountId →
      (PriceInvalidation.invalidatePriceCacheForAccount accountId).Lists query.cacheKey := by
    intro accountId isAccount
    have pattern : (s!"price:{accountId}:*" : String).toList =
        "price:".toList ++ ((toString accountId).toList ++ [':', '*']) := by
      simp [toString]
    rw [PriceInvalidation.Lists, PriceInvalidation.pattern, PriceQuery.cacheKey_toList, pattern,
      PriceQuery.accountText_some isAccount]
    refine redisGlob_literal (by decide) (redisGlob_literal not_star_of_digits ?_)
    exact redisGlob_colon (redisGlob_last _)
  cases change with
  | unitPrice accountId => exact account accountId affects
  | accountPricing accountId => exact account accountId affects
  | countryPricing channelId countryCode =>
      have sameChannel : query.channelId = channelId := affects.1
      rw [invalidation, PriceInvalidation.Lists, PriceInvalidation.pattern,
        PriceQuery.cacheKey_toList, sameChannel, Option.getD_some]
      split
      · have pattern : (s!"price:*:{channelId}:*" : String).toList =
            "price:".toList ++ '*' :: ':' :: ((toString channelId).toList ++ [':', '*']) := by
          simp [toString]
        rw [pattern]
        refine redisGlob_literal (by decide) (redisGlob_star (redisGlob_colon ?_))
        exact redisGlob_literal not_star_of_digits (redisGlob_colon (redisGlob_last _))
      · have pattern : (s!"price:*:{channelId}:{countryCode}:*" : String).toList =
            "price:".toList ++ '*' :: ':' :: ((toString channelId).toList ++
              ':' :: (countryCode.toList ++ [':', '*'])) := by
          simp [toString]
        rw [pattern]
        refine redisGlob_literal (by decide) (redisGlob_star (redisGlob_colon ?_))
        refine redisGlob_literal not_star_of_digits (redisGlob_colon ?_)
        have tail : ∀ rest : List Char, redisGlob.accepts [':', '*'] (':' :: rest) = true :=
          fun rest => redisGlob_colon (redisGlob_last rest)
        by_cases world : countryCode = "*"
        · rw [world]
          exact redisGlob_star (tail _)
        · have sameCountry : countryCode = query.countryCode := spells.resolve_right world
          have literal : '*' ∉ countryCode.toList := by
            intro member
            exact (plain.resolve_left world) '*' member (by decide)
          rw [← sameCountry]
          exact redisGlob_literal literal (tail _)

end PriceChange

end Klsmsc
