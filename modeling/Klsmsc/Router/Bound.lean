import Klsmsc.Router

/-!
# Bindings are respected

Whatever way a channel takes through the router, as the one asked for, from the cache or from the
tables, it is a channel to which the account is bound.
-/

namespace Klsmsc

namespace RouteTables

variable {unicode : Unicode} {tables : RouteTables} {accountId : ℕ} {countryCode : String}

structure BoundFor (unicode : Unicode) (tables : RouteTables) (accountId : ℕ)
    (countryCode : String) (channelId : ℕ) : Prop where
  specific : (∃ row ∈ tables.accountChannels, row.accountId = accountId ∧
      row.isSpecific unicode countryCode = true) →
    ∃ row ∈ tables.accountChannels, row.accountId = accountId ∧
      row.isSpecific unicode countryCode = true ∧ row.channelId = channelId
  default : (¬∃ row ∈ tables.accountChannels, row.accountId = accountId ∧
      row.isSpecific unicode countryCode = true) →
    ∃ row ∈ tables.accountChannels, row.accountId = accountId ∧
      row.isDefault unicode = true ∧ row.channelId = channelId

theorem boundIds_isSome (bindings : ∃ row ∈ tables.accountChannels, row.accountId = accountId) :
    ∃ ids, tables.boundIds unicode accountId countryCode = some ids := by
  rcases bindings with ⟨row, member, mine⟩
  have some_ : (tables.accountChannels.filter fun row => row.accountId = accountId) ≠ [] := by
    apply List.ne_nil_of_mem
    exact List.mem_filter.mpr ⟨member, decide_eq_true mine⟩
  exact ⟨_, if_neg some_⟩

theorem boundFor_of_mem {ids : List ℕ} {channelId : ℕ}
    (restricted : tables.boundIds unicode accountId countryCode = some ids)
    (member : channelId ∈ ids) : tables.BoundFor unicode accountId countryCode channelId := by
  simp only [boundIds] at restricted
  split at restricted
  · cases restricted
  · rw [Option.some.injEq] at restricted
    rw [← restricted] at member
    constructor
    · rintro ⟨row, inTable, mine, isSpecific⟩
      have found : row ∈ (tables.accountChannels.filter fun row => row.accountId = accountId).filter
          fun row => row.isSpecific unicode countryCode := by
        simp [inTable, mine, isSpecific]
      have some_ := List.ne_nil_of_mem found
      rw [if_pos some_] at member
      simpa [and_assoc, and_left_comm] using member
    · intro lacking
      have none_ : (tables.accountChannels.filter fun row => row.accountId = accountId).filter
          (fun row => row.isSpecific unicode countryCode) = [] := by
        rw [List.filter_eq_nil_iff]
        intro row found isSpecific
        have inTable := List.mem_filter.mp found
        exact lacking ⟨row, inTable.1, of_decide_eq_true inTable.2, isSpecific⟩
      rw [if_neg (not_not.mpr none_)] at member
      simpa [and_assoc, and_left_comm] using member

end RouteTables

theorem mem_of_choose {strategy : RouteStrategy} {channels : List Candidate}
    {channel : RouteChannel} (chosen : choose strategy channels = .ok channel) :
    ∃ candidate ∈ channels, candidate.channel = channel := by
  cases strategy with
  | priority =>
      simp only [choose] at chosen
      split at chosen
      · rename_i candidate best
        exact ⟨candidate, List.argmax_mem best, by injection chosen⟩
      · cases chosen
  | quality => cases chosen
  | loadBalance position =>
      simp only [choose] at chosen
      split at chosen
      · cases chosen
      · split at chosen
        · rename_i candidate drawn
          exact ⟨candidate, List.mem_of_getElem? drawn, by injection chosen⟩
        · cases chosen
  | other =>
      simp only [choose] at chosen
      split at chosen
      · rename_i candidate first
        exact ⟨candidate, List.mem_of_head? first, by injection chosen⟩
      · cases chosen

namespace RouteTables

variable {unicode : Unicode} {tables : RouteTables} {accountId : ℕ} {countryCode : String}

theorem mem_of_channelIfAvailable {channelId : ℕ} {channel : RouteChannel} {ids : List ℕ}
    (restricted : tables.boundIds unicode accountId countryCode = some ids)
    (found : tables.channelIfAvailable unicode countryCode channelId (some accountId) =
      some channel) : channel.id ∈ ids := by
  have facts := (Option.filter_eq_some_iff.mp found).2
  simpa [restricted] using facts

theorem mem_of_selectFrom {strategy : RouteStrategy} {channels : List Candidate}
    {channel : RouteChannel} {ids : List ℕ}
    (restricted : tables.boundIds unicode accountId countryCode = some ids)
    (selected : tables.selectFrom unicode countryCode strategy (some accountId) channels =
      .ok channel) : channel.id ∈ ids := by
  simp only [selectFrom, restricted] at selected
  split at selected
  · cases selected
  · split at selected
    · cases selected
    · rcases mem_of_choose selected with ⟨candidate, member, rfl⟩
      exact of_decide_eq_true (List.mem_filter.mp member).2

/-- Every channel that `select_channel` returns for an account with bindings is bound to it. -/
theorem selectChannel_bound {preferredChannel : Option ℕ} {strategy : RouteStrategy}
    {cache : Option RouteCache} {answers : RouteAnswers} {channel : RouteChannel}
    (numbered : accountId ≠ 0)
    (bindings : ∃ row ∈ tables.accountChannels, row.accountId = accountId)
    (selected : tables.selectChannel unicode countryCode preferredChannel strategy (some accountId)
      cache answers = .ok channel) :
    tables.BoundFor unicode accountId countryCode channel.id := by
  rcases @boundIds_isSome unicode tables accountId countryCode bindings with ⟨ids, restricted⟩
  apply boundFor_of_mem restricted
  have account : (some accountId).filter (· ≠ 0) = some accountId := by
    rw [Option.filter_some, if_pos (decide_eq_true numbered)]
  simp only [selectChannel, account] at selected
  split at selected
  · rename_i asked found
    rcases Option.bind_eq_some_iff.mp found with ⟨channelId, -, available⟩
    injection selected with same
    rw [← same]
    exact mem_of_channelIfAvailable restricted available
  · exact mem_of_selectFrom restricted selected

/-- Two channels for all countries, with their route priorities and their own. An account has the
second one. -/
def twoChannels (first second : ℤ × ℤ) : RouteTables where
  channels :=
    [⟨1, "one", .active, false, first.2, 100⟩, ⟨2, "two", .active, false, second.2, 100⟩]
  rules := [⟨1, "*", first.1, true⟩, ⟨2, "*", second.1, true⟩]
  accountChannels := [⟨7, 2, none⟩]

/-- The first channel is asked for, the second one returned. -/
theorem selectChannel_bound_second :
    (twoChannels (1, 9) (1, 0)).BoundFor .ascii 7 "TH" 2 :=
  @selectChannel_bound .ascii (twoChannels (1, 9) (1, 0)) 7 "TH" (some 1) .priority none
    ⟨(twoChannels (1, 9) (1, 0)).joined .ascii (· == ·) "TH", []⟩
    ⟨2, "two", .active, false, 0, 100⟩ (by decide) ⟨⟨7, 2, none⟩, by decide, rfl⟩
    (by decide)

end RouteTables

end Klsmsc
