import Klsmsc.Router.Bound
import Mathlib.Data.Int.ConditionallyCompleteOrder
import Mathlib.Order.ConditionallyCompleteLattice.Basic

/-!
# The cache of routes

An earlier call has left the channels of a country in the cache. The channels that are restored from
it are those that the tables give, with the same route priorities, but in an order of their own:
they are loaded in any order and sorted by the route priority alone.
-/

namespace Klsmsc

open Library

namespace RouteTables

section

variable (unicode : Unicode) (sameCode : String → String → Bool) (tables : RouteTables)
  (countryCode : String)

structure Routed (candidate : Candidate) : Prop where
  joined : candidate ∈ tables.joined unicode sameCode countryCode
  greatest : ∀ other ∈ tables.joined unicode sameCode countryCode,
    other.channel = candidate.channel → other.routePriority ≤ candidate.routePriority

structure Allowed (account : Option ℕ) (candidate : Candidate) : Prop where
  routed : tables.Routed unicode sameCode countryCode candidate
  bound : ∀ accountId ∈ account, ∀ ids ∈ tables.boundIds unicode accountId countryCode,
    candidate.channel.id ∈ ids

def ValidRows (rows : List Candidate) : Prop :=
  rows.Perm (tables.joined unicode sameCode countryCode) ∧
    rows.Pairwise fun left right => right.order ≤ left.order

def ValidReload (cache : Option RouteCache) (reload : List RouteChannel) : Prop :=
  ∀ cached ∈ cache, reload.Perm <| tables.channels.filter fun channel =>
    channel.id ∈ cached.channelIds && channel.available

def UniqueChannelIds : Prop :=
  (tables.channels.map RouteChannel.id).Nodup

instance : Decidable tables.UniqueChannelIds :=
  inferInstanceAs (Decidable (List.Nodup _))

end

/-! ### Merging -/

section Merge

structure Merged (rows merged : List Candidate) : Prop where
  nodup : (merged.map fun candidate => candidate.channel.id).Nodup
  fromRows : ∀ candidate ∈ merged, candidate ∈ rows
  covers : ∀ row ∈ rows, ∃ candidate ∈ merged,
    candidate.channel.id = row.channel.id ∧ row.routePriority ≤ candidate.routePriority

theorem merged_mergeRow {rows merged : List Candidate} (so : Merged rows merged)
    (row : Candidate) : Merged (rows ++ [row]) (mergeRow merged row) := by
  rw [mergeRow]
  by_cases known : (merged.any fun candidate => candidate.channel.id = row.channel.id) = true
  · rw [if_pos known]
    have sameIds : (merged.map fun candidate =>
        if candidate.channel.id = row.channel.id ∧ candidate.routePriority < row.routePriority then
          row
        else candidate).map (fun candidate => candidate.channel.id) =
          merged.map fun candidate => candidate.channel.id := by
      rw [List.map_map]
      apply List.map_congr_left
      intro candidate _
      dsimp only [Function.comp]
      split
      · rename_i replaced
        exact replaced.1.symm
      · rfl
    constructor
    · rw [sameIds]
      exact so.nodup
    · intro candidate member
      rcases List.mem_map.mp member with ⟨old, inMerged, rfl⟩
      split
      · simp
      · exact List.mem_append_left _ (so.fromRows old inMerged)
    · intro other member
      rcases List.mem_append.mp member with earlier | last
      · rcases so.covers other earlier with ⟨old, inMerged, sameId, noLess⟩
        refine ⟨_, List.mem_map_of_mem inMerged, ?_⟩
        split
        · rename_i replaced
          exact ⟨replaced.1.symm.trans sameId, by omega⟩
        · exact ⟨sameId, noLess⟩
      · rw [List.mem_singleton.mp last]
        rcases List.any_eq_true.mp known with ⟨old, inMerged, sameId⟩
        have same := of_decide_eq_true sameId
        refine ⟨_, List.mem_map_of_mem inMerged, ?_⟩
        split
        · exact ⟨rfl, Int.le_refl _⟩
        · rename_i kept
          exact ⟨same, by omega⟩
  · rw [if_neg known]
    have fresh : ∀ candidate ∈ merged, candidate.channel.id ≠ row.channel.id := by
      intro candidate member same
      exact known (List.any_eq_true.mpr ⟨candidate, member, decide_eq_true same⟩)
    constructor
    · rw [List.map_append, List.nodup_append]
      refine ⟨so.nodup, by simp, ?_⟩
      intro id member other last
      rcases List.mem_map.mp member with ⟨candidate, inMerged, rfl⟩
      simp only [List.map_cons, List.map_nil, List.mem_singleton] at last
      rw [last]
      exact fresh candidate inMerged
    · intro candidate member
      rcases List.mem_append.mp member with earlier | last
      · exact List.mem_append_left _ (so.fromRows candidate earlier)
      · exact List.mem_append_right _ last
    · intro other member
      rcases List.mem_append.mp member with earlier | last
      · rcases so.covers other earlier with ⟨old, inMerged, facts⟩
        exact ⟨old, List.mem_append_left _ inMerged, facts⟩
      · rw [List.mem_singleton.mp last]
        exact ⟨row, by simp, rfl, Int.le_refl _⟩

theorem merged_foldl (rows : List Candidate) : Merged rows (rows.foldl mergeRow []) := by
  induction rows using List.reverseRecOn with
  | nil => exact ⟨List.nodup_nil, by simp, by simp⟩
  | append_singleton rows row ih =>
      rw [List.foldl_append]
      exact merged_mergeRow ih row

end Merge

/-! ### The two lists -/

section Lists

variable {unicode : Unicode} {sameCode : String → String → Bool} {tables : RouteTables}
  {countryCode : String}

structure Lists (unicode : Unicode) (sameCode : String → String → Bool) (tables : RouteTables)
    (countryCode : String) (channels : List Candidate) : Prop where
  members : ∀ candidate,
    candidate ∈ channels ↔ tables.Routed unicode sameCode countryCode candidate
  nodup : (channels.map fun candidate => candidate.channel.id).Nodup
  sorted : channels.Pairwise fun left right => right.routePriority ≤ left.routePriority

theorem mem_joined {candidate : Candidate}
    (member : candidate ∈ tables.joined unicode sameCode countryCode) :
    candidate.channel ∈ tables.channels ∧ candidate.channel.available = true := by
  simp only [joined, List.mem_flatMap, List.mem_map, List.mem_filter, Bool.and_eq_true] at member
  rcases member with ⟨channel, inTable, rule, ⟨-, -, available⟩, rfl⟩
  exact ⟨inTable, available⟩

theorem eq_of_id (unique : tables.UniqueChannelIds) {one two : RouteChannel}
    (inTable : one ∈ tables.channels) (too : two ∈ tables.channels) (same : one.id = two.id) :
    one = two :=
  List.inj_on_of_nodup_map unique inTable too same

theorem Routed.eq_of_channel {one two : Candidate}
    (routed : tables.Routed unicode sameCode countryCode one)
    (too : tables.Routed unicode sameCode countryCode two) (same : one.channel = two.channel) :
    one = two := by
  have up := routed.greatest two too.joined same.symm
  have down := too.greatest one routed.joined same
  have priorities : one.routePriority = two.routePriority := by omega
  calc one = ⟨one.channel, one.routePriority⟩ := rfl
    _ = ⟨two.channel, two.routePriority⟩ := by rw [same, priorities]
    _ = two := rfl

theorem routePriority_of_order {left right : Candidate} (le : right.order ≤ left.order) :
    right.routePriority ≤ left.routePriority :=
  (Prod.Lex.le_iff'.mp le).1

theorem lists_computed (unique : tables.UniqueChannelIds) {rows : List Candidate}
    (valid : tables.ValidRows unicode sameCode countryCode rows) :
    Lists unicode sameCode tables countryCode (computed rows) := by
  have merged := merged_foldl rows
  have fromJoined : ∀ {candidate : Candidate}, candidate ∈ rows ↔
      candidate ∈ tables.joined unicode sameCode countryCode := valid.1.mem_iff
  constructor
  · intro candidate
    rw [computed, mem_rankedBy]
    constructor
    · intro member
      refine ⟨fromJoined.mp (merged.fromRows candidate member), ?_⟩
      intro other inJoined same
      rcases merged.covers other (fromJoined.mpr inJoined) with ⟨kept, inMerged, sameId, noLess⟩
      rw [same] at sameId
      rw [← List.inj_on_of_nodup_map merged.nodup inMerged member sameId]
      exact noLess
    · intro routed
      rcases merged.covers candidate (fromJoined.mpr routed.joined) with
        ⟨kept, inMerged, sameId, noLess⟩
      have keptJoined := fromJoined.mp (merged.fromRows kept inMerged)
      have same := eq_of_id unique (mem_joined keptJoined).1 (mem_joined routed.joined).1 sameId
      have noMore := routed.greatest kept keptJoined same
      have equal : kept = candidate := by
        have priorities : kept.routePriority = candidate.routePriority := by omega
        calc kept = ⟨kept.channel, kept.routePriority⟩ := rfl
          _ = ⟨candidate.channel, candidate.routePriority⟩ := by rw [same, priorities]
          _ = candidate := rfl
      rwa [← equal]
  · exact ((rankedBy_perm _ _).map _).nodup_iff.mpr merged.nodup
  · have sorted := pairwise_rankedBy Candidate.order (rows.foldl mergeRow [])
    exact sorted.imp fun le => routePriority_of_order le

theorem lookup_of_mem {entries : List (ℕ × ℤ)} (nodup : (entries.map Prod.fst).Nodup)
    {id : ℕ} {priority : ℤ} (member : (id, priority) ∈ entries) :
    entries.lookup id = some priority := by
  induction entries with
  | nil => cases member
  | cons entry entries ih =>
      rw [List.map_cons, List.nodup_cons] at nodup
      rcases List.mem_cons.mp member with rfl | later
      · simp
      · have other : id ≠ entry.1 := by
          intro same
          exact nodup.1 (same ▸ List.mem_map_of_mem later)
        rw [List.lookup_cons, beq_false_of_ne other]
        exact ih nodup.2 later

theorem store_spec {channels : List Candidate} {cached : RouteCache}
    (stored : RouteCache.store channels = some cached) :
    (cached.channelIds = channels.map fun candidate => candidate.channel.id) ∧
      cached.routePriorities = channels.map Candidate.routePriority := by
  rw [RouteCache.store] at stored
  split at stored
  · cases stored
  · rw [Option.some.injEq] at stored
    rw [← stored]
    exact ⟨rfl, rfl⟩

theorem mem_channelIds_of_store {channels : List Candidate} {cached : RouteCache}
    (stored : RouteCache.store channels = some cached) {candidate : Candidate}
    (member : candidate ∈ channels) : candidate.channel.id ∈ cached.channelIds := by
  rw [(store_spec stored).1]
  exact List.mem_map_of_mem (f := fun candidate : Candidate => candidate.channel.id) member

theorem priorityOf_store {channels : List Candidate} {cached : RouteCache}
    (stored : RouteCache.store channels = some cached)
    (nodup : (channels.map fun candidate => candidate.channel.id).Nodup)
    {candidate : Candidate} (member : candidate ∈ channels) :
    cached.priorityOf candidate.channel.id = candidate.routePriority := by
  obtain ⟨ids, priorities⟩ := store_spec stored
  rw [RouteCache.priorityOf, ids, priorities, List.zip_map']
  have kept : (candidate.channel.id, candidate.routePriority) ∈
      (channels.map fun candidate =>
        (candidate.channel.id, candidate.routePriority)).reverse := by
    rw [List.mem_reverse]
    exact List.mem_map_of_mem member
  rw [lookup_of_mem _ kept, Option.getD_some]
  rw [List.map_reverse, List.map_map]
  exact List.nodup_reverse.mpr nodup

theorem restored_eq (unique : tables.UniqueChannelIds) {channels : List Candidate}
    (listed : Lists unicode sameCode tables countryCode channels) {cached : RouteCache}
    (stored : RouteCache.store channels = some cached) {channel : RouteChannel}
    (inTable : channel ∈ tables.channels) (known : channel.id ∈ cached.channelIds) :
    ∃ candidate ∈ channels, candidate.channel = channel ∧
      (⟨channel, cached.priorityOf channel.id⟩ : Candidate) = candidate := by
  rw [(store_spec stored).1] at known
  rcases List.mem_map.mp known with ⟨candidate, member, sameId⟩
  have routed := (listed.members candidate).mp member
  have same := eq_of_id unique (mem_joined routed.joined).1 inTable sameId
  refine ⟨candidate, member, same, ?_⟩
  rw [← same, priorityOf_store stored listed.nodup member]

theorem lists_restore (unique : tables.UniqueChannelIds) {channels : List Candidate}
    (listed : Lists unicode sameCode tables countryCode channels) {cached : RouteCache}
    (stored : RouteCache.store channels = some cached) {reload : List RouteChannel}
    (valid : tables.ValidReload (some cached) reload) :
    Lists unicode sameCode tables countryCode (cached.restore reload) := by
  have loaded : ∀ channel, channel ∈ reload ↔
      channel ∈ tables.channels ∧ channel.id ∈ cached.channelIds ∧ channel.available = true := by
    intro channel
    rw [(valid cached rfl).mem_iff]
    simp
  constructor
  · intro candidate
    rw [RouteCache.restore, mem_rankedBy, List.mem_map, ← listed.members]
    constructor
    · rintro ⟨channel, inReload, rfl⟩
      rcases (loaded channel).mp inReload with ⟨inTable, known, -⟩
      rcases restored_eq unique listed stored inTable known with ⟨kept, member, -, same⟩
      rw [same]
      exact member
    · intro member
      have routed := (listed.members candidate).mp member
      have inTable := mem_joined routed.joined
      refine ⟨candidate.channel,
        (loaded candidate.channel).mpr
          ⟨inTable.1, mem_channelIds_of_store stored member, inTable.2⟩, ?_⟩
      rw [priorityOf_store stored listed.nodup member]
  · rw [RouteCache.restore]
    apply ((rankedBy_perm _ _).map _).nodup_iff.mpr
    rw [List.map_map]
    have distinct : (reload.map RouteChannel.id).Nodup := by
      apply ((valid cached rfl).map _).nodup_iff.mpr
      exact unique.sublist (List.filter_sublist.map _)
    exact distinct
  · exact pairwise_rankedBy _ _

end Lists

/-! ### The choice from a list -/

end RouteTables

def RouteStrategy.score : RouteStrategy → Candidate → ℤ
  | .priority => Candidate.score
  | _ => fun _ => 0

def RouteStrategy.Ranks (strategy : RouteStrategy) : Prop :=
  strategy = .priority ∨ strategy = .other

theorem argmax_const (channels : List Candidate) :
    channels.argmax (fun _ => (0 : ℤ)) = channels.head? := by
  cases channels with
  | nil => rfl
  | cons first rest =>
      rw [List.argmax_cons]
      cases rest.argmax fun _ => (0 : ℤ) with
      | none => rfl
      | some other => simp

theorem choose_of_ranks {strategy : RouteStrategy} (ranks : strategy.Ranks)
    (channels : List Candidate) :
    choose strategy channels =
      match channels.argmax strategy.score with
      | some candidate => .ok candidate.channel
      | none => .error .valueError := by
  rcases ranks with rfl | rfl
  · rfl
  · have constant : RouteStrategy.other.score = fun _ => 0 := rfl
    rw [constant, argmax_const]
    rfl

namespace RouteTables

section Selection

variable {unicode : Unicode} {sameCode : String → String → Bool} {tables : RouteTables}
  {countryCode : String} {account : Option ℕ} {channels : List Candidate}

def allowedOf (unicode : Unicode) (tables : RouteTables) (countryCode : String)
    (account : Option ℕ) (channels : List Candidate) : List Candidate :=
  match account.bind fun accountId => tables.boundIds unicode accountId countryCode with
  | none => channels
  | some ids => channels.filter fun candidate => candidate.channel.id ∈ ids

theorem mem_allowedOf (listed : Lists unicode sameCode tables countryCode channels)
    (candidate : Candidate) :
    candidate ∈ tables.allowedOf unicode countryCode account channels ↔
      tables.Allowed unicode sameCode countryCode account candidate := by
  rw [allowedOf]
  constructor
  · intro member
    cases account with
    | none => exact ⟨(listed.members candidate).mp member, by simp⟩
    | some accountId =>
        rw [Option.bind_some] at member
        cases restricted : tables.boundIds unicode accountId countryCode with
        | none =>
            rw [restricted] at member
            refine ⟨(listed.members candidate).mp member, ?_⟩
            rintro _ ⟨⟩ ids found
            rw [restricted] at found
            cases found
        | some ids =>
            rw [restricted] at member
            have facts := List.mem_filter.mp member
            refine ⟨(listed.members candidate).mp facts.1, ?_⟩
            rintro _ ⟨⟩ others found
            rw [restricted] at found
            cases found
            exact of_decide_eq_true facts.2
  · intro allowed
    have member := (listed.members candidate).mpr allowed.routed
    split
    · exact member
    · rename_i ids restricted
      rcases Option.bind_eq_some_iff.mp restricted with ⟨accountId, isAccount, found⟩
      exact List.mem_filter.mpr
        ⟨member, decide_eq_true (allowed.bound accountId isAccount ids found)⟩

theorem allowedOf_sublist (channels : List Candidate) :
    (tables.allowedOf unicode countryCode account channels).Sublist channels := by
  rw [allowedOf]
  split
  · exact .refl _
  · exact List.filter_sublist

theorem selectFrom_of_allowed {strategy : RouteStrategy}
    (some_ : tables.allowedOf unicode countryCode account channels ≠ []) :
    tables.selectFrom unicode countryCode strategy account channels =
      choose strategy (tables.allowedOf unicode countryCode account channels) := by
  have inList : channels ≠ [] := by
    intro empty
    have none_ := @allowedOf_sublist unicode tables countryCode account channels
    rw [empty] at none_ some_
    exact some_ (List.sublist_nil.mp none_)
  unfold selectFrom
  rw [if_neg inList]
  cases account with
  | none => rfl
  | some accountId =>
      cases restricted : tables.boundIds unicode accountId countryCode with
      | none => simp [restricted, allowedOf]
      | some ids =>
          simp only [allowedOf, Option.bind_some, restricted] at some_ ⊢
          rw [if_neg some_]

theorem selectFrom_of_none {strategy : RouteStrategy} {more : List Candidate}
    (none_ : tables.allowedOf unicode countryCode account channels = [])
    (noneToo : tables.allowedOf unicode countryCode account more = [])
    (same : channels = [] ↔ more = []) :
    tables.selectFrom unicode countryCode strategy account channels =
      tables.selectFrom unicode countryCode strategy account more := by
  unfold selectFrom
  by_cases empty : channels = []
  · rw [if_pos empty, if_pos (same.mp empty)]
  · rw [if_neg empty, if_neg (same.not.mp empty)]
    cases account with
    | none => exact absurd none_ empty
    | some accountId =>
        cases restricted : tables.boundIds unicode accountId countryCode with
        | none =>
            simp only [allowedOf, Option.bind_some, restricted] at none_
            exact absurd none_ empty
        | some ids =>
            simp only [allowedOf, Option.bind_some, restricted] at none_ noneToo
            simp only [restricted, none_, noneToo, if_true]

theorem selectFrom_ne_ok {strategy : RouteStrategy} {channel : RouteChannel}
    (none_ : tables.allowedOf unicode countryCode account channels = []) :
    tables.selectFrom unicode countryCode strategy account channels ≠ .ok channel := by
  unfold selectFrom
  by_cases empty : channels = []
  · rw [if_pos empty]
    simp
  · rw [if_neg empty]
    cases account with
    | none => exact absurd none_ empty
    | some accountId =>
        cases restricted : tables.boundIds unicode accountId countryCode with
        | none =>
            simp only [allowedOf, Option.bind_some, restricted] at none_
            exact absurd none_ empty
        | some ids =>
            simp only [allowedOf, Option.bind_some, restricted] at none_
            simp [restricted, none_]

end Selection

section Transparency

variable {unicode : Unicode} {sameCode : String → String → Bool} {tables : RouteTables}
  {countryCode : String} {account : Option ℕ} {strategy : RouteStrategy}

/-- No two allowed channels share the greatest score and, among those, the greatest route
priority. -/
def OneLeader (unicode : Unicode) (sameCode : String → String → Bool) (tables : RouteTables)
    (countryCode : String) (account : Option ℕ) (strategy : RouteStrategy) : Prop :=
  strategy.Ranks → ∀ one two,
    Leads strategy.score Candidate.routePriority
      (tables.Allowed unicode sameCode countryCode account) one →
    Leads strategy.score Candidate.routePriority
      (tables.Allowed unicode sameCode countryCode account) two →
    one = two

def NoneAbove (unicode : Unicode) (sameCode : String → String → Bool) (tables : RouteTables)
    (countryCode : String) (account : Option ℕ) : Prop :=
  ∀ top, tables.Allowed unicode sameCode countryCode account top →
    (∀ other, tables.Allowed unicode sameCode countryCode account other →
      other.order ≤ top.order) →
    ∀ other, tables.Allowed unicode sameCode countryCode account other → other.score ≤ top.score

theorem leads_congr {score : Candidate → ℤ} {Rank : Type} [LinearOrder Rank]
    {rank : Candidate → Rank} {one two : Candidate → Prop} (same : ∀ candidate,
      one candidate ↔ two candidate) {candidate : Candidate}
    (leads : Leads score rank one candidate) : Leads score rank two candidate :=
  ⟨(same candidate).mp leads.member,
    fun other member => leads.best other ((same other).mpr member),
    fun other member => leads.ahead other ((same other).mpr member)⟩

theorem leads_of_selectFrom {Rank : Type} [LinearOrder Rank] {rank : Candidate → Rank}
    {channels : List Candidate} (listed : Lists unicode sameCode tables countryCode channels)
    (sorted : channels.Pairwise fun left right => rank right ≤ rank left)
    (ranks : strategy.Ranks)
    (some_ : tables.allowedOf unicode countryCode account channels ≠ []) :
    ∃ candidate, tables.selectFrom unicode countryCode strategy account channels =
        .ok candidate.channel ∧
      Leads strategy.score rank (tables.Allowed unicode sameCode countryCode account)
        candidate := by
  rw [selectFrom_of_allowed some_, choose_of_ranks ranks]
  cases chosen : (tables.allowedOf unicode countryCode account channels).argmax strategy.score with
  | none => exact absurd (List.argmax_eq_none.mp chosen) some_
  | some candidate =>
      refine ⟨candidate, rfl, ?_⟩
      exact leads_congr (mem_allowedOf listed)
        (leads_of_argmax (sorted.sublist (allowedOf_sublist channels)) chosen)

theorem selectFrom_loaded_first {cached : RouteCache} {channel : RouteChannel}
    {reload : List RouteChannel}
    (listed : Lists unicode sameCode tables countryCode (cached.restore (channel :: reload)))
    (ranks : strategy.Ranks) {candidate : Candidate} (same : candidate.channel = channel)
    (leads : Leads strategy.score Candidate.routePriority
      (tables.Allowed unicode sameCode countryCode account) candidate) :
    tables.selectFrom unicode countryCode strategy account
      (cached.restore (channel :: reload)) = .ok channel := by
  have members := @mem_allowedOf unicode sameCode tables countryCode account _ listed
  have leadsList := leads_congr (fun other => (members other).symm) leads
  have some_ := List.ne_nil_of_mem leadsList.member
  have inList := (allowedOf_sublist _).subset leadsList.member
  have first : (⟨channel, cached.priorityOf channel.id⟩ : Candidate) = candidate := by
    rw [RouteCache.restore, mem_rankedBy, List.mem_map] at inList
    rcases inList with ⟨loaded, -, rfl⟩
    rw [← same]
  have distinct : (tables.allowedOf unicode countryCode account
      (cached.restore (channel :: reload))).Nodup :=
    (List.Nodup.of_map _ listed.nodup).sublist (allowedOf_sublist _)
  have isFirst : ∀ other ∈ tables.allowedOf unicode countryCode account
      (cached.restore (channel :: reload)), other ≠ candidate →
      other.routePriority ≤ candidate.routePriority →
      [candidate, other].Sublist (tables.allowedOf unicode countryCode account
        (cached.restore (channel :: reload))) := by
    intro other member different behind
    have inRestored := (allowedOf_sublist _).subset member
    rw [RouteCache.restore, mem_rankedBy, List.map_cons, List.mem_cons, first] at inRestored
    have later := inRestored.resolve_left different
    have before : [candidate, other].Sublist (cached.restore (channel :: reload)) := by
      apply pair_sublist_rankedBy behind
      rw [List.map_cons, first]
      exact .cons_cons _ (List.singleton_sublist.mpr later)
    have kept := leadsList.member
    rw [allowedOf] at kept member ⊢
    split
    · exact before
    · rename_i ids restricted
      rw [restricted] at kept member
      have filtered := before.filter fun candidate => candidate.channel.id ∈ ids
      have keptId : candidate.channel.id ∈ ids := of_decide_eq_true (List.mem_filter.mp kept).2
      have otherId : other.channel.id ∈ ids := of_decide_eq_true (List.mem_filter.mp member).2
      simpa only [List.filter_cons, keptId, otherId, decide_true, if_true, List.filter_nil]
        using filtered
  rw [selectFrom_of_allowed some_, choose_of_ranks ranks,
    argmax_of_leads distinct leadsList isFirst]
  dsimp only
  rw [same]

theorem selectFrom_eq_of_lists {channels more : List Candidate}
    (listed : Lists unicode sameCode tables countryCode channels)
    (listedToo : Lists unicode sameCode tables countryCode more)
    (deterministic : ∀ position, strategy ≠ .loadBalance position)
    (oneLeader : tables.OneLeader unicode sameCode countryCode account strategy) :
    tables.selectFrom unicode countryCode strategy account channels =
      tables.selectFrom unicode countryCode strategy account more := by
  have members : ∀ candidate, candidate ∈ channels ↔ candidate ∈ more := fun candidate =>
    (listed.members candidate).trans (listedToo.members candidate).symm
  have allowed : ∀ candidate, candidate ∈ tables.allowedOf unicode countryCode account channels ↔
      candidate ∈ tables.allowedOf unicode countryCode account more := fun candidate =>
    (mem_allowedOf listed candidate).trans (mem_allowedOf listedToo candidate).symm
  have empty : channels = [] ↔ more = [] := by
    simp only [List.eq_nil_iff_forall_not_mem, members]
  have emptyAllowed : tables.allowedOf unicode countryCode account channels = [] ↔
      tables.allowedOf unicode countryCode account more = [] := by
    simp only [List.eq_nil_iff_forall_not_mem, allowed]
  by_cases none_ : tables.allowedOf unicode countryCode account channels = []
  · exact selectFrom_of_none none_ (emptyAllowed.mp none_) empty
  · have noneToo := emptyAllowed.not.mp none_
    have agree : strategy.Ranks →
        tables.selectFrom unicode countryCode strategy account channels =
          tables.selectFrom unicode countryCode strategy account more := by
      intro ranks
      rcases leads_of_selectFrom listed listed.sorted ranks none_ with ⟨one, chosen, leads⟩
      rcases leads_of_selectFrom listedToo listedToo.sorted ranks noneToo with
        ⟨two, chosenToo, leadsToo⟩
      rw [chosen, chosenToo, oneLeader ranks one two leads leadsToo]
    cases strategy with
    | priority => exact agree (.inl rfl)
    | quality =>
        rw [selectFrom_of_allowed none_, selectFrom_of_allowed noneToo]
        rfl
    | loadBalance position => exact absurd rfl (deterministic position)
    | other => exact agree (.inr rfl)

theorem validRows_rankedBy : tables.ValidRows unicode sameCode countryCode
    (rankedBy Candidate.order (tables.joined unicode sameCode countryCode)) :=
  ⟨rankedBy_perm _ _, pairwise_rankedBy _ _⟩

theorem lists_cached (unique : tables.UniqueChannelIds) {filling : List Candidate}
    {answers : RouteAnswers}
    (filled : tables.ValidRows unicode sameCode countryCode filling)
    (rows : tables.ValidRows unicode sameCode countryCode answers.rows)
    (reload : tables.ValidReload (RouteCache.store (computed filling)) answers.reload) :
    Lists unicode sameCode tables countryCode
      (getAvailableChannels (RouteCache.store (computed filling)) answers) := by
  have listed := lists_computed unique filled
  rw [getAvailableChannels]
  split
  · rename_i cached found
    have stored := (Option.filter_eq_some_iff.mp found).1
    exact lists_restore unique listed stored (stored ▸ reload)
  · exact lists_computed unique rows

def Asked (unicode : Unicode) (tables : RouteTables) (countryCode : String)
    (preferredChannel account : Option ℕ) : Prop :=
  ∃ channelId, preferredChannel = some channelId ∧ channelId ≠ 0 ∧
    (tables.channelIfAvailable unicode countryCode channelId account).isSome

theorem selectChannel_of_asked {preferredChannel accountId : Option ℕ}
    (asked : tables.Asked unicode countryCode preferredChannel (accountId.filter (· ≠ 0)))
    {cache other : Option RouteCache} {answers more : RouteAnswers} :
    tables.selectChannel unicode countryCode preferredChannel strategy accountId cache answers =
      tables.selectChannel unicode countryCode preferredChannel strategy accountId other more := by
  rcases asked with ⟨channelId, rfl, numbered, available⟩
  rcases Option.isSome_iff_exists.mp available with ⟨channel, found⟩
  have isAsked : (some channelId).filter (· ≠ 0) = some channelId := by
    rw [Option.filter_some, if_pos (decide_eq_true numbered)]
  simp only [selectChannel, isAsked, Option.bind_some, found]

theorem selectChannel_of_not_asked {preferredChannel accountId : Option ℕ}
    (notAsked : ¬tables.Asked unicode countryCode preferredChannel (accountId.filter (· ≠ 0)))
    (cache : Option RouteCache) (answers : RouteAnswers) :
    tables.selectChannel unicode countryCode preferredChannel strategy accountId cache answers =
      tables.selectFrom unicode countryCode strategy (accountId.filter (· ≠ 0))
        (getAvailableChannels cache answers) := by
  rw [selectChannel]
  split
  · rename_i channel found
    rcases Option.bind_eq_some_iff.mp found with ⟨channelId, isAsked, available⟩
    have facts := Option.filter_eq_some_iff.mp isAsked
    exact absurd ⟨channelId, facts.1, of_decide_eq_true facts.2, by rw [available]; rfl⟩ notAsked
  · rfl

end Transparency

section Results

variable (unicode : Unicode) (sameCode : String → String → Bool) (tables : RouteTables)
  (countryCode : String)

def Transparent (preferredChannel : Option ℕ) (strategy : RouteStrategy)
    (accountId : Option ℕ) : Prop :=
  ∀ (filling : List Candidate) (answers computing : RouteAnswers),
    tables.ValidRows unicode sameCode countryCode filling →
    tables.ValidRows unicode sameCode countryCode answers.rows →
    tables.ValidReload (RouteCache.store (computed filling)) answers.reload →
    tables.ValidRows unicode sameCode countryCode computing.rows →
    tables.selectChannel unicode countryCode preferredChannel strategy accountId
        (RouteCache.store (computed filling)) answers =
      tables.selectChannel unicode countryCode preferredChannel strategy accountId none computing

def ReturnsGreatest (accountId : Option ℕ) : Prop :=
  ∀ (computing : RouteAnswers) (channel : RouteChannel),
    tables.ValidRows unicode sameCode countryCode computing.rows →
    tables.selectChannel unicode countryCode none .priority accountId none computing =
      .ok channel →
    ∃ chosen, tables.Allowed unicode sameCode countryCode (accountId.filter (· ≠ 0)) chosen ∧
      chosen.channel = channel ∧
      ∀ other, tables.Allowed unicode sameCode countryCode (accountId.filter (· ≠ 0)) other →
        other.order ≤ chosen.order

end Results

section

variable {unicode : Unicode} {sameCode : String → String → Bool} {tables : RouteTables}
  {countryCode : String} {strategy : RouteStrategy}

theorem oneLeader_of_transparent (unique : tables.UniqueChannelIds)
    {preferredChannel accountId : Option ℕ}
    (notAsked : ¬tables.Asked unicode countryCode preferredChannel (accountId.filter (· ≠ 0)))
    (transparent : tables.Transparent unicode sameCode countryCode preferredChannel strategy
      accountId) :
    tables.OneLeader unicode sameCode countryCode (accountId.filter (· ≠ 0)) strategy := by
  have valid := @validRows_rankedBy unicode sameCode tables countryCode
  have listed := lists_computed unique valid
  intro ranks one two leads leadsToo
  have some_ := List.ne_nil_of_mem ((listed.members one).mpr leads.member.routed)
  have chosen : ∀ {candidate}, Leads strategy.score Candidate.routePriority
      (tables.Allowed unicode sameCode countryCode (accountId.filter (· ≠ 0))) candidate →
      ∃ answers, tables.ValidRows unicode sameCode countryCode answers.rows ∧
        tables.ValidReload (RouteCache.store (computed (rankedBy Candidate.order
          (tables.joined unicode sameCode countryCode)))) answers.reload ∧
        tables.selectChannel unicode countryCode preferredChannel strategy accountId
          (RouteCache.store (computed (rankedBy Candidate.order
            (tables.joined unicode sameCode countryCode)))) answers = .ok candidate.channel := by
    intro candidate leading
    have routed := leading.member.routed
    have inTable := mem_joined routed.joined
    have inList := (listed.members candidate).mpr routed
    cases stored : RouteCache.store (computed (rankedBy Candidate.order
        (tables.joined unicode sameCode countryCode))) with
    | none =>
        rw [RouteCache.store, if_neg some_] at stored
        cases stored
    | some cached =>
        have known := mem_channelIds_of_store stored inList
        have inBase : candidate.channel ∈ tables.channels.filter fun channel =>
            channel.id ∈ cached.channelIds && channel.available := by
          simp [inTable, known]
        have reload : tables.ValidReload (some cached) (candidate.channel ::
            (tables.channels.filter fun channel =>
              channel.id ∈ cached.channelIds && channel.available).erase candidate.channel) := by
          rintro _ ⟨⟩
          exact (List.perm_cons_erase inBase).symm
        refine ⟨⟨_, _⟩, valid, reload, ?_⟩
        have hit : (some cached).filter (fun cached => cached.channelIds ≠ []) = some cached := by
          rw [Option.filter_some, if_pos (decide_eq_true (List.ne_nil_of_mem known))]
        rw [selectChannel_of_not_asked notAsked, getAvailableChannels, hit]
        exact selectFrom_loaded_first (lists_restore unique listed stored reload) ranks rfl leading
  rcases chosen leads with ⟨answers, rows, reload, selected⟩
  rcases chosen leadsToo with ⟨more, moreRows, moreReload, selectedToo⟩
  have same := transparent _ answers ⟨_, []⟩ valid rows reload valid
  have sameToo := transparent _ more ⟨_, []⟩ valid moreRows moreReload valid
  rw [selected] at same
  rw [selectedToo] at sameToo
  have channels : one.channel = two.channel := by
    injection same.trans sameToo.symm
  exact leads.member.routed.eq_of_channel leadsToo.member.routed channels

theorem transparent_iff (unique : tables.UniqueChannelIds)
    (deterministic : ∀ position, strategy ≠ .loadBalance position)
    (preferredChannel accountId : Option ℕ) :
    tables.Transparent unicode sameCode countryCode preferredChannel strategy accountId ↔
      tables.Asked unicode countryCode preferredChannel (accountId.filter (· ≠ 0)) ∨
        tables.OneLeader unicode sameCode countryCode (accountId.filter (· ≠ 0)) strategy := by
  constructor
  · intro transparent
    by_cases asked : tables.Asked unicode countryCode preferredChannel (accountId.filter (· ≠ 0))
    · exact .inl asked
    · exact .inr (oneLeader_of_transparent unique asked transparent)
  · intro condition filling answers computing filled rows reload computes
    by_cases asked : tables.Asked unicode countryCode preferredChannel (accountId.filter (· ≠ 0))
    · exact selectChannel_of_asked asked
    · rw [selectChannel_of_not_asked asked, selectChannel_of_not_asked asked]
      exact selectFrom_eq_of_lists (lists_cached unique filled rows reload)
        (lists_computed unique computes) deterministic (condition.resolve_left asked)

theorem score_of_order {one two : Candidate} (same : one.order = two.order) :
    one.score = two.score := by
  have priorities : (one.routePriority, one.channel.priority) =
      (two.routePriority, two.channel.priority) := toLex.injective same
  rw [Prod.mk.injEq] at priorities
  rw [Candidate.score, Candidate.score, priorities.1, priorities.2]

theorem returnsGreatest_iff (unique : tables.UniqueChannelIds) (accountId : Option ℕ) :
    tables.ReturnsGreatest unicode sameCode countryCode accountId ↔
      tables.NoneAbove unicode sameCode countryCode (accountId.filter (· ≠ 0)) := by
  have notAsked : ¬tables.Asked unicode countryCode none (accountId.filter (· ≠ 0)) := by
    rintro ⟨channelId, asked, -⟩
    cases asked
  have chosen : ∀ {rows}, tables.ValidRows unicode sameCode countryCode rows →
      ∀ {some_}, tables.Allowed unicode sameCode countryCode (accountId.filter (· ≠ 0)) some_ →
      ∃ candidate, tables.selectChannel unicode countryCode none .priority accountId none
          ⟨rows, []⟩ = .ok candidate.channel ∧
        Leads Candidate.score Candidate.order
          (tables.Allowed unicode sameCode countryCode (accountId.filter (· ≠ 0))) candidate := by
    intro rows valid some_ allowed
    have listed := lists_computed unique valid
    rw [selectChannel_of_not_asked notAsked]
    have ranks : RouteStrategy.priority.Ranks := .inl rfl
    exact leads_of_selectFrom listed (pairwise_rankedBy _ _) ranks
      (List.ne_nil_of_mem ((mem_allowedOf listed some_).mpr allowed))
  constructor
  · intro greatest top allowed isTop other otherAllowed
    rcases chosen validRows_rankedBy allowed with ⟨candidate, selected, leads⟩
    rcases greatest _ _ validRows_rankedBy selected with ⟨returned, isAllowed, same, above⟩
    have equal := isAllowed.routed.eq_of_channel leads.member.routed same
    subst equal
    have orders : top.order = returned.order := le_antisymm (above top allowed) (isTop _ isAllowed)
    rw [score_of_order orders]
    exact leads.best other otherAllowed
  · intro noneAbove computing channel valid selected
    have listed := lists_computed unique valid
    have some_ : tables.allowedOf unicode countryCode (accountId.filter (· ≠ 0))
        (computed computing.rows) ≠ [] := by
      intro none_
      rw [selectChannel_of_not_asked notAsked] at selected
      exact selectFrom_ne_ok none_ selected
    rcases Option.ne_none_iff_exists'.mp
      (List.argmax_eq_none (f := Candidate.order).not.mpr some_) with ⟨top, isTop⟩
    have members := @mem_allowedOf _ _ _ _ (accountId.filter (· ≠ 0)) _ listed
    have topAllowed := (members top).mp (List.argmax_mem isTop)
    have above : ∀ other, tables.Allowed unicode sameCode countryCode
        (accountId.filter (· ≠ 0)) other → other.order ≤ top.order := fun other allowed =>
      List.le_of_mem_argmax ((members other).mpr allowed) isTop
    rcases chosen valid topAllowed with ⟨candidate, same, leads⟩
    have channels : candidate.channel = channel := by
      have both := same.symm.trans selected
      injection both
    refine ⟨candidate, leads.member, channels, ?_⟩
    intro other allowed
    have noLess := leads.ahead top topAllowed (noneAbove top topAllowed above _ leads.member)
    exact (above other allowed).trans noLess

/-- With a filled cache the router returns what it returns without exactly when it returns the
channel asked for or only one channel leads; and by priority it returns the greatest channel exactly
when this one has the greatest score. -/
theorem route_cache_iff (unique : tables.UniqueChannelIds)
    (deterministic : ∀ position, strategy ≠ .loadBalance position)
    (preferredChannel accountId : Option ℕ) :
    (tables.Transparent unicode sameCode countryCode preferredChannel strategy accountId ↔
      tables.Asked unicode countryCode preferredChannel (accountId.filter (· ≠ 0)) ∨
        tables.OneLeader unicode sameCode countryCode (accountId.filter (· ≠ 0)) strategy) ∧
    (tables.ReturnsGreatest unicode sameCode countryCode accountId ↔
      tables.NoneAbove unicode sameCode countryCode (accountId.filter (· ≠ 0))) :=
  ⟨transparent_iff unique deterministic preferredChannel accountId,
    returnsGreatest_iff unique accountId⟩

end

theorem route_cache_iff_two :
    ((twoChannels (2, 0) (1, 0)).Transparent .ascii (· == ·) "TH" none .priority none ↔
      (twoChannels (2, 0) (1, 0)).Asked .ascii "TH" none none ∨
        (twoChannels (2, 0) (1, 0)).OneLeader .ascii (· == ·) "TH" none .priority) ∧
    ((twoChannels (2, 0) (1, 0)).ReturnsGreatest .ascii (· == ·) "TH" none ↔
      (twoChannels (2, 0) (1, 0)).NoneAbove .ascii (· == ·) "TH" none) :=
  route_cache_iff (by decide) (by simp) none none

/-- With equal route priorities the tables give the channel with the greater priority, and the cache
the one that is loaded first. And a channel without a route priority passes one that has it. -/
theorem route_cache_differs :
    ¬(twoChannels (1, 9) (1, 0)).Transparent .ascii (· == ·) "TH" none .priority none ∧
      ¬(twoChannels (0, 9) (1, 0)).ReturnsGreatest .ascii (· == ·) "TH" none := by
  constructor
  · intro transparent
    let rows := (twoChannels (1, 9) (1, 0)).joined .ascii (· == ·) "TH"
    have valid : (twoChannels (1, 9) (1, 0)).ValidRows .ascii (· == ·) "TH" rows :=
      ⟨.refl _, by decide⟩
    have reload : (twoChannels (1, 9) (1, 0)).ValidReload (RouteCache.store (computed rows))
        (twoChannels (1, 9) (1, 0)).channels.reverse := by
      rintro cached found
      have stored : RouteCache.store (computed rows) =
          some ⟨[1, 2], ["one", "two"], [9, 0], [1, 1]⟩ := by decide
      rw [stored] at found
      cases found
      decide
    have same := transparent rows ⟨rows, (twoChannels (1, 9) (1, 0)).channels.reverse⟩ ⟨rows, []⟩
      valid valid reload valid
    revert same
    decide
  · intro greatest
    let rows := ((twoChannels (0, 9) (1, 0)).joined .ascii (· == ·) "TH").reverse
    have valid : (twoChannels (0, 9) (1, 0)).ValidRows .ascii (· == ·) "TH" rows :=
      ⟨List.reverse_perm _, by decide⟩
    rcases greatest ⟨rows, []⟩ ⟨1, "one", .active, false, 9, 100⟩ valid (by decide) with
      ⟨chosen, allowed, same, above⟩
    have second : (twoChannels (0, 9) (1, 0)).Allowed .ascii (· == ·) "TH" none
        ⟨⟨2, "two", .active, false, 0, 100⟩, 1⟩ :=
      ⟨⟨by decide, by decide⟩, by simp⟩
    have lower : ∀ candidate ∈ (twoChannels (0, 9) (1, 0)).joined .ascii (· == ·) "TH",
        candidate.channel.id = 1 → candidate.routePriority < 1 := by decide
    have isLower := lower chosen allowed.routed.joined (by rw [same])
    have isGreater := routePriority_of_order (above _ second)
    dsimp only at isGreater
    omega

end RouteTables

end Klsmsc
