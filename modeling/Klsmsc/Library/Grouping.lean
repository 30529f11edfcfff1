import Mathlib.Algebra.BigOperators.Group.List.Basic
import Mathlib.Data.List.Dedup

/-!
# Items grouped by a key

What `GROUP BY` makes of a list: every key once, with its items. Two lists whose items have keys of
one kind are compared key by key: where the sums for every key are the same, so are the sums over
all items with keys of some property.
-/

namespace Klsmsc.Library

universe u v w x

variable {Item : Type u} {Other : Type v} {Key : Type w} [DecidableEq Key]

/-- The items with a key. -/
def members (key : Item → Key) (items : List Item) (wanted : Key) : List Item :=
  items.filter fun item => key item = wanted

/-- Every key with its items. -/
def groupBy (key : Item → Key) (items : List Item) : List (Key × List Item) :=
  (items.map key).dedup.map fun wanted => (wanted, members key items wanted)

variable {key : Item → Key} {items : List Item} {wanted : Key}

theorem members_eq_nil_iff : members key items wanted = [] ↔ wanted ∉ items.map key := by
  rw [members, List.filter_eq_nil_iff, List.mem_map]
  simp

theorem members_append (left right : List Item) :
    members key (left ++ right) wanted = members key left wanted ++ members key right wanted := by
  unfold members
  exact List.filter_append left right

/-- A key that is made for each group gives the group's own back. -/
theorem members_map_groupBy {make : Key × List Item → Other} {otherKey : Other → Key}
    (own : ∀ entry, otherKey (make entry) = entry.1) :
    members otherKey ((groupBy key items).map make) wanted =
      if members key items wanted = [] then []
      else [make (wanted, members key items wanted)] := by
  have distinct : (items.map key).dedup.Nodup := List.nodup_dedup _
  have keys : (members key items wanted = []) ↔ wanted ∉ (items.map key).dedup := by
    rw [members_eq_nil_iff, List.mem_dedup]
  simp only [keys, groupBy, List.map_map]
  generalize (items.map key).dedup = values at distinct
  induction values with
  | nil => rfl
  | cons value values ih =>
      rcases List.nodup_cons.mp distinct with ⟨absent, rest⟩
      have later := ih rest
      unfold members at later ⊢
      rw [List.map_cons, List.filter_cons, later]
      simp only [Function.comp_apply, own, List.mem_cons, decide_eq_true_eq]
      by_cases same : value = wanted
      · subst same
        simp [absent]
      · simp [same, Ne.symm same]

/-- The group of a key among the results that are made of the groups. -/
theorem lookup_map_groupBy [BEq Key] [LawfulBEq Key] {Result : Type v}
    {result : List Item → Result} :
    ((groupBy key items).map fun entry => (entry.1, result entry.2)).lookup wanted =
      if members key items wanted = [] then none
      else some (result (members key items wanted)) := by
  have keys : (members key items wanted = []) ↔ wanted ∉ (items.map key).dedup := by
    rw [members_eq_nil_iff, List.mem_dedup]
  simp only [keys, groupBy, List.map_map]
  induction (items.map key).dedup with
  | nil => rfl
  | cons value values ih =>
      simp only [List.map_cons, Function.comp_apply, List.lookup_cons, ih, List.mem_cons]
      by_cases same : wanted = value
      · subst same
        simp
      · simp [same, beq_false_of_ne same]

theorem nodup_keys_groupBy {Result : Type v} {result : List Item → Result} :
    (((groupBy key items).map fun entry => (entry.1, result entry.2)).map Prod.fst).Nodup := by
  rw [groupBy, List.map_map, List.map_map]
  exact (List.map_id (items.map key).dedup).symm ▸ List.nodup_dedup _

/-- Two lists that have items under the same keys of some property both have items with such keys,
or neither has. -/
theorem filter_eq_nil_iff_of_members {otherKey : Other → Key} {others : List Other}
    {property : Key → Bool}
    (same : ∀ wanted, property wanted = true →
      (members key items wanted = [] ↔ members otherKey others wanted = [])) :
    (items.filter fun item => property (key item)) = [] ↔
      (others.filter fun other => property (otherKey other)) = [] := by
  simp only [List.filter_eq_nil_iff]
  constructor
  · intro none other inside has
    have empty := (same (otherKey other) has).mp (members_eq_nil_iff.mpr fun listed => by
      rcases List.mem_map.mp listed with ⟨item, itsInside, its⟩
      exact none item itsInside (its ▸ has))
    exact members_eq_nil_iff.mp empty (List.mem_map_of_mem inside)
  · intro none item inside has
    have empty := (same (key item) has).mpr (members_eq_nil_iff.mpr fun listed => by
      rcases List.mem_map.mp listed with ⟨other, itsInside, its⟩
      exact none other itsInside (its ▸ has))
    exact members_eq_nil_iff.mp empty (List.mem_map_of_mem inside)

section Sums

variable {Amount : Type x} [AddCommMonoid Amount]

/-- Distinct keys split the sum over the items that have one of them. -/
theorem sum_members (value : Item → Amount) {keys : List Key} (distinct : keys.Nodup) :
    (keys.map fun wanted => ((members key items wanted).map value).sum).sum =
      ((items.filter fun item => key item ∈ keys).map value).sum := by
  induction items with
  | nil => simp [members]
  | cons item items ih =>
      have one : (keys.map fun wanted => if key item = wanted then value item else 0).sum =
          if key item ∈ keys then value item else 0 := by
        clear ih
        induction keys with
        | nil => rfl
        | cons first keys ih =>
            rcases List.nodup_cons.mp distinct with ⟨absent, rest⟩
            rw [List.map_cons, List.sum_cons, ih rest]
            by_cases same : key item = first
            · subst same
              simp [absent]
            · simp [same]
      have split : ∀ wanted, ((members key (item :: items) wanted).map value).sum =
          (if key item = wanted then value item else 0) +
            ((members key items wanted).map value).sum := by
        intro wanted
        by_cases same : key item = wanted <;> simp [members, same]
      simp only [split, List.sum_map_add, one, ih]
      by_cases inside : key item ∈ keys <;> simp [inside]

/-- The sum over the items with keys of some property is split by the keys that have it. -/
theorem sum_filter_eq_sum_members (value : Item → Amount) {keys : List Key}
    (distinct : keys.Nodup) {property : Key → Bool}
    (covered : ∀ item ∈ items, key item ∈ keys ↔ property (key item) = true) :
    ((items.filter fun item => property (key item)).map value).sum =
      (keys.map fun wanted => ((members key items wanted).map value).sum).sum := by
  rw [sum_members value distinct]
  refine congrArg (fun chosen => (chosen.map value).sum) (List.filter_congr ?_)
  intro item inside
  rw [Bool.eq_iff_iff, decide_eq_true_eq, covered item inside]

/-- Two lists with the same sums under every key of some property have the same sums over the items
with such keys. -/
theorem sum_filter_eq_of_members {otherKey : Other → Key} {others : List Other}
    {value : Item → Amount} {otherValue : Other → Amount} {property : Key → Bool}
    (same : ∀ wanted, property wanted = true →
      ((members key items wanted).map value).sum =
        ((members otherKey others wanted).map otherValue).sum) :
    ((items.filter fun item => property (key item)).map value).sum =
      ((others.filter fun other => property (otherKey other)).map otherValue).sum := by
  have distinct : ((items.map key ++ others.map otherKey).dedup.filter property).Nodup :=
    (List.nodup_dedup _).filter _
  rw [sum_filter_eq_sum_members value distinct, sum_filter_eq_sum_members otherValue distinct]
  · refine congrArg List.sum (List.map_congr_left fun wanted inside => same wanted ?_)
    exact (List.mem_filter.mp inside).2
  · intro other inside
    have listed : otherKey other ∈ (items.map key ++ others.map otherKey).dedup :=
      List.mem_dedup.mpr (List.mem_append_right _ (List.mem_map_of_mem inside))
    simp [List.mem_filter, listed]
  · intro item inside
    have listed : key item ∈ (items.map key ++ others.map otherKey).dedup :=
      List.mem_dedup.mpr (List.mem_append_left _ (List.mem_map_of_mem inside))
    simp [List.mem_filter, listed]

end Sums

end Klsmsc.Library
