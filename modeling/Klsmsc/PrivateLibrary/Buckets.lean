import Mathlib.Algebra.Order.BigOperators.Group.List
import Klsmsc.PrivateLibrary

/-!
# What deltas make of the buckets

A list of deltas changes every stored bucket by those that have its key, and adds a bucket where an
increase finds none. Merged deltas have their keys once. Deltas that take away are not clamped where
the bucket counts at least what they take.
-/

namespace Klsmsc

open Library

def SummaryBucket.behind (bucket : SummaryBucket) (delta : BucketDelta) : SummaryBucket :=
  if bucket.key = delta.key then bucket.changed delta.total delta.used else bucket

@[simp]
theorem SummaryBucket.behind_key (bucket : SummaryBucket) (delta : BucketDelta) :
    (bucket.behind delta).key = bucket.key := by
  rw [behind]
  split <;> rfl

@[simp]
theorem foldl_behind_key (deltas : List BucketDelta) (bucket : SummaryBucket) :
    (deltas.foldl SummaryBucket.behind bucket).key = bucket.key := by
  induction deltas generalizing bucket with
  | nil => rfl
  | cons delta deltas ih => rw [List.foldl_cons, ih, SummaryBucket.behind_key]

theorem plsApplyBucketDelta_append {buckets : List SummaryBucket}
    {change : SummaryBucket → SummaryBucket} (keeps : ∀ bucket, (change bucket).key = bucket.key)
    {added : List SessionBucket} (unstored : ∀ entry ∈ added, entry.stored = none)
    (delta : BucketDelta) :
    plsApplyBucketDelta (buckets.map (fun bucket => ⟨some bucket, change bucket⟩) ++ added)
        delta =
      buckets.map (fun bucket => ⟨some bucket, (change bucket).behind delta⟩) ++ added ++
        if (∃ bucket ∈ buckets, bucket.key = delta.key) ∨ delta.total ≤ 0 then []
        else [⟨none, delta.created⟩] := by
  have found : (∃ entry ∈ buckets.map (fun bucket => SessionBucket.mk (some bucket)
      (change bucket)) ++ added, entry.Answers delta.key) ↔
        ∃ bucket ∈ buckets, bucket.key = delta.key := by
    constructor
    · rintro ⟨entry, member, stored, same⟩
      rcases List.mem_append.mp member with old | new
      · rcases List.mem_map.mp old with ⟨bucket, inside, rfl⟩
        exact ⟨bucket, inside, (keeps bucket).symm.trans same⟩
      · rw [unstored entry new] at stored
        cases stored
    · rintro ⟨bucket, inside, same⟩
      exact ⟨⟨some bucket, change bucket⟩,
        List.mem_append_left _ (List.mem_map_of_mem (f := fun bucket => _) inside),
        rfl, (keeps bucket).trans same⟩
  have other : ∀ entry ∈ added, ¬ entry.Answers delta.key := by
    rintro entry member ⟨stored, -⟩
    rw [unstored entry member] at stored
    cases stored
  rw [plsApplyBucketDelta, if_congr found rfl rfl]
  by_cases exists_ : ∃ bucket ∈ buckets, bucket.key = delta.key
  · rw [if_pos exists_, if_pos (Or.inl exists_), List.append_nil, List.map_append, List.map_map]
    congr 1
    · refine List.map_congr_left ?_
      intro bucket _
      by_cases same : (change bucket).key = delta.key
      · simp [SessionBucket.Answers, SummaryBucket.behind, same]
      · simp [SessionBucket.Answers, SummaryBucket.behind, same]
    · refine (List.map_congr_left ?_).trans (List.map_id added)
      intro entry member
      exact if_neg (other entry member)
  · have untouched : buckets.map (fun bucket => SessionBucket.mk (some bucket)
        ((change bucket).behind delta)) =
          buckets.map fun bucket => SessionBucket.mk (some bucket) (change bucket) := by
      refine List.map_congr_left ?_
      intro bucket inside
      rw [SummaryBucket.behind, if_neg]
      rw [keeps]
      exact fun same => exists_ ⟨bucket, inside, same⟩
    rw [if_neg exists_, untouched]
    by_cases less : delta.total ≤ 0
    · simp [less]
    · simp [less, exists_]

theorem foldl_plsApplyBucketDelta (buckets : List SummaryBucket) (deltas : List BucketDelta) :
    ∃ added : List SessionBucket,
      deltas.foldl plsApplyBucketDelta (sessionOf buckets) =
          buckets.map (fun bucket =>
            ⟨some bucket, deltas.foldl SummaryBucket.behind bucket⟩) ++ added ∧
        ∀ entry ∈ added, entry.stored = none ∧ ∃ delta ∈ deltas, 0 < delta.total ∧
          (∀ bucket ∈ buckets, bucket.key ≠ delta.key) ∧ entry.current = delta.created := by
  induction deltas using List.reverseRecOn with
  | nil => exact ⟨[], by simp [sessionOf], by simp⟩
  | append_singleton deltas delta ih =>
      rcases ih with ⟨added, equal, fresh⟩
      rw [List.foldl_append, equal, List.foldl_cons, List.foldl_nil,
        plsApplyBucketDelta_append (foldl_behind_key deltas) fun entry member =>
          (fresh entry member).1]
      simp only [List.foldl_append, List.foldl_cons, List.foldl_nil, List.append_assoc]
      refine ⟨_, rfl, ?_⟩
      intro entry member
      rcases List.mem_append.mp member with old | new
      · rcases fresh entry old with ⟨unstored, from_, inside, more⟩
        exact ⟨unstored, from_, List.mem_append_left _ inside, more⟩
      · split at new
        · cases new
        · rename_i creates
          rw [not_or, not_exists] at creates
          rw [List.mem_singleton.mp new]
          refine ⟨rfl, delta, by simp, by omega, ?_, rfl⟩
          intro bucket inside same
          exact creates.1 bucket ⟨inside, same⟩

theorem mem_foldl_plsApplyBucketDelta {buckets : List SummaryBucket} {deltas : List BucketDelta}
    {entry : SessionBucket}
    (member : entry ∈ deltas.foldl plsApplyBucketDelta (sessionOf buckets)) :
    (∃ bucket ∈ buckets, entry = ⟨some bucket, deltas.foldl SummaryBucket.behind bucket⟩) ∨
      entry.stored = none ∧ ∃ delta ∈ deltas, 0 < delta.total ∧
        (∀ bucket ∈ buckets, bucket.key ≠ delta.key) ∧ entry.current = delta.created := by
  rcases foldl_plsApplyBucketDelta buckets deltas with ⟨added, equal, fresh⟩
  rw [equal] at member
  rcases List.mem_append.mp member with old | new
  · rcases List.mem_map.mp old with ⟨bucket, inside, rfl⟩
    exact .inl ⟨bucket, inside, rfl⟩
  · exact .inr (fresh entry new)

theorem foldl_behind_of_nodup {keys : List SummaryKey} (once : keys.Nodup)
    {deltaFor : SummaryKey → BucketDelta} (own : ∀ key, (deltaFor key).key = key)
    (bucket : SummaryBucket) :
    (keys.map deltaFor).foldl SummaryBucket.behind bucket =
      if bucket.key ∈ keys then
        bucket.changed (deltaFor bucket.key).total (deltaFor bucket.key).used
      else bucket := by
  induction keys generalizing bucket with
  | nil => rfl
  | cons key keys ih =>
      rw [List.nodup_cons] at once
      rw [List.map_cons, List.foldl_cons, ih once.2, SummaryBucket.behind_key,
        SummaryBucket.behind, own]
      by_cases same : bucket.key = key
      · subst key
        rw [if_neg once.1, if_pos rfl, if_pos List.mem_cons_self]
      · rw [if_neg same]
        simp [same]

theorem mem_plsApplyDeltasBulk {buckets : List SummaryBucket} {deltas : List BucketDelta}
    {entry : SessionBucket}
    (member : entry ∈ plsApplyDeltasBulk (sessionOf buckets) deltas) :
    (∃ bucket ∈ buckets, entry = ⟨some bucket,
        if bucket.key ∈ deltas.map BucketDelta.key then
          bucket.changed (deltaOf deltas bucket.key).total (deltaOf deltas bucket.key).used
        else bucket⟩) ∨
      entry.stored = none ∧ ∃ key ∈ deltas.map BucketDelta.key, 0 < (deltaOf deltas key).total ∧
        (∀ bucket ∈ buckets, bucket.key ≠ key) ∧ entry.current = (deltaOf deltas key).created := by
  rcases mem_foldl_plsApplyBucketDelta member with ⟨bucket, inside, equal⟩ | ⟨unstored, fresh⟩
  · refine .inl ⟨bucket, inside, ?_⟩
    rw [equal, foldl_behind_of_nodup (List.nodup_dedup _) fun _ => rfl]
    simp only [List.mem_dedup]
  · rcases fresh with ⟨delta, isDelta, more, none_, created⟩
    rcases List.mem_map.mp isDelta with ⟨key, isKey, rfl⟩
    exact .inr ⟨unstored, key, List.mem_dedup.mp isKey, more, none_, created⟩

theorem foldl_behind_of_taking {deltas : List BucketDelta} {bucket : SummaryBucket}
    {total used : ℕ}
    (part : ∀ delta ∈ deltas, delta.total ≤ delta.used ∧ delta.used ≤ 0)
    (totals : (total : ℤ) = bucket.totalCount + (deltaOf deltas bucket.key).total)
    (uses : (used : ℤ) = bucket.usedCount + (deltaOf deltas bucket.key).used)
    (within : used ≤ total) :
    deltas.foldl SummaryBucket.behind bucket =
      { bucket with totalCount := total, usedCount := used } := by
  induction deltas generalizing bucket with
  | nil =>
      simp only [deltaOf, List.map_nil, List.sum_nil, add_zero] at totals uses
      obtain rfl : total = bucket.totalCount := by omega
      obtain rfl : used = bucket.usedCount := by omega
      rfl
  | cons delta deltas ih =>
      have rest : ∀ other ∈ deltas, other.total ≤ other.used ∧ other.used ≤ 0 :=
        fun other member => part other (List.mem_cons_of_mem _ member)
      have less : (deltaOf deltas bucket.key).total ≤ (deltaOf deltas bucket.key).used ∧
          (deltaOf deltas bucket.key).used ≤ 0 := by
        constructor
        · refine List.sum_le_sum ?_
          intro other member
          split
          · exact (rest other member).1
          · exact le_refl 0
        · refine (List.sum_le_sum (g := fun _ => 0) ?_).trans (by simp)
          intro other member
          split
          · exact (rest other member).2
          · exact le_refl 0
      have here := part delta List.mem_cons_self
      rw [List.foldl_cons, SummaryBucket.behind]
      by_cases same : bucket.key = delta.key
      · have sums : (deltaOf (delta :: deltas) bucket.key).total =
              delta.total + (deltaOf deltas bucket.key).total ∧
            (deltaOf (delta :: deltas) bucket.key).used =
              delta.used + (deltaOf deltas bucket.key).used := by
          simp [deltaOf, same]
        rw [sums.1] at totals
        rw [sums.2] at uses
        rw [if_pos same, ih rest]
        · rw [SummaryBucket.changed, if_neg (by omega)]
        · show (total : ℤ) = (bucket.totalCount + delta.total).toNat +
            (deltaOf deltas bucket.key).total
          omega
        · show (used : ℤ) = (min (bucket.usedCount + delta.used).toNat
            (bucket.totalCount + delta.total).toNat : ℕ) + (deltaOf deltas bucket.key).used
          omega
      · have sums : (deltaOf (delta :: deltas) bucket.key) = deltaOf deltas bucket.key := by
          simp [deltaOf, Ne.symm same]
        rw [sums] at totals uses
        rw [if_neg same, ih rest totals uses]

theorem foldl_behind_isDeleted {deltas : List BucketDelta}
    (less : ∀ delta ∈ deltas, delta.total ≤ 0) (bucket : SummaryBucket) :
    (deltas.foldl SummaryBucket.behind bucket).isDeleted = bucket.isDeleted := by
  induction deltas generalizing bucket with
  | nil => rfl
  | cons delta deltas ih =>
      have here := less delta List.mem_cons_self
      rw [List.foldl_cons, ih fun other member => less other (List.mem_cons_of_mem _ member),
        SummaryBucket.behind]
      split
      · exact if_neg (by omega)
      · rfl

theorem mem_plsPruneNonPositive {accountId : ℕ} {session : List SessionBucket}
    {left : List SummaryBucket} (pruned : plsPruneNonPositive accountId session = some left)
    {bucket : SummaryBucket} (member : bucket ∈ left) :
    ∃ entry ∈ session, bucket = entry.current ∨
      entry.current.totalCount = 0 ∧ entry.stored = some bucket := by
  rw [plsPruneNonPositive] at pruned
  split at pruned
  · cases pruned
  · cases pruned
    rcases List.mem_filterMap.mp member with ⟨entry, inside, kept⟩
    refine ⟨entry, inside, ?_⟩
    split at kept
    · cases kept
    · split at kept
      · rename_i empty
        exact .inr ⟨empty.2, kept⟩
      · exact .inl (Option.some.inj kept).symm

end Klsmsc
