import Klsmsc.Dlr

/-!
# Ownership of delivery reports

Several systems share one account with an upstream, which sends its reports to all of
them. The gateway writes a key for every upstream id that a submit response returns,
and asks for the key of the id in a report before it passes the report on. The worker
asks again before it buffers a report that matches no row.

The matcher of the worker tries every id in `_expand_id_candidates`: case variants,
and the hexadecimal and decimal spelling of one number. The filter of the worker
tries case variants, the filter of the gateway only the id as it is spelled.
-/

namespace Klsmsc

/-- The switch `DLR_OWNERSHIP_FILTER` of the gateway and the keys `dlr_owned` in Redis. -/
structure Ownership where
  filterEnabled : Bool
  owned : List (ℕ × String)

namespace Ownership

/-- `MarkOwned`, with Redis up. -/
def markOwned (ownership : Ownership) (channelId : ℕ) (upstreamId : String) : Ownership :=
  if !ownership.filterEnabled || upstreamId = "" then ownership
  else { ownership with owned := (channelId, upstreamId) :: ownership.owned }

def markAll (ownership : Ownership) (marks : List (ℕ × String)) : Ownership :=
  marks.foldl (fun ownership mark => ownership.markOwned mark.1 mark.2) ownership

/-- `IsOwned`. When Redis fails the report is accepted. -/
def isOwned (ownership : Ownership) (redisFails : Bool) (channelId : ℕ) (upstreamId : String) :
    Bool :=
  if !ownership.filterEnabled then true
  else if upstreamId = "" then true
  else redisFails || ownership.owned.contains (channelId, upstreamId)

/-- `_dlr_is_owned`. When Redis fails the report is accepted. -/
def dlrIsOwned (unicode : Unicode) (ownership : Ownership) (redisFails : Bool) (channelId : ℕ)
    (upstreamId : String) : Bool :=
  [upstreamId, unicode.upper upstreamId, unicode.lower upstreamId].any fun uid =>
    uid ≠ "" && (redisFails || ownership.owned.contains (channelId, uid))

variable (unicode : Unicode) (ownership : Ownership) (channelId : ℕ) (upstreamId : String)

@[simp]
theorem markOwned_filterEnabled :
    (ownership.markOwned channelId upstreamId).filterEnabled = ownership.filterEnabled := by
  unfold markOwned
  split <;> rfl

theorem mem_owned_markOwned {key : ℕ × String} (enabled : ownership.filterEnabled = true) :
    key ∈ (ownership.markOwned channelId upstreamId).owned ↔
      key ∈ ownership.owned ∨ upstreamId ≠ "" ∧ key = (channelId, upstreamId) := by
  unfold markOwned
  by_cases named : upstreamId = ""
  · simp [named]
  · simp [enabled, named, or_comm]

@[simp]
theorem markAll_filterEnabled (marks : List (ℕ × String)) :
    (ownership.markAll marks).filterEnabled = ownership.filterEnabled := by
  induction marks generalizing ownership with
  | nil => rfl
  | cons mark marks ih =>
      calc ((ownership.markOwned mark.1 mark.2).markAll marks).filterEnabled
          = (ownership.markOwned mark.1 mark.2).filterEnabled := ih _
        _ = ownership.filterEnabled := markOwned_filterEnabled _ _ _

theorem mem_owned_markAll {key : ℕ × String} (enabled : ownership.filterEnabled = true)
    (named : key.2 ≠ "") (marks : List (ℕ × String)) :
    key ∈ (ownership.markAll marks).owned ↔ key ∈ ownership.owned ∨ key ∈ marks := by
  induction marks generalizing ownership with
  | nil => simp [markAll]
  | cons mark marks ih =>
      have marked : key ∈ (ownership.markOwned mark.1 mark.2).owned ↔
          key ∈ ownership.owned ∨ key = mark := by
        rw [mem_owned_markOwned _ _ _ enabled]
        constructor
        · rintro (old | ⟨_, new⟩)
          · exact Or.inl old
          · exact Or.inr new
        · rintro (old | rfl)
          · exact Or.inl old
          · exact Or.inr ⟨named, rfl⟩
      have rest := ih (ownership.markOwned mark.1 mark.2) (by simpa using enabled)
      calc key ∈ ((ownership.markOwned mark.1 mark.2).markAll marks).owned
          ↔ (key ∈ ownership.owned ∨ key = mark) ∨ key ∈ marks := by rw [rest, marked]
        _ ↔ key ∈ ownership.owned ∨ key ∈ mark :: marks := by rw [List.mem_cons, or_assoc]

theorem isOwned_iff (enabled : ownership.filterEnabled = true) (named : upstreamId ≠ "") :
    ownership.isOwned false channelId upstreamId = true ↔
      (channelId, upstreamId) ∈ ownership.owned := by
  simp [isOwned, enabled, named]

theorem dlrIsOwned_iff :
    ownership.dlrIsOwned unicode false channelId upstreamId = true ↔
      ∃ uid ∈ [upstreamId, unicode.upper upstreamId, unicode.lower upstreamId],
        uid ≠ "" ∧ (channelId, uid) ∈ ownership.owned := by
  simp only [dlrIsOwned, List.any_eq_true, Bool.and_eq_true, Bool.false_or, decide_eq_true_eq,
    List.contains_iff_mem]

theorem dlrIsOwned_of_isOwned (enabled : ownership.filterEnabled = true)
    (named : upstreamId ≠ "") (owned : ownership.isOwned false channelId upstreamId = true) :
    ownership.dlrIsOwned unicode false channelId upstreamId = true := by
  rw [dlrIsOwned_iff]
  refine ⟨upstreamId, List.mem_cons_self, named, ?_⟩
  exact (isOwned_iff ownership channelId upstreamId enabled named).mp owned

end Ownership

theorem ne_empty_of_mem_expandIdCandidates {unicode : Unicode} {raw candidate : String}
    (member : candidate ∈ expandIdCandidates unicode raw) : raw ≠ "" := by
  rintro rfl
  have empty : expandIdCandidates unicode "" = [] := by
    simp [expandIdCandidates, strip]
  rw [empty] at member
  cases member

theorem handleDeliverSM_of_not_isOwned {deliver : DeliverSm} (rejected : deliver.isOwned = false) :
    handleDeliverSM deliver = none := by
  unfold handleDeliverSM
  simp only [rejected, Bool.false_and, Bool.false_eq_true, if_false]
  split <;> rfl

/-- A submit response has marked an upstream id, and a report has an id whose candidates
include it. Both filters accept the report if and only if it spells the id as the response
did, or its own spelling has been marked for another message. -/
theorem filters_accept_iff (unicode : Unicode) (ownership : Ownership) (channelId : ℕ)
    {upstreamId reported : String} (later : List (ℕ × String))
    (enabled : ownership.filterEnabled = true)
    (candidate : upstreamId ∈ expandIdCandidates unicode reported) :
    (((ownership.markOwned channelId upstreamId).markAll later).isOwned false channelId
          reported = true ∧
        ((ownership.markOwned channelId upstreamId).markAll later).dlrIsOwned unicode false
          channelId reported = true) ↔
      reported = upstreamId ∨ (channelId, reported) ∈ ownership.owned ∨
        (channelId, reported) ∈ later := by
  have named := ne_empty_of_mem_expandIdCandidates candidate
  have markedEnabled : (ownership.markOwned channelId upstreamId).filterEnabled = true := by
    simpa using enabled
  have allEnabled :
      ((ownership.markOwned channelId upstreamId).markAll later).filterEnabled = true := by
    simpa using enabled
  have accepted := Ownership.isOwned_iff _ channelId reported allEnabled named
  have both := Ownership.dlrIsOwned_of_isOwned unicode _ channelId reported allEnabled named
  rw [and_iff_left_of_imp both, accepted, Ownership.mem_owned_markAll _ markedEnabled named,
    Ownership.mem_owned_markOwned _ _ _ enabled]
  constructor
  · rintro ((old | ⟨_, new⟩) | after)
    · exact Or.inr (Or.inl old)
    · exact Or.inl (congrArg Prod.snd new)
    · exact Or.inr (Or.inr after)
  · rintro (rfl | old | after)
    · exact Or.inl (Or.inr ⟨named, rfl⟩)
    · exact Or.inl (Or.inl old)
    · exact Or.inr after

def emptyOwnership : Ownership := ⟨true, []⟩

/-- The matcher finds the id in both reports. The gateway drops the report that spells it in
lower case, which the worker would accept, and both drop the report that spells it in decimal. -/
theorem filters_reject :
    "1A2B" ∈ expandIdCandidates .ascii "1a2b" ∧
      (emptyOwnership.markOwned 7 "1A2B").isOwned false 7 "1a2b" = false ∧
      (emptyOwnership.markOwned 7 "1A2B").dlrIsOwned .ascii false 7 "1a2b" = true ∧
      "0x1a2b" ∈ expandIdCandidates .ascii "6699" ∧
      (emptyOwnership.markOwned 7 "0x1a2b").isOwned false 7 "6699" = false ∧
      (emptyOwnership.markOwned 7 "0x1a2b").dlrIsOwned .ascii false 7 "6699" = false := by
  decide

/-- A report that repeats the id of the submit response passes both filters. -/
theorem filters_accept_same :
    (emptyOwnership.markOwned 7 "1A2B").isOwned false 7 "1A2B" = true ∧
      (emptyOwnership.markOwned 7 "1A2B").dlrIsOwned .ascii false 7 "1A2B" = true := by
  have candidate : "1A2B" ∈ expandIdCandidates .ascii "1A2B" := by decide
  exact (filters_accept_iff .ascii emptyOwnership 7 [] rfl candidate).mpr (Or.inl rfl)

end Klsmsc
