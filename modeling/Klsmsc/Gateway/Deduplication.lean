import Klsmsc.Dlr
import Klsmsc.Library.Marks
import Klsmsc.Library.Numerals

/-!
# What the gateway does not do again

Two filters of the gateway ask Redis for a mark before they act and mark after they have succeeded.
`IsAlreadySubmitted` keeps a message that the upstream has accepted from being submitted again, and
`IsDuplicateDLR` keeps a report that was published from being published again, as an upstream sends
its reports several times. Neither marks what has failed, and both go on where Redis does not
answer.

The submissions of several consumers and the reports of several binds interleave. The key of a
report has its parts behind each other with colons between them, and only a stat without a colon
keeps them apart.
-/

namespace Klsmsc

open Library

/-! ### Submissions -/

/-- `outboundDedupKey`. -/
def outboundDedupKey (messageID : String) : String :=
  "submit_done:" ++ messageID

theorem outboundDedupKey_inj {left right : String}
    (same : outboundDedupKey left = outboundDedupKey right) : left = right := by
  have characters := congrArg String.toList same
  simp only [outboundDedupKey, String.toList_append, List.append_cancel_left_eq] at characters
  exact String.toList_injective characters

/-- The keys in Redis, and the copies of messages by their ids. A copy comes to the filter of
`processSingleSMSData`, finishes with the answer of the upstream, which is a success where it is
`ESME_ROK`, and is cut off where none comes. -/
abbrev SubmitFilter := Marks String String

namespace SubmitFilter

variable (enabled : Bool) (ttl : ℕ) (filter : SubmitFilter) (messageID : String)

def asks : Bool :=
  enabled && messageID ≠ ""

/-- `IsAlreadySubmitted`, with whether Redis answers. -/
def isAlreadySubmitted (answers : Bool) : Bool :=
  if !enabled || messageID = "" then false
  else answers && decide (filter.now < filter.ends (outboundDedupKey messageID))

/-- `MarkSubmitted`, with whether Redis stores the key. -/
def markSubmitted (stored : Bool) : SubmitFilter :=
  if !enabled || messageID = "" then filter
  else if stored then
    { filter with
      ends := Function.update filter.ends (outboundDedupKey messageID) (filter.now + ttl)
      marked := filter.marked ++ [(outboundDedupKey messageID, filter.now)] }
  else filter

abbrev Step : SubmitFilter → MarkEvent String String → SubmitFilter → Prop :=
  Marks.Step outboundDedupKey (asks enabled) ttl

variable {enabled} {ttl} {filter} {messageID} {n : ℕ}

theorem next_check (free : filter.attempts n = none) (answers : Bool) :
    filter.next outboundDedupKey (asks enabled) ttl (.check n messageID answers) =
      some (if filter.isAlreadySubmitted enabled messageID answers then
        { filter with
          arrived := filter.arrived ++ [messageID]
          skipped := filter.skipped ++ [(messageID, filter.now)] }
      else
        { filter with
          arrived := filter.arrived ++ [messageID]
          attempts := Function.update filter.attempts n (some ⟨messageID, .trying⟩) }) := by
  cases enabled <;> by_cases named : messageID = "" <;>
    simp [Marks.next, free, isAlreadySubmitted, asks, named, apply_ite]

theorem next_mark (accepted : filter.attempts n = some ⟨messageID, .succeeded⟩) (stored : Bool) :
    filter.next outboundDedupKey (asks enabled) ttl (.mark n stored) =
      some
        { filter.markSubmitted enabled ttl messageID stored with
          attempts := Function.update filter.attempts n none } := by
  cases enabled <;> by_cases named : messageID = "" <;> cases stored <;>
    simp [Marks.next, accepted, markSubmitted, asks, named]

variable {events : List (Transition SubmitFilter (MarkEvent String String))} {last : SubmitFilter}

/-- In every run a copy that is passed by is one of a message that the upstream has accepted, and
whose mark was set less than its time before. A copy that has come is under way, was passed by or
accepted, or its submission failed or has no answer. -/
theorem submissions_justified (run : Run (Step enabled ttl) Marks.initial events last) :
    (∀ skip ∈ last.skipped, ∃ accepted ∈ last.succeeded, accepted.1 = skip.1 ∧
      ∃ markedAt, accepted.2 ≤ markedAt ∧ markedAt ≤ skip.2 ∧ skip.2 < markedAt + ttl) ∧
    ∀ messageID ∈ last.arrived, (∃ n, last.attempts n = some ⟨messageID, .trying⟩) ∨
      messageID ∈ last.failed ∨ messageID ∈ last.cutOff ∨
        ∃ accepted ∈ last.succeeded, accepted.1 = messageID := by
  have justified : ∀ skip ∈ last.skipped, ∃ accepted ∈ last.succeeded, accepted.1 = skip.1 ∧
      ∃ markedAt, accepted.2 ≤ markedAt ∧ markedAt ≤ skip.2 ∧ skip.2 < markedAt + ttl := by
    intro skip member
    rcases Marks.skips_justified run skip member with ⟨accepted, done, same, markedAt, -, bounds⟩
    exact ⟨accepted, done, outboundDedupKey_inj same, markedAt, bounds⟩
  refine ⟨justified, ?_⟩
  intro messageID member
  rcases Marks.jobs_accounted run messageID member with trying | passed | fail | cut | success
  · exact Or.inl trying
  · rcases List.mem_map.mp passed with ⟨skip, skipped, rfl⟩
    rcases justified skip skipped with ⟨accepted, done, same, -⟩
    exact Or.inr (Or.inr (Or.inr ⟨accepted, done, same⟩))
  · exact Or.inr (Or.inl fail)
  · exact Or.inr (Or.inr (Or.inl cut))
  · rcases List.mem_map.mp success with ⟨accepted, done, same⟩
    exact Or.inr (Or.inr (Or.inr ⟨accepted, done, same⟩))

/-- A second copy of a message comes a minute after the first one was accepted. -/
theorem submissions_justified_copy :
    ∃ events last, Run (Step true 3600) Marks.initial events last ∧
      last.skipped = [("m", 60)] ∧ ∃ accepted ∈ last.succeeded, accepted.1 = "m" := by
  have passed : ((execute (Marks.next outboundDedupKey (asks true) 3600) Marks.initial
      [.check 0 "m" true, .finish 0 true, .mark 0 true, .tick 60, .check 1 "m" true]).any
        fun outcome => decide (outcome.2.skipped = [("m", 60)])) = true := by
    decide
  rcases Run.exists_of_execute _ passed with ⟨events, last, run, checked⟩
  have skipped : last.skipped = [("m", 60)] := of_decide_eq_true checked
  rcases (submissions_justified run).1 ("m", 60) (by simp [skipped]) with ⟨accepted, done, same, -⟩
  exact ⟨events, last, run, skipped, accepted, done, same⟩

/-- In a run where the filter is on, the copies of a message follow each other and Redis works, the
upstream accepts no message twice in the time of a mark. -/
theorem submissions_apart (run : Run (Step enabled ttl) Marks.initial events last)
    (orderly : ∀ transition ∈ events,
      transition.before.Orderly outboundDedupKey (asks enabled) transition.label) :
    last.succeeded.Pairwise fun earlier later =>
      earlier.1 = later.1 → earlier.2 + ttl ≤ later.2 :=
  (Marks.successes_apart run orderly).imp fun spaced same =>
    spaced (congrArg outboundDedupKey same)

/-- A message whose mark has ended is accepted again. -/
theorem submissions_apart_hour :
    ∃ events last, Run (Step true 3600) Marks.initial events last ∧
      last.succeeded = [("m", 0), ("m", 3600)] ∧
      last.succeeded.Pairwise fun earlier later =>
        earlier.1 = later.1 → earlier.2 + 3600 ≤ later.2 := by
  have executed : execute (Marks.next outboundDedupKey (asks true) 3600) Marks.initial
      [.check 0 "m" true, .finish 0 true, .mark 0 true, .tick 3600, .check 1 "m" true,
        .finish 1 true] = some (_, _) := rfl
  have run : Run (Step true 3600) Marks.initial _ _ := Run.of_execute executed
  refine ⟨_, _, run, rfl, submissions_apart run ?_⟩
  intro transition member
  simp only [List.mem_cons, List.not_mem_nil, or_false] at member
  rcases member with rfl | rfl | rfl | rfl | rfl | rfl <;> simp [Marks.Orderly, Marks.initial, asks]

end SubmitFilter

/-! ### Reports -/

structure SmppReport where
  channelId : ℕ
  upstreamId : String
  stat : String
  deriving DecidableEq, Repr

def SmppReport.task (report : SmppReport) : DlrCall where
  channelId := report.channelId
  upstreamId := report.upstreamId
  newStatus := finalStatus report.stat
  stat := report.stat
  err := "000"
  destAddr := ""
  sourceAddr := ""
  receiptedMessageId := report.upstreamId
  fromFlush := false

/-- `dedupKey`. -/
def SmppReport.dedupKey (report : SmppReport) : String :=
  "dlr_dedup:" ++ toString report.channelId ++ ":" ++ report.upstreamId ++ ":" ++ report.stat

/-- The two matches of `handleDeliverSM`. -/
def readReport (deliver : DeliverSm) : Option SmppReport :=
  let text := (deliverText deliver.decoded deliver.raw).toList
  match captureAfter "id:".toList text, captureAfter "stat:".toList text with
  | some upstreamId, some stat => some ⟨deliver.channelId, upstreamId, stat⟩
  | _, _ => none

theorem handleDeliverSM_eq (deliver : DeliverSm) :
    handleDeliverSM deliver =
      if deliver.isOwned && !deliver.isDuplicate then (readReport deliver).map SmppReport.task
      else none := by
  simp only [handleDeliverSM, readReport]
  cases captureAfter "id:".toList (deliverText deliver.decoded deliver.raw).toList with
  | none => simp
  | some upstreamId =>
      cases captureAfter "stat:".toList (deliverText deliver.decoded deliver.raw).toList with
      | none => simp
      | some stat => rfl

theorem eq_of_separated {α : Type*} {separator : α} {left other rest behind : List α}
    (first : separator ∉ left) (alsoFirst : separator ∉ other)
    (same : left ++ separator :: rest = other ++ separator :: behind) :
    left = other ∧ rest = behind := by
  induction left generalizing other with
  | nil =>
      cases other with
      | nil => exact ⟨rfl, (List.cons.inj same).2⟩
      | cons item items =>
          rcases List.cons.inj same with ⟨rfl, -⟩
          exact absurd List.mem_cons_self alsoFirst
  | cons item items ih =>
      cases other with
      | nil =>
          rcases List.cons.inj same with ⟨rfl, -⟩
          exact absurd List.mem_cons_self first
      | cons another others =>
          rcases List.cons.inj same with ⟨rfl, tails⟩
          obtain ⟨rfl, behindSame⟩ := ih (fun member => first (List.mem_cons_of_mem _ member))
            (fun member => alsoFirst (List.mem_cons_of_mem _ member)) tails
          exact ⟨rfl, behindSame⟩

theorem SmppReport.dedupKey_inj {left right : SmppReport} (plain : ':' ∉ left.stat.toList)
    (alsoPlain : ':' ∉ right.stat.toList) (same : left.dedupKey = right.dedupKey) :
    left = right := by
  have noColon : ∀ number : ℕ, ':' ∉ (toString number).toList := by
    intro number member
    exact absurd (toString_digits member) (by decide)
  have characters := congrArg String.toList same
  simp only [dedupKey, String.toList_append, List.append_assoc, List.append_cancel_left_eq]
    at characters
  rcases eq_of_separated (noColon _) (noColon _) characters with ⟨channel, behind⟩
  -- from the end the stat is what comes before the first colon
  have backwards : left.stat.toList.reverse ++ ':' :: left.upstreamId.toList.reverse =
      right.stat.toList.reverse ++ ':' :: right.upstreamId.toList.reverse := by
    simpa using congrArg List.reverse behind
  obtain ⟨stat, upstream⟩ := eq_of_separated (by simpa using plain) (by simpa using alsoPlain)
    backwards
  rcases left with ⟨leftChannel, leftId, leftStat⟩
  rcases right with ⟨rightChannel, rightId, rightStat⟩
  rcases toString_injective (String.toList_injective channel) with rfl
  rcases String.toList_injective (List.reverse_injective stat) with rfl
  rcases String.toList_injective (List.reverse_injective upstream) with rfl
  rfl

/-- The keys in Redis, and the reports. A bind gets a `deliver_sm` that reads as a report of this
system, the report finishes when its task is published or is not, and it is cut off where the
gateway stops. -/
abbrev ReportFilter := Marks SmppReport String

namespace ReportFilter

variable (enabled : Bool) (ttl : ℕ) (filter : ReportFilter) (report : SmppReport)

def asks : Bool :=
  enabled && report.upstreamId ≠ ""

/-- `IsDuplicateDLR`, with whether Redis answers. -/
def isDuplicateDLR (answers : Bool) : Bool :=
  if !enabled || report.upstreamId = "" then false
  else answers && decide (filter.now < filter.ends report.dedupKey)

/-- `MarkDLRPublished`, with whether Redis stores the key. -/
def markDLRPublished (stored : Bool) : ReportFilter :=
  if !enabled || report.upstreamId = "" then filter
  else if stored then
    { filter with
      ends := Function.update filter.ends report.dedupKey (filter.now + ttl)
      marked := filter.marked ++ [(report.dedupKey, filter.now)] }
  else filter

abbrev Step : ReportFilter → MarkEvent SmppReport String → ReportFilter → Prop :=
  Marks.Step SmppReport.dedupKey (asks enabled) ttl

variable {enabled} {ttl} {filter} {report} {n : ℕ}

theorem next_check (free : filter.attempts n = none) {pdu : DeliverSm}
    (read : readReport pdu = some report) (owned : pdu.isOwned = true) (answers : Bool) :
    filter.next SmppReport.dedupKey (asks enabled) ttl (.check n report answers) =
      some
        (match handleDeliverSM { pdu with
          isDuplicate := filter.isDuplicateDLR enabled report answers } with
        | some _ =>
            { filter with
              arrived := filter.arrived ++ [report]
              attempts := Function.update filter.attempts n (some ⟨report, .trying⟩) }
        | none =>
            { filter with
              arrived := filter.arrived ++ [report]
              skipped := filter.skipped ++ [(report, filter.now)] }) := by
  have handled : handleDeliverSM { pdu with
      isDuplicate := filter.isDuplicateDLR enabled report answers } =
        if filter.isDuplicateDLR enabled report answers then none else some report.task := by
    have same : readReport { pdu with
        isDuplicate := filter.isDuplicateDLR enabled report answers } = some report := read
    rw [handleDeliverSM_eq, same]
    cases filter.isDuplicateDLR enabled report answers <;> simp [owned]
  rw [handled]
  have asked : (asks enabled report && answers) = true ∧ filter.now < filter.ends report.dedupKey ↔
      filter.isDuplicateDLR enabled report answers = true := by
    cases enabled <;> by_cases named : report.upstreamId = "" <;>
      simp [isDuplicateDLR, asks, named]
  simp only [Marks.next, free, asked]
  cases filter.isDuplicateDLR enabled report answers <;> rfl

theorem next_mark (published : filter.attempts n = some ⟨report, .succeeded⟩) (stored : Bool) :
    filter.next SmppReport.dedupKey (asks enabled) ttl (.mark n stored) =
      some
        { filter.markDLRPublished enabled ttl report stored with
          attempts := Function.update filter.attempts n none } := by
  cases enabled <;> by_cases named : report.upstreamId = "" <;> cases stored <;>
    simp [Marks.next, published, markDLRPublished, asks, named]

variable {events : List (Transition ReportFilter (MarkEvent SmppReport String))}
  {last : ReportFilter}

def PublishedAs (filter : ReportFilter) (report : SmppReport) (published : SmppReport × ℕ) : Prop :=
  published ∈ filter.succeeded ∧ published.1.dedupKey = report.dedupKey ∧
    (':' ∉ published.1.stat.toList → ':' ∉ report.stat.toList → published.1.task = report.task)

theorem publishedAs_of_key {report : SmppReport} {published : SmppReport × ℕ}
    (done : published ∈ filter.succeeded) (same : published.1.dedupKey = report.dedupKey) :
    filter.PublishedAs report published :=
  ⟨done, same, fun plain alsoPlain =>
    congrArg SmppReport.task (SmppReport.dedupKey_inj plain alsoPlain same)⟩

/-- In every run a report that is taken for a duplicate has the key of one whose task was published,
and that was marked less than its time before; where the stats have no colons it is the same task.
A report that has come is under way, its task was published, or publishing failed or was cut off. -/
theorem duplicates_justified (run : Run (Step enabled ttl) Marks.initial events last) :
    (∀ skip ∈ last.skipped, ∃ published, last.PublishedAs skip.1 published ∧
      ∃ markedAt, published.2 ≤ markedAt ∧ markedAt ≤ skip.2 ∧ skip.2 < markedAt + ttl) ∧
    ∀ report ∈ last.arrived, (∃ n, last.attempts n = some ⟨report, .trying⟩) ∨
      report ∈ last.failed ∨ report ∈ last.cutOff ∨
        ∃ published, last.PublishedAs report published := by
  have justified : ∀ skip ∈ last.skipped, ∃ published, last.PublishedAs skip.1 published ∧
      ∃ markedAt, published.2 ≤ markedAt ∧ markedAt ≤ skip.2 ∧ skip.2 < markedAt + ttl := by
    intro skip member
    rcases Marks.skips_justified run skip member with ⟨published, done, same, markedAt, -, bounds⟩
    exact ⟨published, publishedAs_of_key done same, markedAt, bounds⟩
  refine ⟨justified, ?_⟩
  intro report member
  rcases Marks.jobs_accounted run report member with trying | passed | fail | cut | success
  · exact Or.inl trying
  · rcases List.mem_map.mp passed with ⟨skip, skipped, rfl⟩
    rcases justified skip skipped with ⟨published, as, -⟩
    exact Or.inr (Or.inr (Or.inr ⟨published, as⟩))
  · exact Or.inr (Or.inl fail)
  · exact Or.inr (Or.inr (Or.inl cut))
  · rcases List.mem_map.mp success with ⟨published, done, rfl⟩
    exact Or.inr (Or.inr (Or.inr ⟨published, publishedAs_of_key done rfl⟩))

/-- The report comes again a minute after its task was published. -/
theorem duplicates_justified_again :
    ∃ events last, Run (Step true 900) Marks.initial events last ∧
      last.skipped = [(⟨7, "a", "DELIVRD"⟩, 60)] ∧
      ∃ published, last.PublishedAs ⟨7, "a", "DELIVRD"⟩ published := by
  have passed : ((execute (Marks.next SmppReport.dedupKey (asks true) 900) Marks.initial
      [.check 0 ⟨7, "a", "DELIVRD"⟩ true, .finish 0 true, .mark 0 true, .tick 60,
        .check 1 ⟨7, "a", "DELIVRD"⟩ true]).any
        fun outcome => decide (outcome.2.skipped = [(⟨7, "a", "DELIVRD"⟩, 60)])) = true := by
    decide
  rcases Run.exists_of_execute _ passed with ⟨events, last, run, checked⟩
  have skipped : last.skipped = [(⟨7, "a", "DELIVRD"⟩, 60)] := of_decide_eq_true checked
  obtain ⟨published, as, -⟩ := (duplicates_justified run).1 (⟨7, "a", "DELIVRD"⟩, 60)
    (by simp [skipped])
  exact ⟨events, last, run, skipped, published, as⟩

end ReportFilter

end Klsmsc
