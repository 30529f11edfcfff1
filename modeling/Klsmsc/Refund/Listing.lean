import Klsmsc.Library.Globs
import Klsmsc.Library.Ranking
import Klsmsc.Library.Slices
import Klsmsc.Library.Tallies
import Klsmsc.Refund

/-!
# The list of refundable messages

`list_refundable` of `services/sms_refund.py` selects candidates twice. The conditions of the query
go before the page is cut, and the classification of a row goes over the rows of the page. The count
that comes with a page is that of the query.

The query compares texts in the collation of the column, which is a parameter here: which characters
it takes for the same. The text of a message id is the other parameter.
-/

namespace Klsmsc

open Library

/-- `text LIKE pattern`, with the backslash as the escape character. -/
def likeMatches (same : Char → Char → Bool) : (pattern text : List Char) → Bool
  | [], text => text.isEmpty
  | '%' :: pattern, text => skipTo (fun _ => true) (likeMatches same pattern) text
  | '_' :: pattern, text =>
      match text with
      | [] => false
      | _ :: rest => likeMatches same pattern rest
  | '\\' :: symbol :: pattern, text =>
      match text with
      | [] => false
      | first :: rest => same symbol first && likeMatches same pattern rest
  | symbol :: pattern, text =>
      match text with
      | [] => false
      | first :: rest => same symbol first && likeMatches same pattern rest

structure TextColumns where
  same : Char → Char → Bool
  messageId : MessageId → String

/-- `column.like(pattern)`. -/
def TextColumns.like (columns : TextColumns) (pattern text : String) : Bool :=
  likeMatches columns.same pattern.toList text.toList

/-- The arguments of `list_refundable` that choose rows. -/
structure RefundFilters where
  accountId : Option ℤ
  batchId : Option ℤ
  channelId : Option ℤ
  keyword : Option String
  includeIneligible : Bool
  deriving DecidableEq, Repr

/-- A condition `column == int(argument)`, which is only there when the argument is true. -/
def idFilter (argument : Option ℤ) (column : Option ℕ) : Bool :=
  argument.getD 0 = 0 ∨ column.map Int.ofNat = argument

/-- The error message is `NULL`, or shows no sign of the upstream that the query knows of. -/
def SmsLog.likeUnsubmitted (columns : TextColumns) (row : SmsLog) : Bool :=
  match row.errorMessage with
  | none => true
  | some text =>
      !columns.like "%SMPP Error:%" text && !columns.like "%SMPP DLR:%" text

def SmsLog.hasKeyword (unicode : Unicode) (columns : TextColumns) (keyword : Option String)
    (row : SmsLog) : Bool :=
  let kw := "%" ++ strip unicode (keyword.getD "") ++ "%"
  keyword.getD "" = "" ∨ columns.like kw (columns.messageId row.messageId) ∨
    columns.like kw row.phoneNumber ∨ (row.errorMessage.map (columns.like kw)).getD false

def RefundFilters.concerns (filters : RefundFilters) (row : SmsLog) : Bool :=
  idFilter filters.accountId (some row.accountId) ∧ idFilter filters.batchId row.batchId ∧
    idFilter filters.channelId row.channelId

def SmsLog.unrefundedFailure (row : SmsLog) : Bool :=
  row.status = .failed ∧ row.refundedAt = none ∧ 0 < row.costPrice.getD 0

/-- The first conditions of `base_where`. -/
def RefundFilters.base (columns : TextColumns) (filters : RefundFilters) (row : SmsLog) : Bool :=
  if filters.includeIneligible then row.status = .failed
  else row.unrefundedFailure ∧ row.upstreamMessageId = none ∧ row.likeUnsubmitted columns

/-- `and_(*base_where)`. -/
def RefundFilters.selects (unicode : Unicode) (columns : TextColumns) (filters : RefundFilters)
    (row : SmsLog) : Bool :=
  filters.base columns row ∧ filters.concerns row ∧
    row.hasKeyword unicode columns filters.keyword

/-- `RefundCandidate`. -/
structure RefundCandidate where
  smsLog : SmsLog
  eligible : Bool
  reason : String
  deriving DecidableEq, Repr

/-- The candidate that `classify_refund_candidate` makes of a row. -/
def refundCandidate (unicode : Unicode) (row : SmsLog) : RefundCandidate :=
  match classifyRefundCandidate unicode row with
  | .ok category => ⟨row, true, category⟩
  | .error reason => ⟨row, false, reason⟩

/-- `max(1, int(page or 1))`. -/
def pageNumber (page : ℤ) : ℕ :=
  (max 1 (if page = 0 then 1 else page)).toNat

/-- `max(1, min(int(page_size or 50), 200))`. -/
def pageWidth (pageSize : ℤ) : ℕ :=
  (max 1 (min (if pageSize = 0 then 50 else pageSize) 200)).toNat

/-- `list_refundable`, on the rows of the table. -/
def listRefundable (unicode : Unicode) (columns : TextColumns) (rows : List SmsLog)
    (filters : RefundFilters) (page pageSize : ℤ) : ℕ × List RefundCandidate :=
  let selected := rows.filter (filters.selects unicode columns)
  let offset := (pageNumber page - 1) * pageWidth pageSize
  let listed := ((rankedBy (fun row => row.id) selected).drop offset).take (pageWidth pageSize)
  let candidates := listed.map (refundCandidate unicode)
  if filters.includeIneligible then (selected.length, candidates)
  else (selected.length, candidates.filter fun candidate => candidate.eligible)

def pageCount (total : ℕ) (pageSize : ℤ) : ℕ :=
  (total + pageWidth pageSize - 1) / pageWidth pageSize

/-- The candidates of all the pages, from the first one to the one that the count of the first one
calls the last. -/
def allPages (unicode : Unicode) (columns : TextColumns) (rows : List SmsLog)
    (filters : RefundFilters) (pageSize : ℤ) : List RefundCandidate :=
  let total := (listRefundable unicode columns rows filters 1 pageSize).1
  (List.range (pageCount total pageSize)).flatMap fun index : ℕ =>
    (listRefundable unicode columns rows filters ((index : ℤ) + 1) pageSize).2

/-- The rows that are asked for and that `classify_refund_candidate` calls eligible. -/
def eligibleRows (unicode : Unicode) (rows : List SmsLog) (filters : RefundFilters) : List SmsLog :=
  rows.filter fun row => filters.concerns row && (refundCandidate unicode row).eligible

/-- The query and the classification agree on whether a failed row was submitted. An empty upstream
id is one that only the query takes for an id. -/
def SmsLog.ChecksAgree (unicode : Unicode) (columns : TextColumns) (row : SmsLog) : Prop :=
  let submitted := submittedPatterns unicode (row.errorText unicode)
  (row.upstreamMessageId = some "" → submitted = true) ∧
    (row.upstreamMessageId = none → row.likeUnsubmitted columns = !submitted)

instance (unicode : Unicode) (columns : TextColumns) (row : SmsLog) :
    Decidable (row.ChecksAgree unicode columns) :=
  inferInstanceAs (Decidable (_ ∧ _))

@[simp]
theorem submittedPatterns_empty (unicode : Unicode) : submittedPatterns unicode "" = false := by
  simp [submittedPatterns, dropLiteral]

theorem looksSubmittedToUpstream_eq (unicode : Unicode) (row : SmsLog) :
    looksSubmittedToUpstream unicode row =
      (decide (row.upstreamMessageId.getD "" ≠ "") ||
        submittedPatterns unicode (row.errorText unicode)) := by
  by_cases empty : row.errorText unicode = ""
  · simp [looksSubmittedToUpstream, empty]
  · simp [looksSubmittedToUpstream, empty]

@[simp]
theorem refundCandidate_smsLog (unicode : Unicode) (row : SmsLog) :
    (refundCandidate unicode row).smsLog = row := by
  unfold refundCandidate
  split <;> rfl

theorem refundCandidate_eligible (unicode : Unicode) (row : SmsLog) :
    (refundCandidate unicode row).eligible =
      (row.unrefundedFailure && !looksSubmittedToUpstream unicode row) := by
  unfold refundCandidate classifyRefundCandidate SmsLog.unrefundedFailure
  by_cases failed : row.status = .failed
  · by_cases refunded : row.refundedAt = none
    · by_cases priced : 0 < row.costPrice.getD 0
      · cases submitted : looksSubmittedToUpstream unicode row <;>
          simp [failed, refunded, priced, not_le.mpr priced]
      · simp [failed, refunded, not_lt.mp priced, priced]
    · simp [failed, refunded]
  · simp [failed]

theorem pageWidth_pos (pageSize : ℤ) : 0 < pageWidth pageSize := by
  unfold pageWidth
  omega

section Listing

variable (unicode : Unicode) (columns : TextColumns) (rows : List SmsLog)
  {filters : RefundFilters} (pageSize : ℤ)

theorem listRefundable_total (page : ℤ) :
    (listRefundable unicode columns rows filters page pageSize).1 =
      rows.countP (filters.selects unicode columns) := by
  unfold listRefundable
  split <;> exact (List.countP_eq_length_filter).symm

theorem allPages_eq (eligibleOnly : filters.includeIneligible = false) :
    (allPages unicode columns rows filters pageSize).map (fun candidate => candidate.smsLog) =
      (rankedBy (fun row => row.id) (rows.filter (filters.selects unicode columns))).filter
        fun row => (refundCandidate unicode row).eligible := by
  have width := pageWidth_pos pageSize
  generalize sorted : rankedBy (fun row => row.id)
    (rows.filter (filters.selects unicode columns)) = listed
  have total : (listRefundable unicode columns rows filters 1 pageSize).1 = listed.length := by
    rw [listRefundable_total, List.countP_eq_length_filter, ← sorted]
    exact (rankedBy_perm _ _).length_eq.symm
  have page (index : ℕ) : (listRefundable unicode columns rows filters (index + 1) pageSize).2 =
      (((listed.drop (index * pageWidth pageSize)).take (pageWidth pageSize)).map
        (refundCandidate unicode)).filter fun candidate => candidate.eligible := by
    have number : pageNumber ((index : ℤ) + 1) - 1 = index := by
      unfold pageNumber
      split <;> omega
    simp only [listRefundable, eligibleOnly, Bool.false_eq_true, if_false, number, sorted]
  have pages : (listed.filter fun row => (refundCandidate unicode row).eligible) =
      ((slices (pageWidth pageSize) listed).map fun slice =>
        slice.filter fun row => (refundCandidate unicode row).eligible).flatten := by
    rw [← List.filter_flatten, flatten_slices width]
  rw [pages, slices_eq_map_range width, List.map_map]
  simp only [allPages, total, pageCount, List.flatMap_def, List.map_flatten, List.map_map]
  congr 1
  refine List.map_congr_left ?_
  intro index _
  simp only [Function.comp_apply, page, List.filter_map, List.map_map]
  exact List.map_id'' (refundCandidate_smsLog unicode) _

theorem selects_iff {row : SmsLog} (eligibleOnly : filters.includeIneligible = false)
    (noKeyword : filters.keyword.getD "" = "") :
    filters.selects unicode columns row =
        (filters.concerns row && (refundCandidate unicode row).eligible) ↔
      (filters.concerns row = true → row.unrefundedFailure = true →
        row.ChecksAgree unicode columns) := by
  rw [refundCandidate_eligible, looksSubmittedToUpstream_eq]
  simp only [RefundFilters.selects, RefundFilters.base, SmsLog.hasKeyword, eligibleOnly, noKeyword,
    SmsLog.ChecksAgree]
  cases filters.concerns row
  · simp
  · cases row.unrefundedFailure
    · simp
    · rcases row.upstreamMessageId with _ | id
      · simp
      · by_cases empty : id = ""
        · simp [empty]
        · simp [empty]

end Listing

/-- The pages list the eligible rows, each once, under their number, just when the query and the
classification agree on the failed rows that are asked for. -/
theorem refund_listing_exact_iff (unicode : Unicode) (columns : TextColumns) (rows : List SmsLog)
    {filters : RefundFilters} (pageSize : ℤ) (eligibleOnly : filters.includeIneligible = false)
    (noKeyword : filters.keyword.getD "" = "") :
    ((∀ page, (listRefundable unicode columns rows filters page pageSize).1 =
          (eligibleRows unicode rows filters).length) ∧
        ((allPages unicode columns rows filters pageSize).map
          fun candidate => candidate.smsLog).Perm (eligibleRows unicode rows filters)) ↔
      ∀ row ∈ rows, filters.concerns row = true → row.unrefundedFailure = true →
        row.ChecksAgree unicode columns := by
  have decides : ∀ row ∈ rows, filters.selects unicode columns row = true →
      (refundCandidate unicode row).eligible =
        (filters.concerns row && (refundCandidate unicode row).eligible) := by
    intro row _ selected
    have concerns : filters.concerns row = true := by
      simp only [RefundFilters.selects, decide_eq_true_eq] at selected
      exact selected.2.1
    rw [concerns, Bool.true_and]
  have listed := (rankedBy_perm (fun row : SmsLog => row.id)
    (rows.filter (filters.selects unicode columns))).filter
      fun row => (refundCandidate unicode row).eligible
  have agree := filtered_twice_iff decides
  simp only [listRefundable_total, forall_const, allPages_eq unicode columns rows pageSize
    eligibleOnly, eligibleRows, ← List.countP_eq_length_filter]
  rw [listed.congr_left, agree]
  exact forall₂_congr fun row _ => selects_iff unicode columns eligibleOnly noKeyword

def failedRow (id : ℕ) (upstreamMessageId errorMessage : Option String) : SmsLog where
  id := id
  messageId := id
  upstreamMessageId := upstreamMessageId
  accountId := 1
  channelId := some 7
  batchId := none
  phoneNumber := "+8613800138000"
  countryCode := some "CN"
  senderId := none
  message := "hello"
  messageCount := 1
  status := .failed
  costPrice := some 10
  sellingPrice := some 30
  currency := "USD"
  submitTime := some 1
  sentTime := none
  deliveryTime := none
  errorMessage := errorMessage
  refundedAt := none
  refundedBy := none
  refundedAmount := none

def caseless : TextColumns where
  same left right := left.toLower = right.toLower
  messageId messageId := toString messageId

def everyRefundable : RefundFilters where
  accountId := none
  batchId := none
  channelId := none
  keyword := none
  includeIneligible := false

/-- Two rows without an upstream id, one of which the upstream has answered, with a page for each
of them. -/
theorem refund_listing_exact_iff_twoRows :
    let rows := [failedRow 1 none none, failedRow 2 none (some "smpp error: 88")]
    (∀ page, (listRefundable .ascii caseless rows everyRefundable page 1).1 =
        (eligibleRows .ascii rows everyRefundable).length) ∧
      ((allPages .ascii caseless rows everyRefundable 1).map
        fun candidate => candidate.smsLog).Perm (eligibleRows .ascii rows everyRefundable) := by
  intro rows
  refine (refund_listing_exact_iff .ascii caseless rows 1 rfl rfl).mpr ?_
  decide

/-- The first row has an empty upstream id, and the second one an error without a number: neither is
listed, although both are eligible. The third one counts, although it is not. -/
theorem refund_listing_misses :
    let rows := [failedRow 1 (some "") (some "timeout"), failedRow 2 none (some "SMPP Error: EOF"),
      failedRow 3 none (some "DLR 超时")]
    eligibleRows .ascii rows everyRefundable = rows.take 2 ∧
      (listRefundable .ascii caseless rows everyRefundable 1 50).1 = 1 ∧
      allPages .ascii caseless rows everyRefundable 50 = [] := by
  decide

end Klsmsc
