import Mathlib.Data.List.Dedup
import Klsmsc.StockSummary
import Klsmsc.Library.Slices
import Mathlib.Algebra.Ring.Int.Defs
import Mathlib.Algebra.GroupWithZero.Nat

/-!
# The private libraries and their summary

The numbers of an account are the rows that it has uploaded to `private_library_numbers`, and the
rows of `data_numbers` that it has bought. `private_library_summaries` counts them by their
dimensions: how many there are, and how many of them have been used. It is maintained by deltas
that are clamped at zero, by marks on whole cards, and, for the numbers of a send, by a task that
runs later and takes a number that has been used once for one that it has not counted yet.

Every operation is one step, a send and its tasks are two. The sessions do not flush on their own:
a statement sees the rows as they are stored, and a changed object is written by the commit. Strings
are compared as they are, and the columns that nothing below reads are left out.
-/

namespace Klsmsc

open Library

/-- `ORIGIN_MANUAL` and `ORIGIN_PURCHASED`. -/
inductive LibraryOrigin where
  | manual
  | purchased
  deriving DecidableEq, Repr

structure PrivateNumber where
  origin : LibraryOrigin
  accountId : ℕ
  phoneNumber : String
  countryCode : String
  source : Option String
  purpose : Option String
  batchId : Option String
  carrier : Option String
  remarks : Option String
  useCount : ℕ
  isDeleted : Bool
  deriving DecidableEq, Repr

/-- The unique key of `private_library_summaries`. -/
structure SummaryKey where
  accountId : ℕ
  origin : LibraryOrigin
  countryCode : String
  source : String
  purpose : String
  batchId : String
  carrier : String
  deriving DecidableEq, Repr

/-- A row of `private_library_summaries`. -/
structure SummaryBucket where
  key : SummaryKey
  totalCount : ℕ
  usedCount : ℕ
  isDeleted : Bool
  deriving DecidableEq, Repr

structure BucketDelta where
  key : SummaryKey
  total : ℤ
  used : ℤ
  deriving DecidableEq, Repr

structure SessionBucket where
  stored : Option SummaryBucket
  current : SummaryBucket
  deriving DecidableEq, Repr

/-! ## Buckets -/

def SummaryBucket.changed (bucket : SummaryBucket) (total used : ℤ) : SummaryBucket where
  key := bucket.key
  totalCount := (bucket.totalCount + total).toNat
  usedCount := min (bucket.usedCount + used).toNat (bucket.totalCount + total).toNat
  isDeleted := if 0 < total then false else bucket.isDeleted

def BucketDelta.created (delta : BucketDelta) : SummaryBucket where
  key := delta.key
  totalCount := delta.total.toNat
  usedCount := min delta.used.toNat delta.total.toNat
  isDeleted := false

/-- The `SELECT` finds the bucket. It does not find what the session has only added. -/
def SessionBucket.Answers (bucket : SessionBucket) (key : SummaryKey) : Prop :=
  bucket.stored.isSome ∧ bucket.current.key = key

instance (bucket : SessionBucket) (key : SummaryKey) : Decidable (bucket.Answers key) :=
  inferInstanceAs (Decidable (_ ∧ _))

def sessionOf (buckets : List SummaryBucket) : List SessionBucket :=
  buckets.map fun bucket => ⟨some bucket, bucket⟩

/-- `pls_apply_bucket_delta`. -/
def plsApplyBucketDelta (session : List SessionBucket) (delta : BucketDelta) :
    List SessionBucket :=
  if ∃ bucket ∈ session, bucket.Answers delta.key then
    session.map fun bucket =>
      if bucket.Answers delta.key then
        { bucket with current := bucket.current.changed delta.total delta.used }
      else bucket
  else if delta.total ≤ 0 then session
  else session ++ [⟨none, delta.created⟩]

def deltaOf (deltas : List BucketDelta) (key : SummaryKey) : BucketDelta where
  key := key
  total := (deltas.map fun delta => if delta.key = key then delta.total else 0).sum
  used := (deltas.map fun delta => if delta.key = key then delta.used else 0).sum

/-- `pls_apply_deltas_bulk`. -/
def plsApplyDeltasBulk (session : List SessionBucket) (deltas : List BucketDelta) :
    List SessionBucket :=
  ((deltas.map BucketDelta.key).dedup.map (deltaOf deltas)).foldl plsApplyBucketDelta session

def SessionBucket.Empty (accountId : ℕ) (bucket : SessionBucket) : Prop :=
  bucket.current.key.accountId = accountId ∧
    (bucket.stored.any fun stored => stored.totalCount = 0) = true

instance (accountId : ℕ) (bucket : SessionBucket) : Decidable (bucket.Empty accountId) :=
  inferInstanceAs (Decidable (_ ∧ _))

/-- `pls_prune_non_positive` and the commit. The `DELETE` finds the rows that are stored as empty,
and the commit fails when it has a change for one of them. An object that has become empty in the
session is dropped from it with its change, so that its row stays as it was stored. -/
def plsPruneNonPositive (accountId : ℕ) (session : List SessionBucket) :
    Option (List SummaryBucket) :=
  if ∃ bucket ∈ session, bucket.Empty accountId ∧ bucket.current.totalCount ≠ 0 then none
  else
    some (session.filterMap fun bucket =>
      if bucket.Empty accountId then none
      else if bucket.current.key.accountId = accountId ∧ bucket.current.totalCount = 0 then
        bucket.stored
      else some bucket.current)

/-- `pls_soft_prune_non_positive` and the commit. The `UPDATE` marks the rows that are stored as
empty. On an object that has become empty in the session the mark passes for stored, and the
commit writes its counts only. -/
def plsSoftPruneNonPositive (accountId : ℕ) (session : List SessionBucket) :
    List SummaryBucket :=
  session.map fun bucket =>
    if bucket.Empty accountId then { bucket.current with isDeleted := true }
    else bucket.current

/-! ## Filters -/

/-- `SOURCE_LABELS`. -/
def sourceLabels : List (String × String) :=
  [("telemarketing", "电销"), ("otp", "OTP"), ("Exhibition", "展会采集"), ("social_eng", "社工库"),
    ("Manual Upload", "手工上传"), ("Customer Registry", "客户提供"), ("credential", "撞库")]

/-- `PURPOSE_LABELS`. -/
def purposeLabels : List (String × String) :=
  [("bc", "BC/兼职"), ("part_time", "兼职"), ("dating", "交友"), ("finance", "金融互金"),
    ("stock", "股票"), ("Marketing", "营销推广"), ("Social", "社交通知")]

structure CardFilter where
  country : Option String
  source : Option String
  purpose : Option String
  batchId : Option String
  remarks : Option String
  carrier : Option String
  deriving DecidableEq, Repr

section

variable (unicode : Unicode)

/-- `func.lower(func.trim(func.coalesce(col, "")))`. `TRIM` takes off blanks only. -/
def sqlLowerTrim (column : Option String) : String :=
  unicode.lower (strip { unicode with isSpace := fun char => char = ' ' } (column.getD ""))

/-- `_sql_dim_ci_trim_eq`. -/
def sqlDimCiTrimEq (column : Option String) (param : String) : Bool :=
  sqlLowerTrim unicode column = unicode.lower (normDim unicode (some param))

/-- `_canon_source_key_for_client` and `_canon_purpose_key_for_client`, with their labels. -/
def canonKeyForClient (labels : List (String × String)) (value : String) : String :=
  let text := normDim unicode (some value)
  if ∃ entry ∈ labels, entry.1 = text then text
  else
    match labels.find? fun entry => normDim unicode (some entry.2) = text with
    | some entry => entry.1
    | none => text

/-- `_sql_dim_source_match` and `_sql_dim_purpose_match`, with their labels. -/
def sqlDimMatch (labels : List (String × String)) (column : Option String) (param : String) :
    Bool :=
  let raw := unicode.lower (normDim unicode (some param))
  let canonical := canonKeyForClient unicode labels param
  let keys := (labels.filter fun entry =>
    unicode.lower (normDim unicode (some entry.2)) = raw).map Prod.fst
  sqlLowerTrim unicode column ∈ raw :: (canonical :: keys).map fun key =>
    unicode.lower (normDim unicode (some key))

/-- `_sql_dim_source_match`. -/
def sqlDimSourceMatch : Option String → String → Bool :=
  sqlDimMatch unicode sourceLabels

/-- `_sql_dim_purpose_match`. -/
def sqlDimPurposeMatch : Option String → String → Bool :=
  sqlDimMatch unicode purposeLabels

def PrivateNumber.key (number : PrivateNumber) : SummaryKey where
  accountId := number.accountId
  origin := number.origin
  countryCode := normDim unicode (some number.countryCode)
  source := normDim unicode number.source
  purpose := normDim unicode number.purpose
  batchId := normDim unicode number.batchId
  carrier := normDim unicode number.carrier

namespace CardFilter

variable (filter : CardFilter)

/-- `_filters_pln` and `_filters_dn`. -/
def onNumber (number : PrivateNumber) : Bool :=
  filter.country.all (sqlDimCiTrimEq unicode (some number.countryCode)) &&
  filter.source.all (sqlDimSourceMatch unicode number.source) &&
  filter.purpose.all (sqlDimPurposeMatch unicode number.purpose) &&
  filter.batchId.all (sqlDimCiTrimEq unicode number.batchId) &&
  filter.remarks.all (sqlDimCiTrimEq unicode number.remarks) &&
  filter.carrier.all (sqlDimCiTrimEq unicode number.carrier)

/-- `_filters_pls` of `_execute_my_numbers_batch_delete`. -/
def onCard (key : SummaryKey) : Bool :=
  filter.country.all (sqlDimCiTrimEq unicode (some key.countryCode)) &&
  filter.source.all (sqlDimSourceMatch unicode (some key.source)) &&
  filter.purpose.all (sqlDimPurposeMatch unicode (some key.purpose)) &&
  filter.batchId.all (sqlDimCiTrimEq unicode (some key.batchId))

/-- `_filters_pls` of `_execute_my_numbers_reset_used`. -/
def onBucket (key : SummaryKey) : Bool :=
  filter.onCard unicode key && filter.carrier.all (sqlDimCiTrimEq unicode (some key.carrier))

def onLoose (key : SummaryKey) : Bool :=
  sqlDimCiTrimEq unicode (some key.countryCode) (filter.country.getD "") &&
  sqlDimCiTrimEq unicode (some key.batchId) (filter.batchId.getD "")

/-- `carrier_specified`. -/
def CarrierSpecified : Prop :=
  normDim unicode filter.carrier ≠ ""

instance : Decidable (filter.CarrierSpecified unicode) :=
  inferInstanceAs (Decidable (_ ≠ _))

end CardFilter

/-! ## Operations -/

/-- The arguments of `_mark_private_library_used` and of `private_library_sync_used`. -/
structure SyncTask where
  accountId : ℕ
  phoneNumbers : List String
  batchId : Option String
  deriving DecidableEq, Repr

/-- `BATCH_SZ`, in both of them. -/
def syncSize : ℕ := 2000

namespace SyncTask

variable (task : SyncTask) (number : PrivateNumber)

/-- `_bid`. -/
def bid : String :=
  normDim unicode task.batchId

def chunks : List (List String) :=
  slices syncSize task.phoneNumbers

/-- How many statements of `_mark_private_library_used` find the row. -/
def marks : ℕ :=
  task.chunks.countP fun chunk =>
    number.accountId = task.accountId ∧ number.phoneNumber ∈ chunk ∧ number.isDeleted = false ∧
      (task.bid unicode ≠ "" → sqlDimCiTrimEq unicode number.batchId (task.bid unicode) = true)

/-- The task that `_mark_private_library_used` sends. -/
def published : SyncTask where
  accountId := task.accountId
  phoneNumbers := task.phoneNumbers
  batchId := if task.bid unicode = "" then none else some (task.bid unicode)

def Reaches (chunk : List String) : Prop :=
  number.accountId = task.accountId ∧ number.phoneNumber ∈ chunk ∧
    (task.bid unicode ≠ "" → number.batchId = some (task.bid unicode))

instance (chunk : List String) : Decidable (task.Reaches unicode number chunk) :=
  inferInstanceAs (Decidable (_ ∧ _ ∧ (_ → _)))

def times : ℕ :=
  task.chunks.countP fun chunk => task.Reaches unicode number chunk

/-- A `SELECT` of `_do_sync_used` finds the row. -/
def Selects (chunk : List String) : Prop :=
  number.useCount = 1 ∧ number.isDeleted = false ∧ task.Reaches unicode number chunk

instance (chunk : List String) : Decidable (task.Selects unicode number chunk) :=
  inferInstanceAs (Decidable (_ ∧ _ ∧ _))

/-- `pls_deltas` of `_do_sync_used`. -/
def deltas (numbers : List PrivateNumber) : List BucketDelta :=
  task.chunks.flatMap fun chunk =>
    (numbers.filter fun number => task.Selects unicode number chunk).map fun number =>
      ⟨number.key unicode, 0, 1⟩

end SyncTask

/-- What `run_private_library_upload` makes of a file: its numbers, their carriers where they are
looked up, and the columns that they share. -/
structure PrivateUpload where
  accountId : ℕ
  countryCode : String
  source : Option String
  purpose : Option String
  remarks : Option String
  batchId : String
  numbers : List String
  carrier : String → Option String

namespace PrivateUpload

variable (upload : PrivateUpload)

/-- `insert_dicts`. -/
def rows : List PrivateNumber :=
  upload.numbers.dedup.map fun phoneNumber =>
    { origin := .manual
      accountId := upload.accountId
      phoneNumber := phoneNumber
      countryCode := upload.countryCode
      source := upload.source
      purpose := upload.purpose
      batchId := some upload.batchId
      carrier := upload.carrier phoneNumber
      remarks := upload.remarks
      useCount := 0
      isDeleted := false }

def Known (numbers : List PrivateNumber) (row : PrivateNumber) : Prop :=
  ∃ number ∈ numbers, number.origin = .manual ∧ number.accountId = row.accountId ∧
    number.phoneNumber = row.phoneNumber ∧ number.batchId = row.batchId

instance (numbers : List PrivateNumber) (row : PrivateNumber) : Decidable (Known numbers row) :=
  inferInstanceAs (Decidable (∃ number ∈ numbers, _))

/-- `INSERT IGNORE INTO private_library_numbers`. -/
def inserted (numbers : List PrivateNumber) : List PrivateNumber :=
  upload.rows.filter fun row => ¬ Known numbers row

/-- The deltas of `run_private_library_upload`, row by row. -/
def deltas : List BucketDelta :=
  upload.rows.map fun row => ⟨row.key unicode, 1, 0⟩

end PrivateUpload

def boughtBy (accountId : ℕ) (bought : List PrivateNumber) : List PrivateNumber :=
  bought.map fun number =>
    { number with origin := .purchased, accountId := accountId, isDeleted := false }

/-- The deltas of `_pls_bump_purchased_for_number_ids`. -/
def bumpDeltas (rows : List PrivateNumber) : List BucketDelta :=
  rows.map fun row => ⟨row.key unicode, 1, if 0 < row.useCount then 1 else 0⟩

/-- A deletion of `_execute_my_numbers_batch_delete`. -/
structure CardDeletion where
  accountId : ℕ
  filter : CardFilter
  hardDelete : Bool
  deriving DecidableEq, Repr

namespace CardDeletion

variable (deletion : CardDeletion)

def Takes (number : PrivateNumber) : Prop :=
  number.accountId = deletion.accountId ∧
    (number.origin = .purchased ∨ deletion.hardDelete = true ∨ number.isDeleted = false) ∧
      deletion.filter.onNumber unicode number = true

instance (number : PrivateNumber) : Decidable (deletion.Takes unicode number) :=
  inferInstanceAs (Decidable (_ ∧ (_ ∨ _ ∨ _) ∧ _))

def leaves (number : PrivateNumber) : Option PrivateNumber :=
  if ¬ deletion.Takes unicode number then some number
  else if deletion.hardDelete = true ∨ number.origin = .purchased then none
  else some { number with isDeleted := true }

/-- The columns that `agg_pln` and `agg_dn` group by, with the table. -/
def groupOf (number : PrivateNumber) :
    LibraryOrigin × String × Option String × Option String × Option String × String :=
  (number.origin, number.countryCode, number.source, number.purpose, number.batchId,
    number.carrier.getD "")

def groupKey (group : LibraryOrigin × String × Option String × Option String × Option String ×
    String) : SummaryKey where
  accountId := deletion.accountId
  origin := group.1
  countryCode := normDim unicode (some group.2.1)
  source := normDim unicode group.2.2.1
  purpose := normDim unicode group.2.2.2.1
  batchId := normDim unicode group.2.2.2.2.1
  carrier := normDim unicode (some group.2.2.2.2.2)

def deltas (numbers : List PrivateNumber) : List BucketDelta :=
  let taken := numbers.filter fun number => deletion.Takes unicode number
  (taken.map groupOf).dedup.map fun group =>
    { key := deletion.groupKey unicode group
      total := -((taken.countP fun number => groupOf number = group) : ℤ)
      used := -((taken.countP fun number => groupOf number = group ∧ 0 < number.useCount) : ℤ) }

def cleared (chosen : SummaryKey → Bool) (buckets : List SummaryBucket) : List SummaryBucket :=
  if deletion.hardDelete then
    buckets.filter fun bucket =>
      ¬ (bucket.key.accountId = deletion.accountId ∧ chosen bucket.key = true)
  else
    buckets.map fun bucket =>
      if bucket.key.accountId = deletion.accountId ∧ chosen bucket.key = true then
        { bucket with isDeleted := true }
      else bucket

/-- The buckets after the deletion of a whole card. When some that it looks for are left, the
country and the batch decide. -/
def clearedCard (left : SummaryBucket → Bool) (buckets : List SummaryBucket) :
    List SummaryBucket :=
  let once := deletion.cleared (deletion.filter.onCard unicode) buckets
  if (∃ bucket ∈ once, bucket.key.accountId = deletion.accountId ∧
        deletion.filter.onCard unicode bucket.key = true ∧ left bucket = true) ∧
      normDim unicode deletion.filter.batchId ≠ "" ∧
        normDim unicode deletion.filter.country ≠ "" then
    deletion.cleared (deletion.filter.onLoose unicode) once
  else once

def buckets (numbers : List PrivateNumber) (buckets : List SummaryBucket) :
    Option (List SummaryBucket) :=
  if ∀ number ∈ numbers, ¬ deletion.Takes unicode number then
    some (deletion.clearedCard unicode (fun _ => true) buckets)
  else if deletion.filter.CarrierSpecified unicode then
    let session := (deletion.deltas unicode numbers).foldl plsApplyBucketDelta (sessionOf buckets)
    if deletion.hardDelete then plsPruneNonPositive deletion.accountId session
    else some (plsSoftPruneNonPositive deletion.accountId session)
  else
    some (deletion.clearedCard unicode (fun bucket => ¬ bucket.isDeleted) buckets)

end CardDeletion

/-- A reset of `_execute_my_numbers_reset_used`. -/
structure UsedReset where
  accountId : ℕ
  filter : CardFilter
  deriving DecidableEq, Repr

namespace UsedReset

variable (reset : UsedReset)

def Takes (number : PrivateNumber) : Prop :=
  number.accountId = reset.accountId ∧
    (number.origin = .purchased ∨ number.isDeleted = false) ∧ 0 < number.useCount ∧
      reset.filter.onNumber unicode number = true

instance (number : PrivateNumber) : Decidable (reset.Takes unicode number) :=
  inferInstanceAs (Decidable (_ ∧ (_ ∨ _) ∧ _ ∧ _))

def TakesBucket (bucket : SummaryBucket) : Prop :=
  bucket.key.accountId = reset.accountId ∧ 0 < bucket.usedCount ∧
    reset.filter.onBucket unicode bucket.key = true

instance (bucket : SummaryBucket) : Decidable (reset.TakesBucket unicode bucket) :=
  inferInstanceAs (Decidable (_ ∧ _ ∧ _))

end UsedReset

end

/-- What becomes of a task that is outstanding: it is executed, it is executed and will be executed
again, or it is never executed. -/
inductive SyncOutcome where
  | done
  | redelivered
  | lost
  deriving DecidableEq, Repr

inductive PrivateAction where
  | upload (upload : PrivateUpload)
  | purchase (accountId : ℕ) (bought : List PrivateNumber)
  | send (call : SyncTask) (isPublished : Bool)
  | syncUsed (task : SyncTask) (outcome : SyncOutcome)
  | delete (deletion : CardDeletion)
  | resetUsed (reset : UsedReset)

structure PrivateState where
  numbers : List PrivateNumber
  buckets : List SummaryBucket
  tasks : List SyncTask
  deriving DecidableEq, Repr

namespace PrivateState

def start : PrivateState where
  numbers := []
  buckets := []
  tasks := []

variable (unicode : Unicode) (state : PrivateState)

def CanBind (bought : List PrivateNumber) : Prop :=
  (bought.map PrivateNumber.phoneNumber).Nodup ∧
    ∀ number ∈ state.numbers, number.origin = .purchased →
      number.phoneNumber ∉ bought.map PrivateNumber.phoneNumber

instance (bought : List PrivateNumber) : Decidable (state.CanBind bought) :=
  inferInstanceAs (Decidable (_ ∧ _))

def next : PrivateAction → Option PrivateState
  | .upload upload =>
      if upload.numbers = [] then none
      else
        (plsPruneNonPositive upload.accountId
          (plsApplyDeltasBulk (sessionOf state.buckets) (upload.deltas unicode))).map fun buckets =>
            { state with
              numbers := state.numbers ++ upload.inserted state.numbers, buckets := buckets }
  | .purchase accountId bought =>
      let rows := boughtBy accountId bought
      if state.CanBind bought then
        (plsPruneNonPositive accountId
          (plsApplyDeltasBulk (sessionOf state.buckets) (bumpDeltas unicode rows))).map
            fun buckets => { state with numbers := state.numbers ++ rows, buckets := buckets }
      else none
  | .send call isPublished =>
      if call.phoneNumbers = [] then some state
      else
        some { state with
          numbers := state.numbers.map fun number =>
            { number with useCount := number.useCount + call.marks unicode number }
          tasks := if isPublished then state.tasks ++ [call.published unicode] else state.tasks }
  | .syncUsed task outcome =>
      if task ∈ state.tasks then
        some { state with
          buckets :=
            if outcome = .lost then state.buckets
            else
              (plsApplyDeltasBulk (sessionOf state.buckets)
                (task.deltas unicode state.numbers)).map SessionBucket.current
          tasks := if outcome = .redelivered then state.tasks else state.tasks.erase task }
      else none
  | .delete deletion =>
      (deletion.buckets unicode state.numbers state.buckets).map fun buckets =>
        { state with
          numbers := state.numbers.filterMap (deletion.leaves unicode), buckets := buckets }
  | .resetUsed reset =>
      if ∃ number ∈ state.numbers, reset.Takes unicode number then
        some { state with
          numbers := state.numbers.map fun number =>
            if reset.Takes unicode number then { number with useCount := 0 } else number
          buckets := state.buckets.map fun bucket =>
            if reset.TakesBucket unicode bucket then { bucket with usedCount := 0 } else bucket }
      else some state

def Step (before : PrivateState) (action : PrivateAction) (after : PrivateState) : Prop :=
  before.next unicode action = some after

/-- Every visible bucket counts the visible rows with its dimensions, and those of them that have
been used. -/
def Exact : Prop :=
  ∀ bucket ∈ state.buckets, bucket.isDeleted = false →
    bucket.totalCount = (state.numbers.countP fun number =>
        number.isDeleted = false ∧ number.key unicode = bucket.key) ∧
      bucket.usedCount = state.numbers.countP fun number =>
        (number.isDeleted = false ∧ number.key unicode = bucket.key) ∧ 0 < number.useCount

instance : Decidable (state.Exact unicode) :=
  inferInstanceAs (Decidable (∀ bucket ∈ state.buckets, _ → _ ∧ _))

def waits (number : PrivateNumber) : ℕ :=
  (state.tasks.map fun task => task.times unicode number).sum

def Counted (number : PrivateNumber) : Prop :=
  0 < number.useCount ∧ (number.useCount = 1 → state.waits unicode number = 0)

instance (number : PrivateNumber) : Decidable (state.Counted unicode number) :=
  inferInstanceAs (Decidable (_ ∧ (_ → _)))

def held (key : SummaryKey) : ℕ :=
  state.numbers.countP fun number => number.isDeleted = false ∧ number.key unicode = key

def counted (key : SummaryKey) : ℕ :=
  state.numbers.countP fun number =>
    (number.isDeleted = false ∧ number.key unicode = key) ∧ state.Counted unicode number

def Accurate (bucket : SummaryBucket) : Prop :=
  bucket.totalCount = state.held unicode bucket.key ∧
    bucket.usedCount = state.counted unicode bucket.key

instance (bucket : SummaryBucket) : Decidable (state.Accurate unicode bucket) :=
  inferInstanceAs (Decidable (_ ∧ _))

def Ready (key : SummaryKey) : Prop :=
  (∀ bucket ∈ state.buckets, bucket.key = key → state.Accurate unicode bucket) ∧
    ((∃ bucket ∈ state.buckets, bucket.key = key) ∨ state.held unicode key = 0)

instance (key : SummaryKey) : Decidable (state.Ready unicode key) :=
  inferInstanceAs (Decidable (_ ∧ (_ ∨ _)))

def Heeds : PrivateAction → Prop
  | .upload upload =>
      ∀ row ∈ upload.rows,
        ¬ PrivateUpload.Known state.numbers row ∧ state.Ready unicode (row.key unicode)
  | .purchase accountId bought =>
      ∀ row ∈ boughtBy accountId bought, state.Ready unicode (row.key unicode) ∧
        (row.useCount = 1 → state.waits unicode row = 0)
  | .send call isPublished =>
      ∀ number ∈ state.numbers, number.isDeleted = false → number.useCount ≤ 1 →
        (0 < call.marks unicode number → state.waits unicode number = 0 ∧
          (number.useCount = 0 → isPublished = true ∧ call.marks unicode number = 1 ∧
            (call.published unicode).times unicode number = 1)) ∧
        (call.marks unicode number = 0 → isPublished = true →
          (call.published unicode).times unicode number = 0)
  | .syncUsed task outcome =>
      outcome = .done ∨ ∀ number ∈ state.numbers, number.isDeleted = false →
        number.useCount = 1 → task.times unicode number = 0
  | .delete deletion =>
      ∀ number ∈ state.numbers, deletion.Takes unicode number →
        ∀ bucket ∈ state.buckets, bucket.isDeleted = false → bucket.key = number.key unicode →
          if deletion.filter.CarrierSpecified unicode then
            number.isDeleted = false ∧
              (0 < number.useCount → state.Counted unicode number) ∧
                (deletion.hardDelete = true → ∃ other ∈ state.numbers, other.isDeleted = false ∧
                  other.key unicode = bucket.key ∧ ¬ deletion.Takes unicode other)
          else
            number.isDeleted = false → deletion.filter.onCard unicode bucket.key = true
  | .resetUsed reset =>
      (∃ number ∈ state.numbers, reset.Takes unicode number) →
        ∀ bucket ∈ state.buckets, bucket.isDeleted = false → ∀ number ∈ state.numbers,
          number.isDeleted = false → number.key unicode = bucket.key →
            state.Counted unicode number →
              (reset.Takes unicode number ↔ reset.TakesBucket unicode bucket)

end PrivateState

end Klsmsc
