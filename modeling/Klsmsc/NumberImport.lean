import Klsmsc.PrivateLibrary.UploadParse
import Klsmsc.StockSummary

/-!
# The import of numbers

`_do_import` reads a file line by line, or row by row, and puts the numbers that it accepts into a
buffer, which goes to `data_numbers` whenever it is full and once more at the end. Every line is
counted as cleaned away, invalid, or repeated in the file, or is in the buffer and is then counted
as inserted or as a duplicate. The statement is an `INSERT IGNORE`: a number that the table has is
skipped, and so is a row whose price template is not there.

The file is given by its lines as they are decoded, or by its rows as `csv.reader` gives them, and
`phonenumbers` is a parameter.
-/

namespace Klsmsc

open Sms (Text)

/-! ### Lines and numbers -/

/-- What `_parse_phone` returns. -/
structure ParsedPhone where
  e164 : String
  country : Option String
  carrier : Option String

/-- What `phonenumbers` makes of a text and a region, if it is a valid number. -/
abbrev PhoneParser :=
  (attempt : Text) → (region : Option String) → Option ParsedPhone

/-- `_parse_phone`. -/
def PhoneParser.parsePhone (parser : PhoneParser) (cleaned : Text) (region : Option String) :
    Option ParsedPhone :=
  (attempts cleaned region).findSome? fun attempt => parser attempt region

/-- The alternatives of `HEADER_KEYWORDS`. -/
def headerKeywords : List Text :=
  [['p', 'h', 'o', 'n', 'e'], ['m', 'o', 'b', 'i', 'l', 'e'], ['n', 'u', 'm', 'b', 'e', 'r'],
    ['t', 'e', 'l'], ['手', '机'], ['号', '码'], ['电', '话'], ['编', '号'], ['序', '号'], ['#'],
    ['i', 'd'], ['i', 'n', 'd', 'e', 'x']]

/-- `_clean_phone`. A line without any character has no number of a sufficient length. -/
def cleanPhone (unicode : Unicode) (raw : Text) : Option Text :=
  let text := stripChar '\'' (stripChar '"' (stripChar '\u200b' (stripChar '\ufeff'
    (Sms.strip unicode raw))))
  if headerKeywords.any fun keyword => (dropLiteral keyword text).isSome then none
  else
    let number := text.filter (isPhoneChar unicode)
    if HasPhoneLength (lstripPlus number) then some number else none

theorem cleanPhone_nil (unicode : Unicode) : cleanPhone unicode [] = none := by
  have noHeader : (headerKeywords.any fun keyword => (dropLiteral keyword []).isSome) = false := by
    decide
  have empty : stripChar '\'' (stripChar '"' (stripChar '\u200b' (stripChar '\ufeff'
      (Sms.strip unicode [])))) = [] := by
    simp only [Sms.strip, stripChar, List.dropWhile_nil, List.reverse_nil]
  have short : ¬HasPhoneLength (lstripPlus (List.filter (isPhoneChar unicode) [])) := by
    rintro ⟨long, -⟩
    change 7 ≤ 0 at long
    omega
  unfold cleanPhone
  simp only [empty]
  rw [if_neg (Bool.eq_false_iff.mp noHeader), if_neg short]

inductive NumberFile where
  | txt (lines : List Text)
  | csv (rows : List (List Text))

/-! ### The table -/

/-- A row of `data_pricing_templates`. -/
structure PricingTemplate where
  id : ℕ
  source : String
  purpose : String
  freshness : Freshness
  active : Bool

/-- The table `data_numbers`, with its unique key. -/
structure NumberPool where
  rows : List DataNumber
  nextId : ℕ
  unique : (rows.map DataNumber.phoneNumber).Nodup

structure BufferedNumber where
  phone : String
  country : Option String
  tags : Option (List Text)
  carrier : Option String

/-- The arguments of `_do_import`, with the date parsed. -/
structure NumberImport where
  batchId : String
  source : String
  purpose : String
  dataDate : ℤ
  pricingTemplateId : Option ℕ
  tags : List Text
  defaultRegion : Option String
  forceCountry : Bool

structure ImportState where
  pool : NumberPool
  buffer : List BufferedNumber
  seen : List String
  total : ℕ
  cleaned : ℕ
  invalid : ℕ
  fileDedup : ℕ
  valid : ℕ
  duplicate : ℕ

/-- `DB_BATCH`. -/
def dbBatch : ℕ := 10000

namespace NumberPool

variable (pool : NumberPool)

def Has (phone : String) : Prop :=
  phone ∈ pool.rows.map DataNumber.phoneNumber

instance (phone : String) : Decidable (pool.Has phone) :=
  inferInstanceAs (Decidable (_ ∈ _))

def add (row : DataNumber) (isNew : ¬pool.Has row.phoneNumber) : NumberPool where
  rows := pool.rows ++ [row]
  nextId := pool.nextId + 1
  unique := by
    rw [List.map_append, List.nodup_append]
    refine ⟨pool.unique, List.nodup_singleton _, ?_⟩
    rintro phone inside other isOther rfl
    rw [List.map_singleton, List.mem_singleton] at isOther
    exact isNew (isOther ▸ inside)

end NumberPool

namespace NumberImport

variable (task : NumberImport)

/-- `region`. -/
def region (unicode : Unicode) : Option String :=
  (asked task.defaultRegion).map unicode.upper

/-- The country of all numbers, if it is forced: `forced_cc`. -/
def forcedCountry (unicode : Unicode) : Option String :=
  if task.forceCountry then (task.region unicode).filter fun country => country ≠ "*" else none

/-- `matched_tpl_id`. -/
def matchedTemplate (templates : List PricingTemplate) (today : ℤ) : Option ℕ :=
  match task.pricingTemplateId.filter fun id => id ≠ 0 with
  | some id => some id
  | none =>
      (templates.find? fun template =>
        template.source = task.source ∧ template.purpose = task.purpose ∧
          template.freshness = computeFreshness today (some task.dataDate) ∧ template.active).map
        PricingTemplate.id

/-- The foreign key of `pricing_template_id` holds. -/
def Referenced (templates : List PricingTemplate) (today : ℤ) : Prop :=
  ∀ id, task.matchedTemplate templates today = some id → ∃ template ∈ templates, template.id = id

instance (templates : List PricingTemplate) (today : ℤ) :
    Decidable (task.Referenced templates today) :=
  match found : task.matchedTemplate templates today with
  | none => .isTrue (by simp [Referenced, found])
  | some id =>
      decidable_of_iff (∃ template ∈ templates, template.id = id) (by simp [Referenced, found])

/-- The row of a number. The statement cuts the texts of a file to their columns; a number of E.164
fits its own. -/
def row (id : ℕ) (number : BufferedNumber) : DataNumber where
  id := id
  phoneNumber := number.phone
  countryCode := truncate 10 (number.country.getD "")
  status := .active
  carrier := number.carrier.map (truncate 50)
  source := some task.source
  purpose := some task.purpose
  dataDate := some task.dataDate
  batchId := some task.batchId
  lastUsedAt := none
  useCount := 0
  accountId := none

/-- `INSERT IGNORE INTO data_numbers`, for one row. -/
def insertIgnore (referenced : Bool) (pool : NumberPool) (number : BufferedNumber) : NumberPool :=
  if isNew : ¬pool.Has number.phone then
    if referenced then pool.add (task.row pool.nextId number) isNew else pool
  else pool

end NumberImport

namespace ImportState

variable (unicode : Unicode) (parser : PhoneParser) (task : NumberImport) (referenced : Bool)
  (state : ImportState)

def start (pool : NumberPool) : ImportState :=
  ⟨pool, [], [], 0, 0, 0, 0, 0, 0⟩

def offer (text : Text) (buffered : ParsedPhone → BufferedNumber) : ImportState :=
  match cleanPhone unicode text with
  | none => { state with cleaned := state.cleaned + 1 }
  | some cleaned =>
      match parser.parsePhone cleaned (task.region unicode) with
      | none => { state with invalid := state.invalid + 1 }
      | some parsed =>
          if parsed.e164 ∈ state.seen then { state with fileDedup := state.fileDedup + 1 }
          else
            { state with
              seen := parsed.e164 :: state.seen
              buffer := state.buffer ++ [buffered parsed] }

/-- `_process_line_txt`. -/
def processLineTxt (raw : Text) : ImportState :=
  let text := Sms.strip unicode (stripChar '\r' raw)
  if text = [] then state
  else
    { state with total := state.total + 1 }.offer unicode parser task text fun parsed =>
      { phone := parsed.e164
        country := task.forcedCountry unicode <|> parsed.country
        tags := if task.tags = [] then none else some task.tags
        carrier := parsed.carrier }

def fieldOf (row : List Text) (index : ℕ) : Option Text :=
  (row[index]?.map (Sms.strip unicode)).filter fun field => field ≠ []

/-- `_process_row_csv`. -/
def processRowCsv (row : List Text) : ImportState :=
  let state := { state with total := state.total + 1 }
  match fieldOf unicode row 0 with
  | none => { state with cleaned := state.cleaned + 1 }
  | some text =>
      state.offer unicode parser task text fun parsed =>
        let tags := task.tags ++
          match fieldOf unicode row 2 with
          | some _ => ((row.getD 2 []).splitOn '|').map (Sms.strip unicode)
          | none => []
        { phone := parsed.e164
          country := task.forcedCountry unicode <|>
            (fieldOf unicode row 1).map String.ofList <|> parsed.country
          tags := if tags = [] then none else some tags
          carrier := (fieldOf unicode row 3).map String.ofList <|> parsed.carrier }

/-- `_flush_buf`. The row count of the statement is the number of the rows that it inserts. -/
def flushBuf : ImportState :=
  if state.buffer = [] then state
  else
    let pool := state.buffer.foldl (task.insertIgnore referenced) state.pool
    let inserted := pool.rows.length - state.pool.rows.length
    { state with
      pool
      valid := state.valid + inserted
      duplicate := state.duplicate + (state.buffer.length - inserted)
      buffer := [] }

def flushFull : ImportState :=
  if dbBatch ≤ state.buffer.length then state.flushBuf task referenced else state

def readFile : NumberFile → ImportState
  | .txt lines =>
      (lines.foldl (fun state raw =>
        (state.processLineTxt unicode parser task raw).flushFull task referenced) state).flushBuf
          task referenced
  | .csv rows =>
      (rows.foldl (fun state row =>
        (state.processRowCsv unicode parser task row).flushFull task referenced) state).flushBuf
          task referenced

end ImportState

namespace NumberImport

section

variable (unicode : Unicode) (parser : PhoneParser) (task : NumberImport)
  (templates : List PricingTemplate) (today : ℤ)

/-- `_do_import`, up to the counters that it writes to the batch. -/
def doImport (pool : NumberPool) (file : NumberFile) : ImportState :=
  (ImportState.start pool).readFile unicode parser task (task.Referenced templates today) file

def acceptedNumber (text : Text) : Option String :=
  ((cleanPhone unicode text).bind fun cleaned =>
    parser.parsePhone cleaned (task.region unicode)).map ParsedPhone.e164

def accepted : NumberFile → List String
  | .txt lines => lines.filterMap fun raw =>
      task.acceptedNumber unicode parser (Sms.strip unicode (stripChar '\r' raw))
  | .csv rows => rows.filterMap fun row =>
      (ImportState.fieldOf unicode row 0).bind (task.acceptedNumber unicode parser)

/-- The counters partition the file, the valid numbers are the rows that were created for the batch,
and every accepted number is in the table once. -/
structure Partitions (before : NumberPool) (file : NumberFile) (after : ImportState) : Prop where
  partition : after.total =
    after.valid + after.duplicate + after.invalid + after.cleaned + after.fileDedup
  created : ∃ created, after.pool.rows = before.rows ++ created ∧ created.length = after.valid ∧
    ∀ row ∈ created, row.batchId = some task.batchId
  once : ∀ phone ∈ task.accepted unicode parser file,
    (after.pool.rows.countP fun row => row.phoneNumber = phone) = 1

end

end NumberImport

/-! ### The statement -/

namespace NumberPool

variable {pool : NumberPool} {phone : String}

theorem countP_eq_one (has : pool.Has phone) :
    (pool.rows.countP fun row => row.phoneNumber = phone) = 1 := by
  have counted := List.count_eq_one_of_mem pool.unique has
  rw [List.count_eq_countP, List.countP_map] at counted
  rw [← counted]
  refine List.countP_congr fun row _ => ?_
  simp

end NumberPool

namespace NumberImport

variable {task : NumberImport} {referenced : Bool} {pool : NumberPool}

/-- What the statement does with rows: it appends some of them, for the batch, and all numbers are
in the table then; without the template nothing happens. -/
structure Inserts (task : NumberImport) (referenced : Bool) (buffer : List BufferedNumber)
    (before after : NumberPool) : Prop where
  created : ∃ created, after.rows = before.rows ++ created ∧ created.length ≤ buffer.length ∧
    ∀ row ∈ created, row.batchId = some task.batchId
  all : referenced = true → ∀ number ∈ buffer, after.Has number.phone
  nothing : referenced = false → after = before

theorem Inserts.has {buffer : List BufferedNumber} {after : NumberPool} {phone : String}
    (inserts : Inserts task referenced buffer pool after) (has : pool.Has phone) :
    after.Has phone := by
  rcases inserts.created with ⟨created, rows, -, -⟩
  unfold NumberPool.Has
  rw [rows, List.map_append]
  exact List.mem_append_left _ has

theorem insertIgnore_inserts (number : BufferedNumber) :
    Inserts task referenced [number] pool (task.insertIgnore referenced pool number) := by
  unfold insertIgnore
  split
  · split
    · rename_i isReferenced
      refine ⟨⟨[task.row pool.nextId number], rfl, Nat.le_refl 1, ?_⟩, ?_, ?_⟩
      · intro row member
        rw [List.mem_singleton.mp member]
        rfl
      · intro _ other member
        rw [List.mem_singleton.mp member]
        unfold NumberPool.Has NumberPool.add
        rw [List.map_append]
        exact List.mem_append_right _ List.mem_cons_self
      · intro notReferenced
        rw [isReferenced] at notReferenced
        cases notReferenced
    · rename_i notReferenced
      exact ⟨⟨[], (List.append_nil _).symm, Nat.zero_le _, List.forall_mem_nil _⟩,
        fun isReferenced => absurd isReferenced notReferenced, fun _ => rfl⟩
  · rename_i has
    refine ⟨⟨[], (List.append_nil _).symm, Nat.zero_le _, List.forall_mem_nil _⟩, ?_, fun _ => rfl⟩
    intro _ other member
    rw [List.mem_singleton.mp member]
    exact not_not.mp has

theorem foldl_inserts (buffer : List BufferedNumber) :
    Inserts task referenced buffer pool (buffer.foldl (task.insertIgnore referenced) pool) := by
  induction buffer generalizing pool with
  | nil => exact ⟨⟨[], (List.append_nil _).symm, Nat.le_refl 0, List.forall_mem_nil _⟩,
      fun _ => List.forall_mem_nil _, fun _ => rfl⟩
  | cons number buffer ih =>
      have first : Inserts task referenced [number] pool
          (task.insertIgnore referenced pool number) := insertIgnore_inserts number
      have rest : Inserts task referenced buffer (task.insertIgnore referenced pool number)
          (buffer.foldl (task.insertIgnore referenced)
            (task.insertIgnore referenced pool number)) := ih
      rcases first.created with ⟨firstRows, firstEq, firstLength, firstBatch⟩
      rcases rest.created with ⟨restRows, restEq, restLength, restBatch⟩
      refine ⟨⟨firstRows ++ restRows, ?_, ?_, ?_⟩, ?_, ?_⟩
      · rw [List.foldl_cons, restEq, firstEq, List.append_assoc]
      · rw [List.length_append, List.length_cons]
        have one : firstRows.length ≤ 1 := firstLength
        omega
      · intro row member
        rcases List.mem_append.mp member with inFirst | inRest
        · exact firstBatch row inFirst
        · exact restBatch row inRest
      · intro isReferenced other member
        rcases List.mem_cons.mp member with rfl | inRest
        · exact rest.has (first.all isReferenced other List.mem_cons_self)
        · exact rest.all isReferenced other inRest
      · intro notReferenced
        exact (rest.nothing notReferenced).trans (first.nothing notReferenced)

end NumberImport

/-! ### The loop -/

namespace ImportState

/-- What holds after some lines, with their accepted numbers: the counters and the buffer partition
the lines, the created rows are counted, and every accepted number is in the table or in the
buffer. -/
structure Reads (task : NumberImport) (referenced : Bool) (before : NumberPool)
    (phones : List String) (state : ImportState) : Prop where
  partition : state.total = state.valid + state.duplicate + state.invalid + state.cleaned +
    state.fileDedup + state.buffer.length
  created : ∃ created, state.pool.rows = before.rows ++ created ∧ created.length = state.valid ∧
    ∀ row ∈ created, row.batchId = some task.batchId
  seen : ∀ phone ∈ phones, phone ∈ state.seen
  placed : referenced = true → ∀ phone ∈ state.seen,
    state.pool.Has phone ∨ ∃ number ∈ state.buffer, number.phone = phone
  nothing : referenced = false → state.pool = before

namespace Reads

variable {unicode : Unicode} {parser : PhoneParser} {task : NumberImport} {referenced : Bool}
  {before : NumberPool} {phones : List String} {state : ImportState}

theorem start (before : NumberPool) :
    (ImportState.start before).Reads task referenced before [] :=
  ⟨rfl, ⟨[], (List.append_nil _).symm, rfl, List.forall_mem_nil _⟩,
    List.forall_mem_nil _, fun _ => List.forall_mem_nil _, fun _ => rfl⟩

theorem flushBuf (reads : state.Reads task referenced before phones) :
    (state.flushBuf task referenced).Reads task referenced before phones := by
  unfold ImportState.flushBuf
  split
  · exact reads
  · have inserts : NumberImport.Inserts task referenced state.buffer state.pool _ :=
      NumberImport.foldl_inserts state.buffer
    rcases inserts.created with ⟨inserted, rows, within, ofBatch⟩
    rcases reads.created with ⟨created, earlier, counted, batch⟩
    have count : (state.pool.rows ++ inserted).length - state.pool.rows.length =
        inserted.length := by
      rw [List.length_append, Nat.add_sub_cancel_left]
    refine ⟨?_, ⟨created ++ inserted, ?_, ?_, ?_⟩, reads.seen, ?_, ?_⟩
    · have partition := reads.partition
      simp only [rows, count, List.length_nil]
      omega
    · simp only [rows, earlier, List.append_assoc]
    · simp only [rows, List.length_append, counted]
      omega
    · intro row member
      rcases List.mem_append.mp member with inCreated | inInserted
      · exact batch row inCreated
      · exact ofBatch row inInserted
    · intro isReferenced phone isSeen
      rcases reads.placed isReferenced phone isSeen with has | ⟨number, inside, rfl⟩
      · exact Or.inl (inserts.has has)
      · exact Or.inl (inserts.all isReferenced number inside)
    · intro notReferenced
      exact (inserts.nothing notReferenced).trans (reads.nothing notReferenced)

theorem flushFull (reads : state.Reads task referenced before phones) :
    (state.flushFull task referenced).Reads task referenced before phones := by
  unfold ImportState.flushFull
  split
  · exact reads.flushBuf
  · exact reads

theorem offer (reads : state.Reads task referenced before phones) (text : Text)
    {buffered : ParsedPhone → BufferedNumber}
    (itsNumber : ∀ parsed, (buffered parsed).phone = parsed.e164) :
    ({ state with total := state.total + 1 }.offer unicode parser task text buffered).Reads task
      referenced before (phones ++ (task.acceptedNumber unicode parser text).toList) := by
  have partition := reads.partition
  unfold ImportState.offer NumberImport.acceptedNumber
  cases cleanPhone unicode text with
  | none =>
      rw [Option.bind_none, Option.map_none, Option.toList_none, List.append_nil]
      refine ⟨?_, reads.created, reads.seen, reads.placed, reads.nothing⟩
      simp only
      omega
  | some cleaned =>
      rw [Option.bind_some]
      simp only
      cases parser.parsePhone cleaned (task.region unicode) with
      | none =>
          rw [Option.map_none, Option.toList_none, List.append_nil]
          refine ⟨?_, reads.created, reads.seen, reads.placed, reads.nothing⟩
          simp only
          omega
      | some parsed =>
          rw [Option.map_some, Option.toList_some]
          simp only
          split
          · rename_i repeated
            refine ⟨?_, reads.created, ?_, reads.placed, reads.nothing⟩
            · simp only
              omega
            · intro phone member
              rcases List.mem_append.mp member with earlier | itself
              · exact reads.seen phone earlier
              · rw [List.mem_singleton.mp itself]
                exact repeated
          · refine ⟨?_, reads.created, ?_, ?_, reads.nothing⟩
            · simp only [List.length_append, List.length_singleton]
              omega
            · intro phone member
              rcases List.mem_append.mp member with earlier | itself
              · exact List.mem_cons_of_mem _ (reads.seen phone earlier)
              · rw [List.mem_singleton.mp itself]
                exact List.mem_cons_self
            · intro isReferenced phone isSeen
              rcases List.mem_cons.mp isSeen with rfl | earlier
              · exact Or.inr ⟨buffered parsed, List.mem_append_right _ List.mem_cons_self,
                  itsNumber parsed⟩
              · rcases reads.placed isReferenced phone earlier with has | ⟨number, inside, its⟩
                · exact Or.inl has
                · exact Or.inr ⟨number, List.mem_append_left _ inside, its⟩

theorem processLineTxt (reads : state.Reads task referenced before phones) (raw : Text) :
    (state.processLineTxt unicode parser task raw).Reads task referenced before
      (phones ++ (task.acceptedNumber unicode parser
        (Sms.strip unicode (stripChar '\r' raw))).toList) := by
  unfold ImportState.processLineTxt
  simp only
  split
  · rename_i blank
    rw [blank, NumberImport.acceptedNumber, cleanPhone_nil, Option.bind_none, Option.map_none,
      Option.toList_none, List.append_nil]
    exact reads
  · exact reads.offer _ fun _ => rfl

theorem processRowCsv (reads : state.Reads task referenced before phones) (row : List Text) :
    (state.processRowCsv unicode parser task row).Reads task referenced before
      (phones ++ ((fieldOf unicode row 0).bind
        (task.acceptedNumber unicode parser)).toList) := by
  unfold ImportState.processRowCsv
  simp only
  cases fieldOf unicode row 0 with
  | none =>
      have partition := reads.partition
      rw [Option.bind_none, Option.toList_none, List.append_nil]
      refine ⟨?_, reads.created, reads.seen, reads.placed, reads.nothing⟩
      simp only
      omega
  | some text =>
      rw [Option.bind_some]
      exact reads.offer text fun _ => rfl

theorem foldl {Item : Type} {process : ImportState → Item → ImportState}
    {acceptedOf : Item → Option String}
    (step : ∀ {state : ImportState} {phones : List String} (item : Item),
      state.Reads task referenced before phones →
        (process state item).Reads task referenced before (phones ++ (acceptedOf item).toList))
    (items : List Item) (reads : state.Reads task referenced before phones) :
    (items.foldl (fun state item => (process state item).flushFull task referenced) state).Reads
      task referenced before (phones ++ items.filterMap acceptedOf) := by
  induction items generalizing state phones with
  | nil =>
      rw [List.filterMap_nil, List.append_nil]
      exact reads
  | cons item items ih =>
      have rest := ih (step item reads).flushFull
      rw [List.append_assoc] at rest
      cases accepted : acceptedOf item with
      | none =>
          rw [accepted] at rest
          rw [List.filterMap_cons_none accepted]
          exact rest
      | some phone =>
          rw [accepted] at rest
          rw [List.filterMap_cons_some accepted]
          exact rest

theorem readFile (file : NumberFile) :
    ((ImportState.start before).readFile unicode parser task referenced file).Reads task referenced
      before (task.accepted unicode parser file) := by
  cases file with
  | txt lines =>
      have start : (ImportState.start before).Reads task referenced before [] := Reads.start before
      exact (start.foldl (fun raw reads => reads.processLineTxt raw) lines).flushBuf
  | csv rows =>
      have start : (ImportState.start before).Reads task referenced before [] := Reads.start before
      exact (start.foldl (fun row reads => reads.processRowCsv row) rows).flushBuf

end Reads

variable {unicode : Unicode} {parser : PhoneParser} {task : NumberImport} {referenced : Bool}

theorem buffer_flushBuf (state : ImportState) : (state.flushBuf task referenced).buffer = [] := by
  unfold flushBuf
  split
  · assumption
  · rfl

theorem buffer_readFile (state : ImportState) (file : NumberFile) :
    (state.readFile unicode parser task referenced file).buffer = [] := by
  cases file <;> exact buffer_flushBuf _

end ImportState

namespace NumberImport

variable {unicode : Unicode} {parser : PhoneParser} {task : NumberImport}
  {templates : List PricingTemplate} {today : ℤ} {pool : NumberPool} {file : NumberFile}

theorem doImport_reads :
    (task.doImport unicode parser templates today pool file).Reads task
      (decide (task.Referenced templates today)) pool (task.accepted unicode parser file) :=
  ImportState.Reads.readFile file

theorem buffer_doImport :
    (task.doImport unicode parser templates today pool file).buffer = [] :=
  ImportState.buffer_readFile _ file

theorem once_iff :
    (∀ phone ∈ task.accepted unicode parser file,
      ((task.doImport unicode parser templates today pool file).pool.rows.countP fun row =>
        row.phoneNumber = phone) = 1) ↔
    task.Referenced templates today ∨
      ∀ phone ∈ task.accepted unicode parser file, pool.Has phone := by
  have reads : (task.doImport unicode parser templates today pool file).Reads task _ pool _ :=
    doImport_reads
  constructor
  · intro once
    by_cases referenced : task.Referenced templates today
    · exact Or.inl referenced
    · refine Or.inr fun phone accepted => ?_
      have one := once phone accepted
      rw [reads.nothing (decide_eq_false referenced)] at one
      have positive : 0 < pool.rows.countP fun row => row.phoneNumber = phone := by omega
      rcases List.countP_pos_iff.mp positive with ⟨row, inside, its⟩
      exact List.mem_map.mpr ⟨row, inside, of_decide_eq_true its⟩
  · rintro (referenced | had) phone accepted
    · rcases reads.placed (decide_eq_true referenced) phone (reads.seen phone accepted) with
        has | ⟨number, inside, -⟩
      · exact NumberPool.countP_eq_one has
      · rw [buffer_doImport] at inside
        cases inside
    · rcases reads.created with ⟨created, rows, -, -⟩
      refine NumberPool.countP_eq_one ?_
      unfold NumberPool.Has
      rw [rows, List.map_append]
      exact List.mem_append_left _ (had phone accepted)

/-- The counters of an import partition the file and the accepted numbers are in the table, exactly
when the rows refer to a template that is there or the table had the accepted numbers before. -/
theorem doImport_partitions_iff :
    task.Partitions unicode parser pool file
        (task.doImport unicode parser templates today pool file) ↔
      task.Referenced templates today ∨
        ∀ phone ∈ task.accepted unicode parser file, pool.Has phone := by
  have reads : (task.doImport unicode parser templates today pool file).Reads task _ pool _ :=
    doImport_reads
  constructor
  · exact fun partitions => once_iff.mp partitions.once
  · intro condition
    refine ⟨?_, reads.created, once_iff.mpr condition⟩
    have partition := reads.partition
    rw [buffer_doImport] at partition
    exact partition

def thaiParser : PhoneParser := fun attempt _ =>
  if attempt = "+66812345678".toList then some ⟨"+66812345678", some "TH", none⟩ else none

def withoutTemplate : NumberImport :=
  ⟨"IMP-1", "otp", "bc", 0, some 999, [], none, false⟩

/-- Without the template the statement skips a new number without a word, and the import counts it
as a duplicate. -/
theorem not_partitions_withoutTemplate :
    let file : NumberFile := .txt ["+66812345678".toList]
    let after := withoutTemplate.doImport Unicode.ascii thaiParser [] 0 ⟨[], 1, List.nodup_nil⟩ file
    withoutTemplate.accepted Unicode.ascii thaiParser file = ["+66812345678"] ∧
      after.pool.rows = [] ∧ after.valid = 0 ∧ after.duplicate = 1 ∧
        ¬withoutTemplate.Partitions Unicode.ascii thaiParser ⟨[], 1, List.nodup_nil⟩ file
          after := by
  intro file after
  have accepted : withoutTemplate.accepted Unicode.ascii thaiParser file = ["+66812345678"] := by
    decide
  have rows : after.pool.rows = [] := by
    decide
  refine ⟨accepted, rows, by decide, by decide, fun partitions => ?_⟩
  have once := partitions.once "+66812345678"
  rw [accepted, rows] at once
  exact absurd (once List.mem_cons_self) (by decide)

end NumberImport

end Klsmsc
