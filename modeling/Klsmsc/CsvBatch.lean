import Klsmsc.BatchProgress.Decisions

/-!
# Batches from CSV files

`_do_process_batch` reads the uploaded file of a batch row by row. A row without a number or
without a text is only counted. Of every other row the worker asks its validator for
`validate_phone`. The class `Validator` has no such method (it is `validate_phone_number`
there), so Python raises an `AttributeError`, outside of the `try` around one row: the loop
ends, and the batch fails. What stands behind that call in the loop, and the rest of a commit
batch behind it, is not reached by any row.

The rows are those of `csv.DictReader`. A run without errors of the database is embedded.
-/

namespace Klsmsc

/-- A field of a row: a text, `None` where the row is too short, or what a row has too much. -/
inductive CsvValue where
  | text (value : String)
  | missing
  | rest (values : List String)
  deriving DecidableEq, Repr

/-- A row of the file. The fields that a row has too much are under the key `None`. -/
structure CsvRow where
  fields : List (Option String × CsvValue)
  deriving DecidableEq, Repr

structure CsvFile where
  rows : List CsvRow
  raised : Option String
  deriving DecidableEq, Repr

/-- The surroundings of the worker. The text of a list is its `str`. -/
structure CsvEnv where
  unicode : Unicode
  listText : List String → String
  templates : ℕ → Option String
  files : String → Option CsvFile
  now : ℕ
  expiredReport : String

structure CsvState where
  db : Db
  templateId : Option ℕ
  filePath : Option String
  startedAt : Option ℕ

inductive CsvOutcome where
  | notFound
  | skipped
  | noTemplate
  | noFile
  | unreadable (text : String)
  | empty
  | finished (totalRows : ℕ)
  deriving DecidableEq, Repr

def CsvOutcome.isNormal : CsvOutcome → Bool
  | .empty => true
  | .finished _ => true
  | _ => false

/-- `row.get(key, '')`. -/
def CsvRow.get (row : CsvRow) (key : String) : CsvValue :=
  ((row.fields.find? fun field => field.1 = some key).map Prod.snd).getD (.text "")

/-- `value.strip()`. -/
def CsvValue.strip (unicode : Unicode) : CsvValue → Except String String
  | .text value => .ok (Klsmsc.strip unicode value)
  | .missing => .error "'NoneType' object has no attribute 'strip'"
  | .rest _ => .error "'list' object has no attribute 'strip'"

section

variable (env : CsvEnv)

/-- `str(value)`. -/
def CsvValue.str : CsvValue → String
  | .text value => value
  | .missing => "None"
  | .rest values => env.listText values

def renderCsvRow (template : String) (row : CsvRow) : String :=
  (row.fields.filter fun field => field.1 ≠ some "phone").foldl
    (fun content field =>
      content.replace ("\x7b" ++ field.1.getD "None" ++ "\x7d") (field.2.str env)) template

def csvContent (template : Option String) (row : CsvRow) : Except String String :=
  match template with
  | some template => .ok (renderCsvRow env template row)
  | none => (row.get "content").strip env.unicode

def csvRow (template : Option String) (row : CsvRow) : Except String Unit := do
  let phone ← (row.get "phone").strip env.unicode
  if phone = "" then return ()
  let content ← csvContent env template row
  if content = "" then return ()
  .error "'Validator' object has no attribute 'validate_phone'"

structure CsvCounts where
  totalRows : ℕ
  successCount : ℕ
  failedCount : ℕ
  deriving DecidableEq, Repr

def CsvCounts.zero : CsvCounts := ⟨0, 0, 0⟩

def SmsBatch.withCsvCounts (batch : SmsBatch) (counts : CsvCounts) : SmsBatch :=
  { batch with
    progress := min 99 (counts.successCount * 100 / max counts.totalRows 1)
    successCount := counts.successCount
    failedCount := counts.failedCount }

/-- The row loop: the counters and the row of the batch where it ends, and the exception that
ends it. -/
def csvLoop (template : Option String) (raised : Option String) :
    CsvCounts → SmsBatch → List CsvRow → CsvCounts × SmsBatch × Option String
  | counts, batch, [] => (counts, batch, raised)
  | counts, batch, row :: rows =>
      let reached := { counts with totalRows := counts.totalRows + 1 }
      let batch :=
        if counts.totalRows % 2000 = 0 ∧ 0 < counts.totalRows then batch.withCsvCounts reached
        else batch
      match csvRow env template row with
      | .error text => (reached, batch, some text)
      | .ok () =>
          csvLoop template raised { reached with failedCount := reached.failedCount + 1 } batch rows

def SmsBatch.fail (batch : SmsBatch) (text : String) : SmsBatch :=
  { batch with status := .failed, errorMessage := some text }

def finishCsv (db : Db) (batchId totalRows : ℕ) (batch : SmsBatch) : Db :=
  let counted := (db.setBatch batchId { batch with totalCount := totalRows }).updateBatchProgress
    env.unicode batchId env.now env.expiredReport
  match counted.batches batchId with
  | none => counted
  | some batch =>
      if batch.status = .completed ∨ batch.status = .failed ∨ batch.status = .cancelled then counted
      else counted.setBatch batchId { batch with status := .processing, completedAt := none }

def processCsvFile (batchId : ℕ) (template : Option String) (batch : SmsBatch) (file : CsvFile)
    (db : Db) : Db × CsvOutcome :=
  match csvLoop env template file.raised .zero batch file.rows with
  | (_, batch, some text) =>
      (db.setBatch batchId (batch.fail s!"解析 CSV 失败: {text}"), .unreadable text)
  | (counts, batch, none) =>
      if counts.totalRows = 0 then (db.setBatch batchId (batch.fail "CSV 文件为空"), .empty)
      else (finishCsv env db batchId counts.totalRows batch, .finished counts.totalRows)

def CsvState.passesOver (state : CsvState) (resume : Bool) (batch : SmsBatch) : Bool :=
  if resume then state.filePath.getD "" = "" ∨ batch.status = .cancelled
  else batch.status ≠ .pending

def SmsBatch.openCsv (batch : SmsBatch) (resume : Bool) : SmsBatch :=
  if resume then { batch with status := .processing, completedAt := none, errorMessage := none }
  else { batch with status := .processing }

def CsvState.template (state : CsvState) : Except ℕ (Option String) :=
  match state.templateId with
  | none => .ok none
  | some templateId =>
      if templateId = 0 then .ok none
      else
        match env.templates templateId with
        | none => .error templateId
        | some content => .ok (some content)

def CsvState.file (state : CsvState) : Option CsvFile :=
  (state.filePath.filter fun path => path ≠ "").bind env.files

/-- `_do_process_batch`. -/
def doProcessBatch (batchId : ℕ) (resume : Bool) (state : CsvState) : CsvState × CsvOutcome :=
  match state.db.batches batchId with
  | none => (state, .notFound)
  | some batch =>
      if state.passesOver resume batch then (state, .skipped)
      else
        let started :=
          { state with
            db := state.db.setBatch batchId (batch.openCsv resume)
            startedAt := if resume then state.startedAt else some env.now }
        let fails (text : String) : CsvState :=
          { started with
            db := started.db.setBatch batchId ((batch.openCsv resume).fail text) }
        match state.template env with
        | .error templateId => (fails s!"模板 ID {templateId} 不存在", .noTemplate)
        | .ok template =>
            match state.file env with
            | none => (fails "文件不存在", .noFile)
            | some file =>
                let ended := processCsvFile env batchId template (batch.openCsv resume) file
                  started.db
                ({ started with db := ended.1 }, ended.2)

def csvLoopCommits (template : Option String) : CsvCounts → SmsBatch → List CsvRow → List SmsBatch
  | _, _, [] => []
  | counts, batch, row :: rows =>
      let reached := { counts with totalRows := counts.totalRows + 1 }
      let later (batch : SmsBatch) : List SmsBatch :=
        match csvRow env template row with
        | .error _ => []
        | .ok () =>
            csvLoopCommits template { reached with failedCount := reached.failedCount + 1 } batch rows
      if counts.totalRows % 2000 = 0 ∧ 0 < counts.totalRows then
        batch.withCsvCounts reached :: later (batch.withCsvCounts reached)
      else later batch

/-- The tables at the commits of a run of the worker: when the batch is opened, in the loop, where
`update_batch_progress` lets messages expire, and at the end. -/
def csvCommits (batchId : ℕ) (resume : Bool) (state : CsvState) : List Db :=
  match state.db.batches batchId with
  | none => []
  | some batch =>
      if state.passesOver resume batch then []
      else
        let started := state.db.setBatch batchId (batch.openCsv resume)
        let inside : List Db :=
          match state.template env, state.file env with
          | .ok template, some file =>
              let (counts, reached, ended) :=
                csvLoop env template file.raised .zero (batch.openCsv resume) file.rows
              let counted := started.setBatch batchId { reached with totalCount := counts.totalRows }
              (csvLoopCommits env template .zero (batch.openCsv resume) file.rows).map
                  (started.setBatch batchId) ++
                match ended, progressPlan env.unicode counted batchId env.now with
                | none, .expire _ rows _ =>
                    if counts.totalRows = 0 then []
                    else [expireLogs counted rows env.now env.expiredReport]
                | _, _ => []
          | _, _ => []
        started :: inside ++ [(doProcessBatch env batchId resume state).1.db]

/-- The tables that a run leaves which an exception of the database ends after some of its
commits. The failure of the batch is stored when that is still possible. -/
def interruptedBatch (batchId : ℕ) (resume : Bool) (state : CsvState) (commits : ℕ)
    (stored : Option String) : Db :=
  let reached := (((csvCommits env batchId resume state).take commits).getLast?).getD state.db
  match stored, reached.batches batchId with
  | some text, some batch => reached.setBatch batchId (batch.fail (truncate 500 text))
  | _, _ => reached

end

section

variable {env : CsvEnv} {template : Option String}

theorem batchId_updateBatchProgress (unicode : Unicode) (db : Db) (batchId now : ℕ)
    (report : String) :
    (db.updateBatchProgress unicode batchId now report).smsLogs.map SmsLog.batchId =
      db.smsLogs.map SmsLog.batchId := by
  unfold Db.updateBatchProgress
  split
  · rfl
  · rfl
  · rw [setBatch_smsLogs, expireLogs, Db.updateSmsLogs_smsLogs, List.map_map]
    apply List.map_congr_left
    intro row member
    simp only [Function.comp_apply]
    split <;> rfl

theorem batchId_finishCsv (db : Db) (batchId totalRows : ℕ) (batch : SmsBatch) :
    (finishCsv env db batchId totalRows batch).smsLogs.map SmsLog.batchId =
      db.smsLogs.map SmsLog.batchId := by
  have counted := batchId_updateBatchProgress env.unicode
    (db.setBatch batchId { batch with totalCount := totalRows }) batchId env.now env.expiredReport
  simp only [finishCsv]
  split
  · exact counted
  · split
    · exact counted
    · exact counted

theorem batchId_doProcessBatch (batchId : ℕ) (resume : Bool) (state : CsvState) :
    (doProcessBatch env batchId resume state).1.db.smsLogs.map SmsLog.batchId =
      state.db.smsLogs.map SmsLog.batchId := by
  unfold doProcessBatch
  split
  · rfl
  · split
    · rfl
    · dsimp only
      split
      · rfl
      · split
        · rfl
        · dsimp only [processCsvFile]
          split
          · rfl
          · split
            · rfl
            · exact batchId_finishCsv _ _ _ _

def CsvRow.isBlank (env : CsvEnv) (template : Option String) (row : CsvRow) : Bool :=
  match (row.get "phone").strip env.unicode with
  | .error _ => false
  | .ok phone => phone = "" ∨ (csvContent env template row).toOption = some ""

theorem csvRow_ok_iff {row : CsvRow} :
    csvRow env template row = .ok () ↔ row.isBlank env template = true := by
  unfold csvRow CsvRow.isBlank
  cases (row.get "phone").strip env.unicode with
  | error text => simp [bind, Except.bind]
  | ok phone =>
      by_cases unnumbered : phone = ""
      · simp [unnumbered, bind, Except.bind, pure, Except.pure]
      · cases csvContent env template row with
        | error text => simp [unnumbered, bind, Except.bind, Except.toOption]
        | ok content =>
            by_cases blank : content = ""
            · simp [blank, bind, Except.bind, pure, Except.pure, Except.toOption]
            · simp [unnumbered, blank, bind, Except.bind, Except.toOption]

theorem csvLoop_normal_iff (raised : Option String) (rows : List CsvRow) (counts : CsvCounts)
    (batch : SmsBatch) :
    (csvLoop env template raised counts batch rows).2.2 = none ↔
      raised = none ∧ ∀ row ∈ rows, row.isBlank env template = true := by
  induction rows generalizing counts batch with
  | nil => simp [csvLoop]
  | cons row rows ih =>
      simp only [csvLoop, List.forall_mem_cons, ← csvRow_ok_iff]
      cases csvRow env template row with
      | error text => simp
      | ok done =>
          simp only [ih, csvRow_ok_iff, true_and]

def CsvState.opens (state : CsvState) (batchId : ℕ) (resume : Bool) : Bool :=
  (state.db.batches batchId).any fun batch => !state.passesOver resume batch

theorem processCsvFile_normal_iff {batchId : ℕ} {batch : SmsBatch} {file : CsvFile} {db : Db} :
    (processCsvFile env batchId template batch file db).2.isNormal = true ↔
      file.raised = none ∧ ∀ row ∈ file.rows, row.isBlank env template = true := by
  rw [← csvLoop_normal_iff file.raised file.rows .zero batch]
  unfold processCsvFile
  rcases csvLoop env template file.raised .zero batch file.rows with ⟨counts, batch, ended⟩
  cases ended with
  | some text => simp [CsvOutcome.isNormal]
  | none =>
      dsimp only
      split <;> simp [CsvOutcome.isNormal]

theorem doProcessBatch_normal_iff {batchId : ℕ} {resume : Bool} {state : CsvState} {file : CsvFile}
    (isFile : state.file env = some file) (isTemplate : state.template env = .ok template) :
    (doProcessBatch env batchId resume state).2.isNormal = true ↔
      state.opens batchId resume = true ∧ file.raised = none ∧
        ∀ row ∈ file.rows, row.isBlank env template = true := by
  unfold doProcessBatch CsvState.opens
  cases state.db.batches batchId with
  | none => simp [CsvOutcome.isNormal]
  | some batch =>
      simp only [Option.any_some, isTemplate, isFile]
      cases state.passesOver resume batch with
      | true => simp [CsvOutcome.isNormal]
      | false =>
          simp only [Bool.false_eq_true, if_false, Bool.not_false, true_and]
          exact processCsvFile_normal_iff

end

end Klsmsc
