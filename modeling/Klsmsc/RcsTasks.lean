import Klsmsc.Library.Runs
import Klsmsc.PrivateLibrary.UploadParse

/-!
# Tasks of a node for RCS

A node takes a file of numbers with one text for all of them, as a task. It sends no receipts: the
task is polled until it is final, and then a file with the results is fetched, whose lines name a
number and what became of it. The results are written to `sms_logs` by channel, batch and number;
the rows that were submitted in a task are not recorded.

The answers of the node and its files are given with the events. Whatever else writes a status (the
worker that submits a chunk marks its rows, receipts and repairs do) is an event of its own.
-/

namespace Klsmsc

open Library
open Sms (Text)

/-! ### The files -/

/-- `build_txt`: the lines of the file of numbers. -/
def buildTxt (unicode : Unicode) (phones : List String) : List String :=
  phones.foldl (fun lines phone =>
    let text := strip unicode phone
    if text = "" ∨ text ∈ lines then lines else lines ++ [text]) []

/-- `_OK_WORDS`. -/
def okWords : List String :=
  ["成功", "已送达", "送达", "delivered", "success", "ok", "read"]

/-- `_FAIL_WORDS`. -/
def failWords : List String :=
  ["失败", "未送达", "不可达", "拒绝", "过期", "failed", "fail", "undeliver", "reject", "expired"]

/-- The text matches `_PHONE_RE`. -/
def isResultPhone (unicode : Unicode) (text : Text) : Bool :=
  let digits := match text with
    | '+' :: rest => rest
    | _ => text
  6 ≤ digits.length ∧ digits.length ≤ 20 ∧ digits.all unicode.isDecimal

def resultLine (unicode : Unicode) (line : Text) : Option (String × Bool) :=
  let parts := (line.splitOnP fun char =>
    char = ',' || char = ';' || char = '|' || unicode.isSpace char).filter fun part => part ≠ []
  match parts with
  | phone :: state :: more =>
      let rest := unicode.lower (String.ofList ([' '].intercalate (state :: more)))
      if !isResultPhone unicode phone then none
      else if failWords.any (textContains rest) then some (String.ofList phone, false)
      else if okWords.any (textContains rest) then some (String.ofList phone, true)
      else none
  | _ => none

/-- The characters that end a line for `str.splitlines`. -/
def isLineBreak (char : Char) : Bool :=
  char ∈ ['\n', '\r', '\x0b', '\x0c', '\x1c', '\x1d', '\x1e', '\u0085', '\u2028', '\u2029']

/-- `mapping[phone] = ok`. -/
def setVerdict (entry : String × Bool) : List (String × Bool) → List (String × Bool)
  | [] => [entry]
  | other :: rest =>
      if other.1 = entry.1 then entry :: rest else other :: setVerdict entry rest

/-- `parse_result_text`: the numbers and their verdicts. -/
def parseResultText (unicode : Unicode) (text : String) : List (String × Bool) :=
  ((text.toList.splitOnP isLineBreak).filterMap (resultLine unicode)).foldl
    (fun mapping entry => setVerdict entry mapping) []

/-! ### Tasks -/

inductive RcsTaskState
  | created
  | accepted
  | running
  | final
  | applied
  | failed
  deriving DecidableEq, Repr

/-- A row of `rcs_send_tasks` with its file of numbers, until that is purged. There is no column for
the rows that were submitted, `logs`. -/
structure RcsSendTask where
  channelId : ℕ
  batchId : Option ℕ
  sn : Option String
  state : RcsTaskState
  phoneCount : ℕ
  file : Option (List String)
  logs : List ℕ

inductive CreateAnswer
  | configError
  | refused
  | accepted (sn : Option String)

/-- `TASK_STATUS_FINAL`. -/
def taskStatusFinal : List ℤ :=
  [4, 5, 7, 8, 11]

/-- `submit_task`, for rows that it does not reject by themselves: there are some, they have one
text, and some number is not blank. -/
def submitTask (unicode : Unicode) (logs : List SmsLog) (channelId : ℕ) (batchId : Option ℕ)
    (answer : CreateAnswer) : Option RcsSendTask :=
  let numbers := buildTxt unicode (logs.map SmsLog.phoneNumber)
  if (∀ log ∈ logs, ∀ other ∈ logs, log.message = other.message) ∧ numbers ≠ [] then
    let task : RcsSendTask :=
      { channelId
        batchId
        sn := none
        state := .created
        phoneCount := numbers.length
        file := some numbers
        logs := logs.map SmsLog.id }
    match answer with
    | .configError => some { task with state := .failed }
    | .refused => some { task with state := .failed, file := none }
    | .accepted sn => some { task with state := .accepted, sn := asked sn }
  else none

def SmsLog.IsOpen (row : SmsLog) : Prop :=
  row.status ∈ [.sent, .queued, .pending]

instance (row : SmsLog) : Decidable row.IsOpen :=
  inferInstanceAs (Decidable (_ ∈ _))

/-- `variants`: the spellings of a number. -/
def spellings (phone : String) : List String :=
  let digits := String.ofList (lstripPlus phone.toList)
  [phone, digits, "+" ++ digits]

namespace RcsSendTask

variable (task : RcsSendTask)

/-- `poll_task`, for an answer of the node with its status, if that is a number. -/
def poll (status : Option ℤ) : RcsSendTask :=
  if status.any (· ∈ taskStatusFinal) then { task with state := .final, file := none }
  else { task with state := .running }

def Covers (row : SmsLog) : Prop :=
  row.channelId = some task.channelId ∧ row.IsOpen ∧
    ∀ batch ∈ task.batchId.filter fun batch => batch ≠ 0, row.batchId = some batch

instance (row : SmsLog) : Decidable (task.Covers row) :=
  inferInstanceAs (Decidable (_ ∧ _ ∧ _))

def writeVerdict (now : ℕ) (row : SmsLog) (entry : String × Bool) : SmsLog :=
  if task.Covers row ∧ row.phoneNumber ∈ spellings entry.1 then
    if entry.2 then { row with status := .delivered, deliveryTime := some now }
    else { row with status := .failed, errorMessage := some "上游结果文件标记为失败" }
  else row

/-- The UPDATEs of `apply_result`, one after the other. -/
def writeBack (now : ℕ) (mapping : List (String × Bool)) (rows : List SmsLog) : List SmsLog :=
  mapping.foldl (fun rows entry => rows.map fun row => task.writeVerdict now row entry) rows

end RcsSendTask

/-! ### Steps -/

structure RcsSystem where
  rows : List SmsLog
  tasks : List RcsSendTask
  applied : List (ℕ × String)

/-- What happens: a row is written, rows are submitted, a task is polled, a result file is applied,
unless it could not be fetched, and the status of a row is set by someone else. -/
inductive RcsEvent
  | insert (row : SmsLog)
  | submit (logs : List ℕ) (channelId : ℕ) (batchId : Option ℕ) (answer : CreateAnswer)
  | poll (task : ℕ) (status : Option ℤ)
  | apply (task : ℕ) (text : Option String) (now : ℕ)
  | setStatus (row : ℕ) (status : SmsStatus)

namespace RcsSystem

variable (unicode : Unicode) (state : RcsSystem)

def empty : RcsSystem :=
  ⟨[], [], []⟩

def next : RcsEvent → Option RcsSystem
  | .insert row =>
      if ∀ other ∈ state.rows, other.id ≠ row.id then
        some { state with rows := state.rows ++ [row] }
      else none
  | .submit logs channelId batchId answer =>
      (submitTask unicode (state.rows.filter fun row => row.id ∈ logs) channelId batchId answer).map
        fun task => { state with tasks := state.tasks ++ [task] }
  | .poll index status =>
      state.tasks[index]?.bind fun task =>
        if task.sn.isSome then some { state with tasks := state.tasks.set index (task.poll status) }
        else none
  | .apply index text now =>
      state.tasks[index]?.bind fun task =>
        if task.sn.isSome then
          match text with
          | none => some state
          | some text =>
              some
                { rows := task.writeBack now (parseResultText unicode text) state.rows
                  tasks := state.tasks.set index { task with state := .applied }
                  applied := (index, text) :: state.applied }
        else none
  | .setStatus id status =>
      some
        { state with
          rows := state.rows.map fun row => if row.id = id then { row with status } else row }

def Step (before : RcsSystem) (event : RcsEvent) (after : RcsSystem) : Prop :=
  before.next unicode event = some after

end RcsSystem

end Klsmsc
