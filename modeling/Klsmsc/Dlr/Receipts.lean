import Mathlib.Data.List.TakeWhile
import Klsmsc.Dlr.Candidates

/-!
# Delivery reports in JSON

The way of a report from the body of a vendor's callback through `parse_json_dlr` to the status that
`normalize_status` reads off it. A field of the report is the first of several fields of the vendor
that is true as a condition, so that a result of 0 gives way to `status` and `state`, and the
example in the docstring of `parse_json_dlr` is read as a report without a status.

How Python writes a list or a dictionary as text is a parameter.
-/

namespace Klsmsc

/-- What `json.loads` makes of a body. A float is zero or known by its text; a dictionary is the
list of its items. -/
inductive PyValue where
  | none
  | bool (value : Bool)
  | int (value : ℤ)
  | zero (negative : Bool)
  | float (text : String)
  | str (text : String)
  | list (items : List PyValue)
  | dict (items : List (String × PyValue))

namespace PyValue

def truthy : PyValue → Bool
  | none => false
  | bool value => value
  | int value => value ≠ 0
  | zero _ => false
  | float _ => true
  | str text => text ≠ ""
  | list items => !items.isEmpty
  | dict items => !items.isEmpty

/-- `str(value)`. The text of a list or a dictionary that is not empty is a parameter. -/
def text (containerText : PyValue → String) : PyValue → String
  | none => "None"
  | bool value => if value then "True" else "False"
  | int value => toString value
  | zero negative => if negative then "-0.0" else "0.0"
  | float text => text
  | str text => text
  | list items => if items.isEmpty then "[]" else containerText (list items)
  | dict items => if items.isEmpty then "\x7b\x7d" else containerText (dict items)

def isStr (needle : String) : PyValue → Bool
  | str text => text = needle
  | _ => false

end PyValue

/-- `item.get(name)`. -/
def getField (item : List (String × PyValue)) (name : String) : PyValue :=
  (item.lookup name).getD .none

/-- `item.get(first) or item.get(second) or …`: the first value that is true, or the last one. -/
def firstTruthy (item : List (String × PyValue)) : List String → PyValue
  | [] => .none
  | [name] => getField item name
  | name :: names =>
      if (getField item name).truthy then getField item name else firstTruthy item names

structure DlrReport where
  messageId : PyValue
  mobile : PyValue
  statusCode : PyValue
  errorCode : PyValue
  deliveryTime : PyValue

structure DlrFields where
  messageId : List String
  mobile : List String
  statusCode : List String
  errorCode : List String
  deliveryTime : List String

def DlrFields.report (fields : DlrFields) (item : List (String × PyValue)) : Option DlrReport :=
  if (firstTruthy item fields.messageId).truthy then
    some
      { messageId := firstTruthy item fields.messageId
        mobile := firstTruthy item fields.mobile
        statusCode := firstTruthy item fields.statusCode
        errorCode := firstTruthy item fields.errorCode
        deliveryTime := firstTruthy item fields.deliveryTime }
  else none

/-- The fields of an object in `list`. -/
def listFields : DlrFields where
  messageId := ["mid", "message_id", "msgid", "taskid", "smsid", "sms_id", "sm_id"]
  mobile := ["mobile", "phone", "to"]
  statusCode := ["result", "status", "state"]
  errorCode := ["errorcode", "error", "desc"]
  deliveryTime := ["recvTime", "deliverytime", "time"]

def arrayFields : DlrFields where
  messageId := ["mid", "message_id", "msgid", "taskid", "smsid", "sms_id"]
  mobile := ["mobile", "phone"]
  statusCode := ["result", "status"]
  errorCode := ["errorcode", "error"]
  deliveryTime := ["recvTime", "deliverytime"]

def singleFields : DlrFields where
  messageId := ["mid", "message_id", "msgid", "taskid", "id", "smsid", "sms_id", "sm_id"]
  mobile := ["mobile", "phone", "to"]
  statusCode := ["result", "status", "state"]
  errorCode := ["errorcode", "error", "desc"]
  deliveryTime := ["recvTime", "deliverytime", "time"]

/-- The loop over the items. An item that is no object ends it with an exception, and the reports
so far are kept. -/
def DlrFields.reports (fields : DlrFields) : List PyValue → List DlrReport
  | .dict item :: rest => (fields.report item).toList ++ fields.reports rest
  | _ => []

/-- `parse_json_dlr`. A `list` that is no list, and a body that is neither an object nor a list
without the string `list`, end in an exception before the first report. -/
def parseJsonDlr : PyValue → List DlrReport
  | .dict body =>
      match body.lookup "list" with
      | some (.list items) => listFields.reports items
      | some _ => []
      | none => (singleFields.report body).toList
  | .list items =>
      if items.any (PyValue.isStr "list") then [] else arrayFields.reports items
  | _ => []

/-- `DLRStatus`. -/
inductive DlrStatus where
  | delivered
  | failed
  | expired
  | rejected
  | unknown
  | pending
  deriving DecidableEq, Repr

/-- `DELIVERED_CODES`. -/
def deliveredCodes : List String :=
  ["0", "1", "10", "100", "200",
    "delivrd", "delivered", "success", "ok", "sent", "accepted",
    "deliveredtonetwork", "deliveredtoterminal", "sm_deliveredtomob",
    "dlvrd", "submitted", "receive", "received"]

/-- `FAILED_CODES`. -/
def failedCodes : List String :=
  ["undeliv", "undelivered", "failed", "rejected", "rejectd", "error",
    "expired", "unknown", "absent", "blocked", "invalid", "notexist",
    "blacklist", "spam", "denied", "unreachable", "busy", "noroute"]

section Normalizing

variable (unicode : Unicode) (containerText : PyValue → String)

/-- `int(text)` of digits, with Python's limit on their number. -/
def readInt (text : String) : Option ℕ :=
  if 4300 < text.length then none else digitsValue unicode.decimal 10 0 text.toList

/-- The local `status_str`. -/
def statusText (statusCode : PyValue) : String :=
  match statusCode with
  | .none => ""
  | value => strip unicode (unicode.lower (value.text containerText))

/-- The local `error_str`. -/
def errorText (errorCode : PyValue) : String :=
  if errorCode.truthy then strip unicode (unicode.lower (errorCode.text containerText)) else ""

/-- `normalize_status` of the two texts. It raises where `int` does. -/
def normalizeTexts (status error : String) : Option DlrStatus :=
  if failedCodes.any fun code => textContains status code || textContains error code then
    some .failed
  else if textContains status "delivrd" || textContains error "delivrd" then some .delivered
  else if deliveredCodes.contains status || deliveredCodes.contains error then some .delivered
  else if status ≠ "" && status.toList.all unicode.isDigit then
    (readInt unicode status).map fun code =>
      if [0, 1, 2, 10, 11, 20, 100, 200].contains code then .delivered
      else if 1000 < code then .failed
      else .unknown
  else some .unknown

/-- `normalize_status`. -/
def normalizeStatus (statusCode errorCode : PyValue) : Option DlrStatus :=
  normalizeTexts unicode (statusText unicode containerText statusCode)
    (errorText unicode containerText errorCode)

end Normalizing

/-! ### What a text says -/

def saysFailed (text : String) : Bool :=
  failedCodes.any fun code => textContains text code

def saysDelivered (text : String) : Bool :=
  textContains text "delivrd" || deliveredCodes.contains text

def isNumber (unicode : Unicode) (text : String) : Bool :=
  text ≠ "" && text.toList.all unicode.isDigit

def IsDeliveredNumber (unicode : Unicode) (text : String) : Prop :=
  isNumber unicode text = true ∧
    ∃ code ∈ [0, 1, 2, 10, 11, 20, 100, 200], readInt unicode text = some code

def IsOtherNumber (unicode : Unicode) (text : String) : Prop :=
  ∃ code ≤ 1000, code ∉ [0, 1, 2, 10, 11, 20, 100, 200] ∧ readInt unicode text = some code

def numberStatus (code : ℕ) : DlrStatus :=
  if [0, 1, 2, 10, 11, 20, 100, 200].contains code then .delivered
  else if 1000 < code then .failed
  else .unknown

section Outcome

variable {unicode : Unicode} {status error : String}

theorem normalizeTexts_of_failed (failed : saysFailed status = true ∨ saysFailed error = true) :
    normalizeTexts unicode status error = some .failed := by
  rw [normalizeTexts, if_pos]
  rcases failed with failed | failed
  · rw [saysFailed, List.any_eq_true] at failed
    obtain ⟨code, member, contained⟩ := failed
    exact List.any_eq_true.mpr ⟨code, member, by simp [contained]⟩
  · rw [saysFailed, List.any_eq_true] at failed
    obtain ⟨code, member, contained⟩ := failed
    exact List.any_eq_true.mpr ⟨code, member, by simp [contained]⟩

theorem normalizeTexts_of_not_failed (status_ok : saysFailed status = false)
    (error_ok : saysFailed error = false) :
    normalizeTexts unicode status error =
      if saysDelivered status || saysDelivered error then some .delivered
      else if isNumber unicode status then (readInt unicode status).map numberStatus
      else some .unknown := by
  have noWord : ¬ (failedCodes.any fun code =>
      textContains status code || textContains error code) = true := by
    rw [saysFailed, List.any_eq_false] at status_ok error_ok
    rw [List.any_eq_true]
    rintro ⟨code, member, contained⟩
    rw [Bool.or_eq_true] at contained
    exact contained.elim (status_ok code member) (error_ok code member)
  rw [normalizeTexts, if_neg noWord]
  by_cases word : textContains status "delivrd" || textContains error "delivrd"
  · have delivered : (saysDelivered status || saysDelivered error) = true := by
      rw [Bool.or_eq_true] at word ⊢
      rcases word with word | word
      · exact .inl (by simp [saysDelivered, word])
      · exact .inr (by simp [saysDelivered, word])
    rw [if_pos word, if_pos delivered]
  · have same : (saysDelivered status || saysDelivered error) =
        (deliveredCodes.contains status || deliveredCodes.contains error) := by
      rw [Bool.not_eq_true, Bool.or_eq_false_iff] at word
      rw [saysDelivered, saysDelivered, word.1, word.2, Bool.false_or, Bool.false_or]
    rw [if_neg word, same]
    rfl

theorem numberStatus_delivered (code : ℕ) :
    numberStatus code = .delivered ↔ code ∈ [0, 1, 2, 10, 11, 20, 100, 200] := by
  rw [numberStatus, ← List.contains_iff_mem]
  split
  · rename_i listed
    exact iff_of_true rfl listed
  · rename_i other
    split
    · exact iff_of_false (by decide) other
    · exact iff_of_false (by decide) other

theorem numberStatus_unknown (code : ℕ) :
    numberStatus code = .unknown ↔
      code ≤ 1000 ∧ code ∉ [0, 1, 2, 10, 11, 20, 100, 200] := by
  rw [numberStatus, ← List.contains_iff_mem]
  split
  · rename_i listed
    exact iff_of_false (by decide) fun unlisted => unlisted.2 listed
  · rename_i other
    split
    · rename_i large
      exact iff_of_false (by decide) fun small => absurd small.1 (by omega)
    · rename_i small
      exact iff_of_true rfl ⟨by omega, other⟩

theorem normalizeTexts_delivered_iff (status_ok : saysFailed status = false)
    (error_ok : saysFailed error = false) :
    normalizeTexts unicode status error = some .delivered ↔
      saysDelivered status = true ∨ saysDelivered error = true ∨
        IsDeliveredNumber unicode status := by
  rw [normalizeTexts_of_not_failed status_ok error_ok]
  split
  · rename_i delivered
    rw [Bool.or_eq_true] at delivered
    exact iff_of_true rfl (delivered.elim .inl fun right => .inr (.inl right))
  · rename_i silent
    rw [Bool.not_eq_true, Bool.or_eq_false_iff] at silent
    rw [silent.1, silent.2, IsDeliveredNumber]
    split
    · rename_i number
      simp only [Option.map_eq_some_iff, numberStatus_delivered, number, Bool.false_eq_true,
        false_or, true_and]
      exact exists_congr fun code => and_comm
    · rename_i noNumber
      simp [noNumber]

theorem normalizeTexts_unknown_iff (status_ok : saysFailed status = false)
    (error_ok : saysFailed error = false) (silent : saysDelivered error = false) :
    normalizeTexts unicode status error = some .unknown ↔
      saysDelivered status = false ∧
        (isNumber unicode status = true → IsOtherNumber unicode status) := by
  rw [normalizeTexts_of_not_failed status_ok error_ok, silent, Bool.or_false]
  split
  · rename_i delivered
    simp [delivered]
  · rename_i quiet
    rw [Bool.not_eq_true] at quiet
    rw [quiet, IsOtherNumber]
    split
    · rename_i number
      simp only [Option.map_eq_some_iff, numberStatus_unknown, number, true_and, forall_const]
      exact exists_congr fun code => by rw [and_comm, and_assoc]
    · rename_i noNumber
      simp [noNumber]

end Outcome

/-! ### Results that are false as a condition -/

section Falsy

variable {unicode : Unicode} {containerText : PyValue → String}

def Unicode.Visible (unicode : Unicode) : Prop :=
  ∀ char : Char, 32 < char.toNat → char.toNat < 127 → unicode.isSpace char = false

theorem strip_of_visible {text : String}
    (visible : ∀ char ∈ text.toList, unicode.isSpace char = false) : strip unicode text = text := by
  have kept : text.toList.dropWhile unicode.isSpace = text.toList :=
    List.dropWhile_eq_self_iff.mpr fun nonempty => by
      simp [visible _ (List.getElem_mem nonempty)]
  have keptBack : text.toList.reverse.dropWhile unicode.isSpace = text.toList.reverse := by
    refine List.dropWhile_eq_self_iff.mpr fun nonempty => ?_
    rw [visible _ (List.mem_reverse.mp (List.getElem_mem nonempty))]
    decide
  rw [strip, kept, keptBack, List.reverse_reverse, String.ofList_toList]

def isPlain (text : String) : Bool :=
  text.toList.all (fun char => char.toNat < 127) &&
    (Unicode.ascii.lower text).toList.all fun char => 32 < char.toNat && char.toNat < 127

theorem strip_lower_of_isPlain (lawful : unicode.Lawful) (visible : unicode.Visible)
    {text : String} (plain : isPlain text = true) :
    strip unicode (unicode.lower text) = Unicode.ascii.lower text := by
  rw [isPlain, Bool.and_eq_true, List.all_eq_true, List.all_eq_true] at plain
  have small : ∀ char ∈ text.toList, char.toNat < 128 := by
    intro char found
    have bound := of_decide_eq_true (plain.1 char found)
    omega
  rw [lawful.lower text small]
  refine strip_of_visible fun char found => ?_
  have bounds := Bool.and_eq_true_iff.mp (plain.2 char found)
  exact visible char (of_decide_eq_true bounds.1) (of_decide_eq_true bounds.2)

def falsyTexts : List String := ["", "false", "-0.0", "0.0", "[]", "\x7b\x7d"]

theorem statusText_of_falsy (lawful : unicode.Lawful) (visible : unicode.Visible)
    {value : PyValue} (falsy : value.truthy = false) :
    value = .int 0 ∧ statusText unicode containerText value = "0" ∨
      value ≠ .int 0 ∧ statusText unicode containerText value ∈ falsyTexts := by
  have lowered : ∀ text : String, isPlain text = true →
      Unicode.ascii.lower text ∈ falsyTexts →
        strip unicode (unicode.lower text) ∈ falsyTexts := by
    intro text plain listed
    rw [strip_lower_of_isPlain lawful visible plain]
    exact listed
  cases value with
  | none => exact .inr ⟨nofun, List.mem_cons_self⟩
  | bool value =>
      have isFalse : value = false := falsy
      subst isFalse
      exact .inr ⟨nofun, lowered "False" (by decide) (by decide)⟩
  | int value =>
      have isZero : value = 0 := by simpa [PyValue.truthy] using falsy
      subst isZero
      have plain : isPlain "0" = true := by decide
      exact .inl ⟨rfl, strip_lower_of_isPlain lawful visible plain⟩
  | zero negative =>
      refine .inr ⟨nofun, ?_⟩
      cases negative with
      | true => exact lowered "-0.0" (by decide) (by decide)
      | false => exact lowered "0.0" (by decide) (by decide)
  | float text => cases falsy
  | str value =>
      have isEmpty : value = "" := by simpa [PyValue.truthy] using falsy
      subst isEmpty
      exact .inr ⟨nofun, lowered "" (by decide) (by decide)⟩
  | list items =>
      have isEmpty : items = [] := by simpa [PyValue.truthy] using falsy
      subst isEmpty
      exact .inr ⟨nofun, lowered "[]" (by decide) (by decide)⟩
  | dict items =>
      have isEmpty : items = [] := by simpa [PyValue.truthy] using falsy
      subst isEmpty
      exact .inr ⟨nofun, lowered "\x7b\x7d" (by decide) (by decide)⟩

theorem falsyTexts_silent (lawful : unicode.Lawful) {text : String} (listed : text ∈ falsyTexts) :
    saysFailed text = false ∧ saysDelivered text = false ∧ isNumber unicode text = false := by
  have silent : falsyTexts.all (fun text => !saysFailed text && !saysDelivered text &&
      !isNumber Unicode.ascii text && text.toList.all fun char => char.toNat < 128) = true := by
    decide
  have facts := List.all_eq_true.mp silent text listed
  simp only [Bool.and_eq_true, Bool.not_eq_true', List.all_eq_true, decide_eq_true_eq] at facts
  obtain ⟨⟨⟨noFailure, noDelivery⟩, noNumber⟩, small⟩ := facts
  refine ⟨noFailure, noDelivery, ?_⟩
  rw [isNumber, all_isDigit_ascii lawful small]
  exact noNumber

end Falsy

/-! ### The result of an item -/

section Result

variable {unicode : Unicode} {containerText : PyValue → String}

/-- The result is true as a condition, or the error text says a failure, or the other status says
none and the two results read alike: the error text says a delivery, the result is 0 and the other
status stands for a delivery, or the result is not 0 and the other status stands for nothing. -/
def ReadAlike (unicode : Unicode) (containerText : PyValue → String)
    (result otherStatus errorCode : PyValue) : Prop :=
  let other := statusText unicode containerText otherStatus
  let error := errorText unicode containerText errorCode
  result.truthy = true ∨ saysFailed error = true ∨
    (saysFailed other = false ∧
      (saysDelivered error = true ∨
        (result = .int 0 ∧ (saysDelivered other = true ∨ IsDeliveredNumber unicode other)) ∨
        (result ≠ .int 0 ∧ saysDelivered other = false ∧
          (isNumber unicode other = true → IsOtherNumber unicode other))))

theorem normalizeTexts_of_falsy (lawful : unicode.Lawful) (visible : unicode.Visible)
    {result : PyValue} (falsy : result.truthy = false) {error : String}
    (error_ok : saysFailed error = false) :
    ((saysDelivered error = true ∨ result = .int 0) ∧
        normalizeTexts unicode (statusText unicode containerText result) error =
          some .delivered) ∨
      (saysDelivered error = false ∧ result ≠ .int 0 ∧
        normalizeTexts unicode (statusText unicode containerText result) error =
          some .unknown) := by
  rcases @statusText_of_falsy unicode containerText lawful visible result falsy with
    ⟨isZero, zeroText⟩ | ⟨notZero, listed⟩
  · refine .inl ⟨.inr isZero, ?_⟩
    have quiet : saysFailed "0" = false := by decide
    rw [zeroText, normalizeTexts_delivered_iff quiet error_ok]
    exact .inl (by decide)
  · obtain ⟨quiet, silent, noNumber⟩ := falsyTexts_silent lawful listed
    cases delivered : saysDelivered error with
    | true =>
        refine .inl ⟨.inl rfl, ?_⟩
        rw [normalizeTexts_delivered_iff quiet error_ok]
        exact .inr (.inl delivered)
    | false =>
        refine .inr ⟨rfl, notZero, ?_⟩
        rw [normalizeTexts_unknown_iff quiet error_ok delivered]
        exact ⟨silent, fun number => absurd number (by simp [noNumber])⟩

theorem normalizeStatus_orElse_iff (lawful : unicode.Lawful) (visible : unicode.Visible)
    (result otherStatus errorCode : PyValue) :
    normalizeStatus unicode containerText (if result.truthy then result else otherStatus)
          errorCode =
        normalizeStatus unicode containerText result errorCode ↔
      ReadAlike unicode containerText result otherStatus errorCode := by
  by_cases holds : result.truthy = true
  · simp [holds, ReadAlike]
  · rw [if_neg holds]
    rw [Bool.not_eq_true] at holds
    simp only [ReadAlike, holds, Bool.false_eq_true, false_or, normalizeStatus]
    generalize statusText unicode containerText otherStatus = other
    generalize errorText unicode containerText errorCode = error
    cases failed : saysFailed error with
    | true =>
        rw [normalizeTexts_of_failed (.inr failed), normalizeTexts_of_failed (.inr failed)]
        simp
    | false =>
        have outcome := @normalizeTexts_of_falsy unicode containerText lawful visible result holds
          error failed
        cases otherFailed : saysFailed other with
        | true =>
            -- The report says a failure, the result does not.
            rw [normalizeTexts_of_failed (.inl otherFailed)]
            rcases outcome with ⟨-, isDelivered⟩ | ⟨-, -, isUnknown⟩
            · simp [isDelivered]
            · simp [isUnknown]
        | false =>
            rcases outcome with ⟨reason, isDelivered⟩ | ⟨silent, notZero, isUnknown⟩
            · rw [isDelivered, normalizeTexts_delivered_iff otherFailed failed]
              by_cases delivered : saysDelivered error = true
              · simp [delivered]
              · have isZero := reason.resolve_left delivered
                simp [delivered, isZero]
            · rw [isUnknown, normalizeTexts_unknown_iff otherFailed failed silent]
              simp [silent, notZero]

theorem reports_append (fields : DlrFields) (items : List (List (String × PyValue)))
    (rest : List PyValue) :
    fields.reports (items.map .dict ++ rest) =
      fields.reports (items.map .dict) ++ fields.reports rest := by
  induction items with
  | nil => rfl
  | cons item items ih =>
      simp only [List.map_cons, List.cons_append, DlrFields.reports, ih, List.append_assoc]

/-- An object in the `list` of a body gives one report, with its own message id and with the
status that its result stands for, just if it has an id and its result and the status that takes
the place of a false one read alike. -/
theorem parseJsonDlr_result_iff (unicode : Unicode) (lawful : unicode.Lawful)
    (visible : unicode.Visible) (containerText : PyValue → String)
    {body item : List (String × PyValue)} {before after : List (List (String × PyValue))}
    {result : PyValue}
    (hasList : body.lookup "list" = some (.list ((before ++ item :: after).map .dict)))
    (hasResult : item.lookup "result" = some result) :
    (∃ report,
        parseJsonDlr (.dict body) =
            listFields.reports (before.map .dict) ++ report ::
              listFields.reports (after.map .dict) ∧
          report.messageId = firstTruthy item listFields.messageId ∧
          normalizeStatus unicode containerText report.statusCode report.errorCode =
            normalizeStatus unicode containerText result
              (firstTruthy item listFields.errorCode)) ↔
      (firstTruthy item listFields.messageId).truthy = true ∧
        ReadAlike unicode containerText result (firstTruthy item ["status", "state"])
          (firstTruthy item listFields.errorCode) := by
  have status : firstTruthy item listFields.statusCode =
      if result.truthy then result else firstTruthy item ["status", "state"] := by
    have field : getField item "result" = result := by rw [getField, hasResult]; rfl
    rw [← field]
    rfl
  have parsed : parseJsonDlr (.dict body) =
      listFields.reports (before.map .dict) ++
        ((listFields.report item).toList ++ listFields.reports (after.map .dict)) := by
    rw [parseJsonDlr, hasList]
    simp only [List.map_append, List.map_cons]
    rw [reports_append]
    rfl
  rw [parsed]
  by_cases identified : (firstTruthy item listFields.messageId).truthy = true
  · rw [DlrFields.report, if_pos identified]
    rw [← normalizeStatus_orElse_iff lawful visible, ← status]
    constructor
    · rintro ⟨report, same, -, read⟩
      have isReport := (List.cons.inj (List.append_cancel_left same)).1
      rw [← isReport] at read
      exact ⟨identified, read⟩
    · rintro ⟨-, read⟩
      exact ⟨_, rfl, rfl, read⟩
  · rw [DlrFields.report, if_neg identified]
    refine iff_of_false ?_ fun holds => identified holds.1
    rintro ⟨report, same, -⟩
    have lengths := congrArg List.length (List.append_cancel_left same)
    simp at lengths

end Result

theorem Unicode.ascii_visible : Unicode.ascii.Visible := by
  intro char printable small
  have notSpace : 32 < char.toNat → char.isWhitespace = false :=
    @forall_ascii (fun char => 32 < char.toNat → char.isWhitespace = false) (by decide) char
      (by omega)
  exact notSpace printable

/-- The object of the example in the docstring of `parse_json_dlr`. -/
def kaolaItem : List (String × PyValue) :=
  [("mid", .str "xxx"), ("mobile", .str "xxx"), ("result", .int 0)]

def kaolaBody : List (String × PyValue) :=
  [("status", .int 0), ("list", .list [.dict kaolaItem])]

def kaolaItemWithStatus : List (String × PyValue) :=
  ("status", .str "DELIVRD") :: kaolaItem

theorem parseJsonDlr_result_withStatus :
    ∃ report,
      parseJsonDlr (.dict [("list", .list [.dict kaolaItemWithStatus])]) = [report] ∧
        report.messageId = .str "xxx" ∧
        normalizeStatus .ascii (fun _ => "") report.statusCode report.errorCode =
          normalizeStatus .ascii (fun _ => "") (.int 0) .none := by
  have alike : ReadAlike .ascii (fun _ => "") (.int 0) (.str "DELIVRD") .none := by
    refine .inr (.inr ⟨by decide, .inr (.inl ⟨rfl, .inl ?_⟩)⟩)
    decide
  have hasList : [("list", PyValue.list [.dict kaolaItemWithStatus])].lookup "list" =
      some (.list (([] ++ kaolaItemWithStatus :: []).map .dict)) := rfl
  have hasResult : kaolaItemWithStatus.lookup "result" = some (.int 0) := rfl
  exact (parseJsonDlr_result_iff .ascii Unicode.ascii_lawful Unicode.ascii_visible (fun _ => "")
    hasList hasResult).mpr ⟨rfl, alike⟩

/-- The result 0 stands for a delivery, but the report of the example has no status. -/
theorem kaola_result_unread :
    ¬ ∃ report,
      parseJsonDlr (.dict kaolaBody) = [report] ∧
        report.messageId = .str "xxx" ∧
        normalizeStatus .ascii (fun _ => "") report.statusCode report.errorCode =
          normalizeStatus .ascii (fun _ => "") (.int 0) .none := by
  rintro ⟨report, parsed, -, read⟩
  have isReport := (List.cons.inj parsed).1
  rw [← isReport] at read
  have unread : normalizeStatus .ascii (fun _ => "") .none .none = some .unknown := by
    decide
  have delivered : normalizeStatus .ascii (fun _ => "") (.int 0) .none = some .delivered := by
    decide
  rw [delivered] at read
  change normalizeStatus .ascii (fun _ => "") .none .none = _ at read
  rw [unread] at read
  cases read

end Klsmsc
