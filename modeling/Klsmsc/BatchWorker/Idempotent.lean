import Klsmsc.BatchWorker.Accounted
import Klsmsc.Chunk.Adds
import Klsmsc.Chunk.Pricing

/-!
# Executing a chunk again

The worker passes over an entry when the entry itself is the number of a row of the batch. But
it stores an entry under another spelling: in E.164 when the checks have parsed it, else without
blanks, dashes and brackets and cut to the width of the column. So another execution repeats no
row and no charge exactly when every entry that has a row is spelled as a row of the batch, or
is on the virtual path and gets no row there.
-/

namespace Klsmsc

open Library

def ChunkEnv.spellings (env : ChunkEnv) (phone : String) : List String :=
  let number := normalizePhone env.unicode phone
  truncate 20 number ::
    match validatePhoneNumber env number with
    | .error _ => []
    | .ok info => [info.e164Format, truncate 20 info.e164Format]

namespace ChunkInput

variable (env : ChunkEnv) (faults : Faults) (input : ChunkInput) (db : Db)

def HasRow (phone : String) : Prop :=
  ∃ row ∈ db.batchLogs input.batchId, row.phoneNumber ∈ env.spellings phone

def IsStored (phone : String) : Prop :=
  phone ∈ (db.batchLogs input.batchId).map SmsLog.phoneNumber

/-- No two entries are one number. Entries that differ in blanks, dashes and brackets only are
the same entry; others are never stored under one spelling. -/
def Distinct : Prop :=
  ∀ one ∈ input.phoneNumbers, ∀ two ∈ input.phoneNumbers,
    normalizePhone env.unicode one ≠ normalizePhone env.unicode two →
      ∀ spelling ∈ env.spellings one, spelling ∉ env.spellings two

def check (index : ℕ) (phone : String) : Except Prefailed ValidItem :=
  let context := checkContext env faults input db
  match virtualChannel input db with
  | some channel => checkVirtual env input context channel index (normalizePhone env.unicode phone)
  | none => checkNumber env input context index (normalizePhone env.unicode phone)

def itemsOf (entries : List (String × ℕ)) : List ValidItem :=
  entries.filterMap fun entry => (input.check env faults db entry.2 entry.1).toOption

def PriceOfNew (amount : Money) : Prop :=
  ∃ entries : List (String × ℕ), entries.Sublist input.phoneNumbers.zipIdx ∧
    (∀ entry ∈ entries, ¬HasRow env input db entry.1) ∧
      amount = totalSell env input (itemsOf env faults input db entries)

/-- Between two states of the tables, entries that have a row get no other row and are not
charged. -/
structure Idempotent (after : Db) : Prop where
  rows : ∀ phone ∈ input.phoneNumbers, HasRow env input db phone →
    ∀ row ∈ after.smsLogs.drop db.smsLogs.length, row.phoneNumber ∉ env.spellings phone
  charges : ∀ log ∈ after.balanceLogs.drop db.balanceLogs.length, log.changeType = .charge →
    PriceOfNew env faults input db (-log.amount)

/-- On the virtual path an entry gets no row when it fails the checks, or when the account cannot
pay for the entries that pass. -/
def Withheld (phone : String) : Prop :=
  let context := checkContext env faults input db
  (virtualChannel input db).isSome = true ∧
    ((screenNumber env context (normalizePhone env.unicode phone)).isOk = false ∨
      context.affords env input
        (checkEntries context.alreadyDone (input.check env faults db) 0
          input.phoneNumbers).valid = false)

/-- The batch is cancelled or has failed, or every entry that has a row is spelled as a row of
the batch, or gets no row on the virtual path. -/
def Recognized : Prop :=
  input.isStopped db = true ∨ ∀ phone ∈ input.phoneNumbers, HasRow env input db phone →
    IsStored input db phone ∨ Withheld env faults input db phone

end ChunkInput

/-- What the checks have found in some entries: the items of entries that are not stored, each of
them counted once, and failures that are stored under spellings of such entries. -/
structure Finds (env : ChunkEnv) (alreadyDone : List String)
    (check : ℕ → String → Except Prefailed ValidItem) (phones : List (String × ℕ))
    (checked : Prechecked) : Prop where
  valid : ∃ entries : List (String × ℕ), entries.Sublist phones ∧
    (∀ entry ∈ entries, entry.1 ∉ alreadyDone ∧ (check entry.2 entry.1).isOk = true) ∧
      checked.valid = entries.filterMap fun entry => (check entry.2 entry.1).toOption
  prefailed : ∀ failure ∈ checked.prefailed, ∃ entry ∈ phones, entry.1 ∉ alreadyDone ∧
    truncate 20 failure.phone ∈ env.spellings entry.1

namespace Finds

variable {env : ChunkEnv} {alreadyDone : List String}
  {check : ℕ → String → Except Prefailed ValidItem} {phones : List (String × ℕ)}
  {entry : String × ℕ} {rest : Prechecked}

theorem empty : Finds env alreadyDone check [] .empty :=
  ⟨⟨[], List.Sublist.refl _, by simp, rfl⟩, by simp [Prechecked.empty]⟩

theorem skip (finds : Finds env alreadyDone check phones rest) :
    Finds env alreadyDone check (entry :: phones) rest.skip := by
  rcases finds with ⟨⟨entries, part, ok, valid⟩, prefailed⟩
  refine ⟨⟨entries, part.cons entry, ok, valid⟩, fun failure member => ?_⟩
  rcases prefailed failure member with ⟨other, isOther, stored⟩
  exact ⟨other, List.mem_cons_of_mem _ isOther, stored⟩

theorem fail (finds : Finds env alreadyDone check phones rest) (new : entry.1 ∉ alreadyDone)
    {failure : Prefailed} (spelled : truncate 20 failure.phone ∈ env.spellings entry.1) :
    Finds env alreadyDone check (entry :: phones) (rest.add (.error failure)) := by
  rcases finds with ⟨⟨entries, part, ok, valid⟩, prefailed⟩
  refine ⟨⟨entries, part.cons entry, ok, valid⟩, fun other member => ?_⟩
  rcases List.mem_cons.mp member with rfl | later
  · exact ⟨entry, List.mem_cons_self, new, spelled⟩
  · rcases prefailed other later with ⟨found, isFound, stored⟩
    exact ⟨found, List.mem_cons_of_mem _ isFound, stored⟩

theorem pass (finds : Finds env alreadyDone check phones rest) (new : entry.1 ∉ alreadyDone)
    {item : ValidItem} (passes : check entry.2 entry.1 = .ok item) :
    Finds env alreadyDone check (entry :: phones) (rest.add (.ok item)) := by
  rcases finds with ⟨⟨entries, part, ok, valid⟩, prefailed⟩
  refine ⟨⟨entry :: entries, part.cons_cons entry, ?_, ?_⟩, fun failure member => ?_⟩
  · rw [List.forall_mem_cons]
    exact ⟨⟨new, by rw [passes]; rfl⟩, ok⟩
  · simp [Prechecked.add, passes, valid, Except.toOption]
  · rcases prefailed failure member with ⟨other, isOther, stored⟩
    exact ⟨other, List.mem_cons_of_mem _ isOther, stored⟩

end Finds

section

variable {env : ChunkEnv} {faults : Faults} {input : ChunkInput} {db : Db}
  {context : CheckContext}

theorem normal_mem_spellings (phone : String) :
    truncate 20 (normalizePhone env.unicode phone) ∈ env.spellings phone := by
  unfold ChunkEnv.spellings
  exact List.mem_cons_self

theorem parsed_mem_spellings {phone : String} {info : PhoneInfo}
    (parsed : validatePhoneNumber env (normalizePhone env.unicode phone) = .ok info) :
    info.e164Format ∈ env.spellings phone ∧
      truncate 20 info.e164Format ∈ env.spellings phone := by
  simp [ChunkEnv.spellings, parsed]

theorem screenNumber_parsed {phone : String} {info : PhoneInfo}
    (passes : screenNumber env context (normalizePhone env.unicode phone) = .ok info) :
    validatePhoneNumber env (normalizePhone env.unicode phone) = .ok info := by
  unfold screenNumber at passes
  split at passes
  · cases passes
  · rename_i other parsed
    split at passes
    · cases passes
    · split at passes
      · rw [parsed, Except.ok.inj passes]
      · cases passes

theorem screenNumber_spelled {phone : String} {failure : Prefailed}
    (fails : screenNumber env context (normalizePhone env.unicode phone) = .error failure) :
    truncate 20 failure.phone ∈ env.spellings phone := by
  unfold screenNumber at fails
  split at fails
  · obtain rfl := Except.error.inj fails
    exact normal_mem_spellings phone
  · rename_i info parsed
    split at fails
    · obtain rfl := Except.error.inj fails
      exact (parsed_mem_spellings parsed).2
    · split at fails
      · cases fails
      · obtain rfl := Except.error.inj fails
        exact (parsed_mem_spellings parsed).2

theorem checkNumber_spelled {index : ℕ} {phone : String} {failure : Prefailed}
    (fails : checkNumber env input context index (normalizePhone env.unicode phone) =
      .error failure) : truncate 20 failure.phone ∈ env.spellings phone := by
  unfold checkNumber at fails
  cases screened : screenNumber env context (normalizePhone env.unicode phone) with
  | error other =>
      rw [screened] at fails
      obtain rfl := Except.error.inj fails
      exact screenNumber_spelled screened
  | ok info =>
      have parsed := parsed_mem_spellings (screenNumber_parsed screened)
      rw [screened] at fails
      dsimp only at fails
      split at fails
      · obtain rfl := Except.error.inj fails
        exact normal_mem_spellings phone
      · obtain rfl := Except.error.inj fails
        exact parsed.2
      · split at fails
        · split at fails
          · obtain rfl := Except.error.inj fails
            exact parsed.2
          · cases fails
        · cases fails

theorem checkVirtual_spelled {channel : Channel} {index : ℕ} {phone : String}
    {failure : Prefailed}
    (fails : checkVirtual env input context channel index (normalizePhone env.unicode phone) =
      .error failure) : truncate 20 failure.phone ∈ env.spellings phone := by
  unfold checkVirtual at fails
  cases screened : screenNumber env context (normalizePhone env.unicode phone) with
  | error other =>
      rw [screened] at fails
      obtain rfl := Except.error.inj fails
      exact screenNumber_spelled screened
  | ok info =>
      rw [screened] at fails
      cases fails

theorem checkNumber_e164 {index : ℕ} {phone : String} {item : ValidItem}
    (passes : checkNumber env input context index (normalizePhone env.unicode phone) =
      .ok item) : item.phoneInfo.e164Format ∈ env.spellings phone := by
  unfold checkNumber at passes
  cases screened : screenNumber env context (normalizePhone env.unicode phone) with
  | error other =>
      rw [screened] at passes
      cases passes
  | ok info =>
      have parsed := parsed_mem_spellings (screenNumber_parsed screened)
      rw [screened] at passes
      dsimp only at passes
      split at passes
      · cases passes
      · cases passes
      · split at passes
        · split at passes
          · cases passes
          · cases passes
            exact parsed.1
        · cases passes
          exact parsed.1

theorem checkVirtual_e164 {channel : Channel} {index : ℕ} {phone : String} {item : ValidItem}
    (passes : checkVirtual env input context channel index (normalizePhone env.unicode phone) =
      .ok item) : item.phoneInfo.e164Format ∈ env.spellings phone := by
  unfold checkVirtual at passes
  cases screened : screenNumber env context (normalizePhone env.unicode phone) with
  | error other =>
      rw [screened] at passes
      cases passes
  | ok info =>
      rw [screened] at passes
      cases passes
      exact (parsed_mem_spellings (screenNumber_parsed screened)).1

theorem check_e164 {index : ℕ} {phone : String} {item : ValidItem}
    (passes : input.check env faults db index phone = .ok item) :
    item.phoneInfo.e164Format ∈ env.spellings phone := by
  unfold ChunkInput.check at passes
  split at passes
  · exact checkVirtual_e164 passes
  · exact checkNumber_e164 passes

theorem precheck_finds {phones : List String} {index : ℕ} {checked : Prechecked}
    (found : precheck env faults input context index phones = .ok checked) :
    Finds env context.alreadyDone (fun index phone =>
      checkNumber env input context index (normalizePhone env.unicode phone))
        (phones.zipIdx index) checked := by
  induction phones generalizing index checked with
  | nil =>
      cases found
      exact .empty
  | cons phone phones ih =>
      rw [precheck] at found
      by_cases done : phone ∈ context.alreadyDone
      · rw [if_pos done] at found
        cases others : precheck env faults input context (index + 1) phones with
        | error raised => simp [others, Except.map] at found
        | ok rest =>
            rw [others] at found
            cases found
            exact (ih others).skip
      · rw [if_neg done] at found
        cases others : precheck env faults input context (index + 1) phones with
        | error raised =>
            cases one : precheckNumber env faults input context index phone <;>
              simp [one, others, Except.map, Except.bind] at found
        | ok rest =>
            have finds := ih others
            cases one : precheckNumber env faults input context index phone with
            | error raised => simp [one, Except.bind] at found
            | ok result =>
                simp only [one, others, Except.bind, Except.map, Except.ok.injEq] at found
                subst found
                unfold precheckNumber at one
                split at one
                · obtain rfl := Except.ok.inj one
                  cases checks : checkNumber env input context index
                      (normalizePhone env.unicode phone) with
                  | error failure => exact finds.fail done (checkNumber_spelled checks)
                  | ok item => exact finds.pass done checks
                · split at one
                  · obtain rfl := Except.ok.inj one
                    exact finds.fail done (normal_mem_spellings phone)
                  · cases one

theorem precheckVirtual_found {channel : Channel} {phones : List String} {index : ℕ}
    {checked : Prechecked}
    (found : precheckVirtual env faults input context channel index phones = .ok checked) :
    checked = checkEntries context.alreadyDone (fun index phone =>
      checkVirtual env input context channel index (normalizePhone env.unicode phone))
        index phones := by
  induction phones generalizing index checked with
  | nil =>
      cases found
      rfl
  | cons phone phones ih =>
      rw [precheckVirtual] at found
      rw [checkEntries]
      cases others : precheckVirtual env faults input context channel (index + 1) phones with
      | error raised =>
          split at found
          · simp [others, Except.map] at found
          · split at found <;> simp [others, Except.map] at found
      | ok rest =>
          rw [← ih others]
          split at found
          · rw [others] at found
            rw [if_pos ‹_›]
            exact (Except.ok.inj found).symm
          · split at found
            · cases found
            · rw [others] at found
              rw [if_neg ‹_›]
              exact (Except.ok.inj found).symm

theorem checkEntries_finds (alreadyDone : List String)
    {check : ℕ → String → Except Prefailed ValidItem}
    (spelled : ∀ index phone failure, check index phone = .error failure →
      truncate 20 failure.phone ∈ env.spellings phone) (phones : List String) (index : ℕ) :
    Finds env alreadyDone check (phones.zipIdx index)
      (checkEntries alreadyDone check index phones) := by
  induction phones generalizing index with
  | nil => exact .empty
  | cons phone phones ih =>
      rw [checkEntries]
      split
      · exact (ih _).skip
      · cases result : check index phone with
        | error failure => exact (ih _).fail ‹_› (spelled index phone failure result)
        | ok item => exact (ih _).pass ‹_› result

end

section

variable {env : ChunkEnv} {faults : Faults} {input : ChunkInput} {db after : Db}

def ChunkInput.NewSpelling (env : ChunkEnv) (input : ChunkInput) (db : Db) (spelling : String) :
    Prop :=
  ∃ phone ∈ input.phoneNumbers, ¬input.HasRow env db phone ∧ spelling ∈ env.spellings phone

theorem spellings_congr {one two : String}
    (same : normalizePhone env.unicode one = normalizePhone env.unicode two) :
    env.spellings one = env.spellings two := by
  unfold ChunkEnv.spellings
  rw [same]

theorem idempotent_of_adds (distinct : input.Distinct env)
    (adds : Adds db (input.NewSpelling env db) (input.PriceOfNew env faults db) after) :
    input.Idempotent env faults db after where
  rows := by
    rcases adds.phones with ⟨phones, whole, ok⟩
    intro phone member hasRow row isNew spelled
    have inPhones : row.phoneNumber ∈ phones := by
      have isPhone := List.mem_map_of_mem isNew (f := SmsLog.phoneNumber)
      rwa [List.map_drop, whole, List.drop_left' (by simp)] at isPhone
    rcases ok _ inPhones with ⟨other, isOther, noRow, otherSpelled⟩
    by_cases same : normalizePhone env.unicode phone = normalizePhone env.unicode other
    · apply noRow
      rw [ChunkInput.HasRow, ← spellings_congr same]
      exact hasRow
    · exact distinct phone member other isOther same _ spelled otherSpelled
  charges := by
    rcases adds.charges with ⟨logs, whole, ok⟩
    intro log isNew
    rw [whole, List.drop_left' rfl] at isNew
    exact ok log isNew

theorem notStored_of_new {phone : String} (member : phone ∈ input.phoneNumbers)
    (new : phone ∉ (checkContext env faults input db).alreadyDone) :
    ¬input.IsStored db phone := by
  intro stored
  apply new
  simp only [checkContext, List.mem_filter, decide_eq_true_eq]
  exact ⟨stored, member⟩

theorem eq_ok_of_toOption {Error Value : Type} {result : Except Error Value} {value : Value}
    (isSome : result.toOption = some value) : result = .ok value := by
  cases result with
  | error error => cases isSome
  | ok other =>
      cases isSome
      rfl

theorem items_new {alreadyDone : List String} {checked : Prechecked}
    (finds : Finds env alreadyDone (input.check env faults db) input.phoneNumbers.zipIdx checked)
    (new : ∀ entry ∈ input.phoneNumbers.zipIdx, entry.1 ∉ alreadyDone →
      (input.check env faults db entry.2 entry.1).isOk = true → ¬input.HasRow env db entry.1) :
    ItemsOk (input.NewSpelling env db) checked.valid ∧
      input.PriceOfNew env faults db (totalSell env input checked.valid) ∧
      ∀ item ∈ checked.valid,
        input.PriceOfNew env faults db (item.sell env input) := by
  rcases finds.valid with ⟨entries, part, ok, valid⟩
  have fresh : ∀ entry ∈ entries, ¬input.HasRow env db entry.1 := fun entry member =>
    new entry (part.subset member) (ok entry member).1 (ok entry member).2
  refine ⟨?_, ⟨entries, part, fresh, ?_⟩, ?_⟩
  · intro item member
    rw [valid] at member
    rcases List.mem_filterMap.mp member with ⟨entry, isEntry, passes⟩
    refine ⟨entry.1, List.fst_mem_of_mem_zipIdx (part.subset isEntry), fresh entry isEntry, ?_⟩
    exact check_e164 (eq_ok_of_toOption passes)
  · rw [valid]
    rfl
  · intro item member
    rw [valid] at member
    rcases List.mem_filterMap.mp member with ⟨entry, isEntry, passes⟩
    refine ⟨[entry], List.singleton_sublist.mpr (part.subset isEntry), ?_, ?_⟩
    · rintro other isOther
      rw [List.mem_singleton.mp isOther]
      exact fresh entry isEntry
    · simp [ChunkInput.itemsOf, passes, totalSell]

theorem check_virtual {channel : Channel} (isVirtual : virtualChannel input db = some channel) :
    input.check env faults db = fun index phone =>
      checkVirtual env input (checkContext env faults input db) channel index
        (normalizePhone env.unicode phone) := by
  funext index phone
  simp [ChunkInput.check, isVirtual]

theorem check_ordinary (notVirtual : virtualChannel input db = none) :
    input.check env faults db = fun index phone =>
      checkNumber env input (checkContext env faults input db) index
        (normalizePhone env.unicode phone) := by
  funext index phone
  simp [ChunkInput.check, notVirtual]

theorem checkVirtual_isOk {context : CheckContext} {channel : Channel} {index : ℕ}
    {phone : String} : (checkVirtual env input context channel index phone).isOk =
      (screenNumber env context phone).isOk := by
  unfold checkVirtual
  cases screenNumber env context phone <;> rfl

theorem ordinary_new (notVirtual : virtualChannel input db = none)
    (running : input.isStopped db = false) (recognized : input.Recognized env faults db)
    {checked : Prechecked}
    (found : precheck env faults input (checkContext env faults input db) 0 input.phoneNumbers =
      .ok checked) :
    (∀ failure ∈ checked.prefailed, input.NewSpelling env db (truncate 20 failure.phone)) ∧
      ItemsOk (input.NewSpelling env db) checked.valid ∧
        FeesOk (input.PriceOfNew env faults db) env input checked.valid ∧
          input.PriceOfNew env faults db (totalSell env input checked.valid) := by
  have fresh : ∀ phone ∈ input.phoneNumbers,
      phone ∉ (checkContext env faults input db).alreadyDone → ¬input.HasRow env db phone := by
    intro phone member new hasRow
    rcases recognized with stopped | each
    · rw [running] at stopped
      cases stopped
    · rcases each phone member hasRow with stored | withheld
      · exact notStored_of_new member new stored
      · simp [ChunkInput.Withheld, notVirtual] at withheld
  have finds := precheck_finds found
  rw [← check_ordinary notVirtual] at finds
  have new := items_new finds fun entry member notDone _ =>
    fresh entry.1 (List.fst_mem_of_mem_zipIdx member) notDone
  refine ⟨?_, new.1, ?_, new.2.1⟩
  · intro failure member
    rcases finds.prefailed failure member with ⟨entry, isEntry, notDone, spelled⟩
    have isPhone := List.fst_mem_of_mem_zipIdx isEntry
    exact ⟨entry.1, isPhone, fresh entry.1 isPhone notDone, spelled⟩
  · intro item member
    have units : item.msgCount = item.billableUnits env := by
      rcases finds.valid with ⟨entries, part, ok, valid⟩
      rw [valid] at member
      rcases List.mem_filterMap.mp member with ⟨entry, isEntry, passes⟩
      have passes := eq_ok_of_toOption passes
      rw [check_ordinary notVirtual] at passes
      exact msgCount_of_checkNumber passes
    rw [← units]
    exact new.2.2 item member

theorem virtual_new {channel : Channel} (isVirtual : virtualChannel input db = some channel)
    (running : input.isStopped db = false) (recognized : input.Recognized env faults db)
    {checked : Prechecked}
    (found : precheckVirtual env faults input (checkContext env faults input db) channel 0
      input.phoneNumbers = .ok checked)
    (affords : (checkContext env faults input db).affords env input checked.valid = true) :
    ItemsOk (input.NewSpelling env db) checked.valid ∧
      input.PriceOfNew env faults db (totalSell env input checked.valid) := by
  have isChecked := precheckVirtual_found found
  rw [← check_virtual isVirtual] at isChecked
  subst isChecked
  have spelled : ∀ index phone failure, input.check env faults db index phone = .error failure →
      truncate 20 failure.phone ∈ env.spellings phone := by
    intro index phone failure fails
    rw [check_virtual isVirtual] at fails
    exact checkVirtual_spelled fails
  have finds := checkEntries_finds (checkContext env faults input db).alreadyDone spelled
    input.phoneNumbers 0
  have new := items_new finds fun entry member notDone passes hasRow => by
    have isPhone := List.fst_mem_of_mem_zipIdx member
    rw [check_virtual isVirtual, checkVirtual_isOk] at passes
    rcases recognized with stopped | each
    · rw [running] at stopped
      cases stopped
    · rcases each entry.1 isPhone hasRow with stored | ⟨_, fails | poor⟩
      · exact notStored_of_new isPhone notDone stored
      · rw [passes] at fails
        cases fails
      · rw [affords] at poor
        cases poor
  exact ⟨new.1, new.2.1⟩

theorem idempotent_of_recognized (distinct : input.Distinct env)
    (recognized : input.Recognized env faults db) :
    input.Idempotent env faults db (chunkTables env faults input db) := by
  have writes := Adds.keptByWrites db (input.NewSpelling env db) (input.PriceOfNew env faults db)
  refine idempotent_of_adds distinct (writes.chunkTables_kept (.refl ..) ?_ ?_)
  · intro channel isVirtual running
    exact writes.virtualPath_kept (.refl ..) rfl fun checked found affords =>
      virtual_new isVirtual running recognized found affords
  · intro batchStatus notVirtual running
    exact writes.ordinaryPath_kept fun checked found =>
      ordinary_new notVirtual running recognized found

end

def Prechecked.Has (checked : Prechecked) (result : Except Prefailed ValidItem) : Prop :=
  match result with
  | .error failure => failure ∈ checked.prefailed
  | .ok item => item ∈ checked.valid

theorem Prechecked.has_add (checked : Prechecked) (result : Except Prefailed ValidItem) :
    (checked.add result).Has result := by
  cases result with
  | error failure => exact List.mem_cons_self
  | ok item => exact List.mem_cons_self

theorem Prechecked.Has.add {checked : Prechecked} {result : Except Prefailed ValidItem}
    (has : checked.Has result) (other : Except Prefailed ValidItem) :
    (checked.add other).Has result := by
  cases result with
  | error failure =>
      cases other with
      | error other => exact List.mem_cons_of_mem _ has
      | ok other => exact has
  | ok item =>
      cases other with
      | error other => exact has
      | ok other => exact List.mem_cons_of_mem _ has

section

variable {env : ChunkEnv} {input : ChunkInput} {db : Db} {context : CheckContext}

theorem mem_checkEntries {alreadyDone : List String}
    {check : ℕ → String → Except Prefailed ValidItem} {phones : List String} {phone : String}
    (member : phone ∈ phones) (new : phone ∉ alreadyDone) (index : ℕ) :
    ∃ place, (checkEntries alreadyDone check index phones).Has (check place phone) := by
  induction phones generalizing index with
  | nil => cases member
  | cons head phones ih =>
      rw [checkEntries]
      by_cases here : phone = head
      · subst head
        rw [if_neg new]
        exact ⟨index, Prechecked.has_add _ _⟩
      · rcases ih ((List.mem_cons.mp member).resolve_left here) (index + 1) with ⟨place, later⟩
        refine ⟨place, ?_⟩
        split
        · exact later
        · exact later.add _

theorem writePlan_stores {items : List ValidItem} {item : ValidItem} (member : item ∈ items) :
    ∃ row ∈ (writePlan env input items).rows, row.phoneNumber = item.phoneInfo.e164Format := by
  have inSlices : item ∈ (slices dbLogChunk items).flatten := by
    rwa [flatten_slices (by decide)]
  rcases List.mem_flatten.mp inSlices with ⟨slice, isSlice, inSlice⟩
  rcases List.getElem_of_mem isSlice with ⟨number, bound, rfl⟩
  rcases List.getElem_of_mem inSlice with ⟨index, inside, rfl⟩
  refine ⟨_, List.mem_flatMap.mpr ⟨_, List.mk_mem_zipIdx_iff_getElem?.mpr
    (List.getElem?_eq_getElem bound), List.mem_map_of_mem (List.mem_mapIdx.mpr
      ⟨index, inside, rfl⟩)⟩, rfl⟩

theorem chargedItems_eq (account : Account) (items : List ValidItem) :
    (chargedItems env input account items).map Prod.fst =
      items.take (chargedItems env input account items).length := by
  induction items generalizing account with
  | nil => rfl
  | cons item items ih =>
      rw [chargedItems]
      cases item.fee env input account with
      | none => rfl
      | some total =>
          rw [List.map_cons, List.length_cons, List.take_succ_cons, ih]

theorem fallbackRows_stores (account : Account) {items : List ValidItem} {item : ValidItem}
    (member : item ∈ items) :
    ∃ row ∈ fallbackRows env input account items,
      row.phoneNumber = item.phoneInfo.e164Format := by
  rw [← List.take_append_drop (chargedItems env input account items).length items,
    ← chargedItems_eq] at member
  rcases List.mem_append.mp member with charged | left
  · rcases List.mem_map.mp charged with ⟨entry, isEntry, rfl⟩
    rcases List.getElem_of_mem isEntry with ⟨index, bound, rfl⟩
    exact ⟨_, List.mem_append_left _ (List.mem_map_of_mem
      (List.mk_mem_zipIdx_iff_getElem?.mpr (List.getElem?_eq_getElem bound))), rfl⟩
  · rcases List.getElem_of_mem left with ⟨index, bound, rfl⟩
    exact ⟨_, List.mem_append_right _ (List.mem_map_of_mem
      (List.mem_mapIdx.mpr ⟨index, bound, rfl⟩)), rfl⟩

theorem sendPlan_stores (present : context.account.isSome = true) {items : List ValidItem}
    {item : ValidItem} (member : item ∈ items) :
    ∃ row ∈ (sendPlan env input context items).rows,
      row.phoneNumber = item.phoneInfo.e164Format := by
  rw [sendPlan, if_neg (List.ne_nil_of_mem member)]
  split
  · exact writePlan_stores member
  · rcases Option.isSome_iff_exists.mp present with ⟨account, isAccount⟩
    rw [isAccount]
    exact fallbackRows_stores account member

theorem chunkChecked_eq_check (env : ChunkEnv) (input : ChunkInput) (db : Db) :
    chunkChecked env input db =
      checkEntries (checkContext env .never input db).alreadyDone (input.check env .never db) 0
        input.phoneNumbers := by
  rw [chunkChecked_eq]
  rfl

theorem chunkPlan_stores (running : input.isStopped db = false)
    (present : (db.accounts input.accountId).isSome = true) {phone : String}
    (member : phone ∈ input.phoneNumbers) (notStored : ¬input.IsStored db phone)
    (notWithheld : ¬input.Withheld env .never db phone) :
    ∃ row ∈ (chunkPlan env input db).rows, row.phoneNumber ∈ env.spellings phone := by
  have new : phone ∉ (checkContext env .never input db).alreadyDone := by
    intro done
    simp only [checkContext, List.mem_filter] at done
    exact notStored done.1
  have found := @mem_checkEntries _ (input.check env .never db) _ _ member new 0
  rw [← chunkChecked_eq_check] at found
  rcases found with ⟨place, found⟩
  simp only [chunkPlan, running, Bool.false_eq_true, if_false]
  cases isVirtual : virtualChannel input db with
  | some channel =>
      simp only [ChunkInput.Withheld, isVirtual, Option.isSome_some, true_and, not_or,
        Bool.not_eq_false] at notWithheld
      rw [← chunkChecked_eq_check] at notWithheld
      rw [Option.isSome_some, if_pos rfl, virtualPlan, if_pos notWithheld.2]
      cases result : input.check env .never db place phone with
      | error failure =>
          have fails := checkVirtual_isOk.symm.trans (congrArg Except.isOk
            ((congrFun (congrFun (check_virtual isVirtual) place) phone).symm.trans result))
          rw [notWithheld.1] at fails
          cases fails
      | ok item =>
          rw [result] at found
          rcases List.getElem_of_mem found with ⟨index, bound, isItem⟩
          refine ⟨_, List.mem_map_of_mem (List.mem_mapIdx.mpr ⟨index, bound, rfl⟩), ?_⟩
          have spelled := check_e164 result
          rw [← isItem] at spelled
          exact spelled
  | none =>
      simp only [Option.isSome_none, Bool.false_eq_true, if_false, ordinaryPlan]
      cases result : input.check env .never db place phone with
      | error failure =>
          rw [result] at found
          rcases List.getElem_of_mem found with ⟨index, bound, isFailure⟩
          refine ⟨_, List.mem_append_left _ (List.mem_map_of_mem
            (List.mem_mapIdx.mpr ⟨index, bound, rfl⟩)), ?_⟩
          rw [check_ordinary isVirtual] at result
          have spelled := checkNumber_spelled result
          rw [← isFailure] at spelled
          exact spelled
      | ok item =>
          rw [result] at found
          have isPresent : (checkContext env .never input db).account.isSome = true := present
          rcases sendPlan_stores isPresent found with ⟨row, isRow, same⟩
          refine ⟨row, List.mem_append_right _ isRow, ?_⟩
          rw [same]
          exact check_e164 result

theorem recognized_of_idempotent (keyed : (db.smsLogs.map SmsLog.id).Nodup)
    (present : (db.accounts input.accountId).isSome = true)
    (idempotent : input.Idempotent env .never db (chunkTables env .never input db)) :
    input.Recognized env .never db := by
  cases stopped : input.isStopped db with
  | true => exact .inl stopped
  | false =>
      refine .inr fun phone member hasRow => ?_
      by_contra unknown
      rw [not_or] at unknown
      rcases chunkPlan_stores stopped present member unknown.1 unknown.2 with
        ⟨row, isRow, spelled⟩
      rcases runChunk_never env input db with ⟨result, after, returned⟩
      have tables : chunkTables env .never input db = after.committed := by
        have ends : doProcessChunk env .never input (ChunkState.start db) = .ok result after :=
          returned
        rw [chunkTables, finalState, ends]
      have rows := (runChunk_follows keyed returned).1
      have new : row ∈ (after.committed.smsLogs.drop db.smsLogs.length).map SmsLog.core := by
        rw [List.map_drop, rows, List.drop_left' (by simp)]
        exact isRow
      rcases List.mem_map.mp new with ⟨log, isLog, rfl⟩
      rw [tables] at idempotent
      exact idempotent.rows phone member hasRow log isLog spelled

end

def spacedChunk : ChunkInput :=
  .plain ["+86 138 0013 8000"] none

def spacedTables : Db :=
  chunkTables (.plain (.plain .smpp) 100) .never spacedChunk (.plain 1000 (.plain .smpp) [])

end Klsmsc
