import Klsmsc.Chunk.Plan
import Klsmsc.CsvBatch

/-!
# Numbers that are accounted for

A chunk accounts for its entries when every entry that is not in the batch yet gets a row. The
ordinary path stores a row for every entry, whatever becomes of it, unless the account is
missing. The virtual path stores rows only for entries that pass the checks, and for none of
them when the account cannot pay for all. A CSV file whose loop ends normally gets no rows.
-/

namespace Klsmsc

open Library

def checkEntries (alreadyDone : List String)
    (check : ℕ → String → Except Prefailed ValidItem) : ℕ → List String → Prechecked
  | _, [] => .empty
  | index, phone :: phones =>
      if phone ∈ alreadyDone then (checkEntries alreadyDone check (index + 1) phones).skip
      else (checkEntries alreadyDone check (index + 1) phones).add (check index phone)

def ChunkInput.present (input : ChunkInput) (db : Db) : List String :=
  input.phoneNumbers.filter fun phone =>
    phone ∈ (db.batchLogs input.batchId).map SmsLog.phoneNumber

def ChunkInput.Accounted (input : ChunkInput) (before after : Db) : Prop :=
  ((after.smsLogs.drop before.smsLogs.length).filter fun row =>
      row.batchId = some input.batchId).length + (input.present before).length =
    input.phoneNumbers.length

/-- On the virtual path all entries that are not present pass the checks, and the account can pay
for them. On the ordinary path the account can pay, or is there, or the first entry that passes
the checks has no price. -/
def ChunkInput.Covers (input : ChunkInput) (env : ChunkEnv) (db : Db) : Prop :=
  let context := checkContext env .never input db
  let items := (chunkChecked env input db).valid
  if (virtualChannel input db).isSome then
    (∀ phone ∈ input.phoneNumbers, phone ∉ context.alreadyDone →
      (screenNumber env context (normalizePhone env.unicode phone)).isOk = true) ∧
        context.affords env input items = true
  else
    context.affords env input items = true ∨ context.account.isSome = true ∨
      items.head?.any (ValidItem.isPriced env input) = false

section

variable {env : ChunkEnv} {input : ChunkInput} {context : CheckContext} {db : Db}

theorem precheck_eq_checkEntries (phones : List String) (index : ℕ) :
    precheck env .never input context index phones =
      .ok (checkEntries context.alreadyDone (fun index phone =>
        checkNumber env input context index (normalizePhone env.unicode phone)) index phones) := by
  induction phones generalizing index with
  | nil => rfl
  | cons phone phones ih =>
      rw [precheck, checkEntries, ih]
      split
      · rfl
      · rfl

theorem precheckVirtual_eq_checkEntries (channel : Channel) (phones : List String) (index : ℕ) :
    precheckVirtual env .never input context channel index phones =
      .ok (checkEntries context.alreadyDone (fun index phone =>
        checkVirtual env input context channel index (normalizePhone env.unicode phone))
          index phones) := by
  induction phones generalizing index with
  | nil => rfl
  | cons phone phones ih =>
      rw [precheckVirtual, checkEntries, ih]
      split
      · rfl
      · rfl

theorem checkEntries_length (alreadyDone : List String)
    (check : ℕ → String → Except Prefailed ValidItem) (phones : List String) (index : ℕ) :
    (checkEntries alreadyDone check index phones).prefailed.length +
        (checkEntries alreadyDone check index phones).valid.length +
          (phones.filter fun phone => phone ∈ alreadyDone).length = phones.length := by
  induction phones generalizing index with
  | nil => rfl
  | cons phone phones ih =>
      have others := ih (index + 1)
      simp only [checkEntries]
      by_cases done : phone ∈ alreadyDone
      · simp only [Prechecked.skip, List.filter_cons, decide_true, if_true,
          List.length_cons, done]
        omega
      · simp only [List.filter_cons, decide_false, done, Bool.false_eq_true, if_false,
          List.length_cons]
        cases check index phone with
        | error failure =>
            simp only [Prechecked.add, List.length_cons]
            omega
        | ok item =>
            simp only [Prechecked.add, List.length_cons]
            omega

theorem checkEntries_prefailed_nil_iff (alreadyDone : List String)
    (check : ℕ → String → Except Prefailed ValidItem) (passes : String → Bool)
    (agree : ∀ index phone, (check index phone).isOk = passes phone) (phones : List String)
    (index : ℕ) :
    (checkEntries alreadyDone check index phones).prefailed = [] ↔
      ∀ phone ∈ phones, phone ∉ alreadyDone → passes phone = true := by
  induction phones generalizing index with
  | nil => simp [checkEntries, Prechecked.empty]
  | cons phone phones ih =>
      rw [List.forall_mem_cons, ← ih (index + 1), checkEntries]
      by_cases done : phone ∈ alreadyDone
      · simp [done, Prechecked.skip]
      · rw [if_neg done, ← agree index phone]
        cases check index phone with
        | error failure => simp [done, Prechecked.add, Except.isOk, Except.toBool]
        | ok item => simp [Prechecked.add, Except.isOk, Except.toBool]

theorem chunkChecked_eq (env : ChunkEnv) (input : ChunkInput) (db : Db) :
    chunkChecked env input db =
      checkEntries (checkContext env .never input db).alreadyDone
        (fun index phone =>
          match virtualChannel input db with
          | some channel =>
              checkVirtual env input (checkContext env .never input db) channel index
                (normalizePhone env.unicode phone)
          | none =>
              checkNumber env input (checkContext env .never input db) index
                (normalizePhone env.unicode phone)) 0 input.phoneNumbers := by
  unfold chunkChecked
  cases virtualChannel input db with
  | some channel =>
      dsimp only
      rw [precheckVirtual_eq_checkEntries, checkedOf]
  | none =>
      dsimp only
      rw [precheck_eq_checkEntries, checkedOf]

theorem filter_alreadyDone (env : ChunkEnv) (input : ChunkInput) (db : Db) :
    (input.phoneNumbers.filter fun phone =>
      phone ∈ (checkContext env .never input db).alreadyDone) = input.present db := by
  apply List.filter_congr
  intro phone member
  simp [checkContext, member]

theorem chunkChecked_length (env : ChunkEnv) (input : ChunkInput) (db : Db) :
    (chunkChecked env input db).prefailed.length + (chunkChecked env input db).valid.length +
      (input.present db).length = input.phoneNumbers.length := by
  rw [chunkChecked_eq, ← filter_alreadyDone env input db]
  exact checkEntries_length _ _ _ _

theorem length_flatMap_slices (items : List ValidItem) :
    ((slices dbLogChunk items).zipIdx.flatMap (sliceRows env input)).length = items.length := by
  have each : ∀ part : List ValidItem × ℕ, (sliceRows env input part).length = part.1.length := by
    intro part
    simp [sliceRows, attemptRows]
  have lengths : ((slices dbLogChunk items).zipIdx.map fun part => part.1.length) =
      (slices dbLogChunk items).map List.length := by
    calc
      _ = ((slices dbLogChunk items).zipIdx.map Prod.fst).map List.length := by
        rw [List.map_map]
        rfl
      _ = _ := by rw [List.zipIdx_map_fst]
  rw [List.length_flatMap]
  simp only [each]
  rw [lengths, ← List.length_flatten, flatten_slices (by decide)]

theorem chargedItems_length (account : Account) (items : List ValidItem) :
    (chargedItems env input account items).length ≤ items.length := by
  induction items generalizing account with
  | nil => rfl
  | cons item items ih =>
      rw [chargedItems]
      cases item.fee env input account with
      | none => exact Nat.zero_le _
      | some total =>
          have fewer := ih (account.charge total)
          simp only [List.length_cons]
          omega

theorem fallbackRows_length (account : Account) (items : List ValidItem) :
    (fallbackRows env input account items).length = items.length := by
  have fewer := @chargedItems_length env input account items
  simp only [fallbackRows, List.length_append, List.length_map, List.length_zipIdx,
    List.length_mapIdx, List.length_drop]
  omega

theorem unownedRows_length_iff (items : List ValidItem) :
    (unownedRows env input items).length = items.length ↔
      items.head?.any (ValidItem.isPriced env input) = false := by
  simp only [unownedRows, unowned, List.length_map, List.length_mapIdx]
  cases items with
  | nil => simp
  | cons item items =>
      cases priced : item.isPriced env input with
      | false => simp [priced]
      | true =>
          have shorter : (items.dropWhile (ValidItem.isPriced env input)).length ≤ items.length :=
            (List.dropWhile_sublist _).length_le
          simp only [List.dropWhile_cons, priced, if_true, List.length_cons, List.head?_cons,
            Option.any_some, Bool.true_eq_false, iff_false]
          omega

theorem sendPlan_length_iff (items : List ValidItem) :
    (sendPlan env input context items).rows.length = items.length ↔
      context.affords env input items = true ∨ context.account.isSome = true ∨
        items.head?.any (ValidItem.isPriced env input) = false := by
  unfold sendPlan
  by_cases none : items = []
  · simp [none, Plan.empty]
  · rw [if_neg none]
    by_cases affords : context.affords env input items = true
    · simp only [affords, if_true, writePlan, length_flatMap_slices, true_or]
    · rw [if_neg affords]
      cases context.account with
      | some account => simp [fallbackPlan, fallbackRows_length]
      | none => simp [fallbackPlan, affords, unownedRows_length_iff]

def Plan.InBatch (plan : Plan) (batchId : ℕ) : Prop :=
  ∀ row ∈ plan.rows, row.batchId = some batchId

theorem exhausted_inBatch {items : List ValidItem} {row : LogCore}
    (member : row ∈ (items.mapIdx fun index item =>
      item.exhaustedSmsLog env input index).map SmsLog.core) :
    row.batchId = some input.batchId := by
  rcases List.mem_map.mp member with ⟨log, isLog, rfl⟩
  rcases List.mem_mapIdx.mp isLog with ⟨index, inside, rfl⟩
  rfl

theorem sendPlan_inBatch (items : List ValidItem) :
    (sendPlan env input context items).InBatch input.batchId := by
  intro row member
  unfold sendPlan at member
  split at member
  · simp [Plan.empty] at member
  · split at member
    · rcases List.mem_flatMap.mp member with ⟨part, isPart, inPart⟩
      rcases List.mem_map.mp inPart with ⟨log, isLog, rfl⟩
      rcases List.mem_mapIdx.mp isLog with ⟨index, inside, rfl⟩
      rfl
    · cases known : context.account with
      | none =>
          rw [known] at member
          exact exhausted_inBatch member
      | some account =>
          rw [known] at member
          rcases List.mem_append.mp member with charged | left
          · rcases List.mem_map.mp charged with ⟨entry, isEntry, rfl⟩
            rfl
          · exact exhausted_inBatch left

theorem chunkPlan_inBatch (env : ChunkEnv) (input : ChunkInput) (db : Db) :
    (chunkPlan env input db).InBatch input.batchId := by
  intro row member
  unfold chunkPlan at member
  split at member
  · simp [Plan.empty] at member
  · split at member
    · simp only [virtualPlan] at member
      split at member
      · rcases List.mem_map.mp member with ⟨log, isLog, rfl⟩
        rcases List.mem_mapIdx.mp isLog with ⟨index, inside, rfl⟩
        rfl
      · simp [Plan.empty] at member
    · rcases List.mem_append.mp member with failed | sent
      · rcases List.mem_map.mp failed with ⟨log, isLog, rfl⟩
        rcases List.mem_mapIdx.mp isLog with ⟨index, inside, rfl⟩
        rfl
      · exact sendPlan_inBatch _ row sent

theorem virtualPlan_length_iff {checked : Prechecked} :
    (virtualPlan env input context checked).rows.length =
        checked.prefailed.length + checked.valid.length ↔
      checked.prefailed = [] ∧ context.affords env input checked.valid = true := by
  unfold virtualPlan
  by_cases affords : context.affords env input checked.valid = true
  · simp [affords]
  · have costly : checked.valid ≠ [] := by
      intro none
      apply affords
      simp [CheckContext.affords, none, totalSell]
    have long := List.length_pos_iff.mpr costly
    simp only [affords, Bool.false_eq_true, if_false, Plan.empty, List.length_nil, and_false, iff_false]
    omega

theorem chunkPlan_length_iff (running : input.isStopped db = false) :
    (chunkPlan env input db).rows.length + (input.present db).length =
        input.phoneNumbers.length ↔ input.Covers env db := by
  have total := chunkChecked_length env input db
  have screened : ∀ channel, virtualChannel input db = some channel →
      ((chunkChecked env input db).prefailed = [] ↔
        ∀ phone ∈ input.phoneNumbers, phone ∉ (checkContext env .never input db).alreadyDone →
          (screenNumber env (checkContext env .never input db)
            (normalizePhone env.unicode phone)).isOk = true) := by
    intro channel isVirtual
    rw [chunkChecked_eq, isVirtual]
    apply checkEntries_prefailed_nil_iff
    intro index phone
    unfold checkVirtual
    cases screenNumber env (checkContext env .never input db)
      (normalizePhone env.unicode phone) <;> rfl
  unfold chunkPlan ChunkInput.Covers
  simp only [running, Bool.false_eq_true, if_false]
  cases isVirtual : virtualChannel input db with
  | some channel =>
      simp only [Option.isSome_some, if_true]
      rw [← screened channel isVirtual, ← virtualPlan_length_iff]
      omega
  | none =>
      simp only [Option.isSome_none, Bool.false_eq_true, if_false]
      rw [← sendPlan_length_iff]
      simp only [ordinaryPlan, List.length_append, List.length_map, List.length_mapIdx]
      omega

theorem chunk_accounted_iff (keyed : (db.smsLogs.map SmsLog.id).Nodup)
    (running : input.isStopped db = false) {result : ChunkResult} {after : ChunkState}
    (returned : runChunk env .never input db = .ok result after) :
    input.Accounted db after.committed ↔ input.Covers env db := by
  rcases runChunk_follows keyed returned with ⟨rows, _⟩
  have new : (after.committed.smsLogs.drop db.smsLogs.length).map SmsLog.core =
      (chunkPlan env input db).rows := by
    rw [List.map_drop, rows, List.drop_left' (by simp)]
  have inBatch : ∀ row ∈ after.committed.smsLogs.drop db.smsLogs.length,
      decide (row.batchId = some input.batchId) = true := by
    intro row member
    have core : row.core ∈ (chunkPlan env input db).rows := new ▸ List.mem_map_of_mem member
    exact decide_eq_true (chunkPlan_inBatch env input db row.core core)
  rw [ChunkInput.Accounted, List.filter_eq_self.mpr inBatch, ← chunkPlan_length_iff running, ← new,
    List.length_map]

end

def CsvState.Accounted (state : CsvState) (env : CsvEnv) (batchId : ℕ) (resume : Bool)
    (file : CsvFile) : Prop :=
  (doProcessBatch env batchId resume state).2.isNormal = true →
    ((doProcessBatch env batchId resume state).1.db.batchLogs batchId).length = file.rows.length

theorem length_batchLogs {first second : Db} (batchId : ℕ)
    (same : first.smsLogs.map SmsLog.batchId = second.smsLogs.map SmsLog.batchId) :
    (first.batchLogs batchId).length = (second.batchLogs batchId).length := by
  have counted : ∀ db : Db, (db.batchLogs batchId).length =
      (db.smsLogs.map SmsLog.batchId).countP fun id => id = some batchId := by
    intro db
    rw [List.countP_map, Db.batchLogs, List.countP_eq_length_filter]
    rfl
  rw [counted, counted, same]

theorem csv_accounted_iff {env : CsvEnv} {batchId : ℕ} {resume : Bool} {state : CsvState}
    {file : CsvFile} {template : Option String} (isFile : state.file env = some file)
    (isTemplate : state.template env = .ok template) :
    state.Accounted env batchId resume file ↔
      state.opens batchId resume = false ∨ file.raised ≠ none ∨
        (∃ row ∈ file.rows, row.isBlank env template = false) ∨
          (state.db.batchLogs batchId).length = file.rows.length := by
  have kept := length_batchLogs batchId (@batchId_doProcessBatch env batchId resume state)
  rw [CsvState.Accounted, doProcessBatch_normal_iff isFile isTemplate, kept]
  constructor
  · intro accounted
    by_cases opens : state.opens batchId resume = true
    · by_cases readable : file.raised = none
      · by_cases blank : ∀ row ∈ file.rows, row.isBlank env template = true
        · exact .inr (.inr (.inr (accounted ⟨opens, readable, blank⟩)))
        · simp only [not_forall, Bool.not_eq_true] at blank
          rcases blank with ⟨row, member, sendable⟩
          exact .inr (.inr (.inl ⟨row, member, sendable⟩))
      · exact .inr (.inl readable)
    · exact .inl (by simpa using opens)
  · rintro (closed | raised | ⟨row, member, sendable⟩ | all) ⟨opens, readable, blank⟩
    · rw [closed] at opens
      cases opens
    · exact absurd readable raised
    · rw [blank row member] at sendable
      cases sendable
    · exact all

/-- Chunks and CSV files account for their numbers exactly under these conditions. -/
theorem numbers_accounted_iff (env : ChunkEnv) (csvEnv : CsvEnv) :
    (∀ (input : ChunkInput) (db : Db) (result : ChunkResult) (after : ChunkState),
      (db.smsLogs.map SmsLog.id).Nodup → input.isStopped db = false →
        runChunk env .never input db = .ok result after →
          (input.Accounted db after.committed ↔ input.Covers env db)) ∧
      ∀ (batchId : ℕ) (resume : Bool) (state : CsvState) (file : CsvFile)
        (template : Option String),
        state.file csvEnv = some file → state.template csvEnv = .ok template →
          (state.Accounted csvEnv batchId resume file ↔
            state.opens batchId resume = false ∨ file.raised ≠ none ∨
              (∃ row ∈ file.rows, row.isBlank csvEnv template = false) ∨
                (state.db.batchLogs batchId).length = file.rows.length) := by
  constructor
  · intro input db result after keyed running returned
    exact chunk_accounted_iff keyed running returned
  · intro batchId resume state file template isFile isTemplate
    exact csv_accounted_iff isFile isTemplate

def virtualChunk (phone : String) : ChunkInput :=
  .plain [phone] (some 1)

def virtualTables : Db :=
  .plain 100 (.plain .virtual) []

def csvNumberOnly : CsvFile :=
  ⟨[⟨[(some "phone", .text "+8613800138000")]⟩], none⟩

def csvPlain : CsvEnv where
  unicode := .ascii
  listText _ := "[]"
  templates _ := none
  files path := if path = "batch.csv" then some csvNumberOnly else none
  now := 0
  expiredReport := "expired"

def csvWaiting : CsvState where
  db := { virtualTables with
    batches := fun id =>
      if id = 1 then some ⟨0, 0, 0, 0, 0, 0, .pending, none, none⟩ else none }
  templateId := none
  filePath := some "batch.csv"
  startedAt := none

/-- An invalid number on the virtual path, and a number without a text in a file, get no row. -/
theorem numbers_not_accounted :
    (∃ result after, runChunk (.plain (.plain .virtual) 1) .never (virtualChunk "abc")
        virtualTables = .ok result after ∧
      (virtualChunk "abc").isStopped virtualTables = false ∧
        ¬(virtualChunk "abc").Accounted virtualTables after.committed) ∧
      csvWaiting.file csvPlain = some csvNumberOnly ∧
        ¬csvWaiting.Accounted csvPlain 1 false csvNumberOnly := by
  constructor
  · have missing : (match runChunk (.plain (.plain .virtual) 1) .never (virtualChunk "abc")
        virtualTables with
      | .ok _ after => decide (after.committed.smsLogs = [])
      | .error _ _ => false) = true := by
      decide
    cases ended : runChunk (.plain (.plain .virtual) 1) .never (virtualChunk "abc")
      virtualTables with
    | error raised after => simp [ended] at missing
    | ok result after =>
        rw [ended] at missing
        refine ⟨result, after, rfl, rfl, ?_⟩
        rw [ChunkInput.Accounted, of_decide_eq_true missing]
        decide
  · refine ⟨rfl, ?_⟩
    intro accounted
    have counted := accounted (by decide)
    rw [length_batchLogs 1 (batchId_doProcessBatch 1 false csvWaiting)] at counted
    revert counted
    decide

/-- A valid number on the virtual path gets its row, and a file whose number has a text ends the
loop. -/
theorem numbers_accounted_iff_plain :
    (∃ result after, runChunk (.plain (.plain .virtual) 1) .never (virtualChunk "+8613800138000")
        virtualTables = .ok result after ∧
      ((virtualChunk "+8613800138000").Accounted virtualTables after.committed ↔
        (virtualChunk "+8613800138000").Covers (.plain (.plain .virtual) 1) virtualTables)) ∧
      (csvWaiting.Accounted csvPlain 1 false csvNumberOnly ↔
        csvWaiting.opens 1 false = false ∨ csvNumberOnly.raised ≠ none ∨
          (∃ row ∈ csvNumberOnly.rows, row.isBlank csvPlain none = false) ∨
            (csvWaiting.db.batchLogs 1).length = csvNumberOnly.rows.length) := by
  constructor
  · have returns : (match runChunk (.plain (.plain .virtual) 1) .never
        (virtualChunk "+8613800138000") virtualTables with
      | .ok _ _ => true
      | .error _ _ => false) = true := by
      decide
    cases ended : runChunk (.plain (.plain .virtual) 1) .never (virtualChunk "+8613800138000")
      virtualTables with
    | error raised after => simp [ended] at returns
    | ok result after =>
        exact ⟨result, after, rfl,
          (numbers_accounted_iff _ csvPlain).1 _ _ _ _ (by decide) rfl ended⟩
  · exact (numbers_accounted_iff (.plain (.plain .virtual) 1) csvPlain).2 1 false csvWaiting
      csvNumberOnly none rfl rfl

end Klsmsc
