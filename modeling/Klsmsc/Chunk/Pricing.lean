import Klsmsc.Chunk.Process

/-!
# Prices of a chunk

The bulk path counts the units of a message when it checks the number and takes
a missing price for zero. Charging a message on its own counts them again by the
channel and raises when there is no price. The two agree on the items that the
checks accept exactly when each of them has a price and, on the virtual fast path,
no RCS channel makes a message of several parts one unit.
-/

namespace Klsmsc

open Library

/-- What `calculate_and_charge` charges for an item, and what it costs; there is nothing
when it raises `PricingNotFoundError`. -/
def ValidItem.singleCharge (env : ChunkEnv) (input : ChunkInput) (item : ValidItem) :
    Option (Money × Money) :=
  (env.getPrice item.channel.id item.phoneInfo.countryCode input.accountId).map fun price =>
    (price.1 * item.billableUnits env,
      env.resolveBaseCostPerSms item.channel.id item.phoneInfo.countryCode *
        item.billableUnits env)

def acceptedItems (env : ChunkEnv) (faults : Faults) (input : ChunkInput) (db : Db) :
    List ValidItem :=
  let context := checkContext env faults input db
  let checked :=
    match virtualChannel input db with
    | some channel => precheckVirtual env faults input context channel 0 input.phoneNumbers
    | none => precheck env faults input context 0 input.phoneNumbers
  match checked with
  | .ok checked => checked.valid
  | .error _ => []

/-- The bulk path prices items as they are priced one by one: each has a price, the total
is the sum of the single charges, and every row that is stored for an item carries its
charge and its cost. -/
structure BulkAgrees (env : ChunkEnv) (input : ChunkInput) (items : List ValidItem) : Prop where
  priced : ∀ item ∈ items, (item.singleCharge env input).isSome = true
  total : totalSell env input items =
    (items.map fun item => ((item.singleCharge env input).map Prod.fst).getD 0).sum
  rows : ∀ item ∈ items, ∀ site, ∀ charge ∈ item.singleCharge env input,
    (item.smsLog env input site).sellingPrice = some charge.1 ∧
      (item.smsLog env input site).costPrice = some charge.2

def ValidItem.Free (env : ChunkEnv) (input : ChunkInput) (item : ValidItem) : Prop :=
  item.unitPrice env input = 0 ∧
    env.resolveBaseCostPerSms item.channel.id item.phoneInfo.countryCode = 0

section

variable {env : ChunkEnv} {faults : Faults} {input : ChunkInput} {context : CheckContext}
  {item : ValidItem}

theorem calculateAndCharge_charged {index : ℕ} :
    Triple (fun _ => True) (calculateAndCharge env faults input index item)
      (fun result _ => ∀ total, result = .charged total →
        (item.singleCharge env input).map Prod.fst = some total)
      (fun _ _ => True) := by
  have anything : ∀ {Value : Type} {pre : ChunkState → Prop} (command : Chunk Value),
      Triple pre command (fun _ _ => True) (fun _ _ => True) := by
    intro Value pre command state _
    cases command state <;> trivial
  unfold calculateAndCharge
  refine Triple.bind (anything _) fun _ => ?_
  cases price : env.getPrice item.channel.id item.phoneInfo.countryCode input.accountId with
  | none =>
      rintro state _ total ⟨⟩
  | some found =>
      refine Triple.get_bind fun current _ => ?_
      cases current.working.accounts input.accountId with
      | none =>
          rintro state _ total ⟨⟩
      | some account =>
          refine Triple.get_bind fun again _ => ?_
          split
          · rintro state _ total ⟨⟩
          · refine Triple.bind (anything _) fun _ => Triple.bind (anything _) fun _ => ?_
            rintro state _ total ⟨⟩
            simp [ValidItem.singleCharge, price]

theorem singleCharge_agrees_iff (site : IdSite)
    (priced : (env.getPrice item.channel.id item.phoneInfo.countryCode
      input.accountId).isSome = true) :
    (∀ charge ∈ item.singleCharge env input,
      (item.smsLog env input site).sellingPrice = some charge.1 ∧
        (item.smsLog env input site).costPrice = some charge.2) ↔
      item.msgCount = item.billableUnits env ∨ item.Free env input := by
  rcases Option.isSome_iff_exists.mp priced with ⟨⟨price, currency⟩, found⟩
  have unit : item.unitPrice env input = price := by simp [ValidItem.unitPrice, found]
  simp only [ValidItem.singleCharge, found, Option.map_some, Option.mem_def, Option.some.injEq,
    forall_eq', ValidItem.smsLog, ValidItem.sell, ValidItem.baseCost, ValidItem.Free, unit,
    mul_units_eq_iff]
  exact or_and_left.symm

theorem bulkAgrees_of_items {items : List ValidItem} :
    BulkAgrees env input items ↔
      ∀ item ∈ items,
        (env.getPrice item.channel.id item.phoneInfo.countryCode input.accountId).isSome = true ∧
          (item.msgCount = item.billableUnits env ∨ item.Free env input) := by
  have known : ∀ item : ValidItem, (item.singleCharge env input).isSome =
      (env.getPrice item.channel.id item.phoneInfo.countryCode input.accountId).isSome :=
    fun _ => Option.isSome_map
  constructor
  · intro agrees item member
    have priced := agrees.priced item member
    rw [known] at priced
    exact ⟨priced,
      (singleCharge_agrees_iff (.fallback 0) priced).mp (agrees.rows item member (.fallback 0))⟩
  · intro fine
    have rows : ∀ item ∈ items, ∀ site, ∀ charge ∈ item.singleCharge env input,
        (item.smsLog env input site).sellingPrice = some charge.1 ∧
          (item.smsLog env input site).costPrice = some charge.2 := by
      intro item member site
      exact (singleCharge_agrees_iff site (fine item member).1).mpr (fine item member).2
    refine ⟨fun item member => (known item).trans (fine item member).1, ?_, rows⟩
    rw [totalSell]
    congr 1
    apply List.map_congr_left
    intro item member
    have priced := (known item).trans (fine item member).1
    rcases Option.isSome_iff_exists.mp priced with ⟨charge, single⟩
    have carried := (rows item member (.fallback 0) charge single).1
    rw [single]
    exact Option.some.inj carried

theorem msgCount_of_checkNumber {index : ℕ} {phone : String}
    (accepted : checkNumber env input context index phone = .ok item) :
    item.msgCount = item.billableUnits env := by
  simp only [checkNumber] at accepted
  split at accepted
  · cases accepted
  · split at accepted
    · cases accepted
    · cases accepted
    · rename_i channel _
      by_cases rcs : channel.isRcs = true
      · rw [if_pos rcs] at accepted
        split at accepted
        · cases accepted
        · cases accepted
          simp [ValidItem.billableUnits, rcs]
      · rw [if_neg rcs] at accepted
        cases accepted
        simp [ValidItem.billableUnits, rcs]

theorem msgCount_of_checkVirtual {channel : Channel} {index : ℕ} {phone : String}
    (accepted : checkVirtual env input context channel index phone = .ok item) :
    item.msgCount = env.countSmsParts item.finalMessage := by
  simp only [checkVirtual] at accepted
  split at accepted
  · cases accepted
  · cases accepted
    rfl

theorem mem_valid_add {result : Except Prefailed ValidItem} {rest : Prechecked} :
    item ∈ (Prechecked.add result rest).valid ↔ result = .ok item ∨ item ∈ rest.valid := by
  cases result with
  | error failure => simp [Prechecked.add]
  | ok other => simp [Prechecked.add, eq_comm]

theorem map_eq_ok {Value Result : Type} {computed : Except Raise Value} {update : Value → Result}
    {result : Result} (maps : computed.map update = .ok result) :
    ∃ value, computed = .ok value ∧ update value = result := by
  cases computed with
  | error raised => cases maps
  | ok value =>
      cases maps
      exact ⟨value, rfl, rfl⟩

theorem checked_of_precheckNumber {index : ℕ} {phone : String}
    (accepted : precheckNumber env faults input context index phone = .ok (.ok item)) :
    checkNumber env input context index (normalizePhone env.unicode phone) = .ok item := by
  simp only [precheckNumber] at accepted
  split at accepted
  · exact Except.ok.inj accepted
  · split at accepted <;> cases accepted

theorem checked_of_precheck {index : ℕ} {phones : List String} {checked : Prechecked}
    (checks : precheck env faults input context index phones = .ok checked)
    (member : item ∈ checked.valid) :
    ∃ position phone, checkNumber env input context position phone = .ok item := by
  induction phones generalizing index checked with
  | nil =>
      cases checks
      simp [Prechecked.empty] at member
  | cons phone phones ih =>
      simp only [precheck] at checks
      split at checks
      · rcases map_eq_ok checks with ⟨rest, checksRest, rfl⟩
        exact ih checksRest member
      · cases result : precheckNumber env faults input context index phone with
        | error raised =>
            rw [result] at checks
            cases checks
        | ok result' =>
            rw [result] at checks
            rcases map_eq_ok checks with ⟨rest, checksRest, rfl⟩
            rcases mem_valid_add.mp member with rfl | inRest
            · exact ⟨index, _, checked_of_precheckNumber result⟩
            · exact ih checksRest inRest

theorem checked_of_precheckVirtual {channel : Channel} {index : ℕ} {phones : List String}
    {checked : Prechecked}
    (checks : precheckVirtual env faults input context channel index phones = .ok checked)
    (member : item ∈ checked.valid) :
    ∃ position phone, checkVirtual env input context channel position phone = .ok item := by
  induction phones generalizing index checked with
  | nil =>
      cases checks
      simp [Prechecked.empty] at member
  | cons phone phones ih =>
      simp only [precheckVirtual] at checks
      split at checks
      · rcases map_eq_ok checks with ⟨rest, checksRest, rfl⟩
        exact ih checksRest member
      · split at checks
        · cases checks
        · rcases map_eq_ok checks with ⟨rest, checksRest, rfl⟩
          rcases mem_valid_add.mp member with accepted | inRest
          · exact ⟨index, _, accepted⟩
          · exact ih checksRest inRest

def ValidItem.UnitsAgree (env : ChunkEnv) (item : ValidItem) : Prop :=
  item.channel.isRcs = true → env.countSmsParts item.finalMessage = 1

theorem msgCount_eq_iff_of_virtual
    (counted : item.msgCount = env.countSmsParts item.finalMessage) :
    item.msgCount = item.billableUnits env ↔ item.UnitsAgree env := by
  rw [counted, ValidItem.billableUnits, ValidItem.UnitsAgree]
  by_cases rcs : item.channel.isRcs = true
  · simp [rcs]
  · simp [rcs]

/-- The bulk path agrees with single pricing exactly when every accepted item has a price
and, on the virtual fast path, none is an RCS message of several parts that costs or
brings anything. -/
theorem bulkAgrees_iff (env : ChunkEnv) (faults : Faults) (input : ChunkInput) (db : Db) :
    BulkAgrees env input (acceptedItems env faults input db) ↔
      ∀ item ∈ acceptedItems env faults input db,
        (env.getPrice item.channel.id item.phoneInfo.countryCode input.accountId).isSome = true ∧
          ((virtualChannel input db).isSome = true →
            item.UnitsAgree env ∨ item.Free env input) := by
  rw [bulkAgrees_of_items]
  apply forall₂_congr
  intro item member
  apply and_congr_right
  intro _
  cases path : virtualChannel input db with
  | none =>
      simp only [acceptedItems, path] at member
      cases checks : precheck env faults input (checkContext env faults input db) 0
          input.phoneNumbers with
      | error raised => simp [checks] at member
      | ok checked =>
          rw [checks] at member
          rcases checked_of_precheck checks member with ⟨index, phone, accepted⟩
          simp [msgCount_of_checkNumber accepted]
  | some channel =>
      simp only [acceptedItems, path] at member
      cases checks : precheckVirtual env faults input (checkContext env faults input db) channel 0
          input.phoneNumbers with
      | error raised => simp [checks] at member
      | ok checked =>
          rw [checks] at member
          rcases checked_of_precheckVirtual checks member with ⟨index, phone, accepted⟩
          simp [msgCount_eq_iff_of_virtual (msgCount_of_checkVirtual accepted)]

end

def chinaOnly : ChunkEnv :=
  { ChunkEnv.plain (.plain .smpp) 100 with
    parseNumber := fun number =>
      .ok ⟨⟨number, if number = "+8613800138000" then "CN" else "US"⟩, true, true⟩
    getPrice := fun _ country _ => if country = "CN" then some (100, "USD") else none }

/-- The second number has no price; the chunk is charged for the first one and stores
both. -/
theorem bulkAgrees_fails :
    (acceptedItems chinaOnly (fun _ => none)
        (.plain ["+8613800138000", "+12025550100"] none) (.plain 1000 (.plain .smpp) [])).map
      (ValidItem.singleCharge chinaOnly (.plain ["+8613800138000", "+12025550100"] none)) =
        [some (100, 0), none] ∧
    (chunkTables chinaOnly (fun _ => none) (.plain ["+8613800138000", "+12025550100"] none)
        (.plain 1000 (.plain .smpp) [])).smsLogs.map (fun row => (row.status, row.sellingPrice)) =
      [(.pending, some 100), (.pending, some 0)] ∧
    ¬ BulkAgrees chinaOnly (.plain ["+8613800138000", "+12025550100"] none)
      (acceptedItems chinaOnly (fun _ => none)
        (.plain ["+8613800138000", "+12025550100"] none) (.plain 1000 (.plain .smpp) [])) := by
  have accepted : (acceptedItems chinaOnly (fun _ => none)
      (.plain ["+8613800138000", "+12025550100"] none) (.plain 1000 (.plain .smpp) [])).map
        (ValidItem.singleCharge chinaOnly (.plain ["+8613800138000", "+12025550100"] none)) =
          [some (100, 0), none] := by
    decide
  refine ⟨accepted, by decide, ?_⟩
  intro agrees
  have unpriced : none ∈ [some ((100 : Money), (0 : Money)), none] := by simp
  rw [← accepted] at unpriced
  rcases List.mem_map.mp unpriced with ⟨item, member, missing⟩
  have priced := agrees.priced item member
  rw [missing] at priced
  exact absurd priced (by decide)

end Klsmsc
