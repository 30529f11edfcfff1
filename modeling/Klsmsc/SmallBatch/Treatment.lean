import Klsmsc.BatchWorker.Idempotent
import Klsmsc.SmallBatch

/-!
# Small batches and chunks

The synchronous path of `send_batch_sms` and the worker of the chunks check a recipient each in
their own way. They treat it alike when both refuse it, or both take it for the same number and
the same channel, count the same parts, and there is no default sender id that only the
synchronous path would take.

A recipient is treated by its row: what the row says when it is stored, before the short links in
its text are replaced.
-/

namespace Klsmsc

open Library

structure Treatment where
  channelId : Option ℕ
  phoneNumber : String
  message : String
  messageCount : ℕ
  sellingPrice : Option Money
  costPrice : Option Money
  senderId : Option String
  deriving DecidableEq, Repr

def SmsLog.treatment (row : SmsLog) : Treatment where
  channelId := row.channelId
  phoneNumber := row.phoneNumber
  message := row.message
  messageCount := row.messageCount
  sellingPrice := row.sellingPrice
  costPrice := row.costPrice
  senderId := row.senderId

def SmallBatch.Treats (env : ApiEnv) (batchId : ℕ) (batch : SmallBatch) (index : ℕ)
    (treatment : Treatment) : Prop :=
  ∃ message ∈ batch.booked, message.index = index ∧ message.row ∈ batch.db.smsLogs ∧
    message.messageId ∈ batch.handed env batchId ∧ message.row.treatment = treatment

/-- The entry at an index of a chunk gets a charged row, whose message is handed over, when the
worker runs undisturbed. -/
def ChunkInput.Treats (env : ChunkEnv) (input : ChunkInput) (db : Db) (index : ℕ)
    (treatment : Treatment) : Prop :=
  ∃ result after, runChunk env .never input db = .ok result after ∧
    ∃ item ∈ (chunkChecked env input db).valid, item.batchIndex = input.startOffset + index + 1 ∧
      ∃ site route,
        (item.smsLog env input site).core ∈
            (after.committed.smsLogs.map SmsLog.core).drop db.smsLogs.length ∧
          (env.messageId site, route) ∈ after.handed ∧
          (item.smsLog env input site).treatment = treatment

structure SmallBatch.Accepts (env : SubmitEnv) (account : Account) (input : ChunkInput)
    (index : ℕ) (phone : String) (info : PhoneInfo) (channel : Channel) : Prop where
  number : validatePhoneNumber env.toChunkEnv phone = .ok info
  allowed : smsDestinationAllowed env.toChunkEnv account info.countryCode = true
  valid : validateContent (messageFor env.toChunkEnv input (index + 1) info) = none
  routed : env.selectChannel info.countryCode input.channelId input.accountId = .ok (some channel)
  sender : (acceptSenderId env channel.id info.countryCode input.senderId).isOk = true
  rcs : channel.isRcs = true →
    env.validateRcsContent (messageFor env.toChunkEnv input (index + 1) info) = none
  priced : (env.getPrice channel.id info.countryCode input.accountId).isSome = true

structure ChunkInput.Accepts (env : ChunkEnv) (input : ChunkInput) (db : Db) (index : ℕ)
    (phone : String) (info : PhoneInfo) (channel : Channel) : Prop where
  opened : input.isStopped db = false
  isNew : phone ∉ (checkContext env .never input db).alreadyDone
  number : validatePhoneNumber env (normalizePhone env.unicode phone) = .ok info
  unlisted : normalizePhone env.unicode phone ∉
      (checkContext env .never input db).blacklistedPhones ∧
    info.e164Format ∉ (checkContext env .never input db).blacklistedPhones
  allowed : (db.accounts input.accountId).all (fun account =>
    smsDestinationAllowed env account info.countryCode) = true
  routed : match virtualChannel input db with
    | some virtual => channel = virtual
    | none => env.selectChannel info.countryCode input.channelId input.accountId =
        .ok (some channel)
  rcs : virtualChannel input db = none → channel.isRcs = true → env.validateRcsContent
    (messageFor env input (input.startOffset + index + 1) info) = none

def SmallBatch.units (env : ChunkEnv) (channel : Channel) (message : String) : ℕ :=
  if channel.isRcs then 1 else env.countSmsParts message

/-- The parts that a chunk counts; the virtual fast path does not ask for the kind of the
channel. -/
def ChunkInput.units (env : ChunkEnv) (input : ChunkInput) (db : Db) (channel : Channel)
    (message : String) : ℕ :=
  if (virtualChannel input db).isNone ∧ channel.isRcs then 1 else env.countSmsParts message

def SenderAgrees (env : SubmitEnv) (requested : Option String) (channelId : ℕ)
    (countryCode : String) : Prop :=
  (∃ asked, requested = some asked ∧ asked ≠ "") ∨
    ∀ sender ∈ env.listActiveSenderIds channelId countryCode, sender.2 = false

/-- A recipient at an index of a small batch, and at a place of a chunk, that both paths treat
alike. -/
def TreatedAlike (env : SubmitEnv) (account : Account) (small large : ChunkInput) (db : Db)
    (index place : ℕ) (phone : String) : Prop :=
  (∀ info channel, ¬SmallBatch.Accepts env account small index phone info channel ∧
      ¬large.Accepts env.toChunkEnv db place phone info channel) ∨
    ∃ info one other, SmallBatch.Accepts env account small index phone info one ∧
      large.Accepts env.toChunkEnv db place phone info other ∧ one.id = other.id ∧
      SmallBatch.units env.toChunkEnv one (messageFor env.toChunkEnv small (index + 1) info) =
        large.units env.toChunkEnv db other
          (messageFor env.toChunkEnv small (index + 1) info) ∧
      SenderAgrees env small.senderId one.id info.countryCode

namespace SmallBatch

section

variable {env : ApiEnv} {account : Account} {check : WordCheck} {input : ChunkInput}

def senderOf (env : SubmitEnv) (input : ChunkInput) (info : PhoneInfo) (channel : Channel) :
    Option String :=
  (acceptSenderId env channel.id info.countryCode input.senderId).toOption.join

def treatmentOf (env : SubmitEnv) (input : ChunkInput) (index : ℕ) (info : PhoneInfo)
    (channel : Channel) : Treatment :=
  let message := messageFor env.toChunkEnv input (index + 1) info
  let parts := units env.toChunkEnv channel message
  { channelId := some channel.id
    phoneNumber := info.e164Format
    message := message
    messageCount := parts
    sellingPrice := some
      (((env.getPrice channel.id info.countryCode input.accountId).map Prod.fst).getD 0 * parts)
    costPrice := some (env.resolveBaseCostPerSms channel.id info.countryCode * parts)
    senderId := senderOf env input info channel }

def chargeOf (env : ApiEnv) (account : Account) (check : WordCheck) (input : ChunkInput)
    (entry : String × ℕ) : Option (Acceptance × RetryCharge) :=
  match acceptRecipient env.toSubmitEnv account check input entry.2 entry.1 with
  | .error _ => none
  | .ok accepted =>
      (accepted.charge env.toChunkEnv input.accountId).map fun charge => (accepted, charge)

def prices (env : ApiEnv) (account : Account) (check : WordCheck) (input : ChunkInput)
    (index : ℕ) (phones : List String) : List Money :=
  ((phones.zipIdx index).filterMap (chargeOf env account check input)).map fun charged =>
    charged.2.totalCost

def Affords (env : ApiEnv) (account : Account) (check : WordCheck) (input : ChunkInput) : Prop :=
  account.paymentType = .postpaid ∨
    ∀ part : List Money, part.Sublist (prices env account check input 0 input.phoneNumbers) →
      part.sum ≤ account.balance

def treatmentFor (charged : Acceptance × RetryCharge) : Treatment where
  channelId := some charged.1.channel.id
  phoneNumber := charged.1.phoneNumber
  message := charged.1.finalMessage
  messageCount := charged.2.messageCount
  sellingPrice := some charged.2.totalCost
  costPrice := some charged.2.totalBaseCost
  senderId := charged.1.senderId

theorem treatment_row (index id : ℕ) (accepted : Acceptance) (charge : RetryCharge) :
    (row env input index id accepted charge).treatment = treatmentFor (accepted, charge) := rfl

def placed (message : BookedMessage) : ℕ × Treatment :=
  (message.index, message.row.treatment)

def bookings (env : ApiEnv) (account : Account) (check : WordCheck) (input : ChunkInput)
    (entry : String × ℕ) : Option (ℕ × Treatment) :=
  (chargeOf env account check input entry).map fun charged => (entry.2, treatmentFor charged)

def HasPaid (account : Account) (input : ChunkInput) (amount : Money) (db : Db) : Prop :=
  db.accounts input.accountId = some { account with balance := account.balance - amount }

theorem book_of_refused {index : ℕ} {phone : String} {batch : SmallBatch}
    (refused : chargeOf env account check input (phone, index) = none) :
    ∃ error, book env account check input index phone batch = batch.refuse phone error := by
  rcases book_cases env account check input index phone batch with
    isRefused | ⟨accepted, paid, charge, accepts, charged, -⟩
  · exact isRefused
  · have priced := (calculateAndCharge_eq_charged.mp charged).1
    simp [chargeOf, accepts, priced] at refused

theorem book_of_charged {index : ℕ} {phone : String} {batch : SmallBatch} {amount : Money}
    {accepted : Acceptance} {charge : RetryCharge} (paid : HasPaid account input amount batch.db)
    (isCharge : chargeOf env account check input (phone, index) = some (accepted, charge))
    (pays : account.paymentType = .postpaid ∨ amount + charge.totalCost ≤ account.balance) :
    let after := book env account check input index phone batch
    after.booked.map placed =
        batch.booked.map placed ++ [(index, treatmentFor (accepted, charge))] ∧
      HasPaid account input (amount + charge.totalCost) after.db := by
  rw [HasPaid] at paid
  unfold chargeOf at isCharge
  split at isCharge
  · cases isCharge
  · rename_i found accepts
    rcases Option.map_eq_some_iff.mp isCharge with ⟨_, priced, same⟩
    cases same
    have deducts : batch.db.deduct input.accountId (account.paymentType = .postpaid)
        charge.totalCost = some (batch.db.addBalance input.accountId (-charge.totalCost)) := by
      rw [Db.deduct, paid]
      refine if_pos ?_
      rcases pays with postpaid | enough
      · simp [postpaid]
      · right
        change charge.totalCost ≤ account.balance - amount
        linarith
    have charged : accepted.calculateAndCharge env input.accountId batch.db = .charged
        ((batch.db.addBalance input.accountId (-charge.totalCost)).logCharge input.accountId
          charge.totalCost) charge :=
      calculateAndCharge_eq_charged.mpr ⟨priced, _, _, paid, deducts, rfl⟩
    dsimp only
    unfold book
    rw [accepts]
    dsimp only
    rw [charged]
    refine ⟨by simp [placed, treatment_row], ?_⟩
    simp only [HasPaid, Db.logCharge, Db.addBalance, Db.addBalanceLog, Db.addSmsLogs, if_true,
      paid, Option.map_some, Option.some.injEq, Account.mk.injEq, and_true]
    ring

theorem bookAll_placed (phones : List String) (index : ℕ) {batch : SmallBatch} {amount : Money}
    (paid : HasPaid account input amount batch.db)
    (pays : account.paymentType = .postpaid ∨ ∀ part : List Money,
      part.Sublist (prices env account check input index phones) →
        amount + part.sum ≤ account.balance) :
    (bookAll env account check input index phones batch).booked.map placed =
      batch.booked.map placed ++
        (phones.zipIdx index).filterMap (bookings env account check input) := by
  induction phones generalizing index batch amount with
  | nil => simp [bookAll]
  | cons phone phones ih =>
      rw [bookAll, List.zipIdx_cons, List.filterMap_cons]
      cases isCharge : chargeOf env account check input (phone, index) with
      | none =>
          rcases @book_of_refused env account check input index phone batch isCharge with
            ⟨error, refused⟩
          have same : prices env account check input index (phone :: phones) =
              prices env account check input (index + 1) phones := by
            simp [prices, isCharge]
          rw [same] at pays
          rw [refused]
          have rest := @ih (index + 1) (batch.refuse phone error) amount paid pays
          rw [rest]
          simp [bookings, isCharge, refuse]
      | some charged =>
          rcases charged with ⟨accepted, charge⟩
          have next : prices env account check input index (phone :: phones) =
              charge.totalCost :: prices env account check input (index + 1) phones := by
            simp [prices, isCharge]
          rw [next] at pays
          have here : account.paymentType = .postpaid ∨
              amount + charge.totalCost ≤ account.balance := by
            refine pays.imp id fun enough => ?_
            have alone := enough [charge.totalCost] (by simp)
            simpa using alone
          have later : account.paymentType = .postpaid ∨ ∀ part : List Money,
              part.Sublist (prices env account check input (index + 1) phones) →
                amount + charge.totalCost + part.sum ≤ account.balance := by
            refine pays.imp id fun enough part isPart => ?_
            have withIt := enough (charge.totalCost :: part) (isPart.cons_cons _)
            rw [List.sum_cons, ← add_assoc] at withIt
            exact withIt
          rcases book_of_charged paid isCharge here with ⟨booked, paidMore⟩
          rw [ih (index + 1) paidMore later, booked]
          simp [bookings, isCharge]

def BookedStored (batch : SmallBatch) : Prop :=
  ∀ message ∈ batch.booked, message.row ∈ batch.db.smsLogs

theorem bookedStored_book (index : ℕ) (phone : String) {batch : SmallBatch}
    (stored : BookedStored batch) :
    BookedStored (book env account check input index phone batch) := by
  rcases book_cases env account check input index phone batch with
    ⟨error, refused⟩ | ⟨accepted, paid, charge, accepts, charged, isBooked⟩
  · rw [refused]
    exact stored
  · rw [isBooked]
    have logs := (calculateAndCharge_spec charged).1
    intro message member
    rw [Db.addSmsLogs_smsLogs, logs]
    rcases List.mem_append.mp member with earlier | isNew
    · exact List.mem_append_left _ (stored message earlier)
    · rw [List.mem_singleton] at isNew
      subst message
      exact List.mem_append_right _ (List.mem_singleton.mpr rfl)

theorem bookedStored_bookAll (phones : List String) (index : ℕ) {batch : SmallBatch}
    (stored : BookedStored batch) :
    BookedStored (bookAll env account check input index phones batch) := by
  induction phones generalizing index batch with
  | nil => exact stored
  | cons phone phones ih => exact ih _ (bookedStored_book index phone stored)

theorem mem_handed {batch : SmallBatch} (stored : BookedStored batch) {message : BookedMessage}
    (member : message ∈ batch.booked) (batchId : ℕ) :
    message.messageId ∈ batch.handed env batchId := by
  have rows : batch.db.Stored batch.smppIds := by
    intro messageId isId
    rcases List.mem_map.mp isId with ⟨other, isOther, rfl⟩
    exact ⟨other.row, stored other (List.mem_of_mem_filter isOther), rfl⟩
  rw [handed, payloads, payloadsOf_messageId _ rows, List.mem_append]
  by_cases smpp : message.isSmpp = true
  · exact .inl (List.mem_map_of_mem (List.mem_filter.mpr ⟨member, smpp⟩))
  · exact .inr (List.mem_map_of_mem (List.mem_filter.mpr ⟨member, by simp [smpp]⟩))

theorem treats_iff_bookings {db : Db} (isAccount : db.accounts input.accountId = some account)
    (pays : Affords env account check input) {index : ℕ} {phone : String}
    (atIndex : input.phoneNumbers[index]? = some phone) (treatment : Treatment) :
    (bookSmallBatch env check input db).Treats env input.batchId index treatment ↔
      bookings env account check input (phone, index) = some (index, treatment) := by
  have paid : HasPaid account input 0 (SmallBatch.start db).db := by
    simpa [HasPaid, start] using isAccount
  have placedAll : (bookAll env account check input 0 input.phoneNumbers
      (.start db)).booked.map placed =
        input.phoneNumbers.zipIdx.filterMap (bookings env account check input) := by
    refine (bookAll_placed input.phoneNumbers 0 paid ?_).trans (List.nil_append _)
    refine pays.imp id fun enough part isPart => ?_
    rw [zero_add]
    exact enough part isPart
  have stored : BookedStored (bookAll env account check input 0 input.phoneNumbers (.start db)) :=
    bookedStored_bookAll _ _ fun message member => by cases member
  rw [bookSmallBatch, isAccount]
  constructor
  · rintro ⟨message, member, rfl, -, -, rfl⟩
    have inPlaced : placed message ∈ (input.phoneNumbers.zipIdx 0).filterMap
        (bookings env account check input) := by
      rw [← placedAll]
      exact List.mem_map_of_mem member
    rcases List.mem_filterMap.mp inPlaced with ⟨entry, isEntry, isBooking⟩
    rcases Option.map_eq_some_iff.mp isBooking with ⟨charged, isCharge, same⟩
    have place : entry.2 = message.index := congrArg Prod.fst same
    have found : input.phoneNumbers[entry.2]? = some entry.1 :=
      List.mk_mem_zipIdx_iff_getElem?.mp isEntry
    rw [place, atIndex] at found
    have isPhone : entry = (phone, message.index) := Prod.ext (Option.some.inj found).symm place
    rw [isPhone] at isBooking
    exact isBooking
  · intro isBooking
    have inPlaced : (index, treatment) ∈
        (bookAll env account check input 0 input.phoneNumbers (.start db)).booked.map placed := by
      rw [placedAll]
      refine List.mem_filterMap.mpr ⟨(phone, index), ?_, isBooking⟩
      exact List.mk_mem_zipIdx_iff_getElem?.mpr atIndex
    rcases List.mem_map.mp inPlaced with ⟨message, member, same⟩
    exact ⟨message, member, congrArg Prod.fst same, stored message member,
      mem_handed stored member input.batchId, congrArg Prod.snd same⟩

theorem bookings_iff_accepts {index : ℕ} {phone : String}
    (unbanned : ∀ accepted,
      acceptRecipient env.toSubmitEnv account noWordCheck input index phone = .ok accepted →
        accepted.Passes check) (treatment : Treatment) :
    bookings env account check input (phone, index) = some (index, treatment) ↔
      ∃ info channel, Accepts env.toSubmitEnv account input index phone info channel ∧
        treatment = treatmentOf env.toSubmitEnv input index info channel := by
  constructor
  · intro isBooking
    rcases Option.map_eq_some_iff.mp isBooking with ⟨⟨accepted, charge⟩, isCharge, same⟩
    unfold chargeOf at isCharge
    split at isCharge
    · cases isCharge
    · rename_i found accepts
      rcases Option.map_eq_some_iff.mp isCharge with ⟨_, priced, pair⟩
      cases pair
      rcases acceptRecipient_eq_ok.mp accepts with
        ⟨info, channel, senderId, number, content, routed, sender, rcs, rfl, -⟩
      rcases acceptNumber_eq_ok.mp number with ⟨parsed, allowed⟩
      rcases Option.map_eq_some_iff.mp priced with ⟨price, isPrice, rfl⟩
      refine ⟨info, channel, ⟨parsed, allowed, acceptContent_eq_ok.mp content,
        routeMessage_eq_ok.mp routed, ?_, acceptRcsContent_eq_ok.mp rcs, ?_⟩, ?_⟩
      · rw [sender]
        rfl
      · simp [isPrice]
      · have isTreatment : _ = treatment := congrArg Prod.snd same
        rw [← isTreatment]
        simp [treatmentFor, treatmentOf, senderOf, units, isPrice, sender, Except.toOption]
  · rintro ⟨info, channel, accepts, rfl⟩
    cases sender : acceptSenderId env.toSubmitEnv channel.id info.countryCode input.senderId with
    | error error =>
        have resolved := accepts.sender
        rw [sender] at resolved
        cases resolved
    | ok senderId =>
        rcases Option.isSome_iff_exists.mp accepts.priced with ⟨price, isPrice⟩
        let accepted : Acceptance := ⟨channel, info.e164Format, info.countryCode, senderId,
          messageFor env.toChunkEnv input (index + 1) info⟩
        have taken {words : WordCheck} (passes : accepted.Passes words) :
            acceptRecipient env.toSubmitEnv account words input index phone = .ok accepted :=
          acceptRecipient_eq_ok.mpr ⟨info, channel, senderId,
            acceptNumber_eq_ok.mpr ⟨accepts.number, accepts.allowed⟩,
            acceptContent_eq_ok.mpr accepts.valid, routeMessage_eq_ok.mpr accepts.routed, sender,
            acceptRcsContent_eq_ok.mpr accepts.rcs, rfl, passes⟩
        have taken := taken (unbanned accepted (taken passes_noWordCheck))
        simp [bookings, chargeOf, taken, accepted, Acceptance.charge, isPrice, treatmentFor, treatmentOf,
          senderOf, units, sender, Except.toOption]

end

end SmallBatch

def ValidItem.treatment (env : ChunkEnv) (input : ChunkInput) (item : ValidItem) : Treatment where
  channelId := some item.channel.id
  phoneNumber := item.phoneInfo.e164Format
  message := item.finalMessage
  messageCount := item.msgCount
  sellingPrice := some (item.sell env input)
  costPrice := some (item.baseCost env)
  senderId := resolveBatchSid env input item.channel.id item.phoneInfo.countryCode

namespace ChunkInput

section

variable {env : ChunkEnv} {input : ChunkInput} {db : Db}

theorem mem_checkEntries_valid {alreadyDone : List String}
    {check : ℕ → String → Except Prefailed ValidItem} {item : ValidItem} (phones : List String)
    (index : ℕ) :
    item ∈ (checkEntries alreadyDone check index phones).valid ↔
      ∃ entry ∈ phones.zipIdx index, entry.1 ∉ alreadyDone ∧ check entry.2 entry.1 = .ok item := by
  induction phones generalizing index with
  | nil => simp [checkEntries, Prechecked.empty]
  | cons phone phones ih =>
      rw [List.zipIdx_cons, checkEntries]
      split
      · rename_i done
        simp [Prechecked.skip, ih, done]
      · rename_i isNew
        cases result : check index phone with
        | error failure => simp [Prechecked.add, ih, result]
        | ok found => simp [Prechecked.add, ih, result, isNew, eq_comm]

theorem mem_valid_iff {item : ValidItem} :
    item ∈ (chunkChecked env input db).valid ↔
      ∃ entry ∈ input.phoneNumbers.zipIdx,
        entry.1 ∉ (checkContext env .never input db).alreadyDone ∧
          input.check env .never db entry.2 entry.1 = .ok item := by
  unfold chunkChecked ChunkInput.check
  dsimp only
  cases virtualChannel input db with
  | some channel =>
      dsimp only
      rw [precheckVirtual_eq_checkEntries, checkedOf]
      exact mem_checkEntries_valid _ _
  | none =>
      dsimp only
      rw [precheck_eq_checkEntries, checkedOf]
      exact mem_checkEntries_valid _ _

theorem writePlan_sends {items : List ValidItem} {item : ValidItem} (member : item ∈ items) :
    ∃ site route, (item.smsLog env input site).core ∈ (writePlan env input items).rows ∧
      ∃ dispatch ∈ (writePlan env input items).dispatches,
        dispatch.messageId = env.messageId site ∧ dispatch.route = some route := by
  have positive : 0 < dbLogChunk := by decide
  rw [← flatten_slices positive items] at member
  rcases List.mem_flatten.mp member with ⟨slice, isSlice, inSlice⟩
  rcases List.mem_iff_getElem.mp isSlice with ⟨number, inside, rfl⟩
  rcases List.mem_iff_getElem.mp inSlice with ⟨index, within, rfl⟩
  have isPart : ((slices dbLogChunk items)[number], number) ∈ (slices dbLogChunk items).zipIdx :=
    List.mk_mem_zipIdx_iff_getElem?.mpr (List.getElem?_eq_getElem inside)
  refine ⟨.written number 0 index, _, List.mem_flatMap.mpr ⟨_, isPart, ?_⟩,
    _, List.mem_flatMap.mpr ⟨_, isPart, List.mem_mapIdx.mpr ⟨index, within, rfl⟩⟩, rfl, rfl⟩
  exact List.mem_map_of_mem (List.mem_mapIdx.mpr ⟨index, within, rfl⟩)

theorem chunkPlan_sends (opened : input.isStopped db = false)
    (pays : (checkContext env .never input db).affords env input (chunkChecked env input db).valid =
      true) {item : ValidItem} (member : item ∈ (chunkChecked env input db).valid) :
    ∃ site route, (item.smsLog env input site).core ∈ (chunkPlan env input db).rows ∧
      ∃ dispatch ∈ (chunkPlan env input db).dispatches,
        dispatch.messageId = env.messageId site ∧ dispatch.route = some route := by
  have goes : ¬input.isStopped db = true := by simp [opened]
  rw [chunkPlan, if_neg goes]
  split
  · rw [virtualPlan, if_pos pays]
    rcases List.mem_iff_getElem.mp member with ⟨index, inside, rfl⟩
    refine ⟨.virtual index, .simulation, ?_,
      _, List.mem_mapIdx.mpr ⟨index, inside, rfl⟩, rfl, rfl⟩
    exact List.mem_map_of_mem (List.mem_mapIdx.mpr ⟨index, inside, rfl⟩)
  · have some : (chunkChecked env input db).valid ≠ [] := List.ne_nil_of_mem member
    simp only [ordinaryPlan, sendPlan, if_neg some, if_pos pays]
    rcases @writePlan_sends env input _ _ member with
      ⟨site, route, inRows, dispatch⟩
    exact ⟨site, route, List.mem_append_right _ inRows, dispatch⟩

theorem treats_iff_item (keyed : (db.smsLogs.map SmsLog.id).Nodup)
    (pays : (checkContext env .never input db).affords env input (chunkChecked env input db).valid =
      true) (index : ℕ) (treatment : Treatment) :
    input.Treats env db index treatment ↔
      input.isStopped db = false ∧ ∃ item ∈ (chunkChecked env input db).valid,
        item.batchIndex = input.startOffset + index + 1 ∧ item.treatment env input = treatment := by
  have added {result : ChunkResult} {after : ChunkState}
      (returned : runChunk env .never input db = .ok result after) :
      (after.committed.smsLogs.map SmsLog.core).drop db.smsLogs.length =
        (chunkPlan env input db).rows := by
    rw [(runChunk_follows keyed returned).1]
    exact List.drop_left' (List.length_map _)
  constructor
  · rintro ⟨result, after, returned, item, member, place, site, route, stored, -, rfl⟩
    refine ⟨?_, item, member, place, rfl⟩
    cases stopped : input.isStopped db with
    | false => rfl
    | true =>
        rw [added returned, chunkPlan, if_pos stopped] at stored
        cases stored
  · rintro ⟨opened, item, member, place, rfl⟩
    rcases runChunk_never env input db with ⟨result, after, returned⟩
    rcases chunkPlan_sends opened pays member with ⟨site, route, inRows, dispatch, isDispatch, isId,
      toRoute⟩
    refine ⟨result, after, returned, item, member, place, site, route, ?_, ?_, rfl⟩
    · rw [added returned]
      exact inRows
    · exact ((runChunk_follows keyed returned).2 _ _).mpr ⟨dispatch, isDispatch, isId, toRoute⟩

def itemFor (env : ChunkEnv) (input : ChunkInput) (db : Db) (index : ℕ) (info : PhoneInfo)
    (channel : Channel) : ValidItem :=
  let message := messageFor env input (input.startOffset + index + 1) info
  ⟨info, message, input.units env db channel message, input.startOffset + index + 1, channel⟩

theorem screenNumber_eq_ok {context : CheckContext} {phone : String} {info : PhoneInfo} :
    screenNumber env context phone = .ok info ↔
      validatePhoneNumber env phone = .ok info ∧
        (phone ∉ context.blacklistedPhones ∧ info.e164Format ∉ context.blacklistedPhones) ∧
          context.account.all (fun account =>
            smsDestinationAllowed env account info.countryCode) = true := by
  unfold screenNumber
  cases validatePhoneNumber env phone with
  | error text => simp
  | ok found =>
      dsimp only
      by_cases listed : phone ∈ context.blacklistedPhones ∨
          found.e164Format ∈ context.blacklistedPhones
      · rw [if_pos listed]
        constructor
        · intro same
          cases same
        · rintro ⟨same, ⟨free, freeToo⟩, -⟩
          cases same
          exact absurd listed (by simp [free, freeToo])
      · rw [if_neg listed]
        rw [not_or] at listed
        by_cases allowed : context.account.all (fun account =>
            smsDestinationAllowed env account found.countryCode) = true
        · rw [if_pos allowed]
          constructor
          · intro same
            cases same
            exact ⟨rfl, listed, allowed⟩
          · rintro ⟨same, -⟩
            cases same
            rfl
        · rw [if_neg allowed]
          constructor
          · intro same
            cases same
          · rintro ⟨same, -, isAllowed⟩
            cases same
            exact absurd isAllowed allowed

theorem check_eq_ok_iff {index : ℕ} {phone : String} {item : ValidItem} :
    (input.isStopped db = false ∧ phone ∉ (checkContext env .never input db).alreadyDone ∧
        input.check env .never db index phone = .ok item) ↔
      ∃ info channel, input.Accepts env db index phone info channel ∧
        item = input.itemFor env db index info channel := by
  cases isVirtual : virtualChannel input db with
  | some virtual =>
      simp only [ChunkInput.check, isVirtual, checkVirtual]
      constructor
      · rintro ⟨opened, isNew, checks⟩
        split at checks
        · cases checks
        · rename_i info screened
          rcases screenNumber_eq_ok.mp screened with ⟨number, unlisted, allowed⟩
          refine ⟨info, virtual, ⟨opened, isNew, number, unlisted, allowed, ?_, ?_⟩, ?_⟩
          · simp [isVirtual]
          · simp [isVirtual]
          · rw [← Except.ok.inj checks]
            simp [itemFor, ChunkInput.units, isVirtual]
      · rintro ⟨info, channel, accepts, rfl⟩
        have isChannel := accepts.routed
        simp only [isVirtual] at isChannel
        subst isChannel
        rw [screenNumber_eq_ok.mpr ⟨accepts.number, accepts.unlisted, accepts.allowed⟩]
        exact ⟨accepts.opened, accepts.isNew, by simp [itemFor, ChunkInput.units, isVirtual]⟩
  | none =>
      simp only [ChunkInput.check, isVirtual, checkNumber]
      constructor
      · rintro ⟨opened, isNew, checks⟩
        split at checks
        · cases checks
        · rename_i info screened
          rcases screenNumber_eq_ok.mp screened with ⟨number, unlisted, allowed⟩
          split at checks
          · cases checks
          · cases checks
          · rename_i channel routed
            split at checks
            · rename_i isRcs
              split at checks
              · cases checks
              · rename_i fits
                refine ⟨info, channel, ⟨opened, isNew, number, unlisted, allowed, ?_,
                  fun _ _ => fits⟩, ?_⟩
                · simpa [isVirtual] using routed
                · rw [← Except.ok.inj checks]
                  simp [itemFor, ChunkInput.units, isVirtual, isRcs]
            · rename_i plain
              refine ⟨info, channel, ⟨opened, isNew, number, unlisted, allowed, ?_,
                fun _ isRcs => absurd isRcs plain⟩, ?_⟩
              · simpa [isVirtual] using routed
              · rw [← Except.ok.inj checks]
                simp [itemFor, ChunkInput.units, isVirtual, plain]
      · rintro ⟨info, channel, accepts, rfl⟩
        have routed := accepts.routed
        simp only [isVirtual] at routed
        rw [screenNumber_eq_ok.mpr ⟨accepts.number, accepts.unlisted, accepts.allowed⟩]
        refine ⟨accepts.opened, accepts.isNew, ?_⟩
        dsimp only
        rw [routed]
        dsimp only
        split
        · rename_i isRcs
          rw [accepts.rcs isVirtual isRcs]
          simp [itemFor, ChunkInput.units, isVirtual, isRcs]
        · rename_i plain
          simp [itemFor, ChunkInput.units, isVirtual, plain]

theorem treats_iff_accepts (keyed : (db.smsLogs.map SmsLog.id).Nodup)
    (pays : (checkContext env .never input db).affords env input (chunkChecked env input db).valid =
      true) {index : ℕ} {phone : String} (atIndex : input.phoneNumbers[index]? = some phone)
    (treatment : Treatment) :
    input.Treats env db index treatment ↔
      ∃ info channel, input.Accepts env db index phone info channel ∧
        treatment = (input.itemFor env db index info channel).treatment env input := by
  rw [treats_iff_item keyed pays]
  constructor
  · rintro ⟨opened, item, member, place, rfl⟩
    rcases mem_valid_iff.mp member with ⟨entry, isEntry, isNew, checks⟩
    rcases check_eq_ok_iff.mp ⟨opened, isNew, checks⟩ with ⟨info, channel, accepts, rfl⟩
    have samePlace : entry.2 = index := by
      simp only [itemFor] at place
      omega
    have found : input.phoneNumbers[entry.2]? = some entry.1 :=
      List.mk_mem_zipIdx_iff_getElem?.mp isEntry
    rw [samePlace, atIndex] at found
    rw [samePlace, ← Option.some.inj found] at accepts
    exact ⟨info, channel, accepts, by rw [samePlace]⟩
  · rintro ⟨info, channel, accepts, rfl⟩
    rcases check_eq_ok_iff.mpr ⟨info, channel, accepts, rfl⟩ with ⟨opened, isNew, checks⟩
    refine ⟨opened, _, mem_valid_iff.mpr ⟨(phone, index), ?_, isNew, checks⟩, rfl, rfl⟩
    exact List.mk_mem_zipIdx_iff_getElem?.mpr atIndex

end

end ChunkInput

section Sender

variable {env : SubmitEnv} {channelId : ℕ} {countryCode : String}

theorem acceptSenderId_of_blank (requested : Option String)
    (blank : strip env.unicode (requested.getD "") = "") :
    acceptSenderId env channelId countryCode requested =
      .ok (((env.listActiveSenderIds channelId countryCode).find? Prod.snd).map Prod.fst) := by
  simp [acceptSenderId, resolveSender, blank]

theorem noDefault_iff (active : List (String × Bool)) :
    (active.find? Prod.snd).map Prod.fst = none ↔ ∀ sender ∈ active, sender.2 = false := by
  simp [List.find?_eq_none]

theorem resolveBatchSid_of_asked {input : ChunkInput} {asked : String}
    (isAsked : input.senderId = some asked) (some_ : asked ≠ "")
    (accepts : (acceptSenderId env channelId countryCode (some asked)).isOk = true) :
    (acceptSenderId env channelId countryCode (some asked)).toOption.join =
      resolveBatchSid env.toChunkEnv input channelId countryCode := by
  rw [resolveBatchSid, isAsked]
  dsimp only
  by_cases unset : channelId = 0 ∨ countryCode = ""
  · rw [if_pos (.inr unset)]
    have noneActive : env.listActiveSenderIds channelId countryCode = [] := if_pos unset
    unfold acceptSenderId at accepts ⊢
    rw [noneActive] at accepts ⊢
    by_cases blank : strip env.unicode asked = ""
    · simp [resolveSender, blank, Except.toOption]
    · simp [resolveSender, blank, Except.isOk, Except.toBool] at accepts
  · rw [if_neg (by simp [some_, not_or.mp unset]), env.resolves]
    have active : env.listActiveSenderIds channelId countryCode =
        env.activeSenderIds channelId countryCode := if_neg unset
    rw [acceptSenderId, active]
    cases resolveSender env.unicode (env.activeSenderIds channelId countryCode) countryCode
      (some asked) with
    | error text => rfl
    | ok senderId => rfl

theorem sender_agrees_iff {input : ChunkInput}
    (accepts : (acceptSenderId env channelId countryCode input.senderId).isOk = true) :
    (acceptSenderId env channelId countryCode input.senderId).toOption.join =
        resolveBatchSid env.toChunkEnv input channelId countryCode ↔
      SenderAgrees env input.senderId channelId countryCode := by
  have blank : strip env.unicode "" = "" := by simp [strip]
  cases requested : input.senderId with
  | none =>
      rw [acceptSenderId_of_blank none blank, resolveBatchSid, requested]
      simp only [Except.toOption, Option.join_some, noDefault_iff, SenderAgrees]
      simp
  | some asked =>
      by_cases empty : asked = ""
      · subst empty
        rw [acceptSenderId_of_blank (some "") blank, resolveBatchSid, requested]
        simp only [Except.toOption, Option.join_some, true_or, if_true, noDefault_iff, SenderAgrees]
        simp
      · rw [requested] at accepts
        have same := resolveBatchSid_of_asked requested empty accepts
        rw [same]
        exact ⟨fun _ => .inl ⟨asked, rfl, empty⟩, fun _ => rfl⟩

end Sender

section

variable {env : SubmitEnv} {account : Account} {small large : ChunkInput} {db : Db}
  {index place : ℕ} {phone : String}

theorem SmallBatch.Accepts.same {info other : PhoneInfo} {channel another : Channel}
    (one : SmallBatch.Accepts env account small index phone info channel)
    (two : SmallBatch.Accepts env account small index phone other another) :
    info = other ∧ channel = another := by
  have number := one.number.symm.trans two.number
  cases number
  have routed := one.routed.symm.trans two.routed
  cases routed
  exact ⟨rfl, rfl⟩

theorem ChunkInput.Accepts.same {info other : PhoneInfo} {channel another : Channel}
    (one : large.Accepts env.toChunkEnv db place phone info channel)
    (two : large.Accepts env.toChunkEnv db place phone other another) :
    info = other ∧ channel = another := by
  have number := one.number.symm.trans two.number
  cases number
  refine ⟨rfl, ?_⟩
  have routed := one.routed
  have routedToo := two.routed
  cases isVirtual : virtualChannel large db with
  | some virtual =>
      simp only [isVirtual] at routed routedToo
      rw [routed, routedToo]
  | none =>
      simp only [isVirtual] at routed routedToo
      rw [routed] at routedToo
      cases routedToo
      rfl

theorem treatmentOf_eq_iff
    (sameRequest : large = { small with
      phoneNumbers := large.phoneNumbers, startOffset := large.startOffset })
    (samePosition : large.startOffset + place = index) {info : PhoneInfo} {one other : Channel}
    (accepts : SmallBatch.Accepts env account small index phone info one) :
    SmallBatch.treatmentOf env small index info one =
        (large.itemFor env.toChunkEnv db place info other).treatment env.toChunkEnv large ↔
      one.id = other.id ∧
        SmallBatch.units env.toChunkEnv one (messageFor env.toChunkEnv small (index + 1) info) =
          large.units env.toChunkEnv db other
            (messageFor env.toChunkEnv small (index + 1) info) ∧
        SenderAgrees env small.senderId one.id info.countryCode := by
  have sameText : messageFor env.toChunkEnv large (large.startOffset + place + 1) info =
      messageFor env.toChunkEnv small (index + 1) info := by
    rw [samePosition, sameRequest]
    rfl
  have sameSender : large.senderId = small.senderId := by rw [sameRequest]
  have sameAccount : large.accountId = small.accountId := by rw [sameRequest]
  have senders := @sender_agrees_iff env _ _ large (sameSender ▸ accepts.sender)
  rw [sameSender] at senders
  constructor
  · intro same
    have channelIds := congrArg Treatment.channelId same
    have parts := congrArg Treatment.messageCount same
    have senderIds := congrArg Treatment.senderId same
    have ids : one.id = other.id := Option.some.inj channelIds
    simp only [SmallBatch.treatmentOf, SmallBatch.senderOf, ValidItem.treatment,
      ChunkInput.itemFor, sameText] at parts senderIds
    rw [← ids] at senderIds
    exact ⟨ids, parts, senders.mp senderIds⟩
  · rintro ⟨ids, parts, agrees⟩
    have senderIds := senders.mpr agrees
    simp only [SmallBatch.treatmentOf, SmallBatch.senderOf, ValidItem.treatment,
      ChunkInput.itemFor, sameText, ValidItem.sell, ValidItem.unitPrice, ValidItem.baseCost,
      sameAccount, ← ids, ← parts, senderIds]

end

/-- A recipient of a small batch is treated as in a chunk exactly when both paths refuse it, or
both accept it for the same number, channel and number of parts, and there is no default sender
id that only the synchronous path takes. -/
theorem same_treatment_iff (env : ApiEnv) (check : WordCheck) (db : Db)
    (keyed : (db.smsLogs.map SmsLog.id).Nodup) (account : Account) (small large : ChunkInput)
    (isAccount : db.accounts small.accountId = some account)
    (sameRequest : large = { small with
      phoneNumbers := large.phoneNumbers, startOffset := large.startOffset })
    (index place : ℕ) (phone : String) (inSmall : small.phoneNumbers[index]? = some phone)
    (inLarge : large.phoneNumbers[place]? = some phone)
    (samePosition : large.startOffset + place = index)
    (unbanned : ∀ accepted,
      acceptRecipient env.toSubmitEnv account noWordCheck small index phone = .ok accepted →
        accepted.Passes check)
    (pays : SmallBatch.Affords env account check small)
    (paysChunk : (checkContext env.toChunkEnv .never large db).affords env.toChunkEnv large
      (chunkChecked env.toChunkEnv large db).valid = true)
    (regions : ∀ one two first second, validatePhoneNumber env.toChunkEnv one = .ok first →
      validatePhoneNumber env.toChunkEnv two = .ok second →
        first.e164Format = second.e164Format → first.countryCode = second.countryCode) :
    (∀ treatment,
        (bookSmallBatch env check small db).Treats env small.batchId index treatment ↔
          large.Treats env.toChunkEnv db place treatment) ↔
      TreatedAlike env.toSubmitEnv account small large db index place phone := by
  have bySmall (treatment : Treatment) :=
    (SmallBatch.treats_iff_bookings isAccount pays inSmall treatment).trans
      (SmallBatch.bookings_iff_accepts unbanned treatment)
  have byLarge (treatment : Treatment) :=
    ChunkInput.treats_iff_accepts keyed paysChunk inLarge treatment
  simp only [bySmall, byLarge]
  constructor
  · intro alike
    by_cases taken : ∃ info channel,
        SmallBatch.Accepts env.toSubmitEnv account small index phone info channel
    · right
      rcases taken with ⟨info, one, accepts⟩
      rcases (alike _).mp ⟨info, one, accepts, rfl⟩ with ⟨found, other, acceptsToo, same⟩
      have numbers : info.e164Format = found.e164Format := congrArg Treatment.phoneNumber same
      have countries := regions _ _ _ _ accepts.number acceptsToo.number numbers
      have sameInfo : found = info := by
        cases info
        cases found
        simp only at numbers countries
        rw [numbers, countries]
      subst sameInfo
      exact ⟨found, one, other, accepts, acceptsToo,
        (treatmentOf_eq_iff sameRequest samePosition accepts).mp same⟩
    · left
      intro info channel
      refine ⟨fun accepts => taken ⟨info, channel, accepts⟩, fun accepts => ?_⟩
      rcases (alike _).mpr ⟨info, channel, accepts, rfl⟩ with ⟨found, one, acceptsToo, -⟩
      exact taken ⟨found, one, acceptsToo⟩
  · rintro (neither | ⟨info, one, other, accepts, acceptsToo, agree⟩) treatment
    · constructor
      · rintro ⟨info, channel, taken, -⟩
        exact absurd taken (neither info channel).1
      · rintro ⟨info, channel, taken, -⟩
        exact absurd taken (neither info channel).2
    · have same := (@treatmentOf_eq_iff _ _ _ _ db _ _ _ sameRequest samePosition _ _ _ accepts).mpr agree
      constructor
      · rintro ⟨found, channel, taken, rfl⟩
        obtain ⟨rfl, rfl⟩ := accepts.same taken
        exact ⟨info, other, acceptsToo, same⟩
      · rintro ⟨found, channel, taken, rfl⟩
        obtain ⟨rfl, rfl⟩ := acceptsToo.same taken
        exact ⟨info, one, accepts, same.symm⟩

/-- Surroundings of the API in which every number goes to one channel at one price, without sender
ids. -/
def ApiEnv.plain (channel : Channel) (unitPrice : Money) : ApiEnv where
  toChunkEnv := .plain channel unitPrice
  rcsErrorCode _ := "RCS_CONTENT_TOO_LONG"
  activeSenderIds _ _ := []
  resolves := by
    intro channelId countryCode requested
    unfold resolveSender
    dsimp only
    split <;> rfl
  drawnId index := index
  amountText _ := ""

def postpaidTables : Db where
  accounts id := if id = 1 then some ⟨0, .postpaid, none⟩ else none
  smsLogs := []
  balanceLogs := []
  batches _ := none
  channels _ := none

theorem countryCode_plain {channel : Channel} {unitPrice : Money} {phone : String}
    {info : PhoneInfo}
    (parsed : validatePhoneNumber (.plain channel unitPrice) phone = .ok info) :
    info.countryCode = "CN" := by
  unfold validatePhoneNumber at parsed
  dsimp only at parsed
  split at parsed
  · cases parsed
  · simp only [ChunkEnv.plain, or_self, if_true, Except.ok.injEq] at parsed
    rw [← parsed]

theorem same_treatment_iff_plain :
    (∀ treatment,
        (bookSmallBatch (.plain (.plain .http) 100) noWordCheck (.plain ["+8613800138000"] none)
            postpaidTables).Treats (.plain (.plain .http) 100) 1 0 treatment ↔
          (ChunkInput.plain ["+8613800138000"] none).Treats (.plain (.plain .http) 100)
            postpaidTables 0 treatment) ↔
      TreatedAlike (ApiEnv.plain (.plain .http) 100).toSubmitEnv ⟨0, .postpaid, none⟩
        (.plain ["+8613800138000"] none) (.plain ["+8613800138000"] none) postpaidTables 0 0
        "+8613800138000" :=
  same_treatment_iff (.plain (.plain .http) 100) noWordCheck postpaidTables List.nodup_nil
    ⟨0, .postpaid, none⟩ (.plain ["+8613800138000"] none) (.plain ["+8613800138000"] none) rfl rfl
    0 0 "+8613800138000" rfl rfl rfl (fun _ _ => passes_noWordCheck) (.inl rfl) (by decide)
    fun _ _ _ _ first second _ =>
      (countryCode_plain first).trans (countryCode_plain second).symm

/-- A number with a blank is refused in a small batch, and sent to in a chunk. -/
theorem blank_treated_differently :
    ¬∀ treatment,
      (bookSmallBatch (.plain (.plain .http) 100) noWordCheck (.plain ["86 13800138000"] none)
          postpaidTables).Treats (.plain (.plain .http) 100) 1 0 treatment ↔
        (ChunkInput.plain ["86 13800138000"] none).Treats (.plain (.plain .http) 100)
          postpaidTables 0 treatment := by
  intro alike
  have refused : SmallBatch.bookings (.plain (.plain .http) 100) ⟨0, .postpaid, none⟩ noWordCheck
      (.plain ["86 13800138000"] none) ("86 13800138000", 0) = none := by decide
  have keyed : (postpaidTables.smsLogs.map SmsLog.id).Nodup := List.nodup_nil
  have taken : (ChunkInput.plain ["86 13800138000"] none).Treats (.plain (.plain .http) 100)
      postpaidTables 0 ⟨some 1, "+8613800138000", "hello", 1, some 100, some 0, none⟩ := by
    refine (ChunkInput.treats_iff_item keyed (by decide) 0 _).mpr ⟨rfl,
      ⟨⟨"+8613800138000", "CN"⟩, "hello", 1, 1, .plain .http⟩, ?_, rfl, ?_⟩
    · decide
    · decide
  have booked := (SmallBatch.treats_iff_bookings rfl (.inl rfl) rfl _).mp ((alike _).mpr taken)
  rw [refused] at booked
  cases booked

end Klsmsc
