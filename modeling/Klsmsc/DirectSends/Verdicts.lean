import Klsmsc.DirectSends.Settled
import Klsmsc.SmallBatch.Treatment

/-!
# The verdicts of the compatible protocol

Every refusal that `send_sms_ruanwei_compat` knows of becomes an item of its response. What it calls
also refuses by raising: the router has no channel for a country, the price is missing, the balance
does not cover it, or a word check fails. Such an exception takes the whole response with it, and
with it the items of the messages that have been charged and enqueued.
-/

namespace Klsmsc

/-! ### What the response is to say -/

structure RuanweiEnv.Signed (env : RuanweiEnv) (request : RuanweiRequest) (accountId : ℕ) :
    Prop where
  action : request.action = some "send"
  account : request.account.getD "" ≠ ""
  mobile : request.mobile.getD "" ≠ ""
  content : request.content.getD "" ≠ ""
  password : request.password.getD "" ≠ ""
  signature : ∃ secret, secret ≠ "" ∧
    env.activeAccount (request.account.getD "") = some (accountId, some secret) ∧
      env.unicode.lower (env.md5 (secret ++ request.extno.getD "" ++ request.content.getD "" ++
        request.mobile.getD "")) = env.unicode.lower (request.password.getD "")

def RuanweiRequest.mobiles (unicode : Unicode) (request : RuanweiRequest) : List String :=
  mobileList unicode (request.mobile.getD "")

def RuanweiEnv.ChargedAndEnqueued (env : RuanweiEnv) (rows : List SmsLog) (index : ℕ) : Prop :=
  ∃ row ∈ rows, row.messageId = env.drawnId index ∧ row.credit = 0 ∧
    queueSms env.broker row.messageId = true

/-- The items are about the mobiles in their order, each says what has become of its message, and
the accounts have paid for these messages. -/
structure RuanweiEnv.Verdicts (env : RuanweiEnv) (before after : Db) (mobiles : List String)
    (items : List RuanweiItem) : Prop where
  inOrder : items.map RuanweiItem.mobile = mobiles
  verdict : ∀ index item, items[index]? = some item →
    (item.result = 0 ∧ item.mid.isSome = true ↔
      env.ChargedAndEnqueued (after.smsLogs.drop before.smsLogs.length) index)
  paid : ∀ accountId, after.balance accountId = (before.balance accountId).map fun balance =>
    balance - sumFor accountId SmsLog.price (after.smsLogs.drop before.smsLogs.length) +
      sumFor accountId SmsLog.credit (after.smsLogs.drop before.smsLogs.length)

def RuanweiEnv.Answers (env : RuanweiEnv) (check : WordCheck) (request : RuanweiRequest)
    (db : Db) : Prop :=
  ∃ items, (sendSmsRuanweiCompat env check request db).2 = some ("0", items) ∧
    env.Verdicts db (sendSmsRuanweiCompat env check request db).1 (request.mobiles env.unicode)
      items

/-! ### What raises -/

section

variable (env : RuanweiEnv) (account : Account) (check : WordCheck) (accountId : ℕ)
  (content : String)

def ruanweiMessage (info : PhoneInfo) : String :=
  if env.smsTemplateHasVariables content then env.renderSmsVariables content 1 info else content

def Affordable (db : Db) (channel : Channel) (countryCode message : String) : Prop :=
  ∃ price ∈ env.getPrice channel.id countryCode accountId,
    ∀ stored ∈ db.accounts accountId, stored.paymentType = .postpaid ∨
      price.1 * (if channel.isRcs then 1 else env.countSmsParts message : ℕ) ≤ stored.balance

/-- Nothing that a recipient comes to raises: the word checks answer, the router does not miss a
channel, and the message can be charged. -/
def GoesThrough (db : Db) (phone : String) : Prop :=
  ∀ info, acceptRuanweiNumber env account phone = .ok info →
    validateContent (ruanweiMessage env content info) = none →
      ∃ hit, check 0 (ruanweiMessage env content info) none none = .ok hit ∧ (hit = none →
        ∃ route, env.selectChannel info.countryCode none accountId = .ok route ∧
          ∀ channel ∈ route, ∃ hit, check 1 (ruanweiMessage env content info) (some channel.id)
            (some info.countryCode) = .ok hit ∧ (hit = none →
              Affordable env accountId db channel info.countryCode
                (ruanweiMessage env content info)))

def AllGoThrough : (index : ℕ) → List String → RuanweiLoop → Prop
  | _, [], _ => True
  | index, phone :: phones, loop =>
      GoesThrough env account check accountId content loop.db phone ∧
        ∀ next ∈ loop.recipient env account check accountId content index phone,
          AllGoThrough (index + 1) phones next

end

section

variable {env : RuanweiEnv} {account : Account} {check : WordCheck} {accountId : ℕ}
  {content : String}

theorem affordable_iff {db : Db} {channel : Channel} {countryCode message : String} :
    Affordable env accountId db channel countryCode message ↔
      PricingEngine.calculateAndCharge env.toChunkEnv db accountId channel countryCode message
          false ≠ .pricingNotFound ∧
        PricingEngine.calculateAndCharge env.toChunkEnv db accountId channel countryCode message
          false ≠ .insufficientBalance := by
  rw [Affordable, PricingEngine.calculateAndCharge]
  cases env.getPrice channel.id countryCode accountId with
  | none => simp
  | some price =>
      obtain ⟨amount, currency⟩ := price
      simp only [Option.mem_def, Option.some.injEq, exists_eq_left']
      cases stored : db.accounts accountId with
      | none => simp
      | some account =>
          simp only [Db.deduct, stored, decide_eq_true_eq, Option.some.injEq, forall_eq']
          generalize (if channel.isRcs then 1 else env.countSmsParts message) = units
          by_cases pays : account.paymentType = .postpaid ∨ amount * units ≤ account.balance
          · simp [pays]
          · simp [pays]

theorem acceptRuanweiNumber_ne_raised (phone : String) :
    acceptRuanweiNumber env account phone ≠ .error .raised := by
  rw [acceptRuanweiNumber]
  split
  · simp
  · split <;> simp

theorem goesThrough_iff (index : ℕ) {loop : RuanweiLoop} {phone : String} :
    GoesThrough env account check accountId content loop.db phone ↔
      (loop.recipient env account check accountId content index phone).isSome = true := by
  rw [GoesThrough, RuanweiLoop.recipient, acceptRuanwei]
  rcases accepted : acceptRuanweiNumber env account phone with (code | _) | info
  · simp [bind, Except.bind]
  · exact absurd accepted (acceptRuanweiNumber_ne_raised phone)
  have isMessage : (if env.smsTemplateHasVariables content then
      env.renderSmsVariables content 1 info else content) = ruanweiMessage env content info := rfl
  simp only [Except.ok.injEq, forall_eq', bind, Except.bind, isMessage]
  generalize ruanweiMessage env content info = message
  rcases valid : validateContent message with _ | text
  swap
  · simp [throw, throwThe, MonadExceptOf.throw]
  rcases first : check 0 message none none with text | (_ | word)
  · simp [screenRuanwei, first]
  swap
  · simp [screenRuanwei, first]
  rcases route : env.selectChannel info.countryCode none accountId with text | (_ | channel)
  · simp [screenRuanwei, routeRuanwei, first, route]
  · simp [screenRuanwei, routeRuanwei, first, route]
  rcases second : check 1 message (some channel.id) (some info.countryCode) with text | (_ | word)
  · simp [screenRuanwei, routeRuanwei, first, route, second]
  swap
  · simp [screenRuanwei, routeRuanwei, first, route, second]
  -- every check has let the message through, and the charge decides
  simp only [screenRuanwei, routeRuanwei, first, route, second, pure, Except.pure,
    Acceptance.calculateAndCharge, affordable_iff, Except.ok.injEq, exists_eq_left', forall_const,
    Option.mem_def, Option.some.injEq, forall_eq']
  cases charged : PricingEngine.calculateAndCharge env.toChunkEnv loop.db accountId channel
    info.countryCode message false <;> simp [charged]

end

/-! ### The loop -/

structure RuanweiLoop.Answered (env : RuanweiEnv) (before : Db) (done : List String)
    (rows : List SmsLog) (loop : RuanweiLoop) : Prop where
  sound : loop.Sound env before done.length rows
  inOrder : loop.items.map RuanweiItem.mobile = done
  verdict : ∀ index item, loop.items[index]? = some item →
    (item.result = 0 ∧ item.mid.isSome = true ↔ env.ChargedAndEnqueued rows index)

namespace RuanweiLoop

variable {env : RuanweiEnv} {account : Account} {check : WordCheck} {accountId : ℕ}
  {content phone : String} {before : Db} {done : List String} {rows : List SmsLog}
  {loop : RuanweiLoop}

theorem Answered.length (answered : loop.Answered env before done rows) :
    loop.items.length = done.length := by
  rw [← answered.inOrder, List.length_map]

theorem Sound.not_drawn {index : ℕ} (sound : loop.Sound env before index rows) {row : SmsLog}
    (member : row ∈ rows) : row.messageId ≠ env.drawnId index := by
  obtain ⟨kept, -, logs⟩ := sound.settling.logs
  refine sound.unused.fresh row ?_ index (Nat.le_refl _)
  rw [logs]
  exact List.mem_append_right _ member

theorem getElem?_push {items : List RuanweiItem} {last item : RuanweiItem} {index : ℕ}
    (isItem : (items ++ [last])[index]? = some item) :
    index < items.length ∧ items[index]? = some item ∨ index = items.length ∧ item = last := by
  rcases Nat.lt_or_ge index items.length with isOld | isLater
  · rw [List.getElem?_append_left isOld] at isItem
    exact .inl ⟨isOld, isItem⟩
  · rw [List.getElem?_append_right isLater, List.getElem?_singleton] at isItem
    split at isItem
    · exact .inr ⟨by omega, (Option.some.inj isItem).symm⟩
    · cases isItem

theorem Answered.pass (answered : loop.Answered env before done rows) (code : ℕ) :
    (loop.pass phone code).Answered env before (done ++ [phone]) rows := by
  refine ⟨?_, ?_, ?_⟩
  · rw [List.length_append]
    exact answered.sound.pass phone code
  · simp [RuanweiLoop.pass, answered.inOrder]
  · intro index item isItem
    rcases getElem?_push isItem with ⟨-, isOld⟩ | ⟨rfl, rfl⟩
    · exact answered.verdict index item isOld
    · refine iff_of_false (by simp) ?_
      rintro ⟨row, member, isDrawn, -⟩
      rw [answered.length] at isDrawn
      exact answered.sound.not_drawn member isDrawn

theorem chargedAndEnqueued_append (distinct : Function.Injective env.drawnId) {row : SmsLog}
    {index other : ℕ} (isDrawn : row.messageId = env.drawnId other) (differs : index ≠ other) :
    env.ChargedAndEnqueued (rows ++ [row]) index ↔ env.ChargedAndEnqueued rows index := by
  constructor
  · rintro ⟨found, member, isFound, rest⟩
    rcases List.mem_append.mp member with old | isRow
    · exact ⟨found, old, isFound, rest⟩
    · rw [List.mem_singleton.mp isRow, isDrawn] at isFound
      exact absurd (distinct isFound).symm differs
  · rintro ⟨found, member, rest⟩
    exact ⟨found, List.mem_append_left _ member, rest⟩

theorem enqueue_items (loop : RuanweiLoop) (messageId : MessageId) (booked : Db) :
    (loop.enqueue env phone messageId booked).items = loop.items ++
      [⟨phone, some messageId, if queueSms env.broker messageId then 0 else 17⟩] := by
  rw [RuanweiLoop.enqueue]
  split <;> simp

theorem Answered.enqueue (answered : loop.Answered env before done rows)
    (distinct : Function.Injective env.drawnId) {booked : Db} {row : SmsLog}
    (booking : Booking loop.db booked row) (isDrawn : row.messageId = env.drawnId done.length) :
    ∃ more, (loop.enqueue env phone row.messageId booked).Answered env before (done ++ [phone])
      more := by
  obtain ⟨added, same, unrefunded, sound⟩ :=
    answered.sound.enqueue distinct booking isDrawn phone
  refine ⟨rows ++ [added], ?_, ?_, ?_⟩
  · rw [List.length_append]
    exact sound
  · simp [enqueue_items, answered.inOrder]
  · intro index item isItem
    rw [enqueue_items] at isItem
    rcases getElem?_push isItem with ⟨isEarlier, isOld⟩ | ⟨rfl, rfl⟩
    · rw [answered.length] at isEarlier
      rw [chargedAndEnqueued_append distinct (same.trans isDrawn) (Nat.ne_of_lt isEarlier)]
      exact answered.verdict index item isOld
    · cases accepts : queueSms env.broker row.messageId with
      | true =>
          refine iff_of_true (by simp) ⟨added, by simp, ?_, ?_, ?_⟩
          · rw [same, isDrawn, answered.length]
          · exact credit_of_unrefunded (unrefunded accepts)
          · rw [same, accepts]
      | false =>
          refine iff_of_false (by simp) ?_
          rintro ⟨found, -, isFound, -, isQueued⟩
          rw [isFound, answered.length, ← isDrawn, accepts] at isQueued
          cases isQueued

theorem Answered.recipient (answered : loop.Answered env before done rows)
    (distinct : Function.Injective env.drawnId) {next : RuanweiLoop}
    (goesOn : loop.recipient env account check accountId content done.length phone = some next) :
    ∃ more, next.Answered env before (done ++ [phone]) more := by
  rcases recipient_cases goesOn with ⟨code, rfl⟩ | ⟨booked, row, booking, isDrawn, rfl⟩
  · exact ⟨rows, answered.pass code⟩
  · exact answered.enqueue distinct booking isDrawn

variable (account check accountId content) in
theorem Answered.recipients (distinct : Function.Injective env.drawnId) (phones : List String)
    (answered : loop.Answered env before done rows) :
    (¬ AllGoThrough env account check accountId content done.length phones loop ∧
        (loop.recipients env account check accountId content done.length phones).2 = true) ∨
      AllGoThrough env account check accountId content done.length phones loop ∧
        ∃ last more, loop.recipients env account check accountId content done.length phones =
          (last, false) ∧ last.Answered env before (done ++ phones) more := by
  induction phones generalizing done rows loop with
  | nil =>
      refine .inr ⟨trivial, loop, rows, rfl, ?_⟩
      rw [List.append_nil]
      exact answered
  | cons phone phones ih =>
      rw [AllGoThrough, goesThrough_iff done.length, RuanweiLoop.recipients]
      cases goesOn : loop.recipient env account check accountId content done.length phone with
      | none => exact .inl ⟨fun all => absurd all.1 Bool.false_ne_true, rfl⟩
      | some next =>
          obtain ⟨more, nextAnswered⟩ := answered.recipient distinct goesOn
          have rest := ih nextAnswered
          rw [List.length_append, List.append_assoc] at rest
          rcases rest with ⟨raises, ended⟩ | ⟨all, last, rows, ended, isAnswered⟩
          · exact .inl ⟨fun all => raises (all.2 next rfl), ended⟩
          · refine .inr ⟨⟨rfl, ?_⟩, last, rows, ended, isAnswered⟩
            rintro _ ⟨⟩
            exact all

end RuanweiLoop

/-! ### The endpoint -/

section

variable {env : RuanweiEnv} {account : Account} {check : WordCheck} {accountId : ℕ}
  {request : RuanweiRequest} {db : Db}

theorem acceptRuanweiRequest_of_signed (signed : env.Signed request accountId) :
    acceptRuanweiRequest env request =
      if request.mobiles env.unicode = [] then .error "21"
      else .ok (accountId, request.content.getD "", request.mobiles env.unicode) := by
  obtain ⟨secret, some_, isActive, signature⟩ := signed.signature
  rw [acceptRuanweiRequest, if_neg (not_not_intro signed.action)]
  simp only [signed.account, signed.mobile, signed.content, signed.password, or_self, if_false,
    isActive, Option.getD_some, some_, signature, ne_eq, not_true_eq_false]
  rfl

theorem RuanweiLoop.Answered.verdicts {loop : RuanweiLoop} {done : List String}
    {rows : List SmsLog} (answered : loop.Answered env db done rows) :
    env.Verdicts db loop.db done loop.items := by
  obtain ⟨kept, sameLength, logs⟩ := answered.sound.settling.logs
  have added : loop.db.smsLogs.drop db.smsLogs.length = rows := by
    rw [logs, ← sameLength, List.drop_left]
  refine ⟨answered.inOrder, ?_, ?_⟩
  · rw [added]
    exact answered.verdict
  · rw [added]
    exact answered.sound.settling.balance

/-- A signed request is answered with its verdicts when it names a mobile and none of its mobiles
comes to an exception, and only then. -/
theorem ruanwei_answers_iff (distinct : Function.Injective env.drawnId)
    (unused : env.toApiEnv.Unused 0 db) (stored : db.accounts accountId = some account)
    (signed : env.Signed request accountId) :
    env.Answers check request db ↔
      request.mobiles env.unicode ≠ [] ∧
        AllGoThrough env account check accountId (request.content.getD "") 0
          (request.mobiles env.unicode) ⟨db, db, []⟩ := by
  rw [RuanweiEnv.Answers, sendSmsRuanweiCompat, acceptRuanweiRequest_of_signed signed]
  by_cases none_ : request.mobiles env.unicode = []
  · rw [if_pos none_]
    simp [none_]
  rw [if_neg none_]
  have start : (RuanweiLoop.mk db db []).Answered env db [] [] :=
    ⟨.start unused, rfl, by simp⟩
  simp only [ruanweiLoop, stored]
  rcases start.recipients account check accountId (request.content.getD "") distinct
    (request.mobiles env.unicode) with ⟨raises, ended⟩ | ⟨all, last, rows, ended, answered⟩
  · rw [List.length_nil] at raises ended
    refine iff_of_false ?_ fun goes => raises goes.2
    rcases result : RuanweiLoop.recipients env account check accountId (request.content.getD "") 0
      (request.mobiles env.unicode) ⟨db, db, []⟩ with ⟨last, isEnded⟩
    rw [result] at ended
    cases ended
    simp
  · rw [List.length_nil] at all ended
    simp only [ended]
    exact iff_of_true ⟨last.items, rfl, answered.verdicts⟩ ⟨none_, all⟩

def callCentre : RuanweiEnv where
  toApiEnv := ApiEnv.plain (.plain .http) 100
  activeAccount name := if name = "okcc" then some (1, some "secret") else none
  md5 text := text

def twoMobiles : RuanweiRequest where
  action := some "send"
  account := some "okcc"
  mobile := some "+1,+2"
  content := some "hello"
  extno := none
  password := some "secrethello+1,+2"

def prepaidTables (balance : Money) : Db where
  accounts id := if id = 1 then some ⟨balance, .prepaid, none⟩ else none
  smsLogs := []
  balanceLogs := []
  batches _ := none
  channels _ := none

theorem unused_prepaidTables (balance : Money) :
    callCentre.toApiEnv.Unused 0 (prepaidTables balance) :=
  ⟨⟨List.nodup_nil, List.nodup_nil⟩, fun _ member => absurd member List.not_mem_nil⟩

theorem twoMobiles_signed : callCentre.Signed twoMobiles 1 :=
  ⟨rfl, by decide, by decide, by decide, by decide, ⟨"secret", by decide, rfl, by decide⟩⟩

theorem mobiles_twoMobiles : twoMobiles.mobiles callCentre.unicode = ["+1", "+2"] := by
  have split : "+1,+2".splitOn "," = ["+1", "+2"] := by
    -- the text is read character by character
    rw [String.splitOn, if_neg (by decide)]
    rw [String.splitOnAux, if_neg (by decide), if_neg (by decide)]
    rw [String.splitOnAux, if_neg (by decide), if_neg (by decide)]
    rw [String.splitOnAux, if_neg (by decide), if_pos (by decide),
      if_pos (by decide)]
    rw [String.splitOnAux, if_neg (by decide), if_neg (by decide)]
    rw [String.splitOnAux, if_neg (by decide), if_neg (by decide)]
    rw [String.splitOnAux, if_pos (by decide)]
    decide
  change (("+1,+2".splitOn ",").map _).filter _ = _
  rw [split]
  decide

theorem ruanwei_answers_iff_funded :
    callCentre.Answers noWordCheck twoMobiles (prepaidTables 250) := by
  have stored : (prepaidTables 250).accounts 1 = some ⟨250, .prepaid, none⟩ := rfl
  refine (ruanwei_answers_iff (fun _ _ same => same) (unused_prepaidTables 250) stored
    twoMobiles_signed).mpr ?_
  rw [mobiles_twoMobiles]
  have second : ((RuanweiLoop.mk (prepaidTables 250) (prepaidTables 250) []).recipient callCentre
      ⟨250, .prepaid, none⟩ noWordCheck 1 "hello" 0 "+1").all (fun next =>
        (next.recipient callCentre ⟨250, .prepaid, none⟩ noWordCheck 1 "hello" 1 "+2").isSome) =
          true := by decide
  refine ⟨by simp, (goesThrough_iff 0).mpr (by decide : (RuanweiLoop.recipient callCentre
    ⟨250, .prepaid, none⟩ noWordCheck 1 "hello" 0 "+1" _).isSome = true), ?_⟩
  intro next (isNext : RuanweiLoop.recipient callCentre ⟨250, .prepaid, none⟩ noWordCheck 1
    "hello" 0 "+1" _ = some next)
  rw [isNext] at second
  exact ⟨(goesThrough_iff 1).mpr second, fun _ _ => trivial⟩

/-- The balance covers the first of two messages. It is charged and enqueued, and no response says
so. -/
theorem ruanwei_answer_lost :
    callCentre.Signed twoMobiles 1 ∧
      (sendSmsRuanweiCompat callCentre noWordCheck twoMobiles (prepaidTables 150)).2 = none ∧
      (sendSmsRuanweiCompat callCentre noWordCheck twoMobiles (prepaidTables 150)).1.balance 1 =
        some 50 ∧
      callCentre.ChargedAndEnqueued (sendSmsRuanweiCompat callCentre noWordCheck twoMobiles
        (prepaidTables 150)).1.smsLogs 0 ∧
      ¬ callCentre.Answers noWordCheck twoMobiles (prepaidTables 150) := by
  let outcome := ruanweiLoop callCentre noWordCheck 1 "hello" ["+1", "+2"] (prepaidTables 150)
  have ended : sendSmsRuanweiCompat callCentre noWordCheck twoMobiles (prepaidTables 150) =
      (outcome.1.committed, none) := by
    have isEnded : outcome.2 = true := by decide
    rw [sendSmsRuanweiCompat, acceptRuanweiRequest_of_signed twoMobiles_signed,
      mobiles_twoMobiles, if_neg (by simp)]
    split
    · rename_i refused
      cases refused
    · rename_i accepted
      cases accepted
      split
      · rename_i loop found
        rw [show outcome = (loop, true) from found]
      · rename_i loop found
        rw [show outcome = (loop, false) from found] at isEnded
        cases isEnded
  have balance : outcome.1.committed.balance 1 = some 50 := by decide
  have charged : callCentre.ChargedAndEnqueued outcome.1.committed.smsLogs 0 := by
    have passed : (outcome.1.committed.smsLogs.any fun row => row.messageId = 0 ∧ row.credit = 0 ∧
        queueSms callCentre.broker row.messageId = true) = true := by decide
    obtain ⟨row, member, isCharged⟩ := List.any_eq_true.mp passed
    exact ⟨row, member, of_decide_eq_true isCharged⟩
  refine ⟨twoMobiles_signed, ?_, ?_, ?_, ?_⟩
  · rw [ended]
  · rw [ended]
    exact balance
  · rw [ended]
    exact charged
  · rintro ⟨items, answered, -⟩
    rw [ended] at answered
    cases answered

end

end Klsmsc
