import Klsmsc.DirectSends.Outcome

/-!
# Charged messages are enqueued or refunded

`submit_sms_core` and `execute_approved_sms` leave no message charged that they could not enqueue.
The compatible protocol does where an exception ends the request before the refund of an earlier
recipient is committed.
-/

namespace Klsmsc

open Library

structure ApiEnv.Unused (env : ApiEnv) (index : ℕ) (db : Db) : Prop where
  keyed : db.Keyed
  fresh : ∀ row ∈ db.smsLogs, ∀ later, index ≤ later → row.messageId ≠ env.drawnId later

/-! ### The outcomes -/

/-- The outcome of `submit_sms_core`. -/
def submitOutcome (env : ApiEnv) (account : Account) (check : WordCheck) (request : SubmitRequest)
    (options : SubmitOptions) (db : Db) : SendOutcome :=
  let sent := submitSmsCore env account check request options db
  chargedOutcome db sent.1 (fun messageId => queueSms env.broker messageId = false)
    (if sent.2.success then [] else sent.2.messageId.toList)

/-- The outcome of `execute_approved_sms`, whose errors are about its only message. -/
def executeOutcome (env : ApiEnv) (account : Account) (check : WordCheck) (accountId : ℕ)
    (approval : Option SmsContentApproval) (phoneNumber : Option String) (db : Db) : SendOutcome :=
  let sent := executeApprovedSms env account check accountId approval phoneNumber db
  chargedOutcome db sent.1 (fun messageId => queueSms env.broker messageId = false)
    (match sent.2.2 with
      | .sent _ _ => []
      | _ => [env.drawnId 0])

/-- The outcome of `send_sms_ruanwei_compat`. -/
def ruanweiOutcome (env : RuanweiEnv) (check : WordCheck) (request : RuanweiRequest) (db : Db) :
    SendOutcome :=
  let sent := sendSmsRuanweiCompat env check request db
  let items := (sent.2.map Prod.snd).getD []
  chargedOutcome db sent.1 (fun messageId => queueSms env.broker messageId = false)
    (items.filterMap fun item => if item.result = 0 then none else item.mid)

def RuanweiEnv.CommitsRefunds (env : RuanweiEnv) (check : WordCheck) (request : RuanweiRequest)
    (db : Db) : Prop :=
  ∀ accountId content phones,
    acceptRuanweiRequest env request = .ok (accountId, content, phones) →
      ∀ loop, ruanweiLoop env check accountId content phones db = (loop, true) →
        loop.committed = loop.db

/-! ### One message -/

section

variable {env : ApiEnv} {db booked : Db} {row : SmsLog} {index : ℕ}

theorem ApiEnv.Unused.book (unused : env.Unused index db) (booking : Booking db booked row)
    (distinct : Function.Injective env.drawnId) (isDrawn : row.messageId = env.drawnId index) :
    env.Unused (index + 1) booked := by
  constructor
  · refine booking.keyed unused.keyed ?_
    intro stored member
    rw [isDrawn]
    exact unused.fresh stored member index (Nat.le_refl _)
  · intro stored member later isLater
    rw [booking.logs] at member
    rcases List.mem_append.mp member with old | isRow
    · exact unused.fresh stored old later (Nat.le_of_succ_le isLater)
    · rw [List.mem_singleton.mp isRow, isDrawn]
      intro same
      have equal := distinct same
      omega

theorem ApiEnv.Unused.of_keys (unused : env.Unused index db) {other : Db}
    (same : other.logKeys = db.logKeys) : env.Unused index other := by
  have ids : other.smsLogs.map SmsLog.id = db.smsLogs.map SmsLog.id := by
    have equal := congrArg (List.map Prod.fst) same
    rw [Db.logKeys, Db.logKeys, List.map_map, List.map_map] at equal
    exact equal
  have messageIds : other.smsLogs.map SmsLog.messageId = db.smsLogs.map SmsLog.messageId := by
    have equal := congrArg (List.map Prod.snd) same
    rw [Db.logKeys, Db.logKeys, List.map_map, List.map_map] at equal
    exact equal
  refine ⟨⟨ids ▸ unused.keyed.ids, messageIds ▸ unused.keyed.messageIds⟩, ?_⟩
  intro stored member later isLater
  have inside := List.mem_map_of_mem (f := SmsLog.messageId) member
  rw [messageIds] at inside
  rcases List.mem_map.mp inside with ⟨old, oldMember, equal⟩
  rw [← equal]
  exact unused.fresh old oldMember later isLater

theorem logIf_same (deferred : Bool) (db : Db) (accountId : ℕ) (messageId : MessageId) :
    let logged := if deferred then logBooked db accountId messageId else db
    logged.smsLogs = db.smsLogs ∧ ∀ other, logged.balance other = db.balance other := by
  simp only [logBooked]
  split
  · split
    · exact ⟨rfl, fun _ => rfl⟩
    · exact ⟨rfl, fun _ => rfl⟩
  · exact ⟨rfl, fun _ => rfl⟩

theorem settles_of_unchanged (db : Db) (lost : MessageId → Prop) (reported : List MessageId) :
    (chargedOutcome db db lost reported).Settles := by
  rw [(Settling.start db).settles_iff]
  exact ⟨fun _ member => absurd member List.not_mem_nil,
    fun _ member => absurd member List.not_mem_nil⟩

theorem settles_of_queued {before : Db} (settling : Settling before [row] db)
    (accepts : queueSms env.broker row.messageId = true) :
    (chargedOutcome before db (fun messageId => queueSms env.broker messageId = false)
      []).Settles := by
  rw [settling.settles_iff]
  constructor
  · intro other member lost
    rw [List.mem_singleton.mp member, accepts] at lost
    cases lost
  · intro other _ isReported
    cases isReported

theorem settles_of_unqueued {before : Db} (settling : Settling before [row] db) (keyed : db.Keyed)
    (unrefunded : row.refundedAt = none) (unicode : Unicode) (source text : String) (now : ℕ)
    (lost : MessageId → Prop) (reported : List MessageId) :
    (chargedOutcome before (failUnqueued unicode db row.messageId source text now) lost
      reported).Settles := by
  have last : Settling before ([] ++ [row]) db := settling
  rcases last.fail keyed unrefunded unicode source text now with ⟨failed, unqueued, after, -⟩
  rw [after.settles_iff]
  constructor
  · intro other member _
    rw [List.mem_singleton.mp member]
    exact ⟨unqueued.status, unqueued.costsNothing⟩
  · intro other member _
    rw [List.mem_singleton.mp member]
    exact unqueued.costsNothing

theorem submit_settles (account : Account) (check : WordCheck) (request : SubmitRequest)
    (options : SubmitOptions) (keyed : db.Keyed) :
    (submitOutcome env account check request options db).Settles := by
  rw [submitOutcome, submitSmsCore]
  split
  · exact settles_of_unchanged db _ _
  · rename_i accepted accepts
    simp only
    split
    · rename_i paid charge charged
      split
      · exact settles_of_unchanged db _ _
      · rename_i unknown
        let row := accepted.row request.accountId db.nextId (options.messageId env) charge env.now
        have booking : Booking db (paid.addSmsLogs [row]) row :=
          booking_of_charged row charged rfl rfl rfl rfl rfl
        have fresh : ∀ stored ∈ db.smsLogs, stored.messageId ≠ options.messageId env := by
          intro stored member same
          exact unknown (List.any_eq_true.mpr ⟨stored, member, decide_eq_true same⟩)
        have isKeyed := booking.keyed keyed fresh
        have settling : Settling db [row] (paid.addSmsLogs [row]) :=
          (Settling.start db).book booking
        have logged := logIf_same options.deferBalanceLog (paid.addSmsLogs [row])
          request.accountId (options.messageId env)
        have settlingLogged := settling.of_same logged.1 logged.2
        split
        · rename_i accepts
          exact settles_of_queued settlingLogged accepts
        · exact settles_of_unqueued settlingLogged
            ⟨logged.1 ▸ isKeyed.ids, logged.1 ▸ isKeyed.messageIds⟩ rfl _ _ _ _ _ _
    · exact settles_of_unchanged db _ _

theorem execute_settles (account : Account) (check : WordCheck) (accountId : ℕ)
    (approval : Option SmsContentApproval) (phoneNumber : Option String)
    (unused : env.Unused 0 db) :
    (executeOutcome env account check accountId approval phoneNumber db).Settles := by
  rw [executeOutcome, executeApprovedSms]
  split
  · exact settles_of_unchanged db _ _
  · rename_i numbered accepted accepts
    simp only
    split
    · rename_i paid charge charged
      let row := accepted.row accountId db.nextId (env.drawnId 0) charge env.now
      have booking : Booking db (paid.addSmsLogs [row]) row :=
        booking_of_charged row charged rfl rfl rfl rfl rfl
      have isKeyed := booking.keyed unused.keyed fun stored member =>
        unused.fresh stored member 0 (Nat.le_refl _)
      have settling : Settling db [row] (paid.addSmsLogs [row]) := (Settling.start db).book booking
      split
      · rename_i accepts
        exact settles_of_queued settling accepts
      · exact settles_of_unqueued settling isKeyed rfl _ _ _ _ _ _
    · exact settles_of_unchanged db _ _
    · exact settles_of_unchanged db _ _

end

/-! ### The compatible protocol -/

/-- The loop over the recipients, with the rows that it has added. Where the committed tables are
behind those of the session, they lack the refund of the last row. -/
structure RuanweiLoop.Sound (env : RuanweiEnv) (before : Db) (index : ℕ) (rows : List SmsLog)
    (loop : RuanweiLoop) : Prop where
  settling : Settling before rows loop.db
  unused : env.toApiEnv.Unused index loop.db
  treated : ∀ row ∈ rows, queueSms env.broker row.messageId = false →
    row.status = .failed ∧ row.CostsNothing
  items : ∀ item ∈ loop.items, item.result ≠ 0 → ∀ messageId, item.mid = some messageId →
    queueSms env.broker messageId = false
  behind : loop.committed = loop.db ∨
    loop.committed ≠ loop.db ∧ ∃ earlier row, Settling before (earlier ++ [row]) loop.committed ∧
      row.status = .queued ∧ queueSms env.broker row.messageId = false

namespace RuanweiLoop

section

variable {env : RuanweiEnv} {account : Account} {check : WordCheck} {accountId : ℕ}
  {content : String} {before : Db} {index : ℕ} {rows : List SmsLog} {loop : RuanweiLoop}

theorem Sound.pass (sound : loop.Sound env before index rows) (phone : String) (result : ℕ) :
    (loop.pass phone result).Sound env before (index + 1) rows where
  settling := sound.settling
  unused := ⟨sound.unused.keyed, fun stored member later isLater =>
    sound.unused.fresh stored member later (Nat.le_of_succ_le isLater)⟩
  treated := sound.treated
  items := by
    intro item member notZero messageId isId
    rcases List.mem_append.mp member with old | isNew
    · exact sound.items item old notZero messageId isId
    · rw [List.mem_singleton.mp isNew] at isId
      cases isId
  behind := sound.behind

theorem Sound.enqueue (sound : loop.Sound env before index rows)
    (distinct : Function.Injective env.drawnId) {booked : Db} {row : SmsLog}
    (booking : Booking loop.db booked row) (isDrawn : row.messageId = env.drawnId index)
    (phone : String) :
    ∃ added : SmsLog, added.messageId = row.messageId ∧
      (queueSms env.broker row.messageId = true → added.refundedAt = none) ∧
      (loop.enqueue env phone row.messageId booked).Sound env before (index + 1)
        (rows ++ [added]) := by
  have unused : env.toApiEnv.Unused (index + 1) booked :=
    sound.unused.book booking distinct isDrawn
  have settling := sound.settling.book booking
  rw [RuanweiLoop.enqueue]
  split
  · rename_i accepts
    refine ⟨row, rfl, fun _ => booking.unrefunded, settling, unused, ?_, ?_, .inl rfl⟩
    · intro other member refused
      rcases List.mem_append.mp member with old | isNew
      · exact sound.treated other old refused
      · rw [List.mem_singleton.mp isNew, accepts] at refused
        cases refused
    · intro item member notZero messageId isId
      rcases List.mem_append.mp member with old | isNew
      · exact sound.items item old notZero messageId isId
      · rw [List.mem_singleton.mp isNew] at notZero
        exact absurd rfl notZero
  · rename_i refuses
    have lost : queueSms env.broker row.messageId = false := Bool.eq_false_iff.mpr refuses
    rcases settling.fail unused.keyed booking.unrefunded env.unicode "ruanwei_queue_failed"
      "queue failed" env.now with ⟨failed, unqueued, after, keys⟩
    refine ⟨failed, unqueued.messageId, fun accepts => absurd accepts refuses, after,
      unused.of_keys keys, ?_, ?_, .inr ⟨?_, rows, row, settling, booking.queued, lost⟩⟩
    · intro other member refused
      rcases List.mem_append.mp member with old | isNew
      · exact sound.treated other old refused
      · rw [List.mem_singleton.mp isNew]
        exact ⟨unqueued.status, unqueued.costsNothing⟩
    · intro item member notZero messageId isId
      rcases List.mem_append.mp member with old | isNew
      · exact sound.items item old notZero messageId isId
      · rw [List.mem_singleton.mp isNew] at isId
        cases isId
        exact lost
    · intro same
      rcases settling.logs with ⟨kept, -, queuedLogs⟩
      rcases after.logs with ⟨others, -, failedLogs⟩
      have lastRows : some row = some failed := by
        have equal := congrArg (fun tables : Db => tables.smsLogs.getLast?) same
        simpa [queuedLogs, failedLogs] using equal
      have status := unqueued.status
      rw [← Option.some.inj lastRows, booking.queued] at status
      cases status

theorem recipient_cases {phone : String} {next : RuanweiLoop}
    (goesOn : loop.recipient env account check accountId content index phone = some next) :
    (∃ code, next = loop.pass phone code) ∨
      ∃ booked row, Booking loop.db booked row ∧ row.messageId = env.drawnId index ∧
        next = loop.enqueue env phone row.messageId booked := by
  rw [RuanweiLoop.recipient] at goesOn
  split at goesOn
  · cases goesOn
    exact .inl ⟨_, rfl⟩
  · cases goesOn
  · rename_i accepted accepts
    simp only at goesOn
    split at goesOn
    · rename_i paid charge charged
      cases goesOn
      let row := accepted.row accountId loop.db.nextId (env.drawnId index) charge env.now
      have booking : Booking loop.db (paid.addSmsLogs [row]) row :=
        booking_of_charged row charged rfl rfl rfl rfl rfl
      exact .inr ⟨_, row, booking, rfl, rfl⟩
    · cases goesOn
      exact .inl ⟨_, rfl⟩
    · cases goesOn

theorem Sound.recipient (sound : loop.Sound env before index rows)
    (distinct : Function.Injective env.drawnId) {phone : String} {next : RuanweiLoop}
    (goesOn : loop.recipient env account check accountId content index phone = some next) :
    ∃ rows, next.Sound env before (index + 1) rows := by
  rcases recipient_cases goesOn with ⟨code, rfl⟩ | ⟨booked, row, booking, isDrawn, rfl⟩
  · exact ⟨rows, sound.pass phone code⟩
  · obtain ⟨added, -, -, after⟩ := sound.enqueue distinct booking isDrawn phone
    exact ⟨rows ++ [added], after⟩

theorem Sound.recipients (distinct : Function.Injective env.drawnId) (phones : List String)
    (sound : loop.Sound env before index rows) :
    ∃ last rows, ((loop.recipients env account check accountId content index phones).1).Sound env
      before last rows := by
  induction phones generalizing index rows loop with
  | nil => exact ⟨index, rows, sound⟩
  | cons phone phones ih =>
      rw [RuanweiLoop.recipients]
      split
      · exact ⟨index, rows, sound⟩
      · rename_i next goesOn
        rcases sound.recipient distinct goesOn with ⟨more, nextSound⟩
        exact ih nextSound

theorem Sound.start {db : Db} (unused : env.toApiEnv.Unused 0 db) :
    (RuanweiLoop.mk db db []).Sound env db 0 [] where
  settling := .start db
  unused := unused
  treated _ member := absurd member List.not_mem_nil
  items _ member := absurd member List.not_mem_nil
  behind := .inl rfl

theorem Sound.settles (sound : loop.Sound env before index rows) :
    (chargedOutcome before loop.db (fun messageId => queueSms env.broker messageId = false)
      (loop.items.filterMap fun item => if item.result = 0 then none else item.mid)).Settles := by
  rw [sound.settling.settles_iff]
  refine ⟨sound.treated, ?_⟩
  intro row member isReported
  rcases List.mem_filterMap.mp isReported with ⟨item, isItem, isId⟩
  split at isId
  · cases isId
  · rename_i notZero
    exact (sound.treated row member (sound.items item isItem notZero _ isId)).2

theorem Sound.settles_iff_committed (sound : loop.Sound env before index rows) :
    (chargedOutcome before loop.committed (fun messageId => queueSms env.broker messageId = false)
      []).Settles ↔ loop.committed = loop.db := by
  constructor
  · intro settles
    rcases sound.behind with same | ⟨-, earlier, row, settling, isQueued, lost⟩
    · exact same
    · have failed := ((settling.settles_iff _ _).mp settles).1 row
        (List.mem_append_right _ List.mem_cons_self) lost
      rw [isQueued] at failed
      cases failed.1
  · intro same
    rw [same, sound.settling.settles_iff]
    exact ⟨sound.treated, fun _ _ isReported => absurd isReported List.not_mem_nil⟩

end

end RuanweiLoop

section

variable {env : RuanweiEnv} {check : WordCheck} {db : Db}

variable (check) in
theorem ruanweiLoop_sound (distinct : Function.Injective env.drawnId)
    (unused : env.toApiEnv.Unused 0 db) (accountId : ℕ) (content : String)
    (phones : List String) :
    ∃ last rows,
      ((ruanweiLoop env check accountId content phones db).1).Sound env db last rows := by
  rw [ruanweiLoop]
  split
  · exact ⟨0, [], .start unused⟩
  · exact RuanweiLoop.Sound.recipients distinct phones (.start unused)

theorem ruanwei_settles_iff (distinct : Function.Injective env.drawnId)
    (unused : env.toApiEnv.Unused 0 db) (request : RuanweiRequest) :
    (ruanweiOutcome env check request db).Settles ↔ env.CommitsRefunds check request db := by
  rw [ruanweiOutcome, sendSmsRuanweiCompat, RuanweiEnv.CommitsRefunds]
  split
  · rename_i status refused
    refine iff_of_true (settles_of_unchanged db _ _) ?_
    intro accountId content phones accepted
    rw [refused] at accepted
    cases accepted
  · rename_i accountId content phones accepted
    rcases ruanweiLoop_sound check distinct unused accountId content phones with
      ⟨last, rows, sound⟩
    split
    · rename_i loop ended
      rw [ended] at sound
      refine Iff.trans sound.settles_iff_committed ?_
      constructor
      · intro same accountId' content' phones' accepted' loop' ended'
        rw [accepted] at accepted'
        cases accepted'
        rw [ended] at ended'
        cases ended'
        exact same
      · intro commits
        exact commits _ _ _ accepted loop ended
    · rename_i loop ended
      rw [ended] at sound
      refine iff_of_true sound.settles ?_
      intro accountId' content' phones' accepted' loop' ended'
      rw [accepted] at accepted'
      cases accepted'
      rw [ended] at ended'
      cases ended'

end

end Klsmsc
