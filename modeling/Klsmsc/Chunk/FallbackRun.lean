import Klsmsc.Chunk.Undisturbed
import Klsmsc.Library.Windows

/-!
# The undisturbed fallback path

Without exceptions the fallback path charges the items one by one up to the first that has
no price or that the balance does not suffice for. It collects their rows in windows of
fifty and hands each window over on the route of the item that has filled it, and what is
left on the route of the last item that it has come to; but a window is only counted once
an item on a virtual channel has been charged.
-/

namespace Klsmsc

open Library

section

variable (env : ChunkEnv) (input : ChunkInput)

/-- What `calculate_and_charge` takes from an account for an item, unless it raises. -/
def ValidItem.fee (item : ValidItem) (account : Account) : Option Money :=
  match env.getPrice item.channel.id item.phoneInfo.countryCode input.accountId with
  | none => none
  | some (price, _) =>
      let total := price * item.billableUnits env
      if account.paymentType = .postpaid ∨ total ≤ account.balance then some total else none

def Account.charge (account : Account) (total : Money) : Account :=
  { account with balance := account.balance + -total }

def chargedItems : Account → List ValidItem → List (ValidItem × Money)
  | _, [] => []
  | account, item :: items =>
      match item.fee env input account with
      | none => []
      | some total => (item, total) :: chargedItems (account.charge total) items

abbrev ChargedItem := (ValidItem × Money) × ℕ

def ChargedItem.messageId (entry : ChargedItem) : MessageId :=
  env.messageId (.fallback entry.2)

def ChargedItem.smsLog (entry : ChargedItem) : SmsLog :=
  entry.1.1.fallbackSmsLog env input entry.2 entry.1.2

def ValidItem.isVirtual (item : ValidItem) : Bool :=
  item.channel.protocol = .virtual

def virtualBy (charged : List (ValidItem × Money)) (index : ℕ) : Bool :=
  (charged.take (index + 1)).any fun entry => entry.1.isVirtual

/-- What decides about a window: the channel that it is handed over for, and whether an
item on a virtual channel has been charged. -/
abbrev GroupLabel := Option Channel × Bool

def groupLabel (charged : List (ValidItem × Money)) (entry : ChargedItem) : GroupLabel :=
  (some entry.1.1.channel, virtualBy charged entry.2)

def GroupLabel.route (label : GroupLabel) : Option Route :=
  if label.2 then none else some (groupRoute label.1)

def windowEntries (window : List ChargedItem × Option GroupLabel) : List (MessageId × Route) :=
  match window.2.bind GroupLabel.route with
  | none => []
  | some route => route.entries (window.1.map (ChargedItem.messageId env))

def reached (last : Option Channel) (items : List ValidItem) (count : ℕ) : Option Channel :=
  match items.drop count with
  | item :: _ => some item.channel
  | [] =>
      match items.getLast? with
      | some item => some item.channel
      | none => last

def virtualIdsOf (charged : List ChargedItem) : List MessageId :=
  (charged.filter fun entry => entry.1.1.isVirtual).map (ChargedItem.messageId env)

def collected (charged done : List (ValidItem × Money)) : Collector ChargedItem GroupLabel :=
  done.zipIdx.foldl (Collector.take commitEvery (groupLabel charged)) .empty

theorem collected_append (charged done : List (ValidItem × Money)) (entry : ValidItem × Money) :
    collected charged (done ++ [entry]) =
      (collected charged done).take commitEvery (groupLabel charged) (entry, done.length) := by
  simp [collected, List.zipIdx_append]

structure Collecting (start : Db) (ledger : Ledger) (before : Locals)
    (charged done : List (ValidItem × Money)) (account : Account) (state : ChunkState) :
    Prop where
  tables : ∃ committed working, working.rows = ledger.rows ++
      done.zipIdx.map (fun entry => (ChargedItem.smsLog env input entry).core) ∧
    Stands start input.accountId committed working (fun _ => True) state
  account : state.working.accounts input.accountId = some account
  pending : state.commitBatch = (collected charged done).pending.map fun entry =>
    (ChargedItem.messageId env entry, entry.1.2)
  handed : state.handed =
    before.handed ++ (collected charged done).passed.flatMap (windowEntries env)
  virtualIds : state.virtualIds = before.virtualIds ++ virtualIdsOf env done.zipIdx
  virtualChannelId : state.virtualChannelId.isSome = done.any fun entry => entry.1.isVirtual

structure Collects (start : Db) (ledger : Ledger) (before : Locals)
    (charged done : List (ValidItem × Money)) (account : Account) (state : ChunkState) : Prop
    extends Collecting env input start ledger before charged done account state where
  settled : (collected charged done).pending = [] → ∃ both : Ledger, both.rows = ledger.rows ++
      done.zipIdx.map (fun entry => (ChargedItem.smsLog env input entry).core) ∧
    Stands start input.accountId both both (fun _ => True) state

end

section

variable {env : ChunkEnv} {input : ChunkInput} {start : Db} {ledger : Ledger} {before : Locals}
  {batchStatus : String} {charged done : List (ValidItem × Money)} {account : Account}

theorem deduct_of_account {db : Db} (isAccount : db.accounts input.accountId = some account)
    (total : Money) :
    db.deduct input.accountId (account.paymentType = .postpaid) total =
      if account.paymentType = .postpaid ∨ total ≤ account.balance then
        some (db.addBalance input.accountId (-total))
      else none := by
  simp only [Db.deduct, isAccount, decide_eq_true_eq]

theorem calculateAndCharge_charges {committed working : Ledger} {locals : Locals → Prop}
    {index : ℕ} {item : ValidItem} :
    Triple (fun state => state.working.accounts input.accountId = some account ∧
        Stands start input.accountId committed working locals state)
      (calculateAndCharge env .never input index item)
      (fun result state => match result with
        | .charged total => item.fee env input account = some total ∧
            state.working.accounts input.accountId = some (account.charge total) ∧
            Stands start input.accountId committed (working.pay (-total)) locals state
        | .exhausted => item.fee env input account = none ∧
            state.working.accounts input.accountId = some account ∧
            Stands start input.accountId committed working locals state
        | .accountNotFound => False)
      (fun _ _ => False) := by
  unfold calculateAndCharge
  simp only [statement_never, flush_never, pure_bind]
  cases price : env.getPrice item.channel.id item.phoneInfo.countryCode input.accountId with
  | none =>
      rintro state ⟨isAccount, stands⟩
      exact ⟨by simp [ValidItem.fee, price], isAccount, stands⟩
  | some found =>
      rcases found with ⟨unitPrice, currency⟩
      refine Triple.get_bind fun current given => ?_
      rcases given with ⟨isAccount, stands⟩
      simp only [isAccount]
      refine Triple.get_bind fun again isCurrent => ?_
      subst isCurrent
      rw [deduct_of_account isAccount]
      by_cases pays : account.paymentType = .postpaid ∨
          unitPrice * item.billableUnits env ≤ account.balance
      · have deducted := (deduct_of_account isAccount _).trans (if_pos pays)
        have charges := stands.working.deduct deducted
        rw [if_pos pays]
        rintro state rfl
        refine ⟨by simp [ValidItem.fee, price, pays], ?_, stands.committed,
          charges.logCharge _, stands.locals⟩
        simp [Db.logCharge, Db.addBalance, Account.charge, isAccount]
      · rw [if_neg pays]
        rintro state rfl
        exact ⟨by simp [ValidItem.fee, price, pays], isAccount, stands⟩

structure Locals.Flushed (before : Locals) (entries : List (MessageId × Route)) (after : Locals) :
    Prop where
  handed : after.handed = before.handed ++ entries
  virtualChannelId : after.virtualChannelId = before.virtualChannelId
  virtualIds : after.virtualIds = before.virtualIds
  commitBatch : after.commitBatch = []

def Locals.groupEntries (values : Locals) (channel : Option Channel) :
    List (MessageId × Route) :=
  if values.virtualChannelId.isSome then []
  else (groupRoute channel).entries (values.commitBatch.map Prod.fst)

theorem commitGroup_flushes {working : Ledger} {values : Locals} {index : ℕ}
    (channel : Option Channel) (stored : working.Stored (values.commitBatch.map Prod.fst)) :
    Triple (fun state => state.working.accounts input.accountId = some account ∧
        ∃ committed, Stands start input.accountId committed working (· = values) state)
      (commitGroup env .never batchStatus index channel)
      (fun _ state => state.working.accounts input.accountId = some account ∧
        Stands start input.accountId working working
          (values.Flushed (values.groupEntries channel)) state)
      (fun _ _ => False) := by
  suffices returns : Triple _ _ _ fun _ _ => True from
    (commitGroup_calm env batchStatus index channel).triple returns
  unfold commitGroup
  simp only [flush_never, pure_bind]
  refine Triple.seq (fun _ => Settled start input.accountId working
    (fun db => db.accounts input.accountId = some account) (· = values)) ?_ fun _ => ?_
  · rintro state ⟨isAccount, committed, stands⟩
    exact ⟨⟨stands.working, stands.working, stands.locals⟩, isAccount, isAccount⟩
  · refine Triple.get_bind fun current settled => ?_
    have same : current.commitBatch = values.commitBatch := by rw [← settled.stands.locals]
    rw [same]
    refine Triple.at_state (?_ : Triple (Settled start input.accountId working
      (fun db => db.accounts input.accountId = some account) (· = values)) _ _ _) settled
    refine Triple.bind (queueGroup_hands (fun _ _ _ isAccount => isAccount) index channel
      batchStatus values stored) fun _ => ?_
    rintro state ⟨stands, _, isAccount⟩
    refine ⟨isAccount, stands.committed, stands.working, ?_⟩
    exact ⟨stands.locals.handed, stands.locals.virtualChannelId, stands.locals.virtualIds, rfl⟩

theorem calculateAndCharge_collects {item : ValidItem} :
    Triple (Collects env input start ledger before charged done account)
      (calculateAndCharge env .never input done.length item)
      (fun result state => match result with
        | .charged total => item.fee env input account = some total ∧
            Collecting env input start ledger before charged done (account.charge total) state
        | .exhausted => item.fee env input account = none ∧
            Collects env input start ledger before charged done account state
        | .accountNotFound => False)
      (fun _ _ => False) := by
  intro state collects
  rcases collects.tables with ⟨committed, working, rows, stands⟩
  have charges := fun {first second : Ledger}
      (stands : Stands start input.accountId first second (fun _ => True) state) =>
    (calculateAndCharge_charges : Triple _ (calculateAndCharge env .never input done.length item)
      _ _) state ⟨collects.account, (⟨stands.committed, stands.working, rfl⟩ : Stands start
        input.accountId first second (· = state.toLocals) state)⟩
  have outcome := charges stands
  have keeps : ∀ {after : ChunkState} {money : Ledger} {left : Account},
      after.working.accounts input.accountId = some left →
      Stands start input.accountId committed money (· = state.toLocals) after →
      money.rows = working.rows →
        Collecting env input start ledger before charged done left after := by
    intro after money left isLeft later same
    have locals : after.toLocals = state.toLocals := later.locals
    refine ⟨⟨committed, money, same.trans rows, later.weaken fun _ _ => trivial⟩, isLeft,
      ?_, ?_, ?_, ?_⟩
    · rw [locals, collects.pending]
    · rw [locals, collects.handed]
    · rw [locals, collects.virtualIds]
    · rw [locals, collects.virtualChannelId]
  cases ended : calculateAndCharge env .never input done.length item state with
  | error raised after => simp [ended] at outcome
  | ok result after =>
      rw [ended] at outcome
      cases result with
      | charged total => exact ⟨outcome.1, keeps outcome.2.1 outcome.2.2 rfl⟩
      | exhausted =>
          refine ⟨outcome.1, keeps outcome.2.1 outcome.2.2 rfl, fun none => ?_⟩
          rcases collects.settled none with ⟨both, isBoth, standsBoth⟩
          have again := charges standsBoth
          rw [ended] at again
          exact ⟨both, isBoth, again.2.2.weaken fun _ _ => trivial⟩
      | accountNotFound => exact outcome

theorem virtualBy_done {entry : ValidItem × Money} {rest : List (ValidItem × Money)}
    (whole : charged = done ++ entry :: rest) :
    virtualBy charged done.length = (done ++ [entry]).any fun entry => entry.1.isVirtual := by
  have front : charged.take (done.length + 1) = done ++ [entry] := by
    rw [whole, List.take_append]
    simp
  rw [virtualBy, front]

structure Joined (env : ChunkEnv) (input : ChunkInput) (start : Db) (ledger : Ledger)
    (before : Locals) (charged done : List (ValidItem × Money)) (entry : ValidItem × Money)
    (account : Account) (values : Locals) (state : ChunkState) : Prop where
  tables : ∃ committed working, working.rows = ledger.rows ++
      (done ++ [entry]).zipIdx.map (fun entry => (ChargedItem.smsLog env input entry).core) ∧
    Stands start input.accountId committed working (· = values) state
  account : state.working.accounts input.accountId = some account
  pending : values.commitBatch =
    ((collected charged done).pending ++ [(entry, done.length)]).map fun entry =>
      (ChargedItem.messageId env entry, entry.1.2)
  handed : values.handed =
    before.handed ++ (collected charged done).passed.flatMap (windowEntries env)
  virtualIds : values.virtualIds = before.virtualIds ++ virtualIdsOf env (done ++ [entry]).zipIdx
  virtualChannelId : values.virtualChannelId.isSome =
    (done ++ [entry]).any fun entry => entry.1.isVirtual

theorem stored_of_taken {working : Ledger} {window entries : List ChargedItem}
    (rows : working.rows =
      ledger.rows ++ entries.map fun entry => (ChargedItem.smsLog env input entry).core)
    (taken : ∀ entry ∈ window, entry ∈ entries) :
    working.Stored
      ((window.map fun entry => (ChargedItem.messageId env entry, entry.1.2)).map Prod.fst) := by
  intro messageId member
  rw [List.map_map] at member
  rcases List.mem_map.mp member with ⟨entry, inWindow, rfl⟩
  rw [rows]
  exact ⟨_, List.mem_append_right _ (List.mem_map_of_mem (taken entry inWindow)), rfl⟩

theorem windowEntries_label {values : Locals} {window : List ChargedItem} (label : GroupLabel)
    (batch : values.commitBatch =
      window.map fun entry => (ChargedItem.messageId env entry, entry.1.2))
    (seen : values.virtualChannelId.isSome = label.2) :
    values.groupEntries label.1 = windowEntries env (window, some label) := by
  unfold Locals.groupEntries windowEntries GroupLabel.route
  rw [seen, batch, List.map_map]
  by_cases virtual : label.2 = true
  · simp [virtual]
  · simp only [virtual, Option.bind_some]
    rfl

theorem zipIdx_concat (entry : ValidItem × Money) :
    (done ++ [entry]).zipIdx = done.zipIdx ++ [(entry, done.length)] := by
  simp [List.zipIdx_append]

theorem commitGroup_collects {item : ValidItem} {total : Money} {rest : List (ValidItem × Money)}
    (whole : charged = done ++ (item, total) :: rest) (values : Locals) :
    Triple (Joined env input start ledger before charged done (item, total) account values)
      (do
        if commitEvery ≤ (← get).commitBatch.length then
          commitGroup env .never batchStatus done.length (some item.channel))
      (fun _ => Collects env input start ledger before charged (done ++ [(item, total)]) account)
      (fun _ _ => False) := by
  have takes := collected_append charged done (item, total)
  refine Triple.get_bind fun current joined => ?_
  rcases joined.tables with ⟨committed, working, rows, stands⟩
  have same : current.commitBatch = values.commitBatch := by rw [← stands.locals]
  have length : current.commitBatch.length = (collected charged done).pending.length + 1 := by
    rw [same, joined.pending]
    simp
  rw [length]
  by_cases fills : commitEvery ≤ (collected charged done).pending.length + 1
  · rw [if_pos fills]
    have stored : working.Stored (values.commitBatch.map Prod.fst) := by
      rw [joined.pending]
      refine stored_of_taken rows fun entry waits => ?_
      rw [zipIdx_concat]
      rcases List.mem_append.mp waits with earlier | last
      · exact List.mem_append_left _ (Collector.mem_of_mem_pending (by decide) earlier)
      · exact List.mem_append_right _ last
    refine (Triple.at_state (commitGroup_flushes (some item.channel) stored)
      ⟨joined.account, committed, stands⟩).weaken (fun _ same => same) ?_ fun _ _ never => never
    rintro _ state ⟨isAccount, after⟩
    have flushed := after.locals
    refine ⟨⟨⟨working, working, rows, after.weaken fun _ _ => trivial⟩, isAccount,
      ?_, ?_, ?_, ?_⟩, fun _ => ⟨working, rows, after.weaken fun _ _ => trivial⟩⟩
    · rw [flushed.commitBatch, takes]
      simp [Collector.take, fills]
    · rw [flushed.handed, joined.handed, takes]
      simp only [Collector.take, fills, if_true, List.flatMap_append, List.append_assoc,
        List.flatMap_singleton]
      exact congrArg _ (congrArg _ (windowEntries_label
        (groupLabel charged ((item, total), done.length)) joined.pending
        (joined.virtualChannelId.trans (virtualBy_done whole).symm)))
    · rw [flushed.virtualIds, joined.virtualIds]
    · rw [flushed.virtualChannelId, joined.virtualChannelId]
  · rw [if_neg fills]
    rintro state rfl
    have locals : state.toLocals = values := stands.locals
    refine ⟨⟨⟨committed, working, rows, stands.weaken fun _ _ => trivial⟩, joined.account,
      ?_, ?_, ?_, ?_⟩, fun none => ?_⟩
    · rw [locals, joined.pending, takes]
      simp [Collector.take, fills]
    · rw [locals, joined.handed, takes]
      simp [Collector.take, fills]
    · rw [locals, joined.virtualIds]
    · rw [locals, joined.virtualChannelId]
    · rw [takes] at none
      simp [Collector.take, fills] at none

theorem storeCharged_collects {item : ValidItem} {total : Money}
    {rest : List (ValidItem × Money)} (whole : charged = done ++ (item, total) :: rest) :
    Triple (Collecting env input start ledger before charged done account)
      (storeCharged env .never input batchStatus done.length item total)
      (fun _ => Collects env input start ledger before charged (done ++ [(item, total)]) account)
      (fun _ _ => False) := by
  intro state collecting
  rcases collecting.tables with ⟨committed, working, rows, stands⟩
  let after : ChunkState :=
    { state with
      virtualChannelId := lastVirtual [item] state.virtualChannelId
      virtualIds := state.virtualIds ++
        idsOn .virtual [item] [item.fallbackSmsLog env input done.length total]
      commitBatch := state.commitBatch ++ [(env.messageId (.fallback done.length), total)]
      working := state.working.insertSmsLogs [item.fallbackSmsLog env input done.length total] }
  refine commitGroup_collects whole after.toLocals after ?_
  have fresh : ∀ row ∈ [item.fallbackSmsLog env input done.length total],
      row.refundedAt = none := by
    simp [ValidItem.fallbackSmsLog, ValidItem.smsLog]
  have inserted := stands.working.insert fresh
  refine ⟨⟨committed, working.add [(item.fallbackSmsLog env input done.length total).core], ?_,
    stands.committed, inserted, rfl⟩, collecting.account, ?_, collecting.handed, ?_, ?_⟩
  · simp [Ledger.add, rows, zipIdx_concat, ChargedItem.smsLog]
  · simp [after, collecting.pending, ChargedItem.messageId]
  · simp only [after, collecting.virtualIds, zipIdx_concat, virtualIdsOf, List.append_assoc]
    by_cases isVirtual : item.channel.protocol = .virtual <;>
      simp [idsOn, ValidItem.isVirtual, isVirtual, ChargedItem.messageId, ValidItem.fallbackSmsLog,
        ValidItem.smsLog]
  · have before := collecting.virtualChannelId
    by_cases isVirtual : item.channel.protocol = .virtual <;>
      simp [after, lastVirtual, ValidItem.isVirtual, isVirtual, before]

theorem fallbackItem_collects {item : ValidItem}
    (whole : ∀ total, item.fee env input account = some total →
      ∃ rest, charged = done ++ (item, total) :: rest) :
    Triple (Collects env input start ledger before charged done account)
      (fallbackItem env .never input batchStatus done.length item)
      (fun goesOn state => match item.fee env input account with
        | none => goesOn = false ∧
            Collects env input start ledger before charged done account state
        | some total => goesOn = true ∧
            Collects env input start ledger before charged (done ++ [(item, total)])
              (account.charge total) state)
      (fun _ _ => False) := by
  unfold fallbackItem
  refine Triple.catching (fun _ _ => False) ?_ (fun _ _ _ never => never)
    fun _ _ _ never => never.elim
  refine Triple.bind calculateAndCharge_collects fun result => ?_
  cases result with
  | exhausted =>
      rintro state ⟨noFee, collects⟩
      simp only [noFee]
      exact ⟨rfl, collects⟩
  | accountNotFound => exact fun _ never => never.elim
  | charged total =>
      refine Triple.assume fun isFee => ?_
      rcases whole total isFee with ⟨rest, isCharged⟩
      simp only [isFee]
      refine Triple.bind (storeCharged_collects isCharged) fun _ => ?_
      intro state collects
      exact ⟨rfl, collects⟩

theorem reached_cons (last : Option Channel) (item : ValidItem) (items : List ValidItem)
    (count : ℕ) :
    reached last (item :: items) (count + 1) = reached (some item.channel) items count := by
  unfold reached
  rw [List.drop_succ_cons]
  cases items.drop count with
  | cons next rest => rfl
  | nil =>
      cases items with
      | nil => rfl
      | cons next rest =>
          rw [List.getLast?_cons_cons,
            List.getLast?_eq_some_getLast (List.cons_ne_nil next rest)]

theorem fallbackLoop_collects {items : List ValidItem} {last : Option Channel}
    (whole : charged = done ++ chargedItems env input account items) :
    Triple (Collects env input start ledger before charged done account)
      (fallbackLoop env .never input batchStatus done.length last items)
      (fun result state =>
        result = (items.drop (chargedItems env input account items).length,
          reached last items (chargedItems env input account items).length) ∧
        ∃ left, Collects env input start ledger before charged charged left state)
      (fun _ _ => False) := by
  induction items generalizing done account last with
  | nil =>
      intro state collects
      rw [chargedItems, List.append_nil] at whole
      subst whole
      exact ⟨rfl, account, collects⟩
  | cons item items ih =>
      unfold fallbackLoop
      refine Triple.bind (fallbackItem_collects ?_) fun goesOn => ?_
      · intro total isFee
        exact ⟨_, by rw [whole, chargedItems, isFee]⟩
      · cases fee : item.fee env input account with
        | none =>
            rw [chargedItems, fee, List.append_nil] at whole
            subst whole
            rintro state ⟨rfl, collects⟩
            refine ⟨?_, account, collects⟩
            simp [chargedItems, fee, reached]
        | some total =>
            have rest : charged = (done ++ [(item, total)]) ++
                chargedItems env input (account.charge total) items := by
              rw [whole, chargedItems, fee]
              simp
            have continues : Triple _ (fallbackLoop env .never input batchStatus
              (done ++ [(item, total)]).length (some item.channel) items) _ _ := ih rest
            rw [List.length_append, List.length_singleton] at continues
            refine Triple.assume fun isTrue => ?_
            subst isTrue
            rw [if_pos rfl]
            simp only [chargedItems, fee, List.length_cons, List.drop_succ_cons, reached_cons]
            exact continues

structure Locals.Fallen (env : ChunkEnv) (before : Locals)
    (charged : List (ValidItem × Money)) (last : Option Channel) (after : Locals) : Prop where
  handed : after.handed = before.handed ++
    (windows commitEvery (groupLabel charged)
      (some (last, charged.any fun entry => entry.1.isVirtual)) charged.zipIdx).flatMap
        (windowEntries env)
  virtualIds : after.virtualIds = before.virtualIds ++ virtualIdsOf env charged.zipIdx
  virtualChannelId : after.virtualChannelId.isSome = charged.any fun entry => entry.1.isVirtual

def fallbackRows (env : ChunkEnv) (input : ChunkInput) (account : Account)
    (items : List ValidItem) : List LogCore :=
  (chargedItems env input account items).zipIdx.map
      (fun entry => (ChargedItem.smsLog env input entry).core) ++
    ((items.drop (chargedItems env input account items).length).mapIdx fun index item =>
      item.exhaustedSmsLog env input index).map SmsLog.core

def Looped (env : ChunkEnv) (input : ChunkInput) (start : Db) (ledger : Ledger) (before : Locals)
    (charged : List (ValidItem × Money)) (last : Option Channel) (state : ChunkState) : Prop :=
  ∃ working : Ledger, working.rows = ledger.rows ++
      charged.zipIdx.map (fun entry => (ChargedItem.smsLog env input entry).core) ∧
    Stands start input.accountId working working (before.Fallen env charged last) state

theorem collects_nil (noBatch : before.commitBatch = []) (noChannel : before.virtualChannelId = none)
    {state : ChunkState} (isAccount : state.working.accounts input.accountId = some account)
    (stands : Stands start input.accountId ledger ledger (· = before) state) :
    Collects env input start ledger before charged [] account state := by
  have locals : state.toLocals = before := stands.locals
  refine ⟨⟨⟨ledger, ledger, by simp, stands.weaken fun _ _ => trivial⟩, isAccount,
    ?_, ?_, ?_, ?_⟩, fun _ => ⟨ledger, by simp, stands.weaken fun _ _ => trivial⟩⟩
  · rw [locals, noBatch]
    rfl
  · rw [locals]
    simp [collected, Collector.empty]
  · rw [locals]
    simp [virtualIdsOf]
  · rw [locals, noChannel]
    rfl

theorem storeExhausted_runs {items : List ValidItem} {last : Option Channel}
    (isCharged : chargedItems env input account items = charged) :
    Triple (Looped env input start ledger before charged last)
      (if !(items.drop charged.length).isEmpty then do
        storeFailed .never .exhaustedFlush .exhaustedCommit
          ((items.drop charged.length).mapIdx fun index item => item.exhaustedSmsLog env input index)
        Chunk.count 0 (items.drop charged.length).length
      else return ())
      (fun _ state => ∃ working : Ledger,
        working.rows = ledger.rows ++ fallbackRows env input account items ∧
        Stands start input.accountId working working (before.Fallen env charged last) state)
      (fun _ _ => True) := by
  refine Triple.exists_pre fun working => Triple.assume fun rows => ?_
  refine Triple.ite (fun _ => ?_) fun none => ?_
  · refine Triple.bind ((storeFailed_triple ?_).weaken (fun _ stands => stands)
      (fun _ _ done => done.2) fun _ _ _ => trivial) fun _ => ?_
    · intro row member
      rcases List.mem_mapIdx.mp member with ⟨index, inside, rfl⟩
      rfl
    · rintro state ⟨onCommitted, onWorking, fallen⟩
      refine ⟨_, ?_, onCommitted, onWorking, fallen.handed, fallen.virtualIds,
        fallen.virtualChannelId⟩
      simp [Ledger.add, rows, fallbackRows, isCharged]
  · intro state stands
    have nothing : items.drop charged.length = [] := by simpa using none
    exact ⟨working, by simp [fallbackRows, isCharged, nothing, rows], stands⟩

theorem finish_windows (charged : List (ValidItem × Money)) (last : Option Channel) :
    (collected charged charged).finish (some (last, charged.any fun entry => entry.1.isVirtual)) =
      windows commitEvery (groupLabel charged)
        (some (last, charged.any fun entry => entry.1.isVirtual)) charged.zipIdx :=
  Collector.finish_collected (by decide) _ _

theorem Collects.looped {current : ChunkState} {left : Account} {last : Option Channel}
    (collects : Collects env input start ledger before charged charged left current)
    (settled : (collected charged charged).pending = []) :
    Looped env input start ledger before charged last current := by
  rcases collects.settled settled with ⟨both, rows, stands⟩
  refine ⟨both, rows, stands.committed, stands.working, ?_, collects.virtualIds,
    collects.virtualChannelId⟩
  rw [← finish_windows charged last, Collector.finish, if_pos settled, collects.handed]

theorem lastGroup_runs {current : ChunkState} {left : Account} {last : Option Channel}
    (collects : Collects env input start ledger before charged charged left current)
    (waiting : (collected charged charged).pending ≠ []) (offset : ℕ) :
    Triple (fun state => state = current) (commitGroup env .never batchStatus offset last)
      (fun _ => Looped env input start ledger before charged last) (fun _ _ => True) := by
  rcases collects.tables with ⟨committed, working, rows, stands⟩
  have stored : working.Stored (current.commitBatch.map Prod.fst) := by
    rw [collects.pending]
    exact stored_of_taken rows fun entry => Collector.mem_of_mem_pending (by decide)
  refine (Triple.at_state (commitGroup_flushes _ stored) ⟨collects.account, committed,
    stands.committed, stands.working, rfl⟩).weaken (fun _ same => same) ?_ fun _ _ _ => trivial
  rintro _ state ⟨_, onCommitted, onWorking, flushed⟩
  refine ⟨working, rows, onCommitted, onWorking, ?_, flushed.virtualIds.trans
    collects.virtualIds, by rw [flushed.virtualChannelId, collects.virtualChannelId]⟩
  have entries : current.toLocals.groupEntries last = windowEntries env _ :=
    windowEntries_label (last, _) collects.pending collects.virtualChannelId
  rw [flushed.handed, collects.handed, ← finish_windows charged last, Collector.finish,
    if_neg waiting, List.flatMap_append, List.flatMap_singleton, ← entries, List.append_assoc]

theorem fallback_runs {items : List ValidItem} (noBatch : before.commitBatch = [])
    (noChannel : before.virtualChannelId = none) :
    Triple (fun state => state.working.accounts input.accountId = some account ∧
        Stands start input.accountId ledger ledger (· = before) state)
      (fallback env .never input batchStatus items)
      (fun _ state => ∃ working : Ledger,
        working.rows = ledger.rows ++ fallbackRows env input account items ∧
        Stands start input.accountId working working
          (before.Fallen env (chargedItems env input account items)
            (reached none items (chargedItems env input account items).length)) state)
      (fun _ _ => False) := by
  suffices returns : Triple _ _ _ fun _ _ => True from
    (fallback_calm env input batchStatus items).triple returns
  generalize isCharged : chargedItems env input account items = charged
  unfold fallback
  have loop : Triple (Collects env input start ledger before charged [] account)
      (fallbackLoop env .never input batchStatus ([] : List (ValidItem × Money)).length none items)
      _ _ :=
    fallbackLoop_collects (by rw [isCharged, List.nil_append])
  rw [isCharged] at loop
  refine Triple.bind (loop.weaken (fun _ begins => collects_nil noBatch noChannel begins.1 begins.2)
    (fun _ _ done => done) fun _ _ _ => trivial) ?_
  rintro ⟨unprocessed, last⟩
  refine Triple.assume fun isResult => Triple.exists_pre fun left => ?_
  cases isResult
  refine Triple.get_bind fun current collects => ?_
  by_cases settled : (collected charged charged).pending = []
  · have noBatch : current.commitBatch = [] := by rw [collects.pending, settled, List.map_nil]
    rw [noBatch]
    exact Triple.at_state (storeExhausted_runs isCharged) (collects.looped settled)
  · have someBatch : (!current.commitBatch.isEmpty) = true := by
      simp [collects.pending, settled]
    rw [if_pos someBatch]
    exact Triple.bind (lastGroup_runs collects settled _) fun _ => storeExhausted_runs isCharged

def ValidItem.isPriced (env : ChunkEnv) (input : ChunkInput) (item : ValidItem) : Bool :=
  (env.getPrice item.channel.id item.phoneInfo.countryCode input.accountId).isSome

def unowned (env : ChunkEnv) (input : ChunkInput) (items : List ValidItem) : List ValidItem :=
  items.dropWhile (ValidItem.isPriced env input)

def unownedRows (env : ChunkEnv) (input : ChunkInput) (items : List ValidItem) : List LogCore :=
  ((unowned env input items).mapIdx fun index item =>
    item.exhaustedSmsLog env input index).map SmsLog.core

def Unowned (start : Db) (input : ChunkInput) (ledger : Ledger) (before : Locals)
    (state : ChunkState) : Prop :=
  state.working.accounts input.accountId = none ∧
    Stands start input.accountId ledger ledger (before.Handed []) state

theorem unowned_count {succeeded failed : ℕ} :
    Triple (Unowned start input ledger before) (Chunk.count succeeded failed)
      (fun _ => Unowned start input ledger before) (fun _ _ => False) := by
  rintro state ⟨noAccount, stands⟩
  exact ⟨noAccount, stands.committed, stands.working, stands.locals.handed,
    stands.locals.virtualChannelId, stands.locals.virtualIds, stands.locals.commitBatch⟩

theorem fallbackLoop_unowned (items : List ValidItem) (index : ℕ) (last : Option Channel) :
    Triple (Unowned start input ledger before)
      (fallbackLoop env .never input batchStatus index last items)
      (fun result state => result.1 = unowned env input items ∧
        Unowned start input ledger before state)
      (fun _ _ => False) := by
  induction items generalizing index last with
  | nil =>
      intro state given
      exact ⟨rfl, given⟩
  | cons item items ih =>
      have charge : Triple (Unowned start input ledger before)
          (calculateAndCharge env .never input index item)
          (fun result state => result = (if item.isPriced env input then .accountNotFound
            else .exhausted) ∧ Unowned start input ledger before state) (fun _ _ => False) := by
        unfold calculateAndCharge ValidItem.isPriced
        simp only [statement_never, flush_never, pure_bind]
        cases env.getPrice item.channel.id item.phoneInfo.countryCode input.accountId with
        | none =>
            intro state given
            exact ⟨rfl, given⟩
        | some found =>
            refine Triple.get_bind fun current given => ?_
            simp only [given.1]
            rintro state rfl
            exact ⟨rfl, given⟩
      have body : Triple (Unowned start input ledger before)
          (fallbackItem env .never input batchStatus index item)
          (fun goesOn state => goesOn = item.isPriced env input ∧
            Unowned start input ledger before state) (fun _ _ => False) := by
        refine Triple.catching (fun _ _ => False) ?_ (fun _ _ _ never => never)
          fun _ _ _ never => never.elim
        refine Triple.bind charge fun result => Triple.assume fun isResult => ?_
        subst isResult
        cases priced : item.isPriced env input with
        | true =>
            refine Triple.bind unowned_count fun _ => ?_
            intro state given
            exact ⟨rfl, given⟩
        | false =>
            intro state given
            exact ⟨rfl, given⟩
      unfold fallbackLoop
      refine Triple.bind body fun goesOn => Triple.assume fun isPriced => ?_
      subst isPriced
      cases priced : item.isPriced env input with
      | true =>
          refine (ih (index + 1) (some item.channel)).weaken (fun _ given => given) ?_
            fun _ _ never => never
          rintro result state ⟨isResult, given⟩
          exact ⟨by simp [isResult, unowned, priced], given⟩
      | false =>
          intro state given
          exact ⟨by simp [unowned, priced], given⟩

theorem fallback_unowned {items : List ValidItem} (noBatch : before.commitBatch = []) :
    Triple (fun state => state.working.accounts input.accountId = none ∧
        Stands start input.accountId ledger ledger (· = before) state)
      (fallback env .never input batchStatus items)
      (fun _ => Stands start input.accountId (ledger.add (unownedRows env input items))
        (ledger.add (unownedRows env input items)) (before.Handed []))
      (fun _ _ => False) := by
  suffices returns : Triple _ _ _ fun _ _ => True from
    (fallback_calm env input batchStatus items).triple returns
  have loop : Triple (Unowned start input ledger before)
      (fallbackLoop env .never input batchStatus 0 none items) _ _ :=
    fallbackLoop_unowned items 0 none
  unfold fallback
  refine Triple.bind (loop.weaken ?_ (fun _ _ done => done) fun _ _ _ => trivial) ?_
  · rintro state ⟨noAccount, stands⟩
    exact ⟨noAccount, stands.weaken fun _ same => same ▸ Locals.Handed.refl before⟩
  rintro ⟨unprocessed, last⟩
  refine Triple.assume fun isResult => ?_
  have isResult : unprocessed = unowned env input items := isResult
  subst isResult
  refine Triple.get_bind fun current given => ?_
  have empty : (!current.commitBatch.isEmpty) = false := by
    rw [given.2.locals.commitBatch, noBatch]
    rfl
  rw [empty]
  refine Triple.at_state (?_ : Triple (Unowned start input ledger before) _ _ _) given
  refine Triple.ite (fun never => absurd never (by simp)) fun _ => ?_
  refine Triple.ite (fun _ => ?_) fun none => ?_
  · refine Triple.bind ((storeFailed_triple ?_).weaken (fun _ given => given.2)
      (fun _ _ done => done.2) fun _ _ _ => trivial) fun _ => ?_
    · intro row member
      rcases List.mem_mapIdx.mp member with ⟨index, inside, rfl⟩
      rfl
    · intro state stands
      exact ⟨stands.committed, stands.working, stands.locals.handed,
        stands.locals.virtualChannelId, stands.locals.virtualIds, stands.locals.commitBatch⟩
  · intro state given
    have nothing : unowned env input items = [] := by simpa using none
    have same : ledger.add (unownedRows env input items) = ledger := by
      simp [unownedRows, nothing]
    rw [same]
    exact given.2

end

end Klsmsc
