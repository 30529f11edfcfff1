import Klsmsc.Refund.Settlement

/-!
# Refund conservation over all interleavings

The invariant behind the claim-then-credit core: the committed tables are the
initial ones with the committed successes settled, and every open transaction
consists of whole successes and of at most one call that has claimed its row.
The row locks keep the claims of two sessions apart. The conditional UPDATE
keeps a claim apart from the successes that were committed before it.
-/

namespace Klsmsc

open Library

namespace RefundStage

def claims : RefundStage → List Claim
  | crediting _ claim => [claim]
  | recording _ claim => [claim]
  | _ => []

def writes : RefundStage → List RefundWrite
  | crediting _ claim => [.claim claim]
  | recording _ claim => [.claim claim, .credit claim.accountId claim.amount]
  | _ => []

def Checking : RefundStage → Prop
  | selecting _ => True
  | claiming _ _ => True
  | _ => False

def Checked (initial : Db) (locks : List RefundKey) : RefundStage → Prop
  | claiming _ seen => .smsLog seen.id ∈ locks ∧ 0 < seen.price ∧
      ∃ row ∈ initial.smsLogs, seen.SameButRefund row
  | _ => True

end RefundStage

/-- What holds of a session whose open transaction has reported `opened`. -/
structure SessionInvariant (initial : Db) (successes opened : List Refund)
    (session : Session RefundWrite RefundKey RefundTask) : Prop where
  pending : session.pending =
    opened.flatMap Refund.writes ++ session.phase.stage.writes
  sound : Sound initial
    ((successes ++ opened).map Refund.toClaim ++ session.phase.stage.claims)
  locked : ∀ claim ∈ opened.map Refund.toClaim ++ session.phase.stage.claims,
    .smsLog claim.smsLogId ∈ session.locks
  checked : session.phase.stage.Checked initial session.locks
  unchanged : session.phase.stage.Checking → session.pending = session.phase.begun

structure RefundInvariant (initial : Db) (store : RefundStore) : Prop where
  committed : store.committed = Books.settle ⟨initial, []⟩ store.committed.successes
  exclusive : store.Exclusive
  sessions : ∀ index, ∃ opened,
    SessionInvariant initial store.committed.successes opened (store.sessions index)

def RefundAction.Unsuccessful : RefundAction → Prop
  | missing => True
  | refused _ => True
  | lost => True
  | _ => False

section Steps

variable {unicode : Unicode} {initial : Db} {store : RefundStore} {index : ℕ}
  {opened : List Refund}

theorem RefundInvariant.start (db : Db) : RefundInvariant db (RefundStore.start db) where
  committed := rfl
  exclusive := by
    intro _ key member
    simp [RefundStore.start] at member
  sessions _ := ⟨[], by
    constructor <;> simp [RefundStore.start, RefundStage.writes, RefundStage.claims,
      RefundStage.Checked, RefundStage.Checking, Sound.nil]⟩

theorem RefundInvariant.of_session {after : RefundStore} (inv : RefundInvariant initial store)
    (committed : after.committed = store.committed)
    (others : ∀ other, other ≠ index → after.sessions other = store.sessions other)
    (exclusive : after.Exclusive)
    (own : SessionInvariant initial store.committed.successes opened (after.sessions index)) :
    RefundInvariant initial after where
  committed := by rw [committed]; exact inv.committed
  exclusive := exclusive
  sessions other := by
    rw [committed]
    by_cases same : other = index
    · subst other
      exact ⟨opened, own⟩
    · rw [others other same]
      exact inv.sessions other

theorem RefundInvariant.view_eq (inv : RefundInvariant initial store)
    (own : SessionInvariant initial store.committed.successes opened (store.sessions index))
    (whole : (store.task index).stage.writes = []) :
    store.view RefundWrite.apply index =
      Books.settle ⟨initial, []⟩ (store.committed.successes ++ opened) := by
  have pending := own.pending
  simp only [RefundStore.task] at whole
  rw [whole, List.append_nil] at pending
  rw [Books.settle_append, ← inv.committed]
  simp [Store.view, pending, Books.settle]

theorem SessionInvariant.sound_opened (own : SessionInvariant initial
    store.committed.successes opened (store.sessions index)) :
    Sound initial ((store.committed.successes ++ opened).map Refund.toClaim) :=
  own.sound.sublist (List.sublist_append_left _ _)

theorem RefundInvariant.visible_eq (keyed : (initial.smsLogs.map SmsLog.id).Nodup)
    (inv : RefundInvariant initial store)
    (own : SessionInvariant initial store.committed.successes opened (store.sessions index))
    (whole : (store.task index).stage.writes = []) :
    (store.visible index).smsLogs = initial.smsLogs.map fun row =>
      row.settled ((store.committed.successes ++ opened).map Refund.toClaim) := by
  unfold RefundStore.visible
  rw [inv.view_eq own whole]
  exact Books.settle_smsLogs _ _ keyed own.sound_opened

theorem SmsLog.SameButRefund.settled {row seen : SmsLog} {claims : List Claim}
    (same : seen.SameButRefund (row.settled claims)) : seen.SameButRefund row := by
  unfold SmsLog.settled at same
  split at same
  · exact same
  · exact same

theorem price_pos_of_grant {entry : RefundEntry} {row : SmsLog} {category : String}
    (admitted : entry.grant unicode row = .ok category) : 0 < row.price := by
  unfold RefundEntry.grant at admitted
  cases checked : entry.check unicode row with
  | error reason => simp [checked] at admitted
  | ok found =>
      by_cases nonpositive : row.price ≤ 0
      · simp [checked, nonpositive] at admitted
      · exact Int.not_le.mp nonpositive

theorem RefundInvariant.claim_genuine (keyed : (initial.smsLogs.map SmsLog.id).Nodup)
    (inv : RefundInvariant initial store)
    (own : SessionInvariant initial store.committed.successes opened (store.sessions index))
    {call : RefundCall} {seen : SmsLog} {now : ℕ}
    (stage : (store.task index).stage = .claiming call seen)
    (applies : (store.visible index).smsLogs.any (call.claim seen now).applies = true) :
    (call.claim seen now).Genuine initial ∧
      seen.id ∉ ((store.committed.successes ++ opened).map Refund.toClaim).map
        Claim.smsLogId := by
  have whole : (store.task index).stage.writes = [] := by rw [stage]; rfl
  rw [inv.visible_eq keyed own whole] at applies
  have checked := own.checked
  simp only [RefundStore.task] at stage
  rw [stage] at checked
  rcases checked with ⟨_, positive, loaded, loadedMem, same⟩
  rcases SmsLog.price_eq_of_sameButRefund same with ⟨sameId, sameAccount, samePrice⟩
  simp only [List.any_map, List.any_eq_true, Function.comp_apply, Claim.applies,
    SmsLog.settled_id, Bool.decide_and, Bool.and_eq_true, decide_eq_true_eq] at applies
  rcases applies with ⟨row, rowMem, isRow, unrefunded⟩
  have isLoaded : row = loaded :=
    eq_of_key_eq keyed rowMem loadedMem (isRow.trans sameId)
  have unclaimed := SmsLog.unclaimed_of_settled unrefunded
  rw [SmsLog.settled_of_unclaimed unclaimed] at unrefunded
  subst loaded
  rw [sameId]
  exact ⟨⟨row, rowMem, isRow, sameAccount.symm, unrefunded, samePrice.symm, positive⟩, unclaimed⟩

theorem SessionInvariant.after_commit {other : ℕ} {openedOther : List Refund}
    (exclusive : store.Exclusive) (differs : other ≠ index)
    (own : SessionInvariant initial store.committed.successes opened (store.sessions index))
    (foreign : SessionInvariant initial store.committed.successes openedOther
      (store.sessions other)) :
    SessionInvariant initial (store.committed.successes ++ opened) openedOther
      (store.sessions other) where
  pending := foreign.pending
  locked := foreign.locked
  checked := foreign.checked
  unchanged := foreign.unchanged
  sound := by
    have ownSound := own.sound_opened
    have foreignSound := foreign.sound
    simp only [List.map_append, List.append_assoc] at ownSound foreignSound ⊢
    have apart : ∀ claim ∈ opened.map Refund.toClaim,
        ∀ claim' ∈ openedOther.map Refund.toClaim ++
          (store.sessions other).phase.stage.claims, claim.smsLogId ≠ claim'.smsLogId := by
      intro claim member claim' member' equal
      have held := own.locked claim (List.mem_append_left _ member)
      have heldOther := foreign.locked claim' member'
      rw [← equal] at heldOther
      exact exclusive index _ held other differs heldOther
    constructor
    · have ownOnce := ownSound.once
      have foreignOnce := foreignSound.once
      rw [List.map_append, List.nodup_append] at ownOnce foreignOnce
      rw [List.map_append, List.map_append, List.nodup_append, List.nodup_append]
      refine ⟨ownOnce.1, ⟨ownOnce.2.1, foreignOnce.2.1, ?_⟩, ?_⟩
      · intro id member id' member'
        rcases List.mem_map.mp member with ⟨claim, claimMem, rfl⟩
        rcases List.mem_map.mp member' with ⟨claim', claimMem', rfl⟩
        exact apart claim claimMem claim' claimMem'
      · intro id member id' member'
        rcases List.mem_append.mp member' with mine | theirs
        · exact ownOnce.2.2 id member id' mine
        · exact foreignOnce.2.2 id member id' theirs
    · intro claim member
      rcases List.mem_append.mp member with old | member
      · exact ownSound.genuine claim (List.mem_append_left _ old)
      · rcases List.mem_append.mp member with mine | theirs
        · exact ownSound.genuine claim (List.mem_append_right _ mine)
        · exact foreignSound.genuine claim (List.mem_append_right _ theirs)

theorem RefundStep.others {after : RefundStore} {label : RefundLabel}
    (step : RefundStep unicode store label after) {other : ℕ} (differs : other ≠ label.session) :
    after.sessions other = store.sessions other := by
  cases step <;>
    simp_all [RefundStore.advance, Store.move, Store.lock, Store.write, Store.rollback,
      Store.commit, Store.setSession]

theorem RefundStep.committed {after : RefundStore} {label : RefundLabel}
    (step : RefundStep unicode store label after) (open_ : label.action ≠ .commit) :
    after.committed = store.committed := by
  cases step <;> first | rfl | exact absurd rfl open_

theorem RefundStep.exclusive {after : RefundStore} {label : RefundLabel}
    (step : RefundStep unicode store label after) (exclusive : store.Exclusive) :
    after.Exclusive := by
  cases step with
  | request request idle nothingLeft => exact exclusive.move _
  | begin idle next => exact exclusive.move _
  | missing stage noRow => exact exclusive.move _
  | refused stage free found isRow loaded checked => exact (exclusive.lock free).move _
  | admitted stage free found isRow loaded checked => exact (exclusive.lock free).move _
  | claim now stage applies => exact (exclusive.write _).move _
  | lost now stage noRow => exact exclusive.move _
  | credit stage free => exact ((exclusive.lock free).write _).move _
  | record stage reported => exact (exclusive.write _).move _
  | commit stage => exact exclusive.commit _ _
  | rollback carryOn => exact exclusive.rollback _

theorem SessionInvariant.of_whole {session : Session RefundWrite RefundKey RefundTask}
    {successes : List Refund} (own : SessionInvariant initial successes opened session)
    {locks : List RefundKey} {task : RefundTask}
    (more : ∀ key ∈ session.locks, key ∈ locks)
    (whole : session.phase.stage.writes = [] ∧ session.phase.stage.claims = [])
    (next : task.stage.writes = [] ∧ task.stage.claims = [])
    (checked : task.stage.Checked initial locks)
    (unchanged : task.stage.Checking → session.pending = task.begun) :
    SessionInvariant initial successes opened ⟨session.pending, locks, task⟩ where
  pending := by simpa [whole, next] using own.pending
  sound := by simpa [whole, next] using own.sound
  locked claim member := by
    have held := own.locked claim (by simpa [whole, next] using member)
    exact more _ held
  checked := checked
  unchanged := unchanged

theorem SessionInvariant.rolled_back {session : Session RefundWrite RefundKey RefundTask}
    {successes : List Refund} (own : SessionInvariant initial successes opened session)
    (queue : List RefundCall) :
    SessionInvariant initial successes [] ⟨[], [], ⟨queue, [], .idle⟩⟩ where
  pending := rfl
  sound := by
    refine own.sound.sublist ?_
    simp [RefundStage.claims, List.map_append]
  locked := by simp [RefundStage.claims]
  checked := trivial
  unchanged := by simp [RefundStage.Checking]

theorem RefundStep.session (keyed : (initial.smsLogs.map SmsLog.id).Nodup)
    (inv : RefundInvariant initial store) {after : RefundStore} {label : RefundLabel}
    (step : RefundStep unicode store label after) (open_ : label.action ≠ .commit) :
    ∃ opened, SessionInvariant initial store.committed.successes opened
      (after.sessions label.session) := by
  rcases inv.sessions label.session with ⟨opened, own⟩
  cases step with
  | @request index request idle nothingLeft =>
      refine ⟨opened, ?_⟩
      simp only [RefundStore.task] at idle own
      rw [Store.move_same]
      refine own.of_whole (fun _ member => member) ?_ ?_ ?_ ?_ <;>
        simp [idle, RefundStore.task, RefundStage.writes, RefundStage.claims,
          RefundStage.Checked, RefundStage.Checking]
  | @begin index call rest idle next =>
      refine ⟨opened, ?_⟩
      simp only [RefundStore.task] at idle own
      rw [Store.move_same]
      refine own.of_whole (fun _ member => member) ?_ ?_ ?_ ?_ <;>
        simp [idle, RefundStore.pending, RefundStage.writes, RefundStage.claims,
          RefundStage.Checked]
  | @missing index call stage noRow =>
      refine ⟨opened, ?_⟩
      simp only [RefundStore.task] at stage own
      rw [RefundStore.advance, Store.move_same]
      refine own.of_whole (fun _ member => member) ?_ ?_ ?_ ?_ <;>
        simp [stage, RefundStage.writes, RefundStage.claims, RefundStage.Checked,
          RefundStage.Checking]
  | @refused index call row seen reason stage free found isRow loaded checked =>
      refine ⟨opened, ?_⟩
      simp only [RefundStore.task] at stage own
      rw [RefundStore.advance, Store.move_same, Store.lock_same]
      refine own.of_whole (fun _ member => List.mem_cons_of_mem _ member) ?_ ?_ ?_ ?_ <;>
        simp [stage, RefundStage.writes, RefundStage.claims, RefundStage.Checked,
          RefundStage.Checking]
  | @admitted index call row seen category stage free found isRow loaded checked =>
      refine ⟨opened, ?_⟩
      have whole : (store.task index).stage.writes = [] := by rw [stage]; rfl
      have unchanged := own.unchanged
      rw [inv.visible_eq keyed own whole] at found
      rcases List.mem_map.mp found with ⟨initialRow, initialMem, rfl⟩
      simp only [RefundStore.task] at stage own
      have sameId := (SmsLog.price_eq_of_sameButRefund loaded).1
      rw [RefundStore.advance, Store.move_same, Store.lock_same]
      refine own.of_whole (fun _ member => List.mem_cons_of_mem _ member) ?_ ?_ ?_ ?_
      · simp [stage, RefundStage.writes, RefundStage.claims]
      · simp [RefundStage.writes, RefundStage.claims]
      · refine ⟨?_, price_pos_of_grant checked, initialRow, initialMem, loaded.settled⟩
        rw [sameId, isRow]
        exact List.mem_cons_self
      · intro _
        simp only [RefundStore.task, Store.lock_same]
        exact unchanged (by simp [stage, RefundStage.Checking])
  | @claim index call seen now stage applies =>
      refine ⟨opened, ?_⟩
      rcases inv.claim_genuine keyed own stage applies with ⟨genuine, unclaimed⟩
      have sound := own.sound_opened.concat genuine unclaimed
      simp only [RefundStore.task] at stage own
      have pending := own.pending
      have checked := own.checked
      have locked := own.locked
      simp only [stage, RefundStage.writes, RefundStage.claims, List.append_nil] at pending locked
      rw [stage] at checked
      rw [RefundStore.advance, Store.move_same, Store.write_same]
      constructor
      · simp [pending, RefundStage.writes]
      · exact sound
      · intro claim member
        rcases List.mem_append.mp member with old | new
        · exact locked claim old
        · rw [List.mem_singleton.mp new]
          exact checked.1
      · trivial
      · simp [RefundStage.Checking]
  | @lost index call seen now stage noRow =>
      refine ⟨opened, ?_⟩
      simp only [RefundStore.task] at stage own
      rw [RefundStore.advance, Store.move_same]
      refine own.of_whole (fun _ member => member) ?_ ?_ ?_ ?_ <;>
        simp [stage, RefundStage.writes, RefundStage.claims, RefundStage.Checked,
          RefundStage.Checking]
  | @credit index call claim stage free =>
      refine ⟨opened, ?_⟩
      simp only [RefundStore.task] at stage own
      have pending := own.pending
      have sound := own.sound
      have locked := own.locked
      simp only [stage, RefundStage.writes, RefundStage.claims] at pending sound locked
      rw [RefundStore.advance, Store.move_same, Store.write_same, Store.lock_same]
      constructor
      · simp [pending, RefundStage.writes]
      · exact sound
      · intro other member
        exact List.mem_cons_of_mem _ (locked other member)
      · trivial
      · simp [RefundStage.Checking]
  | @record index call claim refund stage reported =>
      subst reported
      refine ⟨opened ++ [⟨claim, ((store.visible index).balance claim.accountId).getD 0⟩], ?_⟩
      simp only [RefundStore.task] at stage own
      have pending := own.pending
      have sound := own.sound
      have locked := own.locked
      simp only [stage, RefundStage.writes, RefundStage.claims] at pending sound locked
      rw [RefundStore.advance, Store.move_same, Store.write_same]
      cases call.entry.autoCommit <;>
      · constructor
        · simp [pending, RefundStage.writes, Refund.writes, List.flatMap_append]
        · simpa [RefundStage.claims] using sound
        · simpa [RefundStage.claims] using locked
        · trivial
        · simp [RefundStage.Checking]
  | commit stage => exact absurd rfl open_
  | rollback carryOn =>
      refine ⟨[], ?_⟩
      rw [Store.rollback_same]
      exact own.rolled_back _

theorem RefundInvariant.step (keyed : (initial.smsLogs.map SmsLog.id).Nodup)
    (inv : RefundInvariant initial store) {after : RefundStore} {label : RefundLabel}
    (step : RefundStep unicode store label after) : RefundInvariant initial after := by
  by_cases closes : label.action = .commit
  · cases step <;> try cases closes
    rename_i index stage
    rcases inv.sessions index with ⟨opened, own⟩
    have whole : (store.task index).stage.writes = [] := by
      rcases stage with stage | stage <;> rw [stage] <;> rfl
    have committed := inv.view_eq own whole
    have successes : (store.view RefundWrite.apply index).successes =
        store.committed.successes ++ opened := by
      rw [committed]
      simp
    refine ⟨?_, inv.exclusive.commit _ _, ?_⟩
    · rw [Store.commit_committed, successes]
      exact committed
    · intro other
      rw [Store.commit_committed, successes]
      by_cases same : other = index
      · subst other
        refine ⟨[], ?_⟩
        rw [Store.commit_same]
        constructor
        · rfl
        · refine own.sound.sublist ?_
          simp [RefundStage.claims]
        · simp [RefundStage.claims]
        · trivial
        · simp [RefundStage.Checking]
      · rcases inv.sessions other with ⟨openedOther, foreign⟩
        refine ⟨openedOther, ?_⟩
        rw [Store.commit_other _ _ _ _ same]
        exact own.after_commit inv.exclusive same foreign
  · rcases step.session keyed inv closes with ⟨opened, own⟩
    exact inv.of_session (step.committed closes) (fun other => step.others)
      (step.exclusive inv.exclusive) own

theorem RefundStep.unsuccessful (inv : RefundInvariant initial store) {after : RefundStore}
    {label : RefundLabel} (step : RefundStep unicode store label after)
    (failed : label.action.Unsuccessful) :
    after.committed = store.committed ∧
      after.pending label.session = (store.task label.session).begun := by
  rcases inv.sessions label.session with ⟨opened, own⟩
  have unchanged := own.unchanged
  have checking : after.pending label.session = store.pending label.session ∧
      (store.task label.session).stage.Checking := by
    cases step <;> try cases failed
    all_goals simp_all [RefundStore.pending, RefundStore.advance, RefundStage.Checking]
  refine ⟨step.committed ?_, checking.1.trans (unchanged checking.2)⟩
  intro closes
  rw [closes] at failed
  exact failed

end Steps

def failedSmsLog : SmsLog where
  id := 1
  messageId := 1
  upstreamMessageId := none
  accountId := 1
  channelId := some 7
  batchId := none
  phoneNumber := "+8613800138000"
  countryCode := some "CN"
  senderId := none
  message := "hello"
  messageCount := 1
  status := .failed
  costPrice := some 10
  sellingPrice := some 30
  currency := "USD"
  submitTime := some 1
  sentTime := none
  deliveryTime := none
  errorMessage := none
  refundedAt := none
  refundedBy := none
  refundedAmount := none

def failedDb : Db where
  accounts id := if id = 1 then some ⟨100, .prepaid, some "CN"⟩ else none
  smsLogs := [failedSmsLog]
  balanceLogs := []
  batches _ := none
  channels _ := none

end Klsmsc
