import Klsmsc.Inbound.PendingReceipts

/-!
# Receipts that are written once

A receipt is in one place at a time: in the queue, in hand, in the table until it is written, or
written. What takes it twice is a stop of the gateway between a write and what records it, a second
goroutine that loads a row which another one has in hand, and a row that stays in the table although
it was written. Where none of these happens no receipt is written twice.
-/

namespace Klsmsc

open Library

def Drain.unfinished (drain : Drain) : Bool :=
  !drain.rows.isEmpty || drain.deleting.isSome

namespace ReceiptDesk

variable {settings : BindSettings} {collate : GoString → GoString} {desk after : ReceiptDesk}

def written (desk : ReceiptDesk) : List ℕ :=
  desk.pushed.map (·.receipt)

def waiting (desk : ReceiptDesk) : List ℕ :=
  desk.table.map (·.receipt)

def held : Option DispatchCall → ℕ
  | some call => if call.stage = .done then 0 else 1
  | none => 0

def inHand (desk : ReceiptDesk) (n : ℕ) : ℕ :=
  held (desk.dispatches n)

def copies (desk : ReceiptDesk) (n : ℕ) : ℕ :=
  desk.queue.count n + desk.inHand n + (if n ∈ desk.written then 0 else desk.waiting.count n) +
    desk.written.count n

def busy (desk : ReceiptDesk) (s : ℕ) : Bool :=
  (desk.drains s).any Drain.unfinished

/-- An event keeps the receipts apart: the gateway goes on, no goroutine loads the rows of a system
id while another one has some of them, and what was written is deleted. -/
def Orderly (collate : GoString → GoString) (desk : ReceiptDesk) (event : DeskEvent) : Prop :=
  match event with
  | .crash => False
  | .load s => ∀ t < desk.binds.accepted, desk.busy t = true →
      collate (desk.binds.systemID t) ≠ collate (desk.binds.systemID s)
  | .delete _ deleted => deleted = true
  | _ => True

instance Orderly.instDecidable (collate : GoString → GoString) (desk : ReceiptDesk) :
    (event : DeskEvent) → Decidable (desk.Orderly collate event)
  | .crash => inferInstanceAs (Decidable False)
  | .load s => inferInstanceAs (Decidable (∀ t < desk.binds.accepted, desk.busy t = true →
      collate (desk.binds.systemID t) ≠ collate (desk.binds.systemID s)))
  | .delete _ deleted => inferInstanceAs (Decidable (deleted = true))
  | .bind _ | .tick _ | .publish _ | .reject _ | .expire | .take | .pick _ | .send _ _ _
  | .store _ _ | .ack _ | .resend _ _ _ => inferInstanceAs (Decidable True)

/-- No receipt is in two places, no two goroutines have rows of one system id, and what was written
is deleted next. -/
structure Apart (collate : GoString → GoString) (desk : ReceiptDesk) : Prop where
  copies : ∀ n, desk.copies n ≤ 1
  rows : desk.waiting.Nodup
  inside : ∀ s drain, desk.drains s = some drain → s < desk.binds.accepted
  distinct : ∀ s drain, desk.drains s = some drain → (drain.rows.map (·.receipt)).Nodup
  present : ∀ s drain, desk.drains s = some drain → ∀ row ∈ drain.rows,
    row ∈ desk.table ∧ row.receipt ∉ desk.written
  deleting : ∀ row ∈ desk.table, row.receipt ∈ desk.written →
    ∃ s rows, desk.drains s = some ⟨rows, some row.id⟩ ∧
      collate (desk.binds.systemID s) = collate row.systemID
  alone : ∀ s t, desk.busy s = true → desk.busy t = true →
    collate (desk.binds.systemID s) = collate (desk.binds.systemID t) → s = t

/-! ### The places of a receipt -/

theorem held_of_ne {call : DispatchCall} (running : call.stage ≠ .done) : held (some call) = 1 :=
  if_neg running

theorem inHand_update {n : ℕ} {call : Option DispatchCall}
    (calls : after.dispatches = Function.update desk.dispatches n call) (m : ℕ) :
    after.inHand m = if m = n then held call else desk.inHand m := by
  rw [inHand, calls, Function.update_apply]
  split <;> rfl

theorem inHand_proceed (n : ℕ) (call : DispatchCall) (stage : ReceiptStage) (m : ℕ) :
    (desk.proceed n call stage).inHand m =
      if m = n then held (some { call with stage }) else desk.inHand m :=
  inHand_update rfl m

theorem inHand_begins (payload : DLRPayload) (m : ℕ) :
    (desk.begins payload).inHand m =
      if m = desk.receipts.length then held (some ⟨false, .starting⟩) else desk.inHand m :=
  inHand_update rfl m

theorem copies_le {m k : ℕ}
    (places : after.queue.count m + after.inHand m ≤ desk.queue.count m + desk.inHand m + k)
    (waiting : after.waiting.Sublist desk.waiting) (written : after.written = desk.written) :
    after.copies m ≤ desk.copies m + k := by
  have fewer := waiting.count_le m
  simp only [copies, written]
  split <;> omega

theorem copies_come {n : ℕ} (apart : ∀ m, desk.copies m ≤ 1) (new : desk.copies n = 0)
    (places : ∀ m, after.queue.count m + after.inHand m ≤
      desk.queue.count m + desk.inHand m + if m = n then 1 else 0)
    (waiting : after.waiting = desk.waiting) (written : after.written = desk.written) (m : ℕ) :
    after.copies m ≤ 1 := by
  have more := copies_le (places m) (by rw [waiting]) written
  split at more
  · rename_i same
    rw [same, new] at more
    rw [same]
    exact more
  · exact more.trans (apart m)

theorem copies_go (apart : ∀ m, desk.copies m ≤ 1)
    (places : ∀ m, after.queue.count m + after.inHand m ≤ desk.queue.count m + desk.inHand m)
    (waiting : after.waiting.Sublist desk.waiting) (written : after.written = desk.written)
    (m : ℕ) : after.copies m ≤ 1 := by
  have fewer : after.copies m ≤ desk.copies m + 0 := copies_le (places m) waiting written
  exact fewer.trans (apart m)

namespace Apart

theorem hand (apart : desk.Apart collate) {n : ℕ} (held : desk.inHand n = 1) :
    n ∉ desk.queue ∧ n ∉ desk.waiting ∧ n ∉ desk.written := by
  have once := apart.copies n
  rw [ReceiptDesk.copies, held] at once
  have unwritten : n ∉ desk.written := by
    intro member
    have := List.count_pos_iff.mpr member
    omega
  rw [if_neg unwritten] at once
  refine ⟨?_, ?_, unwritten⟩
  · intro member
    have := List.count_pos_iff.mpr member
    omega
  · intro member
    have := List.count_pos_iff.mpr member
    omega

theorem stored (apart : desk.Apart collate) {row : PendingDLR} (member : row ∈ desk.table)
    (unwritten : row.receipt ∉ desk.written) :
    row.receipt ∉ desk.queue ∧ desk.inHand row.receipt = 0 := by
  have once := apart.copies row.receipt
  have waits : 0 < desk.waiting.count row.receipt :=
    List.count_pos_iff.mpr (List.mem_map.mpr ⟨row, member, rfl⟩)
  rw [ReceiptDesk.copies, if_neg unwritten] at once
  refine ⟨fun queued => ?_, by omega⟩
  have := List.count_pos_iff.mpr queued
  omega

theorem inside_of_busy (apart : desk.Apart collate) {s : ℕ} (working : desk.busy s = true) :
    s < desk.binds.accepted := by
  cases drain : desk.drains s with
  | some one => exact apart.inside s one drain
  | none => simp [busy, drain] at working

theorem of_same (apart : desk.Apart collate) (grows : Grows desk after)
    (copies : ∀ n, after.copies n ≤ 1) (table : after.table = desk.table)
    (pushed : after.pushed = desk.pushed) (drains : after.drains = desk.drains) :
    after.Apart collate where
  copies := copies
  rows := by
    rw [waiting, table]
    exact apart.rows
  inside := by
    intro s drain one
    rw [drains] at one
    exact lt_of_lt_of_le (apart.inside s drain one) grows.accepted
  distinct := by
    rw [drains]
    exact apart.distinct
  present := by
    rw [drains, table, written, pushed]
    exact apart.present
  deleting := by
    intro row member wrote
    rw [table] at member
    rw [written, pushed] at wrote
    rcases apart.deleting row member wrote with ⟨s, rows, drain, key⟩
    refine ⟨s, rows, ?_, ?_⟩
    · rw [drains]
      exact drain
    · rw [grows.sessionID (apart.inside s _ drain)]
      exact key
  alone := by
    intro s t first second
    rw [busy, drains] at first second
    rw [grows.sessionID (apart.inside_of_busy first), grows.sessionID (apart.inside_of_busy second)]
    exact apart.alone s t first second

end Apart

theorem copies_of_new (calls : desk.CallsSound) (rows : desk.RowsSound collate) {n : ℕ}
    (new : desk.receipts.length ≤ n) : desk.copies n = 0 := by
  have outside : ∀ m < desk.receipts.length, m ≠ n := fun m inside => by omega
  have queue : desk.queue.count n = 0 :=
    List.count_eq_zero.mpr fun member => outside n (calls.queued n member) rfl
  have waiting : desk.waiting.count n = 0 := by
    apply List.count_eq_zero.mpr
    intro member
    rcases List.mem_map.mp member with ⟨row, stored, rfl⟩
    exact outside _ (rows.rows row stored).receipt rfl
  have written : desk.written.count n = 0 := by
    apply List.count_eq_zero.mpr
    intro member
    rcases List.mem_map.mp member with ⟨push, pushed, rfl⟩
    exact outside _ (rows.pushes push pushed).receipt rfl
  have inHand : desk.inHand n = 0 := by
    cases call : desk.dispatches n with
    | none => simp [ReceiptDesk.inHand, call, held]
    | some one => exact absurd rfl (outside n (calls.inside n one call))
  simp only [copies, inHand, queue, waiting, written]
  split <;> rfl

theorem copies_proceed {n : ℕ} (apart : ∀ m, desk.copies m ≤ 1) {call : DispatchCall}
    (calling : desk.dispatches n = some call) (running : call.stage ≠ .done) (stage : ReceiptStage)
    (m : ℕ) : (desk.proceed n call stage).copies m ≤ 1 := by
  refine copies_go apart ?_ ?_ ?_ m
  · intro m
    refine Nat.add_le_add_left ?_ _
    rw [inHand_proceed]
    split
    · rename_i same
      rw [same, inHand, calling, held_of_ne running, held]
      split <;> omega
    · exact Nat.le_refl _
  · exact List.Sublist.refl _
  · rfl

theorem copies_written {n : ℕ} (apart : ∀ m, desk.copies m ≤ 1)
    (queue : after.queue = desk.queue) (inHand : ∀ m, m ≠ n → after.inHand m = desk.inHand m)
    (waiting : after.waiting = desk.waiting) (written : after.written = desk.written ++ [n])
    (unqueued : n ∉ desk.queue) (gone : after.inHand n = 0) (unwritten : n ∉ desk.written) (m : ℕ) :
    after.copies m ≤ 1 := by
  have once := apart m
  simp only [copies, queue, waiting, written] at once ⊢
  by_cases same : m = n
  · subst m
    have last : n ∈ desk.written ++ [n] := by simp
    rw [if_pos last, gone, List.count_eq_zero.mpr unqueued, List.count_append,
      List.count_eq_zero.mpr unwritten, List.count_singleton_self]
  · have other : [n].count m = 0 := List.count_eq_zero.mpr (by simpa using same)
    have member : m ∈ desk.written ++ [n] ↔ m ∈ desk.written := by simp [same]
    rw [inHand m same, List.count_append, other]
    simp only [member]
    exact once

theorem copies_stored {n : ℕ} (apart : ∀ m, desk.copies m ≤ 1)
    (queue : after.queue = desk.queue) (inHand : ∀ m, m ≠ n → after.inHand m = desk.inHand m)
    (waiting : after.waiting = desk.waiting ++ [n]) (written : after.written = desk.written)
    (unqueued : n ∉ desk.queue) (gone : after.inHand n = 0) (unstored : n ∉ desk.waiting)
    (unwritten : n ∉ desk.written) (m : ℕ) : after.copies m ≤ 1 := by
  have once := apart m
  simp only [copies, queue, waiting, written] at once ⊢
  by_cases same : m = n
  · subst m
    rw [if_neg unwritten, gone, List.count_eq_zero.mpr unqueued, List.count_append,
      List.count_eq_zero.mpr unstored, List.count_eq_zero.mpr unwritten,
      List.count_singleton_self]
  · have other : [n].count m = 0 := List.count_eq_zero.mpr (by simpa using same)
    rw [inHand m same, List.count_append, other]
    exact once

theorem Apart.copies_step (apart : desk.Apart collate) (calls : desk.CallsSound)
    (rows : desk.RowsSound collate) {event : DeskEvent}
    (performs : desk.Performs settings collate event after)
    (orderly : desk.Orderly collate event) (m : ℕ) : after.copies m ≤ 1 := by
  have new := copies_of_new calls rows (Nat.le_refl desk.receipts.length)
  cases performs with
  | publish payload =>
      refine copies_come apart.copies new ?_ ?_ ?_ m
      · intro m
        have added : (desk.queue ++ [desk.receipts.length]).count m =
            desk.queue.count m + if m = desk.receipts.length then 1 else 0 := by
          by_cases last : m = desk.receipts.length
          · simp [last]
          · simp [last, Ne.symm last]
        simp only [added, inHand]
        omega
      · rfl
      · rfl
  | reject payload =>
      refine copies_come apart.copies new ?_ ?_ ?_ m
      · intro m
        rw [inHand_begins, held_of_ne (by simp)]
        have same : (desk.begins payload).queue = desk.queue := rfl
        rw [same]
        split <;> omega
      · rfl
      · rfl
  | expire first =>
      refine copies_go apart.copies ?_ ?_ ?_ m
      · intro m
        rw [first]
        exact Nat.add_le_add_right List.count_le_count_cons _
      · exact List.Sublist.refl _
      · rfl
  | @take n queue first =>
      refine copies_go apart.copies ?_ ?_ ?_ m
      · intro m
        rw [inHand_update rfl m, held_of_ne (by simp), first, List.count_cons]
        by_cases same : m = n
        · subst m
          simp
        · simp [same, Ne.symm same]
      · exact List.Sublist.refl _
      · rfl
  | nobody call nameless => exact copies_proceed apart.copies call (by simp) _ m
  | picked call receiver => exact copies_proceed apart.copies call (by simp) _ m
  | offline call => exact copies_proceed apart.copies call (by simp) _ m
  | unsent call => exact copies_proceed apart.copies call (by simp) _ m
  | unstored call => exact copies_proceed apart.copies call (by simp) _ m
  | @sent n s delivered clock call =>
      have held : desk.inHand n = 1 := by
        rw [inHand, call, held_of_ne (by simp)]
      rcases apart.hand held with ⟨unqueued, -, unwritten⟩
      have hand := desk.inHand_proceed n ⟨delivered, .sending s⟩ .done
      refine copies_written apart.copies ?_ ?_ ?_ ?_ unqueued ?_ unwritten m
      · rfl
      · intro m different
        exact (hand m).trans (if_neg different)
      · rfl
      · simp [written]
      · exact (hand n).trans (if_pos rfl)
  | @stored n delivered call =>
      have held : desk.inHand n = 1 := by
        rw [inHand, call, held_of_ne (by simp)]
      rcases apart.hand held with ⟨unqueued, unstored, unwritten⟩
      have hand := desk.inHand_proceed n ⟨delivered, .storing⟩ .done
      refine copies_stored apart.copies ?_ ?_ ?_ ?_ unqueued ?_ unstored unwritten m
      · rfl
      · intro m different
        exact (hand m).trans (if_neg different)
      · simp [waiting]
      · rfl
      · exact (hand n).trans (if_pos rfl)
  | @ack n delivered call =>
      refine copies_go apart.copies ?_ ?_ ?_ m
      · intro m
        rw [inHand_update rfl m]
        refine Nat.add_le_add_left ?_ _
        split
        · exact Nat.zero_le _
        · exact Nat.le_refl _
      · exact List.Sublist.refl _
      · rfl
  | load _ _ _ => exact apart.copies m
  | @resent s row rest clock drain =>
      rcases apart.present s _ drain row List.mem_cons_self with ⟨stored, unwritten⟩
      rcases apart.stored stored unwritten with ⟨unqueued, gone⟩
      refine copies_written apart.copies ?_ ?_ ?_ ?_ unqueued ?_ unwritten m
      · rfl
      · exact fun _ _ => rfl
      · rfl
      · simp [written]
      · exact gone
  | stops drain => exact apart.copies m
  | @delete s id rest deleted drain =>
      refine copies_go apart.copies ?_ ?_ ?_ m
      · exact fun _ => Nat.le_refl _
      · simp only [waiting]
        split
        · exact List.filter_sublist.map _
        · exact List.Sublist.refl _
      · rfl
  | crash => exact orderly.elim
  | _ => exact apart.copies m

theorem key_of_drain (rows : desk.RowsSound collate) {s : ℕ} {drain : Drain}
    (drains : desk.drains s = some drain) {row : PendingDLR} (member : row ∈ drain.rows) :
    collate (desk.binds.systemID s) = collate (desk.systemID row.receipt) := by
  have loaded := rows.drains s drain drains row member
  rw [loaded.systemID, loaded.belongs.systemID]

theorem busy_of_mem {s : ℕ} {drain : Drain} (drains : desk.drains s = some drain)
    {row : PendingDLR} (member : row ∈ drain.rows) : desk.busy s = true := by
  have rows : drain.rows ≠ [] := List.ne_nil_of_mem member
  simp [busy, drains, Drain.unfinished, rows]

theorem Apart.ne_of_drains (apart : desk.Apart collate) (rows : desk.RowsSound collate) {s t : ℕ}
    {one other : Drain} (first : desk.drains s = some one) (second : desk.drains t = some other)
    (different : s ≠ t) {row another : PendingDLR} (member : row ∈ one.rows)
    (beside : another ∈ other.rows) : row.receipt ≠ another.receipt := by
  intro same
  refine different (apart.alone s t (busy_of_mem first member) (busy_of_mem second beside) ?_)
  rw [key_of_drain rows first member, key_of_drain rows second beside, same]

theorem Apart.inside_update (apart : desk.Apart collate) {s : ℕ} {before : Drain}
    (drain : desk.drains s = some before) (next : Drain) :
    ∀ t one, (desk.drainOn s next).drains t = some one → t < desk.binds.accepted := by
  intro t one drains
  rcases drains_update drains with ⟨rfl, rfl⟩ | ⟨-, earlier⟩
  · exact apart.inside t _ drain
  · exact apart.inside t one earlier

theorem Apart.alone_update (apart : desk.Apart collate) {s : ℕ} {next : Drain}
    (working : next.unfinished = true → desk.busy s = true) :
    ∀ t u, (desk.drainOn s next).busy t = true → (desk.drainOn s next).busy u = true →
      collate (desk.binds.systemID t) = collate (desk.binds.systemID u) → t = u := by
  have earlier : ∀ t, (desk.drainOn s next).busy t = true → desk.busy t = true := by
    intro t
    by_cases same : t = s
    · subst t
      simpa [busy, drainOn] using working
    · simp [busy, drainOn, same]
  exact fun t u first second => apart.alone t u (earlier t first) (earlier u second)

theorem Apart.step (apart : desk.Apart collate) (calls : desk.CallsSound)
    (rows : desk.RowsSound collate) {event : DeskEvent}
    (performs : desk.Performs settings collate event after)
    (orderly : desk.Orderly collate event) : after.Apart collate := by
  have grows := performs.grows
  have copies := apart.copies_step calls rows performs orderly
  cases performs with
  | @sent n s delivered clock call =>
      have held : desk.inHand n = 1 := by
        rw [inHand, call, held_of_ne (by simp)]
      rcases apart.hand held with ⟨-, unstored, -⟩
      have wrote : ∀ row ∈ desk.table, row.receipt ∈ desk.written ++ [n] →
          row.receipt ∈ desk.written := by
        intro row member either
        refine (List.mem_append.mp either).resolve_right fun last => unstored ?_
        exact List.mem_map.mpr ⟨row, member, List.mem_singleton.mp last⟩
      refine ⟨copies, apart.rows, apart.inside, apart.distinct, ?_, ?_, apart.alone⟩
      · intro t drain drains row member
        rcases apart.present t drain drains row member with ⟨stored, unwritten⟩
        refine ⟨stored, fun either => unwritten (wrote row stored ?_)⟩
        simpa [written] using either
      · intro row member either
        exact apart.deleting row member (wrote row member (by simpa [written] using either))
  | @stored n delivered call =>
      have held : desk.inHand n = 1 := by
        rw [inHand, call, held_of_ne (by simp)]
      rcases apart.hand held with ⟨-, unstored, unwritten⟩
      refine ⟨copies, ?_, apart.inside, apart.distinct, ?_, ?_, apart.alone⟩
      · have added : (desk.waiting ++ [n]).Nodup :=
          List.nodup_append_comm.mp (List.nodup_cons.mpr ⟨unstored, apart.rows⟩)
        simpa [waiting] using added
      · intro t drain drains row member
        rcases apart.present t drain drains row member with ⟨stored, still⟩
        exact ⟨List.mem_append_left _ stored, still⟩
      · intro row member wrote
        rcases List.mem_append.mp member with earlier | last
        · exact apart.deleting row earlier wrote
        · rcases List.mem_singleton.mp last with rfl
          exact absurd wrote unwritten
  | @load s inside receives fresh =>
      have unwritten : ∀ row ∈ desk.loadPendingDLRs collate (desk.binds.systemID s),
          row ∈ desk.table ∧ row.receipt ∉ desk.written := by
        intro row member
        rcases List.mem_filter.mp (List.mem_of_mem_take member) with ⟨stored, chosen⟩
        rcases of_decide_eq_true chosen with ⟨named, -⟩
        refine ⟨stored, fun wrote => ?_⟩
        -- what was written is still to be deleted by a goroutine that has not finished
        rcases apart.deleting row stored wrote with ⟨t, rest, drain, key⟩
        have working : desk.busy t = true := by simp [busy, drain, Drain.unfinished]
        exact orderly t (apart.inside t _ drain) working (key.trans named)
      refine ⟨copies, apart.rows, ?_, ?_, ?_, ?_, ?_⟩
      · intro t drain drains
        rcases drains_update drains with ⟨rfl, rfl⟩ | ⟨-, earlier⟩
        · exact inside
        · exact apart.inside t drain earlier
      · intro t drain drains
        rcases drains_update drains with ⟨rfl, rfl⟩ | ⟨-, earlier⟩
        · have loaded : (desk.loadPendingDLRs collate (desk.binds.systemID t)).Sublist desk.table :=
            (List.take_sublist _ _).trans List.filter_sublist
          exact apart.rows.sublist (loaded.map _)
        · exact apart.distinct t drain earlier
      · intro t drain drains row member
        rcases drains_update drains with ⟨rfl, rfl⟩ | ⟨-, earlier⟩
        · exact unwritten row member
        · exact apart.present t drain earlier row member
      · intro row member wrote
        rcases apart.deleting row member wrote with ⟨t, rest, drain, key⟩
        have other : t ≠ s := by
          rintro rfl
          simp [fresh] at drain
        exact ⟨t, rest, (Function.update_of_ne other _ _).trans drain, key⟩
      · have earlier : ∀ t, t ≠ s →
            (desk.drainOn s ⟨desk.loadPendingDLRs collate (desk.binds.systemID s), none⟩).busy t =
              desk.busy t := by
          intro t different
          simp [busy, drainOn, different]
        intro t u first second same
        by_cases left : t = s
        · by_cases right : u = s
          · rw [left, right]
          · rw [earlier u right] at second
            exact absurd (left ▸ same).symm (orderly u (apart.inside_of_busy second) second)
        · rw [earlier t left] at first
          by_cases right : u = s
          · exact absurd (right ▸ same) (orderly t (apart.inside_of_busy first) first)
          · rw [earlier u right] at second
            exact apart.alone t u first second same
  | @resent s row rest clock drain =>
      have fresh := apart.present s _ drain row List.mem_cons_self
      have nodup := apart.distinct s _ drain
      have sent : ∀ other ∈ desk.table, other.receipt ∈ desk.written ++ [row.receipt] →
          other.receipt ∈ desk.written ∨ other = row := by
        intro other member wrote
        refine (List.mem_append.mp wrote).imp_right fun last => ?_
        exact List.inj_on_of_nodup_map apart.rows member fresh.1 (List.mem_singleton.mp last)
      refine ⟨copies, apart.rows, ?_, ?_, ?_, ?_, ?_⟩
      · exact apart.inside_update drain _
      · intro t one drains
        rcases drains_update drains with ⟨rfl, rfl⟩ | ⟨-, earlier⟩
        · exact (List.nodup_cons.mp nodup).2
        · exact apart.distinct t one earlier
      · intro t one drains other member
        rcases drains_update drains with ⟨rfl, rfl⟩ | ⟨different, earlier⟩
        · obtain ⟨stored, unwritten⟩ :=
            apart.present t _ drain other (List.mem_cons_of_mem _ member)
          refine ⟨stored, fun wrote => ?_⟩
          rcases sent other stored (by simpa [written] using wrote) with earlier | rfl
          · exact unwritten earlier
          · exact (List.nodup_cons.mp nodup).1 (List.mem_map.mpr ⟨other, member, rfl⟩)
        · rcases apart.present t one earlier other member with ⟨stored, unwritten⟩
          refine ⟨stored, fun wrote => ?_⟩
          rcases sent other stored (by simpa [written] using wrote) with before | rfl
          · exact unwritten before
          · exact apart.ne_of_drains rows earlier drain different member List.mem_cons_self rfl
      · intro other member wrote
        rcases sent other member (by simpa [written] using wrote) with before | rfl
        · rcases apart.deleting other member before with ⟨t, left, deletes, key⟩
          have different : t ≠ s := by
            rintro rfl
            simp [drain] at deletes
          exact ⟨t, left, (Function.update_of_ne different _ _).trans deletes, key⟩
        · refine ⟨s, rest, Function.update_self _ _ _, ?_⟩
          exact (rows.drains s _ drain other List.mem_cons_self).systemID
      · exact apart.alone_update fun _ => busy_of_mem drain List.mem_cons_self
  | @stops s row rest written clock drain =>
      refine ⟨copies, apart.rows, apart.inside_update drain _, ?_, ?_, ?_, ?_⟩
      · intro t one drains
        rcases drains_update drains with ⟨rfl, rfl⟩ | ⟨-, earlier⟩
        · exact List.nodup_nil
        · exact apart.distinct t one earlier
      · intro t one drains other member
        rcases drains_update drains with ⟨rfl, rfl⟩ | ⟨-, earlier⟩
        · simp at member
        · exact apart.present t one earlier other member
      · intro other member wrote
        rcases apart.deleting other member wrote with ⟨t, left, deletes, key⟩
        have different : t ≠ s := by
          rintro rfl
          simp [drain] at deletes
        exact ⟨t, left, (Function.update_of_ne different _ _).trans deletes, key⟩
      · exact apart.alone_update fun _ => busy_of_mem drain List.mem_cons_self
  | @delete s id rest deleted drain =>
      obtain rfl : deleted = true := orderly
      have nodup := apart.distinct s _ drain
      have inTable : ∀ other, other ∈ desk.table.filter (fun row => row.id ≠ id) ↔
          other ∈ desk.table ∧ other.id ≠ id := by
        simp
      refine ⟨copies, ?_, apart.inside_update drain _, ?_, ?_, ?_, ?_⟩
      · exact apart.rows.sublist (List.filter_sublist.map _)
      · intro t one drains
        rcases drains_update drains with ⟨rfl, rfl⟩ | ⟨-, earlier⟩
        · exact nodup
        · exact apart.distinct t one earlier
      · have stays : ∀ t one, desk.drains t = some one → ∀ other ∈ one.rows,
            other ∈ desk.table.filter (fun row => row.id ≠ id) ∧ other.receipt ∉ desk.written := by
          intro t one drains other member
          rcases apart.present t one drains other member with ⟨stored, unwritten⟩
          refine ⟨(inTable other).mpr ⟨stored, fun same => unwritten ?_⟩, unwritten⟩
          rcases (rows.deleting s rest id drain).2 other stored same with ⟨push, pushed, receipt⟩
          exact List.mem_map.mpr ⟨push, pushed, receipt⟩
        intro t one drains other member
        rcases drains_update drains with ⟨rfl, rfl⟩ | ⟨-, earlier⟩
        · exact stays t _ drain other member
        · exact stays t one earlier other member
      · intro other member wrote
        rcases (inTable other).mp member with ⟨stored, left⟩
        rcases apart.deleting other stored wrote with ⟨t, rows, deletes, key⟩
        have different : t ≠ s := by
          rintro rfl
          rw [drain] at deletes
          cases deletes
          exact left rfl
        exact ⟨t, rows, (Function.update_of_ne different _ _).trans deletes, key⟩
      · exact apart.alone_update fun _ => by simp [busy, drain, Drain.unfinished]
  | crash => exact orderly.elim
  | _ => exact apart.of_same grows copies rfl rfl rfl

theorem apart_initial : initial.Apart collate :=
  ⟨by simp [copies, inHand, held, waiting, written, initial], by simp [waiting, initial],
    by simp [initial], by simp [initial], by simp [initial], by simp [initial],
    by simp [busy, initial]⟩

end ReceiptDesk

end Klsmsc
