import Klsmsc.Balance
import Mathlib.Tactic.Linarith

/-!
# No update of the balance is lost

The balance is what it was at first, less what was charged, and what was credited, as long as a
purchase that flushes finds the balance that it has read. Whatever a session writes it writes
under the lock of the row, so that no other session changes the balance before it commits.
-/

namespace Klsmsc

open Library

namespace AccountTally

def Balanced (initial : Money) (tally : AccountTally) : Prop :=
  tally.balance = initial - tally.charged + tally.credited

def Covered (paymentType : PaymentType) (initial : Money) (tally : AccountTally) : Prop :=
  paymentType = .prepaid → 0 ≤ initial → 0 ≤ tally.balance

end AccountTally

namespace BalanceOperation

variable {paymentType : PaymentType} {initial : Money} {tally : AccountTally}
  {operation : BalanceOperation}

theorem balanced_write (balanced : tally.Balanced initial) (operation : BalanceOperation) :
    ((operation.write paymentType tally.balance).toList.foldl BalanceWrite.apply tally).Balanced
      initial := by
  have deduct : ∀ amount, (BalanceWrite.apply tally (.deduct amount)).Balanced initial := by
    intro amount
    simp only [AccountTally.Balanced, BalanceWrite.apply] at balanced ⊢
    linarith
  have credit : ∀ amount, (BalanceWrite.apply tally (.credit amount)).Balanced initial := by
    intro amount
    simp only [AccountTally.Balanced, BalanceWrite.apply] at balanced ⊢
    linarith
  cases operation with
  | doRefund amount => exact credit amount
  | chunkRefund chargedAmount => exact credit chargedAmount
  | _ =>
      rw [write]
      split
      · exact deduct _
      · exact balanced

theorem covered_write (covered : tally.Covered paymentType initial) (reaches : operation.Reaches) :
    ((operation.write paymentType tally.balance).toList.foldl BalanceWrite.apply tally).Covered
      paymentType initial := by
  intro prepaid initially
  have before := covered prepaid initially
  have deduct : ∀ amount, amount ≤ tally.balance →
      0 ≤ (BalanceWrite.apply tally (.deduct amount)).balance := by
    intro amount enough
    simp only [BalanceWrite.apply]
    linarith
  have credit : ∀ amount, 0 < amount → 0 ≤ (BalanceWrite.apply tally (.credit amount)).balance := by
    intro amount positive
    simp only [BalanceWrite.apply]
    linarith
  cases operation with
  | buyToStock amount | buyCombo amount | buyAndSend amount =>
      rw [write]
      split
      · rename_i enough
        exact deduct amount enough
      · exact before
  | calculateAndCharge amount | bulkDeduct amount =>
      rw [write]
      split
      · rename_i enough
        rcases enough with postpaid | enough
        · cases prepaid.symm.trans postpaid
        · exact deduct amount enough
      · exact before
  | doRefund amount => exact credit amount (not_le.mp reaches)
  | chunkRefund chargedAmount => exact credit chargedAmount reaches

end BalanceOperation

def BalanceStore.Current (store : BalanceStore) (label : BalanceLabel) : Prop :=
  label.action = .flush → ∀ price seen,
    (store.sessions label.session).phase = .loaded price seen → seen = store.committed.balance

structure BalanceInvariant (paymentType : PaymentType) (initial : Money) (store : BalanceStore) :
    Prop where
  upheld : store.Upheld BalanceWrite.apply () fun tally =>
    tally.Balanced initial ∧ tally.Covered paymentType initial
  unwritten : ∀ index price seen, (store.sessions index).phase = .loaded price seen →
    (store.sessions index).pending = []

section Steps

variable {paymentType : PaymentType} {initial : Money} {store after : BalanceStore}
  {label : BalanceLabel}

theorem BalanceInvariant.start (paymentType : PaymentType) (initial : Money) :
    BalanceInvariant paymentType initial (BalanceStore.start initial) := by
  have holds : (⟨initial, 0, 0⟩ : AccountTally).Balanced initial ∧
      (⟨initial, 0, 0⟩ : AccountTally).Covered paymentType initial :=
    ⟨by simp [AccountTally.Balanced], fun _ positive => positive⟩
  exact ⟨⟨by simp [Store.Exclusive, BalanceStore.start], by simp [BalanceStore.start], holds,
    fun _ => holds⟩, by simp [BalanceStore.start]⟩

theorem BalanceStep.others (step : BalanceStep paymentType store label after) {other : ℕ}
    (differs : other ≠ label.session) : after.sessions other = store.sessions other := by
  cases step <;>
    simp [Store.lock, Store.write, Store.move, Store.rollback, Store.commit, Store.setSession,
      show other ≠ _ from differs]

theorem BalanceStep.unwritten (step : BalanceStep paymentType store label after)
    (before : ∀ index price seen, (store.sessions index).phase = .loaded price seen →
      (store.sessions index).pending = []) :
    ∀ index price seen, (after.sessions index).phase = .loaded price seen →
      (after.sessions index).pending = [] := by
  intro index price seen loaded
  by_cases same : index = label.session
  · subst same
    cases step with
    | load price fresh => simp [fresh]
    | update operation idle reaches free => simp [idle] at loaded
    | _ => simp at loaded
  · rw [step.others same] at loaded ⊢
    exact before index price seen loaded

theorem BalanceInvariant.step
    (stepped : Guarded (BalanceStep paymentType) BalanceStore.Current store label after)
    (before : BalanceInvariant paymentType initial store) :
    BalanceInvariant paymentType initial after := by
  rcases before with ⟨upheld, unwritten⟩
  rcases stepped with ⟨step, current⟩
  refine ⟨?_, step.unwritten unwritten⟩
  cases step with
  | @update index operation idle reaches free =>
      have sees := upheld.seen index
      apply (upheld.lock free).write (by simp)
      rw [Store.view, Store.lock_same]
      exact ⟨operation.balanced_write sees.1, operation.covered_write sees.2 reaches⟩
  | load price fresh => exact upheld.move _
  | @flush index price seen loaded enough changed free =>
      have reread : seen = store.committed.balance := current rfl price seen loaded
      apply Store.Upheld.move
      apply (upheld.lock free).write (by simp)
      rw [Store.view, Store.lock_same, unwritten index price seen loaded]
      rcases upheld.committed with ⟨balanced, -⟩
      constructor
      · simp only [AccountTally.Balanced, List.foldl_nil, List.foldl_cons, BalanceWrite.apply,
          Store.lock_committed] at balanced ⊢
        linarith
      · intro _ _
        simp only [List.foldl_nil, List.foldl_cons, BalanceWrite.apply]
        linarith
  | unchanged loaded enough => exact upheld.move _
  | commit done => exact upheld.commit _
  | rollback => exact upheld.rollback _

end Steps

/-- In a run in which every purchase of a package that flushes finds the balance that it has read,
the balance of every state is the initial one less the charges and with the credits that were
committed, and that of a prepaid account does not fall below zero. -/
theorem balance_not_lost (paymentType : PaymentType) (initial : Money)
    {transitions : List (Transition BalanceStore BalanceLabel)} {last : BalanceStore}
    (run : Run (BalanceStep paymentType) (BalanceStore.start initial) transitions last)
    (current : ∀ transition ∈ transitions, transition.before.Current transition.label) :
    (last.committed.Balanced initial ∧ last.committed.Covered paymentType initial) ∧
      ∀ transition ∈ transitions, transition.after.committed.Balanced initial ∧
        transition.after.committed.Covered paymentType initial := by
  rcases (run.guarded current).invariant
    (fun _ _ _ stepped before => BalanceInvariant.step stepped before)
    (BalanceInvariant.start paymentType initial) with ⟨atEnd, inside⟩
  exact ⟨atEnd.upheld.committed,
    fun transition member => (inside transition member).2.upheld.committed⟩

def purchaseLoads : BalanceStore :=
  (BalanceStore.start 100).move 0 (.loaded 20 100)

def purchaseFlushes (store : BalanceStore) : BalanceStore :=
  ((store.lock 0 ()).write 0 [.assign 80 20]).move 0 .flushed

def chargeCommits (store : BalanceStore) : BalanceStore :=
  ((store.lock 1 ()).write 1 [.deduct 30]).commit BalanceWrite.apply 1 .idle

/-- A purchase in the session 0, and a charge in the session 1 when it has committed. -/
theorem balance_not_lost_in_turn :
    ∃ transitions last, Run (BalanceStep .prepaid) (BalanceStore.start 100) transitions last ∧
      last.committed = ⟨50, 50, 0⟩ ∧ last.committed.Balanced 100 := by
  let purchased := (purchaseFlushes purchaseLoads).commit BalanceWrite.apply 0 .idle
  have load : BalanceStep .prepaid (BalanceStore.start 100) ⟨0, .load 20⟩ purchaseLoads :=
    BalanceStep.load 20 rfl
  have flush : BalanceStep .prepaid purchaseLoads ⟨0, .flush⟩ (purchaseFlushes purchaseLoads) := by
    refine @BalanceStep.flush .prepaid purchaseLoads 0 20 100 rfl (by decide) (by decide) ?_
    intro other differs
    simp [purchaseLoads, Store.move, Store.setSession, BalanceStore.start, differs]
  have commit : BalanceStep .prepaid (purchaseFlushes purchaseLoads) ⟨0, .commit⟩ purchased :=
    BalanceStep.commit (Or.inr rfl)
  have update : BalanceStep .prepaid purchased ⟨1, .update (.calculateAndCharge 30)⟩
      ((purchased.lock 1 ()).write 1 [.deduct 30]) := by
    refine BalanceStep.update (.calculateAndCharge 30) rfl trivial ?_
    intro other differs
    by_cases first : other = 0 <;>
      simp [purchased, purchaseFlushes, purchaseLoads, Store.move, Store.lock, Store.write,
        Store.commit, Store.setSession, BalanceStore.start, first]
  have settle : BalanceStep .prepaid ((purchased.lock 1 ()).write 1 [.deduct 30]) ⟨1, .commit⟩
      (chargeCommits purchased) := BalanceStep.commit (Or.inl rfl)
  have run := Run.cons load (Run.cons flush (Run.cons commit (Run.cons update (Run.cons settle
    (Run.nil _)))))
  refine ⟨_, _, run, rfl, (balance_not_lost .prepaid 100 run ?_).1.1⟩
  intro transition member
  simp only [List.mem_cons, List.not_mem_nil, or_false] at member
  rcases member with rfl | rfl | rfl | rfl | rfl
  · exact fun isFlush => by cases isFlush
  · intro _ price seen loaded
    obtain ⟨rfl, rfl⟩ := BalancePhase.loaded.inj loaded
    rfl
  · exact fun isFlush => by cases isFlush
  · exact fun isFlush => by cases isFlush
  · exact fun isFlush => by cases isFlush

/-- A charge that is made between the reading and the writing of the purchase is lost. -/
theorem charge_lost :
    ∃ transitions last, Run (BalanceStep .prepaid) (BalanceStore.start 100) transitions last ∧
      last.committed = ⟨80, 50, 0⟩ ∧ ¬ last.committed.Balanced 100 := by
  let charged := chargeCommits purchaseLoads
  have load : BalanceStep .prepaid (BalanceStore.start 100) ⟨0, .load 20⟩ purchaseLoads :=
    BalanceStep.load 20 rfl
  have update : BalanceStep .prepaid purchaseLoads ⟨1, .update (.calculateAndCharge 30)⟩
      ((purchaseLoads.lock 1 ()).write 1 [.deduct 30]) := by
    refine BalanceStep.update (.calculateAndCharge 30) rfl trivial ?_
    intro other differs
    by_cases first : other = 0 <;>
      simp [purchaseLoads, Store.move, Store.setSession, BalanceStore.start, first]
  have settle : BalanceStep .prepaid ((purchaseLoads.lock 1 ()).write 1 [.deduct 30]) ⟨1, .commit⟩
      charged := BalanceStep.commit (Or.inl rfl)
  have flush : BalanceStep .prepaid charged ⟨0, .flush⟩ (purchaseFlushes charged) := by
    refine @BalanceStep.flush .prepaid charged 0 20 100 rfl (by decide) (by decide) ?_
    intro other differs
    by_cases second : other = 1 <;>
      simp [charged, chargeCommits, purchaseLoads, Store.move, Store.lock, Store.write,
        Store.commit, Store.setSession, BalanceStore.start, differs, second]
  have commit : BalanceStep .prepaid (purchaseFlushes charged) ⟨0, .commit⟩
      ((purchaseFlushes charged).commit BalanceWrite.apply 0 .idle) :=
    BalanceStep.commit (Or.inr rfl)
  have run := Run.cons load (Run.cons update (Run.cons settle (Run.cons flush (Run.cons commit
    (Run.nil _)))))
  exact ⟨_, _, run, rfl, by unfold AccountTally.Balanced; decide⟩

end Klsmsc
