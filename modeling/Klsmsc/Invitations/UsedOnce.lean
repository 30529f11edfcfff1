import Mathlib.Data.List.Perm.Subperm
import Klsmsc.Dlr.Rewriting
import Klsmsc.Invitations
import Klsmsc.Library.Keys

/-!
# An invitation code is used at most once

A call finds its code unused, and makes up a name that it has not seen, long before it commits
either. The commit does not look again: the code is updated whatever its status is, and no key of
the table keeps the names apart. So two calls for one code open two accounts when they overlap, each
with its credit, and calls whose names begin alike open accounts of one name.
-/

namespace Klsmsc

open Library

/-! ### A name is new among those that have been read -/

theorem firstFree_not_mem (used : List ℕ) : firstFree used ∉ used := by
  rw [firstFree]
  cases found : (List.range' 1 (used.length + 1)).find? fun number => number ∉ used with
  | some number => simpa using List.find?_some found
  | none =>
      -- more numbers than names
      have within : List.range' 1 (used.length + 1) ⊆ used := by
        intro number member
        have taken := List.find?_eq_none.mp found number member
        simpa using taken
      have fits := ((List.nodup_range' ..).subperm within).length_le
      rw [List.length_range'] at fits
      omega

theorem toList_twoDigits (number : ℕ) :
    (twoDigits number).toList = Nat.toDigits 10 number ∨
      (twoDigits number).toList = '0' :: Nat.toDigits 10 number := by
  rw [twoDigits]
  split
  · right
    rw [String.toList_append, toList_toString]
    rfl
  · exact .inl (toList_toString number)

theorem twoDigits_digits (number : ℕ) : ∀ char ∈ (twoDigits number).toList,
    char.toNat < 128 ∧ char.isDigit = true ∧ char ≠ '_' ∧
      Unicode.ascii.decimal char = some (char.toNat - '0'.toNat) := by
  intro char member
  rcases toList_twoDigits number with plain | padded
  · exact decimal_digits number char (plain ▸ member)
  · rw [padded, List.mem_cons] at member
    rcases member with rfl | later
    · decide
    · exact decimal_digits number char later

theorem digitsValue_twoDigits {unicode : Unicode} (lawful : unicode.Lawful) (number : ℕ) :
    digitsValue unicode.decimal 10 0 (twoDigits number).toList = some number := by
  have digits := twoDigits_digits number
  have nonempty : (twoDigits number).toList ≠ [] := by
    rcases toList_twoDigits number with plain | padded
    · rw [plain]
      exact Nat.toDigits_ne_nil
    · rw [padded]
      exact List.cons_ne_nil _ _
  rw [digitsValue_congr fun char found => lawful.decimal char (digits char found).1,
    digitsValue_eq_foldl nonempty fun char found =>
      ⟨(digits char found).2.2.2, (digits char found).2.2.1⟩]
  rcases toList_twoDigits number with plain | padded
  · rw [plain, foldl_toDigits (by decide) (by decide)]
  · rw [padded, List.foldl_cons]
    exact congrArg some (foldl_toDigits (by decide) (by decide) number)

theorem isDigits_twoDigits {unicode : Unicode} (lawful : unicode.Lawful) (number : ℕ) :
    isDigits unicode (twoDigits number) = true := by
  have nonempty : twoDigits number ≠ "" := by
    intro empty
    have value := digitsValue_twoDigits lawful number
    rw [empty] at value
    cases value
  rw [isDigits, decide_eq_true_eq]
  refine ⟨nonempty, List.all_eq_true.mpr ?_⟩
  intro char member
  have digit := twoDigits_digits number char member
  rw [lawful.isDigit char digit.1, digit.2.1]

namespace InvitationEnv

variable {env : InvitationEnv} {stem : String} {names : List String} {used : List ℕ}

theorem mem_usedSeqs (found : env.usedSeqs stem names = some used) {suffix : String}
    (member : stem ++ suffix ∈ names) (digits : isDigits env.unicode suffix = true) :
    ∃ number ∈ used, readInt env.unicode suffix = some number := by
  have listed : suffix ∈ ((names.filter (env.like stem)).map fun name =>
      String.ofList (name.toList.drop stem.length)).filter (isDigits env.unicode) := by
    refine List.mem_filter.mpr ⟨List.mem_map.mpr ⟨stem ++ suffix, ?_, ?_⟩, digits⟩
    · exact List.mem_filter.mpr ⟨member, env.like_append stem suffix⟩
    · rw [String.toList_append, ← String.length_toList, List.drop_left, String.ofList_toList]
  rw [usedSeqs] at found
  generalize (((names.filter (env.like stem)).map fun name =>
    String.ofList (name.toList.drop stem.length)).filter (isDigits env.unicode)) = suffixes
    at found listed
  induction suffixes generalizing used with
  | nil => cases listed
  | cons first suffixes ih =>
      rw [List.mapM_cons] at found
      obtain ⟨number, isFirst, rest⟩ := Option.bind_eq_some_iff.mp found
      obtain ⟨numbers, isRest, isUsed⟩ := Option.bind_eq_some_iff.mp rest
      cases isUsed
      rcases List.mem_cons.mp listed with rfl | later
      · exact ⟨number, List.mem_cons_self, isFirst⟩
      · obtain ⟨other, isOther, isRead⟩ := ih isRest later
        exact ⟨other, List.mem_cons_of_mem _ isOther, isRead⟩

theorem genAccountName_spec (lawful : env.unicode.Lawful) {salesId : ℕ} {country name : String}
    (made : env.genAccountName salesId country names = some name) :
    (env.nameStem salesId country).toList <+: name.toList ∧ name ∉ names := by
  obtain ⟨used, found, rfl⟩ := Option.map_eq_some_iff.mp made
  refine ⟨by simp, ?_⟩
  intro member
  obtain ⟨number, isUsed, isRead⟩ :=
    mem_usedSeqs found member (isDigits_twoDigits lawful (firstFree used))
  have same : number = firstFree used := by
    rw [readInt] at isRead
    split at isRead
    · cases isRead
    · rw [digitsValue_twoDigits lawful] at isRead
      exact (Option.some.inj isRead).symm
  exact firstFree_not_mem used (same ▸ isUsed)

end InvitationEnv

/-! ### What a statement can do -/

def ActivationStage.pending : ActivationStage → Option OpenedAccount
  | .flushed _ _ _ account => some account
  | .ready _ _ _ account => some account
  | _ => none

def InvitationEnv.NewName (env : InvitationEnv) (invite : InvitationCode) (seen : List String)
    (accountName : String) : Prop :=
  (env.nameStem invite.salesId invite.pricingConfig.countryOrGlobal).toList <+:
      accountName.toList ∧ accountName ∉ seen

def ActivationStage.Named (env : InvitationEnv) : ActivationStage → Prop
  | .named invite _ _ seen accountName => env.NewName invite seen accountName
  | .flushed invite _ seen account => env.NewName invite seen account.accountName
  | .ready invite _ seen account => env.NewName invite seen account.accountName
  | _ => True

namespace Invitations

variable (env : InvitationEnv)

inductive Performs (state : Invitations) : ActivationLabel → Invitations → Prop where
  | move {label : ActivationLabel} {call : ℕ} {stage : ActivationStage}
      (kept : stage.pending = none ∨ stage.pending = (state.calls call).pending)
      (named : (state.calls call).Named env → stage.Named env) :
      Performs state label (state.setStage call stage)
  | flush {call tgId : ℕ} {invite : InvitationCode} {snapshot : InvitationTables}
      {seen : List String} {accountName : String}
      (stage : state.calls call = .named invite tgId snapshot seen accountName) :
      Performs state (.flush call)
        { state.setStage call
            (.flushed invite snapshot seen (invite.account state.nextId tgId accountName)) with
          nextId := state.nextId + 1 }
  | commit {call now : ℕ} {invite stored : InvitationCode} {hasUser : Bool} {seen : List String}
      {account : OpenedAccount} (stage : state.calls call = .ready invite hasUser seen account)
      (present : state.committed.codes invite.code = some stored) :
      Performs state (.commit call now)
        { state.setStage call .ended with
          committed := state.committed.activate invite.code account now
          origins := state.origins ++ [(invite.code, account.id)] }

variable {env}

theorem performs_of_step {state after : Invitations} {label : ActivationLabel}
    (lawful : env.unicode.Lawful) (step : state.Step env label after) :
    Performs env state label after := by
  cases label with
  | begin call code tgId now =>
      simp only [Step, next] at step
      split at step
      · split at step
        · cases step
          exact .move (.inl rfl) fun _ => trivial
        · cases step
          exact .move (.inl rfl) fun _ => trivial
      · cases step
  | name call latest =>
      simp only [Step, next] at step
      split at step
      · split at step
        · cases step
          exact .move (.inl rfl) fun _ => trivial
        · split at step
          · rename_i made
            cases step
            exact .move (.inl rfl) fun _ => InvitationEnv.genAccountName_spec lawful made
          · cases step
            exact .move (.inl rfl) fun _ => trivial
      · cases step
  | flush call =>
      simp only [Step, next] at step
      split at step
      · rename_i stage
        cases step
        exact .flush stage
      · cases step
  | findUser call latest =>
      simp only [Step, next] at step
      split at step
      · rename_i stage
        cases step
        refine .move (.inr ?_) ?_
        · rw [stage]
          rfl
        · rw [stage]
          exact id
      · cases step
  | commit call now =>
      simp only [Step, next] at step
      split at step
      · rename_i stage
        split at step
        · cases step
          exact .move (.inl rfl) fun _ => trivial
        · rename_i possible
          cases step
          rcases Option.ne_none_iff_exists'.mp (not_or.mp possible).2 with ⟨stored, present⟩
          exact .commit stage present
      · cases step
  | crash call =>
      cases step
      exact .move (.inl rfl) fun _ => trivial

/-! ### The invariant -/

/-- Ids are given out once, a code that has opened an account is not unused any more, and the names
of the opened accounts differ. -/
structure Orderly (env : InvitationEnv) (state : Invitations) : Prop where
  named : ∀ call, (state.calls call).Named env
  keyed : (state.committed.accounts.map OpenedAccount.id).Nodup
  below : ∀ account ∈ state.committed.accounts, account.id < state.nextId
  credited : ∀ credit ∈ state.committed.credits, credit.accountId < state.nextId
  origin : ∀ origin ∈ state.origins, origin.2 < state.nextId
  waiting : ∀ call account, (state.calls call).pending = some account →
    account.id < state.nextId ∧ account.id ∉ state.committed.accounts.map OpenedAccount.id ∧
      account.id ∉ state.committed.credits.map OpeningCredit.accountId ∧
      account.id ∉ state.origins.map Prod.snd
  apart : ∀ first second one other, (state.calls first).pending = some one →
    (state.calls second).pending = some other → one.id = other.id → first = second
  codes : (state.origins.map Prod.fst).Nodup
  spent : ∀ origin ∈ state.origins, ∀ stored ∈ state.committed.codes origin.1,
    stored.status ≠ .unused
  once : ∀ id ∈ state.origins.map Prod.snd,
    (state.committed.credits.filter fun credit => credit.accountId = id).length ≤ 1
  names : (state.opened.map OpenedAccount.accountName).Nodup

variable {state after : Invitations}

theorem Fresh.orderly (fresh : state.Fresh) : state.Orderly env where
  named call := by
    rw [fresh.idle call]
    trivial
  keyed := fresh.keyed
  below := fresh.below
  credited := fresh.credited
  origin := by simp [fresh.unopened]
  waiting call account pending := by
    rw [fresh.idle call] at pending
    cases pending
  apart first _ one _ pending := by
    rw [fresh.idle first] at pending
    cases pending
  codes := by simp [fresh.unopened]
  spent := by simp [fresh.unopened]
  once := by simp [fresh.unopened]
  names := by simp [opened, fresh.unopened]

namespace Orderly

theorem id_eq (orderly : state.Orderly env) {code : String} {one other : ℕ}
    (isOne : (code, one) ∈ state.origins) (isOther : (code, other) ∈ state.origins) :
    one = other :=
  congrArg Prod.snd (eq_of_key_eq orderly.codes isOne isOther rfl)

theorem usedOnce (orderly : state.Orderly env) : state.UsedOnce where
  accounts code := by
    refine length_le_one ((orderly.keyed.of_map _).filter _) ?_
    intro first isFirst second isSecond
    obtain ⟨inFirst, firstOrigin⟩ := List.mem_filter.mp isFirst
    obtain ⟨inSecond, secondOrigin⟩ := List.mem_filter.mp isSecond
    exact eq_of_key_eq orderly.keyed inFirst inSecond
      (orderly.id_eq (of_decide_eq_true firstOrigin) (of_decide_eq_true secondOrigin))
  credits code := by
    by_cases used : ∃ id, (code, id) ∈ state.origins
    · rcases used with ⟨id, isOrigin⟩
      refine le_trans (List.Sublist.length_le ?_)
        (orderly.once id (List.mem_map_of_mem isOrigin))
      refine List.monotone_filter_right _ ?_
      intro credit origin
      exact decide_eq_true (orderly.id_eq (of_decide_eq_true origin) isOrigin)
    · have nothing : state.creditsOf code = [] := by
        refine List.filter_eq_nil_iff.mpr ?_
        intro credit _ origin
        exact used ⟨_, of_decide_eq_true origin⟩
      rw [nothing]
      exact Nat.zero_le 1
  names := orderly.names

theorem move (orderly : state.Orderly env) {call : ℕ} {stage : ActivationStage}
    (kept : stage.pending = none ∨ stage.pending = (state.calls call).pending)
    (named : (state.calls call).Named env → stage.Named env) :
    (state.setStage call stage).Orderly env := by
  have before : ∀ other account,
      ((state.setStage call stage).calls other).pending = some account →
        (state.calls other).pending = some account := by
    intro other account pending
    simp only [setStage, Function.update_apply] at pending
    split at pending
    · rename_i same
      subst same
      rcases kept with nothing | same
      · rw [nothing] at pending
        cases pending
      · rw [← same, pending]
    · exact pending
  refine { orderly with named := ?_, waiting := ?_, apart := ?_, names := orderly.names }
  · intro other
    simp only [setStage, Function.update_apply]
    split
    · exact named (orderly.named call)
    · exact orderly.named other
  · intro other account pending
    exact orderly.waiting other account (before other account pending)
  · intro first second one other firstPending secondPending
    exact orderly.apart first second one other (before _ _ firstPending)
      (before _ _ secondPending)

theorem flush (orderly : state.Orderly env) {call tgId : ℕ} {invite : InvitationCode}
    {snapshot : InvitationTables} {seen : List String} {accountName : String}
    (stage : state.calls call = .named invite tgId snapshot seen accountName) :
    Orderly env
      { state.setStage call
          (.flushed invite snapshot seen (invite.account state.nextId tgId accountName)) with
        nextId := state.nextId + 1 } := by
  have newName := orderly.named call
  rw [stage] at newName
  have below : ∀ other account, other ≠ call → (state.calls other).pending = some account →
      account.id ≠ state.nextId := by
    intro other account _ pending
    exact Nat.ne_of_lt (orderly.waiting other account pending).1
  refine ⟨?_, orderly.keyed, ?_, ?_, ?_, ?_, ?_, orderly.codes, orderly.spent, orderly.once,
    orderly.names⟩
  · intro other
    simp only [setStage, Function.update_apply]
    split
    · exact newName
    · exact orderly.named other
  · exact fun account member => Nat.lt_succ_of_lt (orderly.below account member)
  · exact fun credit member => Nat.lt_succ_of_lt (orderly.credited credit member)
  · exact fun origin member => Nat.lt_succ_of_lt (orderly.origin origin member)
  · intro other account pending
    simp only [setStage, Function.update_apply] at pending
    split at pending
    · cases pending
      refine ⟨Nat.lt_succ_self _, ?_, ?_, ?_⟩
      · intro member
        obtain ⟨stored, inside, same⟩ := List.mem_map.mp member
        exact Nat.ne_of_lt (orderly.below stored inside) same
      · intro member
        obtain ⟨credit, inside, same⟩ := List.mem_map.mp member
        exact Nat.ne_of_lt (orderly.credited credit inside) same
      · intro member
        obtain ⟨origin, inside, same⟩ := List.mem_map.mp member
        exact Nat.ne_of_lt (orderly.origin origin inside) same
    · obtain ⟨isBelow, rest⟩ := orderly.waiting other account pending
      exact ⟨Nat.lt_succ_of_lt isBelow, rest⟩
  · intro first second one other firstPending secondPending same
    simp only [setStage, Function.update_apply] at firstPending secondPending
    split at firstPending
    · rename_i isFirst
      split at secondPending
      · rename_i isSecond
        rw [isFirst, isSecond]
      · rename_i notSecond
        cases firstPending
        exact absurd same.symm (below second other notSecond secondPending)
    · rename_i notFirst
      split at secondPending
      · cases secondPending
        exact absurd same (below first one notFirst firstPending)
      · exact orderly.apart first second one other firstPending secondPending same

theorem opened_activate {account : OpenedAccount}
    (unstored : account.id ∉ state.committed.accounts.map OpenedAccount.id) (call now : ℕ)
    (code : String) :
    opened { state.setStage call .ended with
      committed := state.committed.activate code account now
      origins := state.origins ++ [(code, account.id)] } = state.opened ++ [account] := by
  have others : (state.committed.accounts.filter fun stored =>
      stored.id ∈ (state.origins ++ [(code, account.id)]).map Prod.snd) = state.opened := by
    refine List.filter_congr ?_
    intro stored member
    have differs : stored.id ≠ account.id := by
      intro same
      exact unstored (same ▸ List.mem_map_of_mem member)
    simp [differs]
  rw [opened, InvitationTables.activate, List.filter_append, others]
  simp

theorem accountId_of_mem_openingCredits {account : OpenedAccount} {credit : OpeningCredit}
    (member : credit ∈ account.openingCredits) : credit.accountId = account.id := by
  rw [OpenedAccount.openingCredits] at member
  split at member
  · rw [List.mem_singleton.mp member]
  · cases member

theorem length_openingCredits_le (account : OpenedAccount) :
    account.openingCredits.length ≤ 1 := by
  rw [OpenedAccount.openingCredits]
  split
  · exact Nat.le_refl 1
  · exact Nat.zero_le 1

theorem once_append (orderly : state.Orderly env) {code : String} {account : OpenedAccount}
    (uncredited : account.id ∉ state.committed.credits.map OpeningCredit.accountId)
    (isNew : account.id ∉ state.origins.map Prod.snd) {id : ℕ}
    (member : id ∈ (state.origins ++ [(code, account.id)]).map Prod.snd) :
    ((state.committed.credits ++ account.openingCredits).filter fun credit =>
      credit.accountId = id).length ≤ 1 := by
  rw [List.filter_append]
  rw [List.map_append, List.mem_append] at member
  rcases member with before | added
  · have noneAdded : account.openingCredits.filter (fun credit => credit.accountId = id) = [] := by
      refine List.filter_eq_nil_iff.mpr ?_
      intro credit inside same
      have isId := of_decide_eq_true same
      rw [accountId_of_mem_openingCredits inside] at isId
      exact isNew (isId ▸ before)
    rw [noneAdded, List.append_nil]
    exact orderly.once id before
  · have isId : id = account.id := List.mem_singleton.mp added
    have noneBefore :
        state.committed.credits.filter (fun credit => credit.accountId = id) = [] := by
      refine List.filter_eq_nil_iff.mpr ?_
      intro credit inside same
      have isOwn := of_decide_eq_true same
      exact uncredited (isId ▸ isOwn ▸ List.mem_map_of_mem inside)
    rw [noneBefore, List.nil_append]
    exact (List.length_filter_le _ _).trans (length_openingCredits_le account)

theorem commit (orderly : state.Orderly env) {call now : ℕ} {invite stored : InvitationCode}
    {hasUser : Bool} {seen : List String} {account : OpenedAccount}
    (stage : state.calls call = .ready invite hasUser seen account)
    (present : state.committed.codes invite.code = some stored)
    (undisturbed : state.Undisturbed env (.commit call now)) :
    Orderly env
      { state.setStage call .ended with
        committed := state.committed.activate invite.code account now
        origins := state.origins ++ [(invite.code, account.id)] } := by
  obtain ⟨unused, read⟩ := undisturbed invite hasUser seen account stage
  have pending : (state.calls call).pending = some account := by
    rw [stage]
    rfl
  obtain ⟨isBelow, unstored, uncredited, isNew⟩ := orderly.waiting call account pending
  have newCode : invite.code ∉ state.origins.map Prod.fst := by
    intro member
    obtain ⟨origin, inside, same⟩ := List.mem_map.mp member
    exact orderly.spent origin inside stored (same ▸ present) (unused stored present)
  have newName : ∀ other ∈ state.committed.accounts,
      other.accountName ≠ account.accountName := by
    have made := orderly.named call
    rw [stage] at made
    intro other member same
    exact made.2 (same ▸ read other member (same ▸ made.1))
  exact
    { named := by
        intro other
        simp only [setStage, Function.update_apply]
        split
        · trivial
        · exact orderly.named other
      keyed := by
        change ((state.committed.accounts ++ [account]).map OpenedAccount.id).Nodup
        rw [List.map_append]
        exact List.Nodup.append orderly.keyed (List.nodup_singleton _)
          (List.disjoint_singleton.mpr unstored)
      below := by
        intro other member
        rcases List.mem_append.mp member with before | added
        · exact orderly.below other before
        · rw [List.mem_singleton.mp added]
          exact isBelow
      credited := by
        intro credit member
        rcases List.mem_append.mp member with before | added
        · exact orderly.credited credit before
        · rw [accountId_of_mem_openingCredits added]
          exact isBelow
      origin := by
        intro origin member
        rcases List.mem_append.mp member with before | added
        · exact orderly.origin origin before
        · rw [List.mem_singleton.mp added]
          exact isBelow
      waiting := by
        intro other otherAccount otherPending
        simp only [setStage, Function.update_apply] at otherPending
        split at otherPending
        · cases otherPending
        · rename_i differs
          have notSame : otherAccount.id ≠ account.id := fun same =>
            differs (orderly.apart other call otherAccount account otherPending pending same)
          obtain ⟨otherBelow, otherStored, otherCredited, otherNew⟩ :=
            orderly.waiting other otherAccount otherPending
          refine ⟨otherBelow, ?_, ?_, ?_⟩
          · simp only [InvitationTables.activate, List.map_append, List.mem_append, not_or]
            exact ⟨otherStored, by simpa using notSame⟩
          · simp only [InvitationTables.activate, List.map_append, List.mem_append, not_or]
            refine ⟨otherCredited, ?_⟩
            intro member
            obtain ⟨credit, inside, same⟩ := List.mem_map.mp member
            exact notSame (same.symm.trans (accountId_of_mem_openingCredits inside))
          · simp only [List.map_append, List.mem_append, not_or]
            exact ⟨otherNew, by simpa using notSame⟩
      apart := by
        intro first second one other firstPending secondPending
        simp only [setStage, Function.update_apply] at firstPending secondPending
        split at firstPending
        · cases firstPending
        · split at secondPending
          · cases secondPending
          · exact orderly.apart first second one other firstPending secondPending
      codes := by
        rw [List.map_append]
        exact List.Nodup.append orderly.codes (List.nodup_singleton _)
          (List.disjoint_singleton.mpr newCode)
      spent := by
        intro origin member
        rcases List.mem_append.mp member with before | added
        · have differs : origin.1 ≠ invite.code := fun same =>
            newCode (same ▸ List.mem_map_of_mem before)
          simp only [InvitationTables.activate, Function.update_of_ne differs]
          exact orderly.spent origin before
        · rw [List.mem_singleton.mp added]
          simp only [InvitationTables.activate, Function.update_self, present]
          rintro _ ⟨⟩
          simp [InvitationCode.markUsed]
      once := fun id member => orderly.once_append uncredited isNew member
      names := by
        rw [opened_activate unstored, List.map_append]
        refine List.Nodup.append orderly.names (List.nodup_singleton _)
          (List.disjoint_singleton.mpr ?_)
        intro member
        obtain ⟨other, inside, same⟩ := List.mem_map.mp member
        exact newName other (List.mem_filter.mp inside).1 same }

theorem next (orderly : state.Orderly env) (lawful : env.unicode.Lawful)
    {label : ActivationLabel} (step : state.Step env label after)
    (undisturbed : state.Undisturbed env label) : after.Orderly env := by
  cases performs_of_step lawful step with
  | move kept named => exact orderly.move kept named
  | flush stage => exact orderly.flush stage
  | commit stage present => exact orderly.commit stage present undisturbed

end Orderly

/-- In every run in which no commit is disturbed, each code opens at most one account with at most
one credit, and no two of the opened accounts have one name. -/
theorem invitations_used_once {first last : Invitations}
    {transitions : List (Transition Invitations ActivationLabel)}
    (lawful : env.unicode.Lawful) (fresh : first.Fresh) (run : Run (Step env) first transitions last)
    (undisturbed : ∀ transition ∈ transitions,
      transition.before.Undisturbed env transition.label) :
    last.UsedOnce ∧ ∀ transition ∈ transitions, transition.after.UsedOnce := by
  have preserved : ∀ before label after,
      Guarded (Step env) (Undisturbed env) before label after →
        before.Orderly env → after.Orderly env :=
    fun _ _ _ guarded orderly => orderly.next lawful guarded.1 guarded.2
  have ordered := (run.guarded undisturbed).invariant preserved fresh.orderly
  exact ⟨ordered.1.usedOnce, fun transition member => (ordered.2 transition member).2.usedOnce⟩

/-- Staff with numbered names, prices above every floor, and a database that tells capitals
apart. -/
def numberedStaff : InvitationEnv where
  unicode := Unicode.ascii
  adminUsername salesId := some s!"kl{salesId}"
  belowFloor _ := false
  like start name := start.toList.isPrefixOf name.toList
  like_append start rest := by simp

def smsCode : InvitationCode where
  code := "AB12CD34"
  salesId := 7
  pricingConfig := ⟨some "sms", some "CN", none, some 600⟩
  status := .unused
  usedByAccountId := none
  expiresAt := some 1000
  usedAt := none

def oneCode : Invitations where
  committed := ⟨fun code => if code = smsCode.code then some smsCode else none, [], [], fun _ => none⟩
  nextId := 1
  calls _ := .idle
  origins := []

theorem oneCode_fresh : oneCode.Fresh :=
  ⟨fun _ => rfl, rfl, List.nodup_nil, by simp [oneCode], by simp [oneCode]⟩

theorem invitations_used_once_single :
    ∃ transitions last, Run (Step numberedStaff) oneCode transitions last ∧
      (last.opened.map OpenedAccount.accountName) = ["TG7086V01"] ∧ last.UsedOnce := by
  let account := smsCode.account 1 70 "TG7086V01"
  let isValid := oneCode.setStage 0 (.valid smsCode 70 oneCode.committed)
  let isNamed := isValid.setStage 0 (.named smsCode 70 oneCode.committed [] "TG7086V01")
  let isFlushed : Invitations :=
    { isNamed.setStage 0 (.flushed smsCode oneCode.committed [] account) with nextId := 2 }
  let isReady := isFlushed.setStage 0 (.ready smsCode false [] account)
  have valid : oneCode.Step numberedStaff (.begin 0 "AB12CD34" 70 900) isValid := rfl
  have named : isValid.Step numberedStaff (.name 0 true) isNamed := by
    have made : numberedStaff.genAccountName 7 "CN" [] = some "TG7086V01" := by decide
    exact congrArg (fun name => name.elim (some (isValid.setStage 0 .ended)) fun accountName =>
      some (isValid.setStage 0 (.named smsCode 70 oneCode.committed [] accountName))) made
  have flushed : isNamed.Step numberedStaff (.flush 0) isFlushed := rfl
  have ready : isFlushed.Step numberedStaff (.findUser 0 true) isReady := rfl
  have committed : isReady.Step numberedStaff (.commit 0 900)
      { isReady.setStage 0 .ended with
        committed := oneCode.committed.activate smsCode.code account 900
        origins := [(smsCode.code, 1)] } := rfl
  have run := Run.cons valid (.cons named (.cons flushed (.cons ready (.cons committed (.nil _)))))
  refine ⟨_, _, run, by decide,
    (invitations_used_once Unicode.ascii_lawful oneCode_fresh run ?_).1⟩
  intro transition member
  simp only [List.mem_cons, List.not_mem_nil, or_false] at member
  rcases member with rfl | rfl | rfl | rfl | rfl
  · trivial
  · trivial
  · trivial
  · trivial
  · rintro invite hasUser seen account ⟨⟩
    refine ⟨?_, fun other inside => by cases inside⟩
    rintro stored ⟨⟩
    rfl

/-- Two users of the messenger activate one code while neither has committed. -/
theorem invitation_used_twice :
    oneCode.Fresh ∧ ∃ transitions last, Run (Step numberedStaff) oneCode transitions last ∧
      (last.accountsOf "AB12CD34").length = 2 ∧ (last.creditsOf "AB12CD34").length = 2 ∧
        (last.opened.map OpenedAccount.accountName) = ["TG7086V01", "TG7086V01"] ∧
          ¬ last.UsedOnce := by
  have passed := Run.exists_of_execute (fun outcome : _ × Invitations =>
      decide ((outcome.2.accountsOf "AB12CD34").length = 2 ∧
        (outcome.2.creditsOf "AB12CD34").length = 2 ∧
          (outcome.2.opened.map OpenedAccount.accountName) = ["TG7086V01", "TG7086V01"]))
    (show ((execute (next numberedStaff) oneCode
      [.begin 0 "AB12CD34" 70 900, .begin 1 "AB12CD34" 71 900, .name 0 true, .name 1 true,
        .flush 0, .flush 1, .findUser 0 true, .findUser 1 true, .commit 0 900,
        .commit 1 900]).any _) = true by decide)
  rcases passed with ⟨transitions, last, run, checked⟩
  obtain ⟨accounts, credits, names⟩ := of_decide_eq_true checked
  refine ⟨oneCode_fresh, transitions, last, run, accounts, credits, names, ?_⟩
  intro usedOnce
  have atMost := usedOnce.accounts "AB12CD34"
  have isTwo : (last.accountsOf "AB12CD34").length = 2 := accounts
  omega

end Invitations

end Klsmsc
