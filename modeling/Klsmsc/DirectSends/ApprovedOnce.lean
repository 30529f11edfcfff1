import Klsmsc.DirectSends.Approvals
import Klsmsc.SmallBatch.Treatment

/-!
# An approved text is sent at most once

The mark on an approval tells later requests that its message is out. Between the charge and the
mark nothing does, so a second request that has read the approval by then charges and enqueues a
message of its own; so does one that comes behind a request that has broken off between the queue
and the mark.
-/

namespace Klsmsc

open Library

namespace SmsContentApproval

variable {loaded changed : SmsContentApproval} {approval after : Option SmsContentApproval}

theorem flush_keeps_mark (flushes : loaded.flush changed approval = some after)
    (same : changed.messageId = loaded.messageId)
    (isMarked : ∀ stored ∈ approval, stored.messageId ≠ none) :
    ∀ stored ∈ after, stored.messageId ≠ none := by
  rw [flush] at flushes
  split at flushes
  · cases flushes
    exact isMarked
  · obtain ⟨stored, present, rfl⟩ := Option.map_eq_some_iff.mp flushes
    intro flushed isFlushed
    cases isFlushed
    rw [flushed_messageId_of_same same]
    exact isMarked stored present

theorem flush_marks {messageId : MessageId}
    (flushes : loaded.flush (loaded.marked messageId) approval = some after)
    (unmarked : loaded.messageId = none) : ∀ stored ∈ after, stored.messageId ≠ none := by
  have differs : (loaded.marked messageId).messageId ≠ loaded.messageId := by
    rw [unmarked]
    exact Option.some_ne_none messageId
  rw [flush, if_neg fun same => differs (congrArg SmsContentApproval.messageId same)] at flushes
  obtain ⟨stored, present, rfl⟩ := Option.map_eq_some_iff.mp flushes
  intro flushed isFlushed
  cases isFlushed
  rw [flushed_messageId_of_ne differs]
  exact Option.some_ne_none messageId

end SmsContentApproval

def ApprovalStage.Unmarked : ApprovalStage → Prop
  | .accepted _ loaded numbered _ => loaded.messageId = none ∧ numbered.messageId = none
  | .booked loaded _ => loaded.messageId = none
  | .enqueued loaded _ => loaded.messageId = none
  | .refused loaded _ => loaded.messageId = none
  | _ => True

namespace ApprovalSends

/-- One request at a time is behind its charge, and what has been sent is known to it or to the
approval. -/
structure Orderly (state : ApprovalSends) : Prop where
  unmarked : ∀ request, (state.requests request).Unmarked
  single : ∀ first second, (state.requests first).isSending = true →
    (state.requests second).isSending = true → first = second
  unsent : ∀ request loaded messageId, state.requests request = .booked loaded messageId →
    state.sent = []
  known : state.sent ≠ [] →
    (∃ request loaded messageId, state.requests request = .enqueued loaded messageId) ∨
      ∀ stored ∈ state.approval, stored.messageId ≠ none
  once : state.AtMostOnce

variable {state after : ApprovalSends} {request : ℕ}

theorem Untouched.orderly (untouched : state.Untouched) : state.Orderly := by
  refine ⟨?_, ?_, ?_, ?_, ?_⟩
  · intro request
    rw [untouched.idle request]
    trivial
  · intro first second isSending _
    rw [untouched.idle first] at isSending
    cases isSending
  · intro request loaded messageId stage
    rw [untouched.idle request] at stage
    cases stage
  · intro something
    exact absurd untouched.unsent something
  · rw [AtMostOnce, untouched.unsent]
    exact Nat.zero_le 1

namespace Orderly

theorem move (orderly : state.Orderly) (stage : ApprovalStage) (db : Db)
    (approval : Option SmsContentApproval) (unmarked : stage.Unmarked)
    (only : stage.isSending = true → ∀ other, (state.requests other).isSending = true →
      other = request)
    (unsent : ∀ loaded messageId, stage = .booked loaded messageId → state.sent = [])
    (known : state.sent ≠ [] →
      (∃ other loaded messageId, Function.update state.requests request stage other =
        .enqueued loaded messageId) ∨ ∀ stored ∈ approval, stored.messageId ≠ none) :
    Orderly { state.setStage request stage with db := db, approval := approval } := by
  refine ⟨?_, ?_, ?_, known, orderly.once⟩
  · intro other
    simp only [setStage, Function.update_apply]
    split
    · exact unmarked
    · exact orderly.unmarked other
  · intro first second firstSending secondSending
    simp only [setStage, Function.update_apply] at firstSending secondSending
    split at firstSending
    · rename_i isFirst
      split at secondSending
      · rename_i isSecond
        rw [isFirst, isSecond]
      · rw [isFirst, only firstSending second secondSending]
    · split at secondSending
      · rename_i isSecond
        rw [isSecond, only secondSending first firstSending]
      · exact orderly.single first second firstSending secondSending
  · intro other loaded messageId isBooked
    simp only [setStage, Function.update_apply] at isBooked
    split at isBooked
    · exact unsent loaded messageId isBooked
    · exact orderly.unsent other loaded messageId isBooked

theorem still_known (orderly : state.Orderly) (stage : ApprovalStage)
    {approval : Option SmsContentApproval}
    (notEnqueued : ∀ loaded messageId, state.requests request ≠ .enqueued loaded messageId)
    (keeps : (∀ stored ∈ state.approval, stored.messageId ≠ none) →
      ∀ stored ∈ approval, stored.messageId ≠ none) (something : state.sent ≠ []) :
    (∃ other loaded messageId, Function.update state.requests request stage other =
      .enqueued loaded messageId) ∨ ∀ stored ∈ approval, stored.messageId ≠ none := by
  rcases orderly.known something with ⟨other, loaded, messageId, isEnqueued⟩ | isMarked
  · refine .inl ⟨other, loaded, messageId, ?_⟩
    have differs : other ≠ request := by
      rintro rfl
      exact notEnqueued loaded messageId isEnqueued
    rw [Function.update_of_ne differs, isEnqueued]
  · exact .inr (keeps isMarked)

theorem rest (orderly : state.Orderly) {stage : ApprovalStage} (db : Db)
    {approval : Option SmsContentApproval}
    (notEnqueued : ∀ loaded messageId, state.requests request ≠ .enqueued loaded messageId)
    (unmarked : stage.Unmarked) (notSending : stage.isSending = false)
    (keeps : (∀ stored ∈ state.approval, stored.messageId ≠ none) →
      ∀ stored ∈ approval, stored.messageId ≠ none) :
    Orderly { state.setStage request stage with db := db, approval := approval } := by
  refine orderly.move stage db approval unmarked ?_ ?_
    (orderly.still_known stage notEnqueued keeps)
  · intro isSending
    rw [notSending] at isSending
    cases isSending
  · rintro loaded messageId rfl
    cases notSending

theorem enqueue (orderly : state.Orderly) {loaded : SmsContentApproval} {messageId : MessageId}
    (stage : state.requests request = .booked loaded messageId) :
    Orderly { state.setStage request (.enqueued loaded messageId) with
      sent := state.sent ++ [messageId] } := by
  have unsent := orderly.unsent request loaded messageId stage
  have isSending : (state.requests request).isSending = true := by
    rw [stage]
    rfl
  have unmarked := orderly.unmarked request
  rw [stage] at unmarked
  have moved := orderly.move (.enqueued loaded messageId) state.db state.approval unmarked
    (fun _ other otherSending => orderly.single other request otherSending isSending)
    (fun _ _ booked => by cases booked) (fun something => absurd unsent something)
  refine ⟨moved.unmarked, moved.single, ?_, ?_, ?_⟩
  · intro other otherLoaded otherId isBooked
    have alone : other = request := orderly.single other request (by
      simp only [setStage, Function.update_apply] at isBooked
      split at isBooked
      · cases isBooked
      · rw [isBooked]
        rfl) isSending
    subst alone
    simp [setStage] at isBooked
  · intro _
    exact .inl ⟨request, loaded, messageId, Function.update_self ..⟩
  · simp [AtMostOnce, unsent]

theorem next (orderly : state.Orderly) {label : ApprovalLabel} (step : state.Step label after)
    (keepsApart : state.KeepsApart label) : after.Orderly := by
  cases performs_of_step step with
  | @accept request _ _ _ _ _ loaded numbered accepted approval accepts stage =>
      rcases acceptApproved_spec accepts with ⟨present, isPresent, unmarked, number, rfl⟩
      rw [approval] at isPresent
      cases isPresent
      exact orderly.rest state.db (by simp [stage]) ⟨unmarked, unmarked⟩ rfl id
  | @book request _ env loaded numbered _ approval booked stage flushes _ =>
      rcases keepsApart with ⟨⟨stored, present, unmarked⟩, apart⟩
      have own := orderly.unmarked request
      rw [stage] at own
      have unsent : state.sent = [] := by
        by_contra something
        rcases orderly.known something with ⟨other, otherLoaded, messageId, isEnqueued⟩ | isMarked
        · have differs : other ≠ request := by
            rintro rfl
            rw [stage] at isEnqueued
            cases isEnqueued
          have notSending := apart other differs
          rw [isEnqueued] at notSending
          cases notSending
        · exact isMarked stored present unmarked
      refine orderly.move _ booked approval own.2 ?_ (fun _ _ _ => unsent)
        (fun something => absurd unsent something)
      intro _ other isSending
      by_contra differs
      rw [apart other differs] at isSending
      cases isSending
  | enqueue stage => exact orderly.enqueue stage
  | @refuse request _ loaded messageId stage =>
      have own := orderly.unmarked request
      rw [stage] at own
      exact orderly.rest state.db (by simp [stage]) own rfl id
  | @mark request loaded messageId approval stage flushes =>
      have own : loaded.messageId = none := by
        have own := orderly.unmarked request
        rwa [stage] at own
      refine orderly.move .ended state.db approval trivial (fun isSending => by cases isSending)
        (fun _ _ booked => by cases booked) (fun _ => .inr ?_)
      exact SmsContentApproval.flush_marks flushes own
  | @lose request gone =>
      refine orderly.move .ended state.db state.approval trivial
        (fun isSending => by cases isSending) (fun _ _ booked => by cases booked)
        (fun _ => .inr ?_)
      rw [gone]
      intro stored present
      cases present
  | @refund request _ _ loaded messageId approval db stage flushes =>
      exact orderly.rest db (by simp [stage]) trivial rfl
        (SmsContentApproval.flush_keeps_mark flushes rfl)
  | startDeletion stage => exact orderly.rest state.db (by simp [stage]) trivial rfl id
  | delete stage =>
      refine orderly.rest state.db (by simp [stage]) trivial rfl ?_
      intro _ stored present
      cases present
  | @quit _ request _ notSending =>
      refine orderly.rest state.db ?_ trivial rfl id
      intro loaded messageId isEnqueued
      rw [isEnqueued] at notSending
      cases notSending
  | crash => exact orderly.rest state.db keepsApart trivial rfl id
  | elsewhere =>
      exact ⟨orderly.unmarked, orderly.single, orderly.unsent, orderly.known, orderly.once⟩

end Orderly

/-- In every run that keeps the requests apart, at most one message of the approval is charged and
enqueued. -/
theorem approved_sent_once {first last : ApprovalSends}
    {transitions : List (Transition ApprovalSends ApprovalLabel)} (untouched : first.Untouched)
    (run : Run Step first transitions last)
    (keepsApart : ∀ transition ∈ transitions, transition.before.KeepsApart transition.label) :
    last.AtMostOnce ∧ ∀ transition ∈ transitions, transition.after.AtMostOnce := by
  have preserved : ∀ before label after, Guarded Step KeepsApart before label after →
      before.Orderly → after.Orderly :=
    fun _ _ _ guarded orderly => orderly.next guarded.1 guarded.2
  have ordered := (run.guarded keepsApart).invariant preserved untouched.orderly
  exact ⟨ordered.1.once, fun transition member => (ordered.2 transition member).2.once⟩

def approvedText : ApprovalSends where
  db := postpaidTables
  approval := some ⟨1, some "+8613800138000", "hello", .approved, none, none⟩
  requests _ := .idle
  sent := []

theorem approvedText_untouched : approvedText.Untouched :=
  ⟨fun _ => rfl, rfl⟩

def drawing (messageId : MessageId) : ApiEnv :=
  { ApiEnv.plain (.plain .http) 100 with drawnId := fun index => messageId + index }

def readText (request : ℕ) : ApprovalLabel :=
  .read request (drawing request) ⟨0, .postpaid, none⟩ noWordCheck 1 none

def followed (state : ApprovalSends) (label : ApprovalLabel) : ApprovalSends :=
  (state.next label).getD state

theorem step_followed (state : ApprovalSends) (label : ApprovalLabel)
    (possible : (state.next label).isSome = true) : state.Step label (state.followed label) := by
  rcases Option.isSome_iff_exists.mp possible with ⟨after, computed⟩
  rw [Step, followed, computed, Option.getD_some]

theorem approved_sent_once_followed :
    ∃ transitions last, Run Step approvedText transitions last ∧ last.sent = [0] ∧
      last.AtMostOnce := by
  let isRead := approvedText.followed (readText 0)
  let isBooked := isRead.followed (.book 0 (drawing 0))
  have read := step_followed approvedText (readText 0) (by decide)
  have book := step_followed isRead (.book 0 (drawing 0)) (by decide)
  have enqueue := step_followed isBooked (.enqueue 0 (drawing 0).broker) (by decide)
  have run : Run Step approvedText _ _ := .cons read (.cons book (.cons enqueue (.nil _)))
  refine ⟨_, _, run, by decide, (approved_sent_once approvedText_untouched run ?_).1⟩
  intro transition member
  simp only [List.mem_cons, List.not_mem_nil, or_false] at member
  rcases member with rfl | rfl | rfl
  · trivial
  · refine ⟨by decide, ?_⟩
    intro other differs
    have notRead : (readText 0).request? ≠ some other :=
      fun same => differs (Option.some.inj same).symm
    rw [(performs_of_step read).other notRead]
    rfl
  · trivial

/-- Two requests that both read the approval before either has put its mark on it. -/
theorem approved_sent_twice :
    approvedText.Untouched ∧
      ∃ transitions last, Run Step approvedText transitions last ∧
        last.sent = [0, 1] ∧ last.db.balance 1 = some (-200) ∧ ¬ last.AtMostOnce := by
  have passed := Run.exists_of_execute (fun outcome : _ × ApprovalSends =>
      decide (outcome.2.sent = [0, 1] ∧ outcome.2.db.balance 1 = some (-200)))
    (show ((execute next approvedText
      [readText 0, readText 1, .book 0 (drawing 0), .book 1 (drawing 1),
        .enqueue 0 (drawing 0).broker, .enqueue 1 (drawing 1).broker, .mark 0, .mark 1]).any _) =
          true by decide)
  rcases passed with ⟨transitions, last, run, checked⟩
  have outcome := of_decide_eq_true checked
  refine ⟨approvedText_untouched, transitions, last, run, outcome.1, outcome.2, ?_⟩
  rw [AtMostOnce, outcome.1]
  decide

end ApprovalSends

end Klsmsc
