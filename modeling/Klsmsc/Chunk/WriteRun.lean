import Klsmsc.Chunk.Undisturbed

/-!
# The undisturbed write loop

Without exceptions the write loop stores one row for each item, and hands over the rows of
each slice behind it: those on SMPP channels to the queue of the gateway, and those on HTTP
channels where the channel of the slice's last item says. The ids of the rows on virtual
channels are kept for the virtual simulation.
-/

namespace Klsmsc

open Library

section

variable (env : ChunkEnv) (input : ChunkInput)

def writtenIds (protocol : Protocol) (part : List ValidItem × ℕ) : List MessageId :=
  attemptIds env input part.2 0 protocol part.1

def sliceEntries (part : List ValidItem × ℕ) : List (MessageId × Route) :=
  Route.smppQueue.entries (writtenIds env input .smpp part) ++
    (httpRoute (part.1.getLast?.map ValidItem.channel)).entries (writtenIds env input .http part)

def sliceRows (part : List ValidItem × ℕ) : List LogCore :=
  (attemptRows env input part.2 0 part.1).map SmsLog.core

end

structure Locals.Wrote (before : Locals) (entries : List (MessageId × Route))
    (messageIds : List MessageId) (after : Locals) : Prop where
  handed : after.handed = before.handed ++ entries
  virtualIds : after.virtualIds = before.virtualIds ++ messageIds
  virtualChannelId : after.virtualChannelId.isSome =
    (before.virtualChannelId.isSome || !messageIds.isEmpty)

theorem Locals.Wrote.refl (values : Locals) : values.Wrote [] [] values :=
  ⟨by simp, by simp, by simp⟩

theorem Locals.Wrote.trans {before middle after : Locals}
    {first second : List (MessageId × Route)} {firstIds secondIds : List MessageId}
    (one : before.Wrote first firstIds middle) (two : middle.Wrote second secondIds after) :
    before.Wrote (first ++ second) (firstIds ++ secondIds) after where
  handed := by rw [two.handed, one.handed, List.append_assoc]
  virtualIds := by rw [two.virtualIds, one.virtualIds, List.append_assoc]
  virtualChannelId := by
    rw [two.virtualChannelId, one.virtualChannelId]
    cases firstIds <;> simp

section

variable {env : ChunkEnv} {input : ChunkInput} {start : Db} {accountId : ℕ} {ledger : Ledger}
  {before : Locals} {batchStatus : String}

theorem sliceWrite_never (slice : ℕ) :
    sliceWrite .never slice (writeAttempts - 1) = ⟨[0], .ok 0⟩ := rfl

theorem writeAndQueue_wrote (part : List ValidItem × ℕ) :
    Triple (Stands start accountId ledger ledger (· = before))
      (writeAndQueue env .never input batchStatus part.2 part.1)
      (fun _ => Stands start accountId (ledger.add (sliceRows env input part))
        (ledger.add (sliceRows env input part))
        (before.Wrote (sliceEntries env input part) (writtenIds env input .virtual part)))
      (fun _ _ => True) := by
  rcases part with ⟨items, slice⟩
  unfold writeAndQueue
  refine Triple.get_bind fun current stands => ?_
  have mark : current.virtualIds = before.virtualIds := by rw [← stands.locals]
  rw [mark]
  have built : ∀ state, state = current →
      Stands start accountId ledger ledger (before.SameBuilt items) state := by
    rintro state rfl
    refine stands.weaken ?_
    rintro values rfl mark virtualIds
    rfl
  refine Triple.bind (writeSlice_triple.weaken built (fun _ _ done => done)
    fun _ _ _ => trivial) ?_
  rintro ⟨payloads, messageIds⟩
  refine Triple.exists_pre fun attempt => Triple.assume fun ended =>
    Triple.assume fun smpp => Triple.assume fun http => ?_
  simp only at smpp http
  rw [sliceWrite_never, Except.ok.injEq] at ended
  subst ended http
  have rows : durableRows env input slice items (sliceWrite .never slice (writeAttempts - 1)).durable =
      sliceRows env input (items, slice) := by
    simp [sliceWrite_never, durableRows, sliceRows]
  rw [rows]
  have stored : (ledger.add (sliceRows env input (items, slice))).Stored
      (attemptIds env input slice 0 .http items) := by
    intro messageId member
    rcases mem_idsOn member with ⟨row, rowMem, isRow⟩
    exact ⟨row.core, List.mem_append_right _ (List.mem_map_of_mem rowMem), isRow⟩
  have queue : HandsOver start accountId (ledger.add (sliceRows env input (items, slice)))
      (fun _ => True) (do
        queueSliceSmpp env .never slice payloads
        queueSliceHttp env .never slice (items.getLast?.map ValidItem.channel)
          (attemptIds env input slice 0 .http items))
      (sliceEntries env input (items, slice)) := by
    unfold sliceEntries writtenIds
    rw [← smpp]
    exact .bind (queueSliceSmpp_hands _ _) fun _ => queueSliceHttp_hands (fun _ _ _ _ => trivial)
      (fun _ _ _ => trivial) _ _ stored
  refine (queue _).weaken (fun _ stands => ⟨stands, trivial, trivial⟩) ?_ fun _ _ _ => trivial
  intro _ state settled
  refine settled.stands.weaken fun values handed => ⟨handed.handed, handed.virtualIds, ?_⟩
  rw [handed.virtualChannelId]
  exact lastVirtual_isSome items before.virtualChannelId
    (by simp [attemptRows] : (attemptRows env input slice 0 items).length = items.length)

theorem writeParts_wrote (parts : List (List ValidItem × ℕ)) :
    Triple (Stands start accountId ledger ledger (· = before))
      (parts.forM fun (items, slice) => writeAndQueue env .never input batchStatus slice items)
      (fun _ => Stands start accountId (ledger.add (parts.flatMap (sliceRows env input)))
        (ledger.add (parts.flatMap (sliceRows env input)))
        (before.Wrote (parts.flatMap (sliceEntries env input))
          (parts.flatMap (writtenIds env input .virtual))))
      (fun _ _ => True) := by
  induction parts generalizing ledger before with
  | nil =>
      intro state stands
      rw [List.flatMap_nil, Ledger.add_nil]
      exact stands.weaken fun _ same => same ▸ Locals.Wrote.refl before
  | cons part parts ih =>
      refine Triple.bind (writeAndQueue_wrote part) fun _ => Triple.fix_locals fun middle wrote => ?_
      refine ih.weaken (fun _ stands => stands) ?_ fun _ _ _ => trivial
      intro _ state stands
      simp only [List.flatMap_cons, ← Ledger.add_add]
      exact stands.weaken fun _ rest => wrote.trans rest

theorem writeLoop_wrote (items : List ValidItem) :
    Triple (Stands start accountId ledger ledger (· = before))
      (writeLoop env .never input batchStatus items)
      (fun _ => Stands start accountId
        (ledger.add ((slices dbLogChunk items).zipIdx.flatMap (sliceRows env input)))
        (ledger.add ((slices dbLogChunk items).zipIdx.flatMap (sliceRows env input)))
        (before.Wrote ((slices dbLogChunk items).zipIdx.flatMap (sliceEntries env input))
          ((slices dbLogChunk items).zipIdx.flatMap (writtenIds env input .virtual))))
      (fun _ _ => True) := by
  unfold writeLoop
  refine Triple.bind (writeParts_wrote _) fun _ => Triple.get_bind fun current stands => ?_
  refine Triple.at_state (?_ : Triple (Stands start accountId _ _ _) _ _ _) stands
  refine Triple.ite (fun _ => ?_) fun _ _ stands => stands
  refine Triple.get_bind fun again stands => Triple.at_state ?_ stands
  intro state stands
  exact ⟨stands.committed, stands.working, stands.locals.handed, stands.locals.virtualIds,
    stands.locals.virtualChannelId⟩

end

end Klsmsc
