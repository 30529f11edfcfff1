import Klsmsc.Chunk.Charge

/-!
# The virtual fast path on the ledger

The fast path deducts in the transaction of its first slice, so the money moves
when a first slice becomes durable. Its charge is not known to the exception
handler.
-/

namespace Klsmsc

open Library

section

variable {start : Db} {accountId : ℕ} {committed working ledger : Ledger} {env : ChunkEnv}
  {faults : Faults} {input : ChunkInput} {charged : Money}

theorem storeVirtual_triple {slice : ℕ} {rows : List SmsLog}
    (fresh : ∀ row ∈ rows, row.refundedAt = none) :
    Triple (Stands start accountId committed working (fun values => values.charged = charged))
      (storeVirtual env faults slice rows)
      (fun _ state => virtualFault faults slice = none ∧
        Stands start accountId (working.add (rows.map SmsLog.core))
          (working.add (rows.map SmsLog.core)) (fun values => values.charged = charged) state)
      (fun _ state => ∃ durable, virtualFault faults slice = some durable ∧
        Leaves start accountId (if durable then working.add (rows.map SmsLog.core) else committed)
          (fun values => values.charged = charged) state) := by
  unfold storeVirtual
  refine Triple.bind (statement_triple.weaken (fun _ stands => stands) (fun _ _ done => done) ?_)
    fun _ => Triple.assume fun buildPasses => ?_
  · rintro raised state ⟨atSite, stands⟩
    rcases Option.map_eq_some_iff.mp atSite with ⟨fault, found, rfl⟩
    refine ⟨false, by simp [virtualFault, found], ?_⟩
    rcases stands with stands | stands <;> exact stands.leaves
  · refine Triple.seq (fun _ => Stands start accountId committed working
      (fun values => values.charged = charged)) ?_ fun _ => ?_
    · exact locals_triple (fun _ => ⟨rfl, rfl⟩) fun _ isCharged => isCharged
    refine Triple.seq (fun _ => Stands start accountId committed working
      (fun values => values.charged = charged)) ?_ fun _ => ?_
    · exact locals_triple (fun _ => ⟨rfl, rfl⟩) fun _ isCharged => isCharged
    refine flush_bind ?_ fun insertPasses => ?_
    · intro fault found state stands
      exact ⟨false, by simp [virtualFault, buildPasses, found], stands.leaves⟩
    · refine Triple.get_bind fun current stands => Triple.at_state ?_ stands
      refine change_bind (fun db since => since.insert fresh) ?_
      refine Triple.bind (replaceTrackUrlsForLogs_triple.weaken (fun _ stands => stands)
        (fun _ _ done => done) ?_) fun linked =>
          Triple.assume fun _ => Triple.assume fun linksPass => ?_
      · rintro raised state ⟨atSite, stands⟩
        rcases Option.map_eq_some_iff.mp atSite with ⟨fault, found, rfl⟩
        exact ⟨false, by simp [virtualFault, buildPasses, insertPasses, found], stands.leaves⟩
      · refine commit_triple.weaken (fun _ stands => stands) ?_ ?_
        · rintro _ state ⟨commitPasses, stands⟩
          exact ⟨by simp [virtualFault, buildPasses, insertPasses, linksPass, commitPasses], stands⟩
        · rintro raised state ⟨fault, found, _, stands⟩
          refine ⟨fault.commits,
            by simp [virtualFault, buildPasses, insertPasses, linksPass, found], ?_⟩
          split at stands <;> rename_i durable <;> simpa [durable] using stands.leaves

/-- The ledger of the committed tables after some slices: it takes over what was
pending with the first durable row. -/
def afterSlices (committed working : Ledger) (rows : List LogCore) : Ledger :=
  if rows = [] then committed else working.add rows

theorem storeSlices_triple (parts : List (List SmsLog × ℕ))
    (fresh : ∀ part ∈ parts, ∀ row ∈ part.1, row.refundedAt = none)
    (filled : ∀ part ∈ parts, part.1 ≠ []) :
    Triple (Stands start accountId committed working (fun values => values.charged = charged))
      (parts.forM fun (rows, slice) => storeVirtual env faults slice rows)
      (fun _ state => (virtualRows faults parts = [] → parts = []) ∧
        Stands start accountId (afterSlices committed working (virtualRows faults parts))
          (working.add (virtualRows faults parts)) (fun values => values.charged = charged) state)
      (fun _ => Leaves start accountId (afterSlices committed working (virtualRows faults parts))
        (fun values => values.charged = charged)) := by
  induction parts generalizing committed working with
  | nil =>
      intro state stands
      exact ⟨fun _ => rfl, by simpa [virtualRows, afterSlices] using stands⟩
  | cons part parts ih =>
      rcases part with ⟨rows, slice⟩
      rw [List.forall_mem_cons] at fresh filled
      have some : rows.map SmsLog.core ≠ [] := by simpa using filled.1
      refine Triple.bind ((storeVirtual_triple fresh.1).weaken (fun _ stands => stands)
        (fun _ _ done => done) ?_) fun _ => Triple.assume fun passes => ?_
      · rintro raised state ⟨durable, fails, leaves⟩
        cases durable with
        | false => simpa [virtualRows, fails, afterSlices] using leaves
        | true => simpa [virtualRows, fails, afterSlices, some] using leaves
      · have same : afterSlices (working.add (rows.map SmsLog.core))
            (working.add (rows.map SmsLog.core)) (virtualRows faults parts) =
            afterSlices committed working (virtualRows faults ((rows, slice) :: parts)) := by
          simp only [virtualRows, passes, afterSlices, List.append_eq_nil_iff, some, false_and,
            if_false, ← Ledger.add_add]
          split
          · rename_i nothing
            simp [nothing]
          · rfl
        rw [← same]
        refine (ih fresh.2 filled.2).weaken (fun _ stands => stands) ?_ (fun _ _ done => done)
        rintro _ state ⟨_, stands⟩
        refine ⟨fun nothing => ?_, by simpa [virtualRows, passes] using stands⟩
        simp [virtualRows, passes, filled.1] at nothing

end

end Klsmsc
