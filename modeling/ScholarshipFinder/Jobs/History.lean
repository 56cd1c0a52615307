import ScholarshipFinder.Infra.Jobs
import ScholarshipFinder.Lib.Run

/-!
# Runs of the workers

What a step does to one row of the table is said once (`jobStep_row`): it leaves the row alone,
claims the job, records the end of its execution, or takes it from a worker whose lease has run
out.  Who holds a job, and what has become of it before, is kept beside the system as a history
variable.
-/

namespace ScholarshipFinder

open Lib

variable {ι : Type} [DecidableEq ι]

/-! ## What a step is about -/

section

variable (workers : Workers ι) (s : JobStep ι)

/-- The job as the session of the worker has it: its copy, or else the stored row. -/
def viewed (id : JobId) (row : ProcessingJob) : ProcessingJob :=
  ((workers.proc s.worker).loaded id).getD row

/-- The claim that the step makes. -/
def claimAt : Option (JobId × JobTransition) :=
  match s.op with
  | .claim id =>
    match workers.shared.rows.row id with
    | none => none
    | some row =>
      let job := viewed workers s id row
      if workers.shared.free s.worker id then
        match claimJob job.state job.attempts s.now job.nextAttemptAt with
        | .ok transition => some (id, transition)
        | .error _ => none
      else none
  | _ => none

/-- The step claims the job. -/
def claims (id : JobId) : Bool := (claimAt workers s).any (·.1 = id)

/-- The innermost handler of the worker, if its row is there and unlocked. -/
def innermost : Option JobId :=
  (workers.proc s.worker).executing.head?.filter fun id =>
    (workers.shared.rows.row id).isSome && workers.shared.free s.worker id

/-- The job whose completion or failure the step records. -/
def recordedAt : Option JobId :=
  match s.op with
  | .complete => innermost workers s
  | .fail _ => (innermost workers s).filter fun id => ((workers.proc s.worker).loaded id).isSome
  | _ => none

/-- The jobs that the step takes from workers whose lease has run out. -/
def reconciledAt : List JobId :=
  match s.op with
  | .reconcile limit => workers.shared.select s.worker (·.isStuck s.now) limit
  | _ => []

/-- What the worker records of a job. -/
def recorded (job : ProcessingJob) : ProcessingJob :=
  match s.op with
  | .fail error => job.fail error s.now
  | _ => job.complete

/-- What a step makes of the row of a job. -/
inductive RowChange (id : JobId) (row : ProcessingJob) : ProcessingJob → Prop
  | kept (claim : claims workers s id = false) (record : recordedAt workers s ≠ some id)
      (reconcile : id ∉ reconciledAt workers s) : RowChange id row row
  | claimed {transition : JobTransition} (claim : claimAt workers s = some (id, transition))
      (allowed : claimJob (viewed workers s id row).state (viewed workers s id row).attempts s.now
        (viewed workers s id row).nextAttemptAt = .ok transition) :
      RowChange id row
        ((viewed workers s id row).flush ((viewed workers s id row).claimed transition s.now) row)
  | recorded (record : recordedAt workers s = some id) :
      RowChange id row
        ((viewed workers s id row).flush (recorded s (viewed workers s id row)) row)
  | reconciled (reconcile : id ∈ reconciledAt workers s) (stuck : row.isStuck s.now) :
      RowChange id row
        ((viewed workers s id row).flush
          ((viewed workers s id row).fail leaseExpiredError s.now) row)

end

variable {workers : Workers ι} {s : JobStep ι} {id : JobId} {row : ProcessingJob}

lemma mem_select {store : JobStore ι} {i : ι} {p : ProcessingJob → Bool} {limit : ℕ}
    (h : id ∈ store.select i p limit) :
    store.free i id ∧ ∃ row, store.rows.row id = some row ∧ p row = true := by
  have hmem := List.mem_of_mem_take h
  rw [List.mem_insertionSort, List.mem_filter, Bool.and_eq_true, Option.any_eq_true] at hmem
  exact ⟨hmem.2.2, hmem.2.1⟩

lemma nodup_select (store : JobStore ι) (i : ι) (p : ProcessingJob → Bool) (limit : ℕ) :
    (store.select i p limit).Nodup := by
  have hsort := (store.rows.nodup.filter fun id => (store.rows.row id).any p && store.free i id)
  exact ((List.perm_insertionSort _ _).nodup_iff.mpr hsort).sublist (List.take_sublist _ _)

/-- The end of a transaction takes no row away from its worker. -/
lemma free_release {store : JobStore ι} {i : ι} {id : JobId} (h : store.free i id = true) :
    (store.release i).free i id = true := by
  simp only [JobStore.free, JobStore.release] at h ⊢
  by_cases hown : store.lockedBy id = some i
  · rw [if_pos hown, Option.all_none]
  · rw [if_neg hown, h]

/-! ## The steps, one by one -/

lemma jobStep_shared (workers : Workers ι) (s : JobStep ι) :
    (jobStep workers s).shared = (s.perform (workers.proc s.worker) workers.shared).2 := rfl

lemma jobStep_proc_self (workers : Workers ι) (s : JobStep ι) :
    (jobStep workers s).proc s.worker =
      (s.perform (workers.proc s.worker) workers.shared).1 :=
  Function.update_self _ _ _

lemma jobStep_proc_of_ne {i : ι} (h : i ≠ s.worker) :
    (jobStep workers s).proc i = workers.proc i :=
  Function.update_of_ne h _ _

omit [DecidableEq ι] in
lemma write_row_self {store : JobStore ι} (h : store.rows.row id = some row)
    (new : ProcessingJob) : (store.write id new).rows.row id = some new := by
  simp [JobStore.write, h]

omit [DecidableEq ι] in
lemma write_row_of_ne {store : JobStore ι} {j : JobId} (h : id ≠ j) (new : ProcessingJob) :
    (store.write j new).rows.row id = store.rows.row id :=
  Table.row_modify_of_ne _ h _

/-- A claim is refused, and then at most the session gets to know the row; or the job is claimed
as the session has it. -/
lemma claim_cases (workers : Workers ι) {i : ι} {now : Instant} {j : JobId}
    (hs : s = ⟨i, now, .claim j⟩) :
    (claimAt workers s = none ∧ (jobStep workers s).shared.rows = workers.shared.rows ∧
      ((jobStep workers s).proc i = workers.proc i ∨
        ∃ stored, workers.shared.rows.row j = some stored ∧
          (jobStep workers s).proc i = (workers.proc i).hold j (viewed workers s j stored))) ∨
    ∃ stored transition, workers.shared.rows.row j = some stored ∧
      claimAt workers s = some (j, transition) ∧
      claimJob (viewed workers s j stored).state (viewed workers s j stored).attempts now
        (viewed workers s j stored).nextAttemptAt = .ok transition ∧
      (jobStep workers s).shared.rows = (workers.shared.write j ((viewed workers s j stored).flush
        ((viewed workers s j stored).claimed transition now) stored)).rows ∧
      (jobStep workers s).proc i =
        { (workers.proc i).hold j ((viewed workers s j stored).claimed transition now) with
          executing := j :: (workers.proc i).executing } := by
  subst hs
  have hproc := jobStep_proc_self workers ⟨i, now, .claim j⟩
  rw [jobStep_shared, hproc]
  simp only [JobStep.perform, claimJobForExecution, claimAt, viewed]
  cases hj : workers.shared.rows.row j with
  | none => exact Or.inl ⟨rfl, rfl, Or.inl rfl⟩
  | some stored =>
    cases hfree : workers.shared.free i j with
    | false =>
      exact Or.inl ⟨rfl, rfl, Or.inl rfl⟩
    | true =>
      simp only [if_true]
      cases hclaim : claimJob (((workers.proc i).loaded j).getD stored).state
          (((workers.proc i).loaded j).getD stored).attempts now
          (((workers.proc i).loaded j).getD stored).nextAttemptAt with
      | error e => exact Or.inl ⟨rfl, rfl, Or.inr ⟨stored, rfl, rfl⟩⟩
      | ok transition => exact Or.inr ⟨stored, transition, rfl, rfl, hclaim, rfl, rfl⟩

/-- The end of an execution is recorded, as the session has the job; or the table and the
objects of the session are left alone. -/
lemma record_cases (workers : Workers ι) (hop : s.op = .complete ∨ ∃ error, s.op = .fail error) :
    (recordedAt workers s = none ∧ (jobStep workers s).shared.rows = workers.shared.rows ∧
      ((jobStep workers s).proc s.worker).loaded = (workers.proc s.worker).loaded) ∨
    ∃ j stored, workers.shared.rows.row j = some stored ∧ recordedAt workers s = some j ∧
      (jobStep workers s).shared.rows = (workers.shared.write j ((viewed workers s j stored).flush
        (recorded s (viewed workers s j stored)) stored)).rows ∧
      ((jobStep workers s).proc s.worker).loaded = ((workers.proc s.worker).hold j
        (recorded s (viewed workers s j stored))).loaded := by
  obtain ⟨i, now, op⟩ := s
  rw [jobStep_shared, jobStep_proc_self]
  simp only at hop
  cases hexec : (workers.proc i).executing with
  | nil =>
    rcases hop with rfl | ⟨error, rfl⟩
    · simp [JobStep.perform, completeJob, recordedAt, innermost, hexec]
    · simp [JobStep.perform, failJobForExecution, recordedAt, innermost, hexec]
  | cons j rest =>
    cases hj : workers.shared.rows.row j with
    | none =>
      rcases hop with rfl | ⟨error, rfl⟩
      · simp [JobStep.perform, completeJob, recordedAt, innermost, hexec, hj]
      · simp [JobStep.perform, failJobForExecution, recordedAt, innermost, hexec, hj]
    | some stored =>
      cases hfree : workers.shared.free i j with
      | false =>
        rcases hop with rfl | ⟨error, rfl⟩
        · simp [JobStep.perform, completeJob, recordedAt, innermost, hexec, hj, hfree]
        · cases hcopy : (workers.proc i).loaded j <;>
            simp [JobStep.perform, failJobForExecution, recordedAt, innermost, hexec, hj, hfree,
              hcopy]
      | true =>
        rcases hop with rfl | ⟨error, rfl⟩
        · right
          refine ⟨j, stored, hj, ?_, ?_, ?_⟩
          · simp [recordedAt, innermost, hexec, hj, hfree]
          · simp [JobStep.perform, completeJob, hexec, hj, hfree, JobStore.release, viewed, recorded]
          · simp [JobStep.perform, completeJob, hexec, hj, hfree, viewed, recorded]
        · cases hcopy : (workers.proc i).loaded j with
          | none =>
            simp [JobStep.perform, failJobForExecution, recordedAt, innermost, hexec, hj, hfree,
              hcopy]
          | some job =>
            right
            refine ⟨j, stored, hj, ?_, ?_, ?_⟩
            · simp [recordedAt, innermost, hexec, hj, hfree, hcopy]
            · simp [JobStep.perform, failJobForExecution, hexec, hj, hfree, hcopy,
                JobStore.release, viewed, recorded]
            · simp [JobStep.perform, failJobForExecution, hexec, hj, hfree, hcopy, viewed, recorded]

/-- What a reconciliation leaves in a row, and in the session that makes it. -/
lemma reconcile_spec (workers : Workers ι) {i : ι} {now : Instant} {limit : ℕ}
    (hs : s = ⟨i, now, .reconcile limit⟩) (hrow : workers.shared.rows.row id = some row) :
    if id ∈ reconciledAt workers s then
      (jobStep workers s).shared.rows.row id = some ((viewed workers s id row).flush
        ((viewed workers s id row).fail leaseExpiredError now) row)
    else
      (jobStep workers s).shared.rows.row id = some row ∧
        ((jobStep workers s).proc i).loaded id = (workers.proc i).loaded id := by
  subst hs
  have hproc := jobStep_proc_self workers ⟨i, now, .reconcile limit⟩
  rw [jobStep_shared, hproc]
  simp only [JobStep.perform, reconcileStuckJobs, JobStore.release, reconciledAt]
  rw [Table.row_foldl_modify_key (nodup_select _ _ _ _)]
  split
  · next hmem =>
    have hview : ((workers.proc i).load (workers.shared.select i (·.isStuck now) limit)
        workers.shared.rows).loaded id = ((workers.proc i).loaded id).or (some row) := by
      simp only [Worker.load]
      rw [if_pos hmem, hrow]
    rw [hrow, Option.map_some, hview, viewed]
    cases (workers.proc i).loaded id <;> rfl
  · exact ⟨hrow, rfl⟩

/-! ## One step, on one row -/

/-- The row of a job after the end of an execution was recorded, or was not. -/
lemma record_row (hop : s.op = .complete ∨ ∃ error, s.op = .fail error)
    (hrow : workers.shared.rows.row id = some row) :
    ∃ row', (jobStep workers s).shared.rows.row id = some row' ∧
      RowChange workers s id row row' := by
  have hkept : recordedAt workers s ≠ some id → RowChange workers s id row row := by
    obtain ⟨i, now, op⟩ := s
    rcases hop with rfl | ⟨error, rfl⟩
    · exact fun hrec => RowChange.kept rfl hrec nofun
    · exact fun hrec => RowChange.kept rfl hrec nofun
  rcases record_cases workers hop with ⟨hrec, hrows, -⟩ | ⟨j, stored, hj, hrec, hrows, -⟩
  · rw [hrows]
    exact ⟨row, hrow, hkept (by simp [hrec])⟩
  · rw [hrows]
    by_cases hid : id = j
    · subst hid
      obtain rfl : row = stored := Option.some.inj (hrow.symm.trans hj)
      exact ⟨_, write_row_self hj _, RowChange.recorded hrec⟩
    · refine ⟨row, ?_, hkept (by simp [hrec, Ne.symm hid])⟩
      rw [write_row_of_ne hid, hrow]

lemma record_new (hop : s.op = .complete ∨ ∃ error, s.op = .fail error)
    (hnone : workers.shared.rows.row id = none) :
    (jobStep workers s).shared.rows.row id = none := by
  rcases record_cases workers hop with ⟨-, hrows, -⟩ | ⟨j, stored, hj, -, hrows, -⟩
  · rw [hrows, hnone]
  · have hne : id ≠ j := by
      rintro rfl
      rw [hnone] at hj
      cases hj
    rw [hrows, write_row_of_ne hne, hnone]

theorem jobStep_row (hrow : workers.shared.rows.row id = some row) :
    ∃ row', (jobStep workers s).shared.rows.row id = some row' ∧
      RowChange workers s id row row' := by
  obtain ⟨i, now, op⟩ := s
  cases op with
  | enqueue new kind dedupeKey payload =>
    refine ⟨row, ?_, RowChange.kept rfl nofun nofun⟩
    show (enqueueJob i new kind dedupeKey payload _ workers.shared).2.rows.row id = some row
    rw [enqueueJob]
    split
    · exact hrow
    · split
      · exact hrow
      · next hnew =>
        have hne : id ≠ new := by
          rintro rfl
          simp [hrow] at hnew
        show (workers.shared.rows.insert new _).row id = some row
        rw [Table.row_insert_of_ne _ hne, hrow]
  | due limit => exact ⟨row, hrow, RowChange.kept rfl nofun nofun⟩
  | claim j =>
    rcases claim_cases workers (s := ⟨i, now, .claim j⟩) rfl with
      ⟨hclaim, hrows, -⟩ | ⟨stored, transition, hj, hclaim, hok, hrows, -⟩
    · rw [hrows]
      exact ⟨row, hrow, RowChange.kept (by simp [claims, hclaim]) nofun nofun⟩
    · rw [hrows]
      by_cases hid : id = j
      · subst hid
        obtain rfl : row = stored := Option.some.inj (hrow.symm.trans hj)
        exact ⟨_, write_row_self hj _, RowChange.claimed hclaim hok⟩
      · refine ⟨row, ?_, RowChange.kept (by simp [claims, hclaim, Ne.symm hid]) nofun nofun⟩
        rw [write_row_of_ne hid, hrow]
  | complete => exact record_row (Or.inl rfl) hrow
  | fail error => exact record_row (Or.inr ⟨error, rfl⟩) hrow
  | reconcile limit =>
    have hspec := reconcile_spec workers (s := ⟨i, now, .reconcile limit⟩) rfl hrow
    by_cases hmem : id ∈ reconciledAt workers ⟨i, now, .reconcile limit⟩
    · rw [if_pos hmem] at hspec
      obtain ⟨-, row', hrow', hstuck⟩ := mem_select hmem
      obtain rfl : row = row' := Option.some.inj (hrow.symm.trans hrow')
      exact ⟨_, hspec, RowChange.reconciled hmem hstuck⟩
    · rw [if_neg hmem] at hspec
      exact ⟨row, hspec.1, RowChange.kept rfl nofun hmem⟩
  | commit => exact ⟨row, hrow, RowChange.kept rfl nofun nofun⟩
  | rollback => exact ⟨row, hrow, RowChange.kept rfl nofun nofun⟩
  | abandon => exact ⟨row, hrow, RowChange.kept rfl nofun nofun⟩
  | forget j =>
    refine ⟨row, ?_, RowChange.kept rfl nofun nofun⟩
    show (if j ∈ _ then _ else _ : Worker × JobStore ι).2.rows.row id = some row
    split <;> exact hrow

/-- A row that is new was just enqueued, under a key that no row had. -/
theorem jobStep_enqueued (hnone : workers.shared.rows.row id = none)
    (hrow : (jobStep workers s).shared.rows.row id = some row) :
    ∃ kind dedupeKey payload, s.op = .enqueue id kind dedupeKey payload ∧
      row = { kind := kind, dedupeKey := dedupeKey, payload := payload } ∧
      workers.shared.rows.findKey (fun job => job.dedupeKey = dedupeKey) = none := by
  have hsame : (jobStep workers s).shared.rows.row id ≠ none := by simp [hrow]
  obtain ⟨i, now, op⟩ := s
  cases op with
  | enqueue new kind dedupeKey payload =>
    rw [jobStep_shared] at hrow
    simp only [JobStep.perform, enqueueJob] at hrow
    split at hrow
    · exact absurd (hrow.symm.trans hnone) (by simp)
    · next hfind =>
      split at hrow
      · exact absurd (hrow.symm.trans hnone) (by simp)
      · simp only [JobStore.release] at hrow
        by_cases hid : id = new
        · subst hid
          rw [Table.row_insert_self] at hrow
          exact ⟨kind, dedupeKey, payload, rfl, (Option.some.inj hrow).symm, hfind⟩
        · rw [Table.row_insert_of_ne _ hid, hnone] at hrow
          cases hrow
  | claim j =>
    rcases claim_cases workers (s := ⟨i, now, .claim j⟩) rfl with
      ⟨-, hrows, -⟩ | ⟨stored, transition, hj, -, -, hrows, -⟩
    · exact absurd (by rw [hrows, hnone]) hsame
    · have hne : id ≠ j := by
        rintro rfl
        rw [hnone] at hj
        cases hj
      exact absurd (by rw [hrows, write_row_of_ne hne, hnone]) hsame
  | complete => exact absurd (record_new (Or.inl rfl) hnone) hsame
  | fail error => exact absurd (record_new (Or.inr ⟨error, rfl⟩) hnone) hsame
  | reconcile limit =>
    refine absurd ?_ hsame
    rw [jobStep_shared]
    simp only [JobStep.perform, reconcileStuckJobs, JobStore.release]
    rw [Table.row_foldl_modify_key (nodup_select _ _ _ _), hnone]
    simp
  | forget j =>
    refine absurd ?_ hsame
    rw [jobStep_shared]
    simp only [JobStep.perform]
    split <;> exact hnone
  | _ => exact absurd hnone hsame

/-- A row that is new is queued. -/
theorem jobStep_new (hnone : workers.shared.rows.row id = none)
    (hrow : (jobStep workers s).shared.rows.row id = some row) :
    row.state = .queued ∧ row.attempts = 0 ∧ row.nextAttemptAt = none ∧
      row.leaseExpiresAt = none := by
  obtain ⟨kind, dedupeKey, payload, -, rfl, -⟩ := jobStep_enqueued hnone hrow
  exact ⟨rfl, rfl, rfl, rfl⟩

/-- No step changes the key of a job. -/
lemma RowChange.dedupeKey {row' : ProcessingJob} (h : RowChange workers s id row row') :
    row'.dedupeKey = row.dedupeKey := by
  cases h <;> rfl

/-- A lock that is there was there before, or is on a row. -/
theorem jobStep_lockedBy (h : (jobStep workers s).shared.lockedBy id ≠ none) :
    workers.shared.lockedBy id ≠ none ∨ ∃ row, workers.shared.rows.row id = some row := by
  have hrelease : ∀ (store : JobStore ι) (i : ι), (store.release i).lockedBy id ≠ none →
      store.lockedBy id ≠ none := by
    intro store i hlocked
    simp only [JobStore.release] at hlocked
    split at hlocked
    · exact absurd rfl hlocked
    · exact hlocked
  have hlock : ∀ (store : JobStore ι) (i : ι) (ids : List JobId),
      (store.lock i ids).lockedBy id ≠ none → store.lockedBy id ≠ none ∨ id ∈ ids := by
    intro store i ids hlocked
    simp only [JobStore.lock] at hlocked
    split at hlocked
    · next hmem => exact Or.inr hmem
    · exact Or.inl hlocked
  rw [jobStep_shared] at h
  obtain ⟨i, now, op⟩ := s
  cases op with
  | enqueue new kind dedupeKey payload =>
    simp only [JobStep.perform, enqueueJob] at h
    split at h
    · exact Or.inl (hrelease _ _ h)
    · split at h
      · exact Or.inl h
      · exact Or.inl (hrelease _ _ h)
  | due limit =>
    rcases hlock _ _ _ h with hold | hmem
    · exact Or.inl hold
    · obtain ⟨-, row, hrow, -⟩ := mem_select hmem
      exact Or.inr ⟨row, hrow⟩
  | claim j =>
    simp only [JobStep.perform, claimJobForExecution] at h
    split at h
    · exact Or.inl h
    · next row hrow =>
      split at h
      · split at h
        · rcases hlock _ _ _ h with hold | hmem
          · exact Or.inl hold
          · obtain rfl := List.mem_singleton.mp hmem
            exact Or.inr ⟨row, hrow⟩
        · exact Or.inl (hrelease _ _ h)
      · exact Or.inl h
  | complete =>
    simp only [JobStep.perform, completeJob] at h
    split at h
    · exact Or.inl h
    · split at h
      · exact Or.inl h
      · split at h
        · exact Or.inl (hrelease _ _ h)
        · exact Or.inl h
  | fail error =>
    simp only [JobStep.perform, failJobForExecution] at h
    split at h
    · exact Or.inl h
    · split at h
      · split at h
        · exact Or.inl (hrelease _ _ h)
        · exact Or.inl h
      · exact Or.inl h
  | reconcile limit => exact Or.inl (hrelease _ _ h)
  | commit => exact Or.inl (hrelease _ _ h)
  | rollback => exact Or.inl (hrelease _ _ h)
  | abandon => exact Or.inl h
  | forget j =>
    simp only [JobStep.perform] at h
    split at h <;> exact Or.inl h

/-! ## One step, on the session that takes it -/

lemma hold_cases {worker : Worker} {j : JobId} {new job : ProcessingJob}
    (h : (worker.hold j new).loaded id = some job) :
    id = j ∧ new = job ∨ worker.loaded id = some job := by
  rw [Worker.hold] at h
  by_cases hid : id = j
  · subst hid
    exact Or.inl ⟨rfl, by simpa using h⟩
  · exact Or.inr (by simpa [Function.update_of_ne hid] using h)

lemma load_cases {worker : Worker} {ids : List JobId} {rows : Table JobId ProcessingJob}
    {job : ProcessingJob} (h : (worker.load ids rows).loaded id = some job) :
    worker.loaded id = some job ∨ rows.row id = some job := by
  simp only [Worker.load] at h
  split at h
  · rcases Option.or_eq_some_iff.mp h with h | ⟨-, h⟩
    · exact Or.inl h
    · exact Or.inr h
  · exact Or.inl h

/-- Where the object of a session comes from: it was there, it has just been loaded, or the step
has made it of the job. -/
theorem jobStep_loaded {job : ProcessingJob}
    (h : ((jobStep workers s).proc s.worker).loaded id = some job) :
    (workers.proc s.worker).loaded id = some job ∨
      (jobStep workers s).shared.rows.row id = some job ∨
      recordedAt workers s = some id ∨ id ∈ reconciledAt workers s ∨
      ∃ stored transition, workers.shared.rows.row id = some stored ∧
        claimAt workers s = some (id, transition) ∧
        job = (viewed workers s id stored).claimed transition s.now := by
  have hrecord : s.op = .complete ∨ (∃ error, s.op = .fail error) →
      (workers.proc s.worker).loaded id = some job ∨ recordedAt workers s = some id := by
    intro hop
    rcases record_cases workers hop with ⟨-, -, hloaded⟩ | ⟨j, stored, -, hrec, -, hloaded⟩
    · rw [hloaded] at h
      exact Or.inl h
    · rw [hloaded] at h
      rcases hold_cases h with ⟨rfl, -⟩ | h
      · exact Or.inr hrec
      · exact Or.inl h
  obtain ⟨i, now, op⟩ := s
  cases op with
  | enqueue new kind dedupeKey payload =>
    rw [jobStep_proc_self] at h
    rw [jobStep_shared]
    simp only [JobStep.perform, enqueueJob] at h ⊢
    split at h
    · rcases load_cases h with h | h
      · exact Or.inl h
      · exact Or.inr (Or.inl h)
    · split at h
      · exact Or.inl h
      · next hnew =>
        simp only [hnew]
        rcases load_cases h with h | h
        · exact Or.inl h
        · exact Or.inr (Or.inl h)
  | due limit =>
    rw [jobStep_proc_self] at h
    rcases load_cases h with h | h
    · exact Or.inl h
    · exact Or.inr (Or.inl h)
  | claim j =>
    rcases claim_cases workers (s := ⟨i, now, .claim j⟩) rfl with
      ⟨-, hrows, hproc | ⟨stored, hj, hproc⟩⟩ | ⟨stored, transition, hj, hclaim, -, -, hproc⟩
    · rw [hproc] at h
      exact Or.inl h
    · rw [hproc] at h
      rcases hold_cases h with ⟨rfl, hjob⟩ | h
      · rw [hrows, hj]
        subst hjob
        rw [viewed]
        cases hcopy : (workers.proc i).loaded id with
        | none => exact Or.inr (Or.inl rfl)
        | some copy => exact Or.inl rfl
      · exact Or.inl h
    · rw [hproc] at h
      rcases hold_cases h with ⟨rfl, hjob⟩ | h
      · exact Or.inr (Or.inr (Or.inr (Or.inr ⟨stored, transition, hj, hclaim, hjob.symm⟩)))
      · exact Or.inl h
  | complete =>
    rcases hrecord (Or.inl rfl) with h | h
    · exact Or.inl h
    · exact Or.inr (Or.inr (Or.inl h))
  | fail error =>
    rcases hrecord (Or.inr ⟨error, rfl⟩) with h | h
    · exact Or.inl h
    · exact Or.inr (Or.inr (Or.inl h))
  | reconcile limit =>
    by_cases hmem : id ∈ reconciledAt workers ⟨i, now, .reconcile limit⟩
    · exact Or.inr (Or.inr (Or.inr (Or.inl hmem)))
    · have hmem' : id ∉ workers.shared.select i (·.isStuck now) limit := hmem
      rw [jobStep_proc_self] at h
      simp only [JobStep.perform, reconcileStuckJobs] at h
      rw [if_neg hmem'] at h
      exact Or.inl h
  | commit =>
    rw [jobStep_proc_self] at h
    exact Or.inl h
  | rollback =>
    rw [jobStep_proc_self] at h
    cases h
  | abandon =>
    rw [jobStep_proc_self] at h
    exact Or.inl h
  | forget j =>
    rw [jobStep_proc_self] at h
    simp only [JobStep.perform] at h
    split at h
    · exact Or.inl h
    · by_cases hid : id = j
      · subst hid
        simp at h
      · exact Or.inl (by simpa [Function.update_of_ne hid] using h)

/-! ## What excludes what -/

lemma claims_op (h : claims workers s id = true) : s.op = .claim id := by
  obtain ⟨i, now, op⟩ := s
  cases op with
  | claim j =>
    rcases claim_cases workers (s := ⟨i, now, .claim j⟩) rfl with
      ⟨hnone, -⟩ | ⟨stored, transition, -, hsome, -⟩
    · simp [claims, hnone] at h
    · have hid : j = id := by simpa [claims, hsome] using h
      rw [hid]
  | _ => cases h

/-- A job that is claimed has a row, and the step does nothing else. -/
lemma claims_row (h : claims workers s id = true) :
    ∃ row transition, workers.shared.rows.row id = some row ∧
      claimAt workers s = some (id, transition) ∧
      claimJob (viewed workers s id row).state (viewed workers s id row).attempts s.now
        (viewed workers s id row).nextAttemptAt = .ok transition := by
  have hop := claims_op h
  obtain ⟨i, now, op⟩ := s
  simp only at hop
  subst hop
  rcases claim_cases workers (s := ⟨i, now, .claim id⟩) rfl with
    ⟨hnone, -⟩ | ⟨stored, transition, hj, hsome, hok, -⟩
  · simp [claims, hnone] at h
  · exact ⟨stored, transition, hj, hsome, hok⟩

lemma claims_of_claimAt {transition : JobTransition}
    (h : claimAt workers s = some (id, transition)) : claims workers s id = true := by
  simp [claims, h]

lemma recordedAt_of_claims (h : claims workers s id = true) : recordedAt workers s = none := by
  rw [recordedAt, claims_op h]

lemma reconciledAt_of_claims (h : claims workers s id = true) : reconciledAt workers s = [] := by
  rw [reconciledAt, claims_op h]

lemma recordedAt_op (h : recordedAt workers s = some id) :
    s.op = .complete ∨ ∃ error, s.op = .fail error := by
  obtain ⟨i, now, op⟩ := s
  cases op with
  | complete => exact Or.inl rfl
  | fail error => exact Or.inr ⟨error, rfl⟩
  | _ => cases h

lemma recordedAt_row (h : recordedAt workers s = some id) :
    ∃ row, workers.shared.rows.row id = some row := by
  rcases record_cases workers (recordedAt_op h) with ⟨hnone, -⟩ | ⟨j, stored, hj, hrec, -⟩
  · rw [hnone] at h
    cases h
  · obtain rfl := Option.some.inj (hrec.symm.trans h)
    exact ⟨stored, hj⟩

lemma reconciledAt_of_recorded (h : recordedAt workers s = some id) :
    reconciledAt workers s = [] := by
  rcases recordedAt_op h with hop | ⟨error, hop⟩ <;> rw [reconciledAt, hop]

lemma claims_of_recorded (h : recordedAt workers s = some id) (j : JobId) :
    claims workers s j = false := by
  rcases recordedAt_op h with hop | ⟨error, hop⟩ <;> simp [claims, claimAt, hop]

/-- A reconciliation takes running jobs whose lease has run out. -/
lemma mem_reconciledAt (h : id ∈ reconciledAt workers s) :
    ∃ row, workers.shared.rows.row id = some row ∧ row.isStuck s.now = true := by
  obtain ⟨i, now, op⟩ := s
  cases op with
  | reconcile limit => exact (mem_select h).2
  | _ => cases h

lemma claims_of_reconciled (h : id ∈ reconciledAt workers s) (j : JobId) :
    claims workers s j = false := by
  obtain ⟨i, now, op⟩ := s
  cases op with
  | claim k => cases h
  | _ => rfl

/-! ## The history -/

/-- What is kept beside the system. -/
structure JobHistory (ι : Type) where
  /-- The time of the last step. -/
  clock : Instant
  /-- The worker that claimed the job last, until it records the end of its execution, and the
  end of its lease. -/
  held : JobId → Option (ι × Instant)
  /-- The same, until a reconciliation takes the job. -/
  current : JobId → Option ι
  /-- The job has reached `completed`. -/
  finished : JobId → Bool
  /-- How often the job was claimed. -/
  claimed : JobId → ℕ

namespace JobHistory

/-- Before the first step. -/
def start (ι : Type) (clock : Instant) : JobHistory ι :=
  ⟨clock, fun _ => none, fun _ => none, fun _ => false, fun _ => 0⟩

/-- The history after a step. -/
def record (h : JobHistory ι) (workers : Workers ι) (s : JobStep ι) : JobHistory ι where
  clock := s.now
  held := fun id =>
    if claims workers s id then some (s.worker, leaseExpiry s.now)
    else if recordedAt workers s = some id ∧ (h.held id).any (·.1 = s.worker) then none
    else h.held id
  current := fun id =>
    if claims workers s id then some s.worker
    else if recordedAt workers s = some id ∧ h.current id = some s.worker then none
    else if id ∈ reconciledAt workers s then none
    else h.current id
  finished := fun id =>
    h.finished id || ((jobStep workers s).shared.rows.row id).any (·.state = .completed)
  claimed := fun id => if claims workers s id then h.claimed id + 1 else h.claimed id

end JobHistory

/-- One step, with the history. -/
def tracedStep (ι : Type) [DecidableEq ι] : Workers ι × JobHistory ι → JobStep ι →
    Workers ι × JobHistory ι :=
  withHistory jobStep JobHistory.record

end ScholarshipFinder
