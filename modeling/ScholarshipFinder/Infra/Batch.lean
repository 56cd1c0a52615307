import ScholarshipFinder.Infra.Jobs

/-!
# A batch of due jobs (`infra/worker.py`, `execute_due_jobs`)

The loop goes over the objects that `due_jobs` has loaded, and every job of the batch works in the
session they belong to.  What a handler does with that session is an input here, and so is whether
a job can still be claimed when its turn comes; the rows are not looked at.

A rollback of a session whose transaction is open expires every object that the session has
loaded, and so does a flush that the database refuses.  Reading an expired object raises.  No
handler loads the jobs of the batch again after that.
-/

namespace ScholarshipFinder

/-- What becomes of the session of a worker. -/
structure SessionState where
  /-- The objects that were loaded for the batch are expired. -/
  expired : Bool
  inTransaction : Bool
  /-- No flush has failed since the last rollback. -/
  usable : Bool
deriving DecidableEq, Repr

/-- What a handler does with its session. -/
inductive SessionOp
  | query
  | commit
  | rollback
  /-- A flush that the database refuses. -/
  | flushError
deriving DecidableEq, Repr

namespace SessionState

/-- Nothing loaded is expired, and no transaction is open. -/
def fresh : SessionState := ⟨false, false, true⟩

def query (s : SessionState) : SessionState := { s with inTransaction := true }

/-- A commit of a session that is not usable raises, and changes nothing. -/
def commit (s : SessionState) : SessionState :=
  if s.usable then { s with inTransaction := false } else s

def rollback (s : SessionState) : SessionState :=
  { expired := s.expired || s.inTransaction, inTransaction := false, usable := true }

def flushError (s : SessionState) : SessionState :=
  { s with expired := true, inTransaction := true, usable := false }

def perform (s : SessionState) : SessionOp → SessionState
  | .query => s.query
  | .commit => s.commit
  | .rollback => s.rollback
  | .flushError => s.flushError

end SessionState

/-- How the execution of a job would go. -/
structure JobRun where
  jobId : JobId
  /-- `claim_job` would accept the job. -/
  claimable : Bool
  /-- What its handler does with the session. -/
  ops : List SessionOp
  /-- The error with which its handler ends, if it raises. -/
  error : Option String
deriving DecidableEq, Repr

/-- The due jobs of a batch, each with how its execution would go; `due_jobs` selects no row
twice. -/
structure Batch where
  runs : List JobRun
  nodup : (runs.map (·.jobId)).Nodup

/-- The `except` clause of `execute_job`: `fail_job_for_execution` reads the kind of the job,
which raises if the object is expired, and commits. -/
def recordFailure (s : SessionState) : SessionState := if s.expired then s else s.commit

/-- The handler of the job, in a session that has just committed the claim. -/
def JobRun.handle (run : JobRun) (s : SessionState) : SessionState :=
  run.ops.foldl SessionState.perform s

/-- `execute_job`: whether it returns, and the session afterwards. -/
def SessionState.executeJob (s : SessionState) (run : JobRun) : Bool × SessionState :=
  -- the claim reads the row in a transaction, and raises with the transaction open
  if ¬ run.claimable then (false, s.query)
  else
    let s := run.handle s.query.commit
    -- `complete_job` commits, which raises after a failed flush
    if run.error = none ∧ s.usable then (true, s.commit) else (false, recordFailure s)

/-- The variables of the loop, and the jobs whose handlers have run. -/
structure BatchResult where
  completed : ℕ
  failed : ℕ
  ran : List JobId
  session : SessionState
deriving DecidableEq, Repr

/-- One pass of the loop. -/
def BatchResult.next (result : BatchResult) (run : JobRun) : BatchResult :=
  -- `due.job_id` of an expired object raises inside the `try`
  if result.session.expired then
    { result with failed := result.failed + 1, session := result.session.rollback }
  else
    let (returned, session) := result.session.executeJob run
    { completed := if returned then result.completed + 1 else result.completed
      failed := if returned then result.failed else result.failed + 1
      ran := if run.claimable then result.ran ++ [run.jobId] else result.ran
      session := if returned then session else session.rollback }

/-- Before the first job: `due_jobs` has opened a transaction. -/
def BatchResult.start : BatchResult := ⟨0, 0, [], SessionState.fresh.query⟩

/-- `execute_due_jobs` -/
def executeDueJobs (batch : Batch) : BatchResult :=
  batch.runs.foldl BatchResult.next BatchResult.start

/-! ## One job of the batch -/

namespace JobRun

/-- The job is claimed, its handler returns, and its completion is committed. -/
def succeeds (run : JobRun) : Bool :=
  run.claimable && run.error.isNone && (run.handle .fresh).usable

/-- The job leaves the objects of the batch expired: it cannot be claimed, its handler rolls the
session back in a transaction, or a flush of its handler fails. -/
def expires (run : JobRun) : Bool := !run.claimable || (run.handle .fresh).expired

end JobRun

/-- A session in which a flush has failed has no live object. -/
def SessionState.Sound (s : SessionState) : Prop := s.usable = false → s.expired = true

lemma SessionState.sound_perform {s : SessionState} (h : s.Sound) (op : SessionOp) :
    (s.perform op).Sound := by
  intro husable
  cases op with
  | query => exact h husable
  | commit =>
    simp only [perform, commit] at husable ⊢
    split at husable
    · next hu => simp [hu] at husable
    · next hu => rw [if_neg hu]; exact h husable
  | rollback => cases husable
  | flushError => rfl

lemma JobRun.sound_handle (run : JobRun) {s : SessionState} (h : s.Sound) :
    (run.handle s).Sound := by
  rw [handle]
  generalize run.ops = ops
  induction ops generalizing s with
  | nil => exact h
  | cons op ops ih => exact ih (s.sound_perform h op)

/-- What a job does to a session in which nothing is expired: it is counted by whether it
succeeds, it runs if it can be claimed, and the objects are expired afterwards exactly if it
expires them. -/
theorem BatchResult.next_of_live {result : BatchResult} (hlive : result.session.expired = false)
    (husable : result.session.usable = true) (run : JobRun) :
    (result.next run).completed = (if run.succeeds then result.completed + 1 else result.completed)
      ∧ (result.next run).failed = (if run.succeeds then result.failed else result.failed + 1)
      ∧ (result.next run).ran = (if run.claimable then result.ran ++ [run.jobId] else result.ran)
      ∧ (result.next run).session.expired = run.expires
      ∧ (result.next run).session.usable = true := by
  have hclaim : result.session.query.commit = .fresh := by
    simp [SessionState.query, SessionState.commit, SessionState.fresh, hlive, husable]
  have hsound : (run.handle .fresh).Sound := run.sound_handle fun h => by cases h
  rcases hs : run.handle .fresh with ⟨expired, inTransaction, usable⟩
  rw [hs] at hsound
  cases hclaimable : run.claimable with
  | false =>
    -- the claim raises in its transaction, and the rollback expires every object
    simp [next, hlive, SessionState.executeJob, JobRun.succeeds, JobRun.expires, hclaimable,
      SessionState.query, SessionState.rollback]
  | true =>
    have hexec : result.session.executeJob run =
        if run.error = none ∧ usable = true then
          (true, SessionState.commit ⟨expired, inTransaction, usable⟩)
        else (false, recordFailure ⟨expired, inTransaction, usable⟩) := by
      simp only [SessionState.executeJob, hclaimable, hclaim, hs, not_true_eq_false, if_false]
    cases herror : run.error with
    | none =>
      cases usable with
      | true =>
        simp [next, hlive, hexec, JobRun.succeeds, JobRun.expires, hclaimable, hs, herror,
          SessionState.commit]
      | false =>
        -- the commit of the completion raises, and so does the record of the failure
        have hexpired : expired = true := hsound rfl
        simp [next, hlive, hexec, JobRun.succeeds, JobRun.expires, hclaimable, hs, herror,
          hexpired, recordFailure, SessionState.rollback]
    | some error =>
      cases expired with
      | true =>
        simp [next, hlive, hexec, JobRun.succeeds, JobRun.expires, hclaimable, hs, herror,
          recordFailure, SessionState.rollback]
      | false =>
        have husable' : usable = true := by
          by_contra hnot
          exact Bool.false_ne_true (hsound (Bool.eq_false_iff.mpr hnot))
        -- the record of the failure is committed, so there is nothing to roll back
        simp [next, hlive, hexec, JobRun.succeeds, JobRun.expires, hclaimable, hs, herror,
          husable', recordFailure, SessionState.commit, SessionState.rollback]

/-- Once the objects are expired, every job left is counted as failed and none runs. -/
theorem BatchResult.foldl_next_of_expired {result : BatchResult}
    (hexpired : result.session.expired = true) (runs : List JobRun) :
    (runs.foldl next result).completed = result.completed ∧
      (runs.foldl next result).failed = result.failed + runs.length ∧
      (runs.foldl next result).ran = result.ran := by
  induction runs generalizing result with
  | nil => exact ⟨rfl, rfl, rfl⟩
  | cons run runs ih =>
    have hnext : result.next run = { result with
        failed := result.failed + 1, session := result.session.rollback } := if_pos hexpired
    have hrollback : (result.next run).session.expired = true := by
      rw [hnext]
      simp [SessionState.rollback, hexpired]
    obtain ⟨hcompleted, hfailed, hran⟩ := ih hrollback
    rw [List.foldl_cons, hcompleted, hfailed, hran, hnext, List.length_cons]
    exact ⟨rfl, by show result.failed + 1 + runs.length = _; omega, rfl⟩

end ScholarshipFinder
