import ScholarshipFinder.Lib.Copy
import ScholarshipFinder.Lib.Pool
import ScholarshipFinder.Lib.Table
import ScholarshipFinder.Domain.Jobs

/-!
# The job queue (`infra/jobs.py`, `infra/worker.py`)

Workers share the table of jobs.  Each has a session, whose identity map holds the jobs it has
loaded: a query returns the object that is there already, with the values it has, and a flush
writes the columns in which the object differs from what was loaded.  A commit ends the
transaction and with it the row locks, and refreshes nothing; a rollback expires every object.

A step is one transaction of one worker, except that `due_jobs` and a refused claim keep their
locks until the worker commits or rolls back.  A worker that meets the lock of another waits,
and takes its step later.  Columns that the queue does not read (the correlation id and the
timestamps) are left out.
-/

namespace ScholarshipFinder

open Lib

abbrev JobId := ℕ

structure ProcessingJob where
  kind : String
  /-- Unique. -/
  dedupeKey : String
  state : JobState := .queued
  attempts : ℕ := 0
  payload : Json
  lastError : Option String := none
  nextAttemptAt : Option Instant := none
  leaseExpiresAt : Option Instant := none

namespace ProcessingJob

/-- What `claim_job_for_execution` makes of a job. -/
def claimed (job : ProcessingJob) (transition : JobTransition) (now : Instant) : ProcessingJob :=
  { job with
    state := transition.state
    attempts := transition.attempts
    leaseExpiresAt := some (leaseExpiry now) }

/-- What `complete_job` makes of a job. -/
def complete (job : ProcessingJob) : ProcessingJob :=
  { job with state := finishJob.state, leaseExpiresAt := none, nextAttemptAt := none }

/-- What `fail_job_for_execution` makes of a job, and `reconcile_stuck_jobs`. -/
def fail (job : ProcessingJob) (error : String) (now : Instant) : ProcessingJob :=
  let transition := failJob job.kind job.attempts error now
  { job with
    state := transition.state
    lastError := transition.error
    nextAttemptAt := transition.nextAttemptAt
    leaseExpiresAt := none }

/-- The row after the session that has loaded `loaded` and made `new` of it flushes. -/
def flush (loaded new stored : ProcessingJob) : ProcessingJob :=
  { stored with
    state := writeBack loaded.state new.state stored.state
    attempts := writeBack loaded.attempts new.attempts stored.attempts
    lastError := writeBack loaded.lastError new.lastError stored.lastError
    nextAttemptAt := writeBack loaded.nextAttemptAt new.nextAttemptAt stored.nextAttemptAt
    leaseExpiresAt := writeBack loaded.leaseExpiresAt new.leaseExpiresAt stored.leaseExpiresAt }

/-- The predicate of `due_jobs`, and of `_enqueue`. -/
def isDue (now : Instant) (job : ProcessingJob) : Bool :=
  (job.state = .queued ∨ job.state = .retryWait) ∧ job.nextAttemptAt.all (· ≤ now)

/-- The predicate of `reconcile_stuck_jobs`. -/
def isStuck (now : Instant) (job : ProcessingJob) : Bool :=
  job.state = .running ∧ isLeaseExpired job.leaseExpiresAt now

end ProcessingJob

/-- The error that `reconcile_stuck_jobs` records. -/
def leaseExpiredError : String := "lease expired before completion"

/-- The table of jobs, and the transactions that hold a lock on a row. -/
structure JobStore (ι : Type) where
  rows : Table JobId ProcessingJob
  lockedBy : JobId → Option ι

/-- A worker: the identity map of its session, and the jobs whose handlers it is in, the
innermost first. -/
structure Worker where
  loaded : JobId → Option ProcessingJob
  executing : List JobId

variable {ι : Type} [DecidableEq ι]

namespace JobStore

/-- No other transaction holds a lock on the row. -/
def free (store : JobStore ι) (i : ι) (id : JobId) : Bool := (store.lockedBy id).all (· = i)

def lock (store : JobStore ι) (i : ι) (ids : List JobId) : JobStore ι :=
  { store with lockedBy := fun id => if id ∈ ids then some i else store.lockedBy id }

/-- The transaction of the worker ends. -/
def release (store : JobStore ι) (i : ι) : JobStore ι :=
  { store with lockedBy := fun id => if store.lockedBy id = some i then none else store.lockedBy id }

def write (store : JobStore ι) (id : JobId) (row : ProcessingJob) : JobStore ι :=
  { store with rows := store.rows.modify id fun _ => row }

/-- `SELECT job_id … WHERE p ORDER BY job_id LIMIT limit FOR UPDATE SKIP LOCKED` -/
def select (store : JobStore ι) (i : ι) (p : ProcessingJob → Bool) (limit : ℕ) : List JobId :=
  ((store.rows.keys.filter fun id => (store.rows.row id).any p && store.free i id).insertionSort
    (· ≤ ·)).take limit

end JobStore

namespace Worker

/-- A worker with a new session. -/
def idle : Worker := ⟨fun _ => none, []⟩

/-- The objects of these rows are in the session afterwards; those it had are not refreshed. -/
def load (worker : Worker) (ids : List JobId) (rows : Table JobId ProcessingJob) : Worker :=
  { worker with loaded := fun id =>
      if id ∈ ids then (worker.loaded id).or (rows.row id) else worker.loaded id }

/-- The session has this object now. -/
def hold (worker : Worker) (id : JobId) (job : ProcessingJob) : Worker :=
  { worker with loaded := Function.update worker.loaded id (some job) }

end Worker

/-! ## The operations -/

/-- `enqueue_job`; `id` is the new primary key. -/
def enqueueJob (i : ι) (id : JobId) (kind dedupeKey : String) (payload : Json) (worker : Worker)
    (store : JobStore ι) : Worker × JobStore ι :=
  match store.rows.findKey fun job => job.dedupeKey = dedupeKey with
  | some found => (worker.load [found] store.rows, store.release i)
  | none =>
    if (store.rows.row id).isSome then (worker, store)
    else
      let rows := store.rows.insert id { kind := kind, dedupeKey := dedupeKey, payload := payload }
      (worker.load [id] rows, { store with rows := rows }.release i)

/-- `due_jobs` -/
def dueJobs (i : ι) (now : Instant) (limit : ℕ) (worker : Worker) (store : JobStore ι) :
    Worker × JobStore ι :=
  let ids := store.select i (·.isDue now) limit
  (worker.load ids store.rows, store.lock i ids)

/-- `claim_job_for_execution` -/
def claimJobForExecution (i : ι) (now : Instant) (id : JobId) (worker : Worker)
    (store : JobStore ι) : Worker × JobStore ι :=
  match store.rows.row id with
  | none => (worker, store)
  | some row =>
    if store.free i id then
      let job := (worker.loaded id).getD row
      match claimJob job.state job.attempts now job.nextAttemptAt with
      | .error _ => (worker.hold id job, store.lock i [id])
      | .ok transition =>
        let claimed := job.claimed transition now
        ({ worker.hold id claimed with executing := id :: worker.executing },
          (store.write id (job.flush claimed row)).release i)
    else (worker, store)

/-- `complete_job`, for the innermost handler.  Of an expired object the columns that are
assigned are all written. -/
def completeJob (i : ι) (worker : Worker) (store : JobStore ι) : Worker × JobStore ι :=
  match worker.executing with
  | [] => (worker, store)
  | id :: rest =>
    match store.rows.row id with
    | none => (worker, store)
    | some row =>
      if store.free i id then
        let job := (worker.loaded id).getD row
        ({ worker.hold id job.complete with executing := rest },
          (store.write id (job.flush job.complete row)).release i)
      else (worker, store)

/-- `fail_job_for_execution`, for the innermost handler.  It reads the kind and the attempts of
the object, which raises if the object is expired; then nothing is recorded. -/
def failJobForExecution (i : ι) (now : Instant) (error : String) (worker : Worker)
    (store : JobStore ι) : Worker × JobStore ι :=
  match worker.executing with
  | [] => (worker, store)
  | id :: rest =>
    match worker.loaded id, store.rows.row id with
    | some job, some row =>
      if store.free i id then
        ({ worker.hold id (job.fail error now) with executing := rest },
          (store.write id (job.flush (job.fail error now) row)).release i)
      else (worker, store)
    | _, _ => ({ worker with executing := rest }, store)

/-- `reconcile_stuck_jobs` -/
def reconcileStuckJobs (i : ι) (now : Instant) (limit : ℕ) (worker : Worker)
    (store : JobStore ι) : Worker × JobStore ι :=
  let stuck := store.select i (·.isStuck now) limit
  let loaded := (worker.load stuck store.rows).loaded
  let fail := fun job : ProcessingJob => job.fail leaseExpiredError now
  ({ worker with loaded := fun id =>
      if id ∈ stuck then (loaded id).map fail else worker.loaded id },
    { store with rows := stuck.foldl (fun rows id => rows.modify id fun row =>
        let job := (loaded id).getD row
        job.flush (fail job) row) store.rows }.release i)

/-- What a worker does in one step. -/
inductive JobOp
  | enqueue (id : JobId) (kind dedupeKey : String) (payload : Json)
  | due (limit : ℕ)
  | claim (id : JobId)
  | complete
  | fail (error : String)
  | reconcile (limit : ℕ)
  /-- The session commits, for instance within a handler. -/
  | commit
  | rollback
  /-- The innermost handler is left without a record: recording its failure failed. -/
  | abandon
  /-- Nothing refers to the object any more, and the identity map drops it. -/
  | forget (id : JobId)

/-- One step of a worker. -/
structure JobStep (ι : Type) where
  worker : ι
  now : Instant
  op : JobOp

/-- The effect of a step on the worker that takes it, and on the table. -/
def JobStep.perform (s : JobStep ι) (worker : Worker) (store : JobStore ι) :
    Worker × JobStore ι :=
  match s.op with
  | .enqueue id kind dedupeKey payload =>
    enqueueJob s.worker id kind dedupeKey payload worker store
  | .due limit => dueJobs s.worker s.now limit worker store
  | .claim id => claimJobForExecution s.worker s.now id worker store
  | .complete => completeJob s.worker worker store
  | .fail error => failJobForExecution s.worker s.now error worker store
  | .reconcile limit => reconcileStuckJobs s.worker s.now limit worker store
  | .commit => (worker, store.release s.worker)
  | .rollback => ({ worker with loaded := fun _ => none }, store.release s.worker)
  | .abandon => ({ worker with executing := worker.executing.tail }, store)
  | .forget id =>
    if id ∈ worker.executing then (worker, store)
    else ({ worker with loaded := Function.update worker.loaded id none }, store)

/-- The workers and the table. -/
abbrev Workers (ι : Type) := Pool ι (JobStore ι) Worker

/-- One step of the system. -/
def jobStep (workers : Workers ι) (s : JobStep ι) : Workers ι :=
  workers.stepAt s.worker s.perform

/-- Before the first job. -/
def noJobs (ι : Type) : Workers ι := ⟨⟨Table.empty, fun _ => none⟩, fun _ => Worker.idle⟩

end ScholarshipFinder
