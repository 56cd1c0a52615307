import ScholarshipFinder.Lib.UnitOfWork
import ScholarshipFinder.Infra.Jobs

/-!
# The session of an execution (`infra/worker.py`, `execute_job`)

A handler works in the session of the worker that claimed its job, and `execute_job` records the
outcome in the same session.  A handler that raises is the list of what it has done in the session
until then; the rows of the other tables are any rows.  `execute_job` does not roll the session
back.

After an error of the database, and after a rollback, every object of the session is expired:
reading one needs a new query, and `fail_job_for_execution` makes none.
-/

namespace ScholarshipFinder

open Lib

/-- A worker, the table of jobs, and the rows of the other tables. -/
structure Execution (ι K R : Type) (accepts : (K → Option R) → Bool) where
  worker : Worker
  store : JobStore ι
  rows : UnitOfWork K R accepts

/-- What a handler does in its session, and what other sessions do meanwhile. -/
inductive HandlerOp (K R : Type)
  /-- A row is added or changed, or deleted. -/
  | write (k : K) (row : Option R)
  /-- The writes are sent to the database, explicitly or before a query. -/
  | flush
  | commit
  | rollback
  /-- The database fails for another reason, such as a deadlock or a lost connection. -/
  | databaseError
  /-- A query answers with the row of a job. -/
  | loadJob (id : JobId)
  /-- Another session commits. -/
  | others (rows : K → Option R)

variable {ι K R : Type} [DecidableEq ι] [DecidableEq K] {accepts : (K → Option R) → Bool}

namespace Execution

/-- The objects of the session are expired, and its locks are gone. -/
def expire (i : ι) (e : Execution ι K R accepts) : Execution ι K R accepts :=
  { e with
    worker := { e.worker with loaded := fun _ => none }
    store := e.store.release i }

/-- The database answers the session with these rows: it may have failed. -/
def answer (i : ι) (e : Execution ι K R accepts) (rows : UnitOfWork K R accepts) :
    Execution ι K R accepts :=
  if rows.active then { e with rows := rows } else { e with rows := rows }.expire i

def perform (i : ι) (e : Execution ι K R accepts) : HandlerOp K R → Execution ι K R accepts
  | .write k row => { e with rows := e.rows.write k row }
  | .flush => e.answer i e.rows.flush
  | .commit => { e with store := e.store.release i }.answer i e.rows.commit
  | .rollback => { e with rows := e.rows.rollback }.expire i
  | .databaseError => e.answer i e.rows.fail
  | .loadJob id => if e.rows.active then { e with worker := e.worker.load [id] e.store.rows } else e
  | .others rows => { e with rows := e.rows.others rows }

/-- The claim of `execute_job`, which commits the session. -/
def enter (i : ι) (now : Instant) (id : JobId) (e : Execution ι K R accepts) :
    Execution ι K R accepts :=
  let (worker, store) := claimJobForExecution i now id e.worker e.store
  ⟨worker, store, e.rows.commit⟩

/-- The `except` clause of `execute_job`: `fail_job_for_execution` in the session as the handler
has left it. -/
def recordFailure (i : ι) (now : Instant) (error : String) (e : Execution ι K R accepts) :
    Execution ι K R accepts :=
  match e.worker.executing with
  | [] => e
  | id :: rest =>
    if e.store.free i id then
      if (e.worker.loaded id).isSome then
        if e.rows.commits then
          let (worker, store) := failJobForExecution i now error e.worker e.store
          ⟨worker, store, e.rows.commit⟩
        else
          let left := { e with worker := { e.worker with executing := rest } }
          left.answer i e.rows.commit
      -- the kind of the job cannot be read
      else { e with worker := { e.worker with executing := rest } }
    else e

end Execution

end ScholarshipFinder
