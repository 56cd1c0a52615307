import ScholarshipFinder.Infra.ReviewSessions

/-!
# The sweep of the open reviews (`_auto_approve_sweep` in `infra/worker.py`)

A tick hands the oldest open tasks whose discovery has not been evaluated to an attempt each.  An
exception ends the attempt, and the sweep rolls its open transaction back and goes on; the
transactions that were committed before stay.  Beside what the attempt itself raises, an exception
of the database may end it after any of its transactions.
-/

namespace ScholarshipFinder

open Lib

structure SweepSettings extends ApprovalSettings where
  autoApproveEnabled : Bool := false
  autoApproveSweepBatchLimit : ℕ := 50

/-- What a tick is answered. -/
structure ApprovalTick where
  now : Instant
  /-- The order in which the database lists tasks that were created at the same time. -/
  rank : TaskId → ℕ
  attempts : TaskId → AttemptAnswers
  /-- After how many of its transactions an attempt is ended from outside. -/
  interrupted : TaskId → Option ℕ

variable (py : ApprovalPy) (settings : SweepSettings)

/-- A task that the query of a tick selects. -/
def isApprovalCandidate (cutoff : Instant) (store : ReviewStore) (taskId : TaskId) : Bool :=
  (store.tasks.row taskId).any fun task =>
    task.state = .opened && (task.discoveryId.bind store.discovery).any fun d =>
      d.autoReviewEvaluatedAt.isNone && decide (d.createdAt ≤ cutoff)

/-- `ORDER BY created_at` -/
def createdBefore (rank : TaskId → ℕ) (store : ReviewStore) (a b : TaskId) : Prop :=
  let created (id : TaskId) : Instant := ((store.tasks.row id).map (·.createdAt)).getD 0
  created a < created b ∨ created a = created b ∧ rank a ≤ rank b

instance (rank : TaskId → ℕ) (store : ReviewStore) : DecidableRel (createdBefore rank store) :=
  fun a b => by unfold createdBefore; infer_instance

/-- `candidate_ids` -/
def approvalCandidates (tick : ApprovalTick) (cutoff : Instant) (store : ReviewStore) :
    List TaskId :=
  ((store.tasks.keys.filter (isApprovalCandidate cutoff store)).insertionSort
    (createdBefore tick.rank store)).take settings.autoApproveSweepBatchLimit

/-- The turn of one task: whether it was approved, and the database as it is committed. -/
def approvalTurn (tick : ApprovalTick) (taskId : TaskId) (store : ReviewStore) :
    Bool × ReviewStore :=
  match tick.interrupted taskId with
  | none =>
    let ended := attemptAutoApproval py settings.toApprovalSettings (tick.attempts taskId) taskId
      store
    (ended.1.toOption.any (·.approved), ended.2)
  | some k =>
    (false, committedAfter py settings.toApprovalSettings (tick.attempts taskId) taskId store k)

/-- The loop, with the number of the approvals. -/
def approvalTurns (tick : ApprovalTick) : List TaskId → ReviewStore → ℕ × ReviewStore
  | [], store => (0, store)
  | taskId :: taskIds, store =>
    let (approved, store) := approvalTurn py settings tick taskId store
    let (count, store) := approvalTurns tick taskIds store
    (count + if approved then 1 else 0, store)

/-- The tasks of a tick; none if it is turned off. -/
def approvalBatch (tick : ApprovalTick) (store : ReviewStore) : Except PyErr (List TaskId) :=
  if settings.autoApproveEnabled then do
    let minAge ← timedelta hour settings.autoApproveMinAgeHours
    let cutoff ← addTimedelta tick.now (-minAge)
    return approvalCandidates settings tick cutoff store
  else .ok []

/-- `_auto_approve_sweep`: the numbers of the tasks evaluated and approved. -/
def autoApproveSweep (tick : ApprovalTick) (store : ReviewStore) :
    Except PyErr (ℕ × ℕ) × ReviewStore :=
  match approvalBatch settings tick store with
  | .error e => (.error e, store)
  | .ok taskIds =>
    let (approved, after) := approvalTurns py settings tick taskIds store
    (.ok (taskIds.length, approved), after)

end ScholarshipFinder
