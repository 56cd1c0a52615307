import ScholarshipFinder.Infra.AutoApproval
import ScholarshipFinder.Lib.Pool
import ScholarshipFinder.Lib.Run

/-!
# Reviewers and attempts over one database

A reviewer decides a task in one transaction.  An attempt commits in the middle, which releases its
locks, and goes on with the task and the discovery that its session has loaded.  The steps of the
system are the transactions; an attempt with nothing between them is `attemptAutoApproval`.
-/

namespace ScholarshipFinder

open Lib

/-- Where an attempt stands between two transactions. -/
inductive AttemptStage
  | idle
  /-- The gates before the fetch are passed. -/
  | fetching (attempt : Attempt)
  /-- The page is verified. -/
  | verified (attempt : Attempt) (page : Verification)
  /-- The task is decided, and the scholarship created. -/
  | decided (attempt : Attempt) (derived : DerivedCycleFacts) (scholarshipId : ScholarshipId)

/-- The transactions of an attempt, and the end of one whose process has died. -/
inductive AttemptStep
  | start (taskId : TaskId)
  | verify
  | decide
  | publish
  | abandon

variable (py : ApprovalPy) (settings : ApprovalSettings) (answers : AttemptAnswers)

/-- The end of a transaction that runs gates. -/
def stageAfter {α : Type} (store : ReviewStore) (gate : Except PyErr (Gate α))
    (next : α → AttemptStage × ReviewStore) : AttemptStage × ReviewStore :=
  match gate with
  | .ok (.passed a) => next a
  | .ok (.stopped _) => (.idle, store)
  | .ok (.deferred discoveryId _) => (.idle, store.markEvaluated discoveryId answers.evaluatedAt)
  | .error _ => (.idle, store)

/-- The end of the transaction that decides. -/
def stageDecided (attempt : Attempt) (derived : DerivedCycleFacts) (store : ReviewStore)
    (result : Except PyErr (Option ScholarshipId × ReviewStore)) : AttemptStage × ReviewStore :=
  match result with
  | .ok (some scholarshipId, store) => (.decided attempt derived scholarshipId, store)
  | .ok (none, store) => (.idle, store)
  | .error _ => (.idle, store)

/-- One transaction. -/
def attemptStep (step : AttemptStep) (stage : AttemptStage) (store : ReviewStore) :
    AttemptStage × ReviewStore :=
  match step, stage with
  | .start taskId, .idle =>
    stageAfter answers store (openingGates py settings answers taskId store) fun attempt =>
      (.fetching attempt, store)
  | .verify, .fetching attempt =>
    stageAfter answers store (verifyPage py answers attempt) fun page =>
      (.verified attempt page, store.recordVerification attempt.discoveryId)
  | .decide, .verified attempt page =>
    stageAfter answers store (closingGates py settings answers attempt page store) fun admission =>
      stageDecided attempt admission.derived store (decideAttempt py answers attempt admission store)
  | .publish, .decided attempt derived scholarshipId =>
    match publishApproved py answers attempt derived scholarshipId store with
    | .ok store' => (.idle, store')
    | .error _ => (.idle, store)
  | .abandon, _ => (.idle, store)
  | _, stage => (stage, store)

variable {py settings answers} {store : ReviewStore}

/-- What follows a transaction of gates, if an attempt that has ended stays as it is. -/
lemma settleGate_snd {α : Type} {gate : Except PyErr (Gate α)}
    {next : α → Except PyErr AutoApprovalOutcome × ReviewStore}
    {next' : α → AttemptStage × ReviewStore}
    {k : AttemptStage × ReviewStore → AttemptStage × ReviewStore}
    (hidle : ∀ store, k (.idle, store) = (.idle, store))
    (hnext : ∀ a, (next a).2 = (k (next' a)).2) :
    (settleGate answers store gate next).2 = (k (stageAfter answers store gate next')).2 := by
  unfold settleGate stageAfter
  split
  · next a => exact hnext a
  · rw [hidle]
  · rw [hidle]
  · rw [hidle]

/-- An attempt is the run of its transactions. -/
theorem attemptAutoApproval_eq_steps (taskId : TaskId) :
    (attemptAutoApproval py settings answers taskId store).2 =
      ([.start taskId, .verify, .decide, .publish].foldl
        (fun p step => attemptStep py settings answers step p.1 p.2)
        (AttemptStage.idle, store)).2 := by
  let then' (step : AttemptStep) (p : AttemptStage × ReviewStore) :=
    attemptStep py settings answers step p.1 p.2
  show _ = (then' .publish (then' .decide (then' .verify (then' (.start taskId) (.idle, store))))).2
  refine settleGate_snd (k := fun p => then' .publish (then' .decide (then' .verify p)))
    (fun _ => rfl) fun attempt => ?_
  refine settleGate_snd (k := fun p => then' .publish (then' .decide p)) (fun _ => rfl)
    fun page => ?_
  refine settleGate_snd (k := then' .publish) (fun _ => rfl) fun admission => ?_
  cases decideAttempt py answers attempt admission
      (store.recordVerification attempt.discoveryId) with
  | error e =>
    dsimp only
    split <;> rfl
  | ok decided =>
    obtain ⟨approved, decided⟩ := decided
    cases approved with
    | none => rfl
    | some scholarshipId =>
      show (publishAttempt py answers attempt admission.derived scholarshipId decided).2 =
        (attemptStep py settings answers .publish
          (.decided attempt admission.derived scholarshipId) decided).2
      simp only [publishAttempt, attemptStep]
      cases publishApproved py answers attempt admission.derived scholarshipId decided with
      | error e =>
        dsimp only
        split <;> rfl
      | ok published => rfl

variable (py settings answers) in
/-- The database as the first `k` transactions of an attempt have committed it. -/
def committedAfter (taskId : TaskId) (store : ReviewStore) (k : ℕ) : ReviewStore :=
  ((([.start taskId, .verify, .decide, .publish] : List AttemptStep).take k).foldl
    (fun p step => attemptStep py settings answers step p.1 p.2) (AttemptStage.idle, store)).2

/-! ## The system -/

variable {ι : Type} [DecidableEq ι]

/-- The reviewers' database, and the sessions of the attempts on it. -/
abbrev Reviewing (ι : Type) := Pool ι ReviewStore AttemptStage

/-- Its steps. -/
inductive ReviewStep (ι : Type)
  /-- `decide_review`, in the session of a request. -/
  | decide (scholarshipId : ScholarshipId) (taskId : TaskId) (request : ReviewDecisionRequest)
  /-- A transaction of an attempt. -/
  | attempt (worker : ι) (step : AttemptStep) (answers : AttemptAnswers)

/-- `decide_review` of a request, whose session has loaded nothing before. -/
def decideRequest (py : ApprovalPy) (scholarshipId : ScholarshipId) (taskId : TaskId)
    (request : ReviewDecisionRequest) (store : ReviewStore) :
    Except PyErr (Option ScholarshipId × ReviewStore) :=
  decideReview py.toPy scholarshipId taskId request (store.tasks.row taskId) store.discovery store

variable (py settings) in
def reviewStep (p : Reviewing ι) : ReviewStep ι → Reviewing ι
  | .decide scholarshipId taskId request =>
    let decided := (decideRequest py scholarshipId taskId request p.shared).map Prod.snd
    { p with shared := decided.toOption.getD p.shared }
  | .attempt worker step answers => p.stepAt worker (attemptStep py settings answers step)

variable (py settings) in
/-- The task that a step decides, with the scholarship that it creates from it. -/
def decisionAt (p : Reviewing ι) : ReviewStep ι → Option (TaskId × Option ScholarshipId)
  | .decide scholarshipId taskId request =>
    (decideRequest py scholarshipId taskId request p.shared).toOption.map fun r => (taskId, r.1)
  | .attempt worker .decide answers =>
    match p.proc worker with
    | .verified attempt page =>
      match closingGates py settings answers attempt page p.shared with
      | .ok (.passed admission) =>
        (decideAttempt py answers attempt admission p.shared).toOption.map fun r =>
          (attempt.taskId, r.1)
      | _ => none
    | _ => none
  | _ => none

variable (py) in
/-- The task for which a step publishes a cycle. -/
def publicationAt (p : Reviewing ι) : ReviewStep ι → Option TaskId
  | .attempt worker .publish answers =>
    match p.proc worker with
    | .decided attempt derived scholarshipId =>
      (publishApproved py answers attempt derived scholarshipId p.shared).toOption.map fun _ =>
        attempt.taskId
    | _ => none
  | _ => none

/-- What has become of the tasks. -/
structure DecisionHistory where
  /-- The tasks that were resolved, oldest first. -/
  resolved : List TaskId := []
  /-- Those from which a scholarship was created. -/
  created : List TaskId := []
  /-- Those for which a cycle was published without a reviewer. -/
  autoPublished : List TaskId := []
deriving DecidableEq

variable (py settings) in
def DecisionHistory.record (h : DecisionHistory) (p : Reviewing ι) (s : ReviewStep ι) :
    DecisionHistory where
  resolved := h.resolved ++ ((decisionAt py settings p s).map Prod.fst).toList
  created := h.created ++
    ((decisionAt py settings p s).bind fun d => d.2.map fun _ => d.1).toList
  autoPublished := h.autoPublished ++ (publicationAt py p s).toList

end ScholarshipFinder
