import ScholarshipFinder.Approval.DecidedOnce

/-!
# The ends of an attempt

`Attempted` lists the ways in which an attempt ends, with the database as it is committed then.
`Halted` are the ends at a gate; the others come after all gates: the decision is refused, the
publication is refused, or the cycle is published.  An attempt that nothing interrupts decides with
copies that are up to date, so that its decision writes what the decision of a reviewer writes.
-/

namespace ScholarshipFinder

open Lib

variable {py : ApprovalPy} {settings : ApprovalSettings} {answers : AttemptAnswers}
  {taskId : TaskId} {before after : ReviewStore} {attempt : Attempt} {page : Verification}
  {admission : Admission}

/-! ## The gates -/

/-- What passes the gates. -/
def passedValue {α : Type} (gate : Except PyErr (Gate α)) : Option α :=
  match gate with
  | .ok (.passed a) => some a
  | _ => none

@[simp] lemma passedValue_passed {α : Type} (a : α) : passedValue (.ok (.passed a)) = some a := rfl

/-- How an attempt ends at gates that it does not pass. -/
inductive Halted {α : Type} (answers : AttemptAnswers) (before : ReviewStore) :
    Except PyErr (Gate α) → Except PyErr AutoApprovalOutcome → ReviewStore → Prop
  | stopped (reason : String) :
    Halted answers before (.ok (.stopped reason)) (.ok (.declined reason)) before
  | deferred (discoveryId : DiscoveryId) (reason : String) :
    Halted answers before (.ok (.deferred discoveryId reason)) (.ok (.declined reason))
      (before.markEvaluated discoveryId answers.evaluatedAt)
  | raised (e : PyErr) : Halted answers before (.error e) (.error e) before

lemma Halted.passedValue {α : Type} {answers : AttemptAnswers} {store after : ReviewStore}
    {gate : Except PyErr (Gate α)} {result : Except PyErr AutoApprovalOutcome}
    (h : Halted answers store gate result after) : passedValue gate = none := by
  cases h <;> rfl

lemma settleGate_cases {α : Type} (answers : AttemptAnswers) (before : ReviewStore)
    (gate : Except PyErr (Gate α)) (next : α → Except PyErr AutoApprovalOutcome × ReviewStore) :
    (∃ a, gate = .ok (.passed a) ∧ settleGate answers before gate next = next a) ∨
      Halted answers before gate (settleGate answers before gate next).1
        (settleGate answers before gate next).2 := by
  unfold settleGate
  split
  · next a => exact Or.inl ⟨a, rfl, rfl⟩
  · next reason => exact Or.inr (.stopped reason)
  · next discoveryId reason => exact Or.inr (.deferred discoveryId reason)
  · next e => exact Or.inr (.raised e)

/-- The attempt has read its page. -/
structure Verifies (py : ApprovalPy) (settings : ApprovalSettings) (answers : AttemptAnswers)
    (taskId : TaskId) (before : ReviewStore) (attempt : Attempt) (page : Verification) : Prop where
  opening : openingGates py settings answers taskId before = .ok (.passed attempt)
  reading : verifyPage py answers attempt = .ok (.passed page)

/-- The attempt has passed all gates. -/
structure Admits (py : ApprovalPy) (settings : ApprovalSettings) (answers : AttemptAnswers)
    (taskId : TaskId) (before : ReviewStore) (attempt : Attempt) (page : Verification)
    (admission : Admission) : Prop extends
    Verifies py settings answers taskId before attempt page where
  closing : closingGates py settings answers attempt page
    (before.recordVerification attempt.discoveryId) = .ok (.passed admission)

/-! ## The ends -/

inductive Attempted (py : ApprovalPy) (settings : ApprovalSettings) (answers : AttemptAnswers)
    (taskId : TaskId) (before : ReviewStore) :
    Except PyErr AutoApprovalOutcome → ReviewStore → Prop
  | unopened {result : Except PyErr AutoApprovalOutcome} {after : ReviewStore}
      (h : Halted answers before (openingGates py settings answers taskId before) result after) :
    Attempted py settings answers taskId before result after
  | unverified {attempt : Attempt} {result : Except PyErr AutoApprovalOutcome}
      {after : ReviewStore}
      (hopening : openingGates py settings answers taskId before = .ok (.passed attempt))
      (h : Halted answers before (verifyPage py answers attempt) result after) :
    Attempted py settings answers taskId before result after
  | unadmitted {attempt : Attempt} {page : Verification}
      {result : Except PyErr AutoApprovalOutcome} {after : ReviewStore}
      (hverifies : Verifies py settings answers taskId before attempt page)
      (h : Halted answers (before.recordVerification attempt.discoveryId)
        (closingGates py settings answers attempt page
          (before.recordVerification attempt.discoveryId)) result after) :
    Attempted py settings answers taskId before result after
  /-- The decision is refused; the verification stays. -/
  | undecided {attempt : Attempt} {page : Verification} {admission : Admission} {e : PyErr}
      (hadmits : Admits py settings answers taskId before attempt page admission)
      (hdecide : decideAttempt py answers attempt admission
        (before.recordVerification attempt.discoveryId) = .error e) :
    Attempted py settings answers taskId before
      (if e.isRefusal then .ok (.declined "approve_failed") else .error e)
      (before.recordVerification attempt.discoveryId)
  /-- The publication is refused; the scholarship stays. -/
  | unpublished {attempt : Attempt} {page : Verification} {admission : Admission} {e : PyErr}
      {scholarshipId : ScholarshipId} {decided : ReviewStore}
      (hadmits : Admits py settings answers taskId before attempt page admission)
      (hdecide : decideAttempt py answers attempt admission
        (before.recordVerification attempt.discoveryId) = .ok (some scholarshipId, decided))
      (hpublish : publishApproved py answers attempt admission.derived scholarshipId decided =
        .error e) :
    Attempted py settings answers taskId before
      (if e.isRefusal then .ok { AutoApprovalOutcome.declined "publish_failed" with
        scholarshipId := some scholarshipId } else .error e) decided
  | approved {attempt : Attempt} {page : Verification} {admission : Admission}
      {scholarshipId : ScholarshipId} {decided after : ReviewStore}
      (hadmits : Admits py settings answers taskId before attempt page admission)
      (hdecide : decideAttempt py answers attempt admission
        (before.recordVerification attempt.discoveryId) = .ok (some scholarshipId, decided))
      (hpublish : publishApproved py answers attempt admission.derived scholarshipId decided =
        .ok after) :
    Attempted py settings answers taskId before
      (.ok ⟨true, "auto_approved", some scholarshipId, some answers.cycleId⟩) after

/-- A decision of an attempt is an approval. -/
lemma decideAttempt_some {admitted : ReviewStore} {created : Option ScholarshipId}
    (hdecision : admission.request.decision = .approve)
    (h : decideAttempt py answers attempt admission before = .ok (created, admitted)) :
    created = some answers.scholarshipId := by
  obtain ⟨copy, -, -, rfl, -⟩ := decideReview_ok h
  rw [ReviewDecisionRequest.creates, hdecision]

theorem attemptAutoApproval_attempted (py : ApprovalPy) (settings : ApprovalSettings)
    (answers : AttemptAnswers) (taskId : TaskId) (before : ReviewStore) :
    Attempted py settings answers taskId before
      (attemptAutoApproval py settings answers taskId before).1
      (attemptAutoApproval py settings answers taskId before).2 := by
  unfold attemptAutoApproval
  rcases settleGate_cases answers before (openingGates py settings answers taskId before) _ with
    ⟨attempt, hopening, heq⟩ | hhalted
  swap
  · exact .unopened hhalted
  rw [heq]
  rcases settleGate_cases answers before (verifyPage py answers attempt) _ with
    ⟨page, hpage, heq⟩ | hhalted
  swap
  · exact .unverified hopening hhalted
  rw [heq]
  dsimp only
  rcases settleGate_cases answers (before.recordVerification attempt.discoveryId)
    (closingGates py settings answers attempt page
      (before.recordVerification attempt.discoveryId)) _ with ⟨admission, hclosing, heq⟩ | hhalted
  swap
  · exact .unadmitted ⟨hopening, hpage⟩ hhalted
  rw [heq]
  have hadmits : Admits py settings answers taskId before attempt page admission :=
    ⟨⟨hopening, hpage⟩, hclosing⟩
  cases hdecide : decideAttempt py answers attempt admission
      (before.recordVerification attempt.discoveryId) with
  | error e =>
    have hend := Attempted.undecided hadmits hdecide
    dsimp only
    split
    · next hrefusal => rwa [if_pos hrefusal] at hend
    · next hrefusal => rwa [if_neg hrefusal] at hend
  | ok result =>
    obtain ⟨created, decided⟩ := result
    obtain rfl := decideAttempt_some (closingGates_passed hclosing).decision hdecide
    dsimp only
    unfold publishAttempt
    cases hpublish : publishApproved py answers attempt admission.derived answers.scholarshipId
        decided with
    | error e =>
      have hend := Attempted.unpublished hadmits hdecide hpublish
      dsimp only
      split
      · next hrefusal => rwa [if_pos hrefusal] at hend
      · next hrefusal => rwa [if_neg hrefusal] at hend
    | ok published => exact .approved hadmits hdecide hpublish

/-! ## What a decision writes -/

lemma ReviewStore.amend_discovery (store : ReviewStore) (id other : DiscoveryId)
    {f : Discovery → Discovery} (hf : ∀ d, (f d).sourcePageId = d.sourcePageId) :
    (store.amend id f hf).discovery other =
      if other = id then (store.discovery other).map f else store.discovery other :=
  Table.row_modify _ _ _ _

/-- An open task has no resolution, and a discovery has one open task at most. -/
structure OpenOnce (store : ReviewStore) : Prop where
  unresolved : ∀ taskId task, store.tasks.row taskId = some task → task.state = .opened →
    task.resolution = none
  single : ∀ taskId taskId' task task' id, store.tasks.row taskId = some task →
    store.tasks.row taskId' = some task' → task.discoveryId = some id →
    task'.discoveryId = some id → task.state = .opened → task'.state = .opened →
    taskId = taskId'

/-- The task was open and is resolved. -/
structure Resolves (taskId : TaskId) (task : DiscoveryTask) (before after : ReviewStore) : Prop where
  row : before.tasks.row taskId = some task
  opened : task.state = .opened
  tasks : ∃ reason, after.tasks = before.tasks.modify taskId (resolveTask task reason)

/-- The scholarship was created from the discovery, of which the session has `copy`. -/
structure ApprovesCopy (discoveryId : DiscoveryId) (copy : Discovery) (scholarshipId : ScholarshipId)
    (before after : ReviewStore) : Prop where
  discovery : ∀ id, after.discovery id =
    if id = discoveryId then (before.discovery id).map (linkDiscovery copy scholarshipId)
    else before.discovery id
  free : before.shells.row scholarshipId = none
  shells : ∃ shell, after.shells = before.shells.insert scholarshipId shell
  db : after.discovered.db = { before.discovered.db with
    scholarships := before.discovered.db.scholarships.insert scholarshipId ⟨.needsReview⟩ }
  verifications : after.verifications = before.verifications
  autoApproved : after.autoApproved = before.autoApproved

/-- The scholarship was created from the discovery, which is linked to it. -/
structure Approves (discoveryId : DiscoveryId) (scholarshipId : ScholarshipId)
    (before after : ReviewStore) : Prop where
  found : (before.discovery discoveryId).isSome
  discovery : ∀ id, after.discovery id =
    if id = discoveryId then (before.discovery id).map fun d =>
      { d with canonicalScholarshipId := some scholarshipId, processingState := .linked }
    else before.discovery id
  free : before.shells.row scholarshipId = none
  shells : ∃ shell, after.shells = before.shells.insert scholarshipId shell
  db : after.discovered.db = { before.discovered.db with
    scholarships := before.discovered.db.scholarships.insert scholarshipId ⟨.needsReview⟩ }
  verifications : after.verifications = before.verifications
  autoApproved : after.autoApproved = before.autoApproved

lemma insertShell_ok {scholarshipId : ScholarshipId} {shell : ScholarshipShell}
    (h : insertShell scholarshipId shell before = .ok after) :
    before.shells.row scholarshipId = none ∧
      after = { before.withDb { before.discovered.db with
        scholarships := before.discovered.db.scholarships.insert scholarshipId ⟨.needsReview⟩ }
        rfl rfl with
      shells := before.shells.insert scholarshipId shell } := by
  simp only [insertShell] at h
  split at h
  · cases h
  next hadmits =>
  cases h
  refine ⟨?_, rfl⟩
  by_contra hrow
  exact hadmits (Or.inr (Or.inr (Or.inr (Option.isSome_iff_ne_none.mpr hrow))))

lemma approveTask_ok {py : Py} {scholarshipId : ScholarshipId} {request : ReviewDecisionRequest}
    {task : DiscoveryTask} {view : DiscoveryId → Option Discovery}
    (h : approveTask py scholarshipId request task view before = .ok after) :
    ∃ discoveryId copy, task.discoveryId = some discoveryId ∧ view discoveryId = some copy ∧
      ApprovesCopy discoveryId copy scholarshipId before after := by
  unfold approveTask at h
  split at h
  swap
  · cases h
  next discoveryId _ _ _ _ hid _ _ _ _ =>
  obtain ⟨awardType, -, h⟩ := exceptBind_ok h
  split at h
  · cases h
  next copy hcopy =>
  obtain ⟨inserted, hinsert, h⟩ := exceptBind_ok h
  cases h
  obtain ⟨hfree, rfl⟩ := insertShell_ok hinsert
  exact ⟨discoveryId, copy, hid, hcopy, fun id => ReviewStore.amend_discovery _ _ _ _, hfree,
    ⟨_, rfl⟩, rfl, rfl, rfl⟩

/-- An approval that reads the stored discovery. -/
lemma approveTask_approves {py : Py} {scholarshipId : ScholarshipId}
    {request : ReviewDecisionRequest} {task : DiscoveryTask}
    (h : approveTask py scholarshipId request task before.discovery before = .ok after) :
    ∃ discoveryId, task.discoveryId = some discoveryId ∧
      Approves discoveryId scholarshipId before after := by
  obtain ⟨discoveryId, copy, hid, hcopy, happroves⟩ := approveTask_ok h
  refine ⟨discoveryId, hid, ?_, fun id => ?_, happroves.free, happroves.shells, happroves.db,
    happroves.verifications, happroves.autoApproved⟩
  · rw [hcopy]
    rfl
  rw [happroves.discovery]
  split
  · next hid =>
    -- the copy is the stored row
    subst hid
    rw [hcopy, Option.map_some, Option.map_some, linkDiscovery, writeBack_fresh, writeBack_fresh]
  · rfl

/-- A decision that is accepted is a rejection, or an approval. -/
lemma decideReview_approval {py : Py} {scholarshipId : ScholarshipId}
    {request : ReviewDecisionRequest} {task : Option DiscoveryTask}
    {view : DiscoveryId → Option Discovery} {created : Option ScholarshipId}
    (h : decideReview py scholarshipId taskId request task view before = .ok (created, after)) :
    ∃ approved, after = { approved with tasks := after.tasks } ∧
      (approved = before ∨
        ∃ discoveryId copy, ApprovesCopy discoveryId copy scholarshipId before approved) := by
  obtain ⟨copy, rfl, hcopy, -⟩ := decideReview_ok h
  unfold decideReview at h
  simp only [hcopy, ne_eq, not_true_eq_false, if_false] at h
  cases hdecision : request.decision with
  | reject =>
    simp only [hdecision] at h
    cases h
    exact ⟨before, rfl, Or.inl rfl⟩
  | approve =>
    simp only [hdecision] at h
    obtain ⟨approved, happrove, h⟩ := exceptBind_ok h
    cases h
    obtain ⟨discoveryId, copy, -, -, happroves⟩ := approveTask_ok happrove
    exact ⟨approved, rfl, Or.inr ⟨discoveryId, copy, happroves⟩⟩

/-- What a decision does. -/
inductive Decides (scholarshipId : ScholarshipId) (taskId : TaskId) (before : ReviewStore) :
    Option ScholarshipId → ReviewStore → Prop
  | rejects {task : DiscoveryTask} {reason : String} (hrow : before.tasks.row taskId = some task)
      (hopened : task.state = .opened) :
    Decides scholarshipId taskId before none
      { before with tasks := before.tasks.modify taskId (resolveTask task reason) }
  | approves {task : DiscoveryTask} {discoveryId : DiscoveryId} {after : ReviewStore}
      (hresolves : Resolves taskId task before after) (hid : task.discoveryId = some discoveryId)
      (happroves : Approves discoveryId scholarshipId before after) :
    Decides scholarshipId taskId before (some scholarshipId) after

theorem decideRequest_decides {scholarshipId : ScholarshipId} {request : ReviewDecisionRequest}
    {created : Option ScholarshipId}
    (h : decideRequest py scholarshipId taskId request before = .ok (created, after)) :
    Decides scholarshipId taskId before created after := by
  unfold decideRequest decideReview at h
  split at h
  · cases h
  next task hrow =>
  split at h
  · cases h
  next hopened =>
  rw [not_not] at hopened
  cases hdecision : request.decision with
  | approve =>
    simp only [hdecision] at h
    obtain ⟨approved, happrove, h⟩ := exceptBind_ok h
    cases h
    obtain ⟨discoveryId, hid, happroves⟩ := approveTask_approves happrove
    refine .approves ⟨hrow, hopened, request.reason, ?_⟩ hid ⟨happroves.found, happroves.discovery,
      happroves.free, happroves.shells, happroves.db, happroves.verifications,
      happroves.autoApproved⟩
    rw [approveTask_tasks happrove]
  | reject =>
    simp only [hdecision] at h
    cases h
    exact .rejects hrow hopened

/-- An attempt that nothing interrupts decides as a reviewer does. -/
theorem Admits.decideAttempt_eq (h : Admits py settings answers taskId before attempt page admission) :
    decideAttempt py answers attempt admission (before.recordVerification attempt.discoveryId) =
      decideRequest py answers.scholarshipId taskId admission.request
        (before.recordVerification attempt.discoveryId) := by
  obtain ⟨rfl, hopened⟩ := openingGates_passed h.opening
  have htask : ((before.recordVerification attempt.discoveryId).tasks.row attempt.taskId).map
      (fun _ => attempt.task) =
        (before.recordVerification attempt.discoveryId).tasks.row attempt.taskId := by
    show (before.tasks.row attempt.taskId).map _ = before.tasks.row attempt.taskId
    rw [hopened.task]
    rfl
  have hview : attempt.view (before.recordVerification attempt.discoveryId) =
      (before.recordVerification attempt.discoveryId).discovery := by
    funext id
    show (before.discovery id).map _ = before.discovery id
    by_cases hid : id = attempt.discoveryId
    · rw [hid, hopened.discovery, Option.map_some, if_pos rfl]
    · simp only [if_neg hid, Option.map_id']
  rw [decideAttempt, decideRequest, htask, hview]

end ScholarshipFinder
