import ScholarshipFinder.Domain.Linking
import ScholarshipFinder.Infra.Intake

/-!
# Linking (`infra/linking.py`)

A discovery is marked as a duplicate of the earliest one of another page that has its key and is
not marked itself; or it is linked to the one scholarship of its name; or it gets a review task.
The session has loaded nothing before.  If an exception leaves it with assignments, these are
stored by the commit that records the failure of the job.
-/

namespace ScholarshipFinder

open Lib

/-- What a run of `link_discovery` is answered. -/
structure LinkAnswers where
  now : Instant
  /-- `try_ai_extraction` -/
  aiFacts : Except PyErr (Option (List (String × Json)))
  taskId : TaskId
  jobId : JobId

/-- The predicate of `uq_review_tasks_open_per_discovery`. -/
def DiscoveryTask.live (task : DiscoveryTask) : Bool :=
  task.state = .opened ∧ task.resolution = none

/-! ## What a run assigns -/

/-- The columns of a duplicate. -/
def Discovery.markDuplicate (originalId : DiscoveryId) (facts : ExtractedFacts) (d : Discovery) :
    Discovery :=
  { d with
    duplicateOfDiscoveryId := some originalId
    processingState := .duplicatePending
    extractedFacts := some facts }

/-- The columns of a discovery of a known scholarship. -/
def Discovery.linkTo (scholarshipId : ScholarshipId) (d : Discovery) : Discovery :=
  { d with canonicalScholarshipId := some scholarshipId, processingState := .linked }

/-- The columns of a discovery for a reviewer. -/
def Discovery.queueAs (state : ProcessingState) (facts : ExtractedFacts) (d : Discovery) :
    Discovery :=
  { d with extractedFacts := some facts, processingState := state }

/-- The facts alone. -/
def Discovery.extract (facts : ExtractedFacts) (d : Discovery) : Discovery :=
  { d with extractedFacts := some facts }

namespace IntakeStore

/-- Write columns of a discovery other than its page. -/
def amend (store : IntakeStore) (id : DiscoveryId) (f : Discovery → Discovery)
    (hf : ∀ d, (f d).sourcePageId = d.sourcePageId) : IntakeStore :=
  { store with toReviewStore := store.toReviewStore.amend id f hf }

/-- The open task of a discovery; there is at most one. -/
def liveTask (store : IntakeStore) (discoveryId : DiscoveryId) : Option TaskId :=
  store.tasks.findKey fun task => task.discoveryId = some discoveryId && task.live

/-- `INSERT INTO review_tasks … ON CONFLICT DO NOTHING RETURNING review_task_id` -/
def insertTask (taskId : TaskId) (discoveryId : DiscoveryId) (reason : String) (priority : ℤ)
    (now : Instant) (store : IntakeStore) : Except PyErr (Option TaskId × IntakeStore) :=
  match store.liveTask discoveryId with
  | some _ => .ok (none, store)
  | none =>
    if store.tasks.row taskId = none ∧ (store.discovery discoveryId).isSome then
      .ok (some taskId, { store with tasks := store.tasks.insert taskId {
        discoveryId := some discoveryId
        state := .opened
        resolution := none
        draftRecommendation := none
        reason := reason
        priority := priority
        createdAt := now } })
    else refused

/-- `f"prepare_review:{review_task_id}"` -/
def prepareKey (taskId : TaskId) : String := "prepare_review:" ++ uuidText taskId

/-- `{"review_task_id": str(review_task_id)}` -/
def taskPayload (taskId : TaskId) : Json := .obj [("review_task_id", .str (uuidText taskId))]

/-- `enqueue_job`, which leaves a job alone that has the key already. -/
def enqueueOnce (jobId : JobId) (kind dedupeKey : String) (payload : Json) (store : IntakeStore) :
    Except PyErr IntakeStore :=
  match store.jobs.findKey fun job => job.dedupeKey = dedupeKey with
  | some _ => .ok store
  | none => store.insertJob jobId kind dedupeKey payload

/-- `_add_review_task_once` -/
def addReviewTaskOnce (discoveryId : DiscoveryId) (reason : String) (priority : ℤ)
    (answers : LinkAnswers) (store : IntakeStore) : Except PyErr IntakeStore := do
  let (inserted, store) ← store.insertTask answers.taskId discoveryId reason priority answers.now
  match inserted with
  | none => return store
  | some taskId =>
    store.enqueueOnce answers.jobId "prepare_review" (prepareKey taskId) (taskPayload taskId)

/-- A discovery that an other one may be a duplicate of. -/
def isOriginal (key : String) (pageId : PageId) (d : Discovery) : Bool :=
  d.normalizedIdentityKey = some key && d.sourcePageId ≠ pageId && d.duplicateOfDiscoveryId = none

/-- `original_id` -/
def originalOf (store : IntakeStore) (id : DiscoveryId) (d : Discovery) : Option DiscoveryId :=
  match d.normalizedIdentityKey with
  | none => none
  | some key =>
    if key = "" then none
    else (store.discovered.discoveries.keys.filter fun other =>
      other < id && (store.discovery other).any (isOriginal key d.sourcePageId)).min?

/-- The scholarships among some whose name is `ILIKE` a pattern. -/
def namedLike (py : IntakePy) (store : IntakeStore) (pattern : String) :
    List ScholarshipId → Except PyErr (List ScholarshipId)
  | [] => .ok []
  | id :: ids => do
    let rest ← namedLike py store pattern ids
    match store.shells.row id with
    | none => return rest
    | some shell => return if ← py.ilike shell.name pattern then id :: rest else rest

/-- The state of a discovery that is for a reviewer. -/
def queuedState (decision : LinkDecision) : ProcessingState :=
  if decision.outcome = .needsReview then .needsReview else .newCandidate

/-- The end of a run, for a discovery that neither is a duplicate nor has a known scholarship. -/
def queueForReview (id : DiscoveryId) (d : Discovery) (facts : ExtractedFacts)
    (decision : LinkDecision) (aiFacts : Option (List (String × Json))) (answers : LinkAnswers)
    (store : IntakeStore) : Except PyErr IntakeStore :=
  let grade := (store.discovered.sourceOfPage d.sourcePageId).bind store.authorityGrade
  let priority := computeReviewPriority (decision.outcome = .needsReview) (some facts) aiFacts grade
  (store.amend id (Discovery.queueAs (queuedState decision) facts) fun _ => rfl).addReviewTaskOnce
    id decision.reason priority answers

/-- `link_discovery` -/
def linkDiscovery (py : IntakePy) (id : DiscoveryId) (answers : LinkAnswers)
    (store : IntakeStore) : Except PyErr LinkOutcome × IntakeStore :=
  match store.discovery id with
  | none => (lookupError "Discovery not found", store)
  | some d =>
    let facts := extractCandidateFacts py.toPyText d.rawTitle d.rawExcerpt
    match store.originalOf id d with
    | some originalId =>
      (.ok .duplicatePending,
        store.amend id (Discovery.markDuplicate originalId facts) fun _ => rfl)
    | none =>
      match store.namedLike py (d.rawTitle.getD "") store.shells.keys with
      | .error e => (.error e, store)
      | .ok candidates =>
        let decision := decideLink candidates
        match decision.scholarshipId with
        | some scholarshipId =>
          (.ok decision.outcome, store.amend id (Discovery.linkTo scholarshipId) fun _ => rfl)
        | none =>
          match answers.aiFacts with
          | .error e => (.error e, store.amend id (Discovery.extract facts) fun _ => rfl)
          | .ok aiFacts =>
            match store.queueForReview id d facts decision aiFacts answers with
            | .error e => (.error e, store)
            | .ok queued => (.ok decision.outcome, queued)

end IntakeStore

end ScholarshipFinder
