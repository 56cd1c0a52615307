import ScholarshipFinder.Infra.Intake
import ScholarshipFinder.Infra.Linking

/-!
# Candidates of the Agent (`infra/agent_integration.py`)

A submission splits candidates from a parent in one transaction.  Each becomes a discovery of its
own, unless the page of its URL has its content already, or its URL is unusable.  The Agent may
also ask for a review.
-/

namespace ScholarshipFinder

open Lib

structure CandidateSubmission where
  title : String
  url : Option String
  excerpt : Option String
  heading : Option String
deriving DecidableEq, Repr

inductive CandidateStatus
  | created
  | duplicate
  | rejected
deriving DecidableEq, Repr

structure CandidateResult where
  title : String
  discoveryId : Option DiscoveryId
  status : CandidateStatus
  reason : Option String
deriving DecidableEq, Repr

structure CandidateSubmissionResponse where
  parentDiscoveryId : DiscoveryId
  created : ℕ
  duplicates : ℕ
  rejected : ℕ
  results : List CandidateResult
deriving DecidableEq, Repr

/-- What a submission is answered while it handles one candidate. -/
structure CandidateAnswers where
  now : Instant
  pageId : PageId
  discoveryId : DiscoveryId
  normalizeJobId : JobId
  linkJobId : JobId
deriving DecidableEq, Repr

/-- `load_discovery_context` -/
structure DiscoveryContext where
  discoveryId : DiscoveryId
  discovery : Discovery
  page : SourcePage
  sourceId : SourceId
  source : Source
deriving DecidableEq, Repr

def loadDiscoveryContext (store : IntakeStore) (id : DiscoveryId) : Option DiscoveryContext := do
  let discovery ← store.discovery id
  let page ← store.discovered.db.pages.row discovery.sourcePageId
  let source ← store.discovered.db.sources.row page.sourceId
  return ⟨id, discovery, page, page.sourceId, source⟩

variable (py : IntakePy)

/-- `f"[{heading}]\n{excerpt or ''}".strip()` under a heading, or else the excerpt. -/
def excerptUnder (heading excerpt : Option String) : Option String :=
  match heading.filter (· ≠ "") with
  | none => excerpt
  | some heading => some (py.strip ("[" ++ heading ++ "]\n" ++ excerpt.getD ""))

/-- The discovery that a candidate makes. -/
def splitDiscovery (startedAt : Instant) (parentId : DiscoveryId) (candidate : CandidateSubmission)
    (prepared : DiscoveryCandidate) (pageId : PageId) : Discovery where
  sourcePageId := pageId
  contentHash := prepared.contentHash
  rawTitle := some prepared.title
  rawExcerpt := excerptUnder py candidate.heading prepared.excerpt
  normalizedIdentityKey :=
    some (normalizeDiscovery py.toPyText py.toUnicodeText prepared.title).identityKey
  processingState := .normalized
  splitFromDiscoveryId := some parentId
  canonicalScholarshipId := none
  extractedFacts := none
  autoReviewEvaluatedAt := none
  createdAt := startedAt

/-- `hashlib.sha256(identity_key.encode()).hexdigest()[:32]` -/
def identityDigest (identityKey : String) : String :=
  String.ofList ((py.sha256 identityKey.toUTF8.toList).toList.take 32)

/-- A candidate whose page is known. -/
def submitContent (startedAt : Instant) (parentId : DiscoveryId) (candidate : CandidateSubmission)
    (prepared : DiscoveryCandidate) (answers : CandidateAnswers) (pageId : PageId)
    (store : IntakeStore) : Except PyErr (CandidateResult × IntakeStore) :=
  match store.findContent pageId prepared.contentHash with
  | some existing => .ok (⟨candidate.title, some existing, .duplicate, none⟩, store)
  | none => do
    let store ← store.addDiscovery py answers.discoveryId
      (splitDiscovery py startedAt parentId candidate prepared pageId)
      (identityDigest py
        (normalizeDiscovery py.toPyText py.toUnicodeText prepared.title).identityKey)
      answers.normalizeJobId answers.linkJobId
    return (⟨candidate.title, some answers.discoveryId, .created, none⟩, store)

/-- `str(candidate.url) if candidate.url else parent_url` -/
def candidateUrl (parent : DiscoveryContext) (candidate : CandidateSubmission) : String :=
  candidate.url.getD parent.page.normalizedUrl

/-- `_submit_one` -/
def submitOne (startedAt : Instant) (parent : DiscoveryContext) (candidate : CandidateSubmission)
    (answers : CandidateAnswers) (store : IntakeStore) :
    Except PyErr (CandidateResult × IntakeStore) :=
  match prepareCandidate py.toPy (candidateUrl parent candidate) candidate.title
    candidate.excerpt with
  | .error e =>
    if e.cls = .valueError then .ok (⟨candidate.title, none, .rejected, some e.msg⟩, store)
    else .error e
  | .ok prepared => do
    let (pageId, store) ← store.seePage py answers.pageId parent.sourceId prepared.normalizedUrl
      answers.now
    submitContent py startedAt parent.discoveryId candidate prepared answers pageId store

/-- The loop over the candidates. -/
def submitEach (startedAt : Instant) (parent : DiscoveryContext) :
    List (CandidateSubmission × CandidateAnswers) → IntakeStore →
      Except PyErr (List CandidateResult × IntakeStore)
  | [], store => .ok ([], store)
  | (candidate, answers) :: batch, store => do
    let (outcome, store) ← submitOne py startedAt parent candidate answers store
    let (results, store) ← submitEach startedAt parent batch store
    return (outcome :: results, store)

/-- The counter of a status. -/
def countStatus (status : CandidateStatus) (results : List CandidateResult) : ℕ :=
  results.countP (·.status = status)

/-- `InactiveSource` -/
def inactiveSource (sourceId : SourceId) : PyErr := ⟨.other, uuidText sourceId⟩

/-- `submit_candidates`, with what it is answered for each candidate; without a parent the answer
is none. -/
def submitCandidates (startedAt : Instant) (parentId : DiscoveryId)
    (batch : List (CandidateSubmission × CandidateAnswers)) (store : IntakeStore) :
    Except PyErr (Option CandidateSubmissionResponse × IntakeStore) :=
  match loadDiscoveryContext store parentId with
  | none => .ok (none, store)
  | some context =>
    if context.source.active then do
      let (results, store) ← submitEach py startedAt context batch store
      return (some {
        parentDiscoveryId := parentId
        created := countStatus .created results
        duplicates := countStatus .duplicate results
        rejected := countStatus .rejected results
        results := results }, store)
    else .error (inactiveSource context.sourceId)

/-- `request_review`: the open task, and whether it is new. -/
def requestReview (discoveryId : DiscoveryId) (reason : String) (priority : ℤ)
    (answers : LinkAnswers) (store : IntakeStore) :
    Except PyErr ((Option TaskId × Bool) × IntakeStore) := do
  let (inserted, store) ← store.insertTask answers.taskId discoveryId reason priority answers.now
  match inserted with
  | none => return ((store.liveTask discoveryId, false), store)
  | some taskId => do
    let store ← store.insertJob answers.jobId "prepare_review" (IntakeStore.prepareKey taskId)
      (IntakeStore.taskPayload taskId)
    return ((some taskId, true), store)

end ScholarshipFinder
