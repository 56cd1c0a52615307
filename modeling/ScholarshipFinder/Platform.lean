import ScholarshipFinder.Countries.Vocabulary
import ScholarshipFinder.Infra.Administration
import ScholarshipFinder.Infra.AgentRuns
import ScholarshipFinder.Infra.Ingestion
import ScholarshipFinder.Infra.PrepareReview
import ScholarshipFinder.Infra.ReviewSessions

/-!
# The platform

The operations over one database, from the import of a record to the correction of a published
cycle.  A step is a transaction, or an operation that commits its rows one by one and depends on
nothing that it has read before.  The workers are in the middle of an attempt or of a sweep, whose
sessions outlive their transactions; anything may come between two of these.

The operations of one step that is refused leave the database as it was.  The transactions of a
sweep write the tables that other parts refer to, so their commit is subject to the foreign keys.
-/

namespace ScholarshipFinder

open Lib

/-- The database. -/
structure PlatformStore extends AgentStore where
  evidence : EvidenceTable
  countries : Mirror

/-- What a worker holds between two transactions. -/
structure PlatformWorker where
  attempt : AttemptStage
  sweep : Session

abbrev Platform := Pool ℕ PlatformStore PlatformWorker

/-- Python, the settings, and what the columns of the tables take. -/
structure PlatformConfig where
  py : IntakePy
  settings : Settings
  approval : ApprovalSettings
  countryColumns : CountryColumns
  evidenceColumns : EvidenceKey × DiscoveryEvidence → Bool

inductive PlatformStep
  /-- `import_feed_records` -/
  | importFeed (runId : CrawlRunId) (startedAt finishedAt : Instant)
      (batch : List (FeedRecord × RecordAnswers))
  /-- `submit_candidates` -/
  | submit (startedAt : Instant) (parentId : DiscoveryId)
      (batch : List (CandidateSubmission × CandidateAnswers))
  /-- `attach_evidence` -/
  | attach (discoveryId : DiscoveryId) (payload : EvidenceSubmissionRequest)
  /-- `record_run` -/
  | recordRun (payload : AgentRunRequest) (runId : RunId) (now : Instant)
  /-- `request_review` -/
  | request (discoveryId : DiscoveryId) (reason : String) (priority : ℤ) (answers : LinkAnswers)
  /-- `_normalize_discovery` -/
  | normalize (discoveryId : DiscoveryId)
  /-- `link_discovery` -/
  | link (discoveryId : DiscoveryId) (answers : LinkAnswers)
  /-- `_prepare_review` -/
  | prepare (taskId : TaskId)
  /-- `decide_review`, in a session of its own -/
  | decide (scholarshipId : ScholarshipId) (taskId : TaskId) (request : ReviewDecisionRequest)
  /-- A transaction of `attempt_auto_approval`. -/
  | attempt (worker : ℕ) (step : AttemptStep) (answers : AttemptAnswers)
  /-- `publish_cycle` -/
  | publish (args : PublishArgs) (now : Instant)
  /-- `update_cycle_route` -/
  | correct (scholarshipId : ScholarshipId) (cycleId : CycleId) (changes : UpdateCycleRequest)
  /-- `withdraw_scholarship` -/
  | withdraw (scholarshipId : ScholarshipId)
  /-- `refresh_due_statuses` -/
  | refresh (limit : Option ℕ) (now : Instant)
  /-- The scan of `reverify_due_cycles`. -/
  | scan (worker : ℕ)
  /-- The first transaction of a turn of its loop. -/
  | startTurn (worker : ℕ) (sourceId : SourceId) (now : Instant) (cycleId : CycleId) (fetch : Fetch)
  /-- The next transaction of the turn. -/
  | resumeTurn (worker : ℕ)
  /-- The process of a worker ends. -/
  | stop (worker : ℕ)
  /-- `sync_countries` -/
  | sync (sync : CountrySync)
  /-- `create_source` -/
  | createSource (sourceId : SourceId) (request : SourceCreateRequest)
  /-- `update_source_domains` -/
  | updateDomains (sourceId : SourceId) (approvedDomains : List String)
  /-- `deactivate_source` -/
  | deactivate (sourceId : SourceId)
  /-- `create_provider` -/
  | createProvider (providerId : ProviderId) (request : ProviderCreateRequest)

/-- The rows that an operation leaves, which may have raised. -/
def orKept {ε α : Type} (result : Except ε α) (kept : α) : α :=
  match result with
  | .ok a => a
  | .error _ => kept

/-! ## The foreign keys of the pages -/

/-- Pages refer to sources, and discoveries to pages. -/
def DiscoveryStore.Admits (store : DiscoveryStore) (db : Db) : Prop :=
  (∀ id ∈ db.pages.keys, ∀ page ∈ db.pages.row id, (db.sources.row page.sourceId).isSome) ∧
    ∀ id ∈ store.discoveries.keys, ∀ d ∈ store.discoveries.row id,
      (db.pages.row d.sourcePageId).isSome

instance (store : DiscoveryStore) (db : Db) : Decidable (store.Admits db) :=
  inferInstanceAs (Decidable (_ ∧ _))

namespace DiscoveryStore

variable {store : DiscoveryStore} {db : Db}

/-- A database whose foreign keys hold. -/
def commit (store : DiscoveryStore) (db : Db) (h : store.Admits db) : DiscoveryStore where
  db := db
  discoveries := store.discoveries
  page_source := fun id page hrow =>
    h.1 id ((db.pages.mem_keys id).mpr (by rw [hrow]; rfl)) page hrow
  discovery_page := fun id d hrow =>
    h.2 id ((store.discoveries.mem_keys id).mpr (by rw [hrow]; rfl)) d hrow

end DiscoveryStore

namespace PlatformStore

/-- `load_vocabulary` -/
def vocabulary (store : PlatformStore) : CountryVocabulary :=
  loadVocabulary supportedDestinations store.countries

def withIntake (store : PlatformStore) (intake : IntakeStore) : PlatformStore :=
  { store with toAgentStore := { store.toAgentStore with toIntakeStore := intake } }

def withReview (store : PlatformStore) (review : ReviewStore) : PlatformStore :=
  store.withIntake { store.toIntakeStore with toReviewStore := review }

def withDiscovered (store : PlatformStore) (discovered : DiscoveryStore) : PlatformStore :=
  store.withReview { store.toReviewStore with discovered := discovered }

/-- Commit a database, if its foreign keys hold. -/
def commitDb (store : PlatformStore) (db : Db) : PlatformStore :=
  if h : store.discovered.Admits db then store.withDiscovered (store.discovered.commit db h)
  else store

/-- Commit a transaction of a sweep.  If the database refuses it, the session is expired. -/
def commitTurn (store : PlatformStore) (turn : Session × Db) : Session × PlatformStore :=
  if h : store.discovered.Admits turn.2 then
    (turn.1, store.withDiscovered (store.discovered.commit turn.2 h))
  else (Session.fresh, store)

end PlatformStore

/-! ## The steps -/

variable (cfg : PlatformConfig)

/-- The step of a request or a job. -/
def operate (store : PlatformStore) : PlatformStep → PlatformStore
  | .importFeed runId startedAt finishedAt batch =>
    store.withIntake
      (importFeedRecords cfg.py runId startedAt finishedAt batch store.toIntakeStore).2
  | .submit startedAt parentId batch =>
    store.withIntake (orKept
      ((submitCandidates cfg.py startedAt parentId batch store.toIntakeStore).map Prod.snd)
      store.toIntakeStore)
  | .attach discoveryId payload =>
    let attached := attachEvidence cfg.evidenceColumns store.toIntakeStore discoveryId payload
      store.evidence
    { store with evidence := orKept (attached.map Prod.snd) store.evidence }
  | .recordRun payload runId now =>
    let recorded := store.toAgentStore.recordRun payload runId now
    { store with toAgentStore := orKept recorded store.toAgentStore }
  | .request discoveryId reason priority answers =>
    store.withIntake (orKept
      ((requestReview discoveryId reason priority answers store.toIntakeStore).map Prod.snd)
      store.toIntakeStore)
  | .normalize discoveryId =>
    store.withIntake
      (orKept (store.toIntakeStore.normalizeJob cfg.py discoveryId) store.toIntakeStore)
  | .link discoveryId answers =>
    store.withIntake (store.toIntakeStore.linkDiscovery cfg.py discoveryId answers).2
  | .prepare taskId =>
    store.withIntake (orKept
      (store.toIntakeStore.prepareReview cfg.py store.vocabulary.names taskId)
      store.toIntakeStore)
  | .decide scholarshipId taskId request =>
    store.withReview (orKept
      ((decideRequest cfg.py.toApprovalPy scholarshipId taskId request
        store.toReviewStore).map Prod.snd) store.toReviewStore)
  | .publish args now => store.commitDb (orKept (publishCycle args now store.discovered.db)
      store.discovered.db)
  | .correct scholarshipId cycleId changes =>
    store.commitDb (orKept (updateCycleRoute cfg.py.toPy store.vocabulary scholarshipId cycleId
      changes store.discovered.db) store.discovered.db)
  | .withdraw scholarshipId =>
    store.commitDb (orKept (withdrawScholarship scholarshipId store.discovered.db)
      store.discovered.db)
  | .refresh limit now =>
    store.commitDb (refreshDueStatuses cfg.py.toPy cfg.settings limit now store.discovered.db).2
  | .sync sync =>
    let synced := syncStep cfg.py.toPy cfg.countryColumns supportedDestinations store.countries sync
    { store with countries := synced }
  | .createSource sourceId request =>
    store.withReview (orKept (store.toReviewStore.createSource cfg.py.toPy sourceId request)
      store.toReviewStore)
  | .updateDomains sourceId approvedDomains =>
    store.withReview (orKept
      (store.toReviewStore.updateSourceDomains cfg.py.toPy sourceId approvedDomains)
      store.toReviewStore)
  | .deactivate sourceId =>
    store.withReview (orKept (store.toReviewStore.deactivateSource sourceId) store.toReviewStore)
  | .createProvider providerId request =>
    store.withReview (orKept
      (store.toReviewStore.createProvider cfg.py.toPy store.vocabulary providerId request)
      store.toReviewStore)
  | _ => store

/-- A transaction of an attempt, which reads the countries as they are then. -/
def workAttempt (step : AttemptStep) (answers : AttemptAnswers) (worker : PlatformWorker)
    (store : PlatformStore) : PlatformWorker × PlatformStore :=
  let (stage, review) := attemptStep cfg.py.toApprovalPy cfg.approval
    { answers with countries := store.vocabulary } step worker.attempt store.toReviewStore
  ({ worker with attempt := stage }, store.withReview review)

/-- A transaction of a sweep. -/
def workSweep (turn : Session → Db → Session × Db) (worker : PlatformWorker)
    (store : PlatformStore) : PlatformWorker × PlatformStore :=
  let (session, store) := store.commitTurn (turn worker.sweep store.discovered.db)
  ({ worker with sweep := session }, store)

/-- A turn begins where none is in progress. -/
def beginTurn (sourceId : SourceId) (now : Instant) (cycleId : CycleId) (fetch : Fetch)
    (session : Session) (db : Db) : Session × Db :=
  match session.stage with
  | .idle => session.startTurn cfg.py.toPy cfg.settings sourceId now cycleId fetch db
  | _ => (session, db)

/-- One step of the platform. -/
def platformStep (p : Platform) : PlatformStep → Platform
  | .attempt worker step answers => p.stepAt worker (workAttempt cfg step answers)
  | .scan worker => p.stepAt worker (workSweep fun session db => (session.scan db, db))
  | .startTurn worker sourceId now cycleId fetch =>
    p.stepAt worker (workSweep (beginTurn cfg sourceId now cycleId fetch))
  | .resumeTurn worker =>
    p.stepAt worker (workSweep fun session db => session.resumeTurn cfg.py.toPy cfg.settings db)
  | .stop worker => p.stepAt worker fun _ store => (⟨.idle, Session.fresh⟩, store)
  | step => { p with shared := operate cfg p.shared step }

end ScholarshipFinder
