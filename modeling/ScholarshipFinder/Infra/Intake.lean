import ScholarshipFinder.Domain.Ingestion
import ScholarshipFinder.Domain.Normalization
import ScholarshipFinder.Infra.AutoApproval
import ScholarshipFinder.Infra.Jobs
import ScholarshipFinder.Lib.Newest
import ScholarshipFinder.Lib.Uuid

/-!
# The tables of an intake (`infra/ingestion.py`, `infra/agent_integration.py`)

Imports and submissions write pages, discoveries and jobs in one transaction each.  The keys of the
rows they insert are answered by a generator, and an insert that a constraint does not admit raises
an error of the database, which rolls the transaction back.
-/

namespace ScholarshipFinder

open Lib

/-- Python and the database, with the tables of Unicode. -/
structure IntakePy extends ApprovalPy, UnicodeText where
  /-- `name ILIKE pattern`, which may refuse the pattern -/
  ilike : String → String → Except PyErr Bool

structure CrawlScope where
  recordCount : ℕ
  sourceIds : List SourceId
deriving DecidableEq, Repr

inductive CrawlState
  | running
  | completed
  | failed
deriving DecidableEq, Repr

structure CrawlRun where
  kind : String
  scope : CrawlScope
  state : CrawlState := .running
  startedAt : Instant
  finishedAt : Option Instant := none
  importedCount : ℕ := 0
  repeatedCount : ℕ := 0
  changedCount : ℕ := 0
  rejectedCount : ℕ := 0
  lastError : Option String := none
deriving DecidableEq, Repr

structure DiscoveryQuarantine where
  crawlRunId : CrawlRunId
  sourceId : SourceId
  rawUrl : String
  rawTitle : String
  rawExcerpt : Option String
  reason : String
deriving DecidableEq, Repr

/-- The database with its imports and its jobs. -/
structure IntakeStore extends ReviewStore where
  jobs : Table JobId ProcessingJob
  crawlRuns : Table CrawlRunId CrawlRun
  /-- Oldest first. -/
  quarantine : List DiscoveryQuarantine

/-- An error of the database. -/
def refused {α : Type} : Except PyErr α := .error ⟨.integrityError, "the database refuses the row"⟩

def PyErr.isDatabase (e : PyErr) : Bool := e.cls = .integrityError

/-- `String(500)` -/
def textLimit : ℕ := 500

namespace IntakeStore

/-! ## Pages -/

/-- The page of a source with this URL; there is at most one. -/
def findPage (store : IntakeStore) (sourceId : SourceId) (normalizedUrl : String) :
    Option PageId :=
  store.discovered.db.pages.findKey fun page =>
    page.sourceId = sourceId && page.normalizedUrl = normalizedUrl

/-- `page.last_seen_at = now` -/
def touchPage (store : IntakeStore) (pageId : PageId) (now : Instant) : IntakeStore :=
  { store with discovered := { store.discovered with
      db := { store.discovered.db with
        pages := store.discovered.db.pages.modify pageId fun page =>
          { page with lastSeenAt := some now } }
      page_source := by
        intro id page hrow
        rw [Table.row_modify] at hrow
        split at hrow
        · obtain ⟨stored, hstored, rfl⟩ := Option.map_eq_some_iff.mp hrow
          exact store.discovered.page_source id stored hstored
        · exact store.discovered.page_source id page hrow
      discovery_page := by
        intro id d hrow
        rw [Table.isSome_row_modify]
        exact store.discovered.discovery_page id d hrow } }

/-- The insert of a page. -/
def insertPage (py : IntakePy) (pageId : PageId) (page : SourcePage) (store : IntakeStore) :
    Except PyErr IntakeStore :=
  if h : store.discovered.db.pages.row pageId = none ∧
      (store.discovered.db.sources.row page.sourceId).isSome ∧
      py.storesText page.normalizedUrl then
    .ok { store with discovered := { store.discovered with
      db := { store.discovered.db with pages := store.discovered.db.pages.insert pageId page }
      page_source := by
        intro id stored hrow
        rw [Table.row_insert] at hrow
        split at hrow
        · obtain rfl := Option.some.inj hrow
          exact h.2.1
        · exact store.discovered.page_source id stored hrow
      discovery_page := by
        intro id d hrow
        obtain ⟨stored, hstored⟩ :=
          Option.isSome_iff_exists.mp (store.discovered.discovery_page id d hrow)
        rw [Table.row_insert_of_some h.1 hstored]
        rfl } }
  else refused

/-- The page of a URL, seen at this time.  It is inserted if the source has no such page yet. -/
def seePage (py : IntakePy) (pageId : PageId) (sourceId : SourceId) (normalizedUrl : String)
    (now : Instant) (store : IntakeStore) : Except PyErr (PageId × IntakeStore) :=
  match store.findPage sourceId normalizedUrl with
  | some found => .ok (found, store.touchPage found now)
  | none => do
    let store ← store.insertPage py pageId {
      sourceId := sourceId
      normalizedUrl := normalizedUrl
      normalizedContentHash := none
      lastAttemptedAt := none
      lastSuccessfulFetchAt := none
      httpStatus := none
      finalUrl := none
      lastSeenAt := some now }
    return (pageId, store)

/-! ## Discoveries and jobs -/

/-- The discovery of a page with this content; there is at most one. -/
def findContent (store : IntakeStore) (pageId : PageId) (hash : String) : Option DiscoveryId :=
  store.discovered.discoveries.findKey fun d => d.sourcePageId = pageId && d.contentHash = hash

/-- The columns of a discovery are wide enough, and its texts can be stored. -/
def admitsDiscovery (py : IntakePy) (d : Discovery) : Bool :=
  d.rawTitle.all (fun title => title.length ≤ textLimit && py.storesText title) &&
    d.rawExcerpt.all py.storesText &&
    d.normalizedIdentityKey.all fun key => key.length ≤ textLimit

/-- The insert of a discovery. -/
def insertDiscovery (py : IntakePy) (id : DiscoveryId) (d : Discovery) (store : IntakeStore) :
    Except PyErr IntakeStore :=
  if h : store.discovery id = none ∧ (store.discovered.db.pages.row d.sourcePageId).isSome ∧
      admitsDiscovery py d then
    .ok { store with discovered := { store.discovered with
      discoveries := store.discovered.discoveries.insert id d
      discovery_page := by
        intro j stored hrow
        rw [Table.row_insert] at hrow
        split at hrow
        · obtain rfl := Option.some.inj hrow
          exact h.2.1
        · exact store.discovered.discovery_page j stored hrow } }
  else refused

/-- The insert of a job. -/
def insertJob (jobId : JobId) (kind dedupeKey : String) (payload : Json) (store : IntakeStore) :
    Except PyErr IntakeStore :=
  if store.jobs.row jobId = none ∧
      (store.jobs.findKey fun job => job.dedupeKey = dedupeKey) = none ∧
      dedupeKey.length ≤ textLimit then
    .ok { store with
      jobs := store.jobs.insert jobId { kind := kind, dedupeKey := dedupeKey, payload := payload } }
  else refused

/-- `{"discovery_id": str(discovery_id)}` -/
def discoveryPayload (id : DiscoveryId) : Json := .obj [("discovery_id", .str (uuidText id))]

/-- `f"link:{discovery_id}"` -/
def linkKey (id : DiscoveryId) : String := "link:" ++ uuidText id

/-- `f"normalize:{discovery_id}:{suffix}"` -/
def normalizeKey (id : DiscoveryId) (suffix : String) : String :=
  "normalize:" ++ uuidText id ++ ":" ++ suffix

/-- A discovery with its two jobs, as an import and a submission add it. -/
def addDiscovery (py : IntakePy) (id : DiscoveryId) (d : Discovery) (keySuffix : String)
    (normalizeJobId linkJobId : JobId) (store : IntakeStore) : Except PyErr IntakeStore := do
  let store ← store.insertDiscovery py id d
  let store ← store.insertJob normalizeJobId "normalize_discovery" (normalizeKey id keySuffix)
    (discoveryPayload id)
  store.insertJob linkJobId "link_canonical" (linkKey id) (discoveryPayload id)

end IntakeStore

end ScholarshipFinder
