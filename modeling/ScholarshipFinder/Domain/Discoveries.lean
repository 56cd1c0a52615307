import ScholarshipFinder.Domain.Corroboration

/-!
# The stored discoveries (`domain/models.py`)

A discovery is one report of an award, on a page of a source.  The foreign keys of the tables are
fields of the store, so that a join over them loses no row.
-/

namespace ScholarshipFinder

open Lib

inductive ProcessingState
  | discovered
  | normalized
  | linked
  | needsReview
  | newCandidate
  | duplicatePending
deriving DecidableEq, Repr

abbrev CrawlRunId := ℕ

structure Discovery where
  sourcePageId : PageId
  rawTitle : Option String
  rawExcerpt : Option String
  processingState : ProcessingState
  normalizedIdentityKey : Option String
  canonicalScholarshipId : Option ScholarshipId
  extractedFacts : Option ExtractedFacts
  /-- Set when the Agent extracted this discovery as one item of a list page. -/
  splitFromDiscoveryId : Option DiscoveryId
  /-- Set once `auto_approve_sweep` has evaluated this discovery. -/
  autoReviewEvaluatedAt : Option Instant
  createdAt : Instant
  crawlRunId : Option CrawlRunId := none
  /-- Of one page, no two discoveries have the same hash. -/
  contentHash : String := ""
  sourcePostedAt : Option Instant := none
  feedCreatedAt : Option Instant := none
  /-- The prior discovery whose content this row revises. -/
  supersedesDiscoveryId : Option DiscoveryId := none
  /-- Set when `link_discovery` finds an earlier discovery of another page with the same key. -/
  duplicateOfDiscoveryId : Option DiscoveryId := none
deriving DecidableEq, Repr

/-- The database with its discoveries. -/
structure DiscoveryStore where
  db : Db
  discoveries : Table DiscoveryId Discovery
  page_source : ∀ id page, db.pages.row id = some page → (db.sources.row page.sourceId).isSome
  discovery_page : ∀ id d, discoveries.row id = some d → (db.pages.row d.sourcePageId).isSome

namespace DiscoveryStore

/-- The source of a page: `Source` joined to `SourcePage`. -/
def sourceOfPage (store : DiscoveryStore) (pageId : PageId) : Option SourceId := do
  let page ← store.db.pages.row pageId
  let _ ← store.db.sources.row page.sourceId
  return page.sourceId

/-- A stored discovery has a source. -/
lemma sourceOfPage_isSome {store : DiscoveryStore} {id : DiscoveryId} {d : Discovery}
    (h : store.discoveries.row id = some d) : (store.sourceOfPage d.sourcePageId).isSome := by
  obtain ⟨page, hpage⟩ := Option.isSome_iff_exists.mp (store.discovery_page id d h)
  obtain ⟨source, hsource⟩ := Option.isSome_iff_exists.mp (store.page_source _ page hpage)
  simp [sourceOfPage, hpage, hsource]

end DiscoveryStore

end ScholarshipFinder
