import ScholarshipFinder.Infra.Intake

/-!
# Importing a feed (`infra/ingestion.py`)

An import is one transaction.  Every row of the feed is repeated, makes a new discovery, or is
quarantined, and the crawl run counts them.  The rows that the import inserts have one creation
time, that of the transaction, so the newest revision of a page need not be the last one inserted.
The jobs are also sent to the queue, which changes nothing in the database.
-/

namespace ScholarshipFinder

open Lib

structure FeedRecord where
  sourceId : SourceId
  url : String
  title : String
  excerpt : Option String
  sourcePostedAt : Option Instant := none
  feedCreatedAt : Option Instant := none
deriving DecidableEq, Repr

structure ImportOutcome where
  crawlRunId : CrawlRunId
  imported : ℕ
  repeated : ℕ
  changed : ℕ
  rejected : ℕ
deriving DecidableEq, Repr

/-- What the import is answered while it handles one record. -/
structure RecordAnswers where
  now : Instant
  /-- The row that the database answers among the newest. -/
  headChoice : ℕ
  pageId : PageId
  discoveryId : DiscoveryId
  normalizeJobId : JobId
  linkJobId : JobId
deriving DecidableEq, Repr

/-- The buckets that the docstring names. -/
inductive Bucket
  | imported
  | repeated
  | changed
  | rejected
deriving DecidableEq, Repr

/-- The four counters. -/
structure ImportCounts where
  imported : ℕ := 0
  repeated : ℕ := 0
  changed : ℕ := 0
  rejected : ℕ := 0
deriving DecidableEq, Repr

def ImportCounts.add (counts : ImportCounts) : Bucket → ImportCounts
  | .imported => { counts with imported := counts.imported + 1 }
  | .repeated => { counts with repeated := counts.repeated + 1 }
  | .changed => { counts with changed := counts.changed + 1 }
  | .rejected => { counts with rejected := counts.rejected + 1 }

namespace IntakeStore

/-- The discoveries of a page that were not split from another, in the order of their insertion. -/
def revisions (store : IntakeStore) (pageId : PageId) : List DiscoveryId :=
  store.discovered.discoveries.keys.filter fun id =>
    (store.discovery id).any fun d => d.sourcePageId = pageId && d.splitFromDiscoveryId = none

/-- `Discovery.created_at` -/
def createdAt (store : IntakeStore) (id : DiscoveryId) : Option Instant :=
  (store.discovery id).map (·.createdAt)

/-- The newest revision of a page; among several the database chooses. -/
def headRevision (store : IntakeStore) (pageId : PageId) (choice : ℕ) : Option DiscoveryId :=
  pick (fun id => (store.createdAt id).getD 0) choice (store.revisions pageId)

end IntakeStore

variable (py : IntakePy)

/-- `_quarantine` -/
def quarantineRow (runId : CrawlRunId) (record : FeedRecord) (rawUrl reason : String) :
    DiscoveryQuarantine where
  crawlRunId := runId
  sourceId := record.sourceId
  rawUrl := rawUrl
  rawTitle := record.title
  rawExcerpt := record.excerpt
  reason := reason

/-- The insert of a quarantined row. -/
def insertQuarantine (row : DiscoveryQuarantine) (store : IntakeStore) :
    Except PyErr IntakeStore :=
  if row.rawTitle.length ≤ textLimit ∧ py.storesText row.rawTitle ∧ py.storesText row.rawUrl ∧
      row.rawExcerpt.all py.storesText then
    .ok { store with quarantine := store.quarantine ++ [row] }
  else refused

/-- The discovery that a record makes. -/
def importedDiscovery (runId : CrawlRunId) (startedAt : Instant) (record : FeedRecord)
    (candidate : DiscoveryCandidate) (pageId : PageId) (head : Option DiscoveryId) :
    Discovery where
  sourcePageId := pageId
  crawlRunId := some runId
  contentHash := candidate.contentHash
  rawTitle := some candidate.title
  rawExcerpt := candidate.excerpt
  sourcePostedAt := record.sourcePostedAt
  feedCreatedAt := record.feedCreatedAt
  normalizedIdentityKey :=
    some (normalizeDiscovery py.toPyText py.toUnicodeText candidate.title).identityKey
  processingState := .normalized
  supersedesDiscoveryId := head
  canonicalScholarshipId := none
  extractedFacts := none
  splitFromDiscoveryId := none
  autoReviewEvaluatedAt := none
  createdAt := startedAt

/-- An accepted record, whose page is known. -/
def importContent (runId : CrawlRunId) (startedAt : Instant) (record : FeedRecord)
    (candidate : DiscoveryCandidate) (answers : RecordAnswers) (pageId : PageId)
    (store : IntakeStore) : Except PyErr (Bucket × IntakeStore) :=
  match store.findContent pageId candidate.contentHash with
  | some _ => .ok (.repeated, store)
  | none => do
    let head := store.headRevision pageId answers.headChoice
    let store ← store.addDiscovery py answers.discoveryId
      (importedDiscovery py runId startedAt record candidate pageId head)
      (normalizeDiscovery py.toPyText py.toUnicodeText candidate.title).identityKey
      answers.normalizeJobId answers.linkJobId
    return (if head.isSome then .changed else .imported, store)

/-- One record. -/
def importRecord (runId : CrawlRunId) (startedAt : Instant) (record : FeedRecord)
    (answers : RecordAnswers) (store : IntakeStore) : Except PyErr (Bucket × IntakeStore) :=
  match prepareCandidate py.toPy record.url record.title record.excerpt with
  | .error e =>
    if e.cls = .valueError then do
      let store ← insertQuarantine py (quarantineRow runId record record.url "invalid_url") store
      return (.rejected, store)
    else .error e
  | .ok candidate =>
    if (store.discovered.db.sources.row record.sourceId).any (·.active) then do
      let (pageId, store) ← store.seePage py answers.pageId record.sourceId candidate.normalizedUrl
        answers.now
      importContent py runId startedAt record candidate answers pageId store
    else do
      let store ← insertQuarantine py
        (quarantineRow runId record candidate.normalizedUrl "unknown_or_inactive_source") store
      return (.rejected, store)

/-- The loop over the records, up to the first that raises. -/
def importRecords (runId : CrawlRunId) (startedAt : Instant) :
    List (FeedRecord × RecordAnswers) → ImportCounts → IntakeStore →
      Option PyErr × ImportCounts × IntakeStore
  | [], counts, store => (none, counts, store)
  | (record, answers) :: batch, counts, store =>
    match importRecord py runId startedAt record answers store with
    | .error e => (some e, counts, store)
    | .ok (bucket, store) => importRecords runId startedAt batch (counts.add bucket) store

/-- A crawl run as an import starts it. -/
def startedRun (startedAt : Instant) (records : List FeedRecord) : CrawlRun where
  kind := "import_feed"
  scope := {
    recordCount := records.length
    sourceIds := (records.map (·.sourceId)).dedup.insertionSort (· ≤ ·) }
  startedAt := startedAt

/-- What the `except` and `finally` clauses make of the crawl run. -/
def CrawlRun.finish (run : CrawlRun) (raised : Option PyErr) (counts : ImportCounts)
    (now : Instant) : CrawlRun :=
  { run with
    state := if raised.isSome then .failed else .completed
    lastError := raised.map fun e => String.ofList (e.msg.toList.take 1000)
    finishedAt := some now
    importedCount := counts.imported
    repeatedCount := counts.repeated
    changedCount := counts.changed
    rejectedCount := counts.rejected }

/-- The `finally` clause. -/
def IntakeStore.finishRun (store : IntakeStore) (runId : CrawlRunId) (raised : Option PyErr)
    (counts : ImportCounts) (now : Instant) : IntakeStore :=
  { store with crawlRuns := store.crawlRuns.modify runId fun run => run.finish raised counts now }

/-- The crawl run of an import, before the first record. -/
def IntakeStore.startRun (store : IntakeStore) (runId : CrawlRunId) (startedAt : Instant)
    (records : List FeedRecord) : IntakeStore :=
  { store with crawlRuns := store.crawlRuns.insert runId (startedRun startedAt records) }

/-- One batch of feed rows, with what the import is answered for each of them.  An error of the
database leaves the session without a transaction to commit. -/
def importFeedRecords (runId : CrawlRunId) (startedAt finishedAt : Instant)
    (batch : List (FeedRecord × RecordAnswers)) (store : IntakeStore) :
    Except PyErr ImportOutcome × IntakeStore :=
  if (store.crawlRuns.row runId).isSome then (refused, store)
  else
    let started := store.startRun runId startedAt (batch.map Prod.fst)
    let (raised, counts, worked) := importRecords py runId startedAt batch {} started
    let finished := worked.finishRun runId raised counts finishedAt
    match raised with
    | some e => (.error e, if e.isDatabase then store else finished)
    | none =>
      (.ok ⟨runId, counts.imported, counts.repeated, counts.changed, counts.rejected⟩, finished)

variable {py} {runId : CrawlRunId} {startedAt finishedAt : Instant}
  {batch : List (FeedRecord × RecordAnswers)} {store worked : IntakeStore} {counts : ImportCounts}

/-- An import whose loop has ended. -/
lemma importFeedRecords_of_ended (hfree : store.crawlRuns.row runId = none)
    (hloop : importRecords py runId startedAt batch {}
      (store.startRun runId startedAt (batch.map Prod.fst)) = (none, counts, worked)) :
    importFeedRecords py runId startedAt finishedAt batch store =
      (.ok ⟨runId, counts.imported, counts.repeated, counts.changed, counts.rejected⟩,
        worked.finishRun runId none counts finishedAt) := by
  rw [importFeedRecords, if_neg (by simp [hfree])]
  simp only [hloop]

/-- An import whose loop has raised. -/
lemma importFeedRecords_of_raised {e : PyErr} (hfree : store.crawlRuns.row runId = none)
    (hloop : importRecords py runId startedAt batch {}
      (store.startRun runId startedAt (batch.map Prod.fst)) = (some e, counts, worked)) :
    importFeedRecords py runId startedAt finishedAt batch store =
      (.error e,
        if e.isDatabase then store else worked.finishRun runId (some e) counts finishedAt) := by
  rw [importFeedRecords, if_neg (by simp [hfree])]
  simp only [hloop]

/-- An import under a key that is taken. -/
lemma importFeedRecords_of_taken (htaken : store.crawlRuns.row runId ≠ none) :
    importFeedRecords py runId startedAt finishedAt batch store = (refused, store) := by
  rw [importFeedRecords, if_pos (Option.isSome_iff_ne_none.mpr htaken)]

end ScholarshipFinder
