import ScholarshipFinder.Domain.Urls
import ScholarshipFinder.Infra.Refresh
import ScholarshipFinder.Infra.SourcePersistence

/-!
# The reverification job (`infra/freshness.py`)

`reverifyDueCycles` fetches the official page of each due cycle again and compares its
content hash with the one stored on the page.  The sweep first scans for the due cycles and
then handles them one by one, each under its own commit or rollback; `recheckCycle` is one
turn of that loop.
-/

namespace ScholarshipFinder

open Lib

/-- `OFFICIAL_SOURCE_NAME` -/
def officialSourceName : String := "Official Cycle Pages"

/-- `_PUBLISHED_CYCLE_SCAN_LIMIT` -/
def publishedCycleScanLimit : ℕ := 5000

/-- What `_reverify_one_cycle` answers. -/
inductive Outcome
  | renewed
  | flagged
  | deferred
deriving DecidableEq, Repr

/-- Open a review task for a cycle, unless one is open already. -/
def openCycleReviewTask (cycleId : CycleId) (reason : String) (draft : Json) (db : Db) : Db :=
  if db.tasks.any fun task => task.cycleId = some cycleId && task.live then db
  else { db with tasks := db.tasks ++ [⟨some cycleId, reason, .opened, none, draft⟩] }

variable (py : Py)

/-- The page `reverify_due` fetches for a cycle: the one the cycle already points to, or the
page of its official URL, which is created and remembered on the cycle. -/
def getOrCreateSourcePage (sourceId : SourceId) (cycleId : CycleId) (cycle : ScholarshipCycle)
    (db : Db) : Except PyErr (PageId × SourcePage × Db) :=
  match cycle.sourcePageId.bind fun pageId => (db.pages.row pageId).map (pageId, ·) with
  | some (pageId, existing) => .ok (pageId, existing, db)
  | none => do
    let normalizedUrl ← canonicalizeUrl py cycle.officialCycleUrl
    let link := fun (pageId : PageId) (db : Db) =>
      { db with cycles := db.cycles.modify cycleId fun row =>
          { row with sourcePageId := some pageId } }
    let found := db.pages.findKey fun page =>
      page.sourceId = sourceId && page.normalizedUrl = normalizedUrl
    match found.bind fun pageId => (db.pages.row pageId).map (pageId, ·) with
    | some (pageId, page) => return (pageId, page, link pageId db)
    | none =>
      let page : SourcePage := ⟨sourceId, normalizedUrl, none, none, none, none, none, none⟩
      let pageId := db.pages.nextKey
      return (pageId, page, link pageId { db with pages := db.pages.insert pageId page })

/-- The fetch of `_reverify_one_cycle`, that is the body of its `try`: the page fetched and
the hash stored on it before. -/
def fetchOfficialPage (settings : Settings) (sourceId : SourceId) (cycleId : CycleId)
    (cycle : ScholarshipCycle) (fetch : Fetch) (tx : Tx) :
    Except PyErr (PageId × Option String) × Tx :=
  match getOrCreateSourcePage py sourceId cycleId cycle tx.current with
  | .error e => (.error e, tx)
  | .ok (pageId, page, db) =>
    match py.urlsplit page.normalizedUrl with
    | .error e => (.error e, { tx with current := db })
    | .ok _ =>
      match fetchAndPersistPage py settings pageId fetch { tx with current := db } with
      | (.error e, tx) => (.error e, tx)
      | (.ok (), tx) => (.ok (pageId, page.normalizedContentHash), tx)

/-- Escalate a failed or first-ever fetch only once the evidence age has elapsed. -/
def deferOrFlag (cfg : FreshnessConfig) (now : Instant) (cycleId : CycleId)
    (cycle : ScholarshipCycle) (reason : String) (db : Db) : Except PyErr (Outcome × Db) := do
  let derived ← deriveFacts py cycle.facts.orEmpty
  let bucket ← classifyCycle py cycle derived now cfg
  let evidence ← evidenceDeadline cycle bucket cfg
  if now < evidence then return (.deferred, db)
  return (.flagged, openCycleReviewTask cycleId reason (.obj [
    ("cycle_id", .str (toString cycleId)),
    ("official_cycle_url", .str cycle.officialCycleUrl)]) db)

/-- What an unchanged recheck writes on the row of the cycle: the time of the renewal, and
the restored status if the cycle, as the session holds it, was downgraded automatically. -/
def renewRow (now : Instant) (cycle row : ScholarshipCycle) : ScholarshipCycle :=
  if cycle.publicStatus = .statusUnknown ∧ cycle.autoDowngraded then
    { row with
      lastVerifiedAt := some now, publicStatus := .openVerified, autoDowngraded := false }
  else { row with lastVerifiedAt := some now }

/-- The part of `_reverify_one_cycle` after the fetch, on the page as refreshed. -/
def compareHashes (cfg : FreshnessConfig) (now : Instant) (cycleId : CycleId)
    (cycle : ScholarshipCycle) (previousHash : Option String) (page : SourcePage) (db : Db) :
    Except PyErr (Outcome × Db) :=
  let status := page.httpStatus.getD 0
  match previousHash, page.normalizedContentHash, successStatus status with
  | some previous, some new, true => do
    let derived ← deriveFacts py cycle.facts.orEmpty
    let cutoff ← derived.deadline.cutoff py
    let deadlineStillValid := cutoff.all (now < ·)
    if isUnchangedRecheck previousHash new status deadlineStillValid then
      return (.renewed, { db with cycles := db.cycles.modify cycleId (renewRow now cycle) })
    if previous ≠ new then
      return (.flagged, openCycleReviewTask cycleId "reverify_content_changed" (.obj [
        ("cycle_id", .str (toString cycleId)),
        ("official_cycle_url", .str cycle.officialCycleUrl),
        ("previous_content_hash", .str previous),
        ("new_content_hash", .str new)]) db)
    return (.deferred, db)
  | _, newHash, ok =>
    let reason := if newHash.isSome && ok then "reverify_first_observation"
      else "reverify_link_unreachable"
    deferOrFlag py cfg now cycleId cycle reason db

/-- Reverify one cycle, as the session holds it. -/
def reverifyOneCycle (settings : Settings) (sourceId : SourceId) (now : Instant)
    (cycleId : CycleId) (cycle : ScholarshipCycle) (fetch : Fetch) (tx : Tx) :
    Except PyErr Outcome × Tx :=
  let cfg := freshnessConfig settings
  let settle : Except PyErr (Outcome × Db) → Tx → Except PyErr Outcome × Tx := fun result tx =>
    match result with
    | .error e => (.error e, tx)
    | .ok (outcome, db) => (.ok outcome, { tx with current := db })
  match fetchOfficialPage py settings sourceId cycleId cycle fetch tx with
  | (.error _, tx) =>
    settle (deferOrFlag py cfg now cycleId cycle "reverify_fetch_failed" tx.current) tx
  | (.ok (pageId, previousHash), tx) =>
    match tx.current.pages.row pageId with
    | none => (lookupError "Could not refresh instance", tx)
    | some page => settle (compareHashes py cfg now cycleId cycle previousHash page tx.current) tx

/-- How one turn of the sweep's loop ended. -/
inductive Turn
  | skipped
  | failed
  | done (outcome : Outcome)
deriving DecidableEq, Repr

/-- One turn of the sweep's loop: reload the cycle if it is still published, reverify it,
and commit, or roll back if that raised. -/
def recheckCycle (settings : Settings) (sourceId : SourceId) (now : Instant) (cycleId : CycleId)
    (fetch : Fetch) (db : Db) : Turn × Db :=
  match db.cycles.row cycleId with
  | none => (.skipped, db)
  | some cycle =>
    if db.isPublished cycle then
      match reverifyOneCycle py settings sourceId now cycleId cycle fetch (Tx.start db) with
      | (.error _, tx) => (.failed, tx.committed)
      | (.ok outcome, tx) => (.done outcome, tx.current)
    else (.skipped, db)

/-! ## The sweep -/

/-- Whether a cycle is due at `now`. -/
def cycleIsDue (cfg : FreshnessConfig) (now : Instant) (cycle : ScholarshipCycle) :
    Except PyErr Bool := do
  let derived ← deriveFacts py cycle.facts.orEmpty
  let bucket ← classifyCycle py cycle derived now cfg
  isReverifyDue bucket cycle.lastVerifiedAt now cfg

/-- The scan for due cycles, which stops once it has `batchLimit` of them. -/
def scanDue (cfg : FreshnessConfig) (now : Instant) (batchLimit : ℕ) (db : Db) :
    List CycleId → List CycleId → Except PyErr (List CycleId)
  | [], due => .ok due
  | cycleId :: rest, due => do
    let isDue ← match db.cycles.row cycleId with
      | none => pure false
      | some cycle => cycleIsDue py cfg now cycle
    let due := if isDue then due ++ [cycleId] else due
    if batchLimit ≤ due.length then return due
    scanDue cfg now batchLimit db rest due

structure ReverifyCounts where
  checked : ℕ
  renewed : ℕ
  flagged : ℕ
  deferred : ℕ
deriving DecidableEq, Repr

/-- Count one turn of the loop. -/
def ReverifyCounts.add (counts : ReverifyCounts) : Turn → ReverifyCounts
  | .skipped => counts
  | .failed => { counts with checked := counts.checked + 1 }
  | .done .renewed =>
    { counts with checked := counts.checked + 1, renewed := counts.renewed + 1 }
  | .done .flagged =>
    { counts with checked := counts.checked + 1, flagged := counts.flagged + 1 }
  | .done .deferred =>
    { counts with checked := counts.checked + 1, deferred := counts.deferred + 1 }

/-- The source that official pages belong to, if it is there and active. -/
def officialSource (db : Db) : Option SourceId :=
  (db.sources.findKey fun source => source.name = officialSourceName).filter fun sourceId =>
    (db.sources.row sourceId).any (·.active)

/-- Re-fetch each due cycle's official page; `fetches` is what the network answers for each
cycle during this sweep. -/
def reverifyDueCycles (settings : Settings) (limit : Option ℕ) (now : Instant)
    (fetches : CycleId → Fetch) (db : Db) : Except PyErr ReverifyCounts × Db :=
  match officialSource db with
  | none => (.ok ⟨0, 0, 0, 0⟩, db)
  | some sourceId =>
    match scanDue py (freshnessConfig settings) now
        (limit.getD settings.reverifyDueBatchLimit) db
        (publishedCycles db publishedCycleScanLimit) [] with
    | .error e => (.error e, db)
    | .ok due =>
      let (counts, db) := due.foldl (fun (counts, db) cycleId =>
        let (turn, db) := recheckCycle py settings sourceId now cycleId (fetches cycleId) db
        (counts.add turn, db)) (⟨0, 0, 0, 0⟩, db)
      (.ok counts, db)

end ScholarshipFinder
