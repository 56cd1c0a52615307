import ScholarshipFinder.Core.Config
import ScholarshipFinder.Domain.Models

/-!
# Fetching and persisting a page (`infra/source_persistence.py`)

A fetch goes to the page directly first, and through the fallback reader when that fails or
is answered with an error status.  Whatever comes back is hashed and stored on the page
row.  `reserve_call` and the persisting of the page commit the session they run in, so the
functions here carry both what is committed and what the session holds.
-/

namespace ScholarshipFinder

/-- A database session: the committed database, and the database as the session sees it
with its own uncommitted writes. -/
structure Tx where
  committed : Db
  current : Db

namespace Tx

/-- A session that has just begun. -/
def start (db : Db) : Tx := ⟨db, db⟩

def commit (tx : Tx) : Tx := ⟨tx.current, tx.current⟩

def write (tx : Tx) (f : Db → Db) : Tx := ⟨tx.committed, f tx.current⟩

end Tx

structure FetchedSource where
  url : String
  statusCode : ℕ
  content : List UInt8
  contentType : String
deriving DecidableEq, Repr

/-- What the network and the clock answer during one `fetch_and_persist_page` call:
`fetch_source`, `fetch_via_jina`, and the two reads of the clock. -/
structure Fetch where
  direct : Except PyErr FetchedSource
  jina : Except PyErr String
  reservedAt : Instant
  completedAt : Instant

/-- Reserve one call against a provider's budget of the calendar month.  The session is
committed whether or not the budget had room. -/
def reserveCall (provider : String) (limit : ℤ) (now : Instant) (tx : Tx) : Bool × Tx :=
  let key := (provider, yearMonth now)
  match tx.current.usage.row key with
  | none =>
    (true, (tx.write fun db => { db with usage := db.usage.insert key 1 }).commit)
  | some used =>
    if (used : ℤ) < limit then
      (true, (tx.write fun db => { db with usage := db.usage.insert key (used + 1) }).commit)
    else (false, tx.commit)

/-- The fallback fetch: `None` when the reader is not configured, over budget or fails. -/
def tryJinaFallback (settings : Settings) (url : String) (fetch : Fetch) (tx : Tx) :
    Except PyErr (Option FetchedSource) × Tx :=
  match settings.jinaApiKey with
  | none => (.ok none, tx)
  | some apiKey =>
    if apiKey = "" then (.ok none, tx)
    else
      match reserveCall "jina" settings.jinaMonthlyCallLimit fetch.reservedAt tx with
      | (false, tx) => (.ok none, tx)
      | (true, tx) =>
        match fetch.jina with
        | .ok text => (.ok (some ⟨url, 200, text.toUTF8.toList, "text/markdown"⟩), tx)
        | .error e => (if e.cls = .httpError then .ok none else .error e, tx)

/-- The direct fetch, or the fallback on a transport failure or an error status, with the
name of the extractor that got the content. -/
def fetchWithJinaFallback (settings : Settings) (url : String) (fetch : Fetch) (tx : Tx) :
    Except PyErr (FetchedSource × String) × Tx :=
  match fetch.direct with
  | .error e =>
    if e.cls = .httpError then
      match tryJinaFallback settings url fetch tx with
      | (.error e', tx) => (.error e', tx)
      | (.ok none, tx) => (.error e, tx)
      | (.ok (some fallback), tx) => (.ok (fallback, "jina-reader-v1"), tx)
    else (.error e, tx)
  | .ok fetched =>
    if 400 ≤ fetched.statusCode then
      match tryJinaFallback settings url fetch tx with
      | (.error e', tx) => (.error e', tx)
      | (.ok none, tx) => (.ok (fetched, "raw-v1"), tx)
      | (.ok (some fallback), tx) => (.ok (fallback, "jina-reader-v1"), tx)
    else (.ok (fetched, "raw-v1"), tx)

/-- Whether a status is one that `fetch_and_persist_page` counts as a success. -/
def successStatus (status : ℕ) : Bool := 200 ≤ status ∧ status < 400

/-- What a completed fetch writes on the page row. -/
def SourcePage.persist (py : Py) (fetched : FetchedSource) (now : Instant) (page : SourcePage) :
    SourcePage :=
  { page with
    lastAttemptedAt := some now
    lastSuccessfulFetchAt :=
      if successStatus fetched.statusCode then some now else page.lastSuccessfulFetchAt
    httpStatus := some fetched.statusCode
    finalUrl := some fetched.url
    normalizedContentHash := some (py.sha256 fetched.content) }

/-- Fetch one approved page and persist an immutable snapshot. -/
def fetchAndPersistPage (py : Py) (settings : Settings) (pageId : PageId) (fetch : Fetch)
    (tx : Tx) : Except PyErr Unit × Tx :=
  match tx.current.pages.row pageId with
  | none => (lookupError "Source page not found", tx)
  | some page =>
    if (tx.current.sources.row page.sourceId).any (·.active) then
      match fetchWithJinaFallback settings page.normalizedUrl fetch tx with
      | (.error e, tx) => (.error e, tx)
      | (.ok (fetched, extractorVersion), tx) =>
        let snapshot : SourceSnapshot :=
          { pageId := pageId
            fetchedAt := fetch.completedAt
            contentHash := py.sha256 fetched.content
            extractorVersion := extractorVersion
            contentType := fetched.contentType
            byteLength := fetched.content.length }
        (.ok (), (tx.write fun db => { db with
          pages := db.pages.modify pageId (SourcePage.persist py fetched fetch.completedAt)
          snapshots := db.snapshots ++ [snapshot] }).commit)
    else (valueError "Source is inactive or missing", tx)

end ScholarshipFinder
