import ScholarshipFinder.Domain.Harvest
import ScholarshipFinder.Infra.Countries
import ScholarshipFinder.Infra.Ingestion
import ScholarshipFinder.Infra.ResearchBudget

/-!
# Harvesting (`_map_and_append` and its callers in `infra/worker.py`)

The items of all sources are mapped one after the other.  An exception that mapping one of them
raises either skips the item or ends the whole run, and then nothing of the run is imported.  A call
that fails is skipped.
-/

namespace ScholarshipFinder

open Lib

variable (py : HarvestPy)

/-- `FeedRecord(...)`, with `HttpUrl(mapped.url)` before it. -/
def feedRecord (sourceId : SourceId) (mapped : HarvestedRecord) : Except PyErr FeedRecord := do
  let url ← py.httpUrl mapped.url
  if mapped.title.length < 1 then valueError "String should have at least 1 character"
  else if 500 < mapped.title.length then valueError "String should have at most 500 characters"
  else if mapped.excerpt.any (5000 < ·.length) then
    valueError "String should have at most 5000 characters"
  else
    return {
      sourceId := sourceId
      url := url
      title := mapped.title
      excerpt := mapped.excerpt
      feedCreatedAt := mapped.feedCreatedAt }

/-- The record of one item, if it has one. -/
def mappedRecord (sourceId : SourceId) (raw : Json) (api : HarvestApi) (harvestedAt : Instant) :
    Except PyErr (Option FeedRecord) := do
  match ← api.toRecord py raw harvestedAt with
  | none => return none
  | some mapped => return some (← feedRecord py sourceId mapped)

/-- The classes that `_map_and_append` catches. -/
def harvestErrors : List ExcClass := [.valueError, .overflowError, .osError]

/-- `_map_and_append` -/
def mapAndAppend (records : List FeedRecord) (sourceId : SourceId) (raw : Json) (api : HarvestApi)
    (harvestedAt : Instant) : Except PyErr (Bool × List FeedRecord) :=
  match mappedRecord py sourceId raw api harvestedAt with
  | .ok none => .ok (false, records)
  | .ok (some record) => .ok (true, records ++ [record])
  | .error e => if e.cls ∈ harvestErrors then .ok (false, records) else .error e

/-- An item that was fetched, for the source it is harvested for. -/
structure HarvestItem where
  sourceId : SourceId
  api : HarvestApi
  raw : Json

/-- The body of the loops over what was fetched, on `skipped` and `records`. -/
def harvestStep (harvestedAt : Instant) (state : ℕ × List FeedRecord) (item : HarvestItem) :
    Except PyErr (ℕ × List FeedRecord) := do
  let (appended, records) ← mapAndAppend py state.2 item.sourceId item.raw item.api harvestedAt
  return (state.1 + if appended then 0 else 1, records)

/-- How many items were skipped, and the records of the others. -/
def harvestItems (harvestedAt : Instant) (items : List HarvestItem) :
    Except PyErr (ℕ × List FeedRecord) :=
  items.foldlM (harvestStep py harvestedAt) (0, [])

/-! ## The marketplace -/

/-- The columns of a source that its harvests write. -/
structure HarvestHealth where
  consecutiveHarvestFailures : ℕ := 0
  lastHarvestFailureAt : Option Instant := none
deriving DecidableEq, Repr

/-- `_update_harvest_health` -/
def updateHarvestHealth (health : HarvestHealth) (attempts failures : ℕ) (now : Instant) :
    HarvestHealth :=
  if attempts = 0 then health
  else if failures < attempts then { health with consecutiveHarvestFailures := 0 }
  else ⟨health.consecutiveHarvestFailures + 1, some now⟩

/-- A call of the client of the marketplace. -/
inductive HarvestCall
  | scholarshipportal (destination studyLevel : String)
  | phdscanner (destination : String)
  | mastersportal (destination : String)
  | opportunitydesk
  | fastwebFeatured
  | fastwebByMajor (major : String)
  | careeronestop
deriving DecidableEq, Repr

/-- An interface, with the name of its source and its calls in the order of a run. -/
structure HarvestFeed where
  api : HarvestApi
  sourceName : String
  calls : List HarvestCall

/-- The interfaces of `_harvest_parsebot`.  The majors are an enumeration of the client. -/
def parsebotFeeds (majors : List String) : List HarvestFeed :=
  let destinations := sortedSet supportedDestinations
  [⟨.scholarshipportal, "ScholarshipPortal (via Parse.bot)",
      destinations.flatMap fun destination =>
        ["master", "phd"].map (.scholarshipportal destination)⟩,
    ⟨.phdscanner, "PhDScanner (via Parse.bot)", destinations.map .phdscanner⟩,
    ⟨.mastersportal, "Mastersportal (via Parse.bot)", destinations.map .mastersportal⟩,
    ⟨.opportunitydesk, "Opportunity Desk (via Parse.bot)", [.opportunitydesk]⟩,
    ⟨.fastweb, "Fastweb (via Parse.bot)", .fastwebFeatured :: majors.map .fastwebByMajor⟩,
    ⟨.careeronestop, "CareerOneStop (via Parse.bot)", [.careeronestop]⟩]

/-- The first active source of a name. -/
def activeSource (db : Db) (name : String) : Option SourceId :=
  db.sources.findKey fun source => source.name = name && source.active

/-- The interfaces whose sources are active. -/
def activeFeeds (db : Db) (feeds : List HarvestFeed) : List (SourceId × HarvestFeed) :=
  feeds.filterMap fun feed => (activeSource db feed.sourceName).map (·, feed)

/-- One call, on the attempts and failures of its source and on what was harvested. -/
def harvestCall (fetch : HarvestCall → Except PyErr (List Json)) (harvestedAt : Instant)
    (sourceId : SourceId) (api : HarvestApi) (state : (ℕ × ℕ) × ℕ × List FeedRecord)
    (call : HarvestCall) : Except PyErr ((ℕ × ℕ) × ℕ × List FeedRecord) :=
  match fetch call with
  | .error _ => .ok ((state.1.1 + 1, state.1.2 + 1), state.2)
  | .ok rawItems => do
    let found ← rawItems.foldlM (fun found raw => harvestStep py harvestedAt found
      ⟨sourceId, api, raw⟩) state.2
    return ((state.1.1 + 1, state.1.2), found)

/-- The loops over the calls of all sources, up to the first that raises. -/
def harvestFeeds (fetch : HarvestCall → Except PyErr (List Json)) (harvestedAt : Instant) :
    List (SourceId × HarvestFeed) → ℕ × List FeedRecord → (SourceId → HarvestHealth) →
      Except PyErr (ℕ × List FeedRecord) × (SourceId → HarvestHealth)
  | [], found, health => (.ok found, health)
  | (sourceId, feed) :: feeds, found, health =>
    match feed.calls.foldlM (harvestCall py fetch harvestedAt sourceId feed.api)
        ((0, 0), found) with
    | .error e => (.error e, health)
    | .ok ((attempts, failures), found) =>
      harvestFeeds fetch harvestedAt feeds found (Function.update health sourceId
        (updateHarvestHealth (health sourceId) attempts failures harvestedAt))

/-- The database, with the health of the sources. -/
structure HarvestStore extends IntakeStore where
  health : SourceId → HarvestHealth

/-- What an import of harvested records is answered. -/
structure ImportAnswers where
  runId : CrawlRunId
  startedAt : Instant
  finishedAt : Instant
  record : ℕ → RecordAnswers

/-- The records with what the import is answered for each of them. -/
def ImportAnswers.batch (answers : ImportAnswers) (records : List FeedRecord) :
    List (FeedRecord × RecordAnswers) :=
  records.zipIdx.map fun (record, n) => (record, answers.record n)

/-- `import_feed_records`, of what was harvested. -/
def importHarvest (intakePy : IntakePy) (answers : ImportAnswers) (records : List FeedRecord)
    (store : IntakeStore) : Except PyErr ImportOutcome × IntakeStore :=
  importFeedRecords intakePy answers.runId answers.startedAt answers.finishedAt
    (answers.batch records) store

/-- `_harvest_parsebot`, with the sources as `seen` has them.  The import commits what it writes, or
the failing of the job does where it raises; an error of the database leaves nothing to commit. -/
def harvestParsebot (intakePy : IntakePy) (majors : List String)
    (fetch : HarvestCall → Except PyErr (List Json)) (harvestedAt : Instant)
    (answers : ImportAnswers) (seen : Db) (store : HarvestStore) :
    Except PyErr (Option ImportOutcome) × HarvestStore :=
  let feeds := activeFeeds seen (parsebotFeeds majors)
  if feeds.isEmpty then (.ok none, store)
  else
    match harvestFeeds py fetch harvestedAt feeds (0, []) store.health with
    | (.error e, health) => (.error e, { store with health := health })
    | (.ok (_, []), health) => (.ok none, { store with health := health })
    | (.ok (_, records), health) =>
      match importHarvest intakePy answers records store.toIntakeStore with
      | (.error e, intake) => (.error e, ⟨intake, if e.isDatabase then store.health else health⟩)
      | (.ok outcome, intake) => (.ok (some outcome), ⟨intake, health⟩)

/-! ## The web search -/

/-- `_TAVILY_QUERY_TEMPLATES`, for a country -/
def tavilyTemplates (country : String) : List String :=
  ["graduate scholarships " ++ country ++ " international students",
    "PhD scholarships " ++ country ++ " international students"]

/-- The queries of a run. -/
def tavilyQueries : List String :=
  (sortedSet supportedDestinations).flatMap fun destination =>
    tavilyTemplates ((seedCountries.lookup destination).getD destination)

/-- What one query is answered: the clock of `reserve_call`, the results, and what the calls of
others have made of the budgets since the last query. -/
structure SearchAnswers where
  now : Instant
  others : Table UsageKey ℕ → Table UsageKey ℕ
  results : Except PyErr (List Json)

/-- The loops over the destinations and the templates, which both end at the first call that is
refused: what is harvested then, or the exception, and the budgets. -/
def searchQueries (limit : ℤ) (sourceId : SourceId) (harvestedAt : Instant) :
    List (String × SearchAnswers) → ℕ × List FeedRecord → Table UsageKey ℕ →
      Except PyErr (ℕ × List FeedRecord) × Table UsageKey ℕ
  | [], found, usage => (.ok found, usage)
  | (_, answers) :: queries, found, usage =>
    match reserveStatement ("tavily", yearMonth answers.now) limit (answers.others usage) with
    | (false, usage) => (.ok found, usage)
    | (true, usage) =>
      match answers.results with
      | .error e =>
        if e.cls = .httpError then searchQueries limit sourceId harvestedAt queries found usage
        else (.error e, usage)
      | .ok rawItems =>
        match rawItems.foldlM (fun found raw => harvestStep py harvestedAt found
            ⟨sourceId, .tavily, raw⟩) found with
        | .error e => (.error e, usage)
        | .ok found => searchQueries limit sourceId harvestedAt queries found usage

/-- The budgets after the calls of a run. -/
def IntakeStore.withUsage (store : IntakeStore) (usage : Table UsageKey ℕ) : IntakeStore :=
  { store with discovered := { store.discovered with
      db := { store.discovered.db with usage := usage } } }

/-- `_harvest_tavily`, with the sources as `seen` has them. -/
def harvestTavily (intakePy : IntakePy) (apiKey : Option String) (limit : ℤ)
    (search : ℕ → SearchAnswers) (harvestedAt : Instant) (answers : ImportAnswers) (seen : Db)
    (store : IntakeStore) : Except PyErr (Option ImportOutcome) × IntakeStore :=
  match activeSource seen "Tavily Web Search" with
  | none => (.ok none, store)
  | some sourceId =>
    if apiKey.getD "" = "" then (.ok none, store)
    else
      let queries := tavilyQueries.zipIdx.map fun (query, n) => (query, search n)
      match searchQueries py limit sourceId harvestedAt queries (0, [])
          store.discovered.db.usage with
      | (.error e, usage) => (.error e, store.withUsage usage)
      | (.ok (_, []), usage) => (.ok none, store.withUsage usage)
      | (.ok (_, records), usage) =>
        let (result, intake) := importHarvest intakePy answers records (store.withUsage usage)
        (result.map some, intake)

/-- What the runtime raises for a number that is no time, and for a text that is no address. -/
structure HarvestPy.HarvestLaws (py : HarvestPy) : Prop where
  fromtimestamp : ∀ value e, py.fromtimestamp value = .error e → e.cls ∈ harvestErrors
  httpUrl : ∀ url e, py.httpUrl url = .error e → e.cls = .valueError

end ScholarshipFinder
