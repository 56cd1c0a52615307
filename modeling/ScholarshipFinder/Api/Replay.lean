import ScholarshipFinder.Api.Search

/-!
# Replayed pages (`api/routes.py`, `api/schemas.py`, `domain/snapshots.py`)

The snapshot of a page is a JSON column.  A replay reads it key by key, and validates what it
finds into the models of the response.
-/

namespace ScholarshipFinder

open Lib

/-! ## Models -/

/-- `SearchResult` (`api/schemas.py`). -/
structure PublicResult where
  scholarshipId : ScholarshipId
  cycleId : CycleId
  name : String
  provider : String
  awardType : String
  status : String
  statusDetail : String
  fit : Fit
  officialUrl : String
  lastVerifiedAt : Option DateTime
  eligibilityNote : Option String
  fieldNames : List String
  fields : List String
  programmeNames : List String
  destinations : List String
  deadlineAt : Option DateTime
  deadlinePrecision : Option DeadlinePrecision
  degreeLevels : List String
  expectedReopenMonth : Option ℤ
  fundingType : Option String
  providerCountry : Option String
  caveats : List String
deriving DecidableEq

/-- A result of a search, as the response shows it. -/
def SearchResult.public (item : SearchResult) : PublicResult where
  scholarshipId := item.scholarshipId
  cycleId := item.cycleId
  name := item.name
  provider := item.provider
  awardType := item.awardType
  status := item.status.value
  statusDetail := item.status.value
  fit := item.fit
  officialUrl := item.officialUrl
  lastVerifiedAt := item.lastVerifiedAt.map fun t => ⟨t, some 0⟩
  eligibilityNote := item.eligibilityNote
  fieldNames := item.fieldNames
  fields := item.fields
  programmeNames := item.programmeNames
  destinations := item.destinations
  deadlineAt := item.deadlineAt
  deadlinePrecision := item.deadlinePrecision
  degreeLevels := item.degreeLevels
  expectedReopenMonth := item.expectedReopenMonth.map fun n : ℕ => (n : ℤ)
  fundingType := item.fundingType
  providerCountry := item.providerCountry
  caveats := item.caveats

/-- `SearchReplayResponse`, with its `ReplaySearchMeta`. -/
structure ReplayedSearch where
  data : List PublicResult
  nextCursor : Option String
  searchId : SearchId
  responseId : ResponseId
  evaluatedAt : Instant
  matchPolicyVersion : String
  taxonomyVersion : String
  confirmedCounts : Option (List (String × ℤ))
  possibleMatchCount : Option ℤ
  warnings : List String
  filters : SearchFilters

/-! ## Validation -/

/-- What pydantic makes of a JSON value in a field of these types. -/
structure PydanticPy where
  uuid : Json → Option ℕ
  datetime : Json → Option DateTime
  int : Json → Option ℤ

variable (pd : PydanticPy)

/-- A `str` field. -/
def validText : Json → Option String
  | .str s => some s
  | _ => none

/-- A `list[str]` field. -/
def validTexts : Json → Option (List String)
  | .arr items => items.mapM validText
  | _ => none

/-- A field that may be `None`. -/
def nullable {α : Type} (valid : Json → Option α) : Json → Option (Option α)
  | .null => some none
  | value => (valid value).map some

/-- `Literal["confirmed", "possible"]` -/
def validFit : Json → Option Fit
  | .str s => if s = "confirmed" then some .confirmed else if s = "possible" then some .possible
    else none
  | _ => none

/-- `Literal["date", "datetime"]` -/
def validPrecision : Json → Option DeadlinePrecision
  | .str s => if s = "date" then some .date else if s = "datetime" then some .datetime else none
  | _ => none

/-- `Field(ge=1, le=12)` -/
def validMonth (value : Json) : Option ℤ := (pd.int value).filter fun n => 1 ≤ n ∧ n ≤ 12

/-- `dict[str, int]` -/
def validCounts : Json → Option (List (String × ℤ))
  | .obj entries => entries.mapM fun entry => (pd.int entry.2).map fun n => (entry.1, n)
  | _ => none

/-- A field without a default. -/
def requiredField {α : Type} (items : List (String × Json)) (key : String)
    (valid : Json → Option α) : Option α :=
  (items.lookup key).bind valid

/-- A field with a default. -/
def defaultedField {α : Type} (items : List (String × Json)) (key : String)
    (valid : Json → Option α) (default : α) : Option α :=
  match items.lookup key with
  | none => some default
  | some value => valid value

/-- The validation of a stored result. -/
def validResult : Json → Option PublicResult
  | .obj items => do
    let scholarshipId ← requiredField items "scholarship_id" pd.uuid
    let cycleId ← requiredField items "cycle_id" pd.uuid
    let name ← requiredField items "name" validText
    let provider ← requiredField items "provider" validText
    let awardType ← requiredField items "award_type" validText
    let status ← requiredField items "status" validText
    let statusDetail ← requiredField items "status_detail" validText
    let fit ← requiredField items "fit" validFit
    let officialUrl ← requiredField items "official_url" validText
    let lastVerifiedAt ← defaultedField items "last_verified_at" (nullable pd.datetime) none
    let eligibilityNote ← defaultedField items "eligibility_note" (nullable validText) none
    let fieldNames ← defaultedField items "field_names" validTexts []
    let fields ← defaultedField items "fields" validTexts []
    let programmeNames ← defaultedField items "programme_names" validTexts []
    let destinations ← defaultedField items "destinations" validTexts []
    let deadlineAt ← defaultedField items "deadline_at" (nullable pd.datetime) none
    let deadlinePrecision ← defaultedField items "deadline_precision" (nullable validPrecision) none
    let degreeLevels ← defaultedField items "degree_levels" validTexts []
    let expectedReopenMonth ←
      defaultedField items "expected_reopen_month" (nullable (validMonth pd)) none
    let fundingType ← defaultedField items "funding_type" (nullable validText) none
    let providerCountry ← defaultedField items "provider_country" (nullable validText) none
    let caveats ← defaultedField items "caveats" validTexts []
    return {
      scholarshipId, cycleId, name, provider, awardType, status, statusDetail, fit, officialUrl,
      lastVerifiedAt, eligibilityNote, fieldNames, fields, programmeNames, destinations,
      deadlineAt, deadlinePrecision, degreeLevels, expectedReopenMonth, fundingType,
      providerCountry, caveats }
  | _ => none

/-! ## The stored JSON -/

variable (py : Py)

/-- What `build_result_snapshot` returns. -/
def ResultSnapshot.toJson (s : ResultSnapshot) : Json :=
  .obj [("schema_version", .str s.schemaVersion), ("data", .arr (s.data.map .obj)),
    ("meta", .obj [
      ("evaluated_at", .str (py.isoformat ⟨s.evaluatedAt, some 0⟩)),
      ("match_policy_version", .str s.matchPolicyVersion),
      ("taxonomy_version", .str s.taxonomyVersion),
      ("total_match_count", .int s.totalMatchCount), ("returned_count", .int s.returnedCount),
      ("warnings", strings s.warnings), ("excluded_fields", strings s.excludedFields),
      ("confirmed_counts",
        .obj (s.confirmedCounts.map fun count => (count.1.value, .int count.2))),
      ("possible_match_count", .int s.possibleMatchCount)]),
    ("pagination", .obj [("page_number", .int s.pageNumber),
      ("requested_limit", .int s.requestedLimit), ("has_next_page", .bool s.hasNextPage)])]

/-- `for item in value` -/
def Json.iterate : Json → Except PyErr (List Json)
  | .arr items => .ok items
  | .obj entries => .ok (entries.map fun entry => .str entry.1)
  | .str s => .ok (s.toList.map fun c => .str (String.singleton c))
  | _ => typeError "object is not iterable"

/-- Why a stored page is not replayed. -/
inductive ReplayError
  | raised (e : PyErr)
  /-- `ValidationError` -/
  | invalid

/-- A value that a model refuses. -/
def validated {α : Type} : Option α → Except ReplayError α
  | some a => .ok a
  | none => .error .invalid

/-- An exception of the code around the models. -/
def raising {α : Type} (result : Except PyErr α) : Except ReplayError α := result.mapError .raised

variable (cp : CursorPy) (settings : SearchSettings)

/-- `uuid.UUID(sid)`, of a member of a set. -/
def uuidOf : Json → Except PyErr ScholarshipId
  | .str text => cp.uuid text
  | .null => typeError "one of the hex, bytes, bytes_le, fields, or int arguments must be given"
  | .arr _ => typeError "unhashable type: 'list'"
  | .obj _ => typeError "unhashable type: 'dict'"
  | _ => .error ⟨.attributeError, "object has no attribute 'replace'"⟩

/-- The texts of the published scholarships among those of these ids. -/
def publishedTexts (db : Db) (ids : List ScholarshipId) : List String :=
  (ids.filter fun id =>
    (db.scholarships.row id).any fun s => s.lifecycleState = .published).map uuidText

/-- `_replay_search`, of the row and of the snapshot that its column holds. -/
def replayStored (responseId : ResponseId) (stored : Search) (snapshot : Json) (db : Db) :
    Except ReplayError ReplayedSearch := do
  let items ← raising ((← raising (snapshot.getItem "data")).iterate)
  let keyed ← raising (items.mapM fun item => do return (item, ← item.getItem "scholarship_id"))
  let scholarshipIds ← raising (keyed.mapM fun pair => uuidOf cp pair.2)
  let published := publishedTexts db scholarshipIds
  let data := (keyed.filter fun pair => published.any fun text => pair.2.eqStr text).map Prod.fst
  let pagination ← raising (snapshot.getItem "pagination")
  let hasNextPage ← raising (pagination.getItem "has_next_page")
  let nextCursor := if hasNextPage.truthy then
    some (encodeCursor cp stored.requestedLimit stored.filterDigest stored.searchId
      stored.requestedLimit settings.cursorSecret)
    else none
  let storedMeta ← raising (snapshot.getItem "meta")
  let confirmedCounts ← raising (storedMeta.get "confirmed_counts")
  let possibleMatchCount ← raising (storedMeta.get "possible_match_count")
  let warnings ← raising (storedMeta.getItem "warnings")
  let confirmedCounts ← validated (nullable (validCounts pd) (confirmedCounts.getD .null))
  let possibleMatchCount ← validated (nullable pd.int (possibleMatchCount.getD .null))
  let warnings ← validated (validTexts warnings)
  let data ← validated (data.mapM (validResult pd))
  return {
    data := data
    nextCursor := nextCursor
    searchId := stored.searchId
    responseId := responseId
    evaluatedAt := stored.evaluatedAt
    matchPolicyVersion := stored.matchPolicyVersion
    taxonomyVersion := stored.taxonomyVersion
    confirmedCounts := confirmedCounts
    possibleMatchCount := possibleMatchCount
    warnings := warnings
    filters := stored.filters }

/-- `get_search`, with the models of the response. -/
def getStoredSearch (call : ReplayCall) (store : SearchStore) : Except RouteErr ReplayedSearch := do
  if ¬ call.allowed then .error (.http 429 "Search replay rate limit exceeded")
  else
    let stored ← findReplay call store
    match replayStored pd cp settings stored.1 stored.2 (stored.2.resultSnapshot.toJson py)
        store.db with
    | .ok response => .ok response
    | .error .invalid => .error searchNotFound
    | .error (.raised e) =>
      if e.cls ∈ [.lookupError, .typeError] then .error searchNotFound else .error (.unhandled e)

end ScholarshipFinder
