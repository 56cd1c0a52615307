import ScholarshipFinder.Api.Enqueue
import ScholarshipFinder.Core.Cursors
import ScholarshipFinder.Domain.Matching
import ScholarshipFinder.Infra.Refresh

/-!
# What a search finds (`api/routes.py`, `domain/taxonomy.py`, `domain/snapshots.py`)

The filters of a search, the matches among the published cycles, their ranking, and the copy of
a page that is kept.
-/

namespace ScholarshipFinder

open Lib

variable (py : Py)

/-! ## Filters -/

/-- The normalised filters, as they are stored. -/
structure SearchFilters where
  originCountry : String
  targetCountries : List String
  programLevels : List String
  field : Option String
deriving DecidableEq, Repr

/-- What `normalize_search_filters` answers. -/
structure NormalizedFilters where
  origin : String
  destinations : Finset String
  uncoveredDestinations : Finset String
  degrees : Finset String
  field : Option String
  acceptedFields : Option (Finset String)

/-- `TAXONOMY.field(field) if field else None` -/
def normalizedField : Option String → Except PyErr (Option String)
  | none => .ok none
  | some field => if field = "" then .ok none else (taxonomy.field py field).map some

/-- `normalize_search_filters` -/
def normalizeSearchFilters (originCountry : String) (targetCountries programLevels : List String)
    (field : Option String) (countries : CountryVocabulary) : Except PyErr NormalizedFilters := do
  let origin ← countries.origin py originCountry
  let requested ← targetCountries.mapM (countries.origin py)
  let covered := requested.filter (· ∈ countries.destinations)
  let uncovered := requested.filter (· ∉ countries.destinations)
  let field ← normalizedField py field
  let degrees ← programLevels.mapM (taxonomy.degree py)
  if degrees.isEmpty then valueError "At least one program level is required"
  else
    return {
      origin := origin
      destinations := covered.toFinset
      uncoveredDestinations := uncovered.toFinset
      degrees := degrees.toFinset
      field := field
      acceptedFields := field.map ({·}) }

namespace NormalizedFilters

variable (f : NormalizedFilters)

/-- `SearchProfile(origin, destinations, degrees, accepted_fields)` -/
def profile : SearchProfile := ⟨f.origin, f.destinations, f.degrees, f.acceptedFields⟩

/-- `filters` -/
def filters : SearchFilters :=
  ⟨f.origin, f.destinations.sort (· ≤ ·), f.degrees.sort (· ≤ ·), f.field⟩

/-- The warning about the requested destinations that are not covered. -/
def warnings : List String :=
  if f.uncoveredDestinations = ∅ then []
  else ["no_verified_coverage:" ++ ",".intercalate (f.uncoveredDestinations.sort (· ≤ ·))]

end NormalizedFilters

/-- A text or `None`. -/
def Json.ofText : Option String → Json
  | none => .null
  | some s => .str s

/-- The filters as a JSON object, the keys in their order. -/
def SearchFilters.toJson (f : SearchFilters) : Json :=
  .obj [("field", .ofText f.field), ("origin_country", .str f.originCountry),
    ("program_levels", .arr (f.programLevels.map .str)),
    ("target_countries", .arr (f.targetCountries.map .str))]

/-- `filter_digest` (`infra/sessions.py`) -/
def filterDigest (cp : CursorPy) (filters : SearchFilters) : String :=
  py.sha256 (cp.dumps filters.toJson).toUTF8.toList

/-! ## Results -/

/-- The columns of a cycle, its scholarship and its provider that only search returns. -/
structure PublicColumns where
  name : String
  provider : String
  awardType : String
  providerCountry : Option String
  isAutoApproved : Bool

/-- One public result; `status` and `status_detail` are the same. -/
structure SearchResult where
  scholarshipId : ScholarshipId
  cycleId : CycleId
  name : String
  provider : String
  awardType : String
  status : StatusDetail
  fit : Fit
  officialUrl : String
  lastVerifiedAt : Option Instant
  eligibilityNote : Option String
  fieldNames : List String
  fields : List String
  programmeNames : List String
  destinations : List String
  deadlineAt : Option DateTime
  deadlinePrecision : Option DeadlinePrecision
  degreeLevels : List String
  expectedReopenMonth : Option ℕ
  fundingType : Option String
  providerCountry : Option String
  caveats : List String
deriving DecidableEq

/-- `public_deadline_precision` -/
def DerivedFacts.publicDeadlinePrecision (f : DerivedFacts) : Option DeadlinePrecision :=
  if f.deadlineAt.isSome then some f.deadlinePrecision else none

/-- `_search_result`: one public result, with the status re-derived at read time. -/
def searchResult (cycleId : CycleId) (row : ScholarshipCycle) (columns : PublicColumns)
    (decision : MatchDecision) (evaluatedAt : Instant) :
    Except PyErr (Option SearchResult) := do
  let derived ← deriveFacts py row.facts.orEmpty
  let status ← evaluatePublicStatus py row.publicStatus derived.deadline row.statusValidUntil
    evaluatedAt
  let statusDetail ← evaluateStatusDetail py status derived.deadline evaluatedAt
  if status = .statusUnknown then return none
  else
    return some {
      scholarshipId := row.scholarshipId
      cycleId := cycleId
      name := columns.name
      provider := columns.provider
      awardType := columns.awardType
      status := statusDetail
      fit := decision.fit
      officialUrl := row.officialCycleUrl
      lastVerifiedAt := row.lastVerifiedAt
      eligibilityNote := derived.eligibilityNote
      fieldNames := derived.fieldNames
      fields := derived.fields
      programmeNames := derived.programmeNames
      destinations := derived.destinations
      deadlineAt := derived.deadlineAt
      deadlinePrecision := derived.publicDeadlinePrecision
      degreeLevels := derived.degreeLevels
      expectedReopenMonth := derived.expectedReopenMonth
      fundingType := derived.fundingType
      providerCountry := columns.providerCountry
      caveats := decision.caveats ++
        (if status ≠ row.publicStatus then
          ["Current status evidence requires re-verification."] else []) ++
        if columns.isAutoApproved then
          ["This record was verified through automated evidence review, not direct human review."]
        else [] }

/-! ## Ranking -/

/-- `status_rank.get(item.status, 9)` -/
def statusRank : StatusDetail → ℕ
  | .opened => 0
  | .closingSoon => 1
  | .likelyToOpen => 2
  | .statusUnknown => 9

/-- `_result_sort_value`: the secondary ordering value for the public status bucket. -/
def resultSortValue (item : SearchResult) (evaluatedAt : Instant) : ℕ × String :=
  if item.status = .opened ∨ item.status = .closingSoon then
    match item.deadlineAt with
    | some deadlineAt => (0, py.isoformat deadlineAt)
    | none => (1, "")
  else
    match item.expectedReopenMonth with
    | none => (1, "13")
    | some month => (0, pad2 (((month : ℤ) - (yearMonth evaluatedAt).2) % 12).toNat)

/-- The key that `matched` is sorted by; tuples are compared place by place. -/
abbrev SortKey := ℕ ×ₗ ℕ ×ₗ ℕ ×ₗ String ×ₗ String

def sortKey (evaluatedAt : Instant) (item : SearchResult) : SortKey :=
  let value := resultSortValue py item evaluatedAt
  toLex (if item.fit = .confirmed then 0 else 1, toLex (statusRank item.status,
    toLex (value.1, toLex (value.2, uuidText item.cycleId))))

/-- `matched.sort(key=...)` -/
def rankResults (evaluatedAt : Instant) (matched : List SearchResult) : List SearchResult :=
  matched.insertionSort fun a b => sortKey py evaluatedAt a ≤ sortKey py evaluatedAt b

/-- `PUBLISHED_CYCLE_SCAN_LIMIT` of the routes. -/
def searchScanLimit : ℕ := 2000

/-- One row of the scan. -/
def matchedResult (profile : SearchProfile) (db : Db) (columns : CycleId → PublicColumns)
    (evaluatedAt : Instant) (cycleId : CycleId) : Except PyErr (Option SearchResult) :=
  match db.cycles.row cycleId with
  | none => .ok none
  | some row => do
    match ← evaluateMatch py profile row.facts.orEmpty with
    | none => return none
    | some decision => searchResult py cycleId row (columns cycleId) decision evaluatedAt

/-- The sorted matches among the first published cycles. -/
def sortedMatches (profile : SearchProfile) (db : Db) (columns : CycleId → PublicColumns)
    (evaluatedAt : Instant) : Except PyErr (List SearchResult) := do
  let found ← (publishedCycles db searchScanLimit).mapM
    (matchedResult py profile db columns evaluatedAt)
  return rankResults py evaluatedAt (found.filterMap id)

/-- There are more published cycles than one scan reads. -/
def indexTruncated (db : Db) : Bool :=
  searchScanLimit < (publishedCycles db (searchScanLimit + 1)).length

/-- How many confirmed matches there are of each status, in the order in which they are met. -/
def confirmedCounts (matched : List SearchResult) : List (StatusDetail × ℕ) :=
  let statuses := (matched.filter fun item => item.fit = .confirmed).map (·.status)
  statuses.reverse.dedup.reverse.map fun status => (status, statuses.count status)

/-- How many matches are possible only. -/
def possibleMatchCount (matched : List SearchResult) : ℕ :=
  matched.countP fun item => item.fit = .possible

/-! ## The stored copy of a page -/

def StatusDetail.value : StatusDetail → String
  | closingSoon => "closing_soon"
  | opened => "open"
  | likelyToOpen => "likely_to_open"
  | statusUnknown => "status_unknown"

def Fit.value : Fit → String
  | possible => "possible"
  | confirmed => "confirmed"

/-- `item.model_dump()`, with each value made plain (`_plain`). -/
def SearchResult.plain (item : SearchResult) : List (String × Json) :=
  let texts := fun values : List String => Json.arr (values.map .str)
  [("scholarship_id", .str (uuidText item.scholarshipId)),
    ("cycle_id", .str (uuidText item.cycleId)), ("name", .str item.name),
    ("provider", .str item.provider), ("award_type", .str item.awardType),
    ("status", .str item.status.value), ("status_detail", .str item.status.value),
    ("fit", .str item.fit.value), ("official_url", .str item.officialUrl),
    ("last_verified_at", .ofText (item.lastVerifiedAt.map fun t => py.isoformat ⟨t, some 0⟩)),
    ("eligibility_note", .ofText item.eligibilityNote), ("field_names", texts item.fieldNames),
    ("fields", texts item.fields), ("programme_names", texts item.programmeNames),
    ("destinations", texts item.destinations),
    ("deadline_at", .ofText (item.deadlineAt.map py.isoformat)),
    ("deadline_precision", .ofText (item.deadlinePrecision.map fun
      | .date => "date"
      | .datetime => "datetime")),
    ("degree_levels", texts item.degreeLevels),
    ("expected_reopen_month", (item.expectedReopenMonth.map fun n : ℕ => Json.int n).getD .null),
    ("funding_type", .ofText item.fundingType),
    ("provider_country", .ofText item.providerCountry), ("caveats", texts item.caveats)]

/-- `ALLOWED_RESULT_KEYS` -/
def allowedResultKeys : List String :=
  ["scholarship_id", "cycle_id", "name", "provider", "award_type", "status", "status_detail",
    "fit", "official_url", "last_verified_at", "eligibility_note", "field_names", "fields",
    "programme_names", "destinations", "deadline_at", "deadline_precision", "degree_levels",
    "expected_reopen_month", "funding_type", "provider_country", "caveats"]

/-- A historical copy of one response page. -/
structure ResultSnapshot where
  schemaVersion : String
  data : List (List (String × Json))
  evaluatedAt : Instant
  matchPolicyVersion : String
  taxonomyVersion : String
  totalMatchCount : ℕ
  returnedCount : ℕ
  warnings : List String
  excludedFields : List String
  confirmedCounts : List (StatusDetail × ℕ)
  possibleMatchCount : ℕ
  pageNumber : ℕ
  requestedLimit : ℕ
  hasNextPage : Bool

def snapshotSchemaVersion : String := "snapshot-v3"

/-- `MATCH_POLICY_VERSION` -/
def searchPolicyVersion : String := "match-v2"

/-- `TAXONOMY.version` -/
def searchTaxonomyVersion : String := "taxonomy-v3"

/-- `build_result_snapshot` -/
def buildResultSnapshot (results : List (List (String × Json))) (evaluatedAt : Instant)
    (pageNumber requestedLimit totalMatchCount : ℕ) (hasNextPage : Bool) (warnings : List String)
    (confirmedCounts : List (StatusDetail × ℕ)) (possibleMatchCount : ℕ) : ResultSnapshot where
  schemaVersion := snapshotSchemaVersion
  data := results.map (List.filter fun item => item.1 ∈ allowedResultKeys)
  evaluatedAt := evaluatedAt
  matchPolicyVersion := searchPolicyVersion
  taxonomyVersion := searchTaxonomyVersion
  totalMatchCount := totalMatchCount
  returnedCount := results.length
  warnings := warnings
  excludedFields := sortedSet ((results.flatMap (List.map Prod.fst)).filter
    (· ∉ allowedResultKeys))
  confirmedCounts := confirmedCounts
  possibleMatchCount := possibleMatchCount
  pageNumber := pageNumber
  requestedLimit := requestedLimit
  hasNextPage := hasNextPage

variable {py}

/-- A result has exactly the keys that are kept. -/
lemma keys_plain (item : SearchResult) : (item.plain py).map Prod.fst = allowedResultKeys := rfl

lemma filter_plain (item : SearchResult) :
    (item.plain py).filter (fun entry => entry.1 ∈ allowedResultKeys) = item.plain py := by
  rw [List.filter_eq_self]
  intro entry hentry
  rw [decide_eq_true_eq, ← @keys_plain py item]
  exact List.mem_map_of_mem hentry

end ScholarshipFinder
