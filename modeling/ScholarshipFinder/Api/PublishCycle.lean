import ScholarshipFinder.Api.UpdateCycle
import ScholarshipFinder.Facts.Sanitised
import ScholarshipFinder.Infra.FactsColumn
import ScholarshipFinder.Infra.PublishEvent

/-!
# Publishing and correcting through the routes (`api/routes.py`, `api/review_schemas.py`)

The bodies that the two requests admit, and what the routes make of them down to the flush of the
session.  A request that raises is rolled back; a `ValueError` or a `LookupError` is answered with
a status, and anything else is an unhandled error.
-/

namespace ScholarshipFinder

open Lib

/-- What is decided outside the repository: which texts are URLs to pydantic, and which texts and
timestamps the database stores (no text with a NUL character, for one). -/
structure Boundary where
  isHttpUrl : String → Bool
  storesText : String → Bool
  storesTimestamp : Instant → Bool

/-! ## The bodies -/

variable (boundary : Boundary) (py : Py)

/-- The `Field` bounds of the facts in `PublishCycleRequest`.  Lists that are not sent are empty,
and a timestamp is one that `fromisoformat` reads back. -/
structure CycleArguments.WithinBounds (a : CycleArguments) : Prop where
  destinations : 1 ≤ a.destinations.length ∧ a.destinations.length ≤ 20
  levels : 1 ≤ a.levels.length ∧ a.levels.length ≤ 10
  origins : a.origins.length ≤ 250
  fields : a.fields.length ≤ 50
  fieldNames : ∃ names, a.fieldNames = some names ∧ names.length ≤ 20
  programmeNames : ∃ names, a.programmeNames = some names ∧ names.length ≤ 20
  eligibilityNote : ∀ note ∈ a.eligibilityNote, note.length ≤ 1000
  fundingType : ∀ code ∈ a.fundingType, code.length ≤ 30
  deadlineAt : ∀ deadlineAt ∈ a.deadlineAt, py.ReadsBack deadlineAt

structure PublishCycleRequest where
  providerCycleKey : String
  applicantSegment : String
  officialCycleUrl : String
  publicStatus : PublicStatus
  statusValidUntil : Option Instant
  lastVerifiedAt : Option Instant
  arguments : CycleArguments

/-- What `PublishCycleRequest` validates. -/
structure PublishCycleRequest.Admitted (request : PublishCycleRequest) : Prop where
  providerCycleKey : 1 ≤ request.providerCycleKey.length ∧ request.providerCycleKey.length ≤ 255
  applicantSegment : request.applicantSegment.length ≤ 255
  officialCycleUrl : boundary.isHttpUrl request.officialCycleUrl = true
  arguments : request.arguments.WithinBounds py

/-- What `UpdateCycleRequest` validates of the values that are sent. -/
structure UpdateCycleRequest.Admitted (c : UpdateCycleRequest) : Prop where
  providerCycleKey : ∀ key, c.providerCycleKey = .value key → 1 ≤ key.length ∧ key.length ≤ 255
  applicantSegment : ∀ segment, c.applicantSegment = .value segment →
    1 ≤ segment.length ∧ segment.length ≤ 255
  officialCycleUrl : ∀ url, c.officialCycleUrl = .value url → boundary.isHttpUrl url = true
  destinations : ∀ values, c.destinations = .value values →
    1 ≤ values.length ∧ values.length ≤ 20
  levels : ∀ values, c.levels = .value values → 1 ≤ values.length ∧ values.length ≤ 10
  originMode : ∀ text, c.originMode = .value text → ∃ mode : OriginMode, text = mode.value
  origins : ∀ values, c.origins = .value values → values.length ≤ 250
  fieldMode : ∀ text, c.fieldMode = .value text → ∃ mode : FieldMode, text = mode.value
  fields : ∀ values, c.fields = .value values → values.length ≤ 50
  programmeNames : ∀ names, c.programmeNames = .value names → names.length ≤ 20
  deadlineAt : ∀ deadlineAt, c.deadlineAt = .value deadlineAt → py.ReadsBack deadlineAt
  deadlinePrecision : ∀ text, c.deadlinePrecision = .value text →
    ∃ precision : DeadlinePrecision, text = precision.value
  eligibilityNote : ∀ note, c.eligibilityNote = .value note → note.length ≤ 1000
  expectedReopenMonth : ∀ n, c.expectedReopenMonth = .value n → ∃ month : Month, n = month.val
  fundingType : ∀ code, c.fundingType = .value code → code.length ≤ 30

/-! ## The flush -/

/-- The free texts among the facts; the others are codes, labels, modes and timestamps. -/
def factsTexts (facts : Json) : List String :=
  match facts with
  | .obj items =>
    (match items.lookup "eligibility_note" with
      | some (.str note) => [note]
      | _ => []) ++ stringList (items.lookup "programme_names")
  | _ => []

/-- The database stores the row. -/
def Boundary.storesRow (row : ScholarshipCycle) : Bool :=
  boundary.storesText row.providerCycleKey && boundary.storesText row.applicantSegment &&
    boundary.storesText row.officialCycleUrl && row.statusValidUntil.all boundary.storesTimestamp &&
    row.lastVerifiedAt.all boundary.storesTimestamp &&
    (factsTexts row.facts).all boundary.storesText && factsColumnAdmits row.facts

/-- `await db.flush()` after a cycle was written. -/
def flushCycle (cycleId : CycleId) (store : EventStore) : Except PyErr EventStore :=
  if (store.db.cycles.row cycleId).all boundary.storesRow then .ok store
  else .error ⟨.other, "the database refuses the row"⟩

/-! ## The routes -/

/-- The arguments of `publish_cycle` in the route. -/
def PublishCycleRequest.publishArgs (request : PublishCycleRequest) (scholarshipId : ScholarshipId)
    (cycleId : CycleId) (facts : Json) : PublishArgs where
  cycleId := cycleId
  scholarshipId := scholarshipId
  providerCycleKey := request.providerCycleKey
  applicantSegment := request.applicantSegment
  officialCycleUrl := request.officialCycleUrl
  publicStatus := request.publicStatus
  facts := facts
  statusValidUntil := request.statusValidUntil
  lastVerifiedAt := request.lastVerifiedAt

/-- Publish one application cycle, whose row gets the key `cycleId`. -/
def publishRoute (countries : CountryVocabulary) (scholarshipId : ScholarshipId)
    (cycleId : CycleId) (request : PublishCycleRequest) (now : Instant) (store : EventStore) :
    Except RouteErr EventStore := do
  let facts ← mapErr none 422 (buildCycleFacts py countries request.arguments.toInputs)
  mapErr (some 404) 409 do
    let store ← publishWithEvent (request.publishArgs scholarshipId cycleId facts) now store
    flushCycle boundary cycleId store

/-- Correct one published cycle, down to the flush. -/
def correctionRoute (countries : CountryVocabulary) (scholarshipId : ScholarshipId)
    (cycleId : CycleId) (changes : UpdateCycleRequest) (store : EventStore) :
    Except RouteErr EventStore := do
  let db ← updateCycleRoute py countries scholarshipId cycleId changes store.db
  mapErr none 409 (flushCycle boundary cycleId ⟨db, store.outbox⟩)

/-- The requests that write cycles. -/
inductive CycleRequest
  | publish (countries : CountryVocabulary) (scholarshipId : ScholarshipId) (cycleId : CycleId)
      (request : PublishCycleRequest) (now : Instant)
  | correct (countries : CountryVocabulary) (scholarshipId : ScholarshipId) (cycleId : CycleId)
      (changes : UpdateCycleRequest)

def CycleRequest.Admitted : CycleRequest → Prop
  | .publish _ _ _ request _ => request.Admitted boundary py
  | .correct _ _ _ changes => changes.Admitted boundary py

/-- The session commits after a clean response and is rolled back after any other. -/
def committed (store : EventStore) (outcome : Except RouteErr EventStore) : EventStore :=
  outcome.toOption.getD store

/-- One request. -/
def requestStep (store : EventStore) : CycleRequest → EventStore
  | .publish countries scholarshipId cycleId request now =>
    committed store (publishRoute boundary py countries scholarshipId cycleId request now store)
  | .correct countries scholarshipId cycleId changes =>
    committed store (correctionRoute boundary py countries scholarshipId cycleId changes store)

end ScholarshipFinder
