import ScholarshipFinder.Infra.Publication

/-!
# The correction route (`api/routes.py`, `update_cycle_route`)

A partial update: a field that the request does not name is read back out of storage, one
that it names as `null` is cleared, and the facts go through `build_cycle_facts` again.
-/

namespace ScholarshipFinder

/-- A field of a partial update: left out, sent as `null`, or sent with a value. -/
inductive Change (α : Type)
  | omitted
  | null
  | value (a : α)
deriving DecidableEq, Repr

namespace Change

variable {α β : Type}

/-- The field was sent, with a value or as `null`. -/
def named : Change α → Bool
  | omitted => false
  | _ => true

/-- `changes.get(key, stored)` for a nullable field. -/
def orStored (c : Change α) (stored : Option α) : Option α :=
  match c with
  | omitted => stored
  | null => none
  | value a => some a

/-- `inputs.update({key: changes[key]})` for a field kept as JSON. -/
def orStoredJson (c : Change α) (toJson : α → Json) (stored : Json) : Json :=
  match c with
  | omitted => stored
  | null => .null
  | value a => toJson a

/-- `str(changes.get(key, stored))` -/
def newUrl (c : Change String) (stored : String) : String :=
  match c with
  | omitted => stored
  | null => "None"
  | value url => url

/-- `PublicStatus(status) if status else cycle.public_status`: a `null` leaves the status alone. -/
def newStatus (c : Change PublicStatus) (stored : PublicStatus) : PublicStatus :=
  match c with
  | value status => status
  | _ => stored

end Change

/-- The body of a correction, as `UpdateCycleRequest` validates it. -/
structure UpdateCycleRequest where
  providerCycleKey : Change String := .omitted
  applicantSegment : Change String := .omitted
  officialCycleUrl : Change String := .omitted
  publicStatus : Change PublicStatus := .omitted
  statusValidUntil : Change Instant := .omitted
  lastVerifiedAt : Change Instant := .omitted
  destinations : Change (List String) := .omitted
  levels : Change (List String) := .omitted
  originMode : Change String := .omitted
  origins : Change (List String) := .omitted
  fieldMode : Change String := .omitted
  fields : Change (List String) := .omitted
  programmeNames : Change (List String) := .omitted
  evidenceFresh : Change Bool := .omitted
  deadlineAt : Change DateTime := .omitted
  deadlinePrecision : Change String := .omitted
  deadlineTimezone : Change String := .omitted
  eligibilityNote : Change String := .omitted
  expectedReopenMonth : Change ℤ := .omitted
  fundingType : Change String := .omitted

/-- The request names no field at all. -/
def UpdateCycleRequest.isEmpty (c : UpdateCycleRequest) : Bool :=
  !(c.providerCycleKey.named || c.applicantSegment.named || c.officialCycleUrl.named ||
    c.publicStatus.named || c.statusValidUntil.named || c.lastVerifiedAt.named ||
    c.destinations.named || c.levels.named || c.originMode.named || c.origins.named ||
    c.fieldMode.named || c.fields.named || c.programmeNames.named || c.evidenceFresh.named ||
    c.deadlineAt.named || c.deadlinePrecision.named || c.deadlineTimezone.named ||
    c.eligibilityNote.named || c.expectedReopenMonth.named || c.fundingType.named)

/-- `inputs.update(...)` with the fields of the request that live in `facts`. -/
def CycleInputs.update (x : CycleInputs) (c : UpdateCycleRequest) : CycleInputs where
  destinations := c.destinations.orStored x.destinations
  levels := c.levels.orStored x.levels
  originMode := c.originMode.orStoredJson .str x.originMode
  origins := c.origins.orStored x.origins
  fieldMode := c.fieldMode.orStoredJson .str x.fieldMode
  fields := c.fields.orStored x.fields
  evidenceFresh := c.evidenceFresh.orStoredJson .bool x.evidenceFresh
  deadlineAt := c.deadlineAt.orStored x.deadlineAt
  deadlinePrecision := c.deadlinePrecision.orStoredJson .str x.deadlinePrecision
  deadlineTimezone := c.deadlineTimezone.orStoredJson .str x.deadlineTimezone
  eligibilityNote := c.eligibilityNote.orStoredJson .str x.eligibilityNote
  expectedReopenMonth := c.expectedReopenMonth.orStoredJson .int x.expectedReopenMonth
  fieldNames := x.fieldNames
  programmeNames := c.programmeNames.orStored x.programmeNames
  fundingType := c.fundingType.orStoredJson .str x.fundingType

/-- What a request raises: an HTTP error of the route, or an exception it does not handle. -/
inductive RouteErr
  | http (status : ℕ) (detail : String)
  | unhandled (e : PyErr)
deriving DecidableEq, Repr

/-- The `except` clauses of the route: a `LookupError` answers `lookupStatus` where there is
one, a `ValueError` answers `valueStatus`. -/
def mapErr {α : Type} (lookupStatus : Option ℕ) (valueStatus : ℕ) (result : Except PyErr α) :
    Except RouteErr α :=
  match result with
  | .ok a => .ok a
  | .error e =>
    match e.cls, lookupStatus with
    | .valueError, _ => .error (.http valueStatus e.msg)
    | .lookupError, some status => .error (.http status e.msg)
    | _, _ => .error (.unhandled e)

/-- The text of a `str` column after `changes.get(key, stored)`; an explicit `null` would be
stored as SQL NULL, which the column refuses. -/
def requireText (c : Change String) (stored : String) : Except RouteErr String :=
  match c with
  | .omitted => .ok stored
  | .null => .error (.unhandled ⟨.integrityError, "null value violates not-null constraint"⟩)
  | .value s => .ok s

variable (py : Py)

/-- Correct one already-published cycle in place. -/
def updateCycleRoute (countries : CountryVocabulary) (scholarshipId : ScholarshipId)
    (cycleId : CycleId) (changes : UpdateCycleRequest) (db : Db) : Except RouteErr Db := do
  if changes.isEmpty then .error (.http 422 "No fields to update")
  let cycle ← mapErr (some 404) 409 (loadCycleForUpdate scholarshipId cycleId db)
  let facts ← mapErr none 422 do
    let inputs ← cycleFactsToInputs py cycle.facts.orEmpty
    buildCycleFacts py countries (inputs.update changes)
  let providerCycleKey ← requireText changes.providerCycleKey cycle.providerCycleKey
  let applicantSegment ← requireText changes.applicantSegment cycle.applicantSegment
  mapErr none 409 (updateCycle cycleId cycle
    { providerCycleKey := providerCycleKey
      applicantSegment := applicantSegment
      officialCycleUrl := changes.officialCycleUrl.newUrl cycle.officialCycleUrl
      publicStatus := changes.publicStatus.newStatus cycle.publicStatus
      facts := facts
      statusValidUntil := changes.statusValidUntil.orStored cycle.statusValidUntil
      lastVerifiedAt := changes.lastVerifiedAt.orStored cycle.lastVerifiedAt } db)

/-! ## What an accepted correction writes -/

variable {py}

lemma mapErr_ok {α : Type} {lookupStatus : Option ℕ} {valueStatus : ℕ} {result : Except PyErr α}
    {a : α} (h : mapErr lookupStatus valueStatus result = .ok a) : result = .ok a := by
  unfold mapErr at h
  split at h
  · next b => exact congrArg Except.ok (Except.ok.inj h)
  · split at h <;> cases h

/-- An accepted correction assigns the columns of one row, of a scholarship that is not
withdrawn. -/
theorem updateCycleRoute_ok {countries : CountryVocabulary} {scholarshipId : ScholarshipId}
    {cycleId : CycleId} {changes : UpdateCycleRequest} {db db' : Db}
    (h : updateCycleRoute py countries scholarshipId cycleId changes db = .ok db') :
    ∃ (row : ScholarshipCycle) (columns : CycleColumns),
      db.cycles.row cycleId = some row ∧ row.scholarshipId = scholarshipId ∧
      (∃ s, db.scholarships.row scholarshipId = some s ∧ s.lifecycleState ≠ .withdrawn) ∧
      db' = { db with cycles := db.cycles.modify cycleId columns.assign } ∧
      columns.officialCycleUrl = changes.officialCycleUrl.newUrl row.officialCycleUrl ∧
      columns.publicStatus = changes.publicStatus.newStatus row.publicStatus ∧
      columns.statusValidUntil = changes.statusValidUntil.orStored row.statusValidUntil ∧
      columns.lastVerifiedAt = changes.lastVerifiedAt.orStored row.lastVerifiedAt := by
  rw [updateCycleRoute] at h
  split at h
  · cases h
  obtain ⟨row, hload, h⟩ := exceptBind_ok h
  obtain ⟨facts, -, h⟩ := exceptBind_ok h
  obtain ⟨key, -, h⟩ := exceptBind_ok h
  obtain ⟨segment, -, h⟩ := exceptBind_ok h
  obtain ⟨hrow, hid, hstate⟩ := loadCycleForUpdate_ok (mapErr_ok hload)
  exact ⟨row, _, hrow, hid, hstate, updateCycle_ok (mapErr_ok h), rfl, rfl, rfl, rfl⟩

/-- The facts that an accepted correction stores. -/
theorem updateCycleRoute_facts {countries : CountryVocabulary} {scholarshipId : ScholarshipId}
    {cycleId : CycleId} {changes : UpdateCycleRequest} {db db' : Db} {row : ScholarshipCycle}
    (h : updateCycleRoute py countries scholarshipId cycleId changes db = .ok db')
    (hrow : db.cycles.row cycleId = some row) :
    ∃ row' inputs, db'.cycles.row cycleId = some row' ∧
      cycleFactsToInputs py row.facts.orEmpty = .ok inputs ∧
      buildCycleFacts py countries (inputs.update changes) = .ok row'.facts := by
  rw [updateCycleRoute] at h
  split at h
  · cases h
  obtain ⟨loaded, hload, h⟩ := exceptBind_ok h
  obtain ⟨facts, hfacts, h⟩ := exceptBind_ok h
  obtain ⟨key, -, h⟩ := exceptBind_ok h
  obtain ⟨segment, -, h⟩ := exceptBind_ok h
  obtain ⟨inputs, hinputs, hbuild⟩ := exceptBind_ok (mapErr_ok hfacts)
  have hloaded : loaded = row := by
    have hfound := (loadCycleForUpdate_ok (mapErr_ok hload)).1
    rw [hrow] at hfound
    exact (Option.some.inj hfound).symm
  rw [hloaded] at hinputs
  obtain ⟨columns, hcolumns, hupdate⟩ : ∃ columns : CycleColumns, columns.facts = facts ∧
      updateCycle cycleId loaded columns db = .ok db' := ⟨_, rfl, mapErr_ok h⟩
  refine ⟨columns.assign row, inputs, ?_, hinputs, ?_⟩
  · rw [updateCycle_ok hupdate, Lib.Table.row_modify_self, hrow, Option.map_some]
  · show buildCycleFacts py countries (inputs.update changes) = .ok columns.facts
    rw [hcolumns, hbuild]

end ScholarshipFinder
