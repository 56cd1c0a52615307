import ScholarshipFinder.Domain.Facts

/-!
# Building a cycle's facts (`domain/publication.py`)

`buildCycleFacts` is the one validation path for publishing and for editing;
`cycleFactsToInputs` reads a stored blob back into its arguments.  The arguments that an
edit passes through from storage or from an explicit `null` are untyped, as in the source.
-/

namespace ScholarshipFinder

/-- The keyword arguments of `build_cycle_facts` as an edit builds them. -/
structure CycleInputs where
  destinations : Option (List String)
  levels : Option (List String)
  originMode : Json
  origins : Option (List String)
  fieldMode : Json
  fields : Option (List String)
  evidenceFresh : Json
  deadlineAt : Option DateTime
  deadlinePrecision : Json
  deadlineTimezone : Json
  eligibilityNote : Json
  expectedReopenMonth : Json
  fieldNames : List String
  programmeNames : Option (List String)
  fundingType : Json

variable (py : Py)

/-- `{f(value) for value in values}`: iterating `None` is a TypeError, and the first value
that `f` refuses is raised. -/
def codeSet (f : String → Except PyErr String) (values : Option (List String)) :
    Except PyErr (List String) :=
  match values with
  | none => typeError "'NoneType' object is not iterable"
  | some values => return sortedSet (← values.mapM f)

/-- `ZoneInfo(deadline_timezone)`, unless it is `None`. -/
def checkTimezone : Json → Except PyErr Unit
  | .null => .ok ()
  | .str tz =>
    match py.zoneInfo tz with
    | .ok _ => .ok ()
    | .error e =>
      if e.cls = .zoneInfoNotFoundError then valueError ("Unknown deadline_timezone " ++ tz)
      else .error e
  | _ => typeError "expected str, bytes or os.PathLike object"

/-- `TAXONOMY.funding_type(funding_type)` of a truthy value. -/
def checkFundingType (value : Json) : Except PyErr (List (String × Json)) :=
  if value.truthy then
    match value with
    | .str s => do return [("funding_type", .str (← taxonomy.fundingType py s))]
    | _ => .error ⟨.attributeError, "object has no attribute 'strip'"⟩
  else .ok []

/-- Return the validated, normalised `facts` JSONB for a ScholarshipCycle. -/
def buildCycleFacts (countries : CountryVocabulary) (x : CycleInputs) : Except PyErr Json := do
  let destinations ← codeSet (countries.destination py) x.destinations
  if destinations = [] then valueError "At least one destination is required"
  let levels ← codeSet (taxonomy.degree py) x.levels
  if levels = [] then valueError "At least one degree level is required"
  let origins ← codeSet (countries.origin py) x.origins
  if x.originMode.eqStr "restricted" ∧ origins = [] then
    valueError "origin_mode 'restricted' requires at least one origin"
  let fields ← codeSet (taxonomy.field py) x.fields
  if x.fieldMode.eqStr "restricted" ∧ fields = [] then
    valueError "field_mode 'restricted' requires at least one field"
  checkTimezone py x.deadlineTimezone
  let facts := [
    ("destinations", strings destinations),
    ("levels", strings levels),
    ("origin_mode", x.originMode),
    ("origins", strings origins),
    ("field_mode", x.fieldMode),
    ("fields", strings fields),
    ("evidence_fresh", x.evidenceFresh)]
  let note := if x.eligibilityNote.truthy then [("eligibility_note", x.eligibilityNote)] else []
  let month := match x.expectedReopenMonth with
    | .null => []
    | value => [("expected_reopen_month", value)]
  let fieldNames :=
    if fields = [] then []
    else [("field_names", strings (fields.filterMap (List.lookup · taxonomy.fields)))]
  let names := ((x.programmeNames.getD x.fieldNames).map py.strip).filter (· ≠ "")
  let programmeNames :=
    if names = [] then [] else [("programme_names", strings (sortedSet names))]
  let fundingType ← checkFundingType py x.fundingType
  let deadline := match x.deadlineAt with
    | none => []
    | some deadlineAt =>
      [("deadline_at", Json.str (py.isoformat deadlineAt)),
        ("deadline_precision", x.deadlinePrecision)] ++
      match x.deadlineTimezone with
      | .null => []
      | value => [("deadline_timezone", value)]
  return .obj (facts ++ note ++ month ++ fieldNames ++ programmeNames ++ fundingType ++ deadline)

/-- The stored deadline, refusing text that is not a timestamp. -/
def parseStoredDeadline (value : Option Json) : Except PyErr (Option DateTime) :=
  match value with
  | some (.str s) =>
    if s = "" then .ok none
    else
      match py.fromisoformat s with
      | .ok d => .ok (some d)
      | .error e =>
        if e.cls = .valueError then
          valueError ("Stored deadline_at " ++ s ++ " is not a valid timestamp")
        else .error e
  | _ => .ok none

/-- Read a stored `facts` blob back into the inputs `build_cycle_facts` takes. -/
def cycleFactsToInputs (facts : Json) : Except PyErr CycleInputs := do
  let deadlineAt ← parseStoredDeadline py (← facts.get "deadline_at")
  let destinations ← facts.get "destinations"
  let levels ← facts.get "levels"
  let originMode ← facts.get "origin_mode"
  let origins ← facts.get "origins"
  let fieldMode ← facts.get "field_mode"
  let fields ← facts.get "fields"
  let evidenceFresh ← facts.get "evidence_fresh"
  let precision ← facts.get "deadline_precision"
  let timezone ← facts.get "deadline_timezone"
  let note ← facts.get "eligibility_note"
  let month ← facts.get "expected_reopen_month"
  let programmeNames ← facts.get "programme_names"
  let fundingType ← facts.get "funding_type"
  return {
    destinations := some (stringList destinations)
    levels := some (stringList levels)
    originMode := originMode.getD (.str "unknown")
    origins := some (stringList origins)
    fieldMode := fieldMode.getD (.str "unknown")
    fields := some (stringList fields)
    evidenceFresh := .bool ((evidenceFresh.getD (.bool false)).truthy)
    deadlineAt := deadlineAt
    deadlinePrecision := precision.getD (.str "date")
    deadlineTimezone := timezone.getD .null
    eligibilityNote := note.getD .null
    expectedReopenMonth := month.getD .null
    fieldNames := []
    programmeNames := some (stringList programmeNames)
    fundingType := fundingType.getD .null }

end ScholarshipFinder
