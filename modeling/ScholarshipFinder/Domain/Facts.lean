import ScholarshipFinder.Domain.Status
import ScholarshipFinder.Domain.Taxonomy

/-!
# Sanitised facts (`domain/facts.py`)

A cycle's `facts` column is JSON that nothing below `publish` enforces a schema on.
`deriveFacts` reads it once into typed values; the public API and the freshness jobs both
compute from those.
-/

namespace ScholarshipFinder

inductive OriginMode
  | restricted
  | unrestricted
  | unknown
deriving DecidableEq, Repr

inductive FieldMode
  | restricted
  | all
  | unknown
deriving DecidableEq, Repr

structure DerivedFacts where
  deadlineAt : Option DateTime
  deadlinePrecision : DeadlinePrecision
  deadlineTimezone : Option String
  degreeLevels : List String
  expectedReopenMonth : Option ℕ
  fundingType : Option String
  destinations : List String
  eligibilityNote : Option String
  fieldNames : List String
  programmeNames : List String
  originMode : OriginMode
  origins : List String
  fieldMode : FieldMode
  fields : List String
  evidenceFresh : Bool
deriving DecidableEq, Repr

/-- The literals of the contract. -/
def OriginMode.value : OriginMode → String
  | restricted => "restricted"
  | unrestricted => "unrestricted"
  | unknown => "unknown"

def FieldMode.value : FieldMode → String
  | restricted => "restricted"
  | all => "all"
  | unknown => "unknown"

def DeadlinePrecision.value : DeadlinePrecision → String
  | date => "date"
  | datetime => "datetime"

def strings (xs : List String) : Json := .arr (xs.map .str)

/-- `if value is not None: result[key] = value` -/
def entry (key : String) : Option Json → List (String × Json)
  | none => []
  | some value => [(key, value)]

/-- `if values: result[key] = values` -/
def listEntry (key : String) (values : List String) : List (String × Json) :=
  if values = [] then [] else [(key, strings values)]

/-- The deadline part, as the status functions take it. -/
def DerivedFacts.deadline (f : DerivedFacts) : Deadline :=
  ⟨f.deadlineAt, f.deadlinePrecision, f.deadlineTimezone⟩

variable (py : Py)

/-- The key shape that `build_cycle_facts` writes, rebuilt from the sanitised values. -/
def DerivedFacts.sanitizedDict (f : DerivedFacts) : Json :=
  .obj ([
    ("destinations", strings f.destinations),
    ("levels", strings f.degreeLevels),
    ("origin_mode", .str f.originMode.value),
    ("origins", strings f.origins),
    ("field_mode", .str f.fieldMode.value),
    ("fields", strings f.fields),
    ("evidence_fresh", .bool f.evidenceFresh)] ++
  entry "eligibility_note" (f.eligibilityNote.map .str) ++
  entry "expected_reopen_month" (f.expectedReopenMonth.map fun month : ℕ => .int month) ++
  listEntry "field_names" f.fieldNames ++
  listEntry "programme_names" f.programmeNames ++
  entry "funding_type" (f.fundingType.map .str) ++
  match f.deadlineAt with
  | none => []
  | some deadlineAt =>
    [("deadline_at", .str (py.isoformat deadlineAt)),
      ("deadline_precision", .str f.deadlinePrecision.value)] ++
    entry "deadline_timezone" (f.deadlineTimezone.map .str))

/-- The strings of a JSON list; `[]` for anything that is not a list. -/
def stringList (value : Option Json) : List String :=
  match value with
  | some (.arr items) => items.filterMap fun
      | .str s => some s
      | _ => none
  | _ => []

/-- `datetime.fromisoformat(value)`, with `None` for what is empty or not ISO text. -/
def safeDeadlineAt (value : Option Json) : Except PyErr (Option DateTime) :=
  match value with
  | some (.str s) =>
    if s = "" then .ok none
    else
      match py.fromisoformat s with
      | .ok d => .ok (some d)
      | .error e => if e.cls = .valueError ∨ e.cls = .typeError then .ok none else .error e
  -- any other truthy value is a TypeError, which is caught
  | _ => .ok none

/-- `facts.get("deadline_precision", "datetime")`, clamped to the contract's literals. -/
def clampPrecision : Option Json → DeadlinePrecision
  | some (.str "date") => .date
  | _ => .datetime

/-- An integer from 1 to 12; a bool is not one. -/
def clampMonth : Option Json → Option ℕ
  | some (.int n) => if 1 ≤ n ∧ n ≤ 12 then some n.toNat else none
  | _ => none

def clampOriginMode : Option Json → OriginMode
  | some (.str "restricted") => .restricted
  | some (.str "unrestricted") => .unrestricted
  | _ => .unknown

def clampFieldMode : Option Json → FieldMode
  | some (.str "restricted") => .restricted
  | some (.str "all") => .all
  | _ => .unknown

/-- A string value, or `None`. -/
def stringOrNone : Option Json → Option String
  | some (.str s) => some s
  | _ => none

/-- `sorted({str(value) for value in raw})` of a list, `[]` of anything else. -/
def destinationStrings : Option Json → List String
  | some (.arr items) => sortedSet (items.map py.strOf)
  | _ => []

/-- One sanitization pass over a cycle's `facts` JSONB. -/
def deriveFacts (facts : Json) : Except PyErr DerivedFacts := do
  let deadlineAt ← safeDeadlineAt py (← facts.get "deadline_at")
  let precision ← facts.get "deadline_precision"
  let month ← facts.get "expected_reopen_month"
  let fundingType ← facts.get "funding_type"
  let destinations ← facts.get "destinations"
  let note ← facts.get "eligibility_note"
  let timezone ← facts.get "deadline_timezone"
  let originMode ← facts.get "origin_mode"
  let fieldMode ← facts.get "field_mode"
  let evidenceFresh ← facts.get "evidence_fresh"
  let fields ← facts.get "fields"
  let levels ← facts.get "levels"
  let programmeNames ← facts.get "programme_names"
  let origins ← facts.get "origins"
  let canonicalFields := (taxonomy.normalizeFields py (stringList fields)).1
  let canonicalDegrees := (taxonomy.normalizeDegrees py (stringList levels)).1
  return {
    deadlineAt := deadlineAt
    deadlinePrecision := clampPrecision precision
    deadlineTimezone := stringOrNone timezone
    degreeLevels := canonicalDegrees
    expectedReopenMonth := clampMonth month
    fundingType := (stringOrNone fundingType).bind fun s => (taxonomy.fundingType py s).toOption
    destinations := destinationStrings py destinations
    eligibilityNote := (stringOrNone note).filter (· ≠ "")
    fieldNames := sortedSet (canonicalFields.filterMap (List.lookup · taxonomy.fields))
    programmeNames := stringList programmeNames
    originMode := clampOriginMode originMode
    origins := stringList origins
    fieldMode := clampFieldMode fieldMode
    fields := canonicalFields
    evidenceFresh := match evidenceFresh with
      | some (.bool b) => b
      | _ => false }

end ScholarshipFinder
