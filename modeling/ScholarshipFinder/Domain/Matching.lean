import ScholarshipFinder.Domain.Facts

/-!
# Deterministic matching (`domain/matching.py`)

A searcher's profile is matched against the facts of a cycle by hard gates and a score.  The facts
may be those stored, which nothing below `publish` keeps to the contract, or sanitised ones.
-/

namespace ScholarshipFinder

structure SearchProfile where
  originCountry : String
  targetCountries : Finset String
  programLevels : Finset String
  /-- `None` means no field preference. -/
  fields : Option (Finset String)
deriving DecidableEq

inductive Fit
  | possible
  | confirmed
deriving DecidableEq, Repr

structure MatchDecision where
  fit : Fit
  score : ℕ
  reasonCodes : List String
  caveats : List String
deriving DecidableEq, Repr

variable (py : Py)

/-- `_normalise` -/
def normalise (value : String) : String := py.lower (py.strip value)

/-- `{_normalise(v) for v in values}` -/
def normaliseAll (values : Finset String) : Finset String := values.image (normalise py)

/-- `_normalised_set`, on what `facts.get(key)` answers. -/
def normalisedItems (key : String) : Option Json → Finset String
  | some (.arr items) =>
    if key = "fields" then
      (taxonomy.normalizeFields py (stringList (some (.arr items)))).1.toFinset
    else if key = "levels" then
      (taxonomy.normalizeDegrees py (stringList (some (.arr items)))).1.toFinset
    else (items.map fun value => normalise py (py.strOf value)).toFinset
  | _ => ∅

/-- `_normalised_set` -/
def normalisedSet (facts : Json) (key : String) : Except PyErr (Finset String) := do
  return normalisedItems py key (← facts.get key)

/-- `value or "unknown"` -/
def orUnknown : Option Json → Json
  | some value => if value.truthy then value else .str "unknown"
  | none => .str "unknown"

/-- Apply the hard gates and the deterministic score. -/
def evaluateMatch (profile : SearchProfile) (facts : Json) :
    Except PyErr (Option MatchDecision) := do
  let destinations ← normalisedSet py facts "destinations"
  if destinations ∩ normaliseAll py profile.targetCountries = ∅ then return none
  let levels ← normalisedSet py facts "levels"
  if normaliseAll py profile.programLevels ∩ levels = ∅ then return none
  let originMode := orUnknown (← facts.get "origin_mode")
  let origins ← normalisedSet py facts "origins"
  if originMode.eqStr "restricted" ∧ normalise py profile.originCountry ∉ origins then return none
  let fieldMode := orUnknown (← facts.get "field_mode")
  let fields ← normalisedSet py facts "fields"
  let acceptedFields := profile.fields.map (normaliseAll py)
  if fieldMode.eqStr "restricted" ∧ acceptedFields.any (fun accepted => fields ∩ accepted = ∅) then
    return none
  let possible := originMode.eqStr "unknown" || fieldMode.eqStr "unknown"
  let fieldCompatible := acceptedFields.any fun accepted => fields ∩ accepted ≠ ∅
  let fieldScore := fieldMode.eqStr "all" || fieldCompatible
  let originScore :=
    originMode.eqStr "unrestricted" || normalise py profile.originCountry ∈ origins
  let freshScore := ((← facts.get "evidence_fresh").getD (.bool false)).truthy
  let score := (if fieldScore then 25 else 0) + (if originScore then 15 else 0) +
    if freshScore then 10 else 0
  let reasons := (if fieldScore then ["field_compatible"] else []) ++
    (if originScore then ["origin_eligible"] else []) ++
    if freshScore then ["fresh_verified_evidence"] else []
  let caveats := if possible then ["Some eligibility conditions need checking."] else []
  return some ⟨if possible then .possible else .confirmed, score, reasons, caveats⟩

end ScholarshipFinder
