import ScholarshipFinder.Api.SearchResults
import ScholarshipFinder.Infra.AIRouter

/-!
# Match explanations (`infra/match_explanations.py`)

An explanation is cached for each cycle and profile, with the digest of the facts that it was
asked for.  On a miss the Router is asked under a key of the cycle and the profile.
-/

namespace ScholarshipFinder

open Lib

/-- The runtime that the digests are made with. -/
structure ExplanationPy extends Py where
  /-- `json.dumps(value, sort_keys=True, separators=(",", ":"))` -/
  dumpsSorted : Json → String

/-- A row of `match_explanations`, for one cycle and one profile digest. -/
structure MatchExplanation where
  factsDigest : String
  explanation : String
deriving DecidableEq, Repr

/-- The cache, and what the Router remembers. -/
structure ExplanationStore where
  explanations : Table (CycleId × String) MatchExplanation
  router : AIRouter

/-- The settings that are read for an explanation. -/
structure ExplanationSettings where
  matchExplanationEnabled : Bool := false
  aiRouterBaseUrl : Option String := none
  aiRouterPrivateKeyPem : Option String := none
  aiRouterKeyId : Option String := none

/-- The feature is on, and the Router can be called. -/
def ExplanationSettings.isConfigured (settings : ExplanationSettings) : Bool :=
  settings.matchExplanationEnabled && settings.aiRouterBaseUrl.any (· ≠ "") &&
    settings.aiRouterPrivateKeyPem.any (· ≠ "") && settings.aiRouterKeyId.any (· ≠ "")

/-- The arguments of a call, with the settings and the exchange that it meets. -/
structure ExplanationCall where
  cycleId : CycleId
  scholarshipName : String
  providerName : String
  facts : List (String × Json)
  originCountry : String
  programLevels : List String
  field : Option String
  decision : MatchDecision
  settings : ExplanationSettings
  exchange : RouterExchange

variable (py : ExplanationPy)

/-- `filter_digest`, of any dict -/
def dictDigest (items : List (String × Json)) : String :=
  py.sha256 (py.dumpsSorted (.obj items)).toUTF8.toList

namespace ExplanationCall

/-- `profile_payload` -/
def profile (call : ExplanationCall) : List (String × Json) :=
  [("origin_country", .str call.originCountry),
    ("program_levels", .arr (call.programLevels.map .str)), ("field", .ofText call.field)]

/-- The key of the cached row. -/
def cacheKey (call : ExplanationCall) : CycleId × String :=
  (call.cycleId, dictDigest py call.profile)

/-- `idempotency_key` -/
def idempotencyKey (call : ExplanationCall) : String :=
  "match_explanation:" ++ uuidText call.cycleId ++ ":" ++ dictDigest py call.profile

def request (call : ExplanationCall) : AIRouterRequest where
  task := .matchExplanation
  taskVersion := "v1"
  schemaVersion := 1
  productId := "scholarship_finder"
  featureId := "scholarship_detail"
  correlationId := uuidText call.cycleId
  idempotencyKey := call.idempotencyKey py
  sourceData := [
    ("scholarship_name", .str call.scholarshipName),
    ("provider_name", .str call.providerName),
    ("facts", .obj call.facts),
    ("profile", .obj call.profile),
    ("match_decision", .obj [
      ("fit", .str call.decision.fit.value),
      ("reason_codes", .arr (call.decision.reasonCodes.map .str)),
      ("caveats", .arr (call.decision.caveats.map .str))])]

end ExplanationCall

namespace ExplanationStore

/-- `_cached` -/
def cached (store : ExplanationStore) (call : ExplanationCall) : Option String :=
  match store.explanations.row (call.cacheKey py) with
  | none => none
  | some row =>
    if row.factsDigest ≠ dictDigest py call.facts then none else some row.explanation

/-- `_store`, which commits. -/
def record (store : ExplanationStore) (call : ExplanationCall) (explanation : String) :
    ExplanationStore :=
  { store with
    explanations := store.explanations.insert (call.cacheKey py)
      ⟨dictDigest py call.facts, explanation⟩ }

end ExplanationStore

/-- The explanation in a response, if it is there. -/
def AIRouterResponse.explanation (py : Py) (response : AIRouterResponse) : Except PyErr (Option String) := do
  if response.outcome ≠ .completed ∨ ¬ response.output.truthy then return none
  else
    let value ← response.output.get "explanation"
    match value with
    | some (.str explanation) =>
      return if py.strip explanation = "" then none else some explanation
    | _ => return none

/-- `get_match_explanation` -/
def getMatchExplanation (call : ExplanationCall) (store : ExplanationStore) :
    Except PyErr (Option String) × ExplanationStore :=
  match store.cached py call with
  | some explanation => (.ok (some explanation), store)
  | none =>
    if ¬ call.settings.isConfigured then (.ok none, store)
    else
      let answer := store.router.execute (call.request py) call.exchange
      let store := { store with router := answer.2 }
      match answer.1 with
      | .error e =>
        (if e.cls = .httpError ∨ e.cls = .valueError then .ok none else .error e, store)
      | .ok response =>
        match response.explanation py.toPy with
        | .error e => (.error e, store)
        | .ok none => (.ok none, store)
        | .ok (some explanation) => (.ok (some explanation), store.record py call explanation)

end ScholarshipFinder
