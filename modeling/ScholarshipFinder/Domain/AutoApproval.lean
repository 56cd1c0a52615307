import ScholarshipFinder.Domain.Corroboration
import ScholarshipFinder.Domain.Publication

/-!
# What auto-approval reads out of texts

The facts of a cycle from a discovery and its page (`domain/auto_approve_facts.py`), the countries
that a text names (`domain/review_draft.py`), the sanity checks (`domain/sanity_checks.py`), the
agreement of a discovery with its page (`infra/source_verification.py`), and the diagnostic score
(`domain/auto_approval_scoring.py`).
-/

namespace ScholarshipFinder

open Lib

variable (py : PyText)

/-! ## Countries -/

/-- `SUPPORTED_DESTINATIONS` -/
def supportedDestinations : List String :=
  ["CA", "GB", "US", "DE", "FI", "AU", "TR", "JP", "KR", "CN", "FR", "SA", "NZ"]

/-- `re.search(rf"\b{re.escape(words)}\b", text)`, with characters compared by `eq`. -/
def namesWords (eq : Char → Char → Bool) (words text : String) : Bool :=
  (sequence [wordBoundary py, .text eq words.toList, wordBoundary py]).occurs text.toList

/-- Country codes named in the text, the supported and the other ones. -/
def mentionedCountries (text : String) (countryNames : Dict) : List String × List String :=
  let named := countryNames.filter fun (_, displayName) =>
    displayName ≠ "" ∧ namesWords py py.ignoreCase displayName text
  let codes := named.map Prod.fst
  (sortedSet (codes.filter (· ∈ supportedDestinations)),
    sortedSet (codes.filter (· ∉ supportedDestinations)))

/-! ## The facts of a cycle -/

/-- `TAXONOMY.award_types` -/
def awardTypes : Dict := [
  ("scholarship", "Scholarship"),
  ("fellowship", "Fellowship"),
  ("assistantship", "Assistantship"),
  ("studentship", "Studentship"),
  ("grant", "Grant")]

/-- `_FUNDING_TYPE_PHRASES` -/
def fundingTypePhrases : Dict := [
  ("fully funded", "fully_funded"),
  ("fully-funded", "fully_funded"),
  ("full funding", "fully_funded"),
  ("tuition waiver", "tuition_only"),
  ("tuition only", "tuition_only"),
  ("tuition-only", "tuition_only"),
  ("stipend only", "stipend_only"),
  ("stipend-only", "stipend_only"),
  ("partial funding", "partial_funding"),
  ("partial scholarship", "partial_funding")]

structure DerivedCycleFacts where
  destinations : List String
  levels : List String
  awardType : String
  fundingType : Option String
  deadlineAt : Option DateTime
deriving DecidableEq, Repr

/-- The word on which the aggregator's own text and the real page agree. -/
def resolveAgreedAwardType (rawTitle rawExcerpt : Option String) (pageText : String) :
    Option String :=
  let aggregatorText := py.lower (joinParts [rawTitle, rawExcerpt])
  let pageLower := py.lower pageText
  (awardTypes.map Prod.fst).find? fun keyword =>
    namesWords py (· = ·) keyword aggregatorText && namesWords py (· = ·) keyword pageLower

def resolveFundingType (pageLower : String) : Option String :=
  (fundingTypePhrases.find? fun (phrase, _) => occursIn phrase pageLower).map Prod.snd

/-- `datetime.combine(date, time.min, tzinfo=UTC)` -/
def midnightUtc (date : Date) : DateTime := ⟨date * day, some 0⟩

/-- The first mention that can be read, at midnight. -/
def resolveDeadline (deadlineMentions : List String) : Option DateTime :=
  (deadlineMentions.findSome? (parseDeadline py)).map midnightUtc

/-- `(facts or {}).get("level_mentions") or []` -/
def levelMentions (facts : Option ExtractedFacts) : List String :=
  (facts.map (·.levelMentions)).getD []

def deriveCycleFactsFromExtraction (rawTitle rawExcerpt : Option String) (pageText : String)
    (extractedFacts : Option ExtractedFacts) (countryNames : Dict) : Option DerivedCycleFacts :=
  let combinedText := joinParts [rawTitle, rawExcerpt, some pageText]
  match mentionedCountries py combinedText countryNames with
  | ([destination], []) =>
    let canonicalLevels := (taxonomy.normalizeDegrees py.toPy (levelMentions extractedFacts)).1
    if canonicalLevels = [] then none
    else
      match resolveAgreedAwardType py rawTitle rawExcerpt pageText with
      | none => none
      | some awardType => some {
          destinations := [destination]
          levels := canonicalLevels
          awardType := awardType
          fundingType := resolveFundingType (py.lower pageText)
          deadlineAt := resolveDeadline py (deadlineMentions extractedFacts) }
  -- anything but one supported destination and nothing else is ambiguous
  | _ => none

/-! ## Sanity -/

structure SanityCheckResult where
  hasPositiveAmount : Bool
  amountEvidenceSufficient : Bool
  deadlineIsFutureOrAbsent : Bool
deriving DecidableEq, Repr

def SanityCheckResult.passed (sanity : SanityCheckResult) : Bool :=
  sanity.amountEvidenceSufficient && sanity.deadlineIsFutureOrAbsent

/-- `deadline_at` is an aware `datetime`, as `resolveDeadline` makes it. -/
def runSanityChecks (extractedFacts : Option ExtractedFacts) (deadlineAt : Option DateTime)
    (independentSourceCount : ℕ) (minCorroborationSources : ℤ) (now : Instant) :
    SanityCheckResult :=
  let amounts := fundingMentions extractedFacts
  let hasPositiveAmount := amounts.any fun raw => (parseAmount py raw).any fun parsed => 0 < parsed.2
  { hasPositiveAmount := hasPositiveAmount
    amountEvidenceSufficient := hasPositiveAmount ||
      (amounts.isEmpty && decide (minCorroborationSources ≤ independentSourceCount))
    deadlineIsFutureOrAbsent := deadlineAt.all fun d => now < d.wall - d.offset.getD 0 }

/-! ## Agreement with the page -/

/-- What the page says about what the discovery asserts; `None` where it asserts nothing. -/
structure Agreement where
  amountMatches : Option Bool
  deadlineMatches : Option Bool
deriving DecidableEq, Repr

/-- `_compare_facts` -/
def compareFacts (ownFacts : Option ExtractedFacts) (realPageFacts : ExtractedFacts) : Agreement :=
  let compare (agree : String → String → Option Bool) (own page : List String) : Option Bool :=
    if own.isEmpty then none else some (anyAgree agree own page)
  { amountMatches :=
      compare (amountsMatch py) (fundingMentions ownFacts) realPageFacts.fundingMentions
    deadlineMatches :=
      compare (deadlinesMatch py) (deadlineMentions ownFacts) realPageFacts.deadlineMentions }

/-! ## The score -/

/-- Stored with what is approved, and no gate. -/
def computeAutoApprovalScore (independentSourceCount : ℕ) (agreement : Agreement)
    (sanityPassed : Bool) (authorityGrade : Option String) : ℤ :=
  (if 2 ≤ independentSourceCount then
    (40 : ℤ) + min (((independentSourceCount : ℤ) - 2) * 10) 20 else 0) +
    (if agreement.amountMatches = some true then 20 else 0) +
    (if agreement.deadlineMatches = some true then 20 else 0) +
    (if sanityPassed then 10 else 0) -
    (if authorityGrade = some "A" ∨ authorityGrade = some "B" then 0 else 30)

end ScholarshipFinder
