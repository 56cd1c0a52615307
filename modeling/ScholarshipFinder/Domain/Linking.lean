import ScholarshipFinder.Domain.Extraction
import ScholarshipFinder.Domain.Models

/-!
# Linking a discovery (`domain/linking.py`, `domain/review_priority.py`)

A discovery is linked to a scholarship of its name if there is exactly one.  Otherwise it is for a
reviewer, and the evidence it has decides how soon.
-/

namespace ScholarshipFinder

inductive LinkOutcome
  | linked
  | newCandidate
  | needsReview
  | duplicatePending
deriving DecidableEq, Repr

structure LinkDecision where
  outcome : LinkOutcome
  scholarshipId : Option ScholarshipId
  reason : String
deriving DecidableEq, Repr

def decideLink (candidateIds : List ScholarshipId) : LinkDecision :=
  match candidateIds with
  | [scholarshipId] => ⟨.linked, some scholarshipId, "single_identity_candidate"⟩
  | [] => ⟨.newCandidate, none, "no_identity_candidate"⟩
  | _ => ⟨.needsReview, none, "ambiguous_identity_candidates"⟩

/-- A decision links to the one candidate, or is not a link. -/
lemma decideLink_linked_iff {candidateIds : List ScholarshipId} :
    (decideLink candidateIds).outcome = .linked ↔
      ∃ scholarshipId, candidateIds = [scholarshipId] := by
  unfold decideLink
  split
  · next scholarshipId => exact ⟨fun _ => ⟨scholarshipId, rfl⟩, fun _ => rfl⟩
  · exact iff_of_false (by simp) (by simp)
  · next hsome hnone =>
    exact iff_of_false (by simp) fun ⟨scholarshipId, h⟩ => hsome scholarshipId h

def needsReviewBase : ℤ := 50
def newCandidateBase : ℤ := 100
def minPriority : ℤ := 1

/-- A number of points for a signal. -/
def bonus (points : ℤ) (signal : Bool) : ℤ := if signal then points else 0

/-- A lower number surfaces first. -/
def computeReviewPriority (needsReview : Bool) (extractedFacts : Option ExtractedFacts)
    (aiExtractedFacts : Option (List (String × Json))) (authorityGrade : Option String) : ℤ :=
  let base := if needsReview then needsReviewBase else newCandidateBase
  let mentions (field : ExtractedFacts → List String) : Bool :=
    extractedFacts.any fun facts => !(field facts).isEmpty
  let evidence := (aiExtractedFacts.getD []).lookup "evidence"
  let score := base - bonus 20 (authorityGrade = some "A" ∨ authorityGrade = some "B") -
    bonus 10 (mentions (·.fundingMentions)) - bonus 10 (mentions (·.deadlineMentions)) -
    bonus 5 (mentions (·.levelMentions)) -
    bonus 10 (match evidence with
      | some (.arr items) => !items.isEmpty
      | _ => false)
  max score minPriority

end ScholarshipFinder
