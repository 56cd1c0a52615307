import ScholarshipFinder.Infra.AutoApproval
import ScholarshipFinder.Sample.Discoveries

/-!
# A discovery that is approved without a reviewer
-/

namespace ScholarshipFinder.Sample

open Lib

/-- 1 January 2030, as a date. -/
def newYear : Date := 741077

/-- Python on ASCII text, with this one timestamp. -/
def approvalPy : ApprovalPy where
  toPyText := { textPy with
    fromisoformat := fun s =>
      if s = "2030-01-01T00:00:00+00:00" then .ok (midnightUtc newYear)
      else valueError "Invalid isoformat string"
    isoformat := fun d => if d = midnightUtc newYear then "2030-01-01T00:00:00+00:00" else "" }
  isPublicHost := fun _ => .ok true
  httpUrl := fun url => .ok url
  storesText := fun _ => true

lemma readsBack_newYear : approvalPy.ReadsBack (midnightUtc newYear) := ⟨rfl, by decide⟩

/-- An award that opens on 1 January and closes on 1 March. -/
def award : Discovery := { report 2 "award|example" with
  rawTitle := some "Masters scholarship in Germany"
  extractedFacts := some { found ["$13,000"] ["1 January 2030", "1 March 2030"] with
    levelMentions := ["masters"] } }

/-- What an aggregator says about it. -/
def echo : Discovery := { report 1 "award|example" with
  extractedFacts := some (found ["$13,000"] ["1 March 2030"]) }

/-- The review of the award. -/
def awardTask : DiscoveryTask where
  discoveryId := some 2
  state := .opened
  resolution := none
  draftRecommendation := some [("verdict", .str "approve")]

/-- The award (2) and the report of an aggregator (1), with an open task for the award. -/
def approvalStore : ReviewStore where
  discovered := { splitStore with
    discoveries := (Table.empty.insert 1 echo).insert 2 award
    discovery_page := by
      intro id d hrow
      simp only [Table.insert, Table.empty, Function.update_apply] at hrow
      split at hrow
      · obtain rfl := Option.some.inj hrow
        decide
      · split at hrow
        · obtain rfl := Option.some.inj hrow
          decide
        · cases hrow }
  authorityGrade := fun _ => some "A"
  tasks := Table.empty.insert 1 awardTask
  providers := Table.empty.insert 1 ⟨["award.example.org"]⟩
  shells := Table.empty
  verifications := []
  autoApproved := []

/-- The page of the award. -/
def awardPage : String := "The scholarship pays $13,000. Apply until 1 March 2030."

def approvalAnswers : AttemptAnswers where
  startedAt := start + 2 * day
  fetched := .ok (awardPage, "jina")
  countries := countries
  checkedAt := start + 2 * day
  publishedAt := start + 2 * day
  evaluatedAt := start + 2 * day
  scholarshipId := 2
  cycleId := 2

/-- The attempt on the award. -/
def awardAttempt : Except PyErr AutoApprovalOutcome × ReviewStore :=
  attemptAutoApproval approvalPy {} approvalAnswers 1 approvalStore

def awardOutcome : AutoApprovalOutcome := ⟨true, "auto_approved", some 2, some 2⟩

lemma awardAttempt_fst : awardAttempt.1 = .ok awardOutcome := by
  have h : awardAttempt.1.toOption = some awardOutcome := by decide +kernel
  cases hfst : awardAttempt.1 with
  | ok outcome =>
    rw [hfst] at h
    exact congrArg Except.ok (Option.some.inj h)
  | error e =>
    rw [hfst] at h
    cases h

lemma awardAttempt_eq :
    attemptAutoApproval approvalPy {} approvalAnswers 1 approvalStore =
      (.ok awardOutcome, awardAttempt.2) :=
  Prod.ext awardAttempt_fst rfl

end ScholarshipFinder.Sample
