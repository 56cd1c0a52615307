import ScholarshipFinder.Domain.Extraction
import ScholarshipFinder.Domain.Models

/-!
# Corroboration (`domain/corroboration.py`)

Does another independent source report the same award with matching facts?  The caller passes the
discoveries that share the subject's identity key; the loop here counts their sources and looks
for a figure on which one of them agrees with the subject.
-/

namespace ScholarshipFinder

abbrev DiscoveryId := ℕ

/-- One discovery that shares the identity key of the subject. -/
structure SiblingFact where
  discoveryId : DiscoveryId
  sourceId : SourceId
  facts : Option ExtractedFacts
deriving DecidableEq, Repr

structure CorroborationResult where
  /-- Distinct sources, the subject's own included, reporting this identity. -/
  independentSourceCount : ℕ
  /-- `None` when the subject asserts no amount, `False` when no sibling agrees. -/
  amountCorroborated : Option Bool
  /-- The same for the deadline. -/
  deadlineCorroborated : Option Bool
  corroboratingDiscoveryIds : List DiscoveryId
deriving DecidableEq, Repr

/-- `(facts or {}).get("funding_mentions") or []` -/
def fundingMentions (facts : Option ExtractedFacts) : List String :=
  (facts.map (·.fundingMentions)).getD []

/-- `(facts or {}).get("deadline_mentions") or []` -/
def deadlineMentions (facts : Option ExtractedFacts) : List String :=
  (facts.map (·.deadlineMentions)).getD []

/-- `any(agree(a, b) for a in own for b in others)` -/
def anyAgree (agree : String → String → Option Bool) (own others : List String) : Bool :=
  own.any fun a => others.any fun b => agree a b = some true

/-- The variables of the loop. -/
structure Tally where
  distinctSources : Finset SourceId
  corroboratingIds : List DiscoveryId
  amountCorroborated : Option Bool
  deadlineCorroborated : Option Bool

variable (py : PyText)

/-- The sibling states an amount that agrees with one of the subject's own. -/
def agreesOnAmount (own : Option ExtractedFacts) (sibling : SiblingFact) : Bool :=
  anyAgree (amountsMatch py) (fundingMentions own) (fundingMentions sibling.facts)

/-- The sibling states a deadline that agrees with one of the subject's own. -/
def agreesOnDeadline (own : Option ExtractedFacts) (sibling : SiblingFact) : Bool :=
  anyAgree (deadlinesMatch py) (deadlineMentions own) (deadlineMentions sibling.facts)

/-- One pass of the loop. -/
def Tally.add (own : Option ExtractedFacts) (tally : Tally) (sibling : SiblingFact) : Tally :=
  let amount := agreesOnAmount py own sibling
  let deadline := !(deadlineMentions own).isEmpty && agreesOnDeadline py own sibling
  { distinctSources := insert sibling.sourceId tally.distinctSources
    corroboratingIds :=
      if amount || deadline then tally.corroboratingIds ++ [sibling.discoveryId]
      else tally.corroboratingIds
    amountCorroborated := if amount then some true else tally.amountCorroborated
    deadlineCorroborated := if deadline then some true else tally.deadlineCorroborated }

/-- Before the first sibling. -/
def Tally.start (ownSourceId : SourceId) (own : Option ExtractedFacts) : Tally where
  distinctSources := {ownSourceId}
  corroboratingIds := []
  amountCorroborated := if (fundingMentions own).isEmpty then none else some false
  deadlineCorroborated := if (deadlineMentions own).isEmpty then none else some false

def evaluateCorroboration (ownSourceId : SourceId) (own : Option ExtractedFacts)
    (siblings : List SiblingFact) : CorroborationResult :=
  let tally := siblings.foldl (Tally.add py own) (Tally.start ownSourceId own)
  { independentSourceCount := tally.distinctSources.card
    amountCorroborated := tally.amountCorroborated
    deadlineCorroborated := tally.deadlineCorroborated
    corroboratingDiscoveryIds := tally.corroboratingIds }

/-! ## What the loop has counted -/

variable {py} {own : Option ExtractedFacts} {ownSourceId : SourceId} {siblings : List SiblingFact}

lemma anyAgree_nil (agree : String → String → Option Bool) (others : List String) :
    anyAgree agree [] others = false := rfl

/-- Something has to be stated for a sibling to agree on it. -/
lemma agreesOnDeadline_stated {sibling : SiblingFact} :
    (!(deadlineMentions own).isEmpty && agreesOnDeadline py own sibling) =
      agreesOnDeadline py own sibling := by
  cases h : deadlineMentions own with
  | nil => simp [agreesOnDeadline, h, anyAgree_nil]
  | cons a as => simp

lemma foldl_distinctSources (tally : Tally) :
    (siblings.foldl (Tally.add py own) tally).distinctSources =
      tally.distinctSources ∪ (siblings.map (·.sourceId)).toFinset := by
  induction siblings generalizing tally with
  | nil => simp
  | cons sibling siblings ih =>
    rw [List.foldl_cons, ih]
    simp [Tally.add, Finset.insert_union]

lemma foldl_amountCorroborated (tally : Tally) :
    (siblings.foldl (Tally.add py own) tally).amountCorroborated =
      if siblings.any (agreesOnAmount py own) then some true else tally.amountCorroborated := by
  induction siblings generalizing tally with
  | nil => rfl
  | cons sibling siblings ih =>
    rw [List.foldl_cons, ih, List.any_cons]
    cases h : agreesOnAmount py own sibling <;> simp [Tally.add, h]

lemma foldl_deadlineCorroborated (tally : Tally) :
    (siblings.foldl (Tally.add py own) tally).deadlineCorroborated =
      if siblings.any (agreesOnDeadline py own) then some true
      else tally.deadlineCorroborated := by
  induction siblings generalizing tally with
  | nil => rfl
  | cons sibling siblings ih =>
    rw [List.foldl_cons, ih, List.any_cons]
    simp only [Tally.add, agreesOnDeadline_stated]
    cases h : agreesOnDeadline py own sibling <;> simp

/-- The count is that of the sources of the subject and of its siblings. -/
theorem independentSourceCount_eq :
    (evaluateCorroboration py ownSourceId own siblings).independentSourceCount =
      (insert ownSourceId (siblings.map (·.sourceId)).toFinset).card := by
  show (siblings.foldl (Tally.add py own) (Tally.start ownSourceId own)).distinctSources.card = _
  rw [foldl_distinctSources]
  rfl

/-- An amount is corroborated exactly if some sibling agrees on one. -/
theorem amountCorroborated_iff :
    (evaluateCorroboration py ownSourceId own siblings).amountCorroborated = some true ↔
      ∃ sibling ∈ siblings, agreesOnAmount py own sibling = true := by
  show (siblings.foldl (Tally.add py own) (Tally.start ownSourceId own)).amountCorroborated =
    some true ↔ _
  rw [foldl_amountCorroborated, ← List.any_eq_true]
  cases siblings.any (agreesOnAmount py own) with
  | true => simp
  | false => cases h : (fundingMentions own).isEmpty <;> simp [Tally.start, h]

/-- A deadline is corroborated exactly if some sibling agrees on one. -/
theorem deadlineCorroborated_iff :
    (evaluateCorroboration py ownSourceId own siblings).deadlineCorroborated = some true ↔
      ∃ sibling ∈ siblings, agreesOnDeadline py own sibling = true := by
  show (siblings.foldl (Tally.add py own) (Tally.start ownSourceId own)).deadlineCorroborated =
    some true ↔ _
  rw [foldl_deadlineCorroborated, ← List.any_eq_true]
  cases siblings.any (agreesOnDeadline py own) with
  | true => simp
  | false => cases h : (deadlineMentions own).isEmpty <;> simp [Tally.start, h]

end ScholarshipFinder
