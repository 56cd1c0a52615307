import ScholarshipFinder.Domain.Corroboration
import ScholarshipFinder.Sample.Text

/-!
# Corroboration by somebody else

A figure is corroborated if any sibling agrees on it, and the siblings of a subject are not only
those of other sources: an older revision or another page of its own source is one too.  The
verdict is that of an independent report exactly if whatever the own source repeats is also
stated by another.
-/

namespace ScholarshipFinder

variable (py : PyText) (ownSourceId : SourceId) (own : Option ExtractedFacts)
  (siblings : List SiblingFact)

/-- Somebody else agrees: a sibling of another source. -/
def OtherAgrees (agrees : SiblingFact → Bool) : Prop :=
  ∃ sibling ∈ siblings, sibling.sourceId ≠ ownSourceId ∧ agrees sibling = true

/-- Where the subject's own source agrees with it, somebody else does. -/
def EchoesShared (agrees : SiblingFact → Bool) : Prop :=
  ∀ sibling ∈ siblings, sibling.sourceId = ownSourceId → agrees sibling = true →
    OtherAgrees ownSourceId siblings agrees

/-- What corroboration is to mean. -/
structure IndependentlyCorroborated : Prop where
  amount : (evaluateCorroboration py ownSourceId own siblings).amountCorroborated = some true →
    OtherAgrees ownSourceId siblings (agreesOnAmount py own)
  deadline :
    (evaluateCorroboration py ownSourceId own siblings).deadlineCorroborated = some true →
      OtherAgrees ownSourceId siblings (agreesOnDeadline py own)

variable {ownSourceId siblings}

/-- Among any siblings, agreement means that somebody else agrees exactly if the echoes of the
own source are shared. -/
lemma otherAgrees_iff {agrees : SiblingFact → Bool} :
    ((∃ sibling ∈ siblings, agrees sibling = true) → OtherAgrees ownSourceId siblings agrees) ↔
      EchoesShared ownSourceId siblings agrees := by
  constructor
  · intro h sibling hmem _ hagrees
    exact h ⟨sibling, hmem, hagrees⟩
  · rintro h ⟨sibling, hmem, hagrees⟩
    by_cases hown : sibling.sourceId = ownSourceId
    · exact h sibling hmem hown hagrees
    · exact ⟨sibling, hmem, hown, hagrees⟩

variable (ownSourceId siblings)

/-- Corroboration is somebody else's exactly if the own source corroborates nothing alone. -/
theorem independentlyCorroborated_iff :
    IndependentlyCorroborated py ownSourceId own siblings ↔
      EchoesShared ownSourceId siblings (agreesOnAmount py own) ∧
        EchoesShared ownSourceId siblings (agreesOnDeadline py own) := by
  rw [← otherAgrees_iff, ← otherAgrees_iff, ← amountCorroborated_iff, ← deadlineCorroborated_iff]
  constructor
  · intro h
    exact ⟨h.amount, h.deadline⟩
  · rintro ⟨hamount, hdeadline⟩
    exact ⟨hamount, hdeadline⟩

/-- An older crawl of the subject's own page corroborates its amount. -/
theorem own_source_corroborates :
    ¬ ∀ (ownSourceId : SourceId) (own : Option ExtractedFacts) (siblings : List SiblingFact),
      IndependentlyCorroborated Sample.textPy ownSourceId own siblings := by
  intro h
  have hown := h 1 (some (Sample.found ["£13,000"] [])) [⟨2, 1, some (Sample.found ["£13,000"] [])⟩]
  obtain ⟨sibling, hmem, hother, -⟩ := hown.amount (by decide +kernel)
  rw [List.mem_singleton] at hmem
  subst hmem
  exact hother rfl

end ScholarshipFinder
