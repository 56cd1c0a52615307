import ScholarshipFinder.Domain.Extraction
import ScholarshipFinder.Sample

/-!
# A runtime for ASCII text
-/

namespace ScholarshipFinder.Sample

/-- Answers as Python does on ASCII characters. -/
def textPy : PyText where
  toPy := { py with lower := String.map Char.toLower }
  isalnum := Char.isAlphanum
  isspace := Char.isWhitespace
  decimal := fun c => if c.isDigit then some (c.toNat - '0'.toNat) else none
  ignoreCase := fun c d => c.toLower = d.toLower

/-- A lower-case letter or an underscore is its own lower case. -/
lemma toLower_of_isCode {c : Char} (h : (c.isLower || c == '_') = true) : c.toLower = c := by
  have hupper : ¬ (c.val ≥ 'A'.val ∧ c.val ≤ 'Z'.val) := by
    rw [Bool.or_eq_true, beq_iff_eq] at h
    rcases h with hlower | rfl
    · rw [Char.isLower, Bool.and_eq_true, decide_eq_true_eq, decide_eq_true_eq] at hlower
      rintro ⟨-, hle⟩
      exact absurd (UInt32.le_trans hlower.1 hle) (by decide)
    · decide
  rw [Char.toLower, dif_neg hupper]

lemma textPy_textLaws : textPy.TextLaws where
  strip_code := fun _ _ => rfl
  lower_code := by
    intro s hs
    have hmap : s.toList.map Char.toLower = s.toList.map id :=
      List.map_congr_left fun c hc => toLower_of_isCode (List.all_eq_true.mp hs c hc)
    show s.map Char.toLower = s
    rw [← String.toList_inj, String.toList_map, hmap, List.map_id]
  strip_strip := fun _ => rfl
  strip_upper := fun _ => rfl
  upper_upper := fun _ => rfl

lemma textPy_isoLaws : textPy.IsoLaws where
  refuse := by
    rintro s e ⟨⟩
    rfl
  range := by
    rintro s d ⟨⟩

/-- What an extraction finds if it finds these amounts and dates only. -/
def found (amounts deadlines : List String) : ExtractedFacts where
  version := extractionVersion
  needsHumanReview := true
  fundingMentions := amounts
  deadlineMentions := deadlines
  levelMentions := []
  eligibilityPhrase := none

end ScholarshipFinder.Sample
