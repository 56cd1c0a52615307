import ScholarshipFinder.PythonUrl
import ScholarshipFinder.Sample

/-!
# A runtime for ASCII URLs
-/

namespace ScholarshipFinder.Sample

open Lib UrlSplit Urlencoded

/-- Lower case as Python has it on ASCII characters. -/
def asciiPy : Py := { py with lower := String.map Char.toLower }

/-- That runtime, with `urllib.parse`; no address in brackets occurs here. -/
def webPy : Py := asciiPy.withUrllib fun _ => false

lemma toLower_of_isUpper {c : Char} (h : c.isUpper = false) : c.toLower = c := by
  have hupper : ¬ (c.val ≥ 'A'.val ∧ c.val ≤ 'Z'.val) := by
    rwa [Char.isUpper, decide_eq_false_iff_not] at h
  rw [Char.toLower, dif_neg hupper]

lemma toLower_upper : ∀ n < 91, 65 ≤ n → isSyntax (Char.ofNat n).toLower = false ∧
    (Char.ofNat n).toLower.isUpper = false := by
  decide

lemma isUpper_range {c : Char} (h : c.isUpper = true) : 65 ≤ c.toNat ∧ c.toNat < 91 := by
  simp only [Char.isUpper, decide_eq_true_eq, UInt32.le_iff_toNat_le] at h
  simp at h
  omega

/-- The lower case of a letter is neither syntax nor a capital. -/
lemma toLower_spec (c : Char) :
    c.toLower = c ∨ isSyntax c.toLower = false ∧ c.toLower.isUpper = false := by
  by_cases hupper : c.isUpper = true
  · obtain ⟨hlow, hhigh⟩ := isUpper_range hupper
    have hspec := toLower_upper c.toNat hhigh hlow
    rw [Char.ofNat_toNat] at hspec
    exact Or.inr hspec
  · exact Or.inl (toLower_of_isUpper (by simpa using hupper))

lemma toLower_toLower (c : Char) : c.toLower.toLower = c.toLower := by
  rcases toLower_spec c with heq | ⟨-, hupper⟩
  · rw [heq, heq]
  · exact toLower_of_isUpper hupper

lemma lower_singleton (c : Char) :
    asciiPy.lower (String.singleton c) = String.singleton c ↔ c.toLower = c := by
  change (String.singleton c).map Char.toLower = String.singleton c ↔ _
  rw [← String.toList_inj, String.toList_map, String.toList_singleton, List.map_singleton,
    List.singleton_inj]

lemma asciiPy_lowerLaws : asciiPy.LowerLaws where
  lower_lower := by
    intro s
    change (s.map Char.toLower).map Char.toLower = s.map Char.toLower
    rw [← String.toList_inj, String.toList_map, String.toList_map, List.map_map]
    exact List.map_congr_left fun c _ => toLower_toLower c
  lower_eq_self := by
    intro s
    have hmap : s.map Char.toLower = s ↔ s.toList.map Char.toLower = s.toList.map id := by
      rw [← String.toList_inj, String.toList_map, List.map_id]
    change s.map Char.toLower = s ↔ _
    rw [hmap, List.map_inj_left]
    exact forall₂_congr fun c _ => (lower_singleton c).symm
  ascii := by
    intro c _ hupper
    exact (lower_singleton c).mpr (toLower_of_isUpper hupper)
  mem_lower := by
    intro s c hc hmem
    change c ∈ (s.map Char.toLower).toList at hmem
    rw [String.toList_map] at hmem
    obtain ⟨d, hd, rfl⟩ := List.mem_map.mp hmem
    rcases toLower_spec d with heq | ⟨hreserved, -⟩
    · rwa [heq]
    · rw [hreserved] at hc
      cases hc

lemma isSyntax_upper : ∀ n < 91, 65 ≤ n → isSyntax (Char.ofNat n) = false := by
  decide

/-- Syntax is in lower case. -/
lemma toLower_of_isSyntax {c : Char} (h : isSyntax c = true) : c.toLower = c := by
  refine toLower_of_isUpper ?_
  rw [← Bool.not_eq_true]
  intro hupper
  obtain ⟨hlow, hhigh⟩ := isUpper_range hupper
  have hspec := isSyntax_upper c.toNat hhigh hlow
  rw [Char.ofNat_toNat, h] at hspec
  cases hspec

lemma asciiPy_caseLaws : asciiPy.CaseLaws where
  toLowerLaws := asciiPy_lowerLaws
  mem_of_mem := by
    intro s c hc hmem
    change c ∈ (s.map Char.toLower).toList
    rw [String.toList_map]
    exact List.mem_map.mpr ⟨c, hmem, toLower_of_isSyntax hc⟩
  percent := by
    intro s t
    change (s ++ "%" ++ t).map Char.toLower = s.map Char.toLower ++ "%" ++ t.map Char.toLower
    rw [← String.toList_inj]
    simp only [String.toList_map, String.toList_append, List.map_append]
    rfl
  empty := by
    intro s hs
    have hmap : s.map Char.toLower = "" := hs
    rw [← String.toList_inj, String.toList_map] at hmap
    exact String.toList_eq_nil_iff.mp (List.map_eq_nil_iff.mp hmap)

end ScholarshipFinder.Sample
