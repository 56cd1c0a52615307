import Mathlib

/-!
# Strictly increasing lists

The place of an element is the number of the elements below it.
-/

namespace Lib

variable {α : Type*} [LinearOrder α]

/-- The first `n` elements are those with fewer than `n` below them. -/
theorem mem_take_iff_of_sorted {l : List α} (hl : l.Pairwise (· < ·)) {n : ℕ} {a : α} :
    a ∈ l.take n ↔ a ∈ l ∧ (l.filter (· < a)).length < n := by
  induction l generalizing n with
  | nil => simp
  | cons b l ih =>
    obtain ⟨hb, hl⟩ := List.pairwise_cons.mp hl
    cases n with
    | zero => simp
    | succ n =>
      rw [List.take_succ_cons, List.mem_cons, List.mem_cons, ih hl]
      by_cases hab : a = b
      · subst hab
        have hnone : (a :: l).filter (· < a) = [] := by
          rw [List.filter_eq_nil_iff]
          intro c hc
          rcases List.mem_cons.mp hc with rfl | hc
          · simp
          · simpa using (hb c hc).le
        simp [hnone]
      · by_cases ha : a ∈ l
        · have hcons : (b :: l).filter (· < a) = b :: l.filter (· < a) := by
            simp [hb a ha]
          simp [hab, ha, hcons]
        · simp [hab, ha]

end Lib
