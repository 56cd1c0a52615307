import Mathlib

/-!
# Lists that are linked backwards

Every element of a list names a predecessor, or none.  The list is chained if the first element
names none and every other one the element before it.  Then the names tell the elements apart, so
nothing is named twice.
-/

namespace Lib

variable {α : Type*} {pred pred' : α → Option α} {l : List α} {a b : α} {i : ℕ}

/-- The element before a position. -/
def elemBefore (l : List α) : ℕ → Option α
  | 0 => none
  | i + 1 => l[i]?

/-- The first element names none, and every other one the element before it. -/
def Chained (pred : α → Option α) (l : List α) : Prop :=
  ∀ i a, l[i]? = some a → pred a = elemBefore l i

lemma chained_nil : Chained pred [] := by
  intro i a h
  simp at h

lemma chained_congr (h : ∀ a ∈ l, pred' a = pred a) : Chained pred' l ↔ Chained pred l := by
  refine forall_congr' fun i => forall_congr' fun a => imp_congr_right fun ha => ?_
  rw [h a (List.mem_of_getElem? ha)]

lemma elemBefore_length (l : List α) : elemBefore l l.length = l.getLast? := by
  rcases List.eq_nil_or_concat l with rfl | ⟨init, last, rfl⟩
  · rfl
  · simp [elemBefore]

lemma elemBefore_concat (h : i ≤ l.length) : elemBefore (l ++ [a]) i = elemBefore l i := by
  cases i with
  | zero => rfl
  | succ i => exact List.getElem?_append_left h

/-- The list goes on exactly if the new element names the last one. -/
theorem chained_concat : Chained pred (l ++ [a]) ↔ Chained pred l ∧ pred a = l.getLast? := by
  constructor
  · intro h
    constructor
    · intro i b hb
      have hlt : i < l.length := (List.getElem?_eq_some_iff.mp hb).1
      rw [h i b (by rwa [List.getElem?_append_left hlt]), elemBefore_concat hlt.le]
    · rw [h l.length a (by simp), elemBefore_concat le_rfl, elemBefore_length]
  · rintro ⟨h, ha⟩ i b hb
    rcases lt_trichotomy i l.length with hlt | rfl | hgt
    · rw [List.getElem?_append_left hlt] at hb
      rw [h i b hb, elemBefore_concat hlt.le]
    · obtain rfl : a = b := by simpa using hb
      rw [ha, elemBefore_concat le_rfl, elemBefore_length]
    · rw [List.getElem?_eq_none (by simp; omega)] at hb
      cases hb

/-- An element names the one before it. -/
lemma Chained.previous (h : Chained pred l) (ha : l[i]? = some a) (hb : l[i + 1]? = some b) :
    pred b = some a := by
  rw [h (i + 1) b hb]
  exact ha

/-- What two elements name is different. -/
theorem Chained.once (h : Chained pred l) (hnodup : l.Nodup) (ha : a ∈ l) (hb : b ∈ l)
    (heq : pred a = pred b) : a = b := by
  obtain ⟨i, hi⟩ := List.mem_iff_getElem?.mp ha
  obtain ⟨j, hj⟩ := List.mem_iff_getElem?.mp hb
  have hsame : elemBefore l i = elemBefore l j := by rw [← h i a hi, heq, h j b hj]
  have hlen : ∀ {k c}, l[k]? = some c → k < l.length := fun hk => (List.getElem?_eq_some_iff.mp hk).1
  have hij : i = j := by
    cases i with
    | zero =>
      cases j with
      | zero => rfl
      | succ j =>
        rw [elemBefore, elemBefore, eq_comm, List.getElem?_eq_none_iff] at hsame
        have := hlen hj
        omega
    | succ i =>
      cases j with
      | zero =>
        rw [elemBefore, elemBefore, List.getElem?_eq_none_iff] at hsame
        have := hlen hi
        omega
      | succ j =>
        have hi' := hlen hi
        have := (List.getElem?_inj (by omega) hnodup).mp hsame
        omega
  subst hij
  exact Option.some.inj (hi.symm.trans hj)

/-- Exactly one element names none. -/
theorem Chained.root (h : Chained pred l) (hnodup : l.Nodup) (hne : l ≠ []) :
    ∃! a, a ∈ l ∧ pred a = none := by
  obtain ⟨a, ha⟩ : ∃ a, l[0]? = some a :=
    ⟨l.head hne, List.getElem?_eq_some_iff.mpr ⟨List.length_pos_of_ne_nil hne, by
      rw [List.head_eq_getElem]⟩⟩
  have hroot : pred a = none := h 0 a ha
  refine ⟨a, ⟨List.mem_of_getElem? ha, hroot⟩, ?_⟩
  rintro b ⟨hb, hnone⟩
  exact h.once hnodup hb (List.mem_of_getElem? ha) (hnone.trans hroot.symm)

end Lib
