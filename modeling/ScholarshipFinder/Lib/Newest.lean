import Mathlib

/-!
# The first row of an order that has ties

`ORDER BY key DESC LIMIT 1` answers one of the rows with the greatest key, and which of them is up
to the database.  `pick` is that choice, as a number; every row with the greatest key is picked by
some number.
-/

namespace Lib

variable {α β : Type*} [LinearOrder β]

/-- The elements with the greatest key. -/
def newest (key : α → β) (l : List α) : List α :=
  l.filter fun a => l.all fun b => key b ≤ key a

/-- One of the elements with the greatest key. -/
def pick (key : α → β) (choice : ℕ) (l : List α) : Option α :=
  (newest key l)[choice % (newest key l).length]?

variable {key : α → β} {l : List α} {choice : ℕ} {a : α}

lemma mem_newest : a ∈ newest key l ↔ a ∈ l ∧ ∀ b ∈ l, key b ≤ key a := by
  rw [newest, List.mem_filter, List.all_eq_true]
  simp only [decide_eq_true_eq]

lemma newest_ne_nil (h : l ≠ []) : newest key l ≠ [] := by
  classical
  obtain ⟨a, ha, hmax⟩ := l.toFinset.exists_max_image key (List.toFinset_nonempty_iff l |>.mpr h)
  refine List.ne_nil_of_mem (mem_newest.mpr ⟨List.mem_toFinset.mp ha, ?_⟩)
  exact fun b hb => hmax b (List.mem_toFinset.mpr hb)

/-- What is picked has the greatest key. -/
lemma mem_newest_of_pick (h : pick key choice l = some a) : a ∈ newest key l :=
  List.mem_of_getElem? h

lemma mem_of_pick (h : pick key choice l = some a) : a ∈ l :=
  (mem_newest.mp (mem_newest_of_pick h)).1

/-- Something is picked from every list that has an element. -/
lemma pick_eq_none_iff : pick key choice l = none ↔ l = [] := by
  constructor
  · intro h
    by_contra hne
    have hpos : 0 < (newest key l).length := List.length_pos_of_ne_nil (newest_ne_nil hne)
    rw [pick, List.getElem?_eq_none_iff] at h
    exact absurd (Nat.mod_lt choice hpos) (by omega)
  · rintro rfl
    rfl

end Lib
