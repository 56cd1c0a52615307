import Mathlib

/-!
# The pages of a list

A list is shown in pages of `limit` elements.  There is always a first page, and the last one is
the first after which nothing is left.
-/

namespace Lib

variable {α : Type*} {limit m k : ℕ}

/-- The `k`-th page of a list, from the 0th. -/
def page (limit k : ℕ) (l : List α) : List α := (l.drop (k * limit)).take limit

/-- How many pages show `m` elements: `max 1 ⌈m / limit⌉`. -/
def pageCount (limit m : ℕ) : ℕ := max 1 ((m + limit - 1) / limit)

/-- There is a further page exactly if this one does not reach the end. -/
lemma succ_lt_pageCount (hlimit : 0 < limit) :
    k + 1 < pageCount limit m ↔ k * limit + limit < m := by
  have hceil : k + 1 < (m + limit - 1) / limit ↔ k * limit + limit < m := by
    rw [Nat.lt_iff_add_one_le, Nat.le_div_iff_mul_le hlimit]
    have hmul : (k + 1 + 1) * limit = k * limit + limit + limit := by ring
    omega
  rw [pageCount, lt_max_iff, hceil]
  constructor
  · rintro (h | h)
    · omega
    · exact h
  · exact fun h => .inr h

/-- The pages reach the end. -/
lemma le_pageCount_mul (hlimit : 0 < limit) : m ≤ pageCount limit m * limit := by
  by_contra hmore
  have hpos : 1 ≤ pageCount limit m := le_max_left _ _
  have hsucc := (succ_lt_pageCount (k := pageCount limit m - 1) (m := m) hlimit).mpr ?_
  · omega
  · have hmul : (pageCount limit m - 1) * limit + limit = pageCount limit m * limit := by
      rw [← Nat.succ_mul, Nat.succ_eq_add_one, Nat.sub_add_cancel hpos]
    omega

/-- The first pages show the first elements. -/
lemma flatMap_page (limit n : ℕ) (l : List α) :
    ((List.range n).flatMap fun k => page limit k l) = l.take (n * limit) := by
  induction n with
  | zero => simp
  | succ n ih =>
    rw [List.range_succ, List.flatMap_append, ih, List.flatMap_singleton, page, Nat.succ_mul,
      List.take_add]

/-- The pages show the list, without a gap and without a repetition. -/
theorem flatMap_pages (hlimit : 0 < limit) (l : List α) :
    ((List.range (pageCount limit l.length)).flatMap fun k => page limit k l) = l := by
  rw [flatMap_page]
  exact List.take_of_length_le (le_pageCount_mul hlimit)

end Lib
