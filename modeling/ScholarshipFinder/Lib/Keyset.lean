import Mathlib

/-!
# Keyset paging

A list in strictly increasing order is read in pages: the first elements above a key, of which the
last is the key of the next page.  A page that is not full is the last one.
-/

namespace Lib

variable {α : Type*} [LinearOrder α]

/-- The key lies before the element. -/
def Before (after : Option α) (a : α) : Prop := ∀ k ∈ after, k < a

instance (after : Option α) (a : α) : Decidable (Before after a) :=
  inferInstanceAs (Decidable (∀ k ∈ after, k < a))

/-- The first elements above a key. -/
def keysetPage (limit : ℕ) (after : Option α) (l : List α) : List α :=
  (l.filter (Before after ·)).take limit

/-- The key of the next page, if this one is full. -/
def nextKey (limit : ℕ) (page : List α) : Option α :=
  if page.length = limit then page.getLast? else none

section

variable {limit : ℕ} {after : Option α} {l : List α} {a k : α}

lemma mem_keysetPage (h : a ∈ keysetPage limit after l) : a ∈ l ∧ Before after a := by
  have hmem := List.mem_filter.mp (List.mem_of_mem_take h)
  exact ⟨hmem.1, of_decide_eq_true hmem.2⟩

lemma pairwise_keysetPage (hl : l.Pairwise (· < ·)) :
    (keysetPage limit after l).Pairwise (· < ·) :=
  (hl.sublist List.filter_sublist).sublist (List.take_sublist _ _)

omit [LinearOrder α] in
/-- The next key is the last element of its page. -/
lemma nextKey_mem {page : List α} (h : nextKey limit page = some k) : k ∈ page := by
  unfold nextKey at h
  split at h
  · exact List.mem_of_getLast? h
  · cases h

/-- The elements of a page are not above its next key. -/
lemma le_nextKey {page : List α} (hpage : page.Pairwise (· < ·))
    (hk : nextKey limit page = some k) (ha : a ∈ page) : a ≤ k := by
  unfold nextKey at hk
  split at hk
  · obtain ⟨init, rfl⟩ := List.getLast?_eq_some_iff.mp hk
    rw [List.pairwise_append] at hpage
    rcases List.mem_append.mp ha with hinit | hlast
    · exact (hpage.2.2 a hinit k (List.mem_singleton_self k)).le
    · rw [List.mem_singleton.mp hlast]
  · cases hk

/-- A page leaves out nothing between its two keys, and nothing at all if it is the last one. -/
theorem mem_keysetPage_of_le (hl : l.Pairwise (· < ·)) (hlimit : 0 < limit) (ha : a ∈ l)
    (hafter : Before after a)
    (hnext : ∀ k ∈ nextKey limit (keysetPage limit after l), a ≤ k) :
    a ∈ keysetPage limit after l := by
  have hmem : a ∈ l.filter (Before after ·) :=
    List.mem_filter.mpr ⟨ha, decide_eq_true hafter⟩
  have hsorted : (l.filter (Before after ·)).Pairwise (· < ·) := hl.sublist List.filter_sublist
  rw [← List.take_append_drop limit (l.filter (Before after ·))] at hmem hsorted
  rcases List.mem_append.mp hmem with htake | hdrop
  · exact htake
  · exfalso
    -- something is left out, so the page is full and its last element is below `a`
    have hfull : (keysetPage limit after l).length = limit := by
      have hlong := List.length_pos_of_mem hdrop
      rw [List.length_drop] at hlong
      rw [keysetPage, List.length_take]
      omega
    have hne : keysetPage limit after l ≠ [] := by
      rintro hnil
      rw [hnil, List.length_nil] at hfull
      omega
    have hlast : nextKey limit (keysetPage limit after l) =
        some ((keysetPage limit after l).getLast hne) := by
      rw [nextKey, if_pos hfull, List.getLast?_eq_some_getLast hne]
    have hle := hnext _ hlast
    have hlt := (List.pairwise_append.mp hsorted).2.2 _ (List.getLast_mem hne) a hdrop
    exact absurd hle (not_le_of_gt hlt)

end

end Lib
