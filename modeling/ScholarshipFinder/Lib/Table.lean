import Mathlib

/-!
# Keyed tables

A table maps primary keys to rows and remembers the order in which its keys were
inserted.  The list of keys and the map carry the proof that they describe the same
rows, so that a scan over the keys meets every row exactly once.
-/

namespace Lib

/-- A finite table of rows `R` under the primary keys `K`. -/
structure Table (K R : Type*) where
  /-- The row stored under a key. -/
  row : K → Option R
  /-- The keys of the table, in insertion order. -/
  keys : List K
  nodup : keys.Nodup
  mem_keys : ∀ k, k ∈ keys ↔ (row k).isSome

namespace Table

variable {K R : Type*}

/-- The table without rows. -/
def empty : Table K R where
  row := fun _ => none
  keys := []
  nodup := List.nodup_nil
  mem_keys := by simp

variable [DecidableEq K]

/-- Rewrite the row stored under `k`, if there is one. -/
def modify (t : Table K R) (k : K) (f : R → R) : Table K R where
  row := Function.update t.row k ((t.row k).map f)
  keys := t.keys
  nodup := t.nodup
  mem_keys := by
    intro j
    rw [t.mem_keys j]
    by_cases hj : j = k
    · subst hj
      simp
    · simp [Function.update_of_ne hj]

/-- Store `r` under `k`, whether or not the key is taken. -/
def insert (t : Table K R) (k : K) (r : R) : Table K R where
  row := Function.update t.row k (some r)
  keys := if k ∈ t.keys then t.keys else t.keys ++ [k]
  nodup := by
    split
    · exact t.nodup
    · next hk => simpa using t.nodup.concat hk
  mem_keys := by
    intro j
    by_cases hj : j = k
    · subst hj
      by_cases hmem : j ∈ t.keys <;> simp [hmem]
    · by_cases hmem : k ∈ t.keys <;> simp [hmem, hj, t.mem_keys]

/-- The first key, in insertion order, whose row satisfies `p`. -/
def findKey (t : Table K R) (p : R → Bool) : Option K :=
  t.keys.find? fun k => (t.row k).any p

@[simp] lemma row_modify_self (t : Table K R) (k : K) (f : R → R) :
    (t.modify k f).row k = (t.row k).map f := by
  simp [modify]

lemma row_modify_of_ne (t : Table K R) {j k : K} (h : j ≠ k) (f : R → R) :
    (t.modify k f).row j = t.row j := by
  simp [modify, Function.update_of_ne h]

@[simp] lemma keys_modify (t : Table K R) (k : K) (f : R → R) : (t.modify k f).keys = t.keys :=
  rfl

@[simp] lemma row_insert_self (t : Table K R) (k : K) (r : R) :
    (t.insert k r).row k = some r := by
  simp [insert]

lemma row_insert_of_ne (t : Table K R) {j k : K} (h : j ≠ k) (r : R) :
    (t.insert k r).row j = t.row j := by
  simp [insert, Function.update_of_ne h]

/-- Rewriting a list of distinct keys, each in its own way, rewrites each of them once. -/
lemma row_foldl_modify_key {ks : List K} (hks : ks.Nodup) (t : Table K R) (f : K → R → R)
    (j : K) :
    (ks.foldl (fun t k => t.modify k (f k)) t).row j =
      if j ∈ ks then (t.row j).map (f j) else t.row j := by
  induction ks generalizing t with
  | nil => simp
  | cons k ks ih =>
    obtain ⟨hk, hks⟩ := List.nodup_cons.mp hks
    rw [List.foldl_cons, ih hks]
    by_cases hj : j = k
    · subst hj
      simp [hk]
    · simp [hj, row_modify_of_ne]

/-- Rewriting a list of distinct keys rewrites each of them once. -/
lemma row_foldl_modify {ks : List K} (hks : ks.Nodup) (t : Table K R) (f : R → R) (j : K) :
    (ks.foldl (fun t k => t.modify k f) t).row j =
      if j ∈ ks then (t.row j).map f else t.row j :=
  row_foldl_modify_key hks t (fun _ => f) j

@[simp] lemma keys_foldl_modify (ks : List K) (t : Table K R) (f : R → R) :
    (ks.foldl (fun t k => t.modify k f) t).keys = t.keys := by
  induction ks generalizing t with
  | nil => rfl
  | cons k ks ih => rw [List.foldl_cons, ih, keys_modify]

omit [DecidableEq K] in
/-- What `findKey` answers is a row of the table that satisfies the predicate. -/
lemma findKey_eq_some {t : Table K R} {p : R → Bool} {k : K} (h : t.findKey p = some k) :
    ∃ r, t.row k = some r ∧ p r = true := by
  have hp := List.find?_some h
  rwa [Option.any_eq_true] at hp

omit [DecidableEq K] in
/-- Where `findKey` finds nothing, there is no such row. -/
lemma findKey_eq_none {t : Table K R} {p : R → Bool} :
    t.findKey p = none ↔ ∀ k r, t.row k = some r → p r = false := by
  simp only [findKey, List.find?_eq_none, Bool.not_eq_true]
  constructor
  · intro h k r hrow
    have hk := h k ((t.mem_keys k).mpr (by simp [hrow]))
    rwa [hrow, Option.any_some] at hk
  · intro h k _
    cases hrow : t.row k with
    | none => rfl
    | some r => exact h k r hrow

/-! ## What a write adds -/

lemma row_insert (t : Table K R) (j k : K) (r : R) :
    (t.insert k r).row j = if j = k then some r else t.row j := by
  by_cases h : j = k
  · rw [if_pos h, h, row_insert_self]
  · rw [if_neg h, row_insert_of_ne t h]

lemma row_modify (t : Table K R) (j k : K) (f : R → R) :
    (t.modify k f).row j = if j = k then (t.row j).map f else t.row j := by
  by_cases h : j = k
  · rw [if_pos h, h, row_modify_self]
  · rw [if_neg h, row_modify_of_ne t h]

@[simp] lemma isSome_row_modify (t : Table K R) (j k : K) (f : R → R) :
    ((t.modify k f).row j).isSome = (t.row j).isSome := by
  rw [row_modify]
  split
  · exact Option.isSome_map
  · rfl

omit [DecidableEq K] in
lemma notMem_keys {t : Table K R} {k : K} (h : t.row k = none) : k ∉ t.keys := by
  rw [t.mem_keys, h]
  simp

/-- The key of a new row is the last one. -/
lemma keys_insert {t : Table K R} {k : K} (h : t.row k = none) (r : R) :
    (t.insert k r).keys = t.keys ++ [k] :=
  if_neg (notMem_keys h)

/-- A row that is there stays when a new one is inserted. -/
lemma row_insert_of_some {t : Table K R} {j k : K} (hk : t.row k = none) {r : R}
    (h : t.row j = some r) (new : R) : (t.insert k new).row j = some r := by
  have hne : j ≠ k := by
    rintro rfl
    rw [hk] at h
    cases h
  rw [row_insert_of_ne t hne, h]

/-- What is found stays found when a row is inserted. -/
lemma findKey_insert_of_some {t : Table K R} {j k : K} (hk : t.row k = none) {p : R → Bool}
    (h : t.findKey p = some j) (r : R) : (t.insert k r).findKey p = some j := by
  have hcongr : t.keys.find? (fun k' => ((t.insert k r).row k').any p) =
      t.keys.find? (fun k' => (t.row k').any p) := by
    refine List.find?_congr fun k' hk' => ?_
    have hne : k' ≠ k := fun heq => notMem_keys hk (heq ▸ hk')
    rw [row_insert_of_ne t hne]
  rw [findKey, keys_insert hk, List.find?_append, hcongr]
  exact Option.or_of_isSome (by rw [findKey] at h; rw [h]; rfl) |>.trans h

/-- Where nothing was found, an inserted row is found if it satisfies the predicate. -/
lemma findKey_insert_of_none {t : Table K R} {k : K} (hk : t.row k = none) {p : R → Bool}
    (h : t.findKey p = none) (r : R) :
    (t.insert k r).findKey p = if p r then some k else none := by
  have hcongr : t.keys.find? (fun k' => ((t.insert k r).row k').any p) =
      t.keys.find? (fun k' => (t.row k').any p) := by
    refine List.find?_congr fun k' hk' => ?_
    have hne : k' ≠ k := fun heq => notMem_keys hk (heq ▸ hk')
    rw [row_insert_of_ne t hne]
  rw [findKey] at h
  rw [findKey, keys_insert hk, List.find?_append, hcongr, h, Option.none_or]
  by_cases hp : p r = true <;> simp [List.find?, hp]

/-- A write that the predicate does not see changes nothing that is found. -/
lemma findKey_modify (t : Table K R) (k : K) {f : R → R} {p : R → Bool}
    (h : ∀ r, p (f r) = p r) : (t.modify k f).findKey p = t.findKey p := by
  refine List.find?_congr fun j _ => ?_
  rw [row_modify]
  split
  · rw [Option.any_map]
    exact congrArg (fun q => (t.row j).any q) (funext h)
  · rfl

/-! ## Numeric keys -/

/-- A key above every key of the table. -/
def nextKey (t : Table ℕ R) : ℕ := t.keys.foldr max 0 + 1

lemma le_foldr_max {l : List ℕ} {k : ℕ} (h : k ∈ l) : k ≤ l.foldr max 0 := by
  induction l with
  | nil => simp at h
  | cons a l ih =>
    rcases List.mem_cons.mp h with rfl | h
    · exact le_max_left _ _
    · exact (ih h).trans (le_max_right _ _)

@[simp] lemma row_nextKey (t : Table ℕ R) : t.row t.nextKey = none := by
  by_contra hne
  have hmem : t.nextKey ∈ t.keys := by
    rw [t.mem_keys, Option.isSome_iff_ne_none]
    exact hne
  have hle := le_foldr_max hmem
  simp only [nextKey] at hle
  omega

end Table

end Lib
