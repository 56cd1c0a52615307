import ScholarshipFinder.Lib.Run
import ScholarshipFinder.Lib.Table

/-!
# Tables that are written by upserts

An upsert inserts a row, or merges it into the one that its key has already.  What a run of upserts
leaves under a key is the fold of the merges over the entries of that key, in their order; the other
entries do not matter to it.  So a column that merging overwrites is the one of the last entry.
-/

namespace Lib

namespace Table

variable {K R : Type*} [DecidableEq K]

/-- What a new row makes of the one that is stored. -/
def merged (merge : R → R → R) (stored : Option R) (r : R) : R :=
  (stored.map fun old => merge old r).getD r

/-- `INSERT … ON CONFLICT (key) DO UPDATE`, with what the update makes of the two rows. -/
def upsert (merge : R → R → R) (t : Table K R) (entry : K × R) : Table K R :=
  t.insert entry.1 (merged merge (t.row entry.1) entry.2)

variable {merge : R → R → R} {t : Table K R} {entries : List (K × R)} {entry : K × R} {k : K}
  {r : R}

lemma row_upsert : (t.upsert merge entry).row k =
    if k = entry.1 then some (merged merge (t.row k) entry.2) else t.row k := by
  rw [upsert, row_insert]
  split
  · next h => rw [h]
  · rfl

/-- The keys of the result are those that were there and those that were entered. -/
lemma isSome_row_run : ((run (upsert merge) t entries).row k).isSome ↔
    (t.row k).isSome ∨ ∃ r, (k, r) ∈ entries := by
  induction entries generalizing t with
  | nil => simp
  | cons entry entries ih =>
    rw [run_cons, ih, row_upsert]
    obtain ⟨j, new⟩ := entry
    by_cases hk : k = j
    · subst hk
      simp
    · simp [hk]

/-- A property that holds of what is entered, and that merging keeps, holds of every row. -/
theorem forall_row_run {P : R → Prop} (hmerge : ∀ old new, P old → P new → P (merge old new))
    (ht : ∀ r, t.row k = some r → P r) (hentries : ∀ r, (k, r) ∈ entries → P r)
    (h : (run (upsert merge) t entries).row k = some r) : P r := by
  induction entries generalizing t with
  | nil => exact ht r h
  | cons entry entries ih =>
    refine ih (t := t.upsert merge entry) ?_ (fun r hr => hentries r (List.mem_cons_of_mem _ hr)) h
    intro stored hstored
    rw [row_upsert] at hstored
    split at hstored
    · next hk =>
      obtain rfl := Option.some.inj hstored
      have hnew : P entry.2 := hentries entry.2 (by rw [hk]; exact List.mem_cons_self)
      cases hrow : t.row k with
      | none => exact hnew
      | some old => exact hmerge old entry.2 (ht old hrow) hnew
    · exact ht stored hstored

/-- `INSERT … ON CONFLICT DO NOTHING`, with the number of the rows that it has returned. -/
def addNew (p : ℕ × Table K R) (entry : K × R) : ℕ × Table K R :=
  if (p.2.row entry.1).isSome then p else (p.1 + 1, p.2.insert entry.1 entry.2)

variable {p : ℕ × Table K R}

lemma addNew_of_isSome (h : (p.2.row entry.1).isSome) : addNew p entry = p := if_pos h

/-- A row that is there stays as it is. -/
lemma row_addNew_of_some (h : p.2.row k = some r) : (addNew p entry).2.row k = some r := by
  unfold addNew
  split
  · exact h
  · next habsent => exact row_insert_of_some (by simpa using habsent) h _

lemma isSome_row_addNew : ((addNew p entry).2.row entry.1).isSome := by
  unfold addNew
  split
  · assumption
  · rw [row_insert_self]
    rfl

/-- The count is that of the new keys. -/
lemma length_keys_addNew :
    (addNew p entry).2.keys.length + p.1 = p.2.keys.length + (addNew p entry).1 := by
  unfold addNew
  split
  · rfl
  · next habsent =>
    rw [keys_insert (by simpa using habsent), List.length_append, List.length_singleton]
    omega

lemma row_foldl_addNew_of_some (h : p.2.row k = some r) :
    (entries.foldl addNew p).2.row k = some r := by
  induction entries generalizing p with
  | nil => exact h
  | cons entry entries ih => exact ih (row_addNew_of_some h)

/-- Every key that is entered is there afterwards. -/
lemma isSome_row_foldl_addNew (hentry : entry ∈ entries) :
    ((entries.foldl addNew p).2.row entry.1).isSome := by
  induction entries generalizing p with
  | nil => cases hentry
  | cons first entries ih =>
    rcases List.mem_cons.mp hentry with rfl | hentry
    · have hadded : ((addNew p entry).2.row entry.1).isSome := isSome_row_addNew
      obtain ⟨r, hr⟩ := Option.isSome_iff_exists.mp hadded
      rw [List.foldl_cons, row_foldl_addNew_of_some hr]
      rfl
    · exact ih hentry

/-- Where every key is there, nothing is added. -/
lemma foldl_addNew_of_present (h : ∀ entry ∈ entries, (p.2.row entry.1).isSome) :
    entries.foldl addNew p = p := by
  induction entries with
  | nil => rfl
  | cons entry entries ih =>
    rw [List.foldl_cons, addNew_of_isSome (h entry List.mem_cons_self)]
    exact ih fun e he => h e (List.mem_cons_of_mem entry he)

lemma length_keys_foldl_addNew :
    (entries.foldl addNew p).2.keys.length + p.1 =
      p.2.keys.length + (entries.foldl addNew p).1 := by
  induction entries generalizing p with
  | nil => rfl
  | cons entry entries ih =>
    have hstep : (addNew p entry).2.keys.length + p.1 =
        p.2.keys.length + (addNew p entry).1 := length_keys_addNew
    have hrest := ih (p := addNew p entry)
    rw [List.foldl_cons]
    omega

lemma fst_foldl_addNew_le : (entries.foldl addNew p).1 ≤ p.1 + entries.length := by
  induction entries generalizing p with
  | nil => exact le_rfl
  | cons entry entries ih =>
    have hstep : (addNew p entry).1 ≤ p.1 + 1 := by
      unfold addNew
      split
      · exact Nat.le_succ _
      · exact le_rfl
    have hrest := ih (p := addNew p entry)
    rw [List.foldl_cons, List.length_cons]
    omega

/-- A row of the result was there, or is one that was entered. -/
lemma row_foldl_addNew_cases (h : (entries.foldl addNew p).2.row k = some r) :
    p.2.row k = some r ∨ p.2.row k = none ∧ (k, r) ∈ entries := by
  induction entries generalizing p with
  | nil => exact .inl h
  | cons entry entries ih =>
    rcases ih h with hstep | ⟨hnone, hmem⟩
    · unfold addNew at hstep
      split at hstep
      · exact .inl hstep
      · next habsent =>
        rw [row_insert] at hstep
        split at hstep
        · next hk =>
          obtain rfl := Option.some.inj hstep
          subst hk
          exact .inr ⟨by simpa using habsent, List.mem_cons_self⟩
        · exact .inl hstep
    · refine .inr ⟨?_, List.mem_cons_of_mem entry hmem⟩
      by_contra hsome
      obtain ⟨old, hold⟩ := Option.ne_none_iff_exists'.mp hsome
      rw [row_addNew_of_some hold] at hnone
      cases hnone

end Table

end Lib
