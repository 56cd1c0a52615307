import Mathlib

/-!
# Sliding windows over a log

A log is a sequence of times in their order.  What a queue keeps of it is a last part, and what it
has dropped has left every later window, so it counts the same in such a window as the log does.
-/

namespace Lib.Window

variable {T : Type*} [LinearOrder T]

/-- How much of a log is in a window: after `low`, and not after `high`. -/
def count (log : List T) (low high : T) : ℕ := (log.filter fun t => low < t ∧ t ≤ high).length

/-- What is kept of a log, where all that is dropped is not after the cutoff. -/
def Keeps (log : List T) (cutoff : T) (kept : List T) : Prop :=
  ∃ dropped, log = dropped ++ kept ∧ ∀ t ∈ dropped, t ≤ cutoff

variable {log kept : List T} {cutoff cutoff' low high t : T}

lemma Keeps.refl (log : List T) (cutoff : T) : Keeps log cutoff log :=
  ⟨[], rfl, nofun⟩

lemma Keeps.mono (h : Keeps log cutoff kept) (hle : cutoff ≤ cutoff') : Keeps log cutoff' kept := by
  obtain ⟨dropped, hlog, hdropped⟩ := h
  exact ⟨dropped, hlog, fun t ht => (hdropped t ht).trans hle⟩

/-- More may be dropped that is not after the cutoff. -/
lemma Keeps.dropWhile (h : Keeps log cutoff kept) :
    Keeps log cutoff (kept.dropWhile (· ≤ cutoff)) := by
  obtain ⟨dropped, hlog, hdropped⟩ := h
  refine ⟨dropped ++ kept.takeWhile (· ≤ cutoff), ?_, fun t ht => ?_⟩
  · rw [hlog, List.append_assoc, List.takeWhile_append_dropWhile]
  · rcases List.mem_append.mp ht with ht | ht
    · exact hdropped t ht
    · have htaken := List.mem_takeWhile_imp ht
      exact of_decide_eq_true htaken

/-- All of it may be dropped, if its last time is not after the cutoff. -/
lemma Keeps.nil (h : Keeps log cutoff kept) (hsorted : log.Pairwise (· ≤ ·))
    (hlast : ∀ t ∈ kept.getLast?, t ≤ cutoff) : Keeps log cutoff [] := by
  obtain ⟨dropped, rfl, hdropped⟩ := h
  refine ⟨dropped ++ kept, (List.append_nil _).symm, fun t ht => ?_⟩
  rcases List.mem_append.mp ht with ht | ht
  · exact hdropped t ht
  · have hne := List.ne_nil_of_mem ht
    have hle : t ≤ kept.getLast hne :=
      (List.pairwise_append.mp hsorted).2.1.rel_getLast ht
    exact hle.trans (hlast _ (List.getLast?_eq_some_getLast hne))

/-- What comes next is kept. -/
lemma Keeps.concat (h : Keeps log cutoff kept) : Keeps (log ++ [t]) cutoff (kept ++ [t]) := by
  obtain ⟨dropped, rfl, hdropped⟩ := h
  exact ⟨dropped, by rw [List.append_assoc], hdropped⟩

/-- In a sorted list what is not after the cutoff stands first. -/
lemma dropWhile_eq_filter (hsorted : kept.Pairwise (· ≤ ·)) :
    kept.dropWhile (· ≤ cutoff) = kept.filter (cutoff < ·) := by
  induction kept with
  | nil => rfl
  | cons t kept ih =>
    obtain ⟨hfirst, hrest⟩ := List.pairwise_cons.mp hsorted
    by_cases ht : t ≤ cutoff
    · rw [List.dropWhile_cons_of_pos (by simpa using ht), ih hrest,
        List.filter_cons_of_neg (by simpa using ht)]
    · have hall : ∀ t' ∈ t :: kept, decide (cutoff < t') = true := by
        intro t' ht'
        rw [decide_eq_true_eq]
        rcases List.mem_cons.mp ht' with rfl | ht'
        · exact not_le.mp ht
        · exact (not_le.mp ht).trans_le (hfirst t' ht')
      rw [List.dropWhile_cons_of_neg (by simpa using ht), List.filter_eq_self.mpr hall]

/-- What is kept counts as the log does. -/
theorem Keeps.count_eq (h : Keeps log low kept) (hsorted : log.Pairwise (· ≤ ·))
    (hhigh : ∀ t ∈ log, t ≤ high) :
    count log low high = (kept.dropWhile (· ≤ low)).length := by
  obtain ⟨dropped, rfl, hdropped⟩ := h
  have hnone : dropped.filter (fun t => low < t ∧ t ≤ high) = [] := by
    rw [List.filter_eq_nil_iff]
    intro t ht
    rw [decide_eq_true_eq]
    exact fun hwindow => absurd (hdropped t ht) (not_le.mpr hwindow.1)
  have hsame : kept.filter (fun t => low < t ∧ t ≤ high) = kept.filter (low < ·) := by
    refine List.filter_congr fun t ht => ?_
    rw [decide_eq_decide]
    exact ⟨fun hwindow => hwindow.1, fun hlow => ⟨hlow, hhigh t (List.mem_append_right _ ht)⟩⟩
  rw [count, List.filter_append, hnone, List.nil_append, hsame,
    dropWhile_eq_filter (List.pairwise_append.mp hsorted).2.1]

lemma count_concat : count (log ++ [t]) low high =
    count log low high + if low < t ∧ t ≤ high then 1 else 0 := by
  rw [count, List.filter_append, List.length_append, ← count]
  by_cases ht : low < t ∧ t ≤ high
  · rw [List.filter_cons_of_pos (by simpa using ht), if_pos ht]
    rfl
  · rw [List.filter_cons_of_neg (by simpa using ht), if_neg ht]
    rfl

/-- A window that begins later counts less, of times that both windows end after. -/
lemma count_mono {high' : T} (hlow : low ≤ cutoff) (hhigh : ∀ t ∈ log, t ≤ high') :
    count log cutoff high ≤ count log low high' := by
  rw [count, count, ← List.countP_eq_length_filter, ← List.countP_eq_length_filter]
  refine List.countP_mono_left fun t ht hwindow => ?_
  rw [decide_eq_true_eq] at hwindow ⊢
  exact ⟨hlow.trans_lt hwindow.1, hhigh t ht⟩

end Lib.Window
