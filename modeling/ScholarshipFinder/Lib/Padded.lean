import Mathlib

/-!
# Numbers of a fixed width

Numbers that are written with the same number of digits are ordered as their texts are.  A text of
several such fields, in a form that says how wide they are and what stands after each, is ordered as
the list of its numbers.
-/

namespace Lib.Padded

/-- A number in decimal, with this many digits. -/
def padded : ℕ → ℕ → List Char
  | 0, _ => []
  | k + 1, n => padded k (n / 10) ++ [Nat.digitChar (n % 10)]

/-- The widths of the fields, and what stands after each of them. -/
abbrev Form := List (ℕ × List Char)

def fields : Form → List ℕ → List Char
  | (k, sep) :: form, n :: ns => padded k n ++ (sep ++ fields form ns)
  | _, _ => []

/-- The numbers are as many as the fields, and fit. -/
def Fits (form : Form) (ns : List ℕ) : Prop := List.Forall₂ (fun f n => n < 10 ^ f.1) form ns

example : String.ofList (fields [(4, ['-']), (2, [])] [33, 7]) = "0033-07" := by decide

lemma length_padded (k n : ℕ) : (padded k n).length = k := by
  induction k generalizing n with
  | zero => rfl
  | succ k ih => rw [padded, List.length_append, ih, List.length_singleton]

/-- Texts of one length are compared before what stands after them. -/
lemma append_lt_append_iff {s s' t t' : List Char} (h : s.length = s'.length) :
    s ++ t < s' ++ t' ↔ s < s' ∨ s = s' ∧ t < t' := by
  induction s generalizing s' with
  | nil =>
    obtain rfl := List.length_eq_zero_iff.mp h.symm
    simp
  | cons c s ih =>
    cases s' with
    | nil => cases h
    | cons d s' =>
      rw [List.cons_append, List.cons_append, List.cons_lt_cons_iff, List.cons_lt_cons_iff,
        ih (Nat.succ.inj h), List.cons.injEq]
      tauto

lemma digitChar_lt_iff : ∀ m < 10, ∀ n < 10,
    (Nat.digitChar m < Nat.digitChar n ↔ m < n) ∧
      (Nat.digitChar m = Nat.digitChar n ↔ m = n) := by
  decide

lemma padded_order {k m n : ℕ} (hm : m < 10 ^ k) (hn : n < 10 ^ k) :
    (padded k m < padded k n ↔ m < n) ∧ (padded k m = padded k n ↔ m = n) := by
  induction k generalizing m n with
  | zero =>
    rw [pow_zero, Nat.lt_one_iff] at hm hn
    subst hm hn
    simp [padded]
  | succ k ih =>
    have hm' : m / 10 < 10 ^ k := by rw [pow_succ] at hm; omega
    have hn' : n / 10 < 10 ^ k := by rw [pow_succ] at hn; omega
    obtain ⟨hlt, heq⟩ := ih hm' hn'
    obtain ⟨hlt', heq'⟩ := digitChar_lt_iff (m % 10) (Nat.mod_lt m (by decide)) (n % 10)
      (Nat.mod_lt n (by decide))
    have hlength : (padded k (m / 10)).length = (padded k (n / 10)).length := by
      rw [length_padded, length_padded]
    constructor
    · rw [padded, padded, append_lt_append_iff hlength, hlt, heq, List.cons_lt_cons_iff, hlt']
      simp only [List.not_lt_nil, and_false, or_false]
      omega
    · have happend : padded k (m / 10) ++ [Nat.digitChar (m % 10)] =
          padded k (n / 10) ++ [Nat.digitChar (n % 10)] ↔
            padded k (m / 10) = padded k (n / 10) ∧
              Nat.digitChar (m % 10) = Nat.digitChar (n % 10) := by
        refine ⟨fun h => ?_, fun ⟨h, h'⟩ => by rw [h, h']⟩
        obtain ⟨hfirst, hlast⟩ := List.append_inj h hlength
        exact ⟨hfirst, List.singleton_inj.mp hlast⟩
      rw [padded, padded, happend, heq, heq']
      omega

/-- The order of two texts that begin with fields of one form. -/
theorem fields_append_lt_iff {form : Form} {ms ns : List ℕ} (hms : Fits form ms)
    (hns : Fits form ns) {t t' : List Char} :
    fields form ms ++ t < fields form ns ++ t' ↔ ms < ns ∨ ms = ns ∧ t < t' := by
  induction form generalizing ms ns with
  | nil =>
    cases hms
    cases hns
    simp [fields]
  | cons f form ih =>
    obtain ⟨k, sep⟩ := f
    cases hms with
    | cons hm hms =>
      cases hns with
      | cons hn hns =>
        next m ms n ns =>
        obtain ⟨hlt, heq⟩ := padded_order hm hn
        have hlength : (padded k m).length = (padded k n).length := by
          rw [length_padded, length_padded]
        have hsep : sep ++ (fields form ms ++ t) < sep ++ (fields form ns ++ t') ↔
            fields form ms ++ t < fields form ns ++ t' := by
          rw [append_lt_append_iff rfl]
          simp
        rw [fields, fields]
        simp only [List.append_assoc]
        rw [append_lt_append_iff hlength, hsep, hlt, heq, ih hms hns, List.cons_lt_cons_iff,
          List.cons.injEq]
        tauto

end Lib.Padded
