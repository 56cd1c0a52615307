import Mathlib

/-!
# The text of a UUID

A UUID is a number below `2 ^ 128`, written as 32 hexadecimal digits in five groups.
-/

namespace Lib

/-- The last `k` hexadecimal digits of `n`. -/
def hexDigits : ℕ → ℕ → List Char
  | 0, _ => []
  | k + 1, n => hexDigits k (n / 16) ++ [Nat.digitChar (n % 16)]

/-- The digits in groups of 8, 4, 4, 4 and 12. -/
def hyphenate (digits : List Char) : List Char :=
  digits.take 8 ++ '-' :: ((digits.drop 8).take 4 ++ '-' ::
    ((digits.drop 12).take 4 ++ '-' :: ((digits.drop 16).take 4 ++ '-' :: digits.drop 20)))

/-- `str(uuid.UUID(int=n))` -/
def uuidText (n : ℕ) : String := String.ofList (hyphenate (hexDigits 32 n))

@[simp] lemma length_hexDigits (k n : ℕ) : (hexDigits k n).length = k := by
  induction k generalizing n with
  | zero => rfl
  | succ k ih => rw [hexDigits, List.length_append, ih, List.length_singleton]

lemma digitChar_inj : ∀ m < 16, ∀ n < 16, Nat.digitChar m = Nat.digitChar n → m = n := by
  decide

lemma digitChar_ne_hyphen : ∀ n < 16, Nat.digitChar n ≠ '-' := by
  decide

/-- Enough digits determine the number. -/
lemma hexDigits_inj {k m n : ℕ} (hm : m < 16 ^ k) (hn : n < 16 ^ k)
    (h : hexDigits k m = hexDigits k n) : m = n := by
  induction k generalizing m n with
  | zero =>
    rw [pow_zero, Nat.lt_one_iff] at hm hn
    rw [hm, hn]
  | succ k ih =>
    rw [hexDigits, hexDigits] at h
    obtain ⟨hinit, hlast⟩ := List.append_inj' h rfl
    have hdiv : m / 16 = n / 16 := ih (by omega) (by omega) hinit
    have hmod : m % 16 = n % 16 :=
      digitChar_inj _ (Nat.mod_lt _ (by decide)) _ (Nat.mod_lt _ (by decide))
        (List.singleton_inj.mp hlast)
    omega

lemma hexDigits_ne_hyphen (k n : ℕ) : ∀ c ∈ hexDigits k n, c ≠ '-' := by
  induction k generalizing n with
  | zero => simp [hexDigits]
  | succ k ih =>
    intro c hc
    rw [hexDigits, List.mem_append, List.mem_singleton] at hc
    rcases hc with hc | rfl
    · exact ih _ c hc
    · exact digitChar_ne_hyphen _ (Nat.mod_lt _ (by decide))

lemma length_hyphenate {digits : List Char} (h : digits.length = 32) :
    (hyphenate digits).length = 36 := by
  simp [hyphenate, h]

/-- Without the hyphens, the digits are what they were. -/
lemma filter_hyphenate {digits : List Char} (h : ∀ c ∈ digits, c ≠ '-') :
    (hyphenate digits).filter (· ≠ '-') = digits := by
  have hkept : ∀ part : List Char, part ⊆ digits → part.filter (· ≠ '-') = part := by
    intro part hpart
    exact List.filter_eq_self.mpr fun c hc => by simpa using h c (hpart hc)
  have htake : ∀ i j, (digits.drop i).take j ⊆ digits := by
    intro i j c hc
    exact List.drop_subset i digits (List.take_subset j _ hc)
  have hjoin : ∀ i j, (digits.drop i).take j ++ digits.drop (i + j) = digits.drop i := by
    intro i j
    rw [← List.drop_drop, List.take_append_drop]
  rw [hyphenate, List.filter_append, List.filter_cons_of_neg (by simp), List.filter_append,
    List.filter_cons_of_neg (by simp), List.filter_append, List.filter_cons_of_neg (by simp),
    List.filter_append, List.filter_cons_of_neg (by simp), hkept _ (List.take_subset 8 _),
    hkept _ (htake 8 4), hkept _ (htake 12 4), hkept _ (htake 16 4),
    hkept _ (List.drop_subset 20 _), hjoin 16 4, hjoin 12 4, hjoin 8 4, List.take_append_drop]

@[simp] lemma length_uuidText (n : ℕ) : (uuidText n).length = 36 := by
  rw [uuidText, String.length_ofList, length_hyphenate (length_hexDigits 32 n)]

/-- A UUID is determined by its text. -/
theorem uuidText_inj {m n : ℕ} (hm : m < 2 ^ 128) (hn : n < 2 ^ 128)
    (h : uuidText m = uuidText n) : m = n := by
  have hdigits : hyphenate (hexDigits 32 m) = hyphenate (hexDigits 32 n) :=
    String.ofList_injective h
  have hm' : m < 16 ^ 32 := hm
  refine hexDigits_inj hm' hn ?_
  rw [← filter_hyphenate (hexDigits_ne_hyphen 32 m), hdigits,
    filter_hyphenate (hexDigits_ne_hyphen 32 n)]

/-! ## Reading a UUID -/

/-- The value of a lower-case hexadecimal digit. -/
def hexValue (c : Char) : ℕ := if c.isDigit then c.toNat - '0'.toNat else c.toNat - 'a'.toNat + 10

/-- The number that the digits of a text are those of. -/
def readUuid (text : String) : ℕ :=
  (text.toList.filter (· ≠ '-')).foldl (fun n c => 16 * n + hexValue c) 0

lemma hexValue_digitChar : ∀ n < 16, hexValue (Nat.digitChar n) = n := by
  decide

lemma foldl_hexDigits (k n : ℕ) :
    (hexDigits k n).foldl (fun n c => 16 * n + hexValue c) 0 = n % 16 ^ k := by
  induction k generalizing n with
  | zero => rw [hexDigits, List.foldl_nil, pow_zero, Nat.mod_one]
  | succ k ih =>
    rw [hexDigits, List.foldl_append, ih, List.foldl_cons, List.foldl_nil,
      hexValue_digitChar _ (Nat.mod_lt _ (by decide)), pow_succ', Nat.mod_mul]
    omega

/-- A UUID is read back from its text. -/
theorem readUuid_uuidText {n : ℕ} (hn : n < 2 ^ 128) : readUuid (uuidText n) = n := by
  rw [readUuid, uuidText, String.toList_ofList, filter_hyphenate (hexDigits_ne_hyphen 32 n),
    foldl_hexDigits]
  exact Nat.mod_eq_of_lt hn

end Lib
