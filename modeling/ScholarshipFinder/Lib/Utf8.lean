import ScholarshipFinder.Lib.Urlencoded

/-!
# A text cut at a number of bytes

The first bytes of a text can end inside a character.  A reader that leaves out what it cannot read
finds the longest beginning of the text that fits.
-/

namespace Lib.Utf8

open Urlencoded

/-- The characters of some bytes, the first `skip` of which belong to the character before. -/
def decodeIgnoringFrom : ℕ → List UInt8 → List Char
  | _, [] => []
  | skip + 1, _ :: bytes => decodeIgnoringFrom skip bytes
  | 0, b :: bytes =>
    match (b :: bytes).toByteArray.utf8DecodeChar? 0 with
    | some c => c :: decodeIgnoringFrom (c.utf8Size - 1) bytes
    | none => decodeIgnoringFrom 0 bytes

/-- `bytes.decode(errors="ignore")` -/
def decodeIgnoring (bytes : List UInt8) : List Char := decodeIgnoringFrom 0 bytes

/-- The longest beginning of a text that has at most so many bytes. -/
def fitting : ℕ → List Char → List Char
  | _, [] => []
  | n, c :: cs => if c.utf8Size ≤ n then c :: fitting (n - c.utf8Size) cs else []

variable {c : Char} {cs : List Char} {bytes : List UInt8} {n k : ℕ}

lemma utf8_cons : utf8 (c :: cs) = String.utf8EncodeChar c ++ utf8 cs := by
  rw [utf8, List.flatMap_cons, ← utf8]

lemma utf8_append {cs' : List Char} : utf8 (cs ++ cs') = utf8 cs ++ utf8 cs' := by
  rw [utf8, List.flatMap_append, ← utf8, ← utf8]

lemma length_utf8_cons : (utf8 (c :: cs)).length = c.utf8Size + (utf8 cs).length := by
  rw [utf8_cons, List.length_append, String.length_utf8EncodeChar]

/-! ## What fits -/

lemma fitting_prefix : fitting n cs <+: cs := by
  induction cs generalizing n with
  | nil => exact List.prefix_rfl
  | cons c cs ih =>
    rw [fitting]
    split
    · exact (List.prefix_cons_inj c).mpr ih
    · exact List.nil_prefix

lemma length_utf8_fitting : (utf8 (fitting n cs)).length ≤ n := by
  induction cs generalizing n with
  | nil => exact Nat.zero_le n
  | cons c cs ih =>
    rw [fitting]
    split
    · next hfits =>
      have hrest := @ih (n - c.utf8Size)
      rw [length_utf8_cons]
      omega
    · exact Nat.zero_le n

/-- A text that fits stays whole. -/
lemma fitting_of_length_le (h : (utf8 cs).length ≤ n) : fitting n cs = cs := by
  induction cs generalizing n with
  | nil => rfl
  | cons c cs ih =>
    rw [length_utf8_cons] at h
    rw [fitting, if_pos (by omega), ih (by omega)]

/-- What fits is shorter by less than one character. -/
lemma le_length_utf8_fitting (h : n < (utf8 cs).length) : n ≤ (utf8 (fitting n cs)).length + 3 := by
  induction cs generalizing n with
  | nil => exact absurd h (Nat.not_lt_zero n)
  | cons c cs ih =>
    rw [length_utf8_cons] at h
    rw [fitting]
    split
    · next hfits =>
      have hrest := @ih (n - c.utf8Size) (by omega)
      rw [length_utf8_cons]
      omega
    · next hcut =>
      have hsize := c.utf8Size_le_four
      omega

/-! ## Reading what was cut -/

lemma decodeIgnoringFrom_eq_drop :
    decodeIgnoringFrom k bytes = decodeIgnoring (bytes.drop k) := by
  induction bytes generalizing k with
  | nil => cases k <;> rfl
  | cons b bytes ih =>
    cases k with
    | zero => rfl
    | succ k => rw [decodeIgnoringFrom, ih, List.drop_succ_cons]

/-- A whole character is read. -/
lemma decodeIgnoring_char :
    decodeIgnoring (String.utf8EncodeChar c ++ bytes) = c :: decodeIgnoring bytes := by
  have hdecode : (String.utf8EncodeChar c ++ bytes).toByteArray.utf8DecodeChar? 0 = some c := by
    rw [List.toByteArray_append]
    exact ByteArray.utf8DecodeChar?_utf8EncodeChar_append
  have hdrop : (String.utf8EncodeChar c ++ bytes).drop c.utf8Size = bytes := by
    rw [← String.length_utf8EncodeChar, List.drop_left]
  have hpos := c.utf8Size_pos
  obtain ⟨b, rest, hencoded⟩ :=
    List.exists_cons_of_ne_nil (@String.utf8EncodeChar_ne_nil c)
  rw [hencoded, List.cons_append] at hdecode hdrop ⊢
  rw [decodeIgnoring, decodeIgnoringFrom, hdecode]
  dsimp only
  rw [decodeIgnoringFrom_eq_drop]
  obtain ⟨size, hsize⟩ : ∃ size, c.utf8Size = size + 1 := ⟨c.utf8Size - 1, by omega⟩
  rw [hsize, List.drop_succ_cons] at hdrop
  rw [hsize, Nat.add_sub_cancel, hdrop]

/-- Bytes that begin no character at any place are left out. -/
lemma decodeIgnoring_eq_nil
    (h : ∀ rest, rest <:+ bytes → rest.toByteArray.utf8DecodeChar? 0 = none) :
    decodeIgnoring bytes = [] := by
  induction bytes with
  | nil => rfl
  | cons b bytes ih =>
    rw [decodeIgnoring, decodeIgnoringFrom, h _ List.suffix_rfl]
    exact ih fun rest hrest => h rest (hrest.trans (List.suffix_cons b bytes))

/-- A character that is cut is not read, at none of its bytes. -/
lemma utf8DecodeChar?_cut (hk : k < c.utf8Size) {rest : List UInt8}
    (hrest : rest <:+ (String.utf8EncodeChar c).take k) :
    rest.toByteArray.utf8DecodeChar? 0 = none := by
  rw [Option.eq_none_iff_forall_ne_some]
  intro d hd
  obtain ⟨first, hfirst⟩ := hrest
  cases first with
  | nil =>
    -- the whole character would be read from a part of its bytes
    have hwhole : (String.utf8EncodeChar c).toByteArray.utf8DecodeChar? 0 = some d := by
      rw [← List.take_append_drop k (String.utf8EncodeChar c), ← hfirst, List.nil_append,
        List.toByteArray_append]
      exact ByteArray.utf8DecodeChar?_append_eq_some hd _
    have hchar : (String.utf8EncodeChar c).toByteArray.utf8DecodeChar? 0 = some c := by
      have happend := @ByteArray.utf8DecodeChar?_utf8EncodeChar_append .empty c
      rwa [ByteArray.append_empty] at happend
    obtain rfl : c = d := Option.some_inj.mp (hchar.symm.trans hwhole)
    have hsize := ByteArray.le_size_of_utf8DecodeChar?_eq_some hd
    have hlength : rest.length ≤ k := by
      rw [List.nil_append] at hfirst
      rw [hfirst]
      exact List.length_take_le _ _
    rw [List.size_toByteArray] at hsize
    omega
  | cons b first =>
    -- a later byte of a character begins none
    have hlead := ByteArray.isUTF8FirstByte_of_isSome_utf8DecodeChar? (Option.isSome_of_eq_some hd)
    have hpos : 0 < rest.length := by
      have hlt := ByteArray.lt_size_of_isSome_utf8DecodeChar? (Option.isSome_of_eq_some hd)
      rwa [List.size_toByteArray] at hlt
    have hlength : (b :: first).length < (String.utf8EncodeChar c).length := by
      have htake : ((b :: first) ++ rest).length ≤ (String.utf8EncodeChar c).length := by
        rw [hfirst]
        exact List.length_take_le' _ _
      rw [List.length_append] at htake
      omega
    have hbyte : rest[0] = (String.utf8EncodeChar c)[(b :: first).length] := by
      have hget : ((b :: first) ++ rest)[(b :: first).length]? = some rest[0] := by
        rw [List.getElem?_append_right le_rfl, Nat.sub_self, List.getElem?_eq_getElem hpos]
      rw [hfirst] at hget
      have hinside := (List.getElem?_eq_some_iff.mp hget).2
      rw [← hinside, List.getElem_take]
    rw [List.getElem_toByteArray, hbyte, UInt8.isUTF8FirstByte_getElem_utf8EncodeChar] at hlead
    exact absurd hlead (by simp)

/-- The first bytes of a text are read as the longest beginning that fits. -/
theorem decodeIgnoring_take : decodeIgnoring ((utf8 cs).take n) = fitting n cs := by
  induction cs generalizing n with
  | nil => rw [utf8, List.flatMap_nil, List.take_nil]; rfl
  | cons c cs ih =>
    rw [utf8_cons, List.take_append, String.length_utf8EncodeChar, fitting]
    split
    · next hfits =>
      rw [List.take_of_length_le (by rw [String.length_utf8EncodeChar]; exact hfits),
        decodeIgnoring_char, ih]
    · next hcut =>
      rw [Nat.sub_eq_zero_of_le (not_le.mp hcut).le, List.take_zero, List.append_nil]
      exact decodeIgnoring_eq_nil fun rest hrest => utf8DecodeChar?_cut (not_le.mp hcut) hrest

end Lib.Utf8
