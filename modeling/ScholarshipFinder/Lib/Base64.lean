import Mathlib

/-!
# URL-safe base64

Three bytes are written as four characters of a 64-letter alphabet, and the last group is padded.
-/

namespace Lib.Base64

def alphabet : List Char :=
  "ABCDEFGHIJKLMNOPQRSTUVWXYZabcdefghijklmnopqrstuvwxyz0123456789-_".toList

/-- The character of a number below 64. -/
def letter (n : ℕ) : Char := alphabet.getD n 'A'

/-- The number of a character. -/
def value (c : Char) : ℕ := alphabet.idxOf c

/-- The text of a list of bytes. -/
def encode : List ℕ → List Char
  | [] => []
  | [a] => [letter (a / 4), letter (a % 4 * 16), '=', '=']
  | [a, b] => [letter (a / 4), letter (a % 4 * 16 + b / 16), letter (b % 16 * 4), '=']
  | a :: b :: c :: bytes =>
    letter (a / 4) :: letter (a % 4 * 16 + b / 16) :: letter (b % 16 * 4 + c / 64) ::
      letter (c % 64) :: encode bytes

/-- The bytes of a text of whole groups. -/
def decode : List Char → Option (List ℕ)
  | [] => some []
  | w :: x :: y :: z :: text =>
    if (w ∈ alphabet ∧ x ∈ alphabet) then
      if y ∈ alphabet ∧ z ∈ alphabet then
        (decode text).map fun bytes =>
          (value w * 4 + value x / 16) :: (value x % 16 * 16 + value y / 4) ::
            (value y % 4 * 64 + value z) :: bytes
      else if text ≠ [] ∨ z ≠ '=' then none
      else if y ∈ alphabet then
        some [value w * 4 + value x / 16, value x % 16 * 16 + value y / 4]
      else if y = '=' then some [value w * 4 + value x / 16]
      else none
    else none
  | _ => none

lemma letter_mem : ∀ n < 64, letter n ∈ alphabet := by decide +kernel

lemma value_letter : ∀ n < 64, value (letter n) = n := by decide +kernel

lemma pad_notMem : '=' ∉ alphabet := by decide +kernel

/-- The bytes are read back. -/
theorem decode_encode (bytes : List ℕ) (h : ∀ b ∈ bytes, b < 256) :
    decode (encode bytes) = some bytes := by
  fun_induction encode bytes with
  | case1 => rfl
  | case2 a =>
    have ha : a < 256 := h a (by simp)
    have hhigh : a / 4 < 64 := by omega
    have hlow : a % 4 * 16 < 64 := by omega
    simp only [decode, letter_mem _ hhigh, letter_mem _ hlow, pad_notMem, value_letter _ hhigh,
      value_letter _ hlow, and_self, if_true, if_false, ne_eq, not_true_eq_false,
      or_self, Option.some.injEq, List.cons.injEq, and_true]
    omega
  | case3 a b =>
    have ha : a < 256 := h a (by simp)
    have hb : b < 256 := h b (by simp)
    have h1 : a / 4 < 64 := by omega
    have h2 : a % 4 * 16 + b / 16 < 64 := by omega
    have h3 : b % 16 * 4 < 64 := by omega
    simp only [decode, letter_mem _ h1, letter_mem _ h2, letter_mem _ h3, pad_notMem,
      value_letter _ h1, value_letter _ h2, value_letter _ h3, and_self, if_true, and_false,
      if_false, ne_eq, not_true_eq_false, or_self, Option.some.injEq, List.cons.injEq, and_true]
    omega
  | case4 a b c bytes ih =>
    have ha : a < 256 := h a (by simp)
    have hb : b < 256 := h b (by simp)
    have hc : c < 256 := h c (by simp)
    have h1 : a / 4 < 64 := by omega
    have h2 : a % 4 * 16 + b / 16 < 64 := by omega
    have h3 : b % 16 * 4 + c / 64 < 64 := by omega
    have h4 : c % 64 < 64 := by omega
    have hrest := ih fun d hd => h d (by simp [hd])
    simp only [decode, letter_mem _ h1, letter_mem _ h2, letter_mem _ h3, letter_mem _ h4,
      value_letter _ h1, value_letter _ h2, value_letter _ h3, value_letter _ h4, and_self,
      if_true, hrest, Option.map_some, Option.some.injEq, List.cons.injEq, and_true]
    omega

/-- What is written are letters and padding. -/
lemma mem_encode {bytes : List ℕ} (h : ∀ b ∈ bytes, b < 256) {c : Char} (hc : c ∈ encode bytes) :
    c ∈ alphabet ∨ c = '=' := by
  fun_induction encode bytes with
  | case1 => cases hc
  | case2 a =>
    have ha : a < 256 := h a (by simp)
    simp only [List.mem_cons, List.not_mem_nil, or_false] at hc
    rcases hc with rfl | rfl | rfl | rfl
    · exact Or.inl (letter_mem _ (by omega))
    · exact Or.inl (letter_mem _ (by omega))
    · exact Or.inr rfl
    · exact Or.inr rfl
  | case3 a b =>
    have ha : a < 256 := h a (by simp)
    have hb : b < 256 := h b (by simp)
    simp only [List.mem_cons, List.not_mem_nil, or_false] at hc
    rcases hc with rfl | rfl | rfl | rfl
    · exact Or.inl (letter_mem _ (by omega))
    · exact Or.inl (letter_mem _ (by omega))
    · exact Or.inl (letter_mem _ (by omega))
    · exact Or.inr rfl
  | case4 a b c bytes ih =>
    have ha : a < 256 := h a (by simp)
    have hb : b < 256 := h b (by simp)
    have hc' : c < 256 := h c (by simp)
    simp only [List.mem_cons] at hc
    rcases hc with rfl | rfl | rfl | rfl | hmem
    · exact Or.inl (letter_mem _ (by omega))
    · exact Or.inl (letter_mem _ (by omega))
    · exact Or.inl (letter_mem _ (by omega))
    · exact Or.inl (letter_mem _ (by omega))
    · exact ih (fun d hd => h d (by simp [hd])) hmem

/-! ## Reading what is not base64 -/

/-- The number of a byte, a letter of this alphabet or of the standard one. -/
def sextet (b : UInt8) : Option ℕ :=
  let c := Char.ofNat b.toNat
  if c ∈ alphabet then some (value c)
  else if c = '+' then some 62
  else if c = '/' then some 63
  else none

/-- `binascii.a2b_base64`, not in strict mode, inside a group: the letters of the group so far, the
bits that are left of the last one, and the padding since.  Bytes that are no letters are passed
over, and enough padding ends the text. -/
def a2b : ℕ → ℕ → ℕ → List UInt8 → Option (List ℕ)
  | quad, _, _, [] => if quad = 0 then some [] else none
  | quad, left, pads, b :: text =>
    if b = 61 then
      if 2 ≤ quad ∧ 4 ≤ quad + (pads + 1) then some []
      else a2b quad left (if 2 ≤ quad then pads + 1 else pads) text
    else
      match sextet b with
      | none => a2b quad left pads text
      | some n =>
        if quad = 0 then a2b 1 n 0 text
        else if quad = 1 then (a2b 2 (n % 16) 0 text).map fun bytes => (left * 4 + n / 16) :: bytes
        else if quad = 2 then (a2b 3 (n % 4) 0 text).map fun bytes => (left * 16 + n / 4) :: bytes
        else (a2b 0 0 0 text).map fun bytes => (left * 64 + n) :: bytes

/-- The bytes of an ASCII text. -/
def ascii (text : List Char) : List UInt8 := text.map fun c => UInt8.ofNat c.toNat

lemma sextet_letter : ∀ n < 64, sextet (UInt8.ofNat (letter n).toNat) = some n ∧
    UInt8.ofNat (letter n).toNat ≠ 61 := by
  decide +kernel

/-- The next letter of a group. -/
lemma a2b_letter {quad left pads n : ℕ} (hn : n < 64) (text : List Char) :
    a2b quad left pads (ascii (letter n :: text)) =
      if quad = 0 then a2b 1 n 0 (ascii text)
      else if quad = 1 then
        (a2b 2 (n % 16) 0 (ascii text)).map fun bytes => (left * 4 + n / 16) :: bytes
      else if quad = 2 then
        (a2b 3 (n % 4) 0 (ascii text)).map fun bytes => (left * 16 + n / 4) :: bytes
      else (a2b 0 0 0 (ascii text)).map fun bytes => (left * 64 + n) :: bytes := by
  obtain ⟨hsextet, hpad⟩ := sextet_letter n hn
  rw [ascii, List.map_cons, a2b, if_neg hpad, hsextet]
  rfl

/-- What is written is read back. -/
theorem a2b_encode (bytes : List ℕ) (h : ∀ b ∈ bytes, b < 256) :
    a2b 0 0 0 (ascii (encode bytes)) = some bytes := by
  fun_induction encode bytes with
  | case1 => rfl
  | case2 a =>
    have ha : a < 256 := h a (by simp)
    rw [a2b_letter (by omega), if_pos rfl, a2b_letter (by omega)]
    have hpadding : ∀ left, a2b 2 left 0 (ascii ['=', '=']) = some [] := fun left => rfl
    rw [if_neg (by decide), if_pos rfl, hpadding]
    simp only [Option.map_some, Option.some.injEq, List.cons.injEq, and_true]
    omega
  | case3 a b =>
    have ha : a < 256 := h a (by simp)
    have hb : b < 256 := h b (by simp)
    rw [a2b_letter (by omega), if_pos rfl, a2b_letter (by omega), if_neg (by decide), if_pos rfl,
      a2b_letter (by omega), if_neg (by decide), if_neg (by decide), if_pos rfl]
    have hpadding : ∀ left, a2b 3 left 0 (ascii ['=']) = some [] := fun left => rfl
    rw [hpadding]
    simp only [Option.map_some, Option.some.injEq, List.cons.injEq, and_true]
    omega
  | case4 a b c bytes ih =>
    have ha : a < 256 := h a (by simp)
    have hb : b < 256 := h b (by simp)
    have hc : c < 256 := h c (by simp)
    rw [a2b_letter (by omega), if_pos rfl, a2b_letter (by omega), if_neg (by decide), if_pos rfl,
      a2b_letter (by omega), if_neg (by decide), if_neg (by decide), if_pos rfl,
      a2b_letter (by omega), if_neg (by decide), if_neg (by decide), if_neg (by decide),
      ih fun d hd => h d (by simp [hd])]
    simp only [Option.map_some, Option.some.injEq, List.cons.injEq, and_true]
    omega

/-! ## Texts of either alphabet -/

/-- The letter of this alphabet for one of the standard alphabet. -/
def urlSafe (c : Char) : Char := if c = '+' then '-' else if c = '/' then '_' else c

/-- The letter of the standard alphabet. -/
def standard (c : Char) : Char := if c = '-' then '+' else if c = '_' then '/' else c

/-- The padding of a text of so many characters. -/
def padding (n : ℕ) : List Char := List.replicate ((4 - n % 4) % 4) '='

/-- A base64 text of the bytes: of this alphabet or the standard one, with the padding or
without. -/
def IsText (text : List Char) (bytes : List ℕ) : Prop :=
  decode (text ++ padding text.length) = some bytes ∨
    ('-' ∉ text ∧ '_' ∉ text ∧ decode (text.map urlSafe ++ padding text.length) = some bytes)

variable {text : List Char} {bytes : List ℕ}

lemma letter_value {c : Char} (h : c ∈ alphabet) : value c < 64 ∧ letter (value c) = c := by
  have hlt : value c < alphabet.length := List.idxOf_lt_length_of_mem h
  refine ⟨hlt, ?_⟩
  rw [letter, List.getD_eq_getElem alphabet 'A' hlt]
  exact List.getElem_idxOf hlt

/-- The next letter of a group, by its character. -/
lemma a2b_char {quad left pads : ℕ} {c : Char} (h : c ∈ alphabet) (text : List Char) :
    a2b quad left pads (ascii (c :: text)) =
      if quad = 0 then a2b 1 (value c) 0 (ascii text)
      else if quad = 1 then
        (a2b 2 (value c % 16) 0 (ascii text)).map fun bytes => (left * 4 + value c / 16) :: bytes
      else if quad = 2 then
        (a2b 3 (value c % 4) 0 (ascii text)).map fun bytes => (left * 16 + value c / 4) :: bytes
      else (a2b 0 0 0 (ascii text)).map fun bytes => (left * 64 + value c) :: bytes := by
  obtain ⟨hlt, hletter⟩ := letter_value h
  have hstep := @a2b_letter quad left pads (value c) hlt text
  rwa [hletter] at hstep

/-- What is read in whole groups is read so by the reader that passes over what is no letter. -/
theorem a2b_of_decode (h : decode text = some bytes) : a2b 0 0 0 (ascii text) = some bytes := by
  fun_induction decode text generalizing bytes with
  | case1 =>
    obtain rfl := Option.some.inj h
    rfl
  | case2 w x y z text hwx hyz ih =>
    obtain ⟨rest, hrest, rfl⟩ := Option.map_eq_some_iff.mp h
    rw [a2b_char hwx.1, if_pos rfl, a2b_char hwx.2, if_neg (by decide), if_pos rfl,
      a2b_char hyz.1, if_neg (by decide), if_neg (by decide), if_pos rfl,
      a2b_char hyz.2, if_neg (by decide), if_neg (by decide), if_neg (by decide), ih hrest]
    rfl
  | case4 w x y z text hwx _ hend hy =>
    obtain ⟨rfl, rfl⟩ : text = [] ∧ z = '=' := by
      simpa only [ne_eq, not_or, not_not] using hend
    obtain rfl := Option.some.inj h
    rw [a2b_char hwx.1, if_pos rfl, a2b_char hwx.2, if_neg (by decide), if_pos rfl,
      a2b_char hy, if_neg (by decide), if_neg (by decide), if_pos rfl]
    rfl
  | case5 w x z text hwx hend =>
    obtain ⟨rfl, rfl⟩ : text = [] ∧ z = '=' := by
      simpa only [ne_eq, not_or, not_not] using hend
    obtain rfl := Option.some.inj h
    rw [a2b_char hwx.1, if_pos rfl, a2b_char hwx.2, if_neg (by decide), if_pos rfl]
    rfl
  | case3 | case6 | case7 | case8 => cases h

lemma sextet_urlSafe (c : Char) : sextet (UInt8.ofNat (urlSafe c).toNat) =
    sextet (UInt8.ofNat c.toNat) ∧
      (UInt8.ofNat (urlSafe c).toNat = 61 ↔ UInt8.ofNat c.toNat = 61) := by
  by_cases hplus : c = '+'
  · subst hplus
    decide +kernel
  · by_cases hslash : c = '/'
    · subst hslash
      decide +kernel
    · rw [urlSafe, if_neg hplus, if_neg hslash]
      exact ⟨rfl, Iff.rfl⟩

/-- The two alphabets are read alike. -/
lemma a2b_urlSafe {quad left pads : ℕ} :
    a2b quad left pads (ascii (text.map urlSafe)) = a2b quad left pads (ascii text) := by
  induction text generalizing quad left pads with
  | nil => rfl
  | cons c text ih =>
    obtain ⟨hsextet, hpad⟩ := sextet_urlSafe c
    simp only [ascii, List.map_cons, a2b] at ih ⊢
    simp only [hsextet, hpad, ih]

/-- A base64 text is read, once the padding stands behind it. -/
theorem IsText.read (h : IsText text bytes) :
    a2b 0 0 0 (ascii (text ++ padding text.length)) = some bytes := by
  rcases h with h | ⟨-, -, h⟩
  · exact a2b_of_decode h
  · have hpads : (padding text.length).map urlSafe = padding text.length := by
      rw [padding, List.map_replicate]
      rfl
    rw [← a2b_urlSafe, List.map_append, hpads]
    exact a2b_of_decode h

/-- What is read in whole groups is letters and padding. -/
lemma mem_of_decode (h : decode text = some bytes) {c : Char} (hc : c ∈ text) :
    c ∈ alphabet ∨ c = '=' := by
  fun_induction decode text generalizing bytes with
  | case1 => cases hc
  | case2 w x y z text hwx hyz ih =>
    obtain ⟨rest, hrest, -⟩ := Option.map_eq_some_iff.mp h
    simp only [List.mem_cons] at hc
    rcases hc with rfl | rfl | rfl | rfl | hc
    · exact Or.inl hwx.1
    · exact Or.inl hwx.2
    · exact Or.inl hyz.1
    · exact Or.inl hyz.2
    · exact ih hrest hc
  | case4 w x y z text hwx _ hend hy =>
    obtain ⟨rfl, rfl⟩ : text = [] ∧ z = '=' := by
      simpa only [ne_eq, not_or, not_not] using hend
    simp only [List.mem_cons, List.not_mem_nil, or_false] at hc
    rcases hc with rfl | rfl | rfl | rfl
    · exact Or.inl hwx.1
    · exact Or.inl hwx.2
    · exact Or.inl hy
    · exact Or.inr rfl
  | case5 w x z text hwx hend =>
    obtain ⟨rfl, rfl⟩ : text = [] ∧ z = '=' := by
      simpa only [ne_eq, not_or, not_not] using hend
    simp only [List.mem_cons, List.not_mem_nil, or_false] at hc
    rcases hc with rfl | rfl | rfl | rfl
    · exact Or.inl hwx.1
    · exact Or.inl hwx.2
    · exact Or.inr rfl
    · exact Or.inr rfl
  | case3 | case6 | case7 | case8 => cases h

/-- A base64 text is made of letters of its alphabet and padding. -/
lemma IsText.mem (h : IsText text bytes) {c : Char} (hc : c ∈ text) :
    c ∈ alphabet ++ "=+/".toList := by
  rw [List.mem_append]
  rcases h with h | ⟨-, -, h⟩
  · rcases mem_of_decode h (List.mem_append_left _ hc) with hletter | rfl
    · exact Or.inl hletter
    · exact Or.inr (by decide)
  · have hsafe := mem_of_decode h (List.mem_append_left _ (List.mem_map_of_mem hc))
    by_cases hplus : c = '+'
    · exact Or.inr (by rw [hplus]; decide)
    · by_cases hslash : c = '/'
      · exact Or.inr (by rw [hslash]; decide)
      · rw [urlSafe, if_neg hplus, if_neg hslash] at hsafe
        rcases hsafe with hletter | rfl
        · exact Or.inl hletter
        · exact Or.inr (by decide)

/-- The text of a list of bytes without its padding. -/
def unpadded (bytes : List ℕ) : List Char := (encode bytes).filter (· ≠ '=')

lemma padding_add_four {n : ℕ} : padding (n + 4) = padding n := by
  rw [padding, padding, Nat.add_mod_right]

/-- What is left out is put back. -/
lemma unpadded_padding (h : ∀ b ∈ bytes, b < 256) :
    unpadded bytes ++ padding (unpadded bytes).length = encode bytes := by
  have hletter : ∀ n < 64, letter n ≠ '=' := by decide +kernel
  rw [unpadded]
  fun_induction encode bytes with
  | case1 => rfl
  | case2 a =>
    have ha : a < 256 := h a (by simp)
    have h1 := hletter (a / 4) (by omega)
    have h2 := hletter (a % 4 * 16) (by omega)
    simp [h1, h2, padding]
  | case3 a b =>
    have ha : a < 256 := h a (by simp)
    have hb : b < 256 := h b (by simp)
    have h1 := hletter (a / 4) (by omega)
    have h2 := hletter (a % 4 * 16 + b / 16) (by omega)
    have h3 := hletter (b % 16 * 4) (by omega)
    simp [h1, h2, h3, padding]
  | case4 a b c bytes ih =>
    have ha : a < 256 := h a (by simp)
    have hb : b < 256 := h b (by simp)
    have hc : c < 256 := h c (by simp)
    have h1 := hletter (a / 4) (by omega)
    have h2 := hletter (a % 4 * 16 + b / 16) (by omega)
    have h3 := hletter (b % 16 * 4 + c / 64) (by omega)
    have h4 := hletter (c % 64) (by omega)
    have hrest := ih fun d hd => h d (by simp [hd])
    simpa [h1, h2, h3, h4, padding_add_four] using hrest

lemma padding_encode : padding (encode bytes).length = [] := by
  have hlength : (encode bytes).length % 4 = 0 := by
    fun_induction encode bytes with
    | case1 => rfl
    | case2 | case3 => simp
    | case4 a b c bytes ih =>
      simp only [List.length_cons]
      omega
  rw [padding, hlength]
  rfl

/-- The four texts that encoders write for the bytes. -/
def encodings (bytes : List ℕ) : List (List Char) :=
  [encode bytes, unpadded bytes, (encode bytes).map standard, (unpadded bytes).map standard]

lemma urlSafe_standard : ∀ c ∈ alphabet ++ ['='],
    urlSafe (standard c) = c ∧ standard c ≠ '-' ∧ standard c ≠ '_' := by
  have hall : (alphabet ++ ['=']).all (fun c => urlSafe (standard c) = c ∧ standard c ≠ '-' ∧
      standard c ≠ '_') = true := by
    decide +kernel
  exact fun c hc => of_decide_eq_true (List.all_eq_true.mp hall c hc)

/-- A text in the standard alphabet is read in this one. -/
lemma isText_standard (hletters : ∀ c ∈ text, c ∈ alphabet ∨ c = '=')
    (h : decode (text ++ padding text.length) = some bytes) : IsText (text.map standard) bytes := by
  have hchar : ∀ c ∈ text, urlSafe (standard c) = c ∧ standard c ≠ '-' ∧ standard c ≠ '_' := by
    intro c hc
    refine urlSafe_standard c ?_
    rw [List.mem_append, List.mem_singleton]
    exact hletters c hc
  have hmap : (text.map standard).map urlSafe = text := by
    rw [List.map_map]
    exact (List.map_congr_left fun c hc => (hchar c hc).1).trans (List.map_id text)
  refine Or.inr ⟨?_, ?_, ?_⟩
  · intro hmem
    obtain ⟨c, hc, hdash⟩ := List.mem_map.mp hmem
    exact (hchar c hc).2.1 hdash
  · intro hmem
    obtain ⟨c, hc, hdash⟩ := List.mem_map.mp hmem
    exact (hchar c hc).2.2 hdash
  · rwa [hmap, List.length_map]

theorem isText_of_mem_encodings (h : ∀ b ∈ bytes, b < 256) (htext : text ∈ encodings bytes) :
    IsText text bytes := by
  have hpadded : decode (encode bytes ++ padding (encode bytes).length) = some bytes := by
    rw [padding_encode, List.append_nil, decode_encode bytes h]
  have hunpadded : decode (unpadded bytes ++ padding (unpadded bytes).length) = some bytes := by
    rw [unpadded_padding h, decode_encode bytes h]
  simp only [encodings, List.mem_cons, List.not_mem_nil, or_false] at htext
  rcases htext with rfl | rfl | rfl | rfl
  · exact Or.inl hpadded
  · exact Or.inl hunpadded
  · exact isText_standard (fun c hc => mem_encode h hc) hpadded
  · exact isText_standard (fun c hc => mem_encode h (List.mem_filter.mp hc).1) hunpadded

end Lib.Base64
