import ScholarshipFinder.Lib.Utf8

/-!
# JSON texts and their size

A text in JSON takes more bytes than the text: the quotes, and the escapes of quotes, backslashes
and control characters.
-/

namespace Lib.JsonText

open Urlencoded Utf8

/-- A character between quotes, as `json.dumps(..., ensure_ascii=False)` writes it. -/
def escape (c : Char) : List Char :=
  if c = '"' then ['\\', '"']
  else if c = '\\' then ['\\', '\\']
  else if c = '\n' then ['\\', 'n']
  else if c = '\r' then ['\\', 'r']
  else if c = '\t' then ['\\', 't']
  else if c = '\x0c' then ['\\', 'f']
  else if c = '\x08' then ['\\', 'b']
  else if c.toNat < 32 then
    ['\\', 'u', '0', '0', Nat.digitChar (c.toNat / 16), Nat.digitChar (c.toNat % 16)]
  else [c]

/-- A text between quotes. -/
def quoted (cs : List Char) : List Char := '"' :: cs.flatMap escape ++ ['"']

/-- A text, or `null` -/
def value : Option (List Char) → List Char
  | none => ['n', 'u', 'l', 'l']
  | some cs => quoted cs

/-- An object of texts, with `separators=(",", ":")` -/
def object (fields : List (List Char × Option (List Char))) : List Char :=
  '{' :: [','].intercalate (fields.map fun field => quoted field.1 ++ ':' :: value field.2) ++ ['}']

/-- The bytes that the characters of a text take between quotes. -/
def escapedSize (cs : List Char) : ℕ := (cs.map fun c => (utf8 (escape c)).length).sum

/-- The bytes that a text takes, or `null`. -/
def valueSize : Option (List Char) → ℕ
  | none => 4
  | some cs => escapedSize cs + 2

variable {c : Char} {cs cs' : List Char} {n : ℕ}

lemma escapedSize_cons : escapedSize (c :: cs) = (utf8 (escape c)).length + escapedSize cs := by
  rw [escapedSize, List.map_cons, List.sum_cons, ← escapedSize]

lemma escapedSize_append : escapedSize (cs ++ cs') = escapedSize cs + escapedSize cs' := by
  rw [escapedSize, List.map_append, List.sum_append, ← escapedSize, ← escapedSize]

lemma escapedSize_flatten {parts : List (List Char)} :
    escapedSize parts.flatten = (parts.map escapedSize).sum := by
  induction parts with
  | nil => rfl
  | cons part parts ih =>
    rw [List.flatten_cons, escapedSize_append, ih, List.map_cons, List.sum_cons]

lemma escapedSize_replicate : escapedSize (List.replicate n c) = n * (utf8 (escape c)).length := by
  rw [escapedSize, List.map_replicate, List.sum_replicate, smul_eq_mul]

lemma length_utf8_flatMap_escape : (utf8 (cs.flatMap escape)).length = escapedSize cs := by
  induction cs with
  | nil => rfl
  | cons c cs ih =>
    rw [List.flatMap_cons, utf8_append, List.length_append, ih, escapedSize_cons]

lemma length_utf8_quoted : (utf8 (quoted cs)).length = escapedSize cs + 2 := by
  rw [quoted, List.cons_append, utf8_cons, utf8_append, List.length_append, List.length_append,
    length_utf8_flatMap_escape, String.length_utf8EncodeChar]
  show 1 + (escapedSize cs + 1) = escapedSize cs + 2
  omega

lemma length_utf8_value {text : Option (List Char)} :
    (utf8 (value text)).length = valueSize text := by
  cases text with
  | none => decide
  | some cs => exact length_utf8_quoted

/-- No escape is shorter than the character. -/
lemma utf8Size_le_escape : c.utf8Size ≤ (utf8 (escape c)).length := by
  have hsmall : c.toNat < 128 → c.utf8Size = 1 := by
    intro hlt
    exact Char.utf8Size_eq_one_iff.mpr (by
      rw [UInt32.le_iff_toNat_le]
      exact Nat.le_of_lt_succ hlt)
  by_cases hplain : escape c = [c]
  · rw [hplain, utf8_cons, List.length_append, String.length_utf8EncodeChar]
    exact Nat.le_add_right _ _
  · -- what is escaped is an ASCII character
    have hascii : c.toNat < 128 := by
      by_contra hlarge
      refine hplain ?_
      have hne : ∀ d : Char, d.toNat < 128 → c ≠ d := by
        rintro d hd rfl
        exact hlarge hd
      rw [escape, if_neg (hne _ (by decide)), if_neg (hne _ (by decide)), if_neg (hne _ (by decide)),
        if_neg (hne _ (by decide)), if_neg (hne _ (by decide)), if_neg (hne _ (by decide)),
        if_neg (hne _ (by decide)), if_neg (by omega)]
    have hne : escape c ≠ [] := by
      unfold escape
      split_ifs <;> exact List.cons_ne_nil _ _
    obtain ⟨d, rest, hescape⟩ := List.exists_cons_of_ne_nil hne
    rw [hsmall hascii, hescape, length_utf8_cons]
    have hpos := d.utf8Size_pos
    omega

lemma length_utf8_le_escapedSize : (utf8 cs).length ≤ escapedSize cs := by
  induction cs with
  | nil => exact Nat.zero_le _
  | cons c cs ih =>
    rw [length_utf8_cons, escapedSize_cons]
    exact Nat.add_le_add utf8Size_le_escape ih

/-- An object with two fields. -/
lemma length_utf8_object {key key' : List Char} {text text' : Option (List Char)} :
    (utf8 (object [(key, text), (key', text')])).length =
      escapedSize key + escapedSize key' + valueSize text + valueSize text' + 9 := by
  have hopen : ('{' : Char).utf8Size = 1 := by decide
  have hclose : (utf8 ['}']).length = 1 := by decide
  have hcomma : (utf8 [',']).length = 1 := by decide
  have hcolon : (':' : Char).utf8Size = 1 := by decide
  simp only [object, List.map_cons, List.map_nil, List.intercalate_cons_cons,
    List.intercalate_singleton, List.cons_append, utf8_append, length_utf8_cons,
    List.length_append, length_utf8_quoted, length_utf8_value, hopen, hclose, hcomma, hcolon]
  omega

/-- Where texts are joined, so are their sizes. -/
lemma escapedSize_intercalate {sep : List Char} {parts : List (List Char)} :
    escapedSize (sep.intercalate parts) =
      (parts.map escapedSize).sum + (parts.length - 1) * escapedSize sep := by
  induction parts with
  | nil => simp [escapedSize]
  | cons first parts ih =>
    cases parts with
    | nil => simp
    | cons next parts =>
      simp only [List.map_cons, List.sum_cons, List.length_cons, Nat.add_sub_cancel] at ih ⊢
      rw [List.intercalate_cons_cons, escapedSize_append, escapedSize_append, ih]
      ring

end Lib.JsonText
