import Mathlib

/-!
# Form encoding

Query strings as `urllib.parse` writes and reads them: `quote_plus` escapes the bytes of a text,
`unquote_plus` reads the escapes back, `urlencode` and `parse_qsl` join and split the fields.  What
`urlencode` writes, `parse_qsl` reads.  Texts are lists of characters.
-/

namespace Lib.Urlencoded

/-! ## Bytes and texts -/

/-- The UTF-8 encoding of a text. -/
def utf8 (s : List Char) : List UInt8 := s.flatMap String.utf8EncodeChar

/-- How many bytes may follow a byte in one character, and which ones may come first. -/
def followers (lead : UInt8) : ℕ × UInt8 × UInt8 :=
  if lead < 0xc2 ∨ 0xf4 < lead then (0, 0x80, 0xbf)
  else if lead < 0xe0 then (1, 0x80, 0xbf)
  else if lead = 0xe0 then (2, 0xa0, 0xbf)
  else if lead = 0xed then (2, 0x80, 0x9f)
  else if lead < 0xf0 then (2, 0x80, 0xbf)
  else if lead = 0xf0 then (3, 0x90, 0xbf)
  else if lead = 0xf4 then (3, 0x80, 0x8f)
  else (3, 0x80, 0xbf)

/-- The length of the part of an invalid text that one replacement character stands for. -/
def invalidPart : List UInt8 → ℕ
  | [] => 0
  | [_] => 1
  | lead :: next :: rest =>
    let (count, low, high) := followers lead
    if 0 < count ∧ low ≤ next ∧ next ≤ high then
      2 + ((rest.take (count - 1)).takeWhile fun b => 0x80 ≤ b ∧ b ≤ 0xbf).length
    else 1

/-- At most `fuel` characters of a text, an invalid part read as a replacement character. -/
def decodeFrom : ℕ → List UInt8 → List Char
  | 0, _ => []
  | _, [] => []
  | fuel + 1, bytes =>
    match bytes.toByteArray.utf8DecodeChar? 0 with
    | some c => c :: decodeFrom fuel (bytes.drop c.utf8Size)
    | none => '\uFFFD' :: decodeFrom fuel (bytes.drop (invalidPart bytes))

/-- `bytes.decode("utf-8", "replace")` -/
def decode (bytes : List UInt8) : List Char := decodeFrom bytes.length bytes

lemma decodeFrom_utf8 (s : List Char) (fuel : ℕ) (hfuel : s.length ≤ fuel) :
    decodeFrom fuel (utf8 s) = s := by
  induction s generalizing fuel with
  | nil => cases fuel <;> rfl
  | cons c s ih =>
    obtain ⟨fuel, rfl⟩ : ∃ n, fuel = n + 1 := ⟨fuel - 1, by simp at hfuel; omega⟩
    have hdecode : (utf8 (c :: s)).toByteArray.utf8DecodeChar? 0 = some c :=
      List.utf8DecodeChar?_utf8Encode_cons
    have hne : utf8 (c :: s) ≠ [] := by
      rw [utf8, List.flatMap_cons]
      exact List.append_ne_nil_of_left_ne_nil String.utf8EncodeChar_ne_nil _
    have hrest : (utf8 (c :: s)).drop c.utf8Size = utf8 s := by
      rw [utf8, List.flatMap_cons, ← String.length_utf8EncodeChar, List.drop_left]
      rfl
    obtain ⟨b, bytes, hbytes⟩ := List.exists_cons_of_ne_nil hne
    rw [hbytes] at hdecode hrest ⊢
    rw [decodeFrom]
    · rw [hdecode]
      dsimp only
      rw [hrest, ih fuel (by simpa using hfuel)]
    · simp

/-- A text is read back from its encoding. -/
theorem decode_utf8 (s : List Char) : decode (utf8 s) = s := by
  refine decodeFrom_utf8 s _ ?_
  rw [utf8, List.length_flatMap]
  refine List.length_le_sum_of_one_le (s.map _) ?_ |>.trans' (by simp)
  intro n hn
  obtain ⟨c, -, rfl⟩ := List.mem_map.mp hn
  exact List.length_pos_of_ne_nil String.utf8EncodeChar_ne_nil

/-! ## Quoting -/

/-- `_ALWAYS_SAFE` -/
def alwaysSafe (c : Char) : Bool := c.isAlphanum || c ∈ ['_', '.', '-', '~']

/-- A hexadecimal digit, in upper case. -/
def hexDigit (n : ℕ) : Char := Char.ofNat (if n < 10 then 48 + n else 55 + n)

def hexValue (c : Char) : Option ℕ :=
  if '0' ≤ c ∧ c ≤ '9' then some (c.toNat - 48)
  else if 'A' ≤ c ∧ c ≤ 'F' then some (c.toNat - 55)
  else if 'a' ≤ c ∧ c ≤ 'f' then some (c.toNat - 87)
  else none

/-- What `quote_plus` writes for a byte. -/
def quoteByte (b : UInt8) : List Char :=
  if alwaysSafe (Char.ofNat b.toNat) then [Char.ofNat b.toNat]
  else if b = 32 then ['+']
  else ['%', hexDigit (b.toNat / 16), hexDigit (b.toNat % 16)]

/-- `quote_plus` -/
def quotePlus (s : List Char) : List Char := (utf8 s).flatMap quoteByte

/-- The byte of an escape: a percent sign and two digits. -/
def escapedByte (c a b : Char) : Option UInt8 :=
  if c = '%' then
    match hexValue a, hexValue b with
    | some high, some low => some (UInt8.ofNat (high * 16 + low))
    | _, _ => none
  else none

/-- `_unquote_impl`, on a text of ASCII characters. -/
def unquoteBytes : List Char → List UInt8
  | c :: a :: b :: rest =>
    match escapedByte c a b with
    | some byte => byte :: unquoteBytes rest
    | none => UInt8.ofNat c.toNat :: unquoteBytes (a :: b :: rest)
  | [c, d] => [UInt8.ofNat c.toNat, UInt8.ofNat d.toNat]
  | [c] => [UInt8.ofNat c.toNat]
  | [] => []

def isAscii (c : Char) : Bool := c.toNat < 128

/-- `unquote`: the escapes are read in each run of ASCII characters. -/
def unquote (s : List Char) : List Char :=
  (s.splitBy fun c d => isAscii c == isAscii d).flatMap fun run =>
    if run.all isAscii then decode (unquoteBytes run) else run

/-- `unquote_plus` -/
def unquotePlus (s : List Char) : List Char := unquote (s.map fun c => if c = '+' then ' ' else c)

/-- The characters of quoted text. -/
def isQuoted (c : Char) : Bool := alwaysSafe c || c ∈ ['+', '%']

lemma isAscii_of_alwaysSafe {c : Char} (h : alwaysSafe c = true) : isAscii c = true := by
  rw [alwaysSafe, Bool.or_eq_true] at h
  rcases h with h | h
  · simp only [Char.isAlphanum, Char.isAlpha, Char.isUpper, Char.isLower, Char.isDigit,
      Bool.or_eq_true, Bool.and_eq_true, decide_eq_true_eq, UInt32.le_iff_toNat_le] at h
    simp only [isAscii, decide_eq_true_eq]
    simp at h
    omega
  · simp only [List.mem_cons, List.not_mem_nil, or_false, decide_eq_true_eq] at h
    rcases h with rfl | rfl | rfl | rfl <;> decide

lemma hexDigit_spec : ∀ n < 16, hexValue (hexDigit n) = some n ∧ alwaysSafe (hexDigit n) = true ∧
    hexDigit n ≠ '+' := by
  decide

lemma toNat_ofNat_byte (b : UInt8) : (Char.ofNat b.toNat).toNat = b.toNat := by
  have hlt : b.toNat < 256 := b.toNat_lt
  rw [Char.toNat_ofNat, if_pos (Or.inl (by omega))]

lemma isQuoted_of_mem_quoteByte {b : UInt8} {c : Char} (h : c ∈ quoteByte b) :
    isQuoted c = true := by
  have hlt : b.toNat < 256 := b.toNat_lt
  rw [quoteByte] at h
  split at h
  · next hsafe =>
    obtain rfl := List.mem_singleton.mp h
    rw [isQuoted, hsafe, Bool.true_or]
  · split at h
    · obtain rfl := List.mem_singleton.mp h
      rfl
    · obtain ⟨-, hhigh, -⟩ := hexDigit_spec (b.toNat / 16) (by omega)
      obtain ⟨-, hlow, -⟩ := hexDigit_spec (b.toNat % 16) (by omega)
      simp only [List.mem_cons, List.not_mem_nil, or_false] at h
      rcases h with rfl | rfl | rfl
      · rfl
      · rw [isQuoted, hhigh, Bool.true_or]
      · rw [isQuoted, hlow, Bool.true_or]

/-- Quoted text has no other characters than these. -/
lemma isQuoted_of_mem_quotePlus {s : List Char} {c : Char} (h : c ∈ quotePlus s) :
    isQuoted c = true := by
  obtain ⟨b, -, hb⟩ := List.mem_flatMap.mp h
  exact isQuoted_of_mem_quoteByte hb

lemma isAscii_of_isQuoted {c : Char} (h : isQuoted c = true) : isAscii c = true := by
  rw [isQuoted, Bool.or_eq_true] at h
  rcases h with h | h
  · exact isAscii_of_alwaysSafe h
  · simp only [List.mem_cons, List.not_mem_nil, or_false, decide_eq_true_eq] at h
    rcases h with rfl | rfl <;> decide

/-! ## What is quoted is read back -/

lemma unquoteBytes_cons {c : Char} (hc : c ≠ '%') (rest : List Char) :
    unquoteBytes (c :: rest) = UInt8.ofNat c.toNat :: unquoteBytes rest := by
  rcases rest with _ | ⟨a, _ | ⟨b, rest⟩⟩
  · rfl
  · rfl
  · rw [unquoteBytes, escapedByte, if_neg hc]

lemma unquoteBytes_escape {a b : Char} {high low : ℕ} (ha : hexValue a = some high)
    (hb : hexValue b = some low) (rest : List Char) :
    unquoteBytes ('%' :: a :: b :: rest) = UInt8.ofNat (high * 16 + low) :: unquoteBytes rest := by
  rw [unquoteBytes, escapedByte, if_pos rfl, ha, hb]

/-- `quoteByte`, with the plus sign replaced. -/
def spacedByte (b : UInt8) : List Char := (quoteByte b).map fun c => if c = '+' then ' ' else c

lemma unquoteBytes_spacedByte (b : UInt8) (rest : List Char) :
    unquoteBytes (spacedByte b ++ rest) = b :: unquoteBytes rest := by
  have hlt : b.toNat < 256 := b.toNat_lt
  rw [spacedByte, quoteByte]
  split
  · next hsafe =>
    have hplus : Char.ofNat b.toNat ≠ '+' := fun h => by
      rw [h] at hsafe
      cases hsafe
    have hpercent : Char.ofNat b.toNat ≠ '%' := fun h => by
      rw [h] at hsafe
      cases hsafe
    rw [List.map_singleton, if_neg hplus, List.singleton_append, unquoteBytes_cons hpercent,
      toNat_ofNat_byte, UInt8.ofNat_toNat]
  · split
    · next hspace =>
      rw [hspace]
      exact unquoteBytes_cons (by decide) rest
    · obtain ⟨hhigh, -, hne⟩ := hexDigit_spec (b.toNat / 16) (by omega)
      obtain ⟨hlow, -, hne'⟩ := hexDigit_spec (b.toNat % 16) (by omega)
      simp only [List.map_cons, List.map_nil, if_neg hne, if_neg hne', List.cons_append,
        List.nil_append]
      rw [if_neg (by decide), unquoteBytes_escape hhigh hlow]
      congr 1
      rw [Nat.div_add_mod', UInt8.ofNat_toNat]

lemma unquoteBytes_spaced (bytes : List UInt8) :
    unquoteBytes (bytes.flatMap spacedByte) = bytes := by
  induction bytes with
  | nil => rfl
  | cons b bytes ih => rw [List.flatMap_cons, unquoteBytes_spacedByte, ih]

/-- A text of ASCII characters is one run. -/
lemma unquote_eq {s : List Char} (h : ∀ c ∈ s, isAscii c = true) :
    unquote s = decode (unquoteBytes s) := by
  rcases s.eq_nil_or_concat with rfl | hne
  · rfl
  · have hs : s ≠ [] := by
      obtain ⟨_, _, rfl⟩ := hne
      simp
    have hchain : s.IsChain fun c d => (isAscii c == isAscii d) = true := by
      refine (List.pairwise_of_forall_mem_list fun c hc d hd => ?_).isChain
      rw [h c hc, h d hd]
      rfl
    rw [unquote, List.splitBy_of_isChain hs hchain, List.flatMap_singleton,
      if_pos (List.all_eq_true.mpr h)]

/-- What is quoted is read back. -/
theorem unquotePlus_quotePlus (s : List Char) : unquotePlus (quotePlus s) = s := by
  have hspaced : (quotePlus s).map (fun c => if c = '+' then ' ' else c) =
      (utf8 s).flatMap spacedByte := by
    rw [quotePlus, List.map_flatMap]
    rfl
  rw [unquotePlus, unquote_eq, hspaced, unquoteBytes_spaced, decode_utf8]
  intro c hc
  obtain ⟨d, hd, rfl⟩ := List.mem_map.mp hc
  split
  · rfl
  · exact isAscii_of_isQuoted (isQuoted_of_mem_quotePlus hd)

/-! ## Fields -/

/-- A field as `urlencode` writes it. -/
def writeField (pair : List Char × List Char) : List Char :=
  quotePlus pair.1 ++ '=' :: quotePlus pair.2

/-- `urlencode` -/
def urlencode (pairs : List (List Char × List Char)) : List Char :=
  ['&'].intercalate (pairs.map writeField)

/-- `parse_qsl`, with `keep_blank_values=True` -/
def parseQsl (qs : List Char) : List (List Char × List Char) :=
  ((qs.splitOn '&').filter (· ≠ [])).map fun field =>
    (unquotePlus (field.takeWhile (· ≠ '=')), unquotePlus (field.dropWhile (· ≠ '=')).tail)

/-- The characters of a query string. -/
def isQueryChar (c : Char) : Bool := isQuoted c || c ∈ ['=', '&']

lemma mem_intercalate {x c : Char} {texts : List (List Char)} (h : c ∈ [x].intercalate texts) :
    c = x ∨ ∃ text ∈ texts, c ∈ text := by
  induction texts with
  | nil => cases h
  | cons text texts ih =>
    cases texts with
    | nil =>
      rw [List.intercalate_singleton] at h
      exact Or.inr ⟨text, List.mem_cons_self, h⟩
    | cons next texts =>
      rw [List.intercalate_cons_cons, List.mem_append, List.mem_append] at h
      rcases h with (h | h) | h
      · exact Or.inr ⟨text, List.mem_cons_self, h⟩
      · exact Or.inl (List.mem_singleton.mp h)
      · exact (ih h).imp_right fun ⟨found, hfound, hc⟩ => ⟨found, List.mem_cons_of_mem _ hfound, hc⟩

lemma mem_writeField {pair : List Char × List Char} {c : Char} (h : c ∈ writeField pair) :
    isQuoted c = true ∨ c = '=' := by
  rw [writeField, List.mem_append, List.mem_cons] at h
  rcases h with h | rfl | h
  · exact Or.inl (isQuoted_of_mem_quotePlus h)
  · exact Or.inr rfl
  · exact Or.inl (isQuoted_of_mem_quotePlus h)

lemma isQueryChar_of_mem_urlencode {pairs : List (List Char × List Char)} {c : Char}
    (h : c ∈ urlencode pairs) : isQueryChar c = true := by
  rcases mem_intercalate h with rfl | ⟨field, hfield, hc⟩
  · rfl
  · obtain ⟨pair, -, rfl⟩ := List.mem_map.mp hfield
    rcases mem_writeField hc with hquoted | rfl
    · rw [isQueryChar, hquoted, Bool.true_or]
    · rfl

/-- Only the empty list of fields is written as the empty text. -/
lemma urlencode_eq_nil {pairs : List (List Char × List Char)} :
    urlencode pairs = [] ↔ pairs = [] := by
  constructor
  · intro h
    cases pairs with
    | nil => rfl
    | cons pair pairs =>
      have hmem : '=' ∈ urlencode (pair :: pairs) := by
        cases pairs with
        | nil => simp [urlencode, writeField]
        | cons next pairs => simp [urlencode, writeField, List.intercalate_cons_cons]
      rw [h] at hmem
      cases hmem
  · rintro rfl
    rfl

/-- A written field is read back. -/
lemma readField_writeField (pair : List Char × List Char) :
    (unquotePlus ((writeField pair).takeWhile (· ≠ '=')),
      unquotePlus ((writeField pair).dropWhile (· ≠ '=')).tail) = pair := by
  have hname : ∀ c ∈ quotePlus pair.1, decide (c ≠ '=') = true := by
    intro c hc
    have hquoted := isQuoted_of_mem_quotePlus hc
    rw [decide_eq_true_eq]
    rintro rfl
    cases hquoted
  rw [writeField, List.takeWhile_append_of_pos hname, List.dropWhile_append_of_pos hname,
    List.takeWhile_cons_of_neg (by simp), List.dropWhile_cons_of_neg (by simp), List.append_nil,
    List.tail_cons, unquotePlus_quotePlus, unquotePlus_quotePlus]

/-- What `urlencode` writes, `parse_qsl` reads. -/
theorem parseQsl_urlencode (pairs : List (List Char × List Char)) :
    parseQsl (urlencode pairs) = pairs := by
  rcases pairs.eq_nil_or_concat with rfl | hne
  · rfl
  · have hfields : pairs.map writeField ≠ [] := by
      obtain ⟨_, _, rfl⟩ := hne
      simp
    have hseparator : ∀ field ∈ pairs.map writeField, '&' ∉ field := by
      intro field hfield hmem
      obtain ⟨pair, -, rfl⟩ := List.mem_map.mp hfield
      rcases mem_writeField hmem with h | h
      · cases h
      · cases h
    have hwritten : ∀ field ∈ pairs.map writeField, decide (field ≠ []) = true := by
      intro field hfield
      obtain ⟨pair, -, rfl⟩ := List.mem_map.mp hfield
      simp [writeField]
    rw [parseQsl, urlencode, List.splitOn_intercalate '&' hseparator hfields, List.filter_eq_self.mpr hwritten,
      List.map_map]
    exact List.map_id'' readField_writeField pairs

/-- The blank value and the plus sign. -/
example : parseQsl "a=1+2&&b=&%41".toList =
    [("a".toList, "1 2".toList), ("b".toList, []), ("A".toList, [])] := by
  decide +kernel

end Lib.Urlencoded
