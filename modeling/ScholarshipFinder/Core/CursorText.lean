import ScholarshipFinder.Core.Cursors
import ScholarshipFinder.Lib.Base64
import ScholarshipFinder.Lib.Urlencoded

/-!
# Cursors as a client sends them (`core/cursors.py`)

The text of a cursor is chosen by the client: any Python string, lone surrogates included.  It is
read through UTF-8, base64 and UTF-8 again before its signature is looked at.
-/

namespace ScholarshipFinder

open Lib

/-! ## Python strings -/

/-- A character of a Python string, which may be a surrogate. -/
abbrev CodePoint := Fin 0x110000

lemma toNat_lt_codePoints (c : Char) : c.toNat < 0x110000 := by
  rcases c.valid with h | ⟨-, h⟩
  · exact Nat.lt_trans h (by decide)
  · exact h

/-- A text as a Python string. -/
def codePoints (s : String) : List CodePoint :=
  s.toList.map fun c => ⟨c.toNat, toNat_lt_codePoints c⟩

/-- The character of a code point that is no surrogate. -/
def charOf (n : CodePoint) : Option Char :=
  if n.val.isValidChar then some (Char.ofNat n.val) else none

/-- `text.encode()` -/
def encodeText (text : List CodePoint) : Except PyErr (List UInt8) :=
  match text.mapM charOf with
  | none => valueError "surrogates not allowed"
  | some cs => .ok (Urlencoded.utf8 cs)

/-- `token.decode()` -/
def decodeText (token : List ℕ) : Except PyErr String :=
  match String.fromUTF8? ⟨(token.map UInt8.ofNat).toArray⟩ with
  | none => valueError "invalid start byte"
  | some text => .ok text

/-- `base64.urlsafe_b64decode`, of bytes. -/
def urlsafeB64decode (bytes : List UInt8) : Except PyErr (List ℕ) :=
  match Base64.a2b 0 0 0 bytes with
  | none => valueError "Incorrect padding"
  | some token => .ok token

/-- The bytes of the UTF-8 encoding of a text. -/
def utf8Bytes (text : String) : List ℕ := text.toByteArray.data.toList.map UInt8.toNat

/-- `base64.urlsafe_b64encode(text.encode()).decode()` -/
def urlsafeB64encode (text : String) : String := String.ofList (Base64.encode (utf8Bytes text))

/-- `hmac.compare_digest`, of two strings. -/
def compareDigest (a b : String) : Except PyErr Bool :=
  if a.toList.all Urlencoded.isAscii ∧ b.toList.all Urlencoded.isAscii then .ok (a = b)
  else typeError "comparing strings with non-ASCII characters is not supported"

/-- The longest text of an integer that is written. -/
def maxStrDigits : ℕ := 4300

/-- `int.__repr__` does not refuse this number. -/
def HasText (n : ℕ) : Prop := (Nat.toDigits 10 n).length ≤ maxStrDigits

instance (n : ℕ) : Decidable (HasText n) := inferInstanceAs (Decidable (_ ≤ _))

/-! ## The two functions -/

variable (cp : CursorPy)

/-- `base64.urlsafe_b64decode(cursor.encode()).decode()` -/
def tokenOf (cursor : List CodePoint) : Except PyErr String := do
  let bytes ← encodeText cursor
  let token ← urlsafeB64decode bytes
  decodeText token

/-- The standard library, with its base64. -/
def CursorPy.withBase64 : CursorPy := { cp with
  b64encode := urlsafeB64encode
  b64decode := fun text => tokenOf (codePoints text) }

/-- `encode_cursor`, with the numbers that `json.dumps` refuses. -/
def encodeCursorText (offset : ℕ) (filterDigest : String) (searchId : SearchId) (limit : ℕ)
    (secret : String) : Except PyErr String :=
  if HasText offset ∧ HasText limit then
    .ok (encodeCursor cp.withBase64 offset filterDigest searchId limit secret)
  else valueError ("Exceeds the limit (4300 digits) for integer string conversion; " ++
    "use sys.set_int_max_str_digits() to increase the limit")

/-- What `decode_cursor` does with a decoded token. -/
def readToken (py : Py) (token filterDigest : String) (limit : ℕ) (secret : String) :
    Except PyErr CursorState := do
  let (payload, signature) ← rsplitDot token
  if ¬ (← compareDigest signature (sign cp payload secret)) then valueError ""
  else
    let data ← cp.loads payload
    readPayload cp py data filterDigest limit

/-- The `try` block of `decode_cursor`, on any string. -/
def readCursorText (py : Py) (cursor : List CodePoint) (filterDigest : String) (limit : ℕ)
    (secret : String) : Except PyErr CursorState := do
  let token ← tokenOf cursor
  readToken cp py token filterDigest limit secret

/-- `decode_cursor`, on any string. -/
def decodeCursorText (py : Py) (cursor : List CodePoint) (filterDigest : String) (limit : ℕ)
    (secret : String) : Except PyErr CursorState :=
  match readCursorText cp py cursor filterDigest limit secret with
  | .ok state => .ok state
  | .error e =>
    if e.cls ∈ cursorErrors then valueError "Invalid or expired search cursor" else .error e

/-! ## What the codecs do -/

lemma charOf_codePoint (c : Char) : charOf ⟨c.toNat, toNat_lt_codePoints c⟩ = some c := by
  have hvalid : c.toNat.isValidChar := c.valid
  rw [charOf, if_pos hvalid, Char.ofNat_toNat]

/-- A text without surrogates is encoded. -/
lemma encodeText_codePoints (s : String) :
    encodeText (codePoints s) = .ok (Urlencoded.utf8 s.toList) := by
  have hchars : (codePoints s).mapM charOf = some s.toList := by
    have hsome : (fun c : Char => charOf ⟨c.toNat, toNat_lt_codePoints c⟩) = fun c => pure c := by
      funext c
      exact charOf_codePoint c
    rw [codePoints, List.mapM_map, Function.comp_def, hsome, List.mapM_pure, List.map_id']
    rfl
  rw [encodeText, hchars]

lemma utf8_of_ascii {text : List Char} (h : ∀ c ∈ text, c.toNat < 128) :
    Urlencoded.utf8 text = Base64.ascii text := by
  have hchar : ∀ c ∈ text, String.utf8EncodeChar c = [UInt8.ofNat c.toNat] := by
    intro c hc
    have hsmall : c.val ≤ 127 := UInt32.le_iff_toNat_le.mpr (Nat.le_of_lt_succ (h c hc))
    rw [String.utf8EncodeChar_eq_singleton (Char.utf8Size_eq_one_iff.mpr hsmall)]
    rfl
  rw [Urlencoded.utf8, List.flatMap_congr hchar, Base64.ascii]
  exact List.map_eq_flatMap.symm

lemma utf8Bytes_lt {text : String} {b : ℕ} (h : b ∈ utf8Bytes text) : b < 256 := by
  obtain ⟨byte, -, rfl⟩ := List.mem_map.mp h
  exact byte.toNat_lt

/-- The bytes of a text are decoded to it. -/
lemma decodeText_utf8Bytes (text : String) : decodeText (utf8Bytes text) = .ok text := by
  have hbytes : (utf8Bytes text).map UInt8.ofNat = text.toByteArray.data.toList := by
    rw [utf8Bytes, List.map_map]
    exact (List.map_congr_left fun byte _ => UInt8.ofNat_toNat).trans (List.map_id _)
  have hutf : String.fromUTF8? text.toByteArray = some text := by
    rw [String.fromUTF8?, dif_pos text.isValidUTF8]
    rfl
  rw [decodeText, hbytes, Array.toArray_toList, hutf]

lemma alphabet_ascii : Base64.alphabet.all (fun c => c.toNat < 128) = true := by
  decide +kernel

/-- What is encoded is decoded again. -/
lemma tokenOf_encode (text : String) : tokenOf (codePoints (urlsafeB64encode text)) = .ok text := by
  have hascii : ∀ c ∈ Base64.encode (utf8Bytes text), c.toNat < 128 := by
    intro c hc
    rcases Base64.mem_encode (fun b hb => utf8Bytes_lt hb) hc with hletter | rfl
    · simpa using List.all_eq_true.mp alphabet_ascii c hletter
    · decide
  have hdecode : urlsafeB64decode (Base64.ascii (Base64.encode (utf8Bytes text))) =
      .ok (utf8Bytes text) := by
    rw [urlsafeB64decode, Base64.a2b_encode _ fun b hb => utf8Bytes_lt hb]
  simp only [tokenOf, encodeText_codePoints, urlsafeB64encode, String.toList_ofList,
    utf8_of_ascii hascii, bind, Except.bind, hdecode, decodeText_utf8Bytes]

/-- What was split at its last dot. -/
lemma rsplitDot_ok {token payload signature : String}
    (h : rsplitDot token = .ok (payload, signature)) : token = payload ++ "." ++ signature := by
  unfold rsplitDot at h
  dsimp only at h
  split at h
  · cases h
  · next hlength =>
    simp only [Except.ok.injEq, Prod.mk.injEq] at h
    obtain ⟨rfl, rfl⟩ := h
    have hparts : token.toList.rdropWhile (· ≠ '.') ++ token.toList.rtakeWhile (· ≠ '.') =
        token.toList := List.rdropWhile_append_rtakeWhile
    generalize token.toList.rtakeWhile (· ≠ '.') = signature at hparts hlength ⊢
    have hne : token.toList.rdropWhile (· ≠ '.') ≠ [] := by
      intro hnil
      rw [hnil, List.nil_append] at hparts
      exact hlength (by rw [hparts])
    have hlast := List.rdropWhile_last_not (· ≠ '.') token.toList hne
    have hdot : (token.toList.rdropWhile (· ≠ '.')).getLast hne = '.' := by
      simpa using hlast
    have hpayload := List.dropLast_append_getLast hne
    rw [hdot] at hpayload
    rw [← hpayload, List.append_assoc] at hparts
    generalize (token.toList.rdropWhile (· ≠ '.')).dropLast = payload at hparts
    have htake : token.toList.take (token.toList.length - signature.length - 1) = payload := by
      have hcount : token.toList.length - signature.length - 1 = payload.length := by
        rw [← hparts]
        simp only [List.length_append, List.length_singleton]
        omega
      rw [hcount, ← hparts, List.take_left]
    rw [← String.toList_inj, htake]
    simp [← hparts]

/-! ## Tokens -/

/-- What a cursor relies on of the standard library. -/
structure CursorPy.SignedLaws (cp : CursorPy) : Prop where
  loads_dumps : ∀ offset filterDigest searchId limit, HasText offset → HasText limit →
    cp.loads (cp.dumps (cursorPayload offset filterDigest searchId limit)) =
      .ok (cursorPayload offset filterDigest searchId limit)
  uuid_text : ∀ searchId < 2 ^ 128, cp.uuid (uuidText searchId) = .ok searchId
  /-- A hexadecimal digest is ASCII, and has no dot. -/
  hex : ∀ secret value, ∀ c ∈ (cp.hmacHex secret value).toList,
    Urlencoded.isAscii c = true ∧ c ≠ '.'
  /-- Digests are told apart. -/
  injective : ∀ secret value secret' value', cp.hmacHex secret value = cp.hmacHex secret' value' →
    secret = secret' ∧ value = value'

/-- The text that is signed for a place. -/
def payloadText (offset : ℕ) (filterDigest : String) (searchId : SearchId) (limit : ℕ) : String :=
  cp.dumps (cursorPayload offset filterDigest searchId limit)

/-- The token with a valid signature of a payload. -/
def signedToken (payload secret : String) : String := payload ++ "." ++ sign cp payload secret

variable {cp}

lemma encodeCursor_eq (offset : ℕ) (filterDigest : String) (searchId : SearchId) (limit : ℕ)
    (secret : String) : encodeCursor cp.withBase64 offset filterDigest searchId limit secret =
      urlsafeB64encode (signedToken cp (payloadText cp offset filterDigest searchId limit)
        secret) :=
  rfl

lemma isAscii_sign (laws : cp.SignedLaws) (payload secret : String) :
    (sign cp payload secret).toList.all Urlencoded.isAscii = true :=
  List.all_eq_true.mpr fun c hc => (laws.hex secret payload c hc).1

lemma dot_notMem_sign (laws : cp.SignedLaws) (payload secret : String) :
    '.' ∉ (sign cp payload secret).toList :=
  fun h => (laws.hex secret payload _ h).2 rfl

/-- A token has one payload. -/
lemma signedToken_inj (laws : cp.SignedLaws) {payload payload' secret : String}
    (h : signedToken cp payload secret = signedToken cp payload' secret) : payload = payload' := by
  have hsplit := @rsplitDot_append payload _ (dot_notMem_sign laws payload secret)
  have hsplit' := @rsplitDot_append payload' _ (dot_notMem_sign laws payload' secret)
  rw [← signedToken, h, signedToken, hsplit', Except.ok.injEq, Prod.mk.injEq] at hsplit
  exact hsplit.1.symm

/-- Signatures are compared as digests are. -/
lemma readToken_signed (laws : cp.SignedLaws) (py : Py) (payload secret digest : String)
    (size : ℕ) (secret' : String) :
    readToken cp py (signedToken cp payload secret) digest size secret' =
      if secret = secret' then (cp.loads payload).bind fun data => readPayload cp py data digest size
      else valueError "" := by
  have hdot := dot_notMem_sign laws payload secret
  have hcompare : compareDigest (sign cp payload secret) (sign cp payload secret') =
      .ok (decide (sign cp payload secret = sign cp payload secret')) := by
    rw [compareDigest, if_pos ⟨isAscii_sign laws payload secret, isAscii_sign laws payload secret'⟩]
  have hsame : sign cp payload secret = sign cp payload secret' ↔ secret = secret' := by
    constructor
    · exact fun h => (laws.injective _ _ _ _ h).1
    · rintro rfl
      rfl
  simp only [readToken, signedToken, rsplitDot_append hdot, bind, Except.bind, hcompare, hsame,
    decide_eq_true_eq]
  by_cases hsecret : secret = secret'
  · simp [hsecret]
  · simp [hsecret]

/-- A token is refused as a bad value, or its signature is valid. -/
lemma readToken_cases (laws : cp.SignedLaws) (py : Py) (token digest : String) (size : ℕ)
    (secret : String) : (∃ payload, token = signedToken cp payload secret) ∨
      ∃ e, readToken cp py token digest size secret = .error e ∧ e.cls ∈ cursorErrors := by
  cases hsplit : rsplitDot token with
  | error e =>
    refine Or.inr ⟨e, by simp only [readToken, hsplit, bind, Except.bind], ?_⟩
    unfold rsplitDot at hsplit
    dsimp only at hsplit
    split at hsplit
    · cases hsplit
      decide
    · cases hsplit
  | ok parts =>
    obtain ⟨payload, signature⟩ := parts
    by_cases hascii : signature.toList.all Urlencoded.isAscii = true
    · have hcompare : compareDigest signature (sign cp payload secret) =
          .ok (decide (signature = sign cp payload secret)) := by
        rw [compareDigest, if_pos ⟨hascii, isAscii_sign laws payload secret⟩]
      by_cases hsame : signature = sign cp payload secret
      · exact Or.inl ⟨payload, by rw [rsplitDot_ok hsplit, hsame, signedToken]⟩
      · refine Or.inr ⟨⟨.valueError, ""⟩, ?_, by decide⟩
        simp only [readToken, hsplit, bind, Except.bind, hcompare, hsame, decide_false]
        rfl
    · have hcompare : compareDigest signature (sign cp payload secret) =
          typeError "comparing strings with non-ASCII characters is not supported" := by
        rw [compareDigest, if_neg fun h => hascii h.1]
      refine Or.inr ⟨⟨.typeError, "comparing strings with non-ASCII characters is not supported"⟩,
        ?_, by decide⟩
      simp only [readToken, hsplit, bind, Except.bind, hcompare]
      rfl

/-- Only bad values are raised before a token is looked at. -/
lemma tokenOf_error {cursor : List CodePoint} {e : PyErr} (h : tokenOf cursor = .error e) :
    e.cls = .valueError := by
  unfold tokenOf encodeText at h
  simp only [bind, Except.bind] at h
  cases hchars : cursor.mapM charOf with
  | none =>
    rw [hchars] at h
    cases h
    rfl
  | some cs =>
    rw [hchars] at h
    dsimp only at h
    unfold urlsafeB64decode at h
    cases hbytes : Base64.a2b 0 0 0 (Urlencoded.utf8 cs) with
    | none =>
      rw [hbytes] at h
      cases h
      rfl
    | some token =>
      rw [hbytes] at h
      dsimp only at h
      unfold decodeText at h
      split at h
      · cases h
        rfl
      · cases h

/-- On a text without surrogates this is the function that pages are requested with. -/
theorem decodeCursorText_codePoints (laws : cp.SignedLaws) (py : Py) (cursor digest : String)
    (size : ℕ) (secret : String) :
    decodeCursorText cp py (codePoints cursor) digest size secret =
      decodeCursor cp.withBase64 py cursor digest size secret := by
  have hdecode : cp.withBase64.b64decode cursor = tokenOf (codePoints cursor) := rfl
  rw [decodeCursorText, decodeCursor, readCursorText, readCursor, hdecode]
  cases tokenOf (codePoints cursor) with
  | error e => rfl
  | ok token =>
    simp only [bind, Except.bind, readToken]
    cases rsplitDot token with
    | error e => rfl
    | ok parts =>
      obtain ⟨payload, signature⟩ := parts
      have hsign : sign cp.withBase64 payload secret = sign cp payload secret := rfl
      have hloads : cp.withBase64.loads = cp.loads := rfl
      have hpayload : readPayload cp.withBase64 = readPayload cp := rfl
      have hascii' := isAscii_sign laws payload secret
      simp only [hsign, hloads, hpayload]
      by_cases hascii : signature.toList.all Urlencoded.isAscii = true
      · by_cases hsame : signature = sign cp payload secret
        · simp only [compareDigest, if_pos (And.intro hascii hascii'), decide_eq_true_eq,
            if_neg (not_not_intro hsame)]
          all_goals rfl
        · simp only [compareDigest, if_pos (And.intro hascii hascii'), decide_eq_true_eq,
            if_pos hsame]
          all_goals rfl
      · -- both ways the signature is wrong
        have hne : signature ≠ sign cp payload secret := by
          rintro rfl
          exact hascii hascii'
        simp only [compareDigest, if_neg fun h => hascii (And.left h), if_pos hne]
        rfl

end ScholarshipFinder
