import ScholarshipFinder.Lib.Uuid
import ScholarshipFinder.Python

/-!
# Search cursors (`core/cursors.py`)

A cursor is the signed place of a page request inside one logical search.  It is bound to the
digest of the filters and to the page size, and it carries the id of the search, but not the
session that ran it.
-/

namespace ScholarshipFinder

open Lib

/-- The id of a logical search, a UUID. -/
abbrev SearchId := ℕ

/-- Where a page request sits inside one logical search. -/
structure CursorState where
  offset : ℕ
  searchId : SearchId
deriving DecidableEq, Repr

/-- The parts of the standard library that a cursor is made with. -/
structure CursorPy where
  /-- `hmac.new(secret.encode(), value.encode(), hashlib.sha256).hexdigest()` -/
  hmacHex : String → String → String
  /-- `base64.urlsafe_b64encode(text.encode()).decode()` -/
  b64encode : String → String
  /-- `base64.urlsafe_b64decode(text.encode()).decode()` -/
  b64decode : String → Except PyErr String
  /-- `json.dumps(value, separators=(",", ":"))` -/
  dumps : Json → String
  /-- `json.loads` -/
  loads : String → Except PyErr Json
  /-- `uuid.UUID` -/
  uuid : String → Except PyErr SearchId

variable (cp : CursorPy)

/-- `_sign` -/
def sign (value secret : String) : String := cp.hmacHex secret value

/-- The payload of a cursor. -/
def cursorPayload (offset : ℕ) (filterDigest : String) (searchId : SearchId) (limit : ℕ) : Json :=
  .obj [("offset", .int offset), ("filter_digest", .str filterDigest),
    ("search_id", .str (uuidText searchId)), ("limit", .int limit)]

def encodeCursor (offset : ℕ) (filterDigest : String) (searchId : SearchId) (limit : ℕ)
    (secret : String) : String :=
  let payload := cp.dumps (cursorPayload offset filterDigest searchId limit)
  cp.b64encode (payload ++ "." ++ sign cp payload secret)

/-- `payload, signature = token.rsplit(".", 1)` -/
def rsplitDot (token : String) : Except PyErr (String × String) :=
  let signature := token.toList.rtakeWhile (· ≠ '.')
  if token.toList.length = signature.length then
    valueError "not enough values to unpack (expected 2, got 1)"
  else
    .ok (String.ofList (token.toList.take (token.toList.length - signature.length - 1)),
      String.ofList signature)

namespace Json

/-- `value[key]`, for a string `key`. -/
def getItem (value : Json) (key : String) : Except PyErr Json :=
  match value with
  | obj items =>
    match items.lookup key with
    | some item => .ok item
    | none => lookupError key
  | _ => typeError "object is not subscriptable with a string"

/-- `value == n` for an integer `n`: a bool is an integer, and a whole float equals one. -/
def eqNat (n : ℕ) : Json → Bool
  | int m => m = n
  | bool b => b.toNat = n
  | float r => r = toString n ++ ".0"
  | _ => false

/-- `isinstance(value, int)` and not negative. -/
def asOffset : Json → Option ℕ
  | int m => if 0 ≤ m then some m.toNat else none
  | bool b => some b.toNat
  | _ => none

end Json

/-- What the payload of a cursor says, for these filters and this page size. -/
def readPayload (py : Py) (data : Json) (filterDigest : String) (limit : ℕ) :
    Except PyErr CursorState := do
  if ¬ (← data.getItem "filter_digest").eqStr filterDigest then valueError ""
  else if ¬ (← data.getItem "limit").eqNat limit then valueError ""
  else
    match (← data.getItem "offset").asOffset with
    | none => valueError ""
    | some offset =>
      let searchId ← cp.uuid (py.strOf (← data.getItem "search_id"))
      return ⟨offset, searchId⟩

/-- The `try` block of `decode_cursor`. -/
def readCursor (py : Py) (cursor filterDigest : String) (limit : ℕ) (secret : String) :
    Except PyErr CursorState := do
  let token ← cp.b64decode cursor
  let parts ← rsplitDot token
  if parts.2 ≠ sign cp parts.1 secret then valueError ""
  else
    let data ← cp.loads parts.1
    readPayload cp py data filterDigest limit

/-- What the `except` clause of `decode_cursor` catches. -/
def cursorErrors : List ExcClass := [.valueError, .lookupError, .typeError]

/-- Invalid cursors are indistinguishable from one another. -/
def decodeCursor (py : Py) (cursor filterDigest : String) (limit : ℕ) (secret : String) :
    Except PyErr CursorState :=
  match readCursor cp py cursor filterDigest limit secret with
  | .ok state => .ok state
  | .error e =>
    if e.cls ∈ cursorErrors then valueError "Invalid or expired search cursor" else .error e

/-! ## A cursor is read back -/

/-- What a cursor relies on of the standard library. -/
structure CursorPy.Laws (cp : CursorPy) : Prop where
  decode_encode : ∀ text, cp.b64decode (cp.b64encode text) = .ok text
  decode_empty : cp.b64decode "" = .ok ""
  loads_dumps : ∀ offset filterDigest searchId limit,
    cp.loads (cp.dumps (cursorPayload offset filterDigest searchId limit)) =
      .ok (cursorPayload offset filterDigest searchId limit)
  uuid_text : ∀ searchId < 2 ^ 128, cp.uuid (uuidText searchId) = .ok searchId
  /-- A hexadecimal digest has no dot. -/
  hex_no_dot : ∀ secret value, '.' ∉ (cp.hmacHex secret value).toList

/-- The text before the last dot, and the one after it. -/
lemma rsplitDot_append {payload signature : String} (h : '.' ∉ signature.toList) :
    rsplitDot (payload ++ "." ++ signature) = .ok (payload, signature) := by
  have hlist : (payload ++ "." ++ signature).toList =
      payload.toList ++ ['.'] ++ signature.toList := by
    simp
  have hall : ∀ c ∈ signature.toList, decide (c ≠ '.') = true := by
    intro c hc
    rw [decide_eq_true_eq]
    rintro rfl
    exact h hc
  have htake : (payload ++ "." ++ signature).toList.rtakeWhile (· ≠ '.') = signature.toList := by
    rw [hlist, List.rtakeWhile, List.reverse_append, List.reverse_append, List.reverse_singleton,
      List.takeWhile_append_of_pos]
    · simp
    · intro c hc
      exact hall c (List.mem_reverse.mp hc)
  have hlen : (payload.toList ++ ['.'] ++ signature.toList).length - signature.toList.length - 1 =
      payload.toList.length := by
    simp only [List.length_append, List.length_singleton]
    omega
  rw [rsplitDot, htake, hlist, hlen, if_neg]
  · rw [List.append_assoc, List.take_left, String.ofList_toList, String.ofList_toList]
  · simp only [List.length_append, List.length_singleton]
    omega

/-- What is checked of a payload, and what is read from it. -/
lemma readPayload_eq {cp : CursorPy} {searchId : SearchId}
    (hid : cp.uuid (uuidText searchId) = .ok searchId) (py : Py) (offset : ℕ)
    (filterDigest : String) (limit : ℕ) (digest : String) (size : ℕ) :
    readPayload cp py (cursorPayload offset filterDigest searchId limit) digest size =
      if filterDigest = digest ∧ limit = size then .ok ⟨offset, searchId⟩ else valueError "" := by
  have hitems : (cursorPayload offset filterDigest searchId limit).getItem "filter_digest" =
        .ok (.str filterDigest) ∧
      (cursorPayload offset filterDigest searchId limit).getItem "limit" = .ok (.int limit) ∧
      (cursorPayload offset filterDigest searchId limit).getItem "offset" = .ok (.int offset) ∧
      (cursorPayload offset filterDigest searchId limit).getItem "search_id" =
        .ok (.str (uuidText searchId)) := ⟨rfl, rfl, rfl, rfl⟩
  obtain ⟨hdigest, hlimit, hoffset, hsearch⟩ := hitems
  have hread : (Json.int offset).asOffset = some offset := by simp [Json.asOffset]
  simp only [readPayload, hdigest, hlimit, hoffset, hsearch, bind, Except.bind, hread, Py.strOf,
    hid, pure, Except.pure, Json.eqStr, Json.eqNat, decide_eq_true_eq,
    Nat.cast_inj]
  by_cases hd : filterDigest = digest
  · by_cases hl : limit = size <;> simp [hd, hl]
  · simp [hd]

/-- A cursor is not the empty text. -/
lemma encodeCursor_ne_empty {cp : CursorPy} (hcp : cp.Laws) (offset : ℕ) (filterDigest : String)
    (searchId : SearchId) (limit : ℕ) (secret : String) :
    encodeCursor cp offset filterDigest searchId limit secret ≠ "" := by
  intro hempty
  have hdecode := hcp.decode_encode (cp.dumps (cursorPayload offset filterDigest searchId limit) ++
    "." ++ sign cp (cp.dumps (cursorPayload offset filterDigest searchId limit)) secret)
  rw [encodeCursor] at hempty
  rw [hempty, hcp.decode_empty, Except.ok.injEq] at hdecode
  simpa using congrArg String.toList hdecode

/-- What is read from a cursor is what is read from its payload. -/
lemma readCursor_encodeCursor {cp : CursorPy} (hcp : cp.Laws) (py : Py) (offset : ℕ)
    (filterDigest : String) (searchId : SearchId) (limit : ℕ) (secret : String)
    (digest : String) (size : ℕ) :
    readCursor cp py (encodeCursor cp offset filterDigest searchId limit secret) digest size
      secret = readPayload cp py (cursorPayload offset filterDigest searchId limit) digest size := by
  have hsplit := @rsplitDot_append (cp.dumps (cursorPayload offset filterDigest searchId
    limit)) _ (hcp.hex_no_dot secret (cp.dumps (cursorPayload offset filterDigest searchId limit)))
  simp only [readCursor, encodeCursor, hcp.decode_encode, bind, Except.bind, sign, hsplit,
    ne_eq, not_true_eq_false, if_false, hcp.loads_dumps]

/-- A cursor is accepted by a request with the same filters and the same page size. -/
theorem decodeCursor_encodeCursor {cp : CursorPy} (hcp : cp.Laws) (py : Py) (offset : ℕ)
    (filterDigest : String) {searchId : SearchId} (hid : searchId < 2 ^ 128) (limit : ℕ)
    (secret : String) :
    decodeCursor cp py (encodeCursor cp offset filterDigest searchId limit secret) filterDigest
      limit secret = .ok ⟨offset, searchId⟩ := by
  rw [decodeCursor, readCursor_encodeCursor hcp, readPayload_eq (hcp.uuid_text _ hid) py offset
    filterDigest,
    if_pos ⟨rfl, rfl⟩]

/-- Whoever accepts a cursor finds the place that it was made for. -/
theorem decodeCursor_eq {cp : CursorPy} (hcp : cp.Laws) {py : Py} {offset : ℕ}
    {filterDigest : String} {searchId : SearchId} (hid : searchId < 2 ^ 128) {limit : ℕ}
    {secret digest : String} {size : ℕ} {place : CursorState}
    (h : decodeCursor cp py (encodeCursor cp offset filterDigest searchId limit secret) digest
      size secret = .ok place) : place = ⟨offset, searchId⟩ := by
  rw [decodeCursor, readCursor_encodeCursor hcp, readPayload_eq (hcp.uuid_text _ hid) py offset
    filterDigest] at h
  by_cases hsame : filterDigest = digest ∧ limit = size
  · rw [if_pos hsame] at h
    exact (Except.ok.inj h).symm
  · rw [if_neg hsame] at h
    cases h

end ScholarshipFinder
