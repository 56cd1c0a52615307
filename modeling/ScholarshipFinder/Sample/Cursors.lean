import ScholarshipFinder.Core.Cursors
import ScholarshipFinder.Lib.Base64

/-!
# A runtime for cursors

The JSON text of ASCII values, base64 of UTF-8, and the digests that occur.
-/

namespace ScholarshipFinder.Sample

open Lib

/-! ## JSON text -/

/-- The characters of a string literal. -/
def escape (c : Char) : List Char := if c = '"' ∨ c = '\\' then ['\\', c] else [c]

def quoted (s : String) : List Char := '"' :: (s.toList.flatMap escape ++ ['"'])

mutual

/-- `json.dumps(value, separators=(",", ":"))` -/
def jsonText : Json → List Char
  | .null => "null".toList
  | .bool b => if b then "true".toList else "false".toList
  | .int n => if n < 0 then '-' :: Nat.toDigits 10 n.natAbs else Nat.toDigits 10 n.natAbs
  | .float r => r.toList
  | .str s => quoted s
  | .arr items => '[' :: (jsonItems items ++ [']'])
  | .obj entries => '\x7b' :: (jsonEntries entries ++ ['\x7d'])

def jsonItems : List Json → List Char
  | [] => []
  | [item] => jsonText item
  | item :: items => jsonText item ++ ',' :: jsonItems items

def jsonEntries : List (String × Json) → List Char
  | [] => []
  | [(key, value)] => quoted key ++ ':' :: jsonText value
  | (key, value) :: entries => quoted key ++ ':' :: (jsonText value ++ ',' :: jsonEntries entries)

end

/-- The rest of a string literal, and what comes after it. -/
def readString : List Char → Option (List Char × List Char)
  | [] => none
  | '"' :: rest => some ([], rest)
  | '\\' :: c :: rest => (readString rest).map fun read => (c :: read.1, read.2)
  | c :: rest => (readString rest).map fun read => (c :: read.1, read.2)

/-- A literal text, and what comes after it. -/
def readText (text cs : List Char) : Option (List Char) :=
  if text <+: cs then some (cs.drop text.length) else none

/-- A number, and what comes after it. -/
def readNat (cs : List Char) : ℕ × List Char :=
  (Nat.ofDigitChars 10 (cs.takeWhile Char.isDigit) 0, cs.dropWhile Char.isDigit)

/-- `json.loads`, on the payload of a cursor. -/
def readPayloadText (cs : List Char) : Option Json := do
  let cs ← readText "\x7b\"offset\":".toList cs
  let offset := readNat cs
  let cs ← readText ",\"filter_digest\":\"".toList offset.2
  let digest ← readString cs
  let cs ← readText ",\"search_id\":\"".toList digest.2
  let searchId ← readString cs
  let cs ← readText ",\"limit\":".toList searchId.2
  let limit := readNat cs
  if limit.2 = ['\x7d'] then
    some (.obj [("offset", .int offset.1), ("filter_digest", .str (String.ofList digest.1)),
      ("search_id", .str (String.ofList searchId.1)), ("limit", .int limit.1)])
  else none

lemma readString_escape (s rest : List Char) :
    readString (s.flatMap escape ++ '"' :: rest) = some (s, rest) := by
  induction s with
  | nil => rfl
  | cons c s ih =>
    rw [List.flatMap_cons, List.append_assoc]
    by_cases hquote : c = '"' ∨ c = '\\'
    · rw [escape, if_pos hquote]
      show (readString (s.flatMap escape ++ '"' :: rest)).map _ = _
      rw [ih]
      rfl
    · rw [escape, if_neg hquote, List.singleton_append, readString]
      · rw [ih]
        rfl
      · exact fun h => hquote (.inl h)
      · intro d tail h
        exact fun _ => hquote (.inr h)

lemma readText_append (text rest : List Char) : readText text (text ++ rest) = some rest := by
  rw [readText, if_pos (List.prefix_append text rest), List.drop_left]

lemma readNat_toDigits (n : ℕ) {rest : List Char}
    (hrest : ∀ c ∈ rest.head?, c.isDigit = false) :
    readNat (Nat.toDigits 10 n ++ rest) = (n, rest) := by
  have hdigits : ∀ d ∈ Nat.toDigits 10 n, d.isDigit = true :=
    fun d hd => Nat.isDigit_of_mem_toDigits (by decide) (by decide) hd
  have hnone : rest.takeWhile Char.isDigit = [] ∧ rest.dropWhile Char.isDigit = rest := by
    cases rest with
    | nil => exact ⟨rfl, rfl⟩
    | cons c rest =>
      have hc : ¬ c.isDigit = true := by
        rw [hrest c rfl]
        decide
      exact ⟨List.takeWhile_cons_of_neg hc, List.dropWhile_cons_of_neg hc⟩
  rw [readNat, List.takeWhile_append_of_pos hdigits, List.dropWhile_append_of_pos hdigits,
    hnone.1, hnone.2, List.append_nil, Nat.ofDigitChars_ten_toDigits]

/-- The text of a payload, part by part. -/
lemma jsonText_cursorPayload (offset : ℕ) (digest : String) (searchId : SearchId) (limit : ℕ) :
    jsonText (cursorPayload offset digest searchId limit) =
      "\x7b\"offset\":".toList ++ (Nat.toDigits 10 offset ++ (",\"filter_digest\":\"".toList ++
        (digest.toList.flatMap escape ++ '"' :: (",\"search_id\":\"".toList ++
          ((uuidText searchId).toList.flatMap escape ++ '"' :: (",\"limit\":".toList ++
            (Nat.toDigits 10 limit ++ ['\x7d']))))))) := by
  have hoffset : ¬ (offset : ℤ) < 0 := by omega
  have hlimit : ¬ (limit : ℤ) < 0 := by omega
  have hkeys : quoted "offset" = "\"offset\"".toList ∧
      quoted "filter_digest" = "\"filter_digest\"".toList ∧
      quoted "search_id" = "\"search_id\"".toList ∧ quoted "limit" = "\"limit\"".toList := by
    decide
  simp only [cursorPayload, jsonText, jsonEntries, hoffset, hlimit, if_false, Int.natAbs_natCast,
    hkeys]
  simp [quoted]

theorem readPayloadText_jsonText (offset : ℕ) (digest : String) (searchId : SearchId)
    (limit : ℕ) :
    readPayloadText (jsonText (cursorPayload offset digest searchId limit)) =
      some (cursorPayload offset digest searchId limit) := by
  rw [jsonText_cursorPayload, readPayloadText, readText_append]
  simp only [Option.bind_eq_bind, Option.bind_some]
  rw [readNat_toDigits offset (by simp)]
  simp only [readText_append, readString_escape, Option.bind_some]
  rw [readNat_toDigits limit (by simp)]
  simp only [if_true, String.ofList_toList]
  rfl

/-! ## The runtime -/

/-- The digests of the cursors that occur, under the secret `secret`. -/
def macs : List (String × String) := [
  ("\x7b\"offset\":1,\"filter_digest\":" ++
      "\"a3c7a2290f7b562cd45ede36c98087ebea41c403d063fe7f67d4d45a1ac94249\"," ++
      "\"search_id\":\"00000000-0000-0000-0000-000000000001\",\"limit\":1\x7d",
    "9221030649e227abe5e450c1620ffff8b7b5768e46e5f9bc2c0ff8f907d63e30")]

/-- Base64 of the UTF-8 encoding of a text. -/
def b64encode (text : String) : String :=
  String.ofList (Base64.encode (text.toByteArray.data.toList.map UInt8.toNat))

def b64decode (text : String) : Except PyErr String :=
  match Base64.decode text.toList with
  | none => valueError "Incorrect padding"
  | some bytes =>
    match String.fromUTF8? ⟨(bytes.map UInt8.ofNat).toArray⟩ with
    | none => valueError "invalid start byte"
    | some s => .ok s

def cursorPy : CursorPy where
  hmacHex := fun _ value => (macs.lookup value).getD ""
  b64encode := b64encode
  b64decode := b64decode
  dumps := fun value => String.ofList (jsonText value)
  loads := fun text =>
    match readPayloadText text.toList with
    | some value => .ok value
    | none => valueError "Expecting value"
  uuid := fun text =>
    if uuidText (readUuid text) = text then .ok (readUuid text)
    else valueError "badly formed hexadecimal UUID string"

lemma b64decode_b64encode (text : String) : b64decode (b64encode text) = .ok text := by
  have hbytes : ∀ b ∈ text.toByteArray.data.toList.map UInt8.toNat, b < 256 := by
    intro b hb
    obtain ⟨byte, -, rfl⟩ := List.mem_map.mp hb
    exact byte.toNat_lt
  have hback : (text.toByteArray.data.toList.map UInt8.toNat).map UInt8.ofNat =
      text.toByteArray.data.toList := by
    rw [List.map_map]
    exact (List.map_congr_left fun byte _ => UInt8.ofNat_toNat).trans (List.map_id _)
  have hutf : String.fromUTF8? text.toByteArray = some text := by
    rw [String.fromUTF8?, dif_pos text.isValidUTF8]
    rfl
  simp only [b64decode, b64encode, String.toList_ofList, Base64.decode_encode _ hbytes, hback,
    Array.toArray_toList, hutf]

lemma cursorPy_laws : cursorPy.Laws where
  decode_encode := b64decode_b64encode
  decode_empty := by
    show b64decode "" = .ok ""
    exact b64decode_b64encode ""
  loads_dumps := by
    intro offset digest searchId limit
    simp only [cursorPy, String.toList_ofList, readPayloadText_jsonText]
  uuid_text := by
    intro searchId hid
    simp only [cursorPy, readUuid_uuidText hid, if_true]
  hex_no_dot := by
    intro secret value
    show '.' ∉ ((macs.lookup value).getD "").toList
    cases hmac : macs.lookup value with
    | none => simp
    | some mac =>
      obtain ⟨before, after, hmacs, -⟩ := List.lookup_eq_some_iff.mp hmac
      have hall : ∀ entry ∈ macs, '.' ∉ entry.2.toList := by decide +kernel
      exact hall (value, mac) (hmacs ▸ List.mem_append_right before List.mem_cons_self)

end ScholarshipFinder.Sample
