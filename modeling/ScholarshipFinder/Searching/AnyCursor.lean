import ScholarshipFinder.Core.CursorText
import ScholarshipFinder.Lib.UrlSplit
import ScholarshipFinder.Sample
import ScholarshipFinder.Sample.Cursors

/-!
# Cursors decode to what was encoded

A cursor is the text of a signed token.  Whatever text a client sends, it stands for a token that
was signed, and decodes as the cursor of that token does, or it is refused as a bad value.
-/

namespace ScholarshipFinder

open Lib

/-- The answer to a cursor that is refused. -/
def refusedCursor : Except PyErr CursorState := valueError "Invalid or expired search cursor"

/-- `cursor` is a cursor that is made with this secret. -/
def IsCursor (cp : CursorPy) (secret cursor : String) : Prop :=
  ∃ offset filterDigest searchId limit, searchId < 2 ^ 128 ∧
    encodeCursorText cp offset filterDigest searchId limit secret = .ok cursor

/-- Both texts are base64 of the same token. -/
def Spells (cursor : List CodePoint) (made : String) : Prop :=
  tokenOf cursor = tokenOf (codePoints made)

/-- No signature under `secret` is forged in `cursor`: where its token has a valid one, its payload
is that of a cursor. -/
def Unforged (cp : CursorPy) (secret : String) (cursor : List CodePoint) : Prop :=
  ∀ payload, tokenOf cursor = .ok (signedToken cp payload secret) →
    ∃ offset filterDigest searchId limit, searchId < 2 ^ 128 ∧ HasText offset ∧ HasText limit ∧
      payload = payloadText cp offset filterDigest searchId limit

section

variable {cp : CursorPy} {py : Py}

/-- Texts that spell the same token are treated alike. -/
lemma decodeCursorText_of_spells {cursor : List CodePoint} {made : String}
    (h : Spells cursor made) (digest : String) (size : ℕ) (secret : String) :
    decodeCursorText cp py cursor digest size secret =
      decodeCursorText cp py (codePoints made) digest size secret := by
  rw [decodeCursorText, readCursorText, h]
  rfl

/-- What is decoded of a text with this token. -/
lemma decodeCursorText_of_token {cursor : List CodePoint} {token : String}
    (h : tokenOf cursor = .ok token) (digest : String) (size : ℕ) (secret : String) :
    decodeCursorText cp py cursor digest size secret =
      match readToken cp py token digest size secret with
      | .ok state => .ok state
      | .error e => if e.cls ∈ cursorErrors then refusedCursor else .error e := by
  simp only [decodeCursorText, readCursorText, h, bind, Except.bind]
  rfl

lemma token_of_encodeCursorText {offset : ℕ} {filterDigest : String} {searchId : SearchId}
    {limit : ℕ} {secret cursor : String}
    (h : encodeCursorText cp offset filterDigest searchId limit secret = .ok cursor) :
    HasText offset ∧ HasText limit ∧ tokenOf (codePoints cursor) =
      .ok (signedToken cp (payloadText cp offset filterDigest searchId limit) secret) := by
  unfold encodeCursorText at h
  split at h
  · next htext =>
    cases h
    rw [encodeCursor_eq, tokenOf_encode]
    exact ⟨htext.1, htext.2, rfl⟩
  · cases h

/-- A cursor is read back with its filters, its page size and its secret, and is refused with
others. -/
lemma decodeCursorText_encode (laws : cp.SignedLaws) {offset : ℕ} {filterDigest : String}
    {searchId : SearchId} {limit : ℕ} {secret cursor : String} (hid : searchId < 2 ^ 128)
    (h : encodeCursorText cp offset filterDigest searchId limit secret = .ok cursor)
    (digest : String) (size : ℕ) (secret' : String) :
    decodeCursorText cp py (codePoints cursor) digest size secret' =
      if filterDigest = digest ∧ limit = size ∧ secret = secret' then .ok ⟨offset, searchId⟩
      else refusedCursor := by
  obtain ⟨hoffset, hlimit, htoken⟩ := token_of_encodeCursorText h
  rw [decodeCursorText_of_token htoken, readToken_signed laws]
  by_cases hsecret : secret = secret'
  · rw [if_pos hsecret, payloadText, laws.loads_dumps _ _ _ _ hoffset hlimit, Except.bind,
      readPayload_eq (laws.uuid_text _ hid)]
    by_cases hsame : filterDigest = digest ∧ limit = size
    · rw [if_pos hsame, if_pos ⟨hsame.1, hsame.2, hsecret⟩]
    · rw [if_neg hsame, if_neg fun h => hsame ⟨h.1, h.2.1⟩]
      rfl
  · have hrefused : ¬ (filterDigest = digest ∧ limit = size ∧ secret = secret') :=
      fun hsame => hsecret hsame.2.2
    rw [if_neg hsecret, if_neg hrefused]
    rfl

/-- A text that is not forged spells a cursor of this secret, or is refused. -/
lemma decodeCursorText_cases (laws : cp.SignedLaws) {cursor : List CodePoint} {secret : String}
    (h : Unforged cp secret cursor) :
    (∃ made, IsCursor cp secret made ∧ Spells cursor made) ∨
      ∀ digest size, decodeCursorText cp py cursor digest size secret = refusedCursor := by
  cases htoken : tokenOf cursor with
  | error e =>
    refine Or.inr fun digest size => ?_
    have hvalue : e.cls ∈ cursorErrors := by
      rw [tokenOf_error htoken]
      decide
    simp only [decodeCursorText, readCursorText, htoken, bind, Except.bind, if_pos hvalue]
    rfl
  | ok token =>
    by_cases hsigned : ∃ payload, token = signedToken cp payload secret
    · left
      obtain ⟨payload, rfl⟩ := hsigned
      obtain ⟨offset, digest, searchId, limit, hid, hoffset, hlimit, rfl⟩ := h payload htoken
      have hmade : encodeCursorText cp offset digest searchId limit secret =
          .ok (encodeCursor cp.withBase64 offset digest searchId limit secret) :=
        if_pos ⟨hoffset, hlimit⟩
      refine ⟨_, ⟨offset, digest, searchId, limit, hid, hmade⟩, ?_⟩
      rw [Spells, htoken, encodeCursor_eq, tokenOf_encode]
    · refine Or.inr fun digest size => ?_
      rcases readToken_cases laws py token digest size secret with hvalid | ⟨e, he, hvalue⟩
      · exact absurd hvalid hsigned
      · rw [decodeCursorText_of_token htoken, he]
        exact if_pos hvalue

end

/-- **Cursors decode to what was encoded, or not at all**: what is made of numbers that have a text
is read back under the same filters, page size and secret, and refused otherwise; every other text
in which no signature is forged is refused as a bad value, unless it is base64 of the token of a
cursor, and then decodes as that cursor does. -/
theorem cursors_decode {cp : CursorPy} (laws : cp.SignedLaws) (py : Py) :
    (∀ offset filterDigest searchId limit secret, searchId < 2 ^ 128 → HasText offset →
      HasText limit → ∃ cursor,
        encodeCursorText cp offset filterDigest searchId limit secret = .ok cursor ∧
        ∀ digest size secret', decodeCursorText cp py (codePoints cursor) digest size secret' =
          if filterDigest = digest ∧ limit = size ∧ secret = secret' then .ok ⟨offset, searchId⟩
          else refusedCursor) ∧
    ∀ secret cursor, Unforged cp secret cursor →
      (∀ digest size, decodeCursorText cp py cursor digest size secret = refusedCursor) ∨
        ∃ made, IsCursor cp secret made ∧ Spells cursor made ∧
          ∀ digest size, decodeCursorText cp py cursor digest size secret =
            decodeCursorText cp py (codePoints made) digest size secret := by
  constructor
  · intro offset filterDigest searchId limit secret hid hoffset hlimit
    have hmade : encodeCursorText cp offset filterDigest searchId limit secret =
        .ok (encodeCursor cp.withBase64 offset filterDigest searchId limit secret) :=
      if_pos ⟨hoffset, hlimit⟩
    exact ⟨_, hmade, decodeCursorText_encode laws hid hmade⟩
  · intro secret cursor hunforged
    rcases @decodeCursorText_cases cp py laws cursor secret hunforged with
      ⟨made, hmade, hspells⟩ | hrefused
    · exact Or.inr ⟨made, hmade, hspells, fun digest size =>
        decodeCursorText_of_spells hspells digest size secret⟩
    · exact Or.inl hrefused

/-! ## A runtime that signs -/

namespace Sample

/-- The digests that occur, and other texts for all others. -/
def hmacHex (secret value : String) : String :=
  match if secret = "secret" then macs.lookup value else none with
  | some mac => mac
  | none => urlsafeB64encode secret ++ "~" ++ urlsafeB64encode value

def signingPy : CursorPy := { cursorPy with hmacHex := hmacHex }

lemma mem_urlsafeB64encode {text : String} {c : Char} (hc : c ∈ (urlsafeB64encode text).toList) :
    Urlencoded.isAscii c = true ∧ c ≠ '.' ∧ c ≠ '~' ∧ c ≠ '!' := by
  have hletters : Base64.alphabet.all
      (fun c => Urlencoded.isAscii c && decide (c ≠ '.' ∧ c ≠ '~' ∧ c ≠ '!')) = true := by
    decide +kernel
  rw [urlsafeB64encode, String.toList_ofList] at hc
  rcases Base64.mem_encode (fun b hb => utf8Bytes_lt hb) hc with hletter | rfl
  · simpa using List.all_eq_true.mp hletters c hletter
  · decide

lemma urlsafeB64encode_injective : Function.Injective urlsafeB64encode := by
  intro s t h
  have htoken := tokenOf_encode s
  rw [h, tokenOf_encode, Except.ok.injEq] at htoken
  exact htoken.symm

/-- A digest of the table is that of one value. -/
lemma lookup_macs {value mac : String} (h : macs.lookup value = some mac) :
    (value, mac) ∈ macs := by
  obtain ⟨before, after, hmacs, -⟩ := List.lookup_eq_some_iff.mp h
  rw [hmacs]
  exact List.mem_append_right before List.mem_cons_self

lemma macs_spec : macs.all (fun entry => entry.2.toList.all fun c =>
    Urlencoded.isAscii c && decide (c ≠ '.' ∧ c ≠ '~')) = true := by
  decide +kernel

lemma hmacHex_cases (secret value : String) :
    (secret = "secret" ∧ (value, hmacHex secret value) ∈ macs) ∨
      hmacHex secret value = urlsafeB64encode secret ++ "~" ++ urlsafeB64encode value := by
  unfold hmacHex
  split
  · next mac hmac =>
    split at hmac
    · next hsecret => exact Or.inl ⟨hsecret, lookup_macs hmac⟩
    · cases hmac
  · exact Or.inr rfl

lemma tilde_mem (secret value : String) :
    '~' ∈ (urlsafeB64encode secret ++ "~" ++ urlsafeB64encode value).toList := by
  simp

lemma tilde_notMem {entry : String × String} (h : entry ∈ macs) : '~' ∉ entry.2.toList := by
  intro hmem
  have hspec := List.all_eq_true.mp (List.all_eq_true.mp macs_spec entry h) '~' hmem
  exact absurd hspec (by decide)

lemma hmacHex_injective {secret value secret' value' : String}
    (h : hmacHex secret value = hmacHex secret' value') : secret = secret' ∧ value = value' := by
  rcases hmacHex_cases secret value with ⟨hsecret, hmac⟩ | hother
  · rcases hmacHex_cases secret' value' with ⟨hsecret', hmac'⟩ | hother'
    · rw [macs, List.mem_singleton] at hmac hmac'
      exact ⟨hsecret.trans hsecret'.symm,
        (congrArg Prod.fst hmac).trans (congrArg Prod.fst hmac').symm⟩
    · exact absurd (h.trans hother' ▸ tilde_mem secret' value') (tilde_notMem hmac)
  · rcases hmacHex_cases secret' value' with ⟨hsecret', hmac'⟩ | hother'
    · exact absurd (h.symm.trans hother ▸ tilde_mem secret value) (tilde_notMem hmac')
    · rw [hother, hother', ← String.toList_inj] at h
      have hlist : ∀ s t : String, (urlsafeB64encode s ++ "~" ++ urlsafeB64encode t).toList =
          (urlsafeB64encode s).toList ++ '~' :: (urlsafeB64encode t).toList := by
        intro s t
        simp
      have hfree : ∀ s, '~' ∉ (urlsafeB64encode s).toList :=
        fun s hmem => (mem_urlsafeB64encode hmem).2.2.1 rfl
      rw [hlist, hlist] at h
      have hbefore := congrArg (UrlSplit.before '~') h
      have hafter := congrArg (UrlSplit.after '~') h
      rw [UrlSplit.before_append_cons (hfree _), UrlSplit.before_append_cons (hfree _),
        String.toList_inj] at hbefore
      rw [UrlSplit.after_append_cons (hfree _), UrlSplit.after_append_cons (hfree _),
        String.toList_inj] at hafter
      exact ⟨urlsafeB64encode_injective hbefore, urlsafeB64encode_injective hafter⟩

lemma signingPy_eq : signingPy.loads = cursorPy.loads ∧ signingPy.dumps = cursorPy.dumps ∧
    signingPy.uuid = cursorPy.uuid := by
  simp only [signingPy, and_self]

lemma signingPy_laws : signingPy.SignedLaws where
  loads_dumps := by
    intro offset digest searchId limit _ _
    rw [signingPy_eq.1, signingPy_eq.2.1]
    exact cursorPy_laws.loads_dumps offset digest searchId limit
  uuid_text := by
    rw [signingPy_eq.2.2]
    exact cursorPy_laws.uuid_text
  hex := by
    intro secret value c hc
    change c ∈ (hmacHex secret value).toList at hc
    rcases hmacHex_cases secret value with ⟨-, hmac⟩ | hother
    · have hspec := List.all_eq_true.mp (List.all_eq_true.mp macs_spec _ hmac) c hc
      rw [Bool.and_eq_true, decide_eq_true_eq] at hspec
      exact ⟨hspec.1, hspec.2.1⟩
    · rw [hother, String.toList_append, String.toList_append, List.mem_append,
        List.mem_append] at hc
      rcases hc with (hc | hc) | hc
      · exact ⟨(mem_urlsafeB64encode hc).1, (mem_urlsafeB64encode hc).2.1⟩
      · have htilde : c = '~' := by simpa using hc
        subst htilde
        decide
      · exact ⟨(mem_urlsafeB64encode hc).1, (mem_urlsafeB64encode hc).2.1⟩
  injective := by
    intro secret value secret' value' h
    exact hmacHex_injective h

/-- The digest of the filters of the cursor below. -/
def placeDigest : String := "a3c7a2290f7b562cd45ede36c98087ebea41c403d063fe7f67d4d45a1ac94249"

/-- The token of the second result of the first search, and its cursor. -/
def placeToken : String :=
  "\x7b\"offset\":1,\"filter_digest\":" ++
    "\"a3c7a2290f7b562cd45ede36c98087ebea41c403d063fe7f67d4d45a1ac94249\"," ++
    "\"search_id\":\"00000000-0000-0000-0000-000000000001\",\"limit\":1\x7d." ++
    "9221030649e227abe5e450c1620ffff8b7b5768e46e5f9bc2c0ff8f907d63e30"

def placeCursor : String :=
  "eyJvZmZzZXQiOjEsImZpbHRlcl9kaWdlc3QiOiJhM2M3YTIyOTBmN2I1NjJjZDQ1ZWRlMzZjOTgwODdlYmVhNDFjNDAz" ++
    "ZDA2M2ZlN2Y2N2Q0ZDQ1YTFhYzk0MjQ5Iiwic2VhcmNoX2lkIjoiMDAwMDAwMDAtMDAwMC0wMDAwLTAwMDAtMDAwMDAw" ++
    "MDAwMDAxIiwibGltaXQiOjF9LjkyMjEwMzA2NDllMjI3YWJlNWU0NTBjMTYyMGZmZmY4YjdiNTc2OGU0NmU1ZjliYzJj" ++
    "MGZmOGY5MDdkNjNlMzA="

lemma placeToken_eq :
    signedToken signingPy (payloadText signingPy 1 placeDigest 1 1) "secret" = placeToken := by
  decide +kernel

lemma urlsafeB64encode_placeToken : urlsafeB64encode placeToken = placeCursor := by
  decide +kernel

lemma encode_placeCursor :
    encodeCursorText signingPy 1 placeDigest 1 1 "secret" = .ok placeCursor := by
  have htext : HasText 1 := by decide
  rw [encodeCursorText, if_pos ⟨htext, htext⟩, encodeCursor_eq, placeToken_eq,
    urlsafeB64encode_placeToken]

end Sample

/-- What may stand before a cursor. -/
lemma spells_of_mark (made : String) : Spells (codePoints ("!" ++ made)) made := by
  have hbytes : Base64.a2b 0 0 0 (Urlencoded.utf8 ("!" ++ made).toList) =
      Base64.a2b 0 0 0 (Urlencoded.utf8 made.toList) := by
    have hmark : Urlencoded.utf8 ("!" ++ made).toList = 33 :: Urlencoded.utf8 made.toList := by
      rw [String.toList_append]
      rfl
    have hskip : Base64.sextet 33 = none := by
      decide
    rw [hmark, Base64.a2b, if_neg (by decide), hskip]
  simp only [Spells, tokenOf, encodeText_codePoints, bind, Except.bind, urlsafeB64decode, hbytes]

/-- A spelling of a cursor has the signature of the cursor. -/
lemma unforged_of_spells {cp : CursorPy} (laws : cp.SignedLaws) {secret made : String}
    {cursor : List CodePoint} (hmade : IsCursor cp secret made) (h : Spells cursor made) :
    Unforged cp secret cursor := by
  intro payload hpayload
  obtain ⟨offset, digest, searchId, limit, hid, hencode⟩ := hmade
  obtain ⟨hoffset, hlimit, htoken⟩ := token_of_encodeCursorText hencode
  rw [h, htoken, Except.ok.injEq] at hpayload
  exact ⟨offset, digest, searchId, limit, hid, hoffset, hlimit,
    (signedToken_inj laws hpayload).symm⟩

/-- A text that is refused before its token is read. -/
lemma unforged_of_error {cp : CursorPy} {secret : String} {cursor : List CodePoint} {e : PyErr}
    (h : tokenOf cursor = .error e) : Unforged cp secret cursor := by
  intro payload hpayload
  rw [h] at hpayload
  cases hpayload

/-- The first number with too many digits. -/
lemma not_hasText_pow {digits : ℕ} (h : digits = maxStrDigits) : ¬ HasText (10 ^ digits) := by
  have hpos : 0 < digits := by
    rw [h]
    decide
  rw [HasText, ← h, Nat.length_toDigits_le_iff (by decide) hpos]
  exact lt_irrefl _

/-- A cursor with a mark before it is no cursor, but is read; and there is no cursor for a place
whose number has too many digits. -/
theorem marked_cursor_decodes :
    ¬ IsCursor Sample.signingPy "secret" ("!" ++ Sample.placeCursor) ∧
      Unforged Sample.signingPy "secret" (codePoints ("!" ++ Sample.placeCursor)) ∧
      decodeCursorText Sample.signingPy Sample.py (codePoints ("!" ++ Sample.placeCursor))
        Sample.placeDigest 1 "secret" = .ok ⟨1, 1⟩ ∧
      encodeCursorText Sample.signingPy (10 ^ 4300) Sample.placeDigest 1 1 "secret" =
        valueError ("Exceeds the limit (4300 digits) for integer string conversion; " ++
          "use sys.set_int_max_str_digits() to increase the limit") := by
  have hid : 1 < 2 ^ 128 := by norm_num
  have hmade : IsCursor Sample.signingPy "secret" Sample.placeCursor :=
    ⟨1, Sample.placeDigest, 1, 1, hid, Sample.encode_placeCursor⟩
  have hspells := spells_of_mark Sample.placeCursor
  refine ⟨?_, unforged_of_spells Sample.signingPy_laws hmade hspells, ?_, ?_⟩
  · rintro ⟨offset, digest, searchId, limit, -, hencode⟩
    unfold encodeCursorText at hencode
    split at hencode
    · rw [encodeCursor_eq, Except.ok.injEq] at hencode
      have hmark : '!' ∈ ("!" ++ Sample.placeCursor).toList := by
        rw [String.toList_append]
        exact List.mem_append_left _ (List.mem_singleton.mpr rfl)
      rw [← hencode] at hmark
      exact (Sample.mem_urlsafeB64encode hmark).2.2.2 rfl
    · cases hencode
  · rw [decodeCursorText_of_spells hspells,
      decodeCursorText_encode Sample.signingPy_laws hid Sample.encode_placeCursor]
    exact if_pos ⟨rfl, rfl, rfl⟩
  · have hlong := @not_hasText_pow 4300 rfl
    exact if_neg fun h => hlong h.1

/-- A cursor, with its own secret and with another one; a text that is no base64; a surrogate. -/
theorem place_cursor_read_back :
    (∃ cursor,
      encodeCursorText Sample.signingPy 1 Sample.placeDigest 1 1 "secret" = .ok cursor ∧
      decodeCursorText Sample.signingPy Sample.py (codePoints cursor) Sample.placeDigest 1
        "secret" = .ok ⟨1, 1⟩ ∧
      decodeCursorText Sample.signingPy Sample.py (codePoints cursor) Sample.placeDigest 1
        "other" = refusedCursor) ∧
    decodeCursorText Sample.signingPy Sample.py (codePoints "not-base64!!") Sample.placeDigest 1
      "secret" = refusedCursor ∧
    decodeCursorText Sample.signingPy Sample.py [0xd800] Sample.placeDigest 1 "secret" =
      refusedCursor := by
  obtain ⟨hmade, hall⟩ := cursors_decode Sample.signingPy_laws Sample.py
  have hrefused : ∀ cursor e, tokenOf cursor = .error e →
      decodeCursorText Sample.signingPy Sample.py cursor Sample.placeDigest 1 "secret" =
        refusedCursor := by
    intro cursor e he
    rcases hall "secret" cursor (unforged_of_error he) with hrefused | ⟨made, hmade, hspells, -⟩
    · exact hrefused Sample.placeDigest 1
    · obtain ⟨offset, digest, searchId, limit, -, hencode⟩ := hmade
      rw [Spells, he, (token_of_encodeCursorText hencode).2.2] at hspells
      cases hspells
  obtain ⟨cursor, hcursor, hread⟩ := hmade 1 Sample.placeDigest 1 1 "secret" (by norm_num)
    (by decide) (by decide)
  refine ⟨⟨cursor, hcursor, ?_, ?_⟩, ?_, ?_⟩
  · rw [hread, if_pos ⟨rfl, rfl, rfl⟩]
  · rw [hread, if_neg fun h => absurd h.2.2 (by decide)]
  · exact hrefused _ _ (by decide +kernel : tokenOf (codePoints "not-base64!!") =
      valueError "Incorrect padding")
  · exact hrefused _ _ (by decide +kernel : tokenOf [0xd800] =
      valueError "surrogates not allowed")

end ScholarshipFinder
