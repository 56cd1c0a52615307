import ScholarshipFinder.Infra.Qstash
import ScholarshipFinder.Sample

/-!
# Which deliveries are verified

A delivery is verified under one of the two keys, whichever comes first: its token is signed with
the key, issued by the service for the configured destination, and has the digest of the body.  The
digest is written in base64, and what is written is read as Python's decoder reads it, which passes
over the characters of neither alphabet.
-/

namespace ScholarshipFinder

open Lib

/-- The text is read as these bytes, once the padding stands behind it. -/
def ReadsAs (text : String) (bytes : List ℕ) : Prop :=
  text.toList.all Urlencoded.isAscii = true ∧
    Base64.a2b 0 0 0 (Base64.ascii (text.toList ++ Base64.padding text.toList.length)) = some bytes

variable {qp : QStashPy} {decode : JwtDecode} {signed : String → String → Claims → Prop}
  {inTime : Claims → Prop} {destination signature : String} {rawBody : List UInt8}

/-- The token is signed with the key and has these claims: all that are required, and of a time
that is now. -/
structure Accepted (signed : String → String → Claims → Prop) (inTime : Claims → Prop)
    (signature key : String) (claims : Claims) : Prop where
  signed : signed signature key claims
  required : ∀ name ∈ requiredClaims, ∃ value, claims.lookup name = some value ∧ value ≠ .null
  inTime : inTime claims

/-- `jwt.decode` accepts a token under a key exactly if it is an HS256 token that is signed with
the key, with all required claims and within its validity period. -/
def DecodesHS256 (decode : JwtDecode) (signed : String → String → Claims → Prop)
    (inTime : Claims → Prop) : Prop := ∀ signature key claims,
  decode signature key ["HS256"] requiredClaims = .ok claims ↔
    Accepted signed inTime signature key claims

/-- The claims are those of a delivery of this body to the destination. -/
structure ForBody (qp : QStashPy) (destination : String) (rawBody : List UInt8) (claims : Claims) :
    Prop where
  issuer : claims.lookup "iss" = some (.str "Upstash")
  subject : claims.lookup "sub" = some (.str destination)
  body : ∃ value, claims.lookup "body" = some value ∧ ReadsAs (qp.strOf value) (qp.digest rawBody)

/-- The delivery is genuine under the key. -/
def GenuineUnder (qp : QStashPy) (signed : String → String → Claims → Prop) (inTime : Claims → Prop)
    (destination signature : String) (rawBody : List UInt8) (key : String) : Prop :=
  ∃ claims, Accepted signed inTime signature key claims ∧ ForBody qp destination rawBody claims

/-! ## The digest of the body -/

lemma isAscii_padding {n : ℕ} : (Base64.padding n).all Urlencoded.isAscii = true := by
  refine List.all_eq_true.mpr fun c hc => ?_
  rw [List.eq_of_mem_replicate hc]
  decide

/-- A claim is decoded to a digest if it is read as one, and nothing is raised. -/
lemma decodeBodyClaim_eq (value : String) : ∃ read, decodeBodyClaim value = .ok read ∧
    ∀ digest, read = some digest ↔ ReadsAs value digest ∧ digest.length = digestSize := by
  have htext : (value ++ String.ofList (Base64.padding value.toList.length)).toList =
      value.toList ++ Base64.padding value.toList.length := by
    rw [String.toList_append, String.toList_ofList]
  rw [decodeBodyClaim, urlsafeB64decodeText, htext, List.all_append, isAscii_padding,
    Bool.and_true]
  by_cases hascii : value.toList.all Urlencoded.isAscii = true
  · rw [if_pos hascii, urlsafeB64decode]
    cases hread : Base64.a2b 0 0 0
        (Base64.ascii (value.toList ++ Base64.padding value.toList.length)) with
    | none =>
      refine ⟨none, rfl, fun digest => ⟨fun h => (by cases h), ?_⟩⟩
      rintro ⟨⟨-, hdigest⟩, -⟩
      rw [hread] at hdigest
      cases hdigest
    | some bytes =>
      refine ⟨_, rfl, fun digest => ?_⟩
      rw [ReadsAs, hread, Option.some.injEq]
      by_cases hlength : bytes.length = digestSize
      · rw [if_pos hlength, Option.some.injEq]
        constructor
        · rintro rfl
          exact ⟨⟨hascii, rfl⟩, hlength⟩
        · exact fun h => h.1.2
      · rw [if_neg hlength]
        constructor
        · exact fun h => by cases h
        · rintro ⟨⟨-, rfl⟩, hdigest⟩
          exact absurd hdigest hlength
  · rw [if_neg hascii]
    exact ⟨none, rfl, fun digest => ⟨fun h => (by cases h), fun h => absurd h.1.1 hascii⟩⟩

/-- A base64 text of the digest, of one alphabet or the other and with its padding or without, is
read as the digest. -/
lemma readsAs_of_isText {text : List Char} {digest : List ℕ} (h : Base64.IsText text digest) :
    ReadsAs (String.ofList text) digest := by
  rw [ReadsAs, String.toList_ofList]
  have hletters : (Base64.alphabet ++ "=+/".toList).all Urlencoded.isAscii = true := by
    decide +kernel
  exact ⟨List.all_eq_true.mpr fun c hc => List.all_eq_true.mp hletters c (h.mem hc), h.read⟩

/-- Each of the texts that encoders write for a digest is decoded to it. -/
theorem decodeBodyClaim_encodings {text : List Char} {digest : List ℕ}
    (hbytes : ∀ b ∈ digest, b < 256) (hlength : digest.length = digestSize)
    (h : text ∈ Base64.encodings digest) :
    decodeBodyClaim (String.ofList text) = .ok (some digest) := by
  obtain ⟨read, hread, hdigest⟩ := decodeBodyClaim_eq (String.ofList text)
  have hreads := readsAs_of_isText (Base64.isText_of_mem_encodings hbytes h)
  rw [hread, (hdigest digest).mpr ⟨hreads, hlength⟩]

/-! ## The keys in turn -/

/-- A claim that is a text equals only this text. -/
lemma any_eqStr {value : Option Json} {s : String} :
    value.any (Json.eqStr s) = true ↔ value = some (.str s) := by
  cases value with
  | none => simp
  | some value =>
    cases value with
    | str t => simp [Json.eqStr]
    | null | bool | int | float | arr | obj => simp [Json.eqStr]

/-- The keys are tried until one verifies the delivery. -/
lemma verifyKeys_ok (hdecode : DecodesHS256 decode signed inTime)
    (hdigest : (qp.digest rawBody).length = digestSize) (destination signature : String)
    (keys : List String) (reason : String) (signedDestination : Option String) : ∃ result,
      verifyKeys qp decode destination signature (qp.digest rawBody) keys reason
        signedDestination = .ok result ∧
      (result.ok = true ↔
        ∃ key ∈ keys, GenuineUnder qp signed inTime destination signature rawBody key) := by
  induction keys generalizing reason signedDestination with
  | nil => exact ⟨_, rfl, by simp⟩
  | cons key keys ih =>
    -- A key that does not verify leaves the others to be tried, whatever is noted.
    have hskip : ¬ GenuineUnder qp signed inTime destination signature rawBody key →
        ∀ reason signedDestination, ∃ result,
          verifyKeys qp decode destination signature (qp.digest rawBody) keys reason
            signedDestination = .ok result ∧
          (result.ok = true ↔ ∃ other ∈ key :: keys,
            GenuineUnder qp signed inTime destination signature rawBody other) := by
      intro hkey reason signedDestination
      obtain ⟨result, hresult, hok⟩ := ih reason signedDestination
      refine ⟨result, hresult, hok.trans ?_⟩
      simp [hkey]
    rw [verifyKeys]
    cases hclaims : decode signature key ["HS256"] requiredClaims with
    | error e =>
      have hkey : ¬ GenuineUnder qp signed inTime destination signature rawBody key := by
        rintro ⟨claims, haccepted, -⟩
        rw [(hdecode signature key claims).mpr haccepted] at hclaims
        cases hclaims
      cases e with
      | expiredSignature | immatureSignature | missingRequiredClaim | other => exact hskip hkey _ _
    | ok claims =>
      have hiff : GenuineUnder qp signed inTime destination signature rawBody key ↔
          ForBody qp destination rawBody claims := by
        constructor
        · rintro ⟨claims', haccepted, hbody⟩
          rw [(hdecode signature key claims').mpr haccepted] at hclaims
          rwa [← Except.ok.inj hclaims]
        · exact fun hbody => ⟨claims, (hdecode signature key claims).mp hclaims, hbody⟩
      dsimp only
      split
      · next hissuer =>
        exact hskip (fun h => hissuer (any_eqStr.mpr (hiff.mp h).issuer)) _ _
      · next hissuer =>
        split
        · next hsubject =>
          exact hskip (fun h => hsubject (any_eqStr.mpr (hiff.mp h).subject)) _ _
        · next hsubject =>
          rw [not_not, any_eqStr] at hissuer hsubject
          obtain ⟨value, hvalue, -⟩ :=
            ((hdecode signature key claims).mp hclaims).required "body" (by decide)
          obtain ⟨read, hread, hreads⟩ := decodeBodyClaim_eq (qp.strOf value)
          have hmatch : GenuineUnder qp signed inTime destination signature rawBody key ↔
              read = some (qp.digest rawBody) := by
            rw [hiff, hreads]
            constructor
            · rintro ⟨-, -, value', hvalue', hbody⟩
              obtain rfl := Option.some.inj (hvalue.symm.trans hvalue')
              exact ⟨hbody, hdigest⟩
            · exact fun h => ⟨hissuer, hsubject, value, hvalue, h.1⟩
          simp only [hvalue, Option.getD_some, hread, bind, Except.bind]
          split
          · next hother => exact hskip (fun h => hother (hmatch.mp h)) _ _
          · next hsame =>
            rw [not_not] at hsame
            exact ⟨_, rfl, iff_of_true rfl ⟨key, List.mem_cons_self, hmatch.mpr hsame⟩⟩

/-! ## Which deliveries are verified -/

lemma given_eq_some {value : Option String} {text : String} :
    given value = some text ↔ value = some text ∧ text ≠ "" := by
  rw [given, Option.filter_eq_some_iff, decide_eq_true_eq]

lemma given_eq_none {value : Option String} (h : given value = none) {text : String}
    (htext : value = some text) : text = "" := by
  by_contra hne
  rw [given_eq_some.mpr ⟨htext, hne⟩] at h
  cases h

/-- Everything is configured and given, and the delivery is genuine under one of the keys. -/
structure GenuineDelivery (qp : QStashPy) (signed : String → String → Claims → Prop)
    (inTime : Claims → Prop) (config : QStashVerificationConfig) (rawBody : List UInt8)
    (signature : Option String) : Prop where
  keys : ∃ current next token, config.currentSigningKey = some current ∧ current ≠ "" ∧
    config.nextSigningKey = some next ∧ next ≠ "" ∧ signature = some token ∧ token ≠ "" ∧
    (GenuineUnder qp signed inTime config.expectedDestination token rawBody current ∨
      GenuineUnder qp signed inTime config.expectedDestination token rawBody next)
  destination : config.expectedDestination ≠ ""
  body : rawBody ≠ []

/-- The configuration with the two keys exchanged. -/
def QStashVerificationConfig.swapped (config : QStashVerificationConfig) :
    QStashVerificationConfig :=
  { config with
    currentSigningKey := config.nextSigningKey
    nextSigningKey := config.currentSigningKey }

lemma genuineDelivery_swapped {config : QStashVerificationConfig} {signature : Option String} :
    GenuineDelivery qp signed inTime config.swapped rawBody signature ↔
      GenuineDelivery qp signed inTime config rawBody signature := by
  constructor
  · rintro ⟨⟨next, current, token, hnext, hnextNe, hcurrent, hcurrentNe, htoken, htokenNe,
      hgenuine⟩, hdestination, hbody⟩
    exact ⟨⟨current, next, token, hcurrent, hcurrentNe, hnext, hnextNe, htoken, htokenNe,
      hgenuine.symm⟩, hdestination, hbody⟩
  · rintro ⟨⟨current, next, token, hcurrent, hcurrentNe, hnext, hnextNe, htoken, htokenNe,
      hgenuine⟩, hdestination, hbody⟩
    exact ⟨⟨next, current, token, hnext, hnextNe, hcurrent, hcurrentNe, htoken, htokenNe,
      hgenuine.symm⟩, hdestination, hbody⟩

/-- A delivery is verified exactly if it is genuine, and nothing is raised. -/
lemma verify_ok (hjwt : qp.jwt = some decode) (hdecode : DecodesHS256 decode signed inTime)
    (hdigest : (qp.digest rawBody).length = digestSize) (config : QStashVerificationConfig)
    (signature : Option String) : ∃ result, verify qp config rawBody signature = .ok result ∧
      (result.ok = true ↔ GenuineDelivery qp signed inTime config rawBody signature) := by
  have hrejected : ∀ reason, ¬ GenuineDelivery qp signed inTime config rawBody signature →
      ∃ result, Except.ok (rejected reason) = (.ok result : Except PyErr _) ∧
        (result.ok = true ↔ GenuineDelivery qp signed inTime config rawBody signature) :=
    fun reason h => ⟨_, rfl, iff_of_false Bool.false_ne_true h⟩
  unfold verify
  rw [hjwt]
  cases hcurrent : given config.currentSigningKey with
  | none =>
    refine hrejected _ ?_
    rintro ⟨⟨current, -, -, hkey, hne, -⟩, -, -⟩
    exact hne (given_eq_none hcurrent hkey)
  | some current =>
    cases hnext : given config.nextSigningKey with
    | none =>
      refine hrejected _ ?_
      rintro ⟨⟨-, next, -, -, -, hkey, hne, -⟩, -, -⟩
      exact hne (given_eq_none hnext hkey)
    | some next =>
      dsimp only
      split
      · next hdestination => exact hrejected _ fun h => h.destination hdestination
      · next hdestination =>
        cases hsignature : given signature with
        | none =>
          refine hrejected _ ?_
          rintro ⟨⟨-, -, token, -, -, -, -, htoken, hne, -⟩, -, -⟩
          exact hne (given_eq_none hsignature htoken)
        | some token =>
          dsimp only
          split
          · next hbody => exact hrejected _ fun h => h.body hbody
          · next hbody =>
            obtain ⟨hcurrentKey, hcurrentNe⟩ := given_eq_some.mp hcurrent
            obtain ⟨hnextKey, hnextNe⟩ := given_eq_some.mp hnext
            obtain ⟨htoken, htokenNe⟩ := given_eq_some.mp hsignature
            obtain ⟨result, hresult, hok⟩ := verifyKeys_ok hdecode hdigest
              config.expectedDestination token [current, next]
              "signature_not_issued_by_a_configured_signing_key" none
            refine ⟨result, hresult, hok.trans ⟨?_, ?_⟩⟩
            · rintro ⟨key, hkey, hgenuine⟩
              refine ⟨⟨current, next, token, hcurrentKey, hcurrentNe, hnextKey, hnextNe, htoken,
                htokenNe, ?_⟩, hdestination, hbody⟩
              rcases List.mem_pair.mp hkey with rfl | rfl
              · exact Or.inl hgenuine
              · exact Or.inr hgenuine
            · rintro ⟨⟨current', next', token', hcurrent', -, hnext', -, htoken', -,
                hgenuine⟩, -, -⟩
              obtain rfl := Option.some.inj (hcurrentKey.symm.trans hcurrent')
              obtain rfl := Option.some.inj (hnextKey.symm.trans hnext')
              obtain rfl := Option.some.inj (htoken.symm.trans htoken')
              rcases hgenuine with hgenuine | hgenuine
              · exact ⟨current, by simp, hgenuine⟩
              · exact ⟨next, by simp, hgenuine⟩

/-- A delivery is verified exactly if it is genuine under one of the keys, whichever of them is
the current one, and every base64 text of the digest is read as the digest. -/
theorem verify_iff (hjwt : qp.jwt = some decode) (hdecode : DecodesHS256 decode signed inTime)
    (hdigest : ∀ body, (qp.digest body).length = digestSize) (config : QStashVerificationConfig)
    (rawBody : List UInt8) (signature : Option String) :
    (∃ result, verify qp config rawBody signature = .ok result ∧
      (result.ok = true ↔ GenuineDelivery qp signed inTime config rawBody signature)) ∧
    (∃ result, verify qp config.swapped rawBody signature = .ok result ∧
      (result.ok = true ↔ GenuineDelivery qp signed inTime config rawBody signature)) ∧
    ∀ text, Base64.IsText text (qp.digest rawBody) →
      ReadsAs (String.ofList text) (qp.digest rawBody) := by
  refine ⟨verify_ok hjwt hdecode (hdigest rawBody) config signature, ?_,
    fun text h => readsAs_of_isText h⟩
  obtain ⟨result, hresult, hok⟩ :=
    verify_ok hjwt hdecode (hdigest rawBody) config.swapped signature
  exact ⟨result, hresult, hok.trans genuineDelivery_swapped⟩

/-! ## Two deliveries -/

namespace Sample

/-- The digest of the body, as it is sent. -/
def sentDigest : String := "RBNvo1WzZ4oRRq0W9-hknpT7T8If536DEMBg9hyq_4o="

def deliveryClaims (body : String) : Claims := [("iss", .str "Upstash"),
  ("sub", .str "https://api.example.com/api/v1/internal/jobs"), ("exp", .int 1767226200),
  ("nbf", .int 1767225600), ("body", .str body)]

/-- The token with the digest, signed with the next key. -/
def deliveryToken : String :=
  "eyJhbGciOiJIUzI1NiIsInR5cCI6IkpXVCJ9." ++
    "eyJpc3MiOiJVcHN0YXNoIiwic3ViIjoiaHR0cHM6Ly9hcGkuZXhhbXBsZS5jb20vYXBpL3YxL2ludGVy" ++
    "bmFsL2pvYnMiLCJleHAiOjE3NjcyMjYyMDAsIm5iZiI6MTc2NzIyNTYwMCwiYm9keSI6IlJCTnZvMVd6" ++
    "WjRvUlJxMFc5LWhrbnBUN1Q4SWY1MzZERU1CZzloeXFfNG89In0" ++
    ".vdAiOAk4a3WevpvdPXS9OzwgQDQvskFZJ-eaOn-Y3Zk"

/-- The token with an exclamation mark before the digest. -/
def markedToken : String :=
  "eyJhbGciOiJIUzI1NiIsInR5cCI6IkpXVCJ9." ++
    "eyJpc3MiOiJVcHN0YXNoIiwic3ViIjoiaHR0cHM6Ly9hcGkuZXhhbXBsZS5jb20vYXBpL3YxL2ludGVy" ++
    "bmFsL2pvYnMiLCJleHAiOjE3NjcyMjYyMDAsIm5iZiI6MTc2NzIyNTYwMCwiYm9keSI6IiFSQk52bzFX" ++
    "elo0b1JScTBXOS1oa25wVDdUOElmNTM2REVNQmc5aHlxXzRvPSJ9" ++
    ".BO2YdfrI4zu2ISQaZhzOmrygM33kn6IlJSeoDbg4S0s"

def deliveryKey : String := "next-signing-key-for-tests-0123456789"

/-- The body is the text of an empty dict. -/
def deliveredBody : List UInt8 := [123, 125]

/-- Answers as Python does on the two tokens and on the body, at 2026-01-01T00:05 UTC. -/
def qstashPy : QStashPy where
  toPy := py
  digest := fun body =>
    if body = deliveredBody then
      [68, 19, 111, 163, 85, 179, 103, 138, 17, 70, 173, 22, 247, 232, 100, 158, 148, 251, 79,
        194, 31, 231, 126, 131, 16, 192, 96, 246, 28, 170, 255, 138]
    else List.replicate 32 0
  jwt := some fun signature key _ _ =>
    if key = deliveryKey ∧ signature = deliveryToken then .ok (deliveryClaims sentDigest)
    else if key = deliveryKey ∧ signature = markedToken then
      .ok (deliveryClaims ("!" ++ sentDigest))
    else .error .other

def qstashConfig : QStashVerificationConfig where
  currentSigningKey := some "current-signing-key-for-tests-0123456789"
  nextSigningKey := some deliveryKey
  expectedDestination := "https://api.example.com/api/v1/internal/jobs"

/-- What is signed in the sample. -/
def signsDelivery  (signature key : String) (claims : Claims) : Prop := key = deliveryKey ∧
  ((signature = deliveryToken ∧ claims = deliveryClaims sentDigest) ∨
    (signature = markedToken ∧ claims = deliveryClaims ("!" ++ sentDigest)))

end Sample

lemma Sample.required_delivery (body : String) : ∀ name ∈ requiredClaims,
    ∃ value, (Sample.deliveryClaims body).lookup name = some value ∧ value ≠ .null := by
  intro name hname
  simp only [requiredClaims, List.mem_cons, List.not_mem_nil, or_false] at hname
  rcases hname with rfl | rfl | rfl | rfl | rfl
  · exact ⟨_, rfl, Json.noConfusion⟩
  · exact ⟨_, rfl, Json.noConfusion⟩
  · exact ⟨_, rfl, Json.noConfusion⟩
  · exact ⟨_, rfl, Json.noConfusion⟩
  · exact ⟨_, rfl, Json.noConfusion⟩

lemma Sample.decodes_delivery {decode : JwtDecode} (h : Sample.qstashPy.jwt = some decode) :
    DecodesHS256 decode Sample.signsDelivery fun _ => True := by
  obtain rfl := Option.some.inj h
  intro signature key claims
  constructor
  · intro hclaims
    dsimp only at hclaims
    split at hclaims
    · next hfirst =>
      rw [← Except.ok.inj hclaims]
      exact ⟨⟨hfirst.1, Or.inl ⟨hfirst.2, rfl⟩⟩, Sample.required_delivery _, trivial⟩
    · split at hclaims
      · next hsecond =>
        rw [← Except.ok.inj hclaims]
        exact ⟨⟨hsecond.1, Or.inr ⟨hsecond.2, rfl⟩⟩, Sample.required_delivery _, trivial⟩
      · cases hclaims
  · rintro ⟨⟨rfl, ⟨rfl, rfl⟩ | ⟨rfl, rfl⟩⟩, -, -⟩
    · exact if_pos ⟨rfl, rfl⟩
    · have hne : Sample.markedToken ≠ Sample.deliveryToken := by decide +kernel
      dsimp only
      rw [if_neg fun h => hne h.2, if_pos ⟨rfl, rfl⟩]

lemma Sample.digest_length (body : List UInt8) :
    (Sample.qstashPy.digest body).length = digestSize := by
  rw [Sample.qstashPy]
  dsimp only
  split <;> rfl

/-- A delivery with one of the two tokens is genuine if its claim is read as the digest. -/
lemma Sample.genuine_delivery {token body : String} (htoken : token ≠ "")
    (hsigned : Sample.signsDelivery token Sample.deliveryKey (Sample.deliveryClaims body))
    (hbody : ReadsAs body (Sample.qstashPy.digest Sample.deliveredBody)) :
    GenuineDelivery Sample.qstashPy Sample.signsDelivery (fun _ => True) Sample.qstashConfig
      Sample.deliveredBody (some token) where
  keys := by
    refine ⟨_, _, token, rfl, by decide, rfl, by decide, rfl, htoken, Or.inr ?_⟩
    exact ⟨_, ⟨hsigned, Sample.required_delivery body, trivial⟩, rfl, rfl, _, rfl, hbody⟩
  destination := by decide
  body := by decide

/-- A delivery that is signed with the next key is verified. -/
theorem delivery_verified : ∃ result, verify Sample.qstashPy Sample.qstashConfig
    Sample.deliveredBody (some Sample.deliveryToken) = .ok result ∧ result.ok = true := by
  obtain ⟨⟨result, hresult, hok⟩, -, -⟩ := verify_iff rfl (Sample.decodes_delivery rfl)
    Sample.digest_length Sample.qstashConfig Sample.deliveredBody (some Sample.deliveryToken)
  refine ⟨result, hresult, hok.mpr (Sample.genuine_delivery (by decide +kernel)
    ⟨rfl, Or.inl ⟨rfl, rfl⟩⟩ ?_)⟩
  exact ⟨by decide +kernel, by decide +kernel⟩

/-- A claim with an exclamation mark is no base64 text, and the delivery is verified. -/
theorem marked_delivery_verified : (∃ result, verify Sample.qstashPy Sample.qstashConfig
      Sample.deliveredBody (some Sample.markedToken) = .ok result ∧ result.ok = true) ∧
    ∀ key claims, Accepted Sample.signsDelivery (fun _ => True) Sample.markedToken key claims →
      ∀ text, claims.lookup "body" = some (.str text) →
        ¬ Base64.IsText text.toList (Sample.qstashPy.digest Sample.deliveredBody) := by
  constructor
  · obtain ⟨result, hresult, hok⟩ := verify_ok rfl (Sample.decodes_delivery rfl)
      (Sample.digest_length Sample.deliveredBody) Sample.qstashConfig (some Sample.markedToken)
    refine ⟨result, hresult, hok.mpr (Sample.genuine_delivery (by decide +kernel)
      ⟨rfl, Or.inr ⟨rfl, rfl⟩⟩ ?_)⟩
    exact ⟨by decide +kernel, by decide +kernel⟩
  · rintro key claims ⟨⟨-, hclaims⟩, -, -⟩ text htext hread
    have hne : Sample.markedToken ≠ Sample.deliveryToken := by decide +kernel
    rcases hclaims with ⟨htoken, -⟩ | ⟨-, rfl⟩
    · exact hne htoken
    · obtain rfl := Json.str.inj (Option.some.inj htext)
      have hmark : '!' ∈ ("!" ++ Sample.sentDigest).toList := by decide
      exact absurd (hread.mem hmark) (by decide +kernel)

end ScholarshipFinder
