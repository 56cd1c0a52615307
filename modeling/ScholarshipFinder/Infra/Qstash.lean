import ScholarshipFinder.Core.CursorText

/-!
# Deliveries of QStash (`infra/qstash.py`)

A delivery is signed with one of two keys, so that the keys can be changed one after the other.  It
is verified against the keys in turn.
-/

namespace ScholarshipFinder

open Lib

/-- The payload of a token. -/
abbrev Claims := List (String × Json)

/-- Why `jwt.decode` refuses a token. -/
inductive JwtError
  | expiredSignature
  | immatureSignature
  | missingRequiredClaim
  /-- any other `jwt.PyJWTError` -/
  | other

/-- `jwt.decode`, of a token and a key, with the algorithms and the required claims. -/
abbrev JwtDecode := String → String → List String → List String → Except JwtError Claims

/-- The runtime with what deliveries need of it. -/
structure QStashPy extends Py where
  /-- `hashlib.sha256(content).digest()` -/
  digest : List UInt8 → List ℕ
  /-- the package `jwt`, if it could be imported -/
  jwt : Option JwtDecode

structure QStashVerificationConfig where
  currentSigningKey : Option String
  nextSigningKey : Option String
  expectedDestination : String

structure QStashVerificationResult where
  ok : Bool
  reason : String
  signedDestination : Option String

/-- `base64.urlsafe_b64decode`, of a string. -/
def urlsafeB64decodeText (text : String) : Except PyErr (List ℕ) :=
  if text.toList.all Urlencoded.isAscii then urlsafeB64decode (Base64.ascii text.toList)
  else valueError "string argument should contain only ASCII characters"

/-- `hashlib.sha256().digest_size` -/
def digestSize : ℕ := 32

/-- `decode_body_claim` -/
def decodeBodyClaim (value : String) : Except PyErr (Option (List ℕ)) :=
  match urlsafeB64decodeText (value ++ String.ofList (Base64.padding value.toList.length)) with
  | .error e => if e.cls = .valueError then .ok none else .error e
  | .ok digest => .ok (if digest.length = digestSize then some digest else none)

/-- The claims that a token is required to have. -/
def requiredClaims : List String := ["iss", "sub", "exp", "nbf", "body"]

/-- A value that is not empty. -/
def given (value : Option String) : Option String := value.filter (· ≠ "")

/-- A result without a destination that was signed. -/
def rejected (reason : String) : QStashVerificationResult := ⟨false, reason, none⟩

variable (qp : QStashPy)

/-- The loop of `QStashVerifier.verify` over the keys. -/
def verifyKeys (decode : JwtDecode) (destination signature : String) (expectedDigest : List ℕ) :
    List String → String → Option String → Except PyErr QStashVerificationResult
  | [], reason, signedDestination => .ok ⟨false, reason, signedDestination⟩
  | key :: keys, reason, signedDestination =>
    let next := verifyKeys decode destination signature expectedDigest keys
    match decode signature key ["HS256"] requiredClaims with
    | .error .expiredSignature => next "signature_expired" signedDestination
    | .error .immatureSignature => next "signature_not_yet_valid" signedDestination
    | .error .missingRequiredClaim => next "signature_missing_required_claim" signedDestination
    | .error .other => next reason signedDestination
    | .ok claims =>
      if ¬ (claims.lookup "iss").any (Json.eqStr "Upstash") then
        next "unexpected_issuer" signedDestination
      else if ¬ (claims.lookup "sub").any (Json.eqStr destination) then
        next "destination_mismatch" (some (qp.strOf ((claims.lookup "sub").getD .null)))
      else do
        let digest ← decodeBodyClaim (qp.strOf ((claims.lookup "body").getD (.str "")))
        if digest ≠ some expectedDigest then next "body_hash_mismatch" signedDestination
        else return ⟨true, "verified", none⟩

/-- `QStashVerifier.verify` -/
def verify (config : QStashVerificationConfig) (rawBody : List UInt8) (signature : Option String) :
    Except PyErr QStashVerificationResult :=
  match qp.jwt, given config.currentSigningKey, given config.nextSigningKey with
  | some decode, some current, some next =>
    if config.expectedDestination = "" then .ok (rejected "expected_destination_not_configured")
    else
      match given signature with
      | none => .ok (rejected "missing_upstash_signature_header")
      | some signature =>
        if rawBody = [] then .ok (rejected "empty_request_body")
        else
          -- The exact raw body is hashed.
          verifyKeys qp decode config.expectedDestination signature (qp.digest rawBody)
            [current, next] "signature_not_issued_by_a_configured_signing_key" none
  | _, _, _ => .ok (rejected "signing_keys_not_configured")

end ScholarshipFinder
