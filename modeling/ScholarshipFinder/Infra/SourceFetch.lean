import ScholarshipFinder.Domain.Urls
import ScholarshipFinder.Infra.AutoApproval
import ScholarshipFinder.Infra.SourcePersistence
import ScholarshipFinder.Lib.Ip

/-!
# Fetching a page (`infra/source_fetch.py`)

A page is requested at its canonical URL, after the host was checked against the approved domains
and against its addresses; one redirect is followed, to a URL that is checked in the same way.
`fetchSource` lists the requests beside the result, in the order in which they are sent.
-/

namespace ScholarshipFinder

open Lib

/-- Python, with the name service. -/
structure FetchPy extends Py where
  /-- The addresses of `socket.getaddrinfo(hostname, None)`; `none` stands for a `gaierror`. -/
  getaddrinfo : String → Except PyErr (Option (List IPAddress))

/-- A response to one request. -/
structure HttpReply where
  statusCode : ℕ
  location : Option String
  content : List UInt8
  contentType : String
deriving DecidableEq, Repr

/-- `300 <= response.status_code < 400` -/
def isRedirect (statusCode : ℕ) : Bool := 300 ≤ statusCode ∧ statusCode < 400

namespace SourceFetch

/-- `_is_public_address` -/
def isPublicAddress (ip : IPAddress) : Bool :=
  match ip with
  | .v4 n =>
    if IPv4.sharedNetwork.has n then false
    else if ip.isMulticast || ip.isUnspecified then false
    else ip.isGlobal
  | .v6 _ => if ip.isMulticast || ip.isUnspecified then false else ip.isGlobal

variable (py : FetchPy)

/-- `_is_public_host` -/
def isPublicHost (hostname : String) : Except PyErr Bool := do
  match ← py.getaddrinfo hostname with
  | none => valueError "Source hostname could not be resolved"
  | some addresses => return !addresses.isEmpty && addresses.all isPublicAddress

/-- `domain.lower().lstrip(".")` -/
def allowedDomain (domain : String) : List Char := (py.lower domain).toList.dropWhile (· = '.')

/-- `hostname == domain or hostname.endswith(f".{domain}")` -/
def underDomain (hostname : String) (allowed : List Char) : Bool :=
  hostname.toList = allowed || ('.' :: allowed).isSuffixOf hostname.toList

/-- `validate_source_url` -/
def validateSourceUrl (url : String) (approvedDomains : List String) : Except PyErr String := do
  let normalized ← canonicalizeUrl py.toPy url
  let parts ← py.urlsplit normalized
  let hostname := parts.hostname.getD ""
  if approvedDomains.any fun domain => underDomain hostname (allowedDomain py domain) then
    let isPublic ← isPublicHost py hostname
    if isPublic then return normalized
    else valueError "Private or reserved source host is not allowed"
  else valueError "Source URL domain is not approved"

/-- The end of `fetch_source`, on the response that counts. -/
def readReply (maxBytes : ℕ) (url : String) (reply : HttpReply) : Except PyErr FetchedSource :=
  if maxBytes < reply.content.length then valueError "Source response exceeds maximum size"
  else .ok ⟨url, reply.statusCode, reply.content, reply.contentType⟩

/-- `max_bytes` -/
def maxBytes : ℕ := 2000000

/-- `fetch_source`; `get` answers the `n`-th request. -/
def fetchSource (get : ℕ → String → Except PyErr HttpReply) (url : String)
    (approvedDomains : List String) : List String × Except PyErr FetchedSource :=
  match validateSourceUrl py url approvedDomains with
  | .error e => ([], .error e)
  | .ok normalized =>
    match get 0 normalized with
    | .error e => ([normalized], .error e)
    | .ok reply =>
      if isRedirect reply.statusCode then
        let location := reply.location.getD ""
        if location = "" then ([normalized], valueError "Redirect has no destination")
        else
          match validateSourceUrl py location approvedDomains with
          | .error e => ([normalized], .error e)
          | .ok redirected =>
            match get 1 redirected with
            | .error e => ([normalized, redirected], .error e)
            | .ok reply => ([normalized, redirected], readReply maxBytes redirected reply)
      else ([normalized], readReply maxBytes normalized reply)

/-- The check of `validate_source_url` alone, as the approval of a discovery makes it. -/
lemma validateSourceUrl_eq (approval : ApprovalPy) (url : String) (approvedDomains : List String)
    (hpy : approval.toPy = py.toPy) (hhost : approval.isPublicHost = isPublicHost py) :
    ScholarshipFinder.validateSourceUrl approval url approvedDomains =
      (validateSourceUrl py url approvedDomains).map fun _ => () := by
  have hmatch : ∀ hostname, matchesDomain approval hostname approvedDomains =
      approvedDomains.any fun domain => underDomain hostname (allowedDomain py domain) := by
    intro hostname
    unfold matchesDomain underDomain allowedDomain
    rw [hpy]
  unfold ScholarshipFinder.validateSourceUrl validateSourceUrl
  rw [hpy, hhost]
  cases canonicalizeUrl py.toPy url with
  | error e => rfl
  | ok normalized =>
    simp only [bind, Except.bind]
    cases py.urlsplit normalized with
    | error e => rfl
    | ok parts =>
      dsimp only
      rw [hmatch]
      by_cases hdomain : (approvedDomains.any fun domain =>
          underDomain (parts.hostname.getD "") (allowedDomain py domain)) = true
      · rw [hdomain]
        simp only [Bool.not_true, Bool.false_eq_true, if_false, if_true]
        cases isPublicHost py (parts.hostname.getD "") with
        | error e => rfl
        | ok isPublic => cases isPublic <;> rfl
      · rw [Bool.not_eq_true] at hdomain
        rw [hdomain]
        rfl

end SourceFetch

end ScholarshipFinder
