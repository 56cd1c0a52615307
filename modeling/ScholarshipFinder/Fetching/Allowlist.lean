import ScholarshipFinder.Fetching.CanonicalUrl
import ScholarshipFinder.Infra.SourceFetch

/-!
# The fetcher stays on its allowlist

A request goes to a URL that was written again after it was read, and the host that is checked is
the one read from what was written.  For every URL, every list of domains and every answer of the
server, each request names a host under one of the domains, and that host has public addresses
only.
-/

namespace ScholarshipFinder

open Lib UrlSplit Urlencoded SourceFetch

/-- The runtime with `urllib.parse` and a name service. -/
def webFetchPy (py : Py) (ipv6 : List Char → Bool)
    (getaddrinfo : String → Except PyErr (Option (List IPAddress))) : FetchPy where
  toPy := py.withUrllib ipv6
  getaddrinfo := getaddrinfo

/-- `urlsplit(url).hostname or ""` -/
def requestHost (py : Py) (request : String) : String :=
  match py.urlsplit request with
  | .ok parts => parts.hostname.getD ""
  | .error _ => ""

/-- The text of the request names the host: it stands between the scheme of a web address and the
port, the path or the query, free of the characters that would end it. -/
def Names (request host : String) : Prop :=
  ∃ scheme port path query, scheme ∈ webSchemes ∧
    request.toList = written scheme (host.toList ++ port) path query ∧
    (∀ c ∈ host.toList, isDelimiter c = false ∧ c ∉ ['@', ':', '[', ']']) ∧
    (port = [] ∨ port.head? = some ':') ∧ (∀ c ∈ port, isDelimiter c = false ∧ c ≠ '@') ∧
    IsRooted path

/-- A globally routable unicast address outside the shared address space. -/
def IsPublic (ip : IPAddress) : Prop :=
  ip.isGlobal = true ∧ ip.isMulticast = false ∧
    ∀ n, ip.ipv4 = some n → IPv4.sharedNetwork.has n = false

/-- A request that may be sent. -/
structure Permitted (py : FetchPy) (approvedDomains : List String) (request : String) : Prop where
  names : Names request (requestHost py.toPy request)
  approved : ∃ domain ∈ approvedDomains,
    underDomain (requestHost py.toPy request) (allowedDomain py domain) = true
  resolved : ∃ addresses, py.getaddrinfo (requestHost py.toPy request) = .ok (some addresses) ∧
    addresses ≠ [] ∧ ∀ ip ∈ addresses, IsPublic ip

/-- No URL that is written for this one may be requested. -/
def Refused (py : FetchPy) (approvedDomains : List String) (url : String) : Prop :=
  ∀ request, canonicalizeUrl py.toPy url = .ok request → ¬ Permitted py approvedDomains request

lemma isPublic_of_isPublicAddress {ip : IPAddress} (h : isPublicAddress ip = true) :
    IsPublic ip := by
  have hglobal : ip.isGlobal = true ∧ ip.isMulticast = false := by
    cases ip with
    | v4 n =>
      rw [isPublicAddress] at h
      split at h
      · cases h
      · split at h
        · cases h
        · next hmulticast =>
          rw [Bool.or_eq_true, not_or] at hmulticast
          exact ⟨h, by simpa using hmulticast.1⟩
    | v6 n =>
      rw [isPublicAddress] at h
      split at h
      · cases h
      · next hmulticast =>
        rw [Bool.or_eq_true, not_or] at hmulticast
        exact ⟨h, by simpa using hmulticast.1⟩
  exact ⟨hglobal.1, hglobal.2, fun n hn => IPAddress.not_shared_of_isGlobal hglobal.1 hn⟩

lemma isPublicHost_ok {py : FetchPy} {hostname : String}
    (h : isPublicHost py hostname = .ok true) :
    ∃ addresses, py.getaddrinfo hostname = .ok (some addresses) ∧ addresses ≠ [] ∧
      ∀ ip ∈ addresses, IsPublic ip := by
  rw [isPublicHost] at h
  obtain ⟨answer, hanswer, h⟩ := exceptBind_ok h
  cases answer with
  | none => cases h
  | some addresses =>
    have hall : (!addresses.isEmpty && addresses.all isPublicAddress) = true := Except.ok.inj h
    rw [Bool.and_eq_true, Bool.not_eq_true', List.isEmpty_eq_false_iff] at hall
    refine ⟨addresses, hanswer, hall.1, fun ip hip => ?_⟩
    exact isPublic_of_isPublicAddress (List.all_eq_true.mp hall.2 ip hip)

section

variable {py : Py} {ipv6 : List Char → Bool} {url request : String}

/-- What `canonicalize_url` writes names the host that `urlsplit` reads in it. -/
lemma names_of_canonicalizeUrl (laws : py.LowerLaws)
    (h : canonicalizeUrl (py.withUrllib ipv6) url = .ok request) {parts : SplitResult}
    (hsplit : (py.withUrllib ipv6).urlsplit request = .ok parts) :
    requestHost (py.withUrllib ipv6) request = parts.hostname.getD "" ∧
      Names request (parts.hostname.getD "") := by
  obtain ⟨read, port, haddress, htext⟩ := (canonicalizeUrl_ok_iff laws).mp h
  have hsound := sound_of_split haddress.split
  obtain ⟨hscheme, -, hIsScheme⟩ := webScheme_spec read.scheme haddress.scheme
  refine ⟨by rw [requestHost, hsplit], ?_⟩
  obtain ⟨netloc, hnetloc⟩ : ∃ netloc, netloc =
    netlocOf read.scheme (hostOf py read.netloc) port := ⟨_, rfl⟩
  have hplain : IsHostPort py netloc := hnetloc ▸ isHostPort_netlocOf laws hsound read.scheme
  have hrooted := isRooted_pathOf (hsound.rooted haddress.netloc)
  rw [canonicalText, ← hnetloc] at htext
  -- what is written is read as it was written
  have hread : split ipv6 request.toList = (checkNetloc ipv6 netloc).map fun _ =>
      ⟨read.scheme, netloc, pathOf read.path, urlencode (fieldsOf py read.query), []⟩ := by
    rw [htext]
    refine split_written hIsScheme (fun c hc => ?_) hrooted (fun c hc => ?_) fun c hc =>
      (mem_query hc).2
    · exact ⟨(hplain.safe c hc).1, (hplain.safe c hc).2.1⟩
    · rcases mem_pathOf hc with rfl | hmem
      · decide
      · exact hsound.path c hmem
  have hurlsplit : (py.withUrllib ipv6).urlsplit request =
      ((split ipv6 request.toList).map (splitResult py)).mapError urlError := rfl
  rw [hurlsplit, hread] at hsplit
  cases hcheck : checkNetloc ipv6 netloc with
  | error e =>
    rw [hcheck] at hsplit
    cases hsplit
  | ok _ =>
    rw [hcheck] at hsplit
    obtain rfl := Except.ok.inj hsplit
    have hiff := (checkNetloc_ok hcheck).1
    have hopen : '[' ∉ netloc := hplain.brackets.elim id fun hclose => hiff.not.mpr hclose
    have hclose : ']' ∉ netloc := hiff.not.mp hopen
    have hname : ((splitResult py ⟨read.scheme, netloc, pathOf read.path,
        urlencode (fieldsOf py read.query), []⟩).hostname.getD "").toList = before ':' netloc := by
      change (((hostname py.lowerChars netloc).map String.ofList).getD "").toList = _
      rw [hostname_eq laws hplain hopen]
      split
      · next hnil =>
        rw [hnil]
        rfl
      · rw [Option.map_some, Option.getD_some, String.toList_ofList]
    have hwhole : before ':' netloc ++ netloc.dropWhile (· ≠ ':') = netloc :=
      List.takeWhile_append_dropWhile
    have hport : ∀ c ∈ netloc.dropWhile (· ≠ ':'), c ∈ netloc := fun c hc =>
      (List.dropWhile_suffix _).subset hc
    unfold Names
    rw [hname]
    refine ⟨read.scheme, netloc.dropWhile (· ≠ ':'), pathOf read.path,
      urlencode (fieldsOf py read.query), haddress.scheme, ?_, fun c hc => ?_, ?_,
      fun c hc => ?_, hrooted⟩
    · rw [hwhole, htext]
    · have hsafe := hplain.safe c (mem_of_mem_before hc)
      refine ⟨hsafe.1, fun hmem => ?_⟩
      simp only [List.mem_cons, List.not_mem_nil, or_false] at hmem
      rcases hmem with rfl | rfl | rfl | rfl
      · exact hsafe.2.2.2 rfl
      · exact notMem_before _ _ hc
      · exact hopen (mem_of_mem_before hc)
      · exact hclose (mem_of_mem_before hc)
    · cases htail : netloc.dropWhile (· ≠ ':') with
      | nil => exact Or.inl rfl
      | cons c tail =>
        have hhead := List.head?_dropWhile_not (· ≠ ':') netloc
        rw [htail] at hhead
        exact Or.inr (by simpa using hhead)
    · exact ⟨(hplain.safe c (hport c hc)).1, (hplain.safe c (hport c hc)).2.2.2⟩

end

section

variable {py : Py} {ipv6 : List Char → Bool}
variable {getaddrinfo : String → Except PyErr (Option (List IPAddress))}
variable {approvedDomains : List String}

/-- A URL that passes is permitted as it was written. -/
lemma validateSourceUrl_ok (laws : py.LowerLaws) {url request : String}
    (h : SourceFetch.validateSourceUrl (webFetchPy py ipv6 getaddrinfo) url approvedDomains = .ok request) :
    canonicalizeUrl (py.withUrllib ipv6) url = .ok request ∧
      Permitted (webFetchPy py ipv6 getaddrinfo) approvedDomains request := by
  rw [SourceFetch.validateSourceUrl] at h
  obtain ⟨normalized, hcanonical, h⟩ := exceptBind_ok h
  obtain ⟨parts, hsplit, h⟩ := exceptBind_ok h
  dsimp only at h
  split at h
  · next happroved =>
    obtain ⟨isPublic, hpublic, h⟩ := exceptBind_ok h
    split at h
    · next htrue =>
      obtain rfl := Except.ok.inj h
      obtain rfl : isPublic = true := htrue
      obtain ⟨hhost, hnames⟩ := names_of_canonicalizeUrl laws hcanonical hsplit
      rw [List.any_eq_true] at happroved
      refine ⟨hcanonical, ?_, ?_, ?_⟩
      · exact hhost ▸ hnames
      · exact hhost ▸ happroved
      · exact hhost ▸ isPublicHost_ok hpublic
    · cases h
  · cases h

lemma validateSourceUrl_of_refused (laws : py.LowerLaws) {url : String}
    (h : Refused (webFetchPy py ipv6 getaddrinfo) approvedDomains url) :
    ∃ e, SourceFetch.validateSourceUrl (webFetchPy py ipv6 getaddrinfo) url approvedDomains = .error e := by
  cases hvalid : SourceFetch.validateSourceUrl (webFetchPy py ipv6 getaddrinfo) url approvedDomains with
  | error e => exact ⟨e, rfl⟩
  | ok request =>
    obtain ⟨hcanonical, hpermitted⟩ := validateSourceUrl_ok laws hvalid
    exact absurd hpermitted (h request hcanonical)

/-- Each request was checked as a whole before it was sent. -/
lemma mem_fetchSource {py : FetchPy} {get : ℕ → String → Except PyErr HttpReply}
    {url request : String} (h : request ∈ (fetchSource py get url approvedDomains).1) :
    ∃ given, SourceFetch.validateSourceUrl py given approvedDomains = .ok request := by
  unfold fetchSource at h
  cases hvalid : SourceFetch.validateSourceUrl py url approvedDomains with
  | error e =>
    rw [hvalid] at h
    cases h
  | ok normalized =>
    have hfirst : request ∈ [normalized] →
        ∃ given, SourceFetch.validateSourceUrl py given approvedDomains = .ok request := fun hmem =>
      ⟨url, List.mem_singleton.mp hmem ▸ hvalid⟩
    rw [hvalid] at h
    dsimp only at h
    cases hget : get 0 normalized with
    | error e =>
      rw [hget] at h
      exact hfirst h
    | ok reply =>
      rw [hget] at h
      dsimp only at h
      split at h
      · split at h
        · exact hfirst h
        · cases hnext : SourceFetch.validateSourceUrl py (reply.location.getD "")
              approvedDomains with
          | error e =>
            rw [hnext] at h
            exact hfirst h
          | ok redirected =>
            have hboth : request ∈ [normalized, redirected] := by
              rw [hnext] at h
              dsimp only at h
              cases hagain : get 1 redirected with
              | error e =>
                rw [hagain] at h
                exact h
              | ok reply =>
                rw [hagain] at h
                exact h
            rcases List.mem_cons.mp hboth with hmem | hmem
            · exact hfirst (hmem ▸ List.mem_singleton_self normalized)
            · exact ⟨_, List.mem_singleton.mp hmem ▸ hnext⟩
      · exact hfirst h

/-- The first request is for the URL itself. -/
lemma head?_fetchSource {py : FetchPy} {get : ℕ → String → Except PyErr HttpReply}
    {url normalized : String}
    (h : SourceFetch.validateSourceUrl py url approvedDomains = .ok normalized) :
    (fetchSource py get url approvedDomains).1.head? = some normalized := by
  unfold fetchSource
  rw [h]
  dsimp only
  cases get 0 normalized with
  | error e => rfl
  | ok reply =>
    dsimp only
    split
    · split
      · rfl
      · split
        · rfl
        · split <;> rfl
    · rfl

/-- **The fetcher stays on its allowlist**: whatever the URL, the domains and the answers, each
request that is sent is permitted; a URL, or the destination of a redirect, that is not permitted is
not requested, and the fetch raises. -/
theorem fetchSource_permitted (laws : py.LowerLaws)
    (get : ℕ → String → Except PyErr HttpReply) (url : String) :
    (∀ request ∈ (fetchSource (webFetchPy py ipv6 getaddrinfo) get url approvedDomains).1,
      Permitted (webFetchPy py ipv6 getaddrinfo) approvedDomains request) ∧
    (Refused (webFetchPy py ipv6 getaddrinfo) approvedDomains url →
      ∃ e, fetchSource (webFetchPy py ipv6 getaddrinfo) get url approvedDomains =
        ([], .error e)) ∧
    ∀ request reply, (fetchSource (webFetchPy py ipv6 getaddrinfo) get url
        approvedDomains).1.head? = some request → get 0 request = .ok reply →
      isRedirect reply.statusCode = true →
      Refused (webFetchPy py ipv6 getaddrinfo) approvedDomains (reply.location.getD "") →
      ∃ e, fetchSource (webFetchPy py ipv6 getaddrinfo) get url approvedDomains =
        ([request], .error e) := by
  refine ⟨?_, ?_, ?_⟩
  · intro request hrequest
    obtain ⟨given, hvalid⟩ := mem_fetchSource hrequest
    exact (validateSourceUrl_ok laws hvalid).2
  · intro hrefused
    obtain ⟨e, he⟩ := validateSourceUrl_of_refused laws hrefused
    exact ⟨e, by rw [fetchSource, he]⟩
  · intro request reply hhead hget hredirect hrefused
    obtain ⟨e, he⟩ := validateSourceUrl_of_refused laws hrefused
    cases hvalid : SourceFetch.validateSourceUrl (webFetchPy py ipv6 getaddrinfo) url
        approvedDomains with
    | error e' =>
      rw [fetchSource, hvalid] at hhead
      cases hhead
    | ok normalized =>
      rw [head?_fetchSource hvalid, Option.some.injEq] at hhead
      subst hhead
      unfold fetchSource
      rw [hvalid]
      dsimp only
      rw [hget]
      dsimp only
      rw [if_pos hredirect, he]
      split
      · exact ⟨_, rfl⟩
      · exact ⟨e, rfl⟩

end

/-- The sample runtime, where every host has one public address. -/
def allowlistPy : FetchPy :=
  webFetchPy Sample.asciiPy (fun _ => false) fun _ => .ok (some [.v4 0x08080808])

/-- A page on the domain itself. -/
def samplePage : ℕ → String → Except PyErr HttpReply :=
  fun _ _ => .ok ⟨200, none, [49], "text/html"⟩

/-- A leading dot of an approved domain is not part of it: the host of the domain itself is
requested. -/
theorem leading_dot_is_dropped :
    (fetchSource allowlistPy samplePage "https://example.org/" [".example.org"]).1 =
        ["https://example.org/"] ∧
      ¬ ∀ request ∈ (fetchSource allowlistPy samplePage "https://example.org/"
          [".example.org"]).1,
        ∃ domain ∈ [".example.org"], underDomain (requestHost allowlistPy.toPy request)
          (allowlistPy.lower domain).toList = true := by
  have hsent : (fetchSource allowlistPy samplePage "https://example.org/" [".example.org"]).1 =
      ["https://example.org/"] := by
    decide +kernel
  refine ⟨hsent, fun h => ?_⟩
  rw [hsent] at h
  obtain ⟨domain, hdomain, hunder⟩ := h _ (List.mem_singleton_self _)
  obtain rfl := List.mem_singleton.mp hdomain
  revert hunder
  decide +kernel

/-- The one request of a fetch from a subdomain. -/
theorem subdomain_permitted :
    Permitted allowlistPy ["example.org"] "https://awards.example.org/call" := by
  refine (fetchSource_permitted Sample.asciiPy_lowerLaws samplePage
    "https://awards.Example.ORG/call").1 _ ?_
  have hsent : (fetchSource allowlistPy samplePage "https://awards.Example.ORG/call"
      ["example.org"]).1 = ["https://awards.example.org/call"] := by
    decide +kernel
  change "https://awards.example.org/call" ∈ (fetchSource allowlistPy samplePage
    "https://awards.Example.ORG/call" ["example.org"]).1
  rw [hsent]
  exact List.mem_singleton_self _

end ScholarshipFinder
