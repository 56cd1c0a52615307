import ScholarshipFinder.Domain.ReturnUrls
import ScholarshipFinder.Sample.Web

/-!
# Where a visitor is handed over to

A return URL is allowed exactly if it has the origin of the allowed prefix, asks as nobody, and its
path goes on from that of the prefix, segment by segment.
-/

namespace ScholarshipFinder

open Lib UrlSplit UrlText

/-- A URL of the web. -/
structure HttpUrl (ipv6 : List Char → Bool) extends UrlText where
  valid : toUrlText.Valid ipv6
  http : scheme.map Char.toLower = "http".toList ∨ scheme.map Char.toLower = "https".toList

variable {ipv6 : List Char → Bool} {py : Py}

namespace HttpUrl

variable (url : HttpUrl ipv6)

/-- The URL as a string. -/
def string : String := String.ofList url.text

/-- The port, if one is written, is one that there is, in no more digits than Python reads. -/
def ReadablePort : Prop := ∀ digits ∈ url.port,
  digits.length ≤ maxDigits ∧ Nat.ofDigitChars 10 digits 0 ≤ 65535

/-- The port that is meant. -/
def effectivePort : ℕ :=
  if url.port.getD [] ≠ [] then Nat.ofDigitChars 10 (url.port.getD []) 0
  else if url.scheme.map Char.toLower = "http".toList then 80 else 443

/-- Neither a user nor a password is given. -/
def NoCredentials : Prop := ∀ info ∈ url.user, info.1 = [] ∧ info.2.getD [] = []

end HttpUrl

/-- The host with its text in lower case. -/
def lowered (py : Py) : UrlHost → UrlHost
  | .name text => .name (py.lowerChars text)
  | .address text => .address (py.lowerChars text)

/-- The URL has the origin of the prefix, no credentials, and a path that begins with the path of
the prefix. -/
structure AllowedBy (py : Py) (url allowed : HttpUrl ipv6) : Prop where
  scheme : url.scheme.map Char.toLower = allowed.scheme.map Char.toLower
  host : lowered py url.host = lowered py allowed.host
  port : url.effectivePort = allowed.effectivePort
  credentials : url.NoCredentials
  path : whole allowed.segments <+: whole url.segments

/-! ## What is read of a URL -/

namespace HttpUrl

variable {url : HttpUrl ipv6}

lemma string_ne_empty : url.string ≠ "" := by
  rw [string, UrlText.text]
  simp

/-- The scheme, as it is read. -/
def schemeString (url : HttpUrl ipv6) : String := String.ofList (url.scheme.map Char.toLower)

/-- `urlsplit` reads the parts. -/
lemma urlsplit_string : ∃ query fragment, (py.withUrllib ipv6).urlsplit url.string =
    .ok (splitResult py ⟨url.scheme.map Char.toLower, url.netloc, pathText url.segments, query,
      fragment⟩) := by
  obtain ⟨query, fragment, hsplit⟩ := split_text url.valid
  refine ⟨query, fragment, ?_⟩
  rw [Py.withUrllib, string]
  dsimp only
  rw [String.toList_ofList, hsplit]
  rfl

lemma schemeString_cases : url.schemeString = "http" ∨ url.schemeString = "https" := by
  rcases url.http with h | h
  · exact Or.inl (by rw [schemeString, h, String.ofList_toList])
  · exact Or.inr (by rw [schemeString, h, String.ofList_toList])

/-- Both schemes have a default port. -/
lemma known_scheme : returnPorts.lookup url.schemeString ≠ none := by
  rcases url.schemeString_cases with h | h
  · rw [h]
    decide
  · rw [h]
    decide

lemma lower_schemeString (laws : py.LowerLaws) : py.lower url.schemeString = url.schemeString := by
  have hlower : ∀ s : String, (s.toList.all fun c => Urlencoded.isAscii c && !c.isUpper) = true →
      py.lower s = s := by
    intro s hs
    have hchars : py.lowerChars s.toList = s.toList := by
      refine laws.lowerChars_ascii fun c hc => ?_
      simpa using List.all_eq_true.mp hs c hc
    rw [Py.lowerChars, String.ofList_toList] at hchars
    exact String.toList_inj.mp hchars
  rcases url.schemeString_cases with h | h
  · rw [h]
    exact hlower "http" (by decide)
  · rw [h]
    exact hlower "https" (by decide)

lemma bare_ne_nil : url.host.bare ≠ [] := by
  have hhost := url.valid.host
  cases hname : url.host with
  | name text =>
    rw [hname] at hhost
    exact hhost.1
  | address text =>
    rw [hname] at hhost
    exact List.ne_nil_of_mem hhost.2.1

/-- The host, as it is compared. -/
lemma lower_hostname (laws : py.CaseLaws) : ∃ host,
    hostname py.lowerChars url.netloc = some host ∧ host ≠ [] ∧
      py.lowerChars host = py.lowerChars url.host.bare := by
  have hne := url.bare_ne_nil
  have hhost : hostname py.lowerChars url.netloc = some (py.lowerChars (before '%' url.host.bare) ++
      url.host.bare.dropWhile (· ≠ '%')) := by
    rw [hostname, hostinfo_netloc url.valid]
    exact if_neg hne
  refine ⟨_, hhost, ?_⟩
  by_cases hzone : '%' ∈ url.host.bare
  · have hsplit := before_append_after hzone
    have hdrop : url.host.bare.dropWhile (· ≠ '%') = '%' :: after '%' url.host.bare := by
      have hparts := @List.takeWhile_append_dropWhile _ (· ≠ '%') url.host.bare
      exact List.append_cancel_left (hparts.trans hsplit.symm)
    rw [hdrop]
    refine ⟨by simp, ?_⟩
    rw [laws.lowerChars_percent, laws.lowerChars_lowerChars, ← laws.lowerChars_percent, hsplit]
  · have hdrop : url.host.bare.dropWhile (· ≠ '%') = [] := by
      have hparts := @List.takeWhile_append_dropWhile _ (· ≠ '%') url.host.bare
      rw [← before, before_eq_self hzone] at hparts
      exact List.append_right_eq_self.mp hparts
    rw [hdrop, List.append_nil, before_eq_self hzone]
    exact ⟨fun h => hne (laws.lowerChars_eq_nil h), laws.lowerChars_lowerChars _⟩

/-- The port, as it is read. -/
lemma port_netloc (h : url.ReadablePort) : port url.netloc = .ok
    (if url.port.getD [] = [] then none else some (Nat.ofDigitChars 10 (url.port.getD []) 0)) := by
  rw [UrlSplit.port, hostinfo_netloc url.valid]
  dsimp only
  split
  · rfl
  · next hne =>
    cases hdigits : url.port with
    | none =>
      rw [hdigits] at hne
      exact absurd rfl hne
    | some digits =>
      obtain ⟨hlength, hrange⟩ := h digits hdigits
      have hall : digits.all Char.isDigit = true :=
        List.all_eq_true.mpr (url.valid.port digits hdigits)
      rw [Option.getD_some, if_pos ⟨hall, hlength⟩, if_pos hrange]

/-- The port that is compared is the one that is meant. -/
lemma returnPort_eq : returnPort url.schemeString
    (if url.port.getD [] = [] then none else some (Nat.ofDigitChars 10 (url.port.getD []) 0)) =
      some url.effectivePort := by
  rw [effectivePort]
  by_cases hdigits : url.port.getD [] = []
  · rw [if_pos hdigits, if_neg (not_not_intro hdigits)]
    rcases url.http with h | h
    · rw [schemeString, h]
      rfl
    · rw [schemeString, h]
      rfl
  · rw [if_neg hdigits, if_pos hdigits]
    rfl

lemma slash_notMem {segment : List Char} (h : segment ∈ url.segments) : '/' ∉ segment := by
  intro hmem
  have hdelimiter := (url.valid.segments segment h _ hmem).1
  cases hdelimiter

/-- A path is compared with a slash at its end. -/
lemma withSlash_pathText : (withSlash (String.ofList (pathText url.segments))).toList =
    pathText (whole url.segments ++ [[]]) := by
  rw [pathText_whole fun segment h => url.slash_notMem h, withSlash]
  by_cases hempty : pathText url.segments = []
  · rw [hempty]
    rfl
  · have hne : String.ofList (pathText url.segments) ≠ "" := by
      rw [← String.toList_inj.ne, String.toList_ofList]
      exact hempty
    rw [if_neg hne, String.toList_ofList]
    split
    · rw [String.toList_ofList]
    · rw [String.toList_append, String.toList_ofList]
      rfl

/-- Who asks is read, and is nobody if neither is given. -/
lemma noCredentials_iff {parts : SplitResult} (h : parts.netloc = String.ofList url.netloc) :
    url.NoCredentials ↔ parts.username.getD "" = "" ∧ parts.password.getD "" = "" := by
  rw [NoCredentials, SplitResult.username, SplitResult.password, h, String.toList_ofList,
    userinfo_netloc url.valid]
  cases url.user with
  | none => simp
  | some info =>
    obtain ⟨user, password⟩ := info
    cases password with
    | none => simp
    | some password => simp

/-- The hosts are the same exactly if their texts are read alike. -/
lemma lowered_iff (laws : py.CaseLaws) {other : HttpUrl ipv6} :
    lowered py url.host = lowered py other.host ↔
      py.lowerChars url.host.bare = py.lowerChars other.host.bare := by
  -- A name has no colon and an address has one, in lower case too.
  have hmixed : ∀ name address : List Char, (∀ c ∈ name, isPlain c = true ∧ c ≠ ':') →
      ':' ∈ address → py.lowerChars name ≠ py.lowerChars address := by
    intro name address hname haddress heq
    have hcolon : ':' ∈ py.lowerChars address := (laws.mem_lowerChars (by decide)).mpr haddress
    rw [← heq, laws.mem_lowerChars (by decide)] at hcolon
    exact (hname _ hcolon).2 rfl
  have hfirst := url.valid.host
  have hsecond := other.valid.host
  cases hurl : url.host with
  | name text =>
    rw [hurl] at hfirst
    cases hother : other.host with
    | name text' => simp [lowered, UrlHost.bare]
    | address text' =>
      rw [hother] at hsecond
      simpa [lowered, UrlHost.bare] using hmixed text text' hfirst.2 hsecond.2.1
  | address text =>
    rw [hurl] at hfirst
    cases hother : other.host with
    | name text' =>
      rw [hother] at hsecond
      simpa [lowered, UrlHost.bare] using (hmixed text' text hsecond.2 hfirst.2.1).symm
    | address text' => simp [lowered, UrlHost.bare]

/-- What `urlsplit` says of a URL. -/
structure Read (py : Py) (url : HttpUrl ipv6) (parts : SplitResult) : Prop where
  scheme : py.lower parts.scheme = url.schemeString
  credentials : url.NoCredentials ↔
    parts.username.getD "" = "" ∧ parts.password.getD "" = ""
  hostname : parts.hostname.getD "" ≠ ""
  host : py.lower (parts.hostname.getD "") = String.ofList (py.lowerChars url.host.bare)
  port : parts.port = (UrlSplit.port url.netloc).mapError urlError
  path : (withSlash parts.path).toList = pathText (whole url.segments ++ [[]])

lemma read_string (laws : py.CaseLaws) :
    ∃ parts, (py.withUrllib ipv6).urlsplit url.string = .ok parts ∧ url.Read py parts := by
  obtain ⟨query, fragment, hsplit⟩ := @urlsplit_string ipv6 py url
  obtain ⟨host, hhost, hne, hlower⟩ := url.lower_hostname laws
  have hstring : (splitResult py ⟨url.scheme.map Char.toLower, url.netloc, pathText url.segments,
      query, fragment⟩).hostname = some (String.ofList host) := by
    rw [splitResult, hhost]
    rfl
  refine ⟨_, hsplit, ?_⟩
  constructor
  case scheme => exact url.lower_schemeString laws.toLowerLaws
  case credentials => exact url.noCredentials_iff rfl
  case hostname =>
    rw [hstring, Option.getD_some, ← String.toList_inj.ne, String.toList_ofList]
    exact hne
  case host =>
    rw [hstring, Option.getD_some, ← hlower, Py.lowerChars, String.ofList_toList]
  case port => rfl
  case path => exact url.withSlash_pathText

end HttpUrl

/-! ## What is allowed -/

/-- A URL is allowed exactly if it has the origin of the prefix, no credentials and a path that
goes on from that of the prefix, and nothing is raised. -/
theorem return_url_iff (laws : py.CaseLaws) (candidate allowed : HttpUrl ipv6)
    (hcandidate : candidate.ReadablePort) (hallowed : allowed.ReadablePort) :
    ∃ answer, isAllowedReturnUrl (py.withUrllib ipv6) candidate.string allowed.string =
      .ok answer ∧ (answer = true ↔ AllowedBy py candidate allowed) := by
  obtain ⟨target, htarget, htargetRead⟩ := candidate.read_string laws
  obtain ⟨prefixed, hprefixed, hprefixedRead⟩ := allowed.read_string laws
  have hport := htargetRead.port
  have hport' := hprefixedRead.port
  rw [candidate.port_netloc hcandidate] at hport
  rw [allowed.port_netloc hallowed] at hport'
  have hlower : (py.withUrllib ipv6).lower = py.lower := rfl
  have hknown := allowed.known_scheme
  have hrefused : ∀ h : ¬ AllowedBy py candidate allowed, ∃ answer,
      (Except.ok false : Except PyErr Bool) = .ok answer ∧
        (answer = true ↔ AllowedBy py candidate allowed) :=
    fun h => ⟨false, rfl, iff_of_false Bool.false_ne_true h⟩
  rw [isAllowedReturnUrl, if_neg HttpUrl.string_ne_empty, hprefixed, htarget]
  simp only [bind, Except.bind, pure, Except.pure, hlower, htargetRead.scheme, hprefixedRead.scheme,
    hknown, false_or, htargetRead.host, hprefixedRead.host, htargetRead.hostname, if_false, hport,
    hport', Except.mapError, allowed.returnPort_eq]
  split
  · next hscheme =>
    refine hrefused fun h => hscheme ?_
    rw [HttpUrl.schemeString, h.scheme, HttpUrl.schemeString]
  · next hscheme =>
    rw [not_not] at hscheme
    split
    · next hcredentials =>
      refine hrefused fun h => ?_
      obtain ⟨huser, hpassword⟩ := htargetRead.credentials.mp h.credentials
      exact hcredentials.elim (fun hne => hne huser) fun hne => hne hpassword
    · next hcredentials =>
      split
      · next hhost =>
        refine hrefused fun h => hhost ?_
        rw [(HttpUrl.lowered_iff laws).mp h.host]
      · next hhost =>
        rw [← hscheme, candidate.returnPort_eq]
        split
        · next hports =>
          exact hrefused fun h => hports (by rw [h.port])
        · next hports =>
          refine ⟨_, rfl, ?_⟩
          rw [List.isPrefixOf_iff_prefix, htargetRead.path, hprefixedRead.path, pathText_prefix
            (fun segment h => allowed.slash_notMem (mem_whole h))
            fun segment h => candidate.slash_notMem (mem_whole h)]
          refine ⟨fun hpath => ⟨?_, ?_, ?_, ?_, hpath⟩, AllowedBy.path⟩
          · exact String.ofList_injective hscheme
          · rw [HttpUrl.lowered_iff laws]
            exact String.ofList_injective (not_not.mp hhost)
          · exact Option.some.inj (not_not.mp hports)
          · rw [htargetRead.credentials]
            exact ⟨by_contra fun h => hcredentials (Or.inl h),
              by_contra fun h => hcredentials (Or.inr h)⟩

/-- A port of the prefix that is not read is met if everything before it agrees. -/
lemma raises_of_port (laws : py.CaseLaws) {candidate allowed : HttpUrl ipv6}
    (hscheme : candidate.schemeString = allowed.schemeString)
    (hhost : lowered py candidate.host = lowered py allowed.host)
    (hcredentials : candidate.NoCredentials) (hcandidate : candidate.ReadablePort)
    {e : UrlSplit.Error} (hport : port allowed.netloc = .error e) :
    isAllowedReturnUrl (py.withUrllib ipv6) candidate.string allowed.string =
      .error (urlError e) := by
  obtain ⟨target, htarget, htargetRead⟩ := candidate.read_string laws
  obtain ⟨prefixed, hprefixed, hprefixedRead⟩ := allowed.read_string laws
  have htargetPort := htargetRead.port
  have hprefixedPort := hprefixedRead.port
  rw [candidate.port_netloc hcandidate] at htargetPort
  rw [hport] at hprefixedPort
  obtain ⟨huser, hpassword⟩ := htargetRead.credentials.mp hcredentials
  have hlower : (py.withUrllib ipv6).lower = py.lower := rfl
  have hknown := allowed.known_scheme
  rw [isAllowedReturnUrl, if_neg HttpUrl.string_ne_empty, hprefixed, htarget]
  simp only [bind, Except.bind, hlower, htargetRead.scheme, hprefixedRead.scheme, hscheme, hknown,
    huser, hpassword, htargetRead.host, hprefixedRead.host, htargetRead.hostname, htargetPort,
    (HttpUrl.lowered_iff laws).mp hhost, hprefixedPort, ne_eq, not_true_eq_false, or_self,
    if_false, Except.mapError]

/-! ## Some URLs -/

namespace Sample

/-- A URL of the host `app.test`. -/
def appUrl (port : Option (List Char)) (segments : List (List Char))
    (hport : ∀ digits ∈ port, ∀ c ∈ digits, c.isDigit = true)
    (hsegments : ∀ segment ∈ segments, ∀ c ∈ segment,
      isDelimiter c = false ∧ isUnsafe c = false) : HttpUrl fun _ => false where
  scheme := "https".toList
  user := none
  host := .name "app.test".toList
  port := port
  segments := segments
  tail := []
  valid :=
    { schemeHead := rfl
      scheme := by
        have hall : "https".toList.all isSchemeChar = true := by decide
        exact List.all_eq_true.mp hall
      user := fun _ h => by cases h
      host := by
        refine ⟨by decide, fun c hc => ?_⟩
        have hall : ("app.test".toList.all fun c => isPlain c && c != ':') = true := by decide
        simpa using List.all_eq_true.mp hall c hc
      port := hport
      segments := hsegments
      tailHead := fun _ h => by cases h
      tail := fun _ h => by cases h }
  http := Or.inr (by decide)

lemma appUrl_origin {port : Option (List Char)} {segments : List (List Char)}
    {hport : ∀ digits ∈ port, ∀ c ∈ digits, c.isDigit = true}
    {hsegments : ∀ segment ∈ segments, ∀ c ∈ segment, isDelimiter c = false ∧ isUnsafe c = false} :
    (appUrl port segments hport hsegments).schemeString = "https" ∧
      (appUrl port segments hport hsegments).host = .name "app.test".toList :=
  ⟨rfl, rfl⟩

/-- A port that Python does not read: 443 after so many zeros. -/
def longPort : List Char := List.replicate 4298 '0' ++ "443".toList

lemma longPort_isDigit : ∀ digits ∈ some longPort, ∀ c ∈ digits, c.isDigit = true := by
  intro digits hdigits c hc
  obtain rfl := Option.some.inj hdigits
  rcases List.mem_append.mp hc with hc | hc
  · rw [List.eq_of_mem_replicate hc]
    decide
  · have hall : "443".toList.all Char.isDigit = true := by decide
    exact List.all_eq_true.mp hall c hc

lemma welcome_chars : ∀ segment ∈ ["welcome".toList], ∀ c ∈ segment,
    isDelimiter c = false ∧ isUnsafe c = false := by
  intro segment hsegment c hc
  obtain rfl := List.mem_singleton.mp hsegment
  have hall : ("welcome".toList.all fun c => !isDelimiter c && !isUnsafe c) = true := by decide
  simpa using List.all_eq_true.mp hall c hc

def welcomeUrl : HttpUrl fun _ => false :=
  appUrl none ["welcome".toList] (fun _ h => by cases h) welcome_chars

/-- The prefix with the default port written out. -/
def portUrl : HttpUrl fun _ => false :=
  appUrl (some "443".toList) [[]]
    (fun _ h => by
      obtain rfl := Option.some.inj h
      have hall : "443".toList.all Char.isDigit = true := by decide
      exact List.all_eq_true.mp hall)
    (fun _ h _ hc => by
      obtain rfl := List.mem_singleton.mp h
      cases hc)

def longPortUrl : HttpUrl fun _ => false :=
  appUrl (some longPort) [] longPort_isDigit fun _ h => by cases h

end Sample

/-- The page of the host is allowed under a prefix that writes the default port out. -/
theorem welcome_allowed : isAllowedReturnUrl Sample.webPy "https://app.test/welcome"
    "https://app.test:443/" = .ok true := by
  have hport : Sample.welcomeUrl.ReadablePort := fun _ h => by cases h
  have hport' : Sample.portUrl.ReadablePort := by
    intro digits h
    obtain rfl := Option.some.inj h
    decide
  obtain ⟨answer, hanswer, hiff⟩ := return_url_iff Sample.asciiPy_caseLaws Sample.welcomeUrl
    Sample.portUrl hport hport'
  have hallowed : AllowedBy Sample.asciiPy Sample.welcomeUrl Sample.portUrl :=
    ⟨rfl, rfl, by decide, fun _ h => (by cases h), List.nil_prefix⟩
  rw [hiff.mpr hallowed] at hanswer
  exact hanswer

/-- A prefix whose port is none that there is, or has too many digits, raises, and a host in
brackets is taken for a name. -/
theorem strange_prefixes :
    (isAllowedReturnUrl Sample.webPy "https://app.test/welcome"
      "https://app.test:70000/").toOption = none ∧
    (isAllowedReturnUrl Sample.webPy "https://app.test/welcome"
      ("https://app.test:" ++ String.ofList Sample.longPort)).toOption = none ∧
    (isAllowedReturnUrl Sample.webPy "https://v1.a/" "https://[v1.a]/").toOption = some true := by
  refine ⟨by decide +kernel, ?_, by decide +kernel⟩
  have hlength : Sample.longPort.length = 4301 := by
    rw [Sample.longPort, List.length_append, List.length_replicate]
    rfl
  have hlong : port Sample.longPortUrl.netloc = .error .invalidPort := by
    have hdigits : (hostinfo Sample.longPortUrl.netloc).2 = Sample.longPort := by
      rw [hostinfo_netloc Sample.longPortUrl.valid]
      rfl
    have hne : Sample.longPort ≠ [] := List.ne_nil_of_length_pos (by rw [hlength]; decide)
    rw [UrlSplit.port, hdigits]
    dsimp only
    rw [if_neg hne, if_neg]
    rintro ⟨-, hle⟩
    rw [hlength] at hle
    exact absurd hle (by decide)
  have hstring : Sample.longPortUrl.string =
      "https://app.test:" ++ String.ofList Sample.longPort := by
    rw [← String.toList_inj, HttpUrl.string, String.toList_ofList, String.toList_append,
      String.toList_ofList, UrlText.text, netloc]
    simp [Sample.longPortUrl, Sample.appUrl, userText, portText, pathText, UrlHost.text]
  have hwelcomeOrigin : Sample.welcomeUrl.schemeString = "https" ∧
      Sample.welcomeUrl.host = .name "app.test".toList := Sample.appUrl_origin
  have hlongOrigin : Sample.longPortUrl.schemeString = "https" ∧
      Sample.longPortUrl.host = .name "app.test".toList := Sample.appUrl_origin
  have hraises : isAllowedReturnUrl Sample.webPy Sample.welcomeUrl.string
      Sample.longPortUrl.string = _ :=
    raises_of_port Sample.asciiPy_caseLaws (hwelcomeOrigin.1.trans hlongOrigin.1.symm)
      (by rw [hwelcomeOrigin.2, hlongOrigin.2]) (fun _ h => by cases h) (fun _ h => by cases h)
      hlong
  rw [hstring] at hraises
  have hwelcome : Sample.welcomeUrl.string = "https://app.test/welcome" := by decide
  rw [← hwelcome, hraises]
  rfl

end ScholarshipFinder
