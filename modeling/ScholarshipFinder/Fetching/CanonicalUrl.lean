import ScholarshipFinder.Sample.Web

/-!
# Canonical URLs are canonical

Pages are identified by their canonical URLs, and stored URLs are canonicalised again before they
are fetched.  `canonicalizeUrl` takes a URL apart, rewrites its host, port, path and query, and
writes it again; the development says when what it writes is taken apart into the same parts.
-/

namespace ScholarshipFinder

open Lib UrlSplit Urlencoded

/-! ## What `canonicalize_url` writes -/

def webSchemes : List (List Char) := ["http".toList, "https".toList]

/-- The port is zero, or the one that the scheme stands for. -/
def dropsPort (scheme : List Char) (port : ℕ) : Prop :=
  port = 0 ∨ (scheme = "http".toList ∧ port = 80) ∨ (scheme = "https".toList ∧ port = 443)

instance (scheme : List Char) (port : ℕ) : Decidable (dropsPort scheme port) :=
  inferInstanceAs (Decidable (_ ∨ _))

/-- The host of a network location, as it is written again. -/
def hostOf (py : Py) (netloc : List Char) : List Char :=
  py.lowerChars ((hostname py.lowerChars netloc).getD [])

def netlocOf (scheme host : List Char) : Option ℕ → List Char
  | none => host
  | some port => if dropsPort scheme port then host else host ++ ':' :: Nat.toDigits 10 port

def pathOf (path : List Char) : List Char :=
  if path = [] ∨ path = ['/'] then ['/'] else path.rdropWhile (· = '/')

/-- The fields of a query that do not track where a visitor came from. -/
def fieldsOf (py : Py) (query : List Char) : List (List Char × List Char) :=
  (parseQsl query).filter fun pair => !isTracking py (String.ofList pair.1)

/-- The canonical URL of the parts of a URL with this port. -/
def canonicalText (py : Py) (parts : Parts) (port : Option ℕ) : List Char :=
  written parts.scheme (netlocOf parts.scheme (hostOf py parts.netloc) port) (pathOf parts.path)
    (urlencode (fieldsOf py parts.query))

/-- `parts` are those of a web address with this port. -/
structure IsAddress (ipv6 : List Char → Bool) (url : List Char) (parts : Parts)
    (port : Option ℕ) : Prop where
  split : split ipv6 (strip url) = .ok parts
  scheme : parts.scheme ∈ webSchemes
  netloc : parts.netloc ≠ []
  port : UrlSplit.port parts.netloc = .ok port

section

variable {py : Py} {ipv6 : List Char → Bool}

lemma lower_schemeChar : ∀ n < 128, isAscii (Char.ofNat n).toLower = true ∧
    (Char.ofNat n).toLower.isUpper = false := by
  decide

lemma isAscii_of_isSchemeChar {c : Char} (h : isSchemeChar c = true) : isAscii c = true := by
  rw [isSchemeChar, Bool.or_eq_true] at h
  rcases h with h | h
  · exact isAscii_of_alwaysSafe (by rw [alwaysSafe, h, Bool.true_or])
  · simp only [List.mem_cons, List.not_mem_nil, or_false, decide_eq_true_eq] at h
    rcases h with rfl | rfl | rfl <;> rfl

lemma lower_scheme (laws : py.LowerLaws) {parts : Parts} (h : Sound ipv6 parts) :
    py.lower (String.ofList parts.scheme) = String.ofList parts.scheme := by
  have hlower := laws.lowerChars_ascii (s := parts.scheme) fun c hc => by
    obtain ⟨d, hd, rfl⟩ := h.scheme c hc
    have hascii : d.toNat < 128 := of_decide_eq_true (isAscii_of_isSchemeChar hd)
    have hspec := lower_schemeChar d.toNat hascii
    rwa [Char.ofNat_toNat] at hspec
  rw [← String.toList_inj, String.toList_ofList]
  exact hlower

lemma toList_rstripSlashes (path : String) :
    (rstripSlashes path).toList = path.toList.rdropWhile (· = '/') := by
  rw [rstripSlashes, String.toList_ofList]
  rfl

lemma toList_eq {s : String} {t : List Char} : s.toList = t ↔ s = String.ofList t := by
  rw [← String.toList_inj, String.toList_ofList]

lemma ofList_mem_webSchemes {scheme : List Char} :
    String.ofList scheme ∈ ["http", "https"] ↔ scheme ∈ webSchemes := by
  simp only [webSchemes, List.mem_cons, List.not_mem_nil, or_false]
  rw [← String.toList_inj, ← String.toList_inj, String.toList_ofList]

/-- The scheme is one that `urlunsplit` writes with a network location. -/
lemma webScheme_spec : ∀ scheme ∈ webSchemes, scheme ≠ [] ∧ scheme ∈ usesNetloc ∧
    IsScheme scheme := by
  intro scheme h
  rw [webSchemes, List.mem_cons, List.mem_singleton] at h
  rcases h with rfl | rfl
  · exact ⟨by simp, by simp [usesNetloc], by simp [IsScheme]; decide⟩
  · exact ⟨by simp, by simp [usesNetloc], by simp [IsScheme]; decide⟩

lemma isRooted_pathOf {path : List Char} (h : IsRooted path) : IsRooted (pathOf path) := by
  unfold pathOf
  split
  · exact Or.inr rfl
  · rcases h with rfl | hhead
    · exact Or.inl rfl
    · obtain ⟨path, rfl⟩ := List.head?_eq_some_iff.mp hhead
      obtain ⟨rest, hrest⟩ := List.rdropWhile_prefix (· = '/') (l := '/' :: path)
      cases hpath : ('/' :: path).rdropWhile (· = '/') with
      | nil => exact Or.inl rfl
      | cons c stripped =>
        rw [hpath, List.cons_append, List.cons.injEq] at hrest
        exact Or.inr (by rw [hrest.1]; rfl)

lemma ofList_hostOf (netloc : List Char) :
    py.lower (((hostname py.lowerChars netloc).map String.ofList).getD "") =
      String.ofList (hostOf py netloc) := by
  rw [hostOf, Py.lowerChars, String.ofList_toList]
  cases hostname py.lowerChars netloc <;> rfl

lemma ofList_pathOf (path : List Char) :
    (let path := if String.ofList path = "" then "/" else String.ofList path
      if path = "/" then path else rstripSlashes path) = String.ofList (pathOf path) := by
  have hnil : String.ofList path = "" ↔ path = [] := by
    rw [← String.toList_inj, String.toList_ofList]
    rfl
  have hroot : String.ofList path = "/" ↔ path = ['/'] := by
    rw [← String.toList_inj, String.toList_ofList]
    rfl
  rw [pathOf]
  by_cases hpath : path = []
  · simp [hpath]
  · by_cases hslash : path = ['/']
    · simp [hslash]
    · simp only [hnil, hroot, hpath, hslash, or_self, if_false, ← String.toList_inj,
        toList_rstripSlashes, String.toList_ofList]

lemma ofList_netlocOf {text : String} (scheme : List Char) {host : List Char}
    (htext : text = String.ofList host) (port : Option ℕ) :
    (match port with
      | none => text
      | some port =>
        if port = 0 ∨ (String.ofList scheme = "http" ∧ port = 80) ∨
            (String.ofList scheme = "https" ∧ port = 443) then text
        else text ++ ":" ++ toString port) = String.ofList (netlocOf scheme host port) := by
  subst htext
  cases port with
  | none => rfl
  | some port =>
    have hdrops : (port = 0 ∨ (String.ofList scheme = "http" ∧ port = 80) ∨
        (String.ofList scheme = "https" ∧ port = 443)) ↔ dropsPort scheme port := by
      rw [dropsPort, ← String.toList_inj, ← String.toList_inj, String.toList_ofList]
    simp only [netlocOf, hdrops]
    by_cases hport : dropsPort scheme port
    · rw [if_pos hport, if_pos hport]
    · rw [if_neg hport, if_neg hport, ← String.toList_inj]
      simp only [String.toList_append, String.toList_ofList, Nat.toString_eq_repr, Nat.toList_repr]
      rw [List.append_assoc]
      rfl

lemma ofList_fieldsOf (py : Py) (ipv6 : List Char → Bool) (query : List Char) :
    (py.withUrllib ipv6).urlencode (((parseQsl query).map fun pair =>
        (String.ofList pair.1, String.ofList pair.2)).filter fun pair =>
          !isTracking (py.withUrllib ipv6) pair.1) =
      String.ofList (urlencode (fieldsOf py query)) := by
  rw [List.filter_map]
  change String.ofList (urlencode ((_ : List (String × String)).map _)) = _
  rw [List.map_map]
  congr 2
  refine (List.map_congr_left fun pair _ => ?_).trans (List.map_id _)
  exact Prod.ext String.toList_ofList String.toList_ofList

/-- `canonicalize_url`, on the parts of a URL. -/
lemma canonicalizeUrl_of_split (laws : py.LowerLaws) {value : String} {parts : Parts}
    (hsplit : split ipv6 (strip value.toList) = .ok parts) :
    canonicalizeUrl (py.withUrllib ipv6) value =
      if parts.scheme ∈ webSchemes ∧ parts.netloc ≠ [] then
        match UrlSplit.port parts.netloc with
        | .error e => .error (urlError e)
        | .ok port => .ok (String.ofList (canonicalText py parts port))
      else valueError "Only absolute HTTP(S) URLs are allowed" := by
  have hsound := sound_of_split hsplit
  have hurlsplit : (py.withUrllib ipv6).urlsplit ((py.withUrllib ipv6).strip value) =
      .ok (splitResult py parts) := by
    simp only [Py.withUrllib, String.toList_ofList, hsplit, Except.map, Except.mapError]
  have hlower : (py.withUrllib ipv6).lower (String.ofList parts.scheme) =
      String.ofList parts.scheme := lower_scheme laws hsound
  have hnetloc : String.ofList parts.netloc = "" ↔ parts.netloc = [] := by
    rw [← String.toList_inj, String.toList_ofList]
    rfl
  rw [canonicalizeUrl, hurlsplit]
  simp only [bind, Except.bind, splitResult, hlower, ofList_mem_webSchemes, hnetloc]
  by_cases haddress : parts.scheme ∈ webSchemes ∧ parts.netloc ≠ []
  · have hguard : ¬ (parts.scheme ∉ webSchemes ∨ parts.netloc = []) := fun h =>
      h.elim (fun h => h haddress.1) haddress.2
    rw [if_neg hguard, if_pos haddress]
    cases hport : UrlSplit.port parts.netloc with
    | error e => rfl
    | ok port =>
      have hscheme := webScheme_spec parts.scheme haddress.1
      have hrooted := isRooted_pathOf (hsound.rooted haddress.2)
      have hfields := ofList_fieldsOf py ipv6 parts.query
      have hpath := ofList_pathOf parts.path
      have hnetloc := ofList_netlocOf parts.scheme (@ofList_hostOf py parts.netloc) port
      have htext : canonicalText py parts port = unsplit (String.ofList parts.scheme).toList
          (String.ofList (netlocOf parts.scheme (hostOf py parts.netloc) port)).toList
          (String.ofList (pathOf parts.path)).toList
          (String.ofList (urlencode (fieldsOf py parts.query))).toList := by
        simp only [String.toList_ofList]
        exact (unsplit_eq hscheme.1 hscheme.2.1 hrooted).symm
      have hparse : (py.withUrllib ipv6).parseQsl (String.ofList parts.query) =
          .ok ((parseQsl parts.query).map fun pair =>
            (String.ofList pair.1, String.ofList pair.2)) := by
        simp only [Py.withUrllib, String.toList_ofList]
      simp only [Except.mapError, pure, Except.pure, hparse]
      rw [htext, ← hnetloc, ← hpath, ← hfields]
      rfl
  · have hguard : parts.scheme ∉ webSchemes ∨ parts.netloc = [] := by
      by_contra hnone
      exact haddress ⟨by_contra fun h => hnone (Or.inl h), fun h => hnone (Or.inr h)⟩
    rw [if_pos hguard, if_neg haddress]
    rfl

theorem canonicalizeUrl_ok_iff (laws : py.LowerLaws) {value u : String} :
    canonicalizeUrl (py.withUrllib ipv6) value = .ok u ↔
      ∃ parts port, IsAddress ipv6 value.toList parts port ∧
        u.toList = canonicalText py parts port := by
  constructor
  · intro h
    cases hsplit : split ipv6 (strip value.toList) with
    | error e =>
      have hurlsplit : (py.withUrllib ipv6).urlsplit ((py.withUrllib ipv6).strip value) =
          .error (urlError e) := by
        simp only [Py.withUrllib, String.toList_ofList, hsplit, Except.map, Except.mapError]
      rw [canonicalizeUrl, hurlsplit] at h
      cases h
    | ok parts =>
      rw [canonicalizeUrl_of_split laws hsplit] at h
      split at h
      · next haddress =>
        cases hport : UrlSplit.port parts.netloc with
        | error e =>
          rw [hport] at h
          cases h
        | ok port =>
          rw [hport] at h
          exact ⟨parts, port, ⟨hsplit, haddress.1, haddress.2, hport⟩,
            toList_eq.mpr (Except.ok.inj h).symm⟩
      · cases h
  · rintro ⟨parts, port, haddress, hu⟩
    rw [canonicalizeUrl_of_split laws haddress.split,
      if_pos ⟨haddress.scheme, haddress.netloc⟩, haddress.port]
    exact congrArg Except.ok (toList_eq.mp hu).symm

/-! ## The network location that is written -/

lemma isSyntax_digit : ∀ n < 58, 48 ≤ n → isSyntax (Char.ofNat n) = false := by
  decide

/-- A digit is not syntax. -/
lemma isSyntax_of_isDigit {c : Char} (h : c.isDigit = true) : isSyntax c = false := by
  simp only [Char.isDigit, Bool.and_eq_true, decide_eq_true_eq, UInt32.le_iff_toNat_le] at h
  simp at h
  have hdigit := isSyntax_digit c.toNat (by omega) (by omega)
  rwa [Char.ofNat_toNat] at hdigit

lemma isDigit_of_mem_port {c : Char} {n : ℕ} (h : c ∈ Nat.toDigits 10 n) : c.isDigit = true :=
  Nat.isDigit_of_mem_toDigits (by decide) (by decide) h

/-- A network location as it is written again: a host in lower case, with or without a port. -/
structure IsHostPort (py : Py) (netloc : List Char) : Prop where
  lower : py.lowerChars netloc = netloc
  safe : ∀ c ∈ netloc, isDelimiter c = false ∧ isUnsafe c = false ∧ expands c = false ∧ c ≠ '@'
  brackets : '[' ∉ netloc ∨ ']' ∉ netloc

lemma lowerChars_hostOf (laws : py.LowerLaws) (netloc : List Char) :
    py.lowerChars (hostOf py netloc) = hostOf py netloc :=
  laws.lowerChars_lowerChars _

/-- The syntax in a host that is written was in the host that was read. -/
lemma mem_hostOf (laws : py.LowerLaws) {netloc : List Char} {c : Char} (hc : isSyntax c = true)
    (h : c ∈ hostOf py netloc) : c ∈ (hostinfo netloc).1 := by
  rcases mem_hostname (laws.mem_of_mem_lowerChars hc h) with hmem | hmem
  · exact mem_of_mem_before (laws.mem_of_mem_lowerChars hc hmem)
  · exact hmem

/-- A character of what is written belongs to the host, or is the colon or a digit of the port. -/
lemma mem_netlocOf {scheme host : List Char} {port : Option ℕ} {c : Char}
    (h : c ∈ netlocOf scheme host port) : c ∈ host ∨ c = ':' ∨ c.isDigit = true := by
  unfold netlocOf at h
  split at h
  · exact Or.inl h
  · split at h
    · exact Or.inl h
    · rcases List.mem_append.mp h with h | h
      · exact Or.inl h
      · exact Or.inr ((List.mem_cons.mp h).imp_right isDigit_of_mem_port)

lemma lowerChars_digit (laws : py.LowerLaws) {c : Char} (h : c.isDigit = true) :
    py.lower (String.singleton c) = String.singleton c := by
  refine laws.ascii c (isAscii_of_alwaysSafe ?_) ?_
  · rw [alwaysSafe, Char.isAlphanum, h, Bool.or_true, Bool.true_or]
  · simp only [Char.isDigit, Char.isUpper, Bool.and_eq_true, decide_eq_true_eq,
      UInt32.le_iff_toNat_le, decide_eq_false_iff_not] at h ⊢
    simp at h ⊢
    omega

lemma safe_of_notSyntax {c : Char} (h : isSyntax c = false) :
    isDelimiter c = false ∧ isUnsafe c = false ∧ expands c = false ∧ c ≠ '@' := by
  simp only [isSyntax, Bool.or_eq_false_iff, decide_eq_false_iff_not] at h
  obtain ⟨⟨⟨hdelimiter, hstripped⟩, hexpands⟩, hother⟩ := h
  refine ⟨hdelimiter, hstripped, hexpands, ?_⟩
  rintro rfl
  exact hother (by simp)

/-- What is written for the host and the port of a URL. -/
lemma isHostPort_netlocOf (laws : py.LowerLaws) {parts : Parts} {port : Option ℕ}
    (h : Sound ipv6 parts) (scheme : List Char) :
    IsHostPort py (netlocOf scheme (hostOf py parts.netloc) port) where
  lower := by
    refine laws.lowerChars_eq_self.mpr fun c hc => ?_
    rcases mem_netlocOf hc with hhost | rfl | hdigit
    · exact laws.lowerChars_eq_self.mp (lowerChars_hostOf laws _) c hhost
    · exact laws.ascii ':' (by decide) (by decide)
    · exact lowerChars_digit laws hdigit
  safe := by
    intro c hc
    rcases mem_netlocOf hc with hhost | rfl | hdigit
    · by_cases hreserved : isSyntax c = true
      · obtain ⟨hmem, hat⟩ := mem_hostinfo (mem_hostOf laws hreserved hhost)
        exact ⟨(h.netloc c hmem).1, (h.netloc c hmem).2, (checkNetloc_ok h.check).2 c hmem, hat⟩
      · exact safe_of_notSyntax (by simpa using hreserved)
    · decide
    · exact safe_of_notSyntax (isSyntax_of_isDigit hdigit)
  brackets := by
    have hbracket : ∀ c, isSyntax c = true → c ≠ ':' →
        c ∈ netlocOf scheme (hostOf py parts.netloc) port → c ∈ (hostinfo parts.netloc).1 := by
      intro c hc hne hmem
      rcases mem_netlocOf hmem with hhost | rfl | hdigit
      · exact mem_hostOf laws hc hhost
      · exact absurd rfl hne
      · rw [isSyntax_of_isDigit hdigit] at hc
        cases hc
    rcases brackets_hostinfo parts.netloc with hopen | hclose
    · exact Or.inl fun hmem => hopen (hbracket '[' (by decide) (by decide) hmem)
    · exact Or.inr fun hmem => hclose (hbracket ']' (by decide) (by decide) hmem)

lemma lowerChars_nil (laws : py.LowerLaws) : py.lowerChars [] = [] :=
  laws.lowerChars_eq_self.mpr fun c hc => by cases hc

/-- The name in what is written is what precedes its colon. -/
lemma hostname_eq (laws : py.LowerLaws) {netloc : List Char} (h : IsHostPort py netloc)
    (hopen : '[' ∉ netloc) : hostname py.lowerChars netloc =
      if before ':' netloc = [] then none else some (before ':' netloc) := by
  have hzone : py.lowerChars (before '%' (before ':' netloc)) = before '%' (before ':' netloc) :=
    laws.lowerChars_of_subset h.lower fun c hc => mem_of_mem_before (mem_of_mem_before hc)
  have hwhole : before '%' (before ':' netloc) ++ (before ':' netloc).dropWhile (· ≠ '%') =
      before ':' netloc := List.takeWhile_append_dropWhile
  rw [hostname, hostinfo_eq (fun hat => (h.safe _ hat).2.2.2 rfl) hopen]
  dsimp only
  rw [hzone, hwhole]

lemma hostOf_eq (laws : py.LowerLaws) {netloc : List Char} (h : IsHostPort py netloc)
    (hopen : '[' ∉ netloc) : hostOf py netloc = before ':' netloc := by
  rw [hostOf, hostname_eq laws h hopen]
  split
  · next hnil => rw [hnil, Option.getD_none, lowerChars_nil laws]
  · exact laws.lowerChars_of_subset h.lower fun c hc => mem_of_mem_before hc

/-- A name without a colon, or such a name with a port that is not dropped. -/
def IsPlain (scheme netloc : List Char) : Prop :=
  ':' ∉ netloc ∨ ∃ name port, netloc = name ++ ':' :: Nat.toDigits 10 port ∧ ':' ∉ name ∧
    port ≤ 65535 ∧ ¬ dropsPort scheme port

/-- When a written network location is read and written as it is. -/
lemma netloc_stable_iff (laws : py.LowerLaws) {netloc : List Char} (h : IsHostPort py netloc)
    (ipv6 : List Char → Bool) (scheme : List Char) :
    (checkNetloc ipv6 netloc = .ok () ∧ ∃ port, UrlSplit.port netloc = .ok port ∧
        netlocOf scheme (hostOf py netloc) port = netloc) ↔
      '[' ∉ netloc ∧ ']' ∉ netloc ∧ IsPlain scheme netloc := by
  have hat : '@' ∉ netloc := fun hmem => (h.safe _ hmem).2.2.2 rfl
  constructor
  · rintro ⟨hcheck, port, hport, hwritten⟩
    have hiff := (checkNetloc_ok hcheck).1
    have hopen : '[' ∉ netloc := h.brackets.elim id fun hclose => hiff.not.mpr hclose
    refine ⟨hopen, hiff.not.mp hopen, ?_⟩
    rw [hostOf_eq laws h hopen] at hwritten
    by_cases hcolon : ':' ∈ netloc
    · right
      have hname : before ':' netloc ≠ netloc := fun heq => by
        rw [← heq] at hcolon
        exact notMem_before ':' netloc hcolon
      rcases port_ok hport with ⟨-, rfl⟩ | ⟨-, n, hn, rfl⟩
      · exact absurd hwritten hname
      · rw [netlocOf] at hwritten
        split at hwritten
        · exact absurd hwritten hname
        · next hkept => exact ⟨before ':' netloc, n, hwritten.symm, notMem_before _ _, hn, hkept⟩
    · exact Or.inl hcolon
  · rintro ⟨hopen, hclose, hplain⟩
    refine ⟨checkNetloc_plain ipv6 hopen hclose fun c hc => (h.safe c hc).2.2.1, ?_⟩
    have hinfo := hostinfo_eq hat hopen
    rw [hostOf_eq laws h hopen]
    rcases hplain with hcolon | ⟨name, n, hnetloc, hcolon, hn, hkept⟩
    · refine ⟨none, ?_, before_eq_self hcolon⟩
      unfold UrlSplit.port
      rw [hinfo, after_eq_nil hcolon]
      rfl
    · have hbefore : before ':' netloc = name := by rw [hnetloc, before_append_cons hcolon]
      have hafter : after ':' netloc = Nat.toDigits 10 n := by rw [hnetloc, after_append_cons hcolon]
      refine ⟨some n, port_toDigits hn (by rw [hinfo, hafter]), ?_⟩
      rw [netlocOf, if_neg hkept, hbefore, hnetloc]

/-! ## The path that is written -/

lemma pathOf_ne_nil_iff {path : List Char} :
    pathOf path ≠ [] ↔ ((∀ c ∈ path, c = '/') → path.length ≤ 1) := by
  unfold pathOf
  split
  · next hroot =>
    refine iff_of_true (by simp) fun _ => ?_
    rcases hroot with rfl | rfl <;> decide
  · next hroot =>
    rw [Ne, List.rdropWhile_eq_nil_iff]
    simp only [decide_eq_true_eq]
    constructor
    · exact fun hne hall => absurd hall hne
    · intro hshort hall
      have hlength := hshort hall
      rcases path with _ | ⟨c, _ | ⟨d, path⟩⟩
      · exact hroot (Or.inl rfl)
      · exact hroot (Or.inr (by rw [hall c List.mem_cons_self]))
      · simp at hlength

lemma rdropWhile_pathOf_iff {path : List Char} :
    (pathOf path).rdropWhile isSpace = pathOf path ↔
      ∀ c ∈ (path.rdropWhile (· = '/')).getLast?, isSpace c = false := by
  unfold pathOf
  split
  · next hroot =>
    refine iff_of_true rfl fun c hc => ?_
    rcases hroot with rfl | rfl <;> cases hc
  · rw [List.rdropWhile_eq_self_iff]
    constructor
    · intro h c hc
      obtain ⟨hne, rfl⟩ := List.mem_getLast?_eq_getLast hc
      simpa using h hne
    · intro h hne
      rw [h _ (List.getLast?_eq_some_getLast hne)]
      simp

/-- When a written path is read and written as it is, with white space at its end taken off if it
is the last thing that is written. -/
lemma path_stable_iff (path : List Char) (last : Prop) [Decidable last] :
    pathOf (if last then (pathOf path).rdropWhile isSpace else pathOf path) = pathOf path ↔
      pathOf path ≠ [] ∧ (last → (pathOf path).rdropWhile isSpace = pathOf path) := by
  have hagain : pathOf path ≠ [] → pathOf (pathOf path) = pathOf path := by
    intro hne
    by_cases hroot : path = [] ∨ path = ['/']
    · rw [pathOf, pathOf, if_pos hroot]
      rfl
    · have hpath : pathOf path = path.rdropWhile (· = '/') := if_neg hroot
      rw [hpath] at hne ⊢
      have hslash : path.rdropWhile (· = '/') ≠ ['/'] := by
        intro heq
        have hlast := List.rdropWhile_last_not (· = '/') path hne
        simp only [heq, List.getLast_singleton, decide_true, not_true_eq_false] at hlast
      rw [pathOf, if_neg (fun h => h.elim hne hslash), List.rdropWhile_idempotent]
  have hshort : ∀ s : List Char, s ≠ [] → (pathOf s).length ≤ s.length := by
    intro s hs
    unfold pathOf
    split
    · exact List.length_pos_of_ne_nil hs
    · exact (List.rdropWhile_prefix _ s).length_le
  constructor
  · intro h
    have hne : pathOf path ≠ [] := by
      intro hnil
      rw [hnil] at h
      simp [pathOf] at h
    refine ⟨hne, fun hlast => ?_⟩
    rw [if_pos hlast] at h
    by_cases hblank : (pathOf path).rdropWhile isSpace = []
    · rw [hblank] at h ⊢
      rw [← h] at hblank
      cases hblank
    · have hle := hshort _ hblank
      rw [h] at hle
      exact (List.rdropWhile_prefix isSpace _).eq_of_length_le hle
  · rintro ⟨hne, hlast⟩
    split
    · next h => rw [hlast h, hagain hne]
    · exact hagain hne

/-! ## Writing twice -/

lemma queryChar_spec : ∀ n < 128, isQueryChar (Char.ofNat n) = true →
    isSpace (Char.ofNat n) = false ∧ Char.ofNat n ≠ '#' ∧ isUnsafe (Char.ofNat n) = false := by
  decide

lemma isAscii_of_isQueryChar {c : Char} (h : isQueryChar c = true) : isAscii c = true := by
  rw [isQueryChar, Bool.or_eq_true] at h
  rcases h with h | h
  · exact isAscii_of_isQuoted h
  · simp only [List.mem_cons, List.not_mem_nil, or_false, decide_eq_true_eq] at h
    rcases h with rfl | rfl <;> rfl

/-- A query that is written has no white space and does not end early. -/
lemma mem_query {pairs : List (List Char × List Char)} {c : Char} (h : c ∈ urlencode pairs) :
    isSpace c = false ∧ c ≠ '#' ∧ isUnsafe c = false := by
  have hchar := isQueryChar_of_mem_urlencode h
  have hascii : c.toNat < 128 := of_decide_eq_true (isAscii_of_isQueryChar hchar)
  have hspec := queryChar_spec c.toNat hascii
  rw [Char.ofNat_toNat] at hspec
  exact hspec hchar

/-- The fields that were kept are kept again. -/
lemma fieldsOf_urlencode (query : List Char) :
    fieldsOf py (urlencode (fieldsOf py query)) = fieldsOf py query := by
  rw [fieldsOf, parseQsl_urlencode, fieldsOf, List.filter_filter]
  simp only [Bool.and_self]

lemma mem_pathOf {path : List Char} {c : Char} (h : c ∈ pathOf path) : c = '/' ∨ c ∈ path := by
  unfold pathOf at h
  split at h
  · exact Or.inl (List.mem_singleton.mp h)
  · exact Or.inr ((List.rdropWhile_prefix _ path).subset h)

lemma webScheme_space : ∀ scheme ∈ webSchemes, ∀ c ∈ scheme, isSpace c = false := by
  intro scheme h
  rw [webSchemes, List.mem_cons, List.mem_singleton] at h
  rcases h with rfl | rfl
  · simp
    decide
  · simp
    decide

/-- What the second call does with what the first one wrote. -/
lemma recanonical_iff (laws : py.LowerLaws) {value : List Char} {u : String} {parts : Parts}
    {port : Option ℕ} (h : IsAddress ipv6 value parts port)
    (hu : u.toList = canonicalText py parts port) :
    let netloc := netlocOf parts.scheme (hostOf py parts.netloc) port
    canonicalizeUrl (py.withUrllib ipv6) u = .ok u ↔
      (netloc ≠ [] ∧ '[' ∉ netloc ∧ ']' ∉ netloc ∧ IsPlain parts.scheme netloc) ∧
      pathOf parts.path ≠ [] ∧
      (fieldsOf py parts.query = [] → (pathOf parts.path).rdropWhile isSpace =
        pathOf parts.path) := by
  intro netloc
  have hsound := sound_of_split h.split
  have hscheme := (webScheme_spec parts.scheme h.scheme).2.2
  have hnetloc : IsHostPort py netloc := isHostPort_netlocOf laws hsound parts.scheme
  have hrooted := isRooted_pathOf (hsound.rooted h.netloc)
  generalize hquery : urlencode (fieldsOf py parts.query) = query
  have hqueryChars : ∀ c ∈ query, isSpace c = false ∧ c ≠ '#' ∧ isUnsafe c = false := by
    rw [← hquery]
    exact fun c hc => mem_query hc
  have hwritten : u.toList = written parts.scheme netloc (pathOf parts.path) query := by
    rw [hu, canonicalText, hquery]
  have hblank : fieldsOf py parts.query = [] ↔ query = [] := by
    rw [← hquery, urlencode_eq_nil]
  have hagain : urlencode (fieldsOf py query) = query := by
    rw [← hquery, fieldsOf_urlencode]
  -- what the second reading finds
  obtain ⟨netloc', hnetloc'⟩ : ∃ netloc', netloc' =
    if query = [] ∧ pathOf parts.path = [] then netloc.rdropWhile isSpace else netloc := ⟨_, rfl⟩
  obtain ⟨path', hpath'⟩ : ∃ path', path' =
    if query = [] then (pathOf parts.path).rdropWhile isSpace else pathOf parts.path := ⟨_, rfl⟩
  have hstrip : strip u.toList = written parts.scheme netloc' path' query := by
    rw [hwritten, hnetloc', hpath']
    exact strip_written hscheme (webScheme_space _ h.scheme) hrooted fun c hc => (hqueryChars c hc).1
  have hsubset : netloc' ⊆ netloc := by
    rw [hnetloc']
    split
    · exact (List.rdropWhile_prefix isSpace netloc).subset
    · exact List.Subset.refl netloc
  have hpathSubset : path' ⊆ pathOf parts.path := by
    rw [hpath']
    split
    · exact (List.rdropWhile_prefix isSpace _).subset
    · exact List.Subset.refl _
  have hrooted' : IsRooted path' := by
    rw [hpath']
    split
    · exact (hrooted.rdropWhile rfl).1
    · exact hrooted
  have hsplit : split ipv6 (strip u.toList) =
      (checkNetloc ipv6 netloc').map fun _ => ⟨parts.scheme, netloc', path', query, []⟩ := by
    rw [hstrip]
    refine split_written hscheme (fun c hc => ?_) hrooted' (fun c hc => ?_) fun c hc =>
      (hqueryChars c hc).2
    · exact ⟨(hnetloc.safe c (hsubset hc)).1, (hnetloc.safe c (hsubset hc)).2.1⟩
    · rcases mem_pathOf (hpathSubset hc) with rfl | hmem
      · decide
      · exact hsound.path c hmem
  have hpathIff := path_stable_iff parts.path (query = [])
  rw [← hpath'] at hpathIff
  have hsame : pathOf parts.path ≠ [] → netloc' = netloc := fun hne => by
    rw [hnetloc', if_neg fun h => hne h.2]
  rw [canonicalizeUrl_ok_iff laws, hblank]
  constructor
  · rintro ⟨parts', port', haddress, hu'⟩
    have hsound' := sound_of_split haddress.split
    have hsplit' := haddress.split
    rw [hsplit] at hsplit'
    cases hcheck : checkNetloc ipv6 netloc' with
    | error e =>
      rw [hcheck] at hsplit'
      cases hsplit'
    | ok _ =>
      rw [hcheck] at hsplit'
      obtain rfl := Except.ok.inj hsplit'
      have hnetloc₂ : IsHostPort py (netlocOf parts.scheme (hostOf py netloc') port') :=
        isHostPort_netlocOf laws hsound' parts.scheme
      rw [hwritten, canonicalText] at hu'
      dsimp only at hu'
      rw [hagain] at hu'
      obtain ⟨hsameNetloc, hsamePath⟩ := written_inj (fun c hc => (hnetloc.safe c hc).1) hrooted
        (fun c hc => (hnetloc₂.safe c hc).1) (isRooted_pathOf hrooted') hu'
      have hstable := hpathIff.mp hsamePath.symm
      have heq := hsame hstable.1
      rw [heq] at hsameNetloc hcheck
      have hport := haddress.port
      have hne := haddress.netloc
      dsimp only at hport hne
      rw [heq] at hport hne
      exact ⟨⟨hne, (netloc_stable_iff laws hnetloc ipv6 parts.scheme).mp
        ⟨hcheck, port', hport, hsameNetloc.symm⟩⟩, hstable⟩
  · rintro ⟨⟨hne, hplain⟩, hstable⟩
    obtain ⟨hcheck, port', hport, hsameNetloc⟩ :=
      (netloc_stable_iff laws hnetloc ipv6 parts.scheme).mpr hplain
    have heq := hsame hstable.1
    rw [heq, hcheck] at hsplit
    refine ⟨⟨parts.scheme, netloc, path', query, []⟩, port', ⟨hsplit, h.scheme, hne, hport⟩, ?_⟩
    rw [hwritten, canonicalText]
    dsimp only
    rw [hsameNetloc, hpathIff.mpr hstable, hagain]

/-- The parts of a web address that are written so that they are read as they are. -/
structure StaysCanonical (py : Py) (parts : Parts) (port : Option ℕ) : Prop where
  /-- There is a host, or a port that the scheme does not stand for. -/
  named : hostOf py parts.netloc ≠ [] ∨ ∃ n ∈ port, ¬ dropsPort parts.scheme n
  /-- The host is not an address that needs its brackets. -/
  brackets : '[' ∉ hostOf py parts.netloc ∧ ']' ∉ hostOf py parts.netloc
  colon : ':' ∈ hostOf py parts.netloc → (∀ n ∈ port, dropsPort parts.scheme n) ∧
    IsPlain parts.scheme (hostOf py parts.netloc)
  /-- The path is not made of several slashes alone. -/
  path : (∀ c ∈ parts.path, c = '/') → parts.path.length ≤ 1
  /-- Where no query follows, the path does not end in white space, its last slashes aside. -/
  space : fieldsOf py parts.query = [] →
    ∀ c ∈ (parts.path.rdropWhile (· = '/')).getLast?, isSpace c = false

/-- The written network location, by its host and port. -/
lemma netlocOf_plain_iff (scheme host : List Char) {port : Option ℕ}
    (hport : ∀ n ∈ port, n ≤ 65535) :
    (netlocOf scheme host port ≠ [] ↔ host ≠ [] ∨ ∃ n ∈ port, ¬ dropsPort scheme n) ∧
    (∀ c, c ≠ ':' → c.isDigit = false → (c ∈ netlocOf scheme host port ↔ c ∈ host)) ∧
    (IsPlain scheme (netlocOf scheme host port) ↔
      (':' ∈ host → (∀ n ∈ port, dropsPort scheme n) ∧ IsPlain scheme host)) := by
  by_cases hdrops : ∀ n ∈ port, dropsPort scheme n
  · -- only the host is written
    have heq : netlocOf scheme host port = host := by
      cases port with
      | none => rfl
      | some n => exact if_pos (hdrops n rfl)
    rw [heq]
    refine ⟨?_, fun _ _ _ => Iff.rfl, ?_⟩
    · constructor
      · exact Or.inl
      · rintro (hne | ⟨n, hn, hkept⟩)
        · exact hne
        · exact absurd (hdrops n hn) hkept
    · constructor
      · exact fun hplain _ => ⟨hdrops, hplain⟩
      · intro h
        by_cases hcolon : ':' ∈ host
        · exact (h hcolon).2
        · exact Or.inl hcolon
  · obtain ⟨n, hn, hkept⟩ : ∃ n ∈ port, ¬ dropsPort scheme n := by
      by_contra hnone
      exact hdrops fun n hn => by_contra fun h => hnone ⟨n, hn, h⟩
    have hsome : port = some n := hn
    subst hsome
    have heq : netlocOf scheme host (some n) = host ++ ':' :: Nat.toDigits 10 n := if_neg hkept
    rw [heq]
    refine ⟨iff_of_true (by simp) (Or.inr ⟨n, hn, hkept⟩), fun c hc hdigit => ?_, ?_⟩
    · constructor
      · intro hmem
        rcases List.mem_append.mp hmem with hmem | hmem
        · exact hmem
        · rcases List.mem_cons.mp hmem with rfl | hmem
          · exact absurd rfl hc
          · rw [isDigit_of_mem_port hmem] at hdigit
            cases hdigit
      · exact fun hmem => List.mem_append_left _ hmem
    · constructor
      · intro hplain hcolon
        exfalso
        rcases hplain with hnone | ⟨name, m, hname, hfree, -, -⟩
        · exact hnone (by simp)
        · -- the host has a colon, so the text of the port would have one
          have hafter := after_append_cons hfree (Nat.toDigits 10 m)
          rw [← hname, ← before_append_after hcolon, List.append_assoc, List.cons_append,
            after_append_cons (notMem_before ':' host)] at hafter
          have hmem : ':' ∈ Nat.toDigits 10 m := by
            rw [← hafter]
            simp
          cases isDigit_of_mem_port hmem
      · intro h
        refine Or.inr ⟨host, n, rfl, fun hcolon => hkept ((h hcolon).1 n hn), hport n hn, hkept⟩

end

/-- **When canonical URLs are canonical**: what `canonicalize_url` returns for a URL is returned
for itself exactly if the parts of the URL are of this kind. -/
theorem canonicalizeUrl_idempotent_iff {py : Py} (laws : py.LowerLaws) {ipv6 : List Char → Bool}
    {value u : String} (h : canonicalizeUrl (py.withUrllib ipv6) value = .ok u) :
    canonicalizeUrl (py.withUrllib ipv6) u = .ok u ↔
      ∃ parts port, IsAddress ipv6 value.toList parts port ∧ StaysCanonical py parts port := by
  have hiff : ∀ parts port, IsAddress ipv6 value.toList parts port →
      u.toList = canonicalText py parts port →
      (canonicalizeUrl (py.withUrllib ipv6) u = .ok u ↔ StaysCanonical py parts port) := by
    intro parts port haddress hu
    have hport : ∀ n ∈ port, n ≤ 65535 := by
      rintro n rfl
      rcases port_ok haddress.port with ⟨-, hnone⟩ | ⟨-, m, hm, hsome⟩
      · cases hnone
      · cases hsome
        exact hm
    obtain ⟨hnamed, hmem, hplain⟩ :=
      netlocOf_plain_iff parts.scheme (hostOf py parts.netloc) hport
    have hagain := recanonical_iff laws haddress hu
    dsimp only at hagain
    rw [hagain, hnamed, hplain, hmem '[' (by decide) (by decide),
      hmem ']' (by decide) (by decide), pathOf_ne_nil_iff, rdropWhile_pathOf_iff]
    constructor
    · rintro ⟨⟨hname, hopen, hclose, hcolon⟩, hpath, hspace⟩
      exact ⟨hname, ⟨hopen, hclose⟩, hcolon, hpath, hspace⟩
    · rintro ⟨hname, ⟨hopen, hclose⟩, hcolon, hpath, hspace⟩
      exact ⟨⟨hname, hopen, hclose, hcolon⟩, hpath, hspace⟩
  obtain ⟨parts, port, haddress, hu⟩ := (canonicalizeUrl_ok_iff laws).mp h
  constructor
  · exact fun hagain => ⟨parts, port, haddress, (hiff parts port haddress hu).mp hagain⟩
  · rintro ⟨parts', port', haddress', hstays⟩
    -- a URL has one list of parts
    have hparts := haddress'.split
    rw [haddress.split, Except.ok.injEq] at hparts
    subst hparts
    have hports := haddress'.port
    rw [haddress.port, Except.ok.injEq] at hports
    subst hports
    exact (hiff parts port haddress hu).mpr hstays

/-- The path of two slashes is dropped by the first call, and written as one by the second. -/
theorem slashes_canonicalised_twice :
    canonicalizeUrl Sample.webPy "http://a.com//" = .ok "http://a.com" ∧
      canonicalizeUrl Sample.webPy "http://a.com" = .ok "http://a.com/" ∧
      ¬ ∀ value u, canonicalizeUrl Sample.webPy value = .ok u →
        canonicalizeUrl Sample.webPy u = .ok u := by
  have hfirst : canonicalizeUrl Sample.webPy "http://a.com//" = .ok "http://a.com" := by
    decide +kernel
  have hsecond : canonicalizeUrl Sample.webPy "http://a.com" = .ok "http://a.com/" := by
    decide +kernel
  refine ⟨hfirst, hsecond, fun h => ?_⟩
  have hsame := h _ _ hfirst
  rw [hsecond, Except.ok.injEq] at hsame
  exact absurd hsame (by decide)

/-- What is written for a host in capitals, the default port, slashes at the end, a tracking
parameter and a fragment is canonical. -/
theorem award_canonicalised :
    canonicalizeUrl Sample.webPy "https://award.example.org/call?year=2024" =
      .ok "https://award.example.org/call?year=2024" := by
  have hfirst : canonicalizeUrl Sample.webPy
      " HTTPS://Award.Example.org:443/call//?utm_source=x&year=2024#top" =
        .ok "https://award.example.org/call?year=2024" := by
    decide +kernel
  refine (canonicalizeUrl_idempotent_iff Sample.asciiPy_lowerLaws hfirst).mpr ?_
  refine ⟨⟨"https".toList, "Award.Example.org:443".toList, "/call//".toList,
    "utm_source=x&year=2024".toList, "top".toList⟩, some 443, ?_, ?_⟩
  · exact ⟨by decide +kernel, by decide +kernel, by decide +kernel, by decide +kernel⟩
  · exact ⟨by decide +kernel, by decide +kernel, fun h => absurd h (by decide +kernel),
      fun h => absurd (h 'c' (by decide +kernel)) (by decide), by decide +kernel⟩

end ScholarshipFinder
