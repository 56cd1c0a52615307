import Mathlib

/-!
# Splitting a URL

`urlsplit` and `urlunsplit` of `urllib.parse`, with the `hostname` and `port` of the result, on
lists of characters.  Whether a host in brackets is an IPv6 address is left open.  What `unsplit`
writes for a scheme, a network location, a path and a query, `split` takes apart again.
-/

namespace Lib.UrlSplit

/-- Why a URL is refused. -/
inductive Error
  | invalidIPv6
  | invalidHost
  | invalidNetloc
  | invalidPort
  | portOutOfRange
deriving DecidableEq, Repr

/-! ## Texts -/

/-- The text before the first `c`: `s.partition(c)[0]`. -/
def before (c : Char) (s : List Char) : List Char := s.takeWhile (· ≠ c)

/-- The text after the first `c`: `s.partition(c)[2]`. -/
def after (c : Char) (s : List Char) : List Char := (s.dropWhile (· ≠ c)).tail

/-- The text after the last `c`: `s.rpartition(c)[2]`. -/
def afterLast (c : Char) (s : List Char) : List Char := s.rtakeWhile (· ≠ c)

/-- `str.isspace`, of one character. -/
def isSpace (c : Char) : Bool :=
  c.toNat ∈ [0x9, 0xa, 0xb, 0xc, 0xd, 0x1c, 0x1d, 0x1e, 0x1f, 0x20, 0x85, 0xa0, 0x1680, 0x2000,
    0x2001, 0x2002, 0x2003, 0x2004, 0x2005, 0x2006, 0x2007, 0x2008, 0x2009, 0x200a, 0x2028, 0x2029,
    0x202f, 0x205f, 0x3000]

/-- `str.strip` -/
def strip (s : List Char) : List Char := (s.dropWhile isSpace).rdropWhile isSpace

/-! ## Parts of a URL -/

/-- `_WHATWG_C0_CONTROL_OR_SPACE` -/
def isControlOrSpace (c : Char) : Bool := c.toNat ≤ 0x20

/-- `_UNSAFE_URL_BYTES_TO_REMOVE` -/
def isUnsafe (c : Char) : Bool := c ∈ ['\t', '\r', '\n']

/-- `scheme_chars` -/
def isSchemeChar (c : Char) : Bool := c.isAlphanum || c ∈ ['+', '-', '.']

/-- The scheme of a URL, if it has one, and the rest. -/
def splitScheme (url : List Char) : List Char × List Char :=
  let scheme := before ':' url
  if ':' ∈ url ∧ scheme.head?.any Char.isAlpha ∧ scheme.all isSchemeChar then
    (scheme.map Char.toLower, after ':' url)
  else ([], url)

/-- The characters that end a network location. -/
def isDelimiter (c : Char) : Bool := c ∈ ['/', '?', '#']

/-- A hexadecimal digit. -/
def isHex (c : Char) : Bool := c.isDigit || 'a' ≤ c ∧ c ≤ 'f' || 'A' ≤ c ∧ c ≤ 'F'

/-- `\Av[a-fA-F0-9]+\..+\z` -/
def isIPvFuture (host : List Char) : Bool :=
  let rest := host.drop 1
  let tail := rest.dropWhile isHex
  host.head? = some 'v' ∧ rest.takeWhile isHex ≠ [] ∧ tail.head? = some '.' ∧ tail.drop 1 ≠ [] ∧
    '\n' ∉ tail.drop 1

/-- `_check_bracketed_host` -/
def checkBracketedHost (ipv6 : List Char → Bool) (host : List Char) : Except Error Unit :=
  if host.head? = some 'v' then
    if isIPvFuture host then .ok () else .error .invalidHost
  else if ipv6 host then .ok () else .error .invalidHost

/-- `_check_bracketed_netloc` -/
def checkBracketedNetloc (ipv6 : List Char → Bool) (netloc : List Char) : Except Error Unit :=
  let info := afterLast '@' netloc
  if '[' ∈ info then
    let bracketed := after '[' info
    let port := after ']' bracketed
    if before '[' info ≠ [] then .error .invalidIPv6
    else if port ≠ [] ∧ port.head? ≠ some ':' then .error .invalidIPv6
    else checkBracketedHost ipv6 (before ']' bracketed)
  else checkBracketedHost ipv6 (before ':' info)

/-- The characters whose NFKC form has a delimiter in it, other than the delimiters. -/
def expands (c : Char) : Bool :=
  c.toNat ∈ [0x2047, 0x2048, 0x2049, 0x2100, 0x2101, 0x2105, 0x2106, 0x2a74, 0xfe13, 0xfe16, 0xfe55,
    0xfe56, 0xfe5f, 0xfe6b, 0xff03, 0xff0f, 0xff1a, 0xff1f, 0xff20]

/-- The checks of `urlsplit` on a network location. -/
def checkNetloc (ipv6 : List Char → Bool) (netloc : List Char) : Except Error Unit :=
  if ('[' ∈ netloc ∧ ']' ∉ netloc) ∨ (']' ∈ netloc ∧ '[' ∉ netloc) then .error .invalidIPv6
  else
    match if '[' ∈ netloc then checkBracketedNetloc ipv6 netloc else .ok () with
    | .error e => .error e
    | .ok () => if netloc.any expands then .error .invalidNetloc else .ok ()

structure Parts where
  scheme : List Char
  netloc : List Char
  path : List Char
  query : List Char
  fragment : List Char
deriving DecidableEq, Repr

/-- The parts of a URL whose scheme and network location have been taken off. -/
def splitRest (scheme netloc rest : List Char) : Parts where
  scheme := scheme
  netloc := netloc
  path := before '?' (before '#' rest)
  query := after '?' (before '#' rest)
  fragment := after '#' rest

/-- `urlsplit` -/
def split (ipv6 : List Char → Bool) (url : List Char) : Except Error Parts :=
  let url := (url.dropWhile isControlOrSpace).filter fun c => !isUnsafe c
  let (scheme, url) := splitScheme url
  if url.take 2 = ['/', '/'] then
    let netloc := (url.drop 2).takeWhile fun c => !isDelimiter c
    let rest := (url.drop 2).dropWhile fun c => !isDelimiter c
    (checkNetloc ipv6 netloc).map fun _ => splitRest scheme netloc rest
  else .ok (splitRest scheme [] url)

/-- `_hostinfo`: the host and the port of a network location, as they are written. -/
def hostinfo (netloc : List Char) : List Char × List Char :=
  let info := afterLast '@' netloc
  if '[' ∈ info then
    (before ']' (after '[' info), after ':' (after ']' (after '[' info)))
  else (before ':' info, after ':' info)

/-- `hostname`: in lower case, up to the zone of an address. -/
def hostname (lower : List Char → List Char) (netloc : List Char) : Option (List Char) :=
  let host := (hostinfo netloc).1
  if host = [] then none else some (lower (before '%' host) ++ host.dropWhile (· ≠ '%'))

/-- The longest text that `int` reads. -/
def maxDigits : ℕ := 4300

/-- `port` -/
def port (netloc : List Char) : Except Error (Option ℕ) :=
  let digits := (hostinfo netloc).2
  if digits = [] then .ok none
  else if digits.all Char.isDigit ∧ digits.length ≤ maxDigits then
    let n := Nat.ofDigitChars 10 digits 0
    if n ≤ 65535 then .ok (some n) else .error .portOutOfRange
  else .error .invalidPort

/-- `uses_netloc` -/
def usesNetloc : List (List Char) :=
  ["", "ftp", "http", "gopher", "nntp", "telnet", "imap", "wais", "file", "mms", "https", "shttp",
    "snews", "prospero", "rtsp", "rtsps", "rtspu", "rsync", "svn", "svn+ssh", "sftp", "nfs", "git",
    "git+ssh", "ws", "wss", "itms-services"].map String.toList

/-- `urlunsplit`, without a fragment. -/
def unsplit (scheme netloc path query : List Char) : List Char :=
  let rooted := path = [] ∨ path.head? = some '/'
  let url :=
    if netloc ≠ [] then '/' :: '/' :: netloc ++ if rooted then path else '/' :: path
    else if path.take 2 = ['/', '/'] then '/' :: '/' :: path
    else if scheme ≠ [] ∧ scheme ∈ usesNetloc ∧ rooted then '/' :: '/' :: path
    else path
  let url := if scheme ≠ [] then scheme ++ ':' :: url else url
  if query ≠ [] then url ++ '?' :: query else url

/-! ## What the text functions do -/

lemma notMem_before (c : Char) (s : List Char) : c ∉ before c s := fun h => by
  simpa using List.mem_takeWhile_imp h

lemma mem_of_mem_before {c d : Char} {s : List Char} (h : d ∈ before c s) : d ∈ s :=
  (List.takeWhile_prefix _).subset h

lemma mem_of_mem_after {c d : Char} {s : List Char} (h : d ∈ after c s) : d ∈ s :=
  (List.dropWhile_suffix _).subset (List.mem_of_mem_tail h)

lemma before_eq_self {c : Char} {s : List Char} (h : c ∉ s) : before c s = s := by
  refine List.takeWhile_eq_self_iff.mpr fun d hd => ?_
  rw [decide_eq_true_eq]
  rintro rfl
  exact h hd

lemma after_eq_nil {c : Char} {s : List Char} (h : c ∉ s) : after c s = [] := by
  have hdrop : s.dropWhile (· ≠ c) = [] := by
    refine List.dropWhile_eq_nil_iff.mpr fun d hd => ?_
    rw [decide_eq_true_eq]
    rintro rfl
    exact h hd
  rw [after, hdrop]
  rfl

lemma before_append_cons {c : Char} {s : List Char} (h : c ∉ s) (rest : List Char) :
    before c (s ++ c :: rest) = s := by
  have hs : ∀ d ∈ s, decide (d ≠ c) = true := fun d hd => by
    rw [decide_eq_true_eq]
    rintro rfl
    exact h hd
  rw [before, List.takeWhile_append_of_pos hs, List.takeWhile_cons_of_neg (by simp),
    List.append_nil]

lemma after_append_cons {c : Char} {s : List Char} (h : c ∉ s) (rest : List Char) :
    after c (s ++ c :: rest) = rest := by
  have hs : ∀ d ∈ s, decide (d ≠ c) = true := fun d hd => by
    rw [decide_eq_true_eq]
    rintro rfl
    exact h hd
  rw [after, List.dropWhile_append_of_pos hs, List.dropWhile_cons_of_neg (by simp), List.tail_cons]

/-- A text is what precedes the first `c`, and what follows it. -/
lemma before_append_after {c : Char} {s : List Char} (h : c ∈ s) :
    before c s ++ c :: after c s = s := by
  induction s with
  | nil => cases h
  | cons d s ih =>
    by_cases hd : d = c
    · subst hd
      simp [before, after]
    · have hs : c ∈ s := by
        rcases List.mem_cons.mp h with rfl | hs
        · exact absurd rfl hd
        · exact hs
      simpa [before, after, hd] using ih hs

lemma afterLast_eq_self {c : Char} {s : List Char} (h : c ∉ s) : afterLast c s = s := by
  refine List.rtakeWhile_eq_self_iff.mpr fun d hd => ?_
  rw [decide_eq_true_eq]
  rintro rfl
  exact h hd

lemma notMem_afterLast (c : Char) (s : List Char) : c ∉ afterLast c s := fun h => by
  simpa using List.mem_rtakeWhile_imp h

lemma mem_of_mem_afterLast {c d : Char} {s : List Char} (h : d ∈ afterLast c s) : d ∈ s :=
  (List.rtakeWhile_suffix _ _).subset h

/-- A stripped text is stripped. -/
lemma strip_strip (s : List Char) : strip (strip s) = strip s := by
  have hfirst : (strip s).dropWhile isSpace = strip s := by
    cases hstrip : strip s with
    | nil => rfl
    | cons c rest =>
      obtain ⟨tail, htail⟩ := List.rdropWhile_prefix isSpace (l := s.dropWhile isSpace)
      rw [← strip, hstrip] at htail
      have hhead := List.head?_dropWhile_not isSpace s
      rw [← htail] at hhead
      exact List.dropWhile_cons_of_neg (by simpa using hhead)
  rw [strip, hfirst]
  exact List.rdropWhile_idempotent isSpace _

/-! ## What is split -/

/-- A scheme in lower case. -/
def IsScheme (scheme : List Char) : Prop :=
  scheme.head?.any Char.isAlpha ∧ ∀ c ∈ scheme, isSchemeChar c = true ∧ c.toLower = c ∧ c ≠ ':' ∧
    isControlOrSpace c = false ∧ isUnsafe c = false

/-- `unsplit` for a rooted path under a scheme that uses a network location. -/
def written (scheme netloc path query : List Char) : List Char :=
  scheme ++ ':' :: '/' :: '/' :: (netloc ++ (path ++ if query = [] then [] else '?' :: query))

/-- A path that may follow a network location. -/
def IsRooted (path : List Char) : Prop := path = [] ∨ path.head? = some '/'

lemma unsplit_eq {scheme netloc path query : List Char} (hscheme : scheme ≠ [])
    (huses : scheme ∈ usesNetloc) (hpath : IsRooted path) :
    unsplit scheme netloc path query = written scheme netloc path query := by
  have hrooted : path = [] ∨ path.head? = some '/' := hpath
  have hurl : unsplit scheme netloc path query =
      let url := scheme ++ ':' :: '/' :: '/' :: (netloc ++ path)
      if query ≠ [] then url ++ '?' :: query else url := by
    unfold unsplit
    by_cases hnetloc : netloc = []
    · subst hnetloc
      by_cases hslashes : path.take 2 = ['/', '/']
      · simp [hslashes, hscheme]
      · simp [hslashes, hscheme, huses, hrooted]
    · simp [hnetloc, hrooted, hscheme]
  rw [hurl, written]
  by_cases hquery : query = []
  · simp [hquery]
  · simp [hquery]

lemma splitScheme_written {scheme rest : List Char} (h : IsScheme scheme) :
    splitScheme (scheme ++ ':' :: rest) = (scheme, rest) := by
  have hcolon : ':' ∉ scheme := fun hmem => (h.2 _ hmem).2.2.1 rfl
  have hall : scheme.all isSchemeChar = true := List.all_eq_true.mpr fun c hc => (h.2 c hc).1
  have hlower : scheme.map Char.toLower = scheme := by
    conv_rhs => rw [← List.map_id scheme]
    exact List.map_congr_left fun c hc => (h.2 c hc).2.1
  rw [splitScheme, before_append_cons hcolon, after_append_cons hcolon]
  simp only [List.mem_append, List.mem_cons, true_or, or_true, h.1, hall, hlower,
    and_self, if_true]

/-- What follows a network location begins with a delimiter. -/
lemma takeWhile_netloc {netloc path : List Char} (query : List Char)
    (hnetloc : ∀ c ∈ netloc, isDelimiter c = false) (hrooted : IsRooted path) :
    (netloc ++ (path ++ if query = [] then [] else '?' :: query)).takeWhile (!isDelimiter ·) =
        netloc ∧
      (netloc ++ (path ++ if query = [] then [] else '?' :: query)).dropWhile (!isDelimiter ·) =
        path ++ if query = [] then [] else '?' :: query := by
  have hpos : ∀ c ∈ netloc, (!isDelimiter c) = true := fun c hc => by rw [hnetloc c hc]; rfl
  have hrest : path ++ (if query = [] then [] else '?' :: query) = [] ∨
      ∃ c rest, path ++ (if query = [] then [] else '?' :: query) = c :: rest ∧
        isDelimiter c = true := by
    rcases hrooted with rfl | hhead
    · by_cases hquery : query = []
      · exact Or.inl (by simp [hquery])
      · exact Or.inr ⟨'?', query, by simp [hquery], rfl⟩
    · obtain ⟨path, rfl⟩ := List.head?_eq_some_iff.mp hhead
      exact Or.inr ⟨'/', _, rfl, rfl⟩
  rw [List.takeWhile_append_of_pos hpos, List.dropWhile_append_of_pos hpos]
  rcases hrest with hnil | ⟨c, rest, hcons, hc⟩
  · rw [hnil]
    simp
  · rw [hcons, List.takeWhile_cons_of_neg (by simp [hc]), List.dropWhile_cons_of_neg (by simp [hc]),
      List.append_nil]
    exact ⟨rfl, rfl⟩

lemma splitRest_written {scheme netloc path query : List Char}
    (hpath : ∀ c ∈ path, c ≠ '?' ∧ c ≠ '#') (hquery : ∀ c ∈ query, c ≠ '#') :
    splitRest scheme netloc (path ++ if query = [] then [] else '?' :: query) =
      ⟨scheme, netloc, path, query, []⟩ := by
  have hhash : '#' ∉ path ++ if query = [] then [] else '?' :: query := by
    intro hmem
    rcases List.mem_append.mp hmem with hmem | hmem
    · exact (hpath _ hmem).2 rfl
    · split at hmem
      · cases hmem
      · rcases List.mem_cons.mp hmem with h | hmem
        · cases h
        · exact hquery _ hmem rfl
  have hmark : '?' ∉ path := fun hmem => (hpath _ hmem).1 rfl
  rw [splitRest, before_eq_self hhash, after_eq_nil hhash]
  by_cases hnil : query = []
  · rw [if_pos hnil, List.append_nil, before_eq_self hmark, after_eq_nil hmark, hnil]
  · rw [if_neg hnil, before_append_cons hmark, after_append_cons hmark]

/-- What is written is split into the same parts. -/
theorem split_written {ipv6 : List Char → Bool} {scheme netloc path query : List Char}
    (hscheme : IsScheme scheme)
    (hnetloc : ∀ c ∈ netloc, isDelimiter c = false ∧ isUnsafe c = false) (hrooted : IsRooted path)
    (hpath : ∀ c ∈ path, c ≠ '?' ∧ c ≠ '#' ∧ isUnsafe c = false)
    (hquery : ∀ c ∈ query, c ≠ '#' ∧ isUnsafe c = false) :
    split ipv6 (written scheme netloc path query) =
      (checkNetloc ipv6 netloc).map fun _ => ⟨scheme, netloc, path, query, []⟩ := by
  have hfirst : (written scheme netloc path query).dropWhile isControlOrSpace =
      written scheme netloc path query := by
    obtain ⟨halpha, hall⟩ := hscheme
    cases scheme with
    | nil => cases halpha
    | cons c scheme =>
      have hc := (hall c List.mem_cons_self).2.2.2.1
      exact List.dropWhile_cons_of_neg (by rw [hc]; simp)
  have hsafe : ∀ c ∈ written scheme netloc path query, (!isUnsafe c) = true := by
    intro c hc
    rw [Bool.not_eq_true']
    simp only [written, List.mem_append, List.mem_cons] at hc
    rcases hc with hc | rfl | rfl | rfl | hc | hc | hc
    · exact (hscheme.2 c hc).2.2.2.2
    · rfl
    · rfl
    · rfl
    · exact (hnetloc c hc).2
    · exact (hpath c hc).2.2
    · split at hc
      · cases hc
      · rcases List.mem_cons.mp hc with rfl | hc
        · rfl
        · exact (hquery c hc).2
  obtain ⟨htake, hdrop⟩ := takeWhile_netloc query (fun c hc => (hnetloc c hc).1) hrooted
  unfold split
  rw [hfirst, List.filter_eq_self.mpr hsafe, written]
  dsimp only
  rw [splitScheme_written hscheme]
  simp only [List.take_succ_cons, List.take_zero, if_true, List.drop_succ_cons, List.drop_zero,
    htake, hdrop]
  rw [splitRest_written (fun c hc => ⟨(hpath c hc).1, (hpath c hc).2.1⟩) fun c hc => (hquery c hc).1]

/-- What a split URL is made of. -/
structure Sound (ipv6 : List Char → Bool) (parts : Parts) : Prop where
  scheme : ∀ c ∈ parts.scheme, ∃ d, isSchemeChar d = true ∧ c = d.toLower
  check : checkNetloc ipv6 parts.netloc = .ok ()
  netloc : ∀ c ∈ parts.netloc, isDelimiter c = false ∧ isUnsafe c = false
  rooted : parts.netloc ≠ [] → IsRooted parts.path
  path : ∀ c ∈ parts.path, c ≠ '?' ∧ c ≠ '#' ∧ isUnsafe c = false

lemma mem_scheme {url : List Char} {c : Char} (h : c ∈ (splitScheme url).1) :
    ∃ d, isSchemeChar d = true ∧ c = d.toLower := by
  unfold splitScheme at h
  dsimp only at h
  split at h
  · next hscheme =>
    obtain ⟨d, hd, rfl⟩ := List.mem_map.mp h
    exact ⟨d, List.all_eq_true.mp hscheme.2.2 d hd, rfl⟩
  · cases h

lemma mem_splitScheme {url : List Char} {c : Char} (h : c ∈ (splitScheme url).2) : c ∈ url := by
  unfold splitScheme at h
  dsimp only at h
  split at h
  · exact mem_of_mem_after h
  · exact h

lemma mem_splitRest {scheme netloc rest : List Char} {c : Char}
    (h : c ∈ (splitRest scheme netloc rest).path) : c ∈ rest ∧ c ≠ '?' ∧ c ≠ '#' := by
  have hmark := mem_of_mem_before h
  refine ⟨mem_of_mem_before hmark, ?_, ?_⟩
  · rintro rfl
    exact notMem_before _ _ h
  · rintro rfl
    exact notMem_before _ _ hmark

lemma isRooted_splitRest {scheme netloc rest : List Char}
    (h : ∀ c ∈ rest.head?, isDelimiter c = true) :
    IsRooted (splitRest scheme netloc rest).path := by
  cases rest with
  | nil => exact Or.inl rfl
  | cons c rest =>
    have hc := h c rfl
    simp only [isDelimiter, List.mem_cons, List.not_mem_nil, or_false, decide_eq_true_eq] at hc
    rcases hc with rfl | rfl | rfl
    · exact Or.inr rfl
    · exact Or.inl rfl
    · exact Or.inl rfl

theorem sound_of_split {ipv6 : List Char → Bool} {url : List Char} {parts : Parts}
    (h : split ipv6 url = .ok parts) : Sound ipv6 parts := by
  unfold split at h
  dsimp only at h
  generalize hcleaned : (url.dropWhile isControlOrSpace).filter (!isUnsafe ·) = cleaned at h
  have hsafe : ∀ c ∈ (splitScheme cleaned).2, isUnsafe c = false := by
    intro c hc
    have hmem := mem_splitScheme hc
    rw [← hcleaned, List.mem_filter, Bool.not_eq_true'] at hmem
    exact hmem.2
  split at h
  · cases hcheck : checkNetloc ipv6
        (((splitScheme cleaned).2.drop 2).takeWhile (!isDelimiter ·)) with
    | error e =>
      rw [hcheck] at h
      cases h
    | ok _ =>
      rw [hcheck] at h
      cases h
      exact
        { scheme := fun c hc => mem_scheme hc
          check := hcheck
          netloc := fun c hc => by
            have hnot := List.mem_takeWhile_imp hc
            have hmem := List.mem_of_mem_drop ((List.takeWhile_prefix _).subset hc)
            exact ⟨by simpa using hnot, hsafe c hmem⟩
          rooted := fun _ => isRooted_splitRest fun c hc => by
            have hnot := List.head?_dropWhile_not (!isDelimiter ·) ((splitScheme cleaned).2.drop 2)
            rw [Option.mem_def.mp hc] at hnot
            simpa using hnot
          path := fun c hc => by
            obtain ⟨hrest, hne⟩ := mem_splitRest hc
            have hmem := List.mem_of_mem_drop ((List.dropWhile_suffix _).subset hrest)
            exact ⟨hne.1, hne.2, hsafe c hmem⟩ }
  · cases h
    exact
      { scheme := fun c hc => mem_scheme hc
        check := by simp [checkNetloc, splitRest]
        netloc := fun c hc => by cases hc
        rooted := fun hne => absurd rfl hne
        path := fun c hc => by
          obtain ⟨hrest, hne⟩ := mem_splitRest hc
          exact ⟨hne.1, hne.2, hsafe c hrest⟩ }

/-! ## What is written determines its parts -/

/-- Two network locations and paths that are written alike are the same. -/
lemma written_inj {scheme netloc netloc' path path' query : List Char}
    (hnetloc : ∀ c ∈ netloc, isDelimiter c = false) (hpath : IsRooted path)
    (hnetloc' : ∀ c ∈ netloc', isDelimiter c = false) (hpath' : IsRooted path')
    (h : written scheme netloc path query = written scheme netloc' path' query) :
    netloc = netloc' ∧ path = path' := by
  have hrest := List.append_cancel_left h
  simp only [List.cons.injEq, true_and] at hrest
  obtain ⟨htake, hdrop⟩ := takeWhile_netloc query hnetloc hpath
  obtain ⟨htake', hdrop'⟩ := takeWhile_netloc query hnetloc' hpath'
  rw [hrest] at htake hdrop
  exact ⟨htake.symm.trans htake', List.append_cancel_right (hdrop.symm.trans hdrop')⟩

section

variable (p : Char → Bool)

lemma rdropWhile_append {s t : List Char} (h : t.rdropWhile p ≠ []) :
    (s ++ t).rdropWhile p = s ++ t.rdropWhile p := by
  have hne : t.reverse.dropWhile p ≠ [] := fun hnil => h (by rw [List.rdropWhile, hnil]; rfl)
  rw [List.rdropWhile, List.reverse_append, List.dropWhile_append, if_neg (by simpa using hne),
    List.reverse_append, List.reverse_reverse]
  rfl

lemma rdropWhile_append_of_nil {s t : List Char} (h : t.rdropWhile p = []) :
    (s ++ t).rdropWhile p = s.rdropWhile p := by
  have hnil : t.reverse.dropWhile p = [] := List.reverse_eq_nil_iff.mp h
  rw [List.rdropWhile, List.reverse_append, List.dropWhile_append, hnil, List.isEmpty_nil,
    if_pos rfl]
  rfl

/-- A text with a character that stays begins as before. -/
lemma rdropWhile_cons {c : Char} (hc : p c = false) (s : List Char) :
    (c :: s).rdropWhile p = c :: s.rdropWhile p := by
  by_cases hs : s.rdropWhile p = []
  · rw [← List.singleton_append, rdropWhile_append_of_nil p hs, hs]
    exact List.rdropWhile_concat_neg p [] c (by simp [hc])
  · rw [← List.singleton_append, rdropWhile_append p hs]
    rfl

end

lemma IsRooted.rdropWhile {path : List Char} (h : IsRooted path) {p : Char → Bool}
    (hp : p '/' = false) : IsRooted (path.rdropWhile p) ∧ (path.rdropWhile p = [] → path = []) := by
  rcases h with rfl | hhead
  · exact ⟨Or.inl rfl, fun _ => rfl⟩
  · obtain ⟨path, rfl⟩ := List.head?_eq_some_iff.mp hhead
    rw [rdropWhile_cons p hp]
    exact ⟨Or.inr rfl, fun h => by cases h⟩

/-- Stripping what is written takes white space from its last part. -/
lemma strip_written {scheme netloc path query : List Char} (hscheme : IsScheme scheme)
    (hspace : ∀ c ∈ scheme, isSpace c = false) (hpath : IsRooted path)
    (hquery : ∀ c ∈ query, isSpace c = false) :
    strip (written scheme netloc path query) =
      written scheme (if query = [] ∧ path = [] then netloc.rdropWhile isSpace else netloc)
        (if query = [] then path.rdropWhile isSpace else path) query := by
  have hfirst : (written scheme netloc path query).dropWhile isSpace =
      written scheme netloc path query := by
    obtain ⟨halpha, -⟩ := hscheme
    cases scheme with
    | nil => cases halpha
    | cons c scheme =>
      exact List.dropWhile_cons_of_neg (by rw [hspace c List.mem_cons_self]; simp)
  have hslash : isSpace '/' = false := rfl
  -- the slashes stay, whatever follows them
  have hwritten : ∀ rest, (scheme ++ ':' :: '/' :: '/' :: rest).rdropWhile isSpace =
      scheme ++ ':' :: '/' :: '/' :: rest.rdropWhile isSpace := by
    intro rest
    have hrest : (':' :: '/' :: '/' :: rest).rdropWhile isSpace =
        ':' :: '/' :: '/' :: rest.rdropWhile isSpace := by
      rw [rdropWhile_cons _ rfl, rdropWhile_cons _ hslash, rdropWhile_cons _ hslash]
    rw [rdropWhile_append _ (by rw [hrest]; simp), hrest]
  rw [strip, hfirst, written, hwritten, written]
  congr 4
  by_cases hnil : query = []
  · subst hnil
    simp only [if_true, List.append_nil, true_and]
    by_cases hempty : path = []
    · subst hempty
      simp
    · have hkept : path.rdropWhile isSpace ≠ [] := fun h => hempty ((hpath.rdropWhile hslash).2 h)
      rw [if_neg hempty, rdropWhile_append _ hkept]
  · have hlast : ('?' :: query).rdropWhile isSpace = '?' :: query := by
      rw [rdropWhile_cons _ rfl, List.rdropWhile_eq_self_iff.mpr fun hne => by
        rw [hquery _ (List.getLast_mem hne)]
        simp]
    have htail : (path ++ '?' :: query).rdropWhile isSpace = path ++ '?' :: query := by
      rw [rdropWhile_append _ (by rw [hlast]; simp), hlast]
    simp only [hnil, if_false, false_and]
    rw [rdropWhile_append _ (by rw [htail]; simp), htail]

/-! ## Hosts and ports -/

lemma hostinfo_eq {netloc : List Char} (hat : '@' ∉ netloc) (hopen : '[' ∉ netloc) :
    hostinfo netloc = (before ':' netloc, after ':' netloc) := by
  rw [hostinfo, afterLast_eq_self hat, if_neg hopen]

/-- The characters of a host are those of its network location. -/
lemma mem_hostinfo {netloc : List Char} {c : Char} (h : c ∈ (hostinfo netloc).1) :
    c ∈ netloc ∧ c ≠ '@' := by
  have hinfo : c ∈ afterLast '@' netloc := by
    unfold hostinfo at h
    dsimp only at h
    split at h
    · exact mem_of_mem_after (mem_of_mem_before h)
    · exact mem_of_mem_before h
  refine ⟨mem_of_mem_afterLast hinfo, ?_⟩
  rintro rfl
  exact notMem_afterLast _ _ hinfo

/-- A host does not have brackets of both kinds. -/
lemma brackets_hostinfo (netloc : List Char) :
    '[' ∉ (hostinfo netloc).1 ∨ ']' ∉ (hostinfo netloc).1 := by
  unfold hostinfo
  dsimp only
  split
  · exact Or.inr (notMem_before _ _)
  · next hopen => exact Or.inl fun h => hopen (mem_of_mem_before h)

lemma mem_hostname {lower : List Char → List Char} {netloc : List Char} {c : Char}
    (h : c ∈ (hostname lower netloc).getD []) :
    c ∈ lower (before '%' (hostinfo netloc).1) ∨ c ∈ (hostinfo netloc).1 := by
  unfold hostname at h
  dsimp only at h
  split at h
  · cases h
  · rw [Option.getD_some, List.mem_append] at h
    exact h.imp_right fun hmem => (List.dropWhile_suffix _).subset hmem

/-- A port is read exactly if there is one, and is in range. -/
lemma port_ok {netloc : List Char} {read : Option ℕ} (h : port netloc = .ok read) :
    ((hostinfo netloc).2 = [] ∧ read = none) ∨
      (hostinfo netloc).2 ≠ [] ∧ ∃ n ≤ 65535, read = some n := by
  unfold port at h
  dsimp only at h
  split at h
  · next hnil =>
    cases h
    exact Or.inl ⟨hnil, rfl⟩
  · next hne =>
    split at h
    · split at h
      · next hle =>
        cases h
        exact Or.inr ⟨hne, _, hle, rfl⟩
      · cases h
    · cases h

/-- The text of a port is read back. -/
lemma port_toDigits {netloc : List Char} {n : ℕ} (hn : n ≤ 65535)
    (h : (hostinfo netloc).2 = Nat.toDigits 10 n) : port netloc = .ok (some n) := by
  have hne : Nat.toDigits 10 n ≠ [] := Nat.toDigits_ne_nil
  have hdigits : (Nat.toDigits 10 n).all Char.isDigit = true :=
    List.all_eq_true.mpr fun c hc => Nat.isDigit_of_mem_toDigits (by decide) (by decide) hc
  have hlength : (Nat.toDigits 10 n).length ≤ maxDigits := by
    have hshort : (Nat.toDigits 10 n).length ≤ 5 :=
      (Nat.length_toDigits_le_iff (by decide) (by decide)).mpr (by omega)
    exact hshort.trans (by decide)
  unfold port
  dsimp only
  rw [h, if_neg hne, if_pos ⟨hdigits, hlength⟩, Nat.ofDigitChars_ten_toDigits, if_pos hn]

/-! ## Network locations that pass -/

/-- A network location that passes has brackets of both kinds or of none. -/
lemma checkNetloc_ok {ipv6 : List Char → Bool} {netloc : List Char}
    (h : checkNetloc ipv6 netloc = .ok ()) :
    ('[' ∈ netloc ↔ ']' ∈ netloc) ∧ ∀ c ∈ netloc, expands c = false := by
  unfold checkNetloc at h
  split at h
  · cases h
  · next hbrackets =>
    have hiff : '[' ∈ netloc ↔ ']' ∈ netloc := by
      constructor
      · exact fun hopen => by_contra fun hclose => hbrackets (Or.inl ⟨hopen, hclose⟩)
      · exact fun hclose => by_contra fun hopen => hbrackets (Or.inr ⟨hclose, hopen⟩)
    refine ⟨hiff, fun c hc => ?_⟩
    split at h
    · cases h
    · split at h
      · cases h
      · next hany =>
        rw [← Bool.not_eq_true]
        exact fun hexpands => hany (List.any_eq_true.mpr ⟨c, hc, hexpands⟩)

lemma checkNetloc_plain (ipv6 : List Char → Bool) {netloc : List Char} (hopen : '[' ∉ netloc)
    (hclose : ']' ∉ netloc) (h : ∀ c ∈ netloc, expands c = false) :
    checkNetloc ipv6 netloc = .ok () := by
  have hany : netloc.any expands = false := List.any_eq_false.mpr fun c hc => by
    rw [h c hc]
    simp
  unfold checkNetloc
  rw [if_neg (fun hor => hor.elim (fun h => hopen h.1) fun h => hclose h.1), if_neg hopen, hany]
  rfl

end Lib.UrlSplit
