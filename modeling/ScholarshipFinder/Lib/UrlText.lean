import ScholarshipFinder.Lib.UrlSplit

/-!
# The text of a URL by its parts

A URL is written as a scheme, who asks, a host, a port and the segments of a path, with a query or
a fragment behind them.  `urlsplit` reads the parts back out of the text, each where it was
written.
-/

namespace Lib

open UrlSplit

/-! ## Who asks -/

namespace UrlSplit

/-- The text before the last `c`: `s.rpartition(c)[0]`. -/
def beforeLast (c : Char) (s : List Char) : List Char := (s.rdropWhile (· ≠ c)).dropLast

/-- `_userinfo`: the user and the password of a network location. -/
def userinfo (netloc : List Char) : Option (List Char × Option (List Char)) :=
  if '@' ∈ netloc then
    let info := beforeLast '@' netloc
    some (before ':' info, if ':' ∈ info then some (after ':' info) else none)
  else none

lemma afterLast_append_cons {c : Char} {s : List Char} (h : c ∉ s) (first : List Char) :
    afterLast c (first ++ c :: s) = s := by
  have hs : ∀ d ∈ s.reverse, decide (d ≠ c) = true := fun d hd => by
    rw [decide_eq_true_eq]
    rintro rfl
    exact h (List.mem_reverse.mp hd)
  rw [afterLast, List.rtakeWhile, List.reverse_append, List.reverse_cons, List.append_assoc,
    List.takeWhile_append_of_pos hs, List.singleton_append, List.takeWhile_cons_of_neg (by simp),
    List.append_nil, List.reverse_reverse]

lemma beforeLast_append_cons {c : Char} {s : List Char} (h : c ∉ s) (first : List Char) :
    beforeLast c (first ++ c :: s) = first := by
  have hs : ∀ d ∈ s.reverse, decide (d ≠ c) = true := fun d hd => by
    rw [decide_eq_true_eq]
    rintro rfl
    exact h (List.mem_reverse.mp hd)
  rw [beforeLast, List.rdropWhile, List.reverse_append, List.reverse_cons, List.append_assoc,
    List.dropWhile_append_of_pos hs, List.singleton_append, List.dropWhile_cons_of_neg (by simp),
    List.reverse_cons, List.reverse_reverse, List.dropLast_concat]

end UrlSplit

/-! ## The parts and the text -/

/-- A character that does not part anything in a network location, and is not refused there. -/
def isPlain (c : Char) : Bool :=
  !(isDelimiter c || isUnsafe c || expands c || c ∈ ['@', '[', ']'])

/-- A host: a name, or an address in brackets. -/
inductive UrlHost
  | name (text : List Char)
  | address (text : List Char)

namespace UrlHost

/-- The host without brackets. -/
def bare : UrlHost → List Char
  | name text => text
  | address text => text

/-- The host as it is written. -/
def text : UrlHost → List Char
  | name text => text
  | address text => '[' :: (text ++ [']'])

/-- A name has no colon, and an address is an IPv6 address. -/
def Valid (ipv6 : List Char → Bool) : UrlHost → Prop
  | name text => text ≠ [] ∧ ∀ c ∈ text, isPlain c = true ∧ c ≠ ':'
  | address text =>
    ipv6 text = true ∧ ':' ∈ text ∧ text.head? ≠ some 'v' ∧ ∀ c ∈ text, isPlain c = true

end UrlHost

/-- The parts of a URL with a network location. -/
structure UrlText where
  scheme : List Char
  user : Option (List Char × Option (List Char))
  host : UrlHost
  port : Option (List Char)
  segments : List (List Char)
  tail : List Char

namespace UrlText

/-- The password as it is written. -/
def passwordText : Option (List Char) → List Char
  | none => []
  | some password => ':' :: password

/-- Who asks, as it is written. -/
def userText : Option (List Char × Option (List Char)) → List Char
  | none => []
  | some (user, password) => user ++ (passwordText password ++ ['@'])

/-- The port as it is written. -/
def portText : Option (List Char) → List Char
  | none => []
  | some digits => ':' :: digits

/-- A path as it is written. -/
def pathText (segments : List (List Char)) : List Char := segments.flatMap ('/' :: ·)

variable (u : UrlText)

def netloc : List Char := userText u.user ++ (u.host.text ++ portText u.port)

def text : List Char :=
  u.scheme ++ ':' :: '/' :: '/' :: (u.netloc ++ (pathText u.segments ++ u.tail))

/-- Each part has only characters that may stand in it. -/
structure Valid (ipv6 : List Char → Bool) : Prop where
  schemeHead : u.scheme.head?.any Char.isAlpha = true
  scheme : ∀ c ∈ u.scheme, isSchemeChar c = true
  user : ∀ info ∈ u.user, (∀ c ∈ info.1, isPlain c = true ∧ c ≠ ':') ∧
    ∀ password ∈ info.2, ∀ c ∈ password, isPlain c = true
  host : u.host.Valid ipv6
  port : ∀ digits ∈ u.port, ∀ c ∈ digits, c.isDigit = true
  segments : ∀ segment ∈ u.segments, ∀ c ∈ segment, isDelimiter c = false ∧ isUnsafe c = false
  tailHead : ∀ c ∈ u.tail.head?, c = '?' ∨ c = '#'
  tail : ∀ c ∈ u.tail, isUnsafe c = false

/-! ## The network location -/

variable {u} {ipv6 : List Char → Bool}

lemma isPlain_spec {c : Char} (h : isPlain c = true) : isDelimiter c = false ∧
    isUnsafe c = false ∧ expands c = false ∧ c ≠ '@' ∧ c ≠ '[' ∧ c ≠ ']' := by
  simpa [isPlain, and_assoc] using h

lemma isPlain_of_isDigit {c : Char} (h : c.isDigit = true) : isPlain c = true ∧ c ≠ ':' := by
  have hall : ∀ n < 58, 48 ≤ n → isPlain (Char.ofNat n) = true ∧ Char.ofNat n ≠ ':' := by
    decide +kernel
  have hc : 48 ≤ c.toNat ∧ c.toNat < 58 := by
    simpa [Char.isDigit, UInt32.le_iff_toNat_le, Nat.lt_succ_iff] using h
  have hspec := hall c.toNat hc.2 hc.1
  rwa [Char.ofNat_toNat] at hspec

/-- What follows who asks is plain, but for the brackets of an address. -/
lemma mem_hostport (h : u.Valid ipv6) {c : Char} (hc : c ∈ u.host.text ++ portText u.port) :
    isPlain c = true ∨ c = '[' ∨ c = ']' := by
  have hport : ∀ c ∈ portText u.port, isPlain c = true := by
    intro c hc
    cases hdigits : u.port with
    | none =>
      rw [hdigits] at hc
      cases hc
    | some digits =>
      rw [hdigits] at hc
      rcases List.mem_cons.mp hc with rfl | hc
      · decide
      · exact (isPlain_of_isDigit (h.port digits (by rw [hdigits]; rfl) c hc)).1
  have hhost := h.host
  rcases List.mem_append.mp hc with hc | hc
  · cases hname : u.host with
    | name text =>
      rw [hname] at hc hhost
      exact Or.inl (hhost.2 c hc).1
    | address text =>
      rw [hname] at hc hhost
      rcases List.mem_cons.mp hc with rfl | hc
      · exact Or.inr (Or.inl rfl)
      · rcases List.mem_append.mp hc with hc | hc
        · exact Or.inl (hhost.2.2.2 c hc)
        · exact Or.inr (Or.inr (List.mem_singleton.mp hc))
  · exact Or.inl (hport c hc)

lemma at_notMem_hostport (h : u.Valid ipv6) : '@' ∉ u.host.text ++ portText u.port := by
  intro hmem
  rcases mem_hostport h hmem with hplain | heq | heq
  · exact (isPlain_spec hplain).2.2.2.1 rfl
  · cases heq
  · cases heq

/-- Who asks is plain, but for the at sign and the colon. -/
lemma mem_userText (h : u.Valid ipv6) {c : Char} (hc : c ∈ userText u.user) :
    isPlain c = true ∨ c = '@' := by
  have huser := h.user
  cases hinfo : u.user with
  | none =>
    rw [hinfo] at hc
    cases hc
  | some info =>
    obtain ⟨user, password⟩ := info
    rw [hinfo] at hc huser
    obtain ⟨hname, hpassword⟩ := huser _ rfl
    rcases List.mem_append.mp hc with hc | hc
    · exact Or.inl (hname c hc).1
    · rcases List.mem_append.mp hc with hc | hc
      · cases password with
        | none => cases hc
        | some password =>
          rcases List.mem_cons.mp hc with rfl | hc
          · exact Or.inl (by decide)
          · exact Or.inl (hpassword password rfl c hc)
      · exact Or.inr (List.mem_singleton.mp hc)

/-- The last at sign, if there is one, stands behind who asks. -/
lemma netloc_eq (u : UrlText) : (u.user = none ∧ u.netloc = u.host.text ++ portText u.port) ∨
    ∃ user password, u.user = some (user, password) ∧
      u.netloc = (user ++ passwordText password) ++ '@' :: (u.host.text ++ portText u.port) := by
  cases hinfo : u.user with
  | none => exact Or.inl ⟨rfl, by rw [netloc, hinfo]; rfl⟩
  | some info =>
    obtain ⟨user, password⟩ := info
    exact Or.inr ⟨user, password, rfl, by rw [netloc, hinfo]; simp [userText]⟩

lemma afterLast_netloc (h : u.Valid ipv6) :
    afterLast '@' u.netloc = u.host.text ++ portText u.port := by
  rcases netloc_eq u with ⟨-, hnetloc⟩ | ⟨user, password, -, hnetloc⟩
  · rw [hnetloc, afterLast_eq_self (at_notMem_hostport h)]
  · rw [hnetloc, afterLast_append_cons (at_notMem_hostport h)]

/-- Who asks is read back. -/
theorem userinfo_netloc (h : u.Valid ipv6) : userinfo u.netloc = u.user := by
  rcases netloc_eq u with ⟨hnone, hnetloc⟩ | ⟨user, password, hinfo, hnetloc⟩
  · rw [userinfo, hnetloc, if_neg (at_notMem_hostport h), hnone]
  · have hcolon : ':' ∉ user := fun hmem => ((h.user _ hinfo).1 _ hmem).2 rfl
    rw [userinfo, hnetloc, if_pos (by simp), beforeLast_append_cons (at_notMem_hostport h), hinfo]
    cases password with
    | none => simp [passwordText, before_eq_self hcolon, hcolon]
    | some password =>
      simp [passwordText, before_append_cons hcolon, after_append_cons hcolon]

/-- The host and the port are read back. -/
theorem hostinfo_netloc (h : u.Valid ipv6) :
    hostinfo u.netloc = (u.host.bare, u.port.getD []) := by
  have hport : after ':' (portText u.port) = u.port.getD [] := by
    cases u.port with
    | none => rfl
    | some digits => exact after_append_cons List.not_mem_nil digits
  have hhost := h.host
  rw [hostinfo, afterLast_netloc h]
  cases hname : u.host with
  | name text =>
    rw [hname] at hhost
    have hopen : '[' ∉ text ++ portText u.port := by
      intro hmem
      rcases List.mem_append.mp hmem with hmem | hmem
      · exact (isPlain_spec (hhost.2 _ hmem).1).2.2.2.2.1 rfl
      · cases hdigits : u.port with
        | none =>
          rw [hdigits] at hmem
          cases hmem
        | some digits =>
          rw [hdigits] at hmem
          rcases List.mem_cons.mp hmem with heq | hmem
          · cases heq
          · exact absurd (h.port digits hdigits _ hmem) (by decide)
    have hcolon : ':' ∉ text := fun hmem => (hhost.2 _ hmem).2 rfl
    rw [UrlHost.text, if_neg hopen, UrlHost.bare]
    cases hdigits : u.port with
    | none =>
      rw [portText, List.append_nil, before_eq_self hcolon, after_eq_nil hcolon]
      rfl
    | some digits =>
      rw [portText, before_append_cons hcolon, after_append_cons hcolon]
      rfl
  | address text =>
    rw [hname] at hhost
    have hclose : ']' ∉ text := fun hmem => (isPlain_spec (hhost.2.2.2 _ hmem)).2.2.2.2.2 rfl
    have hinfo : UrlHost.text (.address text) ++ portText u.port =
        [] ++ '[' :: (text ++ ']' :: portText u.port) := by
      simp [UrlHost.text]
    rw [hinfo, if_pos (by simp), after_append_cons List.not_mem_nil, before_append_cons hclose,
      after_append_cons hclose, hport, UrlHost.bare]

/-- The network location passes. -/
theorem checkNetloc_netloc (h : u.Valid ipv6) : checkNetloc ipv6 u.netloc = .ok () := by
  have hexpands : u.netloc.any expands = false := by
    refine List.any_eq_false.mpr fun c hc => ?_
    rw [Bool.not_eq_true]
    rcases List.mem_append.mp hc with hc | hc
    · rcases mem_userText h hc with hplain | rfl
      · exact (isPlain_spec hplain).2.2.1
      · decide
    · rcases mem_hostport h hc with hplain | rfl | rfl
      · exact (isPlain_spec hplain).2.2.1
      · decide
      · decide
  have huser : ∀ c, c = '[' ∨ c = ']' → c ∉ userText u.user := by
    intro c hc hmem
    rcases mem_userText h hmem with hplain | rfl
    · obtain ⟨-, -, -, -, hopen, hclose⟩ := isPlain_spec hplain
      exact hc.elim hopen hclose
    · rcases hc with hc | hc <;> cases hc
  have hport : ∀ c, c = '[' ∨ c = ']' → c ∉ portText u.port := by
    intro c hc hmem
    cases hdigits : u.port with
    | none =>
      rw [hdigits] at hmem
      cases hmem
    | some digits =>
      rw [hdigits] at hmem
      rcases List.mem_cons.mp hmem with rfl | hmem
      · rcases hc with hc | hc <;> cases hc
      · have hdigit := h.port digits hdigits c hmem
        rcases hc with rfl | rfl <;> exact absurd hdigit (by decide)
  have hhost := h.host
  cases hname : u.host with
  | name text =>
    rw [hname] at hhost
    have hplain : ∀ c, c = '[' ∨ c = ']' → c ∉ u.netloc := by
      intro c hc hmem
      rw [netloc, hname] at hmem
      rcases List.mem_append.mp hmem with hmem | hmem
      · exact huser c hc hmem
      · rcases List.mem_append.mp hmem with hmem | hmem
        · obtain ⟨-, -, -, -, hopen, hclose⟩ := isPlain_spec (hhost.2 c hmem).1
          exact hc.elim hopen hclose
        · exact hport c hc hmem
    exact checkNetloc_plain ipv6 (hplain '[' (Or.inl rfl)) (hplain ']' (Or.inr rfl))
      fun c hc => by simpa using List.any_eq_false.mp hexpands c hc
  | address text =>
    rw [hname] at hhost
    obtain ⟨hipv6, -, hhead, htext⟩ := hhost
    have hclose : ']' ∉ text := fun hmem => (isPlain_spec (htext _ hmem)).2.2.2.2.2 rfl
    have hopenMem : '[' ∈ u.netloc := by simp [netloc, hname, UrlHost.text]
    have hcloseMem : ']' ∈ u.netloc := by simp [netloc, hname, UrlHost.text]
    have hinfo : afterLast '@' u.netloc = [] ++ '[' :: (text ++ ']' :: portText u.port) := by
      rw [afterLast_netloc h, hname]
      simp [UrlHost.text]
    have hcolon : portText u.port ≠ [] → (portText u.port).head? = some ':' := by
      cases u.port with
      | none => exact fun hne => absurd rfl hne
      | some digits => exact fun _ => rfl
    have hbracketed : checkBracketedNetloc ipv6 u.netloc = .ok () := by
      rw [checkBracketedNetloc, hinfo, if_pos (by simp), before_append_cons List.not_mem_nil,
        after_append_cons List.not_mem_nil]
      dsimp only
      rw [before_append_cons hclose, after_append_cons hclose, if_neg (by simp), if_neg fun hand => hand.2 (hcolon hand.1), checkBracketedHost,
        if_neg hhead, if_pos hipv6]
    rw [checkNetloc, if_neg (fun hor => hor.elim (fun hand => hand.2 hcloseMem)
      fun hand => hand.2 hopenMem), if_pos hopenMem, hbracketed, hexpands]
    rfl

/-! ## The text -/

lemma isSchemeChar_spec {c : Char} (h : isSchemeChar c = true) :
    c ≠ ':' ∧ isUnsafe c = false ∧ isControlOrSpace c = false := by
  have hcontrol : ∀ n ≤ 0x20, isSchemeChar (Char.ofNat n) = false := by decide +kernel
  refine ⟨?_, ?_, ?_⟩
  · rintro rfl
    exact absurd h (by decide)
  · rw [← Bool.not_eq_true, isUnsafe, decide_eq_true_eq]
    intro hc
    simp only [List.mem_cons, List.not_mem_nil, or_false] at hc
    rcases hc with rfl | rfl | rfl <;> exact absurd h (by decide)
  · rw [← Bool.not_eq_true, isControlOrSpace, decide_eq_true_eq]
    intro hc
    have hnot := hcontrol c.toNat hc
    rw [Char.ofNat_toNat, h] at hnot
    cases hnot

lemma splitScheme_text (h : u.Valid ipv6) (rest : List Char) :
    splitScheme (u.scheme ++ ':' :: rest) = (u.scheme.map Char.toLower, rest) := by
  have hcolon : ':' ∉ u.scheme := fun hmem => (isSchemeChar_spec (h.scheme _ hmem)).1 rfl
  have hall : u.scheme.all isSchemeChar = true := List.all_eq_true.mpr h.scheme
  rw [splitScheme, before_append_cons hcolon, after_append_cons hcolon]
  simp only [List.mem_append, List.mem_cons, true_or, or_true, h.schemeHead, hall, and_self,
    if_true]

lemma mem_netloc (h : u.Valid ipv6) {c : Char} (hc : c ∈ u.netloc) :
    isDelimiter c = false ∧ isUnsafe c = false := by
  rcases List.mem_append.mp hc with hc | hc
  · rcases mem_userText h hc with hplain | rfl
    · exact ⟨(isPlain_spec hplain).1, (isPlain_spec hplain).2.1⟩
    · decide
  · rcases mem_hostport h hc with hplain | rfl | rfl
    · exact ⟨(isPlain_spec hplain).1, (isPlain_spec hplain).2.1⟩
    · decide
    · decide

lemma mem_pathText (h : u.Valid ipv6) {c : Char} (hc : c ∈ pathText u.segments) :
    c ≠ '?' ∧ c ≠ '#' ∧ isUnsafe c = false := by
  obtain ⟨segment, hsegment, hc⟩ := List.mem_flatMap.mp hc
  rcases List.mem_cons.mp hc with rfl | hc
  · decide
  · obtain ⟨hdelimiter, hsafe⟩ := h.segments segment hsegment c hc
    refine ⟨?_, ?_, hsafe⟩
    · rintro rfl
      cases hdelimiter
    · rintro rfl
      cases hdelimiter

/-- Nothing is taken off the text. -/
lemma text_kept (h : u.Valid ipv6) :
    (u.text.dropWhile isControlOrSpace).filter (fun c => !isUnsafe c) = u.text := by
  have hfirst : u.text.dropWhile isControlOrSpace = u.text := by
    have halpha := h.schemeHead
    rw [text]
    cases hscheme : u.scheme with
    | nil =>
      rw [hscheme] at halpha
      cases halpha
    | cons c scheme =>
      have hc : c ∈ u.scheme := by
        rw [hscheme]
        exact List.mem_cons_self
      have hcontrol := (isSchemeChar_spec (h.scheme c hc)).2.2
      exact List.dropWhile_cons_of_neg (by simp [hcontrol])
  have hsafe : ∀ c ∈ u.text, (!isUnsafe c) = true := by
    intro c hc
    rw [Bool.not_eq_true']
    simp only [text, List.mem_append, List.mem_cons] at hc
    rcases hc with hc | rfl | rfl | rfl | hc | hc | hc
    · exact (isSchemeChar_spec (h.scheme c hc)).2.1
    · rfl
    · rfl
    · rfl
    · exact (mem_netloc h hc).2
    · exact (mem_pathText h hc).2.2
    · exact h.tail c hc
  rw [hfirst, List.filter_eq_self.mpr hsafe]

/-- The network location ends where the path, or what comes behind it, begins. -/
lemma netloc_ends (h : u.Valid ipv6) :
    (u.netloc ++ (pathText u.segments ++ u.tail)).takeWhile (!isDelimiter ·) = u.netloc ∧
      (u.netloc ++ (pathText u.segments ++ u.tail)).dropWhile (!isDelimiter ·) =
        pathText u.segments ++ u.tail := by
  have hpos : ∀ c ∈ u.netloc, (!isDelimiter c) = true := fun c hc => by
    rw [(mem_netloc h hc).1]
    rfl
  have hrest : ∀ c ∈ (pathText u.segments ++ u.tail).head?, isDelimiter c = true := by
    intro c hc
    cases hsegments : u.segments with
    | nil =>
      rw [hsegments] at hc
      rcases h.tailHead c hc with rfl | rfl <;> rfl
    | cons segment segments =>
      rw [hsegments] at hc
      obtain rfl := Option.some.inj hc
      rfl
  rw [List.takeWhile_append_of_pos hpos, List.dropWhile_append_of_pos hpos]
  cases hcons : pathText u.segments ++ u.tail with
  | nil => simp
  | cons c rest =>
    rw [hcons] at hrest
    have hc := hrest c rfl
    rw [List.takeWhile_cons_of_neg (by simp [hc]), List.dropWhile_cons_of_neg (by simp [hc]),
      List.append_nil]
    exact ⟨rfl, rfl⟩

/-- The path ends where a query or a fragment begins. -/
lemma before_tail (h : u.Valid ipv6) :
    before '?' (before '#' (pathText u.segments ++ u.tail)) = pathText u.segments := by
  have hmark : '?' ∉ pathText u.segments := fun hmem => (mem_pathText h hmem).1 rfl
  have hhash : '#' ∉ pathText u.segments := fun hmem => (mem_pathText h hmem).2.1 rfl
  cases htail : u.tail with
  | nil => rw [List.append_nil, before_eq_self hhash, before_eq_self hmark]
  | cons c rest =>
    rcases h.tailHead c (by rw [htail]; rfl) with rfl | rfl
    · have hquery : before '#' (pathText u.segments ++ '?' :: rest) =
          pathText u.segments ++ '?' :: before '#' rest := by
        have hpos : ∀ d ∈ pathText u.segments ++ ['?'], decide (d ≠ '#') = true := by
          intro d hd
          rw [decide_eq_true_eq]
          rintro rfl
          rcases List.mem_append.mp hd with hd | hd
          · exact hhash hd
          · cases List.mem_singleton.mp hd
        rw [List.append_cons, before, List.takeWhile_append_of_pos hpos, ← List.append_cons]
        rfl
      rw [hquery, before_append_cons hmark]
    · rw [before_append_cons hhash, before_eq_self hmark]

/-- The parts are read out of the text. -/
theorem split_text (h : u.Valid ipv6) : ∃ query fragment, split ipv6 u.text =
    .ok ⟨u.scheme.map Char.toLower, u.netloc, pathText u.segments, query, fragment⟩ := by
  obtain ⟨htake, hdrop⟩ := netloc_ends h
  unfold split
  rw [text_kept h, text]
  dsimp only
  rw [splitScheme_text h]
  simp only [List.take_succ_cons, List.take_zero, if_true, List.drop_succ_cons, List.drop_zero,
    htake, hdrop, checkNetloc_netloc h, Except.map, splitRest, before_tail h]
  exact ⟨_, _, rfl⟩

/-! ## Paths -/

lemma pathText_cons (segment : List Char) (segments : List (List Char)) :
    pathText (segment :: segments) = '/' :: (segment ++ pathText segments) := rfl

lemma pathText_append (first second : List (List Char)) :
    pathText (first ++ second) = pathText first ++ pathText second := List.flatMap_append

/-- The segments without an empty one at the end: those of the path without a slash at the end. -/
def whole (segments : List (List Char)) : List (List Char) :=
  if segments.getLast? = some [] then segments.dropLast else segments

lemma mem_whole {segments : List (List Char)} {segment : List Char}
    (h : segment ∈ whole segments) : segment ∈ segments := by
  rw [whole] at h
  split at h
  · exact List.mem_of_mem_dropLast h
  · exact h

lemma pathText_slash (segments : List (List Char)) :
    ∃ rest, pathText (segments ++ [[]]) = '/' :: rest := by
  cases segments with
  | nil => exact ⟨[], rfl⟩
  | cons segment segments => exact ⟨_, rfl⟩

/-- One path with a slash at the end is the beginning of another exactly if its segments are. -/
theorem pathText_prefix {first second : List (List Char)}
    (hfirst : ∀ segment ∈ first, '/' ∉ segment) (hsecond : ∀ segment ∈ second, '/' ∉ segment) :
    pathText (first ++ [[]]) <+: pathText (second ++ [[]]) ↔ first <+: second := by
  induction first generalizing second with
  | nil =>
    refine iff_of_true ?_ List.nil_prefix
    obtain ⟨rest, hrest⟩ := pathText_slash second
    rw [hrest]
    exact List.cons_prefix_cons.mpr ⟨rfl, List.nil_prefix⟩
  | cons segment first ih =>
    obtain ⟨hsegment, hfirst⟩ := List.forall_mem_cons.mp hfirst
    obtain ⟨rest, hrest⟩ := pathText_slash first
    cases second with
    | nil =>
      refine iff_of_false (fun h => ?_) fun h => List.cons_ne_nil _ _ (List.prefix_nil.mp h)
      have hslash : pathText ([] ++ [[]]) = ['/'] := rfl
      rw [hslash, List.cons_append, pathText_cons, hrest, List.cons_prefix_cons,
        List.prefix_nil] at h
      exact List.append_ne_nil_of_right_ne_nil _ (List.cons_ne_nil _ _) h.2
    | cons other second =>
      obtain ⟨hother, hsecond⟩ := List.forall_mem_cons.mp hsecond
      obtain ⟨more, hmore⟩ := pathText_slash second
      rw [List.cons_append, List.cons_append, pathText_cons, pathText_cons,
        List.cons_prefix_cons, List.cons_prefix_cons, ← ih hfirst hsecond]
      simp only [true_and]
      constructor
      · intro h
        -- Both texts up to their first slash are the first segments.
        have hsame : segment = other := by
          obtain ⟨tail, htail⟩ := h
          rw [hrest, hmore, List.append_assoc, List.cons_append] at htail
          have hbefore := congrArg (before '/') htail
          rwa [before_append_cons hsegment, before_append_cons hother] at hbefore
        subst hsame
        exact ⟨rfl, (List.prefix_append_right_inj segment).mp h⟩
      · rintro ⟨rfl, h⟩
        exact (List.prefix_append_right_inj segment).mpr h

/-- A path with a slash put behind it, unless it has one. -/
lemma pathText_whole {segments : List (List Char)} (h : ∀ segment ∈ segments, '/' ∉ segment) :
    pathText (whole segments ++ [[]]) =
      if (pathText segments).getLast? = some '/' then pathText segments
      else pathText segments ++ ['/'] := by
  rcases List.eq_nil_or_concat' segments with rfl | ⟨first, last, rfl⟩
  · rfl
  · have hlast : pathText (first ++ [last]) = pathText first ++ '/' :: last := by
      rw [pathText_append, pathText_cons]
      simp [pathText]
    cases last with
    | nil =>
      have hwhole : whole (first ++ [[]]) = first := by
        rw [whole, List.getLast?_concat, if_pos rfl, List.dropLast_concat]
      have hslash : (pathText (first ++ [[]])).getLast? = some '/' := by
        rw [hlast, List.getLast?_concat]
      rw [hwhole, if_pos hslash]
    | cons c last =>
      have hwhole : whole (first ++ [c :: last]) = first ++ [c :: last] := by
        rw [whole, List.getLast?_concat, if_neg (by simp)]
      have hslash : (pathText (first ++ [c :: last])).getLast? ≠ some '/' := by
        intro hslash
        rw [hlast, List.getLast?_append_of_ne_nil _ (by simp), List.getLast?_cons_cons] at hslash
        exact h _ (by simp) (List.mem_of_getLast? hslash)
      have hend : pathText [[]] = ['/'] := rfl
      rw [hwhole, if_neg hslash, pathText_append, hend]

end UrlText

end Lib
