import Mathlib

/-!
# Patterns with backtracking

Regular expressions over characters, read as a backtracking matcher reads them: a pattern
answers, in the order in which it would try them, the places where a match that starts at a
given place can end.  The first of them is the match.  A place remembers the text before it, so
that a word boundary can look back.
-/

namespace Lib

/-- A pattern.  Repetition is of single characters. -/
inductive Pattern
  /-- the empty text -/
  | empty
  /-- one character of a class -/
  | char (p : Char → Bool)
  | seq (a b : Pattern)
  /-- the first alternative is tried first -/
  | alt (a b : Pattern)
  /-- as many characters of a class as possible, then fewer -/
  | many (p : Char → Bool)
  /-- the edge of a word made of the given characters -/
  | boundary (word : Char → Bool)

/-- A place in a text: what is before it, the last character first, and what is after it. -/
structure Place where
  before : List Char
  after : List Char
deriving DecidableEq, Repr

namespace Pattern

/-- At most one. -/
def opt (a : Pattern) : Pattern := alt a empty

/-- At least one character of a class. -/
def many1 (p : Char → Bool) : Pattern := seq (char p) (many p)

/-- `n` characters of a class. -/
def times (p : Char → Bool) : ℕ → Pattern
  | 0 => empty
  | n + 1 => seq (char p) (times p n)

/-- The characters of a text, one after the other, each compared by `eq`. -/
def text (eq : Char → Char → Bool) : List Char → Pattern
  | [] => empty
  | c :: cs => seq (char (eq c)) (text eq cs)

/-- One of several patterns. -/
def oneOf : List Pattern → Pattern
  | [] => char fun _ => false
  | [a] => a
  | a :: as => alt a (oneOf as)

/-- The places that a run of characters can reach, the farthest first. -/
def reach (p : Char → Bool) (before : List Char) : List Char → List Place
  | [] => [⟨before, []⟩]
  | c :: cs => (if p c then reach p (c :: before) cs else []) ++ [⟨before, c :: cs⟩]

/-- Where a match that starts here can end. -/
def ends : Pattern → Place → List Place
  | empty, s => [s]
  | char p, s =>
    match s.after with
    | [] => []
    | c :: cs => if p c then [⟨c :: s.before, cs⟩] else []
  | seq a b, s => (a.ends s).flatMap b.ends
  | alt a b, s => a.ends s ++ b.ends s
  | many p, s => reach p s.before s.after
  | boundary word, s =>
    if s.before.head?.any word ≠ s.after.head?.any word then [s] else []

/-- The characters between two places of one text. -/
def between (s t : Place) : List Char := s.after.take (s.after.length - t.after.length)

/-- The match that starts here, if there is one. -/
def matchAt (a : Pattern) (s : Place) : Option (List Char) := (a.ends s).head?.map (between s)

/-- Patterns one after the other: the text that each of them matches, and the end. -/
def groups : List Pattern → Place → List (List (List Char) × Place)
  | [], s => [([], s)]
  | a :: as, s => (a.ends s).flatMap fun t =>
      (groups as t).map fun found => (between s t :: found.1, found.2)

/-- `re.fullmatch`, with a group for each of the patterns. -/
def fullGroups (as : List Pattern) (cs : List Char) : Option (List (List Char)) :=
  ((groups as ⟨[], cs⟩).find? fun found => found.2.after.isEmpty).map Prod.fst

/-- The matches of a text from left to right, from a place on; the next `skip` characters belong
to the match before. -/
def findFrom (a : Pattern) : List Char → ℕ → List Char → List (List Char)
  | _, _, [] => []
  | before, skip + 1, c :: cs => findFrom a (c :: before) skip cs
  | before, 0, c :: cs =>
    match a.matchAt ⟨before, c :: cs⟩ with
    | none => findFrom a (c :: before) 0 cs
    | some found => found :: findFrom a (c :: before) (found.length - 1) cs

/-- `re.findall` of a pattern that does not match the empty text. -/
def findAll (a : Pattern) (cs : List Char) : List (List Char) := findFrom a [] 0 cs

/-- `re.search` of a pattern that does not match the empty text. -/
def occurs (a : Pattern) (cs : List Char) : Bool := !(findAll a cs).isEmpty

/-- The text with each match replaced, from a place on. -/
def replaceFrom (a : Pattern) (f : List Char → List Char) :
    List Char → ℕ → List Char → List Char
  | _, _, [] => []
  | before, skip + 1, c :: cs => replaceFrom a f (c :: before) skip cs
  | before, 0, c :: cs =>
    match a.matchAt ⟨before, c :: cs⟩ with
    | none => c :: replaceFrom a f (c :: before) 0 cs
    | some found => f found ++ replaceFrom a f (c :: before) (found.length - 1) cs

/-- `re.sub` of a pattern that does not match the empty text. -/
def replaceAll (a : Pattern) (f : List Char → List Char) (cs : List Char) : List Char :=
  replaceFrom a f [] 0 cs

/-! ## A match is a part of the text -/

/-- Two places of one text, the second not before the first. -/
def Reaches (s t : Place) : Prop :=
  ∃ part, s.after = part ++ t.after ∧ t.before = part.reverse ++ s.before

lemma Reaches.refl (s : Place) : Reaches s s := ⟨[], rfl, rfl⟩

lemma Reaches.trans {s t u : Place} (hst : Reaches s t) (htu : Reaches t u) : Reaches s u := by
  obtain ⟨p, hp, hp'⟩ := hst
  obtain ⟨q, hq, hq'⟩ := htu
  refine ⟨p ++ q, ?_, ?_⟩
  · rw [hp, hq, List.append_assoc]
  · rw [hq', hp', List.reverse_append, List.append_assoc]

/-- Between two such places stands the rest of the one without the rest of the other. -/
lemma Reaches.after_eq {s t : Place} (h : Reaches s t) :
    s.after = between s t ++ t.after := by
  obtain ⟨part, hpart, -⟩ := h
  have hlen : s.after.length - t.after.length = part.length := by
    rw [hpart, List.length_append, Nat.add_sub_cancel]
  rw [between, hlen, hpart, List.take_left]

lemma reach_reaches {p : Char → Bool} {before cs : List Char} {t : Place}
    (h : t ∈ reach p before cs) : Reaches ⟨before, cs⟩ t := by
  induction cs generalizing before with
  | nil =>
    rw [reach, List.mem_singleton] at h
    rw [h]
    exact Reaches.refl _
  | cons c cs ih =>
    rw [reach, List.mem_append, List.mem_singleton] at h
    rcases h with h | rfl
    · split at h
      · exact Reaches.trans ⟨[c], rfl, rfl⟩ (ih h)
      · exact absurd h List.not_mem_nil
    · exact Reaches.refl _

/-- A match ends in the text it starts in. -/
theorem ends_reaches {a : Pattern} {s t : Place} (h : t ∈ a.ends s) : Reaches s t := by
  induction a generalizing s t with
  | empty =>
    rw [ends, List.mem_singleton] at h
    exact h ▸ Reaches.refl s
  | char p =>
    obtain ⟨before, after⟩ := s
    cases after with
    | nil => exact absurd h List.not_mem_nil
    | cons c cs =>
      simp only [ends] at h
      split at h
      · rw [List.mem_singleton] at h
        exact ⟨[c], by rw [h]; rfl, by rw [h]; rfl⟩
      · exact absurd h List.not_mem_nil
  | seq a b iha ihb =>
    rw [ends, List.mem_flatMap] at h
    obtain ⟨u, hu, ht⟩ := h
    exact (iha hu).trans (ihb ht)
  | alt a b iha ihb =>
    rw [ends, List.mem_append] at h
    rcases h with h | h
    · exact iha h
    · exact ihb h
  | many p => exact reach_reaches h
  | boundary word =>
    simp only [ends] at h
    split at h
    · rw [List.mem_singleton] at h
      exact h ▸ Reaches.refl s
    · exact absurd h List.not_mem_nil

/-- The match at a place is what the text goes on with. -/
lemma matchAt_prefixes {a : Pattern} {s : Place} {found : List Char}
    (h : a.matchAt s = some found) : found <+: s.after := by
  rw [matchAt, Option.map_eq_some_iff] at h
  obtain ⟨t, ht, rfl⟩ := h
  have hmem : t ∈ a.ends s := List.mem_of_mem_head? (by rw [ht]; rfl)
  exact ⟨t.after, (ends_reaches hmem).after_eq.symm⟩

lemma findFrom_infix {a : Pattern} {before cs : List Char} {skip : ℕ} {found : List Char}
    (h : found ∈ findFrom a before skip cs) : found <:+: cs := by
  induction cs generalizing before skip with
  | nil => simp [findFrom] at h
  | cons c cs ih =>
    have htail : ∀ {before' : List Char} {skip' : ℕ}, found ∈ findFrom a before' skip' cs →
        found <:+: c :: cs := fun h => (ih h).trans (List.suffix_cons c cs).isInfix
    cases skip with
    | succ skip => exact htail h
    | zero =>
      rw [findFrom] at h
      split at h
      · exact htail h
      · next first hfirst =>
        rcases List.mem_cons.mp h with rfl | h
        · exact (matchAt_prefixes hfirst).isInfix
        · exact htail h

/-- What `findAll` finds stands in the text. -/
theorem findAll_infix {a : Pattern} {cs found : List Char} (h : found ∈ findAll a cs) :
    found <:+: cs :=
  findFrom_infix h

/-! ## Runs of one class -/

variable {p : Char → Bool}

/-- A run of characters of the class is reached to its end. -/
lemma reach_head {before cs : List Char} (h : ∀ c ∈ cs, p c = true) :
    (reach p before cs).head? = some ⟨cs.reverse ++ before, []⟩ := by
  induction cs generalizing before with
  | nil => rfl
  | cons c cs ih =>
    have hrest := @ih (c :: before) fun d hd => h d (List.mem_cons_of_mem c hd)
    rw [reach, if_pos (h c List.mem_cons_self), List.head?_append, hrest, Option.some_or,
      List.reverse_cons, List.append_assoc]
    rfl

lemma matchAt_many1_all {before cs : List Char} {c : Char} (h : ∀ d ∈ c :: cs, p d = true) :
    (many1 p).matchAt ⟨before, c :: cs⟩ = some (c :: cs) := by
  have hends : (many1 p).ends ⟨before, c :: cs⟩ = reach p (c :: before) cs := by
    simp only [many1, ends, if_pos (h c List.mem_cons_self), List.flatMap_cons, List.flatMap_nil,
      List.append_nil]
  rw [matchAt, hends, reach_head fun d hd => h d (List.mem_cons_of_mem c hd), Option.map_some,
    between, List.length_nil, Nat.sub_zero, List.take_length]

lemma matchAt_many1_none {before cs : List Char} {c : Char} (h : p c = false) :
    (many1 p).matchAt ⟨before, c :: cs⟩ = none := by
  have hends : (many1 p).ends ⟨before, c :: cs⟩ = [] := by
    simp only [many1, ends, h, Bool.false_eq_true, if_false, List.flatMap_nil]
  rw [matchAt, hends]
  rfl

/-- What belongs to the match before is skipped. -/
lemma findFrom_skip {a : Pattern} {before cs : List Char} {k : ℕ} (h : cs.length ≤ k) :
    findFrom a before k cs = [] := by
  induction cs generalizing before k with
  | nil => rw [findFrom]
  | cons c cs ih =>
    obtain ⟨k, rfl⟩ : ∃ j, k = j + 1 := ⟨k - 1, by rw [List.length_cons] at h; omega⟩
    rw [findFrom]
    exact ih (by rw [List.length_cons] at h; omega)

/-- A word is found as a whole. -/
lemma findFrom_word {before cs : List Char} (hne : cs ≠ []) (h : ∀ c ∈ cs, p c = true) :
    findFrom (many1 p) before 0 cs = [cs] := by
  obtain ⟨c, rest, rfl⟩ := List.exists_cons_of_ne_nil hne
  rw [findFrom, matchAt_many1_all h]
  dsimp only
  rw [findFrom_skip (by rw [List.length_cons]; omega)]

/-- A text without the characters stays as it is. -/
lemma replaceAll_none {f : List Char → List Char} {cs : List Char} (h : ∀ c ∈ cs, p c = false) :
    replaceAll (many1 p) f cs = cs := by
  have hfrom : ∀ before, replaceFrom (many1 p) f before 0 cs = cs := by
    induction cs with
    | nil => intro before; rw [replaceFrom]
    | cons c cs ih =>
      intro before
      rw [replaceFrom, matchAt_many1_none (h c List.mem_cons_self)]
      dsimp only
      rw [ih fun d hd => h d (List.mem_cons_of_mem c hd)]
  exact hfrom []

end Pattern

end Lib
