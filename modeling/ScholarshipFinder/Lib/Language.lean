import ScholarshipFinder.Lib.Pattern

/-!
# The language of a pattern

A pattern without boundaries matches the texts of its language and no others, so what a matcher
answers can be read off the language where a text falls into parts in one way only.  Texts that
are made of runs of different classes of characters do.
-/

namespace Lib.Pattern

open List

/-- The texts that a pattern can match. -/
def language : Pattern → Language Char
  | empty => 1
  | char p => {cs | ∃ c, p c = true ∧ cs = [c]}
  | seq a b => a.language * b.language
  | alt a b => a.language + b.language
  | many p => {cs | ∀ c ∈ cs, p c = true}
  | boundary _ => 1

/-- A pattern that does not look back. -/
def Plain : Pattern → Prop
  | seq a b => a.Plain ∧ b.Plain
  | alt a b => a.Plain ∧ b.Plain
  | boundary _ => False
  | _ => True

/-- One text for each of the patterns. -/
abbrev Splits (as : List Pattern) (parts : List (List Char)) : Prop :=
  Forall₂ (fun a part => part ∈ a.language) as parts

variable {p : Char → Bool} {a b : Pattern} {as : List Pattern} {cs part : List Char}

/-! ## Membership -/

@[simp] lemma mem_language_empty : part ∈ empty.language ↔ part = [] := Iff.rfl

@[simp] lemma mem_language_char :
    part ∈ (char p).language ↔ ∃ c, p c = true ∧ part = [c] := Iff.rfl

@[simp] lemma mem_language_seq : part ∈ (seq a b).language ↔
    ∃ first ∈ a.language, ∃ second ∈ b.language, first ++ second = part := Iff.rfl

@[simp] lemma mem_language_alt :
    part ∈ (alt a b).language ↔ part ∈ a.language ∨ part ∈ b.language := Iff.rfl

@[simp] lemma mem_language_many :
    part ∈ (many p).language ↔ ∀ c ∈ part, p c = true := Iff.rfl

@[simp] lemma mem_language_boundary {word : Char → Bool} :
    part ∈ (boundary word).language ↔ part = [] := Iff.rfl

@[simp] lemma mem_language_opt : part ∈ a.opt.language ↔ part ∈ a.language ∨ part = [] := Iff.rfl

@[simp] lemma mem_language_many1 :
    part ∈ (many1 p).language ↔ part ≠ [] ∧ ∀ c ∈ part, p c = true := by
  rw [many1, mem_language_seq]
  constructor
  · rintro ⟨-, ⟨c, hc, rfl⟩, rest, hrest, rfl⟩
    refine ⟨by simp, fun d hd => ?_⟩
    rcases List.mem_cons.mp hd with rfl | hd
    · exact hc
    · exact hrest d hd
  · rintro ⟨hne, hall⟩
    obtain ⟨c, rest, rfl⟩ := List.exists_cons_of_ne_nil hne
    exact ⟨[c], ⟨c, hall c mem_cons_self, rfl⟩, rest,
      fun d hd => hall d (mem_cons_of_mem c hd), rfl⟩

@[simp] lemma mem_language_times {n : ℕ} :
    part ∈ (times p n).language ↔ part.length = n ∧ ∀ c ∈ part, p c = true := by
  induction n generalizing part with
  | zero =>
    rw [times, mem_language_empty, List.length_eq_zero_iff]
    constructor
    · rintro rfl
      exact ⟨rfl, fun c hc => absurd hc not_mem_nil⟩
    · exact fun h => h.1
  | succ n ih =>
    rw [times, mem_language_seq]
    constructor
    · rintro ⟨-, ⟨c, hc, rfl⟩, rest, hrest, rfl⟩
      obtain ⟨hlength, hall⟩ := ih.mp hrest
      exact ⟨by simp [hlength], by simpa using ⟨hc, hall⟩⟩
    · rintro ⟨hlength, hall⟩
      cases part with
      | nil => cases hlength
      | cons c rest =>
        exact ⟨[c], ⟨c, hall c mem_cons_self, rfl⟩, rest,
          ih.mpr ⟨by simpa using hlength, fun d hd => hall d (mem_cons_of_mem c hd)⟩, rfl⟩

@[simp] lemma mem_language_text {eq : Char → Char → Bool} :
    part ∈ (text eq cs).language ↔ Forall₂ (fun c d => eq c d = true) cs part := by
  induction cs generalizing part with
  | nil => rw [text, mem_language_empty, forall₂_nil_left_iff]
  | cons c cs ih =>
    rw [text, mem_language_seq, forall₂_cons_left_iff]
    constructor
    · rintro ⟨-, ⟨d, hd, rfl⟩, rest, hrest, rfl⟩
      exact ⟨d, rest, hd, ih.mp hrest, rfl⟩
    · rintro ⟨d, rest, hd, hrest, rfl⟩
      exact ⟨[d], ⟨d, hd, rfl⟩, rest, ih.mpr hrest, rfl⟩

@[simp] lemma mem_language_oneOf : part ∈ (oneOf as).language ↔ ∃ a ∈ as, part ∈ a.language := by
  induction as with
  | nil =>
    rw [oneOf, mem_language_char]
    simp
  | cons a as ih =>
    cases as with
    | nil => simp [oneOf]
    | cons b as =>
      rw [oneOf.eq_3 a (b :: as) (cons_ne_nil b as), mem_language_alt, ih]
      simp

/-! ## Patterns that do not look back -/

@[simp] lemma plain_many1 : (many1 p).Plain := ⟨trivial, trivial⟩

lemma plain_times {n : ℕ} : (times p n).Plain := by
  induction n with
  | zero => exact trivial
  | succ n ih => exact ⟨trivial, ih⟩

lemma plain_text {eq : Char → Char → Bool} : (text eq cs).Plain := by
  induction cs with
  | nil => exact trivial
  | cons c cs ih => exact ⟨trivial, ih⟩

lemma plain_oneOf (h : ∀ a ∈ as, a.Plain) : (oneOf as).Plain := by
  induction as with
  | nil => exact trivial
  | cons a as ih =>
    cases as with
    | nil => exact h a mem_cons_self
    | cons b as => exact ⟨h a mem_cons_self, ih fun c hc => h c (mem_cons_of_mem a hc)⟩

/-! ## A match is a text of the language -/

/-- What is read on the way from one place to another. -/
def Passes (s : Place) (part : List Char) (t : Place) : Prop :=
  s.after = part ++ t.after ∧ t.before = part.reverse ++ s.before

lemma passes_nil {s t : Place} : Passes s [] t ↔ t = s := by
  obtain ⟨before, after⟩ := s
  obtain ⟨before', after'⟩ := t
  simp only [Passes, nil_append, reverse_nil, Place.mk.injEq]
  exact ⟨fun h => ⟨h.2, h.1.symm⟩, fun h => ⟨h.2.symm, h.1⟩⟩

lemma Passes.trans {s t u : Place} {part part' : List Char} (h : Passes s part t)
    (h' : Passes t part' u) : Passes s (part ++ part') u := by
  refine ⟨?_, ?_⟩
  · rw [h.1, h'.1, append_assoc]
  · rw [h'.2, h.2, reverse_append, append_assoc]

/-- A text that is read in two parts is read with a stop between them. -/
lemma Passes.split {s u : Place} {part part' : List Char} (h : Passes s (part ++ part') u) :
    ∃ t, Passes s part t ∧ Passes t part' u := by
  refine ⟨⟨part.reverse ++ s.before, part' ++ u.after⟩, ⟨?_, rfl⟩, rfl, ?_⟩
  · rw [h.1, append_assoc]
  · rw [h.2, reverse_append, append_assoc]

lemma Passes.between_eq {s t : Place} (h : Passes s part t) : between s t = part := by
  have hreaches : Reaches s t := ⟨part, h⟩
  exact append_cancel_right (hreaches.after_eq.symm.trans h.1)

lemma mem_reach {before : List Char} {t : Place} : t ∈ reach p before cs ↔
    ∃ part, (∀ c ∈ part, p c = true) ∧ Passes ⟨before, cs⟩ part t := by
  induction cs generalizing before with
  | nil =>
    rw [reach, mem_singleton]
    constructor
    · rintro rfl
      exact ⟨[], fun c hc => absurd hc not_mem_nil, passes_nil.mpr rfl⟩
    · rintro ⟨part, -, hpasses⟩
      obtain ⟨rfl, -⟩ := append_eq_nil_iff.mp hpasses.1.symm
      exact passes_nil.mp hpasses
  | cons c cs ih =>
    rw [reach, mem_append, mem_singleton]
    constructor
    · rintro (h | rfl)
      · split at h
        · next hc =>
          obtain ⟨part, hpart, hpasses⟩ := ih.mp h
          refine ⟨c :: part, by simpa using ⟨hc, hpart⟩, ?_⟩
          exact @Passes.trans ⟨before, c :: cs⟩ ⟨c :: before, cs⟩ t [c] part ⟨rfl, rfl⟩ hpasses
        · exact absurd h not_mem_nil
      · exact ⟨[], fun c hc => absurd hc not_mem_nil, passes_nil.mpr rfl⟩
    · rintro ⟨part, hpart, hpasses⟩
      cases part with
      | nil => exact Or.inr (passes_nil.mp hpasses)
      | cons d part =>
        obtain ⟨rfl, -⟩ := List.cons.inj hpasses.1
        refine Or.inl ?_
        rw [if_pos (hpart c mem_cons_self), ih]
        obtain ⟨u, hu, hrest⟩ := @Passes.split ⟨before, c :: cs⟩ t [c] part hpasses
        obtain rfl : u = ⟨c :: before, cs⟩ := by
          obtain ⟨before', after'⟩ := u
          obtain ⟨-, hafter⟩ := List.cons.inj hu.1
          rw [Place.mk.injEq]
          exact ⟨hu.2, hafter.symm⟩
        exact ⟨part, fun e he => hpart e (mem_cons_of_mem c he), hrest⟩

/-- What is matched is in the language. -/
theorem language_of_mem_ends {s t : Place} (h : t ∈ a.ends s) :
    ∃ part ∈ a.language, Passes s part t := by
  induction a generalizing s t with
  | empty =>
    rw [ends, mem_singleton] at h
    exact ⟨[], rfl, passes_nil.mpr h⟩
  | char p =>
    obtain ⟨before, after⟩ := s
    cases after with
    | nil => exact absurd h not_mem_nil
    | cons c cs =>
      simp only [ends] at h
      split at h
      · next hc =>
        rw [mem_singleton] at h
        exact ⟨[c], ⟨c, hc, rfl⟩, by rw [h]; exact ⟨rfl, rfl⟩⟩
      · exact absurd h not_mem_nil
  | seq a b iha ihb =>
    rw [ends, mem_flatMap] at h
    obtain ⟨u, hu, ht⟩ := h
    obtain ⟨first, hfirst, hpasses⟩ := iha hu
    obtain ⟨second, hsecond, hpasses'⟩ := ihb ht
    exact ⟨first ++ second, ⟨first, hfirst, second, hsecond, rfl⟩, hpasses.trans hpasses'⟩
  | alt a b iha ihb =>
    rw [ends, mem_append] at h
    rcases h with h | h
    · obtain ⟨part, hpart, hpasses⟩ := iha h
      exact ⟨part, Or.inl hpart, hpasses⟩
    · obtain ⟨part, hpart, hpasses⟩ := ihb h
      exact ⟨part, Or.inr hpart, hpasses⟩
  | many p => exact mem_reach.mp h
  | boundary word =>
    simp only [ends] at h
    split at h
    · exact ⟨[], rfl, passes_nil.mpr (mem_singleton.mp h)⟩
    · exact absurd h not_mem_nil

/-- A pattern that does not look back matches every text of its language. -/
theorem mem_ends_of_language (ha : a.Plain) {s t : Place} (hpart : part ∈ a.language)
    (h : Passes s part t) : t ∈ a.ends s := by
  induction a generalizing s t part with
  | empty =>
    obtain rfl := mem_language_empty.mp hpart
    rw [ends, mem_singleton]
    exact passes_nil.mp h
  | char p =>
    obtain ⟨c, hc, rfl⟩ := hpart
    obtain ⟨before, after⟩ := s
    obtain ⟨before', after'⟩ := t
    obtain ⟨hafter, hbefore⟩ := h
    simp only [cons_append, nil_append, reverse_singleton] at hafter hbefore
    rw [ends, hafter, hbefore]
    simp [hc]
  | seq a b iha ihb =>
    obtain ⟨first, hfirst, second, hsecond, rfl⟩ := hpart
    obtain ⟨u, hu, ht⟩ := h.split
    rw [ends, mem_flatMap]
    exact ⟨u, iha ha.1 hfirst hu, ihb ha.2 hsecond ht⟩
  | alt a b iha ihb =>
    rw [ends, mem_append]
    rcases hpart with hpart | hpart
    · exact Or.inl (iha ha.1 hpart h)
    · exact Or.inr (ihb ha.2 hpart h)
  | many p => exact mem_reach.mpr ⟨part, hpart, h⟩
  | boundary word => exact ha.elim

lemma language_of_mem_findFrom {found before : List Char} {skip : ℕ}
    (h : found ∈ findFrom a before skip cs) : found ∈ a.language := by
  induction cs generalizing before skip with
  | nil => simp [findFrom] at h
  | cons c cs ih =>
    cases skip with
    | succ skip => exact ih h
    | zero =>
      rw [findFrom] at h
      split at h
      · exact ih h
      · next first hfirst =>
        rcases List.mem_cons.mp h with rfl | h
        · rw [matchAt, Option.map_eq_some_iff] at hfirst
          obtain ⟨t, ht, rfl⟩ := hfirst
          obtain ⟨part, hpart, hpasses⟩ :=
            language_of_mem_ends (mem_of_mem_head? (by rw [ht]; rfl))
          rwa [hpasses.between_eq]
        · exact ih h

/-- What `findAll` finds is in the language. -/
theorem language_of_mem_findAll {found : List Char} (h : found ∈ findAll a cs) :
    found ∈ a.language :=
  language_of_mem_findFrom h

/-! ## Patterns one after the other -/

lemma splits_of_mem_groups {s t : Place} {parts : List (List Char)}
    (h : (parts, t) ∈ groups as s) : Splits as parts ∧ Passes s parts.flatten t := by
  induction as generalizing s parts with
  | nil =>
    rw [groups, mem_singleton, Prod.mk.injEq] at h
    obtain ⟨rfl, rfl⟩ := h
    exact ⟨Forall₂.nil, passes_nil.mpr rfl⟩
  | cons a as ih =>
    rw [groups, mem_flatMap] at h
    obtain ⟨u, hu, h⟩ := h
    obtain ⟨⟨parts', t'⟩, hrest, hpair⟩ := List.mem_map.mp h
    obtain ⟨rfl, rfl⟩ := Prod.mk.inj hpair
    obtain ⟨part, hpart, hpasses⟩ := language_of_mem_ends hu
    obtain ⟨hparts, hpasses'⟩ := ih hrest
    rw [hpasses.between_eq]
    exact ⟨Forall₂.cons hpart hparts, by rw [flatten_cons]; exact hpasses.trans hpasses'⟩

lemma mem_groups_of_splits (ha : ∀ a ∈ as, a.Plain) {s t : Place} {parts : List (List Char)}
    (hparts : Splits as parts) (h : Passes s parts.flatten t) : (parts, t) ∈ groups as s := by
  induction as generalizing s parts with
  | nil =>
    obtain rfl := forall₂_nil_left_iff.mp hparts
    rw [groups, mem_singleton, Prod.mk.injEq]
    exact ⟨rfl, passes_nil.mp h⟩
  | cons a as ih =>
    obtain ⟨part, rest, hpart, hrest, rfl⟩ := forall₂_cons_left_iff.mp hparts
    rw [flatten_cons] at h
    obtain ⟨u, hu, ht⟩ := h.split
    rw [groups, mem_flatMap]
    refine ⟨u, mem_ends_of_language (ha a mem_cons_self) hpart hu, List.mem_map.mpr
      ⟨(rest, t), ih (fun b hb => ha b (mem_cons_of_mem a hb)) hrest ht, ?_⟩⟩
    rw [hu.between_eq]

/-- A text that falls into parts in one way is split so. -/
theorem fullGroups_of_unique (ha : ∀ a ∈ as, a.Plain) {parts : List (List Char)}
    (hparts : Splits as parts) (hcs : parts.flatten = cs)
    (hunique : ∀ parts', Splits as parts' → parts'.flatten = cs → parts' = parts) :
    fullGroups as cs = some parts := by
  have hmem : (parts, (⟨cs.reverse, []⟩ : Place)) ∈ groups as ⟨[], cs⟩ :=
    mem_groups_of_splits ha hparts ⟨by rw [hcs, append_nil], by rw [hcs, append_nil]⟩
  rw [fullGroups]
  cases hfind : (groups as ⟨[], cs⟩).find? fun found => found.2.after.isEmpty with
  | none => exact (List.find?_eq_none.mp hfind _ hmem rfl).elim
  | some found =>
    obtain ⟨parts', t⟩ := found
    obtain ⟨hsplits, hpasses⟩ := splits_of_mem_groups (List.mem_of_find?_eq_some hfind)
    have hend : t.after = [] := by simpa using List.find?_some hfind
    have hflat : cs = parts'.flatten ++ t.after := hpasses.1
    rw [hend, append_nil] at hflat
    rw [Option.map_some, hunique parts' hsplits hflat.symm]

/-- A text that does not fall into parts is not split. -/
theorem fullGroups_eq_none (h : ∀ parts, Splits as parts → parts.flatten ≠ cs) :
    fullGroups as cs = none := by
  rw [fullGroups, Option.map_eq_none_iff, List.find?_eq_none]
  rintro ⟨parts, t⟩ hmem hend
  obtain ⟨hsplits, hpasses⟩ := splits_of_mem_groups hmem
  have hafter : t.after = [] := by simpa using hend
  have hflat : cs = parts.flatten ++ t.after := hpasses.1
  rw [hafter, append_nil] at hflat
  exact h parts hsplits hflat.symm

/-- The last pattern is tried where the others end. -/
lemma groups_concat {s : Place} : groups (as ++ [b]) s = (groups as s).flatMap fun found =>
    (b.ends found.2).map fun t => (found.1 ++ [between found.2 t], t) := by
  induction as generalizing s with
  | nil => simp [groups, List.map_eq_flatMap]
  | cons a as ih =>
    rw [cons_append, groups, groups, flatMap_assoc]
    refine flatMap_congr fun t _ => ?_
    rw [ih, map_flatMap, flatMap_map]
    refine flatMap_congr fun found _ => ?_
    rw [map_map]
    rfl

/-- Where there is one way to begin, the first match goes on from there. -/
lemma head_groups_concat {s t u : Place} {parts : List (List Char)}
    (hmem : (parts, t) ∈ groups as s)
    (hunique : ∀ found ∈ groups as s, found = (parts, t)) (hu : (b.ends t).head? = some u) :
    (groups (as ++ [b]) s).head? = some (parts ++ [between t u], u) := by
  obtain ⟨found, rest, hgroups⟩ := List.exists_cons_of_ne_nil (ne_nil_of_mem hmem)
  obtain rfl := hunique found (by rw [hgroups]; exact mem_cons_self)
  rw [groups_concat, hgroups, flatMap_cons, List.head?_append, List.head?_map, hu]
  rfl

/-- Every text of the pattern begins with a character with the property. -/
def Leads (a : Pattern) (P : Char → Prop) : Prop :=
  ∀ part ∈ a.language, ∃ c rest, part = c :: rest ∧ P c

/-- A text that begins otherwise does not fall into parts. -/
lemma not_splits_of_leads {P : Char → Prop} (ha : Leads a P) (hcs : ∀ c ∈ cs.head?, ¬ P c)
    {parts : List (List Char)} {rest : List Char} (hparts : Splits (a :: as) parts) :
    parts.flatten ++ rest ≠ cs := by
  rintro rfl
  obtain ⟨part, parts, hpart, -, rfl⟩ := forall₂_cons_left_iff.mp hparts
  obtain ⟨c, more, rfl, hc⟩ := ha part hpart
  exact hcs c rfl hc

/-! ## Replacing -/

lemma matchAt_eq_none {s : Place} (h : ∀ part ∈ a.language, ¬ part <+: s.after) :
    a.matchAt s = none := by
  rw [matchAt, Option.map_eq_none_iff, List.head?_eq_none_iff, List.eq_nil_iff_forall_not_mem]
  intro t ht
  obtain ⟨part, hpart, hpasses⟩ := language_of_mem_ends ht
  exact h part hpart ⟨t.after, hpasses.1.symm⟩

lemma matchAt_of_unique (ha : a.Plain) {s : Place} (hpart : part ∈ a.language)
    (hstart : part <+: s.after)
    (hunique : ∀ part' ∈ a.language, part' <+: s.after → part' = part) :
    a.matchAt s = some part := by
  obtain ⟨rest, hrest⟩ := hstart
  have hmem : (⟨part.reverse ++ s.before, rest⟩ : Place) ∈ a.ends s :=
    mem_ends_of_language ha hpart ⟨hrest.symm, rfl⟩
  rw [matchAt]
  cases hhead : (a.ends s).head? with
  | none =>
    rw [List.head?_eq_none_iff] at hhead
    rw [hhead] at hmem
    exact absurd hmem not_mem_nil
  | some t =>
    obtain ⟨part', hpart', hpasses⟩ := language_of_mem_ends (mem_of_mem_head? hhead)
    rw [Option.map_some, hpasses.between_eq,
      hunique part' hpart' ⟨t.after, hpasses.1.symm⟩]

variable {f : List Char → List Char}

lemma replaceFrom_skip {before : List Char} {k : ℕ} : replaceFrom a f before k cs =
    replaceFrom a f ((cs.take k).reverse ++ before) 0 (cs.drop k) := by
  induction cs generalizing before k with
  | nil => simp [replaceFrom]
  | cons c cs ih =>
    cases k with
    | zero => simp
    | succ k =>
      rw [replaceFrom, ih]
      simp

/-- What no match begins with is kept. -/
lemma replaceFrom_keep {before rest : List Char} (h : ∀ s c t, part = s ++ c :: t →
    ∀ found ∈ a.language, ¬ found <+: c :: (t ++ rest)) :
    replaceFrom a f before 0 (part ++ rest) =
      part ++ replaceFrom a f (part.reverse ++ before) 0 rest := by
  induction part generalizing before with
  | nil => rfl
  | cons c part ih =>
    have hnone : a.matchAt ⟨before, c :: (part ++ rest)⟩ = none :=
      matchAt_eq_none (h [] c part rfl)
    rw [cons_append, replaceFrom, hnone]
    dsimp only
    rw [ih fun s d t hpart => h (c :: s) d t (by rw [hpart, cons_append])]
    simp

/-- A match is replaced as a whole. -/
lemma replaceFrom_found (ha : a.Plain) {before rest : List Char} (hne : part ≠ [])
    (hpart : part ∈ a.language)
    (hunique : ∀ part' ∈ a.language, part' <+: part ++ rest → part' = part) :
    replaceFrom a f before 0 (part ++ rest) =
      f part ++ replaceFrom a f (part.reverse ++ before) 0 rest := by
  obtain ⟨c, cs, rfl⟩ := List.exists_cons_of_ne_nil hne
  have hmatch : a.matchAt ⟨before, c :: (cs ++ rest)⟩ = some (c :: cs) :=
    matchAt_of_unique ha hpart (List.prefix_append _ _) hunique
  rw [cons_append, replaceFrom, hmatch]
  dsimp only
  rw [replaceFrom_skip]
  simp

/-! ## Replacing all matches -/

/-- A text around a character is part of one side if it does not have the character. -/
lemma part_of_side {x : Char} {left right : List Char} (hx : x ∉ part)
    (h : part <:+: left ++ x :: right) : part <:+: left ∨ part <:+: right := by
  obtain ⟨s, t, h⟩ := h
  rcases append_eq_append_iff.mp h with ⟨rest, hleft, -⟩ | ⟨rest, hpart, hrest⟩
  · exact Or.inl ⟨s, rest, hleft.symm⟩
  · cases rest with
    | nil =>
      rw [append_nil] at hpart
      exact Or.inl ⟨s, [], by rw [append_nil, hpart]⟩
    | cons y rest =>
      obtain ⟨rfl, hright⟩ := List.cons.inj hrest
      rcases append_eq_append_iff.mp hpart with ⟨before, -, hend⟩ | ⟨before, hs, hend⟩
      · exact absurd (hend ▸ mem_append_right before mem_cons_self) hx
      · cases before with
        | nil => exact absurd (by rw [nil_append] at hend; rw [← hend]; exact mem_cons_self) hx
        | cons y before =>
          obtain ⟨-, hrest⟩ := List.cons.inj hend
          exact Or.inr ⟨before, t, by rw [hright, hrest]; rfl⟩

lemma matchAt_ne_none (ha : a.Plain) {s : Place} (hpart : part ∈ a.language)
    (h : part <+: s.after) : a.matchAt s ≠ none := by
  obtain ⟨rest, hrest⟩ := h
  have hmem : (⟨part.reverse ++ s.before, rest⟩ : Place) ∈ a.ends s :=
    mem_ends_of_language ha hpart ⟨hrest.symm, rfl⟩
  rw [matchAt, ne_eq, Option.map_eq_none_iff, List.head?_eq_none_iff]
  exact ne_nil_of_mem hmem

variable {x y : Char} {middle : List Char}

/-- What stands at the beginning of the new text and is no part of what is put in stood there
before. -/
lemma starts_of_replaceFrom {before : List Char} {k : ℕ} (hx : x ∉ part)
    (h : part <+: replaceFrom a (fun _ => x :: middle) before k cs) : part <+: cs.drop k := by
  induction cs generalizing part before k with
  | nil => simpa [replaceFrom] using h
  | cons c cs ih =>
    cases k with
    | succ k => exact ih hx h
    | zero =>
      cases part with
      | nil => exact nil_prefix
      | cons d part =>
        rw [replaceFrom] at h
        split at h
        · obtain ⟨rfl, hrest⟩ := cons_prefix_cons.mp h
          have hpart : part <+: cs.drop 0 := ih (fun hmem => hx (mem_cons_of_mem d hmem)) hrest
          exact cons_prefix_cons.mpr ⟨rfl, hpart⟩
        · rw [cons_append] at h
          obtain ⟨rfl, -⟩ := cons_prefix_cons.mp h
          exact absurd mem_cons_self hx

/-- If the matches have neither the first nor the last character of what is put in for them, and
are not found between these, then the new text has no match. -/
theorem not_mem_replaceAll (ha : a.Plain) (hne : [] ∉ a.language)
    (hends : ∀ part ∈ a.language, x ∉ part ∧ y ∉ part ∧ ¬ part <:+: middle)
    (hpart : part ∈ a.language) :
    ¬ part <:+: replaceAll a (fun _ => x :: (middle ++ [y])) cs := by
  have hfrom : ∀ cs before k,
      ¬ part <:+: replaceFrom a (fun _ => x :: (middle ++ [y])) before k cs := by
    intro cs
    induction cs with
    | nil =>
      intro before k h
      rw [replaceFrom, infix_nil] at h
      exact hne (h ▸ hpart)
    | cons c cs ih =>
      intro before k
      cases k with
      | succ k => exact ih (c :: before) k
      | zero =>
        obtain ⟨hx, hy, hmiddle⟩ := hends part hpart
        rw [replaceFrom]
        split
        · next hnone =>
          intro h
          rcases infix_cons_iff.mp h with h | h
          · cases part with
            | nil => exact hne hpart
            | cons d part =>
              obtain ⟨rfl, hrest⟩ := cons_prefix_cons.mp h
              have hstarts : part <+: cs.drop 0 :=
                starts_of_replaceFrom (fun hmem => hx (mem_cons_of_mem d hmem)) hrest
              exact matchAt_ne_none ha hpart (cons_prefix_cons.mpr ⟨rfl, hstarts⟩) hnone
          · exact ih (c :: before) 0 h
        · next found hfound =>
          intro h
          rw [cons_append, append_assoc, singleton_append, ← nil_append (x :: _)] at h
          rcases part_of_side hx h with h | h
          · exact hne (infix_nil.mp h ▸ hpart)
          · rcases part_of_side hy h with h | h
            · exact hmiddle h
            · exact ih (c :: before) (found.length - 1) h
  exact hfrom cs [] 0

/-- A text without a match stays as it is. -/
lemma replaceAll_eq_self (h : ∀ part ∈ a.language, ¬ part <:+: cs) : replaceAll a f cs = cs := by
  have hfrom : ∀ before, replaceFrom a f before 0 cs = cs := by
    induction cs with
    | nil => intro before; rw [replaceFrom]
    | cons c cs ih =>
      intro before
      have hnone : a.matchAt ⟨before, c :: cs⟩ = none :=
        matchAt_eq_none fun part hpart hstart => h part hpart hstart.isInfix
      rw [replaceFrom, hnone]
      dsimp only
      rw [ih fun part hpart hrest => h part hpart (hrest.trans (suffix_cons c cs).isInfix)]
  exact hfrom []

/-! ## Texts made of runs -/

/-- A run of a class, and what follows it, are told by the text. -/
lemma run_unique {run run' rest rest' : List Char} (h : run ++ rest = run' ++ rest')
    (hrun : ∀ c ∈ run, p c = true) (hrun' : ∀ c ∈ run', p c = true)
    (hrest : ∀ c ∈ rest.head?, p c = false) (hrest' : ∀ c ∈ rest'.head?, p c = false) :
    run = run' ∧ rest = rest' := by
  have htake : ∀ {run rest : List Char}, (∀ c ∈ run, p c = true) →
      (∀ c ∈ rest.head?, p c = false) → (run ++ rest).takeWhile p = run := by
    intro run rest hrun hrest
    rw [List.takeWhile_append_of_pos hrun]
    cases rest with
    | nil => simp
    | cons c rest =>
      rw [List.takeWhile_cons_of_neg (by simp [hrest c rfl]), append_nil]
  obtain rfl : run = run' := by rw [← htake hrun hrest, h, htake hrun' hrest']
  exact ⟨rfl, append_cancel_left h⟩

end Lib.Pattern
