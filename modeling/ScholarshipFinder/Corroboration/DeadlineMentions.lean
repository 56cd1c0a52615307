import ScholarshipFinder.Corroboration.AmountMentions

/-!
# Deadlines that are found

A mention of a date has the name of a month and a day, in either order, and a year, or is made of
numbers.  `parse_deadline` takes away the suffix of the day and the comma before it reads the rest.
-/

namespace ScholarshipFinder

open Lib Pattern

/-- The name of the `index`-th month, or its abbreviation. -/
def Lists (name : String) (index : ℕ) : Prop :=
  monthNames[index]? = some name ∨ monthAbbreviations[index]? = some name

variable {py : PyText}

/-- White space between the parts of a date. -/
def IsSpaces (py : PyText) (gap : List Char) : Prop := gap ≠ [] ∧ ∀ c ∈ gap, py.isspace c = true

/-- A date with the name of its month: `March 15th, 2026`. -/
structure DateWords (py : PyText) where
  /-- the name that is meant, in lower case -/
  name : String
  index : ℕ
  /-- the name as it is written -/
  month : List Char
  day : List Char
  suffix : List Char
  comma : List Char
  year : List Char
  gap : List Char
  gap' : List Char
  lists : Lists name index
  names : List.Forall₂ (fun c d => py.ignoreCase c d = true) name.toList month
  day_length : day.length = 1 ∨ day.length = 2
  day_digits : ∀ c ∈ day, py.isdigit c = true
  suffix_ordinal : suffix = [] ∨ suffix ∈ (ordinalSuffix py).language
  comma_sign : comma = [] ∨ comma = [',']
  year_length : year.length = 4
  year_digits : ∀ c ∈ year, py.isdigit c = true
  gap_spaces : IsSpaces py gap
  gap'_spaces : IsSpaces py gap'

/-- A date in numbers: `2026-03-15`. -/
structure DateNumbers (py : PyText) where
  year : List Char
  month : List Char
  day : List Char
  year_length : year.length = 4
  month_length : month.length = 2
  day_length : day.length = 2
  year_digits : ∀ c ∈ year, py.isdigit c = true
  month_digits : ∀ c ∈ month, py.isdigit c = true
  day_digits : ∀ c ∈ day, py.isdigit c = true

/-- A deadline as it is written. -/
inductive WrittenDate (py : PyText)
  | monthFirst (w : DateWords py)
  | dayFirst (w : DateWords py)
  | iso (w : DateNumbers py)

namespace WrittenDate

def text : WrittenDate py → List Char
  | monthFirst w => w.month ++ w.gap ++ (w.day ++ w.suffix) ++ w.comma ++ w.gap' ++ w.year
  | dayFirst w => w.day ++ w.suffix ++ w.gap ++ w.month ++ w.comma ++ w.gap' ++ w.year
  | iso w => w.year ++ '-' :: (w.month ++ '-' :: w.day)

/-- The date that is named, if there is such a date. -/
def date : WrittenDate py → Option Date
  | monthFirst w => dateOf (py.number w.year) (w.index + 1) (py.number w.day)
  | dayFirst w => dateOf (py.number w.year) (w.index + 1) (py.number w.day)
  | iso w => dateOf (py.number w.year) (py.number w.month) (py.number w.day)

/-- What is left without the suffix. -/
def withoutSuffix : WrittenDate py → List Char
  | monthFirst w => w.month ++ (w.gap ++ (w.day ++ (w.comma ++ (w.gap' ++ w.year))))
  | dayFirst w => w.day ++ (w.gap ++ (w.month ++ (w.comma ++ (w.gap' ++ w.year))))
  | iso w => w.year ++ (['-'] ++ (w.month ++ (['-'] ++ w.day)))

/-- What is left without the suffix and the comma. -/
def cleaned : WrittenDate py → List Char
  | monthFirst w => w.month ++ (w.gap ++ (w.day ++ (w.gap' ++ w.year)))
  | dayFirst w => w.day ++ (w.gap ++ (w.month ++ (w.gap' ++ w.year)))
  | iso w => w.year ++ (['-'] ++ (w.month ++ (['-'] ++ w.day)))

end WrittenDate

/-! ## What is found is written so -/

/-- The month table of the extractor has the listed names, with a capital letter. -/
lemma monthParts_names : monthNames.map String.toList =
    monthParts.map fun part => (part.1.toList ++ part.2.toList).map Char.toLower := by
  decide

lemma monthParts_abbreviations : monthAbbreviations.map String.toList =
    monthParts.map fun part => part.1.toList.map Char.toLower := by
  decide

/-- What matches a name with a capital letter matches it without. -/
lemma names_toLower (laws : py.MentionLaws) {name month : List Char}
    (hletters : ∀ c ∈ name, isAsciiUpper c = true ∨ c.toLower = c)
    (h : List.Forall₂ (fun c d => py.ignoreCase c d = true) name month) :
    List.Forall₂ (fun c d => py.ignoreCase c d = true) (name.map Char.toLower) month := by
  induction h with
  | nil => exact .nil
  | @cons c d name month hcd _ ih =>
    refine .cons ?_ (ih fun e he => hletters e (List.mem_cons_of_mem c he))
    rcases hletters c List.mem_cons_self with hupper | hlower
    · rwa [← laws.upper c d hupper]
    · rwa [hlower]

lemma exists_name (laws : py.MentionLaws) {month : List Char}
    (h : month ∈ (monthPattern py).language) : ∃ name index, Lists name index ∧
      List.Forall₂ (fun c d => py.ignoreCase c d = true) name.toList month := by
  rw [monthPattern, mem_language_oneOf] at h
  obtain ⟨pattern, hpattern, hmonth⟩ := h
  obtain ⟨⟨head, tail⟩, hpart, rfl⟩ := List.mem_map.mp hpattern
  obtain ⟨first, hfirst, second, hsecond, rfl⟩ := mem_language_seq.mp hmonth
  rw [mem_language_text] at hfirst
  rw [mem_language_opt, mem_language_text] at hsecond
  obtain ⟨index, hindex⟩ := List.mem_iff_getElem?.mp hpart
  have hall : monthParts.all (fun part => (part.1.toList ++ part.2.toList).all
      fun c => isAsciiUpper c || c.toLower = c) = true := by decide
  have hletters : ∀ c ∈ head.toList ++ tail.toList, isAsciiUpper c = true ∨ c.toLower = c := by
    intro c hc
    have hc' := List.all_eq_true.mp (List.all_eq_true.mp hall _ hpart) c hc
    rwa [Bool.or_eq_true, decide_eq_true_eq] at hc'
  rcases hsecond with hsecond | rfl
  · have hname := congrArg (·[index]?) monthParts_names
    simp only [List.getElem?_map, hindex, Option.map_some, Option.map_eq_some_iff] at hname
    obtain ⟨name, hname, heq⟩ := hname
    refine ⟨name, index, Or.inl hname, ?_⟩
    rw [heq]
    exact names_toLower laws hletters (List.rel_append hfirst hsecond)
  · have hname := congrArg (·[index]?) monthParts_abbreviations
    simp only [List.getElem?_map, hindex, Option.map_some, Option.map_eq_some_iff] at hname
    obtain ⟨name, hname, heq⟩ := hname
    refine ⟨name, index, Or.inr hname, ?_⟩
    rw [heq, List.append_nil]
    exact names_toLower laws (fun c hc => hletters c (List.mem_append_left _ hc)) hfirst

/-- A day is one or two digits, and a suffix. -/
lemma exists_day {part : List Char} (h : part ∈ (sequence [.char py.isdigit,
    .opt (.char py.isdigit), .opt (ordinalSuffix py)]).language) :
    ∃ day suffix, part = day ++ suffix ∧ (day.length = 1 ∨ day.length = 2) ∧
      (∀ c ∈ day, py.isdigit c = true) ∧
      (suffix = [] ∨ suffix ∈ (ordinalSuffix py).language) := by
  obtain ⟨parts, hparts, rfl⟩ := mem_language_sequence.mp h
  simp only [List.forall₂_cons_left_iff, List.forall₂_nil_left_iff] at hparts
  obtain ⟨-, -, ⟨c, hc, rfl⟩, ⟨second, -, hsecond, ⟨suffix, -, hsuffix, rfl, rfl⟩, rfl⟩,
    rfl⟩ := hparts
  rw [mem_language_opt] at hsecond hsuffix
  rcases hsecond with ⟨d, hd, rfl⟩ | rfl
  · exact ⟨[c, d], suffix, by simp, Or.inr rfl, by simp [hc, hd], hsuffix.symm⟩
  · exact ⟨[c], suffix, by simp, Or.inl rfl, by simp [hc], hsuffix.symm⟩

lemma comma_of_language {comma : List Char}
    (h : comma ∈ (Pattern.opt (.char (· = ','))).language) : comma = [] ∨ comma = [','] := by
  rw [mem_language_opt] at h
  rcases h with ⟨c, hc, rfl⟩ | rfl
  · exact Or.inr (by rw [of_decide_eq_true hc])
  · exact Or.inl rfl

/-- Every deadline mention is a date as it is written. -/
theorem exists_writtenDate (laws : py.MentionLaws) {mention : List Char}
    (h : mention ∈ (monthNameDatePattern py).language) :
    ∃ w : WrittenDate py, w.text = mention := by
  obtain ⟨parts, hparts, rfl⟩ := mem_language_sequence.mp h
  simp only [List.forall₂_cons_left_iff, List.forall₂_nil_left_iff] at hparts
  obtain ⟨edge, -, hedge, ⟨mention, -, hmention, ⟨edge', -, hedge', rfl, rfl⟩, rfl⟩,
    rfl⟩ := hparts
  obtain rfl := mem_language_boundary.mp hedge
  obtain rfl := mem_language_boundary.mp hedge'
  rw [mem_language_oneOf] at hmention
  obtain ⟨form, hform, hmention⟩ := hmention
  simp only [List.mem_cons, List.not_mem_nil, or_false] at hform
  obtain rfl | rfl | rfl := hform <;> obtain ⟨parts, hparts, rfl⟩ :=
    mem_language_sequence.mp hmention
  · simp only [List.forall₂_cons_left_iff, List.forall₂_nil_left_iff] at hparts
    obtain ⟨month, -, hmonth, ⟨gap, -, hgap, ⟨part, -, hpart, ⟨comma, -, hcomma, ⟨gap', -, hgap',
      ⟨year, -, hyear, rfl, rfl⟩, rfl⟩, rfl⟩, rfl⟩, rfl⟩, rfl⟩ := hparts
    obtain ⟨name, index, hlists, hnames⟩ := exists_name laws hmonth
    obtain ⟨day, suffix, rfl, hlength, hdigits, hsuffix⟩ := exists_day hpart
    rw [mem_language_times] at hyear
    exact ⟨.monthFirst ⟨name, index, month, day, suffix, comma, year, gap, gap', hlists, hnames,
      hlength, hdigits, hsuffix, comma_of_language hcomma, hyear.1, hyear.2,
      mem_language_many1.mp hgap, mem_language_many1.mp hgap'⟩, by simp [WrittenDate.text]⟩
  · simp only [List.forall₂_cons_left_iff, List.forall₂_nil_left_iff] at hparts
    obtain ⟨part, -, hpart, ⟨gap, -, hgap, ⟨month, -, hmonth, ⟨comma, -, hcomma, ⟨gap', -, hgap',
      ⟨year, -, hyear, rfl, rfl⟩, rfl⟩, rfl⟩, rfl⟩, rfl⟩, rfl⟩ := hparts
    obtain ⟨name, index, hlists, hnames⟩ := exists_name laws hmonth
    obtain ⟨day, suffix, rfl, hlength, hdigits, hsuffix⟩ := exists_day hpart
    rw [mem_language_times] at hyear
    exact ⟨.dayFirst ⟨name, index, month, day, suffix, comma, year, gap, gap', hlists, hnames,
      hlength, hdigits, hsuffix, comma_of_language hcomma, hyear.1, hyear.2,
      mem_language_many1.mp hgap, mem_language_many1.mp hgap'⟩, by simp [WrittenDate.text]⟩
  · simp only [List.forall₂_cons_left_iff, List.forall₂_nil_left_iff] at hparts
    obtain ⟨year, -, hyear, ⟨-, -, ⟨dash, hdash, rfl⟩, ⟨month, -, hmonth,
      ⟨-, -, ⟨dash', hdash', rfl⟩, ⟨day, -, hday, rfl, rfl⟩, rfl⟩, rfl⟩, rfl⟩, rfl⟩ := hparts
    obtain rfl := of_decide_eq_true hdash
    obtain rfl := of_decide_eq_true hdash'
    rw [mem_language_times] at hyear hmonth hday
    exact ⟨.iso ⟨year, month, day, hyear.1, hmonth.1, hday.1, hyear.2, hmonth.2, hday.2⟩,
      by simp [WrittenDate.text]⟩

/-! ## The suffix and the comma are taken away -/

/-- `(\d+)(?:st|nd|rd|th)` -/
abbrev ordinal (py : PyText) : Pattern := .seq (.many1 py.isdigit) (ordinalSuffix py)

lemma plain_ordinal : (ordinal py).Plain := by
  refine ⟨plain_many1, plain_oneOf fun a ha => ?_⟩
  obtain ⟨suffix, -, rfl⟩ := List.mem_map.mp ha
  exact plain_text

/-- An ordinal number has digits and a suffix. -/
lemma mem_language_ordinal {found : List Char}
    (h : found ∈ (ordinal py).language) :
    ∃ digits suffix, found = digits ++ suffix ∧ digits ≠ [] ∧
      (∀ c ∈ digits, py.isdigit c = true) ∧ suffix ∈ (ordinalSuffix py).language := by
  obtain ⟨digits, hdigits, suffix, hsuffix, rfl⟩ := mem_language_seq.mp h
  obtain ⟨hne, hall⟩ := mem_language_many1.mp hdigits
  exact ⟨digits, suffix, rfl, hne, hall, hsuffix⟩

/-- What can follow a number in a date. -/
def EndsNumber (py : PyText) (rest : List Char) : Prop :=
  ∀ c ∈ rest.head?, py.isspace c = true ∨ c ∈ mentionSigns

section Clean

variable (laws : py.MentionLaws)
include laws

/-- What a name matches is made of letters: neither white space nor digits nor signs. -/
lemma letter_of_names {name month : List Char} (hlower : ∀ c ∈ name, c.isLower = true)
    (h : List.Forall₂ (fun c d => py.ignoreCase c d = true) name month) :
    ∀ d ∈ month, py.isspace d = false ∧ py.isdigit d = false ∧ d ∉ mentionSigns := by
  induction h with
  | nil => exact fun d hd => absurd hd List.not_mem_nil
  | @cons c d name month hcd _ ih =>
    intro e he
    rcases List.mem_cons.mp he with rfl | he
    · exact laws.letter c e (hlower c List.mem_cons_self) hcd
    · exact ih (fun c hc => hlower c (List.mem_cons_of_mem _ hc)) e he

/-- A suffix is two letters. -/
lemma suffix_spec {suffix : List Char} (h : suffix ∈ (ordinalSuffix py).language) :
    ∃ c d, suffix = [c, d] ∧
      ∀ e ∈ suffix, py.isspace e = false ∧ py.isdigit e = false ∧ e ∉ mentionSigns := by
  rw [ordinalSuffix, mem_language_oneOf] at h
  obtain ⟨pattern, hpattern, hsuffix⟩ := h
  obtain ⟨name, hname, rfl⟩ := List.mem_map.mp hpattern
  rw [mem_language_text] at hsuffix
  have hall : ["st", "nd", "rd", "th"].all (fun name => name.toList.length = 2 &&
      name.toList.all Char.isLower) = true := by decide
  have hname' := List.all_eq_true.mp hall name hname
  rw [Bool.and_eq_true, decide_eq_true_eq, List.all_eq_true] at hname'
  have hlength : suffix.length = 2 := by rw [← hsuffix.length_eq, hname'.1]
  obtain ⟨c, d, hcd⟩ := List.length_eq_two.mp hlength
  exact ⟨c, d, hcd, letter_of_names laws hname'.2 hsuffix⟩

lemma EndsNumber.isdigit {rest : List Char} (h : EndsNumber py rest) :
    ∀ c ∈ rest.head?, py.isdigit c = false := by
  intro c hc
  rcases h c hc with hspace | hsign
  · exact laws.space c hspace
  · exact (laws.sign c (Or.inr hsign)).2

lemma suffix_not_prefix {suffix rest : List Char} (h : suffix ∈ (ordinalSuffix py).language)
    (hrest : EndsNumber py rest) : ¬ suffix <+: rest := by
  rintro ⟨more, rfl⟩
  obtain ⟨c, d, rfl, hletters⟩ := suffix_spec laws h
  obtain ⟨hspace, -, hsign⟩ := hletters c List.mem_cons_self
  rcases hrest c rfl with hc | hc
  · rw [hspace] at hc
    cases hc
  · exact hsign hc

variable {f : List Char → List Char} {before part rest : List Char}

omit laws in
/-- What is no number stays. -/
lemma replaceFrom_letters (hpart : ∀ c ∈ part, py.isdigit c = false) :
    replaceFrom (ordinal py) f before 0 (part ++ rest) =
      part ++ replaceFrom (ordinal py) f (part.reverse ++ before) 0 rest := by
  refine replaceFrom_keep ?_
  rintro s c t rfl found hfound ⟨more, hmore⟩
  obtain ⟨digits, suffix, rfl, hne, hdigits, -⟩ := mem_language_ordinal hfound
  obtain ⟨d, digits, rfl⟩ := List.exists_cons_of_ne_nil hne
  obtain rfl : d = c := (List.cons.inj hmore).1
  have hc := hpart d (by simp)
  rw [hdigits d List.mem_cons_self] at hc
  cases hc

/-- A number without a suffix stays. -/
lemma replaceFrom_number (hpart : ∀ c ∈ part, py.isdigit c = true) (hrest : EndsNumber py rest) :
    replaceFrom (ordinal py) f before 0 (part ++ rest) =
      part ++ replaceFrom (ordinal py) f (part.reverse ++ before) 0 rest := by
  refine replaceFrom_keep ?_
  rintro s c t rfl found hfound ⟨more, hmore⟩
  obtain ⟨digits, suffix, rfl, -, hdigits, hsuffix⟩ := mem_language_ordinal hfound
  have hct : ∀ d ∈ c :: t, py.isdigit d = true :=
    fun d hd => hpart d (List.mem_append_right _ hd)
  have hletter : ∀ d ∈ (suffix ++ more).head?, py.isdigit d = false := by
    obtain ⟨a, b, rfl, hletters⟩ := suffix_spec laws hsuffix
    rintro d ⟨⟩
    exact (hletters a List.mem_cons_self).2.1
  rw [List.append_assoc, ← List.cons_append] at hmore
  obtain ⟨-, hafter⟩ := run_unique hmore hdigits hct hletter (hrest.isdigit laws)
  exact suffix_not_prefix laws hsuffix hrest ⟨more, hafter⟩

/-- A number loses its suffix. -/
lemma replaceFrom_ordinal {suffix : List Char} (hne : part ≠ [])
    (hpart : ∀ c ∈ part, py.isdigit c = true) (hsuffix : suffix ∈ (ordinalSuffix py).language) :
    replaceFrom (ordinal py) (·.dropLast.dropLast) before 0 (part ++ suffix ++ rest) =
      part ++ replaceFrom (ordinal py) (·.dropLast.dropLast)
        ((part ++ suffix).reverse ++ before) 0 rest := by
  have hletter : ∀ {suffix more : List Char}, suffix ∈ (ordinalSuffix py).language →
      ∀ d ∈ (suffix ++ more).head?, py.isdigit d = false := by
    intro suffix more hsuffix
    obtain ⟨a, b, rfl, hletters⟩ := suffix_spec laws hsuffix
    rintro d ⟨⟩
    exact (hletters a List.mem_cons_self).2.1
  rw [replaceFrom_found plain_ordinal (by simp [hne])
    (mem_language_seq.mpr ⟨part, mem_language_many1.mpr ⟨hne, hpart⟩, suffix, hsuffix, rfl⟩)]
  · obtain ⟨c, d, rfl, -⟩ := suffix_spec laws hsuffix
    have hdrop : (part ++ [c, d]).dropLast.dropLast = part := by
      rw [List.append_cons, List.dropLast_concat, List.dropLast_concat]
    rw [hdrop]
  · rintro found hfound ⟨more, hmore⟩
    obtain ⟨digits, suffix', rfl, -, hdigits, hsuffix'⟩ := mem_language_ordinal hfound
    rw [List.append_assoc, List.append_assoc] at hmore
    obtain ⟨rfl, hafter⟩ := run_unique hmore hdigits hpart (hletter hsuffix') (hletter hsuffix)
    obtain ⟨c, d, rfl, -⟩ := suffix_spec laws hsuffix
    obtain ⟨c', d', rfl, -⟩ := suffix_spec laws hsuffix'
    rw [(List.append_inj hafter rfl).1]

/-- A day with a suffix or without. -/
lemma replaceFrom_day {suffix : List Char} (hne : part ≠ [])
    (hpart : ∀ c ∈ part, py.isdigit c = true)
    (hsuffix : suffix = [] ∨ suffix ∈ (ordinalSuffix py).language) (hrest : EndsNumber py rest) :
    replaceFrom (ordinal py) (·.dropLast.dropLast) before 0 (part ++ suffix ++ rest) =
      part ++ replaceFrom (ordinal py) (·.dropLast.dropLast)
        ((part ++ suffix).reverse ++ before) 0 rest := by
  rcases hsuffix with rfl | hsuffix
  · rw [List.append_nil]
    exact replaceFrom_number laws hpart hrest
  · exact replaceFrom_ordinal laws hne hpart hsuffix

omit laws in
/-- A listed name is in lower case. -/
lemma Lists.lower {name : String} {index : ℕ} (h : Lists name index) :
    name.toList ≠ [] ∧ ∀ c ∈ name.toList, c.isLower = true := by
  have hmem : name ∈ monthNames ++ monthAbbreviations := by
    rw [List.mem_append]
    exact h.imp List.mem_of_getElem? List.mem_of_getElem?
  have hall : (monthNames ++ monthAbbreviations).all (fun name =>
      name.toList ≠ [] && name.toList.all Char.isLower) = true := by decide
  have hname := List.all_eq_true.mp hall name hmem
  rwa [Bool.and_eq_true, decide_eq_true_eq, List.all_eq_true] at hname

omit laws in
lemma ne_nil_of_length {digits : List Char} {n : ℕ} (h : digits.length = n + 1) : digits ≠ [] := by
  rintro rfl
  cases h

namespace DateWords

variable (w : DateWords py)

omit laws in
lemma month_ne_nil : w.month ≠ [] := by
  intro hnil
  have hlength := w.names.length_eq
  rw [hnil, List.length_nil, List.length_eq_zero_iff] at hlength
  exact w.lists.lower.1 hlength

lemma month_letters : ∀ c ∈ w.month,
    py.isspace c = false ∧ py.isdigit c = false ∧ c ∉ mentionSigns :=
  letter_of_names laws w.lists.lower.2 w.names

omit laws in
lemma day_ne_nil : w.day ≠ [] := w.day_length.elim ne_nil_of_length ne_nil_of_length

omit laws in
/-- White space begins with white space. -/
lemma endsNumber_gap {gap rest : List Char} (hgap : IsSpaces py gap) :
    EndsNumber py (gap ++ rest) := by
  obtain ⟨c, gap, rfl⟩ := List.exists_cons_of_ne_nil hgap.1
  rintro d ⟨⟩
  exact Or.inl (hgap.2 c List.mem_cons_self)

omit laws in
lemma endsNumber_comma {comma gap rest : List Char} (hcomma : comma = [] ∨ comma = [','])
    (hgap : IsSpaces py gap) : EndsNumber py (comma ++ (gap ++ rest)) := by
  rcases hcomma with rfl | rfl
  · rw [List.nil_append]
    exact endsNumber_gap hgap
  · rintro d ⟨⟩
    exact Or.inr (by decide)

lemma isdigit_gap {gap : List Char} (hgap : IsSpaces py gap) :
    ∀ c ∈ gap, py.isdigit c = false := fun c hc => laws.space c (hgap.2 c hc)

lemma isdigit_comma {comma : List Char} (hcomma : comma = [] ∨ comma = [',']) :
    ∀ c ∈ comma, py.isdigit c = false := by
  intro c hc
  rcases hcomma with rfl | rfl
  · exact absurd hc List.not_mem_nil
  · rw [List.mem_singleton.mp hc]
    exact (laws.sign ',' (by decide)).2

end DateWords

/-- The suffix is all that is replaced. -/
lemma replaceAll_text (w : WrittenDate py) :
    replaceAll (ordinal py) (·.dropLast.dropLast) w.text = w.withoutSuffix := by
  have hends : EndsNumber py [] := nofun
  have hend : ∀ {before digits : List Char}, (∀ c ∈ digits, py.isdigit c = true) →
      replaceFrom (ordinal py) (·.dropLast.dropLast) before 0 digits = digits := by
    intro before digits hdigits
    have hnumber := @replaceFrom_number py laws (·.dropLast.dropLast) before digits [] hdigits hends
    rwa [List.append_nil, replaceFrom, List.append_nil] at hnumber
  have hdash : ∀ c ∈ ['-'], py.isdigit c = false := by
    intro c hc
    rw [List.mem_singleton.mp hc]
    exact (laws.sign '-' (by decide)).2
  have hafterDash : ∀ {rest : List Char}, EndsNumber py (['-'] ++ rest) := by
    rintro rest c ⟨⟩
    exact Or.inr (by decide)
  rw [replaceAll]
  cases w with
  | monthFirst w =>
    simp only [WrittenDate.text, List.append_assoc]
    rw [replaceFrom_letters fun c hc => (w.month_letters laws c hc).2.1,
      replaceFrom_letters (DateWords.isdigit_gap laws w.gap_spaces), ← List.append_assoc w.day,
      replaceFrom_day laws w.day_ne_nil w.day_digits w.suffix_ordinal
        (DateWords.endsNumber_comma w.comma_sign w.gap'_spaces),
      replaceFrom_letters (DateWords.isdigit_comma laws w.comma_sign),
      replaceFrom_letters (DateWords.isdigit_gap laws w.gap'_spaces), hend w.year_digits,
      WrittenDate.withoutSuffix]
  | dayFirst w =>
    simp only [WrittenDate.text, List.append_assoc]
    rw [← List.append_assoc w.day, replaceFrom_day laws w.day_ne_nil w.day_digits w.suffix_ordinal
        (DateWords.endsNumber_gap w.gap_spaces),
      replaceFrom_letters (DateWords.isdigit_gap laws w.gap_spaces),
      replaceFrom_letters fun c hc => (w.month_letters laws c hc).2.1,
      replaceFrom_letters (DateWords.isdigit_comma laws w.comma_sign),
      replaceFrom_letters (DateWords.isdigit_gap laws w.gap'_spaces), hend w.year_digits,
      WrittenDate.withoutSuffix]
  | iso w =>
    rw [WrittenDate.text, List.append_cons, List.append_cons w.month, List.append_assoc,
      List.append_assoc]
    rw [replaceFrom_number laws w.year_digits hafterDash, replaceFrom_letters hdash,
      replaceFrom_number laws w.month_digits hafterDash, replaceFrom_letters hdash,
      hend w.day_digits, WrittenDate.withoutSuffix]

lemma ne_comma_of_isdigit {c : Char} (h : py.isdigit c = true) : c ≠ ',' := by
  rintro rfl
  rw [(laws.sign ',' (by decide)).2] at h
  cases h

lemma ne_comma_of_isspace {c : Char} (h : py.isspace c = true) : c ≠ ',' := by
  rintro rfl
  rw [(laws.sign ',' (by decide)).1] at h
  cases h

lemma ne_comma_of_month (w : DateWords py) : ∀ c ∈ w.month, c ≠ ',' := by
  rintro c hc rfl
  exact (w.month_letters laws ',' hc).2.2 (by decide)

/-- A date in words neither begins nor ends with white space, and neither does one in numbers. -/
lemma strip_date (w : WrittenDate py) :
    py.strip (String.ofList w.text) = String.ofList w.text := by
  have hhead : ∀ {s t : List Char}, s ≠ [] → (∀ c ∈ s, py.isspace c = false) →
      ∀ c ∈ (s ++ t).head?, py.isspace c = false := by
    intro s t hne hs
    obtain ⟨d, s, rfl⟩ := List.exists_cons_of_ne_nil hne
    rintro c ⟨⟩
    exact hs d List.mem_cons_self
  have hdigits : ∀ {digits : List Char}, (∀ c ∈ digits, py.isdigit c = true) →
      ∀ c ∈ digits, py.isspace c = false := fun h c hc => isspace_of_isdigit laws (h c hc)
  refine laws.strip_eq ?_ ?_
  · cases w with
    | monthFirst w =>
      simp only [WrittenDate.text, List.append_assoc]
      exact hhead w.month_ne_nil fun c hc => (w.month_letters laws c hc).1
    | dayFirst w =>
      simp only [WrittenDate.text, List.append_assoc]
      exact hhead w.day_ne_nil (hdigits w.day_digits)
    | iso w => exact hhead (ne_nil_of_length w.year_length) (hdigits w.year_digits)
  · cases w with
    | monthFirst w =>
      exact getLast_append (ne_nil_of_length w.year_length) (hdigits w.year_digits)
    | dayFirst w =>
      exact getLast_append (ne_nil_of_length w.year_length) (hdigits w.year_digits)
    | iso w =>
      rw [WrittenDate.text, List.append_cons, List.append_cons w.month, ← List.append_assoc]
      exact getLast_append (ne_nil_of_length w.day_length) (hdigits w.day_digits)

/-- `parse_deadline` reads the date without the suffix and the comma. -/
theorem cleanedDeadline_text (w : WrittenDate py) :
    cleanedDeadline py (String.ofList w.text) = w.cleaned := by
  have hkeep : ∀ {part : List Char}, (∀ c ∈ part, c ≠ ',') → part.filter (· ≠ ',') = part :=
    fun hpart => List.filter_eq_self.mpr fun c hc => decide_eq_true (hpart c hc)
  have hdigits : ∀ {digits : List Char}, (∀ c ∈ digits, py.isdigit c = true) →
      digits.filter (· ≠ ',') = digits :=
    fun h => hkeep fun c hc => ne_comma_of_isdigit laws (h c hc)
  have hspaces : ∀ {gap : List Char}, IsSpaces py gap → gap.filter (· ≠ ',') = gap :=
    fun h => hkeep fun c hc => ne_comma_of_isspace laws (h.2 c hc)
  have hcomma : ∀ {comma : List Char}, comma = [] ∨ comma = [','] →
      comma.filter (· ≠ ',') = [] := by
    rintro comma (rfl | rfl) <;> decide
  have hdash : ['-'].filter (· ≠ ',') = ['-'] := by decide
  rw [cleanedDeadline, strip_date laws, String.toList_ofList]
  have hall := replaceAll_text laws w
  rw [hall]
  cases w with
  | monthFirst w =>
    rw [WrittenDate.withoutSuffix, WrittenDate.cleaned]
    simp only [List.filter_append, hkeep (ne_comma_of_month laws w), hspaces w.gap_spaces,
      hspaces w.gap'_spaces, hdigits w.day_digits, hdigits w.year_digits, hcomma w.comma_sign,
      List.nil_append]
  | dayFirst w =>
    rw [WrittenDate.withoutSuffix, WrittenDate.cleaned]
    simp only [List.filter_append, hkeep (ne_comma_of_month laws w), hspaces w.gap_spaces,
      hspaces w.gap'_spaces, hdigits w.day_digits, hdigits w.year_digits, hcomma w.comma_sign,
      List.nil_append]
  | iso w =>
    rw [WrittenDate.withoutSuffix, WrittenDate.cleaned]
    simp only [List.filter_append, hdash, hdigits w.day_digits, hdigits w.month_digits,
      hdigits w.year_digits]

end Clean

end ScholarshipFinder
