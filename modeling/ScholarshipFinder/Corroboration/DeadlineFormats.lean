import ScholarshipFinder.Corroboration.DeadlineMentions

/-!
# Deadlines that are read

`parse_deadline` tries six formats.  A date with the name of its month first, or its day first, fits
the formats of that order only, and one in numbers fits one format.  A format that fits reads the
date that is written if `strptime` takes its digits and lists the lower case of its month.
-/

namespace ScholarshipFinder

open Lib Pattern

/-- What the parts of a format say together. -/
def readsAs (py : PyText) (format : List Directive) (groups : List (List Char)) : Option Date := do
  let parts ← (format.zip groups).foldlM (fun parts (directive, text) =>
    directive.read py parts text) ({} : DateParts)
  dateOf parts.year parts.month parts.day

variable {py : PyText} {format : List Directive} {text : List Char}

/-! ## `strptime` -/

/-- A text that does not fall into the parts of a format is a `ValueError`. -/
lemma strptime_eq_none (h : ∀ parts, Splits (format.map (·.pattern py)) parts →
    parts.flatten ≠ text) : strptime py format text = none := by
  rw [strptime]
  cases hhead : (groups (format.map (·.pattern py)) ⟨[], text⟩).head? with
  | none => rfl
  | some found =>
    obtain ⟨parts, last⟩ := found
    obtain ⟨hsplits, hpasses⟩ := splits_of_mem_groups (List.mem_of_mem_head? hhead)
    have hflat : text = parts.flatten ++ last.after := hpasses.1
    have hlast : last.after ≠ [] := by
      intro hnil
      rw [hnil, List.append_nil] at hflat
      exact h parts hsplits hflat.symm
    simp [hlast]

/-- The first match is read, if it is the whole text. -/
lemma strptime_of_head {parts : List (List Char)} {before : List Char}
    (h : (groups (format.map (·.pattern py)) ⟨[], text⟩).head? = some (parts, ⟨before, []⟩)) :
    strptime py format text = readsAs py format parts := by
  rw [strptime, h]
  rfl

lemma plain_pattern (directive : Directive) : (directive.pattern py).Plain := by
  have hnames : ∀ names : List String,
      (Pattern.oneOf (names.map fun name => .text py.ignoreCase name.toList)).Plain := by
    refine fun names => plain_oneOf fun a ha => ?_
    obtain ⟨name, -, rfl⟩ := List.mem_map.mp ha
    exact plain_text
  cases directive with
  | monthName => exact hnames _
  | monthAbbreviation => exact hnames _
  | month => simp [Directive.pattern, Pattern.oneOf, Plain]
  | day => simp [Directive.pattern, Pattern.oneOf, Plain]
  | year => exact plain_times
  | space => exact plain_many1
  | literal c => exact trivial

/-- A text that falls into parts, and only so that they say the same, is read as that. -/
lemma strptime_of_unique {parts : List (List Char)} {value : Option Date}
    (hparts : Splits (format.map (·.pattern py)) parts) (hflat : parts.flatten = text)
    (hunique : ∀ parts' rest, Splits (format.map (·.pattern py)) parts' →
      parts'.flatten ++ rest = text → rest = [] ∧ readsAs py format parts' = value) :
    strptime py format text = value := by
  have hplain : ∀ a ∈ format.map (·.pattern py), a.Plain := by
    intro a ha
    obtain ⟨directive, -, rfl⟩ := List.mem_map.mp ha
    exact plain_pattern directive
  have hmem : (parts, (⟨text.reverse, []⟩ : Place)) ∈
      groups (format.map (·.pattern py)) ⟨[], text⟩ :=
    mem_groups_of_splits hplain hparts ⟨by rw [hflat, List.append_nil],
      by rw [hflat, List.append_nil]⟩
  obtain ⟨⟨parts', last⟩, rest, hgroups⟩ := List.exists_cons_of_ne_nil (List.ne_nil_of_mem hmem)
  obtain ⟨hsplits, hpasses⟩ := splits_of_mem_groups
    (show (parts', last) ∈ groups (format.map (·.pattern py)) ⟨[], text⟩ by
      rw [hgroups]; exact List.mem_cons_self)
  obtain ⟨hafter, hvalue⟩ := hunique parts' last.after hsplits hpasses.1.symm
  obtain ⟨before, after⟩ := last
  obtain rfl : after = [] := hafter
  rw [strptime_of_head (by rw [hgroups]; rfl), hvalue]

/-! ## Digits -/

section Digits

variable (laws : py.MentionLaws)
include laws

lemma decimal_of_isDigit {c : Char} (h : c.isDigit = true) :
    ∃ n < 10, c = Char.ofNat ('0'.toNat + n) ∧ py.decimal c = some n := by
  rw [Char.isDigit, Bool.and_eq_true, decide_eq_true_eq, decide_eq_true_eq] at h
  have hlow : '0'.toNat ≤ c.toNat := UInt32.le_iff_toNat_le.mp h.1
  have hhigh : c.toNat ≤ '9'.toNat := UInt32.le_iff_toNat_le.mp h.2
  have h0 : '0'.toNat = 48 := rfl
  have h9 : '9'.toNat = 57 := rfl
  have hc : c = Char.ofNat ('0'.toNat + (c.toNat - 48)) := by
    rw [h0, Nat.add_sub_cancel' (by omega), Char.ofNat_toNat]
  refine ⟨c.toNat - 48, by omega, hc, ?_⟩
  conv_lhs => rw [hc]
  exact laws.decimal _ (by omega)

lemma isdigit_of_isDigit {c : Char} (h : c.isDigit = true) : py.isdigit c = true := by
  obtain ⟨n, -, -, hn⟩ := decimal_of_isDigit laws h
  exact isdigit_iff.mpr ⟨n, hn⟩

lemma isdigit_of_charIn {c : Char} {digits : String} (h : charIn digits c = true)
    (hdigits : digits.toList.all Char.isDigit = true) : py.isdigit c = true :=
  isdigit_of_isDigit laws (List.all_eq_true.mp hdigits c (of_decide_eq_true h))

lemma isdigit_space : py.isdigit ' ' = false := laws.space ' ' laws.blank

omit laws in
lemma number_one {c : Char} {n : ℕ} (hc : py.decimal c = some n) : py.number [c] = n := by
  simp [PyText.number, hc]

omit laws in
lemma number_two {c d : Char} {m n : ℕ} (hc : py.decimal c = some m) (hd : py.decimal d = some n) :
    py.number [c, d] = 10 * m + n := by
  simp [PyText.number, hc, hd, Nat.ofDigits_cons]
  ring

/-! ## What the directives match -/

omit laws in
lemma mem_language_day {part : List Char} : part ∈ (Directive.day.pattern py).language ↔
    (∃ d, charIn "01" d = true ∧ part = ['3', d]) ∨
    (∃ c d, charIn "12" c = true ∧ py.isdigit d = true ∧ part = [c, d]) ∨
    (∃ d, charIn "123456789" d = true ∧ part = ['0', d]) ∨
    (∃ d, charIn "123456789" d = true ∧ part = [d]) ∨
    (∃ d, charIn "123456789" d = true ∧ part = [' ', d]) := by
  have hpair : ∀ {p q : Char → Bool}, part ∈ (Pattern.seq (.char p) (.char q)).language ↔
      ∃ c d, p c = true ∧ q d = true ∧ part = [c, d] := by
    intro p q
    rw [mem_language_seq]
    constructor
    · rintro ⟨-, ⟨c, hc, rfl⟩, -, ⟨d, hd, rfl⟩, rfl⟩
      exact ⟨c, d, hc, hd, rfl⟩
    · rintro ⟨c, d, hc, hd, rfl⟩
      exact ⟨[c], ⟨c, hc, rfl⟩, [d], ⟨d, hd, rfl⟩, rfl⟩
  simp only [Directive.pattern, mem_language_oneOf, List.mem_cons, List.not_mem_nil, or_false,
    exists_eq_or_imp, exists_eq_left, hpair, decide_eq_true_eq, mem_language_char, exists_and_left]

/-- A day is digits, with a blank before them at most. -/
lemma day_split {part : List Char} (h : part ∈ (Directive.day.pattern py).language) :
    ∃ blank digits, part = blank ++ digits ∧ (blank = [] ∨ blank = [' ']) ∧
      digits ≠ [] ∧ (∀ c ∈ digits, py.isdigit c = true) ∧
      digits ∈ (Directive.day.pattern py).language := by
  have hone : ∀ {d : Char}, charIn "123456789" d = true → py.isdigit d = true :=
    fun hd => isdigit_of_charIn laws hd (by decide)
  have hthree : py.isdigit '3' = true := isdigit_of_isDigit laws (by decide)
  have hzero : py.isdigit '0' = true := isdigit_of_isDigit laws (by decide)
  rcases mem_language_day.mp h with ⟨d, hd, rfl⟩ | ⟨c, d, hc, hd, rfl⟩ | ⟨d, hd, rfl⟩ |
    ⟨d, hd, rfl⟩ | ⟨d, hd, rfl⟩
  · refine ⟨[], ['3', d], rfl, Or.inl rfl, nofun, ?_, h⟩
    simp [hthree, isdigit_of_charIn laws hd (by decide)]
  · refine ⟨[], [c, d], rfl, Or.inl rfl, nofun, ?_, h⟩
    simp [hd, isdigit_of_charIn laws hc (by decide)]
  · refine ⟨[], ['0', d], rfl, Or.inl rfl, nofun, ?_, h⟩
    simp [hzero, hone hd]
  · exact ⟨[], [d], rfl, Or.inl rfl, nofun, by simp [hone hd], h⟩
  · exact ⟨[' '], [d], rfl, Or.inr rfl, nofun, by simp [hone hd],
      mem_language_day.mpr (Or.inr (Or.inr (Or.inr (Or.inl ⟨d, hd, rfl⟩))))⟩

/-- A blank does not count. -/
lemma number_blank {blank digits : List Char} (hblank : blank = [] ∨ blank = [' ']) :
    py.number (blank ++ digits) = py.number digits := by
  rcases hblank with rfl | rfl
  · rfl
  · have hnone : py.decimal ' ' = none := by
      simpa [PyText.isdigit] using isdigit_space laws
    rw [PyText.number, PyText.number, List.cons_append, List.nil_append,
      List.filterMap_cons_none hnone]

/-- `%d` takes a day if its first digit is an ASCII digit, and the second one too unless it
follows a `1` or a `2`. -/
def takesDay : List Char → Bool
  | [c] => c.isDigit
  | [c, d] => c.isDigit && (c = '1' || c = '2' || d.isDigit)
  | _ => false

/-- The days of a month that `%d` takes are those written so. -/
lemma mem_language_day_iff {day : List Char} (hlength : day.length = 1 ∨ day.length = 2)
    (hdigits : ∀ c ∈ day, py.isdigit c = true) (hpos : 1 ≤ py.number day)
    (hle : py.number day ≤ 31) :
    day ∈ (Directive.day.pattern py).language ↔ takesDay day = true := by
  have hall : ∀ {c : Char} {digits : String}, charIn digits c = true →
      digits.toList.all Char.isDigit = true → c.isDigit = true :=
    fun hc hdigits => List.all_eq_true.mp hdigits _ (of_decide_eq_true hc)
  rw [mem_language_day]
  constructor
  · rintro (⟨d, hd, rfl⟩ | ⟨c, d, hc, hd, rfl⟩ | ⟨d, hd, rfl⟩ | ⟨d, hd, rfl⟩ | ⟨d, hd, rfl⟩)
    · simp [takesDay, hall hd (by decide)]
    · have hc' : c = '1' ∨ c = '2' := by simpa [charIn] using hc
      rcases hc' with rfl | rfl
      · rfl
      · rfl
    · simp [takesDay, hall hd (by decide)]
    · exact hall hd (by decide)
    · have hblank := hdigits ' ' List.mem_cons_self
      rw [isdigit_space laws] at hblank
      cases hblank
  · intro htakes
    rcases hlength with hlength | hlength
    · obtain ⟨c, rfl⟩ := List.length_eq_one_iff.mp hlength
      obtain ⟨n, hn, rfl, hdecimal⟩ := decimal_of_isDigit laws (show c.isDigit = true from htakes)
      rw [number_one hdecimal] at hpos
      have hnine : ∀ n < 10, 1 ≤ n → charIn "123456789" (Char.ofNat ('0'.toNat + n)) = true := by
        decide
      exact Or.inr (Or.inr (Or.inr (Or.inl ⟨_, hnine n hn hpos, rfl⟩)))
    · obtain ⟨c, d, rfl⟩ := List.length_eq_two.mp hlength
      rw [takesDay, Bool.and_eq_true, Bool.or_eq_true, Bool.or_eq_true, decide_eq_true_eq,
        decide_eq_true_eq] at htakes
      obtain ⟨hc, hrest⟩ := htakes
      by_cases hteen : charIn "12" c = true
      · exact Or.inr (Or.inl ⟨c, d, hteen, hdigits d (by simp), rfl⟩)
      · have hd : d.isDigit = true := by
          rcases hrest with (rfl | rfl) | hd
          · exact absurd rfl hteen
          · exact absurd rfl hteen
          · exact hd
        obtain ⟨m, hm, rfl, hmd⟩ := decimal_of_isDigit laws hc
        obtain ⟨n, hn, rfl, hnd⟩ := decimal_of_isDigit laws hd
        rw [number_two hmd hnd] at hpos hle
        have hcases : ∀ m < 10, ∀ n < 10, ¬ (charIn "12" (Char.ofNat ('0'.toNat + m)) = true) ∧
            1 ≤ 10 * m + n ∧ 10 * m + n ≤ 31 →
            (m = 3 ∧ charIn "01" (Char.ofNat ('0'.toNat + n)) = true) ∨
              (m = 0 ∧ charIn "123456789" (Char.ofNat ('0'.toNat + n)) = true) := by
          decide
        rcases hcases m hm n hn ⟨hteen, hpos, hle⟩ with ⟨rfl, hn'⟩ | ⟨rfl, hn'⟩
        · exact Or.inl ⟨_, hn', rfl⟩
        · exact Or.inr (Or.inr (Or.inl ⟨_, hn', rfl⟩))

end Digits

/-! ## Dates in words -/

/-- The directives of month names, with the names that they list. -/
inductive MonthDirective : Directive → List String → Prop
  | name : MonthDirective .monthName monthNames
  | abbreviation : MonthDirective .monthAbbreviation monthAbbreviations

/-- What a format with these month names says of a date in words. -/
def DateWords.reads (w : DateWords py) (names : List String) : Option Date :=
  (names.idxOf? (py.lower (String.ofList w.month))).bind fun index =>
    dateOf (py.number w.year) (index + 1) (py.number w.day)

section Words

variable {directive : Directive} {names : List String} (hmonth : MonthDirective directive names)
include hmonth

lemma mem_language_month {part : List Char} : part ∈ (directive.pattern py).language ↔
    ∃ name ∈ names, List.Forall₂ (fun c d => py.ignoreCase c d = true) name.toList part := by
  have honeOf : part ∈ (Pattern.oneOf (names.map fun name =>
      .text py.ignoreCase name.toList)).language ↔ ∃ name ∈ names,
        List.Forall₂ (fun c d => py.ignoreCase c d = true) name.toList part := by
    simp only [mem_language_oneOf, List.mem_map, exists_exists_and_eq_and, mem_language_text]
  cases hmonth with
  | name => exact honeOf
  | abbreviation => exact honeOf

lemma MonthDirective.lists {index : ℕ} {name : String} (h : names[index]? = some name) :
    Lists name index := by
  cases hmonth with
  | name => exact Or.inl h
  | abbreviation => exact Or.inr h

lemma read_month (parts : DateParts) (text : List Char) :
    directive.read py parts text = (names.idxOf? (py.lower (String.ofList text))).map
      fun index => { parts with month := index + 1 } := by
  cases hmonth with
  | name => cases h : monthNames.idxOf? (py.lower (String.ofList text)) <;> simp [Directive.read, h]
  | abbreviation =>
    cases h : monthAbbreviations.idxOf? (py.lower (String.ofList text)) <;>
      simp [Directive.read, h]

lemma readsAs_monthFirst {month day year spaces spaces' : List Char} :
    readsAs py [directive, .space, .day, .space, .year] [month, spaces, day, spaces', year] =
      (names.idxOf? (py.lower (String.ofList month))).bind fun index =>
        dateOf (py.number year) (index + 1) (py.number day) := by
  simp only [readsAs, List.zip_cons_cons, List.zip_nil_left, List.foldlM_cons, List.foldlM_nil,
    read_month hmonth]
  cases names.idxOf? (py.lower (String.ofList month)) <;> rfl

lemma readsAs_dayFirst {month day year spaces spaces' : List Char} :
    readsAs py [.day, .space, directive, .space, .year] [day, spaces, month, spaces', year] =
      (names.idxOf? (py.lower (String.ofList month))).bind fun index =>
        dateOf (py.number year) (index + 1) (py.number day) := by
  simp only [readsAs, List.zip_cons_cons, List.zip_nil_left, List.foldlM_cons, List.foldlM_nil,
    read_month hmonth]
  cases names.idxOf? (py.lower (String.ofList month)) <;> rfl

variable (laws : py.MentionLaws)
include laws

lemma month_letters_of_language {part : List Char} (h : part ∈ (directive.pattern py).language) :
    part ≠ [] ∧ ∀ c ∈ part, py.isspace c = false ∧ py.isdigit c = false := by
  obtain ⟨name, hname, hpart⟩ := (mem_language_month hmonth).mp h
  obtain ⟨index, hindex⟩ := List.mem_iff_getElem?.mp hname
  obtain ⟨hne, hlower⟩ := (hmonth.lists hindex).lower
  refine ⟨?_, fun c hc => ?_⟩
  · rintro rfl
    exact hne (List.forall₂_nil_right_iff.mp hpart)
  · have hletter := letter_of_names laws hlower hpart c hc
    exact ⟨hletter.1, hletter.2.1⟩

lemma leads_month :
    Leads (directive.pattern py) fun c => py.isspace c = false ∧ py.isdigit c = false := by
  intro part hpart
  obtain ⟨hne, hletters⟩ := month_letters_of_language hmonth laws hpart
  obtain ⟨c, rest, rfl⟩ := List.exists_cons_of_ne_nil hne
  exact ⟨c, rest, rfl, hletters c List.mem_cons_self⟩

omit hmonth in
lemma head_digits {digits rest : List Char} (hne : digits ≠ [])
    (hdigits : ∀ c ∈ digits, py.isdigit c = true) :
    ∀ c ∈ (digits ++ rest).head?, py.isdigit c = true ∧ py.isspace c = false := by
  obtain ⟨d, digits, rfl⟩ := List.exists_cons_of_ne_nil hne
  rintro c ⟨⟩
  have hd := hdigits d List.mem_cons_self
  exact ⟨hd, isspace_of_isdigit laws hd⟩

omit hmonth in
lemma head_spaces {gap rest : List Char} (hgap : IsSpaces py gap) :
    ∀ c ∈ (gap ++ rest).head?, py.isspace c = true ∧ py.isdigit c = false := by
  obtain ⟨d, gap, rfl⟩ := List.exists_cons_of_ne_nil hgap.1
  rintro c ⟨⟩
  have hd := hgap.2 d List.mem_cons_self
  exact ⟨hd, laws.space d hd⟩

omit hmonth in
/-- A year at the end is read whole. -/
lemma year_unique {gap gap' year year' rest : List Char} (hgap : IsSpaces py gap)
    (hgap' : IsSpaces py gap') (hyear : year.length = 4 ∧ ∀ c ∈ year, py.isdigit c = true)
    (hyear' : year'.length = 4 ∧ ∀ c ∈ year', py.isdigit c = true)
    (h : gap' ++ (year' ++ rest) = gap ++ year) : gap' = gap ∧ year' = year ∧ rest = [] := by
  have hhead : ∀ {year rest : List Char}, year.length = 4 → (∀ c ∈ year, py.isdigit c = true) →
      ∀ c ∈ (year ++ rest).head?, py.isspace c = false :=
    fun hlength hdigits c hc => (head_digits laws (ne_nil_of_length hlength) hdigits c hc).2
  obtain ⟨rfl, hrest⟩ := run_unique h hgap'.2 hgap.2 (hhead hyear'.1 hyear'.2)
    (by simpa using @hhead year [] hyear.1 hyear.2)
  rw [← List.append_nil year] at hrest
  obtain ⟨rfl, rfl⟩ := List.append_inj hrest (by rw [hyear.1, hyear'.1])
  exact ⟨rfl, rfl, rfl⟩

/-- A date with the month first falls into the parts of its format in one way, a blank before the
day apart. -/
lemma splits_monthFirst (w : DateWords py) {parts : List (List Char)} {rest : List Char}
    (hparts : Splits ([directive, .space, .day, .space, .year].map (·.pattern py)) parts)
    (hflat : parts.flatten ++ rest = (WrittenDate.monthFirst w).cleaned) :
    rest = [] ∧ w.month ∈ (directive.pattern py).language ∧
      w.day ∈ (Directive.day.pattern py).language ∧ ∃ spaces day,
        parts = [w.month, spaces, day, w.gap', w.year] ∧ py.number day = py.number w.day := by
  simp only [List.map_cons, List.map_nil, List.forall₂_cons_left_iff,
    List.forall₂_nil_left_iff] at hparts
  obtain ⟨month, -, hmonthPart, ⟨spaces, -, hspaces, ⟨day, -, hday, ⟨spaces', -, hspaces',
    ⟨year, -, hyear, rfl, rfl⟩, rfl⟩, rfl⟩, rfl⟩, rfl⟩ := hparts
  have hspaces := mem_language_many1.mp hspaces
  have hspaces' := mem_language_many1.mp hspaces'
  have hyear := mem_language_times.mp hyear
  obtain ⟨blank, digits, rfl, hblank, hne, hdigits, hdayDigits⟩ := day_split laws hday
  simp only [List.flatten_cons, List.flatten_nil, List.append_nil, List.append_assoc,
    WrittenDate.cleaned] at hflat
  have hnotSpace : ∀ {part : List Char}, (∀ c ∈ part, py.isspace c = false) →
      ∀ c ∈ part, (!py.isspace c) = true := fun h c hc => by rw [h c hc]; rfl
  have hstops : ∀ {gap rest : List Char}, IsSpaces py gap →
      ∀ c ∈ (gap ++ rest).head?, (!py.isspace c) = false :=
    fun hgap c hc => by rw [(head_spaces laws hgap c hc).1]; rfl
  obtain ⟨rfl, hafterMonth⟩ := run_unique hflat
    (hnotSpace fun c hc => ((month_letters_of_language hmonth laws hmonthPart).2 c hc).1)
    (hnotSpace fun c hc => (w.month_letters laws c hc).1) (hstops hspaces) (hstops w.gap_spaces)
  have hblankSpaces : ∀ c ∈ spaces ++ blank, py.isspace c = true := by
    intro c hc
    rcases List.mem_append.mp hc with hc | hc
    · exact hspaces.2 c hc
    · rcases hblank with rfl | rfl
      · exact absurd hc List.not_mem_nil
      · rw [List.mem_singleton.mp hc]
        exact laws.blank
  rw [← List.append_assoc] at hafterMonth
  obtain ⟨-, hafterGap⟩ := run_unique hafterMonth hblankSpaces w.gap_spaces.2
    (fun c hc => (head_digits laws hne hdigits c hc).2)
    (fun c hc => (head_digits laws w.day_ne_nil w.day_digits c hc).2)
  obtain ⟨rfl, hafterDay⟩ := run_unique hafterGap hdigits w.day_digits
    (fun c hc => (head_spaces laws hspaces' c hc).2)
    (fun c hc => (head_spaces laws w.gap'_spaces c hc).2)
  obtain ⟨rfl, rfl, rfl⟩ := year_unique laws w.gap'_spaces hspaces'
    ⟨w.year_length, w.year_digits⟩ hyear hafterDay
  exact ⟨rfl, hmonthPart, hdayDigits, spaces, blank ++ w.day, rfl, number_blank laws hblank⟩

/-- A date with the day first falls into the parts of its format in one way. -/
lemma splits_dayFirst (w : DateWords py) {parts : List (List Char)} {rest : List Char}
    (hparts : Splits ([.day, .space, directive, .space, .year].map (·.pattern py)) parts)
    (hflat : parts.flatten ++ rest = (WrittenDate.dayFirst w).cleaned) :
    rest = [] ∧ w.month ∈ (directive.pattern py).language ∧
      w.day ∈ (Directive.day.pattern py).language ∧
      parts = [w.day, w.gap, w.month, w.gap', w.year] := by
  simp only [List.map_cons, List.map_nil, List.forall₂_cons_left_iff,
    List.forall₂_nil_left_iff] at hparts
  obtain ⟨day, -, hday, ⟨spaces, -, hspaces, ⟨month, -, hmonthPart, ⟨spaces', -, hspaces',
    ⟨year, -, hyear, rfl, rfl⟩, rfl⟩, rfl⟩, rfl⟩, rfl⟩ := hparts
  have hspaces := mem_language_many1.mp hspaces
  have hspaces' := mem_language_many1.mp hspaces'
  have hyear := mem_language_times.mp hyear
  obtain ⟨blank, digits, rfl, hblank, hne, hdigits, hdayDigits⟩ := day_split laws hday
  simp only [List.flatten_cons, List.flatten_nil, List.append_nil, List.append_assoc,
    WrittenDate.cleaned] at hflat
  obtain rfl : blank = [] := by
    rcases hblank with hnil | rfl
    · exact hnil
    · have hhead := head_digits laws w.day_ne_nil w.day_digits ' ' (by rw [← hflat]; rfl)
      rw [laws.blank] at hhead
      exact absurd hhead.2 (by decide)
  rw [List.nil_append] at hflat
  obtain ⟨rfl, hafterDay⟩ := run_unique hflat hdigits w.day_digits
    (fun c hc => (head_spaces laws hspaces c hc).2)
    (fun c hc => (head_spaces laws w.gap_spaces c hc).2)
  have hletters := month_letters_of_language hmonth laws hmonthPart
  have hmonthHead : ∀ {month rest : List Char}, month ≠ [] →
      (∀ c ∈ month, py.isspace c = false) → ∀ c ∈ (month ++ rest).head?, py.isspace c = false := by
    intro month rest hne hall
    obtain ⟨d, month, rfl⟩ := List.exists_cons_of_ne_nil hne
    rintro c ⟨⟩
    exact hall d List.mem_cons_self
  obtain ⟨rfl, hafterGap⟩ := run_unique hafterDay hspaces.2 w.gap_spaces.2
    (hmonthHead hletters.1 fun c hc => (hletters.2 c hc).1)
    (hmonthHead w.month_ne_nil fun c hc => (w.month_letters laws c hc).1)
  have hnotSpace : ∀ {part : List Char}, (∀ c ∈ part, py.isspace c = false) →
      ∀ c ∈ part, (!py.isspace c) = true := fun h c hc => by rw [h c hc]; rfl
  have hstops : ∀ {gap rest : List Char}, IsSpaces py gap →
      ∀ c ∈ (gap ++ rest).head?, (!py.isspace c) = false :=
    fun hgap c hc => by rw [(head_spaces laws hgap c hc).1]; rfl
  obtain ⟨rfl, hafterMonth⟩ := run_unique hafterGap
    (hnotSpace fun c hc => (hletters.2 c hc).1)
    (hnotSpace fun c hc => (w.month_letters laws c hc).1) (hstops hspaces')
    (hstops w.gap'_spaces)
  obtain ⟨rfl, rfl, rfl⟩ := year_unique laws w.gap'_spaces hspaces'
    ⟨w.year_length, w.year_digits⟩ hyear hafterMonth
  exact ⟨rfl, hmonthPart, hdayDigits, rfl⟩

/-- What `strptime` reads of a date with the month first. -/
lemma strptime_monthFirst (w : DateWords py) (date : Date) :
    strptime py [directive, .space, .day, .space, .year] (WrittenDate.monthFirst w).cleaned =
        some date ↔
      w.month ∈ (directive.pattern py).language ∧ w.day ∈ (Directive.day.pattern py).language ∧
        w.reads names = some date := by
  by_cases hfits : w.month ∈ (directive.pattern py).language ∧
      w.day ∈ (Directive.day.pattern py).language
  · have hread : strptime py [directive, .space, .day, .space, .year]
        (WrittenDate.monthFirst w).cleaned = w.reads names := by
      refine @strptime_of_unique py _ _ [w.month, w.gap, w.day, w.gap', w.year] _ ?_ ?_ ?_
      · exact .cons hfits.1 (.cons (mem_language_many1.mpr w.gap_spaces) (.cons hfits.2
          (.cons (mem_language_many1.mpr w.gap'_spaces)
            (.cons (mem_language_times.mpr ⟨w.year_length, w.year_digits⟩) .nil))))
      · simp [WrittenDate.cleaned]
      · intro parts rest hparts hflat
        obtain ⟨hrest, -, -, spaces, day, rfl, hday⟩ := splits_monthFirst hmonth laws w hparts hflat
        exact ⟨hrest, by rw [readsAs_monthFirst hmonth, hday, DateWords.reads]⟩
    rw [hread]
    exact ⟨fun h => ⟨hfits.1, hfits.2, h⟩, fun h => h.2.2⟩
  · have hnone : strptime py [directive, .space, .day, .space, .year]
        (WrittenDate.monthFirst w).cleaned = none := by
      refine strptime_eq_none fun parts hparts hflat => hfits ?_
      obtain ⟨-, hmonthPart, hday, -⟩ := splits_monthFirst hmonth laws w hparts
        (by rw [hflat, List.append_nil])
      exact ⟨hmonthPart, hday⟩
    rw [hnone]
    exact ⟨fun h => (by cases h), fun h => absurd ⟨h.1, h.2.1⟩ hfits⟩

/-- What `strptime` reads of a date with the day first. -/
lemma strptime_dayFirst (w : DateWords py) (date : Date) :
    strptime py [.day, .space, directive, .space, .year] (WrittenDate.dayFirst w).cleaned =
        some date ↔
      w.month ∈ (directive.pattern py).language ∧ w.day ∈ (Directive.day.pattern py).language ∧
        w.reads names = some date := by
  by_cases hfits : w.month ∈ (directive.pattern py).language ∧
      w.day ∈ (Directive.day.pattern py).language
  · have hread : strptime py [.day, .space, directive, .space, .year]
        (WrittenDate.dayFirst w).cleaned = w.reads names := by
      refine @strptime_of_unique py _ _ [w.day, w.gap, w.month, w.gap', w.year] _ ?_ ?_ ?_
      · exact .cons hfits.2 (.cons (mem_language_many1.mpr w.gap_spaces) (.cons hfits.1
          (.cons (mem_language_many1.mpr w.gap'_spaces)
            (.cons (mem_language_times.mpr ⟨w.year_length, w.year_digits⟩) .nil))))
      · simp [WrittenDate.cleaned]
      · intro parts rest hparts hflat
        obtain ⟨hrest, -, -, rfl⟩ := splits_dayFirst hmonth laws w hparts hflat
        exact ⟨hrest, by rw [readsAs_dayFirst hmonth, DateWords.reads]⟩
    rw [hread]
    exact ⟨fun h => ⟨hfits.1, hfits.2, h⟩, fun h => h.2.2⟩
  · have hnone : strptime py [.day, .space, directive, .space, .year]
        (WrittenDate.dayFirst w).cleaned = none := by
      refine strptime_eq_none fun parts hparts hflat => hfits ?_
      obtain ⟨-, hmonthPart, hday, -⟩ := splits_dayFirst hmonth laws w hparts
        (by rw [hflat, List.append_nil])
      exact ⟨hmonthPart, hday⟩
    rw [hnone]
    exact ⟨fun h => (by cases h), fun h => absurd ⟨h.1, h.2.1⟩ hfits⟩

end Words

/-! ## Formats that do not fit -/

lemma strptime_of_leads {directive : Directive} {P : Char → Prop}
    (hlead : Leads (directive.pattern py) P) (htext : ∀ c ∈ text.head?, ¬ P c) :
    strptime py (directive :: format) text = none := by
  refine strptime_eq_none fun parts hparts hflat => ?_
  exact not_splits_of_leads hlead htext hparts (by rw [List.append_nil, hflat])

section Misfits

variable (laws : py.MentionLaws)
include laws

/-- The directives that begin with a number. -/
inductive NumberDirective : Directive → Prop
  | day : NumberDirective .day
  | year : NumberDirective .year

lemma number_split {directive : Directive} (h : NumberDirective directive) {part : List Char}
    (hpart : part ∈ (directive.pattern py).language) : ∃ blank digits, part = blank ++ digits ∧
      (blank = [] ∨ blank = [' ']) ∧ digits ≠ [] ∧ ∀ c ∈ digits, py.isdigit c = true := by
  cases h with
  | day =>
    obtain ⟨blank, digits, heq, hblank, hne, hdigits, -⟩ := day_split laws hpart
    exact ⟨blank, digits, heq, hblank, hne, hdigits⟩
  | year =>
    obtain ⟨hlength, hdigits⟩ := mem_language_times.mp hpart
    exact ⟨[], part, rfl, Or.inl rfl, ne_nil_of_length hlength, hdigits⟩

lemma leads_number {directive : Directive} (h : NumberDirective directive) :
    Leads (directive.pattern py) fun c => py.isdigit c = true ∨ py.isspace c = true := by
  intro part hpart
  obtain ⟨blank, digits, rfl, hblank, hne, hdigits⟩ := number_split laws h hpart
  rcases hblank with rfl | rfl
  · obtain ⟨c, digits, rfl⟩ := List.exists_cons_of_ne_nil hne
    exact ⟨c, digits, rfl, Or.inl (hdigits c List.mem_cons_self)⟩
  · exact ⟨' ', digits, rfl, Or.inr laws.blank⟩

/-- A number that something else follows than the format has. -/
lemma strptime_of_second {directive second : Directive} (h : NumberDirective directive)
    {P : Char → Prop} (hsecond : Leads (second.pattern py) P)
    (hP : ∀ c, P c → py.isdigit c = false) {digits rest : List Char} (hne : digits ≠ [])
    (hdigits : ∀ c ∈ digits, py.isdigit c = true)
    (hrest : ∀ c ∈ rest.head?, py.isdigit c = false ∧ ¬ P c) :
    strptime py (directive :: second :: format) (digits ++ rest) = none := by
  refine strptime_eq_none fun parts hparts hflat => ?_
  obtain ⟨part, parts, hpart, hafter, rfl⟩ := List.forall₂_cons_left_iff.mp hparts
  obtain ⟨part', parts, hpart', -, rfl⟩ := List.forall₂_cons_left_iff.mp hafter
  obtain ⟨blank, digits', rfl, hblank, hne', hdigits'⟩ := number_split laws h hpart
  obtain ⟨c, more, rfl, hc⟩ := hsecond part' hpart'
  simp only [List.flatten_cons, List.append_assoc] at hflat
  obtain rfl : blank = [] := by
    rcases hblank with hnil | rfl
    · exact hnil
    · have hhead := head_digits laws hne hdigits ' ' (by rw [← hflat]; rfl)
      rw [laws.blank] at hhead
      exact absurd hhead.2 (by decide)
  rw [List.nil_append] at hflat
  obtain ⟨-, hsame⟩ := run_unique hflat hdigits' hdigits
    (by rintro d ⟨⟩; exact hP c hc) (fun d hd => (hrest d hd).1)
  exact (hrest c (by rw [← hsame]; rfl)).2 hc

omit laws in
lemma leads_space : Leads (Directive.space.pattern py) fun c => py.isspace c = true := by
  intro part hpart
  obtain ⟨hne, hall⟩ := mem_language_many1.mp hpart
  obtain ⟨c, rest, rfl⟩ := List.exists_cons_of_ne_nil hne
  exact ⟨c, rest, rfl, hall c List.mem_cons_self⟩

lemma leads_literal {sign : Char} (hsign : sign ∈ mentionSigns) :
    Leads ((Directive.literal sign).pattern py) (· = sign) := by
  rintro part ⟨c, hc, rfl⟩
  exact ⟨c, [], rfl, (laws.literal sign c hsign).mp hc⟩

lemma isdigit_sign {sign : Char} (hsign : sign ∈ mentionSigns) :
    ∀ c, c = sign → py.isdigit c = false := by
  rintro c rfl
  exact (laws.sign c (Or.inr hsign)).2

/-- The formats of the other order and of numbers do not fit a date with the month first. -/
lemma parseDeadline_monthFirst (w : DateWords py) :
    parseDeadline py (String.ofList (WrittenDate.monthFirst w).text) =
      (strptime py [.monthName, .space, .day, .space, .year] (WrittenDate.monthFirst w).cleaned).or
        (strptime py [.monthAbbreviation, .space, .day, .space, .year]
          (WrittenDate.monthFirst w).cleaned) := by
  have hnumber : ∀ {directive : Directive} {format : List Directive}, NumberDirective directive →
      strptime py (directive :: format) (WrittenDate.monthFirst w).cleaned = none := by
    intro directive format h
    refine strptime_of_leads (leads_number laws h) ?_
    obtain ⟨d, rest, hd⟩ := List.exists_cons_of_ne_nil w.month_ne_nil
    intro c hc
    rw [WrittenDate.cleaned, hd] at hc
    obtain rfl := Option.some.inj hc
    have hletter := w.month_letters laws d (by rw [hd]; exact List.mem_cons_self)
    rw [hletter.1, hletter.2.1]
    decide
  simp only [parseDeadline, cleanedDeadline_text laws, deadlineFormats, List.findSome?_cons,
    List.findSome?_nil, hnumber .day, hnumber .year]
  cases strptime py [.monthName, .space, .day, .space, .year] (WrittenDate.monthFirst w).cleaned <;>
    cases strptime py [.monthAbbreviation, .space, .day, .space, .year]
      (WrittenDate.monthFirst w).cleaned <;> rfl

/-- The formats of the other order and of numbers do not fit a date with the day first. -/
lemma parseDeadline_dayFirst (w : DateWords py) :
    parseDeadline py (String.ofList (WrittenDate.dayFirst w).text) =
      (strptime py [.day, .space, .monthName, .space, .year] (WrittenDate.dayFirst w).cleaned).or
        (strptime py [.day, .space, .monthAbbreviation, .space, .year]
          (WrittenDate.dayFirst w).cleaned) := by
  have hmonth : ∀ {directive : Directive} {names : List String} {format : List Directive},
      MonthDirective directive names →
      strptime py (directive :: format) (WrittenDate.dayFirst w).cleaned = none := by
    intro directive names format h
    refine strptime_of_leads (leads_month h laws) fun c hc hletter => ?_
    rw [(head_digits laws w.day_ne_nil w.day_digits c hc).1] at hletter
    exact absurd hletter.2 (by decide)
  have hsign : ∀ {directive : Directive} {sign : Char} {format : List Directive},
      NumberDirective directive → sign ∈ mentionSigns →
      strptime py (directive :: .literal sign :: format) (WrittenDate.dayFirst w).cleaned =
        none := by
    intro directive sign format h hsign
    refine strptime_of_second laws h (leads_literal laws hsign) (isdigit_sign laws hsign)
      w.day_ne_nil w.day_digits fun c hc => ?_
    have hspace := head_spaces laws w.gap_spaces c hc
    refine ⟨hspace.2, ?_⟩
    rintro rfl
    rw [(laws.sign c (Or.inr hsign)).1] at hspace
    exact absurd hspace.1 (by decide)
  simp only [parseDeadline, cleanedDeadline_text laws, deadlineFormats, List.findSome?_cons,
    List.findSome?_nil, hmonth .name, hmonth .abbreviation, @hsign _ '-' _ .year (by decide),
    @hsign _ '/' _ .day (by decide)]
  cases strptime py [.day, .space, .monthName, .space, .year] (WrittenDate.dayFirst w).cleaned <;>
    cases strptime py [.day, .space, .monthAbbreviation, .space, .year]
      (WrittenDate.dayFirst w).cleaned <;> rfl

/-- Only the format of numbers fits a date in numbers. -/
lemma parseDeadline_iso (w : DateNumbers py) :
    parseDeadline py (String.ofList (WrittenDate.iso w).text) =
      strptime py [.year, .literal '-', .month, .literal '-', .day]
        (WrittenDate.iso w).cleaned := by
  have hmonth : ∀ {directive : Directive} {names : List String} {format : List Directive},
      MonthDirective directive names →
      strptime py (directive :: format) (WrittenDate.iso w).cleaned = none := by
    intro directive names format h
    refine strptime_of_leads (leads_month h laws) fun c hc hletter => ?_
    rw [(head_digits laws (ne_nil_of_length w.year_length) w.year_digits c hc).1] at hletter
    exact absurd hletter.2 (by decide)
  have hdash : '-' ∈ mentionSigns := by decide
  have hafter : ∀ {rest : List Char} {P : Char → Prop}, ¬ P '-' →
      ∀ c ∈ (['-'] ++ rest).head?, py.isdigit c = false ∧ ¬ P c := by
    rintro rest P hP c ⟨⟩
    exact ⟨(laws.sign '-' (Or.inr hdash)).2, hP⟩
  have hspace : ∀ {format : List Directive},
      strptime py (.day :: .space :: format) (WrittenDate.iso w).cleaned = none := fun {_} =>
    strptime_of_second laws .day leads_space laws.space (ne_nil_of_length w.year_length)
      w.year_digits (hafter (by rw [(laws.sign '-' (Or.inr hdash)).1]; decide))
  have hslash : ∀ {format : List Directive},
      strptime py (.day :: .literal '/' :: format) (WrittenDate.iso w).cleaned = none := fun {_} =>
    strptime_of_second laws .day (leads_literal laws (by decide)) (isdigit_sign laws (by decide))
      (ne_nil_of_length w.year_length) w.year_digits (hafter (by decide))
  simp only [parseDeadline, cleanedDeadline_text laws, deadlineFormats, List.findSome?_cons,
    List.findSome?_nil, hmonth .name, hmonth .abbreviation, hspace, hslash]
  cases strptime py [.year, .literal '-', .month, .literal '-', .day]
    (WrittenDate.iso w).cleaned <;> rfl

end Misfits

/-! ## Dates in numbers -/

section Numbers

variable (laws : py.MentionLaws)
include laws

omit laws in
lemma mem_language_monthNumber {part : List Char} :
    part ∈ (Directive.month.pattern py).language ↔
      (∃ d, charIn "012" d = true ∧ part = ['1', d]) ∨
      (∃ d, charIn "123456789" d = true ∧ part = ['0', d]) ∨
      (∃ d, charIn "123456789" d = true ∧ part = [d]) := by
  have hpair : ∀ {c : Char} {p : Char → Bool},
      part ∈ (Pattern.seq (.char (· = c)) (.char p)).language ↔
        ∃ d, p d = true ∧ part = [c, d] := by
    intro c p
    rw [mem_language_seq]
    constructor
    · rintro ⟨-, ⟨e, he, rfl⟩, -, ⟨d, hd, rfl⟩, rfl⟩
      exact ⟨d, hd, by rw [of_decide_eq_true he]; rfl⟩
    · rintro ⟨d, hd, rfl⟩
      exact ⟨[c], ⟨c, decide_eq_true rfl, rfl⟩, [d], ⟨d, hd, rfl⟩, rfl⟩
  simp only [Directive.pattern, mem_language_oneOf, List.mem_cons, List.not_mem_nil, or_false,
    exists_eq_or_imp, exists_eq_left, hpair, mem_language_char]

lemma monthNumber_digits {part : List Char}
    (h : part ∈ (Directive.month.pattern py).language) : ∀ c ∈ part, py.isdigit c = true := by
  have hzero : py.isdigit '0' = true := isdigit_of_isDigit laws (by decide)
  have hone : py.isdigit '1' = true := isdigit_of_isDigit laws (by decide)
  rcases mem_language_monthNumber.mp h with ⟨d, hd, rfl⟩ | ⟨d, hd, rfl⟩ | ⟨d, hd, rfl⟩
  · simp [hone, isdigit_of_charIn laws hd (by decide)]
  · simp [hzero, isdigit_of_charIn laws hd (by decide)]
  · simp [isdigit_of_charIn laws hd (by decide)]

/-- The months that `%m` takes are written in ASCII digits. -/
lemma mem_language_month_iff {month : List Char} (hlength : month.length = 2)
    (hpos : 1 ≤ py.number month) (hle : py.number month ≤ 12) :
    month ∈ (Directive.month.pattern py).language ↔ month.all Char.isDigit = true := by
  have hall : ∀ {c : Char} {digits : String}, charIn digits c = true →
      digits.toList.all Char.isDigit = true → c.isDigit = true :=
    fun hc hdigits => List.all_eq_true.mp hdigits _ (of_decide_eq_true hc)
  obtain ⟨c, d, rfl⟩ := List.length_eq_two.mp hlength
  rw [mem_language_monthNumber]
  constructor
  · rintro (⟨e, he, heq⟩ | ⟨e, he, heq⟩ | ⟨e, he, heq⟩)
    · obtain ⟨rfl, rfl, -⟩ : c = '1' ∧ d = e ∧ True := by simpa using heq
      simp [hall he (by decide)]
    · obtain ⟨rfl, rfl, -⟩ : c = '0' ∧ d = e ∧ True := by simpa using heq
      simp [hall he (by decide)]
    · cases heq
  · intro hdigits
    simp only [List.all_cons, List.all_nil, Bool.and_true, Bool.and_eq_true] at hdigits
    obtain ⟨m, hm, rfl, hmd⟩ := decimal_of_isDigit laws hdigits.1
    obtain ⟨n, hn, rfl, hnd⟩ := decimal_of_isDigit laws hdigits.2
    rw [number_two hmd hnd] at hpos hle
    have hcases : ∀ m < 10, ∀ n < 10, 1 ≤ 10 * m + n ∧ 10 * m + n ≤ 12 →
        (m = 1 ∧ charIn "012" (Char.ofNat ('0'.toNat + n)) = true) ∨
          (m = 0 ∧ charIn "123456789" (Char.ofNat ('0'.toNat + n)) = true) := by
      decide
    rcases hcases m hm n hn ⟨hpos, hle⟩ with ⟨rfl, hn'⟩ | ⟨rfl, hn'⟩
    · exact Or.inl ⟨_, hn', rfl⟩
    · exact Or.inr (Or.inl ⟨_, hn', rfl⟩)

/-- A date in numbers falls into the parts of its format in one way, up to the day. -/
lemma splits_iso (w : DateNumbers py) {parts : List (List Char)} {rest : List Char}
    (hparts : Splits ([Directive.year, .literal '-', .month, .literal '-'].map (·.pattern py))
      parts)
    (hflat : parts.flatten ++ rest = (WrittenDate.iso w).cleaned) :
    parts = [w.year, ['-'], w.month, ['-']] ∧ w.month ∈ (Directive.month.pattern py).language ∧
      rest = w.day := by
  have hdash : py.isdigit '-' = false := (laws.sign '-' (by decide)).2
  have hstops : ∀ {rest : List Char}, ∀ c ∈ (['-'] ++ rest).head?, py.isdigit c = false := by
    rintro rest c ⟨⟩
    exact hdash
  simp only [List.map_cons, List.map_nil, List.forall₂_cons_left_iff,
    List.forall₂_nil_left_iff] at hparts
  obtain ⟨year, -, hyear, ⟨-, -, ⟨dash, hdash, rfl⟩, ⟨month, -, hmonth,
    ⟨-, -, ⟨dash', hdash', rfl⟩, rfl, rfl⟩, rfl⟩, rfl⟩, rfl⟩ := hparts
  obtain rfl := (laws.literal '-' dash (by decide)).mp hdash
  obtain rfl := (laws.literal '-' dash' (by decide)).mp hdash'
  have hyear := mem_language_times.mp hyear
  simp only [List.flatten_cons, List.flatten_nil, List.append_nil, List.append_assoc,
    WrittenDate.cleaned] at hflat
  obtain ⟨rfl, hafterYear⟩ := run_unique hflat hyear.2 w.year_digits hstops hstops
  obtain ⟨rfl, hafterMonth⟩ := run_unique (List.append_cancel_left hafterYear)
    (monthNumber_digits laws hmonth) w.month_digits hstops hstops
  exact ⟨rfl, hmonth, List.append_cancel_left hafterMonth⟩

/-- A day that `%d` takes is taken whole. -/
lemma day_ends_head {day before : List Char} (hlength : day.length = 2)
    (hdigits : ∀ c ∈ day, py.isdigit c = true)
    (hday : day ∈ (Directive.day.pattern py).language) :
    ((Directive.day.pattern py).ends ⟨before, day⟩).head? =
      some ⟨day.reverse ++ before, []⟩ := by
  rcases mem_language_day.mp hday with ⟨d, hd, rfl⟩ | ⟨c, d, hc, hd, rfl⟩ | ⟨d, hd, rfl⟩ |
    ⟨d, hd, rfl⟩ | ⟨d, hd, rfl⟩
  · simp [Directive.pattern, Pattern.oneOf, ends, hd]
  · have hthree : c ≠ '3' := by
      rintro rfl
      exact absurd hc (by decide)
    simp [Directive.pattern, Pattern.oneOf, ends, hc, hd, hthree]
  · have hteen : charIn "12" '0' = false := by decide
    simp [Directive.pattern, Pattern.oneOf, ends, hd, hteen]
  · cases hlength
  · have hblank := hdigits ' ' List.mem_cons_self
    rw [isdigit_space laws] at hblank
    cases hblank

/-- What `strptime` reads of a date in numbers. -/
lemma strptime_iso (w : DateNumbers py) (date : Date) :
    strptime py [.year, .literal '-', .month, .literal '-', .day] (WrittenDate.iso w).cleaned =
        some date ↔
      w.month ∈ (Directive.month.pattern py).language ∧
        w.day ∈ (Directive.day.pattern py).language ∧ (WrittenDate.iso w).date = some date := by
  by_cases hfits : w.month ∈ (Directive.month.pattern py).language ∧
      w.day ∈ (Directive.day.pattern py).language
  · have hread : strptime py [.year, .literal '-', .month, .literal '-', .day]
        (WrittenDate.iso w).cleaned = (WrittenDate.iso w).date := by
      have hdash : ['-'] ∈ ((Directive.literal '-').pattern py).language :=
        ⟨'-', (laws.literal '-' '-' (by decide)).mpr rfl, rfl⟩
      have hplain : ∀ a ∈ [Directive.year, .literal '-', .month, .literal '-'].map (·.pattern py),
          a.Plain := by
        intro a ha
        obtain ⟨directive, -, rfl⟩ := List.mem_map.mp ha
        exact plain_pattern directive
      have hsplits : Splits ([Directive.year, .literal '-', .month, .literal '-'].map
          (·.pattern py)) [w.year, ['-'], w.month, ['-']] :=
        .cons (mem_language_times.mpr ⟨w.year_length, w.year_digits⟩) (.cons hdash
          (.cons hfits.1 (.cons hdash .nil)))
      let start : Place := ⟨[], (WrittenDate.iso w).cleaned⟩
      let last : Place := ⟨[w.year, ['-'], w.month, ['-']].flatten.reverse, w.day⟩
      have hpasses : Passes start [w.year, ['-'], w.month, ['-']].flatten last := by
        simp [Passes, start, last, WrittenDate.cleaned]
      have hmem := mem_groups_of_splits hplain hsplits hpasses
      have hunique : ∀ found ∈ groups ([Directive.year, .literal '-', .month, .literal '-'].map
          (·.pattern py)) start, found = ([w.year, ['-'], w.month, ['-']], last) := by
        rintro ⟨parts, ⟨before, after⟩⟩ hfound
        obtain ⟨hparts, hsame, hbefore⟩ := splits_of_mem_groups hfound
        obtain ⟨rfl, -, rfl⟩ := splits_iso laws w hparts hsame.symm
        simp only [start, List.append_nil] at hbefore
        rw [hbefore]
      have hhead := head_groups_concat hmem hunique
        (day_ends_head laws w.day_length w.day_digits hfits.2)
      have hbetween : between last ⟨w.day.reverse ++ last.before, []⟩ = w.day := by
        simp [between, last]
      rw [hbetween] at hhead
      exact @strptime_of_head py [.year, .literal '-', .month, .literal '-', .day] _ _ _ hhead
    rw [hread]
    exact ⟨fun h => ⟨hfits.1, hfits.2, h⟩, fun h => h.2.2⟩
  · have hnone : strptime py [.year, .literal '-', .month, .literal '-', .day]
        (WrittenDate.iso w).cleaned = none := by
      refine strptime_eq_none fun parts hparts hflat => hfits ?_
      have htake := List.forall₂_take 4 hparts
      have hdrop := List.forall₂_drop 4 hparts
      have hsame : (parts.take 4).flatten ++ (parts.drop 4).flatten =
          (WrittenDate.iso w).cleaned := by
        rw [← List.flatten_append, List.take_append_drop, hflat]
      obtain ⟨-, hmonth, hday⟩ := splits_iso laws w htake hsame
      obtain ⟨day, rest, hpart, hrest, hparts'⟩ := List.forall₂_cons_left_iff.mp hdrop
      obtain rfl := List.forall₂_nil_left_iff.mp hrest
      rw [hparts', List.flatten_cons, List.flatten_nil, List.append_nil] at hday
      exact ⟨hmonth, hday ▸ hpart⟩
    rw [hnone]
    exact ⟨fun h => (by cases h), fun h => absurd ⟨h.1, h.2.1⟩ hfits⟩

end Numbers

end ScholarshipFinder
