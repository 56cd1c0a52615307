import ScholarshipFinder.Domain.Extraction
import ScholarshipFinder.Lib.Language

/-!
# Amounts that are found are read

`extract_candidate_facts` finds amounts by one regular expression and `parse_amount` reads them by
another.  A mention of the first is a currency and a figure; the second splits it there, as it can
be split in no other way.
-/

namespace ScholarshipFinder

open Lib Pattern

/-- The signs that amounts and dates are written with, besides letters and digits. -/
def mentionSigns : List Char := ['£', '$', '€', ',', '.', '-', '/']

/-- What is used of the Unicode tables that the regular expressions read. -/
structure PyText.MentionLaws (py : PyText) : Prop where
  /-- `str.strip` takes away white space at the ends. -/
  strip : ∀ s, ∃ before after, s.toList = before ++ (py.strip s).toList ++ after ∧
    ∀ c ∈ before ++ after, py.isspace c = true
  decimal : ∀ n < 10, py.decimal (Char.ofNat ('0'.toNat + n)) = some n
  blank : py.isspace ' ' = true
  space : ∀ c, py.isspace c = true → py.isdigit c = false
  sign : ∀ c, isAsciiUpper c = true ∨ c ∈ mentionSigns →
    py.isspace c = false ∧ py.isdigit c = false
  /-- What matches a letter is neither white space nor a digit nor a sign. -/
  letter : ∀ a c, a.isLower = true → py.ignoreCase a c = true →
    py.isspace c = false ∧ py.isdigit c = false ∧ c ∉ mentionSigns
  upper : ∀ a c, isAsciiUpper a = true → py.ignoreCase a c = py.ignoreCase a.toLower c
  /-- Nothing matches two letters. -/
  same : ∀ a b c, a.isLower = true → b.isLower = true → py.ignoreCase a c = true →
    py.ignoreCase b c = true → a = b
  /-- A sign has no case. -/
  literal : ∀ a c, a ∈ mentionSigns → (py.ignoreCase a c = true ↔ c = a)

variable {py : PyText}

/-! ## Texts without white space at the ends -/

/-- A text that neither begins nor ends with white space stays as it is. -/
lemma PyText.MentionLaws.strip_eq (laws : py.MentionLaws) {s : List Char}
    (hhead : ∀ c ∈ s.head?, py.isspace c = false)
    (hlast : ∀ c ∈ s.getLast?, py.isspace c = false) :
    py.strip (String.ofList s) = String.ofList s := by
  obtain ⟨before, after, hsplit, hspace⟩ := laws.strip (String.ofList s)
  rw [String.toList_ofList] at hsplit
  obtain rfl : before = [] := by
    cases before with
    | nil => rfl
    | cons c before =>
      have hc := hspace c (List.mem_append_left _ List.mem_cons_self)
      rw [hhead c (by rw [hsplit]; rfl)] at hc
      cases hc
  obtain rfl : after = [] := by
    rcases List.eq_nil_or_concat after with rfl | ⟨after, c, rfl⟩
    · rfl
    · have hc := hspace c (by simp)
      rw [hlast c (by rw [hsplit]; simp)] at hc
      cases hc
  rw [List.nil_append, List.append_nil] at hsplit
  rw [← String.toList_inj, String.toList_ofList, ← hsplit]

/-! ## Numbers -/

@[simp] lemma number_nil : py.number [] = 0 := rfl

lemma isdigit_iff {c : Char} : py.isdigit c = true ↔ ∃ n, py.decimal c = some n :=
  Option.isSome_iff_exists

lemma length_filterMap_decimal {digits : List Char} (h : ∀ c ∈ digits, py.isdigit c = true) :
    (digits.filterMap py.decimal).length = digits.length := by
  induction digits with
  | nil => rfl
  | cons c digits ih =>
    obtain ⟨n, hn⟩ := isdigit_iff.mp (h c List.mem_cons_self)
    rw [List.filterMap_cons_some hn, List.length_cons, List.length_cons,
      ih fun d hd => h d (List.mem_cons_of_mem c hd)]

/-- Digits at the end make a number greater by their places. -/
lemma number_append {s digits : List Char} (h : ∀ c ∈ digits, py.isdigit c = true) :
    py.number (s ++ digits) = py.number s * 10 ^ digits.length + py.number digits := by
  rw [PyText.number, List.filterMap_append, List.reverse_append, Nat.ofDigits_append,
    List.length_reverse, length_filterMap_decimal h, PyText.number, PyText.number]
  ring

/-- Characters that are no digits do not count. -/
lemma number_filter (s : List Char) : py.number (s.filter py.isdigit) = py.number s := by
  have hfilter : (s.filter py.isdigit).filterMap py.decimal = s.filterMap py.decimal := by
    induction s with
    | nil => rfl
    | cons c s ih =>
      cases hc : py.decimal c with
      | none =>
        rw [List.filter_cons_of_neg (by simp [PyText.isdigit, hc]), List.filterMap_cons_none hc, ih]
      | some n =>
        rw [List.filter_cons_of_pos (by simp [PyText.isdigit, hc]), List.filterMap_cons_some hc,
          List.filterMap_cons_some hc, ih]
  rw [PyText.number, PyText.number, hfilter]

/-! ## Figures -/

/-- A figure as it is written: a digit, more of them and commas, and a fraction. -/
structure Figure (py : PyText) where
  first : Char
  rest : List Char
  fraction : List Char
  first_digit : py.isdigit first = true
  rest_digits : ∀ c ∈ rest, py.isdigit c = true ∨ c = ','
  fraction_digits : fraction = [] ∨
    ∃ digits, digits ≠ [] ∧ (∀ c ∈ digits, py.isdigit c = true) ∧ fraction = '.' :: digits

namespace Figure

variable (figure : Figure py)

def whole : List Char := figure.first :: figure.rest

def text : List Char := figure.whole ++ figure.fraction

/-- The number that is written: the whole part and the fraction. -/
def value : ℚ :=
  py.number figure.whole + py.number figure.fraction / 10 ^ (figure.fraction.length - 1)

lemma whole_digits : ∀ c ∈ figure.whole, (py.isdigit c || decide (c = ',')) = true := by
  intro c hc
  rcases List.mem_cons.mp hc with rfl | hc
  · rw [figure.first_digit, Bool.true_or]
  · simpa using figure.rest_digits c hc

/-- `Decimal` reads the number. -/
lemma decimalOf_eq (laws : py.MentionLaws) :
    decimalOf py figure.whole figure.fraction = some figure.value := by
  have hfirst : figure.first ∈ (figure.whole ++ figure.fraction).filter py.isdigit :=
    List.mem_filter.mpr ⟨by simp [whole], figure.first_digit⟩
  have hne : (figure.whole ++ figure.fraction).filter py.isdigit ≠ [] := List.ne_nil_of_mem hfirst
  simp only [decimalOf, if_neg hne, number_filter, value]
  congr 1
  rcases figure.fraction_digits with hnil | ⟨digits, -, hdigits, hfraction⟩
  · rw [hnil]
    simp
  · have hpoint : py.isdigit '.' = false := (laws.sign '.' (by decide)).2
    have hfilter : figure.fraction.filter py.isdigit = digits := by
      rw [hfraction, List.filter_cons_of_neg (by simp [hpoint]), List.filter_eq_self]
      exact hdigits
    have hnumber : py.number (figure.whole ++ figure.fraction) =
        py.number (figure.whole ++ digits) := by
      have hsame : (figure.whole ++ figure.fraction).filter py.isdigit =
          (figure.whole ++ digits).filter py.isdigit := by
        rw [List.filter_append, List.filter_append, hfilter, List.filter_eq_self.mpr hdigits]
      rw [← number_filter (figure.whole ++ figure.fraction), hsame, number_filter]
    have hdots : py.number figure.fraction = py.number digits := by
      rw [← number_filter, hfilter]
    rw [hfilter, hnumber, hdots, number_append hdigits, hfraction, List.length_cons,
      Nat.add_sub_cancel]
    push_cast
    field_simp

end Figure

/-- What does not go on with a figure. -/
def EndsFigure (py : PyText) (rest : List Char) : Prop :=
  ∀ c ∈ rest.head?, py.isdigit c = false ∧ c ≠ ',' ∧ c ≠ '.'

/-- The figure is told by the text, if what follows it does not go on with it. -/
lemma figure_unique (laws : py.MentionLaws) (figure : Figure py)
    {whole fraction rest rest' : List Char}
    (hwhole : ∀ c ∈ whole, (py.isdigit c || decide (c = ',')) = true)
    (hfraction : fraction = [] ∨
      ∃ digits, (∀ c ∈ digits, py.isdigit c = true) ∧ fraction = '.' :: digits)
    (hrest : EndsFigure py rest) (hrest' : EndsFigure py rest')
    (h : figure.whole ++ (figure.fraction ++ rest) = whole ++ (fraction ++ rest')) :
    figure.whole = whole ∧ figure.fraction = fraction ∧ rest = rest' := by
  have hpoint : py.isdigit '.' = false := (laws.sign '.' (by decide)).2
  have hends : ∀ {fraction rest : List Char}, EndsFigure py rest →
      (fraction = [] ∨ ∃ digits, (∀ c ∈ digits, py.isdigit c = true) ∧ fraction = '.' :: digits) →
      ∀ c ∈ (fraction ++ rest).head?, (py.isdigit c || decide (c = ',')) = false := by
    rintro fraction rest hrest (rfl | ⟨digits, -, rfl⟩) c hc
    · obtain ⟨hdigit, hcomma, -⟩ := hrest c hc
      simp [hdigit, hcomma]
    · obtain rfl := Option.some.inj hc
      simp [hpoint]
  have hstart : ∀ {rest digits more : List Char}, EndsFigure py rest →
      rest ≠ '.' :: digits ++ more := by
    rintro rest digits more hrest rfl
    exact (hrest '.' rfl).2.2 rfl
  have hfraction' : figure.fraction = [] ∨
      ∃ digits, (∀ c ∈ digits, py.isdigit c = true) ∧ figure.fraction = '.' :: digits := by
    rcases figure.fraction_digits with hnil | ⟨digits, -, hdigits, heq⟩
    · exact Or.inl hnil
    · exact Or.inr ⟨digits, hdigits, heq⟩
  obtain ⟨hsame, hafter⟩ := run_unique h figure.whole_digits hwhole (hends hrest hfraction')
    (hends hrest' hfraction)
  refine ⟨hsame, ?_⟩
  have hdigit : ∀ {rest : List Char}, EndsFigure py rest → ∀ c ∈ rest.head?,
      py.isdigit c = false := fun hrest c hc => (hrest c hc).1
  rcases hfraction' with hnil | ⟨digits, hdigits, heq⟩ <;>
    rcases hfraction with hnil' | ⟨digits', hdigits', heq'⟩
  · rw [hnil, hnil'] at hafter
    exact ⟨by rw [hnil, hnil'], hafter⟩
  · rw [hnil, heq'] at hafter
    exact absurd hafter (hstart hrest)
  · rw [heq, hnil'] at hafter
    exact absurd hafter.symm (hstart hrest')
  · rw [heq, heq', List.cons_append, List.cons_append] at hafter
    obtain ⟨hdigits'', hrest''⟩ := run_unique (List.cons.inj hafter).2 hdigits hdigits'
      (hdigit hrest) (hdigit hrest')
    exact ⟨by rw [heq, heq', hdigits''], hrest''⟩

/-! ## Amounts as they are written -/

/-- White space between a currency and a figure. -/
def IsGap (py : PyText) (gap : List Char) : Prop :=
  gap = [] ∨ ∃ c, py.isspace c = true ∧ gap = [c]

/-- A currency and a figure, in either order. -/
inductive WrittenAmount (py : PyText)
  /-- `£13,000` -/
  | symbol (sign : Char) (hsign : charIn "£$€" sign = true) (gap : List Char)
    (hgap : IsGap py gap) (figure : Figure py)
  /-- `EUR 992` -/
  | codeFirst (code : List Char) (hcode : code ∈ currencyCodes.map String.toList)
    (gap : List Char) (hgap : IsGap py gap) (figure : Figure py)
  /-- `992 EUR` -/
  | codeLast (figure : Figure py) (gap : List Char) (hgap : IsGap py gap) (code : List Char)
    (hcode : code ∈ currencyCodes.map String.toList)

namespace WrittenAmount

def text : WrittenAmount py → List Char
  | symbol sign _ gap _ figure => sign :: gap ++ figure.text
  | codeFirst code _ gap _ figure => code ++ gap ++ figure.text
  | codeLast figure gap _ code _ => figure.text ++ gap ++ code

def currency : WrittenAmount py → String
  | symbol sign _ _ _ _ => String.ofList [sign]
  | codeFirst code _ _ _ _ => String.ofList code
  | codeLast _ _ _ code _ => String.ofList code

def value : WrittenAmount py → ℚ
  | symbol _ _ _ _ figure => figure.value
  | codeFirst _ _ _ _ figure => figure.value
  | codeLast figure _ _ _ _ => figure.value

/-- The currency and the number that are written, the three currencies that have a symbol by it. -/
def amount (w : WrittenAmount py) : String × ℚ :=
  ((currencyAliases.lookup w.currency).getD w.currency, w.value)

end WrittenAmount

/-! ## What is found is written so -/

lemma mem_language_sequence {as : List Pattern} {part : List Char} :
    part ∈ (sequence as).language ↔ ∃ parts, Splits as parts ∧ parts.flatten = part := by
  induction as generalizing part with
  | nil =>
    rw [sequence, mem_language_empty]
    constructor
    · rintro rfl
      exact ⟨[], List.Forall₂.nil, rfl⟩
    · rintro ⟨parts, hparts, rfl⟩
      rw [List.forall₂_nil_left_iff.mp hparts, List.flatten_nil]
  | cons a as ih =>
    have hseq : part ∈ (sequence (a :: as)).language ↔
        ∃ first ∈ a.language, ∃ rest ∈ (sequence as).language, first ++ rest = part := by
      cases as with
      | nil => simp [sequence]
      | cons b as => rw [sequence.eq_3 a (b :: as) (List.cons_ne_nil b as), mem_language_seq]
    rw [hseq]
    constructor
    · rintro ⟨first, hfirst, rest, hrest, rfl⟩
      obtain ⟨parts, hparts, rfl⟩ := ih.mp hrest
      exact ⟨first :: parts, List.Forall₂.cons hfirst hparts, rfl⟩
    · rintro ⟨parts, hparts, rfl⟩
      obtain ⟨first, rest, hfirst, hrest, rfl⟩ := List.forall₂_cons_left_iff.mp hparts
      exact ⟨first, hfirst, rest.flatten, ih.mpr ⟨rest, hrest, rfl⟩, rfl⟩

lemma mem_language_gap {gap : List Char} :
    gap ∈ (Pattern.opt (.char py.isspace)).language ↔ IsGap py gap := by
  rw [mem_language_opt, mem_language_char, IsGap, or_comm]

lemma mem_language_fraction {fraction : List Char} :
    fraction ∈ (Pattern.opt (.seq (.char (· = '.')) (.many1 py.isdigit))).language ↔
      fraction = [] ∨
        ∃ digits, digits ≠ [] ∧ (∀ c ∈ digits, py.isdigit c = true) ∧ fraction = '.' :: digits := by
  rw [mem_language_opt, mem_language_seq, or_comm]
  refine or_congr_right ⟨?_, ?_⟩
  · rintro ⟨-, ⟨c, hc, rfl⟩, digits, hdigits, rfl⟩
    obtain ⟨hne, hall⟩ := mem_language_many1.mp hdigits
    obtain rfl := of_decide_eq_true hc
    exact ⟨digits, hne, hall, rfl⟩
  · rintro ⟨digits, hne, hall, rfl⟩
    exact ⟨['.'], ⟨'.', rfl, rfl⟩, digits, mem_language_many1.mpr ⟨hne, hall⟩, rfl⟩

/-- What is found as a figure is one. -/
lemma exists_figure {part : List Char} (h : part ∈ (sequence [.char py.isdigit,
    .many fun c => py.isdigit c || c = ',',
    .opt (.seq (.char (· = '.')) (.many1 py.isdigit))]).language) :
    ∃ figure : Figure py, figure.text = part := by
  obtain ⟨parts, hparts, rfl⟩ := mem_language_sequence.mp h
  simp only [List.forall₂_cons_left_iff, List.forall₂_nil_left_iff] at hparts
  obtain ⟨-, -, ⟨first, hfirst, rfl⟩, ⟨rest, -, hrest, ⟨fraction, -, hfraction, rfl, rfl⟩, rfl⟩,
    rfl⟩ := hparts
  refine ⟨⟨first, rest, fraction, hfirst, fun c hc => ?_, mem_language_fraction.mp hfraction⟩, ?_⟩
  · simpa using hrest c hc
  · simp [Figure.text, Figure.whole]

lemma code_of_language {code : List Char}
    (h : code ∈ (Pattern.oneOf (currencyCodes.map fun code =>
      .text (· = ·) code.toList)).language) : code ∈ currencyCodes.map String.toList := by
  rw [mem_language_oneOf] at h
  obtain ⟨pattern, hpattern, hcode⟩ := h
  obtain ⟨name, hname, rfl⟩ := List.mem_map.mp hpattern
  rw [mem_language_text] at hcode
  have heq : name.toList = code :=
    List.forall₂_eq_eq_eq ▸ hcode.imp fun c d hcd => of_decide_eq_true hcd
  exact List.mem_map.mpr ⟨name, hname, heq⟩

/-- Every funding mention is an amount as it is written. -/
theorem exists_writtenAmount {mention : List Char}
    (h : mention ∈ (currencyAmountPattern py).language) :
    ∃ w : WrittenAmount py, w.text = mention := by
  simp only [currencyAmountPattern] at h
  rw [mem_language_oneOf] at h
  obtain ⟨form, hform, h⟩ := h
  simp only [List.mem_cons, List.not_mem_nil, or_false] at hform
  rcases hform with rfl | rfl | rfl
  · obtain ⟨parts, hparts, rfl⟩ := mem_language_sequence.mp h
    simp only [List.forall₂_cons_left_iff, List.forall₂_nil_left_iff] at hparts
    obtain ⟨-, -, ⟨sign, hsign, rfl⟩, ⟨gap, -, hgap, ⟨amount, -, hamount, rfl, rfl⟩, rfl⟩,
      rfl⟩ := hparts
    obtain ⟨figure, rfl⟩ := exists_figure hamount
    exact ⟨.symbol sign hsign gap (mem_language_gap.mp hgap) figure,
      by simp [WrittenAmount.text]⟩
  · obtain ⟨parts, hparts, rfl⟩ := mem_language_sequence.mp h
    simp only [List.forall₂_cons_left_iff, List.forall₂_nil_left_iff] at hparts
    obtain ⟨edge, -, hedge, ⟨code, -, hcode, ⟨gap, -, hgap, ⟨amount, -, hamount, rfl, rfl⟩, rfl⟩,
      rfl⟩, rfl⟩ := hparts
    obtain rfl := mem_language_boundary.mp hedge
    obtain ⟨figure, rfl⟩ := exists_figure hamount
    exact ⟨.codeFirst code (code_of_language hcode) gap (mem_language_gap.mp hgap) figure,
      by simp [WrittenAmount.text]⟩
  · obtain ⟨parts, hparts, rfl⟩ := mem_language_sequence.mp h
    simp only [List.forall₂_cons_left_iff, List.forall₂_nil_left_iff] at hparts
    obtain ⟨edge, -, hedge, ⟨amount, -, hamount, ⟨gap, -, hgap, ⟨code, -, hcode,
      ⟨edge', -, hedge', rfl, rfl⟩, rfl⟩, rfl⟩, rfl⟩, rfl⟩ := hparts
    obtain rfl := mem_language_boundary.mp hedge
    obtain rfl := mem_language_boundary.mp hedge'
    obtain ⟨figure, rfl⟩ := exists_figure hamount
    exact ⟨.codeLast figure gap (mem_language_gap.mp hgap) code (code_of_language hcode),
      by simp [WrittenAmount.text]⟩

/-! ## What is written so is read -/

lemma getLast_append {s t : List Char} {P : Char → Prop} (hne : t ≠ []) (h : ∀ c ∈ t, P c) :
    ∀ c ∈ (s ++ t).getLast?, P c := by
  intro c hc
  rw [List.getLast?_append_of_ne_nil s hne] at hc
  exact h c (List.mem_of_getLast? hc)

/-- A currency code is three capital letters. -/
lemma code_upper {code : List Char} (h : code ∈ currencyCodes.map String.toList) :
    code.length = 3 ∧ ∀ c ∈ code, isAsciiUpper c = true := by
  have hall : (currencyCodes.map String.toList).all
      (fun code => code.length = 3 && code.all isAsciiUpper) = true := by decide
  have hcode := List.all_eq_true.mp hall code h
  rw [Bool.and_eq_true, decide_eq_true_eq, List.all_eq_true] at hcode
  exact hcode

lemma sign_of_charIn {c : Char} (h : charIn "£$€" c = true) : c ∈ mentionSigns := by
  have hmem : c ∈ ['£', '$', '€'] := of_decide_eq_true h
  have hsubset : ['£', '$', '€'] ⊆ mentionSigns := by decide
  exact hsubset hmem

lemma gap_unique {gap gap' rest rest' : List Char} (hgap : IsGap py gap) (hgap' : IsGap py gap')
    (hrest : ∀ c ∈ rest.head?, py.isspace c = false)
    (hrest' : ∀ c ∈ rest'.head?, py.isspace c = false) (h : gap ++ rest = gap' ++ rest') :
    gap = gap' ∧ rest = rest' := by
  have hspaces : ∀ {gap : List Char}, IsGap py gap → ∀ c ∈ gap, py.isspace c = true := by
    rintro gap (rfl | ⟨d, hd, rfl⟩) c hc
    · exact absurd hc List.not_mem_nil
    · rwa [List.mem_singleton.mp hc]
  exact run_unique h (hspaces hgap) (hspaces hgap') hrest hrest'

/-- The parts that the pattern of a figure can match. -/
lemma splits_figure {parts : List (List Char)} (h : Splits py.figure parts) :
    ∃ whole fraction, parts = [whole, fraction] ∧ whole ≠ [] ∧
      (∀ c ∈ whole, (py.isdigit c || decide (c = ',')) = true) ∧ (fraction = [] ∨
        ∃ digits, (∀ c ∈ digits, py.isdigit c = true) ∧ fraction = '.' :: digits) := by
  simp only [PyText.figure, List.forall₂_cons_left_iff, List.forall₂_nil_left_iff] at h
  obtain ⟨whole, -, hwhole, ⟨fraction, -, hfraction, rfl, rfl⟩, rfl⟩ := h
  obtain ⟨hne, hall⟩ := mem_language_many1.mp hwhole
  refine ⟨whole, fraction, rfl, hne, hall, ?_⟩
  rcases mem_language_fraction.mp hfraction with hnil | ⟨digits, -, hdigits, heq⟩
  · exact Or.inl hnil
  · exact Or.inr ⟨digits, hdigits, heq⟩

lemma splits_text (figure : Figure py) : Splits py.figure [figure.whole, figure.fraction] :=
  .cons (mem_language_many1.mpr ⟨nofun, figure.whole_digits⟩)
    (.cons (mem_language_fraction.mpr figure.fraction_digits) .nil)

lemma plain_figure : ∀ a ∈ py.figure, a.Plain := by
  simp [PyText.figure, Plain, Pattern.opt]

section Read

variable (laws : py.MentionLaws)
include laws

lemma isspace_of_isdigit {c : Char} (h : py.isdigit c = true) : py.isspace c = false := by
  rw [Bool.eq_false_iff]
  intro hspace
  rw [laws.space c hspace] at h
  cases h

lemma Figure.isspace_text (figure : Figure py) : ∀ c ∈ figure.text, py.isspace c = false := by
  intro c hc
  rw [Figure.text, List.mem_append] at hc
  rcases hc with hc | hc
  · have hwhole := figure.whole_digits c hc
    rw [Bool.or_eq_true, decide_eq_true_eq] at hwhole
    rcases hwhole with hdigit | rfl
    · exact isspace_of_isdigit laws hdigit
    · exact (laws.sign ',' (by decide)).1
  · rcases figure.fraction_digits with hnil | ⟨digits, -, hdigits, hfraction⟩
    · rw [hnil] at hc
      exact absurd hc List.not_mem_nil
    · rw [hfraction] at hc
      rcases List.mem_cons.mp hc with rfl | hc
      · exact (laws.sign '.' (by decide)).1
      · exact isspace_of_isdigit laws (hdigits c hc)

lemma isspace_code {code : List Char} (h : code ∈ currencyCodes.map String.toList) :
    ∀ c ∈ code, py.isspace c = false := fun c hc => (laws.sign c (Or.inl ((code_upper h).2 c hc))).1

/-- An amount neither begins nor ends with white space. -/
lemma strip_amount (w : WrittenAmount py) :
    py.strip (String.ofList w.text) = String.ofList w.text := by
  refine laws.strip_eq ?_ ?_
  · cases w with
    | symbol sign hsign gap hgap figure =>
      rintro c ⟨⟩
      exact (laws.sign sign (Or.inr (sign_of_charIn hsign))).1
    | codeFirst code hcode gap hgap figure =>
      intro c hc
      refine isspace_code laws hcode c ?_
      obtain ⟨d, rest, rfl⟩ : ∃ d rest, code = d :: rest :=
        List.exists_cons_of_length_eq_add_one (code_upper hcode).1
      obtain rfl := Option.some.inj hc
      exact List.mem_cons_self
    | codeLast figure gap hgap code hcode =>
      rintro c ⟨⟩
      exact isspace_of_isdigit laws figure.first_digit
  · have hfigure : ∀ figure : Figure py, figure.text ≠ [] := fun figure => nofun
    cases w with
    | symbol sign hsign gap hgap figure =>
      exact getLast_append (hfigure figure) (figure.isspace_text laws)
    | codeFirst code hcode gap hgap figure =>
      exact getLast_append (hfigure figure) (figure.isspace_text laws)
    | codeLast figure gap hgap code hcode =>
      refine getLast_append ?_ (isspace_code laws hcode)
      rintro rfl
      exact absurd (code_upper hcode).1 (by decide)

lemma isspace_whole {whole rest : List Char} (hne : whole ≠ [])
    (h : ∀ c ∈ whole, (py.isdigit c || decide (c = ',')) = true) :
    ∀ c ∈ (whole ++ rest).head?, py.isspace c = false := by
  obtain ⟨d, more, rfl⟩ := List.exists_cons_of_ne_nil hne
  rintro c ⟨⟩
  have hd := h d List.mem_cons_self
  rw [Bool.or_eq_true, decide_eq_true_eq] at hd
  rcases hd with hdigit | rfl
  · exact isspace_of_isdigit laws hdigit
  · exact (laws.sign ',' (by decide)).1

/-- A currency of a fixed length and a figure after it are told apart. -/
lemma fullGroups_currencyFirst {lead : Pattern} (hplain : lead.Plain) {n : ℕ}
    (hlength : ∀ part ∈ lead.language, part.length = n) {currency gap : List Char}
    (hcurrency : currency ∈ lead.language) (hgap : IsGap py gap) (figure : Figure py) :
    fullGroups ([lead, .opt (.char py.isspace)] ++ py.figure) (currency ++ gap ++ figure.text) =
      some [currency, gap, figure.whole, figure.fraction] := by
  refine fullGroups_of_unique ?_ ?_ ?_ ?_
  · intro a ha
    rcases List.mem_append.mp ha with ha | ha
    · simp only [List.mem_cons, List.not_mem_nil, or_false] at ha
      rcases ha with rfl | rfl
      · exact hplain
      · exact ⟨trivial, trivial⟩
    · exact plain_figure a ha
  · exact .cons hcurrency (.cons (mem_language_gap.mpr hgap) (splits_text figure))
  · simp [Figure.text]
  · intro parts hparts hflat
    obtain ⟨currency', parts, hcurrency', hrest, rfl⟩ := List.forall₂_cons_left_iff.mp hparts
    obtain ⟨gap', parts, hgap', hfigure, rfl⟩ := List.forall₂_cons_left_iff.mp hrest
    obtain ⟨whole, fraction, rfl, hne, hwhole, hfraction⟩ := splits_figure hfigure
    simp only [List.flatten_cons, List.flatten_nil, List.append_nil, List.append_assoc,
      Figure.text] at hflat
    obtain ⟨rfl, hrest⟩ := List.append_inj hflat
      (by rw [hlength _ hcurrency, hlength _ hcurrency'])
    obtain ⟨rfl, hrest⟩ := gap_unique (mem_language_gap.mp hgap') hgap
      (isspace_whole laws hne hwhole) (isspace_whole laws (List.cons_ne_nil _ _) figure.whole_digits) hrest
    have hends : EndsFigure py [] := nofun
    obtain ⟨rfl, rfl, -⟩ := figure_unique laws figure hwhole hfraction hends hends
      (by simpa using hrest.symm)
    rfl

lemma endsFigure_code {gap code : List Char} (hgap : IsGap py gap)
    (hcode : ∀ c ∈ code, isAsciiUpper c = true) : EndsFigure py (gap ++ code) := by
  intro c hc
  rcases hgap with rfl | ⟨d, hd, rfl⟩
  · have hupper := hcode c (List.mem_of_mem_head? hc)
    refine ⟨(laws.sign c (Or.inl hupper)).2, ?_, ?_⟩
    · rintro rfl
      exact absurd hupper (by decide)
    · rintro rfl
      exact absurd hupper (by decide)
  · obtain rfl := Option.some.inj hc
    refine ⟨laws.space d hd, ?_, ?_⟩
    · rintro rfl
      exact absurd hd (by rw [(laws.sign ',' (by decide)).1]; decide)
    · rintro rfl
      exact absurd hd (by rw [(laws.sign '.' (by decide)).1]; decide)

/-- A figure and a code after it are told apart. -/
lemma fullGroups_codeLast (figure : Figure py) {gap code : List Char} (hgap : IsGap py gap)
    (hcode : code.length = 3 ∧ ∀ c ∈ code, isAsciiUpper c = true) :
    fullGroups (py.figure ++ [.opt (.char py.isspace), .times isAsciiUpper 3])
      (figure.text ++ gap ++ code) = some [figure.whole, figure.fraction, gap, code] := by
  have hspace : ∀ {code : List Char}, (∀ c ∈ code, isAsciiUpper c = true) →
      ∀ c ∈ code.head?, py.isspace c = false :=
    fun hupper c hc => (laws.sign c (Or.inl (hupper c (List.mem_of_mem_head? hc)))).1
  refine fullGroups_of_unique ?_ ?_ ?_ ?_
  · intro a ha
    rcases List.mem_append.mp ha with ha | ha
    · exact plain_figure a ha
    · simp only [List.mem_cons, List.not_mem_nil, or_false] at ha
      rcases ha with rfl | rfl
      · exact ⟨trivial, trivial⟩
      · exact plain_times
  · exact List.rel_append (splits_text figure) (.cons (mem_language_gap.mpr hgap)
      (.cons (mem_language_times.mpr hcode) .nil))
  · simp [Figure.text]
  · intro parts hparts hflat
    obtain ⟨figureParts, hfigureParts, rest, hrest, rfl⟩ :
        ∃ figureParts, Splits py.figure figureParts ∧ ∃ rest,
          Splits [.opt (.char py.isspace), .times isAsciiUpper 3] rest ∧
          parts = figureParts ++ rest := by
      refine ⟨parts.take 2, ?_, parts.drop 2, ?_, (List.take_append_drop 2 parts).symm⟩
      · exact List.forall₂_take 2 hparts
      · exact List.forall₂_drop 2 hparts
    obtain ⟨whole, fraction, rfl, hwholeNe, hwhole, hfraction⟩ := splits_figure hfigureParts
    simp only [List.forall₂_cons_left_iff, List.forall₂_nil_left_iff] at hrest
    obtain ⟨gap', -, hgap', ⟨code', -, hcode', rfl, rfl⟩, rfl⟩ := hrest
    rw [mem_language_gap] at hgap'
    rw [mem_language_times] at hcode'
    simp only [List.flatten_cons, List.flatten_nil, List.append_nil, List.append_assoc,
      Figure.text, List.cons_append, List.nil_append] at hflat
    obtain ⟨rfl, rfl, hafter⟩ := figure_unique laws figure hwhole hfraction
      (endsFigure_code laws hgap hcode.2) (endsFigure_code laws hgap' hcode'.2) hflat.symm
    obtain ⟨rfl, rfl⟩ := gap_unique hgap hgap' (hspace hcode.2) (hspace hcode'.2) hafter
    rfl

omit laws in
lemma leads_symbol : Leads (.char (charIn "£$€")) fun c => charIn "£$€" c = true := by
  rintro part ⟨c, hc, rfl⟩
  exact ⟨c, [], rfl, hc⟩

omit laws in
lemma leads_code : Leads (.times isAsciiUpper 3) fun c => isAsciiUpper c = true := by
  intro part hpart
  obtain ⟨hlength, hupper⟩ := mem_language_times.mp hpart
  obtain ⟨c, rest, rfl⟩ := List.exists_cons_of_length_eq_add_one hlength
  exact ⟨c, rest, rfl, hupper c List.mem_cons_self⟩

omit laws in
lemma amountGroups_first {first second third fourth : List Char}
    (h : (first.any fun c => isAsciiUpper c || charIn "£$€" c) = true) :
    amountGroups [first, second, third, fourth] = some (first, third, fourth) := by
  rw [amountGroups, if_pos h]

omit laws in
lemma amountGroups_last {first second third fourth : List Char}
    (h : (first.any fun c => isAsciiUpper c || charIn "£$€" c) = false) :
    amountGroups [first, second, third, fourth] = some (fourth, first, second) := by
  rw [amountGroups, if_neg (by rw [h]; decide)]

/-- What is split into a currency and a figure is read as that. -/
lemma parseAmount_of_groups (w : WrittenAmount py) (figure : Figure py)
    {found : List (List Char)} {currency : List Char}
    (hfound : ((amountForms py).findSome? fun form => fullGroups form w.text) = some found)
    (hgroups : amountGroups found = some (currency, figure.whole, figure.fraction))
    (hcurrency : w.currency = String.ofList currency) (hvalue : w.value = figure.value) :
    parseAmount py (String.ofList w.text) = some w.amount := by
  rw [parseAmount, strip_amount laws, String.toList_ofList, hfound, WrittenAmount.amount,
    hcurrency, hvalue]
  simp only [Option.bind_eq_bind, Option.bind_some, hgroups, figure.decimalOf_eq laws,
    Option.pure_def]

/-- `parse_amount` reads the currency and the number that are written. -/
theorem parseAmount_text (w : WrittenAmount py) :
    parseAmount py (String.ofList w.text) = some w.amount := by
  have hsymbol : ∀ {part : List Char}, part ∈ (Pattern.char (charIn "£$€")).language →
      part.length = 1 := by
    rintro part ⟨c, -, rfl⟩
    rfl
  have hcode : ∀ {part : List Char}, part ∈ (Pattern.times isAsciiUpper 3).language →
      part.length = 3 := fun hpart => (mem_language_times.mp hpart).1
  have hdigit : ∀ {c : Char}, py.isdigit c = true →
      ¬ charIn "£$€" c = true ∧ ¬ isAsciiUpper c = true := by
    refine fun hc => ⟨fun hsign => ?_, fun hupper => ?_⟩
    · rw [(laws.sign _ (Or.inr (sign_of_charIn hsign))).2] at hc
      cases hc
    · rw [(laws.sign _ (Or.inl hupper)).2] at hc
      cases hc
  have hany : ∀ {whole : List Char}, (∀ c ∈ whole, (py.isdigit c || decide (c = ',')) = true) →
      (whole.any fun c => isAsciiUpper c || charIn "£$€" c) = false := by
    intro whole hwhole
    rw [List.any_eq_false]
    intro c hc
    rw [Bool.or_eq_true]
    have hc' := hwhole c hc
    rw [Bool.or_eq_true, decide_eq_true_eq] at hc'
    rcases hc' with hc' | rfl
    · exact fun h => h.elim (hdigit hc').2 (hdigit hc').1
    · decide
  have hnone : ∀ {lead : Pattern} {as : List Pattern} {P : Char → Prop} {cs : List Char},
      Leads lead P → (∀ c ∈ cs.head?, ¬ P c) → fullGroups (lead :: as) cs = none := by
    intro lead as P cs hlead hcs
    refine fullGroups_eq_none fun parts hparts hflat => ?_
    exact not_splits_of_leads hlead hcs hparts (by rw [List.append_nil, hflat])
  cases w with
  | symbol sign hsign gap hgap figure =>
    have hfull : fullGroups ([.char (charIn "£$€"), .opt (.char py.isspace)] ++ py.figure)
        (sign :: gap ++ figure.text) = some [[sign], gap, figure.whole, figure.fraction] :=
      @fullGroups_currencyFirst py laws (.char _) trivial 1 (fun _ => hsymbol) [sign] gap
        ⟨sign, hsign, rfl⟩ hgap figure
    have hgroups := @amountGroups_first [sign] gap figure.whole figure.fraction (by simp [hsign])
    refine parseAmount_of_groups laws _ figure ?_ hgroups rfl rfl
    simp only [amountForms, List.findSome?_cons, WrittenAmount.text, hfull]
  | codeFirst code hname gap hgap figure =>
    have hupper := code_upper hname
    obtain ⟨d, rest, rfl⟩ := List.exists_cons_of_length_eq_add_one hupper.1
    have hd : isAsciiUpper d = true := hupper.2 d List.mem_cons_self
    have hfirst : fullGroups ([.char (charIn "£$€"), .opt (.char py.isspace)] ++ py.figure)
        (d :: rest ++ gap ++ figure.text) = none := by
      refine hnone leads_symbol ?_
      rintro c ⟨⟩ hsign
      have hmem : d ∈ ['£', '$', '€'] := of_decide_eq_true hsign
      have hall : ['£', '$', '€'].all (fun c => !isAsciiUpper c) = true := by decide
      have hnot := List.all_eq_true.mp hall d hmem
      rw [hd] at hnot
      cases hnot
    have hfull : fullGroups ([.times isAsciiUpper 3, .opt (.char py.isspace)] ++ py.figure)
        (d :: rest ++ gap ++ figure.text) =
          some [d :: rest, gap, figure.whole, figure.fraction] :=
      fullGroups_currencyFirst laws plain_times (fun _ => hcode)
        (mem_language_times.mpr hupper) hgap figure
    have hgroups := @amountGroups_first (d :: rest) gap figure.whole figure.fraction
      (by simp [hd])
    refine parseAmount_of_groups laws _ figure ?_ hgroups rfl rfl
    simp only [amountForms, List.findSome?_cons, WrittenAmount.text, hfirst, hfull]
  | codeLast figure gap hgap code hname =>
    have hfirst : fullGroups ([.char (charIn "£$€"), .opt (.char py.isspace)] ++ py.figure)
        (figure.text ++ gap ++ code) = none := by
      refine hnone leads_symbol ?_
      rintro c ⟨⟩
      exact (hdigit figure.first_digit).1
    have hsecond : fullGroups ([.times isAsciiUpper 3, .opt (.char py.isspace)] ++ py.figure)
        (figure.text ++ gap ++ code) = none := by
      refine hnone leads_code ?_
      rintro c ⟨⟩
      exact (hdigit figure.first_digit).2
    have hfull := fullGroups_codeLast laws figure hgap (code_upper hname)
    have hgroups := @amountGroups_last figure.whole figure.fraction gap code
      (hany figure.whole_digits)
    refine parseAmount_of_groups laws _ figure ?_ hgroups rfl rfl
    simp only [amountForms, List.findSome?_cons, WrittenAmount.text, hfirst, hsecond, hfull]

end Read

end ScholarshipFinder
