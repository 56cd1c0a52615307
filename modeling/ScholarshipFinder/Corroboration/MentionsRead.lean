import ScholarshipFinder.Corroboration.DeadlineFormats
import ScholarshipFinder.Domain.FactErrors
import ScholarshipFinder.Sample.Text
import ScholarshipFinder.Sample.Web

/-!
# The extractor and the comparison read alike

Every amount that is found is read as what is written, and every date that is found and exists, if
its digits are those that `strptime` takes and the lower case of its month is the listed name.  The
extractor matches any decimal digit and any letter that has the same case variants, so it finds
dates that are not read.
-/

namespace ScholarshipFinder

open Lib Pattern

variable {py : PyText}

/-! ## The month tables -/

/-- Both tables begin with the three letters of the abbreviation. -/
lemma monthNames_take : monthNames.map (fun name => name.toList.take 3) =
    monthAbbreviations.map String.toList := by
  decide

lemma monthAbbreviations_take : monthAbbreviations.map (fun name => name.toList.take 3) =
    monthAbbreviations.map String.toList := by
  decide

lemma Lists.letters {name : String} {index : ℕ} (h : Lists name index) :
    (monthAbbreviations.map String.toList)[index]? = some (name.toList.take 3) := by
  rcases h with h | h
  · rw [← monthNames_take, List.getElem?_map, h]
    rfl
  · rw [← monthAbbreviations_take, List.getElem?_map, h]
    rfl

/-- A name names one month. -/
lemma Lists.unique {name : String} {index index' : ℕ} (h : Lists name index)
    (h' : Lists name index') : index = index' := by
  have hnodup : (monthAbbreviations.map String.toList).Nodup := by decide
  obtain ⟨hlt, -⟩ := List.getElem?_eq_some_iff.mp h.letters
  exact (List.getElem?_inj hlt hnodup).mp (h.letters.trans h'.letters.symm)

/-- The month that a name is read as. -/
lemma MonthDirective.idxOf_eq {directive : Directive} {names : List String}
    (hmonth : MonthDirective directive names) {name : String} {index : ℕ} :
    names.idxOf? name = some index ↔ names[index]? = some name := by
  have hget : ∀ {i : ℕ}, names.idxOf? name = some i → names[i]? = some name := by
    intro i h
    obtain ⟨hlt, hi, -⟩ := List.idxOf?_eq_some_iff.mp h
    exact List.getElem?_eq_some_iff.mpr ⟨hlt, hi⟩
  refine ⟨hget, fun h => ?_⟩
  cases hindex : names.idxOf? name with
  | none => exact absurd (List.mem_of_getElem? h) (List.idxOf?_eq_none_iff.mp hindex)
  | some i => rw [(hmonth.lists (hget hindex)).unique (hmonth.lists h)]

/-! ## Calendar dates -/

lemma dateOf_spec {year month day : ℕ} {date : Date} (h : dateOf year month day = some date) :
    1 ≤ month ∧ month ≤ 12 ∧ 1 ≤ day ∧ day ≤ 31 ∧
      date = (daysBeforeYear year).toNat + daysBeforeMonth.getD (month - 1) 0 +
        (if 2 < month ∧ isLeap year then 1 else 0) + (day - 1) := by
  rw [dateOf] at h
  split at h
  · next hexists =>
    obtain ⟨-, -, hmonth, hmonth', hday, hday'⟩ := hexists
    have hmax : daysInMonth year month ≤ 31 := by
      unfold daysInMonth
      split
      · split <;> decide
      · split <;> decide
    exact ⟨hmonth, hmonth', hday, hday'.trans hmax, (Option.some.inj h).symm⟩
  · cases h

/-- The same day of two months is not the same date. -/
lemma dateOf_month {year month month' day : ℕ} {date : Date}
    (h : dateOf year month day = some date) (h' : dateOf year month' day = some date) :
    month = month' := by
  obtain ⟨hlow, hhigh, -, -, hdate⟩ := dateOf_spec h
  obtain ⟨hlow', hhigh', -, -, hdate'⟩ := dateOf_spec h'
  have hoffsets : ∀ leap : Bool, ∀ m < 13, ∀ m' < 13, 1 ≤ m ∧ 1 ≤ m' ∧
      daysBeforeMonth.getD (m - 1) 0 + (if 2 < m ∧ leap = true then 1 else 0) =
        daysBeforeMonth.getD (m' - 1) 0 + (if 2 < m' ∧ leap = true then 1 else 0) → m = m' := by
    decide
  refine hoffsets (isLeap year) month (by omega) month' (by omega) ⟨hlow, hlow', ?_⟩
  have hsame := hdate.symm.trans hdate'
  rw [Nat.add_right_cancel_iff, Nat.add_assoc, Nat.add_assoc, Nat.add_left_cancel_iff] at hsame
  exact hsame

/-! ## Dates that are read -/

/-- The date is written in the digits that `strptime` takes, and its month in letters whose lower
case is the name that is meant. -/
def WrittenDate.Readable : WrittenDate py → Prop
  | monthFirst w => py.lower (String.ofList w.month) = w.name ∧ takesDay w.day = true
  | dayFirst w => py.lower (String.ofList w.month) = w.name ∧ takesDay w.day = true
  | iso w => w.month.all Char.isDigit = true ∧ takesDay w.day = true

/-- A text is the name of one month only. -/
lemma names_unique (laws : py.MentionLaws) {name name' month : List Char}
    (hlower : ∀ c ∈ name, c.isLower = true) (hlower' : ∀ c ∈ name', c.isLower = true)
    (h : List.Forall₂ (fun c d => py.ignoreCase c d = true) name month)
    (h' : List.Forall₂ (fun c d => py.ignoreCase c d = true) name' month) : name = name' := by
  induction h generalizing name' with
  | nil => exact (List.forall₂_nil_right_iff.mp h').symm
  | @cons c d name month hcd _ ih =>
    obtain ⟨c', rest, hcd', hrest, rfl⟩ := List.forall₂_cons_right_iff.mp h'
    rw [laws.same c c' d (hlower c List.mem_cons_self) (hlower' c' List.mem_cons_self) hcd hcd',
      ih (fun e he => hlower e (List.mem_cons_of_mem _ he))
        (fun e he => hlower' e (List.mem_cons_of_mem _ he)) hrest]

section Words

variable (laws : py.MentionLaws) {w : DateWords py} {date : Date}
  (hdate : dateOf (py.number w.year) (w.index + 1) (py.number w.day) = some date)
include laws hdate

/-- A format that reads the date has the name that is written. -/
lemma readable_of_reads {directive : Directive} {names : List String}
    (hmonth : MonthDirective directive names)
    (hpart : w.month ∈ (directive.pattern py).language)
    (hday : w.day ∈ (Directive.day.pattern py).language) (hreads : w.reads names = some date) :
    py.lower (String.ofList w.month) = w.name ∧ takesDay w.day = true := by
  obtain ⟨-, -, hpos, hle, -⟩ := dateOf_spec hdate
  refine ⟨?_, (mem_language_day_iff laws w.day_length w.day_digits hpos hle).mp hday⟩
  obtain ⟨index, hindex, hsame⟩ := Option.bind_eq_some_iff.mp hreads
  obtain rfl : index = w.index := Nat.succ_injective (dateOf_month hsame hdate)
  rw [hmonth.idxOf_eq] at hindex
  obtain ⟨name, hname, hnames⟩ := (mem_language_month hmonth).mp hpart
  obtain ⟨index', hindex'⟩ := List.mem_iff_getElem?.mp hname
  have hlists := hmonth.lists hindex'
  obtain rfl : name = w.name := String.toList_inj.mp
    (names_unique laws hlists.lower.2 w.lists.lower.2 hnames w.names)
  obtain rfl := hlists.unique w.lists
  rw [hindex'] at hindex
  exact (Option.some.inj hindex).symm

/-- A format that has the name that is written reads the date. -/
lemma reads_of_readable {directive : Directive} {names : List String}
    (hmonth : MonthDirective directive names) (hname : names[w.index]? = some w.name)
    (hlower : py.lower (String.ofList w.month) = w.name) (htakes : takesDay w.day = true) :
    w.month ∈ (directive.pattern py).language ∧ w.day ∈ (Directive.day.pattern py).language ∧
      w.reads names = some date := by
  obtain ⟨-, -, hpos, hle, -⟩ := dateOf_spec hdate
  refine ⟨(mem_language_month hmonth).mpr ⟨w.name, List.mem_of_getElem? hname, w.names⟩,
    (mem_language_day_iff laws w.day_length w.day_digits hpos hle).mpr htakes, ?_⟩
  rw [DateWords.reads, hlower, hmonth.idxOf_eq.mpr hname, Option.bind_some, hdate]

/-- The formats of one order read the date exactly if it can be read. -/
lemma reads_iff {first second : Option Date}
    (hfirst : ∀ d, first = some d ↔ w.month ∈ (Directive.monthName.pattern py).language ∧
      w.day ∈ (Directive.day.pattern py).language ∧ w.reads monthNames = some d)
    (hsecond : ∀ d, second = some d ↔ w.month ∈ (Directive.monthAbbreviation.pattern py).language ∧
      w.day ∈ (Directive.day.pattern py).language ∧ w.reads monthAbbreviations = some d) :
    first.or second = some date ↔
      py.lower (String.ofList w.month) = w.name ∧ takesDay w.day = true := by
  constructor
  · intro h
    rcases Option.or_eq_some_iff.mp h with h | ⟨-, h⟩
    · obtain ⟨hpart, hday, hreads⟩ := (hfirst date).mp h
      exact readable_of_reads laws hdate .name hpart hday hreads
    · obtain ⟨hpart, hday, hreads⟩ := (hsecond date).mp h
      exact readable_of_reads laws hdate .abbreviation hpart hday hreads
  · rintro ⟨hlower, htakes⟩
    rcases w.lists with hname | hname
    · rw [(hfirst date).mpr (reads_of_readable laws hdate .name hname hlower htakes)]
      rfl
    · have hread := (hsecond date).mpr
        (reads_of_readable laws hdate .abbreviation hname hlower htakes)
      cases hd : first with
      | none => rw [hread, Option.none_or]
      | some d =>
        -- a name in both tables is the same month in both
        obtain ⟨-, -, hreads⟩ := (hfirst d).mp hd
        obtain ⟨index, hindex, hsame⟩ := Option.bind_eq_some_iff.mp hreads
        rw [hlower, MonthDirective.name.idxOf_eq] at hindex
        obtain rfl := (MonthDirective.name.lists hindex).unique w.lists
        rw [hdate] at hsame
        rw [Option.some_or, ← hsame]

end Words

/-- `parse_deadline` reads a date that exists exactly if it can be read. -/
theorem parseDeadline_iff (laws : py.MentionLaws) {w : WrittenDate py} {date : Date}
    (hdate : w.date = some date) :
    parseDeadline py (String.ofList w.text) = some date ↔ w.Readable := by
  cases w with
  | monthFirst w =>
    rw [parseDeadline_monthFirst laws]
    exact reads_iff laws hdate (strptime_monthFirst .name laws w)
      (strptime_monthFirst .abbreviation laws w)
  | dayFirst w =>
    rw [parseDeadline_dayFirst laws]
    exact reads_iff laws hdate (strptime_dayFirst .name laws w)
      (strptime_dayFirst .abbreviation laws w)
  | iso w =>
    obtain ⟨hmonth, hmonth', hday, hday', -⟩ := dateOf_spec hdate
    rw [parseDeadline_iso laws, strptime_iso laws,
      mem_language_month_iff laws w.month_length hmonth hmonth',
      mem_language_day_iff laws (Or.inr w.day_length) w.day_digits hday hday']
    exact ⟨fun h => ⟨h.1, h.2.1⟩, fun h => ⟨h.1, h.2, hdate⟩⟩

/-! ## Comparing mentions -/

/-- What texts, each a title and an excerpt, mention of funding. -/
def fundingMentionsIn (py : PyText) (texts : Set (Option String × Option String)) : Set String :=
  {m | ∃ text ∈ texts, m ∈ (extractCandidateFacts py text.1 text.2).fundingMentions}

/-- What they mention of deadlines. -/
def deadlineMentionsIn (py : PyText) (texts : Set (Option String × Option String)) : Set String :=
  {m | ∃ text ∈ texts, m ∈ (extractCandidateFacts py text.1 text.2).deadlineMentions}

/-- The mention names this calendar date. -/
def NamesDate (py : PyText) (mention : String) (date : Date) : Prop :=
  ∃ w : WrittenDate py, w.text = mention.toList ∧ w.date = some date

/-- The mentions of dates that exist. -/
def datedMentionsIn (py : PyText) (texts : Set (Option String × Option String)) : Set String :=
  {m | m ∈ deadlineMentionsIn py texts ∧ ∃ date, NamesDate py m date}

/-- The comparison reads what is found in the texts as it is written, so it decides whether two
mentions are of one value. -/
structure ReadersAgree (py : PyText) (texts : Set (Option String × Option String)) : Prop where
  amounts : ∀ m ∈ fundingMentionsIn py texts, ∀ w : WrittenAmount py, w.text = m.toList →
    parseAmount py m = some w.amount
  deadlines : ∀ m ∈ deadlineMentionsIn py texts, ∀ date, NamesDate py m date →
    parseDeadline py m = some date
  amounts_decided : ∀ a ∈ fundingMentionsIn py texts, ∀ b ∈ fundingMentionsIn py texts,
    amountsMatch py a b ≠ none
  deadlines_decided : ∀ a ∈ datedMentionsIn py texts, ∀ b ∈ datedMentionsIn py texts,
    deadlinesMatch py a b ≠ none
  amounts_equivalence :
    Equivalence fun a b : fundingMentionsIn py texts => amountsMatch py a b = some true
  deadlines_equivalence :
    Equivalence fun a b : datedMentionsIn py texts => deadlinesMatch py a b = some true

/-- A comparison of what is read is decided, and an equivalence, where everything is read. -/
lemma comparison_of_read {β : Type} [DecidableEq β] {read : String → Option β}
    {compare : String → String → Option Bool} {mentions : Set String}
    (hcompare : ∀ a b, compare a b = (read a).bind fun x => (read b).bind fun y =>
      some (decide (x = y)))
    (hread : ∀ m ∈ mentions, ∃ x, read m = some x) :
    (∀ a ∈ mentions, ∀ b ∈ mentions, compare a b ≠ none) ∧
      Equivalence fun a b : mentions => compare a b = some true := by
  have hsame : ∀ a b : mentions, compare a b = some true ↔ read a = read b := by
    intro a b
    obtain ⟨x, hx⟩ := hread a a.2
    obtain ⟨y, hy⟩ := hread b b.2
    simp [hcompare, hx, hy]
  refine ⟨fun a ha b hb => ?_, ?_⟩
  · obtain ⟨x, hx⟩ := hread a ha
    obtain ⟨y, hy⟩ := hread b hb
    simp [hcompare, hx, hy]
  · constructor
    · exact fun a => (hsame a a).mpr rfl
    · exact fun {a b} h => (hsame b a).mpr ((hsame a b).mp h).symm
    · exact fun {a b c} h h' => (hsame a c).mpr (((hsame a b).mp h).trans ((hsame b c).mp h'))

lemma language_of_mentions {pattern : Pattern} {text mention : String}
    (h : mention ∈ mentions pattern text) : mention.toList ∈ pattern.language := by
  obtain ⟨found, hfound, rfl⟩ := List.mem_map.mp h
  rw [String.toList_ofList]
  exact language_of_mem_findAll hfound

lemma written_of_funding {texts : Set (Option String × Option String)} {m : String}
    (h : m ∈ fundingMentionsIn py texts) : ∃ w : WrittenAmount py, w.text = m.toList := by
  obtain ⟨text, -, hm⟩ := h
  exact exists_writtenAmount (language_of_mentions hm)

lemma written_of_deadline (laws : py.MentionLaws) {texts : Set (Option String × Option String)}
    {m : String} (h : m ∈ deadlineMentionsIn py texts) :
    ∃ w : WrittenDate py, w.text = m.toList := by
  obtain ⟨text, -, hm⟩ := h
  exact exists_writtenDate laws (language_of_mentions hm)

lemma parseAmount_mention (laws : py.MentionLaws) {m : String} {w : WrittenAmount py}
    (hw : w.text = m.toList) : parseAmount py m = some w.amount := by
  have hm : m = String.ofList w.text := by rw [hw, String.ofList_toList]
  rw [hm, parseAmount_text laws]

lemma parseDeadline_mention (laws : py.MentionLaws) {m : String} {w : WrittenDate py} {date : Date}
    (hw : w.text = m.toList) (hdate : w.date = some date) :
    parseDeadline py m = some date ↔ w.Readable := by
  have hm : m = String.ofList w.text := by rw [hw, String.ofList_toList]
  rw [hm, parseDeadline_iff laws hdate]

/-- Reading raises nothing.  Every mention is an amount or a date as it is written, and the
comparison agrees with the extractor on any texts exactly if every date that they mention and that
exists can be read. -/
theorem agreement_iff_readable (laws : py.MentionLaws) :
    (∀ raw, parseAmountRaising py raw = .ok (parseAmount py raw) ∧
      parseDeadlineRaising py raw = .ok (parseDeadline py raw)) ∧
    (∀ texts, (∀ m ∈ fundingMentionsIn py texts, ∃ w : WrittenAmount py, w.text = m.toList) ∧
      ∀ m ∈ deadlineMentionsIn py texts, ∃ w : WrittenDate py, w.text = m.toList) ∧
    (∀ (w : WrittenDate py) date, w.date = some date →
      (parseDeadline py (String.ofList w.text) = some date ↔ w.Readable)) ∧
    ∀ texts, ReadersAgree py texts ↔ ∀ m ∈ deadlineMentionsIn py texts, ∀ w : WrittenDate py,
      w.text = m.toList → w.date ≠ none → w.Readable := by
  refine ⟨fun raw => ⟨parseAmountRaising_eq raw, parseDeadlineRaising_eq raw⟩,
    fun texts => ⟨fun m hm => written_of_funding hm, fun m hm => written_of_deadline laws hm⟩,
    fun w date hdate => parseDeadline_iff laws hdate, fun texts => ⟨fun hagree => ?_,
    fun hreadable => ?_⟩⟩
  · intro m hm w hw hexists
    obtain ⟨date, hdate⟩ := Option.ne_none_iff_exists'.mp hexists
    exact (parseDeadline_mention laws hw hdate).mp (hagree.deadlines m hm date ⟨w, hw, hdate⟩)
  · have hdeadlines : ∀ m ∈ deadlineMentionsIn py texts, ∀ date, NamesDate py m date →
        parseDeadline py m = some date := by
      rintro m hm date ⟨w, hw, hdate⟩
      exact (parseDeadline_mention laws hw hdate).mpr
        (hreadable m hm w hw (by rw [hdate]; exact nofun))
    obtain ⟨hamountsDecided, hamountsEquivalence⟩ :=
      @comparison_of_read (String × ℚ) _ (parseAmount py) (amountsMatch py)
        (fundingMentionsIn py texts) (fun a b => rfl) fun m hm => by
          obtain ⟨w, hw⟩ := written_of_funding hm
          exact ⟨w.amount, parseAmount_mention laws hw⟩
    obtain ⟨hdeadlinesDecided, hdeadlinesEquivalence⟩ :=
      @comparison_of_read Date _ (parseDeadline py) (deadlinesMatch py)
        (datedMentionsIn py texts) (fun a b => rfl) fun m hm => by
          obtain ⟨hmention, date, hnames⟩ := hm
          exact ⟨date, hdeadlines m hmention date hnames⟩
    exact ⟨fun m hm w hw => parseAmount_mention laws hw, hdeadlines, hamountsDecided,
      hdeadlinesDecided, hamountsEquivalence, hdeadlinesEquivalence⟩

/-! ## A date in other digits -/

namespace Sample

/-- Python on ASCII text and the Arabic-Indic digits, which `\d` matches. -/
def arabicPy : PyText := { textPy with
  isalnum := fun c => c.isAlphanum || ('٠' ≤ c && c ≤ '٩')
  decimal := fun c => if c.isDigit then some (c.toNat - '0'.toNat)
    else if '٠' ≤ c && c ≤ '٩' then some (c.toNat - '٠'.toNat) else none }

lemma letter_ascii : ∀ n < 128, (Char.ofNat n).isAlpha = true →
    arabicPy.isspace (Char.ofNat n) = false ∧ arabicPy.isdigit (Char.ofNat n) = false ∧
      Char.ofNat n ∉ mentionSigns := by
  decide

lemma alpha_toLower : ∀ n < 91, 65 ≤ n → (Char.ofNat n).toLower.isAlpha = true := by
  decide

lemma isAlpha_spec {c : Char} (h : c.isAlpha = true) :
    arabicPy.isspace c = false ∧ arabicPy.isdigit c = false ∧ c ∉ mentionSigns := by
  have hascii : c.toNat < 128 := by
    rw [Char.isAlpha, Bool.or_eq_true] at h
    rcases h with h | h
    · exact (isUpper_range h).2.trans (by decide)
    · rw [Char.isLower, Bool.and_eq_true, decide_eq_true_eq, decide_eq_true_eq] at h
      exact (UInt32.le_iff_toNat_le.mp h.2).trans_lt (by decide)
  rw [← Char.ofNat_toNat c] at h ⊢
  exact letter_ascii c.toNat hascii h

lemma isUpper_of_isLower {c : Char} (h : c.isLower = true) : c.isUpper = false := by
  rw [Bool.eq_false_iff]
  intro hupper
  rw [Char.isLower, Bool.and_eq_true, decide_eq_true_eq, decide_eq_true_eq] at h
  have hlow : 97 ≤ c.toNat := UInt32.le_iff_toNat_le.mp h.1
  have hhigh := (isUpper_range hupper).2
  omega

/-- What has the lower case of a letter is a letter. -/
lemma isAlpha_of_toLower {a c : Char} (ha : a.isLower = true) (h : a.toLower = c.toLower) :
    c.isAlpha = true := by
  rw [Char.isAlpha, Bool.or_eq_true]
  by_cases hc : c.isUpper = true
  · exact Or.inl hc
  · rw [toLower_of_isUpper (isUpper_of_isLower ha),
      toLower_of_isUpper (by simpa using hc)] at h
    exact Or.inr (h ▸ ha)

lemma arabicPy_mentionLaws : arabicPy.MentionLaws where
  strip := fun s => ⟨[], [], by simp [arabicPy, textPy, py], nofun⟩
  decimal := by decide
  blank := rfl
  space := by
    intro c hc
    have hc' : c = ' ' ∨ c = '\t' ∨ c = '\r' ∨ c = '\n' := by
      simpa [arabicPy, textPy, Char.isWhitespace, or_assoc] using hc
    rcases hc' with rfl | rfl | rfl | rfl <;> decide
  sign := by
    rintro c (hupper | hsign)
    · have halpha : c.isAlpha = true := by
        rw [isAsciiUpper, decide_eq_true_eq] at hupper
        rw [Char.isAlpha, Bool.or_eq_true]
        exact Or.inl (decide_eq_true ⟨hupper.1, hupper.2⟩)
      exact ⟨(isAlpha_spec halpha).1, (isAlpha_spec halpha).2.1⟩
    · have hall : mentionSigns.all (fun c => !arabicPy.isspace c && !arabicPy.isdigit c) = true := by
        decide
      simpa using List.all_eq_true.mp hall c hsign
  letter := fun a c ha h => isAlpha_spec (isAlpha_of_toLower ha (of_decide_eq_true h))
  upper := by
    intro a c ha
    show decide (a.toLower = c.toLower) = decide (a.toLower.toLower = c.toLower)
    rw [toLower_toLower]
  same := by
    intro a b c ha hb h h'
    have heq : a.toLower = b.toLower := (of_decide_eq_true h).trans (of_decide_eq_true h').symm
    rwa [toLower_of_isUpper (isUpper_of_isLower ha),
      toLower_of_isUpper (isUpper_of_isLower hb)] at heq
  literal := by
    intro a c ha
    have hall : mentionSigns.all (fun a => !a.isUpper && !a.isAlpha) = true := by decide
    have ha' : a.isUpper = false ∧ a.isAlpha = false := by
      simpa using List.all_eq_true.mp hall a ha
    show decide (a.toLower = c.toLower) = true ↔ c = a
    rw [decide_eq_true_eq, toLower_of_isUpper ha'.1]
    constructor
    · intro h
      by_cases hc : c.isUpper = true
      · obtain ⟨hlow, hhigh⟩ := isUpper_range hc
        have halpha := alpha_toLower c.toNat hhigh hlow
        rw [Char.ofNat_toNat, ← h, ha'.2] at halpha
        cases halpha
      · rw [toLower_of_isUpper (by simpa using hc)] at h
        exact h.symm
    · rintro rfl
      rw [toLower_of_isUpper ha'.1]

/-- The date as the mention writes it. -/
def arabicDate : DateWords arabicPy where
  name := "march"
  index := 2
  month := "March".toList
  day := "١٥".toList
  suffix := []
  comma := [',']
  year := "2026".toList
  gap := [' ']
  gap' := [' ']
  lists := Or.inl rfl
  names := by decide
  day_length := Or.inr rfl
  day_digits := List.all_eq_true.mp (by decide)
  suffix_ordinal := Or.inl rfl
  comma_sign := Or.inr rfl
  year_length := rfl
  year_digits := List.all_eq_true.mp (by decide)
  gap_spaces := ⟨by decide, List.all_eq_true.mp (by decide)⟩
  gap'_spaces := ⟨by decide, List.all_eq_true.mp (by decide)⟩

/-- The same date in ASCII digits. -/
def asciiDate : DateWords arabicPy := { arabicDate with
  day := "15".toList
  suffix := "th".toList
  day_length := Or.inr rfl
  day_digits := List.all_eq_true.mp (by decide)
  suffix_ordinal := Or.inr (by
    rw [ordinalSuffix, mem_language_oneOf]
    exact ⟨_, List.mem_map.mpr ⟨"th", by decide, rfl⟩, mem_language_text.mpr (by decide)⟩) }

end Sample

/-- The date is found, and exists, and is not read. -/
theorem arabic_date_not_read : Sample.arabicPy.MentionLaws ∧
    "March ١٥, 2026" ∈ deadlineMentionsIn Sample.arabicPy {(none, some "By March ١٥, 2026")} ∧
    NamesDate Sample.arabicPy "March ١٥, 2026" 739689 ∧
    parseDeadline Sample.arabicPy "March ١٥, 2026" = none ∧
    deadlinesMatch Sample.arabicPy "March ١٥, 2026" "March ١٥, 2026" = none ∧
    ¬ ∀ texts, ReadersAgree Sample.arabicPy texts := by
  have hfound : "March ١٥, 2026" ∈
      deadlineMentionsIn Sample.arabicPy {(none, some "By March ١٥, 2026")} :=
    ⟨_, rfl, by decide⟩
  have hnames : NamesDate Sample.arabicPy "March ١٥, 2026" 739689 :=
    ⟨.monthFirst Sample.arabicDate, by decide, by decide⟩
  have hnone : parseDeadline Sample.arabicPy "March ١٥, 2026" = none := by decide
  refine ⟨Sample.arabicPy_mentionLaws, hfound, hnames, hnone, by decide, fun h => ?_⟩
  have hread := (h _).deadlines _ hfound _ hnames
  rw [hnone] at hread
  cases hread

/-- In ASCII digits it is read. -/
theorem ascii_date_read :
    parseDeadline Sample.arabicPy "March 15th, 2026" = some 739689 := by
  have hdate : (WrittenDate.monthFirst Sample.asciiDate).date = some 739689 := by decide
  have hlower : Sample.arabicPy.lower (String.ofList "March".toList) = "march" := by
    show (String.ofList "March".toList).map Char.toLower = "march"
    rw [← String.toList_inj, String.toList_map, String.toList_ofList]
    decide
  have hread := ((agreement_iff_readable Sample.arabicPy_mentionLaws).2.2.1 _ 739689 hdate).mpr
    ⟨hlower, by decide⟩
  exact hread

end ScholarshipFinder
