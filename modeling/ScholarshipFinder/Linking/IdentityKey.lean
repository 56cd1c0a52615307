import ScholarshipFinder.Domain.Normalization
import ScholarshipFinder.Lib.Decomposition
import ScholarshipFinder.Lib.Words
import ScholarshipFinder.Sample.Text

/-!
# What an identity key depends on

The folding of a title and `casefold` work character by character: marks come out of the normal form
again, in whatever order it puts them.  So a title is read as its characters, each folded by itself,
and a separator ends one word and begins the next.  The key is the sorted set of the words, which
can be read back from it.
-/

namespace ScholarshipFinder

open Lib Pattern

/-- `string.punctuation` -/
def isPunctuation (c : Char) : Bool :=
  '!' ≤ c && c ≤ '~' && !isAsciiLetter c && !('0' ≤ c && c ≤ '9')

/-- Python's tables are those of Unicode: the normal form is that of the data, and `casefold` works
character by character. -/
structure UnicodeLaws (py : PyText) (unicode : UnicodeText) (data : Decomposition)
    (foldCase : Char → List Char) : Prop where
  nfkd : ∀ s, unicode.nfkd (String.ofList s) = String.ofList (data.nfkd s)
  combining : ∀ c, unicode.combining c = data.isMark c
  casefold : ∀ s, unicode.casefold (String.ofList s) = String.ofList (s.flatMap foldCase)
  /-- A mark is decomposed into marks. -/
  mark : ∀ c, data.isMark c = true → ∀ d ∈ data.decompose c, data.isMark d = true
  ascii : ∀ c, c.toNat < 128 →
    data.decompose c = [c] ∧ data.isMark c = false ∧ foldCase c = [c.toLower]
  blank : py.isspace ' ' = true
  /-- White space is decomposed into white space. -/
  space : ∀ c, py.isspace c = true → data.isMark c = false ∧ foldCase c = [c] ∧
    data.decompose c ≠ [] ∧ ∀ d ∈ data.decompose c, py.isspace d = true
  notSpace : ∀ c, c ∈ invisible ∨ c ∈ indivisible.map Prod.fst ∨ isTokenChar c = true →
    py.isspace c = false
  letter : ∀ c ∈ indivisible.map Prod.fst, data.isMark c = false
  /-- `str.strip` takes away white space at the ends. -/
  strip : ∀ s, ∃ before after, s.toList = before ++ (py.strip s).toList ++ after ∧
    ∀ c ∈ before ++ after, py.isspace c = true

/-- The words `[a-z0-9]+` of a title after `fold` and `casefold`. -/
def foldedWords (unicode : UnicodeText) (title : String) : List (List Char) :=
  findAll (.many1 isTokenChar) (unicode.casefold (fold unicode title)).toList

/-- Spaces and punctuation. -/
def isSeparator (py : PyText) (c : Char) : Bool := py.isspace c || isPunctuation c

/-- The words, with a run of spaces and punctuation between every two. -/
inductive Written (py : PyText) : List (List Char) → List Char → Prop
  | last (word : List Char) : Written py [word] word
  | cons {words : List (List Char)} {text run : List Char} (word : List Char)
    (h : Written py words text) (hne : run ≠ []) (hrun : ∀ c ∈ run, isSeparator py c = true) :
    Written py (word :: words) (word ++ run ++ text)

/-- One variation of a title. -/
inductive Variation (py : PyText) (unicode : UnicodeText) : List Char → List Char → Prop
  /-- The same words in an other order, as often as one likes, with other runs between them. -/
  | words {words words' : List (List Char)} {s s' : List Char} (h : Written py words s)
    (h' : Written py words' s') (hsame : ∀ word, word ≠ [] → (word ∈ words ↔ word ∈ words')) :
    Variation py unicode s s'
  /-- An ASCII letter in the other case. -/
  | letter {s t : List Char} {c d : Char} (hc : isAsciiLetter c = true)
    (hd : isAsciiLetter d = true) (hsame : c.toLower = d.toLower) :
    Variation py unicode (s ++ c :: t) (s ++ d :: t)
  /-- A character that is not seen, or a mark. -/
  | insert {s t : List Char} {c : Char} (hc : c ∈ invisible ∨ unicode.combining c = true) :
    Variation py unicode (s ++ t) (s ++ c :: t)

/-! ## Folding, character by character -/

lemma plain_of_ascii : ∀ n < 128, invisible.contains (Char.ofNat n) = false ∧
    indivisible.lookup (Char.ofNat n) = none := by
  decide

lemma punctuation_spec : ∀ n < 128, isPunctuation (Char.ofNat n) = true →
    isTokenChar (Char.ofNat n) = false ∧ (Char.ofNat n).toLower = Char.ofNat n := by
  decide

/-- What `fold` makes of a character. -/
def foldChar (data : Decomposition) (c : Char) : List Char :=
  if invisible.contains c then []
  else (((indivisible.lookup c).map String.toList).getD [c]).flatMap fun d =>
    (data.decompose d).filter (!data.isMark ·)

variable {py : PyText} {unicode : UnicodeText} {data : Decomposition}
  {foldCase : Char → List Char}

section

variable (laws : UnicodeLaws py unicode data foldCase)
include laws

lemma toList_fold (title : String) :
    (fold unicode title).toList = title.toList.flatMap (foldChar data) := by
  have hmark : (fun c => !unicode.combining c) = (!data.isMark ·) := by
    funext c
    rw [laws.combining]
  rw [fold, String.toList_ofList, laws.nfkd, String.toList_ofList, hmark,
    data.filter_nfkd, List.flatMap_assoc]
  induction title.toList with
  | nil => rfl
  | cons c title ih =>
    rw [List.flatMap_cons, ← ih]
    by_cases hc : invisible.contains c = true
    · rw [List.filter_cons_of_neg (by simpa using hc), foldChar, if_pos hc]
      rfl
    · rw [List.filter_cons_of_pos (by simpa using hc), List.flatMap_cons, foldChar, if_neg hc]

lemma foldedWords_eq (title : String) : foldedWords unicode title =
    findAll (.many1 isTokenChar) ((title.toList.flatMap (foldChar data)).flatMap foldCase) := by
  have hfold : fold unicode title = String.ofList (title.toList.flatMap (foldChar data)) := by
    rw [← toList_fold laws, String.ofList_toList]
  rw [foldedWords, hfold, laws.casefold, String.toList_ofList]

/-! ## Separators -/

/-- White space separates words after `casefold`. -/
lemma findAll_space {s t run : List Char} (hne : run ≠ [])
    (hrun : ∀ c ∈ run, py.isspace c = true) :
    findAll (.many1 isTokenChar) ((s ++ run ++ t).flatMap foldCase) =
      findAll (.many1 isTokenChar) (s.flatMap foldCase) ++
        findAll (.many1 isTokenChar) (t.flatMap foldCase) := by
  have hsame : run.flatMap foldCase = run := by
    rw [List.flatMap_congr (g := fun c => [c]) fun c hc => (laws.space c (hrun c hc)).2.1]
    exact List.flatMap_singleton' run
  rw [List.flatMap_append, List.flatMap_append, hsame]
  refine findAll_append_run hne fun c hc => ?_
  by_contra htoken
  rw [Bool.not_eq_false] at htoken
  have hspace := laws.notSpace c (.inr (.inr htoken))
  rw [hrun c hc] at hspace
  cases hspace

/-- Runs of white space may as well be single spaces. -/
lemma findAll_collapse (s text : List Char) :
    findAll (.many1 isTokenChar)
        ((s ++ replaceAll (.many1 py.isspace) (fun _ => [' ']) text).flatMap foldCase) =
      findAll (.many1 isTokenChar) ((s ++ text).flatMap foldCase) := by
  induction hlength : text.length using Nat.strong_induction_on generalizing s text with
  | _ n ih =>
    cases text with
    | nil => rfl
    | cons c text =>
      by_cases hc : py.isspace c = true
      · have hle := List.length_dropWhile_le py.isspace text
        have hrest := ih (text.dropWhile py.isspace).length
          (by rw [← hlength, List.length_cons]; omega) [] (text.dropWhile py.isspace) rfl
        have hrun : ∀ d ∈ c :: text.takeWhile py.isspace, py.isspace d = true := by
          intro d hd
          rcases List.mem_cons.mp hd with rfl | hd
          · exact hc
          · exact List.mem_takeWhile_imp hd
        have hsplit : s ++ c :: text =
            s ++ (c :: text.takeWhile py.isspace) ++ text.dropWhile py.isspace := by
          rw [List.append_assoc, List.cons_append, List.takeWhile_append_dropWhile]
        rw [replaceAll_cons_of_pos hc, ← List.append_assoc, hsplit,
          findAll_space laws (by simp) (by simpa using laws.blank),
          findAll_space laws (by simp) hrun]
        rw [List.nil_append, List.nil_append] at hrest
        rw [hrest]
      · have hc' : py.isspace c = false := by simpa using hc
        have hrest := ih text.length (by rw [← hlength]; simp) (s ++ [c]) text rfl
        rw [List.append_assoc, List.append_assoc] at hrest
        rw [replaceAll_cons_of_neg hc']
        exact hrest

lemma findAll_strip (s : String) :
    findAll (.many1 isTokenChar) ((py.strip s).toList.flatMap foldCase) =
      findAll (.many1 isTokenChar) (s.toList.flatMap foldCase) := by
  obtain ⟨before, after, hsplit, hspace⟩ := laws.strip s
  have hnil : findAll (.many1 isTokenChar) (([] : List Char).flatMap foldCase) = [] := rfl
  rw [hsplit]
  have hbefore : ∀ text, findAll (.many1 isTokenChar) ((before ++ text).flatMap foldCase) =
      findAll (.many1 isTokenChar) (text.flatMap foldCase) := by
    intro text
    rcases before.eq_nil_or_concat' with rfl | ⟨init, c, rfl⟩
    · rfl
    · have hrun := @findAll_space _ _ _ _ laws [] text (init ++ [c]) (by simp)
        fun d hd => hspace d (List.mem_append_left after hd)
      rwa [hnil, List.nil_append, List.nil_append] at hrun
  have hafter : ∀ text, findAll (.many1 isTokenChar) ((text ++ after).flatMap foldCase) =
      findAll (.many1 isTokenChar) (text.flatMap foldCase) := by
    intro text
    rcases after.eq_nil_or_concat' with rfl | ⟨init, c, rfl⟩
    · rw [List.append_nil]
    · have hrun := @findAll_space _ _ _ _ laws text [] (init ++ [c]) (by simp)
        fun d hd => hspace d (List.mem_append_right before hd)
      rwa [hnil, List.append_nil, List.append_nil] at hrun
  rw [List.append_assoc, hbefore, hafter]

/-- Titles are cleaned without a change to their words. -/
lemma findAll_cleanText (title : String) :
    findAll (.many1 isTokenChar) (cleanText py unicode title).toList =
      foldedWords unicode title := by
  have hcollapse := findAll_collapse laws [] (py.strip (fold unicode title)).toList
  rw [List.nil_append, List.nil_append] at hcollapse
  rw [cleanText, laws.casefold, String.toList_ofList, hcollapse, findAll_strip laws,
    toList_fold laws, foldedWords_eq laws]

lemma normalizeDiscovery_tokens (title : String) :
    (normalizeDiscovery py unicode title).tokens =
      sortedSet ((foldedWords unicode title).map String.ofList) := by
  have hempty : foldedWords unicode "" = [] := by
    rw [foldedWords_eq laws]
    rfl
  have hwords : findAll (.many1 isTokenChar)
      (cleanText py unicode "" ++ " " ++ cleanText py unicode title).toList =
        foldedWords unicode title := by
    have htext : (cleanText py unicode "" ++ " " ++ cleanText py unicode title).toList =
        (cleanText py unicode "").toList ++ ' ' :: (cleanText py unicode title).toList := by
      simp [String.toList_append]
    rw [htext, findAll_append_cons (by decide), findAll_cleanText laws,
      findAll_cleanText laws, hempty, List.nil_append]
  simp only [normalizeDiscovery, Option.getD_none, hwords]

/-! ## Variations -/

/-- A title after `fold` and `casefold`. -/
def plainText (data : Decomposition) (foldCase : Char → List Char) (text : List Char) :
    List Char :=
  (text.flatMap (foldChar data)).flatMap foldCase

omit laws in
lemma plainText_append (s t : List Char) : plainText data foldCase (s ++ t) =
    plainText data foldCase s ++ plainText data foldCase t := by
  rw [plainText, List.flatMap_append, List.flatMap_append]
  rfl

omit laws in
lemma foldChar_plain {c : Char} (hvisible : c ∉ invisible)
    (hwhole : c ∉ indivisible.map Prod.fst) :
    foldChar data c = (data.decompose c).filter (!data.isMark ·) := by
  have hlookup : indivisible.lookup c = none := by
    refine List.lookup_eq_none_iff.mpr fun entry hentry => ?_
    have hne : c ≠ entry.1 := by
      rintro rfl
      exact hwhole (List.mem_map_of_mem hentry)
    simpa using hne
  rw [foldChar, if_neg (by simpa using hvisible), hlookup]
  simp

lemma plainText_ascii {c : Char} (hc : c.toNat < 128) :
    plainText data foldCase [c] = [c.toLower] := by
  obtain ⟨hvisible, hlookup⟩ := plain_of_ascii c.toNat hc
  obtain ⟨hdecompose, hmark, hlower⟩ := laws.ascii c hc
  rw [Char.ofNat_toNat] at hvisible hlookup
  have hfold : foldChar data c = [c] := by
    rw [foldChar, hvisible, hlookup]
    simp [hdecompose, hmark]
  simp [plainText, hfold, hlower]

lemma plainText_space {c : Char} (hc : py.isspace c = true) :
    plainText data foldCase [c] ≠ [] ∧
      ∀ d ∈ plainText data foldCase [c], isTokenChar d = false := by
  have hnot : ∀ d, py.isspace d = true → d ∉ invisible ∧ d ∉ indivisible.map Prod.fst ∧
      isTokenChar d = false := by
    intro d hd
    refine ⟨fun hmem => ?_, fun hmem => ?_, ?_⟩
    · have hspace := laws.notSpace d (.inl hmem)
      rw [hd] at hspace
      cases hspace
    · have hspace := laws.notSpace d (.inr (.inl hmem))
      rw [hd] at hspace
      cases hspace
    · by_contra htoken
      rw [Bool.not_eq_false] at htoken
      have hspace := laws.notSpace d (.inr (.inr htoken))
      rw [hd] at hspace
      cases hspace
  obtain ⟨-, -, hne, hspaces⟩ := laws.space c hc
  have hfold : foldChar data c = data.decompose c := by
    rw [foldChar_plain (hnot c hc).1 (hnot c hc).2.1]
    refine List.filter_eq_self.mpr fun d hd => ?_
    rw [(laws.space d (hspaces d hd)).1]
    rfl
  have hlower : plainText data foldCase [c] = data.decompose c := by
    rw [plainText, List.flatMap_singleton, hfold,
      List.flatMap_congr (g := fun d => [d]) fun d hd => (laws.space d (hspaces d hd)).2.1]
    exact List.flatMap_singleton' _
  rw [hlower]
  exact ⟨hne, fun d hd => (hnot d (hspaces d hd)).2.2⟩

/-- A separator becomes something, and nothing of a word. -/
lemma plainText_separator {c : Char} (hc : isSeparator py c = true) :
    plainText data foldCase [c] ≠ [] ∧
      ∀ d ∈ plainText data foldCase [c], isTokenChar d = false := by
  rw [isSeparator, Bool.or_eq_true] at hc
  rcases hc with hspace | hpunctuation
  · exact plainText_space laws hspace
  · have hascii : c.toNat < 128 := by
      simp only [isPunctuation, Bool.and_eq_true, decide_eq_true_eq] at hpunctuation
      have hle : c.toNat ≤ '~'.toNat := hpunctuation.1.1.2
      have htilde : '~'.toNat = 126 := rfl
      omega
    have hspec := punctuation_spec c.toNat hascii
    rw [Char.ofNat_toNat] at hspec
    obtain ⟨htoken, hlower⟩ := hspec hpunctuation
    rw [plainText_ascii laws hascii, hlower]
    simp [htoken]

lemma plainText_run {run : List Char} (hne : run ≠ [])
    (hrun : ∀ c ∈ run, isSeparator py c = true) : plainText data foldCase run ≠ [] ∧
      ∀ d ∈ plainText data foldCase run, isTokenChar d = false := by
  induction run with
  | nil => exact absurd rfl hne
  | cons c run ih =>
    have hfirst := plainText_separator laws (hrun c List.mem_cons_self)
    have hsplit := @plainText_append data foldCase [c] run
    rw [List.singleton_append] at hsplit
    rw [hsplit]
    refine ⟨by simp [hfirst.1], fun d hd => ?_⟩
    rcases List.mem_append.mp hd with hd | hd
    · exact hfirst.2 d hd
    · cases run with
      | nil => cases hd
      | cons e run => exact (ih (by simp) fun f hf => hrun f (List.mem_cons_of_mem c hf)).2 d hd

/-- The words of a text are those of the words that it is written with. -/
lemma Written.mem_words {words : List (List Char)} {s : List Char} (h : Written py words s)
    (token : List Char) : token ∈ findAll (.many1 isTokenChar) (plainText data foldCase s) ↔
      ∃ word ∈ words, token ∈ findAll (.many1 isTokenChar) (plainText data foldCase word) := by
  induction h with
  | last word => simp
  | cons word h hne hrun ih =>
    obtain ⟨hnonempty, hsilent⟩ := plainText_run laws hne hrun
    rw [plainText_append, plainText_append, findAll_append_run hnonempty hsilent,
      List.mem_append, ih]
    simp

lemma Variation.mem_words {s s' : List Char} (h : Variation py unicode s s')
    (token : List Char) : token ∈ findAll (.many1 isTokenChar) (plainText data foldCase s) ↔
      token ∈ findAll (.many1 isTokenChar) (plainText data foldCase s') := by
  cases h with
  | words h h' hsame =>
    rw [h.mem_words laws, h'.mem_words laws]
    have hword : ∀ word, token ∈ findAll (.many1 isTokenChar) (plainText data foldCase word) →
        word ≠ [] := by
      rintro word htoken rfl
      cases htoken
    constructor
    · rintro ⟨word, hmem, htoken⟩
      exact ⟨word, (hsame word (hword word htoken)).mp hmem, htoken⟩
    · rintro ⟨word, hmem, htoken⟩
      exact ⟨word, (hsame word (hword word htoken)).mpr hmem, htoken⟩
  | @letter s t c d hc hd hsame =>
    have hascii : ∀ c, isAsciiLetter c = true → c.toNat < 128 := by
      intro c hc
      simp only [isAsciiLetter, Bool.or_eq_true, Bool.and_eq_true, decide_eq_true_eq] at hc
      have hupper : 'Z'.toNat = 90 := rfl
      have hlower : 'z'.toNat = 122 := rfl
      rcases hc with ⟨-, hle⟩ | ⟨-, hle⟩
      · have hle' : c.toNat ≤ 'Z'.toNat := hle
        omega
      · have hle' : c.toNat ≤ 'z'.toNat := hle
        omega
    have hletter : ∀ c, isAsciiLetter c = true → plainText data foldCase (s ++ c :: t) =
        plainText data foldCase s ++ [c.toLower] ++ plainText data foldCase t := by
      intro c hc
      rw [← List.singleton_append, plainText_append, plainText_append,
        plainText_ascii laws (hascii c hc), List.append_assoc]
    rw [hletter c hc, hletter d hd, hsame]
  | @insert s t c hc =>
    have hnothing : plainText data foldCase [c] = [] := by
      rw [plainText, List.flatMap_singleton]
      by_cases hvisible : c ∈ invisible
      · rw [foldChar, if_pos (by simpa using hvisible)]
        rfl
      · have hmark : data.isMark c = true := by
          rw [← laws.combining]
          exact hc.resolve_left hvisible
        have hwhole : c ∉ indivisible.map Prod.fst := by
          intro hmem
          rw [laws.letter c hmem] at hmark
          cases hmark
        have hmarks : (data.decompose c).filter (!data.isMark ·) = [] := by
          refine List.filter_eq_nil_iff.mpr fun d hd => ?_
          simp [laws.mark c hmark d hd]
        rw [foldChar_plain hvisible hwhole, hmarks]
        rfl
    rw [← List.singleton_append, plainText_append, plainText_append, plainText_append, hnothing,
      List.nil_append]

lemma mem_foldedWords_of_variations {s s' : List Char}
    (h : Relation.EqvGen (Variation py unicode) s s') (token : List Char) :
    token ∈ findAll (.many1 isTokenChar) (plainText data foldCase s) ↔
      token ∈ findAll (.many1 isTokenChar) (plainText data foldCase s') := by
  induction h with
  | rel s s' h => exact h.mem_words laws token
  | refl s => exact Iff.rfl
  | symm s s' h ih => exact ih.symm
  | trans s s' s'' h h' ih ih' => exact ih.trans ih'

end

/-! ## Reading a key -/

/-- The words of a key can be read back from it. -/
lemma intercalate_bar_inj {xs ys : List String}
    (hxs : ∀ x ∈ xs, x ≠ "" ∧ '|' ∉ x.toList) (hys : ∀ y ∈ ys, y ≠ "" ∧ '|' ∉ y.toList)
    (h : "|".intercalate xs = "|".intercalate ys) : xs = ys := by
  have hread : ∀ {zs : List String}, (∀ z ∈ zs, z ≠ "" ∧ '|' ∉ z.toList) → zs ≠ [] →
      ("|".intercalate zs).toList.splitOn '|' = zs.map String.toList := by
    intro zs hzs hne
    rw [String.toList_intercalate]
    refine List.splitOn_intercalate '|' (fun chars hchars => ?_) (by simpa using hne)
    obtain ⟨z, hz, rfl⟩ := List.mem_map.mp hchars
    exact (hzs z hz).2
  have hempty : ∀ {zs : List String}, (∀ z ∈ zs, z ≠ "" ∧ '|' ∉ z.toList) →
      "|".intercalate zs = "" → zs = [] := by
    intro zs hzs hkey
    by_contra hne
    have hsplit := hread hzs hne
    rw [hkey] at hsplit
    cases zs with
    | nil => exact hne rfl
    | cons z zs =>
      have hhead : z.toList = [] := (List.cons.inj hsplit).1.symm
      exact (hzs z List.mem_cons_self).1 (String.toList_eq_nil_iff.mp hhead)
  by_cases hnil : xs = []
  · subst hnil
    exact (hempty hys h.symm).symm
  · have hnil' : ys ≠ [] := by
      rintro rfl
      exact hnil (hempty hxs h)
    have hmap := hread hxs hnil
    rw [h, hread hys hnil'] at hmap
    exact (List.map_injective_iff.mpr fun _ _ => String.toList_inj.mp) hmap.symm

lemma sortedSet_eq_iff {xs ys : List String} :
    sortedSet xs = sortedSet ys ↔ ∀ x, x ∈ xs ↔ x ∈ ys := by
  constructor
  · intro h x
    rw [← mem_sortedSet, h, mem_sortedSet]
  · intro h
    have heq := @List.Perm.eq_of_pairwise String (· < ·) (sortedSet xs) (sortedSet ys)
    refine heq ?_ (pairwise_sortedSet xs) (pairwise_sortedSet ys) ?_
    · intro a b _ _ hab hba
      exact absurd hab hba.not_gt
    · rw [List.perm_ext_iff_of_nodup ((pairwise_sortedSet xs).imp fun h => h.ne)
        ((pairwise_sortedSet ys).imp fun h => h.ne)]
      simpa using h

lemma identityKey_eq_iff (laws : UnicodeLaws py unicode data foldCase) (title title' : String) :
    (normalizeDiscovery py unicode title).identityKey =
        (normalizeDiscovery py unicode title').identityKey ↔
      ∀ word, word ∈ foldedWords unicode title ↔ word ∈ foldedWords unicode title' := by
  have hkey : ∀ title, (normalizeDiscovery py unicode title).identityKey =
      "|".intercalate (sortedSet ((foldedWords unicode title).map String.ofList)) := by
    intro title
    rw [← normalizeDiscovery_tokens laws title]
    rfl
  have hwords : ∀ title, ∀ x ∈ sortedSet ((foldedWords unicode title).map String.ofList),
      x ≠ "" ∧ '|' ∉ x.toList := by
    intro title x hx
    rw [mem_sortedSet] at hx
    obtain ⟨word, hword, rfl⟩ := List.mem_map.mp hx
    obtain ⟨hne, hchars⟩ := mem_of_findAll hword
    rw [String.toList_ofList]
    refine ⟨fun hempty => hne ?_, fun hbar => ?_⟩
    · rw [← String.toList_ofList (l := word), hempty]
      rfl
    · exact absurd (hchars '|' hbar) (by decide)
  have hmem : ∀ (words : List (List Char)) (word : List Char),
      String.ofList word ∈ words.map String.ofList ↔ word ∈ words := by
    intro words word
    refine List.mem_map_of_injective fun a b hab => ?_
    rw [← String.toList_ofList (l := a), hab, String.toList_ofList]
  rw [hkey, hkey]
  constructor
  · intro h word
    have hsame := sortedSet_eq_iff.mp (intercalate_bar_inj (hwords title) (hwords title') h)
    rw [← hmem, hsame, hmem]
  · intro h
    refine congrArg _ (sortedSet_eq_iff.mpr fun x => ?_)
    have hx : String.ofList x.toList = x := String.ofList_toList
    rw [← hx, hmem, hmem]
    exact h _

/-- Variations of a title have its key, and titles have one key exactly if they have the same set
of folded words. -/
theorem identity_key_of_words (laws : UnicodeLaws py unicode data foldCase) :
    (∀ title title' : String,
      Relation.EqvGen (Variation py unicode) title.toList title'.toList →
        (normalizeDiscovery py unicode title).identityKey =
          (normalizeDiscovery py unicode title').identityKey) ∧
    ∀ title title' : String, (normalizeDiscovery py unicode title).identityKey =
        (normalizeDiscovery py unicode title').identityKey ↔
      ∀ word, word ∈ foldedWords unicode title ↔ word ∈ foldedWords unicode title' := by
  refine ⟨fun title title' h => ?_, identityKey_eq_iff laws⟩
  refine (identityKey_eq_iff laws title title').mpr fun word => ?_
  rw [foldedWords_eq laws, foldedWords_eq laws]
  exact mem_foldedWords_of_variations laws h word

/-! ## Accents -/

namespace Sample

def cedilla : Char := Char.ofNat 0x327

def acute : Char := Char.ofNat 0x301

def softHyphen : Char := Char.ofNat 0xad

/-- Two marks and two letters that have one. -/
def latin : Decomposition where
  decompose := fun c => if c = 'ç' then ['c', cedilla] else if c = 'é' then ['e', acute] else [c]
  combiningClass := fun c => if c = cedilla then 202 else if c = acute then 230 else 0

def latinText : UnicodeText where
  nfkd := fun s => String.ofList (latin.nfkd s.toList)
  combining := latin.isMark
  casefold := String.map Char.toLower

lemma latin_ascii : ∀ n < 128, latin.decompose (Char.ofNat n) = [Char.ofNat n] ∧
    latin.isMark (Char.ofNat n) = false := by
  decide

lemma token_notSpace : ∀ n < 128, isTokenChar (Char.ofNat n) = true →
    (Char.ofNat n).isWhitespace = false := by
  decide

lemma isTokenChar_ascii {c : Char} (hc : isTokenChar c = true) : c.toNat < 128 := by
  simp only [isTokenChar, Bool.or_eq_true, Bool.and_eq_true, decide_eq_true_eq] at hc
  have hlower : 'z'.toNat = 122 := rfl
  have hdigit : '9'.toNat = 57 := rfl
  rcases hc with ⟨-, hle⟩ | ⟨-, hle⟩
  · have hle' : c.toNat ≤ 'z'.toNat := hle
    omega
  · have hle' : c.toNat ≤ '9'.toNat := hle
    omega

lemma latinLaws : UnicodeLaws textPy latinText latin fun c => [c.toLower] where
  nfkd := by
    intro s
    change String.ofList (latin.nfkd (String.ofList s).toList) = _
    rw [String.toList_ofList]
  combining := fun _ => rfl
  casefold := by
    intro s
    change (String.ofList s).map Char.toLower = _
    rw [← String.toList_inj, String.toList_map, String.toList_ofList, String.toList_ofList]
    exact (List.flatMap_pure_eq_map _ _).symm
  mark := by
    intro c hmark d hd
    have hplain : latin.decompose c = [c] := by
      have hmarks : c = cedilla ∨ c = acute := by
        by_contra hnot
        rw [not_or] at hnot
        rw [Decomposition.isMark, latin] at hmark
        simp [hnot.1, hnot.2] at hmark
      rcases hmarks with rfl | rfl <;> decide
    rw [hplain, List.mem_singleton] at hd
    rwa [hd]
  ascii := by
    intro c hc
    have hascii := latin_ascii c.toNat hc
    rw [Char.ofNat_toNat] at hascii
    exact ⟨hascii.1, hascii.2, rfl⟩
  blank := rfl
  space := by
    intro c hc
    change c.isWhitespace = true at hc
    simp only [Char.isWhitespace, Bool.or_eq_true, decide_eq_true_eq] at hc
    have hplain : latin.decompose c = [c] ∧ latin.isMark c = false ∧ c.toLower = c ∧
        c.isWhitespace = true := by
      rcases hc with ((rfl | rfl) | rfl) | rfl <;> decide
    obtain ⟨hdecompose, hmark, hlower, hspace⟩ := hplain
    refine ⟨hmark, by rw [hlower], by simp [hdecompose], fun d hd => ?_⟩
    rw [hdecompose, List.mem_singleton] at hd
    rwa [hd]
  notSpace := by
    rintro c (hc | hc | hc) <;> change c.isWhitespace = false
    · have hnone : invisible.all (!Char.isWhitespace ·) = true := by
        decide
      simpa using List.all_eq_true.mp hnone c hc
    · have hnone : (indivisible.map Prod.fst).all (!Char.isWhitespace ·) = true := by
        decide
      simpa using List.all_eq_true.mp hnone c hc
    · have hspace := token_notSpace c.toNat (isTokenChar_ascii hc)
      rw [Char.ofNat_toNat] at hspace
      exact hspace hc
  letter := by
    have hnone : (indivisible.map Prod.fst).all (!latin.isMark ·) = true := by
      decide
    intro c hc
    simpa using List.all_eq_true.mp hnone c hc
  strip := by
    intro s
    exact ⟨[], [], by simp; rfl, by simp⟩

end Sample

/-- Accents, case, order, repetition, punctuation and a soft hyphen make no difference. -/
theorem accented_award_key :
    (normalizeDiscovery Sample.textPy Sample.latinText "Koç Award").identityKey =
      (normalizeDiscovery Sample.textPy Sample.latinText "AWARD (Koc, koc)").identityKey ∧
    (normalizeDiscovery Sample.textPy Sample.latinText "Koc Award").identityKey =
      (normalizeDiscovery Sample.textPy Sample.latinText
        (String.ofList ("Koc Aw".toList ++ Sample.softHyphen :: "ard".toList))).identityKey := by
  obtain ⟨hvariations, hwords⟩ := identity_key_of_words Sample.latinLaws
  constructor
  · have hfirst : foldedWords Sample.latinText "Koç Award" =
        ["koc".toList, "award".toList] := by
      decide +kernel
    have hsecond : foldedWords Sample.latinText "AWARD (Koc, koc)" =
        ["award".toList, "koc".toList, "koc".toList] := by
      decide +kernel
    refine (hwords _ _).mpr fun word => ?_
    rw [hfirst, hsecond]
    simp only [List.mem_cons, List.not_mem_nil, or_false]
    tauto
  · refine hvariations _ _ (.rel _ _ ?_)
    have hsplit : "Koc Award".toList = "Koc Aw".toList ++ "ard".toList := by
      decide
    have hvisible : invisible.contains Sample.softHyphen = true := by
      decide
    have hinsert : Variation Sample.textPy Sample.latinText "Koc Award".toList
        ("Koc Aw".toList ++ Sample.softHyphen :: "ard".toList) := by
      rw [hsplit]
      exact .insert (.inl (by simpa using hvisible))
    rwa [String.toList_ofList]

end ScholarshipFinder
