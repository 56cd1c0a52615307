import ScholarshipFinder.Lib.Words
import ScholarshipFinder.Sample.Approvals

/-!
# The slug of an approved award

The slug is the words of the title, or a number after them.  It is always of the form that a review
asks for, and free; it need not fit its column.
-/

namespace ScholarshipFinder

open Lib

/-- `[a-z0-9]+` -/
def slugWord : Language Char := {cs | cs ≠ [] ∧ ∀ c ∈ cs, isSlugChar c = true}

/-- `^[a-z0-9]+(?:-[a-z0-9]+)*$` -/
def slugPattern : Language Char := slugWord * KStar.kstar (({['-']} : Language Char) * slugWord)

/-- The letters and digits of a title in lower case, in runs. -/
def slugWords (py : ApprovalPy) (name : String) : List (List Char) :=
  Pattern.findAll (.many1 isSlugChar) (py.lower name).toList

/-- The words with hyphens between them. -/
def hyphenated (words : List (List Char)) : String :=
  if words = [] then "scholarship" else String.ofList (['-'].intercalate words)

/-- Whether an award has the slug. -/
def slugTaken (store : ReviewStore) (slug : String) : Bool :=
  store.shells.keys.any fun id => (store.shells.row id).any (·.slug = slug)

variable {py : ApprovalPy} {name slug : String} {store : ReviewStore} {words : List (List Char)}

/-! ## The form of a slug -/

lemma intercalate_eq_append {word : List Char} :
    ['-'].intercalate (word :: words) = word ++ (words.map (['-'] ++ ·)).flatten := by
  induction words generalizing word with
  | nil => simp
  | cons next words ih =>
    rw [List.intercalate_cons_cons, ih, List.map_cons, List.flatten_cons, List.append_assoc,
      List.append_assoc]

lemma intercalate_mem_slugPattern (hwords : ∀ word ∈ words, word ∈ slugWord) (hne : words ≠ []) :
    ['-'].intercalate words ∈ slugPattern := by
  obtain ⟨word, words, rfl⟩ := List.exists_cons_of_ne_nil hne
  rw [intercalate_eq_append]
  refine Language.append_mem_mul (hwords word List.mem_cons_self) ?_
  refine Language.mem_kstar.mpr ⟨_, rfl, fun part hpart => ?_⟩
  obtain ⟨next, hnext, rfl⟩ := List.mem_map.mp hpart
  exact Language.append_mem_mul rfl (hwords next (List.mem_cons_of_mem word hnext))

/-- A number may follow. -/
lemma append_mem_slugPattern {cs word : List Char} (hcs : cs ∈ slugPattern) (hword : word ∈ slugWord) :
    cs ++ ('-' :: word) ∈ slugPattern := by
  obtain ⟨first, hfirst, rest, hrest, rfl⟩ := hcs
  obtain ⟨parts, rfl, hparts⟩ := Language.mem_kstar.mp hrest
  rw [List.append_assoc]
  refine Language.append_mem_mul hfirst (Language.mem_kstar.mpr
    ⟨parts ++ ['-' :: word], by simp, fun part hpart => ?_⟩)
  rcases List.mem_append.mp hpart with hpart | hpart
  · exact hparts part hpart
  · rw [List.mem_singleton.mp hpart]
    exact ⟨['-'], rfl, word, hword, rfl⟩

lemma hyphenated_mem_slugPattern (hwords : ∀ word ∈ words, word ∈ slugWord) :
    (hyphenated words).toList ∈ slugPattern := by
  rw [hyphenated]
  split
  · refine ⟨"scholarship".toList, ⟨by decide, ?_⟩, [], ?_, List.append_nil _⟩
    · exact List.all_eq_true.mp (by decide)
    · exact Language.nil_mem_kstar _
  · next hne =>
    rw [String.toList_ofList]
    exact intercalate_mem_slugPattern hwords hne

lemma mem_slugWords {word : List Char} (h : word ∈ slugWords py name) : word ∈ slugWord :=
  Pattern.mem_of_findAll h

/-- What is left of the title is its words with hyphens between them. -/
lemma slugBase_eq : slugBase py name = hyphenated (slugWords py name) := by
  have hstrip := Pattern.strip_replaceAll_gaps (p := isSlugChar) (d := '-')
    (s := (py.lower name).toList) (by decide)
  rw [slugBase, hyphenated, hstrip, ← slugWords]
  by_cases hnone : slugWords py name = []
  · rw [hnone, List.intercalate_nil, if_pos rfl, if_pos rfl]
  · have hne := (Pattern.ends_intercalate (p := isSlugChar) (d := '-')
      (fun word hword => mem_slugWords hword) hnone).1
    rw [if_neg hne, if_neg hnone]

/-! ## The first slug that is free -/

/-- The numbers that are tried after the words. -/
def slugNumbers : List String := ["-2", "-3", "-4", "-5"]

lemma length_slugNumbers {number : String} (h : number ∈ slugNumbers) : number.length = 2 := by
  revert number
  decide

lemma toList_slugNumbers {number : String} (h : number ∈ slugNumbers) :
    number.toList = '-' :: number.toList.tail ∧ number.toList.tail ≠ [] ∧
      number.toList.tail.all isSlugChar = true := by
  revert number
  decide

lemma availableSlug_eq : availableSlug py name store =
    (slugBase py name :: slugNumbers.map (slugBase py name ++ ·)).find? (!slugTaken store ·) := rfl

lemma mem_slugPattern_of_available (h : availableSlug py name store = some slug) :
    slug.toList ∈ slugPattern := by
  have hbase : (slugBase py name).toList ∈ slugPattern := by
    rw [slugBase_eq]
    exact hyphenated_mem_slugPattern fun word hword => mem_slugWords hword
  rw [availableSlug_eq] at h
  rcases List.mem_cons.mp (List.mem_of_find?_eq_some h) with rfl | hmem
  · exact hbase
  · obtain ⟨number, hnumber, rfl⟩ := List.mem_map.mp hmem
    obtain ⟨hlist, hne, hdigits⟩ := toList_slugNumbers hnumber
    rw [String.toList_append, hlist]
    exact append_mem_slugPattern hbase ⟨hne, List.all_eq_true.mp hdigits⟩

lemma free_of_available (h : availableSlug py name store = some slug) :
    slugTaken store slug = false := by
  rw [availableSlug_eq] at h
  simpa using List.find?_some h

/-- The slug that is found fits exactly if the words do, with a number after them if one is
needed. -/
lemma length_available_iff {base : String} (hbase : slugBase py name = base) :
    (∀ slug, availableSlug py name store = some slug → slug.length ≤ 255) ↔
      (slugTaken store base = false → base.length ≤ 255) ∧
      (slugTaken store base = true →
        (∃ number ∈ slugNumbers, slugTaken store (base ++ number) = false) →
          base.length + 2 ≤ 255) := by
  rw [availableSlug_eq, hbase]
  cases htaken : slugTaken store base with
  | false =>
    rw [List.find?_cons_of_pos (by simp [htaken])]
    constructor
    · exact fun h => ⟨fun _ => h base rfl, nofun⟩
    · rintro ⟨h, -⟩ slug ⟨⟩
      exact h rfl
  | true =>
    rw [List.find?_cons_of_neg (by simp [htaken])]
    constructor
    · intro h
      refine ⟨nofun, ?_⟩
      rintro - ⟨number, hnumber, hfree⟩
      have hsome : ((slugNumbers.map (base ++ ·)).find? (!slugTaken store ·)).isSome := by
        rw [List.find?_isSome]
        exact ⟨base ++ number, List.mem_map_of_mem hnumber, by rw [hfree]; rfl⟩
      obtain ⟨slug, hslug⟩ := Option.isSome_iff_exists.mp hsome
      obtain ⟨number', hnumber', rfl⟩ := List.mem_map.mp (List.mem_of_find?_eq_some hslug)
      have hlength := h _ hslug
      rwa [String.length_append, length_slugNumbers hnumber'] at hlength
    · rintro ⟨-, h⟩ slug hslug
      obtain ⟨number, hnumber, rfl⟩ := List.mem_map.mp (List.mem_of_find?_eq_some hslug)
      have hfree := List.find?_some hslug
      rw [String.length_append, length_slugNumbers hnumber]
      exact h rfl ⟨number, hnumber, by simpa using hfree⟩

/-- The slug is always of the form that a review asks for, and free.  It fits its column exactly if
the words of the title with hyphens between them do, or, where another award has that slug and a
number is free, if they do with the number. -/
theorem available_slug_usable_iff (py : ApprovalPy) (name : String) (store : ReviewStore) :
    (∀ slug, availableSlug py name store = some slug →
      slug.toList ∈ slugPattern ∧ slugTaken store slug = false) ∧
    ((∀ slug, availableSlug py name store = some slug →
        slug.toList ∈ slugPattern ∧ slugTaken store slug = false ∧ slug.length ≤ 255) ↔
      let base := hyphenated (slugWords py name)
      (slugTaken store base = false → base.length ≤ 255) ∧
      (slugTaken store base = true →
        (∃ number ∈ slugNumbers, slugTaken store (base ++ number) = false) →
          base.length + 2 ≤ 255)) := by
  have hform : ∀ slug, availableSlug py name store = some slug →
      slug.toList ∈ slugPattern ∧ slugTaken store slug = false := fun slug hslug =>
    ⟨mem_slugPattern_of_available hslug, free_of_available hslug⟩
  refine ⟨hform, Iff.trans ?_ (length_available_iff slugBase_eq)⟩
  constructor
  · exact fun h slug hslug => (h slug hslug).2.2
  · exact fun h slug hslug => ⟨(hform slug hslug).1, (hform slug hslug).2, h slug hslug⟩

/-- A title of 300 letters. -/
theorem long_title_slug_too_long : ∃ name slug : String, name.length ≤ 500 ∧
    availableSlug Sample.approvalPy name Sample.approvalStore = some slug ∧
      ¬ slug.length ≤ 255 := by
  have hlower : Sample.approvalPy.lower (String.ofList (List.replicate 300 'a')) =
      String.ofList (List.replicate 300 'a') := by
    show (String.ofList (List.replicate 300 'a')).map Char.toLower = _
    rw [← String.toList_inj, String.toList_map, String.toList_ofList, List.map_replicate]
    rfl
  have hwords : slugWords Sample.approvalPy (String.ofList (List.replicate 300 'a')) =
      [List.replicate 300 'a'] := by
    rw [slugWords, hlower, String.toList_ofList]
    refine Pattern.findFrom_word (List.ne_nil_of_length_pos ?_) fun c hc => ?_
    · rw [List.length_replicate]
      omega
    rw [List.eq_of_mem_replicate hc]
    decide
  have hfree : slugTaken Sample.approvalStore (String.ofList (List.replicate 300 'a')) = false :=
    rfl
  refine ⟨String.ofList (List.replicate 300 'a'), String.ofList (List.replicate 300 'a'), ?_, ?_, ?_⟩
  · rw [String.length_ofList, List.length_replicate]
    omega
  · have hbase : slugBase Sample.approvalPy (String.ofList (List.replicate 300 'a')) =
        String.ofList (List.replicate 300 'a') := by
      rw [slugBase_eq, hwords, hyphenated, if_neg (List.cons_ne_nil _ _),
        List.intercalate_singleton]
    rw [availableSlug_eq, hbase, List.find?_cons_of_pos (by rw [hfree]; rfl)]
  · rw [String.length_ofList, List.length_replicate]
    omega

end ScholarshipFinder
