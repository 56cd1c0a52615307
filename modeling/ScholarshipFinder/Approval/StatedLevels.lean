import ScholarshipFinder.Domain.AutoApproval
import ScholarshipFinder.Lib.Words
import ScholarshipFinder.Sample.Text

/-!
# The levels that auto-approval asserts

The level keywords are looked for in the lower-cased text of a discovery wherever they stand, also
inside longer words, and `mba` is one of the keywords of the master's degree.  So a level is
asserted of a discovery that names it only if a word of the level stands by itself wherever one of
its keywords occurs.
-/

namespace ScholarshipFinder

open Lib

variable (py : PyText)

/-- The words that name a level, as the keywords of the extraction and the aliases of the taxonomy
have them. -/
def levelTerms : List (String × List String) := [
  ("masters", ["master's", "masters", "master", "msc", "ma"]),
  ("mba", ["mba"]),
  ("doctorate", ["phd", "ph.d", "ph.d.", "doctoral", "doctorate"])]

/-- A word of the level stands by itself in the text, in any letter case. -/
def NamesLevel (level text : String) : Prop := ∃ term ∈ (levelTerms.lookup level).getD [],
  Pattern.StandsIn py.isword term.toList (py.lower text).toList

/-- The title or the excerpt names the level. -/
def StatesLevel (rawTitle rawExcerpt : Option String) (level : String) : Prop :=
  ∃ text, (rawTitle = some text ∨ rawExcerpt = some text) ∧ NamesLevel py level text

/-- What is derived has only levels that are stated, and no master's degree where an MBA is the
only degree that is. -/
def LevelsStated (rawTitle rawExcerpt : Option String) (pageText : String) (countryNames : Dict) :
    Prop :=
  ∀ derived, deriveCycleFactsFromExtraction py rawTitle rawExcerpt pageText
      (some (extractCandidateFacts py rawTitle rawExcerpt)) countryNames = some derived →
    (∀ level ∈ derived.levels, StatesLevel py rawTitle rawExcerpt level) ∧
      ((∀ level, level ≠ "mba" → ¬ StatesLevel py rawTitle rawExcerpt level) →
        "masters" ∉ derived.levels)

/-- The texts name one supported destination and no other country, and agree on the kind of the
award. -/
def Screened (rawTitle rawExcerpt : Option String) (pageText : String) (countryNames : Dict) :
    Prop :=
  (∃ destination, mentionedCountries py (joinParts [rawTitle, rawExcerpt, some pageText])
    countryNames = ([destination], [])) ∧
    resolveAgreedAwardType py rawTitle rawExcerpt pageText ≠ none

/-- A keyword of the level occurs in the text, be it inside a word. -/
def HasKeyword (level text : String) : Prop :=
  ∃ keyword ∈ (levelKeywords.lookup level).getD [], occursIn keyword (py.lower text) = true

/-- What is used of the string methods, and that a blank parts words. -/
structure PyText.LevelLaws (py : PyText) : Prop where
  text : py.toPy.TextLaws
  lower_blank : ∀ s t, py.lower (s ++ " " ++ t) = py.lower s ++ " " ++ py.lower t
  blank : py.isword ' ' = false

variable {py} {rawTitle rawExcerpt : Option String} {level : String}

/-! ## The levels of a text -/

/-- A code of the keywords is read as itself by the taxonomy, or not at all. -/
lemma degree_keyword (hpy : py.toPy.TextLaws) (hcode : isCode level = true) :
    (taxonomy.degree py.toPy level).toOption =
      let code := (taxonomy.degreeAliases.lookup level).getD level
      if taxonomy.degrees.has code then some code else none := by
  rw [Taxonomy.degree, hpy.code_eq hcode]
  dsimp only
  split <;> rfl

/-- The degrees among the levels that are mentioned. -/
lemma mem_normalizeDegrees (hpy : py.toPy.TextLaws) :
    level ∈ (taxonomy.normalizeDegrees py.toPy
        (levelMentions (some (extractCandidateFacts py rawTitle rawExcerpt)))).1 ↔
      level ∈ ["masters", "doctorate"] ∧
        HasKeyword py level (joinParts [rawTitle, rawExcerpt]) := by
  have hbachelors : (taxonomy.degree py.toPy "bachelors").toOption = none :=
    degree_keyword hpy (by decide)
  have hdoctorate : (taxonomy.degree py.toPy "doctorate").toOption = some "doctorate" :=
    degree_keyword hpy (by decide)
  have hmasters : (taxonomy.degree py.toPy "masters").toOption = some "masters" :=
    degree_keyword hpy (by decide)
  have hmentions : ∀ mention, mention ∈ levelMentions
      (some (extractCandidateFacts py rawTitle rawExcerpt)) ↔
      mention ∈ levelKeywords.map Prod.fst ∧
        HasKeyword py mention (joinParts [rawTitle, rawExcerpt]) := by
    intro mention
    have hlookup : ∀ entry ∈ levelKeywords, levelKeywords.lookup entry.1 = some entry.2 := by
      decide
    constructor
    · intro h
      obtain ⟨entry, hentry, rfl⟩ := List.mem_map.mp h
      obtain ⟨hmem, hany⟩ := List.mem_filter.mp hentry
      refine ⟨List.mem_map_of_mem hmem, ?_⟩
      rw [HasKeyword, hlookup entry hmem]
      exact List.any_eq_true.mp hany
    · rintro ⟨hmem, hkeyword⟩
      obtain ⟨entry, hentry, rfl⟩ := List.mem_map.mp hmem
      rw [HasKeyword, hlookup entry hentry] at hkeyword
      exact List.mem_map_of_mem (List.mem_filter.mpr ⟨hentry, List.any_eq_true.mpr hkeyword⟩)
  rw [Taxonomy.normalizeDegrees, Taxonomy.normalizeCodes, mem_sortedSet, List.mem_filterMap]
  constructor
  · rintro ⟨mention, hmention, hlevel⟩
    obtain ⟨hcode, hkeyword⟩ := (hmentions mention).mp hmention
    simp only [levelKeywords, List.map_cons, List.map_nil, List.mem_cons, List.not_mem_nil,
      or_false] at hcode
    rcases hcode with rfl | rfl | rfl
    · rw [hbachelors] at hlevel
      cases hlevel
    · rw [hdoctorate] at hlevel
      obtain rfl := Option.some.inj hlevel
      exact ⟨by simp, hkeyword⟩
    · rw [hmasters] at hlevel
      obtain rfl := Option.some.inj hlevel
      exact ⟨by simp, hkeyword⟩
  · rintro ⟨hcode, hkeyword⟩
    refine ⟨level, (hmentions level).mpr ⟨?_, hkeyword⟩, ?_⟩
    · rcases List.mem_pair.mp hcode with rfl | rfl <;> decide
    · rcases List.mem_pair.mp hcode with rfl | rfl
      · exact hmasters
      · exact hdoctorate

/-! ## The title and the excerpt -/

/-- A word of a level is not empty and has no blank. -/
lemma term_word {term : String} (h : term ∈ (levelTerms.lookup level).getD []) :
    term.toList ≠ [] ∧ ' ' ∉ term.toList := by
  have hall : ∀ entry ∈ levelTerms, ∀ term ∈ entry.2, term.toList ≠ [] ∧ ' ' ∉ term.toList := by
    decide
  cases hlookup : levelTerms.lookup level with
  | none =>
    rw [hlookup] at h
    cases h
  | some terms =>
    rw [hlookup] at h
    obtain ⟨before, after, hterms, -⟩ := List.lookup_eq_some_iff.mp hlookup
    exact hall (level, terms) (by rw [hterms]; simp) term h

lemma namesLevel_blank (laws : py.LevelLaws) {s t : String} :
    NamesLevel py level (s ++ " " ++ t) ↔ NamesLevel py level s ∨ NamesLevel py level t := by
  have htext : (py.lower (s ++ " " ++ t)).toList =
      (py.lower s).toList ++ ' ' :: (py.lower t).toList := by
    rw [laws.lower_blank]
    simp
  rw [NamesLevel, htext, NamesLevel, NamesLevel, ← exists_or]
  refine exists_congr fun term => ?_
  rw [← and_or_left]
  refine and_congr_right fun hterm => ?_
  obtain ⟨hne, hblank⟩ := term_word hterm
  exact Pattern.standsIn_append_cons laws.blank hne hblank

lemma not_namesLevel_empty (laws : py.LevelLaws) : ¬ NamesLevel py level "" := by
  rintro ⟨term, hterm, hstands⟩
  rw [laws.text.lower_code "" (by decide)] at hstands
  exact Pattern.not_standsIn_nil (term_word hterm).1 hstands

/-- An empty part is left out of the joined text, and names nothing. -/
lemma namesLevel_filter (laws : py.LevelLaws) {part : Option String} :
    (∃ text, part.filter (· ≠ "") = some text ∧ NamesLevel py level text) ↔
      ∃ text, part = some text ∧ NamesLevel py level text := by
  refine exists_congr fun text => and_congr_left fun hnames => ?_
  have hne : text ≠ "" := by
    rintro rfl
    exact not_namesLevel_empty laws hnames
  rw [Option.filter_eq_some_iff]
  simp [hne]

/-- The joined text names a level exactly if the title or the excerpt does. -/
lemma namesLevel_joinParts (laws : py.LevelLaws) :
    NamesLevel py level (joinParts [rawTitle, rawExcerpt]) ↔
      StatesLevel py rawTitle rawExcerpt level := by
  have hparts : StatesLevel py rawTitle rawExcerpt level ↔
      (∃ text, rawTitle = some text ∧ NamesLevel py level text) ∨
        ∃ text, rawExcerpt = some text ∧ NamesLevel py level text := by
    rw [StatesLevel, ← exists_or]
    exact exists_congr fun text => or_and_right
  rw [hparts, ← @namesLevel_filter py level laws rawTitle,
    ← @namesLevel_filter py level laws rawExcerpt, joinParts]
  simp only [List.filterMap_cons, List.filterMap_nil]
  cases rawTitle.filter (· ≠ "") with
  | none =>
    cases rawExcerpt.filter (· ≠ "") with
    | none => simpa using not_namesLevel_empty laws
    | some excerpt => simp
  | some title =>
    cases rawExcerpt.filter (· ≠ "") with
    | none => simp
    | some excerpt =>
      simp [String.intercalate_cons_cons, namesLevel_blank laws]

/-! ## The levels that are derived -/

/-- Only stated levels are derived exactly if the texts are refused by the screens, or a word of
the level stands by itself in the text for each of the two levels of which a keyword occurs. -/
theorem levels_stated_iff (laws : py.LevelLaws) (rawTitle rawExcerpt : Option String)
    (pageText : String) (countryNames : Dict) :
    LevelsStated py rawTitle rawExcerpt pageText countryNames ↔
      (Screened py rawTitle rawExcerpt pageText countryNames →
        ∀ level ∈ ["masters", "doctorate"],
          HasKeyword py level (joinParts [rawTitle, rawExcerpt]) →
            NamesLevel py level (joinParts [rawTitle, rawExcerpt])) := by
  constructor
  · rintro h ⟨⟨destination, hcountries⟩, haward⟩ level hlevel hkeyword
    obtain ⟨awardType, haward⟩ := Option.ne_none_iff_exists'.mp haward
    have hmem := (mem_normalizeDegrees laws.text).mpr ⟨hlevel, hkeyword⟩
    have hderive := h
    rw [LevelsStated, deriveCycleFactsFromExtraction, hcountries] at hderive
    dsimp only at hderive
    rw [if_neg (List.ne_nil_of_mem hmem), haward] at hderive
    obtain ⟨hstated, -⟩ := hderive _ rfl
    exact (namesLevel_joinParts laws).mpr (hstated level hmem)
  · intro h derived hderive
    simp only [deriveCycleFactsFromExtraction] at hderive
    split at hderive
    · next destination hcountries =>
      split at hderive
      · cases hderive
      · split at hderive
        · cases hderive
        · next awardType haward =>
          obtain rfl := Option.some.inj hderive
          have hscreened : Screened py rawTitle rawExcerpt pageText countryNames :=
            ⟨⟨destination, hcountries⟩, by rw [haward]; exact Option.some_ne_none awardType⟩
          have hstated : ∀ level ∈ (taxonomy.normalizeDegrees py.toPy (levelMentions
              (some (extractCandidateFacts py rawTitle rawExcerpt)))).1,
              StatesLevel py rawTitle rawExcerpt level := by
            intro level hlevel
            obtain ⟨hcode, hkeyword⟩ := (mem_normalizeDegrees laws.text).mp hlevel
            exact (namesLevel_joinParts laws).mp (h hscreened level hcode hkeyword)
          exact ⟨hstated, fun honly hmasters =>
            honly "masters" (by decide) (hstated "masters" hmasters)⟩
    · cases hderive

lemma Sample.textPy_levelLaws : Sample.textPy.LevelLaws where
  text := Sample.textPy_textLaws
  lower_blank := by
    intro s t
    change (s ++ " " ++ t).map Char.toLower = s.map Char.toLower ++ " " ++ t.map Char.toLower
    rw [← String.toList_inj]
    simp only [String.toList_map, String.toList_append, List.map_append]
    rfl
  blank := by decide

/-- A master's degree that is named is derived as one. -/
theorem masters_stated : LevelsStated Sample.textPy (some "Masters scholarship in Canada") none
    "Scholarship in Canada" [("CA", "Canada")] := by
  refine (levels_stated_iff Sample.textPy_levelLaws _ _ _ _).mpr fun _ level hlevel hkeyword => ?_
  rcases List.mem_pair.mp hlevel with rfl | rfl
  · exact ⟨"masters", by decide, by decide +kernel⟩
  · rw [HasKeyword] at hkeyword
    exact absurd hkeyword (by decide +kernel)

/-- A diploma and an MBA are published as a master's degree. -/
theorem diploma_and_mba_as_masters :
    ¬ LevelsStated Sample.textPy (some "Diploma scholarship in Canada") none
      "Scholarship in Canada" [("CA", "Canada")] ∧
    ¬ LevelsStated Sample.textPy (some "MBA scholarship in Canada") none
      "Scholarship in Canada" [("CA", "Canada")] := by
  -- Neither title has a word for the master's degree.
  have hrefuted : ∀ title, deriveCycleFactsFromExtraction Sample.textPy (some title) none
      "Scholarship in Canada" (some (extractCandidateFacts Sample.textPy (some title) none))
      [("CA", "Canada")] = some ⟨["CA"], ["masters"], "scholarship", none, none⟩ →
      (∀ term ∈ (levelTerms.lookup "masters").getD [],
        ¬ Pattern.StandsIn Sample.textPy.isword term.toList (Sample.textPy.lower title).toList) →
      ¬ LevelsStated Sample.textPy (some title) none "Scholarship in Canada" [("CA", "Canada")] := by
    intro title hderive hterms hstated
    obtain ⟨text, htext, term, hterm, hstands⟩ :=
      (hstated _ hderive).1 "masters" List.mem_cons_self
    rcases htext with htext | htext
    · obtain rfl := Option.some.inj htext
      exact hterms term hterm hstands
    · cases htext
  exact ⟨hrefuted _ (by decide +kernel) (by decide +kernel),
    hrefuted _ (by decide +kernel) (by decide +kernel)⟩

end ScholarshipFinder
