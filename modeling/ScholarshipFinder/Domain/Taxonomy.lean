import ScholarshipFinder.Python

/-!
# Vocabularies (`domain/taxonomy.py`, `domain/countries.py`)

The codes a published cycle may assert.  A lookup normalises its argument and raises a
`ValueError` for a code outside the vocabulary; `normalizeCodes` sorts a list of stored
codes into those that are still canonical and those that are not.
-/

namespace ScholarshipFinder

/-- A Python dict with string keys and values. -/
abbrev Dict := List (String × String)

/-- `key in table` -/
def Dict.has (table : Dict) (key : String) : Bool := (table.lookup key).isSome

structure Taxonomy where
  degrees : Dict
  fields : Dict
  fieldAliases : Dict
  degreeAliases : Dict
  fundingTypes : Dict

namespace Taxonomy

variable (py : Py) (t : Taxonomy)

/-- `value.strip().lower()` -/
def code (value : String) : String := py.lower (py.strip value)

def degree (value : String) : Except PyErr String :=
  let code := (t.degreeAliases.lookup (code py value)).getD (code py value)
  if t.degrees.has code then .ok code else valueError "Unsupported degree level"

def field (value : String) : Except PyErr String :=
  let code := (t.fieldAliases.lookup (code py value)).getD (code py value)
  if t.fields.has code then .ok code else valueError "Unsupported field"

def fundingType (value : String) : Except PyErr String :=
  if t.fundingTypes.has (code py value) then .ok (code py value)
  else valueError "Unsupported funding type"

/-- The canonical codes among `values`, and the values that need manual review. -/
def normalizeCodes (values : List String) (resolver : String → Except PyErr String) :
    List String × List String :=
  (sortedSet (values.filterMap fun value => (resolver value).toOption),
    sortedSet (values.filter fun value => (resolver value).toOption = none))

def normalizeFields (values : List String) : List String × List String :=
  normalizeCodes values (t.field py)

def normalizeDegrees (values : List String) : List String × List String :=
  normalizeCodes values (t.degree py)

end Taxonomy

/-- `TAXONOMY` -/
def taxonomy : Taxonomy where
  degrees := [("masters", "Master's"), ("mba", "MBA"), ("doctorate", "PhD")]
  fields := [
    ("technology", "Technology"),
    ("engineering", "Engineering"),
    ("mathematics_and_statistics", "Mathematics and Statistics"),
    ("natural_sciences", "Natural Sciences"),
    ("health_and_medical_sciences", "Health and Medical Sciences"),
    ("business_and_management", "Business and Management"),
    ("economics_and_development", "Economics and Development"),
    ("social_sciences", "Social Sciences"),
    ("law", "Law"),
    ("public_policy_and_governance", "Public Policy and Governance"),
    ("education", "Education"),
    ("arts_humanities_and_design", "Arts, Humanities and Design"),
    ("agriculture_and_food_systems", "Agriculture and Food Systems"),
    ("environmental_and_climate_sciences", "Environmental and Climate Sciences")]
  fieldAliases := [
    ("ict", "technology"),
    ("computer science", "technology"),
    ("cs", "technology"),
    ("public health", "health_and_medical_sciences"),
    ("mph", "health_and_medical_sciences"),
    ("health", "health_and_medical_sciences"),
    ("welfare", "health_and_medical_sciences"),
    ("health_and_welfare", "health_and_medical_sciences"),
    ("business_and_administration", "business_and_management"),
    ("business_administration_law", "business_and_management"),
    ("social_behavioural_sciences", "social_sciences"),
    ("social_sciences_journalism_information", "social_sciences"),
    ("journalism_and_information", "social_sciences"),
    ("engineering_trades", "engineering"),
    ("engineering_manufacturing_construction", "engineering"),
    ("manufacturing_and_processing", "engineering"),
    ("architecture_and_construction", "engineering"),
    ("physical_sciences", "natural_sciences"),
    ("biological_sciences", "natural_sciences"),
    ("natural_sciences_math_stats", "natural_sciences"),
    ("environment", "environmental_and_climate_sciences"),
    ("agriculture", "agriculture_and_food_systems"),
    ("forestry", "agriculture_and_food_systems"),
    ("fisheries", "agriculture_and_food_systems"),
    ("veterinary", "agriculture_and_food_systems"),
    ("agriculture_forestry_fisheries_veterinary", "agriculture_and_food_systems"),
    ("arts_and_humanities", "arts_humanities_and_design"),
    ("arts", "arts_humanities_and_design"),
    ("humanities", "arts_humanities_and_design"),
    ("languages", "arts_humanities_and_design"),
    ("mathematics", "mathematics_and_statistics"),
    ("public_policy", "public_policy_and_governance")]
  degreeAliases := [
    ("phd", "doctorate"),
    ("ph.d", "doctorate"),
    ("ph.d.", "doctorate"),
    ("doctoral", "doctorate"),
    ("master's", "masters"),
    ("master", "masters"),
    ("msc", "masters"),
    ("ma", "masters")]
  fundingTypes := [
    ("fully_funded", "Fully funded"),
    ("partial_funding", "Partial funding"),
    ("tuition_only", "Tuition only"),
    ("stipend_only", "Stipend only")]

/-! ## Countries -/

structure CountryVocabulary where
  names : Dict
  destinations : List String

namespace CountryVocabulary

variable (py : Py) (countries : CountryVocabulary)

/-- Normalise a country of origin: any country Core publishes. -/
def origin (value : String) : Except PyErr String :=
  let code := py.upper (py.strip value)
  if countries.names.has code then .ok code else valueError "Unsupported country"

/-- Normalise a study destination: only where coverage exists. -/
def destination (value : String) : Except PyErr String := do
  let code ← countries.origin py value
  if code ∈ countries.destinations then return code
  valueError ("No verified coverage for destination " ++ code)

end CountryVocabulary

/-! ## Codes stand for themselves -/

variable {py : Py}

lemma Dict.mem_of_lookup {table : Dict} {key label : String}
    (h : table.lookup key = some label) : (key, label) ∈ table := by
  obtain ⟨before, after, rfl, -⟩ := List.lookup_eq_some_iff.mp h
  exact List.mem_append_right before List.mem_cons_self

lemma Dict.mem_keys_of_has {table : Dict} {key : String} (h : table.has key = true) :
    key ∈ table.map Prod.fst := by
  obtain ⟨label, hlabel⟩ := Option.isSome_iff_exists.mp h
  exact List.mem_map_of_mem (Dict.mem_of_lookup hlabel)

/-- The canonical codes are ASCII, and no alias rewrites one of them. -/
lemma taxonomy_codes :
    (∀ c ∈ taxonomy.degrees.map Prod.fst,
      isCode c = true ∧ taxonomy.degreeAliases.lookup c = none) ∧
    (∀ c ∈ taxonomy.fields.map Prod.fst,
      isCode c = true ∧ taxonomy.fieldAliases.lookup c = none) ∧
    ∀ c ∈ taxonomy.fundingTypes.map Prod.fst, isCode c = true := by
  decide

/-- The labels of the fields are in the order of their codes. -/
lemma taxonomy_labels_lt :
    ∀ p ∈ taxonomy.fields, ∀ q ∈ taxonomy.fields, p.1 < q.1 → p.2 < q.2 := by
  decide

lemma Py.TextLaws.code_eq (hpy : py.TextLaws) {c : String} (h : isCode c = true) :
    Taxonomy.code py c = c := by
  rw [Taxonomy.code, hpy.strip_code c h, hpy.lower_code c h]

lemma taxonomy_degree_has {v c : String} (h : taxonomy.degree py v = .ok c) :
    taxonomy.degrees.has c = true := by
  rw [Taxonomy.degree] at h
  split at h
  · next hhas => exact Except.ok.inj h ▸ hhas
  · cases h

lemma taxonomy_field_has {v c : String} (h : taxonomy.field py v = .ok c) :
    taxonomy.fields.has c = true := by
  rw [Taxonomy.field] at h
  split at h
  · next hhas => exact Except.ok.inj h ▸ hhas
  · cases h

/-- Codes that stand for themselves, in order, are what their normalisation yields. -/
lemma normalizeCodes_eq_self {codes : List String} {resolver : String → Except PyErr String}
    (hsorted : codes.Pairwise (· < ·)) (hfixed : ∀ c ∈ codes, resolver c = .ok c) :
    (Taxonomy.normalizeCodes codes resolver).1 = codes := by
  have hself : codes.filterMap (fun c => (resolver c).toOption) = codes := by
    have hsome : ∀ c ∈ codes, (resolver c).toOption = some c := by
      intro c hc
      rw [hfixed c hc]
      rfl
    rw [List.filterMap_congr hsome, List.filterMap_some]
  show sortedSet (codes.filterMap fun c => (resolver c).toOption) = codes
  rw [hself, sortedSet_eq_self hsorted]

/-- A normalised list is sorted, and each of its codes was found for some value. -/
lemma normalizeCodes_spec (values : List String) (resolver : String → Except PyErr String) :
    (Taxonomy.normalizeCodes values resolver).1.Pairwise (· < ·) ∧
      ∀ c ∈ (Taxonomy.normalizeCodes values resolver).1, ∃ v, resolver v = .ok c := by
  refine ⟨pairwise_sortedSet _, fun c hc => ?_⟩
  obtain ⟨v, -, hv⟩ := List.mem_filterMap.mp (mem_sortedSet.mp hc)
  refine ⟨v, ?_⟩
  cases hr : resolver v with
  | error e => simp [hr, Except.toOption] at hv
  | ok code =>
    have hcode : code = c := by simpa [hr, Except.toOption] using hv
    rw [hcode]

/-- What a lookup answers is a code that it answers for itself. -/
theorem taxonomy_degree_fixed (hpy : py.TextLaws) {v c : String}
    (h : taxonomy.degree py v = .ok c) : taxonomy.degree py c = .ok c := by
  have hhas := taxonomy_degree_has h
  obtain ⟨hcode, halias⟩ := taxonomy_codes.1 c (Dict.mem_keys_of_has hhas)
  rw [Taxonomy.degree, hpy.code_eq hcode, halias, Option.getD_none, if_pos hhas]

theorem taxonomy_field_fixed (hpy : py.TextLaws) {v c : String}
    (h : taxonomy.field py v = .ok c) : taxonomy.field py c = .ok c := by
  have hhas := taxonomy_field_has h
  obtain ⟨hcode, halias⟩ := taxonomy_codes.2.1 c (Dict.mem_keys_of_has hhas)
  rw [Taxonomy.field, hpy.code_eq hcode, halias, Option.getD_none, if_pos hhas]

lemma taxonomy_fundingType_has {v c : String} (h : taxonomy.fundingType py v = .ok c) :
    taxonomy.fundingTypes.has c = true := by
  rw [Taxonomy.fundingType] at h
  split at h
  · next hhas => exact Except.ok.inj h ▸ hhas
  · cases h

theorem taxonomy_fundingType_fixed (hpy : py.TextLaws) {v c : String}
    (h : taxonomy.fundingType py v = .ok c) : taxonomy.fundingType py c = .ok c := by
  have hhas := taxonomy_fundingType_has h
  have hcode := taxonomy_codes.2.2 c (Dict.mem_keys_of_has hhas)
  rw [Taxonomy.fundingType, hpy.code_eq hcode, if_pos hhas]

theorem origin_fixed (hpy : py.TextLaws) {countries : CountryVocabulary} {v c : String}
    (h : countries.origin py v = .ok c) : countries.origin py c = .ok c := by
  rw [CountryVocabulary.origin] at h
  split at h
  · next hhas =>
    have hc : py.upper (py.strip v) = c := Except.ok.inj h
    have hself : py.upper (py.strip c) = c := by
      rw [← hc, hpy.strip_upper, hpy.upper_upper]
    rw [hc] at hhas
    rw [CountryVocabulary.origin, hself, if_pos hhas]
  · cases h

theorem destination_fixed (hpy : py.TextLaws) {countries : CountryVocabulary} {v c : String}
    (h : countries.destination py v = .ok c) : countries.destination py c = .ok c := by
  rw [CountryVocabulary.destination] at h
  obtain ⟨code, hcode, h⟩ := exceptBind_ok h
  by_cases hmem : code ∈ countries.destinations
  · rw [if_pos hmem] at h
    have hc : code = c := Except.ok.inj h
    subst hc
    rw [CountryVocabulary.destination, origin_fixed hpy hcode]
    show (if code ∈ countries.destinations then _ else _) = _
    rw [if_pos hmem]
    rfl
  · rw [if_neg hmem] at h
    cases h

end ScholarshipFinder
