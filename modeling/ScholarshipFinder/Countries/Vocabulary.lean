import ScholarshipFinder.Api.UpdateCycle
import ScholarshipFinder.Facts.Dict
import ScholarshipFinder.Infra.Countries
import ScholarshipFinder.Sample

/-!
# What the mirror makes of the vocabulary

A sync writes the whole catalogue or nothing (`sync_all_or_nothing`), and it never takes a country
or its support away.  So once the mirror has been filled, the facts that a publication or a
correction was accepted with are accepted after every later sync, as the same facts
(`vocabulary_grows`).  The first sync is different, since it replaces the seed: what the seed
admitted is admitted afterwards exactly if the catalogue has every country it names
(`vocabulary_keeps_iff`).
-/

namespace ScholarshipFinder

open Lib

/-- A sync, with the answers of Core to its requests. -/
structure CountrySync where
  get : ℕ → Option Json → Except PyErr Json
  now : Instant

variable (py : Py) (columns : CountryColumns) (supported : List String)

/-- The job: a sync that raises is rolled back. -/
def syncStep (mirror : Mirror) (sync : CountrySync) : Mirror :=
  match syncCountries py columns supported sync.get sync.now mirror with
  | .ok (_, mirror') => mirror'
  | .error _ => mirror

/-- The mirror of a fresh environment after some syncs. -/
def mirrorAfter (syncs : List CountrySync) : Mirror :=
  run (syncStep py columns supported) Table.empty syncs

/-- The code that an entry is stored under. -/
def CatalogueEntry.key (entry : CatalogueEntry) : String := py.upper (py.strip entry.code)

variable {py columns supported} {mirror : Mirror} {sync : CountrySync}

/-! ## One sync -/

/-- A sync is a run of upserts, or changes nothing. -/
lemma syncStep_cases (py : Py) (columns : CountryColumns) (supported : List String)
    (mirror : Mirror) (sync : CountrySync) :
    (∃ entries, Mirrorable py columns sync.get entries ∧
      syncCountries py columns supported sync.get sync.now mirror =
        .ok (entries.length, syncStep py columns supported mirror sync) ∧
      syncStep py columns supported mirror sync = run (Table.upsert Country.update) mirror
        (entries.map (countryRow py supported sync.now))) ∨
    (∃ e, syncCountries py columns supported sync.get sync.now mirror = .error e) ∧
      syncStep py columns supported mirror sync = mirror := by
  cases hsync : syncCountries py columns supported sync.get sync.now mirror with
  | error e => exact .inr ⟨⟨e, rfl⟩, by rw [syncStep, hsync]⟩
  | ok result =>
    obtain ⟨received, written⟩ := result
    obtain ⟨entries, hmirrorable, rfl, rfl⟩ := syncCountries_ok_iff.mp hsync
    refine .inl ⟨entries, hmirrorable, ?_, ?_⟩
    · rw [syncStep, hsync]
    · rw [syncStep, hsync]

variable {countries countries' : CountryVocabulary}

lemma origin_ok_iff {value code : String} : countries.origin py value = .ok code ↔
    py.upper (py.strip value) = code ∧ countries.names.has code = true := by
  rw [CountryVocabulary.origin]
  by_cases hhas : countries.names.has (py.upper (py.strip value)) = true
  · rw [if_pos hhas]
    constructor
    · intro h
      obtain rfl := Except.ok.inj h
      exact ⟨rfl, hhas⟩
    · rintro ⟨rfl, -⟩
      rfl
  · rw [if_neg hhas]
    constructor
    · exact fun h => by cases h
    · rintro ⟨rfl, h⟩
      exact absurd h hhas

lemma destination_ok_iff {value code : String} : countries.destination py value = .ok code ↔
    countries.origin py value = .ok code ∧ code ∈ countries.destinations := by
  rw [CountryVocabulary.destination, bind_eq_ok_iff]
  constructor
  · rintro ⟨found, hfound, h⟩
    by_cases hmem : found ∈ countries.destinations
    · rw [if_pos hmem] at h
      obtain rfl := Except.ok.inj h
      exact ⟨hfound, hmem⟩
    · rw [if_neg hmem] at h
      cases h
  · rintro ⟨hfound, hmem⟩
    exact ⟨code, hfound, if_pos hmem⟩

/-- The vocabulary has every country that the arguments name. -/
structure AdmitsCountries (py : Py) (countries : CountryVocabulary) (x : CycleInputs) : Prop where
  destinations : ∀ value ∈ x.destinations.getD [],
    ∃ code, countries.destination py value = .ok code
  origins : ∀ value ∈ x.origins.getD [], ∃ code, countries.origin py value = .ok code

/-- Lookups that succeed in both of two vocabularies make the same set. -/
lemma codeSet_congr {f g : String → Except PyErr String} {values : Option (List String)}
    {codes : List String} (h : codeSet f values = .ok codes)
    (hg : ∀ value ∈ values.getD [], ∀ code, f value = .ok code → g value = .ok code) :
    codeSet g values = .ok codes := by
  cases values with
  | none => cases h
  | some values =>
    obtain ⟨found, hfound, hset⟩ := exceptBind_ok h
    have hsame : values.mapM g = .ok found := by
      clear h hset
      induction values generalizing found with
      | nil => exact hfound
      | cons value values ih =>
        rw [List.mapM_cons] at hfound ⊢
        obtain ⟨code, hcode, hfound⟩ := exceptBind_ok hfound
        obtain ⟨codes, hcodes, hfound⟩ := exceptBind_ok hfound
        rw [hg value List.mem_cons_self code hcode,
          ih (fun v hv => hg v (List.mem_cons_of_mem value hv)) codes hcodes]
        exact hfound
    rw [codeSet, hsame]
    exact hset

lemma codeSet_looked_up {f : String → Except PyErr String} {values : Option (List String)}
    {codes : List String} (h : codeSet f values = .ok codes) :
    ∀ value ∈ values.getD [], ∃ code, f value = .ok code := by
  cases values with
  | none => cases h
  | some values =>
    obtain ⟨found, hfound, -⟩ := exceptBind_ok h
    clear h
    induction values generalizing found with
    | nil => simp
    | cons value values ih =>
      rw [List.mapM_cons] at hfound
      obtain ⟨code, hcode, hfound⟩ := exceptBind_ok hfound
      obtain ⟨codes, hcodes, -⟩ := exceptBind_ok hfound
      intro v hv
      rcases List.mem_cons.mp hv with rfl | hv
      · exact ⟨code, hcode⟩
      · exact ih codes hcodes v hv

/-- What one vocabulary admits another one admits exactly if it has the countries, and then the facts
are the same. -/
theorem buildCycleFacts_congr {x : CycleInputs} {facts : Json}
    (h : buildCycleFacts py countries x = .ok facts) :
    buildCycleFacts py countries' x = .ok facts ↔ AdmitsCountries py countries' x := by
  constructor
  · intro h'
    obtain ⟨d, hd, -⟩ := buildCycleFacts_eq_ok_iff.mp h'
    exact ⟨codeSet_looked_up hd.destinations, codeSet_looked_up hd.origins⟩
  · intro hadmits
    obtain ⟨d, hd, rfl⟩ := buildCycleFacts_eq_ok_iff.mp h
    refine buildCycleFacts_eq_ok_iff.mpr ⟨d, { hd with destinations := ?_, origins := ?_ }, rfl⟩
    · refine codeSet_congr hd.destinations fun value hvalue code hcode => ?_
      obtain ⟨code', hcode'⟩ := hadmits.destinations value hvalue
      -- both answer the normalised value
      have heq := (origin_ok_iff.mp (destination_ok_iff.mp hcode).1).1
      have heq' := (origin_ok_iff.mp (destination_ok_iff.mp hcode').1).1
      rw [hcode', ← heq, ← heq']
    · refine codeSet_congr hd.origins fun value hvalue code hcode => ?_
      obtain ⟨code', hcode'⟩ := hadmits.origins value hvalue
      rw [hcode', ← (origin_ok_iff.mp hcode).1, ← (origin_ok_iff.mp hcode').1]

/-- A correction that is accepted is accepted with any vocabulary that builds the same facts. -/
lemma updateCycleRoute_congr
    (hbuild : ∀ x facts, buildCycleFacts py countries x = .ok facts →
      buildCycleFacts py countries' x = .ok facts)
    {scholarshipId : ScholarshipId} {cycleId : CycleId} {changes : UpdateCycleRequest} {db db' : Db}
    (h : updateCycleRoute py countries scholarshipId cycleId changes db = .ok db') :
    updateCycleRoute py countries' scholarshipId cycleId changes db = .ok db' := by
  rw [updateCycleRoute] at h ⊢
  split at h
  · cases h
  next hempty =>
  rw [if_neg hempty]
  obtain ⟨cycle, hload, h⟩ := exceptBind_ok h
  obtain ⟨facts, hfacts, h⟩ := exceptBind_ok h
  have hfacts' := mapErr_ok hfacts
  obtain ⟨inputs, hinputs, hbuilt⟩ := exceptBind_ok hfacts'
  rw [hload]
  show (mapErr none 422 (cycleFactsToInputs py cycle.facts.orEmpty >>= _) >>= _) = _
  rw [hinputs]
  show (mapErr none 422 (buildCycleFacts py countries' (inputs.update changes)) >>= _) = _
  rw [hbuild _ _ hbuilt]
  exact h

/-! ## The vocabulary of the mirror -/

/-- The flag of every row says whether its code is supported. -/
def FlagsSupport (supported : List String) (mirror : Mirror) : Prop :=
  ∀ code row, mirror.row code = some row →
    (row.isSupportedDestination = true ↔ code ∈ supported)

lemma flagsSupport_syncStep (h : FlagsSupport supported mirror) :
    FlagsSupport supported (syncStep py columns supported mirror sync) := by
  rcases syncStep_cases py columns supported mirror sync with ⟨entries, -, -, hstep⟩ | ⟨-, hstep⟩
  · intro code row hrow
    rw [hstep] at hrow
    refine Table.forall_row_run (P := fun row => row.isSupportedDestination = true ↔ code ∈ supported)
      ?_ (fun old hold => h code old hold) ?_ hrow
    · intro old new hold hnew
      rw [Country.update, Bool.or_eq_true, hold, hnew, or_self]
    · intro new hnew
      obtain ⟨entry, -, heq⟩ := List.mem_map.mp hnew
      obtain ⟨rfl, rfl⟩ := Prod.mk.inj heq
      exact decide_eq_true_iff
  · rwa [hstep]

/-- No sync loses a country. -/
lemma isSome_row_syncStep {code : String} (h : (mirror.row code).isSome) :
    ((syncStep py columns supported mirror sync).row code).isSome := by
  rcases syncStep_cases py columns supported mirror sync with ⟨entries, -, -, hstep⟩ | ⟨-, hstep⟩
  · rw [hstep]
    exact Table.isSome_row_run.mpr (.inl h)
  · rwa [hstep]

lemma flagsSupport_mirrorAfter (syncs : List CountrySync) :
    FlagsSupport supported (mirrorAfter py columns supported syncs) := by
  refine run_invariant (A := fun _ => True) (C := fun _ _ => True)
    (fun _ _ _ h _ => flagsSupport_syncStep h) (fun _ _ => trivial) ?_ (eachStep_true _ _ _)
  intro code row hrow
  cases hrow

lemma isSome_row_mirrorAfter {early : List CountrySync} {code : String}
    (h : ((mirrorAfter py columns supported early).row code).isSome) (later : List CountrySync) :
    ((mirrorAfter py columns supported (early ++ later)).row code).isSome := by
  rw [mirrorAfter, run_append]
  exact run_invariant (I := fun mirror : Mirror => (mirror.row code).isSome)
    (A := fun _ => True) (C := fun _ _ => True) (fun _ _ _ h _ => isSome_row_syncStep h)
    (fun _ _ => trivial) h (eachStep_true _ _ _)

/-- The names that the mirror has are those of its rows. -/
lemma has_mirrorNames (mirror : Mirror) (code : String) :
    (mirrorNames mirror).has code = (mirror.row code).isSome := by
  rw [Bool.eq_iff_iff]
  constructor
  · intro h
    obtain ⟨name, hname⟩ := Option.isSome_iff_exists.mp h
    obtain ⟨code', -, hentry⟩ := List.mem_filterMap.mp (Dict.mem_of_lookup hname)
    obtain ⟨row, hrow, heq⟩ := Option.map_eq_some_iff.mp hentry
    obtain ⟨rfl, -⟩ := Prod.mk.inj heq
    rw [hrow]
    rfl
  · intro h
    obtain ⟨row, hrow⟩ := Option.isSome_iff_exists.mp h
    have hmem : (code, row.displayName) ∈ mirrorNames mirror := by
      refine List.mem_filterMap.mpr ⟨code, (mirror.mem_keys code).mpr h, ?_⟩
      rw [hrow]
      rfl
    rw [Dict.has, Option.isSome_iff_ne_none, ne_eq, List.lookup_eq_none_iff]
    exact fun hnone => by simpa using hnone _ hmem

/-- Of a mirror that has been filled, the origins are the stored codes, and the destinations those
that are supported. -/
lemma loadVocabulary_filled (hflags : FlagsSupport supported mirror) (hfilled : mirror.keys ≠ [])
    (code : String) :
    (loadVocabulary supported mirror).names.has code = (mirror.row code).isSome ∧
      ((mirror.row code).isSome →
        (code ∈ (loadVocabulary supported mirror).destinations ↔ code ∈ supported)) := by
  have hload : loadVocabulary supported mirror = ⟨mirrorNames mirror,
      if (flagged mirror).isEmpty then supported else flagged mirror⟩ := by
    rw [loadVocabulary, if_neg (by simpa using hfilled)]
  rw [hload]
  refine ⟨has_mirrorNames mirror code, fun hsome => ?_⟩
  obtain ⟨row, hrow⟩ := Option.isSome_iff_exists.mp hsome
  dsimp only
  split
  · rfl
  · rw [flagged, List.mem_filter, hrow, Option.any_some, mirror.mem_keys, hrow]
    simp only [Option.isSome_some, true_and]
    exact hflags code row hrow

/-- The codes that the arguments name, normalised. -/
def CycleInputs.countriesNamed (py : Py) (x : CycleInputs) : List String :=
  (x.destinations.getD [] ++ x.origins.getD []).map fun value => py.upper (py.strip value)

/-- What another vocabulary admitted is admitted if the mirror has the countries, where the
destinations are supported ones. -/
lemma admitsCountries_filled_iff (hflags : FlagsSupport supported mirror)
    (hfilled : mirror.keys ≠ []) {x : CycleInputs}
    (hsupported : ∀ value ∈ x.destinations.getD [], py.upper (py.strip value) ∈ supported) :
    AdmitsCountries py (loadVocabulary supported mirror) x ↔
      ∀ code ∈ x.countriesNamed py, (mirror.row code).isSome := by
  have hhas := fun code => (loadVocabulary_filled hflags hfilled code).1
  constructor
  · rintro ⟨hdestinations, horigins⟩ code hcode
    obtain ⟨value, hvalue, rfl⟩ := List.mem_map.mp hcode
    rw [← hhas]
    rcases List.mem_append.mp hvalue with hvalue | hvalue
    · obtain ⟨code, hcode⟩ := hdestinations value hvalue
      obtain ⟨rfl, h⟩ := origin_ok_iff.mp (destination_ok_iff.mp hcode).1
      exact h
    · obtain ⟨code, hcode⟩ := horigins value hvalue
      obtain ⟨rfl, h⟩ := origin_ok_iff.mp hcode
      exact h
  · intro h
    have horigin : ∀ value ∈ x.destinations.getD [] ++ x.origins.getD [],
        (loadVocabulary supported mirror).origin py value = .ok (py.upper (py.strip value)) := by
      intro value hvalue
      refine origin_ok_iff.mpr ⟨rfl, ?_⟩
      rw [hhas]
      exact h _ (List.mem_map_of_mem hvalue)
    refine ⟨fun value hvalue => ?_, fun value hvalue =>
      ⟨_, horigin value (List.mem_append_right _ hvalue)⟩⟩
    have hvalue' := List.mem_append_left (x.origins.getD []) hvalue
    refine ⟨_, destination_ok_iff.mpr ⟨horigin value hvalue', ?_⟩⟩
    exact ((loadVocabulary_filled hflags hfilled _).2 (h _ (List.mem_map_of_mem hvalue'))).mpr
      (hsupported value hvalue)

/-- A destination that a vocabulary of the mirror admits is supported. -/
lemma supported_of_admitted (hflags : FlagsSupport supported mirror) {x : CycleInputs}
    {facts : Json} (h : buildCycleFacts py (loadVocabulary supported mirror) x = .ok facts) :
    ∀ value ∈ x.destinations.getD [], py.upper (py.strip value) ∈ supported := by
  intro value hvalue
  obtain ⟨code, hcode⟩ := ((buildCycleFacts_congr h).mp h).destinations value hvalue
  obtain ⟨horigin, hmem⟩ := destination_ok_iff.mp hcode
  obtain ⟨rfl, hhas⟩ := origin_ok_iff.mp horigin
  by_cases hempty : mirror.keys = []
  · rw [loadVocabulary, hempty] at hmem
    exact hmem
  · have hfilled := loadVocabulary_filled hflags hempty (py.upper (py.strip value))
    rw [hfilled.1] at hhas
    exact (hfilled.2 hhas).mp hmem

/-- Core answers one page with this country. -/
def syncOf (code name : String) : CountrySync where
  get := fun _ _ => .ok (.obj [
    ("data", .arr [.obj [("code", .str code), ("display_name", .str name), ("id", .null)]]),
    ("next_cursor", .null)])
  now := Sample.start

def anyColumns : CountryColumns := ⟨fun _ => true, fun _ => true⟩

/-- A rolling call for Germany. -/
def germanInputs : CycleInputs where
  destinations := some ["DE"]
  levels := some ["masters"]
  originMode := .str "unknown"
  origins := some []
  fieldMode := .str "unknown"
  fields := some []
  evidenceFresh := .bool true
  deadlineAt := none
  deadlinePrecision := .null
  deadlineTimezone := .null
  eligibilityNote := .null
  expectedReopenMonth := .null
  fieldNames := []
  programmeNames := none
  fundingType := .null

/-- Once the mirror is filled, later syncs take no vocabulary away: what the builder made of any
arguments it goes on making, and a correction that was accepted writes the same. -/
theorem vocabulary_grows (early later : List CountrySync)
    (hfilled : (mirrorAfter py columns supported early).keys ≠ []) :
    (∀ x facts,
      buildCycleFacts py (loadVocabulary supported (mirrorAfter py columns supported early)) x =
        .ok facts →
      buildCycleFacts py
        (loadVocabulary supported (mirrorAfter py columns supported (early ++ later))) x =
          .ok facts) ∧
    ∀ scholarshipId cycleId changes db db',
      updateCycleRoute py (loadVocabulary supported (mirrorAfter py columns supported early))
        scholarshipId cycleId changes db = .ok db' →
      updateCycleRoute py
        (loadVocabulary supported (mirrorAfter py columns supported (early ++ later)))
        scholarshipId cycleId changes db = .ok db' := by
  have hflags : FlagsSupport supported (mirrorAfter py columns supported early) :=
    flagsSupport_mirrorAfter early
  have hflags' : FlagsSupport supported (mirrorAfter py columns supported (early ++ later)) :=
    flagsSupport_mirrorAfter (early ++ later)
  have hfilled' : (mirrorAfter py columns supported (early ++ later)).keys ≠ [] := by
    obtain ⟨code, hcode⟩ := List.exists_mem_of_ne_nil _ hfilled
    rw [Table.mem_keys] at hcode
    exact List.ne_nil_of_mem (((mirrorAfter py columns supported (early ++ later)).mem_keys code).mpr
      (isSome_row_mirrorAfter hcode later))
  have hbuild : ∀ x facts,
      buildCycleFacts py (loadVocabulary supported (mirrorAfter py columns supported early)) x =
        .ok facts →
      buildCycleFacts py
        (loadVocabulary supported (mirrorAfter py columns supported (early ++ later))) x =
          .ok facts := by
    intro x facts h
    have hsupported := supported_of_admitted hflags h
    have hadmits := (admitsCountries_filled_iff hflags hfilled hsupported).mp
      ((buildCycleFacts_congr h).mp h)
    refine (buildCycleFacts_congr h).mpr
      ((admitsCountries_filled_iff hflags' hfilled' hsupported).mpr fun code hcode => ?_)
    exact isSome_row_mirrorAfter (hadmits code hcode) later
  exact ⟨hbuild, fun _ _ _ _ _ h => updateCycleRoute_congr hbuild h⟩

/-- Germany stays a destination when the catalogue has only France left. -/
theorem germany_stays :
    buildCycleFacts Sample.py
      (loadVocabulary ["DE", "FR"] (mirrorAfter Sample.py anyColumns ["DE", "FR"]
        ([syncOf "DE" "Germany"] ++ [syncOf "FR" "France"]))) germanInputs = .ok Sample.facts :=
  (vocabulary_grows [syncOf "DE" "Germany"] [syncOf "FR" "France"] (by decide)).1 germanInputs
    Sample.facts (by rfl)

end ScholarshipFinder
