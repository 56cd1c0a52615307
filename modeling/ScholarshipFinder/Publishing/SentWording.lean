import ScholarshipFinder.Publishing.EditContract

/-!
# What a publication stores of its body

The wording of a programme has a name of its own in the body, and a legacy one that counts when the
other is left out.  The builder tells a list that is left out from an empty one; the request model
does not, it replaces both lists by empty ones before the route hands them on.
-/

namespace ScholarshipFinder

open Lib

variable {boundary : Boundary} {py : Py} {countries : CountryVocabulary}

/-! ## The body -/

/-- `Field(default_factory=list)`: of a body, in which the lists of wording may be left out, the
request that the route gets. -/
def PublishCycleRequest.validated (body : PublishCycleRequest) : PublishCycleRequest :=
  { body with
    arguments := { body.arguments with
      fieldNames := some (body.arguments.fieldNames.getD [])
      programmeNames := some (body.arguments.programmeNames.getD []) } }

/-- The wording that was sent, under its own name or else under the legacy one. -/
def CycleArguments.wording (sent : CycleArguments) : List String :=
  sent.programmeNames.getD (sent.fieldNames.getD [])

/-- Stripped, de-duplicated and sorted. -/
def normalizedNames (py : Py) (names : List String) : List String :=
  sortedSet ((names.map py.strip).filter (· ≠ ""))

/-- `codes` are those that `f` finds for the values, each once and in order. -/
structure IsNormalized (f : String → Except PyErr String) (values codes : List String) : Prop where
  sorted : codes.Pairwise (· < ·)
  found : ∀ code, code ∈ codes ↔ ∃ value ∈ values, f value = .ok code
  total : ∀ value ∈ values, ∃ code, f value = .ok code

/-- The facts are those that were sent, normalised, and nothing else: the labels are generated
from the fields. -/
structure StoresSent (py : Py) (countries : CountryVocabulary) (sent : CycleArguments)
    (d : FactsDict) : Prop where
  destinations : IsNormalized (countries.destination py) sent.destinations d.destinations
  levels : IsNormalized (taxonomy.degree py) sent.levels d.levels
  originMode : d.originMode = .str sent.originMode.value
  origins : IsNormalized (countries.origin py) sent.origins d.origins
  fieldMode : d.fieldMode = .str sent.fieldMode.value
  fields : IsNormalized (taxonomy.field py) sent.fields d.fields
  evidenceFresh : d.evidenceFresh = .bool sent.evidenceFresh
  eligibilityNote : d.eligibilityNote = (sent.eligibilityNote.filter (· ≠ "")).map .str
  expectedReopenMonth : d.expectedReopenMonth =
    sent.expectedReopenMonth.map fun month => .int month.val
  fieldNames : d.fieldNames = fieldLabels d.fields
  programmeNames : d.programmeNames = normalizedNames py sent.wording
  fundingType : (sent.fundingType.filter (· ≠ "")).map (taxonomy.fundingType py) =
    d.fundingType.map .ok
  deadline : d.deadline = sent.deadlineAt.map fun deadlineAt =>
    ⟨py.isoformat deadlineAt, .str sent.deadlinePrecision.value, sent.deadlineTimezone.map .str⟩

/-! ## What the builder normalises -/

/-- A fallible map yields something for each of its arguments. -/
lemma exists_of_mapM_ok {f : String → Except PyErr String} {values codes : List String}
    (h : values.mapM f = .ok codes) {value : String} (hvalue : value ∈ values) :
    ∃ code ∈ codes, f value = .ok code := by
  induction values generalizing codes with
  | nil => cases hvalue
  | cons head values ih =>
    rw [List.mapM_cons] at h
    obtain ⟨code, hcode, h⟩ := exceptBind_ok h
    obtain ⟨rest, hrest, h⟩ := exceptBind_ok h
    obtain rfl : code :: rest = codes := Except.ok.inj h
    rcases List.mem_cons.mp hvalue with rfl | hvalue
    · exact ⟨code, List.mem_cons_self, hcode⟩
    · obtain ⟨code', hmem, hcode'⟩ := ih hrest hvalue
      exact ⟨code', List.mem_cons_of_mem code hmem, hcode'⟩

lemma isNormalized_of_codeSet {f : String → Except PyErr String} {values codes : List String}
    (h : codeSet f (some values) = .ok codes) : IsNormalized f values codes := by
  obtain ⟨found, hfound, h⟩ := exceptBind_ok h
  obtain rfl : sortedSet found = codes := Except.ok.inj h
  have htotal : ∀ value ∈ values, ∃ code ∈ found, f value = .ok code :=
    fun value hvalue => exists_of_mapM_ok hfound hvalue
  refine ⟨pairwise_sortedSet found, fun code => ⟨fun hcode => ?_, ?_⟩, fun value hvalue => ?_⟩
  · exact mem_of_mapM_ok hfound (mem_sortedSet.mp hcode)
  · rintro ⟨value, hvalue, hcode⟩
    obtain ⟨code', hmem, hcode'⟩ := htotal value hvalue
    rw [hcode, Except.ok.injEq] at hcode'
    exact mem_sortedSet.mpr (hcode' ▸ hmem)
  · obtain ⟨code, -, hcode⟩ := htotal value hvalue
    exact ⟨code, hcode⟩

/-- The texts of a note and of a funding type count unless they are empty. -/
lemma ifTruthy_textOrNull (text : Option String) :
    (textOrNull text).ifTruthy = (text.filter (· ≠ "")).map .str := by
  cases text with
  | none => rfl
  | some s =>
    by_cases hs : s = "" <;> simp [textOrNull, Json.ifTruthy, Json.truthy, Option.filter, hs]

lemma fundingType_of_check {text code : Option String}
    (h : checkFundingType py (textOrNull text) =
      .ok (entry "funding_type" (code.map .str))) :
    (text.filter (· ≠ "")).map (taxonomy.fundingType py) = code.map .ok := by
  have htruthy := ifTruthy_textOrNull text
  unfold checkFundingType at h
  split at h
  · next hsome =>
    rw [Json.ifTruthy, if_pos hsome] at htruthy
    obtain ⟨s, hs, hstr⟩ := Option.map_eq_some_iff.mp htruthy.symm
    rw [← hstr] at h
    obtain ⟨c, hc, h⟩ := exceptBind_ok h
    have hcode : code = some c := entry_str_inj (Except.ok.inj h).symm
    rw [hs, hcode, Option.map_some, Option.map_some, hc]
  · next hnone =>
    rw [Json.ifTruthy, if_neg hnone] at htruthy
    have hcode : code = none := entry_str_inj (Except.ok.inj h).symm
    rw [Option.map_eq_none_iff.mp htruthy.symm, hcode]
    rfl

/-- What is built of the validated body is what was sent, but for the wording. -/
lemma Built.storesSent_iff {body : PublishCycleRequest} {d : FactsDict}
    (h : Built py countries body.validated.arguments.toInputs d) :
    StoresSent py countries body.arguments d ↔
      d.programmeNames = normalizedNames py body.arguments.wording := by
  refine ⟨fun hstores => hstores.programmeNames, fun hnames => ?_⟩
  exact
    { destinations := isNormalized_of_codeSet h.destinations
      levels := isNormalized_of_codeSet h.levels
      originMode := h.originMode
      origins := isNormalized_of_codeSet h.origins
      fieldMode := h.fieldMode
      fields := isNormalized_of_codeSet h.fields
      evidenceFresh := h.evidenceFresh
      eligibilityNote := h.eligibilityNote.trans (ifTruthy_textOrNull body.arguments.eligibilityNote)
      expectedReopenMonth := by
        refine h.expectedReopenMonth.trans ?_
        show ((body.arguments.expectedReopenMonth.map fun month : Month =>
          Json.int month.val).getD .null).nonNull = _
        cases body.arguments.expectedReopenMonth <;> rfl
      fieldNames := h.fieldNames
      programmeNames := hnames
      fundingType := fundingType_of_check h.funding
      deadline := by
        refine h.deadline.trans ?_
        show body.arguments.deadlineAt.map (fun deadlineAt => StoredDeadline.mk _ _
          (textOrNull body.arguments.deadlineTimezone).nonNull) = _
        rw [textOrNull_nonNull]
        rfl }

lemma normalizedNames_eq_nil {names : List String} :
    normalizedNames py names = [] ↔ ∀ name ∈ names, py.strip name = "" := by
  rw [normalizedNames, sortedSet_eq_nil, List.filter_eq_nil_iff]
  simp only [List.mem_map, forall_exists_index, and_imp, forall_apply_eq_imp_iff₂,
    decide_eq_true_eq, not_not]

/-! ## The result -/

/-- What the route stores is what was sent, exactly if the wording is sent under its own name or
there is none under the legacy name either. -/
theorem publish_stores_sent_iff {scholarshipId : ScholarshipId} {cycleId : CycleId}
    {body : PublishCycleRequest} {now : Instant} {store store' : EventStore}
    (h : publishRoute boundary py countries scholarshipId cycleId body.validated now store =
      .ok store') :
    (∃ row d, store'.db.cycles.row cycleId = some row ∧ row.facts = d.toJson ∧
        StoresSent py countries body.arguments d) ↔
      body.arguments.programmeNames.isSome ∨
        ∀ name ∈ body.arguments.fieldNames.getD [], py.strip name = "" := by
  obtain ⟨facts, hbuild, hcycles, -⟩ := publishRoute_ok h
  obtain ⟨d, hbuilt, rfl⟩ := buildCycleFacts_eq_ok_iff.mp hbuild
  have hrow : store'.db.cycles.row cycleId =
      some ((body.validated.publishArgs scholarshipId cycleId d.toJson).newRow now) := by
    rw [hcycles, Table.row_insert_self]
  have hstored : d.programmeNames =
      normalizedNames py (body.arguments.programmeNames.getD []) := hbuilt.programmeNames
  have hnames : d.programmeNames = normalizedNames py body.arguments.wording ↔
      body.arguments.programmeNames.isSome ∨
        ∀ name ∈ body.arguments.fieldNames.getD [], py.strip name = "" := by
    rw [hstored, CycleArguments.wording]
    cases body.arguments.programmeNames with
    | some names => exact iff_of_true rfl (Or.inl rfl)
    | none =>
      -- nothing is stored of the wording under the legacy name
      have hnil : normalizedNames py [] = [] := normalizedNames_eq_nil.mpr (by simp)
      rw [Option.getD_none, Option.getD_none, hnil, eq_comm, normalizedNames_eq_nil]
      exact (or_iff_right (by simp)).symm
  rw [← hnames, ← hbuilt.storesSent_iff]
  constructor
  · rintro ⟨row, d', hrow', hfacts, hstores⟩
    rw [hrow, Option.some.injEq] at hrow'
    subst hrow'
    have hvalue : d.programmeNames = d'.programmeNames := by
      have hstrings : stringList (d.value "programme_names") =
          stringList (d'.value "programme_names") := by rw [FactsDict.value_eq hfacts]
      simpa only [FactsDict.value, stringList_stored] using hstrings
    exact hbuilt.storesSent_iff.mpr (hvalue.trans hstores.programmeNames)
  · exact fun hstores => ⟨_, d, hrow, rfl, hstores⟩

/-! ## The legacy name -/

namespace Sample

/-- A body with this wording. -/
def wordedBody (fieldNames programmeNames : Option (List String)) : PublishCycleRequest where
  providerCycleKey := "2024"
  applicantSegment := "default"
  officialCycleUrl := awardUrl
  publicStatus := .openVerified
  statusValidUntil := none
  lastVerifiedAt := some start
  arguments := { arguments with fieldNames := fieldNames, programmeNames := programmeNames }

/-- The database after the body was published. -/
def wordedStore (fieldNames programmeNames : Option (List String)) : EventStore :=
  (publishRoute limits datedPy Sample.countries 1 1 (wordedBody fieldNames programmeNames).validated
    start editStore).toOption.getD editStore

lemma wordedStore_eq {fieldNames programmeNames : Option (List String)}
    (h : (publishRoute limits datedPy Sample.countries 1 1
      (wordedBody fieldNames programmeNames).validated start editStore).toOption.isSome) :
    publishRoute limits datedPy Sample.countries 1 1 (wordedBody fieldNames programmeNames).validated
      start editStore = .ok (wordedStore fieldNames programmeNames) := by
  unfold wordedStore
  cases hroute : publishRoute limits datedPy Sample.countries 1 1
      (wordedBody fieldNames programmeNames).validated start editStore with
  | error e =>
    rw [hroute] at h
    cases h
  | ok store => rfl

lemma admitted_wordedBody :
    (wordedBody (some ["Robotics"]) none).validated.Admitted limits datedPy where
  providerCycleKey := by decide
  applicantSegment := by decide
  officialCycleUrl := by decide
  arguments := {
    destinations := by decide
    levels := by decide
    origins := by decide
    fields := by decide
    fieldNames := ⟨_, rfl, by decide⟩
    programmeNames := ⟨_, rfl, by decide⟩
    eligibilityNote := by
      rintro note ⟨⟩
      decide
    fundingType := by
      rintro code ⟨⟩
      decide
    deadlineAt := by
      rintro deadlineAt ⟨⟩
      exact readsBack_deadline }

end Sample

/-- The wording that a body has under the legacy name alone is not stored. -/
theorem legacy_wording_is_lost :
    (Sample.wordedBody (some ["Robotics"]) none).validated.Admitted Sample.limits Sample.datedPy ∧
    publishRoute Sample.limits Sample.datedPy Sample.countries 1 1
        (Sample.wordedBody (some ["Robotics"]) none).validated Sample.start Sample.editStore =
      .ok (Sample.wordedStore (some ["Robotics"]) none) ∧
    ¬ ∃ row d, (Sample.wordedStore (some ["Robotics"]) none).db.cycles.row 1 = some row ∧
      row.facts = d.toJson ∧ StoresSent Sample.datedPy Sample.countries
        (Sample.wordedBody (some ["Robotics"]) none).arguments d := by
  have hroute := @Sample.wordedStore_eq (some ["Robotics"]) none rfl
  refine ⟨Sample.admitted_wordedBody, hroute, ?_⟩
  rintro ⟨row, d, hrow, hfacts, hstores⟩
  have hnone : (row.facts.get "programme_names").toOption.bind id = none := by
    obtain rfl := Option.some.inj hrow
    rfl
  rw [hfacts, FactsDict.get_toJson] at hnone
  have hnames : d.programmeNames = ["Robotics"] := hstores.programmeNames
  simp [FactsDict.value, hnames, Except.toOption] at hnone

/-- The same wording under its own name is stored. -/
theorem wording_is_stored :
    ∃ row d, (Sample.wordedStore none (some ["Robotics"])).db.cycles.row 1 = some row ∧
      row.facts = d.toJson ∧ StoresSent Sample.datedPy Sample.countries
        (Sample.wordedBody none (some ["Robotics"])).arguments d :=
  (publish_stores_sent_iff (Sample.wordedStore_eq rfl)).mpr (Or.inl rfl)

end ScholarshipFinder
