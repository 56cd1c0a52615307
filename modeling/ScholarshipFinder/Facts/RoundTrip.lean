import ScholarshipFinder.Facts.Sanitised

/-!
# Editing what was published

A correction reads the stored facts back into arguments of the builder, replaces those that
the request names, and builds the facts again.  Without a replacement this is a round trip;
with one, every key that is not computed from a replaced argument keeps its value.
-/

namespace ScholarshipFinder

variable {py : Py} {countries : CountryVocabulary}

/-- The arguments that a dict of this shape is read back into, next to the deadline itself. -/
def FactsDict.inputs (d : FactsDict) (deadlineAt : Option DateTime) : CycleInputs where
  destinations := some d.destinations
  levels := some d.levels
  originMode := d.originMode
  origins := some d.origins
  fieldMode := d.fieldMode
  fields := some d.fields
  evidenceFresh := .bool d.evidenceFresh.truthy
  deadlineAt := deadlineAt
  deadlinePrecision := (d.value "deadline_precision").getD (.str "date")
  deadlineTimezone := (d.value "deadline_timezone").getD .null
  eligibilityNote := d.eligibilityNote.getD .null
  expectedReopenMonth := d.expectedReopenMonth.getD .null
  fieldNames := []
  programmeNames := some d.programmeNames
  fundingType := textOrNull d.fundingType

theorem cycleFactsToInputs_toJson (d : FactsDict) :
    cycleFactsToInputs py d.toJson =
      (parseStoredDeadline py (d.value "deadline_at")).map d.inputs := by
  simp only [cycleFactsToInputs, FactsDict.get_toJson, bind, Except.bind]
  cases parseStoredDeadline py (d.value "deadline_at") with
  | error e => rfl
  | ok deadlineAt =>
    simp only [FactsDict.value, FactsDict.inputs, textOrNull, Except.map, pure, Except.pure,
      stringList_strings, stringList_stored, Option.getD_some]

/-! ## Without a replacement -/

/-- A stored text is not empty, and its lookup is a canonical code. -/
lemma checkFundingType_fixed (hpy : py.TextLaws) {value : Json} {code : Option String}
    (h : checkFundingType py value = .ok (entry "funding_type" (code.map .str))) :
    checkFundingType py (textOrNull code) = .ok (entry "funding_type" (code.map .str)) := by
  cases code with
  | none => rfl
  | some c =>
    obtain ⟨code, hentry, hfound⟩ := checkFundingType_ok h
    have hcode : code = some c := by
      cases code with
      | none => cases hentry
      | some code => simpa [entry, eq_comm] using hentry
    obtain ⟨s, hs⟩ := hfound c hcode
    have hfixed := taxonomy_fundingType_fixed hpy hs
    have hne : c ≠ "" := by
      rintro rfl
      have hhas := taxonomy_fundingType_has hs
      revert hhas
      decide
    show checkFundingType py (.str c) = _
    have htruthy : (Json.str c).truthy = true := by simp [Json.truthy, hne]
    simp only [checkFundingType, htruthy, if_true, hfixed]
    rfl

/-- Programme names are stripped once. -/
lemma programmes_fixed (hpy : py.TextLaws) (x : CycleInputs) :
    ((sortedSet (x.programmes py)).map py.strip).filter (· ≠ "") = sortedSet (x.programmes py) := by
  have hname : ∀ name ∈ sortedSet (x.programmes py), py.strip name = name ∧ name ≠ "" := by
    intro name hname
    rw [mem_sortedSet, CycleInputs.programmes, List.mem_filter] at hname
    obtain ⟨hmem, hne⟩ := hname
    obtain ⟨raw, -, rfl⟩ := List.mem_map.mp hmem
    exact ⟨hpy.strip_strip raw, by simpa using hne⟩
  have hmap : (sortedSet (x.programmes py)).map py.strip = sortedSet (x.programmes py) := by
    refine (List.map_congr_left fun name h => (hname name h).1).trans ?_
    exact List.map_id _
  rw [hmap, List.filter_eq_self]
  intro name h
  simpa using (hname name h).2

/-- The deadline keys, read back together. -/
lemma Built.readDeadline {x : CycleInputs} {d : FactsDict} (h : Built py countries x d)
    (hback : ∀ deadlineAt ∈ x.deadlineAt, py.ReadsBack deadlineAt) :
    parseStoredDeadline py (d.value "deadline_at") = .ok x.deadlineAt ∧
      checkTimezone py (d.inputs x.deadlineAt).deadlineTimezone = .ok () ∧
      d.deadline = x.deadlineAt.map fun deadlineAt => ⟨py.isoformat deadlineAt,
        (d.inputs x.deadlineAt).deadlinePrecision,
        (d.inputs x.deadlineAt).deadlineTimezone.nonNull⟩ := by
  have hdeadline := h.deadline
  cases hat : x.deadlineAt with
  | none =>
    rw [hat, Option.map_none] at hdeadline
    simp [FactsDict.value, FactsDict.inputs, hdeadline, parseStoredDeadline, checkTimezone]
  | some deadlineAt =>
    rw [hat, Option.map_some] at hdeadline
    have hread := hback deadlineAt hat
    have hzone : (d.inputs (some deadlineAt)).deadlineTimezone = x.deadlineTimezone := by
      show (d.deadline.bind _).getD Json.null = _
      rw [hdeadline]
      exact Json.nonNull_getD x.deadlineTimezone
    refine ⟨?_, ?_, ?_⟩
    · simp [FactsDict.value, hdeadline, parseStoredDeadline, hread.text, hread.read]
    · rw [hzone]
      exact h.zone
    · rw [hzone, hdeadline]
      simp [FactsDict.inputs, FactsDict.value, hdeadline]

/-- The builder accepts what it is read back into, and stores the same again. -/
theorem Built.readBack {x : CycleInputs} {d : FactsDict} (h : Built py countries x d)
    (hpy : py.TextLaws) (hback : ∀ deadlineAt ∈ x.deadlineAt, py.ReadsBack deadlineAt)
    (hfresh : ∃ fresh, x.evidenceFresh = .bool fresh) :
    cycleFactsToInputs py d.toJson = .ok (d.inputs x.deadlineAt) ∧
      Built py countries (d.inputs x.deadlineAt) d := by
  obtain ⟨hparse, hzone, hdeadline⟩ := h.readDeadline hback
  have hnote : d.eligibilityNote = (d.eligibilityNote.getD .null).ifTruthy := by
    rw [h.eligibilityNote, Json.ifTruthy_getD]
  have hmonth : d.expectedReopenMonth = (d.expectedReopenMonth.getD .null).nonNull := by
    rw [h.expectedReopenMonth, Json.nonNull_getD]
  have hevidence : d.evidenceFresh = .bool d.evidenceFresh.truthy := by
    obtain ⟨fresh, hf⟩ := hfresh
    rw [h.evidenceFresh, hf]
    rfl
  have hprogrammes : d.programmeNames = sortedSet ((d.inputs x.deadlineAt).programmes py) := by
    have hfixed := programmes_fixed hpy x
    rw [← h.programmeNames] at hfixed
    show d.programmeNames = sortedSet ((d.programmeNames.map py.strip).filter (· ≠ ""))
    rw [hfixed, h.programmeNames, sortedSet_sortedSet]
  refine ⟨by rw [cycleFactsToInputs_toJson, hparse]; rfl, ?_⟩
  exact {
    destinations := codeSet_fixed (fun _ _ => destination_fixed hpy) h.destinations
    destinations_ne := h.destinations_ne
    levels := codeSet_fixed (fun _ _ => taxonomy_degree_fixed hpy) h.levels
    levels_ne := h.levels_ne
    origins := codeSet_fixed (fun _ _ => origin_fixed hpy) h.origins
    origins_ne := fun hmode => h.origins_ne (h.originMode ▸ hmode)
    fields := codeSet_fixed (fun _ _ => taxonomy_field_fixed hpy) h.fields
    fields_ne := fun hmode => h.fields_ne (h.fieldMode ▸ hmode)
    zone := hzone
    funding := checkFundingType_fixed hpy h.funding
    originMode := rfl
    fieldMode := rfl
    evidenceFresh := hevidence
    eligibilityNote := hnote
    expectedReopenMonth := hmonth
    fieldNames := h.fieldNames
    programmeNames := hprogrammes
    deadline := hdeadline }

/-! ## With a replacement -/

/-- The request adds a deadline to facts without one, or removes the one there is. -/
def UpdateCycleRequest.togglesDeadline (changes : UpdateCycleRequest) (stored : Bool) : Bool :=
  match changes.deadlineAt with
  | .omitted => false
  | .null => stored
  | .value _ => !stored

/-- The request names a field that the stored key is computed from; `stored` says whether there
is a deadline.  The labels go with the fields, and a deadline that comes or goes takes its
precision and its time zone along. -/
def UpdateCycleRequest.touches (changes : UpdateCycleRequest) (stored : Bool) : String → Bool
  | "destinations" => changes.destinations.named
  | "levels" => changes.levels.named
  | "origin_mode" => changes.originMode.named
  | "origins" => changes.origins.named
  | "field_mode" => changes.fieldMode.named
  | "fields" => changes.fields.named
  | "evidence_fresh" => changes.evidenceFresh.named
  | "eligibility_note" => changes.eligibilityNote.named
  | "expected_reopen_month" => changes.expectedReopenMonth.named
  | "field_names" => changes.fields.named
  | "programme_names" => changes.programmeNames.named
  | "funding_type" => changes.fundingType.named
  | "deadline_at" => changes.deadlineAt.named
  | "deadline_precision" => changes.deadlinePrecision.named || changes.togglesDeadline stored
  | "deadline_timezone" => changes.deadlineTimezone.named || changes.togglesDeadline stored
  | _ => false

section

variable {α : Type} {c : Change α}

lemma Change.orStored_of_not_named (h : c.named = false) (stored : Option α) :
    c.orStored stored = stored := by
  cases c with
  | omitted => rfl
  | _ => cases h

lemma Change.orStoredJson_of_not_named (h : c.named = false) (toJson : α → Json) (stored : Json) :
    c.orStoredJson toJson stored = stored := by
  cases c with
  | omitted => rfl
  | _ => cases h

end

/-- The set of codes under a key depends on one argument only. -/
lemma codeSet_inj {f : String → Except PyErr String} {values : Option (List String)}
    {codes codes' : List String} (h : codeSet f values = .ok codes)
    (h' : codeSet f values = .ok codes') : codes' = codes :=
  Except.ok.inj (h'.symm.trans h)

lemma entry_str_inj {key : String} {code code' : Option String}
    (h : entry key (code'.map Json.str) = entry key (code.map .str)) : code' = code := by
  cases code <;> cases code' <;> simp_all [entry]

/-- A deadline that neither comes nor goes. -/
lemma isSome_of_not_toggles {changes : UpdateCycleRequest} {stored : Option DateTime}
    (h : changes.togglesDeadline stored.isSome = false) :
    (changes.deadlineAt.orStored stored).isSome = stored.isSome := by
  unfold UpdateCycleRequest.togglesDeadline at h
  cases hc : changes.deadlineAt with
  | omitted => rfl
  | null => simpa [hc, Change.orStored] using h
  | value d =>
    have hstored : stored.isSome = true := by simpa [hc] using h
    rw [hstored]
    rfl

lemma bind_const_of_isSome {α β : Type} (b : Option β) {o o' : Option α}
    (h : o'.isSome = o.isSome) : (o'.bind fun _ => b) = o.bind fun _ => b := by
  cases o <;> cases o' <;> simp_all

lemma map_const_of_isSome {α β : Type} (b : β) {o o' : Option α} (h : o'.isSome = o.isSome) :
    o'.map (fun _ => b) = o.map fun _ => b := by
  rw [Option.map_eq_bind, Option.map_eq_bind]
  exact bind_const_of_isSome (some b) h

/-- A key that the request does not touch is rebuilt from the same arguments. -/
theorem Built.edit {x : CycleInputs} {d d' : FactsDict} {changes : UpdateCycleRequest}
    (h : Built py countries x d) (h' : Built py countries (x.update changes) d') {key : String}
    (hkey : changes.touches x.deadlineAt.isSome key = false) : d'.value key = d.value key := by
  -- one case per key: the arguments that it is computed from are the stored ones
  have hdeadline := h.deadline
  have hdeadline' := h'.deadline
  unfold UpdateCycleRequest.touches at hkey
  split at hkey
  case h_1 =>
    have hset := h'.destinations
    rw [CycleInputs.update, Change.orStored_of_not_named hkey] at hset
    simp only [FactsDict.value, codeSet_inj h.destinations hset]
  case h_2 =>
    have hset := h'.levels
    rw [CycleInputs.update, Change.orStored_of_not_named hkey] at hset
    simp only [FactsDict.value, codeSet_inj h.levels hset]
  case h_3 =>
    have hmode := h'.originMode
    rw [CycleInputs.update, Change.orStoredJson_of_not_named hkey, ← h.originMode] at hmode
    simp only [FactsDict.value, hmode]
  case h_4 =>
    have hset := h'.origins
    rw [CycleInputs.update, Change.orStored_of_not_named hkey] at hset
    simp only [FactsDict.value, codeSet_inj h.origins hset]
  case h_5 =>
    have hmode := h'.fieldMode
    rw [CycleInputs.update, Change.orStoredJson_of_not_named hkey, ← h.fieldMode] at hmode
    simp only [FactsDict.value, hmode]
  case h_6 =>
    have hset := h'.fields
    rw [CycleInputs.update, Change.orStored_of_not_named hkey] at hset
    simp only [FactsDict.value, codeSet_inj h.fields hset]
  case h_7 =>
    have hfresh := h'.evidenceFresh
    rw [CycleInputs.update, Change.orStoredJson_of_not_named hkey, ← h.evidenceFresh] at hfresh
    simp only [FactsDict.value, hfresh]
  case h_8 =>
    have hnote := h'.eligibilityNote
    rw [CycleInputs.update, Change.orStoredJson_of_not_named hkey, ← h.eligibilityNote] at hnote
    simp only [FactsDict.value, hnote]
  case h_9 =>
    have hmonth := h'.expectedReopenMonth
    rw [CycleInputs.update, Change.orStoredJson_of_not_named hkey,
      ← h.expectedReopenMonth] at hmonth
    simp only [FactsDict.value, hmonth]
  case h_10 =>
    -- the labels are generated from the fields
    have hset := h'.fields
    rw [CycleInputs.update, Change.orStored_of_not_named hkey] at hset
    simp only [FactsDict.value, h.fieldNames, h'.fieldNames, codeSet_inj h.fields hset]
  case h_11 =>
    have hnames : (x.update changes).programmes py = x.programmes py := by
      simp only [CycleInputs.programmes, CycleInputs.update, Change.orStored_of_not_named hkey]
    simp only [FactsDict.value, h.programmeNames, h'.programmeNames, hnames]
  case h_12 =>
    have hfunding := h'.funding
    rw [CycleInputs.update, Change.orStoredJson_of_not_named hkey, h.funding] at hfunding
    simp only [FactsDict.value, entry_str_inj (Except.ok.inj hfunding)]
  case h_13 =>
    rw [CycleInputs.update, Change.orStored_of_not_named hkey] at hdeadline'
    simp only [FactsDict.value, hdeadline, hdeadline', Option.map_map, Function.comp_def]
  case h_14 =>
    obtain ⟨hnamed, htoggle⟩ := Bool.or_eq_false_iff.mp hkey
    have hsome := isSome_of_not_toggles htoggle
    rw [CycleInputs.update, Change.orStoredJson_of_not_named hnamed] at hdeadline'
    simp only [FactsDict.value, hdeadline, hdeadline', Option.map_map, Function.comp_def]
    exact map_const_of_isSome x.deadlinePrecision hsome
  case h_15 =>
    obtain ⟨hnamed, htoggle⟩ := Bool.or_eq_false_iff.mp hkey
    have hsome := isSome_of_not_toggles htoggle
    rw [CycleInputs.update] at hdeadline'
    simp only [Change.orStoredJson_of_not_named hnamed] at hdeadline'
    simp only [FactsDict.value, hdeadline, hdeadline', Option.bind_map, Function.comp_def]
    exact bind_const_of_isSome x.deadlineTimezone.nonNull hsome
  case h_16 => simp [FactsDict.value, *]

/-! ## The result -/

lemma FactsDict.orEmpty_toJson (d : FactsDict) : d.toJson.orEmpty = d.toJson := rfl

/-- Reading the facts of a publication back gives arguments that build them again, and an
accepted correction keeps every stored fact that it does not touch. -/
theorem publish_then_edit (hpy : py.TextLaws) {x : CycleInputs} {fresh : Bool}
    (hfresh : x.evidenceFresh = .bool fresh)
    (hback : ∀ deadlineAt ∈ x.deadlineAt, py.ReadsBack deadlineAt) {F : Json}
    (hbuild : buildCycleFacts py countries x = .ok F) :
    (∃ inputs, cycleFactsToInputs py F = .ok inputs ∧
      buildCycleFacts py countries inputs = .ok F) ∧
    ∀ (scholarshipId : ScholarshipId) (cycleId : CycleId) (changes : UpdateCycleRequest)
      (db db' : Db) (row : ScholarshipCycle),
      db.cycles.row cycleId = some row → row.facts = F →
      updateCycleRoute py countries scholarshipId cycleId changes db = .ok db' →
        ∃ row', db'.cycles.row cycleId = some row' ∧
          ∀ key, changes.touches x.deadlineAt.isSome key = false →
            row'.facts.get key = F.get key := by
  obtain ⟨d, hbuilt, rfl⟩ := buildCycleFacts_eq_ok_iff.mp hbuild
  obtain ⟨hinputs, hagain⟩ := hbuilt.readBack hpy hback ⟨fresh, hfresh⟩
  constructor
  · exact ⟨_, hinputs, buildCycleFacts_eq_ok_iff.mpr ⟨d, hagain, rfl⟩⟩
  · intro scholarshipId cycleId changes db db' row hrow hfacts hroute
    obtain ⟨row', inputs, hrow', hread, hrebuilt⟩ := updateCycleRoute_facts hroute hrow
    have hsame : d.inputs x.deadlineAt = inputs := by
      rw [hfacts, FactsDict.orEmpty_toJson, hinputs] at hread
      exact Except.ok.inj hread
    obtain ⟨d', hbuilt', hfacts'⟩ := buildCycleFacts_eq_ok_iff.mp hrebuilt
    rw [← hsame] at hbuilt'
    refine ⟨row', hrow', fun key hkey => ?_⟩
    have hvalue : d'.value key = d.value key := hagain.edit hbuilt' hkey
    rw [hfacts', FactsDict.get_toJson, FactsDict.get_toJson, hvalue]

namespace Sample

/-- The cycle with a deadline, as it is published. -/
def publishedCycle : ScholarshipCycle := { cycle with facts := published }

/-- The correction that removes its deadline. -/
def removeDeadline : UpdateCycleRequest := { deadlineAt := .null }

end Sample

/-- Removing the deadline takes its precision along, which is not named. -/
theorem edit_drops_precision :
    ∃ db', updateCycleRoute Sample.datedPy Sample.countries 1 1 Sample.removeDeadline
        (Sample.db Sample.publishedCycle) = .ok db' ∧
      Sample.published.get "deadline_precision" = .ok (some (.str "datetime")) ∧
      (db'.cycles.row 1).map (fun row => row.facts.get "deadline_precision") =
        some (.ok none) :=
  ⟨_, rfl, rfl, rfl⟩

/-- The publication above, read back. -/
theorem publish_then_edit_sample :
    ∃ inputs, cycleFactsToInputs Sample.datedPy Sample.published = .ok inputs ∧
      buildCycleFacts Sample.datedPy Sample.countries inputs = .ok Sample.published := by
  refine (publish_then_edit Sample.textLaws (x := Sample.arguments.toInputs) rfl ?_
    Sample.published_eq).1
  rintro deadlineAt ⟨⟩
  exact Sample.readsBack_deadline

end ScholarshipFinder
