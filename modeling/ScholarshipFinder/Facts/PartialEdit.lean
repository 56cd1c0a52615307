import ScholarshipFinder.Facts.RoundTrip

/-!
# Editing what was stored otherwise

A correction reads the stored facts into arguments of the builder and stores what the builder makes
of them.  For facts that the builder wrote this is a round trip; for others it is one exactly where
each value is in the form that the builder gives it, and a deadline carries its precision.  A
deadline without one is an instant to `derive_facts` and a date to `cycle_facts_to_inputs`, and keys
that the builder does not know are dropped.
-/

namespace ScholarshipFinder

variable (py : Py) (countries : CountryVocabulary)

/-- The request names no field of the deadline. -/
structure UpdateCycleRequest.LeavesDeadline (changes : UpdateCycleRequest) : Prop where
  deadline : changes.deadlineAt.named = false
  precision : changes.deadlinePrecision.named = false
  timezone : changes.deadlineTimezone.named = false

/-- What an accepted correction is to do to the stored facts: the deadline is read as before, and
every key whose field the request does not name keeps its value.  The labels go with the fields. -/
structure LeavesUnnamed (changes : UpdateCycleRequest) (items : List (String × Json))
    (facts : Json) : Prop where
  deadline : ∃ f f', deriveFacts py (.obj items) = .ok f ∧ deriveFacts py facts = .ok f' ∧
    f'.deadline = f.deadline
  kept : ∀ key value, items.lookup key = some value → changes.touches false key = false →
    facts.get key = .ok (some value)

/-- A deadline is stored, and can be read. -/
def HasDeadline (items : List (String × Json)) (text : String) (deadlineAt : DateTime) : Prop :=
  items.lookup "deadline_at" = some (.str text) ∧ text ≠ "" ∧
    py.fromisoformat text = .ok deadlineAt

/-- Codes that stand for themselves, in order. -/
def IsCodeList (f : String → Except PyErr String) (value : Json) : Prop :=
  ∃ codes, value = strings codes ∧ codes.Pairwise (· < ·) ∧ ∀ c ∈ codes, f c = .ok c

/-- The form in which the builder stores a value under a key. -/
def InBuilderForm (items : List (String × Json)) (value : Json) : String → Prop
  | "destinations" => IsCodeList (countries.destination py) value
  | "levels" => IsCodeList (taxonomy.degree py) value
  | "origin_mode" => True
  | "origins" => IsCodeList (countries.origin py) value
  | "field_mode" => True
  | "fields" => IsCodeList (taxonomy.field py) value
  | "evidence_fresh" => ∃ fresh, value = .bool fresh
  | "eligibility_note" => value.truthy = true
  | "expected_reopen_month" => value ≠ .null
  | "field_names" => ∃ names, names ≠ [] ∧ value = strings names ∧
      names = fieldLabels (taxonomy.normalizeFields py (stringList (items.lookup "fields"))).1
  | "programme_names" => ∃ names, names ≠ [] ∧ value = strings names ∧
      names.Pairwise (· < ·) ∧ ∀ name ∈ names, py.strip name = name ∧ name ≠ ""
  | "funding_type" => ∃ code, value = .str code ∧ taxonomy.fundingType py code = .ok code
  | "deadline_at" => ∃ text deadlineAt, HasDeadline py items text deadlineAt ∧
      py.isoformat deadlineAt = text
  | "deadline_precision" => ∃ text deadlineAt, HasDeadline py items text deadlineAt
  | "deadline_timezone" => (∃ text deadlineAt, HasDeadline py items text deadlineAt) ∧
      value ≠ .null
  | _ => False

/-- The values that the request does not name are in the form of the builder, and a deadline
carries its precision. -/
structure StoredAsBuilt (changes : UpdateCycleRequest) (items : List (String × Json)) : Prop where
  values : ∀ key value, items.lookup key = some value → changes.touches false key = false →
    InBuilderForm py countries items value key
  precision : (∃ text deadlineAt, HasDeadline py items text deadlineAt) →
    (items.lookup "deadline_precision").isSome

variable {py countries}

/-! ## What the stored facts are read into -/

/-- The arguments that a facts object is read into, next to the deadline itself. -/
def storedInputs (items : List (String × Json)) (deadlineAt : Option DateTime) : CycleInputs where
  destinations := some (stringList (items.lookup "destinations"))
  levels := some (stringList (items.lookup "levels"))
  originMode := (items.lookup "origin_mode").getD (.str "unknown")
  origins := some (stringList (items.lookup "origins"))
  fieldMode := (items.lookup "field_mode").getD (.str "unknown")
  fields := some (stringList (items.lookup "fields"))
  evidenceFresh := .bool ((items.lookup "evidence_fresh").getD (.bool false)).truthy
  deadlineAt := deadlineAt
  deadlinePrecision := (items.lookup "deadline_precision").getD (.str "date")
  deadlineTimezone := (items.lookup "deadline_timezone").getD .null
  eligibilityNote := (items.lookup "eligibility_note").getD .null
  expectedReopenMonth := (items.lookup "expected_reopen_month").getD .null
  fieldNames := []
  programmeNames := some (stringList (items.lookup "programme_names"))
  fundingType := (items.lookup "funding_type").getD .null

lemma cycleFactsToInputs_obj {items : List (String × Json)} {inputs : CycleInputs}
    (h : cycleFactsToInputs py (.obj items) = .ok inputs) :
    ∃ deadlineAt, parseStoredDeadline py (items.lookup "deadline_at") = .ok deadlineAt ∧
      inputs = storedInputs items deadlineAt := by
  simp only [cycleFactsToInputs, Json.get, bind, Except.bind] at h
  cases hparse : parseStoredDeadline py (items.lookup "deadline_at") with
  | error e =>
    rw [hparse] at h
    cases h
  | ok deadlineAt =>
    rw [hparse] at h
    exact ⟨deadlineAt, rfl, (Except.ok.inj h).symm⟩

/-- A stored deadline that the correction can read is read by every reader. -/
lemma parseStoredDeadline_ok {items : List (String × Json)} {deadlineAt : Option DateTime}
    (h : parseStoredDeadline py (items.lookup "deadline_at") = .ok deadlineAt) :
    safeDeadlineAt py (items.lookup "deadline_at") = .ok deadlineAt ∧
      ∀ d, deadlineAt = some d ↔ ∃ text, HasDeadline py items text d := by
  unfold parseStoredDeadline at h
  split at h
  · next text hlookup =>
    by_cases htext : text = ""
    · rw [if_pos htext] at h
      obtain rfl := Except.ok.inj h
      refine ⟨by rw [hlookup, safeDeadlineAt, if_pos htext], fun d => ?_⟩
      refine ⟨(by rintro ⟨⟩), ?_⟩
      rintro ⟨text', hlookup', hne, -⟩
      rw [hlookup] at hlookup'
      obtain rfl := Json.str.inj (Option.some.inj hlookup')
      exact absurd htext hne
    · rw [if_neg htext] at h
      cases hread : py.fromisoformat text with
      | error e =>
        simp only [hread] at h
        split at h <;> cases h
      | ok found =>
        simp only [hread] at h
        obtain rfl := Except.ok.inj h
        refine ⟨by simp [hlookup, safeDeadlineAt, htext, hread], fun d => ?_⟩
        constructor
        · rintro ⟨⟩
          exact ⟨text, hlookup, htext, hread⟩
        · rintro ⟨text', hlookup', -, hread'⟩
          rw [hlookup] at hlookup'
          obtain rfl := Json.str.inj (Option.some.inj hlookup')
          rw [hread] at hread'
          rw [Except.ok.inj hread']
  · next hother =>
    obtain rfl := Except.ok.inj h
    constructor
    · unfold safeDeadlineAt
      split
      · next text hlookup => exact absurd hlookup (hother text)
      · rfl
    · refine fun d => ⟨(by rintro ⟨⟩), ?_⟩
      rintro ⟨text, hlookup, -⟩
      exact absurd hlookup (hother text)

/-! ## What is stored again -/

/-- Codes are stored as they were exactly if they were a list of codes. -/
lemma codeSet_eq_iff {f : String → Except PyErr String} (hf : ∀ v c, f v = .ok c → f c = .ok c)
    {value : Json} {codes : List String}
    (h : codeSet f (some (stringList (some value))) = .ok codes) :
    strings codes = value ↔ IsCodeList f value := by
  constructor
  · intro heq
    obtain ⟨found, hfound, h⟩ := exceptBind_ok h
    have hset : sortedSet found = codes := Except.ok.inj h
    refine ⟨codes, heq.symm, hset ▸ pairwise_sortedSet found, fun c hc => ?_⟩
    rw [← hset, mem_sortedSet] at hc
    obtain ⟨v, -, hv⟩ := mem_of_mapM_ok hfound hc
    exact hf v c hv
  · rintro ⟨codes', rfl, hsorted, hfixed⟩
    have hself : codeSet f (some codes') = .ok codes' := by
      rw [codeSet, mapM_eq_self hfixed]
      exact congrArg Except.ok (sortedSet_eq_self hsorted)
    rw [stringList_strings] at h
    rw [Except.ok.inj (h.symm.trans hself)]

/-- Fields that are all accepted are the normalised ones. -/
lemma normalizeFields_of_codeSet {values codes : List String}
    (h : codeSet (taxonomy.field py) (some values) = .ok codes) :
    (taxonomy.normalizeFields py values).1 = codes := by
  obtain ⟨found, hfound, h⟩ := exceptBind_ok h
  have hset : sortedSet found = codes := Except.ok.inj h
  have hmap : ∀ (values found : List String), values.mapM (taxonomy.field py) = .ok found →
      values.filterMap (fun value => (taxonomy.field py value).toOption) = found := by
    intro values
    induction values with
    | nil =>
      intro found h
      exact Except.ok.inj h
    | cons value values ih =>
      intro found h
      rw [List.mapM_cons] at h
      obtain ⟨code, hcode, h⟩ := exceptBind_ok h
      obtain ⟨rest, hrest, h⟩ := exceptBind_ok h
      obtain rfl := Except.ok.inj h
      rw [List.filterMap_cons, hcode, ih rest hrest]
      rfl
  rw [← hset, ← hmap values found hfound]
  rfl

/-- Programme names are stored as they were exactly if they were stripped, in order. -/
lemma programmeNames_eq_iff (hpy : py.TextLaws) {value : Json} {names : List String}
    (h : names = sortedSet (((stringList (some value)).map py.strip).filter (· ≠ ""))) :
    (names ≠ [] ∧ strings names = value) ↔ ∃ names, names ≠ [] ∧ value = strings names ∧
      names.Pairwise (· < ·) ∧ ∀ name ∈ names, py.strip name = name ∧ name ≠ "" := by
  constructor
  · rintro ⟨hne, heq⟩
    refine ⟨names, hne, heq.symm, h ▸ pairwise_sortedSet _, fun name hname => ?_⟩
    rw [h, mem_sortedSet, List.mem_filter] at hname
    obtain ⟨raw, -, rfl⟩ := List.mem_map.mp hname.1
    exact ⟨hpy.strip_strip raw, by simpa using hname.2⟩
  · rintro ⟨names', hne, rfl, hsorted, hnames⟩
    have hmap : names'.map py.strip = names' :=
      (List.map_congr_left fun name hname => (hnames name hname).1).trans (List.map_id _)
    have hfilter : names'.filter (· ≠ "") = names' :=
      List.filter_eq_self.mpr fun name hname => by simpa using (hnames name hname).2
    rw [stringList_strings, hmap, hfilter, sortedSet_eq_self hsorted] at h
    rw [h]
    exact ⟨hne, rfl⟩

/-- A funding type is stored as it was exactly if it was a code. -/
lemma fundingType_eq_iff {value : Json} {code : Option String}
    (h : checkFundingType py value = .ok (entry "funding_type" (code.map .str))) :
    code.map Json.str = some value ↔
      ∃ code, value = .str code ∧ taxonomy.fundingType py code = .ok code := by
  unfold checkFundingType at h
  by_cases htruthy : value.truthy = true
  · rw [if_pos htruthy] at h
    cases value with
    | str s =>
      obtain ⟨c, hc, h⟩ := exceptBind_ok h
      have hcode : code = some c := by
        have heq := Except.ok.inj h
        cases code with
        | none => cases heq
        | some code => simpa [entry, eq_comm] using heq
      rw [hcode, Option.map_some, Option.some_inj, Json.str.injEq]
      constructor
      · rintro rfl
        exact ⟨c, rfl, hc⟩
      · rintro ⟨code', hs, hcode'⟩
        have hsame : s = code' := Json.str.inj hs
        rw [← hsame, hc] at hcode'
        exact Except.ok.inj hcode'
    | _ => cases h
  · rw [if_neg htruthy] at h
    have hcode : code = none := by
      have heq := Except.ok.inj h
      cases code with
      | none => rfl
      | some code => cases heq
    rw [hcode]
    refine iff_of_false (by rintro ⟨⟩) ?_
    rintro ⟨code', rfl, hcode'⟩
    have hempty : code' = "" := by simpa [Json.truthy] using htruthy
    have hhas := taxonomy_fundingType_has hcode'
    rw [hempty] at hhas
    revert hhas
    decide

/-- A key that the request does not name keeps its value exactly if this is in the form of the
builder. -/
theorem value_kept_iff (hpy : py.TextLaws) {items : List (String × Json)}
    {deadlineAt : Option DateTime}
    (hparse : parseStoredDeadline py (items.lookup "deadline_at") = .ok deadlineAt)
    {changes : UpdateCycleRequest} (hchanges : changes.LeavesDeadline) {d : FactsDict}
    (h : Built py countries ((storedInputs items deadlineAt).update changes) d) {key : String}
    {value : Json} (hvalue : items.lookup key = some value)
    (hkey : changes.touches false key = false) :
    d.value key = some value ↔ InBuilderForm py countries items value key := by
  have hread := (parseStoredDeadline_ok hparse).2
  have hdeadline := h.deadline
  simp only [CycleInputs.update, Change.orStored_of_not_named hchanges.deadline,
    Change.orStoredJson_of_not_named hchanges.precision,
    Change.orStoredJson_of_not_named hchanges.timezone, storedInputs] at hdeadline
  unfold UpdateCycleRequest.touches at hkey
  split at hkey
  case h_1 =>
    have hset := h.destinations
    rw [CycleInputs.update, Change.orStored_of_not_named hkey, storedInputs, hvalue] at hset
    exact Option.some_inj.trans (codeSet_eq_iff (fun _ _ => destination_fixed hpy) hset)
  case h_2 =>
    have hset := h.levels
    rw [CycleInputs.update, Change.orStored_of_not_named hkey, storedInputs, hvalue] at hset
    exact Option.some_inj.trans (codeSet_eq_iff (fun _ _ => taxonomy_degree_fixed hpy) hset)
  case h_3 =>
    have hmode := h.originMode
    rw [CycleInputs.update, Change.orStoredJson_of_not_named hkey, storedInputs, hvalue] at hmode
    exact iff_of_true (congrArg some hmode) trivial
  case h_4 =>
    have hset := h.origins
    rw [CycleInputs.update, Change.orStored_of_not_named hkey, storedInputs, hvalue] at hset
    exact Option.some_inj.trans (codeSet_eq_iff (fun _ _ => origin_fixed hpy) hset)
  case h_5 =>
    have hmode := h.fieldMode
    rw [CycleInputs.update, Change.orStoredJson_of_not_named hkey, storedInputs, hvalue] at hmode
    exact iff_of_true (congrArg some hmode) trivial
  case h_6 =>
    have hset := h.fields
    rw [CycleInputs.update, Change.orStored_of_not_named hkey, storedInputs, hvalue] at hset
    exact Option.some_inj.trans (codeSet_eq_iff (fun _ _ => taxonomy_field_fixed hpy) hset)
  case h_7 =>
    have hfresh := h.evidenceFresh
    rw [CycleInputs.update, Change.orStoredJson_of_not_named hkey, storedInputs, hvalue] at hfresh
    refine Option.some_inj.trans ⟨fun heq => ⟨_, heq.symm.trans hfresh⟩, ?_⟩
    rintro ⟨fresh, rfl⟩
    exact hfresh
  case h_8 =>
    have hnote := h.eligibilityNote
    rw [CycleInputs.update, Change.orStoredJson_of_not_named hkey, storedInputs, hvalue,
      Option.getD_some, Json.ifTruthy] at hnote
    show d.eligibilityNote = some value ↔ value.truthy = true
    rw [hnote]
    split <;> simp [*]
  case h_9 =>
    have hmonth := h.expectedReopenMonth
    rw [CycleInputs.update, Change.orStoredJson_of_not_named hkey, storedInputs, hvalue] at hmonth
    show d.expectedReopenMonth = some value ↔ value ≠ .null
    rw [hmonth]
    cases value <;> simp [Json.nonNull]
  case h_10 =>
    have hset := h.fields
    rw [CycleInputs.update, Change.orStored_of_not_named hkey] at hset
    show (if d.fieldNames = [] then none else some (strings d.fieldNames)) = some value ↔
      ∃ names, names ≠ [] ∧ value = strings names ∧
        names = fieldLabels (taxonomy.normalizeFields py (stringList (items.lookup "fields"))).1
    rw [normalizeFields_of_codeSet hset, ← h.fieldNames]
    by_cases hempty : d.fieldNames = []
    · rw [if_pos hempty]
      refine ⟨(by rintro ⟨⟩), ?_⟩
      rintro ⟨names, hne, -, heq⟩
      exact absurd (heq.trans hempty) hne
    · rw [if_neg hempty, Option.some_inj]
      refine ⟨fun heq => ⟨_, hempty, heq.symm, rfl⟩, ?_⟩
      rintro ⟨names, -, rfl, rfl⟩
      rfl
  case h_11 =>
    have hnames := h.programmeNames
    simp only [CycleInputs.programmes, CycleInputs.update, Change.orStored_of_not_named hkey,
      storedInputs, hvalue, Option.getD_some] at hnames
    refine Iff.trans ?_ (programmeNames_eq_iff hpy hnames)
    show (if d.programmeNames = [] then none else some (strings d.programmeNames)) = some value ↔ _
    by_cases hempty : d.programmeNames = []
    · rw [if_pos hempty]
      exact iff_of_false (by rintro ⟨⟩) fun hne => hne.1 hempty
    · rw [if_neg hempty, Option.some_inj]
      exact (and_iff_right hempty).symm
  case h_12 =>
    have hfunding := h.funding
    rw [CycleInputs.update, Change.orStoredJson_of_not_named hkey, storedInputs, hvalue] at hfunding
    exact fundingType_eq_iff hfunding
  case h_13 =>
    show d.deadline.map (fun deadline => Json.str deadline.text) = some value ↔ _
    rw [hdeadline]
    cases hat : deadlineAt with
    | none =>
      refine iff_of_false (by rintro ⟨⟩) ?_
      rintro ⟨text, found, hfound, -⟩
      exact absurd ((hread found).mpr ⟨text, hfound⟩) (by rw [hat]; rintro ⟨⟩)
    | some found =>
      obtain ⟨text, hfound⟩ := (hread found).mp hat
      have htext : value = .str text := Option.some.inj (hvalue.symm.trans hfound.1)
      show some (Json.str (py.isoformat found)) = some value ↔ _
      rw [Option.some_inj, htext, Json.str.injEq]
      constructor
      · exact fun heq => ⟨text, found, hfound, heq⟩
      · rintro ⟨text', found', hfound', heq⟩
        have hsame : found = found' :=
          Option.some.inj (hat.symm.trans ((hread found').mpr ⟨text', hfound'⟩))
        have htext' : text = text' :=
          Json.str.inj (Option.some.inj (hfound.1.symm.trans hfound'.1))
        rw [hsame, heq, htext']
  case h_14 =>
    show d.deadline.map (fun deadline => deadline.precision) = some value ↔ _
    rw [hdeadline, hvalue]
    cases hat : deadlineAt with
    | none =>
      refine iff_of_false (by rintro ⟨⟩) ?_
      rintro ⟨text, found, hfound⟩
      exact absurd ((hread found).mpr ⟨text, hfound⟩) (by rw [hat]; rintro ⟨⟩)
    | some found =>
      obtain ⟨text, hfound⟩ := (hread found).mp hat
      exact iff_of_true rfl ⟨text, found, hfound⟩
  case h_15 =>
    show d.deadline.bind (fun deadline => deadline.timezone) = some value ↔ _
    rw [hdeadline, hvalue]
    cases hat : deadlineAt with
    | none =>
      refine iff_of_false (by rintro ⟨⟩) ?_
      rintro ⟨⟨text, found, hfound⟩, -⟩
      exact absurd ((hread found).mpr ⟨text, hfound⟩) (by rw [hat]; rintro ⟨⟩)
    | some found =>
      obtain ⟨text, hfound⟩ := (hread found).mp hat
      show value.nonNull = some value ↔ _ ∧ value ≠ .null
      rw [and_iff_right ⟨text, found, hfound⟩]
      cases value <;> simp [Json.nonNull]
  case h_16 =>
    refine iff_of_false ?_ ?_
    · simp [FactsDict.value, *]
    · simp [InBuilderForm, *]

/-! ## The deadline -/

/-- What is read of the deadline of a facts object. -/
lemma deriveFacts_deadline {items : List (String × Json)} {deadlineAt : Option DateTime}
    (h : safeDeadlineAt py (items.lookup "deadline_at") = .ok deadlineAt) :
    ∃ f, deriveFacts py (.obj items) = .ok f ∧
      f.deadline = ⟨deadlineAt, clampPrecision (items.lookup "deadline_precision"),
        stringOrNone (items.lookup "deadline_timezone")⟩ := by
  simp only [deriveFacts, Json.get, bind, Except.bind, h]
  exact ⟨_, rfl, rfl⟩

/-- What is read of it once it is stored again. -/
lemma Built.deadline_stored {items : List (String × Json)} {deadlineAt : Option DateTime}
    {changes : UpdateCycleRequest} (hchanges : changes.LeavesDeadline) {d : FactsDict}
    (h : Built py countries ((storedInputs items deadlineAt).update changes) d)
    (hback : ∀ found ∈ deadlineAt, py.ReadsBack found) :
    ∃ f, deriveFacts py d.toJson = .ok f ∧ f.deadline = ⟨deadlineAt,
      clampPrecision (deadlineAt.map fun _ =>
        (items.lookup "deadline_precision").getD (.str "date")),
      deadlineAt.bind fun _ => stringOrNone (items.lookup "deadline_timezone")⟩ := by
  have hdeadline := h.deadline
  simp only [CycleInputs.update, Change.orStored_of_not_named hchanges.deadline,
    Change.orStoredJson_of_not_named hchanges.precision,
    Change.orStoredJson_of_not_named hchanges.timezone, storedInputs] at hdeadline
  have hlookup : ∀ key, d.items.lookup key = d.value key := fun key =>
    Except.ok.inj (FactsDict.get_toJson d key)
  have hread : safeDeadlineAt py (d.items.lookup "deadline_at") = .ok deadlineAt := by
    rw [hlookup]
    show safeDeadlineAt py (d.deadline.map fun deadline => Json.str deadline.text) = _
    rw [hdeadline]
    cases deadlineAt with
    | none => rfl
    | some found =>
      have hfound := hback found rfl
      simp [safeDeadlineAt, hfound.text, hfound.read]
  obtain ⟨f, hf, heq⟩ := deriveFacts_deadline hread
  refine ⟨f, hf, ?_⟩
  rw [heq, hlookup, hlookup]
  simp only [FactsDict.value, hdeadline]
  cases deadlineAt with
  | none => rfl
  | some found =>
    have hzone : ∀ value : Option Json,
        stringOrNone (value.getD .null).nonNull = stringOrNone value := by
      intro value
      rcases value with _ | value
      · rfl
      · cases value <;> rfl
    exact congrArg (Deadline.mk _ _) (hzone _)

/-! ## The result -/

lemma UpdateCycleRequest.LeavesDeadline.touches {changes : UpdateCycleRequest}
    (h : changes.LeavesDeadline) : changes.touches false "deadline_precision" = false ∧
      changes.touches false "deadline_timezone" = false := by
  have htoggles : changes.togglesDeadline false = false := by
    unfold UpdateCycleRequest.togglesDeadline
    have hat := h.deadline
    cases hc : changes.deadlineAt with
    | omitted => rfl
    | null => rfl
    | value d =>
      rw [hc] at hat
      cases hat
  constructor
  · show (changes.deadlinePrecision.named || changes.togglesDeadline false) = false
    rw [h.precision, htoggles]
    rfl
  · show (changes.deadlineTimezone.named || changes.togglesDeadline false) = false
    rw [h.timezone, htoggles]
    rfl

/-- An accepted correction that names no field of the deadline leaves alone what it does not name
exactly if that is stored as the builder stores it. -/
theorem leavesUnnamed_iff (hpy : py.TextLaws)
    (hback : ∀ text deadlineAt, py.fromisoformat text = .ok deadlineAt → py.ReadsBack deadlineAt)
    {scholarshipId : ScholarshipId} {cycleId : CycleId} {changes : UpdateCycleRequest}
    (hchanges : changes.LeavesDeadline) {db db' : Db} {row row' : ScholarshipCycle}
    (hrow : db.cycles.row cycleId = some row) {items : List (String × Json)}
    (hfacts : row.facts = .obj items)
    (hroute : updateCycleRoute py countries scholarshipId cycleId changes db = .ok db')
    (hrow' : db'.cycles.row cycleId = some row') :
    LeavesUnnamed py changes items row'.facts ↔ StoredAsBuilt py countries changes items := by
  obtain ⟨stored, inputs, hstored, hinputs, hbuild⟩ := updateCycleRoute_facts hroute hrow
  obtain rfl := Option.some.inj (hstored.symm.trans hrow')
  have hempty : row.facts.orEmpty = .obj items := by
    rw [hfacts]
    cases items <;> rfl
  rw [hempty] at hinputs
  obtain ⟨deadlineAt, hparse, rfl⟩ := cycleFactsToInputs_obj hinputs
  obtain ⟨d, hbuilt, hd⟩ := buildCycleFacts_eq_ok_iff.mp hbuild
  obtain ⟨hsafe, hread⟩ := parseStoredDeadline_ok hparse
  have hbackAt : ∀ found ∈ deadlineAt, py.ReadsBack found := by
    intro found hfound
    obtain ⟨text, -, -, htext⟩ := (hread found).mp hfound
    exact hback text found htext
  obtain ⟨f, hf, hbefore⟩ := deriveFacts_deadline hsafe
  obtain ⟨f', hf', hafter⟩ := hbuilt.deadline_stored hchanges hbackAt
  have hkept : ∀ key value, items.lookup key = some value → changes.touches false key = false →
      (d.value key = some value ↔ InBuilderForm py countries items value key) :=
    fun _ _ hvalue hkey => value_kept_iff hpy hparse hchanges hbuilt hvalue hkey
  obtain ⟨hprecision, htimezone⟩ := hchanges.touches
  rw [hd]
  constructor
  · rintro ⟨⟨g, g', hg, hg', hsame⟩, hkeeps⟩
    obtain rfl := Except.ok.inj (hg.symm.trans hf)
    obtain rfl := Except.ok.inj (hg'.symm.trans hf')
    refine ⟨fun key value hvalue hkey => ?_, ?_⟩
    · have hget := hkeeps key value hvalue hkey
      rw [FactsDict.get_toJson] at hget
      exact (hkept key value hvalue hkey).mp (Except.ok.inj hget)
    · rintro ⟨text, found, hfound⟩
      have hat : deadlineAt = some found := (hread found).mpr ⟨text, hfound⟩
      rw [hbefore, hafter, hat, Deadline.mk.injEq] at hsame
      -- a deadline without its precision would be stored as a date
      cases hstored : items.lookup "deadline_precision" with
      | some value => rfl
      | none =>
        rw [hstored] at hsame
        cases hsame.2.1
  · rintro ⟨hvalues, hcarries⟩
    refine ⟨⟨f, f', hf, hf', ?_⟩, fun key value hvalue hkey => ?_⟩
    · rw [hbefore, hafter, Deadline.mk.injEq]
      cases hat : deadlineAt with
      | some found =>
        have hsome := hcarries (((hread found).mp hat).imp fun text htext => ⟨found, htext⟩)
        obtain ⟨value, hvalue⟩ := Option.isSome_iff_exists.mp hsome
        rw [hvalue]
        exact ⟨rfl, rfl, rfl⟩
      | none =>
        have hnone : ¬ ∃ text found, HasDeadline py items text found := by
          rintro ⟨text, found, hfound⟩
          have hsome := (hread found).mpr ⟨text, hfound⟩
          rw [hat] at hsome
          cases hsome
        have hnoPrecision : items.lookup "deadline_precision" = none := by
          by_contra hsome
          obtain ⟨value, hvalue⟩ := Option.ne_none_iff_exists'.mp hsome
          exact hnone (hvalues _ value hvalue hprecision)
        have hnoTimezone : items.lookup "deadline_timezone" = none := by
          by_contra hsome
          obtain ⟨value, hvalue⟩ := Option.ne_none_iff_exists'.mp hsome
          exact hnone (hvalues _ value hvalue htimezone).1
        rw [hnoPrecision, hnoTimezone]
        exact ⟨rfl, rfl, rfl⟩
    · rw [FactsDict.get_toJson]
      exact congrArg Except.ok ((hkept key value hvalue hkey).mpr (hvalues key value hvalue hkey))

/-! ## Two edits of a note -/

namespace Sample

/-- A reviewer adds a note. -/
def addNote : UpdateCycleRequest where
  eligibilityNote := .value "Open to all."

def factItems : List (String × Json) := [
  ("destinations", strings ["DE"]),
  ("levels", strings ["masters"]),
  ("origin_mode", .str "unknown"),
  ("origins", strings []),
  ("field_mode", .str "unknown"),
  ("fields", strings []),
  ("evidence_fresh", .bool true)]

/-- Facts stored before `deadline_precision` existed, with what the taxonomy migration adds. -/
def legacyItems : List (String × Json) := factItems ++ [
  ("deadline_at", .str deadlineText),
  ("legacy_fields", strings ["software"]),
  ("field_taxonomy_version", .str "2026-07")]

def legacyCycle : ScholarshipCycle := { cycle with facts := .obj legacyItems }

lemma storedAsBuilt_factItems :
    StoredAsBuilt datedPy Sample.countries addNote factItems where
  values := by
    intro key value hvalue _
    obtain ⟨before, after, hitems, -⟩ := List.lookup_eq_some_iff.mp hvalue
    have hmem : (key, value) ∈ factItems := by
      rw [hitems]
      simp
    simp only [factItems, List.mem_cons, List.not_mem_nil, or_false, Prod.mk.injEq] at hmem
    rcases hmem with ⟨rfl, rfl⟩ | ⟨rfl, rfl⟩ | ⟨rfl, rfl⟩ | ⟨rfl, rfl⟩ | ⟨rfl, rfl⟩ |
      ⟨rfl, rfl⟩ | ⟨rfl, rfl⟩
    · exact ⟨["DE"], rfl, by simp, by decide⟩
    · exact ⟨["masters"], rfl, by simp, by decide⟩
    · trivial
    · exact ⟨[], rfl, .nil, by simp⟩
    · trivial
    · exact ⟨[], rfl, .nil, by simp⟩
    · exact ⟨true, rfl⟩
  precision := by
    rintro ⟨text, found, hfound, -⟩
    cases hfound

end Sample

/-- A note added to a deadline without a precision turns the instant into a date, and drops the
fields that the migration kept. -/
theorem note_changes_deadline : ∃ db' row' f f',
    updateCycleRoute Sample.datedPy Sample.countries 1 1 Sample.addNote
      (Sample.db Sample.legacyCycle) = .ok db' ∧
    db'.cycles.row 1 = some row' ∧
    deriveFacts Sample.datedPy Sample.legacyCycle.facts = .ok f ∧
    deriveFacts Sample.datedPy row'.facts = .ok f' ∧
    f.deadline.precision = .datetime ∧ f'.deadline.precision = .date ∧
    row'.facts.get "legacy_fields" = .ok none ∧
    ¬ LeavesUnnamed Sample.datedPy Sample.addNote Sample.legacyItems row'.facts := by
  refine ⟨_, _, _, _, rfl, rfl, rfl, rfl, rfl, rfl, rfl, ?_⟩
  rintro ⟨-, hkept⟩
  have hlegacy := hkept "legacy_fields" _ rfl rfl
  cases hlegacy

/-- The same note leaves alone what a publication stored. -/
theorem leavesUnnamed_note : ∃ db' row',
    updateCycleRoute Sample.datedPy Sample.countries 1 1 Sample.addNote
      (Sample.db Sample.cycle) = .ok db' ∧
    db'.cycles.row 1 = some row' ∧
    LeavesUnnamed Sample.datedPy Sample.addNote Sample.factItems row'.facts := by
  refine ⟨_, _, rfl, rfl, ?_⟩
  refine (leavesUnnamed_iff Sample.textLaws Sample.readsBack ⟨rfl, rfl, rfl⟩
    (show (Sample.db Sample.cycle).cycles.row 1 = some Sample.cycle from rfl) rfl
    (show updateCycleRoute Sample.datedPy Sample.countries 1 1 Sample.addNote
      (Sample.db Sample.cycle) = .ok _ from rfl) rfl).mpr Sample.storedAsBuilt_factItems

end ScholarshipFinder
