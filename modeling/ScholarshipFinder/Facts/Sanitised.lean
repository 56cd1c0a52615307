import ScholarshipFinder.Facts.Dict
import ScholarshipFinder.Sample

/-!
# Reading back what was published

`derive_facts` sanitises the facts of a cycle on every read.  On what the builder wrote it
loses nothing (`publish_then_read`), and on any other JSON object one pass of it is enough:
what it has sanitised once it leaves alone.
-/

namespace ScholarshipFinder

variable {py : Py} {countries : CountryVocabulary}

/-! ## The dict of sanitised facts -/

/-- The dict that a sanitised cycle shows. -/
def DerivedFacts.dict (py : Py) (f : DerivedFacts) : FactsDict where
  destinations := f.destinations
  levels := f.degreeLevels
  originMode := .str f.originMode.value
  origins := f.origins
  fieldMode := .str f.fieldMode.value
  fields := f.fields
  evidenceFresh := .bool f.evidenceFresh
  eligibilityNote := f.eligibilityNote.map .str
  expectedReopenMonth := f.expectedReopenMonth.map fun month : ℕ => .int month
  fieldNames := f.fieldNames
  programmeNames := f.programmeNames
  fundingType := f.fundingType
  deadline := f.deadlineAt.map fun deadlineAt =>
    ⟨py.isoformat deadlineAt, .str f.deadlinePrecision.value, f.deadlineTimezone.map .str⟩

lemma sanitizedDict_eq (f : DerivedFacts) : f.sanitizedDict py = (f.dict py).toJson := by
  cases hdeadline : f.deadlineAt <;>
    simp [DerivedFacts.sanitizedDict, DerivedFacts.dict, FactsDict.toJson, FactsDict.items,
      entry, hdeadline]

variable (py) in
/-- Facts that a sanitisation pass has nothing to do to. -/
structure Clean (d : FactsDict) : Prop where
  destinations : d.destinations.Pairwise (· < ·)
  levels : (taxonomy.normalizeDegrees py d.levels).1 = d.levels
  originMode : ∃ mode : OriginMode, d.originMode = .str mode.value
  fieldMode : ∃ mode : FieldMode, d.fieldMode = .str mode.value
  fields : (taxonomy.normalizeFields py d.fields).1 = d.fields
  evidenceFresh : ∃ fresh, d.evidenceFresh = .bool fresh
  eligibilityNote : ∀ v ∈ d.eligibilityNote, ∃ note, v = .str note ∧ note ≠ ""
  expectedReopenMonth : ∀ v ∈ d.expectedReopenMonth, ∃ month : ℕ,
    v = .int month ∧ 1 ≤ month ∧ month ≤ 12
  fieldNames : d.fieldNames = sortedSet (fieldLabels d.fields)
  fundingType : ∀ c ∈ d.fundingType, taxonomy.fundingType py c = .ok c
  deadline : ∀ stored ∈ d.deadline, ∃ (deadlineAt : DateTime) (precision : DeadlinePrecision)
    (timezone : Option String), py.ReadsBack deadlineAt ∧
      stored = ⟨py.isoformat deadlineAt, .str precision.value, timezone.map .str⟩

lemma stringList_strings (xs : List String) : stringList (some (strings xs)) = xs := by
  show (xs.map Json.str).filterMap _ = xs
  rw [List.filterMap_map]
  exact List.filterMap_some

/-- A list that is only stored when it is not empty is read back as it was. -/
lemma stringList_stored (xs : List String) :
    stringList (if xs = [] then none else some (strings xs)) = xs := by
  by_cases h : xs = []
  · rw [if_pos h, h]
    rfl
  · rw [if_neg h, stringList_strings]

lemma destinationStrings_strings (xs : List String) :
    destinationStrings py (some (strings xs)) = sortedSet xs := by
  show sortedSet ((xs.map Json.str).map py.strOf) = sortedSet xs
  rw [List.map_map]
  exact congrArg sortedSet (List.map_id xs)

/-- `raw_evidence_fresh if isinstance(raw_evidence_fresh, bool) else False` -/
def clampBool : Json → Bool
  | .bool b => b
  | _ => false

/-- What `derive_facts` reads out of a dict of this shape, next to the deadline itself. -/
def FactsDict.read (py : Py) (d : FactsDict) (deadlineAt : Option DateTime) : DerivedFacts where
  deadlineAt := deadlineAt
  deadlinePrecision := clampPrecision (d.value "deadline_precision")
  deadlineTimezone := stringOrNone (d.value "deadline_timezone")
  degreeLevels := (taxonomy.normalizeDegrees py d.levels).1
  expectedReopenMonth := clampMonth d.expectedReopenMonth
  fundingType := d.fundingType.bind fun s => (taxonomy.fundingType py s).toOption
  destinations := sortedSet d.destinations
  eligibilityNote := (stringOrNone d.eligibilityNote).filter (· ≠ "")
  fieldNames := sortedSet (fieldLabels (taxonomy.normalizeFields py d.fields).1)
  programmeNames := d.programmeNames
  originMode := clampOriginMode d.originMode
  origins := d.origins
  fieldMode := clampFieldMode d.fieldMode
  fields := (taxonomy.normalizeFields py d.fields).1
  evidenceFresh := clampBool d.evidenceFresh

theorem deriveFacts_toJson (d : FactsDict) :
    deriveFacts py d.toJson = (safeDeadlineAt py (d.value "deadline_at")).map (d.read py) := by
  have hfunding : stringOrNone (d.fundingType.map Json.str) = d.fundingType := by
    cases d.fundingType <;> rfl
  simp only [deriveFacts, FactsDict.get_toJson, bind, Except.bind]
  cases safeDeadlineAt py (d.value "deadline_at") with
  | error e => rfl
  | ok deadlineAt =>
    simp only [FactsDict.value, FactsDict.read, fieldLabels, Except.map, pure, Except.pure,
      stringList_strings, stringList_stored, destinationStrings_strings, hfunding]
    cases d.evidenceFresh <;> rfl

/-- The deadline keys, read back together. -/
lemma Clean.readDeadline {d : FactsDict} (h : Clean py d) :
    ∃ deadlineAt, safeDeadlineAt py (d.value "deadline_at") = .ok deadlineAt ∧
      ((d.read py deadlineAt).dict py).deadline = d.deadline := by
  cases hdeadline : d.deadline with
  | none => exact ⟨none, by simp [FactsDict.value, hdeadline, safeDeadlineAt], rfl⟩
  | some stored =>
    obtain ⟨deadlineAt, precision, timezone, hback, rfl⟩ := h.deadline stored hdeadline
    refine ⟨some deadlineAt, ?_, ?_⟩
    · simp [FactsDict.value, hdeadline, safeDeadlineAt, hback.text, hback.read]
    · have hprecision : clampPrecision (some (.str precision.value)) = precision := by
        cases precision <;> rfl
      have htimezone : stringOrNone (timezone.map Json.str) = timezone := by
        cases timezone <;> rfl
      simp [DerivedFacts.dict, FactsDict.read, FactsDict.value, hdeadline, hprecision, htimezone]

/-- A sanitisation pass leaves clean facts as they are. -/
theorem Clean.deriveFacts {d : FactsDict} (h : Clean py d) :
    ∃ f, deriveFacts py d.toJson = .ok f ∧ f.dict py = d := by
  obtain ⟨deadlineAt, hat, hdeadline⟩ := h.readDeadline
  refine ⟨d.read py deadlineAt, by rw [deriveFacts_toJson, hat]; rfl, ?_⟩
  have horigin : Json.str (clampOriginMode d.originMode).value = d.originMode := by
    obtain ⟨mode, hmode⟩ := h.originMode
    rw [hmode]
    cases mode <;> rfl
  have hfield : Json.str (clampFieldMode d.fieldMode).value = d.fieldMode := by
    obtain ⟨mode, hmode⟩ := h.fieldMode
    rw [hmode]
    cases mode <;> rfl
  have hfresh : Json.bool (clampBool d.evidenceFresh) = d.evidenceFresh := by
    obtain ⟨fresh, hfresh⟩ := h.evidenceFresh
    rw [hfresh]
    rfl
  have hnote : ((stringOrNone d.eligibilityNote).filter (· ≠ "")).map Json.str =
      d.eligibilityNote := by
    cases hd : d.eligibilityNote with
    | none => rfl
    | some v =>
      obtain ⟨note, rfl, hne⟩ := h.eligibilityNote v hd
      simp [stringOrNone, Option.filter, hne]
  have hmonth : (clampMonth d.expectedReopenMonth).map (fun month : ℕ => Json.int month) =
      d.expectedReopenMonth := by
    cases hd : d.expectedReopenMonth with
    | none => rfl
    | some v =>
      obtain ⟨month, rfl, hlow, hhigh⟩ := h.expectedReopenMonth v hd
      have hrange : (1 : ℤ) ≤ month ∧ (month : ℤ) ≤ 12 := by omega
      simp [clampMonth, hrange]
  have hfunding : (d.fundingType.bind fun s => (taxonomy.fundingType py s).toOption) =
      d.fundingType := by
    cases hd : d.fundingType with
    | none => rfl
    | some c => simp [h.fundingType c hd, Except.toOption]
  have hread : (d.read py deadlineAt).dict py = { d with
      deadline := ((d.read py deadlineAt).dict py).deadline } := by
    simp only [DerivedFacts.dict, FactsDict.read, horigin, hfield, hfresh, hnote, hmonth, hfunding,
      h.levels, h.fields, ← h.fieldNames, sortedSet_eq_self h.destinations]
  rw [hread, hdeadline]

/-! ## What has been sanitised is clean -/

/-- What a sanitisation pass promises of its result, for any JSON object. -/
structure Sanitised (py : Py) (f : DerivedFacts) : Prop where
  destinations : f.destinations.Pairwise (· < ·)
  levels : ∃ values, f.degreeLevels = (taxonomy.normalizeDegrees py values).1
  fields : ∃ values, f.fields = (taxonomy.normalizeFields py values).1
  fieldNames : f.fieldNames = sortedSet (fieldLabels f.fields)
  eligibilityNote : ∀ note ∈ f.eligibilityNote, note ≠ ""
  expectedReopenMonth : ∀ month ∈ f.expectedReopenMonth, 1 ≤ month ∧ month ≤ 12
  fundingType : ∀ c ∈ f.fundingType, ∃ s, taxonomy.fundingType py s = .ok c
  deadlineAt : ∀ d ∈ f.deadlineAt, ∃ s, py.fromisoformat s = .ok d

lemma destinationStrings_pairwise (value : Option Json) :
    (destinationStrings py value).Pairwise (· < ·) := by
  unfold destinationStrings
  split
  · exact pairwise_sortedSet _
  · exact List.Pairwise.nil

lemma clampMonth_range {value : Option Json} {month : ℕ} (h : clampMonth value = some month) :
    1 ≤ month ∧ month ≤ 12 := by
  unfold clampMonth at h
  split at h
  · next n =>
    split at h
    · next hrange =>
      have hn : n.toNat = month := Option.some.inj h
      omega
    · cases h
  · cases h

lemma safeDeadlineAt_read {value : Option Json} {deadlineAt : Option DateTime}
    (h : safeDeadlineAt py value = .ok deadlineAt) :
    ∀ d ∈ deadlineAt, ∃ s, py.fromisoformat s = .ok d := by
  rintro d rfl
  unfold safeDeadlineAt at h
  split at h
  · next s =>
    split at h
    · cases h
    · split at h
      · next d' hread =>
        have hd : d' = d := Option.some.inj (Except.ok.inj h)
        exact ⟨s, hd ▸ hread⟩
      · split at h <;> cases h
  · cases h

theorem deriveFacts_sanitised {facts : Json} {f : DerivedFacts}
    (h : deriveFacts py facts = .ok f) : Sanitised py f := by
  rw [deriveFacts] at h
  obtain ⟨rawDeadline, -, h⟩ := exceptBind_ok h
  obtain ⟨deadlineAt, hdeadline, h⟩ := exceptBind_ok h
  obtain ⟨precision, -, h⟩ := exceptBind_ok h
  obtain ⟨month, -, h⟩ := exceptBind_ok h
  obtain ⟨fundingType, -, h⟩ := exceptBind_ok h
  obtain ⟨destinations, -, h⟩ := exceptBind_ok h
  obtain ⟨note, -, h⟩ := exceptBind_ok h
  obtain ⟨timezone, -, h⟩ := exceptBind_ok h
  obtain ⟨originMode, -, h⟩ := exceptBind_ok h
  obtain ⟨fieldMode, -, h⟩ := exceptBind_ok h
  obtain ⟨evidenceFresh, -, h⟩ := exceptBind_ok h
  obtain ⟨fields, -, h⟩ := exceptBind_ok h
  obtain ⟨levels, -, h⟩ := exceptBind_ok h
  obtain ⟨programmeNames, -, h⟩ := exceptBind_ok h
  obtain ⟨origins, -, h⟩ := exceptBind_ok h
  have hf := (Except.ok.inj h).symm
  subst hf
  refine ⟨destinationStrings_pairwise _, ⟨_, rfl⟩, ⟨_, rfl⟩, rfl, ?_, ?_, ?_,
    safeDeadlineAt_read hdeadline⟩
  · intro n hn
    have hfilter := (Option.filter_eq_some_iff.mp hn).2
    simpa using hfilter
  · exact fun m hm => clampMonth_range hm
  · intro c hc
    obtain ⟨s, -, hs⟩ := Option.bind_eq_some_iff.mp hc
    refine ⟨s, ?_⟩
    cases hr : taxonomy.fundingType py s with
    | error e => simp [hr, Except.toOption] at hs
    | ok code =>
      have hcode : code = c := by simpa [hr, Except.toOption] using hs
      rw [hcode]

/-- The codes that a pass has kept stand for themselves in the next one. -/
theorem Sanitised.clean {f : DerivedFacts} (h : Sanitised py f) (hpy : py.TextLaws)
    (hback : ∀ s d, py.fromisoformat s = .ok d → py.ReadsBack d) : Clean py (f.dict py) := by
  obtain ⟨levels, hlevels⟩ := h.levels
  obtain ⟨fields, hfields⟩ := h.fields
  obtain ⟨hlsorted, hlfound⟩ := normalizeCodes_spec levels (taxonomy.degree py)
  obtain ⟨hfsorted, hffound⟩ := normalizeCodes_spec fields (taxonomy.field py)
  have hlfixed : ∀ c ∈ (taxonomy.normalizeDegrees py levels).1, taxonomy.degree py c = .ok c := by
    intro c hc
    obtain ⟨v, hv⟩ := hlfound c hc
    exact taxonomy_degree_fixed hpy hv
  have hffixed : ∀ c ∈ (taxonomy.normalizeFields py fields).1, taxonomy.field py c = .ok c := by
    intro c hc
    obtain ⟨v, hv⟩ := hffound c hc
    exact taxonomy_field_fixed hpy hv
  refine ⟨h.destinations, ?_, ⟨_, rfl⟩, ⟨_, rfl⟩, ?_, ⟨_, rfl⟩, ?_, ?_, h.fieldNames, ?_, ?_⟩
  · show (taxonomy.normalizeDegrees py f.degreeLevels).1 = f.degreeLevels
    rw [hlevels]
    exact normalizeCodes_eq_self hlsorted hlfixed
  · show (taxonomy.normalizeFields py f.fields).1 = f.fields
    rw [hfields]
    exact normalizeCodes_eq_self hfsorted hffixed
  · intro v hv
    obtain ⟨note, hnote, rfl⟩ := Option.map_eq_some_iff.mp hv
    exact ⟨note, rfl, h.eligibilityNote note hnote⟩
  · intro v hv
    obtain ⟨month, hmonth, rfl⟩ := Option.map_eq_some_iff.mp hv
    exact ⟨month, rfl, h.expectedReopenMonth month hmonth⟩
  · intro c hc
    obtain ⟨s, hs⟩ := h.fundingType c hc
    exact taxonomy_fundingType_fixed hpy hs
  · intro stored hstored
    obtain ⟨d, hd, rfl⟩ := Option.map_eq_some_iff.mp hstored
    obtain ⟨s, hs⟩ := h.deadlineAt d hd
    exact ⟨d, f.deadlinePrecision, f.deadlineTimezone, hback s d hs, rfl⟩

/-! ## What has been published is clean -/

/-- A calendar month, January being 1. -/
abbrev Month := {month : ℕ // 1 ≤ month ∧ month ≤ 12}

/-- The arguments of `build_cycle_facts`, of the types that its signature and the contract
declare. -/
structure CycleArguments where
  destinations : List String
  levels : List String
  originMode : OriginMode
  origins : List String
  fieldMode : FieldMode
  fields : List String
  evidenceFresh : Bool
  deadlineAt : Option DateTime
  deadlinePrecision : DeadlinePrecision
  deadlineTimezone : Option String
  eligibilityNote : Option String
  expectedReopenMonth : Option Month
  fieldNames : Option (List String)
  programmeNames : Option (List String)
  fundingType : Option String

/-- An optional string, with `None` as `null`. -/
def textOrNull (text : Option String) : Json := (text.map .str).getD .null

def CycleArguments.toInputs (a : CycleArguments) : CycleInputs where
  destinations := some a.destinations
  levels := some a.levels
  originMode := .str a.originMode.value
  origins := some a.origins
  fieldMode := .str a.fieldMode.value
  fields := some a.fields
  evidenceFresh := .bool a.evidenceFresh
  deadlineAt := a.deadlineAt
  deadlinePrecision := .str a.deadlinePrecision.value
  deadlineTimezone := textOrNull a.deadlineTimezone
  eligibilityNote := textOrNull a.eligibilityNote
  expectedReopenMonth := (a.expectedReopenMonth.map fun month : Month => .int month.val).getD .null
  fieldNames := a.fieldNames.getD []
  programmeNames := a.programmeNames
  fundingType := textOrNull a.fundingType

/-- The codes of a set are in order, and each of them was found for some value. -/
lemma codeSet_spec {f : String → Except PyErr String} {values : Option (List String)}
    {codes : List String} (h : codeSet f values = .ok codes) :
    codes.Pairwise (· < ·) ∧ ∀ c ∈ codes, ∃ v, f v = .ok c := by
  cases values with
  | none => cases h
  | some values =>
    obtain ⟨found, hfound, h⟩ := exceptBind_ok h
    have hset : sortedSet found = codes := Except.ok.inj h
    subst hset
    refine ⟨pairwise_sortedSet found, fun c hc => ?_⟩
    obtain ⟨v, -, hv⟩ := mem_of_mapM_ok hfound (mem_sortedSet.mp hc)
    exact ⟨v, hv⟩

/-- The labels of canonical codes are in order, as their codes are. -/
lemma fieldLabels_pairwise {fields : List String} (h : fields.Pairwise (· < ·)) :
    (fieldLabels fields).Pairwise (· < ·) := by
  rw [fieldLabels, List.pairwise_filterMap]
  refine h.imp fun {c d} hlt label hlabel label' hlabel' => ?_
  exact taxonomy_labels_lt (c, label) (Dict.mem_of_lookup hlabel) (d, label')
    (Dict.mem_of_lookup hlabel') hlt

lemma textOrNull_nonNull (text : Option String) :
    (textOrNull text).nonNull = text.map .str := by
  cases text <;> rfl

/-- A text is only stored when it is not empty. -/
lemma textOrNull_ifTruthy {text : Option String} {v : Json}
    (h : (textOrNull text).ifTruthy = some v) : ∃ s, v = .str s ∧ s ≠ "" := by
  cases text with
  | none => cases h
  | some s =>
    by_cases hs : s = ""
    · rw [hs] at h
      cases h
    · have htruthy : (textOrNull (some s)).truthy = true := by simp [textOrNull, Json.truthy, hs]
      rw [Json.ifTruthy, if_pos htruthy] at h
      exact ⟨s, (Option.some.inj h).symm, hs⟩

/-- What the builder makes of arguments of the declared types is clean. -/
theorem Built.clean {a : CycleArguments} {d : FactsDict} (h : Built py countries a.toInputs d)
    (hpy : py.TextLaws) (hback : ∀ deadlineAt ∈ a.deadlineAt, py.ReadsBack deadlineAt) :
    Clean py d := by
  obtain ⟨hdsorted, -⟩ := codeSet_spec h.destinations
  obtain ⟨hlsorted, hlfound⟩ := codeSet_spec h.levels
  obtain ⟨hfsorted, hffound⟩ := codeSet_spec h.fields
  have hlfixed : ∀ c ∈ d.levels, taxonomy.degree py c = .ok c := by
    intro c hc
    obtain ⟨v, hv⟩ := hlfound c hc
    exact taxonomy_degree_fixed hpy hv
  have hffixed : ∀ c ∈ d.fields, taxonomy.field py c = .ok c := by
    intro c hc
    obtain ⟨v, hv⟩ := hffound c hc
    exact taxonomy_field_fixed hpy hv
  refine ⟨hdsorted, normalizeCodes_eq_self hlsorted hlfixed, ⟨_, h.originMode⟩, ⟨_, h.fieldMode⟩,
    normalizeCodes_eq_self hfsorted hffixed, ⟨_, h.evidenceFresh⟩, ?_, ?_, ?_, ?_, ?_⟩
  · intro v hv
    rw [h.eligibilityNote] at hv
    exact textOrNull_ifTruthy hv
  · intro v hv
    rw [h.expectedReopenMonth] at hv
    have hmonth : a.toInputs.expectedReopenMonth =
        (a.expectedReopenMonth.map fun month : Month => Json.int month.val).getD .null := rfl
    rw [hmonth] at hv
    cases hm : a.expectedReopenMonth with
    | none =>
      rw [hm] at hv
      cases hv
    | some month =>
      rw [hm] at hv
      exact ⟨month.val, (Option.some.inj hv).symm, month.property⟩
  · rw [h.fieldNames]
    exact (sortedSet_eq_self (fieldLabels_pairwise hfsorted)).symm
  · intro c hc
    obtain ⟨code, hentry, hfound⟩ := checkFundingType_ok h.funding
    have hcode : d.fundingType = code := by
      rw [hc] at hentry ⊢
      cases code with
      | none => cases hentry
      | some code => simpa [entry] using hentry
    obtain ⟨s, hs⟩ := hfound c (hcode ▸ hc)
    exact taxonomy_fundingType_fixed hpy hs
  · intro stored hstored
    rw [h.deadline] at hstored
    obtain ⟨deadlineAt, hat, rfl⟩ := Option.map_eq_some_iff.mp hstored
    refine ⟨deadlineAt, a.deadlinePrecision, a.deadlineTimezone, hback deadlineAt hat, ?_⟩
    show StoredDeadline.mk _ _ (textOrNull a.deadlineTimezone).nonNull = _
    rw [textOrNull_nonNull]
    rfl

/-! ## The result -/

/-- Publish then read loses nothing, and reading is idempotent.  `fromisoformat` is relied on
to read what `isoformat` writes. -/
theorem publish_then_read (hpy : py.TextLaws)
    (hback : ∀ s d, py.fromisoformat s = .ok d → py.ReadsBack d) :
    (∀ (countries : CountryVocabulary) (a : CycleArguments) (F : Json),
      (∀ deadlineAt ∈ a.deadlineAt, py.ReadsBack deadlineAt) →
      buildCycleFacts py countries a.toInputs = .ok F →
        ∃ f, deriveFacts py F = .ok f ∧ f.sanitizedDict py = F) ∧
    ∀ (facts : Json) (f : DerivedFacts), deriveFacts py facts = .ok f →
      ∃ f', deriveFacts py (f.sanitizedDict py) = .ok f' ∧
        f'.sanitizedDict py = f.sanitizedDict py := by
  constructor
  · intro countries a F hdeadline hbuild
    obtain ⟨d, hbuilt, rfl⟩ := buildCycleFacts_eq_ok_iff.mp hbuild
    obtain ⟨f, hderive, hdict⟩ := (hbuilt.clean hpy hdeadline).deriveFacts
    exact ⟨f, hderive, by rw [sanitizedDict_eq, hdict]⟩
  · intro facts f hf
    have hclean : Clean py (f.dict py) := (deriveFacts_sanitised hf).clean hpy hback
    obtain ⟨f', hderive, hdict⟩ := hclean.deriveFacts
    rw [sanitizedDict_eq]
    exact ⟨f', hderive, by rw [sanitizedDict_eq, hdict]⟩

namespace Sample

/-- A master's programme in Germany, with a deadline. -/
def arguments : CycleArguments where
  destinations := ["DE"]
  levels := ["masters"]
  originMode := .unknown
  origins := []
  fieldMode := .restricted
  fields := ["technology", "cs", "law"]
  evidenceFresh := true
  deadlineAt := some deadline
  deadlinePrecision := .datetime
  deadlineTimezone := none
  eligibilityNote := some "Not for UK nationals"
  expectedReopenMonth := some ⟨6, by decide⟩
  fieldNames := none
  programmeNames := some ["Robotics"]
  fundingType := some "fully_funded"

/-- The facts that are published for it. -/
def published : Json := .obj [
  ("destinations", strings ["DE"]),
  ("levels", strings ["masters"]),
  ("origin_mode", .str "unknown"),
  ("origins", strings []),
  ("field_mode", .str "restricted"),
  ("fields", strings ["law", "technology"]),
  ("evidence_fresh", .bool true),
  ("eligibility_note", .str "Not for UK nationals"),
  ("expected_reopen_month", .int 6),
  ("field_names", strings ["Law", "Technology"]),
  ("programme_names", strings ["Robotics"]),
  ("funding_type", .str "fully_funded"),
  ("deadline_at", .str deadlineText),
  ("deadline_precision", .str "datetime")]

lemma published_eq : buildCycleFacts datedPy Sample.countries arguments.toInputs = .ok published := by
  rfl

end Sample

/-- A publication with most of the optional parts reads back as it was stored. -/
theorem publish_then_read_sample :
    ∃ f, deriveFacts Sample.datedPy Sample.published = .ok f ∧
      f.sanitizedDict Sample.datedPy = Sample.published := by
  have hlaws := publish_then_read Sample.textLaws Sample.readsBack
  refine hlaws.1 Sample.countries Sample.arguments Sample.published ?_ Sample.published_eq
  rintro deadlineAt ⟨⟩
  exact Sample.readsBack_deadline

end ScholarshipFinder
