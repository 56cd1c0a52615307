import ScholarshipFinder.Publishing.EditChecks
import ScholarshipFinder.Publishing.Publishable

/-!
# What a correction writes

The arguments that a correction builds the facts of are those of a publication, as long as nothing
is nulled that a publication requires; and then the row is one that a publication could have
written.  Otherwise it is not.
-/

namespace ScholarshipFinder

open Lib

variable (boundary : Boundary) (py : Py)

/-- The value that is sent, or else the stored one. -/
def Change.valueOr {α : Type} (c : Change α) (stored : α) : α :=
  match c with
  | .value a => a
  | _ => stored

/-- Nothing that a publication requires is nulled, the event of a publication would fit its column,
and the database stores what is sent. -/
structure CompleteEdit (c : UpdateCycleRequest) (row : ScholarshipCycle) (x : CycleInputs) :
    Prop where
  officialCycleUrl : c.officialCycleUrl ≠ .null
  originMode : c.originMode ≠ .null
  fieldMode : c.fieldMode ≠ .null
  evidenceFresh : c.evidenceFresh ≠ .null
  deadlinePrecision : c.deadlinePrecision = .null → x.deadlineAt = none
  eventKey : (c.providerCycleKey.valueOr row.providerCycleKey).length +
    (c.applicantSegment.valueOr row.applicantSegment).length ≤ 452
  texts : ∀ text ∈ [c.providerCycleKey.valueOr row.providerCycleKey,
    c.applicantSegment.valueOr row.applicantSegment,
    c.officialCycleUrl.valueOr row.officialCycleUrl], boundary.storesText text = true
  timestamps : ∀ timestamp ∈ (c.statusValidUntil.orStored row.statusValidUntil).toList ++
    (c.lastVerifiedAt.orStored row.lastVerifiedAt).toList,
      boundary.storesTimestamp timestamp = true
  note : ∀ text, x.eligibilityNote = .str text → text ≠ "" → boundary.storesText text = true
  programmes : ∀ name ∈ x.programmes py, boundary.storesText name = true

variable {boundary py} {countries : CountryVocabulary}

/-! ## What a request is merged into -/

/-- Nothing that the facts of a publication require is nulled. -/
structure RequiredSent (c : UpdateCycleRequest) (deadlineAt : Option DateTime) : Prop where
  destinations : c.destinations ≠ .null
  levels : c.levels ≠ .null
  origins : c.origins ≠ .null
  fields : c.fields ≠ .null
  originMode : c.originMode ≠ .null
  fieldMode : c.fieldMode ≠ .null
  evidenceFresh : c.evidenceFresh ≠ .null
  deadlinePrecision : c.deadlinePrecision = .null → c.deadlineAt.orStored deadlineAt = none

/-- Then the merged arguments build what arguments of the contract build. -/
lemma UpdateCycleRequest.Admitted.merged {c : UpdateCycleRequest} (hc : c.Admitted boundary py)
    {a : CycleArguments} (ha : a.WithinBounds py) (hnames : a.fieldNames = some [])
    (hsent : RequiredSent c a.deadlineAt) :
    ∃ a' : CycleArguments, a'.WithinBounds py ∧
      ∀ d, Built py countries (a.toInputs.update c) d → Built py countries a'.toInputs d := by
  obtain ⟨destinations, hdestinations, hdestinations'⟩ :=
    Change.orStored_some hsent.destinations hc.destinations ha.destinations
  obtain ⟨levels, hlevels, hlevels'⟩ :=
    Change.orStored_some hsent.levels hc.levels ha.levels
  obtain ⟨origins, horigins, horigins'⟩ :=
    Change.orStored_some (p := fun values => values.length ≤ 250) hsent.origins hc.origins
      ha.origins
  obtain ⟨fields, hfields, hfields'⟩ :=
    Change.orStored_some (p := fun values => values.length ≤ 50) hsent.fields hc.fields ha.fields
  obtain ⟨originMode, horiginMode⟩ : ∃ mode : OriginMode,
      c.originMode.orStoredJson .str (.str a.originMode.value) = .str mode.value :=
    Change.orStoredJson_value hsent.originMode hc.originMode
  obtain ⟨fieldMode, hfieldMode⟩ : ∃ mode : FieldMode,
      c.fieldMode.orStoredJson .str (.str a.fieldMode.value) = .str mode.value :=
    Change.orStoredJson_value hsent.fieldMode hc.fieldMode
  obtain ⟨fresh, hfresh⟩ : ∃ fresh : Bool,
      c.evidenceFresh.orStoredJson .bool (.bool a.evidenceFresh) = .bool fresh :=
    Change.orStoredJson_value (g := id) hsent.evidenceFresh fun fresh _ => ⟨fresh, rfl⟩
  obtain ⟨precision, hprecision⟩ : ∃ precision : DeadlinePrecision,
      ∀ deadlineAt, c.deadlineAt.orStored a.deadlineAt = some deadlineAt →
        c.deadlinePrecision.orStoredJson .str (.str a.deadlinePrecision.value) =
          .str precision.value := by
    by_cases hnull : c.deadlinePrecision = .null
    · refine ⟨.date, fun deadlineAt hat => ?_⟩
      rw [hsent.deadlinePrecision hnull] at hat
      cases hat
    · obtain ⟨precision, h⟩ : ∃ precision : DeadlinePrecision,
          c.deadlinePrecision.orStoredJson .str (.str a.deadlinePrecision.value) =
            .str precision.value :=
        Change.orStoredJson_value hnull hc.deadlinePrecision
      exact ⟨precision, fun _ _ => h⟩
  obtain ⟨timezone, -, htimezone⟩ : ∃ o : Option String, (∀ b ∈ o, True) ∧
      c.deadlineTimezone.orStoredJson .str (textOrNull a.deadlineTimezone) = textOrNull o :=
    Change.orStoredJson_optional (g := id) (fun text _ => ⟨text, rfl, trivial⟩) (by simp)
  obtain ⟨note, hnote, hnote'⟩ : ∃ o : Option String, (∀ b ∈ o, b.length ≤ 1000) ∧
      c.eligibilityNote.orStoredJson .str (textOrNull a.eligibilityNote) = textOrNull o :=
    Change.orStoredJson_optional (g := id)
      (fun text h => ⟨text, rfl, hc.eligibilityNote text h⟩) ha.eligibilityNote
  obtain ⟨month, -, hmonth⟩ : ∃ o : Option Month, (∀ b ∈ o, True) ∧
      c.expectedReopenMonth.orStoredJson .int a.toInputs.expectedReopenMonth =
        (o.map fun month : Month => Json.int month.val).getD .null :=
    Change.orStoredJson_optional (g := fun month : Month => (month.val : ℤ)) (fun n h => by
      obtain ⟨month, rfl⟩ := hc.expectedReopenMonth n h
      exact ⟨month, rfl, trivial⟩) (by simp)
  obtain ⟨funding, hfunding, hfunding'⟩ : ∃ o : Option String, (∀ b ∈ o, b.length ≤ 30) ∧
      c.fundingType.orStoredJson .str (textOrNull a.fundingType) = textOrNull o :=
    Change.orStoredJson_optional (g := id)
      (fun text h => ⟨text, rfl, hc.fundingType text h⟩) ha.fundingType
  obtain ⟨names, hprogrammes, hprogrammes'⟩ : ∃ names : List String, names.length ≤ 20 ∧
      (c.programmeNames.orStored a.programmeNames).getD [] = names := by
    obtain ⟨stored, hstored, hlength⟩ := ha.programmeNames
    rw [hstored]
    cases hsent : c.programmeNames with
    | omitted => exact ⟨stored, hlength, rfl⟩
    | null => exact ⟨[], by simp, rfl⟩
    | value names => exact ⟨names, hc.programmeNames names hsent, rfl⟩
  have hback : ∀ deadlineAt ∈ c.deadlineAt.orStored a.deadlineAt, py.ReadsBack deadlineAt := by
    intro deadlineAt hat
    cases hsent : c.deadlineAt with
    | omitted => exact ha.deadlineAt deadlineAt (by rwa [hsent] at hat)
    | null =>
      rw [hsent] at hat
      cases hat
    | value sent =>
      rw [hsent] at hat
      obtain rfl := Option.some.inj hat
      exact hc.deadlineAt sent hsent
  refine ⟨{
    destinations := destinations
    levels := levels
    originMode := originMode
    origins := origins
    fieldMode := fieldMode
    fields := fields
    evidenceFresh := fresh
    deadlineAt := c.deadlineAt.orStored a.deadlineAt
    deadlinePrecision := precision
    deadlineTimezone := timezone
    eligibilityNote := note
    expectedReopenMonth := month
    fieldNames := some []
    programmeNames := some names
    fundingType := funding }, ?_, fun d h => ?_⟩
  · exact ⟨hdestinations', hlevels', horigins', hfields', ⟨[], rfl, by simp⟩,
      ⟨names, rfl, hprogrammes⟩, hnote, hfunding, hback⟩
  · have hx : a.toInputs.update c = {
        destinations := some destinations
        levels := some levels
        originMode := .str originMode.value
        origins := some origins
        fieldMode := .str fieldMode.value
        fields := some fields
        evidenceFresh := .bool fresh
        deadlineAt := c.deadlineAt.orStored a.deadlineAt
        deadlinePrecision := c.deadlinePrecision.orStoredJson .str (.str a.deadlinePrecision.value)
        deadlineTimezone := textOrNull timezone
        eligibilityNote := textOrNull note
        expectedReopenMonth := (month.map fun month : Month => Json.int month.val).getD .null
        fieldNames := []
        programmeNames := c.programmeNames.orStored a.programmeNames
        fundingType := textOrNull funding } := by
      rw [CycleInputs.update, CycleInputs.mk.injEq]
      refine ⟨hdestinations, hlevels, horiginMode, horigins, hfieldMode, hfields, hfresh, rfl, rfl,
        htimezone, hnote', hmonth, ?_, rfl, hfunding'⟩
      show a.fieldNames.getD [] = []
      rw [hnames]
      rfl
    rw [hx] at h
    have hdeadline := h.deadline
    have hprogrammeNames := h.programmeNames
    exact { h with
      programmeNames := by
        rw [hprogrammeNames]
        show sortedSet (((Option.getD _ []).map _).filter _) = _
        rw [hprogrammes']
        rfl
      deadline := by
        rw [hdeadline]
        refine Option.map_congr fun deadlineAt hat => ?_
        show StoredDeadline.mk _ (c.deadlinePrecision.orStoredJson _ _) _ = _
        rw [hprecision deadlineAt hat]
        rfl }

/-! ## What a correction writes -/

/-- The columns that the route hands to `update_cycle`. -/
def UpdateCycleRequest.newColumns (c : UpdateCycleRequest) (row : ScholarshipCycle) (facts : Json) :
    CycleColumns where
  providerCycleKey := c.providerCycleKey.valueOr row.providerCycleKey
  applicantSegment := c.applicantSegment.valueOr row.applicantSegment
  officialCycleUrl := c.officialCycleUrl.newUrl row.officialCycleUrl
  publicStatus := c.publicStatus.newStatus row.publicStatus
  facts := facts
  statusValidUntil := c.statusValidUntil.orStored row.statusValidUntil
  lastVerifiedAt := c.lastVerifiedAt.orStored row.lastVerifiedAt

/-- The dict that was built determines the values under its keys. -/
lemma FactsDict.value_eq {d d' : FactsDict} (h : d.toJson = d'.toJson) (key : String) :
    d.value key = d'.value key := by
  have hget := FactsDict.get_toJson d key
  rw [h, FactsDict.get_toJson] at hget
  exact (Except.ok.inj hget).symm

/-- A set of codes is not built of a `null`. -/
lemma change_ne_null {f : String → Except PyErr String} {stored : Option (List String)}
    {codes : List String} {change : Change (List String)}
    (h : codeSet f (change.orStored stored) = .ok codes) : change ≠ .null := by
  rintro rfl
  cases h

/-- Facts that a publication could have stored were built without a `null`. -/
lemma UpdateCycleRequest.sent_of_published {c : UpdateCycleRequest} {x : CycleInputs}
    {d d' : FactsDict} {a' : CycleArguments} (h : Built py countries (x.update c) d)
    (h' : Built py countries a'.toInputs d') (heq : d.toJson = d'.toJson) :
    RequiredSent c x.deadlineAt := by
  have hmode : ∀ key text, d'.value key = some (.str text) → d.value key ≠ some .null := by
    intro key text hstr hnull
    rw [FactsDict.value_eq heq key, hstr] at hnull
    cases hnull
  refine ⟨change_ne_null h.destinations, change_ne_null h.levels, change_ne_null h.origins,
    change_ne_null h.fields, ?_, ?_, ?_, ?_⟩
  · intro hnull
    refine hmode "origin_mode" _ (congrArg some h'.originMode) ?_
    show some d.originMode = _
    rw [h.originMode, CycleInputs.update, hnull]
    rfl
  · intro hnull
    refine hmode "field_mode" _ (congrArg some h'.fieldMode) ?_
    show some d.fieldMode = _
    rw [h.fieldMode, CycleInputs.update, hnull]
    rfl
  · intro hnull
    have hfresh := FactsDict.value_eq heq "evidence_fresh"
    simp only [FactsDict.value, h.evidenceFresh, h'.evidenceFresh, CycleInputs.update,
      hnull] at hfresh
    cases hfresh
  · intro hnull
    cases hat : c.deadlineAt.orStored x.deadlineAt with
    | none => rfl
    | some deadlineAt =>
      have hprecision := FactsDict.value_eq heq "deadline_precision"
      simp only [FactsDict.value, h.deadline, h'.deadline, CycleInputs.update, hnull,
        hat] at hprecision
      cases hat' : a'.toInputs.deadlineAt with
      | none =>
        rw [hat'] at hprecision
        cases hprecision
      | some deadlineAt' =>
        rw [hat'] at hprecision
        cases hprecision
lemma Change.newUrl_of_ne_null {c : Change String} (hc : c ≠ .null) (stored : String) :
    c.newUrl stored = c.valueOr stored := by
  cases c with
  | null => exact absurd rfl hc
  | _ => rfl

/-- A property of the sent values and of the stored one. -/
lemma Change.valueOr_of {α : Type} {p : α → Prop} {c : Change α} {stored : α}
    (hsent : ∀ a, c = .value a → p a) (hstored : p stored) : p (c.valueOr stored) := by
  cases c with
  | value a => exact hsent a rfl
  | _ => exact hstored

/-- From a row that a publication could have written, a correction that was built writes one again
exactly if it is complete. -/
theorem publishable_edit_iff {countries₀ : CountryVocabulary} {row : ScholarshipCycle}
    {a₀ a : CycleArguments} {d₀ d : FactsDict}
    (hrow : PublishedRow boundary py countries₀ row a₀ d₀)
    (hnone : boundary.isHttpUrl "None" = false) {c : UpdateCycleRequest}
    (hc : c.Admitted boundary py) (ha : a.WithinBounds py) (hnames : a.fieldNames = some [])
    (h : Built py countries (a.toInputs.update c) d) :
    boundary.storesRow ((c.newColumns row d.toJson).assign row) = true ∧
      Publishable boundary py countries ((c.newColumns row d.toJson).assign row) ↔
    CompleteEdit boundary py c row (a.toInputs.update c) := by
  rw [publishable_iff, storesRow_iff]
  constructor
  · rintro ⟨⟨htexts, htimestamps, hfactsTexts, -⟩, a', d', h'⟩
    have hsent := c.sent_of_published h h'.built h'.facts
    have hurl : c.officialCycleUrl ≠ .null := by
      intro hnull
      have hurl := h'.officialCycleUrl
      simp only [CycleColumns.assign, UpdateCycleRequest.newColumns, hnull, Change.newUrl] at hurl
      rw [hnone] at hurl
      cases hurl
    simp only [CycleColumns.assign, UpdateCycleRequest.newColumns,
      Change.newUrl_of_ne_null hurl] at htexts htimestamps
    obtain ⟨hnote, hprogrammes⟩ := h.texts_iff.mp hfactsTexts
    exact {
      officialCycleUrl := hurl
      originMode := hsent.originMode
      fieldMode := hsent.fieldMode
      evidenceFresh := hsent.evidenceFresh
      deadlinePrecision := hsent.deadlinePrecision
      eventKey := h'.eventKey
      texts := htexts
      timestamps := htimestamps
      note := hnote
      programmes := hprogrammes }
  · intro hcomplete
    have hsent : RequiredSent c a.deadlineAt := {
      destinations := change_ne_null h.destinations
      levels := change_ne_null h.levels
      origins := change_ne_null h.origins
      fields := change_ne_null h.fields
      originMode := hcomplete.originMode
      fieldMode := hcomplete.fieldMode
      evidenceFresh := hcomplete.evidenceFresh
      deadlinePrecision := hcomplete.deadlinePrecision }
    obtain ⟨a', ha', hbuilt⟩ := hc.merged ha hnames hsent
    have hurl := Change.newUrl_of_ne_null hcomplete.officialCycleUrl row.officialCycleUrl
    have hstored : boundary.storesRow ((c.newColumns row d.toJson).assign row) = true := by
      refine storesRow_iff.mpr ⟨?_, hcomplete.timestamps, ?_, (hbuilt d h).admitted⟩
      · simp only [CycleColumns.assign, UpdateCycleRequest.newColumns, hurl]
        exact hcomplete.texts
      · exact h.texts_iff.mpr ⟨hcomplete.note, hcomplete.programmes⟩
    refine ⟨storesRow_iff.mp hstored, a', d, ?_⟩
    exact {
      arguments := ha'
      built := hbuilt d h
      facts := rfl
      providerCycleKey :=
        Change.valueOr_of hc.providerCycleKey hrow.providerCycleKey
      applicantSegment :=
        Change.valueOr_of (fun segment hvalue => (hc.applicantSegment segment hvalue).2)
          hrow.applicantSegment
      officialCycleUrl := by
        simp only [CycleColumns.assign, UpdateCycleRequest.newColumns, hurl]
        exact Change.valueOr_of (p := fun url => boundary.isHttpUrl url = true)
          hc.officialCycleUrl hrow.officialCycleUrl
      eventKey := hcomplete.eventKey
      stored := hstored }

end ScholarshipFinder
