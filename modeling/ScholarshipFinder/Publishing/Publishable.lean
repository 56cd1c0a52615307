import ScholarshipFinder.Api.PublishCycle
import ScholarshipFinder.Facts.RoundTrip

/-!
# The cycles that a publication writes

`Publishable` says of a row that some accepted publication writes its columns, and `publishable_iff`
what that is: facts that the builder makes of arguments within the bounds of the request, texts of
the right lengths, a URL, and values that the database stores.  Such facts are read back into
arguments within the same bounds.
-/

namespace ScholarshipFinder

open Lib

variable (boundary : Boundary) (py : Py)

/-- The columns of a cycle that the requests write. -/
def ScholarshipCycle.columns (row : ScholarshipCycle) : CycleColumns where
  providerCycleKey := row.providerCycleKey
  applicantSegment := row.applicantSegment
  officialCycleUrl := row.officialCycleUrl
  publicStatus := row.publicStatus
  facts := row.facts
  statusValidUntil := row.statusValidUntil
  lastVerifiedAt := row.lastVerifiedAt

/-- Some publication that is accepted writes these columns. -/
def Publishable (countries : CountryVocabulary) (row : ScholarshipCycle) : Prop :=
  ∃ request cycleId now store store' new, request.Admitted boundary py ∧
    publishRoute boundary py countries row.scholarshipId cycleId request now store = .ok store' ∧
    store'.db.cycles.row cycleId = some new ∧ new.columns = row.columns

variable {boundary py} {countries : CountryVocabulary}

/-! ## What a publication writes -/

lemma flushCycle_ok {cycleId : CycleId} {store store' : EventStore}
    (h : flushCycle boundary cycleId store = .ok store') :
    store' = store ∧ (store.db.cycles.row cycleId).all boundary.storesRow = true := by
  rw [flushCycle] at h
  split at h
  · next hstores => exact ⟨(Except.ok.inj h).symm, hstores⟩
  · cases h

/-- An accepted publication has built its facts, and its event and its row are stored. -/
lemma publishRoute_ok {scholarshipId : ScholarshipId} {cycleId : CycleId}
    {request : PublishCycleRequest} {now : Instant} {store store' : EventStore}
    (h : publishRoute boundary py countries scholarshipId cycleId request now store = .ok store') :
    ∃ facts, buildCycleFacts py countries request.arguments.toInputs = .ok facts ∧
      store'.db.cycles = store.db.cycles.insert cycleId
        ((request.publishArgs scholarshipId cycleId facts).newRow now) ∧
      (request.publishArgs scholarshipId cycleId facts).eventKey.length ≤ dedupeKeyLimit ∧
      boundary.storesRow ((request.publishArgs scholarshipId cycleId facts).newRow now) = true := by
  obtain ⟨facts, hfacts, h⟩ := exceptBind_ok h
  obtain ⟨published, hpublished, hflush⟩ := exceptBind_ok (mapErr_ok h)
  obtain ⟨rfl, hstores⟩ := flushCycle_ok hflush
  obtain ⟨db, hdb, -⟩ := exceptBind_ok hpublished
  obtain ⟨-, -, rfl⟩ := publishCycle_ok hdb
  refine ⟨facts, mapErr_ok hfacts, ?_⟩
  rcases publishWithEvent_cases hdb with ⟨-, e, herror⟩ | ⟨hlength, -, hok⟩ |
    ⟨hlength, -, outbox, hok, -⟩
  · rw [herror] at hpublished
    cases hpublished
  · obtain rfl := Except.ok.inj (hok.symm.trans hpublished)
    refine ⟨rfl, hlength, ?_⟩
    simpa [PublishCycleRequest.publishArgs] using hstores
  · obtain rfl := Except.ok.inj (hok.symm.trans hpublished)
    refine ⟨rfl, hlength, ?_⟩
    simpa [PublishCycleRequest.publishArgs] using hstores

/-- Whether a row is stored depends on the columns that the requests write. -/
lemma storesRow_congr {row row' : ScholarshipCycle} (h : row.columns = row'.columns) :
    boundary.storesRow row = boundary.storesRow row' := by
  simp only [ScholarshipCycle.columns, CycleColumns.mk.injEq] at h
  obtain ⟨hkey, hsegment, hurl, -, hfacts, huntil, hverified⟩ := h
  simp only [Boundary.storesRow, hkey, hsegment, hurl, hfacts, huntil, hverified]

/-- A row that a publication could have written, by its columns. -/
structure PublishedRow (boundary : Boundary) (py : Py) (countries : CountryVocabulary)
    (row : ScholarshipCycle) (a : CycleArguments) (d : FactsDict) : Prop where
  arguments : a.WithinBounds py
  built : Built py countries a.toInputs d
  facts : row.facts = d.toJson
  providerCycleKey : 1 ≤ row.providerCycleKey.length ∧ row.providerCycleKey.length ≤ 255
  applicantSegment : row.applicantSegment.length ≤ 255
  officialCycleUrl : boundary.isHttpUrl row.officialCycleUrl = true
  eventKey : row.providerCycleKey.length + row.applicantSegment.length ≤ 452
  stored : boundary.storesRow row = true

/-- The service before its first cycle, with one scholarship. -/
def unpublishedStore (scholarshipId : ScholarshipId) : EventStore where
  db := {
    scholarships := Table.empty.insert scholarshipId ⟨.published⟩
    cycles := Table.empty
    sources := Table.empty
    pages := Table.empty
    snapshots := []
    tasks := []
    usage := Table.empty }
  outbox := Outbox.empty

lemma publishCycle_unpublished {args : PublishArgs} {now : Instant} :
    ∃ db, publishCycle args now (unpublishedStore args.scholarshipId).db = .ok db ∧
      db.cycles = Table.empty.insert args.cycleId (args.newRow now) := by
  have hscholarship : (unpublishedStore args.scholarshipId).db.scholarships.row
      args.scholarshipId = some ⟨.published⟩ := Table.row_insert_self _ _ _
  refine ⟨{ (unpublishedStore args.scholarshipId).db with
    cycles := Table.empty.insert args.cycleId (args.newRow now)
    scholarships := (unpublishedStore args.scholarshipId).db.scholarships.modify args.scholarshipId
      fun s => { s with lifecycleState := .published } }, ?_, rfl⟩
  rw [publishCycle, hscholarship]
  rfl

/-- These are the rows that some publication writes. -/
theorem publishable_iff {row : ScholarshipCycle} :
    Publishable boundary py countries row ↔ ∃ a d, PublishedRow boundary py countries row a d := by
  constructor
  · rintro ⟨request, cycleId, now, store, store', new, hadmitted, hroute, hnew, hcolumns⟩
    obtain ⟨facts, hfacts, hcycles, hlength, hstored⟩ := publishRoute_ok hroute
    obtain ⟨d, hbuilt, rfl⟩ := buildCycleFacts_eq_ok_iff.mp hfacts
    rw [hcycles, Table.row_insert_self] at hnew
    obtain rfl := Option.some.inj hnew
    rw [storesRow_congr hcolumns] at hstored
    rw [eventKey_length] at hlength
    simp only [ScholarshipCycle.columns, PublishArgs.newRow, PublishCycleRequest.publishArgs,
      CycleColumns.mk.injEq] at hcolumns
    obtain ⟨hkey, hsegment, hurl, -, hfacts, -, -⟩ := hcolumns
    simp only [PublishCycleRequest.publishArgs, dedupeKeyLimit, hkey, hsegment] at hlength
    exact ⟨request.arguments, d, {
      arguments := hadmitted.arguments
      built := hbuilt
      facts := hfacts.symm
      providerCycleKey := hkey ▸ hadmitted.providerCycleKey
      applicantSegment := hsegment ▸ hadmitted.applicantSegment
      officialCycleUrl := hurl ▸ hadmitted.officialCycleUrl
      eventKey := by omega
      stored := hstored }⟩
  · rintro ⟨a, d, h⟩
    let request : PublishCycleRequest := ⟨row.providerCycleKey, row.applicantSegment,
      row.officialCycleUrl, row.publicStatus, row.statusValidUntil, row.lastVerifiedAt, a⟩
    let args := request.publishArgs row.scholarshipId 0 d.toJson
    have hbuild : buildCycleFacts py countries a.toInputs = .ok d.toJson :=
      buildCycleFacts_eq_ok_iff.mpr ⟨d, h.built, rfl⟩
    have hcolumns : (args.newRow 0).columns = row.columns := by
      simp only [ScholarshipCycle.columns, h.facts]
      rfl
    obtain ⟨db, hpublish, hcycles⟩ := @publishCycle_unpublished args 0
    have hnew : db.cycles.row 0 = some (args.newRow 0) := by
      rw [hcycles]
      exact Table.row_insert_self _ _ _
    have hflush : ∀ outbox, flushCycle boundary 0 ⟨db, outbox⟩ = .ok ⟨db, outbox⟩ := by
      intro outbox
      refine if_pos ?_
      rw [hnew, Option.all_some, storesRow_congr hcolumns]
      exact h.stored
    have hlength : args.eventKey.length ≤ dedupeKeyLimit := by
      rw [eventKey_length]
      have hkey := h.eventKey
      show 48 + row.providerCycleKey.length + row.applicantSegment.length ≤ 500
      omega
    have hroute : ∀ outbox,
        publishWithEvent args 0 (unpublishedStore row.scholarshipId) = .ok ⟨db, outbox⟩ →
        publishRoute boundary py countries row.scholarshipId 0 request 0
          (unpublishedStore row.scholarshipId) = .ok ⟨db, outbox⟩ := by
      intro outbox hpublished
      show (mapErr none 422 (buildCycleFacts py countries a.toInputs) >>= _) = _
      rw [hbuild]
      show mapErr (some 404) 409 (publishWithEvent args 0 _ >>= _) = _
      rw [hpublished]
      show mapErr (some 404) 409 (flushCycle boundary 0 ⟨db, outbox⟩) = _
      rw [hflush]
      rfl
    have hadmitted : request.Admitted boundary py :=
      ⟨h.providerCycleKey, h.applicantSegment, h.officialCycleUrl, h.arguments⟩
    rcases publishWithEvent_cases hpublish with ⟨hlong, -⟩ | ⟨-, -, hok⟩ | ⟨-, -, outbox, hok, -⟩
    · exact absurd hlength (not_le.mpr hlong)
    · exact ⟨request, 0, 0, _, _, _, hadmitted, hroute _ hok, hnew, hcolumns⟩
    · exact ⟨request, 0, 0, _, _, _, hadmitted, hroute _ hok, hnew, hcolumns⟩

/-! ## What is read back of a publication -/

lemma length_sortedSet_le (xs : List String) : (sortedSet xs).length ≤ xs.length := by
  rw [sortedSet, List.length_insertionSort]
  exact (List.dedup_sublist xs).length_le

/-- There are at most as many codes as values. -/
lemma codeSet_length {f : String → Except PyErr String} {values codes : List String}
    (h : codeSet f (some values) = .ok codes) : codes.length ≤ values.length := by
  obtain ⟨found, hfound, h⟩ := exceptBind_ok h
  have hmap : ∀ (values found : List String), values.mapM f = .ok found →
      found.length = values.length := by
    intro values
    induction values with
    | nil =>
      intro found h
      obtain rfl := Except.ok.inj h
      rfl
    | cons value values ih =>
      intro found h
      rw [List.mapM_cons] at h
      obtain ⟨code, -, h⟩ := exceptBind_ok h
      obtain ⟨rest, hrest, h⟩ := exceptBind_ok h
      obtain rfl := Except.ok.inj h
      simp [ih rest hrest]
  rw [← hmap values found hfound]
  obtain rfl := Except.ok.inj h
  exact length_sortedSet_le found

lemma fundingType_length {text code : String} (h : taxonomy.fundingType py text = .ok code) :
    code.length ≤ 30 := by
  have hmem := Dict.mem_keys_of_has (taxonomy_fundingType_has h)
  have hall : ∀ code ∈ taxonomy.fundingTypes.map Prod.fst, code.length ≤ 30 := by decide
  exact hall code hmem

/-- The facts of a publication are read back into arguments of the contract, without the legacy
name of the programmes. -/
lemma Built.readArguments {a : CycleArguments} {d : FactsDict} (hpy : py.TextLaws)
    (ha : a.WithinBounds py) (h : Built py countries a.toInputs d) :
    ∃ a' : CycleArguments, a'.WithinBounds py ∧ a'.fieldNames = some [] ∧
      cycleFactsToInputs py d.toJson = .ok a'.toInputs := by
  obtain ⟨hread, -⟩ := h.readBack hpy ha.deadlineAt ⟨_, rfl⟩
  refine ⟨{
    destinations := d.destinations
    levels := d.levels
    originMode := a.originMode
    origins := d.origins
    fieldMode := a.fieldMode
    fields := d.fields
    evidenceFresh := a.evidenceFresh
    deadlineAt := a.deadlineAt
    deadlinePrecision := if a.deadlineAt.isSome then a.deadlinePrecision else .date
    deadlineTimezone := a.deadlineAt.bind fun _ => a.deadlineTimezone
    eligibilityNote := a.eligibilityNote.filter (· ≠ "")
    expectedReopenMonth := a.expectedReopenMonth
    fieldNames := some []
    programmeNames := some d.programmeNames
    fundingType := d.fundingType }, ?_, rfl, ?_⟩
  · obtain ⟨names, hnames, hnamesLength⟩ := ha.programmeNames
    exact {
      destinations := ⟨List.length_pos_iff.mpr h.destinations_ne,
        (codeSet_length h.destinations).trans ha.destinations.2⟩
      levels := ⟨List.length_pos_iff.mpr h.levels_ne,
        (codeSet_length h.levels).trans ha.levels.2⟩
      origins := (codeSet_length h.origins).trans ha.origins
      fields := (codeSet_length h.fields).trans ha.fields
      fieldNames := ⟨[], rfl, by simp⟩
      programmeNames := by
        refine ⟨_, rfl, ?_⟩
        rw [h.programmeNames]
        refine (length_sortedSet_le _).trans ((List.length_filter_le _ _).trans ?_)
        rw [List.length_map]
        show (a.programmeNames.getD _).length ≤ 20
        rw [hnames]
        exact hnamesLength
      eligibilityNote := by
        intro note hnote
        exact ha.eligibilityNote note (Option.filter_eq_some_iff.mp hnote).1
      fundingType := by
        intro code hcode
        obtain ⟨found, hentry, hfound⟩ := checkFundingType_ok h.funding
        have hsame : d.fundingType = found := entry_str_inj hentry
        obtain ⟨text, htext⟩ := hfound code (hsame ▸ hcode)
        exact fundingType_length htext
      deadlineAt := ha.deadlineAt }
  · rw [hread]
    refine congrArg Except.ok ?_
    rw [FactsDict.inputs, CycleArguments.toInputs, CycleInputs.mk.injEq]
    have hprecision : (d.value "deadline_precision").getD (.str "date") =
        .str (if a.deadlineAt.isSome then a.deadlinePrecision else .date).value := by
      simp only [FactsDict.value, h.deadline, CycleArguments.toInputs]
      cases a.deadlineAt <;> rfl
    have htimezone : (d.value "deadline_timezone").getD .null =
        textOrNull (a.deadlineAt.bind fun _ => a.deadlineTimezone) := by
      simp only [FactsDict.value, h.deadline, CycleArguments.toInputs]
      cases a.deadlineAt with
      | none => rfl
      | some deadlineAt => exact Json.nonNull_getD _
    have hnote : d.eligibilityNote.getD .null =
        textOrNull (a.eligibilityNote.filter (· ≠ "")) := by
      simp only [h.eligibilityNote, CycleArguments.toInputs]
      cases a.eligibilityNote with
      | none => rfl
      | some note =>
        by_cases hempty : note = "" <;>
          simp [textOrNull, Json.ifTruthy, Json.truthy, hempty, Option.filter]
    have hmonth : d.expectedReopenMonth.getD .null = a.toInputs.expectedReopenMonth := by
      rw [h.expectedReopenMonth, Json.nonNull_getD]
    have hfresh : Json.bool d.evidenceFresh.truthy = .bool a.evidenceFresh := by
      rw [h.evidenceFresh]
      rfl
    exact ⟨rfl, rfl, h.originMode, rfl, h.fieldMode, rfl, hfresh, rfl, hprecision, htimezone, hnote,
      hmonth, rfl, rfl, rfl⟩

/-! ## What the database checks -/

/-- The constraints of the column admit what is built of arguments of the contract. -/
lemma Built.admitted {a : CycleArguments} {d : FactsDict} (h : Built py countries a.toInputs d) :
    factsColumnAdmits d.toJson = true := by
  have hlookup : ∀ key, d.items.lookup key = d.value key := fun key =>
    Except.ok.inj (FactsDict.get_toJson d key)
  have hlabels : arrayOrAbsent (d.value "field_names") = true := by
    simp only [FactsDict.value]
    split <;> rfl
  have hprecision : nullOrIn ["date", "datetime"] (d.value "deadline_precision") = true := by
    simp only [FactsDict.value, h.deadline, CycleArguments.toInputs]
    cases a.deadlineAt with
    | none => rfl
    | some deadlineAt =>
      show nullOrIn _ (some (.str a.deadlinePrecision.value)) = true
      cases a.deadlinePrecision <;> decide
  have hfunding : nullOrIn ["fully_funded", "partial_funding", "tuition_only", "stipend_only"]
      (d.value "funding_type") = true := by
    obtain ⟨found, hentry, hfound⟩ := checkFundingType_ok h.funding
    have hsame : d.fundingType = found := entry_str_inj hentry
    simp only [FactsDict.value, hsame]
    cases found with
    | none => rfl
    | some code =>
      obtain ⟨text, htext⟩ := hfound code rfl
      have hmem := Dict.mem_keys_of_has (taxonomy_fundingType_has htext)
      simpa [nullOrIn, taxonomy] using hmem
  have hmonth : monthOrAbsent (d.value "expected_reopen_month") = true := by
    simp only [FactsDict.value, h.expectedReopenMonth, CycleArguments.toInputs]
    cases a.expectedReopenMonth with
    | none => rfl
    | some month =>
      obtain ⟨month, hrange⟩ := month
      simpa [Json.nonNull, monthOrAbsent] using hrange
  have hnote : nullOrString (d.value "eligibility_note") = true := by
    simp only [FactsDict.value]
    rw [h.eligibilityNote]
    show nullOrString (textOrNull a.eligibilityNote).ifTruthy = true
    cases a.eligibilityNote with
    | none => rfl
    | some note =>
      show nullOrString (Json.str note).ifTruthy = true
      unfold Json.ifTruthy
      split <;> rfl
  show (arrayFields.all (fun key => arrayOrAbsent (d.items.lookup key)) && _ && _ && _ && _) = true
  simp only [arrayFields, List.all_cons, List.all_nil, hlookup, hlabels, hprecision, hfunding,
    hmonth, hnote, Bool.and_true]
  rfl

/-- The free texts of the facts come from the note and from the programmes. -/
lemma Built.texts_iff {x : CycleInputs} {d : FactsDict} (h : Built py countries x d)
    {p : String → Prop} : (∀ text ∈ factsTexts d.toJson, p text) ↔
      (∀ text, x.eligibilityNote = .str text → text ≠ "" → p text) ∧
        ∀ name ∈ x.programmes py, p name := by
  have hlookup : ∀ key, d.items.lookup key = d.value key := fun key =>
    Except.ok.inj (FactsDict.get_toJson d key)
  have hnames : stringList (d.items.lookup "programme_names") = d.programmeNames := by
    rw [hlookup]
    exact stringList_stored d.programmeNames
  have hnote : d.items.lookup "eligibility_note" = x.eligibilityNote.ifTruthy := by
    rw [hlookup]
    exact h.eligibilityNote
  rw [FactsDict.toJson, factsTexts, hnames, hnote, h.programmeNames, List.forall_mem_append]
  refine and_congr ?_ (by simp only [mem_sortedSet])
  cases hx : x.eligibilityNote with
  | str note =>
    by_cases hempty : note = "" <;> simp [Json.ifTruthy, Json.truthy, hempty]
  | _ =>
    unfold Json.ifTruthy
    split
    · next heq => split at heq <;> cases heq
    · simp

lemma storesRow_iff {row : ScholarshipCycle} : boundary.storesRow row = true ↔
    (∀ text ∈ [row.providerCycleKey, row.applicantSegment, row.officialCycleUrl],
      boundary.storesText text = true) ∧
    (∀ timestamp ∈ row.statusValidUntil.toList ++ row.lastVerifiedAt.toList,
      boundary.storesTimestamp timestamp = true) ∧
    (∀ text ∈ factsTexts row.facts, boundary.storesText text = true) ∧
    factsColumnAdmits row.facts = true := by
  simp [Boundary.storesRow, Option.all_eq_true, or_imp, forall_and, and_assoc]

end ScholarshipFinder
