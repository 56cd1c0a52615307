import ScholarshipFinder.Api.Replay
import ScholarshipFinder.Facts.RoundTrip
import ScholarshipFinder.Sample.Search

/-!
# A stored search replays as it was shown

What the snapshot keeps of a result is what the response shows of it: the models read every field
back.  So the first page of a search is replayed with the results that it had, those of withdrawn
scholarships aside.
-/

namespace ScholarshipFinder

open Lib

/-! ## What is relied on -/

/-- A `datetime` whose offset, if it has one, is of whole minutes. -/
structure DateTime.WholeMinutes (d : DateTime) : Prop where
  low : 0 ≤ d.wall
  high : d.wall < maxMicros
  offset : ∀ offset ∈ d.offset, offset % minute = 0 ∧ |offset| < day

/-- What is used of pydantic. -/
structure PydanticPy.Laws (pd : PydanticPy) (py : Py) : Prop where
  uuid_text : ∀ id < 2 ^ 128, pd.uuid (.str (uuidText id)) = some id
  datetime_isoformat : ∀ d : DateTime, d.WholeMinutes →
    pd.datetime (.str (py.isoformat d)) = some d
  int : ∀ n, pd.int (.int n) = some n

/-- The cycles that are searched: their facts are what `build_cycle_facts` writes, and their ids
and timestamps are those of the database. -/
structure BuiltCycles (py : Py) (db : Db) : Prop where
  facts : ∀ cycleId ∈ publishedCycles db searchScanLimit, ∀ row,
    db.cycles.row cycleId = some row →
      ∃ countries x, buildCycleFacts py countries x = .ok row.facts ∧
        ∀ d ∈ x.deadlineAt, d.WholeMinutes ∧ py.ReadsBack d
  ids : ∀ cycleId ∈ publishedCycles db searchScanLimit, ∀ row,
    db.cycles.row cycleId = some row → cycleId < 2 ^ 128 ∧ row.scholarshipId < 2 ^ 128
  verified : ∀ cycleId ∈ publishedCycles db searchScanLimit, ∀ row,
    db.cycles.row cycleId = some row → ∀ t ∈ row.lastVerifiedAt, 0 ≤ t ∧ t < maxMicros

/-! ## Results that are read back -/

/-- A result whose ids, timestamps and month are read back. -/
structure Presentable (item : SearchResult) : Prop where
  scholarshipId : item.scholarshipId < 2 ^ 128
  cycleId : item.cycleId < 2 ^ 128
  verified : ∀ t ∈ item.lastVerifiedAt, 0 ≤ t ∧ t < maxMicros
  deadline : ∀ d ∈ item.deadlineAt, d.WholeMinutes
  month : ∀ n ∈ item.expectedReopenMonth, 1 ≤ n ∧ n ≤ 12

section

variable {py : Py} {pd : PydanticPy} {cp : CursorPy} {settings : SearchSettings}

lemma mapM_pure_of {m : Type → Type} [Monad m] [LawfulMonad m] {α β : Type} {f : α → m β}
    {g : α → β} {l : List α} (h : ∀ a ∈ l, f a = pure (g a)) : l.mapM f = pure (l.map g) := by
  induction l with
  | nil => simp
  | cons a l ih =>
    have hrest := ih fun b hb => h b (List.mem_cons_of_mem a hb)
    rw [List.mapM_cons, h a List.mem_cons_self, hrest]
    simp

lemma validTexts_strings (texts : List String) : validTexts (strings texts) = some texts := by
  have hmap := @mapM_pure_of Option _ _ _ _ validText (fun value => (validText value).getD "")
    (texts.map .str) (by
      intro value hvalue
      obtain ⟨text, -, rfl⟩ := List.mem_map.mp hvalue
      rfl)
  rw [strings, validTexts, hmap, List.map_map]
  exact congrArg some (List.map_id texts)

lemma nullable_ofText {α : Type} {valid : Json → Option α} {read : α → String} {value : Option α}
    (h : ∀ a ∈ value, valid (.str (read a)) = some a) :
    nullable valid (.ofText (value.map read)) = some value := by
  cases value with
  | none => rfl
  | some a =>
    have ha := h a rfl
    simp only [Option.map_some, Json.ofText, nullable, ha]

lemma nullable_text (value : Option String) : nullable validText (.ofText value) = some value := by
  cases value <;> rfl

lemma validMonth_int (laws : pd.Laws py) {month : Option ℕ}
    (h : ∀ n ∈ month, 1 ≤ n ∧ n ≤ 12) :
    nullable (validMonth pd) ((month.map fun n : ℕ => Json.int n).getD .null) =
      some (month.map fun n : ℕ => (n : ℤ)) := by
  cases month with
  | none => rfl
  | some n =>
    obtain ⟨hlow, hhigh⟩ := h n rfl
    have hrange : (1 : ℤ) ≤ n ∧ (n : ℤ) ≤ 12 := by omega
    simp only [Option.map_some, Option.getD_some, nullable, validMonth, laws.int, Option.filter_some,
      hrange, and_self, decide_true, if_true]

/-- Every field of a stored result is read back. -/
lemma validResult_plain (laws : pd.Laws py) {item : SearchResult} (h : Presentable item) :
    validResult pd (.obj (item.plain py)) = some item.public := by
  have hscholarship : requiredField (item.plain py) "scholarship_id" pd.uuid =
      some item.scholarshipId := laws.uuid_text _ h.scholarshipId
  have hcycle : requiredField (item.plain py) "cycle_id" pd.uuid = some item.cycleId :=
    laws.uuid_text _ h.cycleId
  have hname : requiredField (item.plain py) "name" validText = some item.name := rfl
  have hprovider : requiredField (item.plain py) "provider" validText = some item.provider := rfl
  have haward : requiredField (item.plain py) "award_type" validText = some item.awardType := rfl
  have hstatus : requiredField (item.plain py) "status" validText = some item.status.value := rfl
  have hdetail : requiredField (item.plain py) "status_detail" validText =
      some item.status.value := rfl
  have hfit : requiredField (item.plain py) "fit" validFit = some item.fit := by
    change validFit (.str item.fit.value) = some item.fit
    cases item.fit <;> rfl
  have hurl : requiredField (item.plain py) "official_url" validText = some item.officialUrl := rfl
  have hverified : defaultedField (item.plain py) "last_verified_at" (nullable pd.datetime) none =
      some (item.lastVerifiedAt.map fun t => ⟨t, some 0⟩) := by
    have hread : ∀ d ∈ item.lastVerifiedAt.map fun t => (⟨t, some 0⟩ : DateTime),
        pd.datetime (.str (py.isoformat d)) = some d := by
      intro d hd
      obtain ⟨t, ht, rfl⟩ := Option.map_eq_some_iff.mp hd
      obtain ⟨hlow, hhigh⟩ := h.verified t ht
      refine laws.datetime_isoformat _ ⟨hlow, hhigh, ?_⟩
      rintro offset ⟨⟩
      exact ⟨rfl, by decide⟩
    have hvalue := nullable_ofText hread
    rw [Option.map_map] at hvalue
    exact hvalue
  have hnote : defaultedField (item.plain py) "eligibility_note" (nullable validText) none =
      some item.eligibilityNote := nullable_text _
  have hfieldNames : defaultedField (item.plain py) "field_names" validTexts [] =
      some item.fieldNames := validTexts_strings _
  have hfields : defaultedField (item.plain py) "fields" validTexts [] = some item.fields :=
    validTexts_strings _
  have hprogrammes : defaultedField (item.plain py) "programme_names" validTexts [] =
      some item.programmeNames := validTexts_strings _
  have hdestinations : defaultedField (item.plain py) "destinations" validTexts [] =
      some item.destinations := validTexts_strings _
  have hdeadline : defaultedField (item.plain py) "deadline_at" (nullable pd.datetime) none =
      some item.deadlineAt :=
    nullable_ofText fun d hd => laws.datetime_isoformat d (h.deadline d hd)
  have hprecision : defaultedField (item.plain py) "deadline_precision"
      (nullable validPrecision) none = some item.deadlinePrecision := by
    refine nullable_ofText fun precision _ => ?_
    cases precision <;> rfl
  have hlevels : defaultedField (item.plain py) "degree_levels" validTexts [] =
      some item.degreeLevels := validTexts_strings _
  have hmonth : defaultedField (item.plain py) "expected_reopen_month"
      (nullable (validMonth pd)) none = some (item.expectedReopenMonth.map fun n : ℕ => (n : ℤ)) :=
    validMonth_int laws h.month
  have hfunding : defaultedField (item.plain py) "funding_type" (nullable validText) none =
      some item.fundingType := nullable_text _
  have hcountry : defaultedField (item.plain py) "provider_country" (nullable validText) none =
      some item.providerCountry := nullable_text _
  have hcaveats : defaultedField (item.plain py) "caveats" validTexts [] = some item.caveats :=
    validTexts_strings _
  simp only [validResult, hscholarship, hcycle, hname, hprovider, haward, hstatus, hdetail, hfit,
    hurl, hverified, hnote, hfieldNames, hfields, hprogrammes, hdestinations, hdeadline,
    hprecision, hlevels, hmonth, hfunding, hcountry, hcaveats, Option.bind_eq_bind,
    Option.bind_some, Option.pure_def]
  rfl

/-! ## The page that is replayed -/

/-- The results of the scholarships that are published. -/
def stillPublished (db : Db) (data : List SearchResult) : List SearchResult :=
  data.filter fun item =>
    (db.scholarships.row item.scholarshipId).any fun s => s.lifecycleState = .published

lemma presentedUuid_inj (laws : pd.Laws py) {a b : ℕ} (ha : a < 2 ^ 128) (hb : b < 2 ^ 128)
    (h : uuidText a = uuidText b) : a = b := by
  have hread := laws.uuid_text a ha
  rw [h, laws.uuid_text b hb, Option.some.injEq] at hread
  exact hread.symm

/-- A result is kept if its scholarship is published. -/
lemma any_publishedTexts (laws : pd.Laws py) {data : List SearchResult}
    (hdata : ∀ item ∈ data, Presentable item) (db : Db) {item : SearchResult} (hitem : item ∈ data) :
    (publishedTexts db (data.map (·.scholarshipId))).any
        (fun text => (Json.str (uuidText item.scholarshipId)).eqStr text) =
      (db.scholarships.row item.scholarshipId).any fun s => s.lifecycleState = .published := by
  rw [Bool.eq_iff_iff, List.any_eq_true]
  constructor
  · rintro ⟨text, htext, heq⟩
    obtain ⟨id, hid, rfl⟩ := List.mem_map.mp htext
    obtain ⟨hmem, hpublished⟩ := List.mem_filter.mp hid
    obtain ⟨other, hother, rfl⟩ := List.mem_map.mp hmem
    have hsame : uuidText item.scholarshipId = uuidText other.scholarshipId := by
      simpa [Json.eqStr] using heq
    rwa [presentedUuid_inj laws (hdata item hitem).scholarshipId (hdata other hother).scholarshipId
      hsame]
  · intro hpublished
    refine ⟨uuidText item.scholarshipId, List.mem_map_of_mem (List.mem_filter.mpr
      ⟨List.mem_map_of_mem hitem, hpublished⟩), ?_⟩
    simp [Json.eqStr]

lemma exceptOk_bind {ε α β : Type} (a : α) (f : α → Except ε β) :
    ((Except.ok a : Except ε α) >>= f) = f a := rfl

/-- What is replayed of a row whose snapshot is of these results. -/
def replayOf (cp : CursorPy) (settings : SearchSettings) (responseId : ResponseId)
    (stored : Search) (data : List SearchResult) (db : Db) : ReplayedSearch where
  data := (stillPublished db data).map (·.public)
  nextCursor := if stored.resultSnapshot.hasNextPage then
    some (encodeCursor cp stored.requestedLimit stored.filterDigest stored.searchId
      stored.requestedLimit settings.cursorSecret)
    else none
  searchId := stored.searchId
  responseId := responseId
  evaluatedAt := stored.evaluatedAt
  matchPolicyVersion := stored.matchPolicyVersion
  taxonomyVersion := stored.taxonomyVersion
  confirmedCounts := some (stored.resultSnapshot.confirmedCounts.map fun count =>
    (count.1.value, (count.2 : ℤ)))
  possibleMatchCount := some stored.resultSnapshot.possibleMatchCount
  warnings := stored.resultSnapshot.warnings
  filters := stored.filters

lemma validCounts_obj (laws : pd.Laws py) (counts : List (StatusDetail × ℕ)) :
    validCounts pd (.obj (counts.map fun count => (count.1.value, .int count.2))) =
      some (counts.map fun count => (count.1.value, (count.2 : ℤ))) := by
  rw [validCounts, List.mapM_map]
  exact mapM_pure_of fun count _ => by simp only [Function.comp_apply, laws.int]; rfl

/-- A stored page is replayed, whatever is published by then. -/
lemma replayStored_ok (laws : pd.Laws py)
    (huuid : ∀ id < 2 ^ 128, cp.uuid (uuidText id) = .ok id) (responseId : ResponseId)
    {stored : Search} {data : List SearchResult}
    (hdata : stored.resultSnapshot.data = data.map (·.plain py))
    (hitems : ∀ item ∈ data, Presentable item) (db : Db) :
    replayStored pd cp settings responseId stored (stored.resultSnapshot.toJson py) db =
      .ok (replayOf cp settings responseId stored data db) := by
  generalize hsnapshot : stored.resultSnapshot = snapshot at hdata
  have hjson : (snapshot.toJson py).getItem "data" =
      .ok (.arr (data.map fun item => .obj (item.plain py))) := by
    change Except.ok (Json.arr (snapshot.data.map .obj)) = _
    rw [hdata, List.map_map]
    rfl
  have hkeyed : (data.map fun item => Json.obj (item.plain py)).mapM
      (fun item => do return (item, ← item.getItem "scholarship_id")) =
        (Except.ok (data.map fun item => (Json.obj (item.plain py),
          Json.str (uuidText item.scholarshipId))) : Except PyErr _) := by
    rw [List.mapM_map]
    exact mapM_pure_of fun item _ => rfl
  have hids : (data.map fun item => (Json.obj (item.plain py),
      Json.str (uuidText item.scholarshipId))).mapM (fun pair => uuidOf cp pair.2) =
        (Except.ok (data.map (·.scholarshipId)) : Except PyErr _) := by
    rw [List.mapM_map]
    exact mapM_pure_of fun item hitem => huuid _ (hitems item hitem).scholarshipId
  have hkept : ((data.map fun item => (Json.obj (item.plain py),
      Json.str (uuidText item.scholarshipId))).filter fun pair =>
        (publishedTexts db (data.map (·.scholarshipId))).any fun text => pair.2.eqStr text).map
          Prod.fst = (stillPublished db data).map fun item => Json.obj (item.plain py) := by
    rw [List.filter_map, List.map_map, stillPublished]
    congr 1
    exact List.filter_congr fun item hitem => any_publishedTexts laws hitems db hitem
  have hvalid : ((stillPublished db data).map fun item => Json.obj (item.plain py)).mapM
      (validResult pd) = some ((stillPublished db data).map (·.public)) := by
    rw [List.mapM_map]
    exact mapM_pure_of fun item hitem =>
      validResult_plain laws (hitems item (List.mem_filter.mp hitem).1)
  obtain ⟨pagination, hpagination, hnext⟩ : ∃ pagination,
      (snapshot.toJson py).getItem "pagination" = .ok pagination ∧
        pagination.getItem "has_next_page" = .ok (.bool snapshot.hasNextPage) := ⟨_, rfl, rfl⟩
  obtain ⟨storedMeta, hmeta, hcounts, hpossible, hwarnings⟩ : ∃ storedMeta,
      (snapshot.toJson py).getItem "meta" = .ok storedMeta ∧
        storedMeta.get "confirmed_counts" = .ok (some (.obj (snapshot.confirmedCounts.map
          fun count => (count.1.value, .int count.2)))) ∧
        storedMeta.get "possible_match_count" = .ok (some (.int snapshot.possibleMatchCount)) ∧
        storedMeta.getItem "warnings" = .ok (strings snapshot.warnings) :=
    ⟨_, rfl, rfl, rfl, rfl⟩
  have hvalidCounts : nullable (validCounts pd) (.obj (snapshot.confirmedCounts.map
      fun count => (count.1.value, .int count.2))) = some (some (snapshot.confirmedCounts.map
        fun count => (count.1.value, (count.2 : ℤ)))) := by
    rw [nullable, validCounts_obj laws]
    · rfl
    · simp
  have hvalidPossible : nullable pd.int (.int snapshot.possibleMatchCount) =
      some (some (snapshot.possibleMatchCount : ℤ)) := by
    rw [nullable, laws.int]
    · rfl
    · simp
  have hraised : ∀ {α : Type} (a : α), raising (.ok a) = (.ok a : Except ReplayError α) :=
    fun _ => rfl
  have hread : ∀ {α : Type} (a : α), validated (some a) = (.ok a : Except ReplayError α) :=
    fun _ => rfl
  rw [replayOf, hsnapshot, replayStored, hjson, hraised, exceptOk_bind, Json.iterate, hraised]
  simp only [hkeyed, hids, hpagination, hmeta, hcounts, hpossible, hwarnings, hnext, hraised,
    exceptOk_bind, hkept, Option.getD_some, hvalidCounts, hvalidPossible, validTexts_strings,
    hvalid, hread, Json.truthy]
  rfl

/-- The replay is that of the page route, with its items validated. -/
theorem replaySearch_validated (laws : pd.Laws py)
    (huuid : ∀ id < 2 ^ 128, cp.uuid (uuidText id) = .ok id) (responseId : ResponseId)
    {stored : Search} {data : List SearchResult}
    (hdata : stored.resultSnapshot.data = data.map (·.plain py))
    (hitems : ∀ item ∈ data, Presentable item) (db : Db) :
    ∃ response, replaySearch cp settings responseId stored db = .ok response ∧
      response.data.mapM (fun items => validResult pd (.obj items)) =
        some (replayOf cp settings responseId stored data db).data ∧
      response.nextCursor = (replayOf cp settings responseId stored data db).nextCursor := by
  have hlookup : ∀ item : SearchResult, (item.plain py).lookup "scholarship_id" =
      some (.str (uuidText item.scholarshipId)) := fun _ => rfl
  have hids : (data.map (·.plain py)).mapM (itemScholarship cp) =
      (Except.ok (data.map (·.scholarshipId)) : Except PyErr _) := by
    rw [List.mapM_map]
    refine mapM_pure_of fun item hitem => ?_
    rw [Function.comp_apply, itemScholarship, hlookup]
    exact huuid _ (hitems item hitem).scholarshipId
  have hfilter : (data.map (·.plain py)).filter (fun items =>
      (publishedTexts db (data.map (·.scholarshipId))).any fun text =>
        (items.lookup "scholarship_id").any (·.eqStr text)) =
          (stillPublished db data).map (·.plain py) := by
    rw [List.filter_map, stillPublished]
    refine congrArg (List.map _) (List.filter_congr fun item hitem => ?_)
    rw [← any_publishedTexts laws hitems db hitem]
    simp only [Function.comp_apply, hlookup, Option.any_some]
  have hkept : replayedItems cp stored.resultSnapshot db =
      .ok ((stillPublished db data).map (·.plain py)) := by
    rw [replayedItems, hdata, hids, exceptOk_bind, ← hfilter]
    rfl
  refine ⟨_, by rw [replaySearch, hkept, exceptOk_bind]; rfl, ?_, rfl⟩
  rw [List.mapM_map]
  exact mapM_pure_of fun item hitem =>
    validResult_plain laws (hitems item (List.mem_filter.mp hitem).1)

/-! ## The results of a search -/

/-- What is read of facts that were built. -/
lemma derived_of_built {countries : CountryVocabulary} {x : CycleInputs} {facts : Json}
    {derived : DerivedFacts} (hbuilt : buildCycleFacts py countries x = .ok facts)
    (hback : ∀ d ∈ x.deadlineAt, py.ReadsBack d) (h : deriveFacts py facts.orEmpty = .ok derived) :
    derived.deadlineAt = x.deadlineAt ∧ ∀ n ∈ derived.expectedReopenMonth, 1 ≤ n ∧ n ≤ 12 := by
  obtain ⟨dict, hdict, rfl⟩ := buildCycleFacts_eq_ok_iff.mp hbuilt
  have hread : safeDeadlineAt py (dict.value "deadline_at") = .ok x.deadlineAt := by
    cases hat : x.deadlineAt with
    | none => simp [FactsDict.value, hdict.deadline, hat, safeDeadlineAt]
    | some d =>
      have hd := hback d hat
      simp [FactsDict.value, hdict.deadline, hat, safeDeadlineAt, hd.text, hd.read]
  rw [FactsDict.orEmpty_toJson, deriveFacts_toJson, hread] at h
  obtain rfl := Except.ok.inj h
  exact ⟨rfl, fun n hn => clampMonth_range hn⟩

variable {db : Db} {columns : CycleId → PublicColumns} {evaluatedAt : Instant}
  {profile : SearchProfile}

lemma presentable_of_matched (hdb : BuiltCycles py db) {cycleId : CycleId}
    (hcycle : cycleId ∈ publishedCycles db searchScanLimit) {item : SearchResult}
    (h : matchedResult py profile db columns evaluatedAt cycleId = .ok (some item)) :
    Presentable item := by
  unfold matchedResult at h
  split at h
  · cases h
  · next row hrow =>
    obtain ⟨decision, -, h⟩ := exceptBind_ok h
    cases decision with
    | none => cases h
    | some decision =>
      obtain ⟨derived, hderived, h⟩ := exceptBind_ok h
      obtain ⟨status, -, h⟩ := exceptBind_ok h
      obtain ⟨detail, -, h⟩ := exceptBind_ok h
      split at h
      · cases h
      · obtain rfl := Option.some.inj (Except.ok.inj h)
        obtain ⟨countries, x, hbuilt, hdeadline⟩ := hdb.facts cycleId hcycle row hrow
        obtain ⟨hid, hscholarship⟩ := hdb.ids cycleId hcycle row hrow
        obtain ⟨hat, hmonth⟩ := derived_of_built hbuilt (fun d hd => (hdeadline d hd).2) hderived
        exact
          { scholarshipId := hscholarship
            cycleId := hid
            verified := hdb.verified cycleId hcycle row hrow
            deadline := fun d hd => (hdeadline d (hat ▸ hd)).1
            month := hmonth }

/-- What a fallible map yields is yielded by one of its arguments. -/
lemma exists_of_mem_mapM {α β : Type} {f : α → Except PyErr β} {l : List α} {results : List β}
    (h : l.mapM f = .ok results) {b : β} (hb : b ∈ results) : ∃ a ∈ l, f a = .ok b := by
  induction l generalizing results with
  | nil =>
    obtain rfl := Except.ok.inj h
    cases hb
  | cons a l ih =>
    rw [List.mapM_cons] at h
    obtain ⟨first, hfirst, h⟩ := exceptBind_ok h
    obtain ⟨rest, hrest, h⟩ := exceptBind_ok h
    obtain rfl := Except.ok.inj h
    rcases List.mem_cons.mp hb with rfl | hb
    · exact ⟨a, List.mem_cons_self, hfirst⟩
    · obtain ⟨a', ha', hb'⟩ := ih hrest hb
      exact ⟨a', List.mem_cons_of_mem a ha', hb'⟩

lemma presentable_of_sorted (hdb : BuiltCycles py db) {matched : List SearchResult}
    (h : sortedMatches py profile db columns evaluatedAt = .ok matched) :
    ∀ item ∈ matched, Presentable item := by
  obtain ⟨found, hfound, h⟩ := exceptBind_ok h
  obtain rfl := Except.ok.inj h
  intro item hitem
  rw [rankResults, List.mem_insertionSort, List.mem_filterMap] at hitem
  obtain ⟨result, hresult, hsome⟩ := hitem
  obtain ⟨cycleId, hcycle, hmatched⟩ := exists_of_mem_mapM hfound hresult
  obtain rfl : result = some item := hsome
  exact presentable_of_matched hdb hcycle hmatched

/-! ## The stored row -/

/-- The row that a response is stored in. -/
structure StoredPage (py : Py) (response : SearchResponse) (row : Search) : Prop where
  data : row.resultSnapshot.data = response.data.map (·.plain py)
  searchId : row.searchId = response.searchId
  evaluatedAt : row.evaluatedAt = response.evaluatedAt
  matchPolicyVersion : row.matchPolicyVersion = response.matchPolicyVersion
  taxonomyVersion : row.taxonomyVersion = response.taxonomyVersion
  confirmedCounts : row.resultSnapshot.confirmedCounts = response.confirmedCounts
  possibleMatchCount : row.resultSnapshot.possibleMatchCount = response.possibleMatchCount
  warnings : row.resultSnapshot.warnings = response.warnings

/-- What is recorded of a response is found in its row. -/
lemma recordSearchResponse_row {sessionId : Option SessionId} {searchId : SearchId}
    {filters : SearchFilters} {digest : String} {snapshot : ResultSnapshot} {evaluatedAt : Instant}
    {pageNumber requestedLimit returnedCount totalMatchCount durationMs : ℕ} {newId : ResponseId}
    {searches : Searches} {result : ResponseId × Searches}
    (h : recordSearchResponse sessionId searchId filters digest snapshot evaluatedAt pageNumber
      requestedLimit returnedCount totalMatchCount durationMs newId searches = .ok result) :
    ∃ row, result.2.row result.1 = some row ∧ row.searchId = searchId ∧
      row.resultSnapshot = snapshot ∧ row.evaluatedAt = evaluatedAt ∧
      row.matchPolicyVersion = snapshot.matchPolicyVersion ∧
      row.taxonomyVersion = snapshot.taxonomyVersion := by
  unfold recordSearchResponse at h
  dsimp only at h
  split at h
  · next existing hfound =>
    obtain rfl := Except.ok.inj h
    obtain ⟨row, hrow, -⟩ := Table.findKey_eq_some hfound
    exact ⟨_, (Table.row_modify_self searches existing _).trans (congrArg (Option.map _) hrow), rfl,
      rfl, rfl, rfl, rfl⟩
  · split at h
    · cases h
    · obtain rfl := Except.ok.inj h
      exact ⟨_, Table.row_insert_self _ _ _, rfl, rfl, rfl, rfl, rfl⟩

lemma storedPage_of_servePage {call : SearchCall} {normalized : NormalizedFilters}
    {sessionId : SessionId} {sessions : Sessions} {place : CursorState}
    {matched : List SearchResult} {store store' : SearchStore} {response : SearchResponse}
    (h : servePage py cp settings call normalized sessionId sessions place matched store =
      .ok (response, store')) :
    (∀ item ∈ response.data, item ∈ matched) ∧
      ∃ row, store'.searches.row response.responseId = some row ∧ StoredPage py response row := by
  unfold servePage at h
  dsimp only at h
  obtain ⟨stored, hstored, h⟩ := exceptBind_ok h
  obtain ⟨rfl, rfl⟩ := Prod.mk.inj (Except.ok.inj h)
  refine ⟨fun item hitem => List.mem_of_mem_drop (List.mem_of_mem_take hitem), ?_⟩
  obtain ⟨row, hrow, hsearch, hsnapshot, hevaluated, hpolicy, htaxonomy⟩ :=
    recordSearchResponse_row hstored
  refine ⟨row, hrow, ?_⟩
  constructor
  case searchId => exact hsearch
  case evaluatedAt => exact hevaluated
  case matchPolicyVersion => exact hpolicy
  case taxonomyVersion => exact htaxonomy
  case data =>
    rw [hsnapshot]
    simp only [buildResultSnapshot, List.map_map]
    exact List.map_congr_left fun item _ => filter_plain item
  case confirmedCounts | possibleMatchCount | warnings =>
    rw [hsnapshot]
    rfl

end

/-- A replay of the first page of a search: the results that are still published, field for field
and in order, with the counts, warnings, versions and time of the response. -/
structure ReplaysResponse (db : Db) (response : SearchResponse) (replayed : ReplayedSearch) :
    Prop where
  data : replayed.data = (stillPublished db response.data).map (·.public)
  searchId : replayed.searchId = response.searchId
  responseId : replayed.responseId = response.responseId
  evaluatedAt : replayed.evaluatedAt = response.evaluatedAt
  matchPolicyVersion : replayed.matchPolicyVersion = response.matchPolicyVersion
  taxonomyVersion : replayed.taxonomyVersion = response.taxonomyVersion
  confirmedCounts : replayed.confirmedCounts = some (response.confirmedCounts.map fun count =>
    (count.1.value, (count.2 : ℤ)))
  possibleMatchCount : replayed.possibleMatchCount = some (response.possibleMatchCount : ℤ)
  warnings : replayed.warnings = response.warnings

/-- **A stored search replays as it was shown**: a response of a search over built cycles has its
row, and whenever the owner of the search asks for that row, at any later state of the catalogue,
it is replayed with what the response showed. -/
theorem stored_search_replays {py : Py} {cp : CursorPy} {settings : SearchSettings}
    {pd : PydanticPy} (laws : pd.Laws py)
    (huuid : ∀ id < 2 ^ 128, cp.uuid (uuidText id) = .ok id) {call : SearchCall}
    {store store' : SearchStore} {response : SearchResponse} (hdb : BuiltCycles py store.db)
    (h : search py cp settings call store = .ok (response, store')) :
    ∃ row, store'.searches.row response.responseId = some row ∧
      ∀ (later : SearchStore) (replay : ReplayCall), replay.allowed = true →
        findReplay replay later = .ok (response.responseId, row) →
          ∃ replayed, getStoredSearch pd py cp settings replay later = .ok replayed ∧
            ReplaysResponse later.db response replayed := by
  obtain ⟨-, normalized, session, place, matched, -, -, -, hmatched, hserve⟩ := search_ok_iff.mp h
  obtain ⟨hmem, row, hrow, hstored⟩ := storedPage_of_servePage hserve
  have hitems : ∀ item ∈ response.data, Presentable item :=
    fun item hitem => presentable_of_sorted hdb hmatched item (hmem item hitem)
  refine ⟨row, hrow, fun later replay hallowed hfound => ?_⟩
  have hreplay := @replayStored_ok py pd cp settings laws huuid response.responseId row
    response.data hstored.data hitems later.db
  refine ⟨replayOf cp settings response.responseId row response.data later.db, ?_, ?_⟩
  · rw [getStoredSearch, if_neg (not_not.mpr hallowed), hfound]
    simp only [bind, Except.bind, hreplay]
  · constructor
    case data | responseId => rfl
    case searchId => exact hstored.searchId
    case evaluatedAt => exact hstored.evaluatedAt
    case matchPolicyVersion => exact hstored.matchPolicyVersion
    case taxonomyVersion => exact hstored.taxonomyVersion
    case confirmedCounts => rw [replayOf, hstored.confirmedCounts]
    case possibleMatchCount => rw [replayOf, hstored.possibleMatchCount]
    case warnings => rw [replayOf, hstored.warnings]

/-! ## A search that is replayed -/

namespace Sample

/-- The texts of the timestamps that do not occur. -/
def wallText (d : DateTime) : List Char :=
  Nat.toDigits 10 d.wall.toNat ++
    match d.offset with
    | none => []
    | some offset => (if offset < 0 then '-' else '+') :: Nat.toDigits 10 offset.natAbs

def readWall (cs : List Char) : DateTime :=
  let wall := readNat cs
  { wall := wall.1
    offset := match wall.2 with
      | [] => none
      | sign :: rest =>
        let size : ℤ := (readNat rest).1
        some (if sign = '-' then -size else size) }

def replayPy : Py := { searchPy with
  fromisoformat := fun s =>
    if s = deadlineText then .ok deadline else valueError "Invalid isoformat string"
  isoformat := fun d =>
    if d = deadline then deadlineText
    else if d = midnight then midnightText
    else String.ofList (wallText d) }

/-- Pydantic, on the texts that the runtime writes. -/
def pydanticPy : PydanticPy where
  uuid := fun
    | .str s => some (readUuid s)
    | _ => none
  datetime := fun
    | .str s =>
      if s = deadlineText then some deadline
      else if s = midnightText then some midnight
      else some (readWall s.toList)
    | _ => none
  int := fun
    | .int n => some n
    | _ => none

lemma readWall_wallText {d : DateTime} (h : 0 ≤ d.wall) : readWall (wallText d) = d := by
  obtain ⟨wall, offset⟩ := d
  have hwall : ((wall.toNat : ℕ) : ℤ) = wall := Int.toNat_of_nonneg h
  cases offset with
  | none =>
    rw [wallText, readWall, readNat_toDigits _ (by simp)]
    simp only [hwall]
  | some offset =>
    have hsign : ∀ c ∈ ((if offset < 0 then '-' else '+') ::
        Nat.toDigits 10 offset.natAbs).head?, c.isDigit = false := by
      rintro c ⟨⟩
      split <;> rfl
    have hsize : readNat (Nat.toDigits 10 offset.natAbs) = (offset.natAbs, []) := by
      have hread := @readNat_toDigits offset.natAbs [] (by simp)
      rwa [List.append_nil] at hread
    have hoffset : (if (if offset < 0 then '-' else '+') = '-' then -(offset.natAbs : ℤ)
        else offset.natAbs) = offset := by
      by_cases hneg : offset < 0
      · rw [if_pos hneg, if_pos rfl]
        exact neg_eq_iff_eq_neg.mpr (Int.ofNat_natAbs_of_nonpos hneg.le)
      · rw [if_neg hneg, if_neg (by decide)]
        exact Int.natAbs_of_nonneg (not_lt.mp hneg)
    rw [wallText, readWall, readNat_toDigits _ hsign]
    simp only [hwall, hsize, hoffset]

/-- No other timestamp has the text of one of the two that occur. -/
lemma wallText_ne (d : DateTime) : String.ofList (wallText d) ≠ deadlineText ∧
    String.ofList (wallText d) ≠ midnightText := by
  have hcolon : ':' ∉ wallText d := by
    have hdigits : ∀ n, ':' ∉ Nat.toDigits 10 n := by
      intro n hmem
      cases Nat.isDigit_of_mem_toDigits (by decide) (by decide) hmem
    intro hmem
    rcases List.mem_append.mp hmem with hmem | hmem
    · exact hdigits _ hmem
    · split at hmem
      · cases hmem
      · rcases List.mem_cons.mp hmem with hsign | hmem
        · split at hsign <;> cases hsign
        · exact hdigits _ hmem
  constructor
  · intro h
    rw [← String.toList_inj, String.toList_ofList] at h
    rw [h] at hcolon
    exact hcolon (by decide)
  · intro h
    rw [← String.toList_inj, String.toList_ofList] at h
    rw [h] at hcolon
    exact hcolon (by decide)

lemma pydanticPy_laws : pydanticPy.Laws replayPy where
  uuid_text := by
    intro id hid
    change some (readUuid (uuidText id)) = some id
    rw [readUuid_uuidText hid]
  datetime_isoformat := by
    intro d hd
    have hiso : replayPy.isoformat d = if d = deadline then deadlineText
        else if d = midnight then midnightText else String.ofList (wallText d) := rfl
    have hread : ∀ s, pydanticPy.datetime (.str s) =
        if s = deadlineText then some deadline
        else if s = midnightText then some midnight
        else some (readWall s.toList) := fun _ => rfl
    rw [hiso, hread]
    by_cases hdeadline : d = deadline
    · rw [if_pos hdeadline, if_pos rfl, hdeadline]
    · rw [if_neg hdeadline]
      by_cases hmidnight : d = midnight
      · rw [if_pos hmidnight, if_neg (by decide), if_pos rfl, hmidnight]
      · rw [if_neg hmidnight, if_neg (wallText_ne d).1, if_neg (wallText_ne d).2,
          String.toList_ofList, readWall_wallText hd.low]
  int := fun _ => rfl

/-- Two calls with a deadline, of two scholarships. -/
def replayCycle (scholarshipId : ScholarshipId) : ScholarshipCycle :=
  { cycle with scholarshipId := scholarshipId, facts := published }

def replayDb : Db := { Sample.db cycle with
  scholarships := (Table.empty.insert 1 ⟨.published⟩).insert 2 ⟨.published⟩
  cycles := (Table.empty.insert 1 (replayCycle 1)).insert 2 (replayCycle 2) }

def replayStore : SearchStore := { searchStore with db := replayDb }

/-- The catalogue after the first scholarship was withdrawn. -/
def withdrawnDb : Db := { replayDb with
  scholarships := (Table.empty.insert 1 ⟨.withdrawn⟩).insert 2 ⟨.published⟩ }

/-- What is shown of a call. -/
def replayItem (id : ℕ) : SearchResult := { searchItem id with
  scholarshipId := id
  eligibilityNote := some "Not for UK nationals"
  fieldNames := ["Law", "Technology"]
  fields := ["law", "technology"]
  programmeNames := ["Robotics"]
  deadlineAt := some deadline
  deadlinePrecision := some .datetime
  expectedReopenMonth := some 6
  fundingType := some "fully_funded" }

/-- The first page has both results. -/
def replayedCall : SearchCall := { searchCall 1 none none with
  request := { searchBody with limit := 2, one_le_limit := by decide, limit_le := by decide } }

lemma replayStore_matches :
    sortedMatches replayPy searchFilters.profile replayStore.db replayStore.columns start =
      .ok [replayItem 1, replayItem 2] := by
  decide +kernel

lemma replayDb_built : BuiltCycles replayPy replayDb := by
  have hrows : ∀ cycleId ∈ publishedCycles replayDb searchScanLimit, ∀ row,
      replayDb.cycles.row cycleId = some row →
        (cycleId = 1 ∧ row = replayCycle 1) ∨ (cycleId = 2 ∧ row = replayCycle 2) := by
    intro cycleId _ row hrow
    have hcycles : replayDb.cycles.row cycleId = if cycleId = 2 then some (replayCycle 2)
        else if cycleId = 1 then some (replayCycle 1) else none := by
      change ((Table.empty.insert 1 (replayCycle 1)).insert 2 (replayCycle 2)).row cycleId = _
      rw [Table.row_insert, Table.row_insert]
      rfl
    rw [hcycles] at hrow
    split at hrow
    · next hid => exact Or.inr ⟨hid, (Option.some.inj hrow).symm⟩
    · split at hrow
      · next hid => exact Or.inl ⟨hid, (Option.some.inj hrow).symm⟩
      · cases hrow
  have hbuilt : buildCycleFacts replayPy countries arguments.toInputs = .ok published := by
    rfl
  have hdeadline : deadline.WholeMinutes ∧ replayPy.ReadsBack deadline := by
    refine ⟨⟨by decide, by decide, ?_⟩, rfl, by decide⟩
    rintro offset ⟨⟩
    exact ⟨rfl, by decide⟩
  constructor
  · intro cycleId hcycle row hrow
    refine ⟨countries, arguments.toInputs, ?_, ?_⟩
    · rcases hrows cycleId hcycle row hrow with ⟨-, rfl⟩ | ⟨-, rfl⟩
      · exact hbuilt
      · exact hbuilt
    · rintro d ⟨⟩
      exact hdeadline
  · intro cycleId hcycle row hrow
    rcases hrows cycleId hcycle row hrow with ⟨rfl, rfl⟩ | ⟨rfl, rfl⟩
    · exact ⟨by norm_num, by norm_num [replayCycle]⟩
    · exact ⟨by norm_num, by norm_num [replayCycle]⟩
  · intro cycleId hcycle row hrow t ht
    have hstart : t = start := by
      rcases hrows cycleId hcycle row hrow with ⟨-, rfl⟩ | ⟨-, rfl⟩
      · exact (Option.some.inj ht).symm
      · exact (Option.some.inj ht).symm
    rw [hstart]
    decide

end Sample

/-- Of two results that were shown, the one that is still published is replayed. -/
theorem withdrawn_result_left_out :
    ∃ response store', search Sample.replayPy Sample.cursorPy Sample.searchSettings
        Sample.replayedCall Sample.replayStore = .ok (response, store') ∧
      response.data = [Sample.replayItem 1, Sample.replayItem 2] ∧
      ∃ replayed, getStoredSearch Sample.pydanticPy Sample.replayPy Sample.cursorPy
          Sample.searchSettings ⟨1, some (uuidText 1), true, Sample.start, Sample.start⟩
          { store' with db := Sample.withdrawnDb } = .ok replayed ∧
        replayed.data = [(Sample.replayItem 2).public] := by
  obtain ⟨response, store', hserve⟩ := @servePage_exists Sample.replayPy Sample.cursorPy
    Sample.searchSettings Sample.replayedCall Sample.searchFilters 1
    (Table.empty.insert 1 ⟨uuidText 1, Sample.start + sessionTtl⟩) ⟨0, 1⟩
    [Sample.replayItem 1, Sample.replayItem 2] Sample.replayStore rfl
  have hsearch : search Sample.replayPy Sample.cursorPy Sample.searchSettings
      Sample.replayedCall Sample.replayStore = .ok (response, store') :=
    search_ok_iff.mpr ⟨rfl, Sample.searchFilters, _, ⟨0, 1⟩, _, rfl, rfl, rfl,
      Sample.replayStore_matches, hserve⟩
  obtain ⟨hsessions, -, row', hserved⟩ := servePage_ok hserve
  obtain ⟨row, hrow, hreplays⟩ := stored_search_replays Sample.pydanticPy_laws
    Sample.cursorPy_laws.uuid_text Sample.replayDb_built hsearch
  have hdata : response.data = [Sample.replayItem 1, Sample.replayItem 2] := hserved.data
  -- the row is the only one, and the owner of the session asks for it
  have hinsert : response.responseId = 1 ∧ store'.searches = Table.empty.insert 1 row' := by
    rcases hserved.written with ⟨hfound, -⟩ | ⟨-, hid, -, hinsert⟩
    · cases hfound
    · exact ⟨hid, hinsert⟩
  have hsame : row = row' := by
    rw [hinsert.1, hinsert.2, Table.row_insert_self] at hrow
    exact (Option.some.inj hrow).symm
  have hreplayable : Search.replayable 1 1 Sample.start row' = true := by
    refine decide_eq_true ⟨hserved.searchId, hserved.session, hserved.pageNumber, ?_⟩
    rw [hserved.expiresAt]
    decide
  have hfound : findReplay ⟨1, some (uuidText 1), true, Sample.start, Sample.start⟩
      { store' with db := Sample.withdrawnDb } = .ok (response.responseId, row) := by
    have hsession : getExistingSession (some (uuidText 1)) Sample.start store'.sessions =
        some 1 := by
      rw [hsessions]
      decide +kernel
    have hkey : store'.searches.findKey (Search.replayable 1 1 Sample.start) = some 1 := by
      rw [hinsert.2, Table.findKey_insert_of_none rfl rfl, if_pos hreplayable]
    have hrow' : store'.searches.row 1 = some row' := by
      rw [hinsert.2, Table.row_insert_self]
    simp only [findReplay, hsession, hkey, hrow', hinsert.1, hsame]
  obtain ⟨replayed, hreplayed, hshown⟩ := hreplays _ _ rfl hfound
  refine ⟨response, store', hsearch, hdata, replayed, hreplayed, ?_⟩
  rw [hshown.data, hdata]
  rfl

end ScholarshipFinder
