import ScholarshipFinder.Domain.Matching
import ScholarshipFinder.Infra.FactsColumn
import ScholarshipFinder.Sample.Text
import ScholarshipFinder.Status.ReadPath

/-!
# One match, decided twice

Search matches a profile against the stored facts, and the detail route against the sanitised ones.
Both normalise destinations, levels and fields to the same sets.  They differ on what search takes
as it is stored: a mode outside the contract is neither known nor unknown to it, an origin that is
no string is compared by its text, and any truthy `evidence_fresh` counts as fresh.
-/

namespace ScholarshipFinder

variable (py : Py)

/-! ## What matching reads -/

/-- The parts of the facts that a match is decided on. -/
structure MatchReading where
  destinations : Finset String
  levels : Finset String
  originMode : Json
  origins : Finset String
  fieldMode : Json
  fields : Finset String
  fresh : Bool

/-- What is read from a facts object. -/
def matchReading (items : List (String × Json)) : MatchReading where
  destinations := normalisedItems py "destinations" (items.lookup "destinations")
  levels := normalisedItems py "levels" (items.lookup "levels")
  originMode := orUnknown (items.lookup "origin_mode")
  origins := normalisedItems py "origins" (items.lookup "origins")
  fieldMode := orUnknown (items.lookup "field_mode")
  fields := normalisedItems py "fields" (items.lookup "fields")
  fresh := ((items.lookup "evidence_fresh").getD (.bool false)).truthy

variable (profile : SearchProfile)

/-- The searcher's country is among the origins. -/
def MatchReading.originListed (r : MatchReading) : Bool :=
  normalise py profile.originCountry ∈ r.origins

/-- A field of the profile is among the fields. -/
def MatchReading.fieldCompatible (r : MatchReading) : Bool :=
  (profile.fields.map (normaliseAll py)).any fun accepted => r.fields ∩ accepted ≠ ∅

/-- The gates of destination, level and field are passed. -/
structure MatchReading.Admits (r : MatchReading) : Prop where
  destination : r.destinations ∩ normaliseAll py profile.targetCountries ≠ ∅
  level : normaliseAll py profile.programLevels ∩ r.levels ≠ ∅
  field : ¬ (r.fieldMode.eqStr "restricted" ∧
    (profile.fields.map (normaliseAll py)).any fun accepted => r.fields ∩ accepted = ∅)

/-- The gate of the origin is passed. -/
def MatchReading.OriginPasses (r : MatchReading) : Prop :=
  r.originMode.eqStr "restricted" → r.originListed py profile

/-- The decision with this certainty and these reasons. -/
def decisionOf (possible field origin fresh : Bool) : MatchDecision where
  fit := if possible then .possible else .confirmed
  score := (if field then 25 else 0) + (if origin then 15 else 0) + if fresh then 10 else 0
  reasonCodes := (if field then ["field_compatible"] else []) ++
    (if origin then ["origin_eligible"] else []) ++
    if fresh then ["fresh_verified_evidence"] else []
  caveats := if possible then ["Some eligibility conditions need checking."] else []

/-- The decision for a reading that passes the gates. -/
def MatchReading.decision (r : MatchReading) : MatchDecision :=
  decisionOf (r.originMode.eqStr "unknown" || r.fieldMode.eqStr "unknown")
    (r.fieldMode.eqStr "all" || r.fieldCompatible py profile)
    (r.originMode.eqStr "unrestricted" || r.originListed py profile) r.fresh

variable {py profile}

/-- A decision tells its certainty and its reasons. -/
lemma decisionOf_inj : ∀ {p f o e p' o' e' : Bool},
    decisionOf p f o e = decisionOf p' f o' e' ↔ p = p' ∧ o = o' ∧ e = e' := by
  decide

/-- The decision on a reading. -/
inductive MatchReading.Decides (py : Py) (profile : SearchProfile) (r : MatchReading) :
    Option MatchDecision → Prop
  | refused (h : ¬ (r.Admits py profile ∧ r.OriginPasses py profile)) : r.Decides py profile none
  | matched (admits : r.Admits py profile) (origin : r.OriginPasses py profile) :
      r.Decides py profile (some (r.decision py profile))

variable (py profile) in
/-- A match is decided on the reading alone, by its gates and then its score. -/
theorem evaluateMatch_obj (items : List (String × Json)) :
    ∃ decided, evaluateMatch py profile (.obj items) = .ok decided ∧
      (matchReading py items).Decides py profile decided := by
  simp only [evaluateMatch, normalisedSet, Json.get, bind, Except.bind, pure, Except.pure]
  split
  · next h => exact ⟨none, rfl, .refused fun h' => h'.1.destination h⟩
  · next hdestination =>
    split
    · next h => exact ⟨none, rfl, .refused fun h' => h'.1.level h⟩
    · next hlevel =>
      split
      · next h =>
        refine ⟨none, rfl, .refused fun h' => ?_⟩
        have horigin := h'.2 h.1
        rw [MatchReading.originListed, decide_eq_true_eq] at horigin
        exact h.2 horigin
      · next horigin =>
        split
        · next h => exact ⟨none, rfl, .refused fun h' => h'.1.field h⟩
        · next hfield =>
          refine ⟨_, rfl, .matched ⟨hdestination, hlevel, hfield⟩ fun hrestricted => ?_⟩
          rw [MatchReading.originListed, decide_eq_true_eq]
          by_contra hlisted
          exact horigin ⟨hrestricted, hlisted⟩

lemma MatchReading.Decides.unique {r : MatchReading} {d d' : Option MatchDecision}
    (h : r.Decides py profile d) (h' : r.Decides py profile d') : d = d' := by
  cases h with
  | refused hnot =>
    cases h' with
    | refused _ => rfl
    | matched admits origin => exact absurd ⟨admits, origin⟩ hnot
  | matched admits origin =>
    cases h' with
    | refused hnot => exact absurd ⟨admits, origin⟩ hnot
    | matched _ _ => rfl

/-! ## What sanitising changes of it -/

lemma normalisedItems_levels (value : Option Json) :
    normalisedItems py "levels" value =
      (taxonomy.normalizeDegrees py (stringList value)).1.toFinset := by
  rcases value with _ | value
  · rfl
  · cases value <;> rfl

lemma normalisedItems_fields (value : Option Json) :
    normalisedItems py "fields" value =
      (taxonomy.normalizeFields py (stringList value)).1.toFinset := by
  rcases value with _ | value
  · rfl
  · cases value <;> rfl

/-- Normalising what was normalised changes nothing. -/
lemma normalizeDegrees_idem (hpy : py.TextLaws) (values : List String) :
    (taxonomy.normalizeDegrees py (taxonomy.normalizeDegrees py values).1).1 =
      (taxonomy.normalizeDegrees py values).1 := by
  obtain ⟨hsorted, hfound⟩ := normalizeCodes_spec values (taxonomy.degree py)
  refine normalizeCodes_eq_self hsorted fun c hc => ?_
  obtain ⟨v, hv⟩ := hfound c hc
  exact taxonomy_degree_fixed hpy hv

lemma normalizeFields_idem (hpy : py.TextLaws) (values : List String) :
    (taxonomy.normalizeFields py (taxonomy.normalizeFields py values).1).1 =
      (taxonomy.normalizeFields py values).1 := by
  obtain ⟨hsorted, hfound⟩ := normalizeCodes_spec values (taxonomy.field py)
  refine normalizeCodes_eq_self hsorted fun c hc => ?_
  obtain ⟨v, hv⟩ := hfound c hc
  exact taxonomy_field_fixed hpy hv

/-- Destinations are compared by their texts, which sanitising keeps. -/
lemma normalisedItems_destinations (value : Option Json) :
    normalisedItems py "destinations" (some (strings (destinationStrings py value))) =
      normalisedItems py "destinations" value := by
  rcases value with _ | value
  · rfl
  · cases value with
    | arr items =>
      show ((destinationStrings py (some (.arr items))).map Json.str |>.map _).toFinset =
        (items.map _).toFinset
      ext name
      simp only [List.mem_toFinset, List.mem_map, destinationStrings, mem_sortedSet, Py.strOf]
      constructor
      · rintro ⟨_, ⟨text, ⟨item, hitem, rfl⟩, rfl⟩, rfl⟩
        exact ⟨item, hitem, rfl⟩
      · rintro ⟨item, hitem, rfl⟩
        exact ⟨_, ⟨_, ⟨item, hitem, rfl⟩, rfl⟩, rfl⟩
    | _ => rfl

/-- The origins that are strings. -/
def originNames (py : Py) (value : Option Json) : Finset String :=
  ((stringList value).map (normalise py)).toFinset

lemma normalisedItems_origins (names : List String) :
    normalisedItems py "origins" (some (strings names)) =
      (names.map (normalise py)).toFinset := by
  show ((names.map Json.str).map _).toFinset = _
  rw [List.map_map]
  rfl

variable (py) in
/-- What is read from the sanitised facts, by what is read from the stored ones. -/
def sanitisedReading (items : List (String × Json)) : MatchReading :=
  { matchReading py items with
    originMode := .str (clampOriginMode (items.lookup "origin_mode")).value
    origins := originNames py (items.lookup "origins")
    fieldMode := .str (clampFieldMode (items.lookup "field_mode")).value
    fresh := (items.lookup "evidence_fresh").any clampBool }

/-- A facts object can be sanitised, and this is what matching reads from it then. -/
theorem deriveFacts_reading (hpy : py.TextLaws) (hiso : py.IsoLaws)
    (items : List (String × Json)) :
    ∃ f, deriveFacts py (.obj items) = .ok f ∧
      matchReading py (f.dict py).items = sanitisedReading py items := by
  obtain ⟨deadlineAt, hread, -⟩ := safeDeadlineAt_total hiso (items.lookup "deadline_at")
  have hlookup : ∀ (d : FactsDict) key, d.items.lookup key = d.value key := fun d key =>
    Except.ok.inj (FactsDict.get_toJson d key)
  simp only [deriveFacts, Json.get, bind, Except.bind, hread]
  refine ⟨_, rfl, ?_⟩
  simp only [matchReading, sanitisedReading, hlookup, FactsDict.value, DerivedFacts.dict,
    normalisedItems_destinations, normalisedItems_levels, normalisedItems_fields,
    normalisedItems_origins, stringList_strings, normalizeDegrees_idem hpy,
    normalizeFields_idem hpy]
  have horigin : ∀ mode : OriginMode,
      orUnknown (some (.str mode.value)) = .str mode.value := by
    intro mode
    cases mode <;> rfl
  have hfield : ∀ mode : FieldMode, orUnknown (some (.str mode.value)) = .str mode.value := by
    intro mode
    cases mode <;> rfl
  rw [horigin, hfield]
  rcases items.lookup "evidence_fresh" with _ | value
  · rfl
  · cases value <;> rfl

/-! ## The modes -/

/-- The mode is missing, falsy or `"unknown"`. -/
def Unstated (mode : Option Json) : Prop := (orUnknown mode).eqStr "unknown" = true

/-- The mode is a truthy value outside the contract's literals. -/
def Garbled (literals : List String) (mode : Option Json) : Prop :=
  ¬ Unstated mode ∧ ∀ s ∈ literals, mode ≠ some (.str s)

lemma orUnknown_eqStr_iff {mode : Option Json} {s : String} (hempty : s ≠ "")
    (hunknown : s ≠ "unknown") : (orUnknown mode).eqStr s = true ↔ mode = some (.str s) := by
  have hfalse : (Json.str "unknown").eqStr s ≠ true := by
    simpa [Json.eqStr] using hunknown.symm
  rcases mode with _ | value
  · simp [orUnknown, hfalse]
  · rw [orUnknown]
    by_cases htruthy : value.truthy = true
    · rw [if_pos htruthy]
      cases value <;> simp [Json.eqStr]
    · rw [if_neg htruthy]
      refine ⟨fun h => absurd h hfalse, ?_⟩
      rintro ⟨⟩
      exact absurd (by simpa [Json.truthy] using hempty) htruthy

lemma clampOriginMode_restricted_iff (mode : Option Json) :
    clampOriginMode mode = .restricted ↔ mode = some (.str "restricted") := by
  unfold clampOriginMode
  split <;> simp_all

lemma clampOriginMode_unrestricted_iff (mode : Option Json) :
    clampOriginMode mode = .unrestricted ↔ mode = some (.str "unrestricted") := by
  unfold clampOriginMode
  split <;> simp_all

lemma clampFieldMode_restricted_iff (mode : Option Json) :
    clampFieldMode mode = .restricted ↔ mode = some (.str "restricted") := by
  unfold clampFieldMode
  split <;> simp_all

lemma clampFieldMode_all_iff (mode : Option Json) :
    clampFieldMode mode = .all ↔ mode = some (.str "all") := by
  unfold clampFieldMode
  split <;> simp_all

/-- A clamped origin mode gates and scores as the stored one does. -/
lemma clampOriginMode_eqStr (mode : Option Json) :
    (Json.str (clampOriginMode mode).value).eqStr "restricted" =
        (orUnknown mode).eqStr "restricted" ∧
      (Json.str (clampOriginMode mode).value).eqStr "unrestricted" =
        (orUnknown mode).eqStr "unrestricted" := by
  constructor
  · rw [Bool.eq_iff_iff, orUnknown_eqStr_iff (by decide) (by decide),
      ← clampOriginMode_restricted_iff]
    cases clampOriginMode mode <;> decide
  · rw [Bool.eq_iff_iff, orUnknown_eqStr_iff (by decide) (by decide),
      ← clampOriginMode_unrestricted_iff]
    cases clampOriginMode mode <;> decide

/-- It is unknown also where the stored one is garbled. -/
lemma clampOriginMode_unknown_iff (mode : Option Json) :
    (Json.str (clampOriginMode mode).value).eqStr "unknown" = true ↔
      Unstated mode ∨ Garbled ["restricted", "unrestricted"] mode := by
  cases h : clampOriginMode mode with
  | restricted =>
    rw [(clampOriginMode_restricted_iff mode).mp h]
    simp [OriginMode.value, Unstated, Garbled, orUnknown, Json.truthy, Json.eqStr]
  | unrestricted =>
    rw [(clampOriginMode_unrestricted_iff mode).mp h]
    simp [OriginMode.value, Unstated, Garbled, orUnknown, Json.truthy, Json.eqStr]
  | unknown =>
    have hrestricted : mode ≠ some (.str "restricted") := fun heq => by
      rw [(clampOriginMode_restricted_iff mode).mpr heq] at h
      cases h
    have hunrestricted : mode ≠ some (.str "unrestricted") := fun heq => by
      rw [(clampOriginMode_unrestricted_iff mode).mpr heq] at h
      cases h
    refine ⟨fun _ => ?_, fun _ => rfl⟩
    by_cases hunstated : Unstated mode
    · exact Or.inl hunstated
    · exact Or.inr ⟨hunstated, by simp [hrestricted, hunrestricted]⟩

lemma clampFieldMode_eqStr (mode : Option Json) :
    (Json.str (clampFieldMode mode).value).eqStr "restricted" =
        (orUnknown mode).eqStr "restricted" ∧
      (Json.str (clampFieldMode mode).value).eqStr "all" = (orUnknown mode).eqStr "all" := by
  constructor
  · rw [Bool.eq_iff_iff, orUnknown_eqStr_iff (by decide) (by decide),
      ← clampFieldMode_restricted_iff]
    cases clampFieldMode mode <;> decide
  · rw [Bool.eq_iff_iff, orUnknown_eqStr_iff (by decide) (by decide), ← clampFieldMode_all_iff]
    cases clampFieldMode mode <;> decide

lemma clampFieldMode_unknown_iff (mode : Option Json) :
    (Json.str (clampFieldMode mode).value).eqStr "unknown" = true ↔
      Unstated mode ∨ Garbled ["restricted", "all"] mode := by
  cases h : clampFieldMode mode with
  | restricted =>
    rw [(clampFieldMode_restricted_iff mode).mp h]
    simp [FieldMode.value, Unstated, Garbled, orUnknown, Json.truthy, Json.eqStr]
  | all =>
    rw [(clampFieldMode_all_iff mode).mp h]
    simp [FieldMode.value, Unstated, Garbled, orUnknown, Json.truthy, Json.eqStr]
  | unknown =>
    have hrestricted : mode ≠ some (.str "restricted") := fun heq => by
      rw [(clampFieldMode_restricted_iff mode).mpr heq] at h
      cases h
    have hall : mode ≠ some (.str "all") := fun heq => by
      rw [(clampFieldMode_all_iff mode).mpr heq] at h
      cases h
    refine ⟨fun _ => ?_, fun _ => rfl⟩
    by_cases hunstated : Unstated mode
    · exact Or.inl hunstated
    · exact Or.inr ⟨hunstated, by simp [hrestricted, hall]⟩

/-! ## When both decide alike -/

variable (py profile) in
/-- What search takes as it is stored makes no difference to this profile.  The three conditions
are about the keys whose values `derive_facts` clamps. -/
structure ReadsTheSame (items : List (String × Json)) : Prop where
  /-- An origin that is no string is not what admits the searcher. -/
  origin : items.lookup "origin_mode" ≠ some (.str "unrestricted") →
    (matchReading py items).originListed py profile →
      normalise py profile.originCountry ∈ originNames py (items.lookup "origins")
  /-- Where a mode is garbled, there is one that is not stated. -/
  modes : (matchReading py items).OriginPasses py profile →
    Garbled ["restricted", "unrestricted"] (items.lookup "origin_mode") ∨
        Garbled ["restricted", "all"] (items.lookup "field_mode") →
      Unstated (items.lookup "origin_mode") ∨ Unstated (items.lookup "field_mode")
  /-- Only `true` is truthy. -/
  fresh : (matchReading py items).OriginPasses py profile →
    ∀ value ∈ items.lookup "evidence_fresh", value.truthy → value = .bool true

/-- The three gates do not look at what is clamped. -/
lemma sanitisedReading_admits (items : List (String × Json)) :
    (sanitisedReading py items).Admits py profile ↔ (matchReading py items).Admits py profile := by
  have hmode := (clampFieldMode_eqStr (items.lookup "field_mode")).1
  constructor
  · rintro ⟨hdestination, hlevel, hfield⟩
    refine ⟨hdestination, hlevel, fun h => hfield ⟨?_, h.2⟩⟩
    exact hmode.trans h.1
  · rintro ⟨hdestination, hlevel, hfield⟩
    refine ⟨hdestination, hlevel, fun h => hfield ⟨?_, h.2⟩⟩
    exact hmode.symm.trans h.1

lemma originListed_of_names {items : List (String × Json)}
    (h : normalise py profile.originCountry ∈ originNames py (items.lookup "origins")) :
    (matchReading py items).originListed py profile := by
  rw [MatchReading.originListed, decide_eq_true_eq]
  rw [originNames, List.mem_toFinset, List.mem_map] at h
  obtain ⟨name, hname, heq⟩ := h
  rcases hstored : items.lookup "origins" with _ | value
  · simp [hstored, stringList] at hname
  · rw [hstored] at hname
    cases value with
    | arr values =>
      obtain ⟨value, hvalue, hstr⟩ := List.mem_filterMap.mp hname
      show _ ∈ normalisedItems py "origins" (items.lookup "origins")
      rw [hstored]
      show _ ∈ (values.map fun value => normalise py (py.strOf value)).toFinset
      rw [List.mem_toFinset, List.mem_map]
      refine ⟨value, hvalue, ?_⟩
      cases value with
      | str s =>
        obtain rfl := Option.some.inj hstr
        exact heq
      | _ => cases hstr
    | _ => exact absurd hname List.not_mem_nil

lemma any_clampBool_eq_truthy_iff (value : Option Json) :
    value.any clampBool = (value.getD (.bool false)).truthy ↔
      ∀ v ∈ value, v.truthy → v = .bool true := by
  rcases value with _ | value
  · simp [Json.truthy]
  · cases value with
    | bool b => cases b <;> simp [clampBool, Json.truthy]
    | _ => simp [clampBool]

lemma originListed_sanitised (items : List (String × Json)) :
    (sanitisedReading py items).originListed py profile = true ↔
      normalise py profile.originCountry ∈ originNames py (items.lookup "origins") :=
  decide_eq_true_iff

/-- Whom the sanitised origins admit, the stored ones admit. -/
lemma originPasses_of_sanitised {items : List (String × Json)}
    (h : (sanitisedReading py items).OriginPasses py profile) :
    (matchReading py items).OriginPasses py profile := fun hrestricted =>
  originListed_of_names ((originListed_sanitised items).mp
    (h ((clampOriginMode_eqStr (items.lookup "origin_mode")).1.trans hrestricted)))

/-- Behind the gates, the three conditions are all that the two decisions depend on. -/
lemma decision_eq_iff (items : List (String × Json)) :
    (matchReading py items).decision py profile = (sanitisedReading py items).decision py profile ↔
      (Garbled ["restricted", "unrestricted"] (items.lookup "origin_mode") ∨
          Garbled ["restricted", "all"] (items.lookup "field_mode") →
        Unstated (items.lookup "origin_mode") ∨ Unstated (items.lookup "field_mode")) ∧
      (items.lookup "origin_mode" ≠ some (.str "unrestricted") →
        (matchReading py items).originListed py profile →
          normalise py profile.originCountry ∈ originNames py (items.lookup "origins")) ∧
      ∀ value ∈ items.lookup "evidence_fresh", value.truthy → value = .bool true := by
  have hfield : ((sanitisedReading py items).fieldMode.eqStr "all" ||
      (sanitisedReading py items).fieldCompatible py profile) =
      ((matchReading py items).fieldMode.eqStr "all" ||
        (matchReading py items).fieldCompatible py profile) :=
    congrArg (· || _) (clampFieldMode_eqStr (items.lookup "field_mode")).2
  have horiginUnknown := clampOriginMode_unknown_iff (items.lookup "origin_mode")
  have hfieldUnknown := clampFieldMode_unknown_iff (items.lookup "field_mode")
  rw [MatchReading.decision, MatchReading.decision, hfield, decisionOf_inj]
  refine and_congr ?_ (and_congr ?_ ?_)
  · rw [Bool.eq_iff_iff, Bool.or_eq_true, Bool.or_eq_true]
    show (Unstated (items.lookup "origin_mode") ∨ Unstated (items.lookup "field_mode") ↔
      (Json.str (clampOriginMode (items.lookup "origin_mode")).value).eqStr "unknown" = true ∨
        (Json.str (clampFieldMode (items.lookup "field_mode")).value).eqStr "unknown" = true) ↔ _
    rw [horiginUnknown, hfieldUnknown]
    tauto
  · have hmode : (sanitisedReading py items).originMode.eqStr "unrestricted" =
        (matchReading py items).originMode.eqStr "unrestricted" :=
      (clampOriginMode_eqStr (items.lookup "origin_mode")).2
    have hiff : (matchReading py items).originMode.eqStr "unrestricted" = true ↔
        items.lookup "origin_mode" = some (.str "unrestricted") :=
      orUnknown_eqStr_iff (by decide) (by decide)
    rw [hmode]
    by_cases hunrestricted : items.lookup "origin_mode" = some (.str "unrestricted")
    · rw [hiff.mpr hunrestricted]
      exact ⟨fun _ hne => absurd hunrestricted hne, fun _ => rfl⟩
    · rw [Bool.eq_false_iff.mpr fun h => hunrestricted (hiff.mp h), Bool.false_or, Bool.false_or,
        Bool.eq_iff_iff, originListed_sanitised]
      exact ⟨fun h _ => h.mp, fun h => ⟨h hunrestricted, originListed_of_names⟩⟩
  · exact eq_comm.trans (any_clampBool_eq_truthy_iff _)

/-- Search and the detail route decide alike exactly if, for a cycle that passes the other gates,
what search takes as it is stored makes no difference. -/
theorem sameMatch_iff (hpy : py.TextLaws) (hiso : py.IsoLaws) (profile : SearchProfile)
    (items : List (String × Json)) :
    ∃ f stored shown, deriveFacts py (.obj items) = .ok f ∧
      evaluateMatch py profile (.obj items) = .ok stored ∧
      evaluateMatch py profile (f.sanitizedDict py) = .ok shown ∧
      (stored = shown ↔
        ((matchReading py items).Admits py profile → ReadsTheSame py profile items)) := by
  obtain ⟨f, hf, hreading⟩ := deriveFacts_reading hpy hiso items
  obtain ⟨stored, hstored, hdecides⟩ := evaluateMatch_obj py profile items
  obtain ⟨shown, hshown, hdecides'⟩ := evaluateMatch_obj py profile (f.dict py).items
  refine ⟨f, stored, shown, hf, hstored, by rw [sanitizedDict_eq]; exact hshown, ?_⟩
  rw [hreading] at hdecides'
  constructor
  · rintro rfl hadmits
    have hpasses : (matchReading py items).OriginPasses py profile →
        (sanitisedReading py items).OriginPasses py profile ∧
          (matchReading py items).decision py profile =
            (sanitisedReading py items).decision py profile := by
      intro horigin
      have hsome := hdecides.unique (.matched hadmits horigin)
      rw [hsome] at hdecides'
      generalize hd : (matchReading py items).decision py profile = d at hdecides'
      cases hdecides' with
      | matched _ horigin' => exact ⟨horigin', rfl⟩
    refine ⟨fun hmode hlisted => ?_, fun horigin => ?_, fun horigin => ?_⟩
    · have horigin : (matchReading py items).OriginPasses py profile := fun _ => hlisted
      exact ((decision_eq_iff items).mp (hpasses horigin).2).2.1 hmode hlisted
    · exact ((decision_eq_iff items).mp (hpasses horigin).2).1
    · exact ((decision_eq_iff items).mp (hpasses horigin).2).2.2
  · intro hsame
    by_cases hadmits : (matchReading py items).Admits py profile
    · have hadmits' := (sanitisedReading_admits items).mpr hadmits
      have hsame := hsame hadmits
      by_cases horigin : (matchReading py items).OriginPasses py profile
      · have horigin' : (sanitisedReading py items).OriginPasses py profile := by
          intro hclamped
          have hrestricted : (matchReading py items).originMode.eqStr "restricted" = true :=
            (clampOriginMode_eqStr (items.lookup "origin_mode")).1.symm.trans hclamped
          have hmode : items.lookup "origin_mode" = some (.str "restricted") :=
            (orUnknown_eqStr_iff (by decide) (by decide)).mp hrestricted
          refine (originListed_sanitised items).mpr (hsame.origin ?_ (horigin hrestricted))
          rw [hmode]
          simp
        rw [hdecides.unique (.matched hadmits horigin),
          hdecides'.unique (.matched hadmits' horigin'), (decision_eq_iff items).mpr
            ⟨hsame.modes horigin, hsame.origin, hsame.fresh horigin⟩]
      · have horigin' : ¬ (sanitisedReading py items).OriginPasses py profile :=
          fun h => horigin (originPasses_of_sanitised h)
        rw [hdecides.unique (.refused fun h => horigin h.2),
          hdecides'.unique (.refused fun h => horigin' h.2)]
    · -- a gate that looks at nothing clamped refuses both
      have hadmits' : ¬ (sanitisedReading py items).Admits py profile :=
        fun h => hadmits ((sanitisedReading_admits items).mp h)
      rw [hdecides.unique (.refused fun h => hadmits h.1),
        hdecides'.unique (.refused fun h => hadmits' h.1)]

/-! ## A garbled mode -/

/-- A searcher from Nigeria for a master's in Canada. -/
def Sample.searcher : SearchProfile where
  originCountry := "NG"
  targetCountries := {"CA"}
  programLevels := {"masters"}
  fields := none

/-- An award for all origins or some, and for all fields. -/
def Sample.awardFacts (originMode : String) : List (String × Json) := [
  ("destinations", strings ["CA"]),
  ("levels", strings ["masters"]),
  ("origin_mode", .str originMode),
  ("field_mode", .str "all"),
  ("evidence_fresh", .bool true)]

/-- The column admits `"Restricted"`.  Search confirms the match, and the detail route has
eligibility conditions to check. -/
theorem search_confirms_what_detail_doubts :
    factsColumnAdmits (.obj (Sample.awardFacts "Restricted")) = true ∧
      ∃ f, deriveFacts Sample.textPy.toPy (.obj (Sample.awardFacts "Restricted")) = .ok f ∧
        evaluateMatch Sample.textPy.toPy Sample.searcher
            (.obj (Sample.awardFacts "Restricted")) =
          .ok (some (decisionOf false true false true)) ∧
        evaluateMatch Sample.textPy.toPy Sample.searcher (.obj (Sample.awardFacts "Restricted")) ≠
          evaluateMatch Sample.textPy.toPy Sample.searcher (f.sanitizedDict Sample.textPy.toPy) :=
  ⟨by decide +kernel, _, rfl, by decide +kernel, by decide +kernel⟩

/-- The contract's own literal is read alike. -/
theorem sameMatch_sample :
    ∃ f stored shown,
      deriveFacts Sample.textPy.toPy (.obj (Sample.awardFacts "restricted")) = .ok f ∧
      evaluateMatch Sample.textPy.toPy Sample.searcher (.obj (Sample.awardFacts "restricted")) =
        .ok stored ∧
      evaluateMatch Sample.textPy.toPy Sample.searcher (f.sanitizedDict Sample.textPy.toPy) =
        .ok shown ∧
      (stored = shown ↔
        ((matchReading Sample.textPy.toPy (Sample.awardFacts "restricted")).Admits
            Sample.textPy.toPy Sample.searcher →
          ReadsTheSame Sample.textPy.toPy Sample.searcher (Sample.awardFacts "restricted"))) :=
  sameMatch_iff Sample.textPy_textLaws Sample.textPy_isoLaws Sample.searcher
    (Sample.awardFacts "restricted")

end ScholarshipFinder
