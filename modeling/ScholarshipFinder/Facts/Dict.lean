import ScholarshipFinder.Domain.Publication

/-!
# The facts dict of a published cycle

`build_cycle_facts`, `derive_facts` and `cycle_facts_to_inputs` meet in one shape of dict: fixed
keys in a fixed order, some of them left out when there is nothing to say.  `FactsDict` is that
shape, and `buildCycleFacts_eq_ok_iff` says once what the builder puts into it.
-/

namespace ScholarshipFinder

variable {py : Py} {countries : CountryVocabulary}

/-! ## Dicts with optional keys -/

lemma lookup_entry (key key' : String) (value : Option Json) :
    (entry key value).lookup key' = if key' = key then value else none := by
  cases value with
  | none => simp [entry]
  | some v =>
    by_cases h : key' = key
    · simp [entry, h]
    · have hbeq : (key' == key) = false := by simpa using h
      simp [entry, h, List.lookup, hbeq]

/-- Looking a key up past an optional entry. -/
lemma lookup_entry_append (key key' : String) (value : Option Json) (rest : List (String × Json)) :
    (entry key value ++ rest).lookup key' =
      (if key' = key then value else none).or (rest.lookup key') := by
  rw [List.lookup_append, lookup_entry]

lemma listEntry_eq_entry (key : String) (values : List String) :
    listEntry key values = entry key (if values = [] then none else some (strings values)) := by
  by_cases h : values = [] <;> simp [listEntry, entry, h]

/-- `value` unless it is `None` -/
def Json.nonNull : Json → Option Json
  | .null => none
  | value => some value

lemma Json.nonNull_getD (value : Json) : value.nonNull.getD .null = value := by
  cases value <;> rfl

/-- The value of a key that is only stored for a truthy value. -/
def Json.ifTruthy (value : Json) : Option Json := if value.truthy then some value else none

lemma Json.ifTruthy_getD (value : Json) : (value.ifTruthy.getD .null).ifTruthy = value.ifTruthy := by
  by_cases h : value.truthy = true
  · simp [Json.ifTruthy, h]
  · have hnone : value.ifTruthy = none := if_neg h
    rw [hnone]
    rfl

/-! ## The shape -/

/-- The three keys of a deadline. -/
structure StoredDeadline where
  text : String
  precision : Json
  timezone : Option Json

/-- The values under the keys of a facts dict, in the order of the keys. -/
structure FactsDict where
  destinations : List String
  levels : List String
  originMode : Json
  origins : List String
  fieldMode : Json
  fields : List String
  evidenceFresh : Json
  eligibilityNote : Option Json
  expectedReopenMonth : Option Json
  fieldNames : List String
  programmeNames : List String
  fundingType : Option String
  deadline : Option StoredDeadline

namespace FactsDict

/-- The dict with these values. -/
def items (d : FactsDict) : List (String × Json) :=
  entry "destinations" (some (strings d.destinations)) ++
  (entry "levels" (some (strings d.levels)) ++
  (entry "origin_mode" (some d.originMode) ++
  (entry "origins" (some (strings d.origins)) ++
  (entry "field_mode" (some d.fieldMode) ++
  (entry "fields" (some (strings d.fields)) ++
  (entry "evidence_fresh" (some d.evidenceFresh) ++
  (entry "eligibility_note" d.eligibilityNote ++
  (entry "expected_reopen_month" d.expectedReopenMonth ++
  (listEntry "field_names" d.fieldNames ++
  (listEntry "programme_names" d.programmeNames ++
  (entry "funding_type" (d.fundingType.map .str) ++
  (entry "deadline_at" (d.deadline.map fun deadline => .str deadline.text) ++
  (entry "deadline_precision" (d.deadline.map (·.precision)) ++
  (entry "deadline_timezone" (d.deadline.bind (·.timezone))))))))))))))))

def toJson (d : FactsDict) : Json := .obj d.items

/-- What is stored under a key. -/
def value (d : FactsDict) : String → Option Json
  | "destinations" => some (strings d.destinations)
  | "levels" => some (strings d.levels)
  | "origin_mode" => some d.originMode
  | "origins" => some (strings d.origins)
  | "field_mode" => some d.fieldMode
  | "fields" => some (strings d.fields)
  | "evidence_fresh" => some d.evidenceFresh
  | "eligibility_note" => d.eligibilityNote
  | "expected_reopen_month" => d.expectedReopenMonth
  | "field_names" => if d.fieldNames = [] then none else some (strings d.fieldNames)
  | "programme_names" => if d.programmeNames = [] then none else some (strings d.programmeNames)
  | "funding_type" => d.fundingType.map .str
  | "deadline_at" => d.deadline.map fun deadline => .str deadline.text
  | "deadline_precision" => d.deadline.map (·.precision)
  | "deadline_timezone" => d.deadline.bind (·.timezone)
  | _ => none

/-- Every key is found in the dict, whichever of the others are left out. -/
theorem get_toJson (d : FactsDict) (key : String) : d.toJson.get key = .ok (d.value key) := by
  have hlookup : d.items.lookup key = d.value key := by
    simp only [items, listEntry_eq_entry, lookup_entry_append, lookup_entry]
    fun_cases d.value key
    -- a key outside the shape matches none of the entries
    case case18 => simp_all
    all_goals simp [*]
  exact congrArg Except.ok hlookup

end FactsDict

/-! ## What the builder stores -/

/-- The generated labels of a list of field codes. -/
def fieldLabels (fields : List String) : List String :=
  fields.filterMap (List.lookup · taxonomy.fields)

/-- The programme names, from either of the two arguments that may carry them. -/
def CycleInputs.programmes (py : Py) (x : CycleInputs) : List String :=
  ((x.programmeNames.getD x.fieldNames).map py.strip).filter (· ≠ "")

/-- What a fallible map yields comes from one of its arguments. -/
lemma mem_of_mapM_ok {f : String → Except PyErr String} {values codes : List String}
    (h : values.mapM f = .ok codes) {c : String} (hc : c ∈ codes) : ∃ v ∈ values, f v = .ok c := by
  induction values generalizing codes with
  | nil =>
    have hnil : [] = codes := Except.ok.inj h
    rw [← hnil] at hc
    cases hc
  | cons v values ih =>
    rw [List.mapM_cons] at h
    obtain ⟨code, hcode, h⟩ := exceptBind_ok h
    obtain ⟨rest, hrest, h⟩ := exceptBind_ok h
    have hcons : code :: rest = codes := Except.ok.inj h
    rw [← hcons] at hc
    rcases List.mem_cons.mp hc with rfl | hc
    · exact ⟨v, List.mem_cons_self, hcode⟩
    · obtain ⟨w, hw, hf⟩ := ih hrest hc
      exact ⟨w, List.mem_cons_of_mem v hw, hf⟩

/-- A fallible map that fixes its arguments. -/
lemma mapM_eq_self {f : String → Except PyErr String} {codes : List String}
    (h : ∀ c ∈ codes, f c = .ok c) : codes.mapM f = .ok codes := by
  induction codes with
  | nil => rfl
  | cons c codes ih =>
    have hrest := ih fun d hd => h d (List.mem_cons_of_mem c hd)
    rw [List.mapM_cons, h c List.mem_cons_self, hrest]
    rfl

/-- A set of codes is read back as it is, if every code stands for itself. -/
lemma codeSet_fixed {f : String → Except PyErr String}
    (hf : ∀ v c, f v = .ok c → f c = .ok c) {values : Option (List String)} {codes : List String}
    (h : codeSet f values = .ok codes) : codeSet f (some codes) = .ok codes := by
  cases values with
  | none => cases h
  | some values =>
    obtain ⟨found, hfound, h⟩ := exceptBind_ok h
    have hset : sortedSet found = codes := Except.ok.inj h
    have hself : codes.mapM f = .ok codes := by
      refine mapM_eq_self fun c hc => ?_
      rw [← hset, mem_sortedSet] at hc
      obtain ⟨v, -, hv⟩ := mem_of_mapM_ok hfound hc
      exact hf v c hv
    show (codes.mapM f >>= fun found => .ok (sortedSet found)) = .ok codes
    rw [hself]
    show Except.ok (sortedSet codes) = .ok codes
    rw [← hset, sortedSet_sortedSet]

variable (py countries) in
/-- The builder accepts the arguments `x` and puts `d` into the dict. -/
structure Built (x : CycleInputs) (d : FactsDict) : Prop where
  destinations : codeSet (countries.destination py) x.destinations = .ok d.destinations
  destinations_ne : d.destinations ≠ []
  levels : codeSet (taxonomy.degree py) x.levels = .ok d.levels
  levels_ne : d.levels ≠ []
  origins : codeSet (countries.origin py) x.origins = .ok d.origins
  origins_ne : x.originMode.eqStr "restricted" = true → d.origins ≠ []
  fields : codeSet (taxonomy.field py) x.fields = .ok d.fields
  fields_ne : x.fieldMode.eqStr "restricted" = true → d.fields ≠ []
  zone : checkTimezone py x.deadlineTimezone = .ok ()
  funding : checkFundingType py x.fundingType = .ok (entry "funding_type" (d.fundingType.map .str))
  originMode : d.originMode = x.originMode
  fieldMode : d.fieldMode = x.fieldMode
  evidenceFresh : d.evidenceFresh = x.evidenceFresh
  eligibilityNote : d.eligibilityNote = x.eligibilityNote.ifTruthy
  expectedReopenMonth : d.expectedReopenMonth = x.expectedReopenMonth.nonNull
  fieldNames : d.fieldNames = fieldLabels d.fields
  programmeNames : d.programmeNames = sortedSet (x.programmes py)
  deadline : d.deadline = x.deadlineAt.map fun deadlineAt =>
    ⟨py.isoformat deadlineAt, x.deadlinePrecision, x.deadlineTimezone.nonNull⟩

/-- A lookup in the vocabulary is the only thing that yields a funding type. -/
lemma checkFundingType_ok {value : Json} {items : List (String × Json)}
    (h : checkFundingType py value = .ok items) :
    ∃ code : Option String, items = entry "funding_type" (code.map .str) ∧
      ∀ c ∈ code, ∃ s, taxonomy.fundingType py s = .ok c := by
  unfold checkFundingType at h
  split at h
  · split at h
    · rename_i s _
      obtain ⟨c, hc, h⟩ := exceptBind_ok h
      refine ⟨some c, (Except.ok.inj h).symm, ?_⟩
      rintro c' ⟨⟩
      exact ⟨s, hc⟩
    · cases h
  · exact ⟨none, (Except.ok.inj h).symm, by simp⟩

/-- The labels are generated from canonical codes, so there is one for each. -/
lemma fieldLabels_eq_nil {values : Option (List String)} {fields : List String}
    (h : codeSet (taxonomy.field py) values = .ok fields) : fieldLabels fields = [] ↔ fields = [] := by
  have hcode : ∀ c ∈ fields, (taxonomy.fields.lookup c).isSome := by
    cases values with
    | none => cases h
    | some values =>
      obtain ⟨codes, hcodes, h⟩ := exceptBind_ok h
      have hset : sortedSet codes = fields := Except.ok.inj h
      intro c hc
      rw [← hset, mem_sortedSet] at hc
      obtain ⟨v, -, hv⟩ := mem_of_mapM_ok hcodes hc
      exact taxonomy_field_has hv
  constructor
  · intro hnil
    rw [fieldLabels, List.filterMap_eq_nil_iff] at hnil
    rw [List.eq_nil_iff_forall_not_mem]
    intro c hc
    have hsome := hcode c hc
    rw [hnil c hc] at hsome
    cases hsome
  · rintro rfl
    rfl

lemma bind_eq_ok_iff {ε α β : Type} {a : Except ε α} {f : α → Except ε β} {b : β} :
    (a >>= f) = .ok b ↔ ∃ r, a = .ok r ∧ f r = .ok b := by
  constructor
  · exact exceptBind_ok
  · rintro ⟨r, rfl, h⟩
    exact h

/-- `if refused: raise ValueError(msg)`, and what follows. -/
lemma refuse_eq_ok_iff {α : Type} {p : Prop} [Decidable p] {msg : String}
    {rest : Unit → Except PyErr α} {b : α} :
    (if p then valueError msg >>= rest else rest ()) = .ok b ↔ ¬ p ∧ rest () = .ok b := by
  by_cases hp : p
  · rw [if_pos hp]
    refine ⟨fun h => ?_, fun h => absurd hp h.1⟩
    obtain ⟨r, hr, -⟩ := exceptBind_ok h
    cases hr
  · rw [if_neg hp]
    exact ⟨fun h => ⟨hp, h⟩, fun h => h.2⟩

/-- The dict that the builder assembles from the codes it has looked up. -/
def builtDict (py : Py) (x : CycleInputs) (destinations levels origins fields : List String)
    (code : Option String) : FactsDict where
  destinations := destinations
  levels := levels
  originMode := x.originMode
  origins := origins
  fieldMode := x.fieldMode
  fields := fields
  evidenceFresh := x.evidenceFresh
  eligibilityNote := x.eligibilityNote.ifTruthy
  expectedReopenMonth := x.expectedReopenMonth.nonNull
  fieldNames := fieldLabels fields
  programmeNames := sortedSet (x.programmes py)
  fundingType := code
  deadline := x.deadlineAt.map fun deadlineAt =>
    ⟨py.isoformat deadlineAt, x.deadlinePrecision, x.deadlineTimezone.nonNull⟩

/-- Its segments, in the order in which the builder appends them. -/
lemma builtDict_items {x : CycleInputs} {destinations levels origins fields : List String}
    {code : Option String} (hfields : fieldLabels fields = [] ↔ fields = []) :
    [("destinations", strings destinations),
      ("levels", strings levels),
      ("origin_mode", x.originMode),
      ("origins", strings origins),
      ("field_mode", x.fieldMode),
      ("fields", strings fields),
      ("evidence_fresh", x.evidenceFresh)] ++
    (if x.eligibilityNote.truthy = true then [("eligibility_note", x.eligibilityNote)] else []) ++
    (match x.expectedReopenMonth with
      | .null => []
      | value => [("expected_reopen_month", value)]) ++
    (if fields = [] then [] else [("field_names", strings (fieldLabels fields))]) ++
    (if x.programmes py = [] then []
      else [("programme_names", strings (sortedSet (x.programmes py)))]) ++
    entry "funding_type" (code.map .str) ++
    (match x.deadlineAt with
      | none => []
      | some deadlineAt =>
        [("deadline_at", Json.str (py.isoformat deadlineAt)),
          ("deadline_precision", x.deadlinePrecision)] ++
        match x.deadlineTimezone with
        | .null => []
        | value => [("deadline_timezone", value)]) =
      (builtDict py x destinations levels origins fields code).items := by
  have hnote : (if x.eligibilityNote.truthy = true then
      [("eligibility_note", x.eligibilityNote)] else []) =
        entry "eligibility_note" x.eligibilityNote.ifTruthy := by
    by_cases h : x.eligibilityNote.truthy = true <;> simp [Json.ifTruthy, entry, h]
  have hnames : (if fields = [] then [] else [("field_names", strings (fieldLabels fields))]) =
      listEntry "field_names" (fieldLabels fields) := by
    simp only [listEntry, hfields]
  have hprogrammes : (if x.programmes py = [] then []
      else [("programme_names", strings (sortedSet (x.programmes py)))]) =
        listEntry "programme_names" (sortedSet (x.programmes py)) := by
    simp only [listEntry, sortedSet_eq_nil]
  have hnull : ∀ (key : String) (value : Json),
      (match value with
        | .null => []
        | value => [(key, value)]) = entry key value.nonNull := by
    intro key value
    cases value <;> rfl
  rw [hnote, hnames, hprogrammes, hnull, hnull]
  simp only [List.append_assoc]
  cases hdeadline : x.deadlineAt <;> simp [builtDict, FactsDict.items, entry, hdeadline]

/-- The order of the segments of the builder is the order of the shape. -/
theorem buildCycleFacts_eq_ok_iff {x : CycleInputs} {F : Json} :
    buildCycleFacts py countries x = .ok F ↔ ∃ d, Built py countries x d ∧ F = d.toJson := by
  simp only [buildCycleFacts, bind_eq_ok_iff, refuse_eq_ok_iff]
  constructor
  · rintro ⟨destinations, hdest, hdest', levels, hlevels, hlevels', origins, horigins, horigins',
      fields, hfields, hfields', ⟨⟩, hzone, items, hfunding, hF⟩
    obtain ⟨code, rfl, -⟩ := checkFundingType_ok hfunding
    refine ⟨builtDict py x destinations levels origins fields code, ?_, ?_⟩
    · exact ⟨hdest, hdest', hlevels, hlevels', horigins, fun h h' => horigins' ⟨h, h'⟩, hfields,
        fun h h' => hfields' ⟨h, h'⟩, hzone, hfunding, rfl, rfl, rfl, rfl, rfl, rfl, rfl, rfl⟩
    · rw [FactsDict.toJson, ← builtDict_items (fieldLabels_eq_nil hfields)]
      exact (Except.ok.inj hF).symm
  · rintro ⟨d, hd, rfl⟩
    refine ⟨d.destinations, hd.destinations, hd.destinations_ne, d.levels, hd.levels,
      hd.levels_ne, d.origins, hd.origins, fun h => hd.origins_ne h.1 h.2, d.fields, hd.fields,
      fun h => hd.fields_ne h.1 h.2, (), hd.zone, _, hd.funding, ?_⟩
    have heq : d = builtDict py x d.destinations d.levels d.origins d.fields d.fundingType := by
      obtain ⟨-, -, -, -, -, -, -, -, -, -, h1, h2, h3, h4, h5, h6, h7, h8⟩ := hd
      cases d
      simp_all [builtDict]
    show Except.ok _ = Except.ok _
    rw [FactsDict.toJson, heq, ← builtDict_items (fieldLabels_eq_nil hd.fields)]
    rfl

end ScholarshipFinder
