import ScholarshipFinder.Infra.Harvest
import ScholarshipFinder.Lib.Handled
import ScholarshipFinder.Sample

/-!
# When one item ends a harvest

A mapper reads untyped fields.  It raises what is not caught if the item is no object, if a field
that is stripped is not a text, or if a country is not a text; nothing else ends a harvest.
-/

namespace ScholarshipFinder

open Lib

/-- A field that is stripped: a text, or a value that counts as missing. -/
def IsText (value : Json) : Prop := value.truthy → ∃ s, value = .str s

/-- What is stripped of such a field. -/
def textOf : Json → String
  | .str s => s
  | _ => ""

/-- The fields of an interface that hold the title and the address. -/
def HarvestApi.keys : HarvestApi → String × String
  | scholarshipportal => ("title", "url")
  | phdscanner => ("title", "opportunity_url")
  | mastersportal => ("title", "url")
  | opportunitydesk => ("title", "application_url")
  | fastweb => ("title", "detail_url")
  | careeronestop => ("name", "url")
  | tavily => ("title", "url")

/-- The value of a field of an object. -/
def valueAt (items : List (String × Json)) (key : String) : Json := (items.lookup key).getD .null

/-- What an interface needs of the other fields. -/
def HarvestApi.RestMappable (items : List (String × Json)) : HarvestApi → Prop
  | opportunitydesk => ∀ countries, valueAt items "eligible_countries" = .arr countries →
      ∀ country ∈ countries, ∃ s, country = .str s
  | tavily => IsText (valueAt items "content")
  | _ => True

variable (py : HarvestPy)

/-- An item that its mapper can read. -/
def Mappable (api : HarvestApi) (raw : Json) : Prop :=
  ∃ items, raw = .obj items ∧ IsText (valueAt items api.keys.1) ∧
    IsText (valueAt items api.keys.2) ∧
      (py.strip (textOf (valueAt items api.keys.1)) = "" ∨
        py.strip (textOf (valueAt items api.keys.2)) = "" ∨ api.RestMappable items)

/-- What the schema of a feed asks of a record. -/
structure ValidRecord (record : FeedRecord) : Prop where
  url : ∃ url, py.httpUrl url = .ok record.url
  title : 1 ≤ record.title.length ∧ record.title.length ≤ 500
  excerpt : ∀ excerpt ∈ record.excerpt, excerpt.length ≤ 5000

/-- The record of an item that is not skipped. -/
def HarvestItem.record (harvestedAt : Instant) (item : HarvestItem) : Option FeedRecord :=
  (mappedRecord py item.sourceId item.raw item.api harvestedAt).toOption.join

/-- An exception that skips an item only. -/
def Skips (e : PyErr) : Prop := e.cls ∈ harvestErrors

variable {py} {raw value : Json} {items : List (String × Json)} {key : String} {api : HarvestApi}
  {sourceId : SourceId} {harvestedAt : Instant}

/-! ## Fields -/

lemma field_obj : (Json.obj items).field key = .ok (valueAt items key) := rfl

lemma handled_of_not_obj (h : ¬ ∃ items, raw = .obj items) {α : Type} (f : Json → Except PyErr α)
    (Q : α → Prop) : ¬ Handled Skips (raw.field key >>= f) Q := by
  have hget : raw.field key = .error ⟨.attributeError, "object has no attribute 'get'"⟩ := by
    cases raw with
    | obj items => exact absurd ⟨items, rfl⟩ h
    | _ => rfl
  rw [hget]
  show ¬ ExcClass.attributeError ∈ harvestErrors
  decide

lemma strippedText_of_isText (h : IsText value) :
    strippedText py value = .ok (py.strip (textOf value)) := by
  unfold strippedText
  split
  · next htruthy =>
    obtain ⟨s, rfl⟩ := h htruthy
    rfl
  · next hfalsy =>
    cases value with
    | str s =>
      have hempty : s = "" := by simpa [Json.truthy] using hfalsy
      rw [hempty]
      rfl
    | _ => rfl

/-- What is stripped must be a text. -/
lemma handled_strippedText {α : Type} {f : String → Except PyErr α} {Q : α → Prop} :
    Handled Skips (strippedText py value >>= f) Q ↔
      IsText value ∧ Handled Skips (f (py.strip (textOf value))) Q := by
  by_cases h : IsText value
  · rw [strippedText_of_isText h]
    exact ⟨fun hf => ⟨h, hf⟩, fun hf => hf.2⟩
  · have herror : strippedText py value =
        .error ⟨.attributeError, "object has no attribute 'strip'"⟩ := by
      rw [IsText, Classical.not_imp] at h
      unfold strippedText
      rw [if_pos h.1]
      cases value with
      | str s => exact absurd ⟨s, rfl⟩ h.2
      | _ => rfl
    rw [herror]
    refine iff_of_false ?_ fun hf => h hf.1
    show ¬ ExcClass.attributeError ∈ harvestErrors
    decide

/-! ## Mappers -/

/-- A mapper is handled if the two fields are texts and, where there is a title and an address, the
rest is handled. -/
lemma handled_itemToRecord {titleKey urlKey : String}
    {rest : Json → Except PyErr (Option String × Option Instant)} :
    Handled Skips (itemToRecord py titleKey urlKey rest raw) (fun _ => True) ↔
      ∃ items, raw = .obj items ∧ IsText (valueAt items titleKey) ∧
        IsText (valueAt items urlKey) ∧
          (py.strip (textOf (valueAt items titleKey)) = "" ∨
            py.strip (textOf (valueAt items urlKey)) = "" ∨
              Handled Skips (rest (.obj items)) (fun _ => True)) := by
  by_cases hobj : ∃ items, raw = .obj items
  · obtain ⟨items, rfl⟩ := hobj
    have hitems : ∀ P : List (String × Json) → Prop,
        (∃ items', Json.obj items = .obj items' ∧ P items') ↔ P items := by
      intro P
      constructor
      · rintro ⟨items', heq, hP⟩
        rwa [Json.obj.inj heq]
      · exact fun hP => ⟨items, rfl, hP⟩
    rw [hitems, itemToRecord, field_obj]
    show Handled Skips (strippedText py (valueAt items titleKey) >>= _) _ ↔ _
    rw [handled_strippedText]
    refine and_congr_right fun _ => ?_
    rw [field_obj]
    show Handled Skips (strippedText py (valueAt items urlKey) >>= _) _ ↔ _
    rw [handled_strippedText]
    refine and_congr_right fun _ => ?_
    rw [← or_assoc]
    split
    · next hempty => exact iff_of_true trivial (Or.inl hempty)
    · next hpresent =>
      rw [or_iff_right hpresent]
      show Handled Skips (rest (.obj items) >>= _) _ ↔ _
      rw [handled_bind]
      exact handled_congr fun a _ => Iff.rfl
  · refine iff_of_false ?_ ?_
    · exact handled_of_not_obj hobj _ _
    · rintro ⟨items, rfl, -⟩
      exact hobj ⟨items, rfl⟩

lemma mapM_field {keys : List String} :
    keys.mapM (Json.obj items).field = .ok (keys.map (valueAt items)) := by
  induction keys with
  | nil => rfl
  | cons key keys ih =>
    rw [List.mapM_cons, field_obj, ih]
    rfl

lemma handled_fieldsExcerpt {keys : List String} :
    Handled Skips (fieldsExcerpt py keys harvestedAt (.obj items)) (fun _ => True) := by
  rw [fieldsExcerpt, mapM_field]
  exact trivial

lemma handled_joinedCountries {countries : List Json} :
    Handled Skips (joinedCountries countries) (fun _ => True) ↔
      ∀ country ∈ countries, ∃ s, country = .str s := by
  rw [joinedCountries, handled_bind]
  induction countries with
  | nil => exact iff_of_true trivial nofun
  | cons country countries ih =>
    rw [List.mapM_cons, handled_bind, List.forall_mem_cons, ← ih]
    cases country with
    | str s =>
      rw [handled_ok, handled_bind]
      refine Iff.trans (handled_congr fun names _ => Iff.rfl) ?_
      exact ⟨fun h => ⟨⟨s, rfl⟩, h⟩, fun h => h.2⟩
    | _ =>
      refine iff_of_false ?_ fun h => by obtain ⟨⟨s, hs⟩, -⟩ := h; cases hs
      show ¬ ExcClass.typeError ∈ harvestErrors
      decide

lemma handled_createdTime (hpy : py.HarvestLaws) (Q : Instant → Prop) (hQ : ∀ t, Q t) :
    Handled Skips (createdTime py harvestedAt value) Q := by
  have htimestamp : Handled Skips (py.fromtimestamp value) Q := by
    cases htime : py.fromtimestamp value with
    | ok t => exact hQ t
    | error e => exact hpy.fromtimestamp value e htime
  cases value with
  | int n => exact htimestamp
  | float r => exact htimestamp
  | bool b => exact htimestamp
  | _ => exact hQ harvestedAt

lemma handled_countriesText : Handled Skips (countriesText value) (fun _ => True) ↔
    ∀ countries, value = .arr countries → ∀ country ∈ countries, ∃ s, country = .str s := by
  cases value with
  | arr countries =>
    have hcountries : ∀ P : List Json → Prop,
        (∀ countries', Json.arr countries = .arr countries' → P countries') ↔ P countries :=
      fun P => ⟨fun h => h countries rfl, fun hP countries' heq => Json.arr.inj heq ▸ hP⟩
    rw [hcountries, ← handled_joinedCountries]
    cases countries with
    | nil => exact Iff.rfl
    | cons first others =>
      show Handled Skips ((joinedCountries (first :: others)).map Json.str) _ ↔ _
      cases joinedCountries (first :: others) with
      | ok text => exact Iff.rfl
      | error e => exact Iff.rfl
  | _ => exact iff_of_true trivial fun countries heq => by cases heq

lemma handled_opportunityExcerpt (hpy : py.HarvestLaws) :
    Handled Skips (opportunityExcerpt py harvestedAt (.obj items)) (fun _ => True) := by
  rw [opportunityExcerpt, fieldsExcerpt, mapM_field]
  show Handled Skips (createdTime py harvestedAt (valueAt items "created_at") >>= _) _
  rw [handled_bind]
  exact handled_createdTime hpy _ fun t => trivial

lemma handled_opportunitydeskExcerpt :
    Handled Skips (opportunitydeskExcerpt py harvestedAt (.obj items)) (fun _ => True) ↔
      ∀ countries, valueAt items "eligible_countries" = .arr countries →
        ∀ country ∈ countries, ∃ s, country = .str s := by
  rw [opportunitydeskExcerpt, field_obj]
  show Handled Skips (countriesText (valueAt items "eligible_countries") >>= _) _ ↔ _
  rw [handled_bind, ← handled_countriesText]
  exact handled_congr fun text _ => iff_of_true trivial trivial

lemma handled_tavilyExcerpt :
    Handled Skips (tavilyExcerpt py harvestedAt (.obj items)) (fun _ => True) ↔
      IsText (valueAt items "content") := by
  rw [tavilyExcerpt, field_obj]
  show Handled Skips (strippedText py (valueAt items "content") >>= _) _ ↔ _
  rw [handled_strippedText]
  exact and_iff_left trivial

lemma handled_iff_mappable {rest : Json → Except PyErr (Option String × Option Instant)}
    (hrest : ∀ items, Handled Skips (rest (.obj items)) (fun _ => True) ↔ api.RestMappable items) :
    Handled Skips (itemToRecord py api.keys.1 api.keys.2 rest raw) (fun _ => True) ↔
      Mappable py api raw := by
  rw [handled_itemToRecord, Mappable]
  refine exists_congr fun items => ?_
  rw [hrest]

/-- A mapper is handled exactly on the items that it can read. -/
lemma handled_toRecord (hpy : py.HarvestLaws) :
    Handled Skips (api.toRecord py raw harvestedAt) (fun _ => True) ↔ Mappable py api raw := by
  cases api with
  | scholarshipportal =>
    exact @handled_iff_mappable py raw .scholarshipportal (scholarshipExcerpt py harvestedAt)
      fun items => iff_of_true trivial trivial
  | phdscanner =>
    exact @handled_iff_mappable py raw .phdscanner (opportunityExcerpt py harvestedAt)
      fun items => iff_of_true (handled_opportunityExcerpt hpy) trivial
  | mastersportal =>
    exact @handled_iff_mappable py raw .mastersportal (mastersportalExcerpt py harvestedAt)
      fun items => iff_of_true trivial trivial
  | opportunitydesk =>
    exact @handled_iff_mappable py raw .opportunitydesk (opportunitydeskExcerpt py harvestedAt)
      fun items => handled_opportunitydeskExcerpt
  | fastweb =>
    exact @handled_iff_mappable py raw .fastweb (fieldsExcerpt py _ harvestedAt)
      fun items => iff_of_true handled_fieldsExcerpt trivial
  | careeronestop =>
    exact @handled_iff_mappable py raw .careeronestop (fieldsExcerpt py _ harvestedAt)
      fun items => iff_of_true handled_fieldsExcerpt trivial
  | tavily =>
    exact @handled_iff_mappable py raw .tavily (tavilyExcerpt py harvestedAt)
      fun items => handled_tavilyExcerpt

/-! ## Records -/

/-- What the schema refuses is skipped, and what it admits is valid. -/
lemma handled_feedRecord (hpy : py.HarvestLaws) (mapped : HarvestedRecord) :
    Handled Skips (feedRecord py sourceId mapped) fun record =>
      ValidRecord py record ∧ record.sourceId = sourceId := by
  have hvalue : ∀ msg, Skips ⟨.valueError, msg⟩ := fun msg => by
    show ExcClass.valueError ∈ harvestErrors
    decide
  rw [feedRecord, handled_bind]
  cases hurl : py.httpUrl mapped.url with
  | error e =>
    show e.cls ∈ harvestErrors
    rw [hpy.httpUrl mapped.url e hurl]
    decide
  | ok url =>
    rw [handled_ok]
    split
    · exact hvalue _
    · next hshort =>
      split
      · exact hvalue _
      · next hlong =>
        split
        · exact hvalue _
        · next hexcerpt =>
          refine ⟨⟨⟨mapped.url, hurl⟩, ⟨not_lt.mp hshort, not_lt.mp hlong⟩, ?_⟩, rfl⟩
          intro excerpt hmem
          have hmapped : mapped.excerpt = some excerpt := hmem
          rw [hmapped, Option.any_some, decide_eq_true_eq] at hexcerpt
          exact not_lt.mp hexcerpt

/-- An item is handled exactly if its mapper can read it. -/
lemma handled_mappedRecord (hpy : py.HarvestLaws) :
    Handled Skips (mappedRecord py sourceId raw api harvestedAt) (fun found =>
      ∀ record ∈ found, ValidRecord py record ∧ record.sourceId = sourceId) ↔
        Mappable py api raw := by
  rw [mappedRecord, handled_bind, ← @handled_toRecord py raw api harvestedAt hpy]
  refine handled_congr fun mapped _ => iff_of_true ?_ trivial
  cases mapped with
  | none => exact nofun
  | some mapped =>
    show Handled Skips (feedRecord py sourceId mapped >>= _) _
    rw [handled_bind]
    refine (handled_congr fun record _ => ?_).mp (handled_feedRecord hpy mapped)
    show _ ↔ ∀ record' ∈ some record, _
    constructor
    · rintro hrecord record' hrecord'
      rwa [← Option.some_inj.mp hrecord']
    · exact fun h => h record rfl

/-- One step of a harvest: the record of an item is appended, if it has one. -/
lemma mapAndAppend_of_mappable (hpy : py.HarvestLaws) {item : HarvestItem}
    (h : Mappable py item.api item.raw) (records : List FeedRecord) :
    mapAndAppend py records item.sourceId item.raw item.api harvestedAt =
        .ok ((item.record py harvestedAt).isSome,
          records ++ (item.record py harvestedAt).toList) ∧
      ∀ record ∈ item.record py harvestedAt,
        ValidRecord py record ∧ record.sourceId = item.sourceId := by
  have hhandled := (@handled_mappedRecord py item.raw item.api item.sourceId harvestedAt hpy).mpr h
  unfold mapAndAppend HarvestItem.record
  cases hmapped : mappedRecord py item.sourceId item.raw item.api harvestedAt with
  | ok found =>
    rw [hmapped, handled_ok] at hhandled
    cases found with
    | none =>
      refine ⟨?_, nofun⟩
      show Except.ok (false, records) = Except.ok (false, records ++ [])
      rw [List.append_nil]
    | some record => exact ⟨rfl, hhandled⟩
  | error e =>
    rw [hmapped, handled_error] at hhandled
    refine ⟨?_, nofun⟩
    show (if e.cls ∈ harvestErrors then _ else _) = Except.ok (false, records ++ [])
    rw [List.append_nil]
    exact if_pos hhandled

lemma mapAndAppend_of_not_mappable (hpy : py.HarvestLaws) (h : ¬ Mappable py api raw)
    (records : List FeedRecord) :
    ∃ e, mapAndAppend py records sourceId raw api harvestedAt = .error e := by
  unfold mapAndAppend
  cases hmapped : mappedRecord py sourceId raw api harvestedAt with
  | ok found =>
    obtain ⟨mapped, hmap, -⟩ := exceptBind_ok hmapped
    refine absurd ((@handled_toRecord py raw api harvestedAt hpy).mp ?_) h
    rw [hmap]
    exact trivial
  | error e =>
    have hhandled := mt (@handled_mappedRecord py raw api sourceId harvestedAt hpy).mp h
    rw [hmapped, handled_error] at hhandled
    exact ⟨e, if_neg hhandled⟩

/-! ## Runs -/

lemma harvestStep_of_mappable (hpy : py.HarvestLaws) {item : HarvestItem}
    (h : Mappable py item.api item.raw) (skipped : ℕ) (records : List FeedRecord) :
    harvestStep py harvestedAt (skipped, records) item =
      .ok (skipped + if (item.record py harvestedAt).isSome then 0 else 1,
        records ++ (item.record py harvestedAt).toList) := by
  rw [harvestStep, (mapAndAppend_of_mappable hpy h records).1]
  rfl

/-- A run over items that can be read, from any state. -/
lemma harvest_of_mappable (hpy : py.HarvestLaws) {items : List HarvestItem}
    (h : ∀ item ∈ items, Mappable py item.api item.raw) (skipped : ℕ)
    (records : List FeedRecord) :
    items.foldlM (harvestStep py harvestedAt) (skipped, records) =
      .ok (skipped + items.countP fun item => (item.record py harvestedAt).isNone,
        records ++ items.filterMap (HarvestItem.record py harvestedAt)) := by
  induction items generalizing skipped records with
  | nil => exact congrArg Except.ok (by simp)
  | cons item items ih =>
    obtain ⟨hitem, hitems⟩ := List.forall_mem_cons.mp h
    rw [List.foldlM_cons, harvestStep_of_mappable hpy hitem]
    show items.foldlM _ _ = _
    rw [ih hitems, List.countP_cons, List.filterMap_cons]
    cases item.record py harvestedAt with
    | none => simp [Nat.add_assoc, Nat.add_comm]
    | some record => simp

/-- An item that cannot be read ends the run. -/
lemma harvest_of_not_mappable (hpy : py.HarvestLaws) {items : List HarvestItem}
    (h : ∃ item ∈ items, ¬ Mappable py item.api item.raw) (state : ℕ × List FeedRecord) :
    ∃ e, items.foldlM (harvestStep py harvestedAt) state = .error e := by
  induction items generalizing state with
  | nil =>
    obtain ⟨item, hitem, -⟩ := h
    exact absurd hitem List.not_mem_nil
  | cons item items ih =>
    obtain ⟨skipped, records⟩ := state
    rw [List.foldlM_cons]
    by_cases hitem : Mappable py item.api item.raw
    · rw [harvestStep_of_mappable hpy hitem]
      refine ih ?_ _
      obtain ⟨other, hother, hnot⟩ := h
      rcases List.mem_cons.mp hother with rfl | hother
      · exact absurd hitem hnot
      · exact ⟨other, hother, hnot⟩
    · obtain ⟨e, he⟩ := @mapAndAppend_of_not_mappable py item.raw item.api item.sourceId
        harvestedAt hpy hitem records
      refine ⟨e, ?_⟩
      rw [harvestStep]
      dsimp only
      rw [he]
      rfl

/-- An item is either skipped or adds its valid record, without an exception, exactly if its mapper
can read it.  A run goes to its end, with the records of all items that have one, exactly if the
mappers can read all items. -/
theorem harvest_goes_on_iff (py : HarvestPy) (hpy : py.HarvestLaws) (harvestedAt : Instant) :
    (∀ (item : HarvestItem) (records : List FeedRecord),
      (∃ appended records',
        mapAndAppend py records item.sourceId item.raw item.api harvestedAt =
            .ok (appended, records') ∧
          ((appended = true ∧ ∃ record, ValidRecord py record ∧ record.sourceId = item.sourceId ∧
              item.record py harvestedAt = some record ∧ records' = records ++ [record]) ∨
            (appended = false ∧ item.record py harvestedAt = none ∧ records' = records))) ↔
        Mappable py item.api item.raw) ∧
    ∀ items : List HarvestItem,
      (∃ skipped, harvestItems py harvestedAt items =
          .ok (skipped, items.filterMap (HarvestItem.record py harvestedAt)) ∧
            skipped + (items.filterMap (HarvestItem.record py harvestedAt)).length = items.length) ↔
        ∀ item ∈ items, Mappable py item.api item.raw := by
  refine ⟨fun item records => ⟨?_, fun h => ?_⟩, fun items => ⟨?_, fun h => ?_⟩⟩
  · rintro ⟨appended, records', hmap, -⟩
    by_contra hnot
    obtain ⟨e, he⟩ := @mapAndAppend_of_not_mappable py item.raw item.api item.sourceId
      harvestedAt hpy hnot records
    rw [he] at hmap
    cases hmap
  · obtain ⟨hmap, hvalid⟩ := mapAndAppend_of_mappable hpy h records
    refine ⟨_, _, hmap, ?_⟩
    cases hrecord : item.record py harvestedAt with
    | none => exact Or.inr ⟨rfl, rfl, List.append_nil _⟩
    | some record =>
      obtain ⟨hrecordValid, hsource⟩ := hvalid record hrecord
      exact Or.inl ⟨rfl, record, hrecordValid, hsource, rfl, rfl⟩
  · rintro ⟨skipped, hrun, -⟩
    by_contra hnot
    push Not at hnot
    obtain ⟨e, he⟩ := @harvest_of_not_mappable py harvestedAt hpy items hnot (0, [])
    rw [harvestItems, he] at hrun
    cases hrun
  · refine ⟨_, by rw [harvestItems, harvest_of_mappable hpy h, List.nil_append], ?_⟩
    rw [Nat.zero_add, List.length_filterMap_eq_countP]
    rw [List.length_eq_countP_add_countP
      (fun item : HarvestItem => (item.record py harvestedAt).isNone) (l := items)]
    refine congrArg _ (List.countP_congr fun item _ => ?_)
    cases item.record py harvestedAt <;> simp

/-! ## Two items -/

/-- The runtime on the address of one award. -/
def harvestPy : HarvestPy where
  toPy := Sample.py
  fromtimestamp := fun _ => valueError "year is out of range"
  httpUrl := fun url => if url = Sample.awardUrl then .ok url else valueError "Input should be a valid URL"

lemma harvestPy_laws : harvestPy.HarvestLaws where
  fromtimestamp := by
    rintro value e ⟨⟩
    decide
  httpUrl := by
    intro url e h
    have hurl : (if url = Sample.awardUrl then .ok url
      else valueError "Input should be a valid URL" : Except PyErr String) = .error e := h
    split at hurl
    · cases hurl
    · cases hurl
      rfl

/-- A search result. -/
def awardItem : HarvestItem where
  sourceId := 1
  api := .tavily
  raw := .obj [("title", .str "Masters award"), ("url", .str Sample.awardUrl),
    ("content", .str "Apply until 1 March 2030.")]

/-- A search result whose title is a number. -/
def numberedItem : HarvestItem where
  sourceId := 1
  api := .tavily
  raw := .obj [("title", .int 5), ("url", .str Sample.awardUrl), ("content", .null)]

theorem award_harvested : ∃ skipped, harvestItems harvestPy Sample.start [awardItem] =
    .ok (skipped, [awardItem].filterMap (HarvestItem.record harvestPy Sample.start)) ∧
      skipped + ([awardItem].filterMap
        (HarvestItem.record harvestPy Sample.start)).length = [awardItem].length := by
  refine ((harvest_goes_on_iff harvestPy harvestPy_laws Sample.start).2 [awardItem]).mpr ?_
  intro item hitem
  rw [List.mem_singleton.mp hitem]
  exact ⟨_, rfl, fun _ => ⟨_, rfl⟩, fun _ => ⟨_, rfl⟩, Or.inr (Or.inr fun _ => ⟨_, rfl⟩)⟩

/-- The award has a record, and is lost with the item after it. -/
theorem numbered_title_ends_harvest :
    (awardItem.record harvestPy Sample.start).isSome ∧
      (∃ e, mapAndAppend harvestPy [] numberedItem.sourceId numberedItem.raw numberedItem.api
        Sample.start = .error e) ∧
      ∃ e, harvestItems harvestPy Sample.start [awardItem, numberedItem] = .error e :=
  ⟨rfl, ⟨_, rfl⟩, ⟨_, rfl⟩⟩

end ScholarshipFinder
