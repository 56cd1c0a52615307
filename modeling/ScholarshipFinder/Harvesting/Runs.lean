import ScholarshipFinder.Budgets.CallBudget
import ScholarshipFinder.Harvesting.OneItem
import ScholarshipFinder.Sample.Intake

/-!
# Runs of a harvest

A run of the marketplace goes through the calls of all active sources and through the items of each
call, with counters and a list of records that all loops share.  `harvestParsebot_one_pass` says
that it imports what one pass over the items of the answered calls gives, so that a call that fails
costs its own items only.  The health of a source counts the runs in which all its calls have
failed, since the last in which one was answered.  A web search stops where its budget ends, with
what it has.
-/

namespace ScholarshipFinder

open Lib

/-! ## One pass -/

/-- The items of a call that is answered. -/
def callItems (fetch : HarvestCall → Except PyErr (List Json)) (sourceId : SourceId)
    (api : HarvestApi) (call : HarvestCall) : List HarvestItem :=
  ((fetch call).toOption.getD []).map (⟨sourceId, api, ·⟩)

/-- The items of all calls, in the order of a run. -/
def feedItems (fetch : HarvestCall → Except PyErr (List Json))
    (feeds : List (SourceId × HarvestFeed)) : List HarvestItem :=
  feeds.flatMap fun (sourceId, feed) => feed.calls.flatMap (callItems fetch sourceId feed.api)

/-- How many calls have failed. -/
def failedCalls (fetch : HarvestCall → Except PyErr (List Json)) (calls : List HarvestCall) : ℕ :=
  calls.countP fun call => (fetch call).toOption.isNone

section

variable {py : HarvestPy} {fetch : HarvestCall → Except PyErr (List Json)} {harvestedAt : Instant}
  {sourceId : SourceId} {api : HarvestApi}

lemma harvestCall_eq (state : (ℕ × ℕ) × ℕ × List FeedRecord) (call : HarvestCall) :
    harvestCall py fetch harvestedAt sourceId api state call =
      ((callItems fetch sourceId api call).foldlM (harvestStep py harvestedAt) state.2).map
        fun found => ((state.1.1 + 1, state.1.2 + failedCalls fetch [call]), found) := by
  rw [harvestCall, callItems, failedCalls, List.countP_singleton]
  cases fetch call with
  | error e => rfl
  | ok rawItems =>
    dsimp only [Except.toOption, Option.getD]
    rw [List.foldlM_map]
    rfl

/-- The loop over the calls of a source counts them, and passes over the items of those that are
answered. -/
lemma harvestCalls_eq (calls : List HarvestCall) (state : (ℕ × ℕ) × ℕ × List FeedRecord) :
    calls.foldlM (harvestCall py fetch harvestedAt sourceId api) state =
      ((calls.flatMap (callItems fetch sourceId api)).foldlM (harvestStep py harvestedAt)
        state.2).map fun found =>
          ((state.1.1 + calls.length, state.1.2 + failedCalls fetch calls), found) := by
  induction calls generalizing state with
  | nil => rfl
  | cons call calls ih =>
    rw [List.foldlM_cons, harvestCall_eq, List.flatMap_cons, List.foldlM_append]
    cases (callItems fetch sourceId api call).foldlM (harvestStep py harvestedAt) state.2 with
    | error e => rfl
    | ok found =>
      show calls.foldlM _ _ = _
      rw [ih]
      have hattempts : state.1.1 + 1 + calls.length = state.1.1 + (call :: calls).length := by
        rw [List.length_cons]
        omega
      have hfailures : state.1.2 + failedCalls fetch [call] + failedCalls fetch calls =
          state.1.2 + failedCalls fetch (call :: calls) := by
        rw [failedCalls, failedCalls, failedCalls, Nat.add_assoc, ← List.countP_append]
        rfl
      dsimp only
      rw [hattempts, hfailures]
      rfl

/-- What a run has harvested is what one pass over the items of all answered calls gives. -/
theorem harvestFeeds_fst (feeds : List (SourceId × HarvestFeed)) (found : ℕ × List FeedRecord)
    (health : SourceId → HarvestHealth) :
    (harvestFeeds py fetch harvestedAt feeds found health).1 =
      (feedItems fetch feeds).foldlM (harvestStep py harvestedAt) found := by
  induction feeds generalizing found health with
  | nil => rfl
  | cons entry feeds ih =>
    obtain ⟨sourceId, feed⟩ := entry
    rw [harvestFeeds, harvestCalls_eq, feedItems, List.flatMap_cons, List.foldlM_append]
    cases (feed.calls.flatMap (callItems fetch sourceId feed.api)).foldlM
      (harvestStep py harvestedAt) found with
    | error e => rfl
    | ok found' => exact ih found' _

/-! ## Health -/

/-- The step of a harvest raises or not whatever was harvested before. -/
lemma harvestStep_isOk (state state' : ℕ × List FeedRecord) (item : HarvestItem) :
    (harvestStep py harvestedAt state item).toOption.isSome =
      (harvestStep py harvestedAt state' item).toOption.isSome := by
  unfold harvestStep mapAndAppend
  cases mappedRecord py item.sourceId item.raw item.api harvestedAt with
  | error e =>
    by_cases hskips : e.cls ∈ harvestErrors
    · simp only [hskips, if_true]
      rfl
    · simp only [hskips, if_false]
      rfl
  | ok found => cases found <;> rfl

lemma harvestPass_isOk (items : List HarvestItem) (state state' : ℕ × List FeedRecord) :
    (items.foldlM (harvestStep py harvestedAt) state).toOption.isSome =
      (items.foldlM (harvestStep py harvestedAt) state').toOption.isSome := by
  induction items generalizing state state' with
  | nil => rfl
  | cons item items ih =>
    have hitem := @harvestStep_isOk py harvestedAt state state' item
    rw [List.foldlM_cons, List.foldlM_cons]
    cases hstep : harvestStep py harvestedAt state item with
    | error e =>
      rw [hstep] at hitem
      cases hstep' : harvestStep py harvestedAt state' item with
      | error e' => rfl
      | ok next' => rw [hstep'] at hitem; cases hitem
    | ok next =>
      rw [hstep] at hitem
      cases hstep' : harvestStep py harvestedAt state' item with
      | error e' => rw [hstep'] at hitem; cases hitem
      | ok next' => exact ih next next'

variable (py fetch harvestedAt) in
/-- The loop of a source ends. -/
def FeedEnds (entry : SourceId × HarvestFeed) : Prop :=
  (harvestItems py harvestedAt (feedItems fetch [entry])).toOption.isSome = true

instance : DecidablePred (FeedEnds py fetch harvestedAt) :=
  fun _ => inferInstanceAs (Decidable (_ = true))

variable (py fetch harvestedAt) in
/-- The sources whose loops have ended. -/
def endedFeeds (feeds : List (SourceId × HarvestFeed)) : List (SourceId × HarvestFeed) :=
  feeds.takeWhile fun entry => decide (FeedEnds py fetch harvestedAt entry)

variable (fetch harvestedAt) in
/-- The health of the sources after their loops. -/
def healthAfter (feeds : List (SourceId × HarvestFeed)) (health : SourceId → HarvestHealth) :
    SourceId → HarvestHealth :=
  feeds.foldl (fun health (sourceId, feed) => Function.update health sourceId
    (updateHarvestHealth (health sourceId) feed.calls.length (failedCalls fetch feed.calls)
      harvestedAt)) health

/-- The health is written of those sources whose loops have ended. -/
theorem harvestFeeds_snd (feeds : List (SourceId × HarvestFeed)) (found : ℕ × List FeedRecord)
    (health : SourceId → HarvestHealth) :
    (harvestFeeds py fetch harvestedAt feeds found health).2 =
      healthAfter fetch harvestedAt (endedFeeds py fetch harvestedAt feeds) health := by
  induction feeds generalizing found health with
  | nil => rfl
  | cons entry feeds ih =>
    obtain ⟨sourceId, feed⟩ := entry
    have hends : FeedEnds py fetch harvestedAt (sourceId, feed) ↔
        ((feed.calls.flatMap (callItems fetch sourceId feed.api)).foldlM
          (harvestStep py harvestedAt) found).toOption.isSome = true := by
      rw [FeedEnds, harvestItems, harvestPass_isOk _ (0, []) found, feedItems, List.flatMap_cons,
        List.flatMap_nil, List.append_nil]
    rw [harvestFeeds, harvestCalls_eq, endedFeeds, List.takeWhile_cons]
    cases hpass : (feed.calls.flatMap (callItems fetch sourceId feed.api)).foldlM
      (harvestStep py harvestedAt) found with
    | error e =>
      rw [hpass] at hends
      rw [decide_eq_false (fun h => by cases hends.mp h)]
      rfl
    | ok found' =>
      rw [hpass] at hends
      rw [decide_eq_true (hends.mpr rfl)]
      show (harvestFeeds py fetch harvestedAt feeds found' _).2 = _
      rw [ih]
      show _ = healthAfter fetch harvestedAt ((sourceId, feed) :: _) health
      rw [healthAfter, healthAfter, List.foldl_cons, Nat.zero_add, Nat.zero_add]
      rfl

end

/-! ## Runs of the marketplace -/

/-- What a run does with what it has harvested. -/
def importedRun (intakePy : IntakePy) (answers : ImportAnswers)
    (harvested : Except PyErr (ℕ × List FeedRecord)) (store : IntakeStore) :
    Except PyErr (Option ImportOutcome) × IntakeStore :=
  match harvested with
  | .error e => (.error e, store)
  | .ok (_, []) => (.ok none, store)
  | .ok (_, records) =>
    ((importHarvest intakePy answers records store).1.map some,
      (importHarvest intakePy answers records store).2)

/-- A run, but for the health that it is on. -/
structure HarvestRound where
  majors : List String
  fetch : HarvestCall → Except PyErr (List Json)
  harvestedAt : Instant
  answers : ImportAnswers
  seen : Db
  intake : IntakeStore

namespace HarvestRound

variable (py : HarvestPy) (intakePy : IntakePy) (round : HarvestRound)

def feeds : List (SourceId × HarvestFeed) := activeFeeds round.seen (parsebotFeeds round.majors)

def run (health : SourceId → HarvestHealth) :
    Except PyErr (Option ImportOutcome) × HarvestStore :=
  harvestParsebot py intakePy round.majors round.fetch round.harvestedAt round.answers round.seen
    ⟨round.intake, health⟩

/-- What the calls of the round give. -/
def harvested : Except PyErr (ℕ × List FeedRecord) :=
  harvestItems py round.harvestedAt (feedItems round.fetch round.feeds)

/-- The database has refused the import, and with it all that the round has written. -/
def lost : Bool :=
  match (importedRun intakePy round.answers (round.harvested py) round.intake).1 with
  | .error e => (round.harvested py).toOption.isSome && e.isDatabase
  | .ok _ => false

/-- Whether all calls to a source have failed, if its loop has ended and is not lost. -/
def verdict (id : SourceId) : Option Bool :=
  if round.lost py intakePy then none
  else ((endedFeeds py round.fetch round.harvestedAt round.feeds).lookup id).bind fun feed =>
    if feed.calls.isEmpty then none
    else some (decide (failedCalls round.fetch feed.calls = feed.calls.length))

end HarvestRound

section

variable {py : HarvestPy} {intakePy : IntakePy} {round : HarvestRound}
  {health : SourceId → HarvestHealth} {id : SourceId}

/-- What a run answers and leaves, by what it has harvested. -/
theorem run_eq (health : SourceId → HarvestHealth) : round.run py intakePy health =
    ((importedRun intakePy round.answers (round.harvested py) round.intake).1,
      ⟨(importedRun intakePy round.answers (round.harvested py) round.intake).2,
        if round.lost py intakePy then health else healthAfter round.fetch round.harvestedAt
          (endedFeeds py round.fetch round.harvestedAt round.feeds) health⟩) := by
  have hfst := @harvestFeeds_fst py round.fetch round.harvestedAt round.feeds (0, []) health
  have hsnd := @harvestFeeds_snd py round.fetch round.harvestedAt round.feeds (0, []) health
  have hharvested : (feedItems round.fetch round.feeds).foldlM
      (harvestStep py round.harvestedAt) (0, []) = round.harvested py := rfl
  rw [hharvested] at hfst
  rw [HarvestRound.lost, HarvestRound.run, harvestParsebot]
  dsimp only
  split
  · next hempty =>
    -- no source is active
    have hfeeds : round.feeds = [] := List.isEmpty_iff.mp hempty
    have hnothing : round.harvested py = .ok (0, []) := by
      rw [HarvestRound.harvested, hfeeds]
      rfl
    rw [hnothing, hfeeds]
    rfl
  · rw [show activeFeeds round.seen (parsebotFeeds round.majors) = round.feeds from rfl]
    generalize harvestFeeds py round.fetch round.harvestedAt round.feeds (0, []) health = ran at *
    obtain ⟨result, after⟩ := ran
    subst hfst hsnd
    cases hresult : round.harvested py with
    | error e => rfl
    | ok found =>
      obtain ⟨skipped, records⟩ := found
      cases records with
      | nil => rfl
      | cons record records =>
        dsimp only [importedRun]
        obtain ⟨imported, intake, himport⟩ : ∃ imported intake, importHarvest intakePy
          round.answers (record :: records) round.intake = (imported, intake) := ⟨_, _, rfl⟩
        simp only [himport]
        cases imported with
        | error e => rfl
        | ok outcome => rfl

end

/-- A run imports what one pass over the items of the calls that were answered gives, or raises what
the pass raises.  So a call that fails costs its own items only: the run is what it would be if the
call had answered nothing. -/
theorem harvestParsebot_one_pass (py : HarvestPy) (intakePy : IntakePy) (round : HarvestRound)
    (health : SourceId → HarvestHealth) :
    ((round.run py intakePy health).1, (round.run py intakePy health).2.toIntakeStore) =
      importedRun intakePy round.answers (harvestItems py round.harvestedAt
        (feedItems round.fetch round.feeds)) round.intake ∧
    ∀ fetch, (∀ entry ∈ round.feeds, ∀ call ∈ entry.2.calls,
        (fetch call).toOption.getD [] = (round.fetch call).toOption.getD []) →
      (({ round with fetch := fetch }).run py intakePy health).1 = (round.run py intakePy health).1 ∧
      (({ round with fetch := fetch }).run py intakePy health).2.toIntakeStore =
        (round.run py intakePy health).2.toIntakeStore := by
  refine ⟨by rw [run_eq]; rfl, fun fetch hfetch => ?_⟩
  have hitems : feedItems fetch round.feeds = feedItems round.fetch round.feeds := by
    refine List.flatMap_congr fun entry hentry => List.flatMap_congr fun call hcall => ?_
    rw [callItems, callItems, hfetch entry hentry call hcall]
  have hharvested : ({ round with fetch := fetch } : HarvestRound).harvested py =
      round.harvested py := by
    show harvestItems py round.harvestedAt (feedItems fetch round.feeds) = _
    rw [hitems]
    rfl
  rw [run_eq, run_eq, hharvested]
  exact ⟨rfl, rfl⟩

namespace Sample

/-- Two sources of the marketplace, and the one of the web search. -/
def harvestSources : Table SourceId Source :=
  ((Table.empty.insert 1 ⟨"Opportunity Desk (via Parse.bot)", [], true⟩).insert 2
    ⟨"CareerOneStop (via Parse.bot)", [], true⟩).insert 3 ⟨"Tavily Web Search", [], true⟩

def harvestIntake : IntakeStore :=
  { emptyIntake with
    discovered := { emptyIntake.discovered with
      db := { unpublished with sources := harvestSources }
      page_source := by
        rintro id page ⟨⟩
      discovery_page := by
        rintro id d ⟨⟩ } }

/-- The first source fails, or answers nothing, and the second answers the award. -/
def harvestFetch (desk : Except PyErr (List Json)) : HarvestCall → Except PyErr (List Json)
  | .careeronestop => .ok [.obj [("name", .str "Award A"), ("url", .str awardUrl)]]
  | _ => desk

def importAnswers : ImportAnswers := ⟨1, start, start, rowAnswers⟩

def harvestRound (desk : Except PyErr (List Json)) : HarvestRound where
  majors := []
  fetch := harvestFetch desk
  harvestedAt := start
  answers := importAnswers
  seen := harvestIntake.discovered.db
  intake := harvestIntake

end Sample

/-- The award of the second source is imported, whether the first fails or answers nothing. -/
theorem award_imported_alone :
    ((Sample.harvestRound (.error ⟨.other, "upstream is down"⟩)).run harvestPy Sample.intakePy
      fun _ => {}).1.toOption = some (some ⟨1, 1, 0, 0, 0⟩) ∧
    ((Sample.harvestRound (.ok [])).run harvestPy Sample.intakePy fun _ => {}).1 =
      ((Sample.harvestRound (.error ⟨.other, "upstream is down"⟩)).run harvestPy Sample.intakePy
        fun _ => {}).1 := by
  have hpass := harvestParsebot_one_pass harvestPy Sample.intakePy
    (Sample.harvestRound (.error ⟨.other, "upstream is down"⟩)) fun _ => {}
  refine ⟨by decide +kernel, (hpass.2 (Sample.harvestFetch (.ok [])) fun entry _ call _ => ?_).1⟩
  cases call <;> rfl

/-! ## The health over many runs -/

section

variable {fetch : HarvestCall → Except PyErr (List Json)} {harvestedAt : Instant}
  {feeds : List (SourceId × HarvestFeed)} {id : SourceId}

/-- An active source has the name that it was looked up by. -/
lemma activeSource_name {db : Db} {name : String} (h : activeSource db name = some id) :
    (db.sources.row id).map (·.name) = some name := by
  obtain ⟨source, hrow, hmatch⟩ := Table.findKey_eq_some h
  rw [Bool.and_eq_true, decide_eq_true_eq] at hmatch
  rw [hrow, Option.map_some, hmatch.1]

/-- Interfaces of different names have different sources. -/
lemma nodup_activeFeeds {db : Db} {feeds : List HarvestFeed}
    (h : (feeds.map (·.sourceName)).Nodup) : ((activeFeeds db feeds).map Prod.fst).Nodup := by
  induction feeds with
  | nil => exact List.nodup_nil
  | cons feed feeds ih =>
    rw [List.map_cons, List.nodup_cons] at h
    rw [activeFeeds, List.filterMap_cons]
    cases hid : activeSource db feed.sourceName with
    | none => exact ih h.2
    | some id =>
      refine List.nodup_cons.mpr ⟨fun hmem => ?_, ih h.2⟩
      obtain ⟨entry, hentry, heq⟩ := List.mem_map.mp hmem
      obtain ⟨other, hother, hfound⟩ := List.mem_filterMap.mp hentry
      obtain ⟨id', hid', rfl⟩ := Option.map_eq_some_iff.mp hfound
      obtain rfl : id' = id := heq
      have hnames := (activeSource_name hid').symm.trans (activeSource_name hid)
      exact h.1 (List.mem_map.mpr ⟨other, hother, Option.some.inj hnames⟩)

/-- The health of a source, by the calls of its own loop. -/
lemma healthAfter_apply (h : (feeds.map Prod.fst).Nodup) (health : SourceId → HarvestHealth) :
    healthAfter fetch harvestedAt feeds health id = match feeds.lookup id with
      | none => health id
      | some feed => updateHarvestHealth (health id) feed.calls.length
          (failedCalls fetch feed.calls) harvestedAt := by
  induction feeds generalizing health with
  | nil => rfl
  | cons entry feeds ih =>
    obtain ⟨sourceId, feed⟩ := entry
    rw [List.map_cons, List.nodup_cons] at h
    have hrest := ih h.2 (Function.update health sourceId (updateHarvestHealth (health sourceId)
      feed.calls.length (failedCalls fetch feed.calls) harvestedAt))
    rw [healthAfter, List.foldl_cons]
    refine Eq.trans hrest ?_
    rw [List.lookup_cons]
    by_cases hid : id = sourceId
    · subst hid
      have hnone : feeds.lookup id = none := by
        rw [List.lookup_eq_none_iff]
        rintro ⟨other, feed'⟩ hmem
        rw [bne_iff_ne]
        rintro rfl
        exact h.1 (List.mem_map.mpr ⟨(id, feed'), hmem, rfl⟩)
      rw [hnone, beq_self_eq_true]
      exact Function.update_self _ _ _
    · rw [beq_eq_false_iff_ne.mpr hid, Function.update_of_ne hid]

end

section

variable {py : HarvestPy} {intakePy : IntakePy} {health : SourceId → HarvestHealth} {id : SourceId}

/-- One run, by its verdict on the source. -/
lemma run_health (round : HarvestRound) :
    (round.run py intakePy health).2.health id = match round.verdict py intakePy id with
      | none => health id
      | some true => ⟨(health id).consecutiveHarvestFailures + 1, some round.harvestedAt⟩
      | some false => { health id with consecutiveHarvestFailures := 0 } := by
  rw [run_eq, HarvestRound.verdict]
  dsimp only
  split
  · rfl
  · have hnodup : ((endedFeeds py round.fetch round.harvestedAt round.feeds).map
        Prod.fst).Nodup := by
      refine List.Nodup.sublist ((List.takeWhile_sublist _).map _) (nodup_activeFeeds ?_)
      show ["ScholarshipPortal (via Parse.bot)", "PhDScanner (via Parse.bot)",
        "Mastersportal (via Parse.bot)", "Opportunity Desk (via Parse.bot)",
        "Fastweb (via Parse.bot)", "CareerOneStop (via Parse.bot)"].Nodup
      decide
    rw [healthAfter_apply hnodup]
    cases hlookup : (endedFeeds py round.fetch round.harvestedAt round.feeds).lookup id with
    | none => rfl
    | some feed =>
      dsimp only [Option.bind_some]
      rw [updateHarvestHealth]
      cases hcalls : feed.calls with
      | nil => rfl
      | cons call calls =>
        have hle : failedCalls round.fetch (call :: calls) ≤ (call :: calls).length :=
          List.countP_le_length
        rw [if_neg (by simp), List.isEmpty_cons]
        by_cases hall : failedCalls round.fetch (call :: calls) = (call :: calls).length
        · rw [if_neg (by omega), decide_eq_true hall]
          rfl
        · rw [if_pos (by omega), decide_eq_false hall]
          rfl

/-- The counter of a source is the number of runs since the last with an answered call, of those
that tried it, and the time is that of the last run in which all its calls have failed. -/
theorem harvest_health_counts (py : HarvestPy) (intakePy : IntakePy) (rounds : List HarvestRound)
    (health : SourceId → HarvestHealth) (id : SourceId) :
    let verdicts := rounds.filterMap fun round =>
      (round.verdict py intakePy id).map (·, round.harvestedAt)
    let after := rounds.foldl (fun health round => (round.run py intakePy health).2.health) health
    (after id).consecutiveHarvestFailures = (verdicts.reverse.takeWhile (·.1)).length +
        (if verdicts.all (·.1) then (health id).consecutiveHarvestFailures else 0) ∧
      (after id).lastHarvestFailureAt =
        ((verdicts.filter (·.1)).getLast?.map (·.2)).or (health id).lastHarvestFailureAt := by
  induction rounds using List.reverseRecOn with
  | nil => exact ⟨(Nat.zero_add _).symm, rfl⟩
  | append_singleton rounds round ih =>
    dsimp only at ih ⊢
    obtain ⟨hcount, hlast⟩ := ih
    rw [List.foldl_append, List.filterMap_append, List.foldl_cons, List.foldl_nil, run_health]
    cases hverdict : round.verdict py intakePy id with
    | none =>
      simp only [List.filterMap_cons, List.filterMap_nil, hverdict, Option.map_none,
        List.append_nil]
      exact ⟨hcount, hlast⟩
    | some failed =>
      cases failed with
      | true =>
        simp only [List.filterMap_cons, List.filterMap_nil, hverdict, Option.map_some,
          List.reverse_append, List.reverse_singleton, List.singleton_append, List.takeWhile_cons,
          if_true, List.length_cons, List.all_append, List.all_cons, List.all_nil, Bool.and_true,
          List.filter_append, List.filter_cons, List.filter_nil, List.getLast?_append,
          List.getLast?_singleton, Option.some_or]
        refine ⟨?_, trivial⟩
        rw [hcount]
        omega
      | false =>
        simp only [List.filterMap_cons, List.filterMap_nil, hverdict, Option.map_some,
          List.reverse_append, List.reverse_singleton, List.singleton_append, List.takeWhile_cons,
          List.all_append, List.all_cons, Bool.false_and, Bool.and_false, List.filter_append,
          List.filter_cons, List.filter_nil, Bool.false_eq_true, if_false, List.append_nil]
        exact ⟨rfl, hlast⟩

end

/-! ## A run of the web search -/

section

variable (py : HarvestPy) (limit : ℤ) (sourceId : SourceId) (harvestedAt : Instant)

/-- What a search adds to what is harvested. -/
def searchStep (found : ℕ × List FeedRecord) (query : String × SearchAnswers) :
    Except PyErr (ℕ × List FeedRecord) :=
  match query.2.results with
  | .error e => if e.cls = .httpError then .ok found else .error e
  | .ok rawItems =>
    (rawItems.map (⟨sourceId, .tavily, ·⟩)).foldlM (harvestStep py harvestedAt) found

/-- The month of a query, with its provider. -/
def searchKey (query : String × SearchAnswers) : UsageKey := ("tavily", yearMonth query.2.now)

/-- The queries of the searches that a run makes: those whose calls are allowed, up to the first
that is refused or raises. -/
def madeSearches : List (String × SearchAnswers) → Table UsageKey ℕ → List (String × SearchAnswers)
  | [], _ => []
  | query :: queries, usage =>
    match reserveStatement (searchKey query) limit (query.2.others usage) with
    | (false, _) => []
    | (true, usage) =>
      query :: if (searchStep py sourceId harvestedAt (0, []) query).toOption.isSome then
        madeSearches queries usage else []

/-- The calls of others are counted, and none is taken back. -/
def Counts (others : Table UsageKey ℕ → Table UsageKey ℕ) : Prop :=
  ∀ usage key used, usage.row key = some used → ∃ used', (others usage).row key = some used' ∧
    used ≤ used'

variable {py limit sourceId harvestedAt} {queries : List (String × SearchAnswers)}
  {usage : Table UsageKey ℕ}

/-- A search raises or not whatever was harvested before. -/
lemma searchStep_isOk (found found' : ℕ × List FeedRecord) (query : String × SearchAnswers) :
    (searchStep py sourceId harvestedAt found query).toOption.isSome =
      (searchStep py sourceId harvestedAt found' query).toOption.isSome := by
  unfold searchStep
  cases query.2.results with
  | error e =>
    by_cases hhttp : e.cls = .httpError
    · simp only [hhttp, if_true]
      rfl
    · simp only [hhttp, if_false]
  | ok rawItems => exact harvestPass_isOk _ found found'

/-- One query of the loop. -/
lemma searchQueries_cons (query : String × SearchAnswers) (queries : List (String × SearchAnswers))
    (found : ℕ × List FeedRecord) (usage : Table UsageKey ℕ) :
    searchQueries py limit sourceId harvestedAt (query :: queries) found usage =
      match reserveStatement (searchKey query) limit (query.2.others usage) with
      | (false, usage) => (.ok found, usage)
      | (true, usage) =>
        match searchStep py sourceId harvestedAt found query with
        | .error e => (.error e, usage)
        | .ok found => searchQueries py limit sourceId harvestedAt queries found usage := by
  obtain ⟨text, answers⟩ := query
  rw [searchQueries, searchKey]
  dsimp only
  obtain ⟨allowed, usage', hreserve⟩ : ∃ allowed usage', reserveStatement
    ("tavily", yearMonth answers.now) limit (answers.others usage) = (allowed, usage') :=
      ⟨_, _, rfl⟩
  rw [hreserve]
  cases allowed with
  | false => rfl
  | true =>
    dsimp only
    rw [searchStep]
    dsimp only
    cases answers.results with
    | error e => by_cases hhttp : e.cls = .httpError <;> simp only [hhttp, if_true, if_false]
    | ok rawItems =>
      dsimp only
      rewrite [List.foldlM_map]
      rfl

/-- A run gives what one pass over its searches gives: where the budget ends, it keeps what it
has. -/
theorem searchQueries_fst (queries : List (String × SearchAnswers)) (found : ℕ × List FeedRecord)
    (usage : Table UsageKey ℕ) :
    (searchQueries py limit sourceId harvestedAt queries found usage).1 =
      (madeSearches py limit sourceId harvestedAt queries usage).foldlM
        (searchStep py sourceId harvestedAt) found := by
  induction queries generalizing found usage with
  | nil => rfl
  | cons query queries ih =>
    rw [searchQueries_cons, madeSearches]
    rcases reserveStatement (searchKey query) limit (query.2.others usage) with ⟨_ | _, usage'⟩
    · rfl
    · have hsame := @searchStep_isOk py sourceId harvestedAt found (0, []) query
      dsimp only
      rw [List.foldlM_cons, ← hsame]
      cases searchStep py sourceId harvestedAt found query with
      | error e => rfl
      | ok found' => exact ih found' usage'

/-- A run makes its searches in the order of its queries, from the first on. -/
lemma madeSearches_prefix (queries : List (String × SearchAnswers)) (usage : Table UsageKey ℕ) :
    madeSearches py limit sourceId harvestedAt queries usage <+: queries := by
  induction queries generalizing usage with
  | nil => exact List.prefix_rfl
  | cons query queries ih =>
    rw [madeSearches]
    rcases reserveStatement (searchKey query) limit (query.2.others usage) with ⟨_ | _, usage'⟩
    · exact List.nil_prefix
    · dsimp only
      split
      · exact List.cons_prefix_cons.mpr ⟨rfl, ih usage'⟩
      · exact List.cons_prefix_cons.mpr ⟨rfl, List.nil_prefix⟩

/-- A call that is allowed is counted, where there was room for it. -/
lemma reserveStatement_true {key : UsageKey} {usage usage' : Table UsageKey ℕ}
    (h : reserveStatement key limit usage = (true, usage')) (other : UsageKey) :
    (usage.row other).getD 0 + (if key = other then 1 else 0) ≤ (usage'.row other).getD 0 ∧
      callRoom limit (usage'.row other) + (if key = other then 1 else 0) ≤
        callRoom limit (usage.row other) := by
  unfold reserveStatement at h
  by_cases hother : key = other
  · subst hother
    rw [if_pos rfl]
    split at h
    · next hnone =>
      obtain ⟨-, rfl⟩ := Prod.mk.inj h
      rw [Table.row_insert_self, hnone]
      refine ⟨le_rfl, ?_⟩
      simp only [callRoom]
      omega
    · next used hused =>
      split at h
      · next hroom =>
        obtain ⟨-, rfl⟩ := Prod.mk.inj h
        rw [Table.row_insert_self, hused]
        refine ⟨le_rfl, ?_⟩
        simp only [callRoom]
        omega
      · cases h
  · have hrow : usage'.row other = usage.row other := by
      split at h
      · obtain ⟨-, rfl⟩ := Prod.mk.inj h
        rw [Table.row_insert, if_neg (Ne.symm hother)]
      · split at h
        · obtain ⟨-, rfl⟩ := Prod.mk.inj h
          rw [Table.row_insert, if_neg (Ne.symm hother)]
        · cases h
    rw [if_neg hother, hrow]
    exact ⟨le_rfl, le_rfl⟩

lemma reserveStatement_false {key : UsageKey} {usage usage' : Table UsageKey ℕ}
    (h : reserveStatement key limit usage = (false, usage')) : usage' = usage := by
  unfold reserveStatement at h
  split at h
  · cases h
  · split at h
    · cases h
    · exact (Prod.mk.inj h).2.symm

/-- The calls of others leave no more room than there was. -/
lemma Counts.room {others : Table UsageKey ℕ → Table UsageKey ℕ} (h : Counts others)
    (usage : Table UsageKey ℕ) (key : UsageKey) :
    (usage.row key).getD 0 ≤ ((others usage).row key).getD 0 ∧
      callRoom limit ((others usage).row key) ≤ callRoom limit (usage.row key) := by
  cases hrow : usage.row key with
  | none =>
    refine ⟨Nat.zero_le _, ?_⟩
    cases (others usage).row key with
    | none => exact le_rfl
    | some used =>
      simp only [callRoom]
      omega
  | some used =>
    obtain ⟨used', hused', hle⟩ := h usage key used hrow
    rw [hused']
    refine ⟨hle, ?_⟩
    simp only [callRoom]
    omega

/-- Every search is counted in its month, and a run makes as many as there is room for at most. -/
theorem searches_counted (queries : List (String × SearchAnswers)) (found : ℕ × List FeedRecord)
    (usage : Table UsageKey ℕ) (hothers : ∀ query ∈ queries, Counts query.2.others)
    (key : UsageKey) :
    (usage.row key).getD 0 + (madeSearches py limit sourceId harvestedAt queries usage).countP
        (searchKey · = key) ≤
          ((searchQueries py limit sourceId harvestedAt queries found usage).2.row key).getD 0 ∧
      (madeSearches py limit sourceId harvestedAt queries usage).countP (searchKey · = key) ≤
        callRoom limit (usage.row key) := by
  induction queries generalizing found usage with
  | nil => exact ⟨le_rfl, Nat.zero_le _⟩
  | cons query queries ih =>
    obtain ⟨hquery, hqueries⟩ := List.forall_mem_cons.mp hothers
    obtain ⟨hused, hroom⟩ := @Counts.room limit _ hquery usage key
    rw [searchQueries_cons, madeSearches]
    obtain ⟨allowed, usage', hreserve⟩ : ∃ allowed usage', reserveStatement (searchKey query) limit
      (query.2.others usage) = (allowed, usage') := ⟨_, _, rfl⟩
    rw [hreserve]
    cases allowed with
    | false =>
      rw [reserveStatement_false hreserve]
      exact ⟨hused, Nat.zero_le _⟩
    | true =>
      obtain ⟨hbooked, hleft⟩ := reserveStatement_true hreserve key
      have hsame := @searchStep_isOk py sourceId harvestedAt found (0, []) query
      simp only [List.countP_cons, decide_eq_true_eq]
      cases hstep : searchStep py sourceId harvestedAt found query with
      | error e =>
        have hraises : ¬ (searchStep py sourceId harvestedAt (0, []) query).toOption.isSome := by
          rw [← hsame, hstep]
          exact Bool.false_ne_true
        rw [if_neg hraises, List.countP_nil]
        dsimp only
        omega
      | ok found' =>
        have hends : (searchStep py sourceId harvestedAt (0, []) query).toOption.isSome := by
          rw [← hsame, hstep]
          rfl
        obtain ⟨hrest, hrestRoom⟩ := ih found' usage' hqueries
        rw [if_pos hends]
        dsimp only
        omega

/-- The queries of a run, with what they are answered. -/
def tavilySearches (search : ℕ → SearchAnswers) : List (String × SearchAnswers) :=
  tavilyQueries.zipIdx.map fun (query, n) => (query, search n)

/-- A run imports what one pass over its searches gives: it ends early where the budget does, and
keeps what it has.  In each month it makes as many searches at most as the budget has room for, and
each of them is counted.  Where the source is not active or there is no key, it does nothing. -/
theorem harvestTavily_within_budget (py : HarvestPy) (intakePy : IntakePy)
    (apiKey : Option String) (limit : ℤ) (search : ℕ → SearchAnswers) (harvestedAt : Instant)
    (answers : ImportAnswers) (seen : Db) (store : IntakeStore)
    (hothers : ∀ n, Counts (search n).others) :
    (activeSource seen "Tavily Web Search" = none ∨ apiKey.getD "" = "") ∧
      harvestTavily py intakePy apiKey limit search harvestedAt answers seen store =
        (.ok none, store) ∨
    ∃ sourceId usage, activeSource seen "Tavily Web Search" = some sourceId ∧
      let made := madeSearches py limit sourceId harvestedAt (tavilySearches search)
        store.discovered.db.usage
      made <+: tavilySearches search ∧
      harvestTavily py intakePy apiKey limit search harvestedAt answers seen store =
        importedRun intakePy answers (made.foldlM (searchStep py sourceId harvestedAt) (0, []))
          (store.withUsage usage) ∧
      ∀ month, (store.discovered.db.usage.row ("tavily", month)).getD 0 +
          made.countP (searchKey · = ("tavily", month)) ≤ (usage.row ("tavily", month)).getD 0 ∧
        made.countP (searchKey · = ("tavily", month)) ≤
          callRoom limit (store.discovered.db.usage.row ("tavily", month)) := by
  rw [harvestTavily]
  cases hsource : activeSource seen "Tavily Web Search" with
  | none => exact .inl ⟨.inl rfl, rfl⟩
  | some sourceId =>
    by_cases hkey : apiKey.getD "" = ""
    · exact .inl ⟨.inr hkey, if_pos hkey⟩
    · have hcounts : ∀ query ∈ tavilySearches search, Counts query.2.others := by
        intro query hquery
        obtain ⟨⟨text, n⟩, -, rfl⟩ := List.mem_map.mp hquery
        exact hothers n
      refine .inr ⟨sourceId, (searchQueries py limit sourceId harvestedAt (tavilySearches search)
        (0, []) store.discovered.db.usage).2, rfl, madeSearches_prefix _ _, ?_, fun month =>
          searches_counted _ (0, []) store.discovered.db.usage hcounts _⟩
      rw [← searchQueries_fst]
      dsimp only
      rw [if_neg hkey, tavilySearches]
      rcases searchQueries py limit sourceId harvestedAt _ (0, []) store.discovered.db.usage with
        ⟨e | ⟨skipped, _ | ⟨record, records⟩⟩, usage⟩
      · rfl
      · rfl
      · rfl

end

namespace Sample

/-- Nobody else searches, and no search finds anything. -/
def quietSearch (_ : ℕ) : SearchAnswers := ⟨start, fun usage => usage, .ok []⟩

/-- A run with a budget of one search. -/
def tavilyRun : Except PyErr (Option ImportOutcome) × IntakeStore :=
  harvestTavily harvestPy intakePy (some "key") 1 quietSearch start importAnswers
    harvestIntake.discovered.db harvestIntake

end Sample

/-- The budget is used up, and no further. -/
theorem one_search_made :
    (Sample.tavilyRun.2.discovered.db.usage.row ("tavily", yearMonth Sample.start)) = some 1 ∧
    ((activeSource Sample.harvestIntake.discovered.db "Tavily Web Search" = none ∨
        (some "key").getD "" = "") ∧ Sample.tavilyRun = (.ok none, Sample.harvestIntake) ∨
      ∃ sourceId usage,
        activeSource Sample.harvestIntake.discovered.db "Tavily Web Search" = some sourceId ∧
        let made := madeSearches harvestPy 1 sourceId Sample.start
          (tavilySearches Sample.quietSearch) Sample.harvestIntake.discovered.db.usage
        made <+: tavilySearches Sample.quietSearch ∧
        Sample.tavilyRun = importedRun Sample.intakePy Sample.importAnswers
          (made.foldlM (searchStep harvestPy sourceId Sample.start) (0, []))
          (Sample.harvestIntake.withUsage usage) ∧
        ∀ month, (Sample.harvestIntake.discovered.db.usage.row ("tavily", month)).getD 0 +
            made.countP (searchKey · = ("tavily", month)) ≤ (usage.row ("tavily", month)).getD 0 ∧
          made.countP (searchKey · = ("tavily", month)) ≤
            callRoom 1 (Sample.harvestIntake.discovered.db.usage.row ("tavily", month))) :=
  ⟨by decide +kernel, harvestTavily_within_budget harvestPy Sample.intakePy (some "key") 1
    Sample.quietSearch Sample.start Sample.importAnswers Sample.harvestIntake.discovered.db
    Sample.harvestIntake fun _ usage key used hused => ⟨used, hused, le_rfl⟩⟩

end ScholarshipFinder
