import ScholarshipFinder.Lib.Run
import ScholarshipFinder.Publishing.MergedEdit
import ScholarshipFinder.Sample

/-!
# A correction writes what a publication could have written

A correction validates the values that it is sent as a publication does, and builds the facts with
the same builder.  A `null` is no such value.  For some fields it clears what is stored, and for
the others it reaches code that is written for a text or a list: the sets of codes and the two
columns of the identity fail on it, and the URL, the modes, the freshness of the evidence and the
precision of a deadline are stored without it.
-/

namespace ScholarshipFinder

open Lib

variable (boundary : Boundary) (py : Py)

/-- What a request is to obey: a correction is refused with a client error and changes nothing, or
it leaves a cycle that a publication could have written. -/
def KeepsContract (store : EventStore) : CycleRequest → Prop
  | .publish .. => True
  | .correct countries scholarshipId cycleId changes =>
    (∃ status detail, correctionRoute boundary py countries scholarshipId cycleId changes store =
        .error (.http status detail) ∧ 400 ≤ status ∧ status < 500 ∧
      requestStep boundary py store (.correct countries scholarshipId cycleId changes) = store) ∨
    ∃ store' row, correctionRoute boundary py countries scholarshipId cycleId changes store =
        .ok store' ∧
      store'.db.cycles.row cycleId = some row ∧ Publishable boundary py countries row

/-! ## The condition -/

/-- The check of the identity: neither column is nulled, and a new identity is free. -/
def identityChecks (c : UpdateCycleRequest) (cycleId : CycleId) (row : ScholarshipCycle) (db : Db) :
    List (Prop × Prop) :=
  let key := c.providerCycleKey.valueOr row.providerCycleKey
  let segment := c.applicantSegment.valueOr row.applicantSegment
  [(c.providerCycleKey = .null ∨ c.applicantSegment = .null,
    (key ≠ row.providerCycleKey ∨ segment ≠ row.applicantSegment) ∧
      identityTaken db row.scholarshipId key segment (some cycleId) = true)]

/-- The condition on a correction of a cycle that is found: the checks are passed in their order
without a break, and what is then written is complete. -/
def EditsWithinContract (store : EventStore) : CycleRequest → Prop
  | .publish .. => True
  | .correct countries scholarshipId cycleId changes =>
    ∀ row stored, changes.isEmpty = false →
      loadCycleForUpdate scholarshipId cycleId store.db = .ok row →
      cycleFactsToInputs py row.facts = .ok stored →
        Guarded (factsChecks py countries changes (stored.update changes) ++
            identityChecks changes cycleId row store.db)
          (CompleteEdit boundary py changes row (stored.update changes))

variable {boundary py} {countries : CountryVocabulary}

/-! ## The route -/

/-- The answers 400 to 499. -/
def RouteErr.isClientError : RouteErr → Prop
  | .http status _ => 400 ≤ status ∧ status < 500
  | .unhandled _ => False

lemma handled_mapErr {α : Type} {status : ℕ} (hstatus : 400 ≤ status ∧ status < 500)
    {x : Except PyErr α} {Q : α → Prop} :
    Handled RouteErr.isClientError (mapErr none status x) Q ↔ Handled answered x Q := by
  cases x with
  | ok a => exact Iff.rfl
  | error e =>
    show Handled _ (mapErr none status (.error e)) Q ↔ e.cls = .valueError
    unfold mapErr
    dsimp only
    split
    · next hcls => exact iff_of_true hstatus hcls
    · next hsome => cases hsome
    · next hcls _ => exact iff_of_false id hcls

lemma handled_requireText {c : Change String} {stored : String} {Q : String → Prop} :
    Handled RouteErr.isClientError (requireText c stored) Q ↔
      c ≠ .null ∧ Q (c.valueOr stored) := by
  cases c with
  | null => exact iff_of_false id fun h => h.1 rfl
  | _ => exact (and_iff_right (by rintro ⟨⟩)).symm

/-- A cycle that cannot be corrected is answered with 404 or 409. -/
lemma load_error {scholarshipId : ScholarshipId} {cycleId : CycleId} {db : Db} {e : PyErr}
    (h : loadCycleForUpdate scholarshipId cycleId db = .error e) {α : Type} {Q : α → Prop} :
    Handled RouteErr.isClientError (mapErr (some 404) 409 (.error e : Except PyErr α)) Q := by
  have hcls : e.cls = .valueError ∨ e.cls = .lookupError := by
    rw [loadCycleForUpdate] at h
    split at h
    · exact .inr (by rw [← Except.error.inj h])
    · split at h
      · exact .inl (by rw [← Except.error.inj h])
      · split at h
        · exact .inr (by rw [← Except.error.inj h])
        · split at h
          · cases h
          · exact .inr (by rw [← Except.error.inj h])
  obtain ⟨cls, msg⟩ := e
  rcases hcls with rfl | rfl
  · exact ⟨by decide, by decide⟩
  · exact ⟨by decide, by decide⟩

/-- The law of a correction, as what its route has to answer. -/
lemma keepsContract_correct_iff {store : EventStore} {scholarshipId : ScholarshipId}
    {cycleId : CycleId} {c : UpdateCycleRequest} :
    KeepsContract boundary py store (.correct countries scholarshipId cycleId c) ↔
      Handled RouteErr.isClientError
        (correctionRoute boundary py countries scholarshipId cycleId c store) fun store' =>
          ∃ row, store'.db.cycles.row cycleId = some row ∧
            Publishable boundary py countries row := by
  show (_ ∨ _) ↔ _
  simp only [requestStep, committed]
  cases correctionRoute boundary py countries scholarshipId cycleId c store with
  | ok store' =>
    constructor
    · rintro (⟨_, _, ⟨⟩, -⟩ | ⟨_, row, ⟨⟩, hrow, hpublishable⟩)
      exact ⟨row, hrow, hpublishable⟩
    · rintro ⟨row, hrow, hpublishable⟩
      exact .inr ⟨store', row, rfl, hrow, hpublishable⟩
  | error e =>
    cases e with
    | http status detail =>
      constructor
      · rintro (⟨_, _, ⟨⟩, hlow, hhigh, -⟩ | ⟨_, _, ⟨⟩, -⟩)
        exact ⟨hlow, hhigh⟩
      · exact fun h => .inl ⟨status, detail, rfl, h.1, h.2, rfl⟩
    | unhandled e =>
      refine iff_of_false ?_ id
      rintro (⟨_, _, ⟨⟩, -⟩ | ⟨_, _, ⟨⟩, -⟩)

/-- Every stored cycle is one that a publication could have written. -/
def EventStore.EachPublishable (boundary : Boundary) (py : Py) (store : EventStore) : Prop :=
  ∀ cycleId row, store.db.cycles.row cycleId = some row →
    ∃ countries, Publishable boundary py countries row

/-- The route of a correction of a cycle that is found, from the facts on. -/
lemma correctionRoute_found {store : EventStore} {scholarshipId : ScholarshipId}
    {cycleId : CycleId} {c : UpdateCycleRequest} {row : ScholarshipCycle} {stored : CycleInputs}
    (hempty : c.isEmpty = false)
    (hload : loadCycleForUpdate scholarshipId cycleId store.db = .ok row)
    (hstored : cycleFactsToInputs py row.facts.orEmpty = .ok stored) {Q : EventStore → Prop} :
    Handled RouteErr.isClientError
        (correctionRoute boundary py countries scholarshipId cycleId c store) Q ↔
      Handled answered (buildCycleFacts py countries (stored.update c)) fun facts =>
        c.providerCycleKey ≠ .null ∧ c.applicantSegment ≠ .null ∧
          Handled answered (updateCycle cycleId row (c.newColumns row facts) store.db) fun db =>
            Handled answered (flushCycle boundary cycleId ⟨db, store.outbox⟩) Q := by
  have h409 : 400 ≤ 409 ∧ 409 < 500 := by decide
  have h422 : 400 ≤ 422 ∧ 422 < 500 := by decide
  rw [correctionRoute, handled_bind, updateCycleRoute, if_neg (by simp [hempty]), hload]
  show Handled _ (Except.ok row >>= _) _ ↔ _
  simp only [handled_bind, handled_ok, handled_mapErr h409, handled_mapErr h422, hstored,
    handled_requireText]
  rfl

lemma handled_flushCycle {cycleId : CycleId} {store : EventStore} {row : ScholarshipCycle}
    (hrow : store.db.cycles.row cycleId = some row) {Q : EventStore → Prop} :
    Handled answered (flushCycle boundary cycleId store) Q ↔
      boundary.storesRow row = true ∧ Q store := by
  rw [flushCycle, hrow, Option.all_some]
  by_cases hstores : boundary.storesRow row = true
  · rw [if_pos hstores]
    exact (and_iff_right hstores).symm
  · rw [if_neg hstores]
    exact iff_of_false (by rintro ⟨⟩) fun h => hstores h.1

/-- A clash is answered. -/
lemma handled_updateCycle {cycleId : CycleId} {row : ScholarshipCycle} {columns : CycleColumns}
    {db : Db} {Q : Db → Prop} :
    Handled answered (updateCycle cycleId row columns db) Q ↔
      ((columns.providerCycleKey ≠ row.providerCycleKey ∨
          columns.applicantSegment ≠ row.applicantSegment) ∧
        identityTaken db row.scholarshipId columns.providerCycleKey columns.applicantSegment
          (some cycleId) = true) ∨
      Q { db with cycles := db.cycles.modify cycleId columns.assign } := by
  rw [updateCycle]
  split
  · next hclash => exact iff_of_true rfl (.inl hclash)
  · next hclash => exact (or_iff_right hclash).symm

/-- From cycles that a publication could have written, a correction obeys the law exactly if the
condition holds. -/
theorem keepsContract_iff (hpy : py.TextLaws) (hnone : boundary.isHttpUrl "None" = false)
    {store : EventStore} (hstore : store.EachPublishable boundary py) {request : CycleRequest}
    (hrequest : request.Admitted boundary py) :
    KeepsContract boundary py store request ↔ EditsWithinContract boundary py store request := by
  cases request with
  | publish => exact Iff.rfl
  | correct countries scholarshipId cycleId c =>
    rw [keepsContract_correct_iff]
    by_cases hempty : c.isEmpty = true
    · have hrefused : correctionRoute boundary py countries scholarshipId cycleId c store =
          .error (.http 422 "No fields to update") := by
        rw [correctionRoute, updateCycleRoute, if_pos hempty]
        rfl
      rw [hrefused]
      refine iff_of_true ⟨by decide, by decide⟩ fun row stored hnot => ?_
      rw [hempty] at hnot
      cases hnot
    have hempty : c.isEmpty = false := by simpa using hempty
    cases hload : loadCycleForUpdate scholarshipId cycleId store.db with
    | error e =>
      refine iff_of_true ?_ fun row stored _ hfound => ?_
      · rw [correctionRoute, handled_bind, updateCycleRoute, if_neg (by simp [hempty]), hload]
        show Handled _ (mapErr (some 404) 409 (.error e) >>= _) _
        rw [handled_bind]
        exact load_error hload
      · rw [hload] at hfound
        cases hfound
    | ok row =>
      obtain ⟨hrow, -⟩ := loadCycleForUpdate_ok hload
      obtain ⟨countries₀, hpublishable⟩ := hstore cycleId row hrow
      obtain ⟨a₀, d₀, hpublished⟩ := publishable_iff.mp hpublishable
      obtain ⟨a, ha, hnames, hread⟩ := hpublished.built.readArguments hpy hpublished.arguments
      rw [← hpublished.facts] at hread
      have hstored : cycleFactsToInputs py row.facts.orEmpty = .ok a.toInputs := by
        rw [hpublished.facts] at hread ⊢
        exact hread
      have hnonempty : ∀ {change : Change (List String)} {values : List String},
          (∀ sent, change = .value sent → 1 ≤ sent.length) → 1 ≤ values.length →
            change.orStored (some values) ≠ some [] := by
        intro change values hsent hvalues
        cases change with
        | omitted =>
          rintro ⟨⟩
          exact absurd hvalues (by decide)
        | null => rintro ⟨⟩
        | value sent =>
          rintro ⟨⟩
          exact absurd (hsent [] rfl) (by decide)
      have hcondition : EditsWithinContract boundary py store
          (.correct countries scholarshipId cycleId c) ↔
          Guarded (factsChecks py countries c (a.toInputs.update c))
            (Guarded (identityChecks c cycleId row store.db)
              (CompleteEdit boundary py c row (a.toInputs.update c))) := by
        rw [← guarded_append]
        constructor
        · exact fun h => h row _ hempty hload hread
        · intro h row' stored' _ hload' hread'
          obtain rfl := Except.ok.inj (hload.symm.trans hload')
          obtain rfl := Except.ok.inj (hread.symm.trans hread')
          exact h
      rw [hcondition, correctionRoute_found hempty hload hstored]
      refine buildCycleFacts_handled_iff
        (hnonempty (fun sent h => (hrequest.destinations sent h).1) ha.destinations.1)
        (hnonempty (fun sent h => (hrequest.levels sent h).1) ha.levels.1) fun d hd => ?_
      show _ ↔ ¬ (_ ∨ _) ∧ (_ ∨ _)
      rw [not_or, and_assoc]
      refine and_congr_right fun _ => and_congr_right fun _ => ?_
      refine handled_updateCycle.trans (or_congr Iff.rfl ?_)
      have hrow' : (store.db.cycles.modify cycleId (c.newColumns row d.toJson).assign).row cycleId =
          some ((c.newColumns row d.toJson).assign row) := by
        rw [Table.row_modify_self, hrow, Option.map_some]
      refine (handled_flushCycle hrow').trans ?_
      rw [← publishable_edit_iff hpublished hnone hrequest ha hnames hd]
      refine and_congr_right fun _ => ?_
      constructor
      · rintro ⟨row', hfound, hpublishable'⟩
        rw [hrow'] at hfound
        exact Option.some.inj hfound ▸ hpublishable'
      · exact fun hpublishable' => ⟨_, hrow', hpublishable'⟩

/-- A request that obeys the law leaves cycles that a publication could have written. -/
lemma EventStore.EachPublishable.step {store : EventStore} (h : store.EachPublishable boundary py)
    {request : CycleRequest} (hrequest : request.Admitted boundary py)
    (hlaw : KeepsContract boundary py store request) :
    (requestStep boundary py store request).EachPublishable boundary py := by
  intro c row hrow
  cases request with
  | publish countries scholarshipId cycleId request now =>
    simp only [requestStep, committed] at hrow
    cases hroute : publishRoute boundary py countries scholarshipId cycleId request now store with
    | error e =>
      rw [hroute] at hrow
      exact h c row hrow
    | ok store' =>
      rw [hroute] at hrow
      obtain ⟨facts, -, hcycles, -⟩ := publishRoute_ok hroute
      change store'.db.cycles.row c = some row at hrow
      by_cases hc : c = cycleId
      · subst hc
        have hnew := hrow
        rw [hcycles, Table.row_insert_self] at hrow
        obtain rfl := Option.some.inj hrow
        exact ⟨countries, request, c, now, store, store', _, hrequest, hroute, hnew, rfl⟩
      · rw [hcycles, Table.row_insert_of_ne _ hc] at hrow
        exact h c row hrow
  | correct countries scholarshipId cycleId changes =>
    rcases hlaw with ⟨status, detail, -, -, -, hsame⟩ | ⟨store', row', hroute, hrow', hpublishable⟩
    · rw [hsame] at hrow
      exact h c row hrow
    · simp only [requestStep, committed, hroute] at hrow
      change store'.db.cycles.row c = some row at hrow
      by_cases hc : c = cycleId
      · rw [hc, hrow'] at hrow
        exact ⟨countries, Option.some.inj hrow ▸ hpublishable⟩
      · obtain ⟨db, hdb, hflush⟩ := exceptBind_ok hroute
        obtain ⟨rfl, -⟩ := flushCycle_ok (mapErr_ok hflush)
        obtain ⟨_, columns, -, -, -, rfl, -⟩ := updateCycleRoute_ok hdb
        rw [Table.row_modify_of_ne _ hc] at hrow
        exact h c row hrow

/-- In every run that starts without a cycle, the corrections obey the law exactly if the condition
holds at each of them. -/
theorem eachEdit_iff (hpy : py.TextLaws) (hnone : boundary.isHttpUrl "None" = false)
    {start : EventStore} (hstart : ∀ c, start.db.cycles.row c = none)
    {requests : List CycleRequest}
    (hrequests : ∀ request ∈ requests, request.Admitted boundary py) :
    EachStep (requestStep boundary py) (KeepsContract boundary py) start requests ↔
      EachStep (requestStep boundary py) (EditsWithinContract boundary py) start requests := by
  have hempty : start.EachPublishable boundary py := by
    intro c row hrow
    rw [hstart c] at hrow
    cases hrow
  exact eachStep_congr_of_invariant (I := EventStore.EachPublishable boundary py)
    (A := CycleRequest.Admitted boundary py)
    (fun _ _ hrequest h => keepsContract_iff hpy hnone h hrequest)
    (fun _ _ hrequest h hlaw => h.step hrequest hlaw) hrequests hempty

/-! ## Two corrections with a null -/

namespace Sample

/-- A database that stores no NUL character, and the timestamps of `datetime`. -/
def limits : Boundary where
  isHttpUrl := fun url => url = awardUrl ∨ url = movedUrl
  storesText := fun text => text.toList.all (· ≠ Char.ofNat 0)
  storesTimestamp := fun timestamp => 0 ≤ timestamp ∧ timestamp < maxMicros

/-- A scholarship without a cycle. -/
def editStore : EventStore := ⟨unpublished, Outbox.empty⟩

def publishRequest : CycleRequest := .publish Sample.countries 1 1
  { providerCycleKey := "2024"
    applicantSegment := "default"
    officialCycleUrl := awardUrl
    publicStatus := .openVerified
    statusValidUntil := none
    lastVerifiedAt := some start
    arguments := { arguments with fieldNames := some [] } } start

def nullUrl : UpdateCycleRequest where
  officialCycleUrl := .null

def nullLevels : UpdateCycleRequest where
  levels := .null

/-- The URL is nulled after the publication. -/
def nullUrlRun : List CycleRequest :=
  [publishRequest, .correct Sample.countries 1 1 nullUrl]

lemma admitted_publishRequest : publishRequest.Admitted limits datedPy where
  providerCycleKey := by decide
  applicantSegment := by decide
  officialCycleUrl := by decide
  arguments := {
    destinations := by decide
    levels := by decide
    origins := by decide
    fields := by decide
    fieldNames := ⟨[], rfl, by decide⟩
    programmeNames := ⟨_, rfl, by decide⟩
    eligibilityNote := by
      rintro note ⟨⟩
      decide
    fundingType := by
      rintro code ⟨⟩
      decide
    deadlineAt := by
      rintro deadlineAt ⟨⟩
      exact readsBack_deadline }

lemma admitted_nullUrlRun : ∀ request ∈ nullUrlRun, request.Admitted limits datedPy := by
  intro request hrequest
  simp only [nullUrlRun, List.mem_cons, List.not_mem_nil, or_false] at hrequest
  rcases hrequest with rfl | rfl
  · exact admitted_publishRequest
  · constructor <;> rintro _ ⟨⟩

end Sample

/-- A nulled URL is stored as a text that is no URL, and nulled levels are an unhandled error. -/
theorem null_breaks_contract :
    (∀ c, Sample.editStore.db.cycles.row c = none) ∧
    (∀ request ∈ Sample.nullUrlRun, request.Admitted Sample.limits Sample.datedPy) ∧
    ((run (requestStep Sample.limits Sample.datedPy) Sample.editStore
      Sample.nullUrlRun).db.cycles.row 1).map (·.officialCycleUrl) = some "None" ∧
    (∃ e, correctionRoute Sample.limits Sample.datedPy Sample.countries 1 1 Sample.nullLevels
      (requestStep Sample.limits Sample.datedPy Sample.editStore Sample.publishRequest) =
        .error (.unhandled e)) ∧
    ¬ EachStep (requestStep Sample.limits Sample.datedPy)
      (KeepsContract Sample.limits Sample.datedPy) Sample.editStore Sample.nullUrlRun := by
  refine ⟨fun _ => rfl, Sample.admitted_nullUrlRun, rfl, ⟨_, rfl⟩, ?_⟩
  rintro ⟨-, hlaw, -⟩
  rcases hlaw with ⟨status, detail, hroute, -⟩ | ⟨store', row, hroute, hrow, hpublishable⟩
  · cases hroute
  · obtain ⟨a, d, hpublished⟩ := publishable_iff.mp hpublishable
    obtain rfl := Except.ok.inj hroute
    obtain rfl := Option.some.inj hrow
    exact absurd hpublished.officialCycleUrl (by decide)

/-- The same run, seen through its condition. -/
theorem eachEdit_nullUrlRun :
    EachStep (requestStep Sample.limits Sample.datedPy)
        (KeepsContract Sample.limits Sample.datedPy) Sample.editStore Sample.nullUrlRun ↔
      EachStep (requestStep Sample.limits Sample.datedPy)
        (EditsWithinContract Sample.limits Sample.datedPy) Sample.editStore Sample.nullUrlRun :=
  eachEdit_iff Sample.textLaws (by decide) (fun _ => rfl) Sample.admitted_nullUrlRun

end ScholarshipFinder
