import ScholarshipFinder.Platform.Integrity

/-!
# The ledger of the catalogue

A ledger lists what the platform has created and published, and the tasks that it has prepared.  It
accounts for the catalogue: the scholarships and the cycles are those of the start, followed by
those that are listed, so that none is lost and none is entered twice.  A scholarship only moves on,
from its review to its publication to its withdrawal, and a cycle keeps its scholarship.

It also says where an automatic approval comes from.  An attempt publishes no cycle but one of a
scholarship that it has created itself, and one cycle of each at most, whatever runs between its
transactions.  It creates a scholarship only from a discovery whose task was prepared, at a time
when the draft did not reject the texts of the discovery: an award whose texts name countries of
which none is supported is left to a reviewer.
-/

namespace ScholarshipFinder

open Lib

/-- A task that was prepared, with the names of the countries as they were. -/
structure Preparation where
  taskId : TaskId
  countryNames : Dict

/-- What was created, published and prepared, oldest first. -/
structure Ledger where
  creations : List Creation := []
  publications : List Publication := []
  preparations : List Preparation := []

namespace Ledger

/-- Enter the effect of a step. -/
def enter (ledger : Ledger) (effect : Effect) (countryNames : Dict) : Ledger where
  creations := ledger.creations ++ effect.creation.toList
  publications := ledger.publications ++ effect.publication.toList
  preparations := ledger.preparations ++
    (effect.prepared.map fun taskId => ⟨taskId, countryNames⟩).toList

/-- The cycles that attempts have published. -/
def automatic (ledger : Ledger) : List Publication := ledger.publications.filter (·.byAttempt)

variable {ledger : Ledger} {effect : Effect} {countryNames : Dict}

lemma mem_creations {creation : Creation} :
    creation ∈ (ledger.enter effect countryNames).creations ↔
      creation ∈ ledger.creations ∨ effect.creation = some creation := by
  rw [enter, List.mem_append, Option.mem_toList]

lemma mem_publications {publication : Publication} :
    publication ∈ (ledger.enter effect countryNames).publications ↔
      publication ∈ ledger.publications ∨ effect.publication = some publication := by
  rw [enter, List.mem_append, Option.mem_toList]

end Ledger

/-- One step of the platform, with its entry in the ledger. -/
def bookedStep (cfg : PlatformConfig) : Platform × Ledger → PlatformStep → Platform × Ledger :=
  withHistory (platformStep cfg) fun ledger p step =>
    ledger.enter (effectOf cfg p step) p.shared.vocabulary.names

/-- How far a scholarship has come. -/
def RecordState.rank : RecordState → ℕ
  | .discovered => 0
  | .needsReview => 1
  | .published => 2
  | .withdrawn => 3

/-- Scholarships move on, and cycles stay with them. -/
structure MovesOn (before after : Db) : Prop where
  scholarships : ∀ id s, before.scholarships.row id = some s →
    ∃ s', after.scholarships.row id = some s' ∧ s.lifecycleState.rank ≤ s'.lifecycleState.rank
  cycles : ∀ c row, before.cycles.row c = some row →
    ∃ row', after.cycles.row c = some row' ∧ row'.scholarshipId = row.scholarshipId

lemma MovesOn.refl (db : Db) : MovesOn db db :=
  ⟨fun _ s h => ⟨s, h, le_rfl⟩, fun _ row h => ⟨row, h, rfl⟩⟩

lemma MovesOn.trans {before middle after : Db} (h : MovesOn before middle)
    (h' : MovesOn middle after) : MovesOn before after where
  scholarships := by
    intro id s hs
    obtain ⟨s', hs', hle⟩ := h.scholarships id s hs
    obtain ⟨s'', hs'', hle'⟩ := h'.scholarships id s' hs'
    exact ⟨s'', hs'', hle.trans hle'⟩
  cycles := by
    intro c row hrow
    obtain ⟨row', hrow', hid⟩ := h.cycles c row hrow
    obtain ⟨row'', hrow'', hid'⟩ := h'.cycles c row' hrow'
    exact ⟨row'', hrow'', hid'.trans hid⟩

/-! ## The rows of a move -/

section

variable {before after : ReviewStore} {creation : Option Creation}
  {publication : Option Publication}

/-- Where the cycles have the same identities, they stay with their scholarships. -/
lemma cycles_of_identities {db db' : Db} (h : ∀ c, db'.identityOf c = db.identityOf c) (c : CycleId)
    (row : ScholarshipCycle) (hrow : db.cycles.row c = some row) :
    ∃ row', db'.cycles.row c = some row' ∧ row'.scholarshipId = row.scholarshipId := by
  refine @cycle_of_identityOf _ _ row.identity ?_
  rw [h, Db.identityOf, hrow]
  rfl

/-- The rows that a move adds are those of its effect. -/
lemma CatalogueMove.keys (hmove : CatalogueMove before after creation publication) :
    after.shells.keys = before.shells.keys ++ (creation.map (·.scholarshipId)).toList ∧
      after.discovered.db.cycles.keys =
        before.discovered.db.cycles.keys ++ (publication.map (·.cycleId)).toList ∧
      after.autoApproved = before.autoApproved ++
        ((publication.toList.filter (·.byAttempt)).map (·.cycleId)) := by
  cases hmove with
  | kept hshells hcatalogue hproviders hauto =>
    exact ⟨by simp [hshells], by simp [hcatalogue.keys], by simp [hauto]⟩
  | created creation shell hfree hslug hprovider hshells hscholarships hcycles hproviders hauto =>
    exact ⟨by simp [hshells, Table.keys_insert hfree], by simp [hcycles], by simp [hauto]⟩
  | published publication row hid hfree hidentity hlive hshells hscholarships hcycles hproviders
      hauto =>
    refine ⟨by simp [hshells], by simp [hcycles, Table.keys_insert hfree], ?_⟩
    rw [hauto]
    cases hattempt : publication.byAttempt <;> simp [hattempt]
  | corrected c row row' hrow howner hidentity hshells hscholarships hkeys hcycles hproviders
      hauto =>
    exact ⟨by simp [hshells], by simp [hkeys], by simp [hauto]⟩
  | withdrawn id hshells hscholarships hkeys hidentities hproviders hauto =>
    exact ⟨by simp [hshells], by simp [hkeys], by simp [hauto]⟩

lemma CatalogueMove.movesOn (hmove : CatalogueMove before after creation publication)
    (hcatalogue : CatalogueIntegrity before) :
    MovesOn before.discovered.db after.discovered.db := by
  cases hmove with
  | kept hshells hsame hproviders hauto =>
    exact ⟨fun id s hs => ⟨s, by rw [hsame.scholarships, hs], le_rfl⟩,
      cycles_of_identities hsame.identities⟩
  | created creation shell hfree hslug hprovider hshells hscholarships hcycles hproviders hauto =>
    have hnone : before.discovered.db.scholarships.row creation.scholarshipId = none := by
      have hshell := hcatalogue.shells creation.scholarshipId
      rw [hfree] at hshell
      exact Option.isNone_iff_eq_none.mp (by rw [← Option.not_isSome, ← hshell]; rfl)
    refine ⟨fun id s hs => ⟨s, ?_, le_rfl⟩, fun c row hrow => ⟨row, by rw [hcycles, hrow], rfl⟩⟩
    rw [hscholarships, Table.row_insert_of_some hnone hs]
  | published publication row hid hfree hidentity hlive hshells hscholarships hcycles hproviders
      hauto =>
    refine ⟨fun id s hs => ?_, fun c stored hstored => ⟨stored, ?_, rfl⟩⟩
    · rw [hscholarships, Table.row_modify, hs]
      split
      · next heq =>
        -- a scholarship that is published was not withdrawn
        obtain ⟨s', hs', hstate⟩ := hlive
        obtain rfl := Option.some.inj (hs.symm.trans (heq ▸ hs'))
        refine ⟨_, rfl, ?_⟩
        show s.lifecycleState.rank ≤ 2
        cases hrank : s.lifecycleState with
        | withdrawn => exact absurd hrank hstate
        | discovered | needsReview | published => decide
      · exact ⟨s, rfl, le_rfl⟩
    · rw [hcycles, Table.row_insert_of_some hfree hstored]
  | corrected c row row' hrow howner hidentity hshells hscholarships hkeys hcycles hproviders
      hauto =>
    refine ⟨fun id s hs => ⟨s, by rw [hscholarships, hs], le_rfl⟩, fun other stored hstored => ?_⟩
    rw [hcycles]
    split
    · next heq =>
      subst heq
      obtain rfl := Option.some.inj (hrow.symm.trans hstored)
      exact ⟨row', rfl, howner⟩
    · exact ⟨stored, hstored, rfl⟩
  | withdrawn id hshells hscholarships hkeys hidentities hproviders hauto =>
    refine ⟨fun other s hs => ?_, cycles_of_identities hidentities⟩
    rw [hscholarships, Table.row_modify, hs]
    split
    · refine ⟨_, rfl, ?_⟩
      show s.lifecycleState.rank ≤ 3
      cases s.lifecycleState <;> decide
    · exact ⟨s, rfl, le_rfl⟩

/-- A cycle that is published belongs to the scholarship that it was published for. -/
lemma CatalogueMove.owner {entry : Publication}
    (hmove : CatalogueMove before after creation (some entry)) :
    ∃ row, after.discovered.db.cycles.row entry.cycleId = some row ∧
      row.scholarshipId = entry.scholarshipId := by
  cases hmove with
  | published publication row hid hfree hidentity hlive hshells hscholarships hcycles =>
    exact ⟨row, by rw [hcycles, Table.row_insert_self], hid⟩

end

/-! ## The account -/

/-- The ledger accounts for the catalogue. -/
structure Booked (start : PlatformStore) (store : PlatformStore) (ledger : Ledger) : Prop where
  scholarships : store.shells.keys =
    start.shells.keys ++ ledger.creations.map (·.scholarshipId)
  cycles : store.discovered.db.cycles.keys =
    start.discovered.db.cycles.keys ++ ledger.publications.map (·.cycleId)
  autoApproved : store.autoApproved = start.autoApproved ++ ledger.automatic.map (·.cycleId)
  owners : ∀ publication ∈ ledger.publications,
    ∃ row, store.discovered.db.cycles.row publication.cycleId = some row ∧
      row.scholarshipId = publication.scholarshipId
  movesOn : MovesOn start.discovered.db store.discovered.db

section

variable {cfg : PlatformConfig} {start : PlatformStore} {p : Platform} {ledger : Ledger}

lemma Booked.step (h : Booked start p.shared ledger) (hintegrity : Integrity p.shared)
    (step : PlatformStep) :
    Booked start (bookedStep cfg (p, ledger) step).1.shared
      (bookedStep cfg (p, ledger) step).2 := by
  have hmove := (@platformStep_writes cfg p step).catalogue
  obtain ⟨hshells, hcycles, hauto⟩ := hmove.keys
  have hmoves := hmove.movesOn hintegrity.catalogue
  show Booked start (platformStep cfg p step).shared
    (ledger.enter (effectOf cfg p step) p.shared.vocabulary.names)
  refine ⟨?_, ?_, ?_, fun publication hpublication => ?_, h.movesOn.trans hmoves⟩
  · rw [hshells, h.scholarships, Ledger.enter, List.map_append, List.append_assoc,
      Option.toList_map]
  · rw [hcycles, h.cycles, Ledger.enter, List.map_append, List.append_assoc, Option.toList_map]
  · rw [hauto, h.autoApproved, Ledger.automatic, Ledger.automatic, Ledger.enter, List.filter_append,
      List.map_append, List.append_assoc]
  · rcases Ledger.mem_publications.mp hpublication with hold | hnew
    · obtain ⟨row, hrow, hid⟩ := h.owners publication hold
      obtain ⟨row', hrow', hid'⟩ := hmoves.cycles _ row hrow
      exact ⟨row', hrow', hid'.trans hid⟩
    · rw [hnew] at hmove
      exact hmove.owner

/-- Of the catalogue nothing is lost and nothing is entered twice, however the steps are
interleaved: it is what the start had, and then what the ledger lists, in order. -/
theorem platform_booked (cfg : PlatformConfig) (p : Platform) (steps : List PlatformStep)
    (h : Integrity p.shared) :
    Booked p.shared (run (bookedStep cfg) (p, {}) steps).1.shared
      (run (bookedStep cfg) (p, {}) steps).2 := by
  have hstart : Booked p.shared p.shared {} :=
    ⟨(List.append_nil _).symm, (List.append_nil _).symm, (List.append_nil _).symm,
      fun _ hmem => (List.not_mem_nil hmem).elim, .refl _⟩
  refine (run_invariant (I := fun q : Platform × Ledger =>
    Integrity q.1.shared ∧ Booked p.shared q.1.shared q.2) (A := fun _ => True)
    (C := fun _ _ => True) (fun q step _ hq _ => ?_) (fun _ _ => trivial) ⟨h, hstart⟩
    (eachStep_true _ _ _)).2
  exact ⟨platformStep_integrity hq.1 step, hq.2.step hq.1 step⟩

/-- The approval of the award is listed. -/
theorem approvalRun_booked :
    (run (bookedStep Sample.platformConfig) (Sample.platform, {}) Sample.approvalRun).2.creations =
        [⟨2, 2, 1, true⟩] ∧
      Booked Sample.platformStore
        (run (bookedStep Sample.platformConfig) (Sample.platform, {}) Sample.approvalRun).1.shared
        (run (bookedStep Sample.platformConfig) (Sample.platform, {}) Sample.approvalRun).2 :=
  ⟨by decide +kernel, platform_booked Sample.platformConfig Sample.platform Sample.approvalRun
    Sample.integrity_platformStore⟩

end

/-! ## The transactions of an attempt -/

/-- The scholarship that a worker has created and has not published. -/
def AttemptStage.created : AttemptStage → Option ScholarshipId
  | .decided _ _ scholarshipId => some scholarshipId
  | _ => none

/-- How a transaction moves a worker on, with its effect. -/
inductive AttemptMove (store : ReviewStore) : AttemptStage → AttemptStage → Effect → Prop
  | ends (stage : AttemptStage) : AttemptMove store stage .idle {}
  | stays (stage : AttemptStage) : AttemptMove store stage stage {}
  | opens {attempt : Attempt} {draft : List (String × Json)}
      (htask : store.tasks.row attempt.taskId = some attempt.task)
      (hid : attempt.task.discoveryId = some attempt.discoveryId)
      (hdraft : attempt.task.draftRecommendation = some draft)
      (hscreen : rejectsDraft draft = false) :
      AttemptMove store .idle (.fetching attempt) {}
  | verifies (attempt : Attempt) (page : Verification) :
      AttemptMove store (.fetching attempt) (.verified attempt page) {}
  | decides {attempt : Attempt} (page : Verification) (derived : DerivedCycleFacts)
      {creation : Creation} (htask : creation.taskId = attempt.taskId)
      (hid : attempt.task.discoveryId = some creation.discoveryId)
      (hattempt : creation.byAttempt = true) :
      AttemptMove store (.verified attempt page) (.decided attempt derived creation.scholarshipId)
        { creation := some creation }
  | publishes (attempt : Attempt) (derived : DerivedCycleFacts) {publication : Publication}
      (hattempt : publication.byAttempt = true) :
      AttemptMove store (.decided attempt derived publication.scholarshipId) .idle
        { publication := some publication }

section

variable {py : ApprovalPy} {settings : ApprovalSettings} {answers : AttemptAnswers}
  {store : ReviewStore}

/-- What has passed the first gates has a draft that does not reject. -/
lemma openingGates_draft {taskId : TaskId} {attempt : Attempt}
    (h : openingGates py settings answers taskId store = .ok (.passed attempt)) :
    ∃ draft, attempt.task.draftRecommendation = some draft ∧ rejectsDraft draft = false := by
  obtain ⟨hid, hopened⟩ := openingGates_passed h
  have htask := hopened.task
  rw [hid] at htask
  rw [openingGates, htask] at h
  dsimp only at h
  split at h
  · cases h
  split at h
  · cases h
  split at h
  · cases h
  split at h
  · cases h
  split at h
  · cases h
  next draft hdraft =>
  split at h
  · cases h
  next hscreen => exact ⟨draft, hdraft, Bool.eq_false_iff.mpr hscreen⟩

lemma stageAfter_move {α : Type} {gate : Except PyErr (Gate α)} {stage : AttemptStage}
    {next : α → AttemptStage × ReviewStore}
    (hnext : ∀ a, gate = .ok (.passed a) → AttemptMove store stage (next a).1 {}) :
    AttemptMove store stage (stageAfter answers store gate next).1 {} := by
  unfold stageAfter
  split
  · exact hnext _ rfl
  · exact .ends stage
  · exact .ends stage
  · exact .ends stage

theorem attemptStep_move (step : AttemptStep) (stage : AttemptStage) :
    AttemptMove store stage (attemptStep py settings answers step stage store).1
      (attemptEffect py settings answers step stage store) := by
  cases step with
  | start taskId =>
    cases stage with
    | idle =>
      refine stageAfter_move fun attempt h => ?_
      obtain ⟨-, hopened⟩ := openingGates_passed h
      obtain ⟨draft, hdraft, hscreen⟩ := openingGates_draft h
      exact .opens hopened.task hopened.discoveryId hdraft hscreen
    | fetching | verified | decided => exact .stays _
  | verify =>
    cases stage with
    | fetching attempt => exact stageAfter_move fun page _ => .verifies attempt page
    | idle | verified | decided => exact .stays _
  | decide =>
    cases stage with
    | verified attempt page =>
      have hstep : attemptStep py settings answers .decide (.verified attempt page) store =
          stageAfter answers store (closingGates py settings answers attempt page store)
            fun admission => stageDecided attempt admission.derived store
              (decideAttempt py answers attempt admission store) := rfl
      rw [attemptEffect, hstep]
      cases closingGates py settings answers attempt page store with
      | error e => exact .ends _
      | ok gate =>
        cases gate with
        | stopped | deferred => exact .ends _
        | passed admission =>
          dsimp only [stageAfter]
          cases hdecided : decideAttempt py answers attempt admission store with
          | error e => exact .ends _
          | ok result =>
            obtain ⟨created, decided⟩ := result
            cases created with
            | none => exact .ends _
            | some scholarshipId =>
              -- a decision that creates a scholarship is one on a discovery
              rcases decideReview_writes true hdecided with ⟨hnone, -⟩ |
                ⟨copy, discoveryId, hcopy, hid, -, -⟩
              · cases hnone
              · obtain ⟨stored, -, rfl⟩ := Option.map_eq_some_iff.mp hcopy
                dsimp only [stageDecided]
                rw [hid]
                exact @AttemptMove.decides store attempt page admission.derived
                  ⟨scholarshipId, discoveryId, attempt.taskId, true⟩ rfl hid rfl
    | idle | fetching | decided => exact .stays _
  | publish =>
    cases stage with
    | decided attempt derived scholarshipId =>
      rw [attemptEffect, attemptStep]
      cases publishApproved py answers attempt derived scholarshipId store with
      | error e => exact .ends _
      | ok published =>
        exact @AttemptMove.publishes store attempt derived
          ⟨answers.cycleId, scholarshipId, true⟩ rfl
    | idle | fetching | verified => exact .stays _
  | abandon => exact .ends stage

end

lemma AttemptMove.prepared {store : ReviewStore} {stage stage' : AttemptStage} {effect : Effect}
    (h : AttemptMove store stage stage' effect) : effect.prepared = none := by
  cases h <;> rfl

/-! ## The workers of the platform -/

section

variable {cfg : PlatformConfig} {p : Platform}

/-- Whatever is created or published, a person has. -/
structure Manual (effect : Effect) : Prop where
  creation : ∀ creation, effect.creation = some creation → creation.byAttempt = false
  publication : ∀ publication, effect.publication = some publication →
    publication.byAttempt = false

lemma Manual.of_none {effect : Effect} (hcreation : effect.creation = none)
    (hpublication : effect.publication = none) : Manual effect := by
  refine ⟨fun creation h => ?_, fun publication h => ?_⟩
  · rw [hcreation] at h
    cases h
  · rw [hpublication] at h
    cases h

/-- A step that does not belong to an attempt. -/
lemma effectOf_manual {step : PlatformStep}
    (h : ∀ worker attemptStep answers, step ≠ .attempt worker attemptStep answers) :
    Manual (effectOf cfg p step) := by
  cases step with
  | attempt worker step answers => exact absurd rfl (h worker step answers)
  | prepare taskId =>
    rw [effectOf]
    split
    · exact .of_none rfl rfl
    · exact .of_none rfl rfl
  | decide scholarshipId taskId request =>
    refine ⟨fun creation hcreation => ?_, fun publication h => by cases h⟩
    rw [effectOf] at hcreation
    simp only [Option.bind_eq_bind, Option.bind_eq_some_iff] at hcreation
    obtain ⟨_, -, _, -, _, -, _, -, heq⟩ := hcreation
    cases heq
    rfl
  | publish args now =>
    rw [effectOf]
    split
    · refine ⟨fun creation h => ?_, fun publication h => ?_⟩
      · cases h
      · cases h
        rfl
    · exact .of_none rfl rfl
  | _ => exact .of_none rfl rfl

/-- A sweep does not touch the attempt of its worker. -/
lemma attempt_stepAt {worker w : ℕ}
    {f : PlatformWorker → PlatformStore → PlatformWorker × PlatformStore}
    (hf : ∀ t store, (f t store).1.attempt = t.attempt) :
    ((p.stepAt worker f).proc w).attempt = (p.proc w).attempt := by
  show (Function.update p.proc worker _ w).attempt = _
  rw [Function.update_apply]
  split
  · next heq => rw [hf, heq]
  · rfl

/-- A step moves one worker on, or no worker and then acts for a person. -/
theorem platformStep_move (p : Platform) (step : PlatformStep) :
    (Manual (effectOf cfg p step) ∧ ∀ w, ((platformStep cfg p step).proc w).attempt = .idle ∨
      ((platformStep cfg p step).proc w).attempt = (p.proc w).attempt) ∨
    ∃ worker, AttemptMove p.shared.toReviewStore (p.proc worker).attempt
        ((platformStep cfg p step).proc worker).attempt (effectOf cfg p step) ∧
      ∀ w, w ≠ worker → ((platformStep cfg p step).proc w).attempt = (p.proc w).attempt := by
  cases step with
  | attempt worker step answers =>
    refine .inr ⟨worker, ?_, fun w hw => ?_⟩
    · have hself : ((platformStep cfg p (.attempt worker step answers)).proc worker).attempt =
          (attemptStep cfg.py.toApprovalPy cfg.approval
            { answers with countries := p.shared.vocabulary } step (p.proc worker).attempt
            p.shared.toReviewStore).1 := by
        show (Function.update p.proc worker _ worker).attempt = _
        rw [Function.update_self]
        rfl
      rw [hself]
      exact attemptStep_move step _
    · show (Function.update p.proc worker _ w).attempt = _
      rw [Function.update_of_ne hw]
  | scan | startTurn | resumeTurn =>
    exact .inl ⟨.of_none rfl rfl, fun w => .inr (attempt_stepAt fun _ _ => rfl)⟩
  | stop worker =>
    refine .inl ⟨.of_none rfl rfl, fun w => ?_⟩
    show (Function.update p.proc worker _ w).attempt = _ ∨
      (Function.update p.proc worker _ w).attempt = _
    rw [Function.update_apply]
    split
    · exact .inl rfl
    · exact .inr rfl
  | _ => exact .inl ⟨effectOf_manual (fun _ _ _ h => by cases h), fun w => .inr rfl⟩

/-- What a step does to the workers, as far as their attempts go. -/
structure WorkersOn (before after : Platform) (effect : Effect) : Prop where
  undecided : ∀ w attempt, (after.proc w).attempt.undecided = some attempt →
    (before.proc w).attempt.undecided = some attempt ∨
      ∃ draft, before.shared.tasks.row attempt.taskId = some attempt.task ∧
        attempt.task.draftRecommendation = some draft ∧ rejectsDraft draft = false
  created : ∃ worker, ∀ w id, (after.proc w).attempt.created = some id →
    (before.proc w).attempt.created = some id ∨
      w = worker ∧ ∃ creation, effect.creation = some creation ∧ creation.byAttempt = true ∧
        creation.scholarshipId = id
  creation : ∀ creation, effect.creation = some creation → creation.byAttempt = true →
    ∃ w attempt, (before.proc w).attempt.undecided = some attempt ∧
      attempt.taskId = creation.taskId ∧ attempt.task.discoveryId = some creation.discoveryId
  publication : ∀ publication, effect.publication = some publication →
    publication.byAttempt = true → ∃ w,
      (before.proc w).attempt.created = some publication.scholarshipId ∧
      (after.proc w).attempt.created = none

lemma Manual.workersOn {before after : Platform} {effect : Effect} (h : Manual effect)
    (hworkers : ∀ w, (after.proc w).attempt = .idle ∨
      (after.proc w).attempt = (before.proc w).attempt) : WorkersOn before after effect where
  undecided := by
    intro w attempt hattempt
    rcases hworkers w with hidle | hsame
    · rw [hidle] at hattempt
      cases hattempt
    · exact .inl (hsame ▸ hattempt)
  created := by
    refine ⟨0, fun w id hid => .inl ?_⟩
    rcases hworkers w with hidle | hsame
    · rw [hidle] at hid
      cases hid
    · exact hsame ▸ hid
  creation := by
    intro creation hcreation hattempt
    rw [h.creation creation hcreation] at hattempt
    cases hattempt
  publication := by
    intro publication hpublication hattempt
    rw [h.publication publication hpublication] at hattempt
    cases hattempt

lemma AttemptMove.workersOn {before after : Platform} {effect : Effect} {worker : ℕ}
    (h : AttemptMove before.shared.toReviewStore (before.proc worker).attempt
      (after.proc worker).attempt effect)
    (hothers : ∀ w, w ≠ worker → (after.proc w).attempt = (before.proc w).attempt) :
    WorkersOn before after effect := by
  -- it is enough to look at the worker that moves
  have hundecided : (∀ attempt, (after.proc worker).attempt.undecided = some attempt →
      (before.proc worker).attempt.undecided = some attempt ∨
        ∃ draft, before.shared.tasks.row attempt.taskId = some attempt.task ∧
          attempt.task.draftRecommendation = some draft ∧ rejectsDraft draft = false) →
      ∀ w attempt, (after.proc w).attempt.undecided = some attempt →
        (before.proc w).attempt.undecided = some attempt ∨
          ∃ draft, before.shared.tasks.row attempt.taskId = some attempt.task ∧
            attempt.task.draftRecommendation = some draft ∧ rejectsDraft draft = false := by
    intro hworker w attempt hattempt
    by_cases hw : w = worker
    · subst hw
      exact hworker attempt hattempt
    · exact .inl (hothers w hw ▸ hattempt)
  have hcreated : (∀ id, (after.proc worker).attempt.created = some id →
      (before.proc worker).attempt.created = some id ∨
        ∃ creation, effect.creation = some creation ∧ creation.byAttempt = true ∧
          creation.scholarshipId = id) →
      ∃ worker, ∀ w id, (after.proc w).attempt.created = some id →
        (before.proc w).attempt.created = some id ∨
          w = worker ∧ ∃ creation, effect.creation = some creation ∧ creation.byAttempt = true ∧
            creation.scholarshipId = id := by
    intro hworker
    refine ⟨worker, fun w id hid => ?_⟩
    by_cases hw : w = worker
    · subst hw
      exact (hworker id hid).imp_right fun hnew => ⟨rfl, hnew⟩
    · exact .inl (hothers w hw ▸ hid)
  generalize hbefore : (before.proc worker).attempt = stage at h hundecided hcreated
  generalize hafter : (after.proc worker).attempt = stage' at h hundecided hcreated
  cases h with
  | ends =>
    refine ⟨hundecided (fun _ h => by cases h), hcreated (fun _ h => by cases h), ?_, ?_⟩
    · rintro creation ⟨⟩
    · rintro publication ⟨⟩
  | stays =>
    refine ⟨hundecided fun _ h => .inl h, hcreated fun _ h => .inl h, ?_, ?_⟩
    · rintro creation ⟨⟩
    · rintro publication ⟨⟩
  | opens htask hid hdraft hscreen =>
    refine ⟨hundecided fun attempt h => ?_, hcreated (fun _ h => by cases h), ?_, ?_⟩
    · obtain rfl := Option.some.inj h
      exact .inr ⟨_, htask, hdraft, hscreen⟩
    · rintro creation ⟨⟩
    · rintro publication ⟨⟩
  | verifies attempt page =>
    refine ⟨hundecided fun _ h => .inl h, hcreated (fun _ h => by cases h), ?_, ?_⟩
    · rintro creation ⟨⟩
    · rintro publication ⟨⟩
  | @decides attempt page derived creation htask hid hattempt =>
    refine ⟨hundecided (fun _ h => by cases h), hcreated fun id h => ?_, ?_, ?_⟩
    · exact .inr ⟨creation, rfl, hattempt, Option.some.inj h⟩
    · rintro _ ⟨⟩ -
      exact ⟨worker, attempt, by rw [hbefore]; rfl, htask.symm, hid⟩
    · rintro publication ⟨⟩
  | publishes attempt derived hattempt =>
    refine ⟨hundecided (fun _ h => by cases h), hcreated (fun _ h => by cases h), ?_, ?_⟩
    · rintro creation ⟨⟩
    · rintro _ ⟨⟩ -
      exact ⟨worker, by rw [hbefore]; rfl, by rw [hafter]; rfl⟩

theorem platformStep_workers (p : Platform) (step : PlatformStep) :
    WorkersOn p (platformStep cfg p step) (effectOf cfg p step) := by
  rcases @platformStep_move cfg p step with ⟨hmanual, hworkers⟩ | ⟨worker, hmove, hothers⟩
  · exact hmanual.workersOn hworkers
  · exact hmove.workersOn hothers

end

/-! ## The invariant -/

/-- The task was prepared when the draft did not reject the texts of the discovery. -/
def PassedScreen (cfg : PlatformConfig) (store : PlatformStore) (ledger : Ledger) (taskId : TaskId)
    (id : DiscoveryId) : Prop :=
  ∃ preparation ∈ ledger.preparations, preparation.taskId = taskId ∧
    ∃ d, store.discovery id = some d ∧
      screenRejects cfg.py.toPyText d.rawTitle d.rawExcerpt preparation.countryNames = false

/-- The scholarship was created by an attempt. -/
def Ledger.OfAttempt (ledger : Ledger) (scholarshipId : ScholarshipId) : Prop :=
  ∃ creation ∈ ledger.creations, creation.byAttempt = true ∧
    creation.scholarshipId = scholarshipId

/-- Where what was approved automatically comes from. -/
structure Provenance (cfg : PlatformConfig) (store : PlatformStore) (ledger : Ledger) : Prop where
  published : ∀ publication ∈ ledger.automatic, ledger.OfAttempt publication.scholarshipId
  once : (ledger.automatic.map (·.scholarshipId)).Nodup
  screened : ∀ creation ∈ ledger.creations, creation.byAttempt = true →
    PassedScreen cfg store ledger creation.taskId creation.discoveryId

/-- What is known of drafts and of the workers. -/
structure Standing (cfg : PlatformConfig) (p : Platform) (ledger : Ledger) : Prop extends
    Provenance cfg p.shared ledger where
  stored : ∀ creation ∈ ledger.creations, (p.shared.shells.row creation.scholarshipId).isSome
  drafts : ∀ taskId task draft id, p.shared.tasks.row taskId = some task →
    task.draftRecommendation = some draft → rejectsDraft draft = false →
    task.discoveryId = some id → PassedScreen cfg p.shared ledger taskId id
  undecided : ∀ w attempt id, (p.proc w).attempt.undecided = some attempt →
    attempt.task.discoveryId = some id → PassedScreen cfg p.shared ledger attempt.taskId id
  created : ∀ w id, (p.proc w).attempt.created = some id →
    ledger.OfAttempt id ∧ id ∉ ledger.automatic.map (·.scholarshipId)
  apart : ∀ w w' id, (p.proc w).attempt.created = some id →
    (p.proc w').attempt.created = some id → w = w'

section

variable {cfg : PlatformConfig} {p : Platform} {ledger : Ledger} {effect : Effect}
  {countryNames : Dict}

lemma Ledger.automatic_enter : (ledger.enter effect countryNames).automatic =
    ledger.automatic ++ effect.publication.toList.filter (·.byAttempt) := List.filter_append _ _

lemma Ledger.OfAttempt.enter {id : ScholarshipId} (h : ledger.OfAttempt id) :
    (ledger.enter effect countryNames).OfAttempt id := by
  obtain ⟨creation, hmem, hcreation⟩ := h
  exact ⟨creation, Ledger.mem_creations.mpr (.inl hmem), hcreation⟩

/-- What is created anew was not there. -/
lemma CatalogueMove.creation {before after : ReviewStore} {entry : Creation}
    {publication : Option Publication}
    (h : CatalogueMove before after (some entry) publication) :
    before.shells.row entry.scholarshipId = none ∧
      (after.shells.row entry.scholarshipId).isSome ∧ publication = none := by
  cases h with
  | created creation shell hfree hslug hprovider hshells =>
    refine ⟨hfree, ?_, rfl⟩
    rw [hshells, Table.row_insert_self]
    rfl

/-- A prepared task has the draft of the screen. -/
lemma prepared_drafts {taskId : TaskId} {task : DiscoveryTask} {draft : List (String × Json)}
    {id : DiscoveryId} {step : PlatformStep} (h : (effectOf cfg p step).prepared = some taskId)
    (htask : (platformStep cfg p step).shared.tasks.row taskId = some task)
    (hdraft : task.draftRecommendation = some draft) (hid : task.discoveryId = some id) :
    ∃ d, p.shared.discovery id = some d ∧ rejectsDraft draft =
      screenRejects cfg.py.toPyText d.rawTitle d.rawExcerpt p.shared.vocabulary.names := by
  cases step with
  | prepare prepared =>
    have hshared : (platformStep cfg p (.prepare prepared)).shared = p.shared.withIntake (orKept
        (p.shared.toIntakeStore.prepareReview cfg.py p.shared.vocabulary.names prepared)
        p.shared.toIntakeStore) := rfl
    rw [hshared] at htask
    rw [effectOf] at h
    cases hprepare : p.shared.toIntakeStore.prepareReview cfg.py p.shared.vocabulary.names
        prepared with
    | error e =>
      rw [hprepare] at h
      cases h
    | ok after =>
      rw [hprepare] at h htask
      obtain rfl := Option.some.inj h
      change after.tasks.row prepared = some task at htask
      obtain ⟨old, hold, ⟨hnone, rfl⟩ | ⟨about, d, habout, hd, rfl⟩⟩ := prepareReview_ok hprepare
      · obtain rfl := Option.some.inj (hold.symm.trans htask)
        rw [hnone] at hid
        cases hid
      · rw [Table.row_modify_self, hold] at htask
        obtain rfl := Option.some.inj htask
        obtain rfl := Option.some.inj (habout.symm.trans hid)
        obtain rfl := Option.some.inj hdraft
        exact ⟨d, hd, rejectsDraft_draft _ _ _ _ _⟩
  | attempt worker step answers =>
    have hmove := @attemptStep_move cfg.py.toApprovalPy cfg.approval
      { answers with countries := p.shared.vocabulary } p.shared.toReviewStore step
      (p.proc worker).attempt
    have hnone : (effectOf cfg p (.attempt worker step answers)).prepared = none := hmove.prepared
    rw [hnone] at h
    cases h
  | publish args now =>
    rw [effectOf] at h
    split at h <;> cases h
  | _ => cases h

theorem Standing.step (h : Standing cfg p ledger) (step : PlatformStep) :
    Standing cfg (bookedStep cfg (p, ledger) step).1 (bookedStep cfg (p, ledger) step).2 := by
  have hwrites := @platformStep_writes cfg p step
  have hworkers := @platformStep_workers cfg p step
  show Standing cfg (platformStep cfg p step)
    (ledger.enter (effectOf cfg p step) p.shared.vocabulary.names)
  generalize hledger : ledger.enter (effectOf cfg p step) p.shared.vocabulary.names = ledger'
  have hscreened : ∀ {taskId id}, PassedScreen cfg p.shared ledger taskId id →
      PassedScreen cfg (platformStep cfg p step).shared ledger' taskId id := by
    rintro taskId id ⟨preparation, hmem, htask, d, hd, hscreen⟩
    obtain ⟨d', hd', -, htitle, hexcerpt⟩ := hwrites.refers.items id d hd
    refine ⟨preparation, ?_, htask, d', hd', by rw [htitle, hexcerpt, hscreen]⟩
    rw [← hledger]
    exact List.mem_append_left _ hmem
  -- a scholarship of an older creation is not one that is created now
  have hfresh : ∀ creation, (effectOf cfg p step).creation = some creation →
      ¬ ledger.OfAttempt creation.scholarshipId := by
    rintro creation hcreation ⟨old, hold, -, hid⟩
    have hmove := hwrites.catalogue
    rw [hcreation] at hmove
    have hstored := h.stored old hold
    rw [hid, hmove.creation.1] at hstored
    cases hstored
  have hdrafts : ∀ taskId task draft id,
      (platformStep cfg p step).shared.tasks.row taskId = some task →
      task.draftRecommendation = some draft → rejectsDraft draft = false →
      task.discoveryId = some id →
      PassedScreen cfg (platformStep cfg p step).shared ledger' taskId id := by
    intro taskId task draft id htask hdraft hscreen hid
    rcases hwrites.tasks.drafts taskId task draft htask hdraft with
      hprepared | ⟨old, hold, hsame, hdraft'⟩
    · obtain ⟨d, hd, heq⟩ := prepared_drafts hprepared htask hdraft hid
      obtain ⟨d', hd', -, htitle, hexcerpt⟩ := hwrites.refers.items id d hd
      refine ⟨⟨taskId, p.shared.vocabulary.names⟩, ?_, rfl, d', hd', ?_⟩
      · rw [← hledger, Ledger.enter, hprepared]
        exact List.mem_append_right _ (List.mem_singleton_self _)
      · rw [htitle, hexcerpt, ← heq, hscreen]
    · exact hscreened (h.drafts taskId old draft id hold hdraft' hscreen (hsame.trans hid))
  have hofAttempt : ∀ {id}, ledger.OfAttempt id → ledger'.OfAttempt id := by
    intro id hid
    rw [← hledger]
    exact hid.enter
  have hcreations : ∀ creation, creation ∈ ledger'.creations ↔
      creation ∈ ledger.creations ∨ (effectOf cfg p step).creation = some creation := by
    intro creation
    rw [← hledger]
    exact Ledger.mem_creations
  have hautomatic : ∀ publication, publication ∈ ledger'.automatic ↔
      publication ∈ ledger.automatic ∨
        (effectOf cfg p step).publication = some publication ∧ publication.byAttempt = true := by
    intro publication
    rw [← hledger, Ledger.automatic_enter, List.mem_append, List.mem_filter, Option.mem_toList]
  obtain ⟨worker, hcreated⟩ := hworkers.created
  refine ⟨⟨?_, ?_, ?_⟩, ?_, hdrafts, ?_, ?_, ?_⟩
  -- an attempt publishes what it has created
  · intro publication hmem
    rcases (hautomatic publication).mp hmem with hold | ⟨hnew, hattempt⟩
    · exact hofAttempt (h.published publication hold)
    · obtain ⟨w, hw, -⟩ := hworkers.publication publication hnew hattempt
      exact hofAttempt (h.created w _ hw).1
  -- and has not published before
  · rw [← hledger, Ledger.automatic_enter, List.map_append]
    refine List.nodup_append.mpr ⟨h.once, ?_, ?_⟩
    · refine ((List.filter_sublist.map _).nodup ?_)
      cases (effectOf cfg p step).publication with
      | none => exact List.nodup_nil
      | some publication => exact List.nodup_singleton _
    · rintro id hid _ hid' rfl
      obtain ⟨publication, hmem, rfl⟩ := List.mem_map.mp hid'
      rw [List.mem_filter, Option.mem_toList] at hmem
      obtain ⟨w, hw, -⟩ := hworkers.publication publication hmem.1 hmem.2
      exact (h.created w _ hw).2 hid
  -- the task of an attempt was prepared
  · intro creation hmem hattempt
    rcases (hcreations creation).mp hmem with hold | hnew
    · exact hscreened (h.screened creation hold hattempt)
    · obtain ⟨w, attempt, hw, htask, hid⟩ := hworkers.creation creation hnew hattempt
      exact htask ▸ hscreened (h.undecided w attempt _ hw hid)
  · intro creation hmem
    rcases (hcreations creation).mp hmem with hold | hnew
    · exact hwrites.refers.shells _ (h.stored creation hold)
    · have hmove := hwrites.catalogue
      rw [hnew] at hmove
      exact hmove.creation.2.1
  · intro w attempt id hattempt hid
    rcases hworkers.undecided w attempt hattempt with hold | ⟨draft, htask, hdraft, hscreen⟩
    · exact hscreened (h.undecided w attempt id hold hid)
    · exact hscreened (h.drafts _ attempt.task draft id htask hdraft hscreen hid)
  -- what a worker has created it has not published
  · intro w id hid
    rcases hcreated w id hid with hold | ⟨-, creation, hcreation, hattempt, rfl⟩
    · obtain ⟨hof, hnot⟩ := h.created w id hold
      refine ⟨hofAttempt hof, fun hmem => ?_⟩
      obtain ⟨publication, hpublication, rfl⟩ := List.mem_map.mp hmem
      rcases (hautomatic publication).mp hpublication with hin | ⟨hnew, hattempt⟩
      · exact hnot (List.mem_map_of_mem hin)
      · obtain ⟨w', hw', hnone⟩ := hworkers.publication publication hnew hattempt
        obtain rfl := h.apart w w' _ hold hw'
        rw [hnone] at hid
        cases hid
    · refine ⟨⟨creation, (hcreations creation).mpr (.inr hcreation), hattempt, rfl⟩, fun hmem => ?_⟩
      obtain ⟨publication, hpublication, hsame⟩ := List.mem_map.mp hmem
      rcases (hautomatic publication).mp hpublication with hin | ⟨hnew, -⟩
      · exact hfresh creation hcreation (hsame ▸ h.published publication hin)
      · have hmove := hwrites.catalogue
        rw [hcreation] at hmove
        rw [hmove.creation.2.2] at hnew
        cases hnew
  · intro w w' id hw hw'
    rcases hcreated w id hw with hold | ⟨hworker, creation, hcreation, -, rfl⟩
    · rcases hcreated w' id hw' with hold' | ⟨-, creation, hcreation, -, rfl⟩
      · exact h.apart w w' id hold hold'
      · exact absurd (h.created w _ hold).1 (hfresh creation hcreation)
    · rcases hcreated w' _ hw' with hold' | ⟨hworker', -⟩
      · exact absurd (h.created w' _ hold').1 (hfresh creation hcreation)
      · exact hworker.trans hworker'.symm

/-- A database without drafts, and workers that have not begun. -/
structure Unprepared (p : Platform) : Prop where
  drafts : ∀ taskId task, p.shared.tasks.row taskId = some task → task.draftRecommendation = none
  idle : ∀ w, (p.proc w).attempt = .idle

lemma Unprepared.standing (h : Unprepared p) : Standing cfg p {} where
  published := fun _ hmem => (List.not_mem_nil hmem).elim
  once := List.nodup_nil
  screened := fun _ hmem => (List.not_mem_nil hmem).elim
  stored := fun _ hmem => (List.not_mem_nil hmem).elim
  drafts := by
    intro taskId task draft id htask hdraft
    rw [h.drafts taskId task htask] at hdraft
    cases hdraft
  undecided := by
    intro w attempt id hattempt
    rw [h.idle] at hattempt
    cases hattempt
  created := by
    intro w id hid
    rw [h.idle] at hid
    cases hid
  apart := by
    intro w w' id hid
    rw [h.idle] at hid
    cases hid

/-- What is approved automatically is screened, and is published once, whatever reviewers, jobs,
sweeps and other attempts do in between. -/
theorem platform_provenance (cfg : PlatformConfig) (p : Platform) (steps : List PlatformStep)
    (h : Unprepared p) :
    Provenance cfg (run (bookedStep cfg) (p, {}) steps).1.shared
      (run (bookedStep cfg) (p, {}) steps).2 :=
  (run_invariant (I := fun q : Platform × Ledger => Standing cfg q.1 q.2) (A := fun _ => True)
    (C := fun _ _ => True) (fun _ step _ hq _ => hq.step step) (fun _ _ => trivial) h.standing
    (eachStep_true _ _ _)).toProvenance

lemma Sample.unprepared_platform : Unprepared Sample.platform where
  drafts := by
    intro taskId task htask
    obtain ⟨-, rfl⟩ := Sample.task_platformStore htask
    rfl
  idle := fun _ => rfl

/-- The award names Germany, which is supported. -/
theorem approvalRun_provenance :
    (run (bookedStep Sample.platformConfig) (Sample.platform, {}) Sample.approvalRun).2.automatic =
        [⟨2, 2, true⟩] ∧
      Provenance Sample.platformConfig
        (run (bookedStep Sample.platformConfig) (Sample.platform, {}) Sample.approvalRun).1.shared
        (run (bookedStep Sample.platformConfig) (Sample.platform, {}) Sample.approvalRun).2 :=
  ⟨by decide +kernel, platform_provenance Sample.platformConfig Sample.platform Sample.approvalRun
    Sample.unprepared_platform⟩

end

end ScholarshipFinder
