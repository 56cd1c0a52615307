import ScholarshipFinder.Approval.Attempts
import ScholarshipFinder.Infra.AutoApproveSweep

/-!
# One evaluation for each discovery

A discovery whose page was fetched is to be marked, or its task decided, so that no later tick
fetches the page again.  `turn_evaluated_iff` says when an attempt that fetches leaves it so: the fetch
is answered by a page that can be stored or by an error that is caught, the gates after it do not
raise, and where they are passed the database takes the scholarship.  In a run of ticks whose
attempts all meet this, every page is fetched once at most (`evaluatedOnce`); a binary page, which
the database refuses as text, is fetched by every tick (`binary_page_fetched_twice`).
-/

namespace ScholarshipFinder

open Lib

/-! ## The law -/

/-- The discovery is marked, or has no open task. -/
def Evaluated (store : ReviewStore) (id : DiscoveryId) : Prop :=
  (∃ d, store.discovery id = some d ∧ d.autoReviewEvaluatedAt.isSome) ∨
    ∀ taskId task, store.tasks.row taskId = some task → task.discoveryId = some id →
      task.state ≠ .opened

section

variable (py : ApprovalPy) (settings : SweepSettings)

/-- The discovery whose page the turn of a task fetches. -/
def pageFetched (tick : ApprovalTick) (store : ReviewStore) (taskId : TaskId) :
    Option DiscoveryId :=
  if tick.interrupted taskId = some 0 then none
  else (passedValue (openingGates py settings.toApprovalSettings (tick.attempts taskId) taskId
    store)).map (·.discoveryId)

/-- The turns of a tick, with the discoveries whose pages they fetch. -/
def fetchingTurn (tick : ApprovalTick) :
    ReviewStore × List DiscoveryId → TaskId → ReviewStore × List DiscoveryId :=
  withHistory (fun store taskId => (approvalTurn py settings tick taskId store).2)
    fun fetched store taskId => fetched ++ (pageFetched py settings tick store taskId).toList

/-- The discoveries whose pages a tick fetches. -/
def fetchesOf (tick : ApprovalTick) (store : ReviewStore) : List DiscoveryId :=
  (run (fetchingTurn py settings tick) (store, [])
    ((approvalBatch settings tick store).toOption.getD [])).2

/-- The ticks, with the discoveries whose pages they fetch. -/
def fetchingTick :
    ReviewStore × List DiscoveryId → ApprovalTick → ReviewStore × List DiscoveryId :=
  withHistory (fun store tick => (autoApproveSweep py settings tick store).2)
    fun fetched store tick => fetched ++ fetchesOf py settings tick store

/-- The fetch is answered by a page that the database stores, or by an error that is caught. -/
def FetchConcludes (answers : AttemptAnswers) : Prop :=
  match answers.fetched with
  | .ok (pageText, _) => py.storesText pageText = true
  | .error e => e.cls = .valueError ∨ e.cls = .httpError

/-- What an attempt needs that has fetched a page: nothing ends it before it has committed the
mark or the decision. -/
structure Concludes (tick : ApprovalTick) (store : ReviewStore) (taskId : TaskId)
    (attempt : Attempt) : Prop where
  fetch : FetchConcludes py (tick.attempts taskId)
  lasts : tick.interrupted taskId ≠ some 1
  /-- Of a page that was read, the gates do not raise. -/
  gates : ∀ page, verifyPage py (tick.attempts taskId) attempt = .ok (.passed page) →
    tick.interrupted taskId ≠ some 2 ∧
    ∀ e, closingGates py settings.toApprovalSettings (tick.attempts taskId) attempt page
      (store.recordVerification attempt.discoveryId) ≠ .error e
  /-- Where all gates are passed, the slug is short enough and the generated key is new. -/
  accepted : ∀ page admission, Admits py settings.toApprovalSettings (tick.attempts taskId) taskId
      store attempt page admission →
    (∀ slug ∈ admission.request.slug, slug.length ≤ 255) ∧
      store.shells.row (tick.attempts taskId).scholarshipId = none

/-- The turn of a task does not fetch, or concludes. -/
def TurnConcludes (tick : ApprovalTick) (store : ReviewStore) (taskId : TaskId) : Prop :=
  tick.interrupted taskId ≠ some 0 → ∀ attempt,
    openingGates py settings.toApprovalSettings (tick.attempts taskId) taskId store =
      .ok (.passed attempt) → Concludes py settings tick store taskId attempt

/-- All turns of a tick do. -/
def TickConcludes (store : ReviewStore) (tick : ApprovalTick) : Prop :=
  EachStep (fun store taskId => (approvalTurn py settings tick taskId store).2)
    (TurnConcludes py settings tick) store ((approvalBatch settings tick store).toOption.getD [])

end

/-! ## What a turn keeps -/

/-- Marks stay, and no task is opened. -/
structure Progress (before after : ReviewStore) : Prop where
  marks : ∀ id d, before.discovery id = some d → d.autoReviewEvaluatedAt.isSome →
    ∃ d', after.discovery id = some d' ∧ d'.autoReviewEvaluatedAt.isSome
  opened : ∀ taskId task, after.tasks.row taskId = some task → task.state = .opened →
    before.tasks.row taskId = some task

namespace Progress

variable {before middle after : ReviewStore}

lemma refl (store : ReviewStore) : Progress store store :=
  ⟨fun _ d hrow hmarked => ⟨d, hrow, hmarked⟩, fun _ _ hrow _ => hrow⟩

lemma trans (h : Progress before middle) (h' : Progress middle after) : Progress before after where
  marks := by
    intro id d hrow hmarked
    obtain ⟨d', hrow', hmarked'⟩ := h.marks id d hrow hmarked
    exact h'.marks id d' hrow' hmarked'
  opened := fun taskId task hrow hopened =>
    h.opened taskId task (h'.opened taskId task hrow hopened) hopened

lemma evaluated (h : Progress before after) {id : DiscoveryId} (hdone : Evaluated before id) :
    Evaluated after id := by
  rcases hdone with ⟨d, hrow, hmarked⟩ | hclosed
  · exact Or.inl (h.marks id d hrow hmarked)
  · exact Or.inr fun taskId task hrow hid hopened =>
      hclosed taskId task (h.opened taskId task hrow hopened) hid hopened

lemma openOnce (h : Progress before after) (hbefore : OpenOnce before) : OpenOnce after where
  unresolved := fun taskId task hrow hopened =>
    hbefore.unresolved taskId task (h.opened taskId task hrow hopened) hopened
  single := fun taskId taskId' task task' id hrow hrow' hid hid' hopened hopened' =>
    hbefore.single taskId taskId' task task' id (h.opened taskId task hrow hopened)
      (h.opened taskId' task' hrow' hopened') hid hid' hopened hopened'

end Progress

section

variable {py : ApprovalPy} {settings : ApprovalSettings} {answers : AttemptAnswers}
  {store before after : ReviewStore} {taskId : TaskId} {attempt : Attempt}

lemma markEvaluated_progress (store : ReviewStore) (id : DiscoveryId) (now : Instant) :
    Progress store (store.markEvaluated id now) := by
  refine ⟨fun other d hrow hmarked => ?_, fun _ _ hrow _ => hrow⟩
  rw [ReviewStore.markEvaluated, ReviewStore.amend_discovery, hrow]
  split
  · exact ⟨_, rfl, rfl⟩
  · exact ⟨d, rfl, hmarked⟩

lemma decideReview_progress {py : Py} {scholarshipId : ScholarshipId}
    {request : ReviewDecisionRequest} {task : Option DiscoveryTask}
    {view : DiscoveryId → Option Discovery} {created : Option ScholarshipId}
    (h : decideReview py scholarshipId taskId request task view before = .ok (created, after)) :
    Progress before after := by
  obtain ⟨copy, rfl, hcopy, -, htasks⟩ := decideReview_ok h
  obtain ⟨approved, hafter, happroved⟩ := decideReview_approval h
  refine ⟨fun id d hrow hmarked => ?_, fun other row hrow hopened => ?_⟩
  · rw [hafter]
    show ∃ d', approved.discovery id = some d' ∧ _
    rcases happroved with rfl | ⟨discoveryId, copied, happroves⟩
    · exact ⟨d, hrow, hmarked⟩
    · rw [happroves.discovery, hrow]
      split
      · exact ⟨_, rfl, hmarked⟩
      · exact ⟨d, rfl, hmarked⟩
  · rw [htasks, Table.row_modify] at hrow
    split at hrow
    · obtain ⟨stored, -, rfl⟩ := Option.map_eq_some_iff.mp hrow
      rw [resolveTask_state hcopy] at hopened
      cases hopened
    · exact hrow

lemma publishApproved_progress {derived : DerivedCycleFacts} {scholarshipId : ScholarshipId}
    (h : publishApproved py answers attempt derived scholarshipId before = .ok after) :
    Progress before after := by
  unfold publishApproved at h
  split at h
  · cases h
  split at h
  · cases h
  next db hcycle =>
  cases h
  -- the cycle is new, and the discoveries and the tasks are those of before
  have hcycle : Progress before { before.withDb db (publishCycle_pages hcycle).1
      (publishCycle_pages hcycle).2 with
      autoApproved := before.autoApproved ++ [answers.cycleId] } :=
    ⟨fun _ d hrow hmarked => ⟨d, hrow, hmarked⟩, fun _ _ hrow _ => hrow⟩
  exact hcycle.trans (markEvaluated_progress _ attempt.discoveryId answers.evaluatedAt)

lemma attemptStep_progress (step : AttemptStep) (stage : AttemptStage) (store : ReviewStore) :
    Progress store (attemptStep py settings answers step stage store).2 := by
  have hgate : ∀ {α : Type} (gate : Except PyErr (Gate α)) (next : α → AttemptStage × ReviewStore),
      (∀ a, Progress store (next a).2) → Progress store (stageAfter answers store gate next).2 := by
    intro α gate next hnext
    unfold stageAfter
    split
    · next a => exact hnext a
    · exact .refl store
    · exact markEvaluated_progress store _ _
    · exact .refl store
  unfold attemptStep
  split
  · exact hgate _ _ fun attempt => .refl store
  · exact hgate _ _ fun page =>
      ⟨fun _ d hrow hmarked => ⟨d, hrow, hmarked⟩, fun _ _ hrow _ => hrow⟩
  · refine hgate _ _ fun admission => ?_
    unfold stageDecided
    split
    · next hdecide => exact decideReview_progress hdecide
    · next hdecide => exact decideReview_progress hdecide
    · exact .refl store
  · split
    · next hpublish => exact publishApproved_progress hpublish
    · exact .refl store
  · exact .refl store
  · exact .refl store

lemma steps_progress (steps : List AttemptStep) (p : AttemptStage × ReviewStore) :
    Progress p.2
      (steps.foldl (fun p step => attemptStep py settings answers step p.1 p.2) p).2 := by
  induction steps generalizing p with
  | nil => exact .refl p.2
  | cons step steps ih => exact (attemptStep_progress step p.1 p.2).trans (ih _)

end

section

variable {py : ApprovalPy} {settings : SweepSettings} {tick : ApprovalTick} {store : ReviewStore}
  {taskId : TaskId} {attempt : Attempt}

/-- A turn that nothing interrupts is one that is interrupted after the last transaction. -/
lemma approvalTurn_committed (py : ApprovalPy) (settings : SweepSettings) (tick : ApprovalTick)
    (taskId : TaskId) (store : ReviewStore) :
    (approvalTurn py settings tick taskId store).2 =
      committedAfter py settings.toApprovalSettings (tick.attempts taskId) taskId store
        ((tick.interrupted taskId).getD 4) := by
  unfold approvalTurn
  cases tick.interrupted taskId with
  | none => exact attemptAutoApproval_eq_steps taskId
  | some k => rfl

lemma approvalTurn_progress : Progress store (approvalTurn py settings tick taskId store).2 := by
  rw [approvalTurn_committed]
  exact steps_progress _ (AttemptStage.idle, store)

end

/-! ## An attempt that fetches -/

section

variable {py : ApprovalPy} {settings : ApprovalSettings} {answers : AttemptAnswers}
  {store : ReviewStore} {taskId : TaskId} {attempt : Attempt} {page : Verification}
  {admission : Admission}

/-- A discovery whose page is fetched has not been evaluated. -/
lemma openingGates_unevaluated
    (h : openingGates py settings answers taskId store = .ok (.passed attempt)) :
    ¬ Evaluated store attempt.discoveryId := by
  obtain ⟨rfl, hopened⟩ := openingGates_passed h
  rintro (⟨d, hrow, hmarked⟩ | hclosed)
  · obtain rfl := Option.some.inj (hopened.discovery.symm.trans hrow)
    rw [openingGates] at h
    simp only [hopened.task, hopened.opened, hopened.discoveryId, hopened.discovery, hmarked,
      ne_eq, not_true_eq_false, if_false, if_true] at h
    cases h
  · exact hclosed _ _ hopened.task hopened.discoveryId hopened.opened

/-- How the verification ends. -/
lemma verifyPage_cases (py : ApprovalPy) (answers : AttemptAnswers) (attempt : Attempt) :
    (FetchConcludes py answers ∧ ((∃ page, verifyPage py answers attempt = .ok (.passed page)) ∨
      ∃ reason, verifyPage py answers attempt = .ok (.deferred attempt.discoveryId reason))) ∨
    (¬ FetchConcludes py answers ∧ ∃ e, verifyPage py answers attempt = .error e) := by
  unfold FetchConcludes verifyPage
  cases answers.fetched with
  | ok fetched =>
    obtain ⟨pageText, fetchMethod⟩ := fetched
    simp only [caught, andThen]
    by_cases hstores : py.storesText pageText = true
    · rw [if_pos hstores]
      exact Or.inl ⟨hstores, Or.inl ⟨_, rfl⟩⟩
    · rw [if_neg hstores]
      exact Or.inr ⟨hstores, _, rfl⟩
  | error e =>
    simp only [caught]
    by_cases hcaught : e.cls = .valueError ∨ e.cls = .httpError
    · rw [if_pos hcaught]
      exact Or.inl ⟨hcaught, Or.inr ⟨_, rfl⟩⟩
    · rw [if_neg hcaught]
      exact Or.inr ⟨hcaught, e, rfl⟩

/-- How the gates after the fetch end. -/
lemma closingGates_cases (py : ApprovalPy) (settings : ApprovalSettings) (answers : AttemptAnswers)
    (attempt : Attempt) (page : Verification) (store : ReviewStore) :
    (∃ admission, closingGates py settings answers attempt page store = .ok (.passed admission)) ∨
    (∃ reason, closingGates py settings answers attempt page store =
      .ok (.deferred attempt.discoveryId reason)) ∨
    ∃ e, closingGates py settings answers attempt page store = .error e := by
  simp only [closingGates]
  split
  · exact Or.inr (Or.inl ⟨_, rfl⟩)
  split
  · exact Or.inr (Or.inl ⟨_, rfl⟩)
  split
  · exact Or.inr (Or.inl ⟨_, rfl⟩)
  split
  · exact Or.inr (Or.inl ⟨_, rfl⟩)
  cases resolveProviderFromVerifiedUrl py attempt.url store with
  | error e => exact Or.inr (Or.inr ⟨e, rfl⟩)
  | ok provider =>
    cases provider with
    | none => exact Or.inr (Or.inl ⟨_, rfl⟩)
    | some providerId =>
      simp only [bind, Except.bind]
      split
      · exact Or.inr (Or.inl ⟨_, rfl⟩)
      · cases py.httpUrl attempt.url with
        | error e => exact Or.inr (Or.inr ⟨e, rfl⟩)
        | ok homeUrl => exact Or.inl ⟨_, rfl⟩

/-! ## Whether the database takes the scholarship -/

/-- What the gates after the fetch have put into the request. -/
structure Admission.Requested (answers : AttemptAnswers) (store : ReviewStore)
    (admission : Admission) : Prop where
  decision : admission.request.decision = .approve
  provider : ∃ id, admission.request.providerId = some id ∧ (store.providers.row id).isSome
  homeUrl : ∃ url, admission.request.officialHomeUrl = some url
  slug : ∃ slug, admission.request.slug = some slug ∧
    (store.shells.keys.any fun id => (store.shells.row id).any (·.slug = slug)) = false
  awardType : ∃ awardType, admission.request.awardType = some awardType ∧
    awardType ∈ awardTypes.map Prod.fst

lemma resolveProviderFromVerifiedUrl_row {url : String} {id : ProviderId}
    (h : resolveProviderFromVerifiedUrl py url store = .ok (some id)) :
    (store.providers.row id).isSome := by
  obtain ⟨parts, -, h⟩ := exceptBind_ok h
  dsimp only at h
  split at h
  · cases h
  split at h
  · next found hfound =>
    cases h
    have hmem : id ∈ [id] := List.mem_singleton_self id
    rw [← hfound, List.mem_filter, Option.any_eq_true] at hmem
    obtain ⟨-, p, hrow, -⟩ := hmem
    rw [hrow]
    rfl
  · cases h

lemma derivedAwardType {rawTitle rawExcerpt : Option String} {pageText : String}
    {facts : Option ExtractedFacts} {names : Dict} {derived : DerivedCycleFacts}
    (h : deriveCycleFactsFromExtraction py.toPyText rawTitle rawExcerpt pageText facts names =
      some derived) : derived.awardType ∈ awardTypes.map Prod.fst := by
  simp only [deriveCycleFactsFromExtraction] at h
  split at h
  · split at h
    · cases h
    split at h
    · cases h
    next awardType hagreed =>
    obtain rfl := Option.some.inj h
    unfold resolveAgreedAwardType at hagreed
    exact List.mem_of_find?_eq_some hagreed
  · cases h

lemma closingGates_requested
    (h : closingGates py settings answers attempt page store = .ok (.passed admission)) :
    admission.Requested answers store := by
  have hadmitted := closingGates_passed h
  simp only [closingGates] at h
  split at h
  · cases h
  split at h
  · cases h
  next derived hderived =>
  split at h
  · cases h
  split at h
  · cases h
  obtain ⟨provider, hprovider, h⟩ := exceptBind_ok h
  split at h
  · cases h
  split at h
  · cases h
  next slug hslug =>
  obtain ⟨homeUrl, -, h⟩ := exceptBind_ok h
  cases h
  refine ⟨rfl, ⟨_, rfl, resolveProviderFromVerifiedUrl_row hprovider⟩, ⟨_, rfl⟩, ⟨_, rfl, ?_⟩,
    ⟨_, rfl, derivedAwardType hderived⟩⟩
  simpa using List.find?_some hslug

/-- The kinds of award are codes that stand for themselves. -/
lemma awardTypes_codes :
    ∀ c ∈ awardTypes.map Prod.fst, isCode c = true ∧ awardTypes.has c = true := by
  decide

lemma taxonomyAwardType_code (hpy : py.TextLaws) {c : String} (h : c ∈ awardTypes.map Prod.fst) :
    taxonomyAwardType py.toPy c = .ok c := by
  obtain ⟨hcode, hhas⟩ := awardTypes_codes c h
  rw [taxonomyAwardType]
  simp only [hpy.strip_code c hcode, hpy.lower_code c hcode, hhas, if_true]

lemma insertShell_ok_iff {id : ScholarshipId} {shell : ScholarshipShell} :
    (∃ after, insertShell id shell store = .ok after) ↔
      (store.shells.keys.any fun id => (store.shells.row id).any (·.slug = shell.slug)) = false ∧
        shell.slug.length ≤ 255 ∧ (store.providers.row shell.providerId).isSome ∧
        store.shells.row id = none := by
  have hrefused : (∃ after, insertShell id shell store = .ok after) ↔
      ¬ ((store.shells.keys.any fun id => (store.shells.row id).any (·.slug = shell.slug)) = true ∨
        255 < shell.slug.length ∨ (store.providers.row shell.providerId).isNone = true ∨
        (store.shells.row id).isSome = true) := by
    rw [insertShell]
    dsimp only
    split
    · next hrefused =>
      refine ⟨?_, fun hadmits => absurd hrefused hadmits⟩
      rintro ⟨_, ⟨⟩⟩
    · next hadmits => exact ⟨fun _ => hadmits, fun _ => ⟨_, rfl⟩⟩
  rw [hrefused]
  rw [not_or, not_or, not_or, Bool.not_eq_true, not_lt, Option.isNone_iff_eq_none,
    Option.not_isSome_iff_eq_none, ← ne_eq, ← Option.isSome_iff_ne_none]

/-- Of what the gates have admitted, the database refuses long slugs and used keys. -/
lemma Admits.accepted_iff (hpy : py.TextLaws)
    (h : Admits py settings answers taskId store attempt page admission) :
    (∃ result, decideAttempt py answers attempt admission
      (store.recordVerification attempt.discoveryId) = .ok result) ↔
    (∀ slug ∈ admission.request.slug, slug.length ≤ 255) ∧
      store.shells.row answers.scholarshipId = none := by
  obtain ⟨rfl, hopened⟩ := openingGates_passed h.opening
  obtain ⟨hdecision, ⟨providerId, hprovider, hexists⟩, ⟨homeUrl, hurl⟩, ⟨slug, hslug, hfree⟩,
    awardType, haward, hcode⟩ := closingGates_requested h.closing
  have htask : (store.recordVerification attempt.discoveryId).tasks.row attempt.taskId =
      some attempt.task := hopened.task
  have hview : (store.recordVerification attempt.discoveryId).discovery attempt.discoveryId =
      some attempt.discovery := hopened.discovery
  rw [h.decideAttempt_eq, decideRequest, htask, decideReview_approve_iff hopened.opened hdecision]
  have hinsert := @insertShell_ok_iff (store.recordVerification attempt.discoveryId)
    answers.scholarshipId ⟨providerId, slug,
      firstText admission.request.canonicalName attempt.discovery.rawTitle "Unnamed scholarship",
      homeUrl, awardType⟩
  have happrove : (∃ approved, approveTask py.toPy answers.scholarshipId admission.request
        attempt.task (store.recordVerification attempt.discoveryId).discovery
        (store.recordVerification attempt.discoveryId) = .ok approved) ↔
      ∃ after, insertShell answers.scholarshipId ⟨providerId, slug,
        firstText admission.request.canonicalName attempt.discovery.rawTitle "Unnamed scholarship",
        homeUrl, awardType⟩ (store.recordVerification attempt.discoveryId) = .ok after := by
    simp only [approveTask, hopened.discoveryId, hprovider, hurl, hslug, haward,
      hview, bind, Except.bind]
    rw [taxonomyAwardType_code hpy hcode]
    dsimp only
    cases insertShell answers.scholarshipId _ (store.recordVerification attempt.discoveryId) with
    | error e =>
      constructor
      · rintro ⟨_, ⟨⟩⟩
      · rintro ⟨_, ⟨⟩⟩
    | ok inserted => exact ⟨fun _ => ⟨_, rfl⟩, fun _ => ⟨_, rfl⟩⟩
  rw [happrove, hinsert, hslug]
  constructor
  · rintro ⟨-, hshort, -, hnew⟩
    exact ⟨fun other hother => Option.some.inj hother ▸ hshort, hnew⟩
  · rintro ⟨hshort, hnew⟩
    exact ⟨hfree, hshort slug rfl, hexists, hnew⟩

/-! ## What the transactions leave -/

/-- An attempt that has ended stays as it is. -/
lemma idle_rest (store : ReviewStore) {steps : List AttemptStep}
    (hsteps : ∀ step ∈ steps, step = .decide ∨ step = .publish) :
    (steps.foldl (fun p step => attemptStep py settings answers step p.1 p.2)
      (AttemptStage.idle, store)) = (AttemptStage.idle, store) := by
  induction steps with
  | nil => rfl
  | cons step steps ih =>
    have hidle : attemptStep py settings answers step .idle store = (.idle, store) := by
      rcases hsteps step List.mem_cons_self with rfl | rfl <;> rfl
    rw [List.foldl_cons, hidle]
    exact ih fun other hother => hsteps other (List.mem_cons_of_mem step hother)

/-- The transactions after the one that opens the attempt. -/
lemma committedAfter_fetched
    (hopening : openingGates py settings answers taskId store = .ok (.passed attempt)) (k : ℕ) :
    committedAfter py settings answers taskId store (k + 2) =
      ((([.decide, .publish] : List AttemptStep).take k).foldl
        (fun p step => attemptStep py settings answers step p.1 p.2)
        (attemptStep py settings answers .verify (.fetching attempt) store)).2 := by
  simp only [committedAfter, List.take_succ_cons, List.foldl_cons, attemptStep, stageAfter, hopening]

lemma markEvaluated_evaluated {id : DiscoveryId} {d : Discovery}
    (hrow : store.discovery id = some d) (now : Instant) :
    Evaluated (store.markEvaluated id now) id := by
  refine Or.inl ⟨{ d with autoReviewEvaluatedAt := some now }, ?_, rfl⟩
  rw [ReviewStore.markEvaluated, ReviewStore.amend_discovery, if_pos rfl, hrow]
  rfl

/-- A decision leaves no open task of the discovery. -/
lemma Admits.decided_evaluated (hstore : OpenOnce store)
    (h : Admits py settings answers taskId store attempt page admission)
    {created : Option ScholarshipId} {decided : ReviewStore}
    (hdecide : decideAttempt py answers attempt admission
      (store.recordVerification attempt.discoveryId) = .ok (created, decided)) :
    Evaluated decided attempt.discoveryId := by
  obtain ⟨rfl, hopened⟩ := openingGates_passed h.opening
  have hprogress := decideReview_progress hdecide
  obtain ⟨copy, -, hcopy, -, htasks⟩ := decideReview_ok hdecide
  refine Or.inr fun other task hrow hid hstate => ?_
  have hbefore : store.tasks.row other = some task := hprogress.opened other task hrow hstate
  -- it would be the task that was decided
  have hother : other = attempt.taskId := hstore.single other attempt.taskId task attempt.task _
    hbefore hopened.task hid hopened.discoveryId hstate hopened.opened
  rw [htasks, hother, Table.row_modify_self] at hrow
  obtain ⟨stored, -, rfl⟩ := Option.map_eq_some_iff.mp hrow
  rw [resolveTask_state hcopy] at hstate
  cases hstate

/-- Whether an attempt that has read its page leaves its discovery evaluated, by the number of the
transactions that are left. -/
lemma verified_evaluated_iff (hpy : py.TextLaws) (hstore : OpenOnce store)
    (hverifies : Verifies py settings answers taskId store attempt page) (k : ℕ) :
    Evaluated ((([.decide, .publish] : List AttemptStep).take k).foldl
        (fun p step => attemptStep py settings answers step p.1 p.2)
        (AttemptStage.verified attempt page, store.recordVerification attempt.discoveryId)).2
      attempt.discoveryId ↔
    k ≠ 0 ∧
      (∀ e, closingGates py settings answers attempt page
        (store.recordVerification attempt.discoveryId) ≠ .error e) ∧
      ∀ admission, Admits py settings answers taskId store attempt page admission →
        (∀ slug ∈ admission.request.slug, slug.length ≤ 255) ∧
          store.shells.row answers.scholarshipId = none := by
  obtain ⟨-, hopened⟩ := openingGates_passed hverifies.opening
  have hrecorded : ¬ Evaluated (store.recordVerification attempt.discoveryId)
      attempt.discoveryId := openingGates_unevaluated hverifies.opening
  cases k with
  | zero => exact ⟨fun h => absurd h hrecorded, fun h => absurd rfl h.1⟩
  | succ k =>
    rw [List.take_succ_cons, List.foldl_cons]
    have hpublish : ∀ step ∈ List.take k [AttemptStep.publish],
        step = .decide ∨ step = .publish :=
      fun step hstep => Or.inr (List.mem_singleton.mp (List.mem_of_mem_take hstep))
    rcases closingGates_cases py settings answers attempt page
      (store.recordVerification attempt.discoveryId) with
      ⟨admission, hclosing⟩ | ⟨reason, hclosing⟩ | ⟨e, hclosing⟩
    · -- all gates are passed: what is left is the decision
      have hadmits : Admits py settings answers taskId store attempt page admission :=
        ⟨hverifies, hclosing⟩
      cases hdecide : decideAttempt py answers attempt admission
          (store.recordVerification attempt.discoveryId) with
      | error e =>
        have hrefused : ¬ ∃ result, decideAttempt py answers attempt admission
            (store.recordVerification attempt.discoveryId) = .ok result := by
          rw [hdecide]
          rintro ⟨_, ⟨⟩⟩
        have hstep : attemptStep py settings answers .decide (.verified attempt page)
            (store.recordVerification attempt.discoveryId) =
              (.idle, store.recordVerification attempt.discoveryId) := by
          simp only [attemptStep, stageAfter, hclosing, hdecide, stageDecided]
        rw [hstep, idle_rest _ hpublish]
        exact ⟨fun h => absurd h hrecorded,
          fun h => absurd ((hadmits.accepted_iff hpy).mpr (h.2.2 admission hadmits)) hrefused⟩
      | ok result =>
        obtain ⟨created, decided⟩ := result
        obtain rfl := decideAttempt_some (closingGates_passed hclosing).decision hdecide
        have hstep : attemptStep py settings answers .decide (.verified attempt page)
            (store.recordVerification attempt.discoveryId) =
              (.decided attempt admission.derived answers.scholarshipId, decided) := by
          simp only [attemptStep, stageAfter, hclosing, hdecide, stageDecided]
        rw [hstep]
        refine ⟨fun _ => ⟨by omega, fun e h => ?_, fun other hother => ?_⟩, fun _ =>
          (steps_progress _ (AttemptStage.decided attempt admission.derived answers.scholarshipId,
            decided)).evaluated (hadmits.decided_evaluated hstore hdecide)⟩
        · rw [hclosing] at h
          cases h
        · obtain rfl : admission = other := by
            have hclosing' := hother.closing
            rw [hclosing] at hclosing'
            cases hclosing'
            rfl
          exact (hadmits.accepted_iff hpy).mp ⟨_, hdecide⟩
    · have hstep : attemptStep py settings answers .decide (.verified attempt page)
          (store.recordVerification attempt.discoveryId) = (.idle,
            (store.recordVerification attempt.discoveryId).markEvaluated attempt.discoveryId
              answers.evaluatedAt) := by
        simp only [attemptStep, stageAfter, hclosing]
      rw [hstep]
      refine ⟨fun _ => ⟨by omega, fun e h => ?_, fun other hother => ?_⟩, fun _ =>
        (steps_progress _ (AttemptStage.idle, _)).evaluated
          (markEvaluated_evaluated hopened.discovery _)⟩
      · rw [hclosing] at h
        cases h
      · have hclosing' := hother.closing
        rw [hclosing] at hclosing'
        cases hclosing'
    · have hstep : attemptStep py settings answers .decide (.verified attempt page)
          (store.recordVerification attempt.discoveryId) =
            (.idle, store.recordVerification attempt.discoveryId) := by
        simp only [attemptStep, stageAfter, hclosing]
      rw [hstep, idle_rest _ hpublish]
      exact ⟨fun h => absurd h hrecorded, fun h => absurd hclosing (h.2.1 e)⟩

/-- Whether an attempt that fetches leaves its discovery evaluated, by the number of its
transactions. -/
lemma committedAfter_evaluated_iff (hpy : py.TextLaws) (hstore : OpenOnce store)
    (hopening : openingGates py settings answers taskId store = .ok (.passed attempt)) {k : ℕ}
    (hk : k ≠ 0) :
    Evaluated (committedAfter py settings answers taskId store k) attempt.discoveryId ↔
      FetchConcludes py answers ∧ k ≠ 1 ∧
      (∀ page, verifyPage py answers attempt = .ok (.passed page) → k ≠ 2 ∧
        ∀ e, closingGates py settings answers attempt page
          (store.recordVerification attempt.discoveryId) ≠ .error e) ∧
      ∀ page admission, Admits py settings answers taskId store attempt page admission →
        (∀ slug ∈ admission.request.slug, slug.length ≤ 255) ∧
          store.shells.row answers.scholarshipId = none := by
  have hunevaluated := openingGates_unevaluated hopening
  obtain ⟨-, hopened⟩ := openingGates_passed hopening
  obtain _ | _ | k := k
  · exact absurd rfl hk
  · have hstart : committedAfter py settings answers taskId store 1 = store := by
      simp only [committedAfter, List.take_succ_cons, List.take_zero, List.foldl_cons,
        List.foldl_nil, attemptStep, stageAfter, hopening]
    rw [zero_add, hstart]
    exact ⟨fun h => absurd h hunevaluated, fun h => absurd rfl h.2.1⟩
  rw [committedAfter_fetched hopening]
  have hrest : ∀ step ∈ ([.decide, .publish] : List AttemptStep).take k,
      step = .decide ∨ step = .publish := by
    intro step hstep
    simpa using List.mem_of_mem_take hstep
  rcases verifyPage_cases py answers attempt with ⟨hfetch, ⟨page, hpage⟩ | ⟨reason, hpage⟩⟩ |
    ⟨hfetch, e, hpage⟩
  · have hverify : attemptStep py settings answers .verify (.fetching attempt) store =
        (.verified attempt page, store.recordVerification attempt.discoveryId) := by
      simp only [attemptStep, stageAfter, hpage]
    rw [hverify, verified_evaluated_iff hpy hstore ⟨hopening, hpage⟩]
    constructor
    · rintro ⟨hlasts, hgates, haccepted⟩
      refine ⟨hfetch, by omega, fun other hother => ?_, fun other admission hadmits => ?_⟩
      · rw [hpage] at hother
        cases hother
        exact ⟨by omega, hgates⟩
      · have hreading := hadmits.reading
        rw [hpage] at hreading
        cases hreading
        exact haccepted admission hadmits
    · rintro ⟨-, -, hgates, haccepted⟩
      obtain ⟨hlasts, hpassed⟩ := hgates page hpage
      exact ⟨by omega, hpassed, haccepted page⟩
  · -- the fetch is deferred
    have hverify : attemptStep py settings answers .verify (.fetching attempt) store =
        (.idle, store.markEvaluated attempt.discoveryId answers.evaluatedAt) := by
      simp only [attemptStep, stageAfter, hpage]
    rw [hverify, idle_rest _ hrest]
    refine ⟨fun _ => ⟨hfetch, by omega, fun page h => ?_, fun page admission hadmits => ?_⟩,
      fun _ => markEvaluated_evaluated hopened.discovery _⟩
    · rw [hpage] at h
      cases h
    · have hreading := hadmits.reading
      rw [hpage] at hreading
      cases hreading
  · have hverify : attemptStep py settings answers .verify (.fetching attempt) store =
        (.idle, store) := by
      simp only [attemptStep, stageAfter, hpage]
    rw [hverify, idle_rest _ hrest]
    exact ⟨fun h => absurd h hunevaluated, fun h => absurd h.1 hfetch⟩

end

/-! ## Turns and ticks -/

section

variable {py : ApprovalPy} {settings : SweepSettings} {tick : ApprovalTick} {store : ReviewStore}
  {taskId : TaskId} {attempt : Attempt}

/-- A turn that fetches leaves its discovery evaluated exactly if it concludes. -/
lemma turn_evaluated_iff (hpy : py.TextLaws) (hstore : OpenOnce store)
    (hopening : openingGates py settings.toApprovalSettings (tick.attempts taskId) taskId store =
      .ok (.passed attempt))
    (hfetches : tick.interrupted taskId ≠ some 0) :
    Evaluated (approvalTurn py settings tick taskId store).2 attempt.discoveryId ↔
      Concludes py settings tick store taskId attempt := by
  have hcount : ∀ k ≠ 4, (tick.interrupted taskId).getD 4 ≠ k ↔
      tick.interrupted taskId ≠ some k := by
    intro k hk
    cases tick.interrupted taskId with
    | none => simpa using hk.symm
    | some n => simp
  rw [approvalTurn_committed, committedAfter_evaluated_iff hpy hstore hopening
    ((hcount 0 (by decide)).mpr hfetches), hcount 1 (by decide), hcount 2 (by decide)]
  constructor
  · rintro ⟨hfetch, hlasts, hgates, haccepted⟩
    exact ⟨hfetch, hlasts, hgates, haccepted⟩
  · rintro ⟨hfetch, hlasts, hgates, haccepted⟩
    exact ⟨hfetch, hlasts, hgates, haccepted⟩

/-- What holds between two turns. -/
structure FetchedInv (p : ReviewStore × List DiscoveryId) : Prop where
  openOnce : OpenOnce p.1
  evaluated : ∀ id ∈ p.2, Evaluated p.1 id
  once : p.2.Nodup

lemma FetchedInv.turn (hpy : py.TextLaws) {p : ReviewStore × List DiscoveryId} (h : FetchedInv p)
    (hturn : TurnConcludes py settings tick p.1 taskId) :
    FetchedInv (fetchingTurn py settings tick p taskId) := by
  have hprogress := @approvalTurn_progress py settings tick p.1 taskId
  have hkept : ∀ id ∈ p.2, Evaluated (approvalTurn py settings tick taskId p.1).2 id :=
    fun id hid => hprogress.evaluated (h.evaluated id hid)
  have hnothing : pageFetched py settings tick p.1 taskId = none →
      FetchedInv (fetchingTurn py settings tick p taskId) := by
    intro hnone
    refine ⟨hprogress.openOnce h.openOnce, ?_, ?_⟩
    · simpa only [fetchingTurn, withHistory, hnone, Option.toList_none, List.append_nil] using hkept
    · simpa only [fetchingTurn, withHistory, hnone, Option.toList_none, List.append_nil] using
        h.once
  by_cases hfetches : tick.interrupted taskId = some 0
  · exact hnothing (by rw [pageFetched, if_pos hfetches])
  cases hopening : passedValue (openingGates py settings.toApprovalSettings (tick.attempts taskId)
      taskId p.1) with
  | none => exact hnothing (by rw [pageFetched, if_neg hfetches, hopening]; rfl)
  | some attempt =>
    have hfetched : pageFetched py settings tick p.1 taskId = some attempt.discoveryId := by
      rw [pageFetched, if_neg hfetches, hopening]
      rfl
    have hpassed : openingGates py settings.toApprovalSettings (tick.attempts taskId) taskId p.1 =
        .ok (.passed attempt) := by
      unfold passedValue at hopening
      split at hopening
      · next heq =>
        cases hopening
        exact heq
      · cases hopening
    have hevaluated := (turn_evaluated_iff hpy h.openOnce hpassed hfetches).mpr
      (hturn hfetches attempt hpassed)
    refine ⟨hprogress.openOnce h.openOnce, ?_, ?_⟩
    · show ∀ id ∈ p.2 ++ (pageFetched py settings tick p.1 taskId).toList, _
      rw [hfetched]
      intro id hid
      rcases List.mem_append.mp hid with hid | hid
      · exact hkept id hid
      · rw [List.mem_singleton.mp hid]
        exact hevaluated
    · show (p.2 ++ (pageFetched py settings tick p.1 taskId).toList).Nodup
      rw [hfetched]
      refine nodup_append_toList.mpr ⟨h.once, fun id hid hmem => ?_⟩
      -- a page that is fetched belongs to a discovery that was not evaluated before
      obtain rfl := Option.some.inj hid
      exact openingGates_unevaluated hpassed (h.evaluated _ hmem)

/-- The pages of the turns follow those that were fetched before. -/
lemma run_fetchingTurn (taskIds : List TaskId) (fetched : List DiscoveryId) :
    run (fetchingTurn py settings tick) (store, fetched) taskIds =
      ((approvalTurns py settings tick taskIds store).2,
        fetched ++ (run (fetchingTurn py settings tick) (store, []) taskIds).2) := by
  induction taskIds generalizing store fetched with
  | nil => rw [run_nil, run_nil, List.append_nil]; rfl
  | cons taskId taskIds ih =>
    rw [run_cons, run_cons, fetchingTurn, withHistory, withHistory, ← fetchingTurn, ih,
      ih ([] ++ _), List.nil_append, List.append_assoc]
    rfl

lemma fetchingTick_eq (p : ReviewStore × List DiscoveryId) :
    fetchingTick py settings p tick =
      run (fetchingTurn py settings tick) p ((approvalBatch settings tick p.1).toOption.getD []) := by
  rw [run_fetchingTurn, fetchingTick, withHistory, autoApproveSweep]
  cases hbatch : approvalBatch settings tick p.1 with
  | error e => simp only [fetchesOf, hbatch]; rfl
  | ok taskIds => simp only [fetchesOf, hbatch]; rfl

lemma FetchedInv.sweep (hpy : py.TextLaws) {p : ReviewStore × List DiscoveryId} (h : FetchedInv p)
    (htick : TickConcludes py settings p.1 tick) : FetchedInv (fetchingTick py settings p tick) := by
  rw [fetchingTick_eq]
  exact run_invariant (A := fun _ => True) (fun q taskId _ hq hturn => hq.turn hpy hturn)
    (fun _ _ => trivial) h (eachStep_withHistory_fst.mpr htick)

end

/-- A turn that fetches a page leaves the discovery marked, or without an open task, exactly if it
concludes; in a run of ticks whose turns all conclude, every page is fetched once at most. -/
theorem evaluatedOnce (py : ApprovalPy) (settings : SweepSettings) (hpy : py.TextLaws) :
    (∀ tick store taskId attempt, OpenOnce store →
      openingGates py settings.toApprovalSettings (tick.attempts taskId) taskId store =
        .ok (.passed attempt) →
      tick.interrupted taskId ≠ some 0 →
      (Evaluated (approvalTurn py settings tick taskId store).2 attempt.discoveryId ↔
        Concludes py settings tick store taskId attempt)) ∧
    ∀ store ticks, OpenOnce store →
      EachStep (fun store tick => (autoApproveSweep py settings tick store).2)
        (TickConcludes py settings) store ticks →
      (run (fetchingTick py settings) (store, []) ticks).2.Nodup := by
  refine ⟨fun tick store taskId attempt hstore hopening hfetches =>
    turn_evaluated_iff hpy hstore hopening hfetches, fun store ticks hstore hticks => ?_⟩
  have hstart : FetchedInv (store, []) :=
    ⟨hstore, fun id hid => absurd hid List.not_mem_nil, List.nodup_nil⟩
  have hinv : FetchedInv (run (fetchingTick py settings) (store, []) ticks) :=
    run_invariant (A := fun _ => True) (fun p tick _ hp htick => hp.sweep hpy htick)
      (fun _ _ => trivial) hstart (eachStep_withHistory_fst.mpr hticks)
  exact hinv.once

/-! ## Two ticks -/

namespace Sample

def sweepSettings : SweepSettings := { autoApproveEnabled := true }

def approvalTick : ApprovalTick where
  now := start + 2 * day
  rank := id
  attempts := fun _ => approvalAnswers
  interrupted := fun _ => none

/-- A database that refuses the character NUL in a text. -/
def columnPy : ApprovalPy := { approvalPy with
  storesText := fun text => text.toList.all (· ≠ Char.ofNat 0) }

/-- The page of the award is a binary file, which is decoded as it is. -/
def binaryTick : ApprovalTick := { approvalTick with
  attempts := fun _ => { approvalAnswers with
    fetched := .ok (String.ofList ("%PDF-1.7".toList ++ [Char.ofNat 0]), "direct") } }

/-- The page of the award cannot be reached. -/
def unreachableTick : ApprovalTick := { approvalTick with
  attempts := fun _ => { approvalAnswers with fetched := .error ⟨.httpError, "timed out"⟩ } }

lemma columnPy_textLaws : columnPy.TextLaws :=
  ⟨textPy_textLaws.strip_code, textPy_textLaws.lower_code, textPy_textLaws.strip_strip,
    textPy_textLaws.strip_upper, textPy_textLaws.upper_upper⟩

lemma approvalStore_openOnce : OpenOnce approvalStore where
  unresolved := by
    intro taskId task hrow _
    simp only [approvalStore, Table.insert, Table.empty, Function.update_apply] at hrow
    split at hrow
    · obtain rfl := Option.some.inj hrow
      rfl
    · cases hrow
  single := by
    intro taskId taskId' task task' id hrow hrow' _ _ _ _
    simp only [approvalStore, Table.insert, Table.empty, Function.update_apply] at hrow hrow'
    split at hrow
    · next h =>
      split at hrow'
      · next h' => rw [h, h']
      · cases hrow'
    · cases hrow

end Sample

/-- Of a page that cannot be reached, the first tick marks the discovery. -/
theorem evaluatedOnce_unreachable :
    (run (fetchingTick Sample.columnPy Sample.sweepSettings) (Sample.approvalStore, [])
      [Sample.unreachableTick, Sample.unreachableTick]).2.Nodup := by
  obtain ⟨hiff, hrun⟩ := evaluatedOnce Sample.columnPy Sample.sweepSettings Sample.columnPy_textLaws
  have hbatch : (approvalBatch Sample.sweepSettings Sample.unreachableTick
      Sample.approvalStore).toOption.getD [] = [1] := by decide +kernel
  have hlast : (approvalBatch Sample.sweepSettings Sample.unreachableTick (autoApproveSweep
      Sample.columnPy Sample.sweepSettings Sample.unreachableTick
        Sample.approvalStore).2).toOption.getD [] = [] := by decide +kernel
  have hmarked : ((approvalTurn Sample.columnPy Sample.sweepSettings Sample.unreachableTick 1
      Sample.approvalStore).2.discovery 2).any (·.autoReviewEvaluatedAt.isSome) = true := by
    decide +kernel
  refine hrun _ _ Sample.approvalStore_openOnce ⟨?_, ?_, trivial⟩
  · rw [TickConcludes, hbatch]
    refine ⟨fun hfetches attempt hopening => ?_, trivial⟩
    refine (hiff _ _ _ _ Sample.approvalStore_openOnce hopening hfetches).mp (Or.inl ?_)
    obtain ⟨hid, hopened⟩ := openingGates_passed hopening
    have htask : Sample.awardTask = attempt.task :=
      Option.some.inj (by rw [← hopened.task, hid]; rfl)
    have hdiscovery : 2 = attempt.discoveryId :=
      Option.some.inj (by rw [← hopened.discoveryId, ← htask]; rfl)
    rw [← hdiscovery]
    rw [Option.any_eq_true] at hmarked
    obtain ⟨d, hrow, hd⟩ := hmarked
    exact ⟨d, hrow, hd⟩
  · rw [TickConcludes, hlast]
    trivial

/-- Every tick fetches a page that the database refuses. -/
theorem binary_page_fetched_twice :
    ¬ ∀ (py : ApprovalPy) (settings : SweepSettings) (store : ReviewStore)
      (ticks : List ApprovalTick), py.TextLaws → OpenOnce store →
      (run (fetchingTick py settings) (store, []) ticks).2.Nodup := by
  intro h
  have hnodup := h Sample.columnPy Sample.sweepSettings Sample.approvalStore
    [Sample.binaryTick, Sample.binaryTick] Sample.columnPy_textLaws Sample.approvalStore_openOnce
  have hfetched : (run (fetchingTick Sample.columnPy Sample.sweepSettings) (Sample.approvalStore, [])
      [Sample.binaryTick, Sample.binaryTick]).2 = [2, 2] := by decide +kernel
  rw [hfetched] at hnodup
  exact absurd hnodup (by decide)

end ScholarshipFinder
