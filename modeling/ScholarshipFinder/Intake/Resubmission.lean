import ScholarshipFinder.Intake.Growth
import ScholarshipFinder.Sample.Intake

/-!
# Submitting candidates twice

A result is settled in a store if the page and the content of its candidate are found there, with
the discovery that the result names.  A submission settles all its results, and since rows only get
added they stay settled; a candidate with a settled result is found and makes nothing.
-/

namespace ScholarshipFinder

open Lib IntakeStore

variable (py : IntakePy)

/-- The result answers the candidate: its discovery has the content on the page, unless the URL is
unusable. -/
def Answered (parent : DiscoveryContext) (store : IntakeStore) (candidate : CandidateSubmission)
    (result : CandidateResult) : Prop :=
  result.title = candidate.title ∧
    match prepareCandidate py.toPy (candidateUrl parent candidate) candidate.title
      candidate.excerpt with
    | .error _ => result.status = .rejected ∧ result.discoveryId = none
    | .ok prepared => result.status ≠ .rejected ∧ ∃ pageId id,
        store.findPage parent.sourceId prepared.normalizedUrl = some pageId ∧
          store.findContent pageId prepared.contentHash = some id ∧ result.discoveryId = some id

/-- The discovery that a result says is created. -/
def CandidateResult.newId (result : CandidateResult) : Option DiscoveryId :=
  if result.status = .created then result.discoveryId else none

/-- A discovery split from a parent, with its two jobs. -/
structure SplitOff (parentId : DiscoveryId) (before after : IntakeStore) (id : DiscoveryId) :
    Prop extends QueuedOnce before after id where
  row : ∃ d, after.discovery id = some d ∧ d.splitFromDiscoveryId = some parentId ∧
    d.supersedesDiscoveryId = none ∧ d.duplicateOfDiscoveryId = none

/-- The account of a list of candidates. -/
structure Submitted (parent : DiscoveryContext) (candidates : List CandidateSubmission)
    (results : List CandidateResult) (before after : IntakeStore) : Prop where
  settled : List.Forall₂ (Answered py parent after) candidates results
  named : ∀ result ∈ results, result.status = .created → result.discoveryId.isSome
  keys : after.discovered.discoveries.keys =
    before.discovered.discoveries.keys ++ results.filterMap CandidateResult.newId
  each : ∀ id ∈ results.filterMap CandidateResult.newId,
    SplitOff parent.discoveryId before after id
  queued : ∀ id, before.LinkQueued id → ∀ kind, after.jobsNaming kind id = before.jobsNaming kind id
  unnamed : ∀ id, ¬ after.LinkQueued id → ∀ kind,
    after.jobsNaming kind id = before.jobsNaming kind id
  grown : ∃ times, Grown times before after

variable {py} {parent : DiscoveryContext} {startedAt : Instant}
  {before middle after store : IntakeStore} {candidates candidates' : List CandidateSubmission}
  {results results' : List CandidateResult}

/-! ## Accounts add up -/

lemma Answered.later {times : List Instant} {candidate : CandidateSubmission}
    {result : CandidateResult} (hgrown : Grown times before after)
    (h : Answered py parent before candidate result) : Answered py parent after candidate result := by
  refine ⟨h.1, ?_⟩
  have hanswer := h.2
  split at hanswer
  · exact hanswer
  · obtain ⟨hstatus, pageId, id, hpage, hcontent, hid⟩ := hanswer
    exact ⟨hstatus, pageId, id, hgrown.foundPage _ _ _ hpage,
      hgrown.foundContent _ _ _ hcontent, hid⟩

lemma SplitOff.later {times : List Instant} {parentId id : DiscoveryId}
    (h : SplitOff parentId before middle id) (hgrown : Grown times middle after)
    (hsettled : ∀ kind, after.jobsNaming kind id = middle.jobsNaming kind id) :
    SplitOff parentId before after id where
  toQueuedOnce := h.toQueuedOnce.later hgrown hsettled
  row := by
    obtain ⟨d, hd, hcolumns⟩ := h.row
    exact ⟨d, hgrown.discoveries id d hd, hcolumns⟩

theorem Submitted.trans (h : Submitted py parent candidates results before middle)
    (h' : Submitted py parent candidates' results' middle after) :
    Submitted py parent (candidates ++ candidates') (results ++ results') before after := by
  obtain ⟨times, hgrown⟩ := h.grown
  obtain ⟨times', hgrown'⟩ := h'.grown
  refine ⟨?_, ?_, ?_, ?_, ?_, ?_, times ++ times', hgrown.trans hgrown'⟩
  · exact List.rel_append (h.settled.imp fun _ _ => Answered.later hgrown') h'.settled
  · intro result hresult
    rcases List.mem_append.mp hresult with hresult | hresult
    · exact h.named result hresult
    · exact h'.named result hresult
  · rw [h'.keys, h.keys, List.filterMap_append, List.append_assoc]
  · intro id hid
    rw [List.filterMap_append] at hid
    rcases List.mem_append.mp hid with hid | hid
    · have hsplit := h.each id hid
      exact hsplit.later hgrown' (h'.queued id hsplit.queued)
    · have hsplit := h'.each id hid
      exact ⟨hsplit.toQueuedOnce.earlier hgrown (h.unnamed id hsplit.unqueued), hsplit.row⟩
  · intro id hqueued kind
    rw [h'.queued id (hgrown.linkQueued hqueued), h.queued id hqueued]
  · intro id hunqueued kind
    rw [h'.unnamed id hunqueued,
      h.unnamed id fun hmiddle => hunqueued (hgrown'.linkQueued hmiddle)]

lemma Submitted.nil (store : IntakeStore) : Submitted py parent [] [] store store where
  settled := List.Forall₂.nil
  named := by simp
  keys := (List.append_nil _).symm
  each := by simp
  queued := fun _ _ _ => rfl
  unnamed := fun _ _ _ => rfl
  grown := ⟨[], .refl store⟩

/-! ## One candidate -/

/-- The account of a candidate that adds no discovery. -/
lemma Submitted.of_found {candidate : CandidateSubmission} {result : CandidateResult}
    {times : List Instant} (hsettled : Answered py parent after candidate result)
    (hstatus : result.status ≠ .created)
    (hdiscoveries : after.discovered.discoveries = before.discovered.discoveries)
    (hjobs : after.jobs = before.jobs) (hgrown : Grown times before after) :
    Submitted py parent [candidate] [result] before after where
  settled := List.Forall₂.cons hsettled List.Forall₂.nil
  named := by
    intro other hother hcreated
    obtain rfl := List.mem_singleton.mp hother
    exact absurd hcreated hstatus
  keys := by
    rw [hdiscoveries]
    simp [CandidateResult.newId, hstatus]
  each := by simp [CandidateResult.newId, hstatus]
  queued := fun id _ kind => jobsNaming_congr hjobs kind id
  unnamed := fun id _ kind => jobsNaming_congr hjobs kind id
  grown := ⟨times, hgrown⟩

theorem submitOne_ok {candidate : CandidateSubmission} {answers : CandidateAnswers}
    {result : CandidateResult}
    (h : submitOne py startedAt parent candidate answers before = .ok (result, after)) :
    Submitted py parent [candidate] [result] before after := by
  unfold submitOne at h
  split at h
  · next e he =>
    split at h
    · cases h
      refine .of_found ⟨rfl, ?_⟩ (by simp) rfl rfl (.refl before)
      rw [he]
      exact ⟨rfl, rfl⟩
    · cases h
  · next prepared hprepared =>
    obtain ⟨⟨pageId, seen⟩, hpage, h⟩ := exceptBind_ok h
    have hseen := seePage_ok hpage
    dsimp only at h
    unfold submitContent at h
    split at h
    · next existing hfound =>
      cases h
      refine .of_found ⟨rfl, ?_⟩ (by simp) hseen.discoveries hseen.jobs hseen.grown
      rw [hprepared]
      exact ⟨by simp, pageId, existing, hseen.found, hfound, rfl⟩
    · next hnew =>
      obtain ⟨added, hadded, h⟩ := exceptBind_ok h
      cases h
      have hrow := addDiscovery_ok hadded
      have hnewId : ([⟨candidate.title, some answers.discoveryId, .created, none⟩] :
          List CandidateResult).filterMap CandidateResult.newId = [answers.discoveryId] := rfl
      refine ⟨List.Forall₂.cons ⟨rfl, ?_⟩ List.Forall₂.nil, ?_, ?_, ?_, ?_, ?_,
        _, hseen.grown.trans hrow.grown⟩
      · rw [hprepared]
        refine ⟨by simp, pageId, answers.discoveryId, hrow.grown.foundPage _ _ _ hseen.found, ?_, rfl⟩
        rw [findContent, hrow.discoveries, Table.findKey_insert_of_none hrow.free hnew]
        simp [splitDiscovery]
      · intro other hother _
        obtain rfl := List.mem_singleton.mp hother
        rfl
      · rw [hnewId, hrow.keys, hseen.discoveries]
      · intro id hid
        rw [hnewId] at hid
        obtain rfl := List.mem_singleton.mp hid
        exact ⟨hrow.queuedOnce hseen, _, hrow.row, rfl, rfl, rfl⟩
      · intro id hqueued kind
        rw [hrow.naming_of_queued ((linkQueued_congr hseen.jobs).mpr hqueued),
          jobsNaming_congr hseen.jobs]
      · intro id hunqueued kind
        rw [hrow.naming_of_unqueued hunqueued, jobsNaming_congr hseen.jobs]

/-- A candidate with a settled result finds its discovery, and its page is seen again. -/
lemma submitOne_of_settled {candidate : CandidateSubmission} {answers : CandidateAnswers}
    {result : CandidateResult} (laws : py.UrlLaws)
    (h : Answered py parent store candidate result) :
    ∃ result' after, submitOne py startedAt parent candidate answers store = .ok (result', after) ∧
      result'.discoveryId = result.discoveryId ∧ result'.status ≠ .created ∧
      (result'.status = .rejected ↔ result.status = .rejected) ∧
      after.discovered.discoveries = store.discovered.discoveries ∧ after.jobs = store.jobs ∧
      ∃ times, Grown times store after := by
  have hanswer := h.2
  unfold submitOne
  cases hprepared : prepareCandidate py.toPy (candidateUrl parent candidate) candidate.title
      candidate.excerpt with
  | error e =>
    rw [hprepared] at hanswer
    obtain ⟨hstatus, hid⟩ := hanswer
    dsimp only
    rw [if_pos (prepareCandidate_error laws hprepared)]
    exact ⟨_, store, rfl, hid.symm, by simp, iff_of_true rfl hstatus, rfl, rfl, [], .refl store⟩
  | ok prepared =>
    rw [hprepared] at hanswer
    obtain ⟨hstatus, pageId, id, hpage, hcontent, hid⟩ := hanswer
    have hfound : (store.touchPage pageId answers.now).findContent pageId prepared.contentHash =
        some id := hcontent
    refine ⟨⟨candidate.title, some id, .duplicate, none⟩, store.touchPage pageId answers.now, ?_,
      hid.symm, by simp, iff_of_false (by simp) hstatus, rfl, rfl, _, touchPage_grown _ _ _⟩
    dsimp only
    rw [seePage_of_found hpage]
    show submitContent py startedAt parent.discoveryId candidate prepared answers pageId
      (store.touchPage pageId answers.now) = _
    rw [submitContent, hfound]

/-! ## The list -/

theorem submitEach_ok {batch : List (CandidateSubmission × CandidateAnswers)}
    (h : submitEach py startedAt parent batch before = .ok (results, after)) :
    Submitted py parent (batch.map Prod.fst) results before after := by
  induction batch generalizing before results with
  | nil =>
    cases h
    exact .nil after
  | cons e batch ih =>
    obtain ⟨candidate, answers⟩ := e
    rw [submitEach] at h
    obtain ⟨⟨result, middle⟩, hone, h⟩ := exceptBind_ok h
    obtain ⟨⟨rest, last⟩, hrest, h⟩ := exceptBind_ok h
    cases h
    exact (submitOne_ok hone).trans (ih hrest)

/-- The results of the two submissions are about the same discoveries. -/
def SameDiscovery (result result' : CandidateResult) : Prop :=
  result.status ≠ .rejected →
    result'.status ≠ .rejected ∧ result'.discoveryId = result.discoveryId

theorem submitEach_of_settled (laws : py.UrlLaws)
    {batch : List (CandidateSubmission × CandidateAnswers)}
    (h : List.Forall₂ (Answered py parent store) (batch.map Prod.fst) results) :
    ∃ results' after, submitEach py startedAt parent batch store = .ok (results', after) ∧
      List.Forall₂ SameDiscovery results results' ∧
      (∀ result' ∈ results', result'.status ≠ .created) ∧
      after.discovered.discoveries = store.discovered.discoveries ∧ after.jobs = store.jobs := by
  induction batch generalizing store results with
  | nil =>
    cases h
    exact ⟨[], store, rfl, List.Forall₂.nil, by simp, rfl, rfl⟩
  | cons e batch ih =>
    obtain ⟨candidate, answers⟩ := e
    cases h with
    | cons hhead htail =>
      obtain ⟨result', middle, hone, hid, hcreated, hrejected, hdiscoveries, hjobs, times,
        hgrown⟩ := @submitOne_of_settled py parent startedAt store candidate answers _ laws hhead
      obtain ⟨rest, after, hrest, hsame, hnone, hdiscoveries', hjobs'⟩ :=
        ih (htail.imp fun _ _ => Answered.later hgrown)
      refine ⟨result' :: rest, after, ?_, List.Forall₂.cons ?_ hsame, ?_,
        hdiscoveries'.trans hdiscoveries, hjobs'.trans hjobs⟩
      · rw [submitEach, hone]
        show (submitEach py startedAt parent batch middle >>= fun r =>
          .ok (result' :: r.1, r.2)) = _
        rw [hrest]
        rfl
      · exact fun hstatus => ⟨fun hstatus' => hstatus (hrejected.mp hstatus'), hid⟩
      · intro other hother
        rcases List.mem_cons.mp hother with rfl | hother
        · exact hcreated
        · exact hnone other hother

lemma submitEach_onlyRefused (laws : py.UrlLaws)
    (batch : List (CandidateSubmission × CandidateAnswers)) (store : IntakeStore) :
    OnlyRefused (submitEach py startedAt parent batch store) := by
  induction batch generalizing store with
  | nil => exact onlyRefused_ok _
  | cons e batch ih =>
    obtain ⟨candidate, answers⟩ := e
    have hcontent : ∀ prepared pageId seen, OnlyRefused
        (submitContent py startedAt parent.discoveryId candidate prepared answers pageId seen) := by
      intro prepared pageId seen
      unfold submitContent
      split
      · exact onlyRefused_ok _
      · exact (addDiscovery_onlyRefused _ _ _ _ _).bind fun _ => onlyRefused_ok _
    rw [submitEach]
    refine OnlyRefused.bind ?_ fun r => (ih r.2).bind fun _ => onlyRefused_ok _
    unfold submitOne
    split
    · next e he =>
      rw [if_pos (prepareCandidate_error laws he)]
      exact onlyRefused_ok _
    · exact (seePage_onlyRefused _ _ _ _).bind fun found => hcontent _ found.1 found.2

/-! ## The submission -/

lemma loadDiscoveryContext_eq_some {parentId : DiscoveryId} {context : DiscoveryContext} :
    loadDiscoveryContext store parentId = some context ↔
      context.discoveryId = parentId ∧ store.discovery parentId = some context.discovery ∧
        store.page context.discovery.sourcePageId = some context.page ∧
        context.sourceId = context.page.sourceId ∧
        store.discovered.db.sources.row context.sourceId = some context.source := by
  simp only [loadDiscoveryContext, Option.bind_eq_bind, Option.bind_eq_some_iff]
  constructor
  · rintro ⟨d, hd, page, hpage, source, hsource, h⟩
    cases h
    exact ⟨rfl, hd, hpage, rfl, hsource⟩
  · rintro ⟨rfl, hd, hpage, hsourceId, hsource⟩
    obtain ⟨id, discovery, page, sourceId, source⟩ := context
    dsimp only at hsourceId hd hpage hsource
    subst hsourceId
    exact ⟨_, hd, _, hpage, _, hsource, rfl⟩

/-- A later session loads the parent as it was, but for the time at which its page was seen. -/
lemma IntakeStore.Grown.context {times : List Instant} {parentId : DiscoveryId}
    {context : DiscoveryContext} (h : Grown times before after)
    (hcontext : loadDiscoveryContext before parentId = some context) :
    ∃ seen, loadDiscoveryContext after parentId =
      some { context with page := { context.page with lastSeenAt := seen } } := by
  obtain ⟨hid, hd, hpage, hsourceId, hsource⟩ := loadDiscoveryContext_eq_some.mp hcontext
  obtain ⟨seen, hafter, -⟩ := h.pages _ _ hpage
  refine ⟨seen, loadDiscoveryContext_eq_some.mpr ⟨hid, h.discoveries _ _ hd, hafter, hsourceId, ?_⟩⟩
  rw [h.sources]
  exact hsource

/-- Each result is counted by one of the three counters. -/
lemma countStatus_total (results : List CandidateResult) :
    countStatus .created results + countStatus .duplicate results +
      countStatus .rejected results = results.length := by
  induction results with
  | nil => rfl
  | cons result results ih =>
    simp only [countStatus, List.countP_cons, List.length_cons] at ih ⊢
    cases hstatus : result.status <;> simp <;> omega

/-- As many results are counted as created as discoveries are named by them. -/
lemma countStatus_created (hnamed : ∀ result ∈ results, result.status = .created →
    result.discoveryId.isSome) :
    countStatus .created results = (results.filterMap CandidateResult.newId).length := by
  induction results with
  | nil => rfl
  | cons result results ih =>
    have hrest := ih fun other hother => hnamed other (List.mem_cons_of_mem _ hother)
    rw [countStatus] at hrest
    rw [countStatus, List.countP_cons, hrest]
    by_cases hcreated : result.status = .created
    · obtain ⟨id, hid⟩ :=
        Option.isSome_iff_exists.mp (hnamed result List.mem_cons_self hcreated)
      rw [List.filterMap_cons_some (b := id) (by rw [CandidateResult.newId, if_pos hcreated, hid]),
        List.length_cons]
      simp [hcreated]
    · rw [List.filterMap_cons_none (by rw [CandidateResult.newId, if_neg hcreated])]
      simp [hcreated]

/-- The answer to a submission, and what it adds to the database. -/
structure SubmissionConserved (py : IntakePy) (parent : DiscoveryContext)
    (candidates : List CandidateSubmission) (response : CandidateSubmissionResponse)
    (before after : IntakeStore) : Prop where
  total : response.created + response.duplicates + response.rejected = candidates.length
  inOrder : List.Forall₂ (Answered py parent after) candidates response.results
  created : ∃ ids : List DiscoveryId, ids.length = response.created ∧
    ids = response.results.filterMap CandidateResult.newId ∧
    after.discovered.discoveries.keys = before.discovered.discoveries.keys ++ ids ∧
    ∀ id ∈ ids, SplitOff parent.discoveryId before after id
  kept : Kept before after
  discoveries : ∀ id d, before.discovery id = some d → after.discovery id = some d

/-- The same list again: nothing is created, and the results name the same discoveries. -/
structure Resubmitted (response response' : CandidateSubmissionResponse)
    (after after' : IntakeStore) : Prop where
  created : response'.created = 0
  same : List.Forall₂ SameDiscovery response.results response'.results
  discoveries : after'.discovered.discoveries = after.discovered.discoveries
  jobs : after'.jobs = after.jobs

/-- Submissions to an active source are conservative and idempotent. -/
theorem submission_idempotent (laws : py.UrlLaws) (startedAt : Instant) (parentId : DiscoveryId)
    (batch : List (CandidateSubmission × CandidateAnswers)) (store : IntakeStore)
    (parent : DiscoveryContext) (hparent : loadDiscoveryContext store parentId = some parent)
    (hactive : parent.source.active = true)
    (hdb : ∀ e, submitCandidates py startedAt parentId batch store = .error e →
      e.isDatabase = false) :
    ∃ response after,
      submitCandidates py startedAt parentId batch store = .ok (some response, after) ∧
      SubmissionConserved py parent (batch.map Prod.fst) response store after ∧
      ∀ startedAt' batch', batch'.map Prod.fst = batch.map Prod.fst → ∃ response' after',
        submitCandidates py startedAt' parentId batch' after = .ok (some response', after') ∧
        Resubmitted response response' after after' := by
  have heq : submitCandidates py startedAt parentId batch store =
      (submitEach py startedAt parent batch store >>= fun r => .ok (some {
        parentDiscoveryId := parentId
        created := countStatus .created r.1
        duplicates := countStatus .duplicate r.1
        rejected := countStatus .rejected r.1
        results := r.1 }, r.2)) := by
    rw [submitCandidates, hparent]
    simp only [hactive, if_true]
    rfl
  have honly : OnlyRefused (submitCandidates py startedAt parentId batch store) := by
    rw [heq]
    exact (submitEach_onlyRefused laws batch store).bind fun _ => onlyRefused_ok _
  obtain ⟨⟨answer, stored⟩, hanswer⟩ := honly.ok hdb
  have hsubmit := heq.symm.trans hanswer
  obtain ⟨⟨results, after⟩, heach, hlast⟩ := exceptBind_ok hsubmit
  cases hlast
  have haccount := submitEach_ok heach
  obtain ⟨times, hgrown⟩ := haccount.grown
  have hlength : results.length = (batch.map Prod.fst).length := haccount.settled.length_eq.symm
  refine ⟨_, after, hanswer, ⟨?_, haccount.settled, ⟨_, ?_, rfl, haccount.keys, haccount.each⟩,
    hgrown.toKept, hgrown.discoveries⟩, ?_⟩
  · rw [← hlength]
    exact countStatus_total results
  · exact (countStatus_created haccount.named).symm
  · intro startedAt' batch' hbatch
    obtain ⟨seen, hcontext⟩ := hgrown.context hparent
    have hsettled := haccount.settled
    rw [← hbatch] at hsettled
    obtain ⟨results', after', heach', hsame, hnone, hdiscoveries, hjobs⟩ :=
      @submitEach_of_settled py { parent with page := { parent.page with lastSeenAt := seen } }
        startedAt' after _ laws batch' hsettled
    have hcreated : countStatus .created results' = 0 := by
      rw [countStatus, List.countP_eq_zero]
      intro result hresult
      simpa using hnone result hresult
    refine ⟨⟨parentId, countStatus .created results', countStatus .duplicate results',
      countStatus .rejected results', results'⟩, after', ?_, hcreated, hsame, hdiscoveries, hjobs⟩
    rw [submitCandidates, hcontext]
    simp only [hactive, if_true]
    rw [heach']
    rfl

open Sample in
/-- A list with a new candidate and the same one again, split from an imported page. -/
theorem pageList_idempotent :
    ∃ response after,
      submitCandidates intakePy (start + 2 * day) 1 candidateBatch importedPage =
        .ok (some response, after) ∧
      SubmissionConserved intakePy importedContext (candidateBatch.map Prod.fst) response
        importedPage after ∧
      ∀ startedAt' batch', batch'.map Prod.fst = candidateBatch.map Prod.fst →
        ∃ response' after',
          submitCandidates intakePy startedAt' 1 batch' after = .ok (some response', after') ∧
          Resubmitted response response' after after' := by
  refine submission_idempotent intakePy_urlLaws (start + 2 * day) 1 candidateBatch importedPage
    importedContext importedPage_context rfl ?_
  intro e h
  have hended := candidateBatch_ended
  rw [h] at hended
  cases hended

end ScholarshipFinder
