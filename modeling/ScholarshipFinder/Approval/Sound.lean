import ScholarshipFinder.Approval.Attempts
import ScholarshipFinder.Approval.PublishedDeadline
import ScholarshipFinder.Status.ReadPath

/-!
# What an approval rests on, and what is left without one

An attempt that approves has all its evidence, and the cycle that it publishes reads as open until
its deadline, which is still to come when the evidence is checked.  Any other end of an attempt, and
any transaction of it before the last one, publishes nothing (`approval_sound`).
-/

namespace ScholarshipFinder

open Lib

/-! ## The law -/

/-- The evidence for a discovery, at the time of the decision. -/
structure Evidence (py : ApprovalPy) (settings : ApprovalSettings) (answers : AttemptAnswers)
    (store : ReviewStore) (discoveryId : DiscoveryId) (discovery : Discovery) : Prop where
  /-- Enough independent sources, none of which the others contradict. -/
  corroborated : ∃ corroboration, gatherCorroboration py.toPyText store.discovered discoveryId
      discovery = .ok corroboration ∧
    settings.autoApproveMinCorroborationSources ≤ corroboration.independentSourceCount ∧
    corroboration.amountCorroborated ≠ some false ∧ corroboration.deadlineCorroborated ≠ some false
  /-- The page does not contradict the discovery. -/
  agreement : settings.autoApproveRequireRealPageVerification = true →
    let agreement := compareFacts py.toPyText discovery.extractedFacts
      (extractCandidateFacts py.toPyText none (some answers.pageText))
    agreement.amountMatches ≠ some false ∧ agreement.deadlineMatches ≠ some false
  /-- One country is named, and it is a supported one. -/
  destination : ∃ code, mentionedCountries py.toPyText
    (joinParts [discovery.rawTitle, discovery.rawExcerpt, some answers.pageText])
    answers.countries.names = ([code], [])
  /-- The host of the page is in the domains of one provider. -/
  provider : ∃ url parts, resolveUrl discovery store = .ok url ∧ py.urlsplit url = .ok parts ∧
    ∃! providerId, (store.providers.row providerId).any fun p =>
      matchesDomain py (parts.hostname.getD "") p.approvedDomains

/-- The stored cycle reads as open until its deadline, which is later than `now`. -/
def ScholarshipCycle.OpenAfter (py : Py) (row : ScholarshipCycle) (now : Instant) : Prop :=
  ∃ facts cutoff, deriveFacts py row.facts = .ok facts ∧
    facts.deadline.cutoff py = .ok (some cutoff) ∧ now < cutoff ∧
    ∀ t < cutoff, evaluatePublicStatus py row.publicStatus facts.deadline row.statusValidUntil t =
      .ok .openVerified

/-- The outcome names a published cycle of a published scholarship. -/
def Publishes (py : Py) (outcome : AutoApprovalOutcome) (now : Instant) (after : ReviewStore) :
    Prop :=
  ∃ scholarshipId cycleId row, outcome.scholarshipId = some scholarshipId ∧
    outcome.cycleId = some cycleId ∧ after.discovered.db.cycles.row cycleId = some row ∧
    row.scholarshipId = scholarshipId ∧
    after.discovered.db.scholarships.row scholarshipId = some ⟨.published⟩ ∧ row.OpenAfter py now

/-- No cycle was added or changed, and no scholarship was published. -/
structure NothingPublished (before after : ReviewStore) : Prop where
  cycles : after.discovered.db.cycles = before.discovered.db.cycles
  scholarships : ∀ id s, after.discovered.db.scholarships.row id = some s →
    s.lifecycleState = .published → before.discovered.db.scholarships.row id = some s
  autoApproved : after.autoApproved = before.autoApproved

/-! ## The deadline -/

lemma daysInMonth_le (year month : ℕ) : daysInMonth year month ≤ 31 := by
  unfold daysInMonth
  split
  · split <;> omega
  · split <;> omega

lemma daysBeforeMonth_le (month : ℕ) : daysBeforeMonth.getD (month - 1) 0 ≤ 334 := by
  by_cases h : month - 1 < 12
  · interval_cases month - 1 <;> decide
  · rw [List.getD_eq_default _ _ (by simpa [daysBeforeMonth] using h)]
    decide

/-- The last date is 31 December 9999. -/
lemma dateOf_lt {year month dayOfMonth date : ℕ}
    (h : dateOf year month dayOfMonth = some date) : date < 3652059 := by
  unfold dateOf at h
  split at h
  swap
  · cases h
  next hvalid =>
  obtain ⟨hyear, hyear', -, -, hday, hday'⟩ := hvalid
  have hmonth := daysBeforeMonth_le month
  have hdays := hday'.trans (daysInMonth_le year month)
  obtain rfl := Option.some.inj h
  rcases Nat.lt_or_ge year 9999 with hlt | hge
  · have hbefore : (daysBeforeYear year).toNat ≤ 3651329 := by
      simp only [daysBeforeYear]
      omega
    split <;> omega
  · obtain rfl : year = 9999 := le_antisymm hyear' hge
    have hbefore : (daysBeforeYear (9999 : ℕ)).toNat = 3651694 := by decide
    have hleap : isLeap 9999 = false := by decide
    simp only [hleap, Bool.false_eq_true, and_false, if_false]
    omega

lemma parseDeadline_lt {py : PyText} {raw : String} {date : Date}
    (h : parseDeadline py raw = some date) : date < 3652059 := by
  obtain ⟨format, -, h⟩ := List.exists_of_findSome?_eq_some h
  unfold strptime at h
  obtain ⟨⟨groups, last⟩, -, h⟩ := Option.bind_eq_some_iff.mp h
  dsimp only at h
  split at h
  · cases h
  obtain ⟨parts, -, h⟩ := Option.bind_eq_some_iff.mp h
  exact dateOf_lt h

lemma Deadline.cutoff_some (py : Py) (deadlineAt : DateTime) (precision : DeadlinePrecision)
    (timezone : Option String) : Deadline.cutoff py ⟨some deadlineAt, precision, timezone⟩ =
      (deadlineCutoff py deadlineAt precision timezone).map some := rfl

/-- A date without a time zone runs out hours after its midnight. -/
lemma midnight_cutoff (py : Py) {date : ℕ} (h : date < 3652059) :
    ∃ cutoff, deadlineCutoff py (midnightUtc date) .date none = .ok cutoff ∧
      (midnightUtc date).wall < cutoff := by
  have hend : (midnightUtc date).endOfDay = date * day + (day - second) := by
    show (date : ℤ) * day / day * day + (day - second) = _
    rw [Int.mul_ediv_cancel _ (by decide)]
  have hwall : (midnightUtc date).wall = date * day := rfl
  have hcutoff : deadlineCutoff py (midnightUtc date) .date none =
      failClosedTz.toUtc (midnightUtc date).endOfDay := rfl
  refine ⟨(midnightUtc date).endOfDay - failClosedTz (midnightUtc date).endOfDay, ?_, ?_⟩
  · rw [hcutoff, Zone.toUtc, if_pos]
    rw [hend]
    simp only [failClosedTz, Zone.fixed, maxMicros, day, hour, minute, second]
    omega
  · rw [hend, hwall]
    simp only [failClosedTz, Zone.fixed, day, hour, minute, second]
    omega

/-- Built facts are read with the date that they were built of, without a time zone. -/
lemma deriveFacts_built_date {py : Py} {countries : CountryVocabulary} {x : CycleInputs}
    {facts : Json} {d : DateTime} (h : buildCycleFacts py countries x = .ok facts)
    (hx : x.deadlineAt = some d) (hprecision : x.deadlinePrecision = .str DeadlinePrecision.date.value)
    (hzone : x.deadlineTimezone = .null) (hback : py.ReadsBack d) :
    ∃ f, deriveFacts py facts = .ok f ∧ f.deadline = ⟨some d, .date, none⟩ := by
  obtain ⟨dict, hbuilt, rfl⟩ := buildCycleFacts_eq_ok_iff.mp h
  have hdeadline : dict.deadline = some ⟨py.isoformat d, .str DeadlinePrecision.date.value, none⟩ := by
    rw [hbuilt.deadline, hx, hprecision, hzone]
    rfl
  refine ⟨dict.read py (some d), ?_, ?_⟩
  · have hread : safeDeadlineAt py (dict.value "deadline_at") = .ok (some d) := by
      simp [FactsDict.value, hdeadline, safeDeadlineAt, hback.text, hback.read]
    rw [deriveFacts_toJson, hread]
    rfl
  · simp only [DerivedFacts.deadline, FactsDict.read, FactsDict.value, hdeadline]
    rfl

/-! ## The gates -/

section

variable {py : ApprovalPy} {settings : ApprovalSettings} {answers : AttemptAnswers}
  {store before after : ReviewStore} {taskId : TaskId} {attempt : Attempt} {page : Verification}
  {admission : Admission}

/-- The address of the attempt is that of the page of its discovery. -/
lemma openingGates_url
    (h : openingGates py settings answers taskId store = .ok (.passed attempt)) :
    resolveUrl attempt.discovery store = .ok attempt.url := by
  rw [openingGates] at h
  split at h
  · cases h
  split at h
  · cases h
  split at h
  · cases h
  split at h
  · cases h
  split at h
  · cases h
  split at h
  · cases h
  split at h
  · cases h
  obtain ⟨minAge, -, h⟩ := exceptBind_ok h
  split at h
  · cases h
  split at h
  · cases h
  split at h
  · cases h
  obtain ⟨corroboration, -, h⟩ := exceptBind_ok h
  split at h
  · cases h
  obtain ⟨url, hurl, h⟩ := exceptBind_ok h
  obtain ⟨_, -, h⟩ := andThen_passed h
  cases h
  exact hurl

/-- The derived deadline is still to come, and one provider matches the address. -/
lemma closingGates_checked
    (h : closingGates py settings answers attempt page store = .ok (.passed admission)) :
    (∀ d ∈ admission.derived.deadlineAt, answers.checkedAt < d.wall - d.offset.getD 0) ∧
      ∃ providerId, resolveProviderFromVerifiedUrl py attempt.url store = .ok (some providerId) := by
  simp only [closingGates] at h
  split at h
  · cases h
  split at h
  · cases h
  split at h
  · cases h
  split at h
  · cases h
  next hsanity =>
  obtain ⟨provider, hprovider, h⟩ := exceptBind_ok h
  split at h
  · cases h
  next providerId =>
  split at h
  · cases h
  obtain ⟨homeUrl, -, h⟩ := exceptBind_ok h
  cases h
  refine ⟨fun d hd => ?_, providerId, hprovider⟩
  simp only [SanityCheckResult.passed, runSanityChecks, Bool.not_eq_true, Bool.not_eq_false',
    Bool.and_eq_true, Option.all_eq_true, decide_eq_true_eq] at hsanity
  exact hsanity.2 d hd

lemma resolveProvider_unique {url : String} {providerId : ProviderId}
    (h : resolveProviderFromVerifiedUrl py url store = .ok (some providerId)) :
    ∃ parts, py.urlsplit url = .ok parts ∧ ∃! id, (store.providers.row id).any fun p =>
      matchesDomain py (parts.hostname.getD "") p.approvedDomains := by
  obtain ⟨parts, hparts, h⟩ := exceptBind_ok h
  refine ⟨parts, hparts, ?_⟩
  dsimp only at h
  split at h
  · cases h
  split at h
  · next found hfound =>
    have hmem : ∀ id, (store.providers.row id).any (fun p =>
        matchesDomain py (parts.hostname.getD "") p.approvedDomains) = true ↔ id = found := by
      intro id
      have hsingle : id = found ↔ id ∈ [found] := List.mem_singleton.symm
      rw [hsingle, ← hfound, List.mem_filter, store.providers.mem_keys]
      refine ⟨fun hany => ⟨?_, hany⟩, And.right⟩
      rw [Option.any_eq_true] at hany
      obtain ⟨p, hp, -⟩ := hany
      rw [hp]
      rfl
    exact ⟨found, (hmem found).mpr rfl, fun id hid => (hmem id).mp hid⟩
  · cases h

/-- Facts are derived from texts that name one country. -/
lemma derived_destination {py : PyText} {rawTitle rawExcerpt : Option String} {pageText : String}
    {facts : Option ExtractedFacts} {names : Dict} {derived : DerivedCycleFacts}
    (h : deriveCycleFactsFromExtraction py rawTitle rawExcerpt pageText facts names =
      some derived) :
    ∃ code, mentionedCountries py (joinParts [rawTitle, rawExcerpt, some pageText]) names =
      ([code], []) := by
  simp only [deriveCycleFactsFromExtraction] at h
  split at h
  · next code hcountries => exact ⟨code, hcountries⟩
  · cases h

/-- An attempt that has passed all gates has its evidence. -/
theorem Admits.evidence (h : Admits py settings answers taskId store attempt page admission) :
    Evidence py settings answers store attempt.discoveryId attempt.discovery := by
  obtain ⟨rfl, hopened⟩ := openingGates_passed h.opening
  have hadmitted := closingGates_passed h.closing
  obtain ⟨hfetched, hagreement⟩ := verifyPage_passed h.reading
  have htext : answers.pageText = page.pageText := by
    rw [AttemptAnswers.pageText, hfetched]
    rfl
  obtain ⟨-, providerId, hprovider⟩ := closingGates_checked h.closing
  obtain ⟨parts, hparts, hunique⟩ := resolveProvider_unique hprovider
  refine ⟨⟨attempt.corroboration, hopened.gathered, hopened.sources, hopened.amount,
    hopened.deadline⟩, fun hrequire => ?_, ?_, ?_⟩
  · have hagrees := hadmitted.agreement hrequire
    rw [hagreement] at hagrees
    rw [htext]
    exact hagrees
  · rw [htext]
    exact derived_destination hadmitted.derived
  · exact ⟨attempt.url, parts, openingGates_url h.opening, hparts, hunique⟩

/-! ## The publication -/

/-- What the last transaction of an attempt publishes reads as open. -/
theorem Admits.publishes {decided : ReviewStore} {scholarshipId : ScholarshipId}
    (h : Admits py settings answers taskId before attempt page admission)
    (hdecide : decideAttempt py answers attempt admission
      (before.recordVerification attempt.discoveryId) = .ok (some scholarshipId, decided))
    (hpublish : publishApproved py answers attempt admission.derived scholarshipId decided =
      .ok after)
    (hback : ∀ date, firstDeadline py.toPyText attempt.discovery.extractedFacts = some date →
      py.ReadsBack (midnightUtc date)) :
    Publishes py.toPy ⟨true, "auto_approved", some scholarshipId, some answers.cycleId⟩
      answers.checkedAt after := by
  have hadmitted := closingGates_passed h.closing
  have hderived := derived_deadlineAt hadmitted.derived
  cases hfirst : firstDeadline py.toPyText attempt.discovery.extractedFacts with
  | none =>
    rw [hfirst] at hderived
    exact absurd hderived hadmitted.deadline
  | some date =>
    rw [hfirst, Option.map_some] at hderived
    -- the deadline is later than the time at which it was checked
    have hlater : answers.checkedAt < (midnightUtc date).wall := by
      have hchecked := (closingGates_checked h.closing).1 (midnightUtc date) hderived
      rwa [show (midnightUtc date).offset.getD 0 = 0 from rfl, sub_zero] at hchecked
    obtain ⟨mention, -, hmention⟩ := firstDeadline_mentioned hfirst
    obtain ⟨cutoff, hcutoff, hmidnight⟩ := midnight_cutoff py.toPy (parseDeadline_lt hmention)
    rw [h.decideAttempt_eq] at hdecide
    generalize hcreated : some scholarshipId = created at hdecide
    cases decideRequest_decides hdecide with
    | rejects => cases hcreated
    | approves hresolves hid happroves =>
      obtain rfl := Option.some.inj hcreated
      unfold publishApproved at hpublish
      split at hpublish
      · cases hpublish
      next facts hfacts =>
      split at hpublish
      · cases hpublish
      next db hcycle =>
      cases hpublish
      obtain ⟨-, -, rfl⟩ := publishCycle_ok hcycle
      obtain ⟨f, hread, hf⟩ := deriveFacts_built_date hfacts hderived rfl rfl (hback date hfirst)
      have hfcutoff : f.deadline.cutoff py.toPy = .ok (some cutoff) := by
        rw [hf, Deadline.cutoff_some, hcutoff]
        rfl
      refine ⟨_, answers.cycleId, _, rfl, rfl, Table.row_insert_self _ _ _, rfl, ?_, f, cutoff,
        hread, hfcutoff, hlater.trans hmidnight, fun t ht => ?_⟩
      · show (decided.discovered.db.scholarships.modify answers.scholarshipId _).row
          answers.scholarshipId = _
        rw [Table.row_modify_self, happroves.db, Table.row_insert_self]
        rfl
      · refine evaluatePublicStatus_eq_openVerified_iff.mpr
          ⟨rfl, some cutoff, hfcutoff, fun c hc => ?_, fun u hu => ?_⟩
        · obtain rfl := Option.mem_some.mp hc
          exact ht
        · cases hu

/-! ## The other ends -/

lemma NothingPublished.refl (store : ReviewStore) : NothingPublished store store :=
  ⟨rfl, fun _ _ hrow _ => hrow, rfl⟩

lemma NothingPublished.trans {middle : ReviewStore} (h : NothingPublished before middle)
    (h' : NothingPublished middle after) : NothingPublished before after where
  cycles := h'.cycles.trans h.cycles
  scholarships := fun id s hrow hstate =>
    h.scholarships id s (h'.scholarships id s hrow hstate) hstate
  autoApproved := h'.autoApproved.trans h.autoApproved

/-- The new scholarship of a decision is not published. -/
lemma decideReview_unpublished {py : Py} {scholarshipId : ScholarshipId}
    {request : ReviewDecisionRequest} {task : Option DiscoveryTask}
    {view : DiscoveryId → Option Discovery} {created : Option ScholarshipId}
    (h : decideReview py scholarshipId taskId request task view before = .ok (created, after)) :
    NothingPublished before after := by
  obtain ⟨approved, hafter, happroved⟩ := decideReview_approval h
  rw [hafter]
  rcases happroved with rfl | ⟨discoveryId, copy, happroves⟩
  · exact ⟨rfl, fun _ _ hrow _ => hrow, rfl⟩
  have hcycles : approved.discovered.db.cycles = before.discovered.db.cycles := by
    rw [happroves.db]
  refine ⟨hcycles, fun id s hrow hstate => ?_, happroves.autoApproved⟩
  change approved.discovered.db.scholarships.row id = some s at hrow
  rw [happroves.db, Table.row_insert] at hrow
  split at hrow
  · obtain rfl := Option.some.inj hrow
    cases hstate
  · exact hrow

lemma Halted.unpublished {α : Type} {gate : Except PyErr (Gate α)}
    {result : Except PyErr AutoApprovalOutcome} (h : Halted answers before gate result after) :
    NothingPublished before after := by
  cases h with
  | stopped | raised => exact .refl before
  | deferred => exact ⟨rfl, fun _ _ hrow _ => hrow, rfl⟩

/-- An attempt that does not approve publishes nothing. -/
theorem Attempted.publishesNothing {result : Except PyErr AutoApprovalOutcome}
    (h : Attempted py settings answers taskId before result after)
    (hresult : ∀ outcome, result = .ok outcome → outcome.approved = false) :
    NothingPublished before after := by
  have hrecorded : ∀ discoveryId, NothingPublished before (before.recordVerification discoveryId) :=
    fun _ => ⟨rfl, fun _ _ hrow _ => hrow, rfl⟩
  cases h with
  | unopened h => exact h.unpublished
  | unverified _ h => exact h.unpublished
  | unadmitted _ h => exact (hrecorded _).trans h.unpublished
  | undecided => exact hrecorded _
  | unpublished _ hdecide => exact (hrecorded _).trans (decideReview_unpublished hdecide)
  | approved => cases hresult _ rfl

/-- No transaction but the last one publishes. -/
lemma attemptStep_unpublished {step : AttemptStep} (hstep : step ≠ .publish)
    (stage : AttemptStage) (store : ReviewStore) :
    NothingPublished store (attemptStep py settings answers step stage store).2 := by
  have hgate : ∀ {α : Type} (gate : Except PyErr (Gate α)) (next : α → AttemptStage × ReviewStore),
      (∀ a, NothingPublished store (next a).2) →
      NothingPublished store (stageAfter answers store gate next).2 := by
    intro α gate next hnext
    unfold stageAfter
    split
    · next a => exact hnext a
    · exact .refl store
    · exact ⟨rfl, fun _ _ hrow _ => hrow, rfl⟩
    · exact .refl store
  unfold attemptStep
  split
  · exact hgate _ _ fun attempt => .refl store
  · exact hgate _ _ fun page => ⟨rfl, fun _ _ hrow _ => hrow, rfl⟩
  · refine hgate _ _ fun admission => ?_
    unfold stageDecided
    split
    · next hdecide => exact decideReview_unpublished hdecide
    · next hdecide => exact decideReview_unpublished hdecide
    · exact .refl store
  · exact absurd rfl hstep
  · exact .refl store
  · exact .refl store

lemma committedAfter_unpublished {k : ℕ} (hk : k < 4) :
    NothingPublished store (committedAfter py settings answers taskId store k) := by
  have hsteps : ∀ (steps : List AttemptStep) (p : AttemptStage × ReviewStore),
      (∀ step ∈ steps, step ≠ .publish) → NothingPublished p.2
        (steps.foldl (fun p step => attemptStep py settings answers step p.1 p.2) p).2 := by
    intro steps
    induction steps with
    | nil => exact fun p _ => .refl p.2
    | cons step steps ih =>
      intro p hne
      exact (attemptStep_unpublished (hne step List.mem_cons_self) p.1 p.2).trans
        (ih _ fun step' hmem => hne step' (List.mem_cons_of_mem step hmem))
  refine hsteps (([.start taskId, .verify, .decide, .publish] : List AttemptStep).take k)
    (AttemptStage.idle, store) fun step hmem => ?_
  -- the publication is the last of the four
  interval_cases k <;> rintro rfl <;> simp at hmem

/-- The text that is stored of the deadline of the discovery can be read back. -/
def DeadlineReadsBack (py : ApprovalPy) (store : ReviewStore) (taskId : TaskId) : Prop :=
  ∀ task discoveryId discovery date, store.tasks.row taskId = some task →
    task.discoveryId = some discoveryId → store.discovery discoveryId = some discovery →
    firstDeadline py.toPyText discovery.extractedFacts = some date →
    py.ReadsBack (midnightUtc date)

/-- An attempt that approves has its evidence, and has published a cycle that reads as open until
its deadline, which is still to come.  An attempt that ends otherwise, or that any error interrupts
before its last commit, publishes nothing. -/
theorem approval_sound (py : ApprovalPy) (settings : ApprovalSettings) (answers : AttemptAnswers)
    (taskId : TaskId) (store : ReviewStore) (hback : DeadlineReadsBack py store taskId) :
    (∀ outcome after,
      attemptAutoApproval py settings answers taskId store = (.ok outcome, after) →
      outcome.approved = true →
      (∃ task discoveryId discovery, store.tasks.row taskId = some task ∧
        task.discoveryId = some discoveryId ∧ store.discovery discoveryId = some discovery ∧
        Evidence py settings answers store discoveryId discovery) ∧
      Publishes py.toPy outcome answers.checkedAt after) ∧
    (∀ result after, attemptAutoApproval py settings answers taskId store = (result, after) →
      (∀ outcome, result = .ok outcome → outcome.approved = false) →
      NothingPublished store after) ∧
    ∀ k < 4, NothingPublished store (committedAfter py settings answers taskId store k) := by
  refine ⟨fun outcome after h happroved => ?_, fun result after h hresult => ?_,
    fun k hk => committedAfter_unpublished hk⟩
  · obtain ⟨attempt, page, admission, scholarshipId, decided, hopening, hpage, hclosing, hdecide,
      hpublish, rfl⟩ := attemptAutoApproval_approved h happroved
    have hadmits : Admits py settings answers taskId store attempt page admission :=
      ⟨⟨hopening, hpage⟩, hclosing⟩
    obtain ⟨rfl, hopened⟩ := openingGates_passed hopening
    refine ⟨⟨attempt.task, attempt.discoveryId, attempt.discovery, hopened.task,
      hopened.discoveryId, hopened.discovery, hadmits.evidence⟩, ?_⟩
    exact hadmits.publishes hdecide hpublish fun date hdate =>
      hback _ _ _ date hopened.task hopened.discoveryId hopened.discovery hdate
  · have hends := attemptAutoApproval_attempted py settings answers taskId store
    rw [h] at hends
    exact hends.publishesNothing hresult

end

/-- The award of the example is approved. -/
theorem approval_sound_award :
    Evidence Sample.approvalPy {} Sample.approvalAnswers Sample.approvalStore 2 Sample.award ∧
      Publishes Sample.approvalPy.toPy Sample.awardOutcome Sample.approvalAnswers.checkedAt
        Sample.awardAttempt.2 := by
  have hback : DeadlineReadsBack Sample.approvalPy Sample.approvalStore 1 := by
    intro task discoveryId discovery date htask hid hdiscovery hdate
    obtain rfl : Sample.awardTask = task := Option.some.inj htask
    obtain rfl : 2 = discoveryId := Option.some.inj hid
    obtain rfl : Sample.award = discovery := Option.some.inj hdiscovery
    exact Sample.award_readsBack date hdate
  obtain ⟨⟨task, discoveryId, discovery, htask, hid, hdiscovery, hevidence⟩, hpublishes⟩ :=
    (approval_sound Sample.approvalPy {} Sample.approvalAnswers 1 Sample.approvalStore hback).1
      Sample.awardOutcome Sample.awardAttempt.2 Sample.awardAttempt_eq rfl
  obtain rfl : Sample.awardTask = task := Option.some.inj htask
  obtain rfl : 2 = discoveryId := Option.some.inj hid
  obtain rfl : Sample.award = discovery := Option.some.inj hdiscovery
  exact ⟨hevidence, hpublishes⟩

end ScholarshipFinder
