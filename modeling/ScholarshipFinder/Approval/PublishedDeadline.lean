import ScholarshipFinder.Facts.Sanitised
import ScholarshipFinder.Sample.Approvals

/-!
# The deadline that an approval publishes

The gates ask whether any mention of the discovery agrees with a sibling, and whether any agrees
with the page; the deadline that is published is the first mention that can be read.  It is a
corroborated date exactly if that first mention is.  A discovery whose mentions are all of one date
leaves no choice, and then the gates are enough, unless they have heard its own source only.
-/

namespace ScholarshipFinder

variable (py : PyText)

/-- The first mention of a deadline that can be read. -/
def firstDeadline (facts : Option ExtractedFacts) : Option Date :=
  (deadlineMentions facts).findSome? (parseDeadline py)

/-- One of the mentions is this date. -/
def Mentions (mentions : List String) (date : Date) : Prop :=
  ∃ mention ∈ mentions, parseDeadline py mention = some date

/-- A sibling from another source and the page both state the date. -/
structure DateCorroborated (store : DiscoveryStore) (discoveryId : DiscoveryId)
    (discovery : Discovery) (pageText : String) (date : Date) : Prop where
  sibling : ∃ sibling ∈ loadSiblings store discoveryId discovery,
    some sibling.sourceId ≠ store.sourceOfPage discovery.sourcePageId ∧
      Mentions py (deadlineMentions sibling.facts) date
  page : Mentions py (extractCandidateFacts py none (some pageText)).deadlineMentions date

/-- The calendar date of the deadline of a cycle. -/
def ScholarshipCycle.deadlineDate (py : Py) (row : ScholarshipCycle) : Option Date :=
  ((deriveFacts py row.facts).toOption.bind (·.deadlineAt)).map fun d => (d.wall / day).toNat

variable {py}

/-- The derived deadline is midnight of the first date. -/
lemma derived_deadlineAt {rawTitle rawExcerpt : Option String} {pageText : String}
    {facts : Option ExtractedFacts} {names : Dict} {derived : DerivedCycleFacts}
    (h : deriveCycleFactsFromExtraction py rawTitle rawExcerpt pageText facts names =
      some derived) : derived.deadlineAt = (firstDeadline py facts).map midnightUtc := by
  simp only [deriveCycleFactsFromExtraction] at h
  split at h
  · split at h
    · cases h
    split at h
    · cases h
    obtain rfl := Option.some.inj h
    rfl
  · cases h

/-- Built facts are read with the deadline that they were built of. -/
lemma deriveFacts_built {py : Py} {countries : CountryVocabulary} {x : CycleInputs} {facts : Json}
    {d : DateTime} (h : buildCycleFacts py countries x = .ok facts) (hx : x.deadlineAt = some d)
    (hback : py.ReadsBack d) : ∃ f, deriveFacts py facts = .ok f ∧ f.deadlineAt = some d := by
  obtain ⟨dict, hbuilt, rfl⟩ := buildCycleFacts_eq_ok_iff.mp h
  refine ⟨dict.read py (some d), ?_, rfl⟩
  have hread : safeDeadlineAt py (dict.value "deadline_at") = .ok (some d) := by
    simp [FactsDict.value, hbuilt.deadline, hx, safeDeadlineAt, hback.text, hback.read]
  rw [deriveFacts_toJson, hread]
  rfl

/-- Midnight of a date is on that date. -/
lemma midnightUtc_date (date : Date) : ((midnightUtc date).wall / day).toNat = date := by
  show ((date : ℤ) * day / day).toNat = date
  rw [Int.mul_ediv_cancel _ (by decide), Int.toNat_natCast]

variable {py : ApprovalPy} {settings : ApprovalSettings} {answers : AttemptAnswers}
  {store store' : ReviewStore} {taskId : TaskId} {task : DiscoveryTask}
  {discoveryId : DiscoveryId} {discovery : Discovery} {outcome : AutoApprovalOutcome}

/-- An attempt that approves publishes the first date of its discovery. -/
theorem publishes_firstDeadline
    (h : attemptAutoApproval py settings answers taskId store = (.ok outcome, store'))
    (happroved : outcome.approved = true) (htask : store.tasks.row taskId = some task)
    (hid : task.discoveryId = some discoveryId)
    (hdiscovery : store.discovery discoveryId = some discovery)
    (hback : ∀ date, firstDeadline py.toPyText discovery.extractedFacts = some date →
      py.ReadsBack (midnightUtc date)) :
    ∃ row date, outcome.cycleId.bind store'.discovered.db.cycles.row = some row ∧
      row.deadlineDate py.toPy = some date ∧
      firstDeadline py.toPyText discovery.extractedFacts = some date := by
  obtain ⟨attempt, page, admission, scholarshipId, decided, hopening, -, hclosing, -, hpublish,
    rfl⟩ := attemptAutoApproval_approved h happroved
  obtain ⟨rfl, hopened⟩ := openingGates_passed hopening
  obtain ⟨rfl, rfl⟩ := hopened.copies htask hid hdiscovery
  have hadmitted := closingGates_passed hclosing
  have hderived := derived_deadlineAt hadmitted.derived
  cases hfirst : firstDeadline py.toPyText attempt.discovery.extractedFacts with
  | none =>
    rw [hfirst] at hderived
    exact absurd hderived hadmitted.deadline
  | some date =>
    rw [hfirst] at hderived
    obtain ⟨facts, hfacts, hrow⟩ := publishApproved_ok hpublish
    obtain ⟨f, hread, hf⟩ := deriveFacts_built hfacts hderived (hback date hfirst)
    refine ⟨_, date, hrow, ?_, rfl⟩
    show ((deriveFacts py.toPy facts).toOption.bind (·.deadlineAt)).map _ = some date
    rw [hread]
    show f.deadlineAt.map _ = some date
    rw [hf]
    exact congrArg some (midnightUtc_date date)

/-- The text of the page, as the fetch has answered it. -/
def AttemptAnswers.pageText (answers : AttemptAnswers) : String :=
  ((answers.fetched.map Prod.fst).toOption).getD ""

/-- What is published is a corroborated date exactly if the first date of the discovery is one. -/
theorem publishedDeadline_iff
    (h : attemptAutoApproval py settings answers taskId store = (.ok outcome, store'))
    (happroved : outcome.approved = true) (htask : store.tasks.row taskId = some task)
    (hid : task.discoveryId = some discoveryId)
    (hdiscovery : store.discovery discoveryId = some discovery)
    (hback : ∀ date, firstDeadline py.toPyText discovery.extractedFacts = some date →
      py.ReadsBack (midnightUtc date)) :
    (∃ row date, outcome.cycleId.bind store'.discovered.db.cycles.row = some row ∧
      row.deadlineDate py.toPy = some date ∧
      DateCorroborated py.toPyText store.discovered discoveryId discovery answers.pageText date) ↔
    ∃ date, firstDeadline py.toPyText discovery.extractedFacts = some date ∧
      DateCorroborated py.toPyText store.discovered discoveryId discovery answers.pageText
        date := by
  obtain ⟨row, date, hrow, hdate, hfirst⟩ :=
    publishes_firstDeadline h happroved htask hid hdiscovery hback
  constructor
  · rintro ⟨row', date', hrow', hdate', hcorroborated⟩
    obtain rfl : row = row' := Option.some.inj (hrow.symm.trans hrow')
    obtain rfl : date = date' := Option.some.inj (hdate.symm.trans hdate')
    exact ⟨date, hfirst, hcorroborated⟩
  · rintro ⟨date', hfirst', hcorroborated⟩
    obtain rfl : date = date' := Option.some.inj (hfirst.symm.trans hfirst')
    exact ⟨row, date, hrow, hdate, hcorroborated⟩

namespace Sample

lemma award_firstDeadline :
    firstDeadline approvalPy.toPyText award.extractedFacts = some newYear := by
  decide +kernel

lemma award_readsBack (date : Date)
    (h : firstDeadline approvalPy.toPyText award.extractedFacts = some date) :
    approvalPy.ReadsBack (midnightUtc date) := by
  rw [award_firstDeadline] at h
  cases h
  exact readsBack_newYear

/-- The page gives the closing date only. -/
lemma awardPage_mentions :
    ¬ Mentions approvalPy.toPyText
      (extractCandidateFacts approvalPy.toPyText none (some awardPage)).deadlineMentions
      newYear := by
  have hmentions : (extractCandidateFacts approvalPy.toPyText none
      (some awardPage)).deadlineMentions = ["1 March 2030"] := by decide +kernel
  have hdate : parseDeadline approvalPy.toPyText "1 March 2030" ≠ some newYear := by
    decide +kernel
  rintro ⟨mention, hmem, hread⟩
  rw [hmentions, List.mem_singleton] at hmem
  rw [hmem] at hread
  exact hdate hread

theorem publishedDeadline_award :
    (∃ row date, awardOutcome.cycleId.bind awardAttempt.2.discovered.db.cycles.row = some row ∧
      row.deadlineDate approvalPy.toPy = some date ∧
      DateCorroborated approvalPy.toPyText approvalStore.discovered 2 award
        approvalAnswers.pageText date) ↔
    ∃ date, firstDeadline approvalPy.toPyText award.extractedFacts = some date ∧
      DateCorroborated approvalPy.toPyText approvalStore.discovered 2 award
        approvalAnswers.pageText date :=
  publishedDeadline_iff awardAttempt_eq rfl rfl rfl rfl award_readsBack

/-- The sibling and the page agree with the closing date, and the opening date is published. -/
theorem opening_date_published :
    ¬ ∀ (settings : ApprovalSettings) (answers : AttemptAnswers) (store store' : ReviewStore)
      (taskId : TaskId) (task : DiscoveryTask) (discoveryId : DiscoveryId)
      (discovery : Discovery) (outcome : AutoApprovalOutcome),
      settings.autoApproveRequireRealPageVerification = true →
      attemptAutoApproval approvalPy settings answers taskId store = (.ok outcome, store') →
      outcome.approved = true → store.tasks.row taskId = some task →
      task.discoveryId = some discoveryId → store.discovery discoveryId = some discovery →
      ∃ row date, outcome.cycleId.bind store'.discovered.db.cycles.row = some row ∧
        row.deadlineDate approvalPy.toPy = some date ∧
        DateCorroborated approvalPy.toPyText store.discovered discoveryId discovery
          answers.pageText date := by
  intro h
  obtain ⟨row, date, hrow, hdate, hcorroborated⟩ := h {} approvalAnswers approvalStore
    awardAttempt.2 1 awardTask 2 award awardOutcome rfl awardAttempt_eq rfl rfl rfl rfl
  obtain ⟨row', date', hrow', hdate', hfirst⟩ :=
    publishes_firstDeadline awardAttempt_eq rfl rfl rfl rfl award_readsBack
  obtain rfl : row = row' := Option.some.inj (hrow.symm.trans hrow')
  obtain rfl : date = date' := Option.some.inj (hdate.symm.trans hdate')
  obtain rfl : newYear = date := Option.some.inj (award_firstDeadline.symm.trans hfirst)
  exact awardPage_mentions hcorroborated.page

end Sample

/-! ## Where the gates are enough -/

lemma deadlinesMatch_iff {py : PyText} {a b : String} :
    deadlinesMatch py a b = some true ↔
      ∃ date, parseDeadline py a = some date ∧ parseDeadline py b = some date := by
  rw [deadlinesMatch]
  cases parseDeadline py a with
  | none => simp
  | some dateA =>
    cases parseDeadline py b with
    | none => simp
    | some dateB => simp [eq_comm]

/-- Two lists agree on a deadline exactly if they mention a common date. -/
lemma anyAgree_deadlines_iff {py : PyText} {own others : List String} :
    anyAgree (deadlinesMatch py) own others = true ↔
      ∃ date, Mentions py own date ∧ Mentions py others date := by
  simp only [anyAgree, List.any_eq_true, decide_eq_true_eq, deadlinesMatch_iff]
  constructor
  · rintro ⟨a, ha, b, hb, date, hdateA, hdateB⟩
    exact ⟨date, ⟨a, ha, hdateA⟩, b, hb, hdateB⟩
  · rintro ⟨date, ⟨a, ha, hdateA⟩, b, hb, hdateB⟩
    exact ⟨a, ha, b, hb, date, hdateA, hdateB⟩

/-- The first date is one of the mentions. -/
lemma firstDeadline_mentioned {py : PyText} {facts : Option ExtractedFacts} {date : Date}
    (h : firstDeadline py facts = some date) : Mentions py (deadlineMentions facts) date := by
  obtain ⟨mention, hmem, hdate⟩ := List.exists_of_findSome?_eq_some h
  exact ⟨mention, hmem, hdate⟩

/-- The verdict on a deadline that is stated is one of the two. -/
lemma deadlineCorroborated_of_stated {py : PyText} {ownSourceId : SourceId}
    {own : Option ExtractedFacts} {siblings : List SiblingFact}
    (hstated : (deadlineMentions own).isEmpty = false)
    (h : (evaluateCorroboration py ownSourceId own siblings).deadlineCorroborated ≠ some false) :
    (evaluateCorroboration py ownSourceId own siblings).deadlineCorroborated = some true := by
  change (siblings.foldl (Tally.add py own) (Tally.start ownSourceId own)).deadlineCorroborated ≠
    some false at h
  show (siblings.foldl (Tally.add py own) (Tally.start ownSourceId own)).deadlineCorroborated =
    some true
  rw [foldl_deadlineCorroborated] at h ⊢
  split
  · rfl
  · next hany => simp [hany, Tally.start, hstated] at h

/-- The gates have heard some sibling and the page on some date of the discovery. -/
theorem approved_heard
    (hrequire : settings.autoApproveRequireRealPageVerification = true)
    (h : attemptAutoApproval py settings answers taskId store = (.ok outcome, store'))
    (happroved : outcome.approved = true) (htask : store.tasks.row taskId = some task)
    (hid : task.discoveryId = some discoveryId)
    (hdiscovery : store.discovery discoveryId = some discovery) :
    (∃ sibling ∈ loadSiblings store.discovered discoveryId discovery, ∃ date,
      Mentions py.toPyText (deadlineMentions discovery.extractedFacts) date ∧
        Mentions py.toPyText (deadlineMentions sibling.facts) date) ∧
    ∃ date, Mentions py.toPyText (deadlineMentions discovery.extractedFacts) date ∧
      Mentions py.toPyText
        (extractCandidateFacts py.toPyText none (some answers.pageText)).deadlineMentions date := by
  obtain ⟨attempt, page, admission, scholarshipId, decided, hopening, hpage, hclosing, -, -, rfl⟩ :=
    attemptAutoApproval_approved h happroved
  obtain ⟨rfl, hopened⟩ := openingGates_passed hopening
  obtain ⟨rfl, rfl⟩ := hopened.copies htask hid hdiscovery
  have hadmitted := closingGates_passed hclosing
  -- a deadline was derived, so the discovery mentions one
  have hstated : (deadlineMentions attempt.discovery.extractedFacts).isEmpty = false := by
    cases hown : deadlineMentions attempt.discovery.extractedFacts with
    | cons mention mentions => rfl
    | nil =>
      have hderived := derived_deadlineAt hadmitted.derived
      rw [firstDeadline, hown] at hderived
      exact absurd hderived hadmitted.deadline
  obtain ⟨hfetched, hagreement⟩ := verifyPage_passed hpage
  have htext : answers.pageText = page.pageText := by
    rw [AttemptAnswers.pageText, hfetched]
    rfl
  constructor
  · have hcorroborated := hopened.deadline
    have hgathered := hopened.gathered
    rw [gatherCorroboration] at hgathered
    split at hgathered
    · cases hgathered
    next ownSourceId _ =>
    obtain hgathered := Except.ok.inj hgathered
    rw [← hgathered] at hcorroborated
    obtain ⟨sibling, hmem, hagrees⟩ :=
      deadlineCorroborated_iff.mp (deadlineCorroborated_of_stated hstated hcorroborated)
    obtain ⟨date, hdates⟩ := anyAgree_deadlines_iff.mp hagrees
    exact ⟨sibling, hmem, date, hdates⟩
  · have hmatches := (hadmitted.agreement hrequire).2
    rw [hagreement, compareFacts] at hmatches
    simp only [hstated, Bool.false_eq_true, if_false, ne_eq, Option.some.injEq,
      Bool.not_eq_false] at hmatches
    rw [htext]
    exact anyAgree_deadlines_iff.mp hmatches

/-- Of a discovery with one date, which no sibling of its own source repeats, the published
deadline is corroborated. -/
theorem oneDate_corroborated
    (hrequire : settings.autoApproveRequireRealPageVerification = true)
    (h : attemptAutoApproval py settings answers taskId store = (.ok outcome, store'))
    (happroved : outcome.approved = true) (htask : store.tasks.row taskId = some task)
    (hid : task.discoveryId = some discoveryId)
    (hdiscovery : store.discovery discoveryId = some discovery)
    (hback : ∀ date, firstDeadline py.toPyText discovery.extractedFacts = some date →
      py.ReadsBack (midnightUtc date))
    (hone : ∀ date date', Mentions py.toPyText (deadlineMentions discovery.extractedFacts) date →
      Mentions py.toPyText (deadlineMentions discovery.extractedFacts) date' → date = date')
    (hothers : ∀ sibling ∈ loadSiblings store.discovered discoveryId discovery,
      some sibling.sourceId ≠ store.discovered.sourceOfPage discovery.sourcePageId) :
    ∃ row date, outcome.cycleId.bind store'.discovered.db.cycles.row = some row ∧
      row.deadlineDate py.toPy = some date ∧
      DateCorroborated py.toPyText store.discovered discoveryId discovery answers.pageText
        date := by
  obtain ⟨row, date, hrow, hdate, hfirst⟩ :=
    publishes_firstDeadline h happroved htask hid hdiscovery hback
  obtain ⟨⟨sibling, hmem, dateS, hownS, hsibling⟩, dateP, hownP, hpage⟩ :=
    approved_heard hrequire h happroved htask hid hdiscovery
  have hown := firstDeadline_mentioned hfirst
  obtain rfl := hone _ _ hown hownS
  obtain rfl := hone _ _ hown hownP
  exact ⟨row, date, hrow, hdate, ⟨sibling, hmem, hothers sibling hmem, hsibling⟩, hpage⟩

end ScholarshipFinder
