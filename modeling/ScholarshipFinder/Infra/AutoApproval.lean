import ScholarshipFinder.Domain.Urls
import ScholarshipFinder.Infra.Corroboration
import ScholarshipFinder.Infra.Publication
import ScholarshipFinder.Infra.Reviews

/-!
# Approving a discovery without a reviewer (`infra/auto_approval.py`)

An attempt is four transactions: the gates that come before the fetch; the verification of the page
(`infra/source_verification.py`); the gates that come after it, with `decide_review`; and the
publication of the cycle.  The session keeps the task and the discovery as the first of them has
loaded them.  Audit rows, and the Agent's own reading of the page, are left out.
-/

namespace ScholarshipFinder

open Lib

structure ApprovalSettings where
  autoApproveMinAgeHours : ℤ := 24
  autoApproveMinCorroborationSources : ℤ := 2
  autoApproveRequireRealPageVerification : Bool := true

structure AutoApprovalOutcome where
  approved : Bool
  reason : String
  scholarshipId : Option ScholarshipId := none
  cycleId : Option CycleId := none
deriving DecidableEq, Repr

/-- Python, with the name service, the URLs of pydantic and the text columns of the database. -/
structure ApprovalPy extends PyText where
  /-- `_is_public_host`, whose hostname may not resolve -/
  isPublicHost : String → Except PyErr Bool
  /-- `str(HttpUrl(url))` -/
  httpUrl : String → Except PyErr String
  storesText : String → Bool

/-- What an attempt is answered: by the clock each time it reads it, by the page, by the mirror of
the countries, and by the generator of keys. -/
structure AttemptAnswers where
  startedAt : Instant
  /-- `_fetch_page_text`: the text and the method of the fetch. -/
  fetched : Except PyErr (String × String)
  countries : CountryVocabulary
  checkedAt : Instant
  publishedAt : Instant
  evaluatedAt : Instant
  scholarshipId : ScholarshipId
  cycleId : CycleId

/-- Where the gates end. -/
inductive Gate (α : Type)
  | passed (value : α)
  /-- The attempt returns and leaves the discovery as it is. -/
  | stopped (reason : String)
  /-- The discovery is marked as evaluated: it stays with a human. -/
  | deferred (discoveryId : DiscoveryId) (reason : String)

/-- What a session holds of an attempt. -/
structure Attempt where
  taskId : TaskId
  task : DiscoveryTask
  discoveryId : DiscoveryId
  discovery : Discovery
  source : Source
  authorityGrade : Option String
  corroboration : CorroborationResult
  /-- The address of the page. -/
  url : String

/-- The next gates, once these are passed. -/
def andThen {α β : Type} (gate : Except PyErr (Gate α)) (next : α → Except PyErr (Gate β)) :
    Except PyErr (Gate β) :=
  match gate with
  | .ok (.passed a) => next a
  | .ok (.stopped reason) => .ok (.stopped reason)
  | .ok (.deferred discoveryId reason) => .ok (.deferred discoveryId reason)
  | .error e => .error e

/-- `LookupError` or `ValueError` -/
def PyErr.isRefusal (e : PyErr) : Bool := e.cls = .lookupError || e.cls = .valueError

variable (py : ApprovalPy) (settings : ApprovalSettings) (answers : AttemptAnswers)

/-! ## Domains -/

/-- `_matches` (`infra/provider_resolution.py`), as `validate_source_url` has it too. -/
def matchesDomain (hostname : String) (approvedDomains : List String) : Bool :=
  approvedDomains.any fun domain =>
    let allowed := (py.lower domain).toList.dropWhile (· = '.')
    hostname.toList = allowed || ('.' :: allowed).isSuffixOf hostname.toList

def validateSourceUrl (url : String) (approvedDomains : List String) : Except PyErr Unit := do
  let normalized ← canonicalizeUrl py.toPy url
  let hostname := (← py.urlsplit normalized).hostname.getD ""
  if !matchesDomain py hostname approvedDomains then
    valueError "Source URL domain is not approved"
  if !(← py.isPublicHost hostname) then
    valueError "Private or reserved source host is not allowed"

/-- The one provider whose domains match the host of the URL. -/
def resolveProviderFromVerifiedUrl (verifiedUrl : String) (store : ReviewStore) :
    Except PyErr (Option ProviderId) := do
  let hostname := (← py.urlsplit verifiedUrl).hostname.getD ""
  if hostname = "" then return none
  let found := store.providers.keys.filter fun id =>
    (store.providers.row id).any fun p => matchesDomain py hostname p.approvedDomains
  match found with
  | [providerId] => return some providerId
  | _ => return none

/-! ## The slug -/

/-- `[a-z0-9]` -/
def isSlugChar (c : Char) : Bool := ('a' ≤ c && c ≤ 'z') || ('0' ≤ c && c ≤ '9')

/-- `_SLUG_INVALID.sub("-", name.lower()).strip("-") or "scholarship"` -/
def slugBase (name : String) : String :=
  let hyphened := Pattern.replaceAll (.many1 fun c => !isSlugChar c) (fun _ => ['-'])
    (py.lower name).toList
  let stripped := ((hyphened.dropWhile (· = '-')).reverse.dropWhile (· = '-')).reverse
  if stripped = [] then "scholarship" else String.ofList stripped

/-- `_available_slug`, which makes five attempts. -/
def availableSlug (name : String) (store : ReviewStore) : Option String :=
  let base := slugBase py name
  let candidates := base :: ["-2", "-3", "-4", "-5"].map (base ++ ·)
  candidates.find? fun candidate =>
    !store.shells.keys.any fun id => (store.shells.row id).any (·.slug = candidate)

/-! ## Before the fetch -/

/-- `_resolve_url` -/
def resolveUrl (discovery : Discovery) (store : ReviewStore) : Except PyErr String :=
  match store.discovered.db.pages.row discovery.sourcePageId with
  | none => .error ⟨.other, "No row was found when one was required"⟩
  | some page => .ok ((page.finalUrl.filter (· ≠ "")).getD page.normalizedUrl)

/-- The `except` clause of the verification. -/
def caught {α : Type} (discoveryId : DiscoveryId) (result : Except PyErr α) :
    Except PyErr (Gate α) :=
  match result with
  | .ok a => .ok (.passed a)
  | .error e =>
    if e.cls = .valueError ∨ e.cls = .httpError then .ok (.deferred discoveryId "verification_failed")
    else .error e

/-- The gates of a discovery that has not been evaluated and whose draft is ready. -/
def evidenceGates (taskId : TaskId) (task : DiscoveryTask) (discoveryId : DiscoveryId)
    (discovery : Discovery) (store : ReviewStore) : Except PyErr (Gate Attempt) := do
  let minAge ← timedelta hour settings.autoApproveMinAgeHours
  if answers.startedAt - discovery.createdAt < minAge then return .stopped "too_young"
  match store.discovered.sourceOfPage discovery.sourcePageId with
  | none => return .deferred discoveryId "source_missing"
  | some sourceId =>
    match store.discovered.db.sources.row sourceId with
    | none => return .deferred discoveryId "source_missing"
    | some source =>
      let corroboration ← gatherCorroboration py.toPyText store.discovered discoveryId discovery
      if (corroboration.independentSourceCount : ℤ) < settings.autoApproveMinCorroborationSources ∨
          corroboration.amountCorroborated = some false ∨
          corroboration.deadlineCorroborated = some false then
        return .deferred discoveryId "insufficient_corroboration"
      let url ← resolveUrl discovery store
      andThen (caught discoveryId (validateSourceUrl py url source.approvedDomains)) fun () =>
        .ok (.passed {
          taskId := taskId
          task := task
          discoveryId := discoveryId
          discovery := discovery
          source := source
          authorityGrade := store.authorityGrade sourceId
          corroboration := corroboration
          url := url })

/-- From the first statement to the fetch of the page. -/
def openingGates (taskId : TaskId) (store : ReviewStore) : Except PyErr (Gate Attempt) :=
  match store.tasks.row taskId with
  | none => .ok (.stopped "task_not_eligible")
  | some task =>
    if task.state ≠ .opened then .ok (.stopped "task_not_eligible")
    else
      match task.discoveryId with
      | none => .ok (.stopped "task_not_eligible")
      | some discoveryId =>
        match store.discovery discoveryId with
        | none => .ok (.stopped "not_eligible")
        | some discovery =>
          if discovery.autoReviewEvaluatedAt.isSome then .ok (.stopped "not_eligible")
          else
            match task.draftRecommendation with
            | none => .ok (.stopped "draft_not_ready")
            | some draft =>
              if (draft.lookup "verdict").any (·.eqStr "reject") then
                .ok (.deferred discoveryId "draft_rejected")
              else evidenceGates py settings answers taskId task discoveryId discovery store

/-! ## The page -/

/-- The row of `DiscoveryVerification` for a page. -/
structure Verification where
  pageText : String
  fetchMethod : String
  agreement : Agreement

/-- `fetch_and_verify_source`, once the address is known. -/
def verifyPage (attempt : Attempt) : Except PyErr (Gate Verification) :=
  andThen (caught attempt.discoveryId answers.fetched) fun (pageText, fetchMethod) =>
    if py.storesText pageText then
      .ok (.passed {
        pageText := pageText
        fetchMethod := fetchMethod
        agreement := compareFacts py.toPyText attempt.discovery.extractedFacts
          (extractCandidateFacts py.toPyText none (some pageText)) })
    else .error ⟨.other, "the database refuses the text"⟩

/-! ## After the fetch -/

/-- What the last gates make of a discovery. -/
structure Admission where
  derived : DerivedCycleFacts
  request : ReviewDecisionRequest

/-- `(discovery.raw_title or default)` -/
def titleOr (discovery : Discovery) (default : String) : String :=
  (discovery.rawTitle.filter (· ≠ "")).getD default

/-- The gates from the verified page to the request. -/
def closingGates (attempt : Attempt) (page : Verification) (store : ReviewStore) :
    Except PyErr (Gate Admission) :=
  let deferred (reason : String) : Except PyErr (Gate Admission) :=
    .ok (.deferred attempt.discoveryId reason)
  let discovery := attempt.discovery
  let count := attempt.corroboration.independentSourceCount
  if settings.autoApproveRequireRealPageVerification = true ∧
      (page.agreement.amountMatches = some false ∨ page.agreement.deadlineMatches = some false) then
    deferred "page_disagreement"
  else
    match deriveCycleFactsFromExtraction py.toPyText discovery.rawTitle discovery.rawExcerpt
      page.pageText discovery.extractedFacts answers.countries.names with
    | none => deferred "facts_not_derivable"
    | some derived =>
      if derived.deadlineAt = none then deferred "no_deadline_evidence"
      else
        let sanity := runSanityChecks py.toPyText discovery.extractedFacts derived.deadlineAt count
          settings.autoApproveMinCorroborationSources answers.checkedAt
        if !sanity.passed then deferred "sanity_check_failed"
        else do
          match ← resolveProviderFromVerifiedUrl py attempt.url store with
          | none => deferred "provider_not_resolved"
          | some providerId =>
            match availableSlug py (titleOr discovery "scholarship") store with
            | none => deferred "slug_unavailable"
            | some slug =>
              let score := computeAutoApprovalScore count page.agreement sanity.passed
                attempt.authorityGrade
              let homeUrl ← py.httpUrl attempt.url
              let name := titleOr discovery "Unnamed scholarship"
              return .passed {
                derived := derived
                request := {
                  decision := .approve
                  providerId := some providerId
                  canonicalName := some (String.ofList (name.toList.take 500))
                  officialHomeUrl := some homeUrl
                  slug := some slug
                  awardType := some derived.awardType
                  reason := "Auto-approved: " ++ toString count ++ " independent sources " ++
                    "corroborate amount/deadline; real page verified via " ++ page.fetchMethod ++
                    " fetch; diagnostic score=" ++ toString score ++ "." } }

/-- The discoveries as the session of the attempt has them: of the one that it has loaded, a query
finds whether it is still there, and not what it holds by now. -/
def Attempt.view (attempt : Attempt) (store : ReviewStore) (id : DiscoveryId) : Option Discovery :=
  (store.discovery id).map fun stored =>
    if id = attempt.discoveryId then attempt.discovery else stored

/-- `decide_review` in the session of the attempt, which has loaded the task as well. -/
def decideAttempt (attempt : Attempt) (admission : Admission) (store : ReviewStore) :
    Except PyErr (Option ScholarshipId × ReviewStore) :=
  decideReview py.toPy answers.scholarshipId attempt.taskId admission.request
    ((store.tasks.row attempt.taskId).map fun _ => attempt.task) (attempt.view store) store

/-! ## The publication -/

/-- The arguments of `build_cycle_facts`; those that are not given have their defaults. -/
def DerivedCycleFacts.toInputs (derived : DerivedCycleFacts) : CycleInputs where
  destinations := some derived.destinations
  levels := some derived.levels
  originMode := .str OriginMode.unknown.value
  origins := some []
  fieldMode := .str FieldMode.unknown.value
  fields := some []
  evidenceFresh := .bool true
  deadlineAt := derived.deadlineAt
  deadlinePrecision := .str DeadlinePrecision.date.value
  deadlineTimezone := .null
  eligibilityNote := .null
  expectedReopenMonth := .null
  fieldNames := []
  programmeNames := none
  fundingType := (derived.fundingType.map .str).getD .null

/-- The arguments of `publish_cycle`. -/
def autoPublishArgs (attempt : Attempt) (scholarshipId : ScholarshipId) (facts : Json) :
    PublishArgs where
  cycleId := answers.cycleId
  scholarshipId := scholarshipId
  providerCycleKey := "auto-approved"
  applicantSegment := "default"
  officialCycleUrl := attempt.url
  publicStatus := .openVerified
  facts := facts
  statusValidUntil := none
  lastVerifiedAt := some answers.publishedAt

/-- Mark the discovery as evaluated. -/
def ReviewStore.markEvaluated (store : ReviewStore) (discoveryId : DiscoveryId) (now : Instant) :
    ReviewStore :=
  store.amend discoveryId (fun d => { d with autoReviewEvaluatedAt := some now }) fun _ => rfl

/-- A publication writes neither sources nor pages. -/
lemma publishCycle_pages {args : PublishArgs} {now : Instant} {db db' : Db}
    (h : publishCycle args now db = .ok db') : db'.pages = db.pages ∧ db'.sources = db.sources := by
  obtain ⟨-, -, rfl⟩ := publishCycle_ok h
  exact ⟨rfl, rfl⟩

/-- The facts, the cycle and the mark, in one transaction.  The scholarship is new, so nobody else
has changed the row that the session has of it. -/
def publishApproved (attempt : Attempt) (derived : DerivedCycleFacts)
    (scholarshipId : ScholarshipId) (store : ReviewStore) : Except PyErr ReviewStore :=
  match buildCycleFacts py.toPy answers.countries derived.toInputs with
  | .error e => .error e
  | .ok facts =>
    match h : publishCycle (autoPublishArgs answers attempt scholarshipId facts) answers.publishedAt
      store.discovered.db with
    | .error e => .error e
    | .ok db =>
      let published := store.withDb db (publishCycle_pages h).1 (publishCycle_pages h).2
      .ok ({ published with autoApproved := published.autoApproved ++ [answers.cycleId] }.markEvaluated
        attempt.discoveryId answers.evaluatedAt)

/-! ## The attempt -/

/-- An attempt that ends without an approval. -/
def AutoApprovalOutcome.declined (reason : String) : AutoApprovalOutcome :=
  { approved := false, reason := reason }

/-- Go on if the gates are passed, and commit the mark of a discovery that is deferred. -/
def settleGate {α : Type} (store : ReviewStore) (gate : Except PyErr (Gate α))
    (next : α → Except PyErr AutoApprovalOutcome × ReviewStore) :
    Except PyErr AutoApprovalOutcome × ReviewStore :=
  match gate with
  | .ok (.passed a) => next a
  | .ok (.stopped reason) => (.ok (.declined reason), store)
  | .ok (.deferred discoveryId reason) =>
    (.ok (.declined reason), store.markEvaluated discoveryId answers.evaluatedAt)
  | .error e => (.error e, store)

/-- The page of the discovery has been read. -/
def ReviewStore.recordVerification (store : ReviewStore) (discoveryId : DiscoveryId) : ReviewStore :=
  { store with verifications := store.verifications ++ [discoveryId] }

/-- The last transaction, and what the attempt returns. -/
def publishAttempt (attempt : Attempt) (derived : DerivedCycleFacts)
    (scholarshipId : ScholarshipId) (store : ReviewStore) :
    Except PyErr AutoApprovalOutcome × ReviewStore :=
  match publishApproved py answers attempt derived scholarshipId store with
  | .error e =>
    if e.isRefusal then
      (.ok { AutoApprovalOutcome.declined "publish_failed" with
        scholarshipId := some scholarshipId }, store)
    else (.error e, store)
  | .ok store => (.ok ⟨true, "auto_approved", some scholarshipId, some answers.cycleId⟩, store)

/-- One attempt, with the database as it is committed when it returns or raises. -/
def attemptAutoApproval (taskId : TaskId) (store : ReviewStore) :
    Except PyErr AutoApprovalOutcome × ReviewStore :=
  settleGate answers store (openingGates py settings answers taskId store) fun attempt =>
  settleGate answers store (verifyPage py answers attempt) fun page =>
  let store := store.recordVerification attempt.discoveryId
  settleGate answers store (closingGates py settings answers attempt page store) fun admission =>
  match decideAttempt py answers attempt admission store with
  | .error e =>
    if e.isRefusal then (.ok (.declined "approve_failed"), store) else (.error e, store)
  | .ok (none, store) =>
    (.error ⟨.other, "decide_review returned no scholarship_id for an approve decision"⟩, store)
  | .ok (some scholarshipId, store) =>
    publishAttempt py answers attempt admission.derived scholarshipId store

/-! ## What the gates let pass -/

variable {py settings answers} {store store' : ReviewStore} {taskId : TaskId}
  {attempt : Attempt} {page : Verification} {admission : Admission}

lemma andThen_passed {α β : Type} {gate : Except PyErr (Gate α)}
    {next : α → Except PyErr (Gate β)} {b : β} (h : andThen gate next = .ok (.passed b)) :
    ∃ a, gate = .ok (.passed a) ∧ next a = .ok (.passed b) := by
  unfold andThen at h
  split at h
  · next a => exact ⟨a, rfl, h⟩
  · cases h
  · cases h
  · cases h

lemma caught_passed {α : Type} {discoveryId : DiscoveryId} {result : Except PyErr α} {a : α}
    (h : caught discoveryId result = .ok (.passed a)) : result = .ok a := by
  unfold caught at h
  split at h
  · cases h
    rfl
  · split at h <;> cases h

/-- What the gates before the fetch have found in the store. -/
structure Attempt.Opened (py : ApprovalPy) (settings : ApprovalSettings) (store : ReviewStore)
    (attempt : Attempt) : Prop where
  task : store.tasks.row attempt.taskId = some attempt.task
  opened : attempt.task.state = .opened
  discoveryId : attempt.task.discoveryId = some attempt.discoveryId
  discovery : store.discovery attempt.discoveryId = some attempt.discovery
  gathered : gatherCorroboration py.toPyText store.discovered attempt.discoveryId
    attempt.discovery = .ok attempt.corroboration
  sources : settings.autoApproveMinCorroborationSources ≤
    attempt.corroboration.independentSourceCount
  amount : attempt.corroboration.amountCorroborated ≠ some false
  deadline : attempt.corroboration.deadlineCorroborated ≠ some false

lemma evidenceGates_passed {task : DiscoveryTask} {discoveryId : DiscoveryId}
    {discovery : Discovery}
    (h : evidenceGates py settings answers taskId task discoveryId discovery store =
      .ok (.passed attempt)) :
    attempt.taskId = taskId ∧ attempt.task = task ∧ attempt.discoveryId = discoveryId ∧
      attempt.discovery = discovery ∧
      gatherCorroboration py.toPyText store.discovered discoveryId discovery =
        .ok attempt.corroboration ∧
      settings.autoApproveMinCorroborationSources ≤
        attempt.corroboration.independentSourceCount ∧
      attempt.corroboration.amountCorroborated ≠ some false ∧
      attempt.corroboration.deadlineCorroborated ≠ some false := by
  obtain ⟨minAge, -, h⟩ := exceptBind_ok h
  split at h
  · cases h
  split at h
  · cases h
  split at h
  · cases h
  obtain ⟨corroboration, hgathered, h⟩ := exceptBind_ok h
  split at h
  · cases h
  next hevidence =>
  rw [not_or, not_or, not_lt] at hevidence
  obtain ⟨url, -, h⟩ := exceptBind_ok h
  obtain ⟨_, -, h⟩ := andThen_passed h
  cases h
  exact ⟨rfl, rfl, rfl, rfl, hgathered, hevidence⟩

theorem openingGates_passed
    (h : openingGates py settings answers taskId store = .ok (.passed attempt)) :
    attempt.taskId = taskId ∧ attempt.Opened py settings store := by
  rw [openingGates] at h
  split at h
  · cases h
  next task htask =>
  split at h
  · cases h
  next hopened =>
  split at h
  · cases h
  next discoveryId hid =>
  split at h
  · cases h
  next discovery hdiscovery =>
  split at h
  · cases h
  split at h
  · cases h
  split at h
  · cases h
  obtain ⟨hk, ht, hd, hcopy, hgathered, hsources, hamount, hdeadline⟩ := evidenceGates_passed h
  subst hk ht hd hcopy
  exact ⟨rfl, htask, not_not.mp hopened, hid, hdiscovery, hgathered, hsources, hamount, hdeadline⟩

/-- The session has loaded the discovery of the task. -/
lemma Attempt.Opened.copies {task : DiscoveryTask} {discoveryId : DiscoveryId}
    {discovery : Discovery} (h : attempt.Opened py settings store)
    (htask : store.tasks.row attempt.taskId = some task)
    (hid : task.discoveryId = some discoveryId)
    (hdiscovery : store.discovery discoveryId = some discovery) :
    attempt.discoveryId = discoveryId ∧ attempt.discovery = discovery := by
  obtain rfl : attempt.task = task := Option.some.inj (h.task.symm.trans htask)
  obtain rfl : attempt.discoveryId = discoveryId := Option.some.inj (h.discoveryId.symm.trans hid)
  exact ⟨rfl, Option.some.inj (h.discovery.symm.trans hdiscovery)⟩

/-- The page that was verified is the one that was fetched. -/
lemma verifyPage_passed (h : verifyPage py answers attempt = .ok (.passed page)) :
    answers.fetched = .ok (page.pageText, page.fetchMethod) ∧
      page.agreement = compareFacts py.toPyText attempt.discovery.extractedFacts
        (extractCandidateFacts py.toPyText none (some page.pageText)) := by
  obtain ⟨⟨pageText, fetchMethod⟩, hcaught, h⟩ := andThen_passed h
  dsimp only at h
  split at h
  · cases h
    exact ⟨caught_passed hcaught, rfl⟩
  · cases h

/-- What the gates after the fetch have found. -/
structure Admission.Admitted (py : ApprovalPy) (settings : ApprovalSettings)
    (answers : AttemptAnswers) (attempt : Attempt) (page : Verification)
    (admission : Admission) : Prop where
  agreement : settings.autoApproveRequireRealPageVerification = true →
    page.agreement.amountMatches ≠ some false ∧ page.agreement.deadlineMatches ≠ some false
  derived : deriveCycleFactsFromExtraction py.toPyText attempt.discovery.rawTitle
    attempt.discovery.rawExcerpt page.pageText attempt.discovery.extractedFacts
    answers.countries.names = some admission.derived
  deadline : admission.derived.deadlineAt ≠ none
  decision : admission.request.decision = .approve

theorem closingGates_passed
    (h : closingGates py settings answers attempt page store = .ok (.passed admission)) :
    admission.Admitted py settings answers attempt page := by
  simp only [closingGates] at h
  split at h
  · cases h
  next hagreement =>
  split at h
  · cases h
  next derived hderived =>
  split at h
  · cases h
  next hdeadline =>
  split at h
  · cases h
  obtain ⟨provider, -, h⟩ := exceptBind_ok h
  split at h
  · cases h
  split at h
  · cases h
  obtain ⟨homeUrl, -, h⟩ := exceptBind_ok h
  cases h
  refine ⟨fun hrequire => ?_, hderived, hdeadline, rfl⟩
  rw [not_and, not_or] at hagreement
  exact hagreement hrequire

/-! ## What an attempt that approves has done -/

lemma settleGate_approved {α : Type} {gate : Except PyErr (Gate α)}
    {next : α → Except PyErr AutoApprovalOutcome × ReviewStore} {outcome : AutoApprovalOutcome}
    (h : settleGate answers store gate next = (.ok outcome, store'))
    (happroved : outcome.approved = true) :
    ∃ a, gate = .ok (.passed a) ∧ next a = (.ok outcome, store') := by
  unfold settleGate at h
  split at h
  · next a => exact ⟨a, rfl, h⟩
  · cases h
    cases happroved
  · cases h
    cases happroved
  · cases h

/-- The published cycle has the facts that the builder makes of the derived ones. -/
theorem publishApproved_ok {derived : DerivedCycleFacts} {scholarshipId : ScholarshipId}
    (h : publishApproved py answers attempt derived scholarshipId store = .ok store') :
    ∃ facts, buildCycleFacts py.toPy answers.countries derived.toInputs = .ok facts ∧
      store'.discovered.db.cycles.row answers.cycleId =
        some ((autoPublishArgs answers attempt scholarshipId facts).newRow answers.publishedAt) := by
  rw [publishApproved] at h
  split at h
  · cases h
  next facts hfacts =>
  split at h
  · cases h
  next db hpublish =>
  cases h
  obtain ⟨-, -, rfl⟩ := publishCycle_ok hpublish
  exact ⟨facts, hfacts, Table.row_insert_self _ _ _⟩

/-- An attempt that approves has passed all gates, was decided and has published. -/
theorem attemptAutoApproval_approved {outcome : AutoApprovalOutcome}
    (h : attemptAutoApproval py settings answers taskId store = (.ok outcome, store'))
    (happroved : outcome.approved = true) :
    ∃ attempt page admission scholarshipId decided,
      openingGates py settings answers taskId store = .ok (.passed attempt) ∧
      verifyPage py answers attempt = .ok (.passed page) ∧
      closingGates py settings answers attempt page
        (store.recordVerification attempt.discoveryId) = .ok (.passed admission) ∧
      decideAttempt py answers attempt admission (store.recordVerification attempt.discoveryId) =
        .ok (some scholarshipId, decided) ∧
      publishApproved py answers attempt admission.derived scholarshipId decided = .ok store' ∧
      outcome = ⟨true, "auto_approved", some scholarshipId, some answers.cycleId⟩ := by
  obtain ⟨attempt, hopening, h⟩ := settleGate_approved h happroved
  obtain ⟨page, hpage, h⟩ := settleGate_approved h happroved
  obtain ⟨admission, hclosing, h⟩ := settleGate_approved h happroved
  split at h
  · next e he =>
    split at h
    · cases h
      cases happroved
    · cases h
  · cases h
  next scholarshipId decided hdecided =>
  rw [publishAttempt] at h
  split at h
  · next e he =>
    split at h
    · cases h
      cases happroved
    · cases h
  next published hpublished =>
  cases h
  exact ⟨attempt, page, admission, scholarshipId, decided, hopening, hpage, hclosing, hdecided,
    hpublished, rfl⟩

end ScholarshipFinder
