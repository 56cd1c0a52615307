import ScholarshipFinder.Domain.AutoApproval
import ScholarshipFinder.Domain.Discoveries
import ScholarshipFinder.Lib.Copy

/-!
# Deciding a review (`infra/reviews.py`)

A decision resolves an open task.  An approval creates a scholarship, which it leaves in need of a
review until a cycle is published, and links the discovery to it.  The function reads the task and
the discovery as its session has them: a row that the session loaded before is not refreshed by a
later `select`, whether or not this locks it, and the flush writes the columns that differ from
what was loaded.
-/

namespace ScholarshipFinder

open Lib

abbrev TaskId := ℕ
abbrev ProviderId := ℕ

/-- A review task, as a task about a discovery. -/
structure DiscoveryTask where
  discoveryId : Option DiscoveryId
  state : TaskState
  resolution : Option String
  /-- Null until `prepare_review` has run. -/
  draftRecommendation : Option (List (String × Json))
  reason : String := ""
  priority : ℤ := 100
  createdAt : Instant := 0

structure Provider where
  approvedDomains : List String
deriving DecidableEq, Repr

/-- The columns of a scholarship that an approval fills, beside its lifecycle state. -/
structure ScholarshipShell where
  providerId : ProviderId
  /-- Unique. -/
  slug : String
  name : String
  officialHomeUrl : String
  awardType : String
deriving DecidableEq, Repr

/-- The database with its discoveries and their reviews. -/
structure ReviewStore where
  discovered : DiscoveryStore
  /-- `Source.authority_grade` -/
  authorityGrade : SourceId → Option String
  tasks : Table TaskId DiscoveryTask
  providers : Table ProviderId Provider
  shells : Table ScholarshipId ScholarshipShell
  /-- The discoveries whose page was fetched and read, oldest first. -/
  verifications : List DiscoveryId
  /-- The cycles with `is_auto_approved`, oldest first. -/
  autoApproved : List CycleId

namespace ReviewStore

/-- The row of a discovery. -/
def discovery (store : ReviewStore) (id : DiscoveryId) : Option Discovery :=
  store.discovered.discoveries.row id

/-- Write columns of a discovery other than its page. -/
def amend (store : ReviewStore) (id : DiscoveryId) (f : Discovery → Discovery)
    (hf : ∀ d, (f d).sourcePageId = d.sourcePageId) : ReviewStore :=
  { store with discovered := { store.discovered with
      discoveries := store.discovered.discoveries.modify id f
      discovery_page := by
        intro j d hrow
        by_cases hj : j = id
        · subst hj
          rw [Table.row_modify_self, Option.map_eq_some_iff] at hrow
          obtain ⟨d', hd', rfl⟩ := hrow
          rw [hf]
          exact store.discovered.discovery_page j d' hd'
        · rw [Table.row_modify_of_ne _ hj] at hrow
          exact store.discovered.discovery_page j d hrow } }

/-- Write tables of the database other than those of the sources and their pages. -/
def withDb (store : ReviewStore) (db : Db) (hpages : db.pages = store.discovered.db.pages)
    (hsources : db.sources = store.discovered.db.sources) : ReviewStore :=
  { store with discovered := { store.discovered with
      db := db
      page_source := by
        rw [hpages, hsources]
        exact store.discovered.page_source
      discovery_page := by
        rw [hpages]
        exact store.discovered.discovery_page } }

end ReviewStore

inductive ReviewDecision
  | approve
  | reject
deriving DecidableEq, Repr

structure ReviewDecisionRequest where
  decision : ReviewDecision
  providerId : Option ProviderId
  canonicalName : Option String
  officialHomeUrl : Option String
  slug : Option String
  awardType : Option String
  reason : String
deriving DecidableEq, Repr

variable (py : Py)

/-- `TAXONOMY.award_type` -/
def taxonomyAwardType (value : String) : Except PyErr String :=
  let code := py.lower (py.strip value)
  if awardTypes.has code then .ok code else valueError "Unsupported award type"

/-- `a or b or c` of three texts. -/
def firstText (a b : Option String) (c : String) : String :=
  ((a.filter (· ≠ "")).or (b.filter (· ≠ ""))).getD c

/-- The insert of a scholarship, which its constraints may refuse. -/
def insertShell (scholarshipId : ScholarshipId) (shell : ScholarshipShell) (store : ReviewStore) :
    Except PyErr ReviewStore :=
  let taken := store.shells.keys.any fun id => (store.shells.row id).any (·.slug = shell.slug)
  if taken ∨ 255 < shell.slug.length ∨ (store.providers.row shell.providerId).isNone ∨
      (store.shells.row scholarshipId).isSome then
    .error ⟨.integrityError, "the database refuses the scholarship"⟩
  else
    .ok { store.withDb { store.discovered.db with
        scholarships := store.discovered.db.scholarships.insert scholarshipId ⟨.needsReview⟩ }
        rfl rfl with
      shells := store.shells.insert scholarshipId shell }

/-- The columns of a discovery that an approval assigns, from the copy that the session has. -/
def linkDiscovery (copy : Discovery) (scholarshipId : ScholarshipId) (stored : Discovery) :
    Discovery :=
  { stored with
    canonicalScholarshipId := writeBack copy.canonicalScholarshipId (some scholarshipId)
      stored.canonicalScholarshipId
    processingState := writeBack copy.processingState .linked stored.processingState }

/-- The columns of a task that a decision assigns. -/
def resolveTask (copy : DiscoveryTask) (reason : String) (stored : DiscoveryTask) :
    DiscoveryTask :=
  { stored with
    state := writeBack copy.state .resolved stored.state
    resolution := writeBack copy.resolution (some (String.ofList (reason.toList.take 2000)))
      stored.resolution }

/-- The approval of a task: the new scholarship, whose row gets the key `scholarshipId`. -/
def approveTask (scholarshipId : ScholarshipId) (request : ReviewDecisionRequest)
    (task : DiscoveryTask) (view : DiscoveryId → Option Discovery) (store : ReviewStore) :
    Except PyErr ReviewStore :=
  match task.discoveryId, request.providerId, request.officialHomeUrl, request.slug,
    request.awardType with
  | some discoveryId, some providerId, some officialHomeUrl, some slug, some awardType => do
    let awardType ← taxonomyAwardType py awardType
    match view discoveryId with
    | none => lookupError "Discovery not found"
    | some discovery =>
      let store ← insertShell scholarshipId
        { providerId := providerId
          slug := slug
          name := firstText request.canonicalName discovery.rawTitle "Unnamed scholarship"
          officialHomeUrl := officialHomeUrl
          awardType := awardType } store
      return store.amend discoveryId (linkDiscovery discovery scholarshipId) fun _ => rfl
  | _, _, _, _, _ =>
    valueError "Approval requires discovery, provider, slug, award type, and official URL"

/-- Decide a task, which the session has as `task`; `view` are the discoveries as it has them. -/
def decideReview (scholarshipId : ScholarshipId) (taskId : TaskId) (request : ReviewDecisionRequest)
    (task : Option DiscoveryTask) (view : DiscoveryId → Option Discovery) (store : ReviewStore) :
    Except PyErr (Option ScholarshipId × ReviewStore) :=
  match task with
  | none => lookupError "Open review task not found"
  | some task =>
    if task.state ≠ .opened then lookupError "Open review task not found"
    else do
      let store ← match request.decision with
        | .approve => approveTask py scholarshipId request task view store
        | .reject => .ok store
      let approved := match request.decision with
        | .approve => some scholarshipId
        | .reject => none
      return (approved, { store with
        tasks := store.tasks.modify taskId (resolveTask task request.reason) })

/-! ## What a decision writes -/

variable {py} {scholarshipId : ScholarshipId} {taskId : TaskId} {request : ReviewDecisionRequest}
  {task : Option DiscoveryTask} {copy : DiscoveryTask} {view : DiscoveryId → Option Discovery}
  {store store' : ReviewStore} {approved : Option ScholarshipId}

/-- An approval touches no task. -/
lemma approveTask_tasks (h : approveTask py scholarshipId request copy view store = .ok store') :
    store'.tasks = store.tasks := by
  unfold approveTask at h
  split at h
  · obtain ⟨awardType, -, h⟩ := exceptBind_ok h
    split at h
    · cases h
    obtain ⟨inserted, hinsert, h⟩ := exceptBind_ok h
    cases h
    simp only [insertShell] at hinsert
    split at hinsert
    · cases hinsert
    · cases hinsert
      rfl
  · cases h

/-- The scholarship that a decision answers. -/
def ReviewDecisionRequest.creates (request : ReviewDecisionRequest)
    (scholarshipId : ScholarshipId) : Option ScholarshipId :=
  match request.decision with
  | .approve => some scholarshipId
  | .reject => none

/-- A decision that is accepted was made of an open task, and resolves it. -/
theorem decideReview_ok
    (h : decideReview py scholarshipId taskId request task view store = .ok (approved, store')) :
    ∃ copy, task = some copy ∧ copy.state = .opened ∧
      approved = request.creates scholarshipId ∧
      store'.tasks = store.tasks.modify taskId (resolveTask copy request.reason) := by
  unfold decideReview at h
  split at h
  · cases h
  next copy =>
  split at h
  · cases h
  next hopened =>
  refine ⟨copy, rfl, not_not.mp hopened, ?_⟩
  cases hdecision : request.decision with
  | approve =>
    simp only [hdecision] at h
    obtain ⟨decided, hdecided, h⟩ := exceptBind_ok h
    cases h
    refine ⟨by rw [ReviewDecisionRequest.creates, hdecision], ?_⟩
    rw [approveTask_tasks hdecided]
  | reject =>
    simp only [hdecision] at h
    cases h
    exact ⟨by rw [ReviewDecisionRequest.creates, hdecision], rfl⟩

/-- An approval of an open task is accepted exactly where its scholarship is. -/
theorem decideReview_approve_iff (hopened : copy.state = .opened)
    (hdecision : request.decision = .approve) :
    (∃ result, decideReview py scholarshipId taskId request (some copy) view store = .ok result) ↔
      ∃ store', approveTask py scholarshipId request copy view store = .ok store' := by
  simp only [decideReview, hopened, ne_eq, not_true_eq_false, if_false, hdecision]
  constructor
  · rintro ⟨result, h⟩
    obtain ⟨store', happrove, -⟩ := exceptBind_ok h
    exact ⟨store', happrove⟩
  · rintro ⟨store', happrove⟩
    rw [happrove]
    exact ⟨_, rfl⟩

/-- A task that was loaded open is resolved afterwards, whatever is stored. -/
lemma resolveTask_state (hopened : copy.state = .opened) (reason : String)
    (stored : DiscoveryTask) : (resolveTask copy reason stored).state = .resolved :=
  writeBack_of_ne (by rw [hopened]; decide) stored.state

end ScholarshipFinder
