import ScholarshipFinder.Infra.AgentIntegration
import ScholarshipFinder.Infra.Ingestion
import ScholarshipFinder.Lib.Handled

/-!
# What an intake adds, and what it leaves alone

Imports and submissions insert rows and touch pages.  `Grown` says so of two stores: every row of
the first is in the second, and of a page only the time differs at which it was last seen.  It is a
preorder, so it is shown for each write and holds of every sequence of them.
-/

namespace ScholarshipFinder

open Lib

namespace IntakeStore

/-- The row of a page. -/
def page (store : IntakeStore) (id : PageId) : Option SourcePage :=
  store.discovered.db.pages.row id

/-- The scholarships, the reviews and the sources are the same. -/
structure Kept (before after : IntakeStore) : Prop where
  scholarships : after.discovered.db.scholarships = before.discovered.db.scholarships
  shells : after.shells = before.shells
  cycles : after.discovered.db.cycles = before.discovered.db.cycles
  tasks : after.tasks = before.tasks
  sources : after.discovered.db.sources = before.discovered.db.sources

/-- Rows were added, and pages were seen at some of these times. -/
structure Grown (times : List Instant) (before after : IntakeStore) : Prop extends
    Kept before after where
  discoveries : ∀ id d, before.discovery id = some d → after.discovery id = some d
  pages : ∀ id page, before.page id = some page → ∃ seen,
    after.page id = some { page with lastSeenAt := seen } ∧
      (seen = page.lastSeenAt ∨ ∃ t ∈ times, seen = some t)
  jobs : ∀ id job, before.jobs.row id = some job → after.jobs.row id = some job
  foundPage : ∀ sourceId url id, before.findPage sourceId url = some id →
    after.findPage sourceId url = some id
  foundContent : ∀ pageId hash id, before.findContent pageId hash = some id →
    after.findContent pageId hash = some id

variable {before middle after store : IntakeStore} {times times' : List Instant}

lemma Kept.refl (store : IntakeStore) : Kept store store := ⟨rfl, rfl, rfl, rfl, rfl⟩

lemma Kept.trans (h : Kept before middle) (h' : Kept middle after) : Kept before after where
  scholarships := h'.scholarships.trans h.scholarships
  shells := h'.shells.trans h.shells
  cycles := h'.cycles.trans h.cycles
  tasks := h'.tasks.trans h.tasks
  sources := h'.sources.trans h.sources

lemma Grown.refl (store : IntakeStore) : Grown [] store store where
  toKept := .refl store
  discoveries := fun _ _ h => h
  pages := fun _ page h => ⟨page.lastSeenAt, h, .inl rfl⟩
  jobs := fun _ _ h => h
  foundPage := fun _ _ _ h => h
  foundContent := fun _ _ _ h => h

lemma Grown.trans (h : Grown times before middle) (h' : Grown times' middle after) :
    Grown (times ++ times') before after where
  toKept := h.toKept.trans h'.toKept
  discoveries := fun id d hrow => h'.discoveries id d (h.discoveries id d hrow)
  pages := by
    intro id page hrow
    obtain ⟨seen, hmiddle, hseen⟩ := h.pages id page hrow
    obtain ⟨seen', hafter, hseen'⟩ := h'.pages id _ hmiddle
    refine ⟨seen', hafter, ?_⟩
    rcases hseen' with rfl | ⟨t, ht, rfl⟩
    · rcases hseen with rfl | ⟨t, ht, rfl⟩
      · exact .inl rfl
      · exact .inr ⟨t, List.mem_append_left _ ht, rfl⟩
    · exact .inr ⟨t, List.mem_append_right _ ht, rfl⟩
  jobs := fun id job hrow => h'.jobs id job (h.jobs id job hrow)
  foundPage := fun sourceId url id hfound => h'.foundPage _ _ _ (h.foundPage sourceId url id hfound)
  foundContent := fun pageId hash id hfound =>
    h'.foundContent _ _ _ (h.foundContent pageId hash id hfound)

/-- A write that the pages, the discoveries and the jobs do not see. -/
lemma Grown.of_eq (hdiscovered : after.discovered = before.discovered)
    (hjobs : after.jobs = before.jobs) (htasks : after.tasks = before.tasks)
    (hshells : after.shells = before.shells) : Grown [] before after where
  scholarships := by rw [hdiscovered]
  shells := hshells
  cycles := by rw [hdiscovered]
  tasks := htasks
  sources := by rw [hdiscovered]
  discoveries := fun id d h => by rwa [ReviewStore.discovery, hdiscovered]
  pages := fun id page h => ⟨page.lastSeenAt, by rwa [IntakeStore.page, hdiscovered], .inl rfl⟩
  jobs := fun id job h => by rwa [hjobs]
  foundPage := fun _ _ _ h => by rwa [findPage, hdiscovered]
  foundContent := fun _ _ _ h => by rwa [findContent, hdiscovered]

/-! ## Pages -/

lemma touchPage_page (store : IntakeStore) (pageId id : PageId) (now : Instant) :
    (store.touchPage pageId now).page id =
      if id = pageId then (store.page id).map fun page => { page with lastSeenAt := some now }
      else store.page id :=
  Table.row_modify _ _ _ _

lemma touchPage_findPage (store : IntakeStore) (pageId : PageId) (now : Instant)
    (sourceId : SourceId) (url : String) :
    (store.touchPage pageId now).findPage sourceId url = store.findPage sourceId url :=
  Table.findKey_modify _ _ fun _ => rfl

lemma touchPage_grown (store : IntakeStore) (pageId : PageId) (now : Instant) :
    Grown [now] store (store.touchPage pageId now) where
  toKept := ⟨rfl, rfl, rfl, rfl, rfl⟩
  discoveries := fun _ _ h => h
  pages := by
    intro id page hrow
    rw [touchPage_page, hrow]
    split
    · exact ⟨some now, rfl, .inr ⟨now, List.mem_singleton_self now, rfl⟩⟩
    · exact ⟨page.lastSeenAt, rfl, .inl rfl⟩
  jobs := fun _ _ h => h
  foundPage := fun sourceId url id h => by rwa [touchPage_findPage]
  foundContent := fun _ _ _ h => h

variable {py : IntakePy}

/-- The insert of a page adds it and nothing else. -/
lemma insertPage_ok {pageId : PageId} {page : SourcePage}
    (h : store.insertPage py pageId page = .ok after) :
    store.page pageId = none ∧
      after.discovered.db.pages = store.discovered.db.pages.insert pageId page ∧
      after.discovered.discoveries = store.discovered.discoveries ∧ after.jobs = store.jobs ∧
      after.crawlRuns = store.crawlRuns ∧ after.quarantine = store.quarantine ∧
      Kept store after := by
  unfold insertPage at h
  split at h
  · next hadmits =>
    cases h
    exact ⟨hadmits.1, rfl, rfl, rfl, rfl, rfl, ⟨rfl, rfl, rfl, rfl, rfl⟩⟩
  · cases h

/-- The page that is seen is the one of the URL, with the time. -/
structure Seen (sourceId : SourceId) (url : String) (now : Instant) (before after : IntakeStore)
    (pageId : PageId) : Prop where
  grown : Grown [now] before after
  found : after.findPage sourceId url = some pageId
  /-- The page was known, or it is new. -/
  origin : before.findPage sourceId url = some pageId ∨ before.page pageId = none
  page : ∃ page, after.page pageId = some page ∧ page.sourceId = sourceId ∧
    page.normalizedUrl = url ∧ page.lastSeenAt = some now
  discoveries : after.discovered.discoveries = before.discovered.discoveries
  jobs : after.jobs = before.jobs
  crawlRuns : after.crawlRuns = before.crawlRuns
  quarantine : after.quarantine = before.quarantine

theorem seePage_ok {newId pageId : PageId} {sourceId : SourceId} {url : String} {now : Instant}
    (h : store.seePage py newId sourceId url now = .ok (pageId, after)) :
    Seen sourceId url now store after pageId := by
  unfold seePage at h
  split at h
  · next found hfound =>
    cases h
    obtain ⟨page, hpage, hmatch⟩ := Table.findKey_eq_some hfound
    rw [Bool.and_eq_true, decide_eq_true_eq, decide_eq_true_eq] at hmatch
    refine ⟨touchPage_grown store pageId now, ?_, .inl hfound, ?_, rfl, rfl, rfl, rfl⟩
    · rw [touchPage_findPage, hfound]
    · refine ⟨{ page with lastSeenAt := some now }, ?_, hmatch.1, hmatch.2, rfl⟩
      rw [touchPage_page, if_pos rfl, IntakeStore.page, hpage]
      rfl
  · next hnone =>
    obtain ⟨inserted, hinsert, h⟩ := exceptBind_ok h
    cases h
    obtain ⟨hfree, hpages, hdiscoveries, hjobs, hruns, hquarantine, hkept⟩ :=
      insertPage_ok hinsert
    refine ⟨⟨hkept, ?_, ?_, ?_, ?_, ?_⟩, ?_, .inr hfree, ?_, hdiscoveries, hjobs, hruns,
      hquarantine⟩
    · intro id d hd
      rwa [ReviewStore.discovery, hdiscoveries]
    · intro id page hpage
      refine ⟨page.lastSeenAt, ?_, .inl rfl⟩
      rw [IntakeStore.page, hpages]
      exact Table.row_insert_of_some hfree hpage _
    · intro id job hjob
      rwa [hjobs]
    · intro sourceId' url' id hid
      rw [findPage, hpages]
      exact Table.findKey_insert_of_some hfree hid _
    · intro pageId' hash id hid
      rwa [findContent, hdiscoveries]
    · rw [findPage, hpages, Table.findKey_insert_of_none hfree hnone]
      simp
    · rw [IntakeStore.page, hpages, Table.row_insert_self]
      exact ⟨_, rfl, rfl, rfl, rfl⟩

/-- Where the page of a URL is known, it can be seen again. -/
lemma seePage_of_found {newId pageId : PageId} {sourceId : SourceId} {url : String} {now : Instant}
    (h : store.findPage sourceId url = some pageId) :
    store.seePage py newId sourceId url now = .ok (pageId, store.touchPage pageId now) := by
  rw [seePage, h]

/-! ## Discoveries and their jobs -/

/-- `payload["discovery_id"] == str(discovery_id)` -/
def namesDiscovery (job : ProcessingJob) (id : DiscoveryId) : Bool :=
  match job.payload with
  | .obj fields => (fields.lookup "discovery_id").any (·.eqStr (uuidText id))
  | _ => false

/-- The jobs of a kind that name a discovery, in the order of their insertion. -/
def jobsNaming (store : IntakeStore) (kind : String) (id : DiscoveryId) : List JobId :=
  store.jobs.keys.filter fun jobId =>
    (store.jobs.row jobId).any fun job => job.kind = kind && namesDiscovery job id

/-- A new job is counted where it names the discovery. -/
lemma jobsNaming_insert {jobId : JobId} {job : ProcessingJob} (hfree : store.jobs.row jobId = none)
    (hjobs : after.jobs = store.jobs.insert jobId job) (kind : String) (id : DiscoveryId) :
    after.jobsNaming kind id = store.jobsNaming kind id ++
      if job.kind = kind ∧ namesDiscovery job id then [jobId] else [] := by
  have hold : store.jobs.keys.filter (fun j => ((store.jobs.insert jobId job).row j).any fun job =>
      job.kind = kind && namesDiscovery job id) = store.jobsNaming kind id := by
    refine List.filter_congr fun j hj => ?_
    have hne : j ≠ jobId := fun heq => Table.notMem_keys hfree (heq ▸ hj)
    rw [Table.row_insert_of_ne _ hne]
  rw [jobsNaming, hjobs, Table.keys_insert hfree, List.filter_append, hold]
  by_cases hnames : job.kind = kind ∧ namesDiscovery job id = true
  · rw [if_pos hnames, List.filter_cons_of_pos (by simp [hnames]), List.filter_nil]
  · rw [if_neg hnames, List.filter_cons_of_neg (by simpa using hnames), List.filter_nil]

lemma insertJob_ok {jobId : JobId} {kind dedupeKey : String} {payload : Json}
    (h : store.insertJob jobId kind dedupeKey payload = .ok after) :
    store.jobs.row jobId = none ∧ (∀ id job, store.jobs.row id = some job →
        job.dedupeKey ≠ dedupeKey) ∧
      after = { store with
        jobs := store.jobs.insert jobId
          { kind := kind, dedupeKey := dedupeKey, payload := payload } } := by
  unfold insertJob at h
  split at h
  · next hadmits =>
    cases h
    refine ⟨hadmits.1, fun id job hjob => ?_, rfl⟩
    have hno := Table.findKey_eq_none.mp hadmits.2.1 id job hjob
    exact of_decide_eq_false hno
  · cases h

lemma insertJob_grown {jobId : JobId} {kind dedupeKey : String} {payload : Json}
    (h : store.insertJob jobId kind dedupeKey payload = .ok after) : Grown [] store after := by
  obtain ⟨hfree, -, rfl⟩ := insertJob_ok h
  refine ⟨⟨rfl, rfl, rfl, rfl, rfl⟩, fun _ _ h => h, fun _ page h => ⟨_, h, .inl rfl⟩, ?_,
    fun _ _ _ h => h, fun _ _ _ h => h⟩
  intro id job hjob
  exact Table.row_insert_of_some hfree hjob _

lemma insertDiscovery_ok {id : DiscoveryId} {d : Discovery}
    (h : store.insertDiscovery py id d = .ok after) :
    store.discovery id = none ∧
      after.discovered.discoveries = store.discovered.discoveries.insert id d ∧
      after.discovered.db = store.discovered.db ∧ after.jobs = store.jobs ∧
      after.crawlRuns = store.crawlRuns ∧ after.quarantine = store.quarantine ∧
      Kept store after := by
  unfold insertDiscovery at h
  split at h
  · next hadmits =>
    cases h
    exact ⟨hadmits.1, rfl, rfl, rfl, rfl, rfl, ⟨rfl, rfl, rfl, rfl, rfl⟩⟩
  · cases h

lemma insertDiscovery_grown {id : DiscoveryId} {d : Discovery}
    (h : store.insertDiscovery py id d = .ok after) : Grown [] store after := by
  obtain ⟨hfree, hdiscoveries, hdb, hjobs, -, -, hkept⟩ := insertDiscovery_ok h
  refine ⟨hkept, ?_, ?_, ?_, ?_, ?_⟩
  · intro id' d' hd'
    rw [ReviewStore.discovery, hdiscoveries]
    exact Table.row_insert_of_some hfree hd' _
  · intro pageId page hpage
    exact ⟨page.lastSeenAt, by rwa [IntakeStore.page, hdb], .inl rfl⟩
  · intro jobId job hjob
    rwa [hjobs]
  · intro sourceId url pageId hpage
    rwa [findPage, hdb]
  · intro pageId hash id' hid'
    rw [findContent, hdiscoveries]
    exact Table.findKey_insert_of_some hfree hid' _

/-- A discovery was added with its two jobs. -/
structure Added (id : DiscoveryId) (d : Discovery) (normalizeJobId linkJobId : JobId)
    (before after : IntakeStore) : Prop where
  grown : Grown [] before after
  free : before.discovery id = none
  discoveries : after.discovered.discoveries = before.discovered.discoveries.insert id d
  db : after.discovered.db = before.discovered.db
  crawlRuns : after.crawlRuns = before.crawlRuns
  quarantine : after.quarantine = before.quarantine
  /-- No job linked a discovery of this name before. -/
  linkKey : ∀ jobId job, before.jobs.row jobId = some job → job.dedupeKey ≠ IntakeStore.linkKey id
  linkJob : ∃ job, after.jobs.row linkJobId = some job ∧ job.dedupeKey = IntakeStore.linkKey id
  naming : ∀ kind other, after.jobsNaming kind other = before.jobsNaming kind other ++
    if uuidText id = uuidText other then
      (if kind = "normalize_discovery" then [normalizeJobId] else []) ++
        (if kind = "link_canonical" then [linkJobId] else [])
    else []

/-- A job about a discovery names it, and no other with another text. -/
lemma namesDiscovery_payload (kind dedupeKey : String) (id other : DiscoveryId) :
    namesDiscovery { kind := kind, dedupeKey := dedupeKey, payload := discoveryPayload id } other =
      decide (uuidText id = uuidText other) := by
  simp [namesDiscovery, discoveryPayload, Json.eqStr]

theorem addDiscovery_ok {id : DiscoveryId} {d : Discovery} {keySuffix : String}
    {normalizeJobId linkJobId : JobId}
    (h : store.addDiscovery py id d keySuffix normalizeJobId linkJobId = .ok after) :
    Added id d normalizeJobId linkJobId store after := by
  obtain ⟨entered, hentered, h⟩ := exceptBind_ok h
  obtain ⟨normalized, hnormalized, hlinked⟩ := exceptBind_ok h
  obtain ⟨hfree, hdiscoveries, hdb, hjobs, hruns, hquarantine, -⟩ := insertDiscovery_ok hentered
  have hgrown : Grown [] store after :=
    ((insertDiscovery_grown hentered).trans (insertJob_grown hnormalized)).trans
      (insertJob_grown hlinked)
  obtain ⟨hfreeN, -, rfl⟩ := insertJob_ok hnormalized
  obtain ⟨hfreeL, hkeyL, rfl⟩ := insertJob_ok hlinked
  refine ⟨hgrown, hfree, hdiscoveries, hdb, hruns, hquarantine, ?_, ?_, ?_⟩
  · intro jobId job hjob
    refine hkeyL jobId job ?_
    rw [← hjobs] at hjob
    exact Table.row_insert_of_some hfreeN hjob _
  · exact ⟨_, Table.row_insert_self _ _ _, rfl⟩
  · intro kind other
    have hentry : entered.jobsNaming kind other = store.jobsNaming kind other := by
      rw [jobsNaming, jobsNaming, hjobs]
    rw [jobsNaming_insert hfreeL rfl, jobsNaming_insert hfreeN rfl, hentry,
      namesDiscovery_payload, namesDiscovery_payload]
    by_cases hname : uuidText id = uuidText other
    · simp [hname, List.append_assoc, eq_comm]
    · simp [hname]

/-- The row of the discovery that was added. -/
lemma Added.row {id : DiscoveryId} {d : Discovery} {normalizeJobId linkJobId : JobId}
    (h : Added id d normalizeJobId linkJobId before after) : after.discovery id = some d := by
  rw [ReviewStore.discovery, h.discoveries, Table.row_insert_self]

lemma Added.keys {id : DiscoveryId} {d : Discovery} {normalizeJobId linkJobId : JobId}
    (h : Added id d normalizeJobId linkJobId before after) :
    after.discovered.discoveries.keys = before.discovered.discoveries.keys ++ [id] := by
  rw [h.discoveries, Table.keys_insert h.free]

/-! ## Jobs that name a discovery once -/

/-- A job was queued to link a discovery of this name. -/
def LinkQueued (store : IntakeStore) (id : DiscoveryId) : Prop :=
  ∃ jobId job, store.jobs.row jobId = some job ∧ job.dedupeKey = linkKey id

lemma linkKey_eq_iff {id other : DiscoveryId} :
    linkKey id = linkKey other ↔ uuidText id = uuidText other := by
  rw [linkKey, linkKey, ← String.toList_inj, String.toList_append, String.toList_append,
    List.append_cancel_left_eq, String.toList_inj]

lemma Grown.linkQueued (h : Grown times before after) {id : DiscoveryId}
    (hqueued : before.LinkQueued id) : after.LinkQueued id := by
  obtain ⟨jobId, job, hrow, hkey⟩ := hqueued
  exact ⟨jobId, job, h.jobs jobId job hrow, hkey⟩

/-- The jobs of other discoveries are the same. -/
lemma Added.naming_of_ne {id other : DiscoveryId} {d : Discovery}
    {normalizeJobId linkJobId : JobId} (h : Added id d normalizeJobId linkJobId before after)
    (hne : uuidText id ≠ uuidText other) (kind : String) :
    after.jobsNaming kind other = before.jobsNaming kind other := by
  rw [h.naming, if_neg hne, List.append_nil]

/-- The jobs of a discovery that was queued before are the same. -/
lemma Added.naming_of_queued {id other : DiscoveryId} {d : Discovery}
    {normalizeJobId linkJobId : JobId} (h : Added id d normalizeJobId linkJobId before after)
    (hqueued : before.LinkQueued other) (kind : String) :
    after.jobsNaming kind other = before.jobsNaming kind other := by
  refine h.naming_of_ne (fun heq => ?_) kind
  obtain ⟨jobId, job, hrow, hkey⟩ := hqueued
  exact h.linkKey jobId job hrow (hkey.trans (linkKey_eq_iff.mpr heq.symm))

/-- So are those of a discovery that is not queued yet. -/
lemma Added.naming_of_unqueued {id other : DiscoveryId} {d : Discovery}
    {normalizeJobId linkJobId : JobId} (h : Added id d normalizeJobId linkJobId before after)
    (hunqueued : ¬ after.LinkQueued other) (kind : String) :
    after.jobsNaming kind other = before.jobsNaming kind other := by
  refine h.naming_of_ne (fun heq => ?_) kind
  obtain ⟨job, hrow, hkey⟩ := h.linkJob
  exact hunqueued ⟨linkJobId, job, hrow, hkey.trans (linkKey_eq_iff.mpr heq)⟩

/-- A new discovery, with one new job of each kind that names it. -/
structure QueuedOnce (before after : IntakeStore) (id : DiscoveryId) : Prop where
  new : before.discovery id = none
  normalizeJob : ∃ jobId, after.jobsNaming "normalize_discovery" id =
    before.jobsNaming "normalize_discovery" id ++ [jobId]
  linkJob : ∃ jobId, after.jobsNaming "link_canonical" id =
    before.jobsNaming "link_canonical" id ++ [jobId]
  unqueued : ¬ before.LinkQueued id
  queued : after.LinkQueued id

lemma QueuedOnce.later {id : DiscoveryId} (h : QueuedOnce before middle id)
    (hgrown : Grown times middle after)
    (hsettled : ∀ kind, after.jobsNaming kind id = middle.jobsNaming kind id) :
    QueuedOnce before after id where
  new := h.new
  normalizeJob := by rw [hsettled]; exact h.normalizeJob
  linkJob := by rw [hsettled]; exact h.linkJob
  unqueued := h.unqueued
  queued := hgrown.linkQueued h.queued

lemma QueuedOnce.earlier {id : DiscoveryId} (h : QueuedOnce middle after id)
    (hgrown : Grown times before middle)
    (hunnamed : ∀ kind, middle.jobsNaming kind id = before.jobsNaming kind id) :
    QueuedOnce before after id where
  new := by
    cases hrow : before.discovery id with
    | none => rfl
    | some d =>
      have hmiddle := hgrown.discoveries id d hrow
      rw [h.new] at hmiddle
      cases hmiddle
  normalizeJob := by rw [← hunnamed]; exact h.normalizeJob
  linkJob := by rw [← hunnamed]; exact h.linkJob
  unqueued := fun hqueued => h.unqueued (hgrown.linkQueued hqueued)
  queued := h.queued

lemma jobsNaming_congr (hjobs : after.jobs = before.jobs) (kind : String) (id : DiscoveryId) :
    after.jobsNaming kind id = before.jobsNaming kind id := by
  rw [jobsNaming, jobsNaming, hjobs]

lemma linkQueued_congr (hjobs : after.jobs = before.jobs) {id : DiscoveryId} :
    after.LinkQueued id ↔ before.LinkQueued id := by
  rw [LinkQueued, LinkQueued, hjobs]

/-- The discovery that was added to a page that was seen. -/
lemma Added.queuedOnce {id : DiscoveryId} {d : Discovery} {normalizeJobId linkJobId : JobId}
    {sourceId : SourceId} {url : String} {now : Instant} {pageId : PageId}
    (h : Added id d normalizeJobId linkJobId middle after)
    (hseen : Seen sourceId url now before middle pageId) : QueuedOnce before after id where
  new := by
    have hfree := h.free
    rwa [ReviewStore.discovery, hseen.discoveries] at hfree
  normalizeJob := by
    refine ⟨normalizeJobId, ?_⟩
    rw [h.naming, jobsNaming_congr hseen.jobs]
    simp
  linkJob := by
    refine ⟨linkJobId, ?_⟩
    rw [h.naming, jobsNaming_congr hseen.jobs]
    simp
  unqueued := by
    rintro ⟨jobId, job, hrow, hkey⟩
    rw [← hseen.jobs] at hrow
    exact h.linkKey jobId job hrow hkey
  queued := ⟨linkJobId, h.linkJob⟩

end IntakeStore

/-! ## One record, by its bucket -/

section

variable (py : IntakePy)

/-- The URL of the record is unusable, or its source is unknown or inactive. -/
def rejects (store : IntakeStore) (record : FeedRecord) : Bool :=
  match canonicalizeUrl py.toPy record.url with
  | .error _ => true
  | .ok _ => !(store.discovered.db.sources.row record.sourceId).any (·.active)

/-- The row that preserves a record. -/
def quarantineOf (runId : CrawlRunId) (record : FeedRecord) : DiscoveryQuarantine :=
  match canonicalizeUrl py.toPy record.url with
  | .error _ => quarantineRow runId record record.url "invalid_url"
  | .ok normalizedUrl => quarantineRow runId record normalizedUrl "unknown_or_inactive_source"

/-- What one record does. -/
inductive Recorded (runId : CrawlRunId) (startedAt : Instant) (record : FeedRecord)
    (answers : RecordAnswers) (before : IntakeStore) : Bucket → IntakeStore → Prop
  | rejected (hrejects : rejects py before record) :
    Recorded runId startedAt record answers before .rejected
      { before with quarantine := before.quarantine ++ [quarantineOf py runId record] }
  | repeated {candidate : DiscoveryCandidate} {pageId : PageId} {seen : IntakeStore}
      {existing : DiscoveryId} (haccepts : rejects py before record = false)
      (hcandidate : prepareCandidate py.toPy record.url record.title record.excerpt = .ok candidate)
      (hseen : IntakeStore.Seen record.sourceId candidate.normalizedUrl answers.now before seen
        pageId)
      (hfound : seen.findContent pageId candidate.contentHash = some existing) :
    Recorded runId startedAt record answers before .repeated seen
  | entered {candidate : DiscoveryCandidate} {pageId : PageId} {seen after : IntakeStore}
      (haccepts : rejects py before record = false)
      (hcandidate : prepareCandidate py.toPy record.url record.title record.excerpt = .ok candidate)
      (hseen : IntakeStore.Seen record.sourceId candidate.normalizedUrl answers.now before seen
        pageId)
      (hnew : seen.findContent pageId candidate.contentHash = none)
      (hadded : IntakeStore.Added answers.discoveryId (importedDiscovery py runId startedAt record
        candidate pageId (seen.headRevision pageId answers.headChoice)) answers.normalizeJobId
        answers.linkJobId seen after) :
    Recorded runId startedAt record answers before
      (if (seen.headRevision pageId answers.headChoice).isSome then .changed else .imported) after

variable {py} {runId : CrawlRunId} {startedAt : Instant} {record : FeedRecord}
  {answers : RecordAnswers} {before after : IntakeStore} {bucket : Bucket}

lemma insertQuarantine_ok {row : DiscoveryQuarantine}
    (h : insertQuarantine py row before = .ok after) :
    after = { before with quarantine := before.quarantine ++ [row] } := by
  unfold insertQuarantine at h
  split at h
  · cases h
    rfl
  · cases h

theorem importRecord_ok
    (h : importRecord py runId startedAt record answers before = .ok (bucket, after)) :
    Recorded py runId startedAt record answers before bucket after := by
  unfold importRecord at h
  split at h
  · next e he =>
    split at h
    · obtain ⟨kept, hkept, h⟩ := exceptBind_ok h
      cases h
      obtain rfl := insertQuarantine_ok hkept
      have hurl : ∃ e', canonicalizeUrl py.toPy record.url = .error e' := by
        cases hurl : canonicalizeUrl py.toPy record.url with
        | error e' => exact ⟨e', rfl⟩
        | ok normalizedUrl =>
          rw [prepareCandidate, hurl] at he
          cases he
      obtain ⟨e', hurl⟩ := hurl
      have hrow : quarantineRow runId record record.url "invalid_url" =
          quarantineOf py runId record := by rw [quarantineOf, hurl]
      rw [hrow]
      exact .rejected (by rw [rejects, hurl])
    · cases h
  · next candidate hcandidate =>
    have hurl := (prepareCandidate_ok hcandidate).1
    split at h
    · next hactive =>
      have haccepts : rejects py before record = false := by
        rw [rejects, hurl]
        simp [hactive]
      obtain ⟨⟨pageId, seen⟩, hpage, h⟩ := exceptBind_ok h
      have hseen := IntakeStore.seePage_ok hpage
      dsimp only at h
      unfold importContent at h
      split at h
      · next existing hfound =>
        cases h
        exact .repeated haccepts hcandidate hseen hfound
      · next hnew =>
        obtain ⟨added, hadded, h⟩ := exceptBind_ok h
        cases h
        exact .entered haccepts hcandidate hseen hnew (IntakeStore.addDiscovery_ok hadded)
    · next hinactive =>
      obtain ⟨kept, hkept, h⟩ := exceptBind_ok h
      cases h
      obtain rfl := insertQuarantine_ok hkept
      have hrow : quarantineRow runId record candidate.normalizedUrl
          "unknown_or_inactive_source" = quarantineOf py runId record := by rw [quarantineOf, hurl]
      rw [hrow]
      refine .rejected ?_
      rw [rejects, hurl]
      simpa using hinactive

/-- A record adds rows and touches the page at its time. -/
theorem Recorded.grown (h : Recorded py runId startedAt record answers before bucket after) :
    IntakeStore.Grown [answers.now] before after := by
  cases h with
  | rejected =>
    have hgrown : IntakeStore.Grown [] before
        { before with quarantine := before.quarantine ++ [quarantineOf py runId record] } :=
      .of_eq rfl rfl rfl rfl
    exact { hgrown with
      pages := fun id page hrow => ⟨page.lastSeenAt, hrow, .inl rfl⟩ }
  | repeated _ _ hseen _ => exact hseen.grown
  | entered _ _ hseen _ hadded => exact hseen.grown.trans hadded.grown

end

/-! ## Laws of the records of a batch -/

section

variable (py : IntakePy) (runId : CrawlRunId) (startedAt : Instant)

/-- A law of the records of a batch, in the states they meet; a record that raises ends it. -/
def EachRecord (law : IntakeStore → FeedRecord × RecordAnswers → Bucket → IntakeStore → Prop) :
    List (FeedRecord × RecordAnswers) → IntakeStore → Prop
  | [], _ => True
  | e :: batch, store =>
    match importRecord py runId startedAt e.1 e.2 store with
    | .error _ => True
    | .ok (bucket, after) => law store e bucket after ∧ EachRecord law batch after

instance EachRecord.decidable
    (law : IntakeStore → FeedRecord × RecordAnswers → Bucket → IntakeStore → Prop)
    [∀ s e bucket t, Decidable (law s e bucket t)] :
    ∀ batch store, Decidable (EachRecord py runId startedAt law batch store)
  | [], _ => isTrue trivial
  | e :: batch, store => by
    unfold EachRecord
    exact match importRecord py runId startedAt e.1 e.2 store with
      | .error _ => isTrue trivial
      | .ok (_, after) =>
        have : Decidable (EachRecord py runId startedAt law batch after) :=
          EachRecord.decidable law batch after
        instDecidableAnd

variable {py runId startedAt} {I : IntakeStore → Prop}
  {law law' : IntakeStore → FeedRecord × RecordAnswers → Bucket → IntakeStore → Prop}
  {batch : List (FeedRecord × RecordAnswers)} {store : IntakeStore}

lemma eachRecord_true (batch : List (FeedRecord × RecordAnswers)) (store : IntakeStore) :
    EachRecord py runId startedAt (fun _ _ _ _ => True) batch store := by
  induction batch generalizing store with
  | nil => trivial
  | cons e batch ih =>
    rw [EachRecord]
    split
    · trivial
    · exact ⟨trivial, ih _⟩

/-- Laws that agree in the states of an invariant, which the first of them preserves. -/
theorem eachRecord_congr
    (hiff : ∀ e s bucket t, Recorded py runId startedAt e.1 e.2 s bucket t → I s →
      (law s e bucket t ↔ law' s e bucket t))
    (hrecord : ∀ e s bucket t, Recorded py runId startedAt e.1 e.2 s bucket t → I s →
      law s e bucket t → I t)
    (hI : I store) :
    EachRecord py runId startedAt law batch store ↔
      EachRecord py runId startedAt law' batch store := by
  induction batch generalizing store with
  | nil => exact Iff.rfl
  | cons e batch ih =>
    rw [EachRecord, EachRecord]
    split
    · exact Iff.rfl
    · next bucket middle h =>
      have hrecorded := importRecord_ok h
      rw [← hiff e _ _ _ hrecorded hI]
      exact and_congr_right fun hlaw => ih (hrecord e _ _ _ hrecorded hI hlaw)

/-- An invariant of the records that obey a law is one of the loop, also where it raises. -/
theorem importRecords_invariant
    (hrecord : ∀ e s bucket t, Recorded py runId startedAt e.1 e.2 s bucket t → I s →
      law s e bucket t → I t)
    {counts : ImportCounts} (hI : I store) (hlaw : EachRecord py runId startedAt law batch store) :
    I (importRecords py runId startedAt batch counts store).2.2 := by
  induction batch generalizing counts store with
  | nil => exact hI
  | cons e batch ih =>
    rw [importRecords]
    rw [EachRecord] at hlaw
    cases h : importRecord py runId startedAt e.1 e.2 store with
    | error _ => exact hI
    | ok result =>
      obtain ⟨bucket, middle⟩ := result
      rw [h] at hlaw
      exact ih (hrecord e _ _ _ (importRecord_ok h) hI hlaw.1) hlaw.2

/-- An invariant that looks at the pages and the discoveries alone is one of the import. -/
theorem importFeedRecords_invariant (heq : ∀ s t, t.discovered = s.discovered → I s → I t)
    (hrecord : ∀ e s bucket t, Recorded py runId startedAt e.1 e.2 s bucket t → I s →
      law s e bucket t → I t)
    (finishedAt : Instant) (hI : I store)
    (hlaw : store.crawlRuns.row runId = none → EachRecord py runId startedAt law batch
      (store.startRun runId startedAt (batch.map Prod.fst))) :
    I (importFeedRecords py runId startedAt finishedAt batch store).2 := by
  cases hfree : store.crawlRuns.row runId with
  | some run =>
    rw [importFeedRecords_of_taken (by rw [hfree]; simp)]
    exact hI
  | none =>
    have hstarted : I (store.startRun runId startedAt (batch.map Prod.fst)) := heq store _ rfl hI
    obtain ⟨raised, counts, worked, hloop⟩ : ∃ raised counts worked,
        importRecords py runId startedAt batch {}
          (store.startRun runId startedAt (batch.map Prod.fst)) = (raised, counts, worked) :=
      ⟨_, _, _, rfl⟩
    have hworked : I worked := by
      have hloopI := @importRecords_invariant py runId startedAt I law batch _ hrecord {} hstarted
        (hlaw hfree)
      rwa [hloop] at hloopI
    have hfinished : ∀ raised, I (worked.finishRun runId raised counts finishedAt) :=
      fun raised => heq worked _ rfl hworked
    cases raised with
    | none =>
      rw [importFeedRecords_of_ended hfree hloop]
      exact hfinished none
    | some e =>
      rw [importFeedRecords_of_raised hfree hloop]
      dsimp only
      split
      · exact hI
      · exact hfinished (some e)

end

/-! ## Errors -/

section

variable {py : IntakePy} {store : IntakeStore}

/-- The computation ends, or the database has refused a row. -/
def OnlyRefused {α : Type} (x : Except PyErr α) : Prop :=
  Handled (fun e : PyErr => e.isDatabase = true) x fun _ => True

lemma onlyRefused_ok {α : Type} (a : α) : OnlyRefused (.ok a) := trivial

lemma onlyRefused_refused {α : Type} : OnlyRefused (refused (α := α)) := by
  show PyErr.isDatabase _ = true
  rfl

lemma OnlyRefused.bind {α β : Type} {x : Except PyErr α} {f : α → Except PyErr β}
    (h : OnlyRefused x) (hf : ∀ a, OnlyRefused (f a)) : OnlyRefused (x >>= f) := by
  rw [OnlyRefused, handled_bind]
  exact (handled_congr fun a _ => iff_of_true trivial (hf a)).mp h

/-- A computation of this kind that the database does not refuse ends. -/
lemma OnlyRefused.ok {α : Type} {x : Except PyErr α} (h : OnlyRefused x)
    (hdb : ∀ e, x = .error e → e.isDatabase = false) : ∃ a, x = .ok a := by
  cases x with
  | ok a => exact ⟨a, rfl⟩
  | error e =>
    have hrefused : e.isDatabase = true := h
    rw [hdb e rfl] at hrefused
    cases hrefused

lemma seePage_onlyRefused (pageId : PageId) (sourceId : SourceId) (url : String) (now : Instant) :
    OnlyRefused (store.seePage py pageId sourceId url now) := by
  unfold IntakeStore.seePage
  split
  · exact onlyRefused_ok _
  · refine OnlyRefused.bind ?_ fun _ => onlyRefused_ok _
    unfold IntakeStore.insertPage
    split
    · exact onlyRefused_ok _
    · exact onlyRefused_refused

lemma insertJob_onlyRefused (jobId : JobId) (kind dedupeKey : String) (payload : Json) :
    OnlyRefused (store.insertJob jobId kind dedupeKey payload) := by
  unfold IntakeStore.insertJob
  split
  · exact onlyRefused_ok _
  · exact onlyRefused_refused

lemma addDiscovery_onlyRefused (id : DiscoveryId) (d : Discovery) (keySuffix : String)
    (normalizeJobId linkJobId : JobId) :
    OnlyRefused (store.addDiscovery py id d keySuffix normalizeJobId linkJobId) := by
  refine OnlyRefused.bind ?_ fun _ =>
    (insertJob_onlyRefused _ _ _ _).bind fun _ => insertJob_onlyRefused _ _ _ _
  unfold IntakeStore.insertDiscovery
  split
  · exact onlyRefused_ok _
  · exact onlyRefused_refused

end

end ScholarshipFinder
