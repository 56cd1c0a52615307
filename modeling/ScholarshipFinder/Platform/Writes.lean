import ScholarshipFinder.Approval.Attempts
import ScholarshipFinder.Intake.Lineages
import ScholarshipFinder.Platform

/-!
# What the operations of the platform write

Of all operations, five kinds write what is published: a scholarship is created, a cycle is
published, a cycle is corrected, a scholarship is withdrawn, and the scheduled jobs write the status
of cycles (`CatalogueMove`).  What discoveries and tasks refer to is only added to (`RefersOn`), and
an open task is one that was open, or the one new task of a discovery that had none (`TasksOn`).
What is collected comes from a source that is active (`CollectsOn`).
-/

namespace ScholarshipFinder

open Lib

/-- The columns that a cycle is unique under. -/
def ScholarshipCycle.identity (row : ScholarshipCycle) : ScholarshipId × String × String :=
  (row.scholarshipId, row.providerCycleKey, row.applicantSegment)

/-- The identity of a stored cycle. -/
def Db.identityOf (db : Db) (c : CycleId) : Option (ScholarshipId × String × String) :=
  (db.cycles.row c).map ScholarshipCycle.identity

/-! ## The catalogue -/

/-- What is published is the same, up to the status of the cycles. -/
structure SameCatalogue (before after : Db) : Prop where
  scholarships : after.scholarships = before.scholarships
  keys : after.cycles.keys = before.cycles.keys
  identities : ∀ c, after.identityOf c = before.identityOf c

lemma SameCatalogue.refl (db : Db) : SameCatalogue db db := ⟨rfl, rfl, fun _ => rfl⟩

lemma SameCatalogue.trans {before middle after : Db} (h : SameCatalogue before middle)
    (h' : SameCatalogue middle after) : SameCatalogue before after :=
  ⟨h'.scholarships.trans h.scholarships, h'.keys.trans h.keys,
    fun c => (h'.identities c).trans (h.identities c)⟩

/-- A scholarship that is created from a discovery, by an attempt or by a reviewer. -/
structure Creation where
  scholarshipId : ScholarshipId
  discoveryId : DiscoveryId
  taskId : TaskId
  byAttempt : Bool
deriving DecidableEq, Repr

/-- A cycle that is published, by an attempt or by a reviewer. -/
structure Publication where
  cycleId : CycleId
  scholarshipId : ScholarshipId
  byAttempt : Bool
deriving DecidableEq, Repr

/-- What an operation does that is accounted for: the scholarship that it creates, the cycle that it
publishes, the task that it prepares, and the page whose fetch was let in by an earlier transaction
of its turn. -/
structure Effect where
  creation : Option Creation := none
  publication : Option Publication := none
  prepared : Option TaskId := none
  resumed : Option PageId := none

/-- What an operation makes of the catalogue, with what it creates and publishes. -/
inductive CatalogueMove (before after : ReviewStore) : Option Creation → Option Publication → Prop
  | kept (hshells : after.shells = before.shells)
      (hcatalogue : SameCatalogue before.discovered.db after.discovered.db)
      (hproviders : ∀ id, (before.providers.row id).isSome → (after.providers.row id).isSome)
      (hauto : after.autoApproved = before.autoApproved) :
      CatalogueMove before after none none
  | created (creation : Creation) (shell : ScholarshipShell)
      (hfree : before.shells.row creation.scholarshipId = none)
      (hslug : ∀ id other, before.shells.row id = some other → other.slug ≠ shell.slug)
      (hprovider : (before.providers.row shell.providerId).isSome)
      (hshells : after.shells = before.shells.insert creation.scholarshipId shell)
      (hscholarships : after.discovered.db.scholarships =
        before.discovered.db.scholarships.insert creation.scholarshipId ⟨.needsReview⟩)
      (hcycles : after.discovered.db.cycles = before.discovered.db.cycles)
      (hproviders : after.providers = before.providers)
      (hauto : after.autoApproved = before.autoApproved) :
      CatalogueMove before after (some creation) none
  | published (publication : Publication) (row : ScholarshipCycle)
      (hid : row.scholarshipId = publication.scholarshipId)
      (hfree : before.discovered.db.cycles.row publication.cycleId = none)
      (hidentity : ∀ c, before.discovered.db.identityOf c ≠ some row.identity)
      (hlive : ∃ s, before.discovered.db.scholarships.row row.scholarshipId = some s ∧
        s.lifecycleState ≠ .withdrawn)
      (hshells : after.shells = before.shells)
      (hscholarships : after.discovered.db.scholarships =
        before.discovered.db.scholarships.modify row.scholarshipId fun s =>
          { s with lifecycleState := .published })
      (hcycles : after.discovered.db.cycles =
        before.discovered.db.cycles.insert publication.cycleId row)
      (hproviders : after.providers = before.providers)
      (hauto : after.autoApproved = before.autoApproved ++
        if publication.byAttempt then [publication.cycleId] else []) :
      CatalogueMove before after none (some publication)
  | corrected (c : CycleId) (row row' : ScholarshipCycle)
      (hrow : before.discovered.db.cycles.row c = some row)
      (howner : row'.scholarshipId = row.scholarshipId)
      (hidentity : row'.identity = row.identity ∨
        ∀ other, other ≠ c → before.discovered.db.identityOf other ≠ some row'.identity)
      (hshells : after.shells = before.shells)
      (hscholarships : after.discovered.db.scholarships = before.discovered.db.scholarships)
      (hkeys : after.discovered.db.cycles.keys = before.discovered.db.cycles.keys)
      (hcycles : ∀ other, after.discovered.db.cycles.row other =
        if other = c then some row' else before.discovered.db.cycles.row other)
      (hproviders : after.providers = before.providers)
      (hauto : after.autoApproved = before.autoApproved) :
      CatalogueMove before after none none
  | withdrawn (id : ScholarshipId)
      (hshells : after.shells = before.shells)
      (hscholarships : after.discovered.db.scholarships =
        before.discovered.db.scholarships.modify id fun s =>
          { s with lifecycleState := .withdrawn })
      (hkeys : after.discovered.db.cycles.keys = before.discovered.db.cycles.keys)
      (hidentities : ∀ c, after.discovered.db.identityOf c = before.discovered.db.identityOf c)
      (hproviders : after.providers = before.providers)
      (hauto : after.autoApproved = before.autoApproved) :
      CatalogueMove before after none none

/-! ## What is collected -/

/-- The source that a page belongs to. -/
def Db.sourceOf (db : Db) (p : PageId) : Option SourceId := (db.pages.row p).map (·.sourceId)

/-- The source is there and active. -/
def Db.isActive (db : Db) (id : SourceId) : Bool := (db.sources.row id).any (·.active)

/-- Pages may be added or seen, and no source and no snapshot is written. -/
structure PagesOn (before after : Db) : Prop where
  pages : ∀ p id, before.sourceOf p = some id → after.sourceOf p = some id
  sources : after.sources = before.sources
  snapshots : after.snapshots = before.snapshots

/-- Pages keep their sources, no source that is known becomes active, and a snapshot that is new is
of a page of an active source, or of the page whose fetch was let in before. -/
structure CollectsOn (before after : Db) (resumed : Option PageId) : Prop where
  pages : ∀ p id, before.sourceOf p = some id → after.sourceOf p = some id
  sources : ∀ id, (before.sources.row id).isSome → (after.sources.row id).isSome ∧
    (after.isActive id = true → before.isActive id = true)
  snapshots : ∃ new : Option SourceSnapshot, after.snapshots = before.snapshots ++ new.toList ∧
    ∀ snapshot ∈ new, resumed = some snapshot.pageId ∨
      ∃ id, after.sourceOf snapshot.pageId = some id ∧ before.isActive id = true

section

variable {before middle after : Db} {resumed : Option PageId}

lemma PagesOn.of_eq (hpages : after.pages = before.pages)
    (hsources : after.sources = before.sources)
    (hsnapshots : after.snapshots = before.snapshots) : PagesOn before after :=
  ⟨fun p id h => by rwa [Db.sourceOf, hpages], hsources, hsnapshots⟩

lemma PagesOn.refl (db : Db) : PagesOn db db := .of_eq rfl rfl rfl

lemma PagesOn.trans (h : PagesOn before middle) (h' : PagesOn middle after) :
    PagesOn before after :=
  ⟨fun p id hp => h'.pages p id (h.pages p id hp), h'.sources.trans h.sources,
    h'.snapshots.trans h.snapshots⟩

lemma PagesOn.isActive (h : PagesOn before after) (id : SourceId) :
    after.isActive id = before.isActive id := by
  rw [Db.isActive, Db.isActive, h.sources]

lemma CollectsOn.after_pages (h : PagesOn before middle) (h' : CollectsOn middle after resumed) :
    CollectsOn before after resumed where
  pages := fun p id hp => h'.pages p id (h.pages p id hp)
  sources := fun id hid => by
    rw [← h.isActive]
    rw [← h.sources] at hid
    exact h'.sources id hid
  snapshots := by
    obtain ⟨new, hnew, hof⟩ := h'.snapshots
    refine ⟨new, by rw [hnew, h.snapshots], fun snapshot hmem => ?_⟩
    rcases hof snapshot hmem with hheld | ⟨id, hid, hactive⟩
    · exact .inl hheld
    · exact .inr ⟨id, hid, by rwa [h.isActive] at hactive⟩

lemma CollectsOn.refl (db : Db) : CollectsOn db db resumed :=
  ⟨fun _ _ h => h, fun _ h => ⟨h, fun h => h⟩, none, (List.append_nil _).symm,
    fun _ h => by cases h⟩

lemma PagesOn.collects (h : PagesOn before after) : CollectsOn before after resumed := by
  refine ⟨h.pages, fun id hid => ?_, none, by rw [h.snapshots]; exact (List.append_nil _).symm,
    fun _ h => by cases h⟩
  rw [h.isActive, h.sources]
  exact ⟨hid, fun h => h⟩

end

/-! ## What refers to discoveries and scholarships -/

/-- The discoveries that a discovery refers to. -/
def Discovery.lineage (d : Discovery) : List DiscoveryId :=
  d.supersedesDiscoveryId.toList ++ d.splitFromDiscoveryId.toList ++ d.duplicateOfDiscoveryId.toList

/-- A discovery has the page and the texts that it came with. -/
def Discovery.SameItem (d d' : Discovery) : Prop :=
  d'.sourcePageId = d.sourcePageId ∧ d'.rawTitle = d.rawTitle ∧ d'.rawExcerpt = d.rawExcerpt

lemma Discovery.SameItem.refl (d : Discovery) : d.SameItem d := ⟨rfl, rfl, rfl⟩

/-- Nothing that may be referred to is lost, and what is referred to anew is there.  A discovery
that enters is on a page of an active source. -/
structure RefersOn (before after : ReviewStore) : Prop where
  shells : ∀ id, (before.shells.row id).isSome → (after.shells.row id).isSome
  items : ∀ id d, before.discovery id = some d → ∃ d', after.discovery id = some d' ∧ d.SameItem d'
  entered : ∀ id d, before.discovery id = none → after.discovery id = some d → ∃ sourceId,
    after.discovered.db.sourceOf d.sourcePageId = some sourceId ∧
      before.discovered.db.isActive sourceId = true
  canonical : ∀ id d scholarshipId, after.discovery id = some d →
    d.canonicalScholarshipId = some scholarshipId →
    (∃ old, before.discovery id = some old ∧ old.canonicalScholarshipId = some scholarshipId) ∨
      (after.shells.row scholarshipId).isSome
  lineage : ∀ id d other, after.discovery id = some d → other ∈ d.lineage →
    (∃ old, before.discovery id = some old ∧ other ∈ old.lineage) ∨ (after.discovery other).isSome
  tasks : ∀ taskId task id, after.tasks.row taskId = some task → task.discoveryId = some id →
    (∃ old, before.tasks.row taskId = some old ∧ old.discoveryId = some id) ∨
      (after.discovery id).isSome

/-- A task that is open was open, or is a new one; a draft was there, or its task was prepared. -/
structure TasksOn (before after : ReviewStore) (prepared : Option TaskId) : Prop where
  opened : ∃ new : Option TaskId, ∀ taskId task, after.tasks.row taskId = some task →
    task.state = .opened →
      (∃ old, before.tasks.row taskId = some old ∧ old.state = .opened ∧
        old.discoveryId = task.discoveryId ∧ old.resolution = task.resolution) ∨
      new = some taskId ∧ task.resolution = none ∧ ∃ id, task.discoveryId = some id ∧
        ∀ other old, before.tasks.row other = some old → old.discoveryId = some id →
          old.live = false
  drafts : ∀ taskId task draft, after.tasks.row taskId = some task →
    task.draftRecommendation = some draft → prepared = some taskId ∨
      ∃ old, before.tasks.row taskId = some old ∧ old.discoveryId = task.discoveryId ∧
        old.draftRecommendation = some draft

/-- What an operation writes. -/
structure Writes (before after : ReviewStore) (effect : Effect) : Prop where
  catalogue : CatalogueMove before after effect.creation effect.publication
  refers : RefersOn before after
  tasks : TasksOn before after effect.prepared
  collects : CollectsOn before.discovered.db after.discovered.db effect.resumed

variable {before after : ReviewStore} {prepared : Option TaskId}

lemma RefersOn.discoveries (h : RefersOn before after) (id : DiscoveryId)
    (hid : (before.discovery id).isSome) : (after.discovery id).isSome := by
  obtain ⟨d, hd⟩ := Option.isSome_iff_exists.mp hid
  obtain ⟨d', hd', -⟩ := h.items id d hd
  rw [hd']
  rfl

lemma TasksOn.of_eq (h : after.tasks = before.tasks) : TasksOn before after prepared where
  opened := ⟨none, fun taskId task hrow hopened => .inl ⟨task, by rwa [← h], hopened, rfl, rfl⟩⟩
  drafts := fun taskId task draft hrow hdraft => .inr ⟨task, by rwa [← h], rfl, hdraft⟩

/-- An operation on the database of the cycles alone. -/
lemma RefersOn.of_eq (hshells : after.shells = before.shells)
    (hdiscoveries : after.discovered.discoveries = before.discovered.discoveries)
    (htasks : after.tasks = before.tasks) : RefersOn before after where
  shells := fun id h => by rwa [hshells]
  items := fun id d h => ⟨d, by rwa [ReviewStore.discovery, hdiscoveries], .refl d⟩
  entered := fun id d hnone hrow => by
    rw [ReviewStore.discovery, hdiscoveries] at hrow
    rw [ReviewStore.discovery, hrow] at hnone
    cases hnone
  canonical := fun id d scholarshipId hrow hid =>
    .inl ⟨d, by rwa [ReviewStore.discovery, hdiscoveries] at hrow, hid⟩
  lineage := fun id d other hrow hmem =>
    .inl ⟨d, by rwa [ReviewStore.discovery, hdiscoveries] at hrow, hmem⟩
  tasks := fun taskId task id hrow hid => .inl ⟨task, by rwa [htasks] at hrow, hid⟩

/-- Nothing is written that the catalogue or a reference sees. -/
lemma Writes.of_eq {resumed : Option PageId} (hshells : after.shells = before.shells)
    (hcatalogue : SameCatalogue before.discovered.db after.discovered.db)
    (hdiscoveries : after.discovered.discoveries = before.discovered.discoveries)
    (htasks : after.tasks = before.tasks)
    (hproviders : ∀ id, (before.providers.row id).isSome → (after.providers.row id).isSome)
    (hauto : after.autoApproved = before.autoApproved)
    (hcollects : CollectsOn before.discovered.db after.discovered.db resumed) :
    Writes before after { resumed := resumed } :=
  ⟨.kept hshells hcatalogue hproviders hauto, .of_eq hshells hdiscoveries htasks, .of_eq htasks,
    hcollects⟩

lemma Writes.refl {resumed : Option PageId} (store : ReviewStore) :
    Writes store store { resumed := resumed } :=
  .of_eq rfl (.refl _) rfl rfl (fun _ h => h) rfl (.refl _)

/-! ## Imports and submissions -/

/-- Discoveries were added that have no scholarship and are on pages of active sources, and no table
of the reviews was written. -/
structure Intaken (before after : IntakeStore) : Prop where
  shells : after.shells = before.shells
  tasks : after.tasks = before.tasks
  providers : after.providers = before.providers
  autoApproved : after.autoApproved = before.autoApproved
  scholarships : after.discovered.db.scholarships = before.discovered.db.scholarships
  cycles : after.discovered.db.cycles = before.discovered.db.cycles
  pages : PagesOn before.discovered.db after.discovered.db
  rows : ∀ id d, before.discovery id = some d → after.discovery id = some d
  new : ∀ id d, after.discovery id = some d → before.discovery id = some d ∨
    d.canonicalScholarshipId = none ∧ ∃ sourceId,
      after.discovered.db.sourceOf d.sourcePageId = some sourceId ∧
        before.discovered.db.isActive sourceId = true

section

open IntakeStore

variable {py : IntakePy} {before middle after store : IntakeStore}

/-- A write beside the discoveries and the reviews. -/
lemma Intaken.of_eq (h : after.toReviewStore = before.toReviewStore) : Intaken before after := by
  refine ⟨by rw [h], by rw [h], by rw [h], by rw [h], by rw [h], by rw [h],
    .of_eq (by rw [h]) (by rw [h]) (by rw [h]), fun id d hrow => ?_, fun id d hrow => .inl ?_⟩
  · rwa [h]
  · rwa [h] at hrow

lemma Intaken.refl (store : IntakeStore) : Intaken store store := .of_eq rfl

lemma Intaken.trans (h : Intaken before middle) (h' : Intaken middle after) :
    Intaken before after where
  shells := h'.shells.trans h.shells
  tasks := h'.tasks.trans h.tasks
  providers := h'.providers.trans h.providers
  autoApproved := h'.autoApproved.trans h.autoApproved
  scholarships := h'.scholarships.trans h.scholarships
  cycles := h'.cycles.trans h.cycles
  pages := h.pages.trans h'.pages
  rows := fun id d hrow => h'.rows id d (h.rows id d hrow)
  new := by
    intro id d hrow
    rcases h'.new id d hrow with hmiddle | ⟨hnone, sourceId, hsource, hactive⟩
    · rcases h.new id d hmiddle with hbefore | ⟨hnone, sourceId, hsource, hactive⟩
      · exact .inl hbefore
      · exact .inr ⟨hnone, sourceId, h'.pages.pages _ _ hsource, hactive⟩
    · exact .inr ⟨hnone, sourceId, hsource, by rwa [h.pages.isActive] at hactive⟩

/-- A write of pages alone. -/
lemma Intaken.of_pages {pages : Table PageId SourcePage} {hpage hdiscovery}
    (hpages : ∀ p id, store.discovered.db.sourceOf p = some id →
      (pages.row p).map (·.sourceId) = some id) :
    Intaken store { store with discovered :=
      ⟨{ store.discovered.db with pages := pages }, store.discovered.discoveries, hpage,
        hdiscovery⟩ } :=
  ⟨rfl, rfl, rfl, rfl, rfl, rfl, ⟨hpages, rfl, rfl⟩, fun _ _ h => h, fun _ _ h => .inl h⟩

lemma seePage_intaken {newId pageId : PageId} {sourceId : SourceId} {url : String} {now : Instant}
    (h : store.seePage py newId sourceId url now = .ok (pageId, after)) : Intaken store after := by
  unfold IntakeStore.seePage at h
  split at h
  · cases h
    refine .of_pages fun p id hp => ?_
    rw [Table.row_modify]
    split
    · rw [Option.map_map]
      exact hp
    · exact hp
  · obtain ⟨inserted, hinsert, h⟩ := exceptBind_ok h
    cases h
    unfold IntakeStore.insertPage at hinsert
    split at hinsert
    · next hadmits =>
      cases hinsert
      refine .of_pages fun p id hp => ?_
      obtain ⟨page, hpage, hid⟩ := Option.map_eq_some_iff.mp hp
      rw [Table.row_insert_of_some hadmits.1 hpage, Option.map_some, hid]
    · cases hinsert

/-- The page that is seen belongs to the source. -/
lemma seePage_sourceOf {newId pageId : PageId} {sourceId : SourceId} {url : String} {now : Instant}
    (h : store.seePage py newId sourceId url now = .ok (pageId, after)) :
    after.discovered.db.sourceOf pageId = some sourceId := by
  obtain ⟨page, hpage, hsource, -, -⟩ := (seePage_ok h).page
  have hrow : after.discovered.db.pages.row pageId = some page := hpage
  rw [Db.sourceOf, hrow, Option.map_some, hsource]

lemma addDiscovery_intaken {id : DiscoveryId} {d : Discovery} {keySuffix : String}
    {normalizeJobId linkJobId : JobId} {sourceId : SourceId} (hd : d.canonicalScholarshipId = none)
    (hsource : store.discovered.db.sourceOf d.sourcePageId = some sourceId)
    (hactive : store.discovered.db.isActive sourceId = true)
    (h : store.addDiscovery py id d keySuffix normalizeJobId linkJobId = .ok after) :
    Intaken store after := by
  obtain ⟨entered, hentered, h⟩ := exceptBind_ok h
  obtain ⟨normalized, hnormalized, hlinked⟩ := exceptBind_ok h
  have hjobs : Intaken entered after :=
    (Intaken.of_eq (insertJob_reviews hnormalized)).trans (.of_eq (insertJob_reviews hlinked))
  refine Intaken.trans ?_ hjobs
  obtain ⟨hfree, hdiscoveries, -⟩ := insertDiscovery_ok hentered
  have hrow : ∀ other, entered.discovery other =
      if other = id then some d else store.discovery other := by
    intro other
    rw [ReviewStore.discovery, hdiscoveries, Table.row_insert]
    rfl
  unfold IntakeStore.insertDiscovery at hentered
  split at hentered
  · cases hentered
    refine ⟨rfl, rfl, rfl, rfl, rfl, rfl, .of_eq rfl rfl rfl,
      fun other stored hstored => ?_, fun other new hnew => ?_⟩
    · rw [hrow, if_neg (by rintro rfl; rw [hfree] at hstored; cases hstored)]
      exact hstored
    · rw [hrow] at hnew
      split at hnew
      · obtain rfl := Option.some.inj hnew
        exact .inr ⟨hd, sourceId, hsource, hactive⟩
      · exact .inl hnew
  · cases hentered

lemma importRecord_intaken {runId : CrawlRunId} {startedAt : Instant} {record : FeedRecord}
    {answers : RecordAnswers} {bucket : Bucket}
    (h : importRecord py runId startedAt record answers store = .ok (bucket, after)) :
    Intaken store after := by
  have hquarantine : ∀ {row kept}, insertQuarantine py row store = .ok kept →
      Intaken store kept := by
    intro row kept hkept
    rw [insertQuarantine_ok hkept]
    exact .of_eq rfl
  unfold importRecord at h
  split at h
  · split at h
    · obtain ⟨kept, hkept, h⟩ := exceptBind_ok h
      cases h
      exact hquarantine hkept
    · cases h
  · split at h
    · next hactive =>
      obtain ⟨⟨pageId, seen⟩, hpage, h⟩ := exceptBind_ok h
      have hseen := seePage_intaken hpage
      refine hseen.trans ?_
      dsimp only at h
      unfold importContent at h
      split at h
      · cases h
        exact .refl after
      · obtain ⟨added, hadded, h⟩ := exceptBind_ok h
        cases h
        exact addDiscovery_intaken rfl (seePage_sourceOf hpage)
          ((hseen.pages.isActive record.sourceId).trans hactive) hadded
    · obtain ⟨kept, hkept, h⟩ := exceptBind_ok h
      cases h
      exact hquarantine hkept

lemma importRecords_intaken {runId : CrawlRunId} {startedAt : Instant}
    (batch : List (FeedRecord × RecordAnswers)) (counts : ImportCounts) (store : IntakeStore) :
    Intaken store (importRecords py runId startedAt batch counts store).2.2 := by
  induction batch generalizing counts store with
  | nil => exact .refl store
  | cons e batch ih =>
    rw [importRecords]
    cases hrecord : importRecord py runId startedAt e.1 e.2 store with
    | error _ => exact .refl store
    | ok recorded => exact (importRecord_intaken hrecord).trans (ih _ recorded.2)

theorem importFeedRecords_intaken (runId : CrawlRunId) (startedAt finishedAt : Instant)
    (batch : List (FeedRecord × RecordAnswers)) (store : IntakeStore) :
    Intaken store (importFeedRecords py runId startedAt finishedAt batch store).2 := by
  have hloop := @importRecords_intaken py runId startedAt batch {}
    (store.startRun runId startedAt (batch.map Prod.fst))
  have hstarted : Intaken store (store.startRun runId startedAt (batch.map Prod.fst)) := .of_eq rfl
  have hfinished : ∀ (worked : IntakeStore) raised counts,
      Intaken worked (worked.finishRun runId raised counts finishedAt) :=
    fun _ _ _ => .of_eq rfl
  unfold importFeedRecords
  dsimp only
  split
  · exact .refl store
  · split
    · split
      · exact .refl store
      · exact (hstarted.trans hloop).trans (hfinished _ _ _)
    · exact (hstarted.trans hloop).trans (hfinished _ _ _)

lemma submitOne_intaken {startedAt : Instant} {parent : DiscoveryContext}
    {candidate : CandidateSubmission} {answers : CandidateAnswers} {result : CandidateResult}
    (hactive : store.discovered.db.isActive parent.sourceId = true)
    (h : submitOne py startedAt parent candidate answers store = .ok (result, after)) :
    Intaken store after := by
  unfold submitOne at h
  split at h
  · split at h
    · cases h
      exact .refl after
    · cases h
  · obtain ⟨⟨pageId, seen⟩, hpage, h⟩ := exceptBind_ok h
    have hseen := seePage_intaken hpage
    refine hseen.trans ?_
    dsimp only at h
    unfold submitContent at h
    split at h
    · cases h
      exact .refl after
    · obtain ⟨added, hadded, h⟩ := exceptBind_ok h
      cases h
      exact addDiscovery_intaken rfl (seePage_sourceOf hpage)
        ((hseen.pages.isActive parent.sourceId).trans hactive) hadded

lemma submitEach_intaken {startedAt : Instant} {parent : DiscoveryContext}
    {batch : List (CandidateSubmission × CandidateAnswers)} {results : List CandidateResult}
    (hactive : store.discovered.db.isActive parent.sourceId = true)
    (h : submitEach py startedAt parent batch store = .ok (results, after)) :
    Intaken store after := by
  induction batch generalizing store results with
  | nil =>
    cases h
    exact .refl after
  | cons e batch ih =>
    obtain ⟨⟨result, middle⟩, hcandidate, h⟩ := exceptBind_ok h
    obtain ⟨⟨rest, last⟩, heach, h⟩ := exceptBind_ok h
    cases h
    have hfirst := submitOne_intaken hactive hcandidate
    exact hfirst.trans (ih ((hfirst.pages.isActive parent.sourceId).trans hactive) heach)

/-- A submission with a parent, or nothing. -/
theorem submitCandidates_intaken {startedAt : Instant} {parentId : DiscoveryId}
    {batch : List (CandidateSubmission × CandidateAnswers)}
    {response : Option CandidateSubmissionResponse}
    (h : submitCandidates py startedAt parentId batch store = .ok (response, after)) :
    after = store ∨ (store.discovery parentId).isSome ∧ Intaken store after := by
  unfold submitCandidates at h
  split at h
  · cases h
    exact .inl rfl
  · next context hcontext =>
    obtain ⟨d, hd, hcontext⟩ := Option.bind_eq_some_iff.mp hcontext
    obtain ⟨page, -, hcontext⟩ := Option.bind_eq_some_iff.mp hcontext
    obtain ⟨source, hsource, hcontext⟩ := Option.bind_eq_some_iff.mp hcontext
    cases hcontext
    split at h
    · next hactive =>
      obtain ⟨⟨results, worked⟩, heach, h⟩ := exceptBind_ok h
      cases h
      refine .inr ⟨by rw [hd]; rfl, submitEach_intaken ?_ heach⟩
      rw [Db.isActive, hsource]
      exact hactive
    · cases h

/-- An intake writes nothing that is published, and its discoveries refer to such as are there. -/
theorem Intaken.writes {parent : Option DiscoveryId} (h : Intaken before after)
    (happended : Appended parent before after)
    (hparent : ∀ id ∈ parent, (before.discovery id).isSome) :
    Writes before.toReviewStore after.toReviewStore {} where
  catalogue := by
    refine .kept h.shells ⟨h.scholarships, by rw [h.cycles], fun c => ?_⟩ (fun id hid => ?_)
      h.autoApproved
    · rw [Db.identityOf, Db.identityOf, h.cycles]
    · rwa [h.providers]
  refers := by
    have hkeeps : ∀ id, (before.discovery id).isSome → (after.discovery id).isSome := by
      intro id hid
      obtain ⟨d, hd⟩ := Option.isSome_iff_exists.mp hid
      exact Option.isSome_iff_exists.mpr ⟨d, h.rows id d hd⟩
    refine ⟨fun id hid => by rwa [h.shells], fun id d hd => ⟨d, h.rows id d hd, .refl d⟩, ?_, ?_,
      ?_, ?_⟩
    · intro id d hnone hrow
      rcases h.new id d hrow with hold | ⟨-, hsource⟩
      · rw [hnone] at hold
        cases hold
      · exact hsource
    · intro id d scholarshipId hrow hid
      rcases h.new id d hrow with hold | ⟨hnone, -⟩
      · exact .inl ⟨d, hold, hid⟩
      · rw [hnone] at hid
        cases hid
    · intro id d other hrow hmem
      cases hstored : before.discovery id with
      | some stored =>
        obtain rfl := Option.some.inj ((h.rows id stored hstored).symm.trans hrow)
        exact .inl ⟨stored, rfl, hmem⟩
      | none =>
        obtain ⟨hlawful, hsplit, hduplicate⟩ := happended.new id d hstored hrow
        rw [Discovery.lineage, hduplicate, hsplit] at hmem
        rcases List.mem_append.mp hmem with hmem | hmem
        · rcases List.mem_append.mp hmem with hmem | hmem
          · obtain ⟨e, he, -⟩ := hlawful.supersedes other (by simpa using hmem)
            exact .inr (Option.isSome_iff_exists.mpr ⟨e, he⟩)
          · exact .inr (hkeeps other (hparent other (by simpa using hmem)))
        · cases hmem
    · exact fun taskId task id hrow hid => .inl ⟨task, by rwa [h.tasks] at hrow, hid⟩
  tasks := .of_eq h.tasks
  collects := h.pages.collects

end

/-! ## Tasks, and the columns of a discovery -/

section

variable {before after : ReviewStore}

/-- Columns of a discovery that refer to what is there. -/
lemma Writes.amend {id : DiscoveryId} {f : Discovery → Discovery}
    (hf : ∀ d, (f d).sourcePageId = d.sourcePageId)
    (htexts : ∀ d, (f d).rawTitle = d.rawTitle ∧ (f d).rawExcerpt = d.rawExcerpt)
    (hcanonical : ∀ d scholarshipId, before.discovery id = some d →
      (f d).canonicalScholarshipId = some scholarshipId →
        d.canonicalScholarshipId = some scholarshipId ∨ (before.shells.row scholarshipId).isSome)
    (hlineage : ∀ d other, before.discovery id = some d → other ∈ (f d).lineage →
      other ∈ d.lineage ∨ (before.discovery other).isSome) :
    Writes before (before.amend id f hf) {} := by
  have hrow := before.amend_discovery id
  have hkept : ∀ other d, before.discovery other = some d →
      ∃ d', (before.amend id f hf).discovery other = some d' ∧ d.SameItem d' := by
    intro other d hd
    rw [hrow, hd]
    split
    · exact ⟨f d, rfl, hf d, htexts d⟩
    · exact ⟨d, rfl, .refl d⟩
  have hkeeps : ∀ other, (before.discovery other).isSome →
      ((before.amend id f hf).discovery other).isSome := by
    intro other hother
    obtain ⟨d, hd⟩ := Option.isSome_iff_exists.mp hother
    obtain ⟨d', hd', -⟩ := hkept other d hd
    rw [hd']
    rfl
  refine ⟨.kept rfl (.refl _) (fun _ h => h) rfl, ⟨fun _ h => h, hkept, ?_, ?_, ?_, ?_⟩, .of_eq rfl,
    .refl _⟩
  · intro other d hnone hd
    rw [hrow, hnone] at hd
    split at hd
    · cases hd
    · cases hd
  · intro other d scholarshipId hd hid
    rw [hrow] at hd
    split at hd
    · next heq =>
      subst heq
      obtain ⟨stored, hstored, rfl⟩ := Option.map_eq_some_iff.mp hd
      rcases hcanonical stored scholarshipId hstored hid with hold | hshell
      · exact .inl ⟨stored, hstored, hold⟩
      · exact .inr hshell
    · exact .inl ⟨d, hd, hid⟩
  · intro other d referred hd hmem
    rw [hrow] at hd
    split at hd
    · next heq =>
      subst heq
      obtain ⟨stored, hstored, rfl⟩ := Option.map_eq_some_iff.mp hd
      rcases hlineage stored referred hstored hmem with hold | hthere
      · exact .inl ⟨stored, hstored, hold⟩
      · exact .inr (hkeeps referred hthere)
    · exact .inl ⟨d, hd, hmem⟩
  · exact fun taskId task id hrow hid => .inl ⟨task, hrow, hid⟩

/-- Columns of a discovery that refer to nothing. -/
lemma Writes.amend_kept {id : DiscoveryId} {f : Discovery → Discovery}
    (hf : ∀ d, (f d).sourcePageId = d.sourcePageId)
    (htexts : ∀ d, (f d).rawTitle = d.rawTitle ∧ (f d).rawExcerpt = d.rawExcerpt)
    (hkept : ∀ d, (f d).canonicalScholarshipId = d.canonicalScholarshipId ∧
      (f d).lineage = d.lineage) : Writes before (before.amend id f hf) {} :=
  .amend hf htexts (fun d _ _ hid => .inl ((hkept d).1 ▸ hid))
    fun d _ _ hmem => .inl ((hkept d).2 ▸ hmem)

end

section

open IntakeStore

variable {py : IntakePy} {before after store : IntakeStore} {id : DiscoveryId}

lemma IntakeStore.TaskInserted.writes {taskId : TaskId} {reason : String} {priority : ℤ}
    {now : Instant} {inserted : Option TaskId}
    (h : TaskInserted taskId id reason priority now before inserted after) :
    Writes before.toReviewStore after.toReviewStore {} := by
  cases h with
  | found => exact .refl _
  | inserted hnone hfree hdiscovery =>
    refine ⟨.kept rfl (.refl _) (fun _ h => h) rfl,
      ⟨fun _ h => h, fun _ d h => ⟨d, h, .refl d⟩, ?_, ?_, ?_, ?_⟩, ⟨⟨some taskId, ?_⟩, ?_⟩,
      .refl _⟩
    · exact fun other d hnone hrow => by cases hnone.symm.trans hrow
    · exact fun other d _ hrow hid => .inl ⟨d, hrow, hid⟩
    · exact fun other d _ hrow hmem => .inl ⟨d, hrow, hmem⟩
    · intro other task about hrow habout
      rw [Table.row_insert] at hrow
      split at hrow
      · obtain rfl := Option.some.inj hrow
        obtain rfl : id = about := Option.some.inj habout
        exact .inr hdiscovery
      · exact .inl ⟨task, hrow, habout⟩
    · intro other task hrow hopened
      rw [Table.row_insert] at hrow
      split at hrow
      · next heq =>
        obtain rfl := Option.some.inj hrow
        refine .inr ⟨congrArg some heq.symm, rfl, id, rfl, fun other old hold habout => ?_⟩
        have hlive := Table.findKey_eq_none.mp hnone other old hold
        rwa [habout, decide_eq_true rfl, Bool.true_and] at hlive
      · exact .inl ⟨task, hrow, hopened, rfl, rfl⟩
    · intro other task draft hrow hdraft
      rw [Table.row_insert] at hrow
      split at hrow
      · obtain rfl := Option.some.inj hrow
        cases hdraft
      · exact .inr ⟨task, hrow, rfl, hdraft⟩

theorem requestReview_writes {reason : String} {priority : ℤ} {answers : LinkAnswers}
    {result : Option TaskId × Bool}
    (h : requestReview id reason priority answers store = .ok (result, after)) :
    Writes store.toReviewStore after.toReviewStore {} := by
  obtain ⟨⟨inserted, tasked⟩, hinserted, h⟩ := exceptBind_ok h
  have hwrites := (insertTask_ok hinserted).writes
  dsimp only at h
  cases inserted with
  | none =>
    cases h
    exact hwrites
  | some taskId =>
    dsimp only at h
    obtain ⟨queued, hqueued, h⟩ := exceptBind_ok h
    cases h
    rwa [insertJob_reviews hqueued]

theorem prepareReview_writes {countryNames : Dict} {taskId : TaskId}
    (h : store.prepareReview py countryNames taskId = .ok after) :
    Writes store.toReviewStore after.toReviewStore { prepared := some taskId } := by
  obtain ⟨task, htask, ⟨-, rfl⟩ | ⟨id, d, hid, hd, rfl⟩⟩ := prepareReview_ok h
  · exact ⟨.kept rfl (.refl _) (fun _ h => h) rfl, .of_eq rfl rfl rfl, .of_eq rfl, .refl _⟩
  refine ⟨.kept rfl (.refl _) (fun _ h => h) rfl,
    ⟨fun _ h => h, fun _ d h => ⟨d, h, .refl d⟩, ?_, ?_, ?_, ?_⟩, ⟨⟨none, ?_⟩, ?_⟩, .refl _⟩
  · exact fun other d hnone hrow => by cases hnone.symm.trans hrow
  · exact fun other d _ hrow hid => .inl ⟨d, hrow, hid⟩
  · exact fun other d _ hrow hmem => .inl ⟨d, hrow, hmem⟩
  · intro other drafted about hrow habout
    rw [Table.row_modify] at hrow
    split at hrow
    · obtain ⟨stored, hstored, rfl⟩ := Option.map_eq_some_iff.mp hrow
      exact .inl ⟨stored, hstored, habout⟩
    · exact .inl ⟨drafted, hrow, habout⟩
  · intro other drafted hrow hopened
    rw [Table.row_modify] at hrow
    split at hrow
    · obtain ⟨stored, hstored, rfl⟩ := Option.map_eq_some_iff.mp hrow
      exact .inl ⟨stored, hstored, hopened, rfl, rfl⟩
    · exact .inl ⟨drafted, hrow, hopened, rfl, rfl⟩
  · intro other drafted draft hrow hdraft
    rw [Table.row_modify] at hrow
    split at hrow
    · next heq => exact .inl (congrArg some heq.symm)
    · exact .inr ⟨drafted, hrow, rfl, hdraft⟩

/-- A scholarship that a discovery is linked to by its name is there. -/
lemma mem_of_namedLike {pattern : String} {ids found : List ScholarshipId}
    (h : store.namedLike py pattern ids = .ok found) {scholarshipId : ScholarshipId}
    (hmem : scholarshipId ∈ found) : (store.shells.row scholarshipId).isSome := by
  induction ids generalizing found with
  | nil =>
    cases h
    cases hmem
  | cons first ids ih =>
    rw [namedLike] at h
    obtain ⟨rest, hrest, h⟩ := exceptBind_ok h
    split at h
    · cases h
      exact ih hrest hmem
    · next shell hshell =>
      obtain ⟨named, -, h⟩ := exceptBind_ok h
      cases h
      split at hmem
      · rcases List.mem_cons.mp hmem with rfl | hmem
        · rw [hshell]
          rfl
        · exact ih hrest hmem
      · exact ih hrest hmem

/-- What the linker does not write: a provider, the list of what was approved automatically, and the
draft of a task. -/
structure Unlinked (before after : IntakeStore) : Prop where
  providers : after.providers = before.providers
  autoApproved : after.autoApproved = before.autoApproved
  drafts : ∀ taskId task draft, after.tasks.row taskId = some task →
    task.draftRecommendation = some draft → before.tasks.row taskId = some task

lemma linkDiscovery_unlinked (answers : LinkAnswers) (store : IntakeStore) :
    Unlinked store (store.linkDiscovery py id answers).2 := by
  unfold IntakeStore.linkDiscovery
  split
  · exact ⟨rfl, rfl, fun _ _ _ h _ => h⟩
  · dsimp only
    split
    · exact ⟨rfl, rfl, fun _ _ _ h _ => h⟩
    · split
      · exact ⟨rfl, rfl, fun _ _ _ h _ => h⟩
      · split
        · exact ⟨rfl, rfl, fun _ _ _ h _ => h⟩
        · split
          · exact ⟨rfl, rfl, fun _ _ _ h _ => h⟩
          · split
            · exact ⟨rfl, rfl, fun _ _ _ h _ => h⟩
            · next queued hqueued =>
              obtain ⟨⟨inserted, tasked⟩, hinserted, h⟩ := exceptBind_ok hqueued
              have htasked : Unlinked store tasked := by
                cases insertTask_ok hinserted with
                | found => exact ⟨rfl, rfl, fun _ _ _ h _ => h⟩
                | inserted =>
                  refine ⟨rfl, rfl, fun other task draft hrow hdraft => ?_⟩
                  rw [Table.row_insert] at hrow
                  split at hrow
                  · obtain rfl := Option.some.inj hrow
                    cases hdraft
                  · exact hrow
              cases inserted with
              | none =>
                cases h
                exact htasked
              | some taskId =>
                dsimp only at h
                unfold enqueueOnce at h
                split at h
                · cases h
                  exact htasked
                · have hreviews := insertJob_reviews h
                  refine ⟨by rw [hreviews]; exact htasked.providers,
                    by rw [hreviews]; exact htasked.autoApproved, ?_⟩
                  rw [hreviews]
                  exact htasked.drafts

theorem IntakeStore.Linked.writes {result : Except PyErr LinkOutcome}
    (h : Linked py id before result after) (hothers : Unlinked before after) :
    Writes before.toReviewStore after.toReviewStore {} := by
  cases h with
  | missing | refused => exact .refl _
  | duplicate hrow horiginal =>
    refine Writes.amend (f := Discovery.markDuplicate _ _) (fun _ => rfl) (fun _ => ⟨rfl, rfl⟩)
      (fun d _ _ hid => .inl hid) fun d other hd hmem => ?_
    obtain rfl := Option.some.inj (hrow.symm.trans hd)
    rw [Discovery.lineage] at hmem ⊢
    rcases List.mem_append.mp hmem with hmem | hmem
    · exact .inl (List.mem_append_left _ hmem)
    · obtain rfl : other = _ := by simpa [Discovery.markDuplicate] using hmem
      obtain ⟨-, e, -, -, he, -⟩ := (originalOf_precedes horiginal).row
      refine .inr ?_
      rw [he]
      rfl
  | linked hrow hnone hnamed =>
    refine Writes.amend (f := Discovery.linkTo _) (fun _ => rfl) (fun _ => ⟨rfl, rfl⟩)
      (fun d scholarshipId _ hid => .inr ?_) fun d _ _ hmem => .inl hmem
    obtain rfl := Option.some.inj hid
    exact mem_of_namedLike hnamed (List.mem_singleton_self _)
  | interrupted hrow hnone =>
    exact Writes.amend_kept (f := Discovery.extract _) (fun _ => rfl)
      (fun _ => ⟨rfl, rfl⟩) fun _ => ⟨rfl, rfl⟩
  | @queued d decision facts _ _ hrow hnone hnamed hdecision hother htasked =>
    have hamend : Writes before.toReviewStore
        (before.amend id (Discovery.queueAs (queuedState decision) facts)
          fun _ => rfl).toReviewStore {} :=
      Writes.amend_kept (f := Discovery.queueAs _ _) (fun _ => rfl) (fun _ => ⟨rfl, rfl⟩)
        fun _ => ⟨rfl, rfl⟩
    have hdiscovery : ∀ other, after.discovery other =
        (before.amend id (Discovery.queueAs (queuedState decision) facts) fun _ => rfl).discovery
          other := by
      intro other
      rw [ReviewStore.discovery, htasked.discovered]
      rfl
    refine ⟨.kept htasked.shells ?_ (fun _ h => by rwa [hothers.providers]) hothers.autoApproved,
      ⟨fun other h => ?_, fun other d h => ?_, fun other d hfree hother => ?_, ?_, ?_, ?_⟩,
      ⟨?_, fun taskId task draft htask hdraft =>
        .inr ⟨task, hothers.drafts taskId task draft htask hdraft, rfl, hdraft⟩⟩, ?_⟩
    · rw [htasked.discovered]
      exact .refl _
    · rw [htasked.shells]
      exact h
    · rw [hdiscovery]
      exact hamend.refers.items other d h
    · rw [hdiscovery] at hother
      rw [htasked.discovered]
      exact hamend.refers.entered other d hfree hother
    · intro other d scholarshipId hrow hid
      rw [hdiscovery] at hrow
      rw [htasked.shells]
      exact hamend.refers.canonical other d scholarshipId hrow hid
    · intro other d referred hrow hmem
      rw [hdiscovery] at hrow ⊢
      exact hamend.refers.lineage other d referred hrow hmem
    · intro taskId task about htask habout
      obtain ⟨new, hnew⟩ := htasked.added
      rcases hnew taskId task htask with hold | ⟨-, hid, -⟩
      · exact .inl ⟨task, hold, habout⟩
      · obtain rfl : id = about := Option.some.inj (hid.symm.trans habout)
        refine .inr ?_
        rw [hdiscovery]
        exact hamend.refers.discoveries id (by rw [hrow]; rfl)
    · obtain ⟨new, hnew⟩ := htasked.added
      refine ⟨new, fun taskId task htask hopened => ?_⟩
      rcases hnew taskId task htask with hold | ⟨hnew, hid, hlive, hnone⟩
      · exact .inl ⟨task, hold, hopened, rfl, rfl⟩
      · rw [DiscoveryTask.live, decide_eq_true_eq] at hlive
        refine .inr ⟨hnew, hlive.2, id, hid, fun other old hold habout => ?_⟩
        have hnolive := Table.findKey_eq_none.mp hnone other old hold
        rwa [habout, decide_eq_true rfl, Bool.true_and] at hnolive
    · rw [htasked.discovered]
      exact .refl _

end

end ScholarshipFinder
