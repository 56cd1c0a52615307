import ScholarshipFinder.Intake.Growth
import ScholarshipFinder.Sample.Intake

/-!
# An import loses and invents nothing

`Imported` is the account of a batch: the counters, the discoveries that were entered and the
records they came from, the quarantined rows, and the pages that were seen.  The account of one
record is read off its bucket, accounts of consecutive batches add up, and so the loop has one.
-/

namespace ScholarshipFinder

open Lib IntakeStore

/-- The sum of the counters. -/
def ImportCounts.total (counts : ImportCounts) : ℕ :=
  counts.imported + counts.repeated + counts.changed + counts.rejected

/-- The counter of new discoveries. -/
def ImportCounts.entered (counts : ImportCounts) : ℕ := counts.imported + counts.changed

variable {before middle after : IntakeStore}

variable (py : IntakePy)

/-- The page is the one of the record's canonical URL. -/
def OnPageOf (record : FeedRecord) (page : SourcePage) : Prop :=
  page.sourceId = record.sourceId ∧ canonicalizeUrl py.toPy record.url = .ok page.normalizedUrl

/-- A discovery of a record, on its page, with its two jobs. -/
structure Ingested (before after : IntakeStore) (record : FeedRecord) (id : DiscoveryId) :
    Prop extends QueuedOnce before after id where
  row : ∃ d page, after.discovery id = some d ∧ after.page d.sourcePageId = some page ∧
    OnPageOf py record page

/-- The page of an accepted record was seen at one of these times. -/
def SeenAt (times : List Instant) (store : IntakeStore) (record : FeedRecord) : Prop :=
  ∃ pageId page, store.page pageId = some page ∧ OnPageOf py record page ∧
    ∃ t ∈ times, page.lastSeenAt = some t

/-- The account of a batch, of whose records some entered a discovery. -/
structure Imported (runId : CrawlRunId) (batch entered : List (FeedRecord × RecordAnswers))
    (counts counts' : ImportCounts) (before after : IntakeStore) : Prop where
  total : counts'.total = counts.total + batch.length
  created : counts'.entered = counts.entered + entered.length
  rejected : counts'.rejected =
    counts.rejected + (batch.filter fun e => rejects py before e.1).length
  sublist : entered.Sublist batch
  keys : after.discovered.discoveries.keys =
    before.discovered.discoveries.keys ++ entered.map (·.2.discoveryId)
  each : ∀ e ∈ entered, Ingested py before after e.1 e.2.discoveryId
  /-- The jobs of a discovery that was queued before are the same. -/
  settled : ∀ id, before.LinkQueued id → ∀ kind, after.jobsNaming kind id = before.jobsNaming kind id
  /-- So are those of a discovery that is not queued yet. -/
  unnamed : ∀ id, ¬ after.LinkQueued id → ∀ kind,
    after.jobsNaming kind id = before.jobsNaming kind id
  quarantine : after.quarantine = before.quarantine ++
    (batch.filter fun e => rejects py before e.1).map fun e => quarantineOf py runId e.1
  grown : Grown (batch.map (·.2.now)) before after
  crawlRuns : after.crawlRuns = before.crawlRuns
  seen : ∀ e ∈ batch, rejects py before e.1 = false → SeenAt py (batch.map (·.2.now)) after e.1

variable {py} {runId : CrawlRunId} {startedAt : Instant}

/-! ## Accounts add up -/

lemma rejects_eq (h : Kept before after) (record : FeedRecord) :
    rejects py after record = rejects py before record := by
  rw [rejects, rejects, h.sources]

lemma Ingested.later {times : List Instant} {record : FeedRecord} {id : DiscoveryId}
    (h : Ingested py before middle record id) (hgrown : Grown times middle after)
    (hsettled : ∀ kind, after.jobsNaming kind id = middle.jobsNaming kind id) :
    Ingested py before after record id where
  toQueuedOnce := h.toQueuedOnce.later hgrown hsettled
  row := by
    obtain ⟨d, page, hd, hpage, hurl⟩ := h.row
    obtain ⟨seen, hafter, -⟩ := hgrown.pages _ page hpage
    exact ⟨d, _, hgrown.discoveries id d hd, hafter, hurl⟩

lemma Ingested.earlier {times : List Instant} {record : FeedRecord} {id : DiscoveryId}
    (h : Ingested py middle after record id) (hgrown : Grown times before middle)
    (hunnamed : ∀ kind, middle.jobsNaming kind id = before.jobsNaming kind id) :
    Ingested py before after record id :=
  ⟨h.toQueuedOnce.earlier hgrown hunnamed, h.row⟩

lemma SeenAt.later {times times' : List Instant} {record : FeedRecord}
    (h : SeenAt py times middle record) (hgrown : Grown times' middle after) :
    SeenAt py (times ++ times') after record := by
  obtain ⟨pageId, page, hpage, hurl, t, ht, hseen⟩ := h
  obtain ⟨seen, hafter, hcases⟩ := hgrown.pages pageId page hpage
  refine ⟨pageId, _, hafter, hurl, ?_⟩
  rcases hcases with rfl | ⟨t', ht', rfl⟩
  · exact ⟨t, List.mem_append_left _ ht, hseen⟩
  · exact ⟨t', List.mem_append_right _ ht', rfl⟩

theorem Imported.trans {batch batch' entered entered' : List (FeedRecord × RecordAnswers)}
    {counts counts' counts'' : ImportCounts}
    (h : Imported py runId batch entered counts counts' before middle)
    (h' : Imported py runId batch' entered' counts' counts'' middle after) :
    Imported py runId (batch ++ batch') (entered ++ entered') counts counts'' before after := by
  have hrejects : (batch'.filter fun e => rejects py middle e.1) =
      batch'.filter fun e => rejects py before e.1 :=
    List.filter_congr fun e _ => rejects_eq h.grown.toKept e.1
  refine ⟨?_, ?_, ?_, h.sublist.append h'.sublist, ?_, ?_, ?_, ?_, ?_, ?_, ?_, ?_⟩
  · rw [h'.total, h.total, List.length_append, Nat.add_assoc]
  · rw [h'.created, h.created, List.length_append, Nat.add_assoc]
  · rw [h'.rejected, h.rejected, hrejects, List.filter_append, List.length_append, Nat.add_assoc]
  · rw [h'.keys, h.keys, List.map_append, List.append_assoc]
  · intro e he
    rcases List.mem_append.mp he with he | he
    · have hentered := h.each e he
      exact hentered.later h'.grown (h'.settled _ hentered.queued)
    · have hentered := h'.each e he
      exact hentered.earlier h.grown (h.unnamed _ hentered.unqueued)
  · intro id hqueued kind
    rw [h'.settled id (h.grown.linkQueued hqueued), h.settled id hqueued]
  · intro id hqueued kind
    rw [h'.unnamed id hqueued, h.unnamed id fun hmiddle => hqueued (h'.grown.linkQueued hmiddle)]
  · rw [h'.quarantine, h.quarantine, hrejects, List.filter_append, List.map_append,
      List.append_assoc]
  · rw [List.map_append]
    exact h.grown.trans h'.grown
  · rw [h'.crawlRuns, h.crawlRuns]
  · intro e he haccepts
    rw [List.map_append]
    rcases List.mem_append.mp he with he | he
    · exact (h.seen e he haccepts).later h'.grown
    · rw [← rejects_eq h.grown.toKept] at haccepts
      obtain ⟨pageId, page, hpage, hurl, t, ht, hseen⟩ := h'.seen e he haccepts
      exact ⟨pageId, page, hpage, hurl, t, List.mem_append_right _ ht, hseen⟩

lemma Imported.nil (counts : ImportCounts) (store : IntakeStore) :
    Imported py runId [] [] counts counts store store where
  total := rfl
  created := rfl
  rejected := rfl
  sublist := List.Sublist.refl _
  keys := (List.append_nil _).symm
  each := by simp
  settled := fun _ _ _ => rfl
  unnamed := fun _ _ _ => rfl
  quarantine := (List.append_nil _).symm
  grown := .refl store
  crawlRuns := rfl
  seen := by simp

/-! ## The account of one record -/

/-- The page of the record, as it was seen. -/
lemma IntakeStore.Seen.seenAt {record : FeedRecord} {answers : RecordAnswers}
    {candidate : DiscoveryCandidate} {pageId : PageId}
    (hcandidate : prepareCandidate py.toPy record.url record.title record.excerpt = .ok candidate)
    (h : Seen record.sourceId candidate.normalizedUrl answers.now before after pageId) :
    SeenAt py [answers.now] after record := by
  obtain ⟨page, hpage, hsource, hurl, hseen⟩ := h.page
  refine ⟨pageId, page, hpage, ⟨hsource, ?_⟩, answers.now, List.mem_singleton_self _, hseen⟩
  rw [hurl]
  exact (prepareCandidate_ok hcandidate).1

/-- The discovery of the record, with its jobs. -/
lemma ingested_of_added {record : FeedRecord} {answers : RecordAnswers}
    {candidate : DiscoveryCandidate} {pageId : PageId} {head : Option DiscoveryId}
    (hcandidate : prepareCandidate py.toPy record.url record.title record.excerpt = .ok candidate)
    (hseen : Seen record.sourceId candidate.normalizedUrl answers.now before middle pageId)
    (h : Added answers.discoveryId
      (importedDiscovery py runId startedAt record candidate pageId head) answers.normalizeJobId
      answers.linkJobId middle after) :
    Ingested py before after record answers.discoveryId := by
  obtain ⟨page, hpage, hsource, hurl, -⟩ := hseen.page
  refine ⟨h.queuedOnce hseen, _, page, h.row, ?_, hsource, ?_⟩
  · rw [IntakeStore.page, h.db]
    exact hpage
  · rw [hurl]
    exact (prepareCandidate_ok hcandidate).1

/-- The records of a batch of one that enter a discovery. -/
def Bucket.enters : Bucket → Bool
  | .imported => true
  | .changed => true
  | _ => false

lemma ImportCounts.add_total (counts : ImportCounts) (bucket : Bucket) :
    (counts.add bucket).total = counts.total + 1 := by
  cases bucket <;> simp only [ImportCounts.add, ImportCounts.total] <;> omega

lemma ImportCounts.add_entered (counts : ImportCounts) (bucket : Bucket) :
    (counts.add bucket).entered = counts.entered + if bucket.enters then 1 else 0 := by
  cases bucket <;> simp only [ImportCounts.add, ImportCounts.entered, Bucket.enters] <;>
    simp <;> omega

lemma ImportCounts.add_rejected (counts : ImportCounts) (bucket : Bucket) :
    (counts.add bucket).rejected = counts.rejected + if bucket = .rejected then 1 else 0 := by
  cases bucket <;> rfl

theorem Recorded.imported {record : FeedRecord} {answers : RecordAnswers} {bucket : Bucket}
    (h : Recorded py runId startedAt record answers before bucket after) (counts : ImportCounts) :
    Imported py runId [(record, answers)] (if bucket.enters then [(record, answers)] else []) counts
      (counts.add bucket) before after := by
  have hgrown := h.grown
  have htotal := counts.add_total bucket
  have hentered := counts.add_entered bucket
  have hrejected := counts.add_rejected bucket
  cases h with
  | rejected hrejects =>
    have hall : ([(record, answers)].filter fun e => rejects py before e.1) =
        [(record, answers)] := by
      rw [List.filter_cons_of_pos (by exact hrejects), List.filter_nil]
    refine ⟨htotal, hentered, ?_, List.nil_sublist _, (List.append_nil _).symm,
      by simp [Bucket.enters], fun _ _ _ => rfl, fun _ _ _ => rfl, ?_, hgrown, rfl, ?_⟩
    · rw [hrejected, hall]
      rfl
    · rw [hall]
      rfl
    · intro e he haccepts
      obtain rfl := List.mem_singleton.mp he
      rw [hrejects] at haccepts
      cases haccepts
  | repeated haccepts hcandidate hseen hfound =>
    have hnone : ([(record, answers)].filter fun e => rejects py before e.1) = [] := by
      rw [List.filter_cons_of_neg (by simp [haccepts]), List.filter_nil]
    refine ⟨htotal, hentered, ?_, List.nil_sublist _, ?_, by simp [Bucket.enters], ?_, ?_, ?_,
      hgrown, hseen.crawlRuns, ?_⟩
    · rw [hrejected, hnone]
      rfl
    · rw [hseen.discoveries]
      exact (List.append_nil _).symm
    · exact fun id _ kind => jobsNaming_congr hseen.jobs kind id
    · exact fun id _ kind => jobsNaming_congr hseen.jobs kind id
    · rw [hnone, hseen.quarantine]
      exact (List.append_nil _).symm
    · intro e he _
      obtain rfl := List.mem_singleton.mp he
      exact hseen.seenAt hcandidate
  | @entered candidate pageId seen _ haccepts hcandidate hseen hnew hadded =>
    have hnone : ([(record, answers)].filter fun e => rejects py before e.1) = [] := by
      rw [List.filter_cons_of_neg (by simp [haccepts]), List.filter_nil]
    have henters : (if (seen.headRevision pageId answers.headChoice).isSome then Bucket.changed
        else .imported).enters = true := by
      split <;> rfl
    have hnot : (if (seen.headRevision pageId answers.headChoice).isSome then Bucket.changed
        else .imported) ≠ .rejected := by
      split <;> decide
    rw [if_pos henters] at hentered ⊢
    refine ⟨htotal, hentered, ?_, List.Sublist.refl _, ?_, ?_, ?_, ?_, ?_, hgrown, ?_, ?_⟩
    · rw [hrejected, hnone, if_neg hnot]
      rfl
    · rw [hadded.keys, hseen.discoveries]
      rfl
    · intro e he
      obtain rfl := List.mem_singleton.mp he
      exact ingested_of_added hcandidate hseen hadded
    · intro id hqueued kind
      rw [hadded.naming_of_queued ((linkQueued_congr hseen.jobs).mpr hqueued),
        jobsNaming_congr hseen.jobs]
    · intro id hunqueued kind
      rw [hadded.naming_of_unqueued hunqueued, jobsNaming_congr hseen.jobs]
    · rw [hnone, hadded.quarantine, hseen.quarantine]
      exact (List.append_nil _).symm
    · rw [hadded.crawlRuns, hseen.crawlRuns]
    · intro e he _
      obtain rfl := List.mem_singleton.mp he
      have hlater := (hseen.seenAt hcandidate).later hadded.grown
      rwa [List.append_nil] at hlater

/-! ## The loop -/

theorem importRecords_imported {batch : List (FeedRecord × RecordAnswers)}
    {counts counts' : ImportCounts}
    (h : importRecords py runId startedAt batch counts before = (none, counts', after)) :
    ∃ entered, Imported py runId batch entered counts counts' before after := by
  induction batch generalizing counts before with
  | nil =>
    cases h
    exact ⟨[], .nil counts' after⟩
  | cons e batch ih =>
    obtain ⟨record, answers⟩ := e
    rw [importRecords] at h
    cases hrecord : importRecord py runId startedAt record answers before with
    | error e =>
      rw [hrecord] at h
      cases h
    | ok result =>
      obtain ⟨bucket, middle⟩ := result
      rw [hrecord] at h
      obtain ⟨entered, hrest⟩ := ih h
      exact ⟨_, ((importRecord_ok hrecord).imported counts).trans hrest⟩

end ScholarshipFinder
