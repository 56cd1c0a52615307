import ScholarshipFinder.Intake.Lineages
import ScholarshipFinder.Lib.Chain
import ScholarshipFinder.Sample.Intake

/-!
# The revisions of a page

A record that brings new content to a page adds one revision to it, which supersedes the head that
the database answers; no other operation adds a revision or writes what one supersedes.  So the
revisions form one chain as long as the database answers the one that was created last.  It need
not: revisions of one import have the same creation time.
-/

namespace ScholarshipFinder

open Lib IntakeStore

namespace IntakeStore

/-- `Discovery.supersedes_discovery_id` -/
def supersedes (store : IntakeStore) (id : DiscoveryId) : Option DiscoveryId :=
  (store.discovery id).bind (·.supersedesDiscoveryId)

end IntakeStore

/-- A law of the records that an operation imports. -/
def EachImported (py : IntakePy)
    (law : IntakeStore → FeedRecord × RecordAnswers → Bucket → IntakeStore → Prop)
    (store : IntakeStore) : IntakeOp → Prop
  | .importFeed runId startedAt _ batch => store.crawlRuns.row runId = none →
    EachRecord py runId startedAt law batch (store.startRun runId startedAt (batch.map Prod.fst))
  | _ => True

instance EachImported.decidable (py : IntakePy)
    (law : IntakeStore → FeedRecord × RecordAnswers → Bucket → IntakeStore → Prop)
    [∀ s e bucket t, Decidable (law s e bucket t)] (store : IntakeStore) :
    ∀ op, Decidable (EachImported py law store op)
  | .importFeed runId startedAt _ batch =>
    inferInstanceAs (Decidable (store.crawlRuns.row runId = none → EachRecord py runId startedAt law
      batch (store.startRun runId startedAt (batch.map Prod.fst))))
  | .submit _ _ _ => isTrue trivial
  | .link _ _ => isTrue trivial

variable {py : IntakePy} {before middle after store : IntakeStore} {pageId : PageId}

/-! ## The list of the revisions -/

lemma mem_revisions {id : DiscoveryId} : id ∈ store.revisions pageId ↔
    ∃ d, store.discovery id = some d ∧ d.sourcePageId = pageId ∧ d.splitFromDiscoveryId = none := by
  rw [revisions, List.mem_filter, Option.any_eq_true]
  simp only [Bool.and_eq_true, decide_eq_true_eq]
  constructor
  · rintro ⟨-, h⟩
    exact h
  · rintro ⟨d, hrow, hcolumns⟩
    refine ⟨?_, d, hrow, hcolumns⟩
    rw [store.discovered.discoveries.mem_keys]
    exact Option.isSome_iff_exists.mpr ⟨d, hrow⟩

lemma revisions_nodup (store : IntakeStore) (pageId : PageId) : (store.revisions pageId).Nodup :=
  store.discovered.discoveries.nodup.filter _

/-- A page that is not stored has no revisions. -/
lemma revisions_of_page_none (h : store.page pageId = none) : store.revisions pageId = [] := by
  rw [List.eq_nil_iff_forall_not_mem]
  intro id hid
  obtain ⟨d, hrow, rfl, -⟩ := mem_revisions.mp hid
  have hpage := store.discovered.discovery_page id d hrow
  rw [IntakeStore.page] at h
  rw [h] at hpage
  cases hpage

/-- The revisions after discoveries went on and some were added. -/
lemma revisions_append {ids : List DiscoveryId}
    (hkeys : after.discovered.discoveries.keys = before.discovered.discoveries.keys ++ ids)
    (hrows : ∀ id d, before.discovery id = some d → ∃ d', after.discovery id = some d' ∧
      SameOrigin d d') :
    after.revisions pageId = before.revisions pageId ++ ids.filter fun id =>
      (after.discovery id).any fun d => d.sourcePageId = pageId && d.splitFromDiscoveryId = none := by
  rw [revisions, revisions, hkeys, List.filter_append]
  congr 1
  refine List.filter_congr fun id hid => ?_
  rw [before.discovered.discoveries.mem_keys] at hid
  obtain ⟨d, hrow⟩ := Option.isSome_iff_exists.mp hid
  obtain ⟨d', hrow', horigin⟩ := hrows id d hrow
  have hrow : before.discovery id = some d := hrow
  rw [hrow, hrow', Option.any_some, Option.any_some, horigin.page, horigin.split]

/-- So far nothing was added to the revisions. -/
structure SameRevisions (pageId : PageId) (before after : IntakeStore) : Prop where
  revisions : after.revisions pageId = before.revisions pageId
  rows : ∀ id d, before.discovery id = some d → ∃ d', after.discovery id = some d' ∧ SameOrigin d d'

lemma SameRevisions.of_discoveries
    (h : after.discovered.discoveries = before.discovered.discoveries) :
    SameRevisions pageId before after := by
  have hrows : ∀ id d, before.discovery id = some d →
      ∃ d', after.discovery id = some d' ∧ SameOrigin d d' := by
    intro id d hrow
    refine ⟨d, ?_, .refl d⟩
    show after.discovered.discoveries.row id = some d
    rw [h]
    exact hrow
  refine ⟨?_, hrows⟩
  rw [@revisions_append _ _ _ [] (by rw [h, List.append_nil]) hrows, List.filter_nil,
    List.append_nil]

/-- Submissions add no revisions. -/
lemma Appended.sameRevisions {parentId : DiscoveryId} (h : Appended (some parentId) before after) :
    SameRevisions pageId before after := by
  have hrows : ∀ id d, before.discovery id = some d →
      ∃ d', after.discovery id = some d' ∧ SameOrigin d d' :=
    fun id d hrow => ⟨d, h.rows id d hrow, .refl d⟩
  obtain ⟨ids, hkeys⟩ := h.keys
  refine ⟨?_, hrows⟩
  rw [revisions_append hkeys hrows, List.append_right_eq_self, List.filter_eq_nil_iff]
  intro id hid hrevision
  rw [Option.any_eq_true] at hrevision
  obtain ⟨d, hrow, hcolumns⟩ := hrevision
  rw [Bool.and_eq_true, decide_eq_true_eq, decide_eq_true_eq] at hcolumns
  have hnodup := after.discovered.discoveries.nodup
  rw [hkeys] at hnodup
  have hnone : before.discovery id = none := by
    by_contra hsome
    refine (List.disjoint_of_nodup_append hnodup) ?_ hid
    rw [before.discovered.discoveries.mem_keys]
    exact Option.isSome_iff_ne_none.mpr hsome
  have hparent := (h.new id d hnone hrow).2.1
  rw [hcolumns.2] at hparent
  cases hparent

lemma linkDiscovery_sameRevisions (id : DiscoveryId) (answers : LinkAnswers) (store : IntakeStore) :
    SameRevisions pageId store (store.linkDiscovery py id answers).2 := by
  have hlinked := linkDiscovery_linked py id answers store
  have hrows : ∀ other d, store.discovery other = some d →
      ∃ d', (store.linkDiscovery py id answers).2.discovery other = some d' ∧ SameOrigin d d' := by
    intro other d hrow
    obtain ⟨d', hrow', horigin, -⟩ :=
      (@linkDiscovery_continues py id answers store).rows other d hrow
    exact ⟨d', hrow', horigin⟩
  refine ⟨?_, hrows⟩
  rw [@revisions_append _ _ _ [] (by rw [hlinked.keys, List.append_nil]) hrows, List.filter_nil,
    List.append_nil]

/-! ## A new revision -/

lemma revisions_congr (h : after.discovered.discoveries = before.discovered.discoveries) :
    after.revisions pageId = before.revisions pageId :=
  (SameRevisions.of_discoveries h).revisions

lemma headRevision_congr (h : after.discovered.discoveries = before.discovered.discoveries)
    (choice : ℕ) : after.headRevision pageId choice = before.headRevision pageId choice := by
  have hcreated : after.createdAt = before.createdAt := by
    funext id
    show (after.discovered.discoveries.row id).map _ = _
    rw [h]
    rfl
  rw [headRevision, headRevision, revisions_congr h, hcreated]

lemma added_revisions {id : DiscoveryId} {d : Discovery} {normalizeJobId linkJobId : JobId}
    (h : Added id d normalizeJobId linkJobId before after) (hsplit : d.splitFromDiscoveryId = none) :
    after.revisions pageId =
      before.revisions pageId ++ if d.sourcePageId = pageId then [id] else [] := by
  rw [revisions_append h.keys fun other d hrow =>
      ⟨d, h.grown.discoveries other d hrow, .refl d⟩, List.filter_singleton, h.row, Option.any_some]
  by_cases hpage : d.sourcePageId = pageId
  · simp [hpage, hsplit]
  · simp [hpage]

/-- A record that enters a discovery of another page. -/
lemma entered_sameRevisions {sourceId : SourceId} {url : String} {now : Instant} {seenId : PageId}
    {id : DiscoveryId} {d : Discovery} {normalizeJobId linkJobId : JobId}
    (hseen : Seen sourceId url now before middle seenId)
    (hadded : Added id d normalizeJobId linkJobId middle after)
    (hsplit : d.splitFromDiscoveryId = none) (hne : d.sourcePageId ≠ pageId) :
    SameRevisions pageId before after where
  revisions := by
    rw [added_revisions hadded hsplit, revisions_congr hseen.discoveries, if_neg hne,
      List.append_nil]
  rows := fun id d hrow =>
    ⟨d, hadded.grown.discoveries id d (hseen.grown.discoveries id d hrow), .refl d⟩

/-- The row that the database answers as the head is the revision that was created last, for a
record that brings new content to the page. -/
def TieToLast (py : IntakePy) (pageId : PageId) (store : IntakeStore)
    (e : FeedRecord × RecordAnswers) : Prop :=
  match prepareCandidate py.toPy e.1.url e.1.title e.1.excerpt with
  | .error _ => True
  | .ok candidate => rejects py store e.1 = false →
    store.findPage e.1.sourceId candidate.normalizedUrl = some pageId →
    store.findContent pageId candidate.contentHash = none →
    pick (fun id => (store.createdAt id).getD 0) e.2.headChoice (store.revisions pageId) =
      (store.revisions pageId).getLast?

instance (py : IntakePy) (pageId : PageId) (store : IntakeStore) (e : FeedRecord × RecordAnswers) :
    Decidable (TieToLast py pageId store e) := by
  unfold TieToLast
  split <;> infer_instance

lemma TieToLast.head {e : FeedRecord × RecordAnswers} {candidate : DiscoveryCandidate}
    (h : TieToLast py pageId store e)
    (hcandidate : prepareCandidate py.toPy e.1.url e.1.title e.1.excerpt = .ok candidate)
    (haccepts : rejects py store e.1 = false)
    (hknown : store.findPage e.1.sourceId candidate.normalizedUrl = some pageId)
    (hnew : store.findContent pageId candidate.contentHash = none) :
    store.headRevision pageId e.2.headChoice = (store.revisions pageId).getLast? := by
  rw [TieToLast, hcandidate] at h
  exact h haccepts hknown hnew

/-- The revisions of a page, in the order of their creation, are one chain. -/
structure OneChain (store : IntakeStore) (pageId : PageId) : Prop where
  /-- The first supersedes nothing, and every other one the one before it. -/
  chained : Chained store.supersedes (store.revisions pageId)
  root : store.revisions pageId ≠ [] →
    ∃! id, id ∈ store.revisions pageId ∧ store.supersedes id = none
  /-- No revision is superseded twice. -/
  once : ∀ id ∈ store.revisions pageId, ∀ id' ∈ store.revisions pageId,
    store.supersedes id = store.supersedes id' → id = id'

lemma OneChain.of_chained (h : Chained store.supersedes (store.revisions pageId)) :
    OneChain store pageId where
  chained := h
  root := h.root (revisions_nodup store pageId)
  once := fun _ hid _ hid' heq => h.once (revisions_nodup store pageId) hid hid' heq

/-- Rows that go on supersede what they did. -/
lemma supersedes_of_rows (hrows : ∀ id d, before.discovery id = some d →
      ∃ d', after.discovery id = some d' ∧ SameOrigin d d') :
    ∀ id ∈ before.revisions pageId, after.supersedes id = before.supersedes id := by
  intro id hid
  obtain ⟨d, hrow, -⟩ := mem_revisions.mp hid
  obtain ⟨d', hrow', horigin⟩ := hrows id d hrow
  rw [supersedes, supersedes, hrow, hrow', Option.bind_some, Option.bind_some, horigin.supersedes]

lemma SameRevisions.oneChain (h : SameRevisions pageId before after)
    (hchain : OneChain before pageId) : OneChain after pageId := by
  refine .of_chained ?_
  rw [h.revisions, chained_congr (supersedes_of_rows h.rows)]
  exact hchain.chained

theorem Recorded.oneChain {runId : CrawlRunId} {startedAt : Instant}
    {e : FeedRecord × RecordAnswers} {bucket : Bucket}
    (h : Recorded py runId startedAt e.1 e.2 before bucket after) (hchain : OneChain before pageId)
    (htie : TieToLast py pageId before e) : OneChain after pageId := by
  cases h with
  | rejected =>
    have hsame : SameRevisions pageId before
        { before with quarantine := before.quarantine ++ [quarantineOf py runId e.1] } :=
      .of_discoveries rfl
    exact hsame.oneChain hchain
  | repeated _ _ hseen _ => exact (SameRevisions.of_discoveries hseen.discoveries).oneChain hchain
  | @entered candidate seenId seen _ haccepts hcandidate hseen hnew hadded =>
    by_cases hpage : seenId = pageId
    · -- The new revision supersedes the head, which is the last one.
      subst hpage
      have hhead : before.headRevision seenId e.2.headChoice =
          (before.revisions seenId).getLast? := by
        rcases hseen.origin with hknown | hnone
        · refine htie.head hcandidate haccepts hknown ?_
          rwa [findContent, hseen.discoveries] at hnew
        · rw [headRevision, revisions_of_page_none hnone]
          rfl
      have hrevisions : after.revisions seenId = before.revisions seenId ++ [e.2.discoveryId] := by
        rw [added_revisions hadded rfl, revisions_congr hseen.discoveries]
        exact congrArg _ (if_pos rfl)
      refine .of_chained ?_
      rw [hrevisions, chained_concat, chained_congr (supersedes_of_rows fun id d hrow =>
        ⟨d, hadded.grown.discoveries id d (hseen.grown.discoveries id d hrow), .refl d⟩)]
      refine ⟨hchain.chained, ?_⟩
      rw [supersedes, hadded.row, ← hhead, ← headRevision_congr hseen.discoveries]
      rfl
    · exact (entered_sameRevisions hseen hadded rfl hpage).oneChain hchain

/-! ## Every run -/

lemma intakeStep_oneChain {op : IntakeOp} (hchain : OneChain store pageId)
    (hties : EachImported py (fun s e _ _ => TieToLast py pageId s e) store op) :
    OneChain (intakeStep py store op) pageId := by
  cases op with
  | importFeed runId startedAt finishedAt batch =>
    exact importFeedRecords_invariant (I := fun s => OneChain s pageId)
      (fun s t h hs => (SameRevisions.of_discoveries (by rw [h])).oneChain hs)
      (fun e s bucket t hrecorded hs htie => hrecorded.oneChain hs htie) finishedAt hchain hties
  | submit startedAt parentId batch =>
    unfold intakeStep
    dsimp only
    split
    · next h => exact (submitCandidates_appended h).sameRevisions.oneChain hchain
    · exact hchain
  | link id answers => exact (linkDiscovery_sameRevisions id answers store).oneChain hchain

/-- As long as ties go to the revision that was created last, the revisions of a page form one
chain, in every state of every run. -/
theorem revisions_chain (py : IntakePy) (pageId : PageId) (store : IntakeStore)
    (ops : List IntakeOp) (hstart : OneChain store pageId)
    (hties : EachStep (intakeStep py)
      (EachImported py fun s e _ _ => TieToLast py pageId s e) store ops) :
    EachStep (intakeStep py) (fun s op => OneChain (intakeStep py s op) pageId) store ops :=
  EachStep.imp_of_invariant (I := fun s => OneChain s pageId)
    (fun _ _ hs hop => intakeStep_oneChain hs hop) (fun _ _ hs hop => intakeStep_oneChain hs hop)
    hstart hties

open Sample in
/-- Three revisions of the page of the first award in one import. -/
def revisedBatch (choice : ℕ) : List (FeedRecord × RecordAnswers) :=
  [(feedRow "Award A", rowAnswers 1), (feedRow "Award B", rowAnswers 2),
    (feedRow "Award C", { rowAnswers 3 with headChoice := choice })]

/-- The import of three revisions. -/
def importRevised (choice : ℕ) : IntakeOp :=
  .importFeed 1 Sample.start (Sample.start + minute) (revisedBatch choice)

lemma emptyIntake_oneChain (pageId : PageId) : OneChain Sample.emptyIntake pageId :=
  .of_chained chained_nil

open Sample in
/-- An import whose tie goes to the second revision. -/
theorem importRevised_chain :
    EachStep (intakeStep intakePy) (fun s op => OneChain (intakeStep intakePy s op) 1) emptyIntake
      [importRevised 1] :=
  revisions_chain intakePy 1 emptyIntake [importRevised 1] (emptyIntake_oneChain 1)
    (by decide +kernel)

open Sample in
/-- The third revision supersedes the first, as the second does. -/
theorem importRevised_fork :
    OneChain emptyIntake 1 ∧ ¬ OneChain (intakeStep intakePy emptyIntake (importRevised 0)) 1 := by
  refine ⟨emptyIntake_oneChain 1, fun h => ?_⟩
  have hsecond : (2 : DiscoveryId) ∈
      (intakeStep intakePy emptyIntake (importRevised 0)).revisions 1 := by decide +kernel
  have hthird : (3 : DiscoveryId) ∈
      (intakeStep intakePy emptyIntake (importRevised 0)).revisions 1 := by decide +kernel
  have hsame : (intakeStep intakePy emptyIntake (importRevised 0)).supersedes 2 =
      (intakeStep intakePy emptyIntake (importRevised 0)).supersedes 3 := by decide +kernel
  exact absurd (h.once 2 hsecond 3 hthird hsame) (by decide)

end ScholarshipFinder
