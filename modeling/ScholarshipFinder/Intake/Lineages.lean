import ScholarshipFinder.Intake.Conservation
import ScholarshipFinder.Intake.Resubmission
import ScholarshipFinder.Lib.Run
import ScholarshipFinder.Linking.Runs

/-!
# The three lineages of a discovery

A discovery may revise another one, be split from one, or be a duplicate of one.  What these links
need of the discovery they point to (its page, its key, that it was not split) never changes, so a
link that is lawful when it is written stays lawful, whatever runs afterwards.
-/

namespace ScholarshipFinder

open Lib IntakeStore

/-- The links of a discovery. -/
structure Lawful (store : IntakeStore) (id : DiscoveryId) (d : Discovery) : Prop where
  apart : d.supersedesDiscoveryId = none ∨ d.splitFromDiscoveryId = none
  supersedes : ∀ head, d.supersedesDiscoveryId = some head → ∃ e, store.discovery head = some e ∧
    e.splitFromDiscoveryId = none ∧ e.sourcePageId = d.sourcePageId
  duplicate : ∀ original, d.duplicateOfDiscoveryId = some original → original < id ∧
    ∃ e, store.discovery original = some e ∧ e.sourcePageId ≠ d.sourcePageId ∧
      e.normalizedIdentityKey = d.normalizedIdentityKey

/-- The operations on the discoveries. -/
inductive IntakeOp
  | importFeed (runId : CrawlRunId) (startedAt finishedAt : Instant)
    (batch : List (FeedRecord × RecordAnswers))
  | submit (startedAt : Instant) (parentId : DiscoveryId)
    (batch : List (CandidateSubmission × CandidateAnswers))
  | link (id : DiscoveryId) (answers : LinkAnswers)

/-- The parent that an operation names. -/
def IntakeOp.parent : IntakeOp → Option DiscoveryId
  | .submit _ parentId _ => some parentId
  | _ => none

/-- One operation; a submission that raises is rolled back. -/
def intakeStep (py : IntakePy) (store : IntakeStore) : IntakeOp → IntakeStore
  | .importFeed runId startedAt finishedAt batch =>
    (importFeedRecords py runId startedAt finishedAt batch store).2
  | .submit startedAt parentId batch =>
    match submitCandidates py startedAt parentId batch store with
    | .ok (_, after) => after
    | .error _ => store
  | .link id answers => (store.linkDiscovery py id answers).2

/-- Rows go on, with lawful new marks, and new discoveries are lawful and have this parent. -/
structure Continues (parent : Option DiscoveryId) (before after : IntakeStore) : Prop where
  rows : ∀ id d, before.discovery id = some d → ∃ d', after.discovery id = some d' ∧
    SameOrigin d d' ∧ (d'.duplicateOfDiscoveryId = d.duplicateOfDiscoveryId ∨
      ∃ original, d'.duplicateOfDiscoveryId = some original ∧ Precedes before id d original)
  new : ∀ id d, before.discovery id = none → after.discovery id = some d →
    Lawful after id d ∧ d.splitFromDiscoveryId = parent

variable {py : IntakePy} {before middle after : IntakeStore} {parent : Option DiscoveryId}

/-! ## Lawful links stay lawful -/

lemma Continues.lawful (h : Continues parent before after) {id : DiscoveryId} {d d' : Discovery}
    (hlawful : Lawful before id d) (hrow : before.discovery id = some d)
    (hrow' : after.discovery id = some d') : Lawful after id d' := by
  obtain ⟨stored, hstored, horigin, hmark⟩ := h.rows id d hrow
  obtain rfl := Option.some.inj (hstored.symm.trans hrow')
  refine ⟨?_, ?_, ?_⟩
  · rw [horigin.supersedes, horigin.split]
    exact hlawful.apart
  · intro head hhead
    rw [horigin.supersedes] at hhead
    obtain ⟨e, he, hsplit, hpage⟩ := hlawful.supersedes head hhead
    obtain ⟨e', he', horigin', -⟩ := h.rows head e he
    refine ⟨e', he', ?_, ?_⟩
    · rw [horigin'.split, hsplit]
    · rw [horigin'.page, hpage, horigin.page]
  · intro original horiginal
    have hold : original < id ∧ ∃ e, before.discovery original = some e ∧
        e.sourcePageId ≠ d.sourcePageId ∧
        e.normalizedIdentityKey = d.normalizedIdentityKey := by
      rcases hmark with hsame | ⟨original', horiginal', hprecedes⟩
      · exact hlawful.duplicate original (hsame.symm.trans horiginal)
      · obtain rfl : original' = original :=
          Option.some.inj (horiginal'.symm.trans horiginal)
        obtain ⟨key, e, hkey, -, he, hkey', hpage, -⟩ := hprecedes.row
        exact ⟨hprecedes.earlier, e, he, hpage, hkey'.trans hkey.symm⟩
    obtain ⟨hlt, e, he, hpage, hkey⟩ := hold
    obtain ⟨e', he', horigin', -⟩ := h.rows original e he
    refine ⟨hlt, e', he', ?_, ?_⟩
    · rw [horigin'.page, horigin.page]
      exact hpage
    · rw [horigin'.key, horigin.key, hkey]

/-! ## Imports and submissions -/

/-- Discoveries were added, with lawful links and this parent, and none was written. -/
structure Appended (parent : Option DiscoveryId) (before after : IntakeStore) : Prop where
  pages : ∀ id page, before.page id = some page →
    ∃ seen, after.page id = some { page with lastSeenAt := seen }
  keys : ∃ ids, after.discovered.discoveries.keys = before.discovered.discoveries.keys ++ ids
  rows : ∀ id d, before.discovery id = some d → after.discovery id = some d
  new : ∀ id d, before.discovery id = none → after.discovery id = some d →
    Lawful after id d ∧ d.splitFromDiscoveryId = parent ∧ d.duplicateOfDiscoveryId = none

/-- What a link needs of a discovery is not lost when discoveries are added. -/
lemma Lawful.later {id : DiscoveryId} {d : Discovery} (h : Lawful middle id d)
    (hrows : ∀ id d, middle.discovery id = some d → after.discovery id = some d) :
    Lawful after id d where
  apart := h.apart
  supersedes := by
    intro head hhead
    obtain ⟨e, he, hcolumns⟩ := h.supersedes head hhead
    exact ⟨e, hrows head e he, hcolumns⟩
  duplicate := by
    intro original horiginal
    obtain ⟨hlt, e, he, hcolumns⟩ := h.duplicate original horiginal
    exact ⟨hlt, e, hrows original e he, hcolumns⟩

lemma Appended.of_eq (h : after.discovered = before.discovered) : Appended parent before after where
  pages := fun id page hpage => ⟨page.lastSeenAt, by rwa [IntakeStore.page, h]⟩
  keys := ⟨[], by rw [h, List.append_nil]⟩
  rows := fun id d hrow => by rwa [ReviewStore.discovery, h]
  new := fun id d hnone hrow => by
    rw [ReviewStore.discovery, h] at hrow
    rw [ReviewStore.discovery, hrow] at hnone
    cases hnone

theorem Appended.trans (h : Appended parent before middle) (h' : Appended parent middle after) :
    Appended parent before after where
  pages := by
    intro id page hpage
    obtain ⟨seen, hmiddle⟩ := h.pages id page hpage
    obtain ⟨seen', hafter⟩ := h'.pages id _ hmiddle
    exact ⟨seen', hafter⟩
  keys := by
    obtain ⟨ids, hids⟩ := h.keys
    obtain ⟨ids', hids'⟩ := h'.keys
    exact ⟨ids ++ ids', by rw [hids', hids, List.append_assoc]⟩
  rows := fun id d hrow => h'.rows id d (h.rows id d hrow)
  new := by
    intro id d hnone hrow
    cases hmiddle : middle.discovery id with
    | none => exact h'.new id d hmiddle hrow
    | some d' =>
      obtain rfl := Option.some.inj ((h'.rows id d' hmiddle).symm.trans hrow)
      obtain ⟨hlawful, hcolumns⟩ := h.new id d' hnone hmiddle
      exact ⟨hlawful.later h'.rows, hcolumns⟩

lemma Appended.continues (h : Appended parent before after) : Continues parent before after where
  rows := fun id d hrow => ⟨d, h.rows id d hrow, .refl d, .inl rfl⟩
  new := by
    intro id d hnone hrow
    obtain ⟨hlawful, hparent, -⟩ := h.new id d hnone hrow
    exact ⟨hlawful, hparent⟩

/-- A revision that the head lookup finds. -/
lemma headRevision_row {store : IntakeStore} {pageId : PageId} {choice : ℕ} {head : DiscoveryId}
    (h : store.headRevision pageId choice = some head) :
    ∃ e, store.discovery head = some e ∧ e.splitFromDiscoveryId = none ∧
      e.sourcePageId = pageId := by
  have hmem := mem_of_pick h
  rw [revisions, List.mem_filter, Option.any_eq_true] at hmem
  obtain ⟨-, e, he, hcolumns⟩ := hmem
  rw [Bool.and_eq_true, decide_eq_true_eq, decide_eq_true_eq] at hcolumns
  exact ⟨e, he, hcolumns.2, hcolumns.1⟩

theorem Recorded.appended {runId : CrawlRunId} {startedAt : Instant} {record : FeedRecord}
    {answers : RecordAnswers} {bucket : Bucket}
    (h : Recorded py runId startedAt record answers before bucket after) :
    Appended none before after := by
  have hrows := h.grown.discoveries
  have hpages : ∀ id page, before.page id = some page →
      ∃ seen, after.page id = some { page with lastSeenAt := seen } := by
    intro id page hpage
    obtain ⟨seen, hafter, -⟩ := h.grown.pages id page hpage
    exact ⟨seen, hafter⟩
  cases h with
  | rejected => exact .of_eq rfl
  | repeated _ _ hseen _ =>
    refine ⟨hpages, ⟨[], by rw [hseen.discoveries, List.append_nil]⟩, hrows, fun id d hnone hrow => ?_⟩
    rw [ReviewStore.discovery, hseen.discoveries] at hrow
    rw [ReviewStore.discovery, hrow] at hnone
    cases hnone
  | entered _ _ hseen _ hadded =>
    refine ⟨hpages, ⟨_, by rw [hadded.keys, hseen.discoveries]⟩, hrows, fun id d hnone hrow => ?_⟩
    rw [ReviewStore.discovery, hadded.discoveries, Table.row_insert] at hrow
    split at hrow
    · obtain rfl := Option.some.inj hrow
      refine ⟨⟨.inr rfl, fun head hhead => ?_, fun original horiginal => by cases horiginal⟩, rfl,
        rfl⟩
      obtain ⟨e, he, hcolumns⟩ := headRevision_row hhead
      exact ⟨e, hadded.grown.discoveries head e he, hcolumns⟩
    · rw [hseen.discoveries] at hrow
      rw [ReviewStore.discovery, hrow] at hnone
      cases hnone

theorem importFeedRecords_appended (runId : CrawlRunId) (startedAt finishedAt : Instant)
    (batch : List (FeedRecord × RecordAnswers)) (store : IntakeStore) :
    Appended none store (importFeedRecords py runId startedAt finishedAt batch store).2 :=
  importFeedRecords_invariant (I := Appended none store) (fun _ _ h hs => hs.trans (.of_eq h))
    (fun _ _ _ _ h hs _ => hs.trans h.appended) finishedAt (.of_eq rfl)
    fun _ => eachRecord_true batch _

lemma submitEach_appended {startedAt : Instant} {context : DiscoveryContext}
    {batch : List (CandidateSubmission × CandidateAnswers)} {results : List CandidateResult}
    (h : submitEach py startedAt context batch before = .ok (results, after)) :
    Appended (some context.discoveryId) before after := by
  have haccount := submitEach_ok h
  obtain ⟨times, hgrown⟩ := haccount.grown
  refine ⟨fun id page hpage => ?_, ⟨_, haccount.keys⟩, hgrown.discoveries, fun id d hnone hrow => ?_⟩
  · obtain ⟨seen, hafter, -⟩ := hgrown.pages id page hpage
    exact ⟨seen, hafter⟩
  have hid : id ∈ after.discovered.discoveries.keys := by
    rw [after.discovered.discoveries.mem_keys]
    exact Option.isSome_iff_exists.mpr ⟨d, hrow⟩
  rw [haccount.keys] at hid
  rcases List.mem_append.mp hid with hold | hnew
  · rw [before.discovered.discoveries.mem_keys] at hold
    rw [ReviewStore.discovery] at hnone
    rw [hnone] at hold
    cases hold
  · obtain ⟨d', hrow', hsplit, hsupersedes, hmark⟩ := (haccount.each id hnew).row
    obtain rfl := Option.some.inj (hrow'.symm.trans hrow)
    refine ⟨⟨.inl hsupersedes, fun head hhead => ?_, fun original horiginal => ?_⟩, hsplit, hmark⟩
    · rw [hsupersedes] at hhead
      cases hhead
    · rw [hmark] at horiginal
      cases horiginal

lemma submitCandidates_appended {startedAt : Instant} {parentId : DiscoveryId}
    {batch : List (CandidateSubmission × CandidateAnswers)}
    {response : Option CandidateSubmissionResponse}
    (h : submitCandidates py startedAt parentId batch before = .ok (response, after)) :
    Appended (some parentId) before after := by
  unfold submitCandidates at h
  split at h
  · cases h
    exact .of_eq rfl
  · next context hcontext =>
    split at h
    · obtain ⟨⟨results, worked⟩, heach, h⟩ := exceptBind_ok h
      cases h
      rw [← (loadDiscoveryContext_eq_some.mp hcontext).1]
      exact submitEach_appended heach
    · cases h

/-! ## Every operation -/

lemma linkDiscovery_continues (id : DiscoveryId) (answers : LinkAnswers) (store : IntakeStore) :
    Continues none store (store.linkDiscovery py id answers).2 := by
  obtain ⟨f, horigin, hrows, hmark⟩ := (linkDiscovery_linked py id answers store).rows
  constructor
  · intro other d hrow
    rw [hrows, hrow]
    split
    · next heq =>
      subst heq
      refine ⟨f d, rfl, horigin d, ?_⟩
      rw [hmark d hrow]
      cases horiginal : store.originalOf other d with
      | none => exact .inl rfl
      | some original => exact .inr ⟨original, rfl, originalOf_precedes horiginal⟩
    · exact ⟨d, rfl, .refl d, .inl rfl⟩
  · intro other d hnone hrow
    rw [hrows, hnone] at hrow
    split at hrow <;> cases hrow

theorem intakeStep_continues (store : IntakeStore) (op : IntakeOp) :
    Continues op.parent store (intakeStep py store op) := by
  cases op with
  | importFeed runId startedAt finishedAt batch =>
    exact (importFeedRecords_appended runId startedAt finishedAt batch store).continues
  | submit startedAt parentId batch =>
    refine Appended.continues ?_
    unfold intakeStep
    dsimp only
    split
    · next h => exact submitCandidates_appended h
    · exact .of_eq rfl
  | link id answers => exact linkDiscovery_continues id answers store

/-- A discovery keeps the discovery it was split from, and a new one is split from the parent that
the operation names. -/
def SplitKept (py : IntakePy) (store : IntakeStore) (op : IntakeOp) : Prop :=
  (∀ id d, store.discovery id = some d → ∃ d', (intakeStep py store op).discovery id = some d' ∧
    d'.splitFromDiscoveryId = d.splitFromDiscoveryId) ∧
  ∀ id d, store.discovery id = none → (intakeStep py store op).discovery id = some d →
    d.splitFromDiscoveryId = op.parent

/-- The links of a discovery, if it is stored. -/
def LawfulAt (store : IntakeStore) (id : DiscoveryId) : Prop :=
  ∀ d, store.discovery id = some d → Lawful store id d

lemma LawfulAt.step {store : IntakeStore} {id : DiscoveryId} (h : LawfulAt store id)
    (op : IntakeOp) : LawfulAt (intakeStep py store op) id := by
  have hcontinues := @intakeStep_continues py store op
  intro d hrow
  cases hstored : store.discovery id with
  | none => exact (hcontinues.new id d hstored hrow).1
  | some stored => exact hcontinues.lawful (h stored hstored) hstored hrow

/-- The three lineages never mix, however imports, submissions and links are interleaved. -/
theorem lineages_apart (py : IntakePy) (store : IntakeStore) (ops : List IntakeOp) :
    EachStep (intakeStep py) (SplitKept py) store ops ∧
      ∀ id, LawfulAt store id → LawfulAt (run (intakeStep py) store ops) id := by
  constructor
  · refine EachStep.imp (A := fun _ => True) (C := fun _ _ => True) ?_ (fun _ _ => trivial)
      (eachStep_true _ _ _)
    intro s op _ _
    have hcontinues := @intakeStep_continues py s op
    refine ⟨fun id d hrow => ?_, fun id d hnone hrow => (hcontinues.new id d hnone hrow).2⟩
    obtain ⟨d', hrow', horigin, -⟩ := hcontinues.rows id d hrow
    exact ⟨d', hrow', horigin.split⟩
  · intro id h
    exact run_invariant (I := fun s => LawfulAt s id) (A := fun _ => True) (C := fun _ _ => True)
      (fun s op _ hs _ => hs.step op) (fun _ _ => trivial) h (eachStep_true _ _ _)

end ScholarshipFinder
