import ScholarshipFinder.Intake.Conservation
import ScholarshipFinder.Intake.NewKeys
import ScholarshipFinder.Intake.Resubmission

/-!
# A batch whose texts fit

A batch is one transaction, so a row that the database refuses takes the others with it.
`batches_complete_iff` says exactly when no row is refused.  An import writes the identity key of a
new discovery into the key of a job, where 453 characters of it have room; a submission writes a
digest there, and has room for the 500 characters of its column.  A title of 500 letters is within
the limits of a feed, and its import fails (`long_title_sinks_import`).
-/

namespace ScholarshipFinder

open Lib IntakeStore

/-! ## The law -/

section

variable (py : IntakePy)

/-- The texts of a row can be stored. -/
structure Storable (url title : String) (excerpt : Option String) : Prop where
  url : py.storesText url = true
  title : py.storesText title = true
  excerpt : excerpt.all py.storesText = true

/-- The content of a candidate is stored for its page already. -/
def KnownContent (store : IntakeStore) (sourceId : SourceId) (candidate : DiscoveryCandidate) :
    Prop :=
  ∃ pageId, store.findPage sourceId candidate.normalizedUrl = some pageId ∧
    (store.findContent pageId candidate.contentHash).isSome

/-- The page of a candidate can be stored if it is new, and the discovery if its content is. -/
structure EntryFits (store : IntakeStore) (sourceId : SourceId) (candidate : DiscoveryCandidate)
    (excerpt : Option String) (keyLimit : ℕ) : Prop where
  page : store.findPage sourceId candidate.normalizedUrl = none →
    py.storesText candidate.normalizedUrl = true
  content : ¬ KnownContent store sourceId candidate →
    py.storesText candidate.title = true ∧ excerpt.all py.storesText = true ∧
      (normalizeDiscovery py.toPyText py.toUnicodeText candidate.title).identityKey.length ≤
        keyLimit

/-- What a record of a feed writes fits its columns. -/
def RecordFits (store : IntakeStore) (record : FeedRecord) : Prop :=
  match prepareCandidate py.toPy record.url record.title record.excerpt with
  | .error _ => Storable py record.url record.title record.excerpt
  | .ok candidate =>
    if (store.discovered.db.sources.row record.sourceId).any (·.active) then
      EntryFits py store record.sourceId candidate candidate.excerpt 453
    else Storable py candidate.normalizedUrl record.title record.excerpt

/-- What a candidate of the Agent writes fits its columns; of a rejected one nothing is written. -/
def CandidateFits (parent : DiscoveryContext) (store : IntakeStore)
    (candidate : CandidateSubmission) : Prop :=
  match prepareCandidate py.toPy (candidateUrl parent candidate) candidate.title
    candidate.excerpt with
  | .error _ => True
  | .ok prepared =>
    EntryFits py store parent.sourceId prepared (excerptUnder py candidate.heading prepared.excerpt)
      textLimit

/-- The store after one record of an import. -/
def recordStep (runId : CrawlRunId) (startedAt : Instant) (store : IntakeStore)
    (e : FeedRecord × RecordAnswers) : IntakeStore :=
  ((importRecord py runId startedAt e.1 e.2 store).toOption.map Prod.snd).getD store

/-- The store after one candidate of a submission. -/
def candidateStep (startedAt : Instant) (parent : DiscoveryContext) (store : IntakeStore)
    (e : CandidateSubmission × CandidateAnswers) : IntakeStore :=
  ((submitOne py startedAt parent e.1 e.2 store).toOption.map Prod.snd).getD store

end

/-! ## One record -/

variable {py : IntakePy} {store after : IntakeStore} {runId : CrawlRunId} {startedAt : Instant}

/-- `str.strip` does not lengthen a text. -/
def StripShortens (py : IntakePy) : Prop := ∀ s, (py.strip s).length ≤ s.length

lemma prepareCandidate_title (hstrip : StripShortens py) {url title : String}
    {excerpt : Option String} {candidate : DiscoveryCandidate} (htitle : title.length ≤ textLimit)
    (h : prepareCandidate py.toPy url title excerpt = .ok candidate) :
    candidate.title.length ≤ textLimit := by
  rw [(prepareCandidate_ok h).2.2.1]
  exact (hstrip title).trans htitle

/-- The columns of a discovery with these texts. -/
lemma admitsDiscovery_iff {d : Discovery} {title key : String} (htitle : d.rawTitle = some title)
    (hkey : d.normalizedIdentityKey = some key) (hlength : title.length ≤ textLimit) :
    admitsDiscovery py d = true ↔
      py.storesText title = true ∧ d.rawExcerpt.all py.storesText = true ∧
        key.length ≤ textLimit := by
  simp only [admitsDiscovery, htitle, hkey, Option.all_some, Bool.and_eq_true, decide_eq_true_eq,
    hlength, true_and, and_assoc]

/-- Where the page was seen, its content is known exactly if it was known before. -/
lemma IntakeStore.Seen.findContent_iff {sourceId : SourceId} {candidate : DiscoveryCandidate} {now : Instant}
    {pageId : PageId}
    (h : Seen sourceId candidate.normalizedUrl now store after pageId) :
    after.findContent pageId candidate.contentHash ≠ none ↔
      KnownContent store sourceId candidate := by
  have hcontent : after.findContent pageId candidate.contentHash =
      store.findContent pageId candidate.contentHash := by
    rw [findContent, findContent, h.discoveries]
  rw [hcontent, ← Option.isSome_iff_ne_none]
  constructor
  · intro hknown
    rcases h.origin with hfound | hfree
    · exact ⟨pageId, hfound, hknown⟩
    · -- a page that is new has no content yet
      obtain ⟨id, hid⟩ := Option.isSome_iff_exists.mp hknown
      obtain ⟨d, hrow, hmatch⟩ := Table.findKey_eq_some hid
      rw [Bool.and_eq_true, decide_eq_true_eq] at hmatch
      have hpage := store.discovered.discovery_page id d hrow
      rw [hmatch.1, ← IntakeStore.page, hfree] at hpage
      cases hpage
  · rintro ⟨found, hfound, hknown⟩
    obtain rfl : found = pageId :=
      Option.some.inj ((h.grown.foundPage _ _ _ hfound).symm.trans h.found)
    exact hknown

/-- A discovery on the page that was seen, under new keys. -/
lemma IntakeStore.Seen.addDiscovery_iff {keys : NewKeys} {sourceId : SourceId} {url title key suffix : String}
    {now : Instant} {pageId : PageId} {d : Discovery}
    (h : Seen sourceId url now store after pageId) (hunused : Unused store keys)
    (hpage : d.sourcePageId = pageId) (htitle : d.rawTitle = some title)
    (hkey : d.normalizedIdentityKey = some key) (hlength : title.length ≤ textLimit) :
    (∃ added, after.addDiscovery py keys.discoveryId d suffix keys.normalizeJobId keys.linkJobId =
      .ok added) ↔
    (py.storesText title = true ∧ d.rawExcerpt.all py.storesText = true ∧
      key.length ≤ textLimit) ∧ suffix.length ≤ 453 := by
  have hjobs : JobsUnused after.jobs keys := by
    rw [h.jobs]
    exact hunused.toJobsUnused
  have hfree : after.discovery keys.discoveryId = none := by
    rw [ReviewStore.discovery, h.discoveries]
    exact hunused.discovery
  have hexists : (after.discovered.db.pages.row d.sourcePageId).isSome := by
    obtain ⟨page, hrow, -⟩ := h.page
    rw [hpage, ← IntakeStore.page, hrow]
    rfl
  rw [addDiscovery_ok_iff hjobs hfree hexists, admitsDiscovery_iff htitle hkey hlength]

/-- What follows the page of a candidate is refused only for its content, where this is new. -/
lemma seen_ok_iff (keys : NewKeys) {sourceId : SourceId} {candidate : DiscoveryCandidate}
    {now : Instant} {excerpt : Option String} {keyLimit : ℕ} {γ : Type}
    {next : PageId × IntakeStore → Except PyErr γ} (hunused : Unused store keys)
    (hsource : (store.discovered.db.sources.row sourceId).isSome)
    (hnext : ∀ pageId seen, Seen sourceId candidate.normalizedUrl now store seen pageId →
      ((∃ result, next (pageId, seen) = .ok result) ↔
        (seen.findContent pageId candidate.contentHash = none →
          py.storesText candidate.title = true ∧ excerpt.all py.storesText = true ∧
            (normalizeDiscovery py.toPyText py.toUnicodeText
              candidate.title).identityKey.length ≤ keyLimit))) :
    (∃ result, (store.seePage py keys.pageId sourceId candidate.normalizedUrl now >>= next) =
      .ok result) ↔ EntryFits py store sourceId candidate excerpt keyLimit := by
  have hpage := @seePage_ok_iff keys store py sourceId candidate.normalizedUrl now hunused.page
    hsource
  constructor
  · rintro ⟨result, hresult⟩
    obtain ⟨⟨pageId, seen⟩, hseen, hrest⟩ := exceptBind_ok hresult
    have hsaw := seePage_ok hseen
    refine ⟨hpage.mp ⟨_, hseen⟩, fun hnew => (hnext pageId seen hsaw).mp ⟨result, hrest⟩ ?_⟩
    by_contra hfound
    exact hnew (hsaw.findContent_iff.mp hfound)
  · rintro ⟨hurl, hcontent⟩
    obtain ⟨⟨pageId, seen⟩, hseen⟩ := hpage.mpr hurl
    have hsaw := seePage_ok hseen
    rw [hseen]
    refine (hnext pageId seen hsaw).mpr fun hnone => hcontent fun hknown => ?_
    exact hsaw.findContent_iff.mpr hknown hnone

lemma insertQuarantine_ok_iff {row : DiscoveryQuarantine} (hlength : row.rawTitle.length ≤ textLimit) :
    (∃ after, insertQuarantine py row store = .ok after) ↔
      Storable py row.rawUrl row.rawTitle row.rawExcerpt := by
  unfold insertQuarantine
  split
  · next hadmits => exact ⟨fun _ => ⟨hadmits.2.2.1, hadmits.2.1, hadmits.2.2.2⟩, fun _ => ⟨_, rfl⟩⟩
  · next hrefuses =>
    refine ⟨?_, fun h => absurd ⟨hlength, h.title, h.url, h.excerpt⟩ hrefuses⟩
    rintro ⟨_, ⟨⟩⟩

/-- A computation that only wraps the result of another. -/
lemma wrap_ok_iff {α β : Type} {x : Except PyErr α} {f : α → β} :
    (∃ b, (x >>= fun a => Except.ok (f a)) = .ok b) ↔ ∃ a, x = .ok a := by
  cases x with
  | ok a => exact ⟨fun _ => ⟨a, rfl⟩, fun _ => ⟨f a, rfl⟩⟩
  | error e =>
    constructor
    · rintro ⟨_, ⟨⟩⟩
    · rintro ⟨_, ⟨⟩⟩

/-- A record of an import is taken exactly if it fits. -/
theorem importRecord_ok_iff (laws : py.UrlLaws) (hstrip : StripShortens py) {record : FeedRecord}
    {answers : RecordAnswers} (hunused : Unused store answers.keys)
    (htitle : record.title.length ≤ textLimit) :
    (∃ result, importRecord py runId startedAt record answers store = .ok result) ↔
      RecordFits py store record := by
  unfold importRecord RecordFits
  cases hcandidate : prepareCandidate py.toPy record.url record.title record.excerpt with
  | error e =>
    dsimp only
    rw [if_pos (prepareCandidate_error laws hcandidate)]
    exact wrap_ok_iff.trans (insertQuarantine_ok_iff htitle)
  | ok candidate =>
    dsimp only
    by_cases hactive : (store.discovered.db.sources.row record.sourceId).any (·.active) = true
    · rw [if_pos hactive, if_pos hactive]
      have hsource : (store.discovered.db.sources.row record.sourceId).isSome := by
        rw [Option.any_eq_true] at hactive
        obtain ⟨source, hrow, -⟩ := hactive
        rw [hrow]
        rfl
      refine seen_ok_iff answers.keys hunused hsource fun pageId seen hseen => ?_
      unfold importContent
      cases hknown : seen.findContent pageId candidate.contentHash with
      | some found =>
        refine ⟨fun _ hnone => ?_, fun _ => ⟨_, rfl⟩⟩
        cases hnone
      | none =>
        refine wrap_ok_iff.trans ((hseen.addDiscovery_iff hunused rfl rfl rfl
          (prepareCandidate_title hstrip htitle hcandidate)).trans ?_)
        -- the key of the job is longer than the identity key
        constructor
        · rintro ⟨⟨htext, hexcerpt, -⟩, hkey⟩ -
          exact ⟨htext, hexcerpt, hkey⟩
        · intro h
          obtain ⟨htext, hexcerpt, hkey⟩ := h rfl
          exact ⟨⟨htext, hexcerpt, hkey.trans (by decide)⟩, hkey⟩
    · rw [if_neg hactive, if_neg hactive]
      exact wrap_ok_iff.trans (insertQuarantine_ok_iff htitle)

lemma importRecord_entered {record : FeedRecord} {answers : RecordAnswers} {bucket : Bucket}
    (h : importRecord py runId startedAt record answers store = .ok (bucket, after)) :
    EnteredFor answers.keys store after := by
  have hquarantine : ∀ {row kept}, insertQuarantine py row store = .ok kept →
      EnteredFor answers.keys store kept := by
    intro row kept hkept
    unfold insertQuarantine at hkept
    split at hkept
    · cases hkept
      exact ⟨rfl, fun _ h _ => h, fun _ h _ => h, fun _ h _ => h, fun _ _ h => Or.inl h⟩
    · cases hkept
  unfold importRecord at h
  split at h
  · split at h
    · obtain ⟨kept, hkept, h⟩ := exceptBind_ok h
      cases h
      exact hquarantine hkept
    · cases h
  split at h
  swap
  · obtain ⟨kept, hkept, h⟩ := exceptBind_ok h
    cases h
    exact hquarantine hkept
  obtain ⟨⟨pageId, seen⟩, hseen, h⟩ := exceptBind_ok h
  have hpage : EnteredFor answers.keys store seen := seePage_entered hseen
  dsimp only at h
  unfold importContent at h
  split at h
  · cases h
    exact hpage
  · obtain ⟨added, hadded, h⟩ := exceptBind_ok h
    cases h
    exact hpage.trans (addDiscovery_entered answers.keys hadded)

/-- The records of a batch are all taken exactly if they fit. -/
theorem importRecords_ended_iff (laws : py.UrlLaws) (hstrip : StripShortens py)
    {batch : List (FeedRecord × RecordAnswers)} (counts : ImportCounts)
    (hkeys : Generated store (batch.map (·.2.keys)))
    (htitles : ∀ e ∈ batch, e.1.title.length ≤ textLimit) :
    (importRecords py runId startedAt batch counts store).1 = none ↔
      EachStep (recordStep py runId startedAt) (fun store e => RecordFits py store e.1) store
        batch := by
  induction batch generalizing counts store with
  | nil => exact ⟨fun _ => trivial, fun _ => rfl⟩
  | cons e batch ih =>
    obtain ⟨record, answers⟩ := e
    have hfits := @importRecord_ok_iff py store runId startedAt laws hstrip record answers
      (hkeys.unused _ List.mem_cons_self) (htitles _ List.mem_cons_self)
    rw [importRecords, EachStep, ← hfits]
    cases hrecord : importRecord py runId startedAt record answers store with
    | error e =>
      constructor
      · rintro ⟨⟩
      · rintro ⟨⟨_, ⟨⟩⟩, -⟩
    | ok result =>
      obtain ⟨bucket, middle⟩ := result
      have hstep : recordStep py runId startedAt store (record, answers) = middle := by
        simp only [recordStep, hrecord, Except.toOption, Option.map_some, Option.getD_some]
      rw [hstep, and_iff_right ⟨_, rfl⟩]
      exact ih _ (hkeys.tail (importRecord_entered hrecord)) fun e he =>
        htitles e (List.mem_cons_of_mem _ he)

/-! ## One candidate -/

/-- A candidate of a submission is taken exactly if it fits. -/
theorem submitOne_ok_iff (laws : py.UrlLaws) (hstrip : StripShortens py) {parent : DiscoveryContext}
    {candidate : CandidateSubmission} {answers : CandidateAnswers}
    (hsource : (store.discovered.db.sources.row parent.sourceId).isSome)
    (hunused : Unused store answers.keys) (htitle : candidate.title.length ≤ textLimit) :
    (∃ result, submitOne py startedAt parent candidate answers store = .ok result) ↔
      CandidateFits py parent store candidate := by
  unfold submitOne CandidateFits
  cases hprepared : prepareCandidate py.toPy (candidateUrl parent candidate) candidate.title
      candidate.excerpt with
  | error e =>
    dsimp only
    rw [if_pos (prepareCandidate_error laws hprepared)]
    exact ⟨fun _ => trivial, fun _ => ⟨_, rfl⟩⟩
  | ok prepared =>
    dsimp only
    refine seen_ok_iff answers.keys hunused hsource fun pageId seen hseen => ?_
    unfold submitContent
    cases hknown : seen.findContent pageId prepared.contentHash with
    | some found =>
      refine ⟨fun _ hnone => ?_, fun _ => ⟨_, rfl⟩⟩
      cases hnone
    | none =>
      refine wrap_ok_iff.trans ((hseen.addDiscovery_iff hunused rfl rfl rfl
        (prepareCandidate_title hstrip htitle hprepared)).trans ?_)
      -- a digest has 32 characters at most
      have hdigest : ∀ key, (identityDigest py key).length ≤ 453 := by
        intro key
        rw [identityDigest, String.length_ofList, List.length_take]
        omega
      constructor
      · rintro ⟨hfits, -⟩ -
        exact hfits
      · intro h
        exact ⟨h rfl, hdigest _⟩

lemma submitOne_entered {parent : DiscoveryContext} {candidate : CandidateSubmission}
    {answers : CandidateAnswers} {result : CandidateResult}
    (h : submitOne py startedAt parent candidate answers store = .ok (result, after)) :
    EnteredFor answers.keys store after := by
  unfold submitOne at h
  split at h
  · split at h
    · cases h
      exact .refl answers.keys store
    · cases h
  obtain ⟨⟨pageId, seen⟩, hseen, h⟩ := exceptBind_ok h
  have hpage : EnteredFor answers.keys store seen := seePage_entered hseen
  dsimp only at h
  unfold submitContent at h
  split at h
  · cases h
    exact hpage
  · obtain ⟨added, hadded, h⟩ := exceptBind_ok h
    cases h
    exact hpage.trans (addDiscovery_entered answers.keys hadded)

/-- The candidates of a submission are all taken exactly if they fit. -/
theorem submitEach_ok_iff (laws : py.UrlLaws) (hstrip : StripShortens py)
    {parent : DiscoveryContext} {batch : List (CandidateSubmission × CandidateAnswers)}
    (hsource : (store.discovered.db.sources.row parent.sourceId).isSome)
    (hkeys : Generated store (batch.map (·.2.keys)))
    (htitles : ∀ e ∈ batch, e.1.title.length ≤ textLimit) :
    (∃ result, submitEach py startedAt parent batch store = .ok result) ↔
      EachStep (candidateStep py startedAt parent)
        (fun store e => CandidateFits py parent store e.1) store batch := by
  induction batch generalizing store with
  | nil => exact ⟨fun _ => trivial, fun _ => ⟨_, rfl⟩⟩
  | cons e batch ih =>
    obtain ⟨candidate, answers⟩ := e
    have hfits := @submitOne_ok_iff py store startedAt laws hstrip parent candidate answers hsource
      (hkeys.unused _ List.mem_cons_self) (htitles _ List.mem_cons_self)
    rw [submitEach, EachStep, ← hfits]
    cases hcandidate : submitOne py startedAt parent candidate answers store with
    | error e =>
      constructor
      · rintro ⟨_, ⟨⟩⟩
      · rintro ⟨⟨_, ⟨⟩⟩, -⟩
    | ok result =>
      obtain ⟨outcome, middle⟩ := result
      have hentered := submitOne_entered hcandidate
      have hstep : candidateStep py startedAt parent store (candidate, answers) = middle := by
        simp only [candidateStep, hcandidate, Except.toOption, Option.map_some, Option.getD_some]
      rw [hstep, and_iff_right ⟨_, rfl⟩]
      refine wrap_ok_iff.trans (ih ?_ (hkeys.tail hentered) fun e he =>
        htitles e (List.mem_cons_of_mem _ he))
      rw [hentered.sources]
      exact hsource

/-! ## The batches -/

/-- An import ends, and its crawl run is completed. -/
def ImportCompletes (runId : CrawlRunId) (result : Except PyErr ImportOutcome × IntakeStore) :
    Prop :=
  (∃ outcome, result.1 = .ok outcome) ∧
    ∃ run, result.2.crawlRuns.row runId = some run ∧ run.state = .completed

lemma importCompletes_iff {batch : List (FeedRecord × RecordAnswers)} {finishedAt : Instant}
    (hfree : store.crawlRuns.row runId = none) :
    ImportCompletes runId (importFeedRecords py runId startedAt finishedAt batch store) ↔
      (importRecords py runId startedAt batch {}
        (store.startRun runId startedAt (batch.map Prod.fst))).1 = none := by
  let started := store.startRun runId startedAt (batch.map Prod.fst)
  obtain ⟨raised, counts, worked, hloop⟩ : ∃ raised counts worked,
      importRecords py runId startedAt batch {} started = (raised, counts, worked) :=
    ⟨_, _, _, rfl⟩
  rw [show importRecords py runId startedAt batch {}
    (store.startRun runId startedAt (batch.map Prod.fst)) = (raised, counts, worked) from hloop]
  cases raised with
  | some e =>
    rw [importFeedRecords_of_raised hfree hloop]
    constructor
    · rintro ⟨⟨_, ⟨⟩⟩, -⟩
    · rintro ⟨⟩
  | none =>
    rw [importFeedRecords_of_ended hfree hloop]
    refine ⟨fun _ => rfl, fun _ => ⟨⟨_, rfl⟩, ?_⟩⟩
    obtain ⟨entered, haccount⟩ := importRecords_imported hloop
    have hrun : worked.crawlRuns.row runId =
        some (startedRun startedAt (batch.map Prod.fst)) := by
      rw [haccount.crawlRuns]
      exact Table.row_insert_self _ _ _
    refine ⟨(startedRun startedAt (batch.map Prod.fst)).finish none counts finishedAt, ?_, rfl⟩
    show (worked.crawlRuns.modify runId _).row runId = _
    rw [Table.row_modify_self, hrun, Option.map_some]

lemma Generated.startRun {keys : List NewKeys} (h : Generated store keys)
    (records : List FeedRecord) : Generated (store.startRun runId startedAt records) keys where
  unused := fun k hk =>
    ⟨(h.unused k hk).toJobsUnused, (h.unused k hk).page, (h.unused k hk).discovery⟩
  apart := h.apart

/-- An import completes exactly if what its records write fits, each in the database that it meets;
so does a submission with what its candidates write. -/
theorem batches_complete_iff (py : IntakePy) (laws : py.UrlLaws) (hstrip : StripShortens py) :
    (∀ runId startedAt finishedAt (batch : List (FeedRecord × RecordAnswers)) store,
      store.crawlRuns.row runId = none → Generated store (batch.map (·.2.keys)) →
      (∀ e ∈ batch, e.1.title.length ≤ textLimit) →
      (ImportCompletes runId (importFeedRecords py runId startedAt finishedAt batch store) ↔
        EachStep (recordStep py runId startedAt) (fun store e => RecordFits py store e.1)
          (store.startRun runId startedAt (batch.map Prod.fst)) batch)) ∧
    ∀ startedAt parentId context (batch : List (CandidateSubmission × CandidateAnswers)) store,
      loadDiscoveryContext store parentId = some context → context.source.active = true →
      Generated store (batch.map (·.2.keys)) → (∀ e ∈ batch, e.1.title.length ≤ textLimit) →
      ((∃ response after, submitCandidates py startedAt parentId batch store =
          .ok (some response, after)) ↔
        EachStep (candidateStep py startedAt context)
          (fun store e => CandidateFits py context store e.1) store batch) := by
  constructor
  · intro runId startedAt finishedAt batch store hfree hkeys htitles
    rw [importCompletes_iff hfree]
    exact importRecords_ended_iff laws hstrip {} (hkeys.startRun _) htitles
  · intro startedAt parentId context batch store hcontext hactive hkeys htitles
    obtain ⟨-, -, -, -, hsource⟩ := loadDiscoveryContext_eq_some.mp hcontext
    have hexists : (store.discovered.db.sources.row context.sourceId).isSome := by
      rw [hsource]
      rfl
    rw [← submitEach_ok_iff laws hstrip hexists hkeys htitles]
    unfold submitCandidates
    rw [hcontext]
    dsimp only
    rw [if_pos hactive]
    cases submitEach py startedAt context batch store with
    | error e =>
      constructor
      · rintro ⟨_, _, ⟨⟩⟩
      · rintro ⟨_, ⟨⟩⟩
    | ok result => exact ⟨fun _ => ⟨_, rfl⟩, fun _ => ⟨_, _, rfl⟩⟩

/-! ## Two imports -/

namespace Sample

/-- A title of `n` letters. -/
def letters (n : ℕ) : String := String.ofList (List.replicate n 'a')

lemma fold_letters (n : ℕ) : fold intakePy.toUnicodeText (letters n) = letters n := by
  have hvisible : (List.replicate n 'a').filter (fun c => !invisible.contains c) =
      List.replicate n 'a' := by
    refine List.filter_eq_self.mpr fun c hc => ?_
    rw [List.eq_of_mem_replicate hc]
    decide
  have hletters : (List.replicate n 'a').flatMap (fun c =>
      ((indivisible.lookup c).map String.toList).getD [c]) = List.replicate n 'a' := by
    rw [List.flatMap_congr (g := fun c => [c]) fun c hc => by
      rw [List.eq_of_mem_replicate hc]
      decide]
    exact List.flatMap_singleton' _
  rw [fold, letters, String.toList_ofList, hvisible, hletters]
  show String.ofList ((String.ofList (List.replicate n 'a')).toList.filter fun _ => true) = _
  rw [List.filter_true, String.ofList_toList]

lemma cleanText_letters (n : ℕ) :
    cleanText intakePy.toPyText intakePy.toUnicodeText (letters n) = letters n := by
  have hspaces : Pattern.replaceAll (.many1 intakePy.isspace) (fun _ => [' ']) (letters n).toList =
      (letters n).toList := by
    refine Pattern.replaceAll_none fun c hc => ?_
    rw [letters, String.toList_ofList] at hc
    rw [List.eq_of_mem_replicate hc]
    decide
  rw [cleanText, fold_letters]
  show String.map Char.toLower (String.ofList (Pattern.replaceAll (.many1 intakePy.isspace)
    (fun _ => [' ']) (letters n).toList)) = _
  rw [hspaces, String.ofList_toList, ← String.toList_inj, String.toList_map, letters,
    String.toList_ofList, List.map_replicate]
  rfl

lemma identityKey_letters {n : ℕ} (hn : n ≠ 0) :
    (normalizeDiscovery intakePy.toPyText intakePy.toUnicodeText (letters n)).identityKey =
      letters n := by
  have hword : ∀ c ∈ List.replicate n 'a', isTokenChar c = true := by
    intro c hc
    rw [List.eq_of_mem_replicate hc]
    decide
  have hclean : cleanText intakePy.toPyText intakePy.toUnicodeText "" = "" :=
    cleanText_letters 0
  have hfound : Pattern.findAll (.many1 isTokenChar) ("" ++ " " ++ letters n).toList =
      [List.replicate n 'a'] := by
    have htext : ("" ++ " " ++ letters n).toList = ' ' :: List.replicate n 'a' := by
      rw [String.toList_append, letters, String.toList_ofList]
      rfl
    rw [htext, Pattern.findAll, Pattern.findFrom, Pattern.matchAt_many1_none (by decide)]
    exact Pattern.findFrom_word (by simpa using hn) hword
  simp only [normalizeDiscovery, Option.getD_none, hclean, cleanText_letters, hfound]
  rfl

lemma intakePy_stripShortens : StripShortens intakePy := fun _ => le_rfl

lemma rowAnswers_apart {m n : ℕ} (hm : m < 2 ^ 128) (hn : n < 2 ^ 128) (hne : m ≠ n) :
    Apart (rowAnswers m).keys (rowAnswers n).keys where
  page := hne
  text := fun htext => hne (uuidText_inj hm hn htext)
  jobs := by
    intro j hj j' hj'
    simp only [RecordAnswers.keys, rowAnswers, List.mem_cons, List.not_mem_nil, or_false] at hj hj'
    have hodd : ∀ a b : ℕ, a = 2 * m ∨ a = 2 * m + 1 → b = 2 * n ∨ b = 2 * n + 1 → a ≠ b := by
      intro a b ha hb
      omega
    exact hodd j j' hj hj'

lemma rowAnswers_unused (n : ℕ) : Unused emptyIntake (rowAnswers n).keys where
  normalizeJob := rfl
  linkJob := rfl
  jobs := by
    show 2 * n ≠ 2 * n + 1
    omega
  unnamed := by
    rintro jobId job ⟨⟩
  page := rfl
  discovery := rfl

lemma mixedBatch_generated : Generated emptyIntake (mixedBatch.map (·.2.keys)) where
  unused := by
    intro keys hkeys
    obtain ⟨e, he, rfl⟩ := List.mem_map.mp hkeys
    fin_cases he
    · exact rowAnswers_unused 1
    · exact rowAnswers_unused 2
    · exact rowAnswers_unused 3
  apart := by
    refine List.Pairwise.cons ?_ (List.Pairwise.cons ?_ (List.pairwise_singleton _ _))
    · intro keys hkeys
      fin_cases hkeys
      · exact rowAnswers_apart (by decide) (by decide) (by decide)
      · exact rowAnswers_apart (by decide) (by decide) (by decide)
    · intro keys hkeys
      fin_cases hkeys
      exact rowAnswers_apart (by decide) (by decide) (by decide)

lemma letters_generated (n : ℕ) :
    Generated emptyIntake (([(feedRow (letters n), rowAnswers 1)] :
      List (FeedRecord × RecordAnswers)).map (·.2.keys)) where
  unused := by
    intro keys hkeys
    obtain rfl := List.mem_singleton.mp hkeys
    exact rowAnswers_unused 1
  apart := List.pairwise_singleton _ _

end Sample

/-- A batch with a repeated and a rejected record fits. -/
theorem mixedBatch_fits :
    EachStep (recordStep Sample.intakePy 1 (Sample.start + 1 * day))
      (fun store e => RecordFits Sample.intakePy store e.1)
      (Sample.emptyIntake.startRun 1 (Sample.start + 1 * day) (Sample.mixedBatch.map Prod.fst))
      Sample.mixedBatch := by
  have hiff := (batches_complete_iff Sample.intakePy Sample.intakePy_urlLaws
    Sample.intakePy_stripShortens).1 1 (Sample.start + 1 * day) (Sample.start + 1 * day + minute)
    Sample.mixedBatch Sample.emptyIntake rfl Sample.mixedBatch_generated (by decide)
  have hoption := Sample.mixedBatch_ended
  have hended : ∃ outcome, (Sample.importOf 1 Sample.mixedBatch Sample.emptyIntake).1 =
      .ok outcome := by
    cases hresult : (Sample.importOf 1 Sample.mixedBatch Sample.emptyIntake).1 with
    | ok outcome => exact ⟨outcome, rfl⟩
    | error e =>
      rw [hresult] at hoption
      cases hoption
  have hcompleted : ((Sample.importOf 1 Sample.mixedBatch Sample.emptyIntake).2.crawlRuns.row 1).any
      (·.state = .completed) = true := by decide +kernel
  rw [Option.any_eq_true] at hcompleted
  obtain ⟨run, hrun, hstate⟩ := hcompleted
  exact hiff.mp ⟨hended, run, hrun, of_decide_eq_true hstate⟩

/-- A title of 500 letters, as a feed may have, fails the import of its batch. -/
theorem long_title_sinks_import :
    ¬ ∀ (py : IntakePy) (runId : CrawlRunId) (startedAt finishedAt : Instant)
      (batch : List (FeedRecord × RecordAnswers)) (store : IntakeStore),
      py.UrlLaws → StripShortens py → store.crawlRuns.row runId = none →
      Generated store (batch.map (·.2.keys)) → batch.length ≤ 500 →
      (∀ e ∈ batch, e.1.title.length ≤ 500) →
      ImportCompletes runId (importFeedRecords py runId startedAt finishedAt batch store) := by
  intro h
  have htitles : ∀ e ∈ [(Sample.feedRow (Sample.letters 500), Sample.rowAnswers 1)],
      e.1.title.length ≤ 500 := by
    intro e he
    obtain rfl := List.mem_singleton.mp he
    show (Sample.letters 500).length ≤ 500
    rw [Sample.letters, String.length_ofList, List.length_replicate]
  have hcompletes := h Sample.intakePy 1 Sample.start Sample.start
    [(Sample.feedRow (Sample.letters 500), Sample.rowAnswers 1)] Sample.emptyIntake
    Sample.intakePy_urlLaws Sample.intakePy_stripShortens rfl (Sample.letters_generated 500)
    (by decide) htitles
  rw [importCompletes_iff rfl, importRecords_ended_iff Sample.intakePy_urlLaws
    Sample.intakePy_stripShortens {} ((Sample.letters_generated 500).startRun _) htitles] at hcompletes
  -- the page and the content are new, so the key would have to be short
  obtain ⟨hfits, -⟩ := hcompletes
  have hcandidate : prepareCandidate Sample.intakePy.toPy Sample.awardUrl (Sample.letters 500) none =
      .ok ⟨Sample.awardUrl, contentHash Sample.intakePy.toPy Sample.awardUrl (Sample.letters 500) "",
        Sample.letters 500, none⟩ := by
    have hurl : canonicalizeUrl Sample.intakePy.toPy Sample.awardUrl = .ok Sample.awardUrl := by
      decide +kernel
    rw [prepareCandidate, hurl]
    rfl
  simp only [RecordFits, Sample.feedRow, hcandidate] at hfits
  have hactive : (Sample.emptyIntake.discovered.db.sources.row 2).any (·.active) = true := by decide
  have hentry := if_pos hactive ▸ hfits
  obtain ⟨-, -, hkey⟩ := hentry.content (by
    rintro ⟨pageId, hpage, -⟩
    cases hpage)
  rw [Sample.identityKey_letters (by decide), Sample.letters, String.length_ofList,
    List.length_replicate] at hkey
  exact absurd hkey (by decide)

end ScholarshipFinder
