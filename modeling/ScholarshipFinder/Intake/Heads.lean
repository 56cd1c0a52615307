import ScholarshipFinder.Intake.Revisions

/-!
# The head of a page

The head of a page is its revision that no other one supersedes.  A record is `repeated` if any
discovery of its page has had its content, whether that is the head or not.  So the head follows
the feed exactly as long as a content that comes back is the head's: a page that goes back to an
earlier content stays on the later one.
-/

namespace ScholarshipFinder

open Lib IntakeStore

variable (py : IntakePy)

/-- The stripped title and excerpt of a record. -/
def FeedRecord.content (record : FeedRecord) : Option String × String :=
  (some (py.strip record.title), py.strip (record.excerpt.getD ""))

/-- The title and the excerpt of a discovery; without one it is that of the empty text. -/
def Discovery.content (d : Discovery) : Option String × String :=
  (d.rawTitle, d.rawExcerpt.getD (py.strip ""))

namespace IntakeStore

/-- The revisions of a page that no other one supersedes. -/
def heads (store : IntakeStore) (pageId : PageId) : List DiscoveryId :=
  (store.revisions pageId).filter fun id =>
    (store.revisions pageId).all fun other => store.supersedes other ≠ some id

/-- The content of the head of a page, if there is one head. -/
def headContent (store : IntakeStore) (pageId : PageId) : Option (Option String × String) :=
  match store.heads pageId with
  | [head] => (store.discovery head).map (Discovery.content py)
  | _ => none

/-- The content of the head of the page of a URL. -/
def urlContent (sourceId : SourceId) (url : String) (store : IntakeStore) :
    Option (Option String × String) :=
  (store.findPage sourceId url).bind (store.headContent py)

/-- The content hashes of the discoveries of a page, split ones included. -/
def contentHashes (store : IntakeStore) (pageId : PageId) : List String :=
  store.discovered.discoveries.keys.filterMap fun id =>
    ((store.discovery id).filter (·.sourcePageId = pageId)).map (·.contentHash)

end IntakeStore

/-- The record is accepted, and it is about this URL of this source. -/
def AcceptedFor (sourceId : SourceId) (url : String) (store : IntakeStore) (record : FeedRecord) :
    Prop :=
  rejects py store record = false ∧ record.sourceId = sourceId ∧
    (canonicalizeUrl py.toPy record.url).toOption = some url

instance (sourceId : SourceId) (url : String) (store : IntakeStore) (record : FeedRecord) :
    Decidable (AcceptedFor py sourceId url store record) := by
  unfold AcceptedFor
  infer_instance

/-- The head has the content of the record then, and the record is counted by the head before. -/
def HeadFollows (sourceId : SourceId) (url : String) (before : IntakeStore)
    (e : FeedRecord × RecordAnswers) (bucket : Bucket) (after : IntakeStore) : Prop :=
  AcceptedFor py sourceId url before e.1 →
    after.urlContent py sourceId url = some (e.1.content py) ∧
      (bucket = .repeated ↔ before.urlContent py sourceId url = some (e.1.content py)) ∧
      (bucket = .changed ↔ before.urlContent py sourceId url ≠ none ∧
        before.urlContent py sourceId url ≠ some (e.1.content py))

/-- The content of a record is on a page at most as the content of the head; if it is not on the
page, the database answers the head among the newest revisions. -/
def HeadAnswers (url : String) (store : IntakeStore) (e : FeedRecord × RecordAnswers)
    (pageId : PageId) : Prop :=
  if contentHash py.toPy url (py.strip e.1.title) (py.strip (e.1.excerpt.getD "")) ∈
      store.contentHashes pageId then
    store.headContent py pageId = some (e.1.content py)
  else store.revisions pageId = [] ∨
    ∃ head ∈ pick (fun id => (store.createdAt id).getD 0) e.2.headChoice
      (store.revisions pageId), head ∈ store.heads pageId

/-- The same of the page of a record, if it is known. -/
def HeadDecides (sourceId : SourceId) (url : String) (store : IntakeStore)
    (e : FeedRecord × RecordAnswers) : Prop :=
  AcceptedFor py sourceId url store e.1 →
    ∀ pageId ∈ store.findPage sourceId url, HeadAnswers py url store e pageId

instance (sourceId : SourceId) (url : String) (before : IntakeStore)
    (e : FeedRecord × RecordAnswers) (bucket : Bucket) (after : IntakeStore) :
    Decidable (HeadFollows py sourceId url before e bucket after) := by
  unfold HeadFollows
  infer_instance

instance (url : String) (store : IntakeStore) (e : FeedRecord × RecordAnswers) (pageId : PageId) :
    Decidable (HeadAnswers py url store e pageId) := by
  unfold HeadAnswers
  infer_instance

instance (sourceId : SourceId) (url : String) (store : IntakeStore)
    (e : FeedRecord × RecordAnswers) : Decidable (HeadDecides py sourceId url store e) := by
  unfold HeadDecides
  infer_instance

/-- A page of this URL has no revisions, or one head, whose hash is that of its content. -/
structure Followed (url : String) (store : IntakeStore) (pageId : PageId) : Prop where
  stored : ∀ id ∈ store.revisions pageId, ∀ head, store.supersedes id = some head →
    (store.discovery head).isSome
  head : store.revisions pageId = [] ∨ ∃ head d title, store.heads pageId = [head] ∧
    store.discovery head = some d ∧ d.rawTitle = some title ∧
    d.contentHash = contentHash py.toPy url title (d.rawExcerpt.getD (py.strip ""))

/-- The page is one of this URL of this source. -/
def IsPageOf (sourceId : SourceId) (url : String) (store : IntakeStore) (pageId : PageId) : Prop :=
  ∃ page, store.page pageId = some page ∧ page.sourceId = sourceId ∧ page.normalizedUrl = url

/-- Every page of this URL is followed. -/
def UrlFollowed (sourceId : SourceId) (url : String) (store : IntakeStore) : Prop :=
  ∀ pageId, IsPageOf sourceId url store pageId → Followed py url store pageId

variable {py} {before after store : IntakeStore} {pageId : PageId} {sourceId : SourceId}
  {url : String}

/-! ## Contents and heads -/

lemma findContent_eq_none_iff {hash : String} :
    store.findContent pageId hash = none ↔ hash ∉ store.contentHashes pageId := by
  have hmem : hash ∈ store.contentHashes pageId ↔ ∃ id d, store.discovery id = some d ∧
      d.sourcePageId = pageId ∧ d.contentHash = hash := by
    simp only [contentHashes, List.mem_filterMap, Option.map_eq_some_iff, Option.filter_eq_some_iff,
      decide_eq_true_eq]
    constructor
    · rintro ⟨id, -, d, ⟨hrow, hpage⟩, hhash⟩
      exact ⟨id, d, hrow, hpage, hhash⟩
    · rintro ⟨id, d, hrow, hpage, hhash⟩
      refine ⟨id, ?_, d, ⟨hrow, hpage⟩, hhash⟩
      rw [store.discovered.discoveries.mem_keys]
      exact Option.isSome_iff_exists.mpr ⟨d, hrow⟩
  rw [hmem, findContent, Table.findKey_eq_none]
  simp only [Bool.and_eq_false_iff, decide_eq_false_iff_not, not_exists, not_and]
  constructor
  · intro h id d hrow hpage hhash
    exact (h id d hrow).elim (· hpage) (· hhash)
  · intro h id d hrow
    by_cases hpage : d.sourcePageId = pageId
    · exact .inr (h id d hrow hpage)
    · exact .inl hpage

lemma mem_heads {id : DiscoveryId} : id ∈ store.heads pageId ↔ id ∈ store.revisions pageId ∧
    ∀ other ∈ store.revisions pageId, store.supersedes other ≠ some id := by
  rw [heads, List.mem_filter, List.all_eq_true]
  simp only [decide_eq_true_eq]

lemma SameRevisions.heads (h : SameRevisions pageId before after) :
    after.heads pageId = before.heads pageId := by
  rw [IntakeStore.heads, IntakeStore.heads, h.revisions]
  refine List.filter_congr fun id _ => ?_
  rw [Bool.eq_iff_iff, List.all_eq_true, List.all_eq_true]
  refine forall₂_congr fun other hother => ?_
  rw [supersedes_of_rows h.rows other hother]

lemma content_of_sameOrigin {d d' : Discovery} (h : SameOrigin d d') :
    d'.content py = d.content py := by
  rw [Discovery.content, Discovery.content, h.title, h.excerpt]

lemma SameRevisions.headContent (h : SameRevisions pageId before after) :
    after.headContent py pageId = before.headContent py pageId := by
  rw [IntakeStore.headContent, IntakeStore.headContent, h.heads]
  split
  · next head hhead =>
    have hmem : head ∈ before.heads pageId := by
      rw [hhead]
      exact List.mem_singleton_self _
    obtain ⟨d, hrow, -⟩ := mem_revisions.mp (mem_heads.mp hmem).1
    obtain ⟨d', hrow', horigin⟩ := h.rows head d hrow
    rw [hrow, hrow', Option.map_some, Option.map_some, content_of_sameOrigin horigin]
  · rfl

lemma SameRevisions.followed (h : SameRevisions pageId before after)
    (hfollowed : Followed py url before pageId) : Followed py url after pageId where
  stored := by
    intro id hid head hhead
    rw [h.revisions] at hid
    rw [supersedes_of_rows h.rows id hid] at hhead
    obtain ⟨d, hrow⟩ := Option.isSome_iff_exists.mp (hfollowed.stored id hid head hhead)
    obtain ⟨d', hrow', -⟩ := h.rows head d hrow
    rw [hrow']
    rfl
  head := by
    rw [h.revisions, h.heads]
    refine hfollowed.head.imp_right ?_
    rintro ⟨head, d, title, hheads, hrow, htitle, hhash⟩
    obtain ⟨d', hrow', horigin⟩ := h.rows head d hrow
    refine ⟨head, d', title, hheads, hrow', horigin.title.trans htitle, ?_⟩
    rw [horigin.hash, horigin.excerpt, hhash]

/-! ## A new revision -/

variable (py) in
/-- A page that gets a new revision, which supersedes the one that the database picks. -/
structure Revised (url : String) (e : FeedRecord × RecordAnswers) (pageId : PageId)
    (before after : IntakeStore) : Prop where
  fresh : before.discovery e.2.discoveryId = none
  revisions : after.revisions pageId = before.revisions pageId ++ [e.2.discoveryId]
  rows : ∀ id d, before.discovery id = some d → ∃ d', after.discovery id = some d' ∧ SameOrigin d d'
  row : ∃ d title, after.discovery e.2.discoveryId = some d ∧
    d.supersedesDiscoveryId = before.headRevision pageId e.2.headChoice ∧
    d.content py = e.1.content py ∧ d.rawTitle = some title ∧
    d.contentHash = contentHash py.toPy url title (d.rawExcerpt.getD (py.strip ""))

variable {e : FeedRecord × RecordAnswers}

lemma Revised.supersedes (h : Revised py url e pageId before after) :
    after.supersedes e.2.discoveryId = before.headRevision pageId e.2.headChoice := by
  obtain ⟨d, title, hrow, hhead, -⟩ := h.row
  rw [IntakeStore.supersedes, hrow, Option.bind_some, hhead]

/-- The new revision is a head, and so are the heads that it does not supersede. -/
theorem Revised.heads (h : Revised py url e pageId before after)
    (hstored : ∀ id ∈ before.revisions pageId, ∀ head, before.supersedes id = some head →
      (before.discovery head).isSome) :
    after.heads pageId = (before.heads pageId).filter (fun head =>
      before.headRevision pageId e.2.headChoice ≠ some head) ++ [e.2.discoveryId] := by
  have hold : ∀ id ∈ before.revisions pageId, after.supersedes id = before.supersedes id :=
    supersedes_of_rows h.rows
  have hnone : ∀ id, before.supersedes id ≠ some e.2.discoveryId ∨
      id ∉ before.revisions pageId := by
    intro id
    refine or_iff_not_imp_right.mpr fun hid heq => ?_
    have hsome := hstored id (not_not.mp hid) _ heq
    rw [h.fresh] at hsome
    cases hsome
  rw [IntakeStore.heads, h.revisions, List.filter_append]
  congr 1
  · rw [IntakeStore.heads, List.filter_filter]
    refine List.filter_congr fun id _ => ?_
    rw [List.all_append, List.all_cons, List.all_nil, h.supersedes, Bool.and_true, Bool.and_comm]
    congr 1
    rw [Bool.eq_iff_iff, List.all_eq_true, List.all_eq_true]
    refine forall₂_congr fun other hother => ?_
    rw [hold other hother]
  · rw [List.filter_eq_self]
    intro id hid
    obtain rfl := List.mem_singleton.mp hid
    rw [List.all_eq_true]
    intro other hother
    rw [decide_eq_true_eq]
    rcases List.mem_append.mp hother with hother | hother
    · rw [hold other hother]
      exact (hnone other).resolve_right (not_not.mpr hother)
    · obtain rfl := List.mem_singleton.mp hother
      rw [h.supersedes]
      intro heq
      obtain ⟨d, hrow, -⟩ := headRevision_row heq
      rw [h.fresh] at hrow
      cases hrow

/-- The new revision is the only head exactly if it supersedes the one that there was. -/
theorem Revised.heads_iff (h : Revised py url e pageId before after)
    (hfollowed : Followed py url before pageId) :
    after.heads pageId = [e.2.discoveryId] ↔ before.revisions pageId = [] ∨
      ∃ head ∈ before.headRevision pageId e.2.headChoice, head ∈ before.heads pageId := by
  rw [h.heads hfollowed.stored, List.append_left_eq_self, List.filter_eq_nil_iff]
  simp only [decide_eq_true_eq, not_not]
  rcases hfollowed.head with hnone | ⟨head, d, title, hheads, -⟩
  · rw [IntakeStore.heads, hnone]
    simp
  · have hne : before.revisions pageId ≠ [] := by
      intro hnone
      rw [IntakeStore.heads, hnone] at hheads
      cases hheads
    rw [hheads]
    simp [hne]

lemma headContent_eq_some {c : Option String × String}
    (h : store.headContent py pageId = some c) : ∃ head d, store.heads pageId = [head] ∧
      store.discovery head = some d ∧ d.content py = c := by
  unfold headContent at h
  split at h
  · next head hheads =>
    obtain ⟨d, hrow, hcontent⟩ := Option.map_eq_some_iff.mp h
    exact ⟨head, d, hheads, hrow, hcontent⟩
  · cases h

lemma Revised.headContent_iff (h : Revised py url e pageId before after)
    (hfollowed : Followed py url before pageId) :
    after.headContent py pageId = some (e.1.content py) ↔ after.heads pageId = [e.2.discoveryId] := by
  constructor
  · intro hcontent
    obtain ⟨head, d, hheads, -⟩ := headContent_eq_some hcontent
    rw [h.heads hfollowed.stored] at hheads ⊢
    have hlength := congrArg List.length hheads
    rw [List.length_append, List.length_singleton, List.length_singleton, Nat.add_eq_right,
      List.length_eq_zero_iff] at hlength
    rw [hlength, List.nil_append]
  · intro hheads
    obtain ⟨d, title, hrow, -, hcontent, -⟩ := h.row
    rw [headContent, hheads]
    show (after.discovery e.2.discoveryId).map (Discovery.content py) = _
    rw [hrow, Option.map_some, hcontent]

theorem Revised.followed (h : Revised py url e pageId before after)
    (hfollowed : Followed py url before pageId)
    (hheads : after.heads pageId = [e.2.discoveryId]) : Followed py url after pageId where
  stored := by
    intro id hid head hhead
    have hstored : (before.discovery head).isSome := by
      rw [h.revisions] at hid
      rcases List.mem_append.mp hid with hid | hid
      · rw [supersedes_of_rows h.rows id hid] at hhead
        exact hfollowed.stored id hid head hhead
      · obtain rfl := List.mem_singleton.mp hid
        rw [h.supersedes] at hhead
        obtain ⟨d, hrow, -⟩ := headRevision_row hhead
        exact Option.isSome_iff_exists.mpr ⟨d, hrow⟩
    obtain ⟨d, hrow⟩ := Option.isSome_iff_exists.mp hstored
    obtain ⟨d', hrow', -⟩ := h.rows head d hrow
    exact Option.isSome_iff_exists.mpr ⟨d', hrow'⟩
  head := by
    obtain ⟨d, title, hrow, -, -, htitle, hhash⟩ := h.row
    exact .inr ⟨_, d, title, hheads, hrow, htitle, hhash⟩

/-! ## One record -/

lemma excerpt_getD (excerpt : Option String) :
    ((excerpt.filter (· ≠ "")).map py.strip).getD (py.strip "") = py.strip (excerpt.getD "") := by
  cases excerpt with
  | none => rfl
  | some text =>
    by_cases hempty : text = ""
    · simp [Option.filter, hempty]
    · simp [Option.filter, hempty]

lemma AcceptedFor.url_eq {candidate : DiscoveryCandidate}
    (h : AcceptedFor py sourceId url store e.1)
    (hcandidate : prepareCandidate py.toPy e.1.url e.1.title e.1.excerpt = .ok candidate) :
    candidate.normalizedUrl = url := by
  have hurl := h.2.2
  rw [(prepareCandidate_ok hcandidate).1] at hurl
  exact Option.some.inj hurl

/-- A record that enters a discovery revises its page. -/
lemma added_revised {runId : CrawlRunId} {startedAt : Instant} {candidate : DiscoveryCandidate}
    {seen : IntakeStore}
    (hcandidate : prepareCandidate py.toPy e.1.url e.1.title e.1.excerpt = .ok candidate)
    (hseen : Seen e.1.sourceId candidate.normalizedUrl e.2.now before seen pageId)
    (hadded : Added e.2.discoveryId (importedDiscovery py runId startedAt e.1 candidate pageId
      (seen.headRevision pageId e.2.headChoice)) e.2.normalizeJobId e.2.linkJobId seen after) :
    Revised py candidate.normalizedUrl e pageId before after := by
  obtain ⟨-, hhash, htitle, hexcerpt⟩ := prepareCandidate_ok hcandidate
  have hfree := hadded.free
  refine ⟨?_, ?_, fun id d hrow => ?_, _, candidate.title, hadded.row, ?_, ?_, rfl, ?_⟩
  · rwa [ReviewStore.discovery, hseen.discoveries] at hfree
  · rw [added_revisions hadded rfl, revisions_congr hseen.discoveries]
    exact congrArg _ (if_pos rfl)
  · exact ⟨d, hadded.grown.discoveries id d (hseen.grown.discoveries id d hrow), .refl d⟩
  · exact headRevision_congr hseen.discoveries _
  · show (some candidate.title, candidate.excerpt.getD (py.strip "")) = _
    rw [htitle, hexcerpt, excerpt_getD]
    rfl
  · show candidate.contentHash = _
    rw [hhash, htitle, ← excerpt_getD, ← hexcerpt]
    rfl

lemma headRevision_eq_none_iff {choice : ℕ} :
    store.headRevision pageId choice = none ↔ store.revisions pageId = [] :=
  pick_eq_none_iff

lemma Followed.of_page_none (h : store.page pageId = none) : Followed py url store pageId where
  stored := by
    rw [revisions_of_page_none h]
    simp
  head := .inl (revisions_of_page_none h)

/-- A content that is not on the page is not that of the head. -/
lemma Followed.headContent_ne (h : Followed py url store pageId)
    (hnew : contentHash py.toPy url (py.strip e.1.title) (py.strip (e.1.excerpt.getD "")) ∉
      store.contentHashes pageId) :
    store.headContent py pageId ≠ some (e.1.content py) := by
  intro hcontent
  obtain ⟨head, d, hheads, hrow, hsame⟩ := headContent_eq_some hcontent
  have hmem : head ∈ store.revisions pageId := by
    refine (mem_heads.mp ?_).1
    rw [hheads]
    exact List.mem_singleton_self _
  rcases h.head with hnone | ⟨head', d', title, hheads', hrow', htitle, hhash⟩
  · rw [hnone] at hmem
    cases hmem
  · rw [hheads, List.singleton_inj] at hheads'
    subst hheads'
    obtain rfl := Option.some.inj (hrow.symm.trans hrow')
    obtain ⟨d'', hrow'', hpage, -⟩ := mem_revisions.mp hmem
    obtain rfl := Option.some.inj (hrow.symm.trans hrow'')
    -- The head has the hash of its content, which is that of the record.
    rw [Discovery.content, FeedRecord.content, htitle, Prod.mk.injEq, Option.some_inj] at hsame
    rw [← hsame.1, ← hsame.2, ← hhash] at hnew
    refine hnew ?_
    rw [contentHashes, List.mem_filterMap]
    refine ⟨head, ?_, ?_⟩
    · rw [store.discovered.discoveries.mem_keys]
      exact Option.isSome_iff_exists.mpr ⟨d, hrow⟩
    · rw [hrow]
      simp [hpage]

lemma Followed.headContent_eq_none_iff (h : Followed py url store pageId) :
    store.headContent py pageId = none ↔ store.revisions pageId = [] := by
  rcases h.head with hnone | ⟨head, d, title, hheads, hrow, -⟩
  · simp [headContent, IntakeStore.heads, hnone]
  · refine iff_of_false ?_ ?_
    · rw [headContent, hheads]
      simp [hrow]
    · intro hnone
      rw [IntakeStore.heads, hnone] at hheads
      cases hheads

lemma isPageOf_of_findPage (h : store.findPage sourceId url = some pageId) :
    IsPageOf sourceId url store pageId := by
  obtain ⟨page, hpage, hmatch⟩ := Table.findKey_eq_some h
  rw [Bool.and_eq_true, decide_eq_true_eq, decide_eq_true_eq] at hmatch
  exact ⟨page, hpage, hmatch⟩

section

variable {seen : IntakeStore} {now : Instant}

/-- The page that a record sees is followed, also if it is new. -/
lemma followed_of_seen (hI : UrlFollowed py sourceId url before)
    (hseen : Seen sourceId url now before seen pageId) : Followed py url before pageId := by
  rcases hseen.origin with hknown | hnone
  · exact hI pageId (isPageOf_of_findPage hknown)
  · exact .of_page_none hnone

lemma urlContent_of_found (h : store.findPage sourceId url = some pageId) :
    store.urlContent py sourceId url = store.headContent py pageId := by
  rw [urlContent, h, Option.bind_some]

/-- A page that is found before a record is the one that it sees. -/
lemma findPage_of_seen (hseen : Seen sourceId url now before seen pageId) {found : PageId}
    (hfound : before.findPage sourceId url = some found) : found = pageId := by
  have hafter := hseen.grown.foundPage _ _ _ hfound
  rw [hseen.found] at hafter
  exact Option.some.inj hafter.symm

/-- The head of the page before the record; a new page has none. -/
lemma urlContent_of_seen (hseen : Seen sourceId url now before seen pageId) :
    before.urlContent py sourceId url = before.headContent py pageId := by
  cases hfound : before.findPage sourceId url with
  | some found =>
    obtain rfl := findPage_of_seen hseen hfound
    exact urlContent_of_found hfound
  | none =>
    have hnone : before.page pageId = none := by
      refine hseen.origin.resolve_left fun hknown => ?_
      rw [hfound] at hknown
      cases hknown
    have hfollowed : Followed py url before pageId := .of_page_none hnone
    rw [urlContent, hfound, Option.bind_none, eq_comm, hfollowed.headContent_eq_none_iff]
    exact revisions_of_page_none hnone

/-- A record whose content is on the page follows the head if that is the head's content. -/
lemma headFollows_of_repeated (hseen : Seen sourceId url now before after pageId)
    (hfound : contentHash py.toPy url (py.strip e.1.title) (py.strip (e.1.excerpt.getD "")) ∈
      before.contentHashes pageId) :
    (after.urlContent py sourceId url = some (e.1.content py) ∧
      (Bucket.repeated = .repeated ↔ before.urlContent py sourceId url = some (e.1.content py)) ∧
      (Bucket.repeated = .changed ↔ before.urlContent py sourceId url ≠ none ∧
        before.urlContent py sourceId url ≠ some (e.1.content py))) ↔
      ∀ found ∈ before.findPage sourceId url, HeadAnswers py url before e found := by
  have hknown : before.findPage sourceId url = some pageId := by
    refine hseen.origin.resolve_right fun hnone => ?_
    rw [contentHashes, List.mem_filterMap] at hfound
    obtain ⟨id, -, hrow⟩ := hfound
    obtain ⟨d, hrow, -⟩ := Option.map_eq_some_iff.mp hrow
    obtain ⟨hrow, hpage⟩ := Option.filter_eq_some_iff.mp hrow
    have hstored := before.discovered.discovery_page id d hrow
    rw [of_decide_eq_true hpage] at hstored
    rw [IntakeStore.page] at hnone
    rw [hnone] at hstored
    cases hstored
  have hsame : SameRevisions pageId before after := .of_discoveries hseen.discoveries
  rw [urlContent_of_found hseen.found, urlContent_of_found hknown, hsame.headContent, hknown]
  simp only [Option.mem_def, Option.some_inj, forall_eq', HeadAnswers, if_pos hfound]
  constructor
  · rintro ⟨hcontent, -⟩
    exact hcontent
  · intro hcontent
    refine ⟨hcontent, iff_of_true trivial hcontent, iff_of_false (by simp) ?_⟩
    rintro ⟨-, hne⟩
    exact hne hcontent

/-- A record with a new content follows the head if it supersedes the head. -/
lemma headFollows_of_entered (hseen : Seen sourceId url now before seen pageId)
    (hI : UrlFollowed py sourceId url before)
    (hfound : after.findPage sourceId url = some pageId)
    (hrevised : Revised py url e pageId before after)
    (hnew : contentHash py.toPy url (py.strip e.1.title) (py.strip (e.1.excerpt.getD "")) ∉
      before.contentHashes pageId) {bucket : Bucket}
    (hbucket : bucket = if (before.headRevision pageId e.2.headChoice).isSome then .changed
      else .imported) :
    (after.urlContent py sourceId url = some (e.1.content py) ∧
      (bucket = .repeated ↔ before.urlContent py sourceId url = some (e.1.content py)) ∧
      (bucket = .changed ↔ before.urlContent py sourceId url ≠ none ∧
        before.urlContent py sourceId url ≠ some (e.1.content py))) ↔
      ∀ found ∈ before.findPage sourceId url, HeadAnswers py url before e found := by
  have hfollowed := followed_of_seen hI hseen
  have hne := hfollowed.headContent_ne hnew
  have hchanged : bucket = .changed ↔ before.headContent py pageId ≠ none := by
    have hhead : before.headContent py pageId ≠ none ↔
        (before.headRevision pageId e.2.headChoice).isSome := by
      rw [Option.isSome_iff_ne_none, Ne, Ne, hfollowed.headContent_eq_none_iff,
        headRevision_eq_none_iff]
    rw [hbucket, hhead]
    split
    · next hsome => exact iff_of_true rfl hsome
    · next hnone => exact iff_of_false (by simp) hnone
  have hrepeated : bucket ≠ .repeated := by
    rw [hbucket]
    split <;> simp
  have hrest : (bucket = .repeated ↔ before.headContent py pageId = some (e.1.content py)) ∧
      (bucket = .changed ↔ before.headContent py pageId ≠ none ∧
        before.headContent py pageId ≠ some (e.1.content py)) := by
    refine ⟨iff_of_false hrepeated hne, ?_⟩
    rw [hchanged, and_iff_left hne]
  rw [urlContent_of_seen hseen, urlContent_of_found hfound, and_iff_left hrest,
    hrevised.headContent_iff hfollowed, hrevised.heads_iff hfollowed]
  constructor
  · intro h found hmem
    obtain rfl := findPage_of_seen hseen hmem
    rw [HeadAnswers, if_neg hnew]
    exact h
  · intro h
    rcases hseen.origin with hknown | hnone
    · have hanswers := h pageId hknown
      rw [HeadAnswers, if_neg hnew] at hanswers
      exact hanswers
    · exact .inl (revisions_of_page_none hnone)

end

/-- The law of the head and its condition agree at every record. -/
theorem Recorded.headFollows_iff {runId : CrawlRunId} {startedAt : Instant} {bucket : Bucket}
    (h : Recorded py runId startedAt e.1 e.2 before bucket after)
    (hI : UrlFollowed py sourceId url before) :
    HeadFollows py sourceId url before e bucket after ↔ HeadDecides py sourceId url before e := by
  refine forall_congr' fun hfor => ?_
  obtain ⟨haccepts, rfl, -⟩ := id hfor
  cases h with
  | rejected hrejects =>
    rw [hrejects] at haccepts
    cases haccepts
  | @repeated candidate pageId seen existing _ hcandidate hseen hfound =>
    obtain rfl := hfor.url_eq hcandidate
    refine headFollows_of_repeated hseen ?_
    rw [← (prepareCandidate_ok hcandidate).2.1]
    by_contra hnew
    rw [← findContent_eq_none_iff] at hnew
    rw [findContent, hseen.discoveries] at hfound
    rw [findContent, hfound] at hnew
    cases hnew
  | @entered candidate pageId seen _ _ hcandidate hseen hnew hadded =>
    obtain rfl := hfor.url_eq hcandidate
    refine headFollows_of_entered hseen hI (hadded.grown.foundPage _ _ _ hseen.found)
      (added_revised hcandidate hseen hadded) ?_ ?_
    · rw [← (prepareCandidate_ok hcandidate).2.1, ← findContent_eq_none_iff, findContent,
        ← hseen.discoveries]
      exact hnew
    · rw [headRevision_congr hseen.discoveries]

/-! ## Every run -/

/-- Pages go on, so a page that is followed after each step was followed before. -/
lemma UrlFollowed.later (hI : UrlFollowed py sourceId url before)
    (hpages : ∀ id page, before.page id = some page →
      ∃ seen, after.page id = some { page with lastSeenAt := seen })
    (hstep : ∀ pageId, IsPageOf sourceId url after pageId → Followed py url before pageId →
      Followed py url after pageId) : UrlFollowed py sourceId url after := by
  intro pageId hpageOf
  refine hstep pageId hpageOf ?_
  cases hpage : before.page pageId with
  | none => exact .of_page_none hpage
  | some page =>
    obtain ⟨seen, hafter⟩ := hpages pageId page hpage
    obtain ⟨page', hpage', hsource, hurl⟩ := hpageOf
    obtain rfl := Option.some.inj (hafter.symm.trans hpage')
    exact hI pageId ⟨page, hpage, hsource, hurl⟩

lemma UrlFollowed.of_sameRevisions (hI : UrlFollowed py sourceId url before)
    (hpages : ∀ id page, before.page id = some page →
      ∃ seen, after.page id = some { page with lastSeenAt := seen })
    (hsame : ∀ pageId, SameRevisions pageId before after) : UrlFollowed py sourceId url after :=
  hI.later hpages fun pageId _ hfollowed => (hsame pageId).followed hfollowed

theorem Recorded.urlFollowed {runId : CrawlRunId} {startedAt : Instant} {bucket : Bucket}
    (h : Recorded py runId startedAt e.1 e.2 before bucket after)
    (hI : UrlFollowed py sourceId url before)
    (hlaw : HeadFollows py sourceId url before e bucket after) :
    UrlFollowed py sourceId url after := by
  have hpages := h.appended.pages
  refine hI.later hpages fun pageId hpageOf hfollowed => ?_
  cases h with
  | rejected =>
    have hsame : SameRevisions pageId before
        { before with quarantine := before.quarantine ++ [quarantineOf py runId e.1] } :=
      .of_discoveries rfl
    exact hsame.followed hfollowed
  | repeated _ _ hseen _ =>
    have hsame : SameRevisions pageId before after := .of_discoveries hseen.discoveries
    exact hsame.followed hfollowed
  | @entered candidate seenId seen _ haccepts hcandidate hseen hnew hadded =>
    by_cases hpage : seenId = pageId
    · -- The page is the one of the record, whose head is the new revision.
      subst hpage
      obtain ⟨page, hrow, hsource, hurl⟩ := hpageOf
      obtain ⟨page', hrow', hsource', hurl', -⟩ := hseen.page
      rw [IntakeStore.page, hadded.db] at hrow
      obtain rfl := Option.some.inj (hrow.symm.trans hrow')
      subst hsource hurl
      have hfor : AcceptedFor py page.sourceId page.normalizedUrl before e.1 := by
        refine ⟨haccepts, hsource'.symm, ?_⟩
        rw [(prepareCandidate_ok hcandidate).1, hurl']
        rfl
      have hrevised := added_revised hcandidate hseen hadded
      have hcontent := (hlaw hfor).1
      rw [hurl', hsource', urlContent_of_found (hadded.grown.foundPage _ _ _ hseen.found)]
        at hcontent
      rw [hurl'] at hfollowed ⊢
      exact hrevised.followed hfollowed ((hrevised.headContent_iff hfollowed).mp hcontent)
    · exact (entered_sameRevisions hseen hadded rfl hpage).followed hfollowed

lemma urlFollowed_of_discovered (h : after.discovered = before.discovered)
    (hI : UrlFollowed py sourceId url before) : UrlFollowed py sourceId url after := by
  have hsame : Appended none before after := .of_eq h
  exact hI.of_sameRevisions hsame.pages fun _ => .of_discoveries (by rw [h])

lemma intakeStep_urlFollowed {op : IntakeOp} (hI : UrlFollowed py sourceId url store)
    (hlaw : EachImported py (HeadFollows py sourceId url) store op) :
    UrlFollowed py sourceId url (intakeStep py store op) := by
  cases op with
  | importFeed runId startedAt finishedAt batch =>
    exact importFeedRecords_invariant (I := UrlFollowed py sourceId url)
      (fun s t h hs => urlFollowed_of_discovered h hs)
      (fun e s bucket t hrecorded hs hfollows => hrecorded.urlFollowed hs hfollows) finishedAt hI
      hlaw
  | submit startedAt parentId batch =>
    unfold intakeStep
    dsimp only
    split
    · next h =>
      have happended := submitCandidates_appended h
      exact hI.of_sameRevisions happended.pages fun _ => happended.sameRevisions
    · exact hI
  | link id answers =>
    refine hI.of_sameRevisions (fun pageId page hpage => ⟨page.lastSeenAt, ?_⟩) fun _ =>
      linkDiscovery_sameRevisions id answers store
    show (store.linkDiscovery py id answers).2.discovered.db.pages.row pageId = _
    rw [(linkDiscovery_linked py id answers store).db]
    exact hpage

lemma eachImported_iff {op : IntakeOp} (hI : UrlFollowed py sourceId url store) :
    EachImported py (HeadFollows py sourceId url) store op ↔
      EachImported py (fun s e _ _ => HeadDecides py sourceId url s e) store op := by
  cases op with
  | importFeed runId startedAt finishedAt batch =>
    have hstarted : UrlFollowed py sourceId url
        (store.startRun runId startedAt (batch.map Prod.fst)) :=
      @urlFollowed_of_discovered py store _ sourceId url rfl hI
    refine imp_congr_right fun _ => ?_
    exact eachRecord_congr (I := UrlFollowed py sourceId url)
      (fun e s bucket t hrecorded hs => hrecorded.headFollows_iff hs)
      (fun e s bucket t hrecorded hs hfollows => hrecorded.urlFollowed hs hfollows)
      hstarted
  | submit => exact Iff.rfl
  | link => exact Iff.rfl

/-- The head of a page follows the feed exactly as long as a content that comes back is the
head's, and a new one supersedes the head. -/
theorem head_follows_iff (py : IntakePy) (sourceId : SourceId) (url : String) (store : IntakeStore)
    (ops : List IntakeOp) (hstart : UrlFollowed py sourceId url store) :
    EachStep (intakeStep py) (EachImported py (HeadFollows py sourceId url)) store ops ↔
      EachStep (intakeStep py)
        (EachImported py fun s e _ _ => HeadDecides py sourceId url s e) store ops :=
  eachStep_congr_of_invariant (I := UrlFollowed py sourceId url) (A := fun _ => True)
    (fun _ _ _ hs => eachImported_iff hs) (fun _ _ _ hs hlaw => intakeStep_urlFollowed hs hlaw)
    (fun _ _ => trivial) hstart

open Sample in
lemma emptyIntake_urlFollowed (sourceId : SourceId) (url : String) :
    UrlFollowed intakePy sourceId url emptyIntake :=
  fun _ _ => .of_page_none rfl

open Sample in
/-- Three contents in one import, each of which supersedes the one before. -/
theorem importRevised_followed :
    EachStep (intakeStep intakePy) (EachImported intakePy (HeadFollows intakePy 2 awardUrl))
      emptyIntake [importRevised 1] :=
  (head_follows_iff intakePy 2 awardUrl emptyIntake [importRevised 1]
    (emptyIntake_urlFollowed 2 awardUrl)).mpr (by decide +kernel)

open Sample in
/-- The import of one title of the first award. -/
def importTitle (runId : CrawlRunId) (title : String) : IntakeOp :=
  .importFeed runId (start + runId * day) (start + runId * day + minute)
    [(feedRow title, rowAnswers runId)]

open Sample in
/-- A page that goes back to its first title is counted as repeated, and its head is the second. -/
theorem importTitle_reverted :
    ¬ EachStep (intakeStep intakePy) (EachImported intakePy (HeadFollows intakePy 2 awardUrl))
      emptyIntake [importTitle 1 "Award A", importTitle 2 "Award B", importTitle 3 "Award A"] := by
  decide +kernel

end ScholarshipFinder
