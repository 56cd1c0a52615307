import ScholarshipFinder.Infra.Reverify

/-!
# What one turn of the sweep can do

A turn of the reverification loop handles one cycle.  Up to its decision it only links the
cycle to its page, stores what the fetch brought on that page and counts fallback calls
(`Touch`); then it renews the row, opens a review task, or leaves things as they are.  The
later developments use the turn only through the statements of this file.
-/

namespace ScholarshipFinder

open Lib

/-- The page a cycle is linked to, if it still exists. -/
def linkedPage (db : Db) (cycle : ScholarshipCycle) : Option (PageId × SourcePage) :=
  cycle.sourcePageId.bind fun pageId => (db.pages.row pageId).map (pageId, ·)

lemma linkedPage_eq_some {db : Db} {cycle : ScholarshipCycle} {p : PageId} {page : SourcePage} :
    linkedPage db cycle = some (p, page) ↔
      cycle.sourcePageId = some p ∧ db.pages.row p = some page := by
  cases hp : cycle.sourcePageId with
  | none => simp [linkedPage, hp]
  | some q =>
    cases hq : db.pages.row q with
    | none =>
      simp only [linkedPage, hp, hq, Option.bind_some, Option.map_none, Option.some.injEq]
      constructor
      · intro h
        cases h
      · rintro ⟨rfl, h⟩
        rw [hq] at h
        cases h
    | some page' =>
      simp only [linkedPage, hp, hq, Option.bind_some, Option.map_some, Option.some.injEq,
        Prod.mk.injEq]
      constructor
      · rintro ⟨rfl, rfl⟩
        exact ⟨rfl, hq⟩
      · rintro ⟨rfl, h⟩
        rw [hq, Option.some.injEq] at h
        exact ⟨rfl, h⟩

/-- `p` is a page of `db` for the official URL of the cycle. -/
def OfficialPage (py : Py) (cycle : ScholarshipCycle) (db : Db) (p : PageId) : Prop :=
  ∃ page, db.pages.row p = some page ∧
    canonicalizeUrl py cycle.officialCycleUrl = .ok page.normalizedUrl

/-- What a turn for the cycle `c`, which the session holds as `cycle`, may have done to the
database before its decision. -/
structure Touch (py : Py) (c : CycleId) (cycle : ScholarshipCycle) (db db' : Db) : Prop where
  scholarships : db'.scholarships = db.scholarships
  sources : db'.sources = db.sources
  tasks : db'.tasks = db.tasks
  keys : db'.cycles.keys = db.cycles.keys
  other : ∀ j, j ≠ c → db'.cycles.row j = db.cycles.row j
  missing : db.cycles.row c = none → db'.cycles.row c = none
  /-- A cycle that was not linked may have been linked to the page of its URL. -/
  row : ∀ r, db.cycles.row c = some r →
    ∃ p, db'.cycles.row c = some { r with sourcePageId := p } ∧
      (p = r.sourcePageId ∨
        linkedPage db cycle = none ∧ ∃ q, p = some q ∧ OfficialPage py cycle db' q)
  /-- Pages are neither deleted nor moved to another URL. -/
  pages : ∀ q page, db.pages.row q = some page →
    ∃ page', db'.pages.row q = some page' ∧ page'.normalizedUrl = page.normalizedUrl

namespace Touch

variable {py : Py} {c : CycleId} {cycle : ScholarshipCycle} {db db' db'' : Db}

lemma refl (py : Py) (c : CycleId) (cycle : ScholarshipCycle) (db : Db) :
    Touch py c cycle db db where
  scholarships := rfl
  sources := rfl
  tasks := rfl
  keys := rfl
  other := fun _ _ => rfl
  missing := id
  row := fun r h => ⟨r.sourcePageId, h, Or.inl rfl⟩
  pages := fun _ page h => ⟨page, h, rfl⟩

lemma linkedPage_eq_none (h : Touch py c cycle db db') (hnone : linkedPage db' cycle = none) :
    linkedPage db cycle = none := by
  by_contra hsome
  obtain ⟨⟨p, page⟩, hp⟩ := Option.ne_none_iff_exists'.mp hsome
  obtain ⟨hlink, hpage⟩ := linkedPage_eq_some.mp hp
  obtain ⟨page', hpage', -⟩ := h.pages p page hpage
  rw [linkedPage_eq_some.mpr ⟨hlink, hpage'⟩] at hnone
  cases hnone

lemma officialPage (h : Touch py c cycle db db') {p : PageId} (hp : OfficialPage py cycle db p) :
    OfficialPage py cycle db' p := by
  obtain ⟨page, hpage, hurl⟩ := hp
  obtain ⟨page', hpage', heq⟩ := h.pages p page hpage
  exact ⟨page', hpage', by rw [heq, hurl]⟩

lemma trans (h : Touch py c cycle db db') (h' : Touch py c cycle db' db'') :
    Touch py c cycle db db'' where
  scholarships := h'.scholarships.trans h.scholarships
  sources := h'.sources.trans h.sources
  tasks := h'.tasks.trans h.tasks
  keys := h'.keys.trans h.keys
  other := fun j hj => (h'.other j hj).trans (h.other j hj)
  missing := fun hn => h'.missing (h.missing hn)
  row := by
    intro r hr
    obtain ⟨p, hp, hlink⟩ := h.row r hr
    obtain ⟨p', hp', hlink'⟩ := h'.row _ hp
    refine ⟨p', hp', ?_⟩
    rcases hlink' with rfl | ⟨hnone, hpage⟩
    · rcases hlink with heq | ⟨hnone, q, rfl, hpage⟩
      · exact Or.inl heq
      · exact Or.inr ⟨hnone, q, rfl, h'.officialPage hpage⟩
    · exact Or.inr ⟨h.linkedPage_eq_none hnone, hpage⟩
  pages := by
    intro q page hq
    obtain ⟨page', hq', hurl⟩ := h.pages q page hq
    obtain ⟨page'', hq'', hurl'⟩ := h'.pages q page' hq'
    exact ⟨page'', hq'', hurl'.trans hurl⟩

/-- Counting fallback calls and storing snapshots touches nothing else. -/
lemma of_usage (py : Py) (c : CycleId) (cycle : ScholarshipCycle) (db : Db)
    (usage : Table (String × ℕ × ℕ) ℕ) (snapshots : List SourceSnapshot) :
    Touch py c cycle db { db with usage := usage, snapshots := snapshots } :=
  { Touch.refl py c cycle db with }

/-- Storing a fetch on a page. -/
lemma of_persist (py : Py) (c : CycleId) (cycle : ScholarshipCycle) (db : Db) (p : PageId)
    (body : FetchedSource) (now : Instant) :
    Touch py c cycle db { db with pages := db.pages.modify p (SourcePage.persist py body now) } :=
  { Touch.refl py c cycle db with
    row := fun r hr => ⟨r.sourcePageId, hr, Or.inl rfl⟩
    pages := by
      intro q page hq
      by_cases hqp : q = p
      · subst hqp
        exact ⟨page.persist py body now, by simp [hq], rfl⟩
      · exact ⟨page, by simpa [Table.row_modify_of_ne _ hqp] using hq, rfl⟩ }

/-- Linking the cycle to the page of its URL. -/
lemma of_link (hnone : linkedPage db cycle = none) {p : PageId}
    (hpage : OfficialPage py cycle db p) :
    Touch py c cycle db { db with cycles := db.cycles.modify c fun row =>
      { row with sourcePageId := some p } } :=
  { Touch.refl py c cycle db with
    keys := rfl
    other := fun j hj => Table.row_modify_of_ne _ hj _
    missing := fun hn => by simp [hn]
    row := fun r hr => ⟨some p, by simp [hr], Or.inr ⟨hnone, p, rfl, hpage⟩⟩ }

/-- Creating that page, under a key that is not taken, and linking the cycle to it. -/
lemma of_create (hnone : linkedPage db cycle = none) {page : SourcePage}
    (hurl : canonicalizeUrl py cycle.officialCycleUrl = .ok page.normalizedUrl) :
    Touch py c cycle db { db with
      pages := db.pages.insert db.pages.nextKey page
      cycles := db.cycles.modify c fun row =>
        { row with sourcePageId := some db.pages.nextKey } } :=
  { Touch.refl py c cycle db with
    keys := rfl
    other := fun j hj => Table.row_modify_of_ne _ hj _
    missing := fun hn => by simp [hn]
    row := fun r hr =>
      ⟨_, by simp [hr], Or.inr ⟨hnone, _, rfl, page, Table.row_insert_self _ _ _, hurl⟩⟩
    pages := by
      intro q old hq
      have hne : q ≠ db.pages.nextKey := by
        rintro rfl
        simp at hq
      exact ⟨old, by simpa [Table.row_insert_of_ne _ hne] using hq, rfl⟩ }

end Touch

/-! ## Finding the page -/

variable {py : Py} {settings : Settings} {sourceId : SourceId} {c : CycleId}
variable {cycle : ScholarshipCycle} {fetch : Fetch} {now : Instant}

/-- What `_get_or_create_source_page` answers: the page it found, linked or created, and
where its URL comes from. -/
structure PageFound (py : Py) (c : CycleId) (cycle : ScholarshipCycle) (db : Db) (p : PageId)
    (page : SourcePage) (db' : Db) : Prop where
  touch : Touch py c cycle db db'
  stored : db'.pages.row p = some page
  /-- The other pages are as before. -/
  others : ∀ q, q ≠ p → db'.pages.row q = db.pages.row q
  /-- The page is the one stored before, or a new one without content. -/
  before : db.pages.row p = some page ∨ db.pages.row p = none ∧ page.normalizedContentHash = none
  linked : ∀ r, db.cycles.row c = some r → r.sourcePageId = cycle.sourcePageId →
    db'.cycles.row c = some { r with sourcePageId := some p }
  url : linkedPage db cycle = some (p, page) ∨
    linkedPage db cycle = none ∧ canonicalizeUrl py cycle.officialCycleUrl = .ok page.normalizedUrl

lemma getOrCreateSourcePage_linked {db : Db} {p : PageId} {page : SourcePage}
    (h : linkedPage db cycle = some (p, page)) :
    getOrCreateSourcePage py sourceId c cycle db = .ok (p, page, db) := by
  rw [linkedPage] at h
  rw [getOrCreateSourcePage, h]

theorem getOrCreateSourcePage_ok {db db' : Db} {p : PageId} {page : SourcePage}
    (h : getOrCreateSourcePage py sourceId c cycle db = .ok (p, page, db')) :
    PageFound py c cycle db p page db' := by
  cases hl : linkedPage db cycle with
  | some found =>
    -- the cycle is linked already
    obtain ⟨q, linked⟩ := found
    rw [getOrCreateSourcePage_linked hl] at h
    cases h
    have hstored := linkedPage_eq_some.mp hl
    exact
      { touch := Touch.refl py c cycle db
        stored := hstored.2
        others := fun _ _ => rfl
        before := Or.inl hstored.2
        linked := fun r hr hsame => by rw [hr, ← hstored.1, ← hsame]
        url := Or.inl hl }
  | none =>
    have hl' := hl
    rw [linkedPage] at hl'
    rw [getOrCreateSourcePage, hl'] at h
    cases hcan : canonicalizeUrl py cycle.officialCycleUrl with
    | error e => simp [hcan, bind, Except.bind] at h
    | ok url =>
      simp only [hcan, bind, Except.bind, pure, Except.pure] at h
      split at h
      · -- the page of the URL exists
        next q found heq =>
        cases h
        obtain ⟨k, hk, hrow⟩ := Option.bind_eq_some_iff.mp heq
        obtain ⟨old, hold, hpair⟩ := Option.map_eq_some_iff.mp hrow
        cases hpair
        obtain ⟨same, hsame, hp⟩ := Table.findKey_eq_some hk
        rw [hold] at hsame
        cases hsame
        have hurl : page.normalizedUrl = url := by
          simp only [Bool.and_eq_true, decide_eq_true_eq] at hp
          exact hp.2
        exact
          { touch := Touch.of_link hl ⟨page, hold, by rw [hcan, hurl]⟩
            stored := hold
            others := fun _ _ => rfl
            before := Or.inl hold
            linked := fun r hr _ => by simp [hr]
            url := Or.inr ⟨hl, by rw [hcan, hurl]⟩ }
      · -- it is created
        cases h
        exact
          { touch := Touch.of_create hl hcan
            stored := by simp
            others := fun q hq => by simp [Table.row_insert_of_ne _ hq]
            before := Or.inr ⟨by simp, rfl⟩
            linked := fun r hr _ => by simp [hr]
            url := Or.inr ⟨hl, hcan⟩ }

/-! ## Fetching it -/

/-- What a session may do while a page is fetched: count a fallback call, and commit. -/
def Counted (tx tx' : Tx) : Prop :=
  tx' = tx ∨ ∃ usage, tx' = Tx.start { tx.current with usage := usage }

/-- Where the content of a fetch comes from: the direct fetch, or the fallback reader after
the direct fetch failed or was answered with an error status. -/
inductive Brought (fetch : Fetch) : FetchedSource → Prop
  | direct {body : FetchedSource} (h : fetch.direct = .ok body) : Brought fetch body
  | fallback {text url : String} (h : fetch.jina = .ok text)
      (failed : ∀ body, fetch.direct = .ok body → 400 ≤ body.statusCode) :
      Brought fetch ⟨url, 200, text.toUTF8.toList, "text/markdown"⟩

lemma reserveCall_spec (provider : String) (limit : ℤ) (now : Instant) (tx : Tx) :
    ∃ room usage, reserveCall provider limit now tx =
      (room, Tx.start { tx.current with usage := usage }) := by
  rw [reserveCall]
  cases hrow : tx.current.usage.row (provider, yearMonth now) with
  | none => exact ⟨_, _, rfl⟩
  | some used =>
    by_cases hroom : (used : ℤ) < limit
    · exact ⟨true, tx.current.usage.insert _ (used + 1), by simp [hroom]; rfl⟩
    · exact ⟨false, tx.current.usage, by simp [hroom]; rfl⟩

lemma tryJinaFallback_spec (settings : Settings) (url : String) (fetch : Fetch) (tx : Tx) :
    ∃ result tx', tryJinaFallback settings url fetch tx = (result, tx') ∧ Counted tx tx' ∧
      ∀ body, result = .ok (some body) → ∃ text, fetch.jina = .ok text ∧
        body = ⟨url, 200, text.toUTF8.toList, "text/markdown"⟩ := by
  rw [tryJinaFallback]
  cases hkey : settings.jinaApiKey with
  | none => exact ⟨_, _, rfl, Or.inl rfl, by simp⟩
  | some apiKey =>
    by_cases hempty : apiKey = ""
    · exact ⟨.ok none, tx, by simp [hempty], Or.inl rfl, by simp⟩
    · obtain ⟨room, usage, hres⟩ :=
        reserveCall_spec "jina" settings.jinaMonthlyCallLimit fetch.reservedAt tx
      have hcount : Counted tx (Tx.start { tx.current with usage := usage }) :=
        Or.inr ⟨usage, rfl⟩
      cases room with
      | false => exact ⟨.ok none, _, by simp [hempty, hres], hcount, by simp⟩
      | true =>
        cases hjina : fetch.jina with
        | ok text =>
          refine ⟨.ok (some _), _, by simp only [hempty, if_false, hres]; rfl, hcount, ?_⟩
          intro body hbody
          cases hbody
          exact ⟨text, rfl, rfl⟩
        | error e =>
          refine ⟨_, _, by simp only [hempty, if_false, hres]; rfl, hcount, ?_⟩
          intro body hbody
          split at hbody <;> simp at hbody

lemma fetchWithJinaFallback_spec (settings : Settings) (url : String) (fetch : Fetch) (tx : Tx) :
    ∃ result tx', fetchWithJinaFallback settings url fetch tx = (result, tx') ∧ Counted tx tx' ∧
      ∀ body extractor, result = .ok (body, extractor) → Brought fetch body := by
  obtain ⟨fallback, tx', htry, hcount, hfallback⟩ := tryJinaFallback_spec settings url fetch tx
  rw [fetchWithJinaFallback]
  cases hdirect : fetch.direct with
  | error e =>
    by_cases hhttp : e.cls = .httpError
    · simp only [hhttp, if_true, htry]
      rcases fallback with e' | _ | body
      · exact ⟨_, _, rfl, hcount, by simp⟩
      · exact ⟨_, _, rfl, hcount, by simp⟩
      · refine ⟨_, _, rfl, hcount, ?_⟩
        rintro body' extractor ⟨⟩
        obtain ⟨text, hjina, rfl⟩ := hfallback body rfl
        exact Brought.fallback hjina (by simp [hdirect])
    · exact ⟨.error e, tx, by simp [hhttp], Or.inl rfl, by simp⟩
  | ok fetched =>
    by_cases hstatus : 400 ≤ fetched.statusCode
    · simp only [hstatus, if_true, htry]
      rcases fallback with e' | _ | body
      · exact ⟨_, _, rfl, hcount, by simp⟩
      · refine ⟨_, _, rfl, hcount, ?_⟩
        rintro body' extractor ⟨⟩
        exact Brought.direct hdirect
      · refine ⟨_, _, rfl, hcount, ?_⟩
        rintro body' extractor ⟨⟩
        obtain ⟨text, hjina, rfl⟩ := hfallback body rfl
        refine Brought.fallback hjina fun other hother => ?_
        rw [hdirect, Except.ok.injEq] at hother
        exact hother ▸ hstatus
    · refine ⟨.ok (fetched, "raw-v1"), tx, by simp [hstatus], Or.inl rfl, ?_⟩
      rintro body' extractor ⟨⟩
      exact Brought.direct hdirect

/-- A fetch that persists stores the content on the page and commits; one that raises has
counted a fallback call at most. -/
lemma fetchAndPersistPage_spec (py : Py) (settings : Settings) (p : PageId) (fetch : Fetch)
    (tx : Tx) :
    (∃ e tx', fetchAndPersistPage py settings p fetch tx = (.error e, tx') ∧ Counted tx tx') ∨
    ∃ page body usage snapshots, tx.current.pages.row p = some page ∧ Brought fetch body ∧
      fetchAndPersistPage py settings p fetch tx = (.ok (), Tx.start { tx.current with
        pages := tx.current.pages.modify p (SourcePage.persist py body fetch.completedAt)
        usage := usage
        snapshots := snapshots }) := by
  rw [fetchAndPersistPage]
  cases hpage : tx.current.pages.row p with
  | none => exact Or.inl ⟨_, _, rfl, Or.inl rfl⟩
  | some page =>
    by_cases hactive : (tx.current.sources.row page.sourceId).any (·.active) = true
    · obtain ⟨result, tx', hfetch, hcount, hbrought⟩ :=
        fetchWithJinaFallback_spec settings page.normalizedUrl fetch tx
      simp only [hactive, if_true, hfetch]
      rcases result with e | ⟨body, extractor⟩
      · exact Or.inl ⟨_, _, rfl, hcount⟩
      · have hbody := hbrought body extractor rfl
        rcases hcount with rfl | ⟨usage, rfl⟩
        · exact Or.inr ⟨page, body, _, _, rfl, hbody, rfl⟩
        · exact Or.inr ⟨page, body, _, _, rfl, hbody, rfl⟩
    · exact Or.inl ⟨_, tx, by simp [hactive]; rfl, Or.inl rfl⟩

/-- The content hash stored on a page. -/
def pageHash (db : Db) (p : PageId) : Option String :=
  (db.pages.row p).bind (·.normalizedContentHash)

lemma PageFound.pageHash_eq {db db' : Db} {p : PageId} {page : SourcePage}
    (h : PageFound py c cycle db p page db') (q : PageId) : pageHash db' q = pageHash db q := by
  by_cases hq : q = p
  · subst hq
    rcases h.before with hold | ⟨hnone, hhash⟩
    · simp [pageHash, h.stored, hold]
    · simp [pageHash, h.stored, hnone, hhash]
  · rw [pageHash, pageHash, h.others q hq]

/-- The database after a page was fetched for a cycle: content `body`, on page `p`. -/
structure PageStored (py : Py) (c : CycleId) (cycle : ScholarshipCycle) (fetch : Fetch) (db : Db)
    (p : PageId) (body : FetchedSource) (db' : Db) : Prop where
  touch : Touch py c cycle db db'
  brought : Brought fetch body
  linked : ∀ r, db.cycles.row c = some r → r.sourcePageId = cycle.sourcePageId →
    db'.cycles.row c = some { r with sourcePageId := some p }
  stored : ∃ page : SourcePage, db'.pages.row p = some (page.persist py body fetch.completedAt)
  hash_ne : ∀ q, q ≠ p → pageHash db' q = pageHash db q

lemma Counted.touch {db linked : Db} (h : Touch py c cycle db linked) {tx' : Tx}
    (hc : Counted ⟨db, linked⟩ tx') :
    Touch py c cycle db tx'.committed ∧ Touch py c cycle db tx'.current := by
  rcases hc with rfl | ⟨usage, rfl⟩
  · exact ⟨Touch.refl py c cycle db, h⟩
  · have hcounted := h.trans (Touch.of_usage py c cycle linked usage linked.snapshots)
    exact ⟨hcounted, hcounted⟩

lemma Counted.pages {tx tx' : Tx} (hc : Counted tx tx') :
    (tx'.committed.pages = tx.committed.pages ∨ tx'.committed.pages = tx.current.pages) ∧
      tx'.current.pages = tx.current.pages := by
  rcases hc with rfl | ⟨usage, rfl⟩
  · exact ⟨Or.inl rfl, rfl⟩
  · exact ⟨Or.inr rfl, rfl⟩

lemma fetchOfficialPage_spec (py : Py) (settings : Settings) (sourceId : SourceId) (c : CycleId)
    (cycle : ScholarshipCycle) (fetch : Fetch) (db : Db) :
    (∃ e tx, fetchOfficialPage py settings sourceId c cycle fetch (Tx.start db) = (.error e, tx) ∧
      (Touch py c cycle db tx.committed ∧ ∀ q, pageHash tx.committed q = pageHash db q) ∧
      Touch py c cycle db tx.current ∧ ∀ q, pageHash tx.current q = pageHash db q) ∨
    ∃ p body db', PageStored py c cycle fetch db p body db' ∧
      fetchOfficialPage py settings sourceId c cycle fetch (Tx.start db) =
        (.ok (p, pageHash db p), Tx.start db') := by
  rw [fetchOfficialPage, Tx.start]
  cases hget : getOrCreateSourcePage py sourceId c cycle db with
  | error e =>
    have hrefl := Touch.refl py c cycle db
    exact Or.inl ⟨e, _, rfl, ⟨hrefl, fun _ => rfl⟩, hrefl, fun _ => rfl⟩
  | ok found =>
    obtain ⟨p, page, linked⟩ := found
    have hfound := getOrCreateSourcePage_ok hget
    cases hsplit : py.urlsplit page.normalizedUrl with
    | error e =>
      simp only [hsplit]
      have hrefl := Touch.refl py c cycle db
      exact Or.inl ⟨e, _, rfl, ⟨hrefl, fun _ => rfl⟩, hfound.touch, hfound.pageHash_eq⟩
    | ok _ =>
      simp only [hsplit]
      rcases fetchAndPersistPage_spec py settings p fetch ⟨db, linked⟩ with
        ⟨e, tx, hfetch, hcount⟩ | ⟨old, body, usage, snapshots, hold, hbrought, hfetch⟩
      · -- the fetch raised: at most the link was committed
        simp only [hfetch]
        obtain ⟨hcom, hcur⟩ := hcount.touch hfound.touch
        obtain ⟨hpcom, hpcur⟩ := hcount.pages
        refine Or.inl ⟨e, tx, rfl, ⟨hcom, fun q => ?_⟩, hcur, fun q => ?_⟩
        · rcases hpcom with hp | hp
          · rw [pageHash, hp, pageHash]
          · rw [pageHash, hp]
            exact hfound.pageHash_eq q
        · rw [pageHash, hpcur]
          exact hfound.pageHash_eq q
      · simp only [hfetch]
        have hstored := hfound.stored
        have hprev : page.normalizedContentHash = pageHash db p := by
          rw [← hfound.pageHash_eq p, pageHash, hstored]
          rfl
        rw [hprev]
        refine Or.inr ⟨p, body, _, ?_, rfl⟩
        exact
          { touch := hfound.touch.trans
              ((Touch.of_persist py c cycle linked p body fetch.completedAt).trans
                (Touch.of_usage py c cycle _ usage snapshots))
            brought := hbrought
            linked := hfound.linked
            stored := ⟨page, by simp [hstored]⟩
            hash_ne := fun q hq => by
              rw [← hfound.pageHash_eq q, pageHash, pageHash]
              simp only [Table.row_modify_of_ne _ hq] }

lemma fetchAndPersistPage_active {p : PageId} {tx tx' : Tx}
    (h : fetchAndPersistPage py settings p fetch tx = (.ok (), tx')) :
    ∃ page, tx.current.pages.row p = some page ∧
      (tx.current.sources.row page.sourceId).any (·.active) = true := by
  rw [fetchAndPersistPage] at h
  cases hpage : tx.current.pages.row p with
  | none => simp [hpage, lookupError] at h
  | some page =>
    by_cases hactive : (tx.current.sources.row page.sourceId).any (·.active) = true
    · exact ⟨page, rfl, hactive⟩
    · simp [hpage, hactive, valueError] at h

/-- A fetch that succeeds was of the page found, and all that guards it let it through. -/
lemma fetchOfficialPage_ok {db : Db} {tx : Tx} {p : PageId} {previous : Option String}
    (h : fetchOfficialPage py settings sourceId c cycle fetch (Tx.start db) =
      (.ok (p, previous), tx)) :
    ∃ page linked, getOrCreateSourcePage py sourceId c cycle db = .ok (p, page, linked) ∧
      (py.urlsplit page.normalizedUrl).toOption.isSome ∧
      (linked.sources.row page.sourceId).any (·.active) = true := by
  rw [fetchOfficialPage, Tx.start] at h
  cases hget : getOrCreateSourcePage py sourceId c cycle db with
  | error e => simp [hget] at h
  | ok found =>
    obtain ⟨q, page, linked⟩ := found
    cases hsplit : py.urlsplit page.normalizedUrl with
    | error e => simp [hget, hsplit] at h
    | ok parts =>
      simp only [hget, hsplit] at h
      rcases hfetch : fetchAndPersistPage py settings q fetch ⟨db, linked⟩ with ⟨_ | _, tx'⟩
      · simp [hfetch] at h
      · simp only [hfetch, Prod.mk.injEq, Except.ok.injEq] at h
        obtain ⟨⟨rfl, -⟩, -⟩ := h
        obtain ⟨page', hpage', hactive⟩ := fetchAndPersistPage_active hfetch
        have hstored := (getOrCreateSourcePage_ok hget).stored
        simp only [hstored, Option.some.injEq] at hpage'
        subst hpage'
        exact ⟨page, linked, rfl, by simp [hsplit, Except.toOption], hactive⟩

/-! ## The decision -/

lemma deferOrFlag_spec {cfg : FreshnessConfig} {reason : String} {db db' : Db} {outcome : Outcome}
    (h : deferOrFlag py cfg now c cycle reason db = .ok (outcome, db')) :
    (outcome = .deferred ∧ db' = db) ∨
      outcome = .flagged ∧ ∃ draft, db' = openCycleReviewTask c reason draft db := by
  rw [deferOrFlag] at h
  cases hd : deriveFacts py cycle.facts.orEmpty with
  | error e => simp [hd, bind, Except.bind] at h
  | ok derived =>
    cases hb : classifyCycle py cycle derived now cfg with
    | error e => simp [hd, hb, bind, Except.bind] at h
    | ok bucket =>
      cases he : evidenceDeadline cycle bucket cfg with
      | error e => simp [hd, hb, he, bind, Except.bind] at h
      | ok evidence =>
        by_cases hfresh : now < evidence
        · simp [hd, hb, he, hfresh, bind, Except.bind, pure, Except.pure] at h
          exact Or.inl ⟨h.1.symm, h.2.symm⟩
        · simp [hd, hb, he, hfresh, bind, Except.bind, pure, Except.pure] at h
          exact Or.inr ⟨h.1.symm, _, h.2.symm⟩

/-- A turn that ends without renewing the cycle and without a change alarm: it failed, was
deferred, or escalated for want of a confirmation. -/
inductive Undecided (c : CycleId) (db : Db) : Turn → Db → Prop
  | failed : Undecided c db .failed db
  | deferred : Undecided c db (.done .deferred) db
  | escalated {reason : String} (draft : Json) (h : reason ≠ "reverify_content_changed") :
      Undecided c db (.done .flagged) (openCycleReviewTask c reason draft db)

/-- The turn that a decision of `_reverify_one_cycle` makes. -/
def settleTurn (result : Except PyErr (Outcome × Db)) (db : Db) : Turn × Db :=
  match result with
  | .error _ => (.failed, db)
  | .ok (outcome, db') => (.done outcome, db')

lemma undecided_deferOrFlag {cfg : FreshnessConfig} {reason : String} {db : Db}
    {result : Except PyErr (Outcome × Db)}
    (hres : deferOrFlag py cfg now c cycle reason db = result)
    (h : reason ≠ "reverify_content_changed") :
    Undecided c db (settleTurn result db).1 (settleTurn result db).2 := by
  cases result with
  | error e => exact Undecided.failed
  | ok result =>
    obtain ⟨outcome, db'⟩ := result
    rcases deferOrFlag_spec hres with ⟨rfl, rfl⟩ | ⟨rfl, draft, rfl⟩
    · exact Undecided.deferred
    · exact Undecided.escalated draft h

/-- What a turn decides once the content of the page is there: `previous` is the hash that
was stored before, `new` the one stored now. -/
inductive Decision (py : Py) (now : Instant) (c : CycleId) (cycle : ScholarshipCycle)
    (previous : Option String) (body : FetchedSource) (db : Db) : Turn → Db → Prop
  | renewed {cutoff : Option Instant} (same : previous = some (py.sha256 body.content))
      (success : successStatus body.statusCode)
      (hcut : cycleCutoff py cycle = .ok cutoff) (valid : ∀ k ∈ cutoff, now < k) :
      Decision py now c cycle previous body db (.done .renewed)
        { db with cycles := db.cycles.modify c (renewRow now cycle) }
  | changed {old : String} (draft : Json) (hold : previous = some old)
      (differs : old ≠ py.sha256 body.content) (success : successStatus body.statusCode) :
      Decision py now c cycle previous body db (.done .flagged)
        (openCycleReviewTask c "reverify_content_changed" draft db)
  | undecided {turn : Turn} {db' : Db} (h : Undecided c db turn db') :
      Decision py now c cycle previous body db turn db'

/-- `is_unchanged_recheck` on a success. -/
lemma isUnchangedRecheck_iff {previous new : String} {status : ℕ} {valid : Bool}
    (h : successStatus status = true) :
    isUnchangedRecheck (some previous) new status valid = true ↔ previous = new ∧ valid = true := by
  have hstatus : 200 ≤ status ∧ status < 400 := by simpa [successStatus] using h
  simp only [isUnchangedRecheck, hstatus.1, hstatus.2, Option.any_some, decide_true, Bool.true_and,
    Bool.and_eq_true, decide_eq_true_eq]
  exact and_congr_left fun _ => eq_comm

lemma compareHashes_spec {cfg : FreshnessConfig} {previous : Option String} {page : SourcePage}
    {body : FetchedSource} {db : Db} {result : Except PyErr (Outcome × Db)}
    (hres : compareHashes py cfg now c cycle previous page db = result)
    (hstatus : page.httpStatus = some body.statusCode)
    (hhash : page.normalizedContentHash = some (py.sha256 body.content)) :
    Decision py now c cycle previous body db (settleTurn result db).1 (settleTurn result db).2 := by
  subst hres
  unfold compareHashes
  dsimp only
  rw [hstatus, hhash, Option.getD_some]
  split
  · -- both hashes are there, and the answer was a success
    next old new hnew hsuccess =>
    cases hnew
    cases hd : deriveFacts py cycle.facts.orEmpty with
    | error e => exact Decision.undecided Undecided.failed
    | ok derived =>
      cases hcut : derived.deadline.cutoff py with
      | error e =>
        simp only [hcut, bind, Except.bind]
        exact Decision.undecided Undecided.failed
      | ok cutoff =>
        simp only [hcut, bind, Except.bind]
        have hcycle : cycleCutoff py cycle = .ok cutoff := by
          simp [cycleCutoff, hd, hcut, bind, Except.bind]
        by_cases hsame : old = py.sha256 body.content
        · by_cases hvalid : cutoff.all (now < ·) = true
          · rw [if_pos ((isUnchangedRecheck_iff hsuccess).mpr ⟨hsame, hvalid⟩)]
            refine Decision.renewed (by rw [hsame]) hsuccess hcycle fun k hk => ?_
            rw [Option.all_eq_true] at hvalid
            simpa using hvalid k hk
          · -- unchanged, but the deadline has passed
            rw [if_neg fun h => hvalid ((isUnchangedRecheck_iff hsuccess).mp h).2,
              if_neg fun h => h hsame]
            exact Decision.undecided Undecided.deferred
        · rw [if_neg fun h => hsame ((isUnchangedRecheck_iff hsuccess).mp h).1, if_pos hsame]
          exact Decision.changed _ rfl hsame hsuccess
  · -- a first observation, or an error status
    refine Decision.undecided (undecided_deferOrFlag rfl ?_)
    split <;> decide

/-! ## The turn -/

/-- One turn for the published cycle `cycle`: nothing was fetched, or the content of its page
was stored and decided upon. -/
inductive TurnSpec (py : Py) (settings : Settings) (sourceId : SourceId) (now : Instant)
    (c : CycleId) (cycle : ScholarshipCycle) (fetch : Fetch) (db : Db) : Turn → Db → Prop
  | unfetched {turn : Turn} {db₁ db' : Db} (touch : Touch py c cycle db db₁)
      (hash : ∀ q, pageHash db₁ q = pageHash db q) (rest : Undecided c db₁ turn db') :
      TurnSpec py settings sourceId now c cycle fetch db turn db'
  | fetched {p : PageId} {body : FetchedSource} {turn : Turn} {db₁ db' : Db}
      (source : fetchOfficialPage py settings sourceId c cycle fetch (Tx.start db) =
        (.ok (p, pageHash db p), Tx.start db₁))
      (store : PageStored py c cycle fetch db p body db₁)
      (decision : Decision py now c cycle (pageHash db p) body db₁ turn db') :
      TurnSpec py settings sourceId now c cycle fetch db turn db'

/-- What a turn of the loop answers, by what `_reverify_one_cycle` did. -/
def turnOf : Except PyErr Outcome × Tx → Turn × Db
  | (.error _, tx) => (.failed, tx.committed)
  | (.ok outcome, tx) => (.done outcome, tx.current)

theorem reverifyOneCycle_spec (py : Py) (settings : Settings) (sourceId : SourceId) (now : Instant)
    (c : CycleId) (cycle : ScholarshipCycle) (fetch : Fetch) (db : Db) :
    ∀ turn db', turnOf (reverifyOneCycle py settings sourceId now c cycle fetch (Tx.start db)) =
      (turn, db') → TurnSpec py settings sourceId now c cycle fetch db turn db' := by
  intro turn db' h
  rw [reverifyOneCycle] at h
  rcases fetchOfficialPage_spec py settings sourceId c cycle fetch db with
    ⟨e, tx, hfetch, ⟨hcom, hhcom⟩, hcur, hhcur⟩ | ⟨p, body, db₁, hstore, hfetch⟩
  · simp only [hfetch] at h
    -- an exception of the handler rolls back to what the fetch has committed
    cases hres : deferOrFlag py (freshnessConfig settings) now c cycle "reverify_fetch_failed"
        tx.current with
    | error e' =>
      rw [hres] at h
      cases h
      exact TurnSpec.unfetched hcom hhcom Undecided.failed
    | ok result =>
      have hund := undecided_deferOrFlag hres (by decide)
      rw [hres] at h
      cases h
      exact TurnSpec.unfetched hcur hhcur hund
  · obtain ⟨old, hpage⟩ := hstore.stored
    simp only [hfetch] at h
    simp only [Tx.start, hpage] at h
    cases hres : compareHashes py (freshnessConfig settings) now c cycle (pageHash db p)
        (old.persist py body fetch.completedAt) db₁ with
    | error e' =>
      rw [hres] at h
      cases h
      exact TurnSpec.fetched hfetch hstore (compareHashes_spec hres rfl rfl)
    | ok result =>
      rw [hres] at h
      cases h
      exact TurnSpec.fetched hfetch hstore (compareHashes_spec hres rfl rfl)

/-- A turn is skipped where the cycle is gone or no longer published, and otherwise does what
`TurnSpec` says. -/
theorem recheckCycle_spec {db db' : Db} {turn : Turn}
    (h : recheckCycle py settings sourceId now c fetch db = (turn, db')) :
    (turn = .skipped ∧ db' = db) ∨
      ∃ cycle, db.cycles.row c = some cycle ∧ db.isPublished cycle ∧
        TurnSpec py settings sourceId now c cycle fetch db turn db' := by
  rw [recheckCycle] at h
  cases hrow : db.cycles.row c with
  | none =>
    rw [hrow] at h
    cases h
    exact Or.inl ⟨rfl, rfl⟩
  | some cycle =>
    by_cases hpub : db.isPublished cycle = true
    · -- the answer of the turn is `turnOf` of what the session did
      simp only [hrow, hpub, if_true] at h
      refine Or.inr ⟨cycle, rfl, hpub, reverifyOneCycle_spec py settings sourceId now c cycle fetch
        db turn db' ?_⟩
      rw [← h]
      rcases reverifyOneCycle py settings sourceId now c cycle fetch (Tx.start db) with
        ⟨_ | _, tx⟩ <;> rfl
    · simp only [hrow, hpub] at h
      cases h
      exact Or.inl ⟨rfl, rfl⟩

/-- A turn that renews the cycle has fetched its page. -/
lemma fetchOfficialPage_of_renewed {db : Db}
    (h : (recheckCycle py settings sourceId now c fetch db).1 = .done .renewed) :
    ∃ cycle p previous tx, db.cycles.row c = some cycle ∧ db.isPublished cycle ∧
      fetchOfficialPage py settings sourceId c cycle fetch (Tx.start db) =
        (.ok (p, previous), tx) := by
  rw [recheckCycle] at h
  cases hrow : db.cycles.row c with
  | none => simp [hrow] at h
  | some cycle =>
    by_cases hpub : db.isPublished cycle = true
    · simp only [hrow, hpub, if_true] at h
      rcases hfetch : fetchOfficialPage py settings sourceId c cycle fetch (Tx.start db) with
        ⟨e | ⟨p, previous⟩, tx⟩
      · -- a failed fetch is deferred or escalated
        rw [reverifyOneCycle, hfetch] at h
        simp only at h
        cases hres : deferOrFlag py (freshnessConfig settings) now c cycle "reverify_fetch_failed"
            tx.current with
        | error e' => simp [hres] at h
        | ok result =>
          obtain ⟨outcome, db'⟩ := result
          simp only [hres, Turn.done.injEq] at h
          rcases deferOrFlag_spec hres with ⟨hout, -⟩ | ⟨hout, -⟩ <;> rw [hout] at h <;> cases h
      · exact ⟨cycle, p, previous, tx, rfl, hpub, hfetch⟩
    · simp [hrow, hpub] at h

/-- Opening a review task changes the list of tasks at most. -/
lemma openCycleReviewTask_eq (c : CycleId) (reason : String) (draft : Json) (db : Db) :
    ∃ tasks, openCycleReviewTask c reason draft db = { db with tasks := tasks } := by
  rw [openCycleReviewTask]
  split
  · exact ⟨db.tasks, rfl⟩
  · exact ⟨_, rfl⟩

/-- The tasks after a review task was opened for the cycle `j`. -/
lemma mem_openCycleReviewTask {j : CycleId} {reason : String} {draft : Json} {db : Db}
    {task : ReviewTask} (h : task ∈ (openCycleReviewTask j reason draft db).tasks) :
    task ∈ db.tasks ∨ task.cycleId = some j ∧ task.reason = reason := by
  rw [openCycleReviewTask] at h
  split at h
  · exact Or.inl h
  · rcases List.mem_append.mp h with h | h
    · exact Or.inl h
    · rw [List.mem_singleton] at h
      rw [h]
      exact Or.inr ⟨rfl, rfl⟩

lemma Undecided.eq {db db' : Db} {turn : Turn} (h : Undecided c db turn db') :
    (∃ tasks, db' = { db with tasks := tasks }) ∧ turn ≠ .done .renewed := by
  cases h with
  | failed => exact ⟨⟨db.tasks, rfl⟩, by simp⟩
  | deferred => exact ⟨⟨db.tasks, rfl⟩, by simp⟩
  | escalated draft _ => exact ⟨openCycleReviewTask_eq _ _ _ _, by simp⟩

lemma renewRow_link (now : Instant) (row : ScholarshipCycle) (p : Option PageId) :
    renewRow now row { row with sourcePageId := p } =
      { renewRow now row row with sourcePageId := p } := by
  rw [renewRow, renewRow]
  split <;> rfl

/-- What a turn for `c` may do to the tables, whatever it decides: the rows of the other
cycles, and who publishes what, stay as they are. -/
structure TurnFrame (c : CycleId) (db db' : Db) : Prop where
  scholarships : db'.scholarships = db.scholarships
  sources : db'.sources = db.sources
  keys : db'.cycles.keys = db.cycles.keys
  other : ∀ j, j ≠ c → db'.cycles.row j = db.cycles.row j
  missing : db.cycles.row c = none → db'.cycles.row c = none
  pages : ∀ q page, db.pages.row q = some page →
    ∃ page', db'.pages.row q = some page' ∧ page'.normalizedUrl = page.normalizedUrl

lemma Touch.frame {db db' : Db} (h : Touch py c cycle db db') (tasks : List ReviewTask) :
    TurnFrame c db { db' with tasks := tasks } where
  scholarships := h.scholarships
  sources := h.sources
  keys := h.keys
  other := h.other
  missing := h.missing
  pages := h.pages

theorem TurnSpec.frame {db db' : Db} {turn : Turn}
    (h : TurnSpec py settings sourceId now c cycle fetch db turn db') : TurnFrame c db db' := by
  cases h with
  | unfetched touch _ rest =>
    obtain ⟨⟨tasks, rfl⟩, -⟩ := rest.eq
    exact touch.frame tasks
  | @fetched p body _ db₁ _ _ store decision =>
    cases decision with
    | renewed _ _ _ _ =>
      exact
        { store.touch.frame db₁.tasks with
          keys := store.touch.keys
          other := fun j hj => by rw [← store.touch.other j hj, Table.row_modify_of_ne _ hj]
          missing := fun hn => by simp [store.touch.missing hn] }
    | changed draft _ _ _ =>
      obtain ⟨tasks, heq⟩ := openCycleReviewTask_eq c "reverify_content_changed" draft db₁
      rw [heq]
      exact store.touch.frame tasks
    | undecided rest =>
      obtain ⟨⟨tasks, rfl⟩, -⟩ := rest.eq
      exact store.touch.frame tasks

theorem recheckCycle_frame (py : Py) (settings : Settings) (sourceId : SourceId) (now : Instant)
    (c : CycleId) (fetch : Fetch) (db : Db) :
    TurnFrame c db (recheckCycle py settings sourceId now c fetch db).2 := by
  rcases hres : recheckCycle py settings sourceId now c fetch db with ⟨turn, db'⟩
  rcases recheckCycle_spec hres with ⟨-, rfl⟩ | ⟨cycle, -, -, hspec⟩
  · exact ⟨rfl, rfl, rfl, fun _ _ => rfl, id, fun _ page h => ⟨page, h, rfl⟩⟩
  · exact hspec.frame

/-- The row of the cycle after its turn: it may have been linked to the page of its URL, and
it is renewed if the turn says so, which it says only while the deadline is still ahead. -/
theorem recheckCycle_row {db db' : Db} {turn : Turn}
    (h : recheckCycle py settings sourceId now c fetch db = (turn, db'))
    {r : ScholarshipCycle} (hr : db.cycles.row c = some r) :
    ∃ p, (p = r.sourcePageId ∨
        linkedPage db r = none ∧ ∃ q, p = some q ∧ OfficialPage py r db' q) ∧
      ((turn ≠ .done .renewed ∧ db'.cycles.row c = some { r with sourcePageId := p }) ∨
      (turn = .done .renewed ∧ db.isPublished r ∧
        (∃ cutoff, cycleCutoff py r = .ok cutoff ∧ ∀ k ∈ cutoff, now < k) ∧
        db'.cycles.row c = some { renewRow now r r with sourcePageId := p })) := by
  rcases recheckCycle_spec h with ⟨rfl, rfl⟩ | ⟨cycle, hrow, hpub, hspec⟩
  · exact ⟨r.sourcePageId, Or.inl rfl, Or.inl ⟨by simp, hr⟩⟩
  · rw [hrow, Option.some.injEq] at hr
    subst hr
    cases hspec with
    | unfetched touch _ rest =>
      obtain ⟨p, hp, hlink⟩ := touch.row cycle hrow
      obtain ⟨⟨tasks, rfl⟩, hne⟩ := rest.eq
      exact ⟨p, hlink, Or.inl ⟨hne, hp⟩⟩
    | @fetched p body _ db₁ _ _ store decision =>
      obtain ⟨p, hp, hlink⟩ := store.touch.row cycle hrow
      refine ⟨p, ?_⟩
      cases decision with
      | renewed _ _ hcut valid =>
        refine ⟨hlink, Or.inr ⟨rfl, hpub, ⟨_, hcut, valid⟩, ?_⟩⟩
        simp [hp, renewRow_link]
      | changed draft _ _ _ =>
        obtain ⟨tasks, heq⟩ := openCycleReviewTask_eq c "reverify_content_changed" draft db₁
        rw [heq]
        exact ⟨hlink, Or.inl ⟨by simp, hp⟩⟩
      | undecided rest =>
        obtain ⟨⟨tasks, rfl⟩, hne⟩ := rest.eq
        exact ⟨hlink, Or.inl ⟨hne, hp⟩⟩

end ScholarshipFinder
