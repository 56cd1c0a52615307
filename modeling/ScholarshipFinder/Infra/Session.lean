import ScholarshipFinder.Infra.Turn

/-!
# The transactions of a turn

`reserve_call` and the persisting of a page commit in the middle of a turn, which releases
the lock on the cycle.  What the session holds then (its local variables, and the cycles it
has loaded, which no commit refreshes) outlives the transaction.  `Session.startTurn` is the
first transaction of a turn and `Session.resumeTurn` each further one; if nothing comes
between them they do what `recheckCycle` does (`recheckCycle_eq_transactions`).
-/

namespace ScholarshipFinder

open Lib

/-- A turn that has committed and goes on. -/
structure Pending where
  now : Instant
  cycleId : CycleId
  /-- The cycle as the session holds it. -/
  cycle : ScholarshipCycle
  pageId : PageId
  normalizedUrl : String
  previousHash : Option String
  fetch : Fetch

/-- Where a session stands between two transactions. -/
inductive Stage
  | idle
  /-- `reserve_call` has committed; `allowed` is its answer. -/
  | reserved (turn : Pending) (allowed : Bool)
  /-- The page is persisted. -/
  | persisted (turn : Pending)

/-- The turn in progress. -/
def Stage.turn : Stage → Option Pending
  | .idle => none
  | .reserved turn _ => some turn
  | .persisted turn => some turn

/-- A session of the sweep. -/
structure Session where
  /-- The cycles that were loaded, with the values the session read or wrote last. -/
  loaded : CycleId → Option ScholarshipCycle
  stage : Stage

namespace Session

/-- A session that has just been opened. -/
def fresh : Session := ⟨fun _ => none, .idle⟩

/-- Load the cycles that a scan meets; those already loaded are not refreshed. -/
def scan (session : Session) (db : Db) : Session :=
  { session with loaded := fun c =>
      if c ∈ publishedCycles db publishedCycleScanLimit then
        (session.loaded c).or (db.cycles.row c)
      else session.loaded c }

/-- Go on with the turn of `c`, of which the session holds `cycle`. -/
def hold (session : Session) (c : CycleId) (cycle : ScholarshipCycle) (stage : Stage) : Session :=
  ⟨Function.update session.loaded c (some cycle), stage⟩

/-- The end of a turn.  An exception rolls back to `base` and expires what is loaded. -/
def settle (session : Session) (now : Instant) (c : CycleId) (cycle : ScholarshipCycle)
    (result : Except PyErr (Outcome × Db)) (base : Db) : Session × Db :=
  match result with
  | .error _ => (fresh, base)
  | .ok (.renewed, db) => (session.hold c (renewRow now cycle cycle) .idle, db)
  | .ok (_, db) => (session.hold c cycle .idle, db)

end Session

/-- The fallback reader is configured. -/
def readerConfigured (settings : Settings) : Bool :=
  settings.jinaApiKey.any fun apiKey => apiKey ≠ ""

/-- The direct fetch failed, and the fallback reader is configured. -/
def asksReader (settings : Settings) (fetch : Fetch) : Bool :=
  readerConfigured settings &&
    match fetch.direct with
    | .error e => e.cls = .httpError
    | .ok fetched => 400 ≤ fetched.statusCode

/-- What the direct fetch answers, if there is no fallback. -/
def rawResult (fetch : Fetch) : Except PyErr (FetchedSource × String) :=
  fetch.direct.map fun fetched => (fetched, "raw-v1")

/-- What the fetch answers once the fallback was allowed or not. -/
def readerResult (url : String) (fetch : Fetch) (allowed : Bool) :
    Except PyErr (FetchedSource × String) :=
  if allowed then
    match fetch.jina with
    | .ok text => .ok (⟨url, 200, text.toUTF8.toList, "text/markdown"⟩, "jina-reader-v1")
    | .error e => if e.cls = .httpError then rawResult fetch else .error e
  else rawResult fetch

variable (py : Py) (settings : Settings)

/-- What `fetch_and_persist_page` writes. -/
def storeFetched (pageId : PageId) (fetch : Fetch) (fetched : FetchedSource)
    (extractorVersion : String) (db : Db) : Db :=
  { db with
    pages := db.pages.modify pageId (SourcePage.persist py fetched fetch.completedAt)
    snapshots := db.snapshots ++ [{
      pageId := pageId
      fetchedAt := fetch.completedAt
      contentHash := py.sha256 fetched.content
      extractorVersion := extractorVersion
      contentType := fetched.contentType
      byteLength := fetched.content.length }] }

namespace Session

/-- The handler of a fetch that raised. -/
def giveUp (session : Session) (now : Instant) (c : CycleId) (cycle : ScholarshipCycle)
    (base db : Db) : Session × Db :=
  session.settle now c cycle
    (deferOrFlag py (freshnessConfig settings) now c cycle "reverify_fetch_failed" db) base

/-- Persist what the fetch answered and commit, or handle its exception. -/
def persist (session : Session) (turn : Pending) (result : Except PyErr (FetchedSource × String))
    (base db : Db) : Session × Db :=
  match result with
  | .error _ => session.giveUp py settings turn.now turn.cycleId turn.cycle base db
  | .ok (fetched, extractorVersion) =>
    (session.hold turn.cycleId turn.cycle (.persisted turn),
      storeFetched py turn.pageId turn.fetch fetched extractorVersion db)

/-- The first transaction of a turn: the cycle is locked if it is still published, linked to
its page, and the page is fetched. -/
def startTurn (session : Session) (sourceId : SourceId) (now : Instant) (c : CycleId)
    (fetch : Fetch) (db : Db) : Session × Db :=
  match db.cycles.row c with
  | none => (session, db)
  | some row =>
    if db.isPublished row then
      let cycle := (session.loaded c).getD row
      match getOrCreateSourcePage py sourceId c cycle db with
      | .error _ => session.giveUp py settings now c cycle db db
      | .ok (pageId, page, linked) =>
        let cycle := { cycle with sourcePageId := some pageId }
        match py.urlsplit page.normalizedUrl with
        | .error _ => session.giveUp py settings now c cycle db linked
        | .ok _ =>
          if (linked.sources.row page.sourceId).any (·.active) then
            let turn := ⟨now, c, cycle, pageId, page.normalizedUrl,
              page.normalizedContentHash, fetch⟩
            if asksReader settings fetch then
              let (allowed, tx) := reserveCall "jina" settings.jinaMonthlyCallLimit
                fetch.reservedAt (Tx.start linked)
              (session.hold c cycle (.reserved turn allowed), tx.committed)
            else session.persist py settings turn (rawResult fetch) db linked
          else session.giveUp py settings now c cycle db linked
    else (session, db)

/-- The next transaction of the turn in progress.  The lifecycle is not checked again. -/
def resumeTurn (session : Session) (db : Db) : Session × Db :=
  match session.stage with
  | .idle => (session, db)
  | .reserved turn allowed =>
    session.persist py settings turn (readerResult turn.normalizedUrl turn.fetch allowed) db db
  | .persisted turn =>
    match db.pages.row turn.pageId with
    | none => (fresh, db)
    | some page =>
      session.settle turn.now turn.cycleId turn.cycle (compareHashes py (freshnessConfig settings)
        turn.now turn.cycleId turn.cycle turn.previousHash page db) db

/-- A turn whose transactions follow each other at once. -/
def wholeTurn (session : Session) (sourceId : SourceId) (now : Instant) (c : CycleId)
    (fetch : Fetch) (db : Db) : Session × Db :=
  let (session, db) := session.startTurn py settings sourceId now c fetch db
  let (session, db) := session.resumeTurn py settings db
  session.resumeTurn py settings db

end Session

/-! ## The fetch, cut at the commit of `reserve_call` -/

variable {py settings}

lemma tryJinaFallback_of_unconfigured (h : readerConfigured settings = false) (url : String)
    (fetch : Fetch) (tx : Tx) : tryJinaFallback settings url fetch tx = (.ok none, tx) := by
  rw [readerConfigured] at h
  rw [tryJinaFallback]
  cases hkey : settings.jinaApiKey with
  | none => rfl
  | some apiKey =>
    have hempty : apiKey = "" := by simpa [hkey] using h
    simp [hempty]

/-- What the fallback answers once `reserve_call` has committed. -/
lemma tryJinaFallback_of_configured (h : readerConfigured settings) (url : String)
    (fetch : Fetch) {tx tx' : Tx} {allowed : Bool}
    (hreserve : reserveCall "jina" settings.jinaMonthlyCallLimit fetch.reservedAt tx =
      (allowed, tx')) :
    tryJinaFallback settings url fetch tx =
      (if allowed then
        match fetch.jina with
        | .ok text => .ok (some ⟨url, 200, text.toUTF8.toList, "text/markdown"⟩)
        | .error e => if e.cls = .httpError then .ok none else .error e
      else .ok none, tx') := by
  rw [readerConfigured] at h
  rw [tryJinaFallback]
  cases hkey : settings.jinaApiKey with
  | none => simp [hkey] at h
  | some apiKey =>
    have hne : apiKey ≠ "" := by simpa [hkey] using h
    simp only [if_neg hne, hreserve]
    cases allowed with
    | false => rfl
    | true => cases fetch.jina <;> rfl

lemma fetchWithJinaFallback_of_raw {fetch : Fetch} (h : asksReader settings fetch = false)
    (url : String) (tx : Tx) :
    fetchWithJinaFallback settings url fetch tx = (rawResult fetch, tx) := by
  rw [asksReader, Bool.and_eq_false_iff] at h
  rw [fetchWithJinaFallback, rawResult]
  cases hdirect : fetch.direct with
  | error e =>
    by_cases hhttp : e.cls = .httpError
    · have hkey : readerConfigured settings = false := by simpa [hdirect, hhttp] using h
      simp [hhttp, tryJinaFallback_of_unconfigured hkey, Except.map]
    · simp [hhttp, Except.map]
  | ok fetched =>
    by_cases hstatus : 400 ≤ fetched.statusCode
    · have hkey : readerConfigured settings = false := by simpa [hdirect, hstatus] using h
      simp [hstatus, tryJinaFallback_of_unconfigured hkey, Except.map]
    · simp [hstatus, Except.map]

lemma fetchWithJinaFallback_of_reader {fetch : Fetch} (h : asksReader settings fetch)
    (url : String) {tx tx' : Tx} {allowed : Bool}
    (hreserve : reserveCall "jina" settings.jinaMonthlyCallLimit fetch.reservedAt tx =
      (allowed, tx')) :
    fetchWithJinaFallback settings url fetch tx = (readerResult url fetch allowed, tx') := by
  rw [asksReader, Bool.and_eq_true] at h
  obtain ⟨hkey, hfailed⟩ := h
  have htry := tryJinaFallback_of_configured hkey url fetch hreserve
  rw [fetchWithJinaFallback, readerResult, rawResult, htry]
  cases hdirect : fetch.direct with
  | error e =>
    have hhttp : e.cls = .httpError := by simpa [hdirect] using hfailed
    simp only [hhttp, if_true]
    cases allowed with
    | false => rfl
    | true =>
      cases fetch.jina with
      | ok text => rfl
      | error e' => by_cases he' : e'.cls = .httpError <;> simp [he', Except.map]
  | ok fetched =>
    have hstatus : 400 ≤ fetched.statusCode := by simpa [hdirect] using hfailed
    simp only [hstatus, if_true]
    cases allowed with
    | false => rfl
    | true =>
      cases fetch.jina with
      | ok text => rfl
      | error e' => by_cases he' : e'.cls = .httpError <;> simp [he', Except.map]

/-! ## Transactions without interruption -/

section

variable {sourceId : SourceId} {now : Instant} {c : CycleId} {cycle : ScholarshipCycle}
variable {fetch : Fetch} {session : Session}

/-- What a turn leaves behind, by what its fetch answered. -/
def turnResult (py : Py) (settings : Settings) (now : Instant) (c : CycleId)
    (cycle : ScholarshipCycle) : Except PyErr (PageId × Option String) × Tx → Db
  | (.error _, tx) =>
    (settleTurn (deferOrFlag py (freshnessConfig settings) now c cycle "reverify_fetch_failed"
      tx.current) tx.committed).2
  | (.ok (pageId, previousHash), tx) =>
    match tx.current.pages.row pageId with
    | none => tx.committed
    | some page =>
      (settleTurn (compareHashes py (freshnessConfig settings) now c cycle previousHash page
        tx.current) tx.committed).2

lemma recheckCycle_of_published {db : Db} (hr : db.cycles.row c = some cycle)
    (hpub : db.isPublished cycle) :
    (recheckCycle py settings sourceId now c fetch db).2 =
      turnResult py settings now c cycle
        (fetchOfficialPage py settings sourceId c cycle fetch (Tx.start db)) := by
  rw [recheckCycle]
  simp only [hr, hpub, if_true]
  rw [reverifyOneCycle]
  rcases fetchOfficialPage py settings sourceId c cycle fetch (Tx.start db) with
    ⟨e | ⟨p, previous⟩, tx⟩
  · rw [turnResult]
    dsimp only
    cases deferOrFlag py (freshnessConfig settings) now c cycle "reverify_fetch_failed"
      tx.current <;> rfl
  · rw [turnResult]
    cases hpage : tx.current.pages.row p with
    | none => simp [hpage, lookupError]
    | some page =>
      simp only [hpage]
      cases compareHashes py (freshnessConfig settings) now c cycle previous page tx.current <;> rfl

/-- The turn is over, and has left `db` behind. -/
def Ended (p : Session × Db) (db : Db) : Prop := p.1.stage = .idle ∧ p.2 = db

lemma Ended.resume {p : Session × Db} {db : Db} (h : Ended p db) :
    Ended (p.1.resumeTurn py settings p.2) db := by
  rw [Session.resumeTurn, h.1]
  exact h

lemma ended_settle (result : Except PyErr (Outcome × Db)) (base : Db) :
    Ended (session.settle now c cycle result base) (settleTurn result base).2 := by
  rcases result with e | ⟨_ | _ | _, db⟩ <;> exact ⟨rfl, rfl⟩

/-- The decisions of a turn do not look at the link of the cycle. -/
lemma ended_giveUp (p : Option PageId) (base db : Db) :
    Ended (session.giveUp py settings now c { cycle with sourcePageId := p } base db)
      (settleTurn (deferOrFlag py (freshnessConfig settings) now c cycle "reverify_fetch_failed" db)
        base).2 :=
  ended_settle _ base

lemma ended_persisted (session : Session) {turn : Pending} {page : SourcePage} {db : Db}
    (hstage : session.stage = .persisted turn) (hpage : db.pages.row turn.pageId = some page) :
    Ended (session.resumeTurn py settings db)
      (settleTurn (compareHashes py (freshnessConfig settings) turn.now turn.cycleId turn.cycle
        turn.previousHash page db) db).2 := by
  rw [Session.resumeTurn, hstage]
  simp only [hpage]
  exact ended_settle _ db

/-- What the `try` of a turn answers, by what the fetch of the page answered. -/
def officialResult (py : Py) (p : PageId) (previous : Option String) (fetch : Fetch)
    (result : Except PyErr (FetchedSource × String)) (tx : Tx) :
    Except PyErr (PageId × Option String) × Tx :=
  match result with
  | .error e => (.error e, tx)
  | .ok (fetched, extractorVersion) =>
    (.ok (p, previous), Tx.start (storeFetched py p fetch fetched extractorVersion tx.current))

lemma fetchOfficialPage_of_result {p : PageId} {page : SourcePage} {db linked : Db}
    {parts : SplitResult}
    (hget : getOrCreateSourcePage py sourceId c cycle db = .ok (p, page, linked))
    (hsplit : py.urlsplit page.normalizedUrl = .ok parts)
    (hactive : (linked.sources.row page.sourceId).any (·.active) = true)
    {result : Except PyErr (FetchedSource × String)} {tx : Tx}
    (hfetch : fetchWithJinaFallback settings page.normalizedUrl fetch ⟨db, linked⟩ =
      (result, tx)) :
    fetchOfficialPage py settings sourceId c cycle fetch (Tx.start db) =
      officialResult py p page.normalizedContentHash fetch result tx := by
  have hstored := (getOrCreateSourcePage_ok hget).stored
  simp only [fetchOfficialPage, Tx.start, hget, hsplit, fetchAndPersistPage, hstored, hactive,
    if_true, hfetch]
  rcases result with e | ⟨fetched, extractorVersion⟩ <;> rfl

/-- The transactions after the fetch do what the rest of the turn does. -/
lemma ended_persist {p : PageId} {page : SourcePage} {base db : Db}
    (hstored : db.pages.row p = some page) (result : Except PyErr (FetchedSource × String))
    (link : Option PageId) (url : String) (previous : Option String) :
    let after := session.persist py settings
      ⟨now, c, { cycle with sourcePageId := link }, p, url, previous, fetch⟩ result base db
    Ended (after.1.resumeTurn py settings after.2)
      (turnResult py settings now c cycle
        (officialResult py p previous fetch result ⟨base, db⟩)) := by
  intro after
  rcases result with e | ⟨fetched, extractorVersion⟩
  · exact (ended_giveUp link base db).resume
  · have hpage : (storeFetched py p fetch fetched extractorVersion db).pages.row p =
        some (page.persist py fetched fetch.completedAt) := by
      rw [storeFetched, Table.row_modify_self, hstored, Option.map_some]
    simp only [officialResult, turnResult, Tx.start, hpage]
    exact ended_persisted after.1 rfl hpage

/-- `reserve_call` looks at what the session sees, and commits it in any case. -/
lemma reserveCall_eq_start (provider : String) (limit : ℤ) (now : Instant) (tx : Tx) :
    reserveCall provider limit now tx = reserveCall provider limit now (Tx.start tx.current) := by
  rw [reserveCall, reserveCall, Tx.start]
  cases tx.current.usage.row (provider, yearMonth now) with
  | none => rfl
  | some used => by_cases hroom : (used : ℤ) < limit <;> simp [hroom] <;> rfl

/-- A turn that nothing interrupts, by a session whose copy of the cycle is what is stored,
does what `recheckCycle` does. -/
theorem recheckCycle_eq_transactions (py : Py) (settings : Settings) (sourceId : SourceId)
    (now : Instant) (fetch : Fetch) (hidle : session.stage = .idle) {db : Db}
    (hloaded : ∀ held ∈ session.loaded c, db.cycles.row c = some held) :
    Ended (session.wholeTurn py settings sourceId now c fetch db)
      (recheckCycle py settings sourceId now c fetch db).2 := by
  rw [Session.wholeTurn, Session.startTurn]
  have hskipped : Ended (session, db) db := ⟨hidle, rfl⟩
  cases hr : db.cycles.row c with
  | none =>
    simp only [recheckCycle, hr]
    exact hskipped.resume.resume
  | some row =>
    by_cases hpub : db.isPublished row = true
    · have hheld : (session.loaded c).getD row = row := by
        cases hcopy : session.loaded c with
        | none => rfl
        | some held =>
          have hstored := hloaded held hcopy
          rw [hr, Option.some.injEq] at hstored
          exact hstored.symm
      rw [recheckCycle_of_published hr hpub]
      simp only [hpub, if_true, hheld]
      cases hget : getOrCreateSourcePage py sourceId c row db with
      | error e =>
        simp only [fetchOfficialPage, Tx.start, hget, turnResult]
        exact (ended_settle _ db).resume.resume
      | ok found =>
        obtain ⟨p, page, linked⟩ := found
        have hstored := (getOrCreateSourcePage_ok hget).stored
        dsimp only
        cases hsplit : py.urlsplit page.normalizedUrl with
        | error e =>
          simp only [fetchOfficialPage, Tx.start, hget, hsplit, turnResult]
          exact (ended_giveUp (some p) db linked).resume.resume
        | ok parts =>
          dsimp only
          by_cases hactive : (linked.sources.row page.sourceId).any (·.active) = true
          · by_cases hreader : asksReader settings fetch = true
            · -- the fetch is cut in two by the commit of `reserve_call`
              obtain ⟨allowed, usage, hreserve⟩ := reserveCall_spec "jina"
                settings.jinaMonthlyCallLimit fetch.reservedAt (Tx.start linked)
              have hreserve' := (reserveCall_eq_start _ _ _ ⟨db, linked⟩).trans hreserve
              have hfetch := fetchWithJinaFallback_of_reader hreader page.normalizedUrl hreserve'
              rw [fetchOfficialPage_of_result hget hsplit hactive hfetch, if_pos hactive,
                if_pos hreader, hreserve]
              have hcounted : ({ linked with usage := usage } : Db).pages.row p = some page :=
                hstored
              exact ended_persist hcounted _ (some p) page.normalizedUrl page.normalizedContentHash
            · -- the fetch and its commit are one transaction
              have hfetch := fetchWithJinaFallback_of_raw (Bool.eq_false_iff.mpr hreader)
                page.normalizedUrl ⟨db, linked⟩
              rw [fetchOfficialPage_of_result hget hsplit hactive hfetch, if_pos hactive,
                if_neg hreader]
              exact (ended_persist hstored _ (some p) page.normalizedUrl
                page.normalizedContentHash).resume
          · rw [if_neg hactive]
            simp only [fetchOfficialPage, Tx.start, hget, hsplit, fetchAndPersistPage, hstored,
              if_neg hactive, valueError, turnResult]
            exact (ended_giveUp (some p) db linked).resume.resume
    · simp only [recheckCycle, hr, hpub]
      exact hskipped.resume.resume

/-! ## What one transaction may write -/

/-- What a transaction of a turn for `c` may do: who publishes what stays as it is, and only
the row of `c` and the tasks for `c` may change. -/
structure OwnTransaction (c : CycleId) (db db' : Db) : Prop where
  scholarships : db'.scholarships = db.scholarships
  other : ∀ j, j ≠ c → db'.cycles.row j = db.cycles.row j
  owner : ∀ r, db.cycles.row c = some r →
    ∃ r', db'.cycles.row c = some r' ∧ r'.scholarshipId = r.scholarshipId
  tasks : ∀ task ∈ db'.tasks, task ∈ db.tasks ∨ task.cycleId = some c

namespace OwnTransaction

variable {db db' db'' : Db}

lemma refl (c : CycleId) (db : Db) : OwnTransaction c db db :=
  ⟨rfl, fun _ _ => rfl, fun r hr => ⟨r, hr, rfl⟩, fun _ h => Or.inl h⟩

lemma trans (h : OwnTransaction c db db') (h' : OwnTransaction c db' db'') :
    OwnTransaction c db db'' where
  scholarships := h'.scholarships.trans h.scholarships
  other := fun j hj => (h'.other j hj).trans (h.other j hj)
  owner := by
    intro r hr
    obtain ⟨r', hr', hid⟩ := h.owner r hr
    obtain ⟨r'', hr'', hid'⟩ := h'.owner r' hr'
    exact ⟨r'', hr'', hid'.trans hid⟩
  tasks := by
    intro task htask
    rcases h'.tasks task htask with hold | hnew
    · exact h.tasks task hold
    · exact Or.inr hnew

lemma of_touch (h : Touch py c cycle db db') : OwnTransaction c db db' where
  scholarships := h.scholarships
  other := h.other
  owner := by
    intro r hr
    obtain ⟨p, hp, -⟩ := h.row r hr
    exact ⟨_, hp, rfl⟩
  tasks := fun task htask => Or.inl (h.tasks ▸ htask)

lemma of_task (c : CycleId) (reason : String) (draft : Json) (db : Db) :
    OwnTransaction c db (openCycleReviewTask c reason draft db) := by
  obtain ⟨tasks, heq⟩ := openCycleReviewTask_eq c reason draft db
  refine ⟨by rw [heq], fun _ _ => by rw [heq], fun r hr => ⟨r, by rw [heq, hr], rfl⟩, ?_⟩
  intro task htask
  rcases mem_openCycleReviewTask htask with hold | ⟨hcycle, -⟩
  · exact Or.inl hold
  · exact Or.inr hcycle

lemma of_renewal (c : CycleId) (now : Instant) (cycle : ScholarshipCycle) (db : Db) :
    OwnTransaction c db { db with cycles := db.cycles.modify c (renewRow now cycle) } where
  scholarships := rfl
  other := fun j hj => Table.row_modify_of_ne _ hj _
  owner := by
    intro r hr
    refine ⟨renewRow now cycle r, by simp [hr], ?_⟩
    rw [renewRow]
    split <;> rfl
  tasks := fun _ h => Or.inl h

end OwnTransaction

lemma own_deferOrFlag {cfg : FreshnessConfig} {reason : String} {db db' : Db} {outcome : Outcome}
    (h : deferOrFlag py cfg now c cycle reason db = .ok (outcome, db')) :
    OwnTransaction c db db' := by
  rcases deferOrFlag_spec h with ⟨-, rfl⟩ | ⟨-, draft, rfl⟩
  · exact OwnTransaction.refl c _
  · exact OwnTransaction.of_task c reason draft db

/-- Whatever page the hashes are compared on. -/
lemma own_compareHashes {cfg : FreshnessConfig} {previous : Option String} {page : SourcePage}
    {db db' : Db} {outcome : Outcome}
    (h : compareHashes py cfg now c cycle previous page db = .ok (outcome, db')) :
    OwnTransaction c db db' := by
  unfold compareHashes at h
  dsimp only at h
  split at h
  · obtain ⟨derived, -, h⟩ := exceptBind_ok h
    obtain ⟨cutoff, -, h⟩ := exceptBind_ok h
    -- renewed, flagged for changed content, or deferred
    split at h
    · cases h
      exact OwnTransaction.of_renewal c now cycle db
    · split at h
      · cases h
        exact OwnTransaction.of_task c _ _ db
      · cases h
        exact OwnTransaction.refl c db
  · exact own_deferOrFlag h

lemma own_settle {result : Except PyErr (Outcome × Db)} {db base : Db}
    (hbase : OwnTransaction c db base)
    (hresult : ∀ outcome db', result = .ok (outcome, db') → OwnTransaction c db db') :
    OwnTransaction c db (session.settle now c cycle result base).2 := by
  rcases result with e | ⟨_ | _ | _, db'⟩
  · exact hbase
  · exact hresult _ db' rfl
  · exact hresult _ db' rfl
  · exact hresult _ db' rfl

lemma own_giveUp {db base db' : Db} (hbase : OwnTransaction c db base)
    (hdb : OwnTransaction c db db') :
    OwnTransaction c db (session.giveUp py settings now c cycle base db').2 :=
  own_settle hbase fun _ _ h => hdb.trans (own_deferOrFlag h)

/-- The transaction `after` of a turn for `c`, which keeps to `c` and leaves no other turn in
progress. -/
structure TurnTransaction (c : CycleId) (db : Db) (after : Session × Db) : Prop where
  own : OwnTransaction c db after.2
  turn : ∀ turn ∈ after.1.stage.turn, turn.cycleId = c

lemma settle_stage (result : Except PyErr (Outcome × Db)) (base : Db) :
    (session.settle now c cycle result base).1.stage.turn = none := by
  rw [(ended_settle result base).1]
  rfl

lemma turnTransaction_giveUp {db base db' : Db} (hbase : OwnTransaction c db base)
    (hdb : OwnTransaction c db db') :
    TurnTransaction c db (session.giveUp py settings now c cycle base db') := by
  refine ⟨own_giveUp hbase hdb, fun turn hturn => ?_⟩
  rw [Session.giveUp, settle_stage] at hturn
  cases hturn

lemma turnTransaction_persist {turn : Pending} (hturn : turn.cycleId = c) {db base db' : Db}
    (hbase : OwnTransaction c db base) (hdb : OwnTransaction c db db')
    (result : Except PyErr (FetchedSource × String)) :
    TurnTransaction c db (session.persist py settings turn result base db') := by
  subst hturn
  rcases result with e | ⟨fetched, extractorVersion⟩
  · exact turnTransaction_giveUp hbase hdb
  · have hstore : OwnTransaction turn.cycleId db'
        (storeFetched py turn.pageId turn.fetch fetched extractorVersion db') :=
      ⟨rfl, fun _ _ => rfl, fun r hr => ⟨r, hr, rfl⟩, fun _ h => Or.inl h⟩
    refine ⟨hdb.trans hstore, fun turn' hturn => ?_⟩
    cases hturn
    rfl

/-- The first transaction of a turn is skipped, unless the cycle is still published. -/
theorem startTurn_spec (py : Py) (settings : Settings) (session : Session) (sourceId : SourceId)
    (now : Instant) (c : CycleId) (fetch : Fetch) (db : Db) :
    session.startTurn py settings sourceId now c fetch db = (session, db) ∨
      (∃ row, db.cycles.row c = some row ∧ db.isPublished row) ∧
        TurnTransaction c db (session.startTurn py settings sourceId now c fetch db) := by
  rw [Session.startTurn]
  cases hr : db.cycles.row c with
  | none => exact Or.inl rfl
  | some row =>
    by_cases hpub : db.isPublished row = true
    · refine Or.inr ⟨⟨row, rfl, hpub⟩, ?_⟩
      have hrefl := OwnTransaction.refl c db
      simp only [hpub, if_true]
      cases hget : getOrCreateSourcePage py sourceId c ((session.loaded c).getD row) db with
      | error e => exact turnTransaction_giveUp hrefl hrefl
      | ok found =>
        obtain ⟨p, page, linked⟩ := found
        have hlink := OwnTransaction.of_touch (getOrCreateSourcePage_ok hget).touch
        dsimp only
        cases py.urlsplit page.normalizedUrl with
        | error e => exact turnTransaction_giveUp hrefl hlink
        | ok parts =>
          dsimp only
          split
          · split
            · obtain ⟨allowed, usage, hreserve⟩ := reserveCall_spec "jina"
                settings.jinaMonthlyCallLimit fetch.reservedAt (Tx.start linked)
              rw [hreserve]
              -- `reserve_call` adds nothing but the count of its calls
              refine ⟨⟨hlink.scholarships, hlink.other, hlink.owner, hlink.tasks⟩, ?_⟩
              intro turn hturn
              cases hturn
              rfl
            · refine turnTransaction_persist ?_ hrefl hlink _
              rfl
          · exact turnTransaction_giveUp hrefl hlink
    · exact Or.inl (by simp only [hpub]; rfl)

/-- A further transaction keeps to the cycle of its turn. -/
theorem resumeTurn_spec (py : Py) (settings : Settings) {session : Session} {turn : Pending}
    (hturn : session.stage.turn = some turn) (db : Db) :
    TurnTransaction turn.cycleId db (session.resumeTurn py settings db) := by
  have hrefl := OwnTransaction.refl turn.cycleId db
  rw [Session.resumeTurn]
  cases hstage : session.stage with
  | idle =>
    rw [hstage] at hturn
    cases hturn
  | reserved pending allowed =>
    rw [hstage] at hturn
    cases hturn
    exact turnTransaction_persist rfl hrefl hrefl _
  | persisted pending =>
    rw [hstage] at hturn
    cases hturn
    dsimp only
    cases db.pages.row turn.pageId with
    | none => exact ⟨hrefl, fun turn' h => by cases h⟩
    | some page =>
      refine ⟨own_settle hrefl fun _ _ h => own_compareHashes h, fun turn' h => ?_⟩
      rw [settle_stage] at h
      cases h

lemma resumeTurn_of_no_turn (h : session.stage.turn = none) (db : Db) :
    session.resumeTurn py settings db = (session, db) := by
  rw [Session.resumeTurn]
  cases hstage : session.stage with
  | idle => rfl
  | reserved turn allowed =>
    rw [hstage] at h
    cases h
  | persisted turn =>
    rw [hstage] at h
    cases h

lemma TurnTransaction.resume {db : Db} {after : Session × Db} (h : TurnTransaction c db after) :
    TurnTransaction c db (after.1.resumeTurn py settings after.2) := by
  cases hturn : after.1.stage.turn with
  | none =>
    rw [resumeTurn_of_no_turn hturn]
    exact h
  | some turn =>
    have hspec := resumeTurn_spec py settings hturn after.2
    rw [h.turn turn hturn] at hspec
    exact ⟨h.own.trans hspec.own, hspec.turn⟩

/-- A whole turn is skipped, or is for a published cycle and keeps to it. -/
theorem own_recheckCycle (py : Py) (settings : Settings) (sourceId : SourceId) (now : Instant)
    (c : CycleId) (fetch : Fetch) (db : Db) :
    (recheckCycle py settings sourceId now c fetch db).2 = db ∨
      (∃ r, db.cycles.row c = some r ∧ db.isPublished r) ∧
        OwnTransaction c db (recheckCycle py settings sourceId now c fetch db).2 := by
  have hloaded : ∀ held ∈ Session.fresh.loaded c, db.cycles.row c = some held := by
    simp [Session.fresh]
  have hended := recheckCycle_eq_transactions py settings sourceId now fetch rfl hloaded
  rw [← hended.2, Session.wholeTurn]
  rcases startTurn_spec py settings Session.fresh sourceId now c fetch db with
    hskipped | ⟨hpub, hstart⟩
  · rw [hskipped]
    exact Or.inl rfl
  · exact Or.inr ⟨hpub, hstart.resume.resume.own⟩

end

end ScholarshipFinder
