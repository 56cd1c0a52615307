import ScholarshipFinder.Infra.SourceFetch
import ScholarshipFinder.Infra.Turn
import ScholarshipFinder.Sample

/-!
# Evidence is renewed on a real page

A recheck renews the evidence of a cycle when the content it hashed is the content that was
hashed before.  That content should be a page: the final answer to the requests that
`fetch_source` sent, or what the fallback reader made of the page.  One redirect is followed;
where its destination redirects again, the body of that second redirect is taken for the page.
-/

namespace ScholarshipFinder

open Lib

/-! ## The requests of one fetch -/

namespace SourceFetch

/-- The answer to the last of the requests that were sent. -/
def lastReply (get : ℕ → String → Except PyErr HttpReply) (requests : List String) :
    Option HttpReply :=
  requests.getLast?.bind fun url => (get (requests.length - 1) url).toOption

variable {py : FetchPy} {get : ℕ → String → Except PyErr HttpReply} {url : String}
variable {domains : List String}

/-- The page redirects to a URL that may be fetched, and that redirects again. -/
def RedirectsTwice (py : FetchPy) (get : ℕ → String → Except PyErr HttpReply) (url : String)
    (domains : List String) : Prop :=
  ∃ normalized first redirected second,
    validateSourceUrl py url domains = .ok normalized ∧ get 0 normalized = .ok first ∧
    isRedirect first.statusCode = true ∧ first.location.getD "" ≠ "" ∧
    validateSourceUrl py (first.location.getD "") domains = .ok redirected ∧
    get 1 redirected = .ok second ∧ isRedirect second.statusCode = true ∧
    second.content.length ≤ maxBytes

lemma readReply_ok {url : String} {reply : HttpReply} {fetched : FetchedSource}
    (h : readReply maxBytes url reply = .ok fetched) :
    fetched = ⟨url, reply.statusCode, reply.content, reply.contentType⟩ ∧
      reply.content.length ≤ maxBytes := by
  rw [readReply] at h
  split at h
  · cases h
  · next hlen => exact ⟨(Except.ok.inj h).symm, Nat.le_of_not_lt hlen⟩

/-- What a fetch brings is the last answer it got, which is a redirect only as the second one. -/
lemma fetchSource_ok {fetched : FetchedSource}
    (h : (fetchSource py get url domains).2 = .ok fetched) :
    ∃ reply, lastReply get (fetchSource py get url domains).1 = some reply ∧
      fetched.statusCode = reply.statusCode ∧ fetched.content = reply.content ∧
      (isRedirect reply.statusCode = true → RedirectsTwice py get url domains) := by
  unfold fetchSource at h ⊢
  cases hvalid : validateSourceUrl py url domains with
  | error e =>
    rw [hvalid] at h
    cases h
  | ok normalized =>
    rw [hvalid] at h
    dsimp only at h ⊢
    cases hfirst : get 0 normalized with
    | error e =>
      rw [hfirst] at h
      cases h
    | ok first =>
      rw [hfirst] at h
      dsimp only at h ⊢
      by_cases hredirect : isRedirect first.statusCode = true
      · rw [if_pos hredirect] at h ⊢
        by_cases hlocation : first.location.getD "" = ""
        · rw [if_pos hlocation] at h
          cases h
        · rw [if_neg hlocation] at h ⊢
          cases hnext : validateSourceUrl py (first.location.getD "") domains with
          | error e =>
            rw [hnext] at h
            cases h
          | ok redirected =>
            rw [hnext] at h
            dsimp only at h ⊢
            cases hsecond : get 1 redirected with
            | error e =>
              rw [hsecond] at h
              cases h
            | ok second =>
              rw [hsecond] at h
              obtain ⟨rfl, hlen⟩ := readReply_ok h
              refine ⟨second, ?_, rfl, rfl, fun hagain => ?_⟩
              · simp [lastReply, hsecond, Except.toOption]
              · exact ⟨normalized, first, redirected, second, hvalid, hfirst, hredirect, hlocation,
                  hnext, hsecond, hagain, hlen⟩
      · rw [if_neg hredirect] at h ⊢
        obtain ⟨rfl, -⟩ := readReply_ok h
        refine ⟨first, ?_, rfl, rfl, fun hagain => absurd hagain hredirect⟩
        simp [lastReply, hfirst, Except.toOption]

/-- The body of a second redirect is what the fetch brings. -/
lemma fetchSource_of_redirectsTwice (h : RedirectsTwice py get url domains) :
    ∃ fetched reply, (fetchSource py get url domains).2 = .ok fetched ∧
      lastReply get (fetchSource py get url domains).1 = some reply ∧
      isRedirect reply.statusCode = true ∧ isRedirect fetched.statusCode = true := by
  obtain ⟨normalized, first, redirected, second, hvalid, hfirst, hredirect, hlocation, hnext,
    hsecond, hagain, hlen⟩ := h
  refine ⟨⟨redirected, second.statusCode, second.content, second.contentType⟩, second, ?_, ?_,
    hagain, hagain⟩
  · simp only [fetchSource, hvalid, hfirst, hredirect, hlocation, hnext, hsecond,
      if_true, if_false, readReply, Nat.not_lt.mpr hlen]
  · simp [fetchSource, hvalid, hfirst, hredirect, hlocation, hnext, hsecond, lastReply,
      Except.toOption]

end SourceFetch

open SourceFetch

/-! ## The turn over the network -/

/-- What the network and the clock answer during the turn of one cycle: `get` answers the `n`-th
request of `fetch_source`. -/
structure Responses where
  get : ℕ → String → Except PyErr HttpReply
  jina : Except PyErr String
  reservedAt : Instant
  completedAt : Instant

section

variable (py : FetchPy) (settings : Settings) (sourceId : SourceId) (now : Instant) (c : CycleId)
variable (responses : Responses) (db : Db)

/-- The URL that `_reverify_one_cycle` fetches for a cycle, and the domains it passes on. -/
def officialRequest (cycle : ScholarshipCycle) : Except PyErr (String × List String) := do
  let (_, page, _) ← getOrCreateSourcePage py.toPy sourceId c cycle db
  let parts ← py.urlsplit page.normalizedUrl
  return (page.normalizedUrl, [parts.hostname.getD ""])

/-- `fetch_source` as the turn of a cycle calls it: the requests, and the result. -/
def officialPage : List String × Except PyErr FetchedSource :=
  match db.cycles.row c with
  | none => ([], lookupError "Cycle not found")
  | some cycle =>
    match officialRequest py sourceId c db cycle with
    | .error e => ([], .error e)
    | .ok (url, domains) => fetchSource py responses.get url domains

/-- The fetch of the turn of a cycle. -/
def officialFetch : Fetch where
  direct := (officialPage py sourceId c responses db).2
  jina := responses.jina
  reservedAt := responses.reservedAt
  completedAt := responses.completedAt

/-- One turn of the sweep, over the network. -/
def recheckOver : Turn × Db :=
  recheckCycle py.toPy settings sourceId now c (officialFetch py sourceId c responses db) db

end

/-- The time of the last successful fetch of a page. -/
def successAt (db : Db) (p : PageId) : Option Instant :=
  (db.pages.row p).bind (·.lastSuccessfulFetchAt)

/-- The content of a snapshot is a rendering by the fallback reader. -/
def IsRendering (py : Py) (responses : Responses) (snapshot : SourceSnapshot) : Prop :=
  snapshot.extractorVersion = "jina-reader-v1" ∧ ∃ text, responses.jina = .ok text ∧
    snapshot.contentHash = py.sha256 text.toUTF8.toList

/-- The content of a snapshot is the body of the final answer, whose status is in order. -/
def IsAnswer (py : Py) (responses : Responses) (requests : List String) (status : ℕ → Prop)
    (snapshot : SourceSnapshot) : Prop :=
  ∃ reply, lastReply responses.get requests = some reply ∧ status reply.statusCode ∧
    snapshot.contentHash = py.sha256 reply.content

/-- What a turn that sent `requests` may do with what it got. -/
structure OnRealPage (py : Py) (responses : Responses) (requests : List String) (db : Db)
    (turn : Turn) (db' : Db) : Prop where
  /-- What is recorded as the content of a page is not the body of a redirect. -/
  recorded : ∀ snapshot, db'.snapshots = db.snapshots ++ [snapshot] →
    IsRendering py responses snapshot ∨
      IsAnswer py responses requests (fun status => isRedirect status = false) snapshot
  /-- What counts as a successful fetch of a page was recorded as its content. -/
  counted : ∀ p, successAt db' p ≠ successAt db p →
    ∃ snapshot, db'.snapshots = db.snapshots ++ [snapshot] ∧ snapshot.pageId = p
  /-- A renewal has recorded a success, or a rendering. -/
  renewed : turn = .done .renewed → ∃ snapshot, db'.snapshots = db.snapshots ++ [snapshot] ∧
    (IsRendering py responses snapshot ∨
      IsAnswer py responses requests (fun status => 200 ≤ status ∧ status < 300) snapshot)

/-! ## What a turn records -/

section

variable {py : Py} {settings : Settings} {sourceId : SourceId} {now : Instant} {c : CycleId}
variable {cycle : ScholarshipCycle} {fetch : Fetch} {p : PageId}

/-- Nothing was recorded as the content of a page. -/
structure Unrecorded (db db' : Db) : Prop where
  snapshots : db'.snapshots = db.snapshots
  counted : ∀ q, successAt db' q = successAt db q

lemma Unrecorded.refl (db : Db) : Unrecorded db db := ⟨rfl, fun _ => rfl⟩

/-- `body` was recorded as the content of the page `p`. -/
structure RecordedPage (py : Py) (p : PageId) (body : FetchedSource) (extractor : String)
    (db db' : Db) : Prop where
  snapshot : ∃ snapshot : SourceSnapshot, db'.snapshots = db.snapshots ++ [snapshot] ∧
    snapshot.pageId = p ∧ snapshot.contentHash = py.sha256 body.content ∧
    snapshot.extractorVersion = extractor
  others : ∀ q, q ≠ p → successAt db' q = successAt db q
  page : ∃ page, db'.pages.row p = some page ∧ page.httpStatus = some body.statusCode ∧
    page.normalizedContentHash = some (py.sha256 body.content)

lemma getOrCreateSourcePage_unrecorded {db db' : Db} {page : SourcePage}
    (h : getOrCreateSourcePage py sourceId c cycle db = .ok (p, page, db')) :
    Unrecorded db db' := by
  unfold getOrCreateSourcePage at h
  split at h
  · cases h
    exact Unrecorded.refl db
  · obtain ⟨url, -, h⟩ := exceptBind_ok h
    dsimp only at h
    split at h
    · cases h
      exact ⟨rfl, fun _ => rfl⟩
    · cases h
      refine ⟨rfl, fun q => ?_⟩
      unfold successAt
      dsimp only
      rw [Table.row_insert]
      split
      · next hq =>
        -- the page is new, and was never fetched
        rw [hq, Table.row_nextKey]
        rfl
      · rfl

lemma Counted.unrecorded {tx tx' : Tx} (h : Counted tx tx') :
    tx'.current.snapshots = tx.current.snapshots ∧ tx'.current.pages = tx.current.pages ∧
      (tx'.committed = tx.committed ∨ tx'.committed.snapshots = tx.current.snapshots ∧
        tx'.committed.pages = tx.current.pages) := by
  rcases h with rfl | ⟨usage, rfl⟩
  · exact ⟨rfl, rfl, Or.inl rfl⟩
  · exact ⟨rfl, rfl, Or.inr ⟨rfl, rfl⟩⟩

/-- The content that a fetch brings, and the extractor it is stored under. -/
def BroughtBy (fetch : Fetch) (body : FetchedSource) (extractor : String) : Prop :=
  extractor = "raw-v1" ∧ fetch.direct = .ok body ∨
    extractor = "jina-reader-v1" ∧
      (∃ text url, fetch.jina = .ok text ∧ body = ⟨url, 200, text.toUTF8.toList, "text/markdown"⟩) ∧
      ∀ answered, fetch.direct = .ok answered → 400 ≤ answered.statusCode

lemma fetchWithJinaFallback_ok {url extractor : String} {body : FetchedSource} {tx tx' : Tx}
    (h : fetchWithJinaFallback settings url fetch tx = (.ok (body, extractor), tx')) :
    BroughtBy fetch body extractor ∧ Counted tx tx' := by
  obtain ⟨fallback, tx₁, htry, hcount, hfallback⟩ := tryJinaFallback_spec settings url fetch tx
  have hrendered : ∀ content, fallback = .ok (some content) →
      (∀ answered, fetch.direct = .ok answered → 400 ≤ answered.statusCode) →
      BroughtBy fetch content "jina-reader-v1" := by
    intro content hcontent hfailed
    obtain ⟨text, hjina, rfl⟩ := hfallback content hcontent
    exact Or.inr ⟨rfl, ⟨text, url, hjina, rfl⟩, hfailed⟩
  unfold fetchWithJinaFallback at h
  cases hdirect : fetch.direct with
  | error e =>
    rw [hdirect] at h
    dsimp only at h
    by_cases hhttp : e.cls = .httpError
    · rw [if_pos hhttp, htry] at h
      rcases fallback with e' | _ | content
      · cases h
      · cases h
      · cases h
        refine ⟨hrendered _ rfl fun answered hanswered => ?_, hcount⟩
        rw [hdirect] at hanswered
        cases hanswered
    · rw [if_neg hhttp] at h
      cases h
  | ok fetched =>
    rw [hdirect] at h
    dsimp only at h
    by_cases hstatus : 400 ≤ fetched.statusCode
    · rw [if_pos hstatus, htry] at h
      rcases fallback with e' | _ | content
      · cases h
      · cases h
        exact ⟨Or.inl ⟨rfl, hdirect⟩, hcount⟩
      · cases h
        refine ⟨hrendered _ rfl fun answered hanswered => ?_, hcount⟩
        rw [hdirect, Except.ok.injEq] at hanswered
        exact hanswered ▸ hstatus
    · rw [if_neg hstatus] at h
      cases h
      exact ⟨Or.inl ⟨rfl, hdirect⟩, Or.inl rfl⟩

/-- A fetch that persists records what it brought. -/
lemma fetchAndPersistPage_ok {tx tx' : Tx}
    (h : fetchAndPersistPage py settings p fetch tx = (.ok (), tx')) :
    ∃ body extractor db', BroughtBy fetch body extractor ∧
      RecordedPage py p body extractor tx.current db' ∧ tx' = Tx.start db' := by
  obtain ⟨page, hpage, hactive⟩ := fetchAndPersistPage_active h
  unfold fetchAndPersistPage at h
  rw [hpage] at h
  dsimp only at h
  rw [if_pos hactive] at h
  rcases hfetch : fetchWithJinaFallback settings page.normalizedUrl fetch tx with
    ⟨_ | ⟨body, extractor⟩, tx₁⟩
  · rw [hfetch] at h
    cases h
  · rw [hfetch] at h
    obtain ⟨hbrought, hcount⟩ := fetchWithJinaFallback_ok hfetch
    obtain ⟨hsnapshots, hpages, -⟩ := hcount.unrecorded
    cases h
    refine ⟨body, extractor, _, hbrought, ?_, rfl⟩
    exact
      { snapshot := ⟨_, by rw [← hsnapshots]; rfl, rfl, rfl, rfl⟩
        others := fun q hq => by
          unfold successAt
          dsimp only [Tx.write]
          rw [Table.row_modify_of_ne _ hq, hpages]
        page := ⟨page.persist py body fetch.completedAt, by simp [Tx.write, hpages, hpage], rfl,
          rfl⟩ }

lemma Unrecorded.of_eq {db linked db' : Db} (h : Unrecorded db linked)
    (hsnapshots : db'.snapshots = linked.snapshots) (hpages : db'.pages = linked.pages) :
    Unrecorded db db' := by
  refine ⟨hsnapshots.trans h.snapshots, fun q => ?_⟩
  rw [← h.counted q, successAt, successAt, hpages]

lemma RecordedPage.of_eq {body : FetchedSource} {extractor : String} {db linked db₁ db' : Db}
    (h : RecordedPage py p body extractor linked db₁) (hlinked : Unrecorded db linked)
    (hsnapshots : db'.snapshots = db₁.snapshots) (hpages : db'.pages = db₁.pages) :
    RecordedPage py p body extractor db db' where
  snapshot := by
    obtain ⟨snapshot, heq, hrest⟩ := h.snapshot
    exact ⟨snapshot, by rw [hsnapshots, heq, hlinked.snapshots], hrest⟩
  others := by
    intro q hq
    rw [← hlinked.counted q, ← h.others q hq, successAt, successAt, hpages]
  page := by
    rw [hpages]
    exact h.page

lemma fetchOfficialPage_error {db : Db} {e : PyErr} {tx : Tx}
    (h : fetchOfficialPage py settings sourceId c cycle fetch (Tx.start db) = (.error e, tx)) :
    Unrecorded db tx.committed ∧ Unrecorded db tx.current := by
  rw [fetchOfficialPage, Tx.start] at h
  cases hget : getOrCreateSourcePage py sourceId c cycle db with
  | error e =>
    simp only [hget] at h
    cases h
    exact ⟨Unrecorded.refl db, Unrecorded.refl db⟩
  | ok found =>
    obtain ⟨q, page, linked⟩ := found
    have hlinked := getOrCreateSourcePage_unrecorded hget
    simp only [hget] at h
    cases hsplit : py.urlsplit page.normalizedUrl with
    | error e =>
      simp only [hsplit] at h
      cases h
      exact ⟨Unrecorded.refl db, hlinked⟩
    | ok parts =>
      simp only [hsplit] at h
      rcases fetchAndPersistPage_spec py settings q fetch ⟨db, linked⟩ with
        ⟨e', tx', hfetch, hcount⟩ | ⟨_, _, _, _, -, -, hfetch⟩
      · simp only [hfetch] at h
        cases h
        obtain ⟨hsnapshots, hpages, hcommitted⟩ := hcount.unrecorded
        refine ⟨?_, hlinked.of_eq hsnapshots hpages⟩
        rcases hcommitted with heq | ⟨hsnap, hpage⟩
        · rw [heq]
          exact Unrecorded.refl db
        · exact hlinked.of_eq hsnap hpage
      · simp only [hfetch] at h
        cases h

lemma fetchOfficialPage_recorded {db : Db} {previous : Option String} {tx : Tx}
    (h : fetchOfficialPage py settings sourceId c cycle fetch (Tx.start db) =
      (.ok (p, previous), tx)) :
    ∃ body extractor db₁, BroughtBy fetch body extractor ∧
      RecordedPage py p body extractor db db₁ ∧ tx = Tx.start db₁ := by
  rw [fetchOfficialPage, Tx.start] at h
  cases hget : getOrCreateSourcePage py sourceId c cycle db with
  | error e => simp [hget] at h
  | ok found =>
    obtain ⟨q, page, linked⟩ := found
    cases hsplit : py.urlsplit page.normalizedUrl with
    | error e => simp [hget, hsplit] at h
    | ok parts =>
      simp only [hget, hsplit] at h
      rcases hfetch : fetchAndPersistPage py settings q fetch ⟨db, linked⟩ with ⟨_ | _, tx'⟩
      · simp [hfetch] at h
      · obtain ⟨body, extractor, db₁, hbrought, hrecorded, rfl⟩ := fetchAndPersistPage_ok hfetch
        rw [hfetch] at h
        cases h
        exact ⟨body, extractor, db₁, hbrought,
          hrecorded.of_eq (getOrCreateSourcePage_unrecorded hget) rfl rfl, rfl⟩

/-- Once the fetch is done, a turn writes neither pages nor snapshots. -/
lemma Decision.keeps {previous : Option String} {body : FetchedSource} {db db' : Db} {turn : Turn}
    (h : Decision py now c cycle previous body db turn db') :
    db'.snapshots = db.snapshots ∧ db'.pages = db.pages ∧
      (turn = .done .renewed → successStatus body.statusCode = true) := by
  cases h with
  | renewed _ success _ _ => exact ⟨rfl, rfl, fun _ => success⟩
  | changed draft _ _ success =>
    obtain ⟨tasks, heq⟩ := openCycleReviewTask_eq c "reverify_content_changed" draft db
    rw [heq]
    exact ⟨rfl, rfl, fun _ => success⟩
  | undecided rest =>
    obtain ⟨⟨tasks, rfl⟩, hne⟩ := rest.eq
    exact ⟨rfl, rfl, fun h => absurd h hne⟩

variable (now) in
/-- A turn whose fetch failed renews nothing. -/
lemma recheckCycle_of_error {db : Db} {e : PyErr} {tx : Tx}
    (hrow : db.cycles.row c = some cycle) (hpub : db.isPublished cycle = true)
    (hfetch : fetchOfficialPage py settings sourceId c cycle fetch (Tx.start db) =
      (.error e, tx)) :
    (recheckCycle py settings sourceId now c fetch db).1 ≠ .done .renewed ∧
      Unrecorded db (recheckCycle py settings sourceId now c fetch db).2 := by
  obtain ⟨hcommitted, hcurrent⟩ := fetchOfficialPage_error hfetch
  rw [recheckCycle]
  simp only [hrow, hpub, if_true, reverifyOneCycle, hfetch]
  cases hres : deferOrFlag py (freshnessConfig settings) now c cycle "reverify_fetch_failed"
      tx.current with
  | error e' => exact ⟨by simp, hcommitted⟩
  | ok result =>
    have hund := undecided_deferOrFlag hres (by decide)
    obtain ⟨outcome, db'⟩ := result
    obtain ⟨⟨tasks, htasks⟩, hne⟩ := hund.eq
    change db' = _ at htasks
    subst htasks
    exact ⟨hne, hcurrent.of_eq rfl rfl⟩

variable (now) in
/-- A turn whose fetch succeeded has recorded what the fetch brought. -/
lemma recheckCycle_of_ok {db : Db} {previous : Option String} {tx : Tx}
    (hrow : db.cycles.row c = some cycle) (hpub : db.isPublished cycle = true)
    (hfetch : fetchOfficialPage py settings sourceId c cycle fetch (Tx.start db) =
      (.ok (p, previous), tx)) :
    ∃ body extractor, BroughtBy fetch body extractor ∧
      RecordedPage py p body extractor db (recheckCycle py settings sourceId now c fetch db).2 ∧
      ((recheckCycle py settings sourceId now c fetch db).1 = .done .renewed →
        successStatus body.statusCode = true) := by
  obtain ⟨body, extractor, db₁, hbrought, hrecorded, rfl⟩ := fetchOfficialPage_recorded hfetch
  obtain ⟨page, hpage, hstatus, hhash⟩ := hrecorded.page
  have hturn : recheckCycle py settings sourceId now c fetch db =
      settleTurn (compareHashes py (freshnessConfig settings) now c cycle previous page db₁) db₁ := by
    rw [recheckCycle]
    simp only [hrow, hpub, if_true, reverifyOneCycle, hfetch]
    simp only [Tx.start, hpage]
    cases compareHashes py (freshnessConfig settings) now c cycle previous page db₁ <;> rfl
  have hdecision : Decision py now c cycle previous body db₁
      (recheckCycle py settings sourceId now c fetch db).1
      (recheckCycle py settings sourceId now c fetch db).2 := by
    rw [hturn]
    exact compareHashes_spec rfl hstatus hhash
  obtain ⟨hsnapshots, hpages, hsuccess⟩ := hdecision.keeps
  exact ⟨body, extractor, hbrought, hrecorded.of_eq (Unrecorded.refl db) hsnapshots hpages,
    hsuccess⟩

end

/-! ## When a turn keeps to real pages -/

section

variable {py : FetchPy} {settings : Settings} {sourceId : SourceId} {now : Instant} {c : CycleId}
variable {responses : Responses} {db : Db}

/-- The turn of a published cycle fetches a page that redirects twice. -/
def FetchesRedirect (py : FetchPy) (sourceId : SourceId) (c : CycleId) (responses : Responses)
    (db : Db) : Prop :=
  ∃ cycle p page linked parts, db.cycles.row c = some cycle ∧ db.isPublished cycle = true ∧
    getOrCreateSourcePage py.toPy sourceId c cycle db = .ok (p, page, linked) ∧
    py.urlsplit page.normalizedUrl = .ok parts ∧
    (linked.sources.row page.sourceId).any (·.active) = true ∧
    RedirectsTwice py responses.get page.normalizedUrl [parts.hostname.getD ""]

lemma officialPage_eq {cycle : ScholarshipCycle} {p : PageId} {page : SourcePage} {linked : Db}
    {parts : SplitResult} (hrow : db.cycles.row c = some cycle)
    (hget : getOrCreateSourcePage py.toPy sourceId c cycle db = .ok (p, page, linked))
    (hsplit : py.urlsplit page.normalizedUrl = .ok parts) :
    officialPage py sourceId c responses db =
      fetchSource py responses.get page.normalizedUrl [parts.hostname.getD ""] := by
  have hrequest : officialRequest py sourceId c db cycle =
      .ok (page.normalizedUrl, [parts.hostname.getD ""]) := by
    rw [officialRequest, hget]
    simp only [bind, Except.bind, hsplit]
    rfl
  rw [officialPage, hrow]
  simp only [hrequest]

/-- A turn that fetches a page is over the guards of the fetch. -/
lemma fetchesRedirect_of_ok {cycle : ScholarshipCycle} {p : PageId} {previous : Option String}
    {tx : Tx} {fetched : FetchedSource} (hrow : db.cycles.row c = some cycle)
    (hpub : db.isPublished cycle = true)
    (hfetch : fetchOfficialPage py.toPy settings sourceId c cycle
      (officialFetch py sourceId c responses db) (Tx.start db) = (.ok (p, previous), tx))
    (hdirect : (officialPage py sourceId c responses db).2 = .ok fetched) :
    ∃ reply, lastReply responses.get (officialPage py sourceId c responses db).1 = some reply ∧
      fetched.statusCode = reply.statusCode ∧ fetched.content = reply.content ∧
      (isRedirect reply.statusCode = true → FetchesRedirect py sourceId c responses db) := by
  obtain ⟨page, linked, hget, hsplit, hactive⟩ := fetchOfficialPage_ok hfetch
  cases hparts : py.urlsplit page.normalizedUrl with
  | error e =>
    rw [hparts] at hsplit
    cases hsplit
  | ok parts =>
    rw [officialPage_eq hrow hget hparts] at hdirect ⊢
    obtain ⟨reply, hlast, hstatus, hcontent, hredirect⟩ := fetchSource_ok hdirect
    exact ⟨reply, hlast, hstatus, hcontent, fun h =>
      ⟨cycle, p, page, linked, parts, hrow, hpub, hget, hparts, hactive, hredirect h⟩⟩

lemma success_of_notRedirect {status : ℕ} (h : successStatus status = true)
    (hnot : isRedirect status = false) : 200 ≤ status ∧ status < 300 := by
  simp only [successStatus, isRedirect, decide_eq_true_eq, decide_eq_false_iff_not] at h hnot
  omega

/-- Nothing is recorded, so nothing but a page is. -/
lemma Unrecorded.onRealPage {requests : List String} {turn : Turn} {db' : Db}
    (h : Unrecorded db db') (hturn : turn ≠ .done .renewed) :
    OnRealPage py.toPy responses requests db turn db' where
  recorded := by
    intro snapshot hsnapshot
    have hlength := congrArg List.length (h.snapshots.symm.trans hsnapshot)
    simp at hlength
  counted := fun p hp => absurd (h.counted p) hp
  renewed := fun hrenewed => absurd hrenewed hturn

/-- What was recorded is a page where it is not the body of a redirect. -/
lemma RecordedPage.onRealPage {body : FetchedSource} {extractor : String} {p : PageId} {turn : Turn}
    {db' : Db} (h : RecordedPage py.toPy p body extractor db db')
    (hbrought : BroughtBy (officialFetch py sourceId c responses db) body extractor)
    (hsuccess : turn = .done .renewed → successStatus body.statusCode = true)
    (hanswer : (officialPage py sourceId c responses db).2 = .ok body →
      ∃ reply, lastReply responses.get (officialPage py sourceId c responses db).1 = some reply ∧
        body.statusCode = reply.statusCode ∧ body.content = reply.content ∧
        isRedirect reply.statusCode = false) :
    OnRealPage py.toPy responses (officialPage py sourceId c responses db).1 db turn db' := by
  obtain ⟨snapshot, hsnapshots, hpage, hhash, hextractor⟩ := h.snapshot
  have hreal : IsRendering py.toPy responses snapshot ∨
      IsAnswer py.toPy responses (officialPage py sourceId c responses db).1
        (fun status => status = body.statusCode ∧ isRedirect status = false) snapshot := by
    rcases hbrought with ⟨-, hdirect⟩ | ⟨rfl, ⟨text, url, hjina, rfl⟩, -⟩
    · obtain ⟨reply, hlast, hstatus, hcontent, hredirect⟩ := hanswer hdirect
      exact Or.inr ⟨reply, hlast, ⟨hstatus.symm, hredirect⟩, by rw [hhash, hcontent]⟩
    · exact Or.inl ⟨hextractor, text, hjina, hhash⟩
  refine
    { recorded := fun other hother => ?_
      counted := fun q hq => ⟨snapshot, hsnapshots, ?_⟩
      renewed := fun hturn => ⟨snapshot, hsnapshots, ?_⟩ }
  · -- there is one new snapshot
    have hsame : [snapshot] = [other] := List.append_cancel_left (hsnapshots.symm.trans hother)
    obtain rfl := List.singleton_inj.mp hsame
    exact hreal.imp id fun ⟨reply, hlast, hstatus, hcontent⟩ =>
      ⟨reply, hlast, hstatus.2, hcontent⟩
  · by_contra hne
    exact hq (h.others q fun heq => hne (hpage.trans heq.symm))
  · refine hreal.imp id ?_
    rintro ⟨reply, hlast, ⟨hstatus, hredirect⟩, hcontent⟩
    exact ⟨reply, hlast, success_of_notRedirect (hstatus ▸ hsuccess hturn) hredirect, hcontent⟩

variable (settings now) in
/-- A turn that fetches a page that redirects twice has recorded the body of the second. -/
lemma FetchesRedirect.recorded (h : FetchesRedirect py sourceId c responses db) :
    ∃ snapshot reply,
      (recheckOver py settings sourceId now c responses db).2.snapshots =
        db.snapshots ++ [snapshot] ∧
      snapshot.extractorVersion = "raw-v1" ∧ isRedirect reply.statusCode = true ∧
      lastReply responses.get (officialPage py sourceId c responses db).1 = some reply := by
  obtain ⟨cycle, p, page, linked, parts, hrow, hpub, hget, hsplit, hactive, htwice⟩ := h
  obtain ⟨fetched, reply, hresult, hlast, hagain, hstatus⟩ := fetchSource_of_redirectsTwice htwice
  rw [← officialPage_eq hrow hget hsplit] at hresult hlast
  have hstored := (getOrCreateSourcePage_ok hget).stored
  have hlow : ¬ 400 ≤ fetched.statusCode := by
    simp only [isRedirect, decide_eq_true_eq] at hstatus
    omega
  have hfallback : ∀ tx, fetchWithJinaFallback settings page.normalizedUrl
      (officialFetch py sourceId c responses db) tx = (.ok (fetched, "raw-v1"), tx) := by
    intro tx
    simp only [fetchWithJinaFallback, officialFetch, hresult, hlow, if_false]
  rcases hfetch : fetchOfficialPage py.toPy settings sourceId c cycle
      (officialFetch py sourceId c responses db) (Tx.start db) with ⟨_ | ⟨q, previous⟩, tx⟩
  · simp only [fetchOfficialPage, Tx.start, hget, hsplit, fetchAndPersistPage, hstored, hactive,
      if_true, hfallback] at hfetch
    cases hfetch
  · obtain ⟨body, extractor, hbrought, hrecorded, -⟩ := recheckCycle_of_ok now hrow hpub hfetch
    obtain ⟨snapshot, hsnapshots, -, -, hextractor⟩ := hrecorded.snapshot
    rcases hbrought with ⟨rfl, -⟩ | ⟨-, -, hfailed⟩
    · exact ⟨snapshot, reply, hsnapshots, hextractor, hagain, hlast⟩
    · exact absurd (hfailed fetched hresult) hlow

/-- **Evidence is renewed only on a real page**: for every sequence of responses, a turn records,
counts and renews on the final answer of the fetch or on a rendering of the fallback reader,
unless the page it fetches redirects twice. -/
theorem onRealPage_iff (py : FetchPy) (settings : Settings) (sourceId : SourceId) (now : Instant)
    (c : CycleId) (responses : Responses) (db : Db) :
    OnRealPage py.toPy responses (officialPage py sourceId c responses db).1 db
        (recheckOver py settings sourceId now c responses db).1
        (recheckOver py settings sourceId now c responses db).2 ↔
      ¬ FetchesRedirect py sourceId c responses db := by
  constructor
  · intro h hredirect
    obtain ⟨snapshot, reply, hsnapshots, hraw, hagain, hlast⟩ :=
      hredirect.recorded settings now
    rcases h.recorded snapshot hsnapshots with ⟨hrendered, -⟩ | ⟨other, hother, hnot, -⟩
    · rw [hraw] at hrendered
      exact absurd hrendered (by decide)
    · rw [hlast, Option.some.injEq] at hother
      rw [← hother, hagain] at hnot
      cases hnot
  · intro hnone
    cases hrow : db.cycles.row c with
    | none =>
      have hturn : recheckOver py settings sourceId now c responses db = (.skipped, db) := by
        rw [recheckOver, recheckCycle, hrow]
      rw [hturn]
      exact (Unrecorded.refl db).onRealPage (by simp)
    | some cycle =>
      by_cases hpub : db.isPublished cycle = true
      · rcases hfetch : fetchOfficialPage py.toPy settings sourceId c cycle
            (officialFetch py sourceId c responses db) (Tx.start db) with ⟨_ | ⟨p, previous⟩, tx⟩
        · obtain ⟨hne, hunrecorded⟩ := recheckCycle_of_error now hrow hpub hfetch
          exact hunrecorded.onRealPage hne
        · obtain ⟨body, extractor, hbrought, hrecorded, hsuccess⟩ :=
            recheckCycle_of_ok now hrow hpub hfetch
          refine hrecorded.onRealPage hbrought hsuccess fun hdirect => ?_
          obtain ⟨reply, hlast, hstatus, hcontent, hredirect⟩ :=
            fetchesRedirect_of_ok hrow hpub hfetch hdirect
          refine ⟨reply, hlast, hstatus, hcontent, ?_⟩
          rw [← Bool.not_eq_true]
          exact fun h => hnone (hredirect h)
      · have hturn : recheckOver py settings sourceId now c responses db = (.skipped, db) := by
          rw [recheckOver, recheckCycle, hrow]
          simp only [hpub]
          rfl
        rw [hturn]
        exact (Unrecorded.refl db).onRealPage (by simp)

end

/-- The sample runtime, where every host has one public address. -/
def redirectPy : FetchPy where
  toPy := Sample.py
  getaddrinfo := fun _ => .ok (some [.v4 0x08080808])

/-- A page that answers every request with a redirect to itself. -/
def redirecting : Responses where
  get := fun _ _ => .ok ⟨302, some Sample.awardUrl, [49], "text/html"⟩
  jina := .error ⟨.httpError, "not configured"⟩
  reservedAt := Sample.start
  completedAt := Sample.start

/-- The database after one turn for the sample cycle. -/
def redirectedOnce : Db :=
  (recheckOver redirectPy {} 1 (Sample.start + 24 * hour) 1 redirecting (Sample.db Sample.cycle)).2

/-- The page redirects for ever, and the second turn renews the cycle on it. -/
theorem redirect_renews_evidence :
    (recheckOver redirectPy {} 1 (Sample.start + 48 * hour) 1 redirecting redirectedOnce).1 =
        .done .renewed ∧
      ¬ ∀ (py : FetchPy) (settings : Settings) (sourceId : SourceId) (now : Instant) (c : CycleId)
          (responses : Responses) (db : Db),
        OnRealPage py.toPy responses (officialPage py sourceId c responses db).1 db
          (recheckOver py settings sourceId now c responses db).1
          (recheckOver py settings sourceId now c responses db).2 := by
  refine ⟨rfl, fun hall => ?_⟩
  obtain ⟨snapshot, hsnapshots, hreal⟩ := (hall redirectPy {} 1 (Sample.start + 48 * hour) 1
    redirecting redirectedOnce).renewed rfl
  rcases hreal with ⟨-, text, hjina, -⟩ | ⟨reply, hlast, hstatus, -⟩
  · cases hjina
  · cases hlast
    exact absurd hstatus.2 (by decide)

end ScholarshipFinder
