import ScholarshipFinder.Api.UpdateCycle
import ScholarshipFinder.Infra.Outbox
import ScholarshipFinder.Infra.Sessions

/-!
# The search routes (`api/routes.py`)

`search` answers one page of a logical search, `getSearch` replays its first page to the session
that the row names, and `createJoinIntent` hands the filters of a search to Core.  A request that
raises is rolled back.
-/

namespace ScholarshipFinder

open Lib

structure JoinRequest where
  /-- Unique. -/
  idempotencyKey : String
  coreJoinIntentId : Option String := none
  outcome : String := "created"
deriving DecidableEq, Repr

/-- The tables that these routes read and write. -/
structure SearchStore where
  db : Db
  columns : CycleId → PublicColumns
  /-- What `load_vocabulary` reads. -/
  countries : CountryVocabulary
  sessions : Sessions
  searches : Searches
  outbox : Outbox
  joinRequests : Table ℕ JoinRequest

structure SearchSettings where
  cursorSecret : String
  coreJoinIntentUrl : Option String := none
  coreServiceToken : Option String := none
  coreAllowedReturnUrlPrefix : Option String := none

/-- The body of a search, as it is validated. -/
structure SearchRequest where
  originCountry : String
  programLevels : List String
  field : Option String
  targetCountries : List String
  limit : ℕ
  cursor : Option String
  one_le_limit : 1 ≤ limit
  limit_le : limit ≤ 50

/-- What a request comes with, and the identifiers that are generated for it. -/
structure SearchCall where
  request : SearchRequest
  cookie : Option String
  /-- The answer of the rate limiter. -/
  allowed : Bool
  evaluatedAt : Instant
  /-- When the session is looked up. -/
  sessionAt : Instant
  sessionId : SessionId
  token : String
  searchId : SearchId
  responseId : ResponseId
  eventId : EventId
  durationMs : ℕ

structure SearchResponse where
  data : List SearchResult
  nextCursor : Option String
  searchId : SearchId
  responseId : ResponseId
  evaluatedAt : Instant
  matchPolicyVersion : String
  taxonomyVersion : String
  confirmedCounts : List (StatusDetail × ℕ)
  possibleMatchCount : ℕ
  warnings : List String

/-- An exception that a route does not handle. -/
def unhandled {α : Type} (result : Except PyErr α) : Except RouteErr α :=
  result.mapError .unhandled

variable (py : Py) (cp : CursorPy) (settings : SearchSettings)

/-! ## Search -/

/-- Where a request sits: at the start of a new search, or where its cursor points. -/
def searchPlace (cursor : Option String) (digest : String) (limit : ℕ) (newId : SearchId) :
    Except RouteErr CursorState :=
  match cursor with
  | none => .ok ⟨0, newId⟩
  | some cursor =>
    if cursor = "" then .ok ⟨0, newId⟩
    else mapErr none 400 (decodeCursor cp py cursor digest limit settings.cursorSecret)

def searchCompleted : String := "scholarship_search_completed"

/-- The key of the event of a search. -/
def searchCompletedKey (searchId : SearchId) : String := "search_completed:" ++ uuidText searchId

/-- The payload of the event of a search. -/
def searchCompletedPayload (searchId : SearchId) (responseId : ResponseId)
    (filters : SearchFilters) (matched : List SearchResult) : List (String × Json) :=
  [("search_id", .str (uuidText searchId)), ("response_id", .str (uuidText responseId)),
    ("filters", filters.toJson), ("total_match_count", .int matched.length),
    ("confirmed_counts",
      .obj ((confirmedCounts matched).map fun count => (count.1.value, .int count.2))),
    ("possible_match_count", .int (possibleMatchCount matched)),
    ("match_policy_version", .str searchPolicyVersion),
    ("taxonomy_version", .str searchTaxonomyVersion)]

/-- The filters and the destinations that are not covered are normalised from the body. -/
def SearchRequest.normalize (request : SearchRequest) (countries : CountryVocabulary) :
    Except PyErr NormalizedFilters :=
  normalizeSearchFilters py request.originCountry request.targetCountries request.programLevels
    request.field countries

/-- What is answered and stored, once the matches and the place of the page are known. -/
def servePage (call : SearchCall) (normalized : NormalizedFilters) (sessionId : SessionId)
    (sessions : Sessions) (place : CursorState) (matched : List SearchResult)
    (store : SearchStore) : Except PyErr (SearchResponse × SearchStore) := do
  let limit := call.request.limit
  let digest := filterDigest py cp normalized.filters
  let warnings := normalized.warnings ++
    if indexTruncated store.db then ["index_scan_truncated"] else []
  let data := (matched.drop place.offset).take limit
  let hasNextPage := decide (place.offset + limit < matched.length)
  let pageNumber := place.offset / limit + 1
  let snapshot := buildResultSnapshot (data.map (·.plain py)) call.evaluatedAt pageNumber limit
    matched.length hasNextPage warnings (confirmedCounts matched) (possibleMatchCount matched)
  let stored ← recordSearchResponse (some sessionId) place.searchId normalized.filters digest
    snapshot call.evaluatedAt pageNumber limit data.length matched.length call.durationMs
    call.responseId store.searches
  let outbox :=
    if pageNumber = 1 then
      enqueueAnalyticsEvent call.eventId searchCompleted (searchCompletedKey place.searchId)
        (searchCompletedPayload place.searchId stored.1 normalized.filters matched) store.outbox
    else store.outbox
  return (
    { data := data
      nextCursor := if hasNextPage then
        some (encodeCursor cp (place.offset + limit) digest place.searchId limit
          settings.cursorSecret)
        else none
      searchId := place.searchId
      responseId := stored.1
      evaluatedAt := call.evaluatedAt
      matchPolicyVersion := searchPolicyVersion
      taxonomyVersion := searchTaxonomyVersion
      confirmedCounts := confirmedCounts matched
      possibleMatchCount := possibleMatchCount matched
      warnings := warnings },
    { store with sessions := sessions, searches := stored.2, outbox := outbox })

/-- `search` -/
def search (call : SearchCall) (store : SearchStore) :
    Except RouteErr (SearchResponse × SearchStore) := do
  if ¬ call.allowed then .error (.http 429 "Search rate limit exceeded")
  else
    let normalized ← mapErr none 422 (call.request.normalize py store.countries)
    let session ← unhandled
      (getOrCreateSession call.cookie call.sessionAt call.sessionId call.token store.sessions)
    let place ← searchPlace py cp settings call.request.cursor
      (filterDigest py cp normalized.filters) call.request.limit call.searchId
    let matched ← unhandled
      (sortedMatches py normalized.profile store.db store.columns call.evaluatedAt)
    unhandled
      (servePage py cp settings call normalized session.1 session.2 place matched store)

/-! ## Replay -/

structure ReplayCall where
  searchId : SearchId
  cookie : Option String
  allowed : Bool
  /-- When the session is looked up, and when the search is. -/
  sessionAt : Instant
  now : Instant

structure SearchReplayResponse where
  /-- The stored items, as they are validated. -/
  data : List (List (String × Json))
  nextCursor : Option String
  searchId : SearchId
  responseId : ResponseId
  evaluatedAt : Instant
  matchPolicyVersion : String
  taxonomyVersion : String
  confirmedCounts : List (StatusDetail × ℕ)
  possibleMatchCount : ℕ
  warnings : List String
  filters : SearchFilters

/-- `item["scholarship_id"]`, and the id in it. -/
def itemScholarship (item : List (String × Json)) : Except PyErr ScholarshipId :=
  match item.lookup "scholarship_id" with
  | none => lookupError "scholarship_id"
  | some (.str text) => cp.uuid text
  | some _ => .error ⟨.attributeError, "object has no attribute 'replace'"⟩

/-- The stored results of the scholarships that are still published. -/
def replayedItems (snapshot : ResultSnapshot) (db : Db) :
    Except PyErr (List (List (String × Json))) := do
  let scholarshipIds ← snapshot.data.mapM (itemScholarship cp)
  let publishedIds := (scholarshipIds.filter fun id =>
    (db.scholarships.row id).any fun s => s.lifecycleState = .published).map uuidText
  return snapshot.data.filter fun item =>
    publishedIds.any fun text => (item.lookup "scholarship_id").any (·.eqStr text)

/-- `_replay_search` -/
def replaySearch (responseId : ResponseId) (stored : Search) (db : Db) :
    Except PyErr SearchReplayResponse := do
  let data ← replayedItems cp stored.resultSnapshot db
  return {
    data := data
    nextCursor := if stored.resultSnapshot.hasNextPage then
      some (encodeCursor cp stored.requestedLimit stored.filterDigest stored.searchId
        stored.requestedLimit settings.cursorSecret)
      else none
    searchId := stored.searchId
    responseId := responseId
    evaluatedAt := stored.evaluatedAt
    matchPolicyVersion := stored.matchPolicyVersion
    taxonomyVersion := stored.taxonomyVersion
    confirmedCounts := stored.resultSnapshot.confirmedCounts
    possibleMatchCount := stored.resultSnapshot.possibleMatchCount
    warnings := stored.resultSnapshot.warnings
    filters := stored.filters }

/-- The row that `get_search` replays. -/
def Search.replayable (searchId : SearchId) (sessionId : SessionId) (now : Instant)
    (row : Search) : Bool :=
  row.searchId = searchId ∧ row.sessionId = some sessionId ∧ row.pageNumber = 1 ∧
    now < row.expiresAt

/-- The answer for a search that is unknown, expired, or someone else's. -/
def searchNotFound : RouteErr := .http 404 "Search not found"

/-- The first page of a retained search of the caller's own session. -/
def findReplay (call : ReplayCall) (store : SearchStore) : Except RouteErr (ResponseId × Search) :=
  match getExistingSession call.cookie call.sessionAt store.sessions with
  | none => .error searchNotFound
  | some sessionId =>
    match store.searches.findKey (Search.replayable call.searchId sessionId call.now) with
    | none => .error searchNotFound
    | some responseId =>
      match store.searches.row responseId with
      | none => .error searchNotFound
      | some stored => .ok (responseId, stored)

/-- `get_search`; `accepts` is the validation of a stored result. -/
def getSearch (accepts : List (String × Json) → Bool) (call : ReplayCall) (store : SearchStore) :
    Except RouteErr SearchReplayResponse := do
  if ¬ call.allowed then .error (.http 429 "Search replay rate limit exceeded")
  else
    let stored ← findReplay call store
    match replaySearch cp settings stored.1 stored.2 store.db with
    | .error e =>
      if e.cls ∈ [.lookupError, .typeError] then .error searchNotFound else .error (.unhandled e)
    | .ok response =>
      if response.data.all accepts then .ok response else .error searchNotFound

/-! ## Handing a search to Core -/

structure JoinCall where
  searchId : SearchId
  consent : Bool
  returnUrl : String
  idempotencyKey : String
  cookie : Option String
  allowed : Bool
  sessionAt : Instant
  sessionId : SessionId
  token : String
  joinRequestId : ℕ
  /-- The answer of `is_allowed_return_url`. -/
  returnUrlAllowed : Bool
  /-- `CoreJoinClient.create_join_intent`, with the payload and the idempotency key. -/
  core : Json → String → Except PyErr (List (String × Json))

/-- The setting is there and not empty. -/
def configured : Option String → Bool
  | none => false
  | some s => s ≠ ""

/-- Up to the row of the search: the session, and what it may hand over. -/
def joinSearch (call : JoinCall) (store : SearchStore) :
    Except RouteErr (SessionId × Sessions × Search) := do
  if ¬ call.consent then .error (.http 422 "Consent is required")
  else
    let session ← unhandled
      (getOrCreateSession call.cookie call.sessionAt call.sessionId call.token store.sessions)
    if ¬ call.allowed then .error (.http 429 "Join request rate limit exceeded")
    else if ¬ (configured settings.coreJoinIntentUrl ∧ configured settings.coreServiceToken ∧
        configured settings.coreAllowedReturnUrlPrefix) then
      .error (.http 503 "Core join-intent integration is not configured")
    else if ¬ call.returnUrlAllowed then .error (.http 422 "Return URL is not allowed")
    else
      match (store.searches.findKey fun row =>
          row.searchId = call.searchId ∧ row.sessionId = some session.1).bind
          store.searches.row with
      | none => .error searchNotFound
      | some row => return (session.1, session.2, row)

/-- The payload for Core. -/
def corePayload (call : JoinCall) (row : Search) : Json :=
  .obj [("source_product", .str "scholarship_finder"),
    ("source_session_id", .ofText (row.sessionId.map uuidText)), ("context_version", .str "v1"),
    ("profile_context", row.filters.toJson),
    ("product_context", .obj [("search_id", .str (uuidText row.searchId))]),
    ("consent", .obj [("notice", .str "finder_join_intent_v1"), ("action", .str "accepted")]),
    ("return_url", .str call.returnUrl)]

structure JoinIntentResponse where
  status : String
  continueUrl : Option Json
  handoffToken : Option Json

/-- `create_join_intent`: a consented, idempotent handoff from Finder to the Core product. -/
def createJoinIntent (call : JoinCall) (store : SearchStore) :
    Except RouteErr (JoinIntentResponse × SearchStore) := do
  let found ← joinSearch settings call store
  let existing := store.joinRequests.findKey fun row => row.idempotencyKey = call.idempotencyKey
  let joinRequests :=
    if existing.isSome then store.joinRequests
    else store.joinRequests.insert call.joinRequestId { idempotencyKey := call.idempotencyKey }
  match call.core (corePayload call found.2.2) call.idempotencyKey with
  | .error e =>
    if e.cls ∈ [.httpError, .valueError] then
      .error (.http 503 "Core join-intent service unavailable")
    else .error (.unhandled e)
  | .ok result =>
    let outcome := py.strOf ((result.lookup "status").getD (.str "created"))
    return (
      ⟨outcome, result.lookup "continue_url", result.lookup "handoff_token"⟩,
      { store with
        sessions := found.2.1
        joinRequests := joinRequests.modify (existing.getD call.joinRequestId) fun row =>
          { row with
            coreJoinIntentId := ((result.lookup "id").filter (·.truthy)).map py.strOf
            outcome := outcome } })

/-! ## What a request does -/

variable {py cp settings}

lemma unhandled_ok_iff {α : Type} {result : Except PyErr α} {a : α} :
    unhandled result = .ok a ↔ result = .ok a := by
  cases result <;> simp [unhandled, Except.mapError]

lemma mapErr_ok_iff {α : Type} {lookupStatus : Option ℕ} {valueStatus : ℕ}
    {result : Except PyErr α} {a : α} :
    mapErr lookupStatus valueStatus result = .ok a ↔ result = .ok a := by
  unfold mapErr
  split
  · rw [Except.ok.injEq, Except.ok.injEq]
  · split <;> simp

/-- A search is answered with a page once its filters, its session, its place and the matches are
found. -/
theorem search_ok_iff {call : SearchCall} {store : SearchStore}
    {result : SearchResponse × SearchStore} :
    search py cp settings call store = .ok result ↔
      call.allowed = true ∧ ∃ normalized session place matched,
        call.request.normalize py store.countries = .ok normalized ∧
        getOrCreateSession call.cookie call.sessionAt call.sessionId call.token store.sessions =
          .ok session ∧
        searchPlace py cp settings call.request.cursor (filterDigest py cp normalized.filters)
          call.request.limit call.searchId = .ok place ∧
        sortedMatches py normalized.profile store.db store.columns call.evaluatedAt =
          .ok matched ∧
        servePage py cp settings call normalized session.1 session.2 place matched store =
          .ok result := by
  constructor
  · intro h
    unfold search at h
    split at h
    · cases h
    · next hallowed =>
      obtain ⟨normalized, hnormalized, h⟩ := exceptBind_ok h
      obtain ⟨session, hsession, h⟩ := exceptBind_ok h
      obtain ⟨place, hplace, h⟩ := exceptBind_ok h
      obtain ⟨matched, hmatched, h⟩ := exceptBind_ok h
      rw [mapErr_ok_iff] at hnormalized
      rw [unhandled_ok_iff] at hsession hmatched h
      exact ⟨not_not.mp hallowed, normalized, session, place, matched, hnormalized, hsession,
        hplace, hmatched, h⟩
  · rintro ⟨hallowed, normalized, session, place, matched, hnormalized, hsession, hplace, hmatched,
      hserve⟩
    rw [search, if_neg (not_not.mpr hallowed), hnormalized, hsession]
    simp only [mapErr, unhandled, Except.mapError, bind, Except.bind, hplace, hmatched, hserve]

/-- A page is stored in its row, or in a new row if it has none. -/
def PageWritten (newId rowId : ResponseId) (row : Search) (searches searches' : Searches) : Prop :=
  (searches.findKey (Search.isPage row.searchId row.pageNumber) = some rowId ∧
      searches' = searches.modify rowId fun _ => row) ∨
    (searches.findKey (Search.isPage row.searchId row.pageNumber) = none ∧ rowId = newId ∧
      searches.row newId = none ∧ searches' = searches.insert newId row)

/-- What a page of the matches is answered with, and what is stored of it. -/
structure PageServed (py : Py) (cp : CursorPy) (settings : SearchSettings) (call : SearchCall)
    (normalized : NormalizedFilters) (sessionId : SessionId) (place : CursorState)
    (matched : List SearchResult) (store : SearchStore) (response : SearchResponse)
    (store' : SearchStore) (row : Search) : Prop where
  data : response.data = (matched.drop place.offset).take call.request.limit
  nextCursor : response.nextCursor =
    if place.offset + call.request.limit < matched.length then
      some (encodeCursor cp (place.offset + call.request.limit)
        (filterDigest py cp normalized.filters) place.searchId call.request.limit
        settings.cursorSecret)
    else none
  responseSearch : response.searchId = place.searchId
  db : store'.db = store.db
  columns : store'.columns = store.columns
  countries : store'.countries = store.countries
  searchId : row.searchId = place.searchId
  session : row.sessionId = some sessionId
  digest : row.filterDigest = filterDigest py cp normalized.filters
  pageNumber : row.pageNumber = place.offset / call.request.limit + 1
  requestedLimit : row.requestedLimit = call.request.limit
  hasNextPage : row.resultSnapshot.hasNextPage =
    decide (place.offset + call.request.limit < matched.length)
  snapshotData : row.resultSnapshot.data = response.data.map (·.plain py)
  expiresAt : row.expiresAt = call.evaluatedAt + searchRetention
  written : PageWritten call.responseId response.responseId row store.searches store'.searches
  /-- Only the first page enqueues an event. -/
  outbox : store'.outbox = if row.pageNumber = 1 then
    enqueueAnalyticsEvent call.eventId searchCompleted (searchCompletedKey place.searchId)
      (searchCompletedPayload place.searchId response.responseId normalized.filters matched)
      store.outbox
    else store.outbox

lemma servePage_ok {call : SearchCall} {normalized : NormalizedFilters} {sessionId : SessionId}
    {sessions : Sessions} {place : CursorState} {matched : List SearchResult}
    {store store' : SearchStore} {response : SearchResponse}
    (h : servePage py cp settings call normalized sessionId sessions place matched store =
      .ok (response, store')) :
    store'.sessions = sessions ∧ store'.joinRequests = store.joinRequests ∧
      ∃ row, PageServed py cp settings call normalized sessionId place matched store response
        store' row := by
  unfold servePage at h
  dsimp only at h
  obtain ⟨stored, hstored, h⟩ := exceptBind_ok h
  obtain ⟨rfl, rfl⟩ := Prod.mk.inj (Except.ok.inj h)
  obtain ⟨row, hsearch, hsession, hdigest, hpage, hlimit, hsnapshot, hexpires, -, hrow⟩ :=
    recordSearchResponse_ok hstored
  refine ⟨rfl, rfl, row, ?_⟩
  constructor
  case data | responseSearch | db | columns | countries => rfl
  case searchId => exact hsearch
  case session => exact hsession
  case digest => exact hdigest
  case pageNumber => exact hpage
  case requestedLimit => exact hlimit
  case expiresAt => exact hexpires
  case nextCursor => simp only [decide_eq_true_eq]
  case hasNextPage =>
    rw [hsnapshot]
    rfl
  case snapshotData =>
    rw [hsnapshot]
    simp only [buildResultSnapshot, List.map_map]
    exact List.map_congr_left fun item _ => filter_plain item
  case written =>
    rw [PageWritten, hsearch, hpage]
    exact hrow
  case outbox => rw [hpage]

/-- The page is served unless the id of a new row is taken. -/
lemma servePage_exists (call : SearchCall) (normalized : NormalizedFilters)
    (sessionId : SessionId) (sessions : Sessions) (place : CursorState)
    (matched : List SearchResult) {store : SearchStore}
    (hfree : store.searches.row call.responseId = none) :
    ∃ response store', servePage py cp settings call normalized sessionId sessions place matched
      store = .ok (response, store') := by
  unfold servePage recordSearchResponse
  dsimp only
  split
  · exact ⟨_, _, rfl⟩
  · rw [hfree, if_neg (by simp)]
    exact ⟨_, _, rfl⟩

end ScholarshipFinder
