import ScholarshipFinder.Api.SearchResults

/-!
# Anonymous sessions and the stored searches (`infra/sessions.py`)

A visitor is known by the unguessable token of a cookie.  A logical search is stored as one row
for each of its pages, and a page that is requested again rewrites its row, the session included.
-/

namespace ScholarshipFinder

open Lib

abbrev SessionId := ℕ

structure AnonymousSession where
  /-- The token of the cookie. -/
  pseudonymousId : String
  expiresAt : Instant
deriving DecidableEq, Repr

abbrev Sessions := Table SessionId AnonymousSession

def sessionTtl : Timedelta := 30 * day

/-- `get_existing_session`: the caller's session, which is not created here. -/
def getExistingSession (cookie : Option String) (now : Instant) (sessions : Sessions) :
    Option SessionId :=
  match cookie with
  | none => none
  | some token =>
    if token = "" then none
    else sessions.findKey fun session => session.pseudonymousId = token ∧ now < session.expiresAt

/-- `get_or_create_session`, with the id and the token of a new session. -/
def getOrCreateSession (cookie : Option String) (now : Instant) (newId : SessionId)
    (newToken : String) (sessions : Sessions) : Except PyErr (SessionId × Sessions) :=
  match getExistingSession cookie now sessions with
  | some sessionId => .ok (sessionId, sessions)
  | none =>
    if (sessions.row newId).isSome ∨
        (sessions.findKey fun session => session.pseudonymousId = newToken).isSome then
      .error ⟨.integrityError, "duplicate key value violates unique constraint"⟩
    else .ok (newId, sessions.insert newId ⟨newToken, now + sessionTtl⟩)

abbrev ResponseId := ℕ

/-- One evaluated response page. -/
structure Search where
  searchId : SearchId
  sessionId : Option SessionId
  filterDigest : String
  filters : SearchFilters
  resultSnapshot : ResultSnapshot
  snapshotSchemaVersion : String
  matchPolicyVersion : String
  taxonomyVersion : String
  pageNumber : ℕ
  requestedLimit : ℕ
  returnedCount : ℕ
  totalMatchCount : ℕ
  durationMs : ℕ
  evaluatedAt : Instant
  expiresAt : Instant

abbrev Searches := Table ResponseId Search

def searchRetention : Timedelta := 30 * day

/-- The row of a page (`uq_searches_search_id_page`). -/
def Search.isPage (searchId : SearchId) (pageNumber : ℕ) (row : Search) : Bool :=
  row.searchId = searchId ∧ row.pageNumber = pageNumber

/-- `record_search_response`: persist one evaluated response page; `newId` is the id of a new
row. -/
def recordSearchResponse (sessionId : Option SessionId) (searchId : SearchId)
    (filters : SearchFilters) (filterDigest : String) (snapshot : ResultSnapshot)
    (evaluatedAt : Instant) (pageNumber requestedLimit returnedCount totalMatchCount : ℕ)
    (durationMs : ℕ) (newId : ResponseId) (searches : Searches) :
    Except PyErr (ResponseId × Searches) :=
  let row : Search := {
    searchId := searchId
    sessionId := sessionId
    filterDigest := filterDigest
    filters := filters
    resultSnapshot := snapshot
    snapshotSchemaVersion := snapshot.schemaVersion
    matchPolicyVersion := snapshot.matchPolicyVersion
    taxonomyVersion := snapshot.taxonomyVersion
    pageNumber := pageNumber
    requestedLimit := requestedLimit
    returnedCount := returnedCount
    totalMatchCount := totalMatchCount
    durationMs := durationMs
    evaluatedAt := evaluatedAt
    expiresAt := evaluatedAt + searchRetention }
  match searches.findKey (Search.isPage searchId pageNumber) with
  | some existing => .ok (existing, searches.modify existing fun _ => row)
  | none =>
    if (searches.row newId).isSome then
      .error ⟨.integrityError, "duplicate key value violates unique constraint"⟩
    else .ok (newId, searches.insert newId row)

/-! ## What they answer -/

/-- A session that is known is not created. -/
lemma getOrCreateSession_existing {cookie : Option String} {now : Instant} {sessions : Sessions}
    {sessionId : SessionId} (h : getExistingSession cookie now sessions = some sessionId)
    (newId : SessionId) (newToken : String) :
    getOrCreateSession cookie now newId newToken sessions = .ok (sessionId, sessions) := by
  rw [getOrCreateSession, h]

/-- The session of a request is the one whose token it presents, or a new one. -/
lemma getOrCreateSession_ok {cookie : Option String} {now : Instant} {newId : SessionId}
    {newToken : String} {sessions : Sessions} {result : SessionId × Sessions}
    (h : getOrCreateSession cookie now newId newToken sessions = .ok result) :
    (getExistingSession cookie now sessions = some result.1 ∧ result.2 = sessions) ∨
    (getExistingSession cookie now sessions = none ∧ result.1 = newId ∧
      sessions.row newId = none ∧
      result.2 = sessions.insert newId ⟨newToken, now + sessionTtl⟩) := by
  unfold getOrCreateSession at h
  split at h
  · next sessionId hfound =>
    obtain rfl := Except.ok.inj h
    exact .inl ⟨hfound, rfl⟩
  · next hnone =>
    split at h
    · cases h
    · next hfree =>
      obtain rfl := Except.ok.inj h
      have hrow : sessions.row newId = none := by
        rw [← Option.not_isSome_iff_eq_none]
        exact fun hsome => hfree (.inl hsome)
      exact .inr ⟨hnone, rfl, hrow, rfl⟩

/-- A response is stored in the row of its page, or in a new row if the page has none. -/
lemma recordSearchResponse_ok {sessionId : Option SessionId} {searchId : SearchId}
    {filters : SearchFilters} {digest : String} {snapshot : ResultSnapshot} {evaluatedAt : Instant}
    {pageNumber requestedLimit returnedCount totalMatchCount durationMs : ℕ} {newId : ResponseId}
    {searches : Searches} {result : ResponseId × Searches}
    (h : recordSearchResponse sessionId searchId filters digest snapshot evaluatedAt pageNumber
      requestedLimit returnedCount totalMatchCount durationMs newId searches = .ok result) :
    ∃ row : Search, row.searchId = searchId ∧ row.sessionId = sessionId ∧
      row.filterDigest = digest ∧ row.pageNumber = pageNumber ∧
      row.requestedLimit = requestedLimit ∧ row.resultSnapshot = snapshot ∧
      row.expiresAt = evaluatedAt + searchRetention ∧ row.filters = filters ∧
      ((searches.findKey (Search.isPage searchId pageNumber) = some result.1 ∧
          result.2 = searches.modify result.1 fun _ => row) ∨
        (searches.findKey (Search.isPage searchId pageNumber) = none ∧ result.1 = newId ∧
          searches.row newId = none ∧ result.2 = searches.insert newId row)) := by
  unfold recordSearchResponse at h
  dsimp only at h
  split at h
  · next existing hfound =>
    obtain rfl := Except.ok.inj h
    exact ⟨_, rfl, rfl, rfl, rfl, rfl, rfl, rfl, rfl, .inl ⟨hfound, rfl⟩⟩
  · next hnone =>
    split at h
    · cases h
    · next hfree =>
      obtain rfl := Except.ok.inj h
      rw [Option.not_isSome_iff_eq_none] at hfree
      exact ⟨_, rfl, rfl, rfl, rfl, rfl, rfl, rfl, rfl, .inr ⟨hnone, rfl, hfree, rfl⟩⟩

end ScholarshipFinder
