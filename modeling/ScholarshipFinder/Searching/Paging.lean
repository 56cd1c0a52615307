import ScholarshipFinder.Api.Search
import ScholarshipFinder.Lib.Pages
import ScholarshipFinder.Sample.Search

/-!
# Walking through the pages of a search

A visitor sends a search, and then the same body with the cursor of each response until there is
none.  The response of a request may be lost, in which case the request is sent again.  As long
as the matches stay the same, the pages show each of them once, they are stored under the page
numbers from 1 on, and one event is enqueued.
-/

namespace ScholarshipFinder

open Lib

/-! ## The walk -/

/-- The request with this cursor. -/
def SearchCall.withCursor (call : SearchCall) (cursor : Option String) : SearchCall :=
  { call with request := { call.request with cursor := cursor } }

/-- The requests for one page: the one whose response is read, after those whose response was
lost. -/
structure PageCalls where
  lost : List SearchCall
  call : SearchCall

def PageCalls.all (page : PageCalls) : List SearchCall := page.lost ++ [page.call]

section

variable (py : Py) (cp : CursorPy) (settings : SearchSettings)

/-- Requests whose responses are lost. -/
def losing (cursor : Option String) : List SearchCall → SearchStore → Except RouteErr SearchStore
  | [], store => .ok store
  | call :: calls, store => do
    let served ← search py cp settings (call.withCursor cursor) store
    losing cursor calls served.2

/-- Follow a cursor until there is none, or the requests run out. -/
def follow : Option String → List PageCalls → SearchStore →
    Except RouteErr (List SearchResponse × Option String × SearchStore)
  | none, _, store => .ok ([], none, store)
  | some cursor, [], store => .ok ([], some cursor, store)
  | some cursor, page :: pages, store => do
    let store ← losing py cp settings (some cursor) page.lost store
    let served ← search py cp settings (page.call.withCursor (some cursor)) store
    let rest ← follow served.1.nextCursor pages served.2
    return (served.1 :: rest.1, rest.2)

/-- The responses of a walk, the cursor that it ends with, and what it stores. -/
def walk (first : SearchCall) (pages : List PageCalls) (store : SearchStore) :
    Except RouteErr (List SearchResponse × Option String × SearchStore) := do
  let served ← search py cp settings (first.withCursor none) store
  let rest ← follow py cp settings served.1.nextCursor pages served.2
  return (served.1 :: rest.1, rest.2)

end

/-! ## What the walk assumes -/

/-- The requests of one visitor: they have the same body but for the cursor, they are let through,
and the matches stay the same. -/
structure Walker (py : Py) (body : SearchRequest) (normalized : NormalizedFilters)
    (matched : List SearchResult) (calls : List SearchCall) (store : SearchStore) : Prop where
  request : ∀ call ∈ calls, ∃ cursor, call.request = { body with cursor := cursor }
  allowed : ∀ call ∈ calls, call.allowed = true
  normalize : body.normalize py store.countries = .ok normalized
  matches_eq : ∀ call ∈ calls,
    sortedMatches py normalized.profile store.db store.columns call.evaluatedAt = .ok matched

/-- The identifiers that are generated for the requests are new. -/
structure NewCalls (calls : List SearchCall) (store : SearchStore) : Prop where
  responses : (calls.map (·.responseId)).Nodup
  responseNew : ∀ call ∈ calls, store.searches.row call.responseId = none
  sessions : (calls.map (·.sessionId)).Nodup
  sessionNew : ∀ call ∈ calls, store.sessions.row call.sessionId = none
  tokens : (calls.map (·.token)).Nodup
  tokenNew : ∀ call ∈ calls, ∀ id session, store.sessions.row id = some session →
    session.pseudonymousId ≠ call.token

/-- The id of a search, and that of its event, are new. -/
structure NewSearch (call : SearchCall) (store : SearchStore) : Prop where
  id_lt : call.searchId < 2 ^ 128
  rows : ∀ id row, store.searches.row id = some row → row.searchId ≠ call.searchId
  eventId : store.outbox.events.row call.eventId = none
  events : ∀ id event, store.outbox.events.row id = some event →
    event.dedupeKey ≠ searchCompletedKey call.searchId

/-! ## Stored pages -/

/-- The rows of a search are its pages from 1 to `n`, each once. -/
structure PagesStored (searches : Searches) (searchId : SearchId) (n : ℕ) : Prop where
  range : ∀ id row, searches.row id = some row → row.searchId = searchId →
    1 ≤ row.pageNumber ∧ row.pageNumber ≤ n
  exists_page : ∀ p, 1 ≤ p → p ≤ n → ∃ id row, searches.row id = some row ∧
    row.searchId = searchId ∧ row.pageNumber = p
  unique : ∀ id id' row row', searches.row id = some row → searches.row id' = some row' →
    row.searchId = searchId → row'.searchId = searchId → row.pageNumber = row'.pageNumber → id = id'

lemma isPage_iff {searchId : SearchId} {pageNumber : ℕ} {row : Search} :
    row.isPage searchId pageNumber = true ↔
      row.searchId = searchId ∧ row.pageNumber = pageNumber := by
  rw [Search.isPage, decide_eq_true_eq]

section

variable {searches searches' : Searches} {newId rowId : ResponseId} {row : Search}

/-- A written page is stored, and the rows of other pages are left as they are. -/
lemma PageWritten.row_eq (h : PageWritten newId rowId row searches searches')
    (id : ResponseId) :
    searches'.row id = if id = rowId then some row else searches.row id := by
  rcases h with ⟨hfound, rfl⟩ | ⟨-, rfl, hfree, rfl⟩
  · obtain ⟨old, hold, -⟩ := Table.findKey_eq_some hfound
    rw [Table.row_modify]
    split
    · next hid => rw [hid, hold, Option.map_some]
    · rfl
  · exact Table.row_insert searches id _ row

/-- The row that is written over is one of the same page. -/
lemma PageWritten.old (h : PageWritten newId rowId row searches searches') {old : Search}
    (hold : searches.row rowId = some old) :
    old.searchId = row.searchId ∧ old.pageNumber = row.pageNumber := by
  rcases h with ⟨hfound, -⟩ | ⟨-, rfl, hfree, -⟩
  · obtain ⟨old', hold', hpage⟩ := Table.findKey_eq_some hfound
    obtain rfl := Option.some.inj (hold.symm.trans hold')
    exact isPage_iff.mp hpage
  · rw [hfree] at hold
    cases hold

/-- The row of a page is the one that is written. -/
lemma PageWritten.unique (h : PageWritten newId rowId row searches searches')
    {n : ℕ} (hpages : PagesStored searches row.searchId n) {id : ResponseId} {old : Search}
    (hold : searches.row id = some old) (hsearch : old.searchId = row.searchId)
    (hpage : old.pageNumber = row.pageNumber) : id = rowId := by
  rcases h with ⟨hfound, -⟩ | ⟨hnone, -⟩
  · obtain ⟨old', hold', hpage'⟩ := Table.findKey_eq_some hfound
    obtain ⟨hsearch', hpage'⟩ := isPage_iff.mp hpage'
    exact hpages.unique id rowId old old' hold hold' hsearch hsearch' (hpage.trans hpage'.symm)
  · have hnot := Table.findKey_eq_none.mp hnone id old hold
    rw [isPage_iff.mpr ⟨hsearch, hpage⟩] at hnot
    cases hnot

/-- Writing the next page, or one that is there, leaves the pages numbered without a gap. -/
lemma PagesStored.write {n : ℕ} (hpages : PagesStored searches row.searchId n)
    (h : PageWritten newId rowId row searches searches') (hone : 1 ≤ row.pageNumber)
    (hle : row.pageNumber ≤ n + 1) :
    PagesStored searches' row.searchId (max n row.pageNumber) := by
  constructor
  case range =>
    intro id other hrow hsearch
    rw [h.row_eq] at hrow
    split at hrow
    · obtain rfl := Option.some.inj hrow
      exact ⟨hone, le_max_right _ _⟩
    · have hrange := hpages.range id other hrow hsearch
      exact ⟨hrange.1, hrange.2.trans (le_max_left _ _)⟩
  case exists_page =>
    intro p hp hpn
    by_cases hpage : p = row.pageNumber
    · exact ⟨rowId, row, by rw [h.row_eq, if_pos rfl], rfl, hpage.symm⟩
    · have hpn' : p ≤ n := by omega
      obtain ⟨id, other, hrow, hsearch, hother⟩ := hpages.exists_page p hp hpn'
      refine ⟨id, other, ?_, hsearch, hother⟩
      rw [h.row_eq, if_neg, hrow]
      rintro rfl
      exact hpage (hother.symm.trans (h.old hrow).2)
  case unique =>
    intro id id' other other' hrow hrow' hsearch hsearch' hsame
    rw [h.row_eq] at hrow hrow'
    split at hrow
    · next hid =>
      obtain rfl := Option.some.inj hrow
      split at hrow'
      · next hid' => exact hid.trans hid'.symm
      · exact hid.trans (h.unique hpages hrow' hsearch' hsame.symm).symm
    · split at hrow'
      · next hid' =>
        obtain rfl := Option.some.inj hrow'
        exact (h.unique hpages hrow hsearch hsame).trans hid'.symm
      · exact hpages.unique id id' other other' hrow hrow' hsearch hsearch' hsame

end

/-! ## One request -/

/-- The key of an event is not taken by a request that enqueues it once. -/
lemma row_enqueue_of_new {id : EventId} {eventType key : String} {payload : List (String × Json)}
    {outbox : Outbox} (hid : outbox.events.row id = none)
    (hkey : ∀ i event, outbox.events.row i = some event → event.dedupeKey ≠ key) (i : EventId) :
    (enqueueAnalyticsEvent id eventType key payload outbox).events.row i =
      if i = id then
        some ⟨eventType, destinationAnalytics, key, payload, .pending, 0, none⟩
      else outbox.events.row i := by
  have hnone : outbox.events.findKey (fun event => event.dedupeKey = key) = none := by
    rw [Table.findKey_eq_none]
    intro i event hrow
    exact decide_eq_false (hkey i event hrow)
  unfold enqueueAnalyticsEvent
  split
  · next hfound => rw [hnone] at hfound; cases hfound
  · rw [if_neg (by rw [hid]; simp)]
    exact Table.row_insert _ _ _ _

section

variable {py : Py} {cp : CursorPy} {settings : SearchSettings} {body : SearchRequest}
  {normalized : NormalizedFilters} {matched : List SearchResult} {call : SearchCall}
  {calls : List SearchCall} {store : SearchStore}

lemma Walker.tail (h : Walker py body normalized matched (call :: calls) store) :
    Walker py body normalized matched calls store where
  request := fun c hc => h.request c (List.mem_cons_of_mem _ hc)
  allowed := fun c hc => h.allowed c (List.mem_cons_of_mem _ hc)
  normalize := h.normalize
  matches_eq := fun c hc => h.matches_eq c (List.mem_cons_of_mem _ hc)

/-- The session of a request whose identifiers are new is found or created. -/
lemma NewCalls.session (h : NewCalls (call :: calls) store) :
    ∃ session, getOrCreateSession call.cookie call.sessionAt call.sessionId call.token
      store.sessions = .ok session := by
  have hnew := h.sessionNew call List.mem_cons_self
  have htoken : store.sessions.findKey
      (fun session => decide (session.pseudonymousId = call.token)) = none := by
    rw [Table.findKey_eq_none]
    intro id session hrow
    exact decide_eq_false (h.tokenNew call List.mem_cons_self id session hrow)
  unfold getOrCreateSession
  split
  · exact ⟨_, rfl⟩
  · rw [if_neg (by rw [hnew, htoken]; simp)]
    exact ⟨_, rfl⟩

/-- What the rest of the requests generate is still new after the first of them. -/
lemma NewCalls.tail {store' : SearchStore} {session : SessionId × Sessions}
    (h : NewCalls (call :: calls) store)
    (hsession : getOrCreateSession call.cookie call.sessionAt call.sessionId call.token
      store.sessions = .ok session) (hsessions : store'.sessions = session.2)
    {rowId : ResponseId} {row : Search}
    (hwritten : PageWritten call.responseId rowId row store.searches store'.searches) :
    NewCalls calls store' := by
  have hresponses := List.nodup_cons.mp h.responses
  have hids := List.nodup_cons.mp h.sessions
  have htokens := List.nodup_cons.mp h.tokens
  constructor
  case responses => exact hresponses.2
  case sessions => exact hids.2
  case tokens => exact htokens.2
  case responseNew =>
    intro c hc
    have hnew := h.responseNew c (List.mem_cons_of_mem _ hc)
    rw [hwritten.row_eq, if_neg, hnew]
    rintro rfl
    rcases hwritten with ⟨hfound, -⟩ | ⟨-, hid, -⟩
    · obtain ⟨old, hold, -⟩ := Table.findKey_eq_some hfound
      rw [hnew] at hold
      cases hold
    · exact hresponses.1 (List.mem_map.mpr ⟨c, hc, hid⟩)
  case sessionNew =>
    intro c hc
    have hnew := h.sessionNew c (List.mem_cons_of_mem _ hc)
    rw [hsessions]
    rcases getOrCreateSession_ok hsession with ⟨-, hsame⟩ | ⟨-, -, -, hinsert⟩
    · rw [hsame, hnew]
    · rw [hinsert, Table.row_insert_of_ne _ ?_, hnew]
      intro heq
      exact hids.1 (List.mem_map.mpr ⟨c, hc, heq⟩)
  case tokenNew =>
    intro c hc id s hrow
    have hnew := h.tokenNew c (List.mem_cons_of_mem _ hc)
    rw [hsessions] at hrow
    rcases getOrCreateSession_ok hsession with ⟨-, hsame⟩ | ⟨-, -, -, hinsert⟩
    · rw [hsame] at hrow
      exact hnew id s hrow
    · rw [hinsert, Table.row_insert] at hrow
      split at hrow
      · obtain rfl := Option.some.inj hrow
        intro heq
        exact htokens.1 (List.mem_map.mpr ⟨c, hc, heq.symm⟩)
      · exact hnew id s hrow

variable (settings) in
/-- A request of the walk is answered with the page at its place, and the others can follow. -/
theorem search_served (hwalker : Walker py body normalized matched (call :: calls) store)
    (hnew : NewCalls (call :: calls) store) {cursor : Option String} {place : CursorState}
    (hplace : searchPlace py cp settings cursor (filterDigest py cp normalized.filters) body.limit
      call.searchId = .ok place) :
    ∃ session response store' row,
      getOrCreateSession call.cookie call.sessionAt call.sessionId call.token store.sessions =
        .ok session ∧
      search py cp settings (call.withCursor cursor) store = .ok (response, store') ∧
      store'.sessions = session.2 ∧
      PageServed py cp settings (call.withCursor cursor) normalized session.1 place matched store
        response store' row ∧
      Walker py body normalized matched calls store' ∧ NewCalls calls store' := by
  obtain ⟨session, hsession⟩ := hnew.session
  obtain ⟨old, hrequest⟩ := hwalker.request call List.mem_cons_self
  obtain ⟨response, store', hserve⟩ := @servePage_exists py cp settings (call.withCursor cursor)
    normalized session.1 session.2 place matched store (hnew.responseNew call List.mem_cons_self)
  obtain ⟨hsessions, -, row, hserved⟩ := servePage_ok hserve
  have hlimit : (call.withCursor cursor).request.limit = body.limit := by
    rw [SearchCall.withCursor, hrequest]
  have hnormalize : (call.withCursor cursor).request.normalize py store.countries =
      .ok normalized := by
    rw [SearchCall.withCursor, hrequest]
    exact hwalker.normalize
  refine ⟨session, response, store', row, hsession, search_ok_iff.mpr ⟨?_, normalized, session,
    place, matched, hnormalize, hsession, ?_, ?_, hserve⟩, hsessions, hserved, ?_, ?_⟩
  · exact hwalker.allowed call List.mem_cons_self
  · rw [hlimit]
    exact hplace
  · exact hwalker.matches_eq call List.mem_cons_self
  · have htail := hwalker.tail
    refine ⟨htail.request, htail.allowed, ?_, ?_⟩
    · rw [hserved.countries]
      exact htail.normalize
    · rw [hserved.db, hserved.columns]
      exact htail.matches_eq
  · exact hnew.tail hsession hsessions hserved.written

end

/-! ## The pages that follow -/

/-- A row of another page stays as it is. -/
lemma PageWritten.keeps {searches searches' : Searches} {newId rowId : ResponseId} {row : Search}
    (h : PageWritten newId rowId row searches searches') {id : ResponseId} {other : Search}
    (hrow : searches.row id = some other) (hpage : other.pageNumber ≠ row.pageNumber) :
    searches'.row id = some other := by
  rw [h.row_eq, if_neg, hrow]
  rintro rfl
  exact hpage (h.old hrow).2

/-- Where the walk is when `n` pages are stored: the row of the first page and the outbox are as
the first request left them. -/
structure Walked (searchId : SearchId) (firstId : ResponseId) (first : Search) (outbox : Outbox)
    (store : SearchStore) (n : ℕ) : Prop where
  pages : PagesStored store.searches searchId n
  first : store.searches.row firstId = some first
  outbox : store.outbox = outbox

section

variable {py : Py} {cp : CursorPy} {settings : SearchSettings} {body : SearchRequest}
  {normalized : NormalizedFilters} {matched : List SearchResult} {searchId : SearchId}
  {firstId : ResponseId} {first : Search} {outbox : Outbox} {call : SearchCall}
  {calls : List SearchCall} {store : SearchStore} {k n : ℕ}

variable (py cp settings body normalized searchId) in
/-- The cursor of the page after the first `k`. -/
def pageCursor (k : ℕ) : String :=
  encodeCursor cp (k * body.limit) (filterDigest py cp normalized.filters) searchId body.limit
    settings.cursorSecret

lemma searchPlace_pageCursor (hcp : cp.Laws) (hid : searchId < 2 ^ 128) (k : ℕ)
    (newId : SearchId) :
    searchPlace py cp settings (some (pageCursor py cp settings body normalized searchId k))
      (filterDigest py cp normalized.filters) body.limit newId =
        .ok ⟨k * body.limit, searchId⟩ := by
  rw [searchPlace, pageCursor, if_neg (encodeCursor_ne_empty hcp _ _ _ _ _),
    decodeCursor_encodeCursor hcp py _ _ hid, mapErr]

variable (settings) in
/-- A request with the cursor of a page is answered with that page. -/
theorem search_page (hcp : cp.Laws) (hid : searchId < 2 ^ 128)
    (hwalker : Walker py body normalized matched (call :: calls) store)
    (hnew : NewCalls (call :: calls) store) (hk : 1 ≤ k)
    (hwalked : Walked searchId firstId first outbox store n) (hfirst : first.pageNumber = 1)
    (hkn : k ≤ n) (hnk : n ≤ k + 1) :
    ∃ response store',
      search py cp settings
        (call.withCursor (some (pageCursor py cp settings body normalized searchId k))) store =
          .ok (response, store') ∧
      response.data = page body.limit k matched ∧ response.searchId = searchId ∧
      response.nextCursor = (if k + 1 < pageCount body.limit matched.length then
        some (pageCursor py cp settings body normalized searchId (k + 1)) else none) ∧
      Walked searchId firstId first outbox store' (k + 1) ∧
      Walker py body normalized matched calls store' ∧ NewCalls calls store' := by
  obtain ⟨session, response, store', row, -, hsearch, -, hserved, hwalker', hnew'⟩ :=
    search_served settings hwalker hnew (searchPlace_pageCursor hcp hid k call.searchId)
  obtain ⟨old, hrequest⟩ := hwalker.request call List.mem_cons_self
  have hlimit : (call.withCursor (some (pageCursor py cp settings body normalized searchId
      k))).request.limit = body.limit := by
    rw [SearchCall.withCursor, hrequest]
  have hpos : 0 < body.limit := body.one_le_limit
  have hnumber : row.pageNumber = k + 1 := by
    rw [hserved.pageNumber, hlimit, Nat.mul_div_cancel _ hpos]
  have hsucc : (k + 1) * body.limit = k * body.limit + body.limit := Nat.succ_mul k body.limit
  refine ⟨response, store', hsearch, ?_, hserved.responseSearch, ?_, ?_, hwalker', hnew'⟩
  · rw [hserved.data, hlimit]
    rfl
  · rw [hserved.nextCursor, hlimit]
    simp only [succ_lt_pageCount hpos, pageCursor, hsucc]
  · have hpages := hwalked.pages
    have hrowSearch : row.searchId = searchId := hserved.searchId
    rw [← hrowSearch] at hpages ⊢
    have hwritten := hpages.write hserved.written (by omega) (by omega)
    rw [hnumber, max_eq_right hnk] at hwritten
    refine ⟨hwritten, hserved.written.keeps hwalked.first (by omega), ?_⟩
    rw [hserved.outbox, if_neg (by omega), hwalked.outbox]

variable (settings) in
/-- Lost responses of a page leave the walk before it or after it. -/
lemma losing_ok (hcp : cp.Laws) (hid : searchId < 2 ^ 128) {lost : List SearchCall}
    (hwalker : Walker py body normalized matched (lost ++ calls) store)
    (hnew : NewCalls (lost ++ calls) store) (hk : 1 ≤ k)
    (hwalked : Walked searchId firstId first outbox store n) (hfirst : first.pageNumber = 1)
    (hkn : k ≤ n) (hnk : n ≤ k + 1) :
    ∃ store' n', losing py cp settings
        (some (pageCursor py cp settings body normalized searchId k)) lost store = .ok store' ∧
      Walked searchId firstId first outbox store' n' ∧ k ≤ n' ∧ n' ≤ k + 1 ∧
      Walker py body normalized matched calls store' ∧ NewCalls calls store' := by
  induction lost generalizing store n with
  | nil => exact ⟨store, n, rfl, hwalked, hkn, hnk, hwalker, hnew⟩
  | cons call lost ih =>
    obtain ⟨response, store₁, hsearch, -, -, -, hwalked₁, hwalker₁, hnew₁⟩ :=
      search_page settings hcp hid hwalker hnew hk hwalked hfirst hkn hnk
    obtain ⟨store', n', hlosing, hrest⟩ :=
      ih hwalker₁ hnew₁ hwalked₁ (Nat.le_succ k) (Nat.le_refl _)
    refine ⟨store', n', ?_, hrest⟩
    simp only [losing, hsearch, bind, Except.bind, hlosing]

variable (settings) in
/-- Following the cursor of a page shows the pages from there on, and ends with the last one. -/
theorem follow_ok (hcp : cp.Laws) (hid : searchId < 2 ^ 128) {pages : List PageCalls}
    (hwalker : Walker py body normalized matched (pages.flatMap PageCalls.all) store)
    (hnew : NewCalls (pages.flatMap PageCalls.all) store) (hk : 1 ≤ k)
    (hwalked : Walked searchId firstId first outbox store k) (hfirst : first.pageNumber = 1)
    (hmore : k < pageCount body.limit matched.length)
    (henough : pageCount body.limit matched.length ≤ k + pages.length) :
    ∃ responses store', follow py cp settings
        (some (pageCursor py cp settings body normalized searchId k)) pages store =
          .ok (responses, none, store') ∧
      responses.map (·.data) =
        (List.range' k (pageCount body.limit matched.length - k)).map
          (fun j => page body.limit j matched) ∧
      (∀ response ∈ responses, response.searchId = searchId) ∧
      Walked searchId firstId first outbox store' (pageCount body.limit matched.length) := by
  induction pages generalizing store k with
  | nil =>
    rw [List.length_nil] at henough
    omega
  | cons p pages ih =>
    rw [List.flatMap_cons, PageCalls.all, List.append_assoc] at hwalker hnew
    obtain ⟨store₁, n, hlosing, hwalked₁, hkn, hnk, hwalker₁, hnew₁⟩ :=
      losing_ok settings hcp hid hwalker hnew hk hwalked hfirst (Nat.le_refl k) (Nat.le_succ k)
    obtain ⟨response, store₂, hsearch, hdata, hsearchId, hnext, hwalked₂, hwalker₂, hnew₂⟩ :=
      search_page settings hcp hid hwalker₁ hnew₁ hk hwalked₁ hfirst hkn hnk
    have hrange : pageCount body.limit matched.length - k =
        pageCount body.limit matched.length - (k + 1) + 1 := by omega
    by_cases hlast : k + 1 < pageCount body.limit matched.length
    · rw [if_pos hlast] at hnext
      rw [List.length_cons] at henough
      obtain ⟨responses, store', hfollow, hpages, hids, hwalked'⟩ :=
        ih hwalker₂ hnew₂ (Nat.le_add_left 1 k) hwalked₂ hlast (by omega)
      refine ⟨response :: responses, store', ?_, ?_, ?_, hwalked'⟩
      · simp only [follow, hlosing, hsearch, hnext, hfollow, bind, Except.bind, pure, Except.pure]
      · rw [List.map_cons, hpages, hdata, hrange, List.range'_succ, List.map_cons]
      · intro r hr
        rcases List.mem_cons.mp hr with rfl | hr
        · exact hsearchId
        · exact hids r hr
    · rw [if_neg hlast] at hnext
      have hend : pageCount body.limit matched.length = k + 1 := by omega
      rw [← hend] at hwalked₂
      refine ⟨[response], store₂, ?_, ?_, ?_, hwalked₂⟩
      · simp only [follow, hlosing, hsearch, hnext, bind, Except.bind, pure, Except.pure]
      · rw [hend, Nat.add_sub_cancel_left, List.range'_one, List.map_singleton, List.map_singleton,
          hdata]
      · intro r hr
        rw [List.mem_singleton.mp hr]
        exact hsearchId

end

/-! ## The replay -/

/-- The stored first page of the caller's own search is found, and it is the only one. -/
lemma findReplay_ok {store : SearchStore} {call : ReplayCall} {sessionId : SessionId} {n : ℕ}
    {firstId : ResponseId} {first : Search}
    (hsession : getExistingSession call.cookie call.sessionAt store.sessions = some sessionId)
    (hpages : PagesStored store.searches call.searchId n)
    (hrow : store.searches.row firstId = some first) (hid : first.searchId = call.searchId)
    (howner : first.sessionId = some sessionId) (hpage : first.pageNumber = 1)
    (hlive : call.now < first.expiresAt) :
    findReplay call store = .ok (firstId, first) := by
  have hfirst : first.replayable call.searchId sessionId call.now = true :=
    decide_eq_true ⟨hid, howner, hpage, hlive⟩
  simp only [findReplay, hsession]
  cases hfound : store.searches.findKey (Search.replayable call.searchId sessionId call.now) with
  | none =>
    have hnot := Table.findKey_eq_none.mp hfound firstId first hrow
    rw [hfirst] at hnot
    cases hnot
  | some id =>
    obtain ⟨row, hother, hreplay⟩ := Table.findKey_eq_some hfound
    obtain ⟨hid', -, hpage', -⟩ := of_decide_eq_true hreplay
    have hsame := hpages.unique id firstId row first hother hrow hid' hid (hpage'.trans hpage.symm)
    simp only [hsame, hrow]

lemma mapM_ok {α β : Type} {f : α → Except PyErr β} {g : α → β} {l : List α}
    (h : ∀ a ∈ l, f a = .ok (g a)) : l.mapM f = .ok (l.map g) := by
  induction l with
  | nil => rfl
  | cons a l ih =>
    have hrest := ih fun b hb => h b (List.mem_cons_of_mem a hb)
    rw [List.mapM_cons, h a List.mem_cons_self, hrest]
    rfl

/-- The stored results name scholarships. -/
lemma itemScholarship_plain {cp : CursorPy} (hcp : cp.Laws) (py : Py) {item : SearchResult}
    (hid : item.scholarshipId < 2 ^ 128) :
    itemScholarship cp (item.plain py) = .ok item.scholarshipId := by
  have hlookup : (item.plain py).lookup "scholarship_id" =
      some (.str (uuidText item.scholarshipId)) := rfl
  rw [itemScholarship, hlookup]
  exact hcp.uuid_text _ hid

/-- A page that was stored is replayed, with the cursor that follows the first page. -/
theorem getSearch_ok {py : Py} {cp : CursorPy} {settings : SearchSettings} (hcp : cp.Laws)
    {accepts : List (String × Json) → Bool} {call : ReplayCall} {store : SearchStore}
    {id : ResponseId} {row : Search} {data : List SearchResult} (hallowed : call.allowed = true)
    (hfound : findReplay call store = .ok (id, row))
    (hdata : row.resultSnapshot.data = data.map (·.plain py))
    (hids : ∀ item ∈ data, item.scholarshipId < 2 ^ 128)
    (haccepts : ∀ item ∈ data, accepts (item.plain py) = true) :
    ∃ response, getSearch cp settings accepts call store = .ok response ∧
      response.nextCursor = if row.resultSnapshot.hasNextPage then
        some (encodeCursor cp row.requestedLimit row.filterDigest row.searchId row.requestedLimit
          settings.cursorSecret)
        else none := by
  have hmapM : (data.map (·.plain py)).mapM (itemScholarship cp) =
      .ok (data.map (·.scholarshipId)) := by
    rw [List.mapM_map]
    exact mapM_ok fun item hitem => itemScholarship_plain hcp py (hids item hitem)
  obtain ⟨items, hitems, hsub⟩ : ∃ items, replayedItems cp row.resultSnapshot store.db = .ok items ∧
      ∀ item ∈ items, item ∈ data.map (·.plain py) := by
    rw [replayedItems, hdata, hmapM]
    exact ⟨_, rfl, fun item hitem => (List.mem_filter.mp hitem).1⟩
  have hall : items.all accepts = true := by
    rw [List.all_eq_true]
    intro item hitem
    obtain ⟨result, hresult, rfl⟩ := List.mem_map.mp (hsub item hitem)
    exact haccepts result hresult
  simp only [getSearch, hallowed, not_true_eq_false, if_false, hfound, bind, Except.bind,
    replaySearch, hitems, pure, Except.pure, hall, if_true]
  exact ⟨_, rfl, rfl⟩

/-! ## The whole walk -/

/-- The event of a search, as it is enqueued. -/
def completedEvent (searchId : SearchId) (responseId : ResponseId) (normalized : NormalizedFilters)
    (matched : List SearchResult) : OutboxEvent where
  eventType := searchCompleted
  destination := destinationAnalytics
  dedupeKey := searchCompletedKey searchId
  payload := searchCompletedPayload searchId responseId normalized.filters matched

/-- Paging shows every match exactly once. -/
theorem paging_shows_each_match_once {py : Py} {cp : CursorPy} (hcp : cp.Laws)
    (settings : SearchSettings) {body : SearchRequest} {normalized : NormalizedFilters}
    {matched : List SearchResult} {first : SearchCall} {pages : List PageCalls}
    {store : SearchStore}
    (hwalker : Walker py body normalized matched (first :: pages.flatMap PageCalls.all) store)
    (hnew : NewCalls (first :: pages.flatMap PageCalls.all) store) (hsearch : NewSearch first store)
    (henough : pageCount body.limit matched.length ≤ 1 + pages.length) :
    ∃ session responses store',
      getOrCreateSession first.cookie first.sessionAt first.sessionId first.token store.sessions =
        .ok session ∧
      walk py cp settings first pages store = .ok (responses, none, store') ∧
      responses.length = max 1 ((matched.length + body.limit - 1) / body.limit) ∧
      responses.flatMap (·.data) = matched ∧
      (∀ response ∈ responses, response.searchId = first.searchId) ∧
      PagesStored store'.searches first.searchId responses.length ∧
      (∃ event, event.eventType = searchCompleted ∧
        event.dedupeKey = searchCompletedKey first.searchId ∧
        event.payload.lookup "search_id" = some (.str (uuidText first.searchId)) ∧
        ∀ id, store'.outbox.events.row id =
          if id = first.eventId then some event else store.outbox.events.row id) ∧
      ∀ (accepts : List (String × Json) → Bool) (replay : ReplayCall),
        (∀ item ∈ matched, item.scholarshipId < 2 ^ 128 ∧ accepts (item.plain py) = true) →
        replay.searchId = first.searchId → replay.allowed = true →
        getExistingSession replay.cookie replay.sessionAt store'.sessions = some session.1 →
        replay.now < first.evaluatedAt + searchRetention →
        ∃ response, getSearch cp settings accepts replay store' = .ok response ∧
          responses.head?.map (·.nextCursor) = some response.nextCursor := by
  have hpos : 0 < body.limit := body.one_le_limit
  have hplace : searchPlace py cp settings none (filterDigest py cp normalized.filters) body.limit
      first.searchId = .ok ⟨0, first.searchId⟩ := rfl
  obtain ⟨session, response, store₁, row, hsession, hfirst, -, hserved, hwalker₁, hnew₁⟩ :=
    search_served settings hwalker hnew hplace
  obtain ⟨old, hrequest⟩ := hwalker.request first List.mem_cons_self
  have hlimit : (first.withCursor none).request.limit = body.limit := by
    rw [SearchCall.withCursor, hrequest]
  have hnumber : row.pageNumber = 1 := by
    rw [hserved.pageNumber, Nat.zero_div]
  have hrowSearch : row.searchId = first.searchId := hserved.searchId
  -- the first page of a search that was not there before
  have hnone : PagesStored store.searches row.searchId 0 := by
    rw [hrowSearch]
    refine ⟨?_, ?_, ?_⟩
    · exact fun id other hrow hid => absurd hid (hsearch.rows id other hrow)
    · exact fun p hp hp' => absurd hp (by omega)
    · exact fun id id' other other' hrow _ hid => absurd hid (hsearch.rows id other hrow)
  have hpages₁ := hnone.write hserved.written (by omega) (by omega)
  rw [hnumber, hrowSearch] at hpages₁
  have hrow₁ : store₁.searches.row response.responseId = some row := by
    rw [hserved.written.row_eq, if_pos rfl]
  have hwalked₁ : Walked first.searchId response.responseId row store₁.outbox store₁ 1 :=
    ⟨hpages₁, hrow₁, rfl⟩
  have hevent : ∀ id, store₁.outbox.events.row id =
      if id = first.eventId then
        some (completedEvent first.searchId response.responseId normalized matched)
      else store.outbox.events.row id := by
    intro id
    rw [hserved.outbox, if_pos hnumber]
    exact row_enqueue_of_new hsearch.eventId hsearch.events id
  -- the pages that follow
  have hsucc : 0 + 1 < pageCount body.limit matched.length ↔ 0 + body.limit < matched.length := by
    have hlt := succ_lt_pageCount (m := matched.length) (k := 0) hpos
    rwa [Nat.zero_mul] at hlt
  have hnext : response.nextCursor = if 0 + body.limit < matched.length then
      some (pageCursor py cp settings body normalized first.searchId 1) else none := by
    rw [hserved.nextCursor, hlimit, pageCursor, Nat.one_mul, Nat.zero_add]
  have hcount : 1 ≤ pageCount body.limit matched.length := le_max_left _ _
  obtain ⟨responses, store', hfollow, hdata, hids, hwalked'⟩ : ∃ responses store',
      follow py cp settings response.nextCursor pages store₁ = .ok (responses, none, store') ∧
      responses.map (·.data) = (List.range' 1 (pageCount body.limit matched.length - 1)).map
        (fun j => page body.limit j matched) ∧
      (∀ r ∈ responses, r.searchId = first.searchId) ∧
      Walked first.searchId response.responseId row store₁.outbox store'
        (pageCount body.limit matched.length) := by
    by_cases hmore : 1 < pageCount body.limit matched.length
    · rw [hnext, if_pos (hsucc.mp hmore)]
      exact follow_ok settings hcp hsearch.id_lt hwalker₁ hnew₁ (Nat.le_refl 1) hwalked₁ hnumber
        hmore henough
    · have hone : pageCount body.limit matched.length = 1 := by omega
      rw [hnext, if_neg (fun h => hmore (hsucc.mpr h)), hone]
      exact ⟨[], store₁, by rw [follow], rfl, by simp, hwalked₁⟩
  have hfirstData : response.data = page body.limit 0 matched := by
    rw [hserved.data, hlimit, page, Nat.zero_mul]
  have hall : (response :: responses).map (·.data) =
      (List.range (pageCount body.limit matched.length)).map
        (fun j => page body.limit j matched) := by
    have hrange : List.range (pageCount body.limit matched.length) =
        0 :: List.range' 1 (pageCount body.limit matched.length - 1) := by
      rw [List.range_eq_range', ← Nat.sub_add_cancel hcount, List.range'_succ]
      rfl
    rw [List.map_cons, hfirstData, hdata, hrange, List.map_cons]
  have hlength : (response :: responses).length = pageCount body.limit matched.length := by
    have hlen := congrArg List.length hall
    rwa [List.length_map, List.length_map, List.length_range] at hlen
  refine ⟨session, response :: responses, store', hsession, ?_, hlength, ?_, ?_, ?_, ?_, ?_⟩
  · simp only [walk, hfirst, hfollow, bind, Except.bind, pure, Except.pure]
  · rw [List.flatMap_def, hall, ← List.flatMap_def]
    exact flatMap_pages hpos matched
  · intro r hr
    rcases List.mem_cons.mp hr with rfl | hr
    · exact hserved.responseSearch
    · exact hids r hr
  · rw [hlength]
    exact hwalked'.pages
  · exact ⟨completedEvent first.searchId response.responseId normalized matched, rfl, rfl, rfl,
      fun id => by rw [hwalked'.outbox, hevent]⟩
  · intro accepts replay hitems hreplay hallowed hown hlive
    have hpages' := hwalked'.pages
    rw [← hreplay] at hpages'
    have hfound := findReplay_ok hown hpages' hwalked'.first (hrowSearch.trans hreplay.symm)
      hserved.session hnumber (by rw [hserved.expiresAt]; exact hlive)
    have hsub : ∀ item ∈ response.data, item ∈ matched := by
      intro item hitem
      rw [hserved.data] at hitem
      exact List.mem_of_mem_drop (List.mem_of_mem_take hitem)
    obtain ⟨answer, hanswer, hcursor⟩ := getSearch_ok hcp hallowed hfound hserved.snapshotData
      (fun item hitem => (hitems item (hsub item hitem)).1)
      (fun item hitem => (hitems item (hsub item hitem)).2)
    refine ⟨answer, hanswer, ?_⟩
    rw [List.head?_cons, Option.map_some, hcursor, hserved.hasNextPage, hserved.requestedLimit,
      hserved.digest, hrowSearch, hserved.nextCursor, Nat.zero_add]
    simp only [decide_eq_true_eq]

/-- The requests for a second page, the first of which is lost. -/
def secondPage : List PageCalls :=
  [⟨[Sample.searchCall 2 (some (uuidText 1)) none], Sample.searchCall 3 (some (uuidText 1)) none⟩]

/-- Two matches on two pages. -/
theorem paging_two_pages :
    ∃ responses store', walk Sample.searchPy Sample.cursorPy Sample.searchSettings
        (Sample.searchCall 1 none none) secondPage Sample.searchStore =
          .ok (responses, none, store') ∧
      responses.length = 2 ∧
      responses.flatMap (·.data) = [Sample.searchItem 1, Sample.searchItem 2] := by
  have hwalker : Walker Sample.searchPy Sample.searchBody Sample.searchFilters
      [Sample.searchItem 1, Sample.searchItem 2]
      (Sample.searchCall 1 none none :: secondPage.flatMap PageCalls.all) Sample.searchStore := by
    refine ⟨?_, ?_, Sample.searchBody_normalize, ?_⟩
    · simp only [secondPage, PageCalls.all, List.flatMap_cons, List.flatMap_nil, List.cons_append,
        List.nil_append, List.forall_mem_cons, List.not_mem_nil, false_imp_iff, implies_true,
        and_true]
      exact ⟨⟨none, rfl⟩, ⟨none, rfl⟩, none, rfl⟩
    · simp [secondPage, PageCalls.all, Sample.searchCall]
    · simp only [secondPage, PageCalls.all, List.flatMap_cons, List.flatMap_nil, List.cons_append,
        List.nil_append, List.forall_mem_cons, List.not_mem_nil, false_imp_iff, implies_true,
        and_true]
      exact ⟨Sample.searchStore_matches, Sample.searchStore_matches, Sample.searchStore_matches⟩
  have hnew : NewCalls (Sample.searchCall 1 none none :: secondPage.flatMap PageCalls.all)
      Sample.searchStore := by
    refine ⟨by decide, fun _ _ => rfl, by decide, fun _ _ => rfl, by decide +kernel, ?_⟩
    rintro call - id session ⟨⟩
  have hsearch : NewSearch (Sample.searchCall 1 none none) Sample.searchStore := by
    refine ⟨by decide, ?_, rfl, ?_⟩
    · rintro id row ⟨⟩
    · rintro id event ⟨⟩
  obtain ⟨session, responses, store', -, hwalk, hlength, hdata, -⟩ :=
    paging_shows_each_match_once Sample.cursorPy_laws Sample.searchSettings hwalker hnew hsearch
      (by decide)
  exact ⟨responses, store', hwalk, hlength, hdata⟩

end ScholarshipFinder
