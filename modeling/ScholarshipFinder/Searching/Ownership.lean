import ScholarshipFinder.Lib.Run
import ScholarshipFinder.Searching.Paging

/-!
# Whose search it is

A row of a search names the session of the last request for its page, and a cursor names the
search but not the session.  So the rows of a search belong to the session that ran it as long as
no request presents the cursor of another session's search.
-/

namespace ScholarshipFinder

open Lib

/-! ## The system -/

/-- The requests of any number of sessions. -/
inductive SearchOp
  | search (call : SearchCall)
  | replay (accepts : List (String × Json) → Bool) (call : ReplayCall)
  | join (call : JoinCall)

/-- The tables, which session ran each search, and the cursors that were issued. -/
structure SearchState where
  store : SearchStore
  /-- The session whose request without a cursor created the search. -/
  owner : SearchId → Option SessionId
  issued : List String

/-- A request without a cursor: the empty text is none. -/
def SearchCall.isNew (call : SearchCall) : Bool := call.request.cursor.all (· = "")

/-- The session under which a request runs. -/
def SearchOp.session (op : SearchOp) (store : SearchStore) : Option SessionId :=
  match op with
  | .search call => (getOrCreateSession call.cookie call.sessionAt call.sessionId call.token
      store.sessions).toOption.map Prod.fst
  | .replay _ call => getExistingSession call.cookie call.sessionAt store.sessions
  | .join call => (getOrCreateSession call.cookie call.sessionAt call.sessionId call.token
      store.sessions).toOption.map Prod.fst

section

variable (py : Py) (cp : CursorPy) (settings : SearchSettings)

/-- One request; what raises is rolled back. -/
def SearchState.step (state : SearchState) (op : SearchOp) : SearchState :=
  match op with
  | .search call =>
    match search py cp settings call state.store with
    | .error _ => state
    | .ok (response, store) =>
      { store := store
        owner := if call.isNew then
            Function.update state.owner response.searchId (op.session state.store)
          else state.owner
        issued := state.issued ++ response.nextCursor.toList }
  | .replay accepts call =>
    match getSearch cp settings accepts call state.store with
    | .error _ => state
    | .ok response => { state with issued := state.issued ++ response.nextCursor.toList }
  | .join call =>
    match createJoinIntent py settings call state.store with
    | .error _ => state
    | .ok (_, store) => { state with store := store }

/-- The place that a request with a cursor has. -/
def PlacedBy (call : SearchCall) (store : SearchStore) (place : CursorState) : Prop :=
  call.allowed = true ∧ call.isNew = false ∧ ∃ normalized, call.request.normalize py store.countries = .ok normalized ∧
    searchPlace py cp settings call.request.cursor (filterDigest py cp normalized.filters)
      call.request.limit call.searchId = .ok place

/-- Ids are new, and signatures are not forged: a place that a cursor gives was issued. -/
structure Genuine (state : SearchState) (op : SearchOp) : Prop where
  fresh : ∀ call, op = .search call → call.isNew = true →
    call.searchId < 2 ^ 128 ∧ state.owner call.searchId = none
  unforged : ∀ call place, op = .search call → PlacedBy py cp settings call state.store place →
    ∃ cursor ∈ state.issued, ∃ digest limit,
      decodeCursor cp py cursor digest limit settings.cursorSecret = .ok place

/-- A cursor that is accepted is one of the session's own search: all rows of that search name
the session of the request. -/
def OwnCursor (state : SearchState) (op : SearchOp) : Prop :=
  ∀ call place, op = .search call → PlacedBy py cp settings call state.store place →
    ∀ id row, state.store.searches.row id = some row → row.searchId = place.searchId →
      row.sessionId = op.session state.store

end

/-! ## What is claimed of it -/

/-- Every stored row names the session that created its search. -/
def SearchesOwned (state : SearchState) : Prop :=
  ∀ id row, state.store.searches.row id = some row →
    ∃ sessionId, state.owner row.searchId = some sessionId ∧ row.sessionId = some sessionId

/-- Only the owner of a search can replay it or hand it to Core, and the requests of others leave
its rows as they are. -/
structure OwnerOnly (py : Py) (cp : CursorPy) (settings : SearchSettings) (state : SearchState)
    (op : SearchOp) : Prop where
  replay : ∀ accepts call stored, op = .replay accepts call →
    findReplay call state.store = .ok stored →
      ∃ sessionId, op.session state.store = some sessionId ∧
        state.owner call.searchId = some sessionId
  join : ∀ call found, op = .join call → joinSearch settings call state.store = .ok found →
    op.session state.store = some found.1 ∧ state.owner call.searchId = some found.1
  unchanged : ∀ searchId sessionId, state.owner searchId = some sessionId →
    op.session state.store ≠ some sessionId → ∀ id row, row.searchId = searchId →
      ((state.step py cp settings op).store.searches.row id = some row ↔
        state.store.searches.row id = some row)

/-! ## The invariant -/

/-- The rows are owned, and what a cursor points to is there. -/
structure SearchState.Sound (py : Py) (cp : CursorPy) (settings : SearchSettings)
    (state : SearchState) : Prop where
  owned : SearchesOwned state
  id_lt : ∀ id row, state.store.searches.row id = some row → row.searchId < 2 ^ 128
  issued : ∀ cursor ∈ state.issued, ∀ digest limit place,
    decodeCursor cp py cursor digest limit settings.cursorSecret = .ok place →
      ∃ id row, state.store.searches.row id = some row ∧ row.searchId = place.searchId

section

variable {py : Py} {cp : CursorPy} {settings : SearchSettings} {state : SearchState}
  {op : SearchOp}

/-- A request sits at the start of a new search, or where its cursor points. -/
lemma searchPlace_cases {call : SearchCall} {digest : String} {place : CursorState}
    (h : searchPlace py cp settings call.request.cursor digest call.request.limit call.searchId =
      .ok place) :
    (call.isNew = true ∧ place = ⟨0, call.searchId⟩) ∨ call.isNew = false := by
  unfold searchPlace at h
  rw [SearchCall.isNew]
  cases hcursor : call.request.cursor with
  | none =>
    rw [hcursor] at h
    exact .inl ⟨rfl, (Except.ok.inj h).symm⟩
  | some cursor =>
    rw [hcursor] at h
    dsimp only at h
    by_cases hempty : cursor = ""
    · rw [if_pos hempty] at h
      exact .inl ⟨decide_eq_true hempty, (Except.ok.inj h).symm⟩
    · exact .inr (decide_eq_false hempty)

/-- The rows of the searches are those of one page more. -/
lemma SearchState.step_search {call : SearchCall} {result : SearchResponse × SearchStore}
    (hok : search py cp settings call state.store = .ok result) :
    call.allowed = true ∧ ∃ normalized session place matched row,
      call.request.normalize py state.store.countries = .ok normalized ∧
      getOrCreateSession call.cookie call.sessionAt call.sessionId call.token
        state.store.sessions = .ok session ∧
      searchPlace py cp settings call.request.cursor (filterDigest py cp normalized.filters)
        call.request.limit call.searchId = .ok place ∧
      PageServed py cp settings call normalized session.1 place matched state.store result.1
        result.2 row := by
  obtain ⟨hallowed, normalized, session, place, matched, hnormalized, hsession, hplace, -,
    hserve⟩ := search_ok_iff.mp hok
  obtain ⟨-, -, row, hserved⟩ := servePage_ok hserve
  exact ⟨hallowed, normalized, session, place, matched, row, hnormalized, hsession, hplace, hserved⟩

/-- The search that a request writes to belongs to the session of the request: it is new, or all
its rows name that session and there is one. -/
lemma owner_of_place (hsound : state.Sound py cp settings) {call : SearchCall}
    (hgenuine : Genuine py cp settings state (.search call))
    (hown : OwnCursor py cp settings state (.search call)) {normalized : NormalizedFilters}
    {session : SessionId × Sessions} {place : CursorState}
    (hallowed : call.allowed = true)
    (hnormalized : call.request.normalize py state.store.countries = .ok normalized)
    (hsession : (SearchOp.search call).session state.store = some session.1)
    (hplace : searchPlace py cp settings call.request.cursor
      (filterDigest py cp normalized.filters) call.request.limit call.searchId = .ok place) :
    place.searchId < 2 ^ 128 ∧
      ((call.isNew = true ∧ state.owner place.searchId = none) ∨
        (call.isNew = false ∧ state.owner place.searchId = some session.1)) := by
  rcases searchPlace_cases hplace with ⟨hnew, rfl⟩ | hcursor
  · obtain ⟨hid, hnone⟩ := hgenuine.fresh call rfl hnew
    exact ⟨hid, .inl ⟨hnew, hnone⟩⟩
  · have hplaced : PlacedBy py cp settings call state.store place :=
      ⟨hallowed, hcursor, normalized, hnormalized, hplace⟩
    obtain ⟨cursor, hissued, digest, limit, hdecode⟩ := hgenuine.unforged call place rfl hplaced
    obtain ⟨id, row, hrow, hsearch⟩ := hsound.issued cursor hissued digest limit place hdecode
    obtain ⟨sessionId, howner, hrowSession⟩ := hsound.owned id row hrow
    have hmine := hown call place rfl hplaced id row hrow hsearch
    rw [hrowSession, hsession] at hmine
    refine ⟨?_, .inr ⟨hcursor, ?_⟩⟩
    · rw [← hsearch]
      exact hsound.id_lt id row hrow
    · rw [← hsearch, howner, hmine]

/-- What is found for a replay is a row of the caller's session. -/
lemma findReplay_row {call : ReplayCall} {store : SearchStore} {stored : ResponseId × Search}
    (h : findReplay call store = .ok stored) :
    ∃ sessionId, getExistingSession call.cookie call.sessionAt store.sessions = some sessionId ∧
      store.searches.row stored.1 = some stored.2 ∧ stored.2.searchId = call.searchId ∧
      stored.2.sessionId = some sessionId := by
  unfold findReplay at h
  split at h
  · cases h
  · next sessionId hsession =>
    split at h
    · cases h
    · next responseId hfound =>
      obtain ⟨row, hrow, hreplay⟩ := Table.findKey_eq_some hfound
      rw [hrow] at h
      obtain rfl := Except.ok.inj h
      obtain ⟨hid, howner, -⟩ := of_decide_eq_true hreplay
      exact ⟨sessionId, hsession, hrow, hid, howner⟩

/-- What is handed to Core is a row of the caller's session. -/
lemma joinSearch_row {call : JoinCall} {store : SearchStore} {found : SessionId × Sessions × Search}
    (h : joinSearch settings call store = .ok found) :
    (SearchOp.join call).session store = some found.1 ∧
      ∃ id row, store.searches.row id = some row ∧ row.searchId = call.searchId ∧
        row.sessionId = some found.1 := by
  unfold joinSearch at h
  split at h
  · cases h
  · obtain ⟨session, hsession, h⟩ := exceptBind_ok h
    rw [unhandled_ok_iff] at hsession
    split at h
    · cases h
    · split at h
      · cases h
      · split at h
        · cases h
        · split at h
          · cases h
          · next row hrow =>
            obtain rfl := Except.ok.inj h
            obtain ⟨id, hfound, -⟩ := Option.bind_eq_some_iff.mp hrow
            obtain ⟨row', hrow', hmatch⟩ := Table.findKey_eq_some hfound
            obtain ⟨hid, howner⟩ := of_decide_eq_true hmatch
            refine ⟨?_, id, row', hrow', hid, howner⟩
            simp only [SearchOp.session, hsession, Except.toOption, Option.map_some]

/-- A request that is joined to Core leaves the searches as they are. -/
lemma createJoinIntent_searches {call : JoinCall} {store : SearchStore}
    {result : JoinIntentResponse × SearchStore}
    (h : createJoinIntent py settings call store = .ok result) :
    result.2.searches = store.searches := by
  unfold createJoinIntent at h
  obtain ⟨found, -, h⟩ := exceptBind_ok h
  split at h
  · split at h <;> cases h
  · obtain rfl := Except.ok.inj h
    rfl

/-- A replay issues at most the cursor of a stored row. -/
lemma getSearch_cursor {accepts : List (String × Json) → Bool} {call : ReplayCall}
    {store : SearchStore} {response : SearchReplayResponse}
    (h : getSearch cp settings accepts call store = .ok response) {cursor : String}
    (hcursor : response.nextCursor = some cursor) :
    ∃ id row, store.searches.row id = some row ∧ cursor = encodeCursor cp row.requestedLimit
      row.filterDigest row.searchId row.requestedLimit settings.cursorSecret := by
  unfold getSearch at h
  split at h
  · cases h
  · obtain ⟨stored, hstored, h⟩ := exceptBind_ok h
    obtain ⟨sessionId, -, hrow, -⟩ := findReplay_row hstored
    split at h
    · split at h <;> cases h
    · next answer hreplay =>
      split at h
      · obtain rfl := Except.ok.inj h
        unfold replaySearch at hreplay
        obtain ⟨data, -, hreplay⟩ := exceptBind_ok hreplay
        obtain rfl := Except.ok.inj hreplay
        dsimp only at hcursor
        split at hcursor
        · exact ⟨stored.1, stored.2, hrow, (Option.some.inj hcursor).symm⟩
        · cases hcursor
      · cases h

/-- What a request does to the searches: nothing, or it writes one row, of a search that is its
session's own. -/
inductive SearchState.Writes (py : Py) (cp : CursorPy) (settings : SearchSettings)
    (state : SearchState) (op : SearchOp) : Prop
  | none (searches : (state.step py cp settings op).store.searches = state.store.searches)
      (owner : (state.step py cp settings op).owner = state.owner)
      (issued : ∀ cursor ∈ (state.step py cp settings op).issued, cursor ∈ state.issued ∨
        ∃ id row, state.store.searches.row id = some row ∧ ∃ offset digest limit,
          cursor = encodeCursor cp offset digest row.searchId limit settings.cursorSecret)
  | page (newId rowId : ResponseId) (row : Search) (sessionId : SessionId)
      (written : PageWritten newId rowId row state.store.searches
        (state.step py cp settings op).store.searches)
      (id_lt : row.searchId < 2 ^ 128) (session : op.session state.store = some sessionId)
      (rowSession : row.sessionId = some sessionId)
      (owner : (state.owner row.searchId = Option.none ∧ (state.step py cp settings op).owner =
          Function.update state.owner row.searchId (some sessionId)) ∨
        (state.owner row.searchId = some sessionId ∧
          (state.step py cp settings op).owner = state.owner))
      (issued : ∀ cursor ∈ (state.step py cp settings op).issued, cursor ∈ state.issued ∨
        ∃ offset digest limit,
          cursor = encodeCursor cp offset digest row.searchId limit settings.cursorSecret)

/-- Every request does one of the two. -/
theorem SearchState.writes (hsound : state.Sound py cp settings)
    (hgenuine : Genuine py cp settings state op) (hown : OwnCursor py cp settings state op) :
    state.Writes py cp settings op := by
  cases op with
  | search call =>
    cases hsearch : search py cp settings call state.store with
    | error e =>
      have hstep : state.step py cp settings (.search call) = state := by
        simp only [SearchState.step, hsearch]
      exact .none (by rw [hstep]) (by rw [hstep]) fun c hc => .inl (by rwa [hstep] at hc)
    | ok result =>
      obtain ⟨response, store⟩ := result
      obtain ⟨hallowed, normalized, session, place, matched, row, hnormalized, hsession, hplace,
        hserved⟩ := SearchState.step_search hsearch
      have hrequest : (SearchOp.search call).session state.store = some session.1 := by
        simp only [SearchOp.session, hsession, Except.toOption, Option.map_some]
      obtain ⟨hid, howner⟩ :=
        owner_of_place hsound hgenuine hown hallowed hnormalized hrequest hplace
      have hstep : state.step py cp settings (.search call) =
          { store := store
            owner := if call.isNew then
                Function.update state.owner response.searchId (some session.1)
              else state.owner
            issued := state.issued ++ response.nextCursor.toList } := by
        simp only [SearchState.step, hsearch, hrequest]
      refine .page call.responseId response.responseId row session.1 ?_ ?_ hrequest
        hserved.session ?_ ?_
      · rw [hstep]
        exact hserved.written
      · rw [hserved.searchId]
        exact hid
      · rw [hstep, hserved.searchId, hserved.responseSearch]
        rcases howner with ⟨hnew, hnone⟩ | ⟨hcursor, hsome⟩
        · exact .inl ⟨hnone, if_pos hnew⟩
        · exact .inr ⟨hsome, if_neg (by rw [hcursor]; decide)⟩
      · intro cursor hcursor
        rw [hstep] at hcursor
        rcases List.mem_append.mp hcursor with hold | hnew
        · exact .inl hold
        · rw [Option.mem_toList, hserved.nextCursor] at hnew
          split at hnew
          · rw [hserved.searchId]
            exact .inr ⟨_, _, _, (Option.some.inj hnew).symm⟩
          · cases hnew
  | replay accepts call =>
    cases hreplay : getSearch cp settings accepts call state.store with
    | error e =>
      have hstep : state.step py cp settings (.replay accepts call) = state := by
        simp only [SearchState.step, hreplay]
      exact .none (by rw [hstep]) (by rw [hstep]) fun c hc => .inl (by rwa [hstep] at hc)
    | ok response =>
      have hstep : state.step py cp settings (.replay accepts call) =
          { state with issued := state.issued ++ response.nextCursor.toList } := by
        simp only [SearchState.step, hreplay]
      refine .none (by rw [hstep]) (by rw [hstep]) fun cursor hcursor => ?_
      rw [hstep] at hcursor
      rcases List.mem_append.mp hcursor with hold | hnew
      · exact .inl hold
      · obtain ⟨id, row, hrow, hencode⟩ :=
          getSearch_cursor hreplay (Option.mem_toList.mp hnew)
        exact .inr ⟨id, row, hrow, _, _, _, hencode⟩
  | join call =>
    cases hjoin : createJoinIntent py settings call state.store with
    | error e =>
      have hstep : state.step py cp settings (.join call) = state := by
        simp only [SearchState.step, hjoin]
      exact .none (by rw [hstep]) (by rw [hstep]) fun c hc => .inl (by rwa [hstep] at hc)
    | ok result =>
      have hstep : state.step py cp settings (.join call) = { state with store := result.2 } := by
        simp only [SearchState.step, hjoin]
      exact .none (by rw [hstep]; exact createJoinIntent_searches hjoin) (by rw [hstep])
        fun c hc => .inl (by rwa [hstep] at hc)

/-- A search that has rows has an owner, so a new search has none. -/
lemma SearchesOwned.ne_of_new {searchId : SearchId} (howned : SearchesOwned state)
    (hnone : state.owner searchId = none) {id : ResponseId} {row : Search}
    (hrow : state.store.searches.row id = some row) : row.searchId ≠ searchId := by
  rintro rfl
  obtain ⟨sessionId, howner, -⟩ := howned id row hrow
  rw [hnone] at howner
  cases howner

/-- A request keeps the invariant. -/
theorem SearchState.Sound.step (hcp : cp.Laws) (hsound : state.Sound py cp settings)
    (hgenuine : Genuine py cp settings state op) (hown : OwnCursor py cp settings state op) :
    (state.step py cp settings op).Sound py cp settings := by
  cases SearchState.writes hsound hgenuine hown with
  | none hsearches howner hissued =>
    constructor
    case owned =>
      intro id row hrow
      rw [hsearches] at hrow
      rw [howner]
      exact hsound.owned id row hrow
    case id_lt =>
      intro id row hrow
      rw [hsearches] at hrow
      exact hsound.id_lt id row hrow
    case issued =>
      intro cursor hcursor digest limit place hdecode
      rw [hsearches]
      rcases hissued cursor hcursor with hold | ⟨id, row, hrow, offset, d, l, rfl⟩
      · exact hsound.issued cursor hold digest limit place hdecode
      · have hplace := decodeCursor_eq hcp (hsound.id_lt id row hrow) hdecode
        exact ⟨id, row, hrow, by rw [hplace]⟩
  | page newId rowId row sessionId hwritten hid hsession hrowSession howner hissued =>
    constructor
    case owned =>
      intro id other hrow
      rw [hwritten.row_eq] at hrow
      split at hrow
      · obtain rfl := Option.some.inj hrow
        refine ⟨sessionId, ?_, hrowSession⟩
        rcases howner with ⟨-, howner⟩ | ⟨hsome, howner⟩
        · rw [howner, Function.update_self]
        · rw [howner, hsome]
      · obtain ⟨owner, hold, hother⟩ := hsound.owned id other hrow
        refine ⟨owner, ?_, hother⟩
        rcases howner with ⟨hnone, howner⟩ | ⟨-, howner⟩
        · rw [howner, Function.update_of_ne (hsound.owned.ne_of_new hnone hrow), hold]
        · rw [howner, hold]
    case id_lt =>
      intro id other hrow
      rw [hwritten.row_eq] at hrow
      split at hrow
      · obtain rfl := Option.some.inj hrow
        exact hid
      · exact hsound.id_lt id other hrow
    case issued =>
      have hrow : (state.step py cp settings op).store.searches.row rowId = some row := by
        rw [hwritten.row_eq, if_pos rfl]
      intro cursor hcursor digest limit place hdecode
      rcases hissued cursor hcursor with hold | ⟨offset, d, l, rfl⟩
      · obtain ⟨id, other, hother, hsearch⟩ :=
          hsound.issued cursor hold digest limit place hdecode
        by_cases hsame : id = rowId
        · subst hsame
          exact ⟨id, row, hrow, (hwritten.old hother).1.symm.trans hsearch⟩
        · exact ⟨id, other, by rw [hwritten.row_eq, if_neg hsame, hother], hsearch⟩
      · have hplace := decodeCursor_eq hcp hid hdecode
        exact ⟨rowId, row, hrow, by rw [hplace]⟩

/-- What is claimed of a request holds where the invariant does. -/
theorem SearchState.Sound.ownerOnly (hsound : state.Sound py cp settings)
    (hgenuine : Genuine py cp settings state op) (hown : OwnCursor py cp settings state op) :
    OwnerOnly py cp settings state op := by
  have howned : ∀ {id : ResponseId} {row : Search} {sessionId : SessionId},
      state.store.searches.row id = some row → row.sessionId = some sessionId →
        state.owner row.searchId = some sessionId := by
    intro id row sessionId hrow hrowSession
    obtain ⟨owner, howner, hsame⟩ := hsound.owned id row hrow
    rw [howner, ← hsame, hrowSession]
  constructor
  case replay =>
    rintro accepts call stored rfl hfound
    obtain ⟨sessionId, hsession, hrow, hsearch, hrowSession⟩ := findReplay_row hfound
    exact ⟨sessionId, hsession, by rw [← hsearch]; exact howned hrow hrowSession⟩
  case join =>
    rintro call found rfl hfound
    obtain ⟨hsession, id, row, hrow, hsearch, hrowSession⟩ := joinSearch_row hfound
    exact ⟨hsession, by rw [← hsearch]; exact howned hrow hrowSession⟩
  case unchanged =>
    intro searchId owner howner hother id other hsearch
    cases SearchState.writes hsound hgenuine hown with
    | none hsearches => rw [hsearches]
    | page newId rowId row sessionId hwritten hid hsession hrowSession hwriter hissued =>
      -- the row that is written is one of another search
      have hne : row.searchId ≠ searchId := by
        rintro rfl
        rcases hwriter with ⟨hnone, -⟩ | ⟨hsome, -⟩
        · rw [hnone] at howner
          cases howner
        · rw [howner] at hsome
          exact hother (hsession.trans hsome.symm)
      rw [hwritten.row_eq]
      split
      · next hid =>
        constructor
        · intro h
          exact absurd (Option.some.inj h ▸ hsearch) hne
        · intro h
          rw [hid] at h
          exact absurd ((hwritten.old h).1.symm.trans hsearch) hne
      · rfl

end

/-! ## The result -/

/-- Before the first search. -/
def SearchState.init (store : SearchStore) : SearchState where
  store := { store with searches := Table.empty }
  owner := fun _ => none
  issued := []

lemma SearchState.sound_init (py : Py) (cp : CursorPy) (settings : SearchSettings)
    (store : SearchStore) : (SearchState.init store).Sound py cp settings where
  owned := by
    rintro id row ⟨⟩
  id_lt := by
    rintro id row ⟨⟩
  issued := by
    rintro cursor ⟨⟩

/-- As long as each session presents cursors of its own searches only, every row keeps the session
that created its search, only that session replays it or hands it to Core, and the requests of
others change no row of it. -/
theorem searches_owned {py : Py} {cp : CursorPy} (hcp : cp.Laws) (settings : SearchSettings)
    (store : SearchStore) (ops : List SearchOp)
    (hrun : EachStep (SearchState.step py cp settings)
      (fun state op => Genuine py cp settings state op ∧ OwnCursor py cp settings state op)
      (.init store) ops) :
    EachStep (SearchState.step py cp settings)
      (fun state op => OwnerOnly py cp settings state op ∧
        SearchesOwned (state.step py cp settings op)) (.init store) ops := by
  refine EachStep.imp_of_invariant (I := SearchState.Sound py cp settings) ?_ ?_
    (SearchState.sound_init py cp settings store) hrun
  · exact fun state op hsound h => hsound.step hcp h.1 h.2
  · exact fun state op hsound h => ⟨hsound.ownerOnly h.1 h.2, (hsound.step hcp h.1 h.2).owned⟩

/-! ## A visitor who passes a cursor on, and one who does not -/

/-- The cursor of the second page, in the sample. -/
def passedCursor : String :=
  pageCursor Sample.searchPy Sample.cursorPy Sample.searchSettings Sample.searchBody
    Sample.searchFilters 1 1

/-- A search, and a request for its second page with this cookie. -/
def passedOps (cookie : Option String) : List SearchOp :=
  [.search (Sample.searchCall 1 none none), .search (Sample.searchCall 2 cookie (some passedCursor))]

/-- The system of the sample. -/
def sampleStep : SearchState → SearchOp → SearchState :=
  SearchState.step Sample.searchPy Sample.cursorPy Sample.searchSettings

/-- The two requests are served, and the second one stores a page of the first one's search. -/
lemma passedOps_served (cookie : Option String) :
    ∃ response₁ store₁ row₁ session response₂ store₂ row₂,
      search Sample.searchPy Sample.cursorPy Sample.searchSettings (Sample.searchCall 1 none none)
        (SearchState.init Sample.searchStore).store = .ok (response₁, store₁) ∧
      store₁.sessions = Table.empty.insert 1 ⟨uuidText 1, Sample.start + sessionTtl⟩ ∧
      PageServed Sample.searchPy Sample.cursorPy Sample.searchSettings
        (Sample.searchCall 1 none none) Sample.searchFilters 1 ⟨0, 1⟩
        [Sample.searchItem 1, Sample.searchItem 2] (SearchState.init Sample.searchStore).store
        response₁ store₁ row₁ ∧
      getOrCreateSession cookie Sample.start 2 (uuidText 2) store₁.sessions = .ok session ∧
      search Sample.searchPy Sample.cursorPy Sample.searchSettings
        (Sample.searchCall 2 cookie (some passedCursor)) store₁ = .ok (response₂, store₂) ∧
      store₂.sessions = session.2 ∧
      PageServed Sample.searchPy Sample.cursorPy Sample.searchSettings
        (Sample.searchCall 2 cookie (some passedCursor)) Sample.searchFilters session.1 ⟨1, 1⟩
        [Sample.searchItem 1, Sample.searchItem 2] store₁ response₂ store₂ row₂ := by
  have hwalker : Walker Sample.searchPy Sample.searchBody Sample.searchFilters
      [Sample.searchItem 1, Sample.searchItem 2]
      [Sample.searchCall 1 none none, Sample.searchCall 2 cookie (some passedCursor)]
      (SearchState.init Sample.searchStore).store := by
    refine ⟨?_, ?_, Sample.searchBody_normalize, ?_⟩
    · simp only [List.forall_mem_cons, List.not_mem_nil, false_imp_iff, implies_true, and_true]
      exact ⟨⟨none, rfl⟩, some passedCursor, rfl⟩
    · simp [Sample.searchCall]
    · simp only [List.forall_mem_cons, List.not_mem_nil, false_imp_iff, implies_true, and_true]
      exact ⟨Sample.searchStore_matches, Sample.searchStore_matches⟩
  have hnew : NewCalls [Sample.searchCall 1 none none,
      Sample.searchCall 2 cookie (some passedCursor)] (SearchState.init Sample.searchStore).store := by
    have hids : ([1, 2] : List ℕ).Nodup := by decide
    have htokens : [uuidText 1, uuidText 2].Nodup := by decide +kernel
    refine ⟨hids, fun _ _ => rfl, hids, fun _ _ => rfl, htokens, ?_⟩
    rintro call - id session ⟨⟩
  have hplace : searchPlace Sample.searchPy Sample.cursorPy Sample.searchSettings none
      (filterDigest Sample.searchPy Sample.cursorPy Sample.searchFilters.filters)
      Sample.searchBody.limit 1 = .ok ⟨0, 1⟩ := rfl
  have hid : (1 : ℕ) < 2 ^ 128 := by norm_num
  obtain ⟨session₁, response₁, store₁, row₁, hsession₁, hsearch₁, hsessions₁, hserved₁, hwalker',
    hnew'⟩ := search_served Sample.searchSettings hwalker hnew hplace
  obtain ⟨session₂, response₂, store₂, row₂, hsession₂, hsearch₂, hsessions₂, hserved₂, -⟩ :=
    search_served Sample.searchSettings hwalker' hnew'
      (searchPlace_pageCursor Sample.cursorPy_laws hid 1 2)
  have hfirst : getOrCreateSession none Sample.start 1 (uuidText 1) Table.empty =
      .ok (1, Table.empty.insert 1 ⟨uuidText 1, Sample.start + sessionTtl⟩) := rfl
  obtain rfl := Except.ok.inj (hfirst.symm.trans hsession₁)
  exact ⟨response₁, store₁, row₁, session₂, response₂, store₂, row₂, hsearch₁, hsessions₁, hserved₁,
    hsession₂, hsearch₂, hsessions₂, hserved₂⟩

lemma passedCursor_ne : passedCursor ≠ "" :=
  encodeCursor_ne_empty Sample.cursorPy_laws _ _ _ _ _

/-- The first request issues the cursor, and its search belongs to session 1. -/
lemma step_first {response : SearchResponse} {store : SearchStore} {row : Search}
    (hsearch : search Sample.searchPy Sample.cursorPy Sample.searchSettings
      (Sample.searchCall 1 none none) (SearchState.init Sample.searchStore).store =
        .ok (response, store))
    (hserved : PageServed Sample.searchPy Sample.cursorPy Sample.searchSettings
      (Sample.searchCall 1 none none) Sample.searchFilters 1 ⟨0, 1⟩
      [Sample.searchItem 1, Sample.searchItem 2] (SearchState.init Sample.searchStore).store
      response store row) :
    sampleStep (.init Sample.searchStore) (.search (Sample.searchCall 1 none none)) =
      ⟨store, Function.update (fun _ => none) 1 (some 1), [passedCursor]⟩ := by
  have hnext : response.nextCursor = some passedCursor := hserved.nextCursor
  have hid : response.searchId = 1 := hserved.responseSearch
  have hnew : (Sample.searchCall 1 none none).isNew = true := rfl
  simp only [sampleStep, SearchState.step, hsearch, hnext, hid, hnew, if_true]
  rfl

/-- Whoever sends them, the ids are new and the cursor was issued. -/
lemma passedOps_genuine (cookie : Option String) :
    EachStep sampleStep
      (fun state op =>
        Genuine Sample.searchPy Sample.cursorPy Sample.searchSettings state op)
      (.init Sample.searchStore) (passedOps cookie) := by
  obtain ⟨response₁, store₁, row₁, session, response₂, store₂, row₂, hsearch₁, -, hserved₁, -⟩ :=
    passedOps_served cookie
  refine ⟨⟨?_, ?_⟩, ?_, trivial⟩
  · rintro call ⟨⟩ -
    exact ⟨by show (1 : ℕ) < 2 ^ 128; norm_num, rfl⟩
  · rintro call place ⟨⟩ ⟨-, hcursor, -⟩
    cases hcursor
  · rw [step_first hsearch₁ hserved₁]
    refine ⟨?_, ?_⟩
    · rintro call ⟨⟩ hnew
      exact absurd (of_decide_eq_true hnew) passedCursor_ne
    · rintro call place ⟨⟩ ⟨-, -, normalized, -, hplace⟩
      simp only [Sample.searchCall, searchPlace, if_neg passedCursor_ne] at hplace
      rw [mapErr_ok_iff] at hplace
      exact ⟨passedCursor, List.mem_singleton_self _, _, _, hplace⟩

/-- A visitor who owns a search and asks for its second page. -/
theorem searches_owned_two_pages :
    EachStep sampleStep
      (fun state op => OwnerOnly Sample.searchPy Sample.cursorPy Sample.searchSettings state op ∧
        SearchesOwned (sampleStep state op))
      (.init Sample.searchStore) (passedOps (some (uuidText 1))) := by
  refine searches_owned Sample.cursorPy_laws Sample.searchSettings Sample.searchStore _ ?_
  obtain ⟨hgenuine₁, hgenuine₂, -⟩ := passedOps_genuine (some (uuidText 1))
  obtain ⟨response₁, store₁, row₁, session, response₂, store₂, row₂, hsearch₁, hsessions₁,
    hserved₁, hsession, -⟩ := passedOps_served (some (uuidText 1))
  refine ⟨⟨hgenuine₁, ?_⟩, ⟨hgenuine₂, ?_⟩, trivial⟩
  · rintro call place ⟨⟩ ⟨-, hcursor, -⟩
    cases hcursor
  · show OwnCursor _ _ _ (sampleStep _ _) _
    rw [step_first hsearch₁ hserved₁]
    rintro call place ⟨⟩ - id row hrow -
    -- the only row is the one that the first request stored
    have hcookie : getExistingSession (some (uuidText 1)) Sample.start store₁.sessions =
        some 1 := by
      rw [hsessions₁]
      decide +kernel
    have hmine : (SearchOp.search (Sample.searchCall 2 (some (uuidText 1))
        (some passedCursor))).session store₁ = some 1 := by
      simp only [SearchOp.session, Sample.searchCall, getOrCreateSession_existing hcookie,
        Except.toOption, Option.map_some]
    rw [hserved₁.written.row_eq] at hrow
    split at hrow
    · obtain rfl := Option.some.inj hrow
      rw [hmine]
      exact hserved₁.session
    · cases hrow

/-- The handing over of the search of the sample to Core, by session 2. -/
def passedJoin : JoinCall where
  searchId := 1
  consent := true
  returnUrl := "https://app.example.org/welcome"
  idempotencyKey := "00000000-0000-0000"
  cookie := some (uuidText 2)
  allowed := true
  sessionAt := Sample.start
  sessionId := 3
  token := uuidText 3
  joinRequestId := 1
  returnUrlAllowed := true
  core := fun _ _ => .ok [("id", .str "1"), ("status", .str "created")]

/-- A visitor without a cookie who is passed the cursor: the second page of the search is stored
under the visitor's session, which may then hand the search to Core. -/
theorem passed_cursor_moves_search :
    EachStep sampleStep
      (fun state op => Genuine Sample.searchPy Sample.cursorPy Sample.searchSettings state op)
      (.init Sample.searchStore) (passedOps none) ∧
    ¬ SearchesOwned (run sampleStep (.init Sample.searchStore) (passedOps none)) ∧
    (run sampleStep (.init Sample.searchStore) (passedOps none)).owner 1 = some 1 ∧
    ∃ sessions row, joinSearch Sample.searchSettings passedJoin
      (run sampleStep (.init Sample.searchStore) (passedOps none)).store =
        .ok (2, sessions, row) := by
  obtain ⟨response₁, store₁, row₁, session, response₂, store₂, row₂, hsearch₁, hsessions₁,
    hserved₁, hsession, hsearch₂, hsessions₂, hserved₂⟩ := passedOps_served none
  have hsession' : getOrCreateSession none Sample.start 2 (uuidText 2) store₁.sessions =
      .ok (2, store₁.sessions.insert 2 ⟨uuidText 2, Sample.start + sessionTtl⟩) := by
    rw [hsessions₁]
    rfl
  obtain rfl := Except.ok.inj (hsession'.symm.trans hsession)
  have hnew : (Sample.searchCall 2 none (some passedCursor)).isNew = false :=
    decide_eq_false passedCursor_ne
  have hrun : run sampleStep (.init Sample.searchStore) (passedOps none) =
      ⟨store₂, Function.update (fun _ => none) 1 (some 1),
        [passedCursor] ++ response₂.nextCursor.toList⟩ := by
    rw [passedOps, run_cons, step_first hsearch₁ hserved₁, run_cons, run_nil]
    simp only [sampleStep, SearchState.step, hsearch₂, hnew, Bool.false_eq_true, if_false]
  have hrow : store₂.searches.row response₂.responseId = some row₂ := by
    rw [hserved₂.written.row_eq, if_pos rfl]
  rw [hrun]
  refine ⟨passedOps_genuine none, ?_, rfl, ?_⟩
  · intro howned
    obtain ⟨owner, howner, hrowOwner⟩ := howned _ row₂ hrow
    have hsearch : row₂.searchId = 1 := hserved₂.searchId
    have htwo : row₂.sessionId = some 2 := hserved₂.session
    rw [hsearch] at howner
    have hone : some 1 = some owner := howner
    rw [← hone, htwo] at hrowOwner
    cases hrowOwner
  · have hmatch : (decide (row₂.searchId = 1 ∧ row₂.sessionId = some 2)) = true :=
      decide_eq_true ⟨hserved₂.searchId, hserved₂.session⟩
    have hjoin : getExistingSession (some (uuidText 2)) Sample.start store₂.sessions = some 2 := by
      rw [hsessions₂, hsessions₁]
      decide +kernel
    obtain ⟨row, hfound⟩ : ∃ row, (store₂.searches.findKey fun row =>
        decide (row.searchId = 1 ∧ row.sessionId = some 2)).bind store₂.searches.row = some row := by
      cases hkey : store₂.searches.findKey fun row =>
          decide (row.searchId = 1 ∧ row.sessionId = some 2) with
      | none =>
        have hnot := Table.findKey_eq_none.mp hkey _ row₂ hrow
        rw [hmatch] at hnot
        cases hnot
      | some id =>
        obtain ⟨row, hfound, -⟩ := Table.findKey_eq_some hkey
        exact ⟨row, hfound⟩
    refine ⟨store₂.sessions, row, ?_⟩
    have hconfigured : configured Sample.searchSettings.coreJoinIntentUrl ∧
        configured Sample.searchSettings.coreServiceToken ∧
        configured Sample.searchSettings.coreAllowedReturnUrlPrefix := by decide
    simp only [joinSearch, getOrCreateSession_existing hjoin, unhandled, Except.mapError, bind, Except.bind, hconfigured,
      passedJoin, not_true_eq_false, if_false, and_self, pure, Except.pure]
    split
    · next hnone => cases hnone.symm.trans hfound
    · next other hother => rw [Option.some.inj (hother.symm.trans hfound)]

end ScholarshipFinder
