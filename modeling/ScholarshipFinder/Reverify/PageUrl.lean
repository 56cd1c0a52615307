import ScholarshipFinder.Sample

/-!
# Which page a sweep fetches

A cycle is linked to a page at its first sweep, by the URL it publishes then, and every later
sweep fetches that page.  A correction may change the URL and leaves the link alone.  The URL
by which the cycle was linked is kept beside the database as a history variable;
`fetchesPublishedUrl_iff` says that a sweep fetches what the cycle publishes exactly if the
URL still is, up to canonicalisation, the one it was linked by.
-/

namespace ScholarshipFinder

open Lib

variable (py : Py) (settings : Settings) (c : CycleId)

/-- The row of the cycle and the page, if the step is a turn that fetches a page for it. -/
def fetchedPage (db : Db) : Step → Option (ScholarshipCycle × SourcePage)
  | .turn sourceId _ cycleId _ =>
    match db.cycles.row c with
    | none => none
    | some r =>
      if cycleId = c ∧ db.isPublished r then
        match getOrCreateSourcePage py sourceId c r db with
        | .error _ => none
        | .ok (_, page, db') =>
          if (py.urlsplit page.normalizedUrl).toOption.isSome ∧
              (db'.sources.row page.sourceId).any (·.active) then some (r, page)
          else none
      else none
  | _ => none

/-- A page that is fetched for the cycle is the one of the URL that the cycle publishes. -/
def FetchesPublishedUrl (db : Db) (step : Step) : Prop :=
  ∀ r page, fetchedPage py c db step = some (r, page) →
    canonicalizeUrl py r.officialCycleUrl = .ok page.normalizedUrl

/-- The URL by which the cycle was linked to its page, after a step. -/
def linkedUrl (url : Option String) (db : Db) (step : Step) : Option String :=
  match db.cycles.row c, (exec py settings db step).cycles.row c with
  | some r, some r' =>
    if r'.sourcePageId = r.sourcePageId then url
    else (canonicalizeUrl py r.officialCycleUrl).toOption
  | _, _ => url

/-- The database with the URL by which the cycle was linked. -/
def linkStep : Db × Option String → Step → Db × Option String :=
  withHistory (exec py settings) (linkedUrl py settings c)

/-- Where a page is fetched for a cycle that is linked already, the URL is still the one it
was linked by. -/
def LinkedUrlCurrent (s : Db × Option String) (step : Step) : Prop :=
  ∀ r page, fetchedPage py c s.1 step = some (r, page) → linkedPage s.1 r ≠ none →
    ∃ url, s.2 = some url ∧ canonicalizeUrl py r.officialCycleUrl = .ok url

/-- The page that the cycle is linked to exists, and has the URL by which it was linked. -/
def LinkLaw (s : Db × Option String) : Prop :=
  ∀ r p, s.1.cycles.row c = some r → r.sourcePageId = some p →
    ∃ page, s.1.pages.row p = some page ∧ s.2 = some page.normalizedUrl

variable {py settings c}

/-- What `fetchedPage` answers is what `_get_or_create_source_page` answers. -/
lemma fetchedPage_found {db : Db} {step : Step} {r : ScholarshipCycle} {page : SourcePage}
    (h : fetchedPage py c db step = some (r, page)) :
    db.cycles.row c = some r ∧ ∃ p db', PageFound py c r db p page db' := by
  cases step with
  | turn sourceId now cycleId fetch =>
    rw [fetchedPage] at h
    cases hr : db.cycles.row c with
    | none => simp [hr] at h
    | some row =>
      simp only [hr] at h
      split at h
      · cases hget : getOrCreateSourcePage py sourceId c row db with
        | error e => simp [hget] at h
        | ok found =>
          obtain ⟨p, page', db'⟩ := found
          simp only [hget] at h
          split at h
          · cases h
            exact ⟨rfl, p, db', getOrCreateSourcePage_ok hget⟩
          · cases h
      · cases h
  | _ => cases h

/-- A turn that renews the cycle has fetched a page for it. -/
theorem fetchedPage_of_renewed {db : Db} {sourceId : SourceId} {now : Instant} {fetch : Fetch}
    (h : (recheckCycle py settings sourceId now c fetch db).1 = .done .renewed) :
    ∃ r page, fetchedPage py c db (.turn sourceId now c fetch) = some (r, page) := by
  obtain ⟨r, p, previous, tx, hr, hpub, hfetch⟩ := fetchOfficialPage_of_renewed h
  obtain ⟨page, linked, hget, hsplit, hactive⟩ := fetchOfficialPage_ok hfetch
  refine ⟨r, page, ?_⟩
  simp only [fetchedPage, hr, hpub, and_self, if_true, hget, hsplit, hactive]

/-! ## The link along a run -/

/-- No step deletes a page or moves it to another URL. -/
lemma exec_page (db : Db) (step : Step) {q : PageId} {page : SourcePage}
    (hq : db.pages.row q = some page) :
    ∃ page', (exec py settings db step).pages.row q = some page' ∧
      page'.normalizedUrl = page.normalizedUrl := by
  cases step with
  | publish args now =>
    refine ⟨page, ?_, rfl⟩
    cases hres : publishCycle args now db with
    | error e => rwa [exec, hres, orUnchanged]
    | ok db' =>
      obtain ⟨-, -, rfl⟩ := publishCycle_ok hres
      rwa [exec, hres, orUnchanged]
  | patch countries sid cid changes =>
    refine ⟨page, ?_, rfl⟩
    cases hres : updateCycleRoute py countries sid cid changes db with
    | error e => rwa [exec, hres, orUnchanged]
    | ok db' =>
      obtain ⟨row, columns, -, -, -, rfl, -⟩ := updateCycleRoute_ok hres
      rwa [exec, hres, orUnchanged]
  | withdraw sid =>
    refine ⟨page, ?_, rfl⟩
    cases hres : withdrawScholarship sid db with
    | error e => rwa [exec, hres, orUnchanged]
    | ok db' =>
      obtain ⟨-, hpages, -⟩ := withdrawScholarship_ok hres
      rwa [exec, hres, orUnchanged, hpages]
  | tick limit now => exact ⟨page, hq, rfl⟩
  | turn sourceId now cycleId fetch =>
    exact (recheckCycle_frame py settings sourceId now cycleId fetch db).pages q page hq

/-- A step leaves the link of the cycle alone, or links it to the page of its URL. -/
lemma exec_link {db : Db} {step : Step} {r r' : ScholarshipCycle} (hr : db.cycles.row c = some r)
    (hr' : (exec py settings db step).cycles.row c = some r') :
    r'.sourcePageId = r.sourcePageId ∨
      ∃ q, r'.sourcePageId = some q ∧ OfficialPage py r (exec py settings db step) q := by
  cases step with
  | publish args now =>
    rcases publish_row py settings args now db c with ⟨-, hrow⟩ | ⟨-, hnone, -⟩
    · rw [hr', hr, Option.some.injEq] at hrow
      rw [hrow]
      exact Or.inl rfl
    · rw [hr] at hnone
      cases hnone
  | patch countries sid cid changes =>
    rcases patch_row py settings countries sid cid changes db c with
      ⟨-, hrow⟩ | ⟨-, r₀, columns, hr₀, hrow, -, -⟩
    · rw [hr', hr, Option.some.injEq] at hrow
      rw [hrow]
      exact Or.inl rfl
    · rw [hr, Option.some.injEq] at hr₀
      rw [hr', Option.some.injEq] at hrow
      rw [hrow, ← hr₀]
      exact Or.inl rfl
  | withdraw sid =>
    rw [exec] at hr'
    cases hres : withdrawScholarship sid db with
    | error e =>
      rw [hres, orUnchanged, hr, Option.some.injEq] at hr'
      rw [hr']
      exact Or.inl rfl
    | ok db' =>
      obtain ⟨-, -, -, -, hrows⟩ := withdrawScholarship_ok hres
      rw [hres, orUnchanged, hrows, hr, Option.map_some, Option.some.injEq] at hr'
      rw [← hr']
      split <;> exact Or.inl rfl
  | tick limit now =>
    rcases tick_row py settings limit now db c with ⟨-, hrow, -⟩ | ⟨-, hrow⟩
    · rw [hr', hr, Option.map_some, Option.some.injEq] at hrow
      obtain ⟨v, status, flag, heq⟩ := refreshRow_eq py (freshnessConfig settings) now r
      rw [hrow, heq]
      exact Or.inl rfl
    · rw [hr', hr, Option.some.injEq] at hrow
      rw [hrow]
      exact Or.inl rfl
  | turn sourceId now cycleId fetch =>
    by_cases hc : cycleId = c
    · subst hc
      rcases hres : recheckCycle py settings sourceId now cycleId fetch db with ⟨turn, db'⟩
      obtain ⟨p, hlink, hrow⟩ := recheckCycle_row hres hr
      rw [exec, hres] at hr' ⊢
      have hp : r'.sourcePageId = p := by
        rcases hrow with ⟨-, hrow⟩ | ⟨-, -, -, hrow⟩ <;>
          rw [hr', Option.some.injEq] at hrow <;> rw [hrow]
      rw [hp]
      rcases hlink with rfl | ⟨-, hq⟩
      · exact Or.inl rfl
      · exact Or.inr hq
    · have hframe := recheckCycle_frame py settings sourceId now cycleId fetch db
      rw [exec, hframe.other c (Ne.symm hc), hr, Option.some.injEq] at hr'
      rw [hr']
      exact Or.inl rfl

/-- A cycle is published without a link. -/
lemma exec_unlinked {db : Db} {step : Step} {r' : ScholarshipCycle} (hr : db.cycles.row c = none)
    (hr' : (exec py settings db step).cycles.row c = some r') : r'.sourcePageId = none := by
  have hnone : ∀ {db'}, db'.cycles.row c = none → exec py settings db step = db' →
      r'.sourcePageId = none := by
    intro db' hrow heq
    rw [heq, hrow] at hr'
    cases hr'
  cases step with
  | publish args now =>
    rcases publish_row py settings args now db c with ⟨-, hrow⟩ | ⟨-, -, hrow⟩
    · rw [hr', hr] at hrow
      cases hrow
    · rw [hr', Option.some.injEq] at hrow
      rw [hrow]
      rfl
  | patch countries sid cid changes =>
    rcases patch_row py settings countries sid cid changes db c with
      ⟨-, hrow⟩ | ⟨-, r₀, columns, hr₀, -⟩
    · exact hnone (hrow.trans hr) rfl
    · rw [hr] at hr₀
      cases hr₀
  | withdraw sid =>
    cases hres : withdrawScholarship sid db with
    | error e => exact hnone hr (by rw [exec, hres, orUnchanged])
    | ok db' =>
      obtain ⟨-, -, -, -, hrows⟩ := withdrawScholarship_ok hres
      exact hnone (by rw [hrows, hr, Option.map_none]) (by rw [exec, hres, orUnchanged])
  | tick limit now => exact hnone (row_none_of_automatic py settings rfl hr) rfl
  | turn sourceId now cycleId fetch => exact hnone (row_none_of_automatic py settings rfl hr) rfl

/-- Every step keeps the link law. -/
lemma LinkLaw.step {s : Db × Option String} (h : LinkLaw c s) (step : Step) :
    LinkLaw c (linkStep py settings c s step) := by
  obtain ⟨db, url⟩ := s
  intro r' p hr' hp
  rw [linkStep, withHistory] at hr' ⊢
  simp only at hr' ⊢
  cases hr : db.cycles.row c with
  | none =>
    rw [exec_unlinked hr hr'] at hp
    cases hp
  | some r =>
    simp only [linkedUrl, hr, hr']
    split
    · -- the link is the one before
      next hsame =>
      obtain ⟨page, hpage, hurl⟩ := h r p hr (hsame ▸ hp)
      obtain ⟨page', hpage', heq⟩ := exec_page db step hpage
      exact ⟨page', hpage', by rw [heq]; exact hurl⟩
    · next hnew =>
      obtain ⟨q, hq, page, hpage, hcan⟩ := (exec_link hr hr').resolve_left hnew
      rw [hp, Option.some.injEq] at hq
      subst hq
      exact ⟨page, hpage, by rw [hcan]; rfl⟩

/-- Under the link law, what is fetched is what the cycle publishes exactly if the URL by
which it was linked is current. -/
lemma LinkLaw.fetches_iff {s : Db × Option String} (h : LinkLaw c s) (step : Step) :
    FetchesPublishedUrl py c s.1 step ↔ LinkedUrlCurrent py c s step := by
  constructor
  · intro hfetches r page hpage hlinked
    obtain ⟨hr, p, db', hfound⟩ := fetchedPage_found hpage
    rcases hfound.url with hlink | ⟨hnone, -⟩
    · obtain ⟨hp, hstored⟩ := linkedPage_eq_some.mp hlink
      obtain ⟨page', hpage', hurl⟩ := h r p hr hp
      rw [hstored, Option.some.injEq] at hpage'
      subst hpage'
      exact ⟨_, hurl, hfetches r page hpage⟩
    · exact absurd hnone hlinked
  · intro hcurrent r page hpage
    obtain ⟨hr, p, db', hfound⟩ := fetchedPage_found hpage
    rcases hfound.url with hlink | ⟨-, hcan⟩
    · -- the page remembered has the URL of the linking, which is current
      obtain ⟨hp, hstored⟩ := linkedPage_eq_some.mp hlink
      obtain ⟨page', hpage', hurl⟩ := h r p hr hp
      rw [hstored, Option.some.injEq] at hpage'
      subst hpage'
      obtain ⟨url, hurl', hcan⟩ := hcurrent r page hpage (by rw [hlink]; simp)
      rw [hurl, Option.some.injEq] at hurl'
      rw [hcan, hurl']
    · exact hcan

/-- From the moment before its publication, in every run of operations: whatever page a sweep
fetches for the cycle is the one of the URL that the cycle publishes then, exactly if the
sweeps after the one that linked the cycle find its URL, canonicalised, as it was. -/
theorem fetchesPublishedUrl_iff {db : Db} (hnew : db.cycles.row c = none) (steps : List Step) :
    EachStep (linkStep py settings c) (fun s step => FetchesPublishedUrl py c s.1 step)
        (db, none) steps ↔
      EachStep (linkStep py settings c) (LinkedUrlCurrent py c) (db, none) steps := by
  have hstart : LinkLaw c (db, none) := by
    intro r p hr _
    rw [hnew] at hr
    cases hr
  refine eachStep_congr_of_invariant (A := fun _ => True) (I := LinkLaw c) ?_ ?_
    (fun _ _ => trivial) hstart
  · intro s step _ h
    exact h.fetches_iff step
  · intro s step _ h _
    exact h.step step

/-- A call is published and observed, and then its URL is corrected. -/
def movedRun : List Step := [
  .publish (Sample.publication none) Sample.start,
  .turn 1 (Sample.start + 24 * hour) 1 (Sample.answer 200 [49]),
  .patch Sample.countries 1 1 { officialCycleUrl := .value Sample.movedUrl }]

/-- The next sweep fetches the page of the old URL, finds it unchanged and renews the cycle. -/
theorem moved_cycle_renewed_by_old_page :
    Sample.unpublished.cycles.row 1 = none ∧
      (fetchedPage Sample.py 1 (run (exec Sample.py {}) Sample.unpublished movedRun)
        (.turn 1 (Sample.start + 25 * hour) 1 (Sample.answer 200 [49]))).map
          (fun found => (found.1.officialCycleUrl, found.2.normalizedUrl)) =
        some (Sample.movedUrl, Sample.awardUrl) ∧
      canonicalizeUrl Sample.py Sample.movedUrl = .ok Sample.movedUrl ∧
      (recheckCycle Sample.py {} 1 (Sample.start + 25 * hour) 1 (Sample.answer 200 [49])
        (run (exec Sample.py {}) Sample.unpublished movedRun)).1 = .done .renewed :=
  ⟨rfl, rfl, rfl, rfl⟩

/-- Without the correction, each sweep fetches the published page. -/
theorem published_page_fetched :
    EachStep (linkStep Sample.py {} 1) (fun s step => FetchesPublishedUrl Sample.py 1 s.1 step)
      (Sample.unpublished, none)
      (movedRun.take 2 ++ [.turn 1 (Sample.start + 25 * hour) 1 (Sample.answer 200 [49])]) := by
  refine (fetchesPublishedUrl_iff rfl _).mpr ⟨?_, ?_, ?_, trivial⟩
  · intro r page hpage
    cases hpage
  · intro r page hpage hlinked
    cases hpage
    exact absurd rfl hlinked
  · intro r page hpage _
    cases hpage
    exact ⟨_, rfl, rfl⟩

end ScholarshipFinder
