import ScholarshipFinder.Sample

/-!
# What an unchanged recheck is compared with

A recheck compares the content it fetched with the hash that the page held before.  That hash
is overwritten by every fetch that is stored, of this cycle or of another one on the same
page, and whatever came of it.  The content that a cycle was last confirmed by (or, until
then, first observed with) is kept beside the database as a history variable, its reference.
-/

namespace ScholarshipFinder

open Lib

variable (py : Py) (settings : Settings) (c : CycleId)

/-- The hash stored on the page before and the hash of the content fetched, if the step is a
turn for the cycle that is answered with a success. -/
def observation (db : Db) : Step → Option (Option String × String)
  | .turn sourceId _ cycleId fetch =>
    match db.cycles.row c with
    | none => none
    | some r =>
      if cycleId = c ∧ db.isPublished r then
        match fetchOfficialPage py settings sourceId c r fetch (Tx.start db) with
        | (.error _, _) => none
        | (.ok (p, previous), tx) =>
          match tx.current.pages.row p with
          | none => none
          | some page =>
            if successStatus (page.httpStatus.getD 0) then
              page.normalizedContentHash.map (previous, ·)
            else none
      else none
  | _ => none

/-- The reference of the cycle after a step: what it was last renewed on or, until then, what
it was first observed with. -/
def reference (ref : Option String) (db : Db) (step : Step) : Option String :=
  match observation py settings c db step with
  | none => ref
  | some (_, new) =>
    if (renewedAt py settings c db step).isSome then some new else ref.or (some new)

/-- The database with the reference of the cycle. -/
def referenceStep : Db × Option String → Step → Db × Option String :=
  withHistory (exec py settings) (reference py settings c)

/-- A step renews or reopens the cycle only on content that it fetched and that is its
reference, if it has one. -/
def ConfirmsReference (s : Db × Option String) (step : Step) : Prop :=
  ∀ r r', s.1.cycles.row c = some r → (exec py settings s.1 step).cycles.row c = some r' →
    (renewedAt py settings c s.1 step).isSome ∨
      r.publicStatus ≠ .openVerified ∧ r'.publicStatus = .openVerified →
    ∃ previous new, observation py settings c s.1 step = some (previous, new) ∧
      ∀ h ∈ s.2, new = h

/-- When the cycle is observed, its page holds its reference still, or nothing. -/
def BaselineKept (s : Db × Option String) (step : Step) : Prop :=
  ∀ previous new, observation py settings c s.1 step = some (previous, new) →
    ∀ old ∈ previous, ∀ h ∈ s.2, old = h

variable {py settings c}

/-- A turn that stored a success is an observation of it. -/
lemma observation_of_fetched {db db₁ : Db} {sourceId : SourceId} {now : Instant}
    {fetch : Fetch} {r : ScholarshipCycle} {p : PageId} {body : FetchedSource}
    (hr : db.cycles.row c = some r) (hpub : db.isPublished r)
    (hfetch : fetchOfficialPage py settings sourceId c r fetch (Tx.start db) =
      (.ok (p, pageHash db p), Tx.start db₁))
    (hstore : PageStored py c r fetch db p body db₁) (hsuccess : successStatus body.statusCode) :
    observation py settings c db (.turn sourceId now c fetch) =
      some (pageHash db p, py.sha256 body.content) := by
  obtain ⟨page, hpage⟩ := hstore.stored
  have hstored : (Tx.start db₁).current.pages.row p =
      some (page.persist py body fetch.completedAt) := hpage
  simp only [observation, hr, hpub, and_self, if_true, hfetch, hstored]
  exact if_pos hsuccess

/-- A turn that renews the cycle has fetched what its page held before. -/
lemma observation_of_renewed {db : Db} {sourceId : SourceId} {now : Instant} {fetch : Fetch}
    (h : (recheckCycle py settings sourceId now c fetch db).1 = .done .renewed) :
    ∃ new, observation py settings c db (.turn sourceId now c fetch) = some (some new, new) := by
  rcases hres : recheckCycle py settings sourceId now c fetch db with ⟨turn, db'⟩
  rw [hres] at h
  rcases recheckCycle_spec hres with ⟨rfl, -⟩ | ⟨r, hr, hpub, hspec⟩
  · cases h
  · cases hspec with
    | unfetched _ _ rest => exact absurd h rest.eq.2
    | @fetched p body _ db₁ _ hfetch store decision =>
      cases decision with
      | renewed same success _ _ =>
        rw [observation_of_fetched hr hpub hfetch store success, same]
        exact ⟨_, rfl⟩
      | changed _ _ _ _ => cases h
      | undecided rest => exact absurd h rest.eq.2

/-- A step of the scheduled jobs reopens a cycle only by renewing it. -/
lemma renewed_of_reopened {db : Db} {step : Step} (hauto : step.automatic)
    {r r' : ScholarshipCycle} (hr : db.cycles.row c = some r)
    (hr' : (exec py settings db step).cycles.row c = some r')
    (hne : r.publicStatus ≠ .openVerified) (hopen : r'.publicStatus = .openVerified) :
    (renewedAt py settings c db step).isSome := by
  obtain ⟨r₁, hr₁, hmove⟩ := rowMove_of_automatic py settings hauto hr
  rw [hr', Option.some.injEq] at hr₁
  subst hr₁
  cases hmove with
  | idle p _ _ => exact absurd hopen hne
  | refreshed _ _ => exact absurd (refreshRow_stays_open hopen).1 hne
  | renewed p hrenew _ _ => rw [hrenew]; rfl

/-- A step that finds the baseline kept confirms nothing but the reference. -/
lemma BaselineKept.confirms {s : Db × Option String} {step : Step} (hauto : step.automatic)
    (h : BaselineKept py settings c s step) : ConfirmsReference py settings c s step := by
  intro r r' hr hr' hconfirms
  -- a reopening is a renewal, so a renewal is all there is to look at
  have hrenewed : (renewedAt py settings c s.1 step).isSome := by
    rcases hconfirms with hrenewed | ⟨hne, hopen⟩
    · exact hrenewed
    · exact renewed_of_reopened hauto hr hr' hne hopen
  cases step with
  | turn sourceId now cycleId fetch =>
    rw [renewedAt] at hrenewed
    split at hrenewed
    · next hturn =>
      obtain ⟨rfl, hturn⟩ := hturn
      obtain ⟨new, hobs⟩ := observation_of_renewed hturn
      exact ⟨some new, new, hobs, h (some new) new hobs new rfl⟩
    · cases hrenewed
  | _ => cases hrenewed

/-- In every run of ticks and sweeps in which each successful sweep of the cycle finds its
page as the cycle last confirmed (or first observed) it, or without content, the cycle is
renewed and reopened on that content only. -/
theorem confirms_reference {db : Db} {ref : Option String} {steps : List Step}
    (hsteps : ∀ s ∈ steps, s.automatic = true)
    (hkept : EachStep (referenceStep py settings c) (BaselineKept py settings c) (db, ref) steps) :
    EachStep (referenceStep py settings c) (ConfirmsReference py settings c) (db, ref) steps :=
  hkept.imp (fun _ _ hauto hstep => hstep.confirms hauto) hsteps

/-- A call is observed; then its page changes and stays as it is. -/
def changedRun : List Step := [
  .turn 1 (Sample.start + 24 * hour) 1 (Sample.answer 200 [49]),
  .turn 1 (Sample.start + 25 * hour) 1 (Sample.answer 200 [50]),
  .turn 1 (Sample.start + 26 * hour) 1 (Sample.answer 200 [50])]

/-- The second sweep flags the change, and the third renews the cycle on the changed page. -/
theorem changed_page_confirmed :
    (∀ s ∈ changedRun, s.automatic = true) ∧
      (recheckCycle Sample.py {} 1 (Sample.start + 25 * hour) 1 (Sample.answer 200 [50])
        (run (exec Sample.py {}) (Sample.db Sample.cycle) (changedRun.take 1))).1 =
          .done .flagged ∧
      ¬ EachStep (referenceStep Sample.py {} 1) (ConfirmsReference Sample.py {} 1)
        (Sample.db Sample.cycle, none) changedRun := by
  refine ⟨by simp [changedRun, Step.automatic], rfl, ?_⟩
  rintro ⟨-, -, hlast, -⟩
  obtain ⟨previous, new, hobs, hnew⟩ := hlast _ _ rfl rfl (Or.inl rfl)
  cases hobs
  exact absurd (hnew _ rfl) (by decide)

/-- A page that stays as it is renews the cycle. -/
theorem unchanged_page_confirmed :
    EachStep (referenceStep Sample.py {} 1) (ConfirmsReference Sample.py {} 1)
      (Sample.db Sample.cycle, none) [
        .turn 1 (Sample.start + 24 * hour) 1 (Sample.answer 200 [49]),
        .turn 1 (Sample.start + 25 * hour) 1 (Sample.answer 200 [49])] := by
  refine confirms_reference (by simp [Step.automatic]) ⟨?_, ?_, trivial⟩
  · rintro previous new hobs old hold h hh
    cases hh
  · rintro previous new hobs old hold h hh
    cases hobs
    cases hold
    cases hh
    rfl

end ScholarshipFinder
