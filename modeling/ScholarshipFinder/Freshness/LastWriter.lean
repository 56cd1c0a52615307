import ScholarshipFinder.Sample

/-!
# Who decided on the status

`auto_downgraded` is to mark the cycles that a tick closed for the age of their evidence, so
that a sweep may reopen these and no others.  The last writer of `public_status` is kept
beside the database as a history variable; `flagLaw_iff` says that the flag means what it
should in every state of a run exactly if no correction sets the status of a flagged cycle.
-/

namespace ScholarshipFinder

open Lib

/-- Who wrote a `public_status`. -/
inductive Writer
  | reviewer
  | withdrawal
  /-- A tick, for the age of the evidence. -/
  | staleness
  /-- A tick, for a deadline or a window that ran out. -/
  | lapse
  | sweep
deriving DecidableEq, Repr

variable (py : Py) (settings : Settings) (c : CycleId)

/-- The last writer of the status of the cycle, after a step. -/
def lastWriter (writer : Option Writer) (db : Db) (step : Step) : Option Writer :=
  match step with
  | .publish args _ => if args.cycleId = c ∧ accepted py db step then some .reviewer else writer
  | .patch _ _ cycleId changes =>
    if (cycleId = c ∧ accepted py db step) ∧ changes.publicStatus.hasValue then some .reviewer
    else writer
  | .withdraw scholarshipId =>
    if accepted py db step ∧ (db.cycles.row c).any (·.scholarshipId = scholarshipId) then
      some .withdrawal
    else writer
  | .tick _ now =>
    match scannedAt settings c db step, db.cycles.row c with
    | some _, some r =>
      if (refreshRow py (freshnessConfig settings) now r).publicStatus = r.publicStatus then writer
      else if downgradingForStaleness py (freshnessConfig settings) now r then some .staleness
      else some .lapse
    | _, _ => writer
  | .turn .. =>
    if ((exec py settings db step).cycles.row c).map (·.publicStatus) =
        (db.cycles.row c).map (·.publicStatus) then writer
    else some .sweep

/-- The database with the last writer of the status. -/
def writerStep : Db × Option Writer → Step → Db × Option Writer :=
  withHistory (exec py settings) (lastWriter py settings c)

/-- A flagged cycle is closed, and a tick closed it for the age of its evidence. -/
def FlagLaw (s : Db × Option Writer) : Prop :=
  ∀ r, s.1.cycles.row c = some r → r.autoDowngraded = true →
    r.publicStatus = .statusUnknown ∧ s.2 = some .staleness

/-- The step is not an accepted correction that sets the status of a flagged cycle. -/
def RespectsFlag (db : Db) (step : Step) : Prop :=
  ∀ countries scholarshipId changes, step = .patch countries scholarshipId c changes →
    changes.publicStatus.hasValue → accepted py db step →
    ∀ r, db.cycles.row c = some r → r.autoDowngraded = false

/-- A sweep reopens the cycle only if a tick closed it for the age of its evidence. -/
def NoOverride (s : Db × Option Writer) (step : Step) : Prop :=
  ∀ sourceId now cycleId fetch r r', step = .turn sourceId now cycleId fetch →
    s.1.cycles.row c = some r → (exec py settings s.1 step).cycles.row c = some r' →
    r.publicStatus ≠ .openVerified → r'.publicStatus = .openVerified → s.2 = some .staleness

def Step.isWithdrawal : Step → Bool
  | .withdraw _ => true
  | _ => false

variable {py settings c}

/-- The law after a step that changes neither the row nor its writer. -/
lemma FlagLaw.same {s s' : Db × Option Writer} (h : FlagLaw c s)
    (hrow : s'.1.cycles.row c = s.1.cycles.row c) (hwriter : s'.2 = s.2) : FlagLaw c s' := by
  intro r hr hflag
  rw [hwriter]
  exact h r (hrow ▸ hr) hflag

lemma FlagLaw.of_clear {s : Db × Option Writer} {r : ScholarshipCycle}
    (hr : s.1.cycles.row c = some r) (hflag : r.autoDowngraded = false) : FlagLaw c s := by
  intro r' hr' hset
  rw [hr, Option.some.injEq] at hr'
  rw [← hr', hflag] at hset
  cases hset

/-- The law after a step of the scheduled jobs. -/
lemma FlagLaw.automatic {s : Db × Option Writer} {step : Step} (h : FlagLaw c s)
    (hauto : step.automatic) : FlagLaw c (writerStep py settings c s step) := by
  obtain ⟨db, writer⟩ := s
  cases hr : db.cycles.row c with
  | none =>
    intro r hr' _
    have hnone := row_none_of_automatic py settings hauto hr
    rw [writerStep, withHistory] at hr'
    rw [hnone] at hr'
    cases hr'
  | some r =>
    cases step with
    | publish args now => cases hauto
    | patch countries sid cid changes => cases hauto
    | withdraw sid => cases hauto
    | tick limit now =>
      rcases tick_row py settings limit now db c with ⟨hscan, hrow, -⟩ | ⟨hscan, hrow⟩
      · rw [hr, Option.map_some] at hrow
        rcases refreshRow_cases py (freshnessConfig settings) now r with
          ⟨hstatus, hflag⟩ | ⟨hopen, hunknown, ⟨hstale, -⟩ | ⟨-, hflag⟩⟩
        · -- the status stays
          intro r' hr' hset
          rw [writerStep, withHistory, hrow, Option.some.injEq] at hr'
          rw [← hr', hflag] at hset
          obtain ⟨hunknown, hwriter⟩ := h r hr hset
          refine ⟨by rw [← hr', hstatus, hunknown], ?_⟩
          simp only [writerStep, withHistory, lastWriter, hscan, hr, hstatus, if_true]
          exact hwriter
        · -- a downgrade for staleness
          intro r' hr' _
          rw [writerStep, withHistory, hrow, Option.some.injEq] at hr'
          refine ⟨by rw [← hr', hunknown], ?_⟩
          simp [writerStep, withHistory, lastWriter, hscan, hr, hunknown, hopen, hstale]
        · -- another downgrade: the flag was not set
          have hclear : r.autoDowngraded = false := by
            by_contra hset
            have hunknown' := (h r hr (by simpa using hset)).1
            rw [hopen] at hunknown'
            cases hunknown'
          exact FlagLaw.of_clear (s := writerStep py settings c (db, writer) (.tick limit now))
            hrow (hflag.trans hclear)
      · refine h.same hrow ?_
        simp only [writerStep, withHistory, lastWriter, hscan]
    | turn sourceId now cycleId fetch =>
      obtain ⟨r', hrow, hmove⟩ := rowMove_of_automatic py settings hauto hr
      have hkept : r'.publicStatus = r.publicStatus → r'.autoDowngraded = r.autoDowngraded →
          FlagLaw c (writerStep py settings c (db, writer) (.turn sourceId now cycleId fetch)) := by
        intro hstatus hflag r₁ hr₁ hset
        rw [writerStep, withHistory, hrow, Option.some.injEq] at hr₁
        rw [← hr₁, hflag] at hset
        obtain ⟨hunknown, hwriter⟩ := h r hr hset
        refine ⟨by rw [← hr₁, hstatus, hunknown], ?_⟩
        simp only [writerStep, withHistory, lastWriter, hrow, hr, Option.map_some, hstatus, if_true]
        exact hwriter
      cases hmove with
      | idle p _ _ => exact hkept rfl rfl
      | refreshed hscan _ => cases hscan
      | @renewed now p _ _ _ =>
        by_cases hrestore : r.publicStatus = .statusUnknown ∧ r.autoDowngraded = true
        · -- the flag is cleared with the restore
          rw [renewRow, if_pos hrestore] at hrow
          exact FlagLaw.of_clear hrow rfl
        · rw [renewRow, if_neg hrestore] at hrow hkept
          exact hkept rfl rfl

/-- The law after an accepted publication. -/
lemma FlagLaw.publish {s : Db × Option Writer} {args : PublishArgs} {now : Instant}
    (h : FlagLaw c s) : FlagLaw c (writerStep py settings c s (.publish args now)) := by
  obtain ⟨db, writer⟩ := s
  rcases publish_row py settings args now db c with ⟨hnot, hrow⟩ | ⟨-, -, hrow⟩
  · refine h.same hrow ?_
    simp only [writerStep, withHistory, lastWriter, if_neg hnot]
  · exact FlagLaw.of_clear hrow rfl

/-- A correction keeps the law exactly if it does not set the status of a flagged cycle. -/
lemma FlagLaw.patch_iff {s : Db × Option Writer} {countries : CountryVocabulary}
    {scholarshipId : ScholarshipId} {cycleId : CycleId} {changes : UpdateCycleRequest}
    (h : FlagLaw c s) :
    FlagLaw c (writerStep py settings c s (.patch countries scholarshipId cycleId changes)) ↔
      RespectsFlag py c s.1 (.patch countries scholarshipId cycleId changes) := by
  obtain ⟨db, writer⟩ := s
  rcases patch_row py settings countries scholarshipId cycleId changes db c with
    ⟨hnot, hrow⟩ | ⟨⟨rfl, hacc⟩, r, columns, hr, hrow, -, hstatus⟩
  · -- refused, or of another cycle
    refine iff_of_true (h.same hrow ?_) ?_
    · simp only [writerStep, withHistory, lastWriter]
      rw [if_neg fun hall => hnot hall.1]
    · intro countries' sid' changes' heq _ hacc
      cases heq
      exact absurd ⟨rfl, hacc⟩ hnot
  · by_cases hvalue : changes.publicStatus.hasValue = true
    · -- the reviewer writes the status, and nothing of the correction clears the flag
      constructor
      · intro hlaw countries' sid' changes' heq _ _ r' hr'
        rw [hr, Option.some.injEq] at hr'
        subst hr'
        by_contra hset
        have hwriter := (hlaw _ hrow (by simpa [CycleColumns.assign] using hset)).2
        simp [writerStep, withHistory, lastWriter, hacc, hvalue] at hwriter
      · intro hrespects
        have hclear := hrespects _ _ _ rfl hvalue hacc r hr
        exact FlagLaw.of_clear hrow hclear
    · -- the status is not named, and stays
      refine iff_of_true ?_ ?_
      · intro r' hr' hset
        rw [writerStep, withHistory, hrow, Option.some.injEq] at hr'
        rw [← hr'] at hset ⊢
        obtain ⟨hunknown, hwriter⟩ := h r hr hset
        have hsame : changes.publicStatus.newStatus r.publicStatus = r.publicStatus := by
          cases hchange : changes.publicStatus with
          | value status => simp [hchange, Change.hasValue] at hvalue
          | _ => rfl
        refine ⟨by rw [CycleColumns.assign, hstatus, hsame, hunknown], ?_⟩
        simp only [writerStep, withHistory, lastWriter]
        rw [if_neg fun hall => hvalue hall.2]
        exact hwriter
      · intro countries' sid' changes' heq hvalue' _
        cases heq
        exact absurd hvalue' hvalue

/-- The law holds after a step exactly if the step respects the flag. -/
lemma FlagLaw.step_iff {s : Db × Option Writer} {step : Step} (hstep : step.isWithdrawal = false)
    (h : FlagLaw c s) :
    FlagLaw c (writerStep py settings c s step) ↔ RespectsFlag py c s.1 step := by
  have hvacuous : (∀ countries sid changes, step ≠ .patch countries sid c changes) →
      RespectsFlag py c s.1 step := by
    intro hne countries sid changes heq
    exact absurd heq (hne countries sid changes)
  cases step with
  | publish args now => exact iff_of_true h.publish (hvacuous (by simp))
  | patch countries sid cid changes => exact h.patch_iff
  | withdraw sid => cases hstep
  | tick limit now => exact iff_of_true (h.automatic rfl) (hvacuous (by simp))
  | turn sourceId now cid fetch => exact iff_of_true (h.automatic rfl) (hvacuous (by simp))

/-- Under the law, a sweep overrides no reviewer. -/
lemma FlagLaw.noOverride {s : Db × Option Writer} (h : FlagLaw c s) (step : Step) :
    NoOverride py settings c s step := by
  rintro sourceId now cycleId fetch r r' rfl hr hr' hne hopen
  obtain ⟨r₁, hrow, hmove⟩ := rowMove_of_automatic py settings
    (rfl : (Step.turn sourceId now cycleId fetch).automatic = true) hr
  rw [hr', Option.some.injEq] at hrow
  subst hrow
  cases hmove with
  | idle p _ _ => exact absurd hopen hne
  | refreshed hscan _ => cases hscan
  | renewed p _ _ _ =>
    rw [renewRow] at hopen
    split at hopen
    · next hrestore => exact (h r hr hrestore.2).2
    · exact absurd hopen hne

/-- From the moment before its publication, in every run of publications, corrections, ticks
and sweeps: a flagged cycle is closed and was closed by a tick for the age of its evidence, in
every state of the run, exactly if no correction sets the status of the cycle while it is
flagged; and then no sweep reopens a cycle that a reviewer closed. -/
theorem flagLaw_iff {db : Db} (hnew : db.cycles.row c = none) {steps : List Step}
    (hsteps : ∀ s ∈ steps, s.isWithdrawal = false) :
    (EachStep (writerStep py settings c) (fun s step => FlagLaw c (writerStep py settings c s step))
        (db, none) steps ↔
      EachStep (exec py settings) (RespectsFlag py c) db steps) ∧
    (EachStep (exec py settings) (RespectsFlag py c) db steps →
      EachStep (writerStep py settings c) (NoOverride py settings c) (db, none) steps) := by
  have hstart : FlagLaw c (db, none) := by
    intro r hr _
    rw [hnew] at hr
    cases hr
  have hiff : EachStep (writerStep py settings c)
        (fun s step => FlagLaw c (writerStep py settings c s step)) (db, none) steps ↔
      EachStep (writerStep py settings c) (fun s step => RespectsFlag py c s.1 step) (db, none)
        steps := by
    refine eachStep_congr_of_invariant (A := fun s => s.isWithdrawal = false) (I := FlagLaw c)
      ?_ ?_ hsteps hstart
    · intro s step hstep hlaw
      exact hlaw.step_iff hstep
    · intro s step _ _ hlaw
      exact hlaw
  rw [← eachStep_withHistory_fst (p := (db, none))]
  refine ⟨hiff, fun hrespects => ?_⟩
  -- the law holds after each step, so it holds before each step as well
  have hafter := hiff.mpr hrespects
  exact hafter.imp_of_invariant (I := FlagLaw c) (fun _ _ _ hlaw => hlaw)
    (fun s step hlaw _ => hlaw.noOverride step) hstart

/-- A call is published and observed; a tick closes it for staleness; then a reviewer closes
it as well. -/
def overrideRun : List Step := [
  .publish (Sample.publication none) Sample.start,
  .turn 1 (Sample.start + 24 * hour) 1 (Sample.answer 200 [49]),
  .tick none (Sample.start + 48 * hour),
  .patch Sample.countries 1 1 { publicStatus := .value .statusUnknown }]

/-- The flag survives the reviewer's decision, and the next sweep that is due reopens the
cycle against it. -/
theorem flag_overrides_reviewer :
    Sample.unpublished.cycles.row 1 = none ∧ (∀ s ∈ overrideRun, s.isWithdrawal = false) ∧
      ((run (writerStep Sample.py {} 1) (Sample.unpublished, none) overrideRun).1.cycles.row 1).map
        (fun r => (r.publicStatus, r.autoDowngraded)) = some (.statusUnknown, true) ∧
      (run (writerStep Sample.py {} 1) (Sample.unpublished, none) overrideRun).2 =
        some .reviewer ∧
      ((reverifyDueCycles Sample.py {} none (Sample.start + 720 * hour)
          (fun _ => Sample.answer 200 [49])
          (run (exec Sample.py {}) Sample.unpublished overrideRun)).2.cycles.row 1).map
        (fun r => r.publicStatus) = some .openVerified :=
  ⟨rfl, by decide, rfl, rfl, rfl⟩

/-- Without the correction the flag means what it should. -/
theorem flagLaw_without_correction :
    EachStep (writerStep Sample.py {} 1)
      (fun s step => FlagLaw 1 (writerStep Sample.py {} 1 s step)) (Sample.unpublished, none)
      (overrideRun.take 3) := by
  refine (flagLaw_iff rfl (by decide)).1.mpr ⟨?_, ?_, ?_, trivial⟩
  · rintro _ _ _ ⟨⟩
  · rintro _ _ _ ⟨⟩
  · rintro _ _ _ ⟨⟩

end ScholarshipFinder
