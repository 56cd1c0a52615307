import ScholarshipFinder.Freshness.OpenSpan

/-!
# What a correction is worth

A correction that does not name `status_valid_until` keeps the stored one, although a tick
computed it from the deadline and the evidence before the correction.  The corrected cycle
stays open for as long as it should exactly if that window reaches as far.
-/

namespace ScholarshipFinder

open Lib

variable {py : Py} {settings : Settings} {c : CycleId}

/-- The row after a correction that does not name the validity window. -/
lemma corrected_window {countries : CountryVocabulary} {scholarshipId : ScholarshipId}
    {changes : UpdateCycleRequest} {db db₁ : Db}
    (hok : updateCycleRoute py countries scholarshipId c changes db = .ok db₁)
    (homitted : changes.statusValidUntil = .omitted) {r r₁ : ScholarshipCycle}
    (hr : db.cycles.row c = some r) (hr₁ : db₁.cycles.row c = some r₁) :
    r₁.statusValidUntil = r.statusValidUntil := by
  obtain ⟨row, columns, hrow, -, -, rfl, -, -, hwindow, -⟩ := updateCycleRoute_ok hok
  rw [hr, Option.some.injEq] at hrow
  subst hrow
  simp only [Table.row_modify_self, hr, Option.map_some, Option.some.injEq] at hr₁
  rw [← hr₁, CycleColumns.assign, hwindow, homitted, Change.orStored]

/-- After a correction at `now` that leaves the cycle open, whatever ticks and sweeps follow,
it is open at every moment before its deadline at which its evidence is fresh, exactly if the
stored window is null or still running at every such moment. -/
theorem correction_lasts_iff
    (hcfg : settings.freshnessOpenNearMaxAgeHours ≤ settings.freshnessOpenFarMaxAgeHours)
    {countries : CountryVocabulary} {scholarshipId : ScholarshipId} {changes : UpdateCycleRequest}
    {db db₁ : Db} (hok : updateCycleRoute py countries scholarshipId c changes db = .ok db₁)
    (homitted : changes.statusValidUntil = .omitted) {r r₁ : ScholarshipCycle}
    (hr : db.cycles.row c = some r) (hr₁ : db₁.cycles.row c = some r₁)
    (hopen : r₁.publicStatus = .openVerified) (now : Instant) :
    (∀ finish, now ≤ finish → FreshAt py (freshnessConfig settings) r₁ finish →
      ∀ steps : List Step, (∀ s ∈ steps, SpanStep r₁.anchor finish s) →
        OpenAt py settings c finish (run (exec py settings) db₁ steps)) ↔
      ∀ finish, now ≤ finish → FreshAt py (freshnessConfig settings) r₁ finish →
        ∀ v ∈ r.statusValidUntil, finish < v := by
  have hwindow := corrected_window hok homitted hr hr₁
  constructor
  · -- the read right after the correction
    intro h finish hle hspan v hv
    obtain ⟨r', hr', hread⟩ := h finish hle hspan [] (by simp)
    rw [run_nil, hr₁, Option.some.injEq] at hr'
    subst hr'
    rw [(SpanRow.refl hopen).openAt_iff hcfg hspan, hwindow] at hread
    exact hread v hv
  · intro h finish hle hspan steps hsteps
    refine openAt_of_windowLasts hcfg hspan hsteps hr₁ (SpanRow.refl hopen) ?_
    rw [hwindow]
    exact windowLasts_of_le hsteps (h finish hle hspan)

/-- The database after a tick that found the cycle fresh and one that closed it. -/
def closedDb : Db :=
  run (exec Sample.py {}) (Sample.db Sample.cycle)
    [.tick none (Sample.start + hour), .tick none (Sample.start + 49 * hour)]

/-- A reviewer has verified the cycle again, an hour later, and reopens it. -/
def reopening : UpdateCycleRequest where
  publicStatus := .value .openVerified
  lastVerifiedAt := .value (Sample.start + 50 * hour)

/-- The row after the reopening: the window is the one of the first tick. -/
def reopenedCycle : ScholarshipCycle :=
  { Sample.cycle with
    statusValidUntil := some (Sample.start + 48 * hour)
    lastVerifiedAt := some (Sample.start + 50 * hour) }

/-- The reopened cycle does not read as open, not even at the moment of the correction, and
the next tick closes it again. -/
theorem correction_without_effect : ∃ db₁,
    updateCycleRoute Sample.py Sample.countries 1 1 reopening closedDb = .ok db₁ ∧
      reopening.statusValidUntil = .omitted ∧ db₁.cycles.row 1 = some reopenedCycle ∧
      reopenedCycle.publicStatus = .openVerified ∧
      FreshAt Sample.py (freshnessConfig {}) reopenedCycle (Sample.start + 50 * hour) ∧
      readStatus Sample.py (Sample.start + 50 * hour) reopenedCycle = .ok .statusUnknown ∧
      ¬ OpenAt Sample.py {} 1 (Sample.start + 50 * hour) db₁ ∧
      ((exec Sample.py {} db₁ (.tick none (Sample.start + 51 * hour))).cycles.row 1).map
        (fun r => r.publicStatus) = some .statusUnknown := by
  refine ⟨_, rfl, rfl, rfl, rfl, ⟨rfl, fun k hk => ?_, _, rfl, by decide⟩, rfl, ?_, rfl⟩
  · cases hk
  · rintro ⟨r, hr, hread, -⟩
    cases hr
    cases hread

/-- A correction of a cycle that no tick has looked at yet lasts. -/
theorem correction_lasts_before_first_tick : ∃ db₁,
    updateCycleRoute Sample.py Sample.countries 1 1 reopening (Sample.db Sample.cycle) = .ok db₁ ∧
      ∀ finish, Sample.start + 50 * hour ≤ finish →
        FreshAt Sample.py (freshnessConfig {})
          { Sample.cycle with lastVerifiedAt := some (Sample.start + 50 * hour) } finish →
        ∀ steps : List Step, (∀ s ∈ steps, SpanStep (Sample.start + 50 * hour) finish s) →
          OpenAt Sample.py {} 1 finish (run (exec Sample.py {}) db₁ steps) := by
  refine ⟨_, rfl, ?_⟩
  refine (correction_lasts_iff (by decide)
    (rfl : updateCycleRoute Sample.py Sample.countries 1 1 reopening (Sample.db Sample.cycle) = _)
    rfl (rfl : _ = some Sample.cycle) rfl rfl (Sample.start + 50 * hour)).mpr ?_
  intro finish _ _ v hv
  cases hv

end ScholarshipFinder
