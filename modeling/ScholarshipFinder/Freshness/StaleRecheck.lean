import ScholarshipFinder.Freshness.OpenSpan

/-!
# What a stale downgrade does to the next recheck

Whether a cycle is due for a recheck, and whether a failed fetch is escalated, depends on
its bucket; and the bucket depends on the status that a downgrade writes.  A downgraded
cycle moves from one of the open buckets to `expected_or_unknown`, whose intervals are much
longer, so the recheck it waits for is put off unless these have passed as well.
-/

namespace ScholarshipFinder

open Lib

variable {py : Py} {c : CycleId}

/-- A failed fetch at `now` opens a review task for the cycle, or finds one open. -/
def Escalates (py : Py) (cfg : FreshnessConfig) (now : Instant) (c : CycleId)
    (r : ScholarshipCycle) : Prop :=
  ∀ reason db, ∃ draft, deferOrFlag py cfg now c r reason db =
    .ok (.flagged, openCycleReviewTask c reason draft db)

section

variable {cfg : FreshnessConfig} {now : Instant} {r : ScholarshipCycle}

/-- A failed fetch is escalated once the evidence deadline has passed. -/
lemma escalates_iff :
    Escalates py cfg now c r ↔ ∃ e, evidenceDeadlineAt py cfg now r = .ok e ∧ e ≤ now := by
  have hdefer : ∀ reason db, deferOrFlag py cfg now c r reason db =
      (evidenceDeadlineAt py cfg now r).bind fun e =>
        if now < e then .ok (.deferred, db)
        else .ok (.flagged, openCycleReviewTask c reason (.obj [
          ("cycle_id", .str (toString c)),
          ("official_cycle_url", .str r.officialCycleUrl)]) db) := by
    intro reason db
    rw [deferOrFlag, evidenceDeadlineAt]
    cases hd : deriveFacts py r.facts.orEmpty with
    | error e => rfl
    | ok derived =>
      cases hb : classifyCycle py r derived now cfg with
      | error e => simp [hb, bind, Except.bind]
      | ok bucket =>
        cases he : evidenceDeadline r bucket cfg with
        | error e => simp [hb, he, bind, Except.bind]
        | ok e => simp [hb, he, bind, Except.bind, pure, Except.pure]
  simp only [Escalates, hdefer]
  cases he : evidenceDeadlineAt py cfg now r with
  | error e =>
    constructor
    · intro h
      obtain ⟨draft, hdraft⟩ := h "" (Sample.db r)
      cases hdraft
    · rintro ⟨e', he', -⟩
      cases he'
  | ok e =>
    constructor
    · intro h
      refine ⟨e, rfl, not_lt.mp fun hlt => ?_⟩
      obtain ⟨draft, hdraft⟩ := h "" (Sample.db r)
      simp [Except.bind, hlt] at hdraft
    · rintro ⟨e', he', hle⟩ reason db
      cases he'
      exact ⟨_, by rw [Except.bind, if_neg hle.not_gt]⟩

lemma nonneg_of_evidenceDeadlineAt {e : Instant} (he : evidenceDeadlineAt py cfg now r = .ok e) :
    0 ≤ e := by
  obtain ⟨derived, -, he⟩ := exceptBind_ok he
  obtain ⟨bucket, -, he⟩ := exceptBind_ok he
  obtain ⟨age, -, he⟩ := exceptBind_ok he
  rw [addTimedelta] at he
  split at he
  · next hrange =>
    cases he
    exact hrange.1
  · cases he

/-- By default no evidence of an open cycle may grow older than that of an unknown one. -/
lemma default_maxAgeHours_le (cutoff : Option Instant) (now : Instant) :
    maxAgeHours (freshnessConfig {}) (openBucket (freshnessConfig {}) cutoff now) ≤ 1440 := by
  cases cutoff with
  | none => exact (by decide : (48 : ℤ) ≤ 1440)
  | some k =>
    simp only [openBucket]
    split <;> decide

/-- The evidence deadline of a cycle of unknown status. -/
lemma evidenceDeadlineAt_unknown {derived : DerivedFacts}
    (hd : deriveFacts py r.facts.orEmpty = .ok derived)
    (hunknown : r.publicStatus = .statusUnknown) :
    evidenceDeadlineAt py cfg now r = evidenceDeadline r .expectedOrUnknown cfg := by
  rw [evidenceDeadlineAt]
  simp [hd, classifyCycle, classifyBucket, hunknown, upcomingBucket, bind, Except.bind]

lemma cycleIsDue_unknown {derived : DerivedFacts}
    (hd : deriveFacts py r.facts.orEmpty = .ok derived)
    (hunknown : r.publicStatus = .statusUnknown) :
    cycleIsDue py cfg now r = isReverifyDue .expectedOrUnknown r.lastVerifiedAt now cfg := by
  rw [cycleIsDue]
  simp [hd, classifyCycle, classifyBucket, hunknown, upcomingBucket, bind, Except.bind]

lemma deriveFacts_of_evidenceDeadlineAt {e : Instant}
    (he : evidenceDeadlineAt py cfg now r = .ok e) :
    ∃ derived, deriveFacts py r.facts.orEmpty = .ok derived := by
  obtain ⟨derived, hd, -⟩ := exceptBind_ok he
  exact ⟨derived, hd⟩

end

/-- With the default cadence, a tick that closes a cycle for the age of its evidence leaves
the recheck due, and a failed one escalated, exactly if the cycle was last verified, or
created if it never was, 1440 hours ago. -/
theorem staleDowngrade_keeps_recheck_iff {db : Db} {r r' : ScholarshipCycle}
    (hr : db.cycles.row c = some r) (hopen : r.publicStatus = .openVerified) {limit : Option ℕ}
    {now : Instant} (hnow : now < maxMicros)
    (hr' : (exec py {} db (.tick limit now)).cycles.row c = some r')
    (hunknown : r'.publicStatus = .statusUnknown)
    (hstale : ∃ e, evidenceDeadlineAt py (freshnessConfig {}) now r = .ok e ∧ e ≤ now) :
    ((cycleIsDue py (freshnessConfig {}) now r = .ok true →
        cycleIsDue py (freshnessConfig {}) now r' = .ok true) ∧
      (Escalates py (freshnessConfig {}) now c r → Escalates py (freshnessConfig {}) now c r')) ↔
      r.anchor + 1440 * hour ≤ now := by
  obtain ⟨e, he, hle⟩ := hstale
  obtain ⟨derived, hd⟩ := deriveFacts_of_evidenceDeadlineAt he
  -- the tick has changed the window, the status and the flag only
  obtain ⟨v, status, flag, heq⟩ : ∃ v status flag, r' = { r with
      statusValidUntil := v, publicStatus := status, autoDowngraded := flag } := by
    rcases tick_row py {} limit now db c with ⟨-, hrow, -⟩ | ⟨-, hrow⟩
    · rw [hr', hr, Option.map_some, Option.some.injEq] at hrow
      rw [hrow]
      exact refreshRow_eq py _ now r
    · rw [hr', hr, Option.some.injEq] at hrow
      rw [hrow, hopen] at hunknown
      cases hunknown
  have hanchor : r'.anchor = r.anchor := by rw [heq]; rfl
  have hverified : r'.lastVerifiedAt = r.lastVerifiedAt := by rw [heq]
  have hd' : deriveFacts py r'.facts.orEmpty = .ok derived := by rw [heq]; exact hd
  have hdeadline : evidenceDeadlineAt py (freshnessConfig {}) now r' =
      addTimedelta r.anchor (1440 * hour) := by
    rw [evidenceDeadlineAt_unknown hd' hunknown, ← hanchor]
    rfl
  have hdue : cycleIsDue py (freshnessConfig {}) now r' =
      .ok (r.lastVerifiedAt.all fun verified => decide (720 * hour ≤ now - verified)) := by
    rw [cycleIsDue_unknown hd' hunknown, hverified]
    cases r.lastVerifiedAt <;> rfl
  constructor
  · rintro ⟨-, hescalates⟩
    obtain ⟨e', he', hle'⟩ := escalates_iff.mp (hescalates (escalates_iff.mpr ⟨e, he, hle⟩))
    rw [hdeadline] at he'
    rw [addTimedelta_ok he'] at hle'
    exact hle'
  · intro hage
    refine ⟨fun _ => ?_, fun _ => escalates_iff.mpr ⟨r.anchor + 1440 * hour, ?_, hage⟩⟩
    · rw [hdue]
      cases hverified' : r.lastVerifiedAt with
      | none => rfl
      | some verified =>
        have hself : r.anchor = verified := by rw [ScholarshipCycle.anchor, hverified']; rfl
        rw [hself] at hage
        have hmore : (720 * hour : ℤ) ≤ 1440 * hour := by decide
        have hlong : 720 * hour ≤ now - verified := hmore.trans (by linarith)
        simp [hlong]
    · -- the longer deadline is a `datetime` as well, being past
      rw [hdeadline, addTimedelta, if_pos]
      obtain ⟨cutoff, hcut⟩ := cycleCutoff_of_evidenceDeadlineAt hopen he
      have hpos := nonneg_of_evidenceDeadlineAt he
      rw [evidenceDeadlineAt_open hopen hcut he] at hpos
      have hshort := mul_le_mul_of_nonneg_right (default_maxAgeHours_le cutoff now)
        (by decide : (0 : ℤ) ≤ hour)
      exact ⟨hpos.trans (add_le_add_right hshort _), hage.trans_lt hnow⟩

/-- A rolling call goes stale after 48 hours.  Until the tick it is due and a failed fetch is
escalated; after the tick it is neither. -/
theorem staleDowngrade_postpones_recheck :
    ∃ r', (exec Sample.py {} (Sample.db Sample.cycle)
        (.tick none (Sample.start + 48 * hour))).cycles.row 1 = some r' ∧
      Sample.cycle.publicStatus = .openVerified ∧ r'.publicStatus = .statusUnknown ∧
      r'.autoDowngraded = true ∧
      cycleIsDue Sample.py (freshnessConfig {}) (Sample.start + 48 * hour) Sample.cycle =
        .ok true ∧
      cycleIsDue Sample.py (freshnessConfig {}) (Sample.start + 48 * hour) r' = .ok false ∧
      Escalates Sample.py (freshnessConfig {}) (Sample.start + 48 * hour) 1 Sample.cycle ∧
      ¬ Escalates Sample.py (freshnessConfig {}) (Sample.start + 48 * hour) 1 r' := by
  refine ⟨_, rfl, rfl, rfl, rfl, rfl, rfl, ?_, ?_⟩
  · exact escalates_iff.mpr ⟨_, rfl, le_refl _⟩
  · intro h
    obtain ⟨e, he, hle⟩ := escalates_iff.mp h
    cases he
    revert hle
    decide

/-- Sixty days without a verification keep the recheck due and escalated. -/
theorem staleDowngrade_keeps_recheck_late :
    ∃ r', (exec Sample.py {} (Sample.db Sample.cycle)
        (.tick none (Sample.start + 1440 * hour))).cycles.row 1 = some r' ∧
      (cycleIsDue Sample.py (freshnessConfig {}) (Sample.start + 1440 * hour) Sample.cycle =
          .ok true →
        cycleIsDue Sample.py (freshnessConfig {}) (Sample.start + 1440 * hour) r' = .ok true) ∧
      (Escalates Sample.py (freshnessConfig {}) (Sample.start + 1440 * hour) 1 Sample.cycle →
        Escalates Sample.py (freshnessConfig {}) (Sample.start + 1440 * hour) 1 r') := by
  have hrow : (Sample.db Sample.cycle).cycles.row 1 = some Sample.cycle := rfl
  have htick : (exec Sample.py {} (Sample.db Sample.cycle)
      (.tick none (Sample.start + 1440 * hour))).cycles.row 1 =
      some (refreshRow Sample.py (freshnessConfig {}) (Sample.start + 1440 * hour) Sample.cycle) :=
    rfl
  refine ⟨_, htick, ?_⟩
  exact (staleDowngrade_keeps_recheck_iff hrow rfl (by decide) htick rfl ⟨_, rfl, by decide⟩).mpr
    (by decide)

end ScholarshipFinder
