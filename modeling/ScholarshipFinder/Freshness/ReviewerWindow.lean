import ScholarshipFinder.Sample

/-!
# A reviewer's validity window

A reviewer may publish or correct a cycle with a `status_valid_until` of their own.  A tick
that finds the cycle open replaces it by the earlier of the evidence deadline and the cutoff,
in either direction; so the reviewer's bound holds as long as no tick before it computes a
later one.
-/

namespace ScholarshipFinder

open Lib

variable {py : Py} {settings : Settings} {c : CycleId} {v : Instant}

/-- A tick before `v` that recomputes the window of the open cycle moves it to `v` at most. -/
def BoundedBy (py : Py) (settings : Settings) (c : CycleId) (v : Instant) (db : Db) (step : Step) :
    Prop :=
  ∀ now r e cutoff, scannedAt settings c db step = some now → now < v →
    db.cycles.row c = some r → r.publicStatus = .openVerified →
    evidenceDeadlineAt py (freshnessConfig settings) now r = .ok e →
    cycleCutoff py r = .ok cutoff → earliest e cutoff ≤ v

/-- The window of the cycle ends by `v`, or the cycle is closed for good. -/
structure ClosedBy (v : Instant) (r : ScholarshipCycle) : Prop where
  clear : FlagClear r
  bound : (∃ w, r.statusValidUntil = some w ∧ w ≤ v) ∨
    r.publicStatus ≠ .openVerified ∧ r.autoDowngraded = false

lemma ClosedBy.refresh {db : Db} {step : Step} {r : ScholarshipCycle} {now : Instant}
    (h : ClosedBy v r) (hr : db.cycles.row c = some r)
    (hscan : scannedAt settings c db step = some now)
    (hbounded : BoundedBy py settings c v db step) :
    (∃ w, (refreshRow py (freshnessConfig settings) now r).statusValidUntil = some w ∧ w ≤ v) ∨
      (refreshRow py (freshnessConfig settings) now r).publicStatus ≠ .openVerified ∧
        (refreshRow py (freshnessConfig settings) now r).autoDowngraded = false := by
  by_cases hopen : r.publicStatus = .openVerified
  · obtain ⟨w, hw, hle⟩ : ∃ w, r.statusValidUntil = some w ∧ w ≤ v :=
      h.bound.resolve_right fun hclosed => hclosed.1 hopen
    cases he : evidenceDeadlineAt py (freshnessConfig settings) now r with
    | error e =>
      rw [refreshRow_error he]
      exact h.bound
    | ok e =>
      obtain ⟨cutoff, hcut⟩ := cycleCutoff_of_evidenceDeadlineAt hopen he
      rw [refreshRow_open r hopen he hcut]
      rcases lt_or_ge now v with hlt | hge
      · -- before `v`: the new window is bounded as well
        have hnew := hbounded now r e cutoff hscan hlt hr hopen he hcut
        refine Or.inl ⟨earliest e cutoff, ?_, hnew⟩
        rw [tickOpen]
        split
        · rfl
        · split <;> rfl
      · -- from `v` on: the window has run out, and the cycle is closed without the flag
        have hlapsed : Lapsed cutoff now r := Or.inr ⟨w, hw, hle.trans hge⟩
        rw [tickOpen_of_lapsed hlapsed]
        exact Or.inr ⟨by simp, h.clear hopen⟩
  · rw [refreshRow_of_ne hopen]
    exact h.bound

lemma ClosedBy.move {db : Db} {step : Step} {r r' : ScholarshipCycle} (h : ClosedBy v r)
    (hr : db.cycles.row c = some r) (hmove : RowMove py settings c db step r r')
    (hbounded : BoundedBy py settings c v db step) : ClosedBy v r' := by
  refine ⟨h.clear.move hmove, ?_⟩
  cases hmove with
  | idle p _ _ => exact h.bound
  | refreshed hscan _ => exact h.refresh hr hscan hbounded
  | @renewed now p _ _ _ =>
    rcases h.bound with ⟨w, hw, hle⟩ | ⟨hne, hflag⟩
    · refine Or.inl ⟨w, ?_, hle⟩
      rw [← hw, renewRow]
      split <;> rfl
    · rw [renewRow, if_neg (by simp [hflag])]
      exact Or.inr ⟨hne, hflag⟩

/-- From `v` on, such a cycle does not read as open. -/
lemma ClosedBy.read {r : ScholarshipCycle} (h : ClosedBy v r) {now : Instant} (hle : v ≤ now) :
    readStatus py now r ≠ .ok .openVerified := by
  intro hread
  obtain ⟨hopen, cutoff, -, hnot⟩ := readStatus_eq_openVerified_iff.mp hread
  rcases h.bound with ⟨w, hw, hlew⟩ | ⟨hne, -⟩
  · exact hnot (Or.inr ⟨w, hw, hlew.trans hle⟩)
  · exact hne hopen

/-- A reviewer's window `v` holds over every run of ticks and sweeps in which no tick before
`v` computes a later window for the open cycle: from `v` on, the cycle never reads as open. -/
theorem reviewerWindow_kept {db : Db} {r : ScholarshipCycle} (hr : db.cycles.row c = some r)
    (hv : r.statusValidUntil = some v) (hclear : FlagClear r) {steps : List Step}
    (hsteps : ∀ s ∈ steps, s.automatic = true)
    (hbounded : EachStep (exec py settings) (BoundedBy py settings c v) db steps) {now : Instant}
    (hle : v ≤ now) :
    ∃ r', (run (exec py settings) db steps).cycles.row c = some r' ∧
      readStatus py now r' ≠ .ok .openVerified := by
  have hstart : ClosedBy v r := ⟨hclear, Or.inl ⟨v, hv, le_refl v⟩⟩
  obtain ⟨r', hr', hclosed⟩ := row_run
    (fun hstep hr hmove hclosed => ClosedBy.move hclosed hr hmove hstep) hsteps hbounded hr hstart
  exact ⟨r', hr', hclosed.read hle⟩

/-- A reviewer's window of ten hours, moved to forty-eight by a tick within the first. -/
theorem reviewerWindow_extended :
    ((run (exec Sample.py {}) Sample.unpublished
        [.publish (Sample.publication (some (Sample.start + 10 * hour))) Sample.start]).cycles.row
          1).map (fun r => (r.publicStatus, r.statusValidUntil)) =
        some (.openVerified, some (Sample.start + 10 * hour)) ∧
      ((run (exec Sample.py {}) Sample.unpublished
        [.publish (Sample.publication (some (Sample.start + 10 * hour))) Sample.start,
          .tick none (Sample.start + hour)]).cycles.row 1).map
            (readStatus Sample.py (Sample.start + 10 * hour)) = some (.ok .openVerified) :=
  ⟨rfl, rfl⟩

/-- A window of sixty hours on evidence that may grow forty-eight hours old is only ever
brought forward. -/
theorem reviewerWindow_kept_sample :
    ∃ r', (run (exec Sample.py {})
        (Sample.db { Sample.cycle with statusValidUntil := some (Sample.start + 60 * hour) })
        [.tick none (Sample.start + hour)]).cycles.row 1 = some r' ∧
      readStatus Sample.py (Sample.start + 60 * hour) r' ≠ .ok .openVerified := by
  have hbounded : BoundedBy Sample.py {} 1 (Sample.start + 60 * hour)
      (Sample.db { Sample.cycle with statusValidUntil := some (Sample.start + 60 * hour) })
      (.tick none (Sample.start + hour)) := by
    intro now r e cutoff hscan hlt hr hopen he hcut
    cases hscan
    cases hr
    cases he
    cases hcut
    decide
  have hsteps : ∀ s ∈ [Step.tick none (Sample.start + hour)], s.automatic = true := by decide
  exact reviewerWindow_kept rfl rfl (fun _ => rfl) hsteps ⟨hbounded, trivial⟩ (le_refl _)

end ScholarshipFinder
