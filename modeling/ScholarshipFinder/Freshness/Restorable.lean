import ScholarshipFinder.Sample

/-!
# Which downgrades can be restored

A tick can move an open cycle to `status_unknown` through two branches: the read-time
evaluation, when the validity window has run out, and the age test, when the evidence is
too old.  Only the second sets `auto_downgraded`.  Both look at the same bound, since the
window is the evidence deadline that an earlier tick computed; so the age test gets to
decide only where no earlier window has run out first (`NoSilentLapse`).
-/

namespace ScholarshipFinder

open Lib

variable {py : Py} {settings : Settings} {c : CycleId}

/-- The times at which a run of ticks scans the cycle. -/
def scanTimes (settings : Settings) (c : CycleId) (db : Db) (ticks : List (Option ℕ × Instant)) :
    List Instant :=
  ticks.filterMap fun t => scannedAt settings c db (.tick t.1 t.2)

/-- The steps of a run of ticks. -/
def tickSteps (ticks : List (Option ℕ × Instant)) : List Step :=
  ticks.map fun t => .tick t.1 t.2

/-- A step that moves the cycle to `status_unknown` leaves it restorable. -/
def DowngradeRestorable (py : Py) (settings : Settings) (c : CycleId) (db : Db) (step : Step) :
    Prop :=
  ∀ r r', db.cycles.row c = some r → (exec py settings db step).cycles.row c = some r' →
    r.publicStatus ≠ .statusUnknown → r'.publicStatus = .statusUnknown → r'.autoDowngraded = true

/-- No tick of the list, up to and including the one that finds the evidence stale, comes at
or after the evidence deadline that the tick before it computed.  `evidence` is the evidence
deadline that a tick at a given time computes, `window` the last one computed so far. -/
def NoSilentLapse (evidence : Instant → Except PyErr Instant) : Option Instant → List Instant → Prop
  | _, [] => True
  | window, now :: rest =>
    match evidence now with
    | .error _ => NoSilentLapse evidence window rest
    | .ok e => (∀ w ∈ window, now < w) ∧ (now < e → NoSilentLapse evidence (some e) rest)

instance decidableNoSilentLapse (evidence : Instant → Except PyErr Instant) :
    ∀ window times, Decidable (NoSilentLapse evidence window times)
  | _, [] => inferInstanceAs (Decidable True)
  | window, now :: rest =>
    match h : evidence now with
    | .error _ =>
      have := decidableNoSilentLapse evidence window rest
      decidable_of_iff (NoSilentLapse evidence window rest) (by rw [NoSilentLapse, h])
    | .ok e =>
      have := decidableNoSilentLapse evidence (some e) rest
      decidable_of_iff ((∀ w ∈ window, now < w) ∧ (now < e → NoSilentLapse evidence (some e) rest))
        (by rw [NoSilentLapse, h])

/-- Ticks do not change which ticks scan the cycle. -/
lemma scanTimes_exec (py : Py) (settings : Settings) (c : CycleId) (db : Db) {step : Step}
    (hauto : step.automatic) (ticks : List (Option ℕ × Instant)) :
    scanTimes settings c (exec py settings db step) ticks = scanTimes settings c db ticks := by
  have hlist := exec_listing py settings db hauto
  simp only [scanTimes, scannedAt, hlist.publishedCycles_eq]

/-- The row with the validity window that an evidence deadline gives it, if there is one. -/
def ScholarshipCycle.withWindow (r : ScholarshipCycle) (cutoff window : Option Instant) :
    ScholarshipCycle :=
  { r with statusValidUntil := window.map (earliest · cutoff) }

/-- The evidence deadline does not depend on the validity window. -/
lemma evidenceDeadlineAt_withWindow (cfg : FreshnessConfig) (now : Instant)
    (r : ScholarshipCycle) (cutoff window : Option Instant) :
    evidenceDeadlineAt py cfg now (r.withWindow cutoff window) = evidenceDeadlineAt py cfg now r :=
  rfl

/-- A cycle that is not open stays as it is, so nothing moves it any more. -/
lemma downgradeRestorable_of_unknown {db : Db} {r : ScholarshipCycle}
    (hr : db.cycles.row c = some r) (hunknown : r.publicStatus = .statusUnknown)
    (ticks : List (Option ℕ × Instant)) :
    EachStep (exec py settings) (DowngradeRestorable py settings c) db (tickSteps ticks) := by
  induction ticks generalizing db r with
  | nil => trivial
  | cons t ticks ih =>
    have hr' : (exec py settings db (.tick t.1 t.2)).cycles.row c = some r := by
      rcases tick_row py settings t.1 t.2 db c with ⟨-, hrow, -⟩ | ⟨-, hrow⟩
      · rw [hrow, hr, Option.map_some, refreshRow_of_ne (by simp [hunknown])]
      · rw [hrow, hr]
    refine ⟨?_, ih hr' hunknown⟩
    intro r₀ r₁ hr₀ _ hne _
    rw [hr, Option.some.injEq] at hr₀
    exact absurd (hr₀ ▸ hunknown) hne

/-- The windows that ticks write run out with the evidence, the deadline being ahead. -/
lemma lapsed_window {cutoff : Option Instant} {now : Instant} (hcut : ∀ k ∈ cutoff, now < k)
    (r : ScholarshipCycle) (window : Option Instant) :
    Lapsed cutoff now (r.withWindow cutoff window) ↔
      ∃ w ∈ window, w ≤ now := by
  have hearliest : ∀ w, earliest w cutoff ≤ now ↔ w ≤ now := by
    intro w
    cases cutoff with
    | none => rfl
    | some k =>
      rw [earliest, min_le_iff]
      exact or_iff_left (hcut k rfl).not_ge
  constructor
  · rintro (⟨k, hk, hle⟩ | ⟨v, hv, hle⟩)
    · exact absurd hle (hcut k hk).not_ge
    · obtain ⟨w, hw, rfl⟩ := Option.map_eq_some_iff.mp hv
      exact ⟨w, hw, (hearliest w).mp hle⟩
  · rintro ⟨w, hw, hle⟩
    exact Or.inr ⟨earliest w cutoff, Option.mem_map.mpr ⟨w, hw, rfl⟩, (hearliest w).mpr hle⟩

/-- The law at a step whose effect on the row is known. -/
lemma downgradeRestorable_at {db : Db} {step : Step} {r r' : ScholarshipCycle}
    (hr : db.cycles.row c = some r) (hr' : (exec py settings db step).cycles.row c = some r')
    (hopen : r.publicStatus = .openVerified) :
    DowngradeRestorable py settings c db step ↔
      (r'.publicStatus = .statusUnknown → r'.autoDowngraded = true) := by
  constructor
  · intro h
    exact h r r' hr hr' (by simp [hopen])
  · intro h r₀ r₁ hr₀ hr₁ _
    rw [hr', Option.some.injEq] at hr₁
    exact hr₁ ▸ h

lemma not_unknown {status : PublicStatus} (hopen : status = .openVerified) {p : Prop} :
    status = .statusUnknown → p := by
  rw [hopen]
  intro h
  cases h

/-- The run of ticks from a state whose validity window an earlier tick computed. -/
lemma downgradeRestorable_iff_of_window {r : ScholarshipCycle}
    (hopen : r.publicStatus = .openVerified) (hflag : r.autoDowngraded = false)
    {cutoff : Option Instant}
    (hcut : ∀ now e, evidenceDeadlineAt py (freshnessConfig settings) now r = .ok e →
      cycleCutoff py r = .ok cutoff)
    {ticks : List (Option ℕ × Instant)} (hahead : ∀ t ∈ ticks, ∀ k ∈ cutoff, t.2 < k) {db : Db}
    (window : Option Instant)
    (hr : db.cycles.row c = some (r.withWindow cutoff window)) :
    EachStep (exec py settings) (DowngradeRestorable py settings c) db (tickSteps ticks) ↔
      NoSilentLapse (evidenceDeadlineAt py (freshnessConfig settings) · r) window
        (scanTimes settings c db ticks) := by
  induction ticks generalizing db window with
  | nil => exact iff_of_true trivial trivial
  | cons t ticks ih =>
    have hnext := hahead t List.mem_cons_self
    have hrest := fun t' ht' => hahead t' (List.mem_cons_of_mem t ht')
    have hauto : (Step.tick t.1 t.2).automatic = true := rfl
    have hscans := scanTimes_exec py settings c db hauto ticks
    rw [tickSteps, List.map_cons, EachStep]
    rcases tick_row py settings t.1 t.2 db c with ⟨hscan, hrow, -⟩ | ⟨hscan, hrow⟩
    · -- the tick scans the cycle
      rw [hr, Option.map_some] at hrow
      have hscanned : scanTimes settings c db (t :: ticks) =
          t.2 :: scanTimes settings c db ticks := by
        rw [scanTimes, List.filterMap_cons, hscan, scanTimes]
      rw [hscanned, NoSilentLapse, downgradeRestorable_at hr hrow hopen]
      cases he : evidenceDeadlineAt py (freshnessConfig settings) t.2 r with
      | error e =>
        rw [refreshRow_error ((evidenceDeadlineAt_withWindow _ _ r _ _).trans he)] at hrow ⊢
        rw [← hscans]
        exact (and_iff_right (not_unknown hopen)).trans (ih hrest window hrow)
      | ok e =>
        rw [refreshRow_open (r.withWindow cutoff window) hopen he (hcut t.2 e he)] at hrow ⊢
        by_cases hlapsed : Lapsed cutoff t.2 (r.withWindow cutoff window)
        · -- an earlier window has run out: the cycle is downgraded without the flag
          rw [tickOpen_of_lapsed hlapsed]
          obtain ⟨w, hw, hle⟩ := (lapsed_window hnext r window).mp hlapsed
          refine iff_of_false (fun h => ?_) fun h => absurd hle (h.1 w hw).not_ge
          have hset : r.autoDowngraded = true := h.1 rfl
          simp [hflag] at hset
        · have hwin : ∀ w ∈ window, t.2 < w := fun w hw => not_le.mp fun hle =>
            hlapsed ((lapsed_window hnext r window).mpr ⟨w, hw, hle⟩)
          rcases le_or_gt e t.2 with hstale | hfresh
          · -- the evidence is found stale: the cycle is downgraded with the flag
            rw [tickOpen_of_stale hlapsed hstale] at hrow ⊢
            refine iff_of_true ⟨fun _ => rfl, ?_⟩ ⟨hwin, fun h => absurd hstale h.not_ge⟩
            exact downgradeRestorable_of_unknown hrow rfl ticks
          · rw [tickOpen_of_fresh hlapsed hfresh] at hrow ⊢
            rw [← hscans]
            have hstep := ih hrest (some e) hrow
            constructor
            · intro h
              exact ⟨hwin, fun _ => hstep.mp h.2⟩
            · intro h
              exact ⟨not_unknown hopen, hstep.mpr (h.2 hfresh)⟩
    · -- it does not
      have hscanned : scanTimes settings c db (t :: ticks) = scanTimes settings c db ticks := by
        rw [scanTimes, List.filterMap_cons, hscan, scanTimes]
      rw [hr] at hrow
      rw [hscanned, downgradeRestorable_at hr hrow hopen, ← hscans]
      exact (and_iff_right (not_unknown hopen)).trans (ih hrest window hrow)

/-- From a cycle that no tick has looked at yet, every downgrade of a run of ticks before the
deadline is restorable exactly if no window runs out silently. -/
theorem staleDowngrade_restorable_iff {db : Db} {r : ScholarshipCycle}
    (hr : db.cycles.row c = some r) (hopen : r.publicStatus = .openVerified)
    (hflag : r.autoDowngraded = false) (hwindow : r.statusValidUntil = none)
    {ticks : List (Option ℕ × Instant)}
    (hahead : ∀ k, cycleCutoff py r = .ok (some k) → ∀ t ∈ ticks, t.2 < k) :
    EachStep (exec py settings) (DowngradeRestorable py settings c) db (tickSteps ticks) ↔
      NoSilentLapse (evidenceDeadlineAt py (freshnessConfig settings) · r) none
        (scanTimes settings c db ticks) := by
  obtain ⟨cutoff, hcut, hbefore⟩ : ∃ cutoff,
      (∀ now e, evidenceDeadlineAt py (freshnessConfig settings) now r = .ok e →
        cycleCutoff py r = .ok cutoff) ∧ ∀ t ∈ ticks, ∀ k ∈ cutoff, t.2 < k := by
    cases hcut : cycleCutoff py r with
    | ok cutoff =>
      refine ⟨cutoff, fun _ _ _ => rfl, fun t ht k hk => ?_⟩
      exact hahead k (hcut.trans (congrArg Except.ok hk)) t ht
    | error e =>
      -- no evidence deadline can be computed either
      refine ⟨none, fun now e' he => ?_, by simp⟩
      obtain ⟨cutoff, hok⟩ := cycleCutoff_of_evidenceDeadlineAt hopen he
      rw [hcut] at hok
      cases hok
  refine downgradeRestorable_iff_of_window hopen hflag hcut hbefore none (hr.trans ?_)
  rw [ScholarshipCycle.withWindow, Option.map_none, ← hwindow]

/-- The window of a rolling call that a tick found fresh runs out at the very moment its
evidence goes stale, and the next tick downgrades the call without the flag. -/
theorem staleDowngrade_silent :
    (Sample.db Sample.cycle).cycles.row 1 = some Sample.cycle ∧
      Sample.cycle.publicStatus = .openVerified ∧ Sample.cycle.autoDowngraded = false ∧
      Sample.cycle.statusValidUntil = none ∧ cycleCutoff Sample.py Sample.cycle = .ok none ∧
      (Sample.db Sample.cycle).isPublished Sample.cycle = true ∧
      ¬ EachStep (exec Sample.py {}) (DowngradeRestorable Sample.py {} 1) (Sample.db Sample.cycle)
        (tickSteps [(none, Sample.start + hour), (none, Sample.start + 48 * hour)]) := by
  refine ⟨rfl, rfl, rfl, rfl, rfl, rfl, fun h => ?_⟩
  have hset := h.2.1 _ _ rfl rfl (by decide) (by decide)
  revert hset
  decide

/-- The law at work: one late tick finds the evidence stale and sets the flag. -/
theorem staleDowngrade_restorable_late :
    EachStep (exec Sample.py {}) (DowngradeRestorable Sample.py {} 1) (Sample.db Sample.cycle)
      (tickSteps [(none, Sample.start + 50 * hour)]) :=
  (staleDowngrade_restorable_iff rfl rfl rfl rfl (fun k hk => by cases hk)).mpr (by decide)

end ScholarshipFinder
