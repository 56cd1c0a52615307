import ScholarshipFinder.Facts.RoundTrip
import ScholarshipFinder.Freshness.OpenSpan

/-!
# Reads between sweeps

A tick leaves behind, in the validity window, the instant at which the evidence of an open cycle
goes stale; a reader between two ticks goes by it.  The window was computed for the bucket that
the cycle was in at the tick.  When the deadline has come near since then, the next tick judges
the same evidence by the shorter age of the near bucket, and closes a cycle that reads as open
(`reads_agree_iff`).
-/

namespace ScholarshipFinder

open Lib

variable {py : Py} {settings : Settings} {cfg : FreshnessConfig} {c : CycleId}
  {r r' : ScholarshipCycle} {now : Instant} {cutoff : Option Instant}

/-! ## What the evidence deadline depends on -/

/-- The width of the near window is only computed where there is a deadline. -/
def nearWindow (cfg : FreshnessConfig) (cutoff : Option Instant) : Except PyErr Unit :=
  match cutoff with
  | none => .ok ()
  | some _ => (timedelta day cfg.nearDeadlineDays).map fun _ => ()

/-- The evidence deadline of an open cycle depends on the time through the bucket only. -/
lemma evidenceDeadlineAt_eq (hopen : r.publicStatus = .openVerified)
    (hcut : cycleCutoff py r = .ok cutoff) :
    evidenceDeadlineAt py cfg now r =
      nearWindow cfg cutoff >>= fun _ => evidenceDeadline r (openBucket cfg cutoff now) cfg := by
  obtain ⟨derived, hd, hcut'⟩ := exceptBind_ok hcut
  have hbucket := classifyBucket_openVerified hcut' derived.expectedReopenMonth now cfg
  rw [← hopen] at hbucket
  simp only [evidenceDeadlineAt, hd, classifyCycle, hbucket, bind, Except.bind]
  cases cutoff with
  | none => rfl
  | some k =>
    cases hn : timedelta day cfg.nearDeadlineDays with
    | error e => simp [nearWindow, hn, Except.map]
    | ok near =>
      have hnear : near = cfg.nearDeadlineDays * day := timedelta_ok hn
      simp [nearWindow, openBucket, hn, hnear, Except.map]

/-- A tick keeps what the evidence deadline is computed from. -/
lemma refreshRow_basis (py : Py) (cfg : FreshnessConfig) (now : Instant) (r : ScholarshipCycle) :
    (refreshRow py cfg now r).facts = r.facts ∧
      ∀ bucket cfg', evidenceDeadline (refreshRow py cfg now r) bucket cfg' =
        evidenceDeadline r bucket cfg' := by
  obtain ⟨validUntil, status, flag, heq⟩ := refreshRow_eq py cfg now r
  rw [heq]
  exact ⟨rfl, fun _ _ => rfl⟩

/-- A tick keeps an open cycle open exactly if its evidence is fresh then, provided that it has
not lapsed. -/
lemma refreshRow_open_iff (hopen : r.publicStatus = .openVerified)
    (hcut : cycleCutoff py r = .ok cutoff) (hnot : ¬ Lapsed cutoff now r) :
    (refreshRow py cfg now r).publicStatus = .openVerified ↔
      ∀ e, evidenceDeadlineAt py cfg now r = .ok e → now < e := by
  cases he : evidenceDeadlineAt py cfg now r with
  | error err =>
    rw [refreshRow_error he]
    simp [hopen]
  | ok e =>
    rw [refreshRow_open r hopen he hcut]
    rcases le_or_gt e now with hstale | hfresh
    · rw [tickOpen_of_stale hnot hstale]
      simp [hstale]
    · rw [tickOpen_of_fresh hnot hfresh]
      simp [hopen, hfresh]

/-- A cycle that a tick leaves open has the evidence deadline of that tick in its window. -/
lemma window_of_refreshed (hopen : (refreshRow py cfg now r).publicStatus = .openVerified)
    (hcut : cycleCutoff py r = .ok cutoff) {e : Instant}
    (he : evidenceDeadlineAt py cfg now r = .ok e) :
    (refreshRow py cfg now r).statusValidUntil = some (earliest e cutoff) := by
  have hwas := (refreshRow_stays_open hopen).1
  rw [refreshRow_open r hwas he hcut, tickOpen]
  split
  · rfl
  · split <;> rfl

lemma earliest_le (e : Instant) (cutoff : Option Instant) : earliest e cutoff ≤ e := by
  cases cutoff with
  | none => exact le_refl e
  | some k => exact min_le_left e k

/-! ## Between two ticks -/

/-- The deadline comes within the near window between `n` and `t`, and at `t` the evidence is
older than the near bucket allows. -/
def OutlivesNearBound (py : Py) (cfg : FreshnessConfig) (r : ScholarshipCycle) (n t : Instant) :
    Prop :=
  ∃ k near e, cycleCutoff py r = .ok (some k) ∧ timedelta day cfg.nearDeadlineDays = .ok near ∧
    near < k - n ∧ k - t ≤ near ∧ evidenceDeadline r .openNear cfg = .ok e ∧ e ≤ t

/-- As long as the bucket is the same, the window that a tick leaves is the bound that the next
tick applies. -/
lemma fresh_of_same_bucket {n t : Instant}
    (hopen : (refreshRow py cfg n r).publicStatus = .openVerified)
    (hcut : cycleCutoff py r = .ok cutoff) (hnot : ¬ Lapsed cutoff t (refreshRow py cfg n r))
    (hbucket : openBucket cfg cutoff t = openBucket cfg cutoff n) {e : Instant}
    (he : evidenceDeadlineAt py cfg t r = .ok e) : t < e := by
  have hwas := (refreshRow_stays_open hopen).1
  have hen : evidenceDeadlineAt py cfg n r = .ok e := by
    rw [evidenceDeadlineAt_eq hwas hcut, ← hbucket, ← evidenceDeadlineAt_eq hwas hcut, he]
  have hwindow := window_of_refreshed hopen hcut hen
  have hlt : t < earliest e cutoff := by
    by_contra hle
    exact hnot (Or.inr ⟨_, hwindow, not_lt.mp hle⟩)
  exact hlt.trans_le (earliest_le e cutoff)

/-- The bucket of an open cycle changes only by its deadline coming near. -/
lemma openBucket_cases (cfg : FreshnessConfig) (cutoff : Option Instant) {n t : Instant}
    (hle : n ≤ t) :
    openBucket cfg cutoff t = openBucket cfg cutoff n ∨
      ∃ k, cutoff = some k ∧ cfg.nearDeadlineDays * day < k - n ∧
        k - t ≤ cfg.nearDeadlineDays * day ∧ openBucket cfg cutoff t = .openNear := by
  cases cutoff with
  | none => exact Or.inl rfl
  | some k =>
    simp only [openBucket]
    by_cases hn : k - n ≤ cfg.nearDeadlineDays * day
    · have ht : k - t ≤ cfg.nearDeadlineDays * day := (sub_le_sub_left hle k).trans hn
      exact Or.inl (by rw [if_pos hn, if_pos ht])
    · by_cases ht : k - t ≤ cfg.nearDeadlineDays * day
      · exact Or.inr ⟨k, rfl, not_le.mp hn, ht, if_pos ht⟩
      · exact Or.inl (by rw [if_neg hn, if_neg ht])

/-- The two ticks, on the row alone. -/
theorem refreshRow_agrees_iff {n t : Instant} (hle : n ≤ t)
    (hopen : (refreshRow py cfg n r).publicStatus = .openVerified)
    (hread : readStatus py t (refreshRow py cfg n r) = .ok .openVerified) :
    (refreshRow py cfg t (refreshRow py cfg n r)).publicStatus = .openVerified ↔
      ¬ OutlivesNearBound py cfg r n t := by
  have hwas := (refreshRow_stays_open hopen).1
  obtain ⟨hfacts, hbasis⟩ := refreshRow_basis py cfg n r
  obtain ⟨-, cutoff, hcut', hnot⟩ := readStatus_eq_openVerified_iff.mp hread
  have hcut : cycleCutoff py r = .ok cutoff := by
    rw [cycleCutoff, ← hfacts]
    exact hcut'
  have hevidence : evidenceDeadlineAt py cfg t (refreshRow py cfg n r) =
      evidenceDeadlineAt py cfg t r := by
    rw [evidenceDeadlineAt_eq hopen hcut', evidenceDeadlineAt_eq hwas hcut]
    simp only [hbasis]
  rw [refreshRow_open_iff hopen hcut' hnot, hevidence]
  rcases openBucket_cases cfg cutoff hle with hsame | ⟨k, rfl, hfar, hnear, hb⟩
  · -- the bucket has not changed, so the read and the tick go by the same bound
    refine iff_of_true (fun e he => fresh_of_same_bucket hopen hcut hnot hsame he) ?_
    rintro ⟨k, near, e, hk, hwidth, hfar, hnear, -, -⟩
    have hcutoff : cutoff = some k := Except.ok.inj (hcut.symm.trans hk)
    rw [timedelta_ok hwidth] at hfar hnear
    rw [hcutoff, openBucket, openBucket, if_pos hnear, if_neg hfar.not_ge] at hsame
    cases hsame
  · -- the deadline has come near
    rw [evidenceDeadlineAt_eq hwas hcut, hb]
    constructor
    · rintro hfresh ⟨k', near, e, -, hwidth, -, -, he, hstale⟩
      refine absurd hstale (hfresh e ?_).not_ge
      simp [nearWindow, hwidth, Except.map, bind, Except.bind, he]
    · intro hnever e he
      obtain ⟨_, hwindow, he⟩ := exceptBind_ok he
      by_contra hstale
      cases hwidth : timedelta day cfg.nearDeadlineDays with
      | error err =>
        simp [nearWindow, hwidth, Except.map] at hwindow
      | ok near =>
        refine hnever ⟨k, near, e, hcut, hwidth, ?_, ?_, he, not_lt.mp hstale⟩
        · rw [timedelta_ok hwidth]
          exact hfar
        · rw [timedelta_ok hwidth]
          exact hnear

/-- Between a tick at `n` that leaves the cycle open and one at `t`, with the row as it was: if
the cycle reads as open at `t`, then the tick keeps it open exactly if its evidence has not
outlived the bound of the near bucket, into which the deadline has moved it since. -/
theorem reads_agree_iff {db₁ db₂ : Db} {limit₁ limit₂ : Option ℕ} {n t : Instant} (hle : n ≤ t)
    (hr : db₁.cycles.row c = some r)
    (htick : scannedAt settings c db₁ (.tick limit₁ n) = some n)
    (hr' : (exec py settings db₁ (.tick limit₁ n)).cycles.row c = some r')
    (hopen : r'.publicStatus = .openVerified) (hstill : db₂.cycles.row c = some r')
    (htick' : scannedAt settings c db₂ (.tick limit₂ t) = some t)
    (hread : readStatus py t r' = .ok .openVerified) :
    (∃ r'', (exec py settings db₂ (.tick limit₂ t)).cycles.row c = some r'' ∧
      r''.publicStatus = .openVerified) ↔
        ¬ OutlivesNearBound py (freshnessConfig settings) r n t := by
  have hrow : ∀ {db : Db} {limit : Option ℕ} {m : Instant},
      scannedAt settings c db (.tick limit m) = some m →
      (exec py settings db (.tick limit m)).cycles.row c =
        (db.cycles.row c).map (refreshRow py (freshnessConfig settings) m) := by
    intro db limit m hscan
    rcases tick_row py settings limit m db c with ⟨-, hrow, -⟩ | ⟨hnone, -⟩
    · exact hrow
    · rw [hscan] at hnone
      cases hnone
  have heq : refreshRow py (freshnessConfig settings) n r = r' := by
    rw [hrow htick, hr] at hr'
    exact Option.some.inj hr'
  subst heq
  rw [hrow htick', hstill, ← refreshRow_agrees_iff hle hopen hread]
  simp

namespace Sample

/-- The programme of the sample, verified fourteen days and two hours before its deadline. -/
def verifiedEarly : ScholarshipCycle :=
  { publishedCycle with lastVerifiedAt := some (deadline.wall - 14 * day - 2 * hour) }

/-- A tick an hour later. -/
def earlyTick : Instant := deadline.wall - 14 * day - hour

/-- The cycle as this tick leaves it. -/
def refreshed : ScholarshipCycle := refreshRow datedPy (freshnessConfig {}) earlyTick verifiedEarly

end Sample

/-- Thirteen hours after its verification the cycle reads as open, and a tick closes it. -/
theorem read_outlives_tick :
    (exec Sample.datedPy {} (Sample.db Sample.verifiedEarly)
        (.tick none Sample.earlyTick)).cycles.row 1 = some Sample.refreshed ∧
      Sample.refreshed.publicStatus = .openVerified ∧
      readStatus Sample.datedPy (Sample.earlyTick + 12 * hour) Sample.refreshed =
        .ok .openVerified ∧
      ((exec Sample.datedPy {} (Sample.db Sample.refreshed)
        (.tick none (Sample.earlyTick + 12 * hour))).cycles.row 1).map (·.publicStatus) =
          some .statusUnknown :=
  ⟨rfl, rfl, rfl, rfl⟩

/-- Ten hours after its verification the evidence is young enough for either bucket. -/
theorem reads_agree_sample :
    ∃ r'', (exec Sample.datedPy {} (Sample.db Sample.refreshed)
        (.tick none (Sample.earlyTick + 9 * hour))).cycles.row 1 = some r'' ∧
      r''.publicStatus = .openVerified := by
  have hle : Sample.earlyTick ≤ Sample.earlyTick + 9 * hour := by decide
  have hr : (Sample.db Sample.verifiedEarly).cycles.row 1 = some Sample.verifiedEarly := rfl
  have htick : scannedAt {} 1 (Sample.db Sample.verifiedEarly) (.tick none Sample.earlyTick) =
      some Sample.earlyTick := rfl
  have hstill : (Sample.db Sample.refreshed).cycles.row 1 = some Sample.refreshed := rfl
  have htick' : scannedAt {} 1 (Sample.db Sample.refreshed)
      (.tick none (Sample.earlyTick + 9 * hour)) = some (Sample.earlyTick + 9 * hour) := rfl
  refine (reads_agree_iff hle hr htick rfl rfl hstill htick' rfl).mpr ?_
  rintro ⟨k, near, e, -, -, -, -, he, hstale⟩
  have hage : evidenceDeadline Sample.verifiedEarly .openNear (freshnessConfig {}) =
      .ok (Sample.earlyTick + 11 * hour) := rfl
  rw [hage] at he
  obtain rfl := Except.ok.inj he
  exact absurd hstale (by decide)

end ScholarshipFinder
