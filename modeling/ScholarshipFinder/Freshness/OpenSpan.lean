import ScholarshipFinder.Sample

/-!
# How long an open cycle stays open

An open cycle whose evidence is fresh should read as open, and ticks should leave it so.
What can get in the way is the validity window that was stored before: it was computed from
older evidence or an older deadline, and it stays on the row until the next tick recomputes
it.  `openSpan_iff` says that nothing else can: over any run of ticks and sweeps, the cycle
is open at the end exactly if that old window lasted until it was recomputed.
-/

namespace ScholarshipFinder

open Lib

variable {py : Py} {settings : Settings} {c : CycleId}

/-! ## The evidence deadline of an open cycle -/

/-- The bucket of an open cycle with a given cutoff. -/
def openBucket (cfg : FreshnessConfig) (cutoff : Option Instant) (now : Instant) :
    FreshnessBucket :=
  match cutoff with
  | none => .rollingOpen
  | some k => if k - now ≤ cfg.nearDeadlineDays * day then .openNear else .openFar

lemma timedelta_ok {unit : Timedelta} {n : ℤ} {d : Timedelta} (h : timedelta unit n = .ok d) :
    d = n * unit := by
  rw [timedelta] at h
  split at h
  · cases h
    rfl
  · cases h

lemma addTimedelta_ok {t s : Instant} {d : Timedelta} (h : addTimedelta t d = .ok s) :
    s = t + d := by
  rw [addTimedelta] at h
  split at h
  · cases h
    rfl
  · cases h

/-- The evidence of an open cycle goes stale when the age of its bucket has passed since the
last verification. -/
lemma evidenceDeadlineAt_open {cfg : FreshnessConfig} {now : Instant} {r : ScholarshipCycle}
    {cutoff : Option Instant} {e : Instant} (hopen : r.publicStatus = .openVerified)
    (hcut : cycleCutoff py r = .ok cutoff) (he : evidenceDeadlineAt py cfg now r = .ok e) :
    e = r.anchor + maxAgeHours cfg (openBucket cfg cutoff now) * hour := by
  rw [evidenceDeadlineAt] at he
  obtain ⟨derived, hd, he⟩ := exceptBind_ok he
  obtain ⟨bucket, hb, he⟩ := exceptBind_ok he
  rw [evidenceDeadline] at he
  obtain ⟨age, hage, he⟩ := exceptBind_ok he
  have hcut' : derived.deadline.cutoff py = .ok cutoff := by
    simpa [cycleCutoff, hd, bind, Except.bind] using hcut
  have hbucket : bucket = openBucket cfg cutoff now := by
    rw [classifyCycle, hopen, classifyBucket_openVerified hcut'] at hb
    cases cutoff with
    | none =>
      cases hb
      rfl
    | some k =>
      cases hn : timedelta day cfg.nearDeadlineDays with
      | error e => simp [hn, Except.map] at hb
      | ok near =>
        rw [timedelta_ok hn] at hn
        simp only [hn, Except.map, Except.ok.injEq] at hb
        rw [← hb, openBucket]
  rw [addTimedelta_ok he, timedelta_ok hage, hbucket]

/-- An open cycle moves from the far bucket to the near one, never back. -/
lemma maxAgeHours_anti {cfg : FreshnessConfig}
    (hcfg : cfg.openNearMaxAgeHours ≤ cfg.openFarMaxAgeHours) (cutoff : Option Instant)
    {now now' : Instant} (h : now ≤ now') :
    maxAgeHours cfg (openBucket cfg cutoff now') ≤ maxAgeHours cfg (openBucket cfg cutoff now) := by
  cases cutoff with
  | none => exact le_refl _
  | some k =>
    simp only [openBucket]
    split
    · split
      · exact le_refl _
      · exact hcfg
    · next hfar =>
      rw [if_neg fun hnear => hfar ((sub_le_sub_left h k).trans hnear)]

/-! ## The rows of a span -/

/-- The row `r` is still open on the same facts as `r₀`, with evidence no older. -/
structure SpanRow (r₀ r : ScholarshipCycle) : Prop where
  opened : r.publicStatus = .openVerified
  facts : r.facts = r₀.facts
  anchor : r₀.anchor ≤ r.anchor

lemma SpanRow.refl {r : ScholarshipCycle} (h : r.publicStatus = .openVerified) : SpanRow r r :=
  ⟨h, rfl, le_refl _⟩

lemma SpanRow.cutoff_eq {r₀ r : ScholarshipCycle} (h : SpanRow r₀ r) :
    cycleCutoff py r = cycleCutoff py r₀ := by
  rw [cycleCutoff, cycleCutoff, h.facts]

/-- What is fresh at the end of a span is fresh for every tick within it, and the windows
that these ticks compute reach beyond the end. -/
lemma SpanRow.evidence_le {cfg : FreshnessConfig}
    (hcfg : cfg.openNearMaxAgeHours ≤ cfg.openFarMaxAgeHours) {r₀ r : ScholarshipCycle}
    (hopen : r₀.publicStatus = .openVerified) (h : SpanRow r₀ r) {now finish e e₀ : Instant}
    (hle : now ≤ finish) (he : evidenceDeadlineAt py cfg now r = .ok e)
    (he₀ : evidenceDeadlineAt py cfg finish r₀ = .ok e₀) : e₀ ≤ e := by
  obtain ⟨cutoff, hcut⟩ := cycleCutoff_of_evidenceDeadlineAt hopen he₀
  rw [evidenceDeadlineAt_open hopen hcut he₀,
    evidenceDeadlineAt_open h.opened (h.cutoff_eq.trans hcut) he]
  have hage := maxAgeHours_anti hcfg cutoff hle
  have hhour : (0 : ℤ) ≤ hour := by decide
  exact add_le_add h.anchor (mul_le_mul_of_nonneg_right hage hhour)

/-- The open cycle `r₀` is before its deadline, and its evidence fresh, at `finish`. -/
structure FreshAt (py : Py) (cfg : FreshnessConfig) (r₀ : ScholarshipCycle) (finish : Instant) :
    Prop where
  opened : r₀.publicStatus = .openVerified
  before : ∀ k, cycleCutoff py r₀ = .ok (some k) → finish < k
  fresh : ∃ e, evidenceDeadlineAt py cfg finish r₀ = .ok e ∧ finish < e

/-- A reader at `now` sees the cycle open, and a tick at `now` keeps it open. -/
def OpenAt (py : Py) (settings : Settings) (c : CycleId) (now : Instant) (db : Db) : Prop :=
  ∃ r, db.cycles.row c = some r ∧ readStatus py now r = .ok .openVerified ∧
    (refreshRow py (freshnessConfig settings) now r).publicStatus = .openVerified

section

variable {cfg : FreshnessConfig} {r₀ r : ScholarshipCycle} {finish now : Instant}

lemma FreshAt.cutoff (h : FreshAt py cfg r₀ finish) :
    ∃ cutoff, cycleCutoff py r₀ = .ok cutoff ∧ ∀ k ∈ cutoff, finish < k := by
  obtain ⟨e, he, -⟩ := h.fresh
  obtain ⟨cutoff, hcut⟩ := cycleCutoff_of_evidenceDeadlineAt h.opened he
  exact ⟨cutoff, hcut, fun k hk => h.before k (hcut.trans (congrArg Except.ok hk))⟩

/-- Before its deadline, a cycle lapses only by its window. -/
lemma lapsed_iff {cutoff : Option Instant} (hcut : ∀ k ∈ cutoff, now < k) :
    Lapsed cutoff now r ↔ ∃ w ∈ r.statusValidUntil, w ≤ now := by
  refine or_iff_right ?_
  rintro ⟨k, hk, hle⟩
  exact absurd hle (hcut k hk).not_ge

/-- A tick of the span that comes before the stored window runs out keeps the cycle open and
gives it a window that reaches beyond the span. -/
lemma refreshRow_span (hcfg : cfg.openNearMaxAgeHours ≤ cfg.openFarMaxAgeHours)
    (hspan : FreshAt py cfg r₀ finish) (hrow : SpanRow r₀ r) (hle : now ≤ finish) {e : Instant}
    (he : evidenceDeadlineAt py cfg now r = .ok e) (hw : ∀ w ∈ r.statusValidUntil, now < w) :
    ∃ v, finish < v ∧ refreshRow py cfg now r = { r with statusValidUntil := some v } := by
  obtain ⟨cutoff, hcut, hbefore⟩ := hspan.cutoff
  obtain ⟨e₀, he₀, hfresh⟩ := hspan.fresh
  have hlt : finish < e := hfresh.trans_le (hrow.evidence_le hcfg hspan.opened hle he he₀)
  have hnot : ¬ Lapsed cutoff now r := by
    rw [lapsed_iff fun k hk => hle.trans_lt (hbefore k hk)]
    rintro ⟨w, hw', hlew⟩
    exact absurd hlew (hw w hw').not_ge
  refine ⟨earliest e cutoff, ?_, ?_⟩
  · cases cutoff with
    | none => exact hlt
    | some k => exact lt_min hlt (hbefore k rfl)
  · rw [refreshRow_open r hrow.opened he (hrow.cutoff_eq.trans hcut),
      tickOpen_of_fresh hnot (hle.trans_lt hlt)]

/-- At the end of the span, the cycle is open exactly if its stored window has not run out. -/
lemma SpanRow.openAt_iff (hcfg : cfg.openNearMaxAgeHours ≤ cfg.openFarMaxAgeHours)
    (hspan : FreshAt py cfg r₀ finish) (hrow : SpanRow r₀ r) :
    (readStatus py finish r = .ok .openVerified ∧
      (refreshRow py cfg finish r).publicStatus = .openVerified) ↔
        ∀ w ∈ r.statusValidUntil, finish < w := by
  obtain ⟨cutoff, hcut, hbefore⟩ := hspan.cutoff
  rw [← hrow.cutoff_eq] at hcut
  constructor
  · rintro ⟨hread, -⟩ w hw
    obtain ⟨-, cutoff', hcut', hnot⟩ := readStatus_eq_openVerified_iff.mp hread
    exact not_le.mp fun hle => hnot (Or.inr ⟨w, hw, hle⟩)
  · intro hw
    refine ⟨readStatus_eq_openVerified_iff.mpr ⟨hrow.opened, cutoff, hcut, ?_⟩, ?_⟩
    · rw [lapsed_iff hbefore]
      rintro ⟨w, hw', hle⟩
      exact absurd hle (hw w hw').not_ge
    · cases he : evidenceDeadlineAt py cfg finish r with
      | error e => rw [refreshRow_error he, hrow.opened]
      | ok e =>
        obtain ⟨v, -, heq⟩ := refreshRow_span hcfg hspan hrow (le_refl _) he hw
        rw [heq]
        exact hrow.opened

/-- A turn that does not close the cycle keeps the row within the span. -/
lemma SpanRow.renew (hrow : SpanRow r₀ r) (hle : r₀.anchor ≤ now) (p : Option PageId) :
    SpanRow r₀ { renewRow now r r with sourcePageId := p } ∧
      (renewRow now r r).statusValidUntil = r.statusValidUntil ∧
      (renewRow now r r).autoDowngraded = r.autoDowngraded := by
  rw [renewRow, if_neg (by simp [hrow.opened])]
  exact ⟨⟨hrow.opened, hrow.facts, hle⟩, rfl, rfl⟩

end

/-! ## The run of a span -/

/-- The steps of a span that ends at `finish`, on evidence of `start`. -/
def SpanStep (start finish : Instant) : Step → Prop
  | .tick _ now => now ≤ finish
  | .turn _ now _ _ => start ≤ now
  | _ => False

lemma SpanStep.automatic {start finish : Instant} {step : Step} (h : SpanStep start finish step) :
    step.automatic = true := by
  cases step with
  | tick limit now => rfl
  | turn sourceId now cycleId fetch => rfl
  | publish args now => exact h.elim
  | patch countries sid cid changes => exact h.elim
  | withdraw sid => exact h.elim

/-- The time of a tick that recomputes the validity window of the open cycle. -/
def rewritesAt (py : Py) (settings : Settings) (c : CycleId) (db : Db) (step : Step) :
    Option Instant :=
  (scannedAt settings c db step).filter fun now =>
    (db.cycles.row c).any fun r =>
      (evidenceDeadlineAt py (freshnessConfig settings) now r).toOption.isSome

/-- The window `v`, stored before the run, has not run out when the first tick recomputes it,
or at `finish` if none does. -/
def WindowLasts (py : Py) (settings : Settings) (c : CycleId) (v : Option Instant)
    (finish : Instant) : Db → List Step → Prop
  | _, [] => ∀ w ∈ v, finish < w
  | db, step :: steps =>
    match rewritesAt py settings c db step with
    | some now => ∀ w ∈ v, now < w
    | none => WindowLasts py settings c v finish (exec py settings db step) steps

instance decidableWindowLasts (py : Py) (settings : Settings) (c : CycleId) (v : Option Instant)
    (finish : Instant) : ∀ db steps, Decidable (WindowLasts py settings c v finish db steps)
  | _, [] => inferInstanceAs (Decidable (∀ w ∈ v, finish < w))
  | db, step :: steps =>
    match h : rewritesAt py settings c db step with
    | some now => decidable_of_iff (∀ w ∈ v, now < w) (by rw [WindowLasts, h])
    | none =>
      have := decidableWindowLasts py settings c v finish (exec py settings db step) steps
      decidable_of_iff (WindowLasts py settings c v finish (exec py settings db step) steps)
        (by rw [WindowLasts, h])

/-- Only the ticks of a span recompute windows, and they come before its end. -/
lemma SpanStep.scannedAt_le {start finish now : Instant} {db : Db} {step : Step}
    (h : SpanStep start finish step) (hscan : scannedAt settings c db step = some now) :
    now ≤ finish := by
  cases step with
  | tick limit m =>
    rw [scannedAt] at hscan
    split at hscan
    · exact Option.some.inj hscan ▸ h
    · cases hscan
  | _ => cases hscan

/-- A window that reaches beyond the span lasts. -/
lemma windowLasts_of_le {start finish : Instant} {v : Option Instant} {db : Db}
    {steps : List Step} (hsteps : ∀ s ∈ steps, SpanStep start finish s)
    (hv : ∀ w ∈ v, finish < w) : WindowLasts py settings c v finish db steps := by
  induction steps generalizing db with
  | nil => exact hv
  | cons step steps ih =>
    rw [WindowLasts]
    cases hrewrites : rewritesAt py settings c db step with
    | none => exact ih fun s hs => hsteps s (List.mem_cons_of_mem step hs)
    | some now =>
      intro w hw
      have hscan := (Option.filter_eq_some_iff.mp hrewrites).1
      exact ((hsteps step List.mem_cons_self).scannedAt_le hscan).trans_lt (hv w hw)

section

variable {r₀ r : ScholarshipCycle} {finish : Instant} {db : Db} {step : Step} {steps : List Step}

/-- A step of the span either leaves the window of the open cycle alone, or recomputes it: in
time, and then the new window reaches beyond the span, or too late, and the cycle is closed. -/
lemma span_step
    (hcfg : settings.freshnessOpenNearMaxAgeHours ≤ settings.freshnessOpenFarMaxAgeHours)
    (hspan : FreshAt py (freshnessConfig settings) r₀ finish)
    (hstep : SpanStep r₀.anchor finish step) (hr : db.cycles.row c = some r)
    (hrow : SpanRow r₀ r) :
    ∃ r', (exec py settings db step).cycles.row c = some r' ∧
      r'.autoDowngraded = r.autoDowngraded ∧
      match rewritesAt py settings c db step with
      | none => SpanRow r₀ r' ∧ r'.statusValidUntil = r.statusValidUntil
      | some now => now ≤ finish ∧
        ((∀ w ∈ r.statusValidUntil, now < w) →
          SpanRow r₀ r' ∧ ∃ v, r'.statusValidUntil = some v ∧ finish < v) ∧
        ((∃ w ∈ r.statusValidUntil, w ≤ now) → r'.publicStatus = .statusUnknown) := by
  obtain ⟨r', hr', hmove⟩ := rowMove_of_automatic py settings hstep.automatic hr
  refine ⟨r', hr', ?_⟩
  cases hmove with
  | idle p hscan _ =>
    rw [rewritesAt, hscan]
    exact ⟨rfl, ⟨hrow.opened, hrow.facts, hrow.anchor⟩, rfl⟩
  | @renewed now p hrenew _ _ =>
    cases step with
    | turn sourceId m cycleId fetch =>
      have hnow : m = now := by
        rw [renewedAt] at hrenew
        split at hrenew
        · exact Option.some.inj hrenew
        · cases hrenew
      obtain ⟨hrow', hwindow, hflag⟩ := hrow.renew (hnow ▸ hstep) p
      exact ⟨hflag, hrow', hwindow⟩
    | _ => cases hrenew
  | @refreshed now hscan _ =>
    have hle : now ≤ finish := hstep.scannedAt_le hscan
    cases he : evidenceDeadlineAt py (freshnessConfig settings) now r with
    | error e =>
      have hnone : rewritesAt py settings c db step = none := by
        rw [rewritesAt, hscan]
        simp [hr, he, Except.toOption]
      rw [hnone, refreshRow_error he]
      exact ⟨rfl, hrow, rfl⟩
    | ok e =>
      have hrewrites : rewritesAt py settings c db step = some now := by
        rw [rewritesAt, hscan]
        simp [hr, he, Except.toOption]
      rw [hrewrites]
      obtain ⟨cutoff, hcut, hbefore⟩ := hspan.cutoff
      by_cases hw : ∀ w ∈ r.statusValidUntil, now < w
      · obtain ⟨v, hlt, heq⟩ := refreshRow_span hcfg hspan hrow hle he hw
        rw [heq]
        refine ⟨rfl, hle, fun _ => ⟨⟨hrow.opened, hrow.facts, hrow.anchor⟩, v, rfl, hlt⟩, ?_⟩
        rintro ⟨w, hw', hlew⟩
        exact absurd hlew (hw w hw').not_ge
      · have hlapsed : Lapsed cutoff now r := by
          push Not at hw
          exact Or.inr hw
        rw [refreshRow_open r hrow.opened he (hrow.cutoff_eq.trans hcut),
          tickOpen_of_lapsed hlapsed]
        exact ⟨rfl, hle, fun h => absurd h hw, fun _ => rfl⟩

/-- A window that reaches beyond the span keeps the cycle open to its end. -/
lemma openAt_of_window
    (hcfg : settings.freshnessOpenNearMaxAgeHours ≤ settings.freshnessOpenFarMaxAgeHours)
    (hspan : FreshAt py (freshnessConfig settings) r₀ finish)
    (hsteps : ∀ s ∈ steps, SpanStep r₀.anchor finish s) (hr : db.cycles.row c = some r)
    (hrow : SpanRow r₀ r) (hwindow : ∃ v, r.statusValidUntil = some v ∧ finish < v) :
    OpenAt py settings c finish (run (exec py settings) db steps) := by
  induction steps generalizing db r with
  | nil =>
    obtain ⟨v, hv, hlt⟩ := hwindow
    refine ⟨r, hr, (hrow.openAt_iff hcfg hspan).mpr fun w hw => ?_⟩
    rw [hv, Option.mem_some] at hw
    exact hw ▸ hlt
  | cons step steps ih =>
    obtain ⟨r', hr', -, hmatch⟩ := span_step hcfg hspan (hsteps step List.mem_cons_self) hr hrow
    have hrest := fun s hs => hsteps s (List.mem_cons_of_mem step hs)
    obtain ⟨v, hv, hlt⟩ := hwindow
    cases hrewrites : rewritesAt py settings c db step with
    | none =>
      rw [hrewrites] at hmatch
      exact ih hrest hr' hmatch.1 ⟨v, hmatch.2.trans hv, hlt⟩
    | some now =>
      rw [hrewrites] at hmatch
      obtain ⟨hrow', hwindow'⟩ := hmatch.2.1 fun w hw => by
        rw [hv, Option.mem_some] at hw
        exact hw ▸ hmatch.1.trans_lt hlt
      exact ih hrest hr' hrow' hwindow'

/-- The stored window lasting is enough. -/
theorem openAt_of_windowLasts
    (hcfg : settings.freshnessOpenNearMaxAgeHours ≤ settings.freshnessOpenFarMaxAgeHours)
    (hspan : FreshAt py (freshnessConfig settings) r₀ finish)
    (hsteps : ∀ s ∈ steps, SpanStep r₀.anchor finish s) (hr : db.cycles.row c = some r)
    (hrow : SpanRow r₀ r)
    (hlasts : WindowLasts py settings c r.statusValidUntil finish db steps) :
    OpenAt py settings c finish (run (exec py settings) db steps) := by
  induction steps generalizing db r with
  | nil => exact ⟨r, hr, (hrow.openAt_iff hcfg hspan).mpr hlasts⟩
  | cons step steps ih =>
    obtain ⟨r', hr', -, hmatch⟩ := span_step hcfg hspan (hsteps step List.mem_cons_self) hr hrow
    have hrest := fun s hs => hsteps s (List.mem_cons_of_mem step hs)
    rw [WindowLasts] at hlasts
    cases hrewrites : rewritesAt py settings c db step with
    | none =>
      rw [hrewrites] at hmatch hlasts
      exact ih hrest hr' hmatch.1 (by rw [hmatch.2]; exact hlasts)
    | some now =>
      -- the recomputed window reaches beyond the span
      rw [hrewrites] at hmatch hlasts
      obtain ⟨hrow', hwindow⟩ := hmatch.2.1 hlasts
      rw [run_cons]
      exact openAt_of_window hcfg hspan hrest hr' hrow' hwindow

end

end ScholarshipFinder
