import ScholarshipFinder.Core.Config
import ScholarshipFinder.Domain.Facts

/-!
# The refresh job (`infra/freshness.py`)

`refreshDueStatuses` re-evaluates the status of every published cycle from what is already
stored.  The first half of the file is the code; the second half says once what one tick
can do to one row, and the later developments only use that.
-/

namespace ScholarshipFinder

open Lib

variable (py : Py)

/-- `cycle.last_verified_at or cycle.created_at` -/
def ScholarshipCycle.anchor (cycle : ScholarshipCycle) : Instant :=
  cycle.lastVerifiedAt.getD cycle.createdAt

/-- The instant this cycle's current evidence goes stale. -/
def evidenceDeadline (cycle : ScholarshipCycle) (bucket : FreshnessBucket)
    (cfg : FreshnessConfig) : Except PyErr Instant := do
  let age ← maxEvidenceAge bucket cfg
  addTimedelta cycle.anchor age

/-- `classify_bucket` on the stored status and the derived facts of a cycle. -/
def classifyCycle (cycle : ScholarshipCycle) (derived : DerivedFacts) (now : Instant)
    (cfg : FreshnessConfig) : Except PyErr FreshnessBucket :=
  classifyBucket py cycle.publicStatus derived.deadline derived.expectedReopenMonth now cfg

/-- The published cycles, oldest `cycle_id` first, at most `limit` of them.  The source
fetches one more to notice, and log, that the scan was cut short. -/
def publishedCycles (db : Db) (limit : ℕ) : List CycleId :=
  ((db.cycles.keys.insertionSort (· ≤ ·)).filter fun cycleId =>
    (db.cycles.row cycleId).any db.isPublished).take limit

/-- `min(candidates)`: the evidence deadline, or an earlier deadline cutoff. -/
def earliest (evidence : Instant) : Option Instant → Instant
  | none => evidence
  | some cutoff => min evidence cutoff

/-- Re-evaluate one cycle; also says whether its public status changed. -/
def refreshOneStatus (cfg : FreshnessConfig) (now : Instant) (cycle : ScholarshipCycle) :
    Except PyErr (ScholarshipCycle × Bool) := do
  let derived ← deriveFacts py cycle.facts.orEmpty
  let bucket ← classifyCycle py cycle derived now cfg
  let evaluated ← evaluatePublicStatus py cycle.publicStatus derived.deadline
    cycle.statusValidUntil now
  let evidence ← evidenceDeadline cycle bucket cfg
  let stale := evidence ≤ now
  let (targetStatus, downgradingForStaleness) :=
    if evaluated = .statusUnknown then (.statusUnknown, false)
    else if cycle.publicStatus = .openVerified ∧ stale then (.statusUnknown, true)
    else (cycle.publicStatus, false)
  let validUntil ←
    if cycle.publicStatus = .openVerified then do
      let cutoff ← derived.deadline.cutoff py
      pure (some (earliest evidence cutoff))
    else pure cycle.statusValidUntil
  if targetStatus = cycle.publicStatus then
    return ({ cycle with statusValidUntil := validUntil }, false)
  return ({ cycle with
    statusValidUntil := validUntil
    publicStatus := targetStatus
    -- only a staleness downgrade is eligible for the automatic restore
    autoDowngraded := cycle.autoDowngraded || downgradingForStaleness }, true)

/-- One iteration of the batch: an exception is logged and leaves the cycle untouched. -/
def refreshRow (cfg : FreshnessConfig) (now : Instant) (cycle : ScholarshipCycle) :
    ScholarshipCycle :=
  match refreshOneStatus py cfg now cycle with
  | .ok (cycle, _) => cycle
  | .error _ => cycle

structure RefreshCounts where
  checked : ℕ
  downgraded : ℕ
deriving DecidableEq, Repr

/-- The effect of a tick on the database. -/
def refreshRows (cfg : FreshnessConfig) (now : Instant) (cycleIds : List CycleId) (db : Db) :
    Db :=
  { db with
    cycles := cycleIds.foldl (fun cycles cycleId =>
      cycles.modify cycleId (refreshRow py cfg now)) db.cycles }

/-- Re-evaluate `public_status` of the published cycles from already-stored facts. -/
def refreshDueStatuses (settings : Settings) (limit : Option ℕ) (now : Instant) (db : Db) :
    RefreshCounts × Db :=
  let cfg := freshnessConfig settings
  let cycleIds := publishedCycles db (limit.getD settings.refreshStatusBatchLimit)
  let downgrades := cycleIds.filter fun cycleId =>
    (db.cycles.row cycleId).any fun cycle =>
      match refreshOneStatus py cfg now cycle with
      | .ok (_, changed) => changed
      | .error _ => false
  (⟨cycleIds.length, downgrades.length⟩, refreshRows py cfg now cycleIds db)

/-! ## What one tick does to one row -/

/-- The deadline cutoff of a cycle's facts. -/
def cycleCutoff (cycle : ScholarshipCycle) : Except PyErr (Option Instant) := do
  let derived ← deriveFacts py cycle.facts.orEmpty
  derived.deadline.cutoff py

/-- The evidence deadline that a tick at `now` computes for a cycle. -/
def evidenceDeadlineAt (cfg : FreshnessConfig) (now : Instant) (cycle : ScholarshipCycle) :
    Except PyErr Instant := do
  let derived ← deriveFacts py cycle.facts.orEmpty
  let bucket ← classifyCycle py cycle derived now cfg
  evidenceDeadline cycle bucket cfg

/-- The status a reader sees at `now`: `evaluate_public_status` on the stored row. -/
def readStatus (now : Instant) (cycle : ScholarshipCycle) : Except PyErr PublicStatus := do
  let derived ← deriveFacts py cycle.facts.orEmpty
  evaluatePublicStatus py cycle.publicStatus derived.deadline cycle.statusValidUntil now

/-- The deadline or the validity window of a stored open cycle has run out at `now`. -/
def Lapsed (cutoff : Option Instant) (now : Instant) (cycle : ScholarshipCycle) : Prop :=
  (∃ c ∈ cutoff, c ≤ now) ∨ ∃ v ∈ cycle.statusValidUntil, v ≤ now

instance (cutoff : Option Instant) (now : Instant) (cycle : ScholarshipCycle) :
    Decidable (Lapsed cutoff now cycle) :=
  inferInstanceAs (Decidable (_ ∨ _))

/-- What a tick at `now` makes of an open cycle with evidence deadline `evidence`. -/
def tickOpen (evidence : Instant) (cutoff : Option Instant) (now : Instant)
    (cycle : ScholarshipCycle) : ScholarshipCycle :=
  let validUntil := some (earliest evidence cutoff)
  if Lapsed cutoff now cycle then
    { cycle with statusValidUntil := validUntil, publicStatus := .statusUnknown }
  else if evidence ≤ now then
    { cycle with
      statusValidUntil := validUntil, publicStatus := .statusUnknown, autoDowngraded := true }
  else { cycle with statusValidUntil := validUntil }

variable {py} {cfg : FreshnessConfig} {now : Instant} {cycle : ScholarshipCycle}

lemma tickOpen_of_lapsed {evidence : Instant} {cutoff : Option Instant}
    (h : Lapsed cutoff now cycle) :
    tickOpen evidence cutoff now cycle = { cycle with
      statusValidUntil := some (earliest evidence cutoff), publicStatus := .statusUnknown } := by
  rw [tickOpen, if_pos h]

lemma tickOpen_of_stale {evidence : Instant} {cutoff : Option Instant}
    (h : ¬ Lapsed cutoff now cycle) (hstale : evidence ≤ now) :
    tickOpen evidence cutoff now cycle = { cycle with
      statusValidUntil := some (earliest evidence cutoff), publicStatus := .statusUnknown,
      autoDowngraded := true } := by
  rw [tickOpen, if_neg h, if_pos hstale]

lemma tickOpen_of_fresh {evidence : Instant} {cutoff : Option Instant}
    (h : ¬ Lapsed cutoff now cycle) (hfresh : now < evidence) :
    tickOpen evidence cutoff now cycle =
      { cycle with statusValidUntil := some (earliest evidence cutoff) } := by
  rw [tickOpen, if_neg h, if_neg hfresh.not_ge]

/-- A reader sees an open cycle exactly when it is stored open and has not lapsed. -/
theorem readStatus_eq_openVerified_iff :
    readStatus py now cycle = .ok .openVerified ↔
      cycle.publicStatus = .openVerified ∧
        ∃ cutoff, cycleCutoff py cycle = .ok cutoff ∧ ¬ Lapsed cutoff now cycle := by
  cases hd : deriveFacts py cycle.facts.orEmpty with
  | error e => simp [readStatus, cycleCutoff, hd, bind, Except.bind]
  | ok derived =>
    have hread : readStatus py now cycle = evaluatePublicStatus py cycle.publicStatus
        derived.deadline cycle.statusValidUntil now := by
      simp [readStatus, hd, bind, Except.bind]
    have hcut : cycleCutoff py cycle = derived.deadline.cutoff py := by
      simp [cycleCutoff, hd, bind, Except.bind]
    rw [hread, hcut, evaluatePublicStatus_eq_openVerified_iff]
    simp [Lapsed]

/-- An evidence deadline can be computed for an open cycle only when its cutoff can. -/
lemma cycleCutoff_of_evidenceDeadlineAt (hopen : cycle.publicStatus = .openVerified)
    {evidence : Instant} (he : evidenceDeadlineAt py cfg now cycle = .ok evidence) :
    ∃ cutoff, cycleCutoff py cycle = .ok cutoff := by
  cases hd : deriveFacts py cycle.facts.orEmpty with
  | error e => simp [evidenceDeadlineAt, hd, bind, Except.bind] at he
  | ok derived =>
    cases hb : classifyCycle py cycle derived now cfg with
    | error e => simp [evidenceDeadlineAt, hd, hb, bind, Except.bind] at he
    | ok bucket =>
      rw [classifyCycle, hopen] at hb
      obtain ⟨cutoff, hcut⟩ := cutoff_of_classifyBucket hb
      exact ⟨cutoff, by simp [cycleCutoff, hd, hcut, bind, Except.bind]⟩

/-- A tick on an open cycle whose evidence deadline can be computed. -/
theorem refreshRow_open (cycle : ScholarshipCycle) (hopen : cycle.publicStatus = .openVerified)
    {evidence : Instant}
    (he : evidenceDeadlineAt py cfg now cycle = .ok evidence) {cutoff : Option Instant}
    (hcut : cycleCutoff py cycle = .ok cutoff) :
    refreshRow py cfg now cycle = tickOpen evidence cutoff now cycle := by
  cases hd : deriveFacts py cycle.facts.orEmpty with
  | error e => simp [cycleCutoff, hd, bind, Except.bind] at hcut
  | ok derived =>
    have hcut' : derived.deadline.cutoff py = .ok cutoff := by
      simpa [cycleCutoff, hd, bind, Except.bind] using hcut
    cases hb : classifyCycle py cycle derived now cfg with
    | error e => simp [evidenceDeadlineAt, hd, hb, bind, Except.bind] at he
    | ok bucket =>
      have he' : evidenceDeadline cycle bucket cfg = .ok evidence := by
        simpa [evidenceDeadlineAt, hd, hb, bind, Except.bind] using he
      have heval : evaluatePublicStatus py .openVerified derived.deadline
          cycle.statusValidUntil now =
            .ok (if Lapsed cutoff now cycle then .statusUnknown else .openVerified) := by
        rw [evaluatePublicStatus_openVerified hcut']
        simp [Lapsed, Option.any_eq_true]
      -- the branches of `tickOpen` are those of the loop body, in their order
      rw [refreshRow, refreshOneStatus]
      by_cases hl : Lapsed cutoff now cycle
      · simp [hd, hb, he', hcut', heval, hopen, tickOpen, hl, bind, Except.bind, pure, Except.pure]
      · by_cases hs : evidence ≤ now <;>
          simp [hd, hb, he', hcut', heval, hopen, tickOpen, hl, hs, bind, Except.bind, pure,
            Except.pure]

/-- A tick that cannot compute the evidence deadline of a cycle leaves it untouched. -/
lemma refreshRow_error {e : PyErr} (he : evidenceDeadlineAt py cfg now cycle = .error e) :
    refreshRow py cfg now cycle = cycle := by
  rw [refreshRow, refreshOneStatus]
  cases hd : deriveFacts py cycle.facts.orEmpty with
  | error _ => simp [bind, Except.bind]
  | ok derived =>
    cases hb : classifyCycle py cycle derived now cfg with
    | error _ => simp [hb, bind, Except.bind]
    | ok bucket =>
      have he' : evidenceDeadline cycle bucket cfg = .error e := by
        simpa [evidenceDeadlineAt, hd, hb, bind, Except.bind] using he
      cases hv : evaluatePublicStatus py cycle.publicStatus derived.deadline
          cycle.statusValidUntil now <;> simp [hb, he', hv, bind, Except.bind]

/-- A tick leaves a cycle that is not stored open untouched. -/
theorem refreshRow_of_ne (hne : cycle.publicStatus ≠ .openVerified) :
    refreshRow py cfg now cycle = cycle := by
  rw [refreshRow, refreshOneStatus]
  cases hd : deriveFacts py cycle.facts.orEmpty with
  | error _ => simp [bind, Except.bind]
  | ok derived =>
    have heval : evaluatePublicStatus py cycle.publicStatus derived.deadline
        cycle.statusValidUntil now = .ok cycle.publicStatus :=
      evaluatePublicStatus_of_ne hne _ _ _
    cases hb : classifyCycle py cycle derived now cfg with
    | error _ => simp [hb, bind, Except.bind]
    | ok bucket =>
      cases he : evidenceDeadline cycle bucket cfg with
      | error _ => simp [hb, he, heval, bind, Except.bind]
      | ok evidence =>
        have htarget : (if cycle.publicStatus = .statusUnknown then
            (PublicStatus.statusUnknown, false) else (cycle.publicStatus, false)).1 =
              cycle.publicStatus := by
          split
          · next hu => exact hu.symm
          · rfl
        simp [hb, he, heval, hne, htarget, bind, Except.bind, pure, Except.pure]

/-- A tick writes the validity window, the status and the flag of a row, and nothing else. -/
lemma refreshRow_eq (py : Py) (cfg : FreshnessConfig) (now : Instant) (cycle : ScholarshipCycle) :
    ∃ validUntil status flag, refreshRow py cfg now cycle = { cycle with
      statusValidUntil := validUntil, publicStatus := status, autoDowngraded := flag } := by
  by_cases hopen : cycle.publicStatus = .openVerified
  · cases he : evidenceDeadlineAt py cfg now cycle with
    | error e => exact ⟨_, _, _, refreshRow_error he⟩
    | ok evidence =>
      obtain ⟨cutoff, hcut⟩ := cycleCutoff_of_evidenceDeadlineAt hopen he
      rw [refreshRow_open cycle hopen he hcut, tickOpen]
      split
      · exact ⟨_, _, _, rfl⟩
      · split
        · exact ⟨_, _, _, rfl⟩
        · exact ⟨_, _, _, rfl⟩
  · exact ⟨_, _, _, refreshRow_of_ne hopen⟩

/-- `downgrading_for_staleness`: the cycle is open, has not lapsed, and its evidence is too
old. -/
def downgradingForStaleness (py : Py) (cfg : FreshnessConfig) (now : Instant)
    (cycle : ScholarshipCycle) : Bool :=
  match evidenceDeadlineAt py cfg now cycle, cycleCutoff py cycle with
  | .ok evidence, .ok cutoff =>
    cycle.publicStatus = .openVerified ∧ ¬ Lapsed cutoff now cycle ∧ evidence ≤ now
  | _, _ => false

/-- What a tick can write: nothing that matters to the status, a downgrade for staleness with
the flag, or another downgrade without it. -/
theorem refreshRow_cases (py : Py) (cfg : FreshnessConfig) (now : Instant)
    (cycle : ScholarshipCycle) :
    ((refreshRow py cfg now cycle).publicStatus = cycle.publicStatus ∧
      (refreshRow py cfg now cycle).autoDowngraded = cycle.autoDowngraded) ∨
    (cycle.publicStatus = .openVerified ∧
      (refreshRow py cfg now cycle).publicStatus = .statusUnknown ∧
      (downgradingForStaleness py cfg now cycle = true ∧
          (refreshRow py cfg now cycle).autoDowngraded = true ∨
        downgradingForStaleness py cfg now cycle = false ∧
          (refreshRow py cfg now cycle).autoDowngraded = cycle.autoDowngraded)) := by
  by_cases hopen : cycle.publicStatus = .openVerified
  · cases he : evidenceDeadlineAt py cfg now cycle with
    | error e =>
      rw [refreshRow_error he]
      exact Or.inl ⟨rfl, rfl⟩
    | ok evidence =>
      obtain ⟨cutoff, hcut⟩ := cycleCutoff_of_evidenceDeadlineAt hopen he
      rw [refreshRow_open cycle hopen he hcut]
      by_cases hlapsed : Lapsed cutoff now cycle
      · -- a lapse comes first, even where the evidence is stale as well
        rw [tickOpen_of_lapsed hlapsed]
        refine Or.inr ⟨hopen, rfl, Or.inr ⟨?_, rfl⟩⟩
        simp [downgradingForStaleness, he, hcut, hlapsed]
      · rcases le_or_gt evidence now with hstale | hfresh
        · rw [tickOpen_of_stale hlapsed hstale]
          refine Or.inr ⟨hopen, rfl, Or.inl ⟨?_, rfl⟩⟩
          simp [downgradingForStaleness, he, hcut, hlapsed, hopen, hstale]
        · rw [tickOpen_of_fresh hlapsed hfresh]
          exact Or.inl ⟨rfl, rfl⟩
  · rw [refreshRow_of_ne hopen]
    exact Or.inl ⟨rfl, rfl⟩

/-- A tick opens no cycle, and one that it leaves open keeps its flag. -/
lemma refreshRow_stays_open (h : (refreshRow py cfg now cycle).publicStatus = .openVerified) :
    cycle.publicStatus = .openVerified ∧
      (refreshRow py cfg now cycle).autoDowngraded = cycle.autoDowngraded := by
  rcases refreshRow_cases py cfg now cycle with ⟨hstatus, hflag⟩ | ⟨-, hunknown, -⟩
  · exact ⟨hstatus ▸ h, hflag⟩
  · rw [hunknown] at h
    cases h

/-! ## The scan -/

/-- Two databases list the same cycles under the same scholarships. -/
structure SameListing (db db' : Db) : Prop where
  keys : db'.cycles.keys = db.cycles.keys
  published : ∀ c, (db'.cycles.row c).map db'.isPublished = (db.cycles.row c).map db.isPublished

/-- The scan meets the same cycles in both. -/
lemma SameListing.publishedCycles_eq {db db' : Db} (h : SameListing db db') (limit : ℕ) :
    publishedCycles db' limit = publishedCycles db limit := by
  have hp : ∀ c, (db'.cycles.row c).any db'.isPublished = (db.cycles.row c).any db.isPublished := by
    intro c
    have hc := h.published c
    cases hrow : db.cycles.row c <;> cases hrow' : db'.cycles.row c <;> simp_all
  rw [publishedCycles, publishedCycles, h.keys]
  simp only [hp]

lemma nodup_publishedCycles (db : Db) (limit : ℕ) : (publishedCycles db limit).Nodup := by
  have hperm := db.cycles.keys.perm_insertionSort (· ≤ ·)
  exact ((hperm.nodup_iff.mpr db.cycles.nodup).filter _).sublist (List.take_sublist _ _)

lemma mem_publishedCycles {db : Db} {limit : ℕ} {c : CycleId} (h : c ∈ publishedCycles db limit) :
    ∃ r, db.cycles.row c = some r ∧ db.isPublished r := by
  have hmem := List.mem_of_mem_take h
  rw [List.mem_filter] at hmem
  simpa [Option.any_eq_true] using hmem.2

/-- A tick refreshes every row that it scans, once. -/
theorem refreshDueStatuses_row (py : Py) (settings : Settings) (limit : Option ℕ) (now : Instant)
    (db : Db) (c : CycleId) :
    (refreshDueStatuses py settings limit now db).2.cycles.row c =
      if c ∈ publishedCycles db (limit.getD settings.refreshStatusBatchLimit) then
        (db.cycles.row c).map (refreshRow py (freshnessConfig settings) now)
      else db.cycles.row c := by
  rw [refreshDueStatuses]
  exact Table.row_foldl_modify (nodup_publishedCycles db _) _ _ c

lemma refreshDueStatuses_listing (py : Py) (settings : Settings) (limit : Option ℕ) (now : Instant)
    (db : Db) : SameListing db (refreshDueStatuses py settings limit now db).2 where
  keys := Table.keys_foldl_modify _ _ _
  published := by
    intro c
    rw [refreshDueStatuses_row]
    split
    · rw [Option.map_map]
      refine congrArg (Option.map · _) (funext fun r => ?_)
      obtain ⟨v, status, flag, heq⟩ := refreshRow_eq py (freshnessConfig settings) now r
      rw [Function.comp_apply, heq]
      rfl
    · rfl

end ScholarshipFinder
