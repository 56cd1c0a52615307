import ScholarshipFinder.Api.UpdateCycle
import ScholarshipFinder.Infra.Session
import ScholarshipFinder.Lib.Pool
import ScholarshipFinder.Lib.Run

/-!
# The service as a state machine

A state is a database; a step is one operation on it.  An operation that is refused leaves
the database as it was.  A reverification sweep commits after each cycle, so its steps are
the turns of its loop: `reverifyDueCycles_eq_run` says that a sweep is a run of turns.

A turn commits more than once itself.  Where that matters, the state has the sessions of the
sweeps beside the database, and a step is one transaction (`perform`).
-/

namespace ScholarshipFinder

open Lib

/-- One operation on the database. -/
inductive Step
  /-- `publish_cycle` -/
  | publish (args : PublishArgs) (now : Instant)
  /-- `update_cycle_route` -/
  | patch (countries : CountryVocabulary) (scholarshipId : ScholarshipId) (cycleId : CycleId)
      (changes : UpdateCycleRequest)
  /-- `withdraw_scholarship` -/
  | withdraw (scholarshipId : ScholarshipId)
  /-- `refresh_due_statuses` -/
  | tick (limit : Option ℕ) (now : Instant)
  /-- One turn of the loop of `reverify_due_cycles`. -/
  | turn (sourceId : SourceId) (now : Instant) (cycleId : CycleId) (fetch : Fetch)

/-- The operations that the two scheduled jobs consist of. -/
def Step.automatic : Step → Bool
  | .tick .. => true
  | .turn .. => true
  | _ => false

/-- The state after an operation that may be refused. -/
def orUnchanged {ε : Type} (result : Except ε Db) (db : Db) : Db :=
  match result with
  | .ok db' => db'
  | .error _ => db

/-- A field was sent with a value. -/
def Change.hasValue {α : Type} : Change α → Bool
  | .value _ => true
  | _ => false

variable (py : Py) (settings : Settings)

/-- The service does not refuse the operation. -/
def accepted (db : Db) : Step → Bool
  | .publish args now => (publishCycle args now db).toOption.isSome
  | .patch countries scholarshipId cycleId changes =>
    (updateCycleRoute py countries scholarshipId cycleId changes db).toOption.isSome
  | .withdraw scholarshipId => (withdrawScholarship scholarshipId db).toOption.isSome
  | .tick .. => true
  | .turn .. => true

/-- The effect of a step. -/
def exec (db : Db) : Step → Db
  | .publish args now => orUnchanged (publishCycle args now db) db
  | .patch countries scholarshipId cycleId changes =>
    orUnchanged (updateCycleRoute py countries scholarshipId cycleId changes db) db
  | .withdraw scholarshipId => orUnchanged (withdrawScholarship scholarshipId db) db
  | .tick limit now => (refreshDueStatuses py settings limit now db).2
  | .turn sourceId now cycleId fetch =>
    (recheckCycle py settings sourceId now cycleId fetch db).2

/-- The turns of one sweep. -/
def sweepSteps (limit : Option ℕ) (now : Instant) (fetches : CycleId → Fetch) (db : Db) :
    List Step :=
  match officialSource db with
  | none => []
  | some sourceId =>
    match scanDue py (freshnessConfig settings) now
        (limit.getD settings.reverifyDueBatchLimit) db
        (publishedCycles db publishedCycleScanLimit) [] with
    | .error _ => []
    | .ok due => due.map fun cycleId => .turn sourceId now cycleId (fetches cycleId)

variable {py settings}

/-- A sweep is a run of turns. -/
theorem reverifyDueCycles_eq_run (limit : Option ℕ) (now : Instant) (fetches : CycleId → Fetch)
    (db : Db) : (reverifyDueCycles py settings limit now fetches db).2 =
      run (exec py settings) db (sweepSteps py settings limit now fetches db) := by
  -- the counts that the loop carries along do not matter to the database
  have hloop : ∀ (sourceId : SourceId) (due : List CycleId) (counts : ReverifyCounts) (db : Db),
      (due.foldl (fun (p : ReverifyCounts × Db) cycleId =>
          let result := recheckCycle py settings sourceId now cycleId (fetches cycleId) p.2
          (p.1.add result.1, result.2)) (counts, db)).2 =
        run (exec py settings) db
          (due.map fun cycleId => .turn sourceId now cycleId (fetches cycleId)) := by
    intro sourceId due
    induction due with
    | nil => intros; rfl
    | cons cycleId due ih =>
      intro counts db
      exact ih _ _
  rw [reverifyDueCycles, sweepSteps]
  cases hsource : officialSource db with
  | none => rfl
  | some sourceId =>
    cases hscan : scanDue py (freshnessConfig settings) now
        (limit.getD settings.reverifyDueBatchLimit) db
        (publishedCycles db publishedCycleScanLimit) [] with
    | error e => rfl
    | ok due =>
      exact hloop sourceId due _ db

/-! ## What the scheduled jobs do to one row -/

variable (py settings) in
/-- The time of a tick that scans the cycle. -/
def scannedAt (c : CycleId) (db : Db) : Step → Option Instant
  | .tick limit now =>
    if c ∈ publishedCycles db (limit.getD settings.refreshStatusBatchLimit) then some now else none
  | _ => none

variable (py settings) in
/-- The time of a turn that renews the cycle. -/
def renewedAt (c : CycleId) (db : Db) : Step → Option Instant
  | .turn sourceId now cycleId fetch =>
    if cycleId = c ∧
        (recheckCycle py settings sourceId now cycleId fetch db).1 = .done .renewed then some now
    else none
  | _ => none

/-- A tick either refreshes the row of the cycle or does not scan it. -/
lemma tick_row (py : Py) (settings : Settings) (limit : Option ℕ) (now : Instant) (db : Db)
    (c : CycleId) :
    (scannedAt settings c db (.tick limit now) = some now ∧
      (exec py settings db (.tick limit now)).cycles.row c =
        (db.cycles.row c).map (refreshRow py (freshnessConfig settings) now) ∧
      ∀ r, db.cycles.row c = some r → db.isPublished r) ∨
    (scannedAt settings c db (.tick limit now) = none ∧
      (exec py settings db (.tick limit now)).cycles.row c = db.cycles.row c) := by
  have hrow := refreshDueStatuses_row py settings limit now db c
  by_cases hmem : c ∈ publishedCycles db (limit.getD settings.refreshStatusBatchLimit)
  · rw [if_pos hmem] at hrow
    refine Or.inl ⟨if_pos hmem, hrow, fun r hr => ?_⟩
    obtain ⟨r', hr', hpub⟩ := mem_publishedCycles hmem
    rw [hr, Option.some.injEq] at hr'
    exact hr' ▸ hpub
  · rw [if_neg hmem] at hrow
    exact Or.inr ⟨if_neg hmem, hrow⟩

/-- What a step of the scheduled jobs makes of the row `r` of the cycle `c`. -/
inductive RowMove (py : Py) (settings : Settings) (c : CycleId) (db : Db) (step : Step)
    (r : ScholarshipCycle) : ScholarshipCycle → Prop
  | idle (p : Option PageId) (scan : scannedAt settings c db step = none)
      (renew : renewedAt py settings c db step = none) :
      RowMove py settings c db step r { r with sourcePageId := p }
  | refreshed {now : Instant} (scan : scannedAt settings c db step = some now)
      (pub : db.isPublished r) :
      RowMove py settings c db step r (refreshRow py (freshnessConfig settings) now r)
  | renewed {now : Instant} (p : Option PageId) (renew : renewedAt py settings c db step = some now)
      (pub : db.isPublished r)
      (valid : ∃ cutoff, cycleCutoff py r = .ok cutoff ∧ ∀ k ∈ cutoff, now < k) :
      RowMove py settings c db step r { renewRow now r r with sourcePageId := p }

theorem rowMove_of_automatic (py : Py) (settings : Settings) {c : CycleId} {db : Db} {step : Step}
    (hauto : step.automatic) {r : ScholarshipCycle} (hr : db.cycles.row c = some r) :
    ∃ r', (exec py settings db step).cycles.row c = some r' ∧
      RowMove py settings c db step r r' := by
  cases step with
  | publish args now => cases hauto
  | patch countries sid cid changes => cases hauto
  | withdraw sid => cases hauto
  | tick limit now =>
    rcases tick_row py settings limit now db c with ⟨hscan, hrow, hpub⟩ | ⟨hscan, hrow⟩
    · exact ⟨_, by rw [hrow, hr, Option.map_some], RowMove.refreshed hscan (hpub r hr)⟩
    · exact ⟨r, hrow.trans hr, RowMove.idle r.sourcePageId hscan rfl⟩
  | turn sourceId now cycleId fetch =>
    rcases hturn : recheckCycle py settings sourceId now cycleId fetch db with ⟨turn, db'⟩
    have hexec : exec py settings db (.turn sourceId now cycleId fetch) = db' := by
      rw [exec, hturn]
    by_cases hc : cycleId = c
    · -- the turn is for this cycle
      subst hc
      obtain ⟨p, -, ⟨hne, hrow⟩ | ⟨hren, hpub, hvalid, hrow⟩⟩ := recheckCycle_row hturn hr
      · exact ⟨_, by rw [hexec, hrow], RowMove.idle p rfl (by simp [renewedAt, hturn, hne])⟩
      · exact ⟨_, by rw [hexec, hrow],
          RowMove.renewed p (by simp [renewedAt, hturn, hren]) hpub hvalid⟩
    · have hframe := recheckCycle_frame py settings sourceId now cycleId fetch db
      refine ⟨r, ?_, RowMove.idle r.sourcePageId rfl (by simp [renewedAt, hc])⟩
      rw [exec, hframe.other c (Ne.symm hc), hr]

/-- The scheduled jobs leave every cycle with its scholarship. -/
lemma RowMove.owner {c : CycleId} {db : Db} {step : Step} {r r' : ScholarshipCycle}
    (h : RowMove py settings c db step r r') : r'.scholarshipId = r.scholarshipId := by
  cases h with
  | idle p _ _ => rfl
  | @refreshed now _ _ =>
    obtain ⟨v, status, flag, heq⟩ := refreshRow_eq py (freshnessConfig settings) now r
    rw [heq]
  | renewed p _ _ _ =>
    rw [renewRow]
    split <;> rfl

/-- What every admitted move of the scheduled jobs keeps of the row of a cycle holds of its
row at the end of every run of them. -/
theorem row_run {c : CycleId} {I : ScholarshipCycle → Prop} {C : Db → Step → Prop}
    (hmove : ∀ {db step r r'}, C db step → db.cycles.row c = some r →
      RowMove py settings c db step r r' → I r → I r')
    {db : Db} {steps : List Step} (hsteps : ∀ s ∈ steps, s.automatic = true)
    (hC : EachStep (exec py settings) C db steps) {r : ScholarshipCycle}
    (hr : db.cycles.row c = some r) (hI : I r) :
    ∃ r', (run (exec py settings) db steps).cycles.row c = some r' ∧ I r' := by
  refine run_invariant (I := fun db => ∃ r', db.cycles.row c = some r' ∧ I r') ?_ hsteps
    ⟨r, hr, hI⟩ hC
  rintro db step hauto ⟨r, hr, hI⟩ hstep
  obtain ⟨r', hr', hrow⟩ := rowMove_of_automatic py settings hauto hr
  exact ⟨r', hr', hmove hstep hr hrow hI⟩

/-- The scheduled jobs do not change which cycles a scan meets. -/
lemma exec_listing (py : Py) (settings : Settings) (db : Db) {step : Step}
    (hauto : step.automatic) : SameListing db (exec py settings db step) := by
  cases step with
  | publish args now => cases hauto
  | patch countries sid cid changes => cases hauto
  | withdraw sid => cases hauto
  | tick limit now => exact refreshDueStatuses_listing py settings limit now db
  | turn sourceId now cycleId fetch =>
    have hframe := recheckCycle_frame py settings sourceId now cycleId fetch db
    refine ⟨hframe.keys, fun c => ?_⟩
    have hpub : (exec py settings db (.turn sourceId now cycleId fetch)).isPublished =
        db.isPublished := by
      funext r
      rw [Db.isPublished, Db.isPublished, exec, hframe.scholarships]
    rw [hpub]
    cases hr : db.cycles.row c with
    | none =>
      by_cases hc : c = cycleId
      · subst hc
        rw [exec, hframe.missing hr]
      · rw [exec, hframe.other c hc, hr]
    | some r =>
      obtain ⟨r', hr', hmove⟩ := rowMove_of_automatic py settings
        (rfl : (Step.turn sourceId now cycleId fetch).automatic = true) hr
      rw [hr', Option.map_some, Option.map_some]
      cases hmove with
      | idle p _ _ => rfl
      | refreshed hscan _ => cases hscan
      | renewed p _ _ _ =>
        rw [renewRow]
        split <;> rfl

lemma row_none_of_automatic (py : Py) (settings : Settings) {c : CycleId} {db : Db} {step : Step}
    (hauto : step.automatic) (hr : db.cycles.row c = none) :
    (exec py settings db step).cycles.row c = none := by
  have hlist := (exec_listing py settings db hauto).published c
  rw [hr, Option.map_none, Option.map_eq_none_iff] at hlist
  exact hlist

/-! ## What a publication and a correction do to one row -/

/-- A publication either is refused or for another cycle, or inserts the row of the cycle. -/
lemma publish_row (py : Py) (settings : Settings) (args : PublishArgs) (now : Instant) (db : Db)
    (c : CycleId) :
    (¬ (args.cycleId = c ∧ accepted py db (.publish args now)) ∧
      (exec py settings db (.publish args now)).cycles.row c = db.cycles.row c) ∨
    ((args.cycleId = c ∧ accepted py db (.publish args now)) ∧ db.cycles.row c = none ∧
      (exec py settings db (.publish args now)).cycles.row c = some (args.newRow now)) := by
  cases hres : publishCycle args now db with
  | error e =>
    refine Or.inl ⟨?_, by rw [exec, hres, orUnchanged]⟩
    simp [accepted, hres, Except.toOption]
  | ok db' =>
    obtain ⟨hfree, -, heq⟩ := publishCycle_ok hres
    have hexec : exec py settings db (.publish args now) = db' := by rw [exec, hres, orUnchanged]
    rw [hexec, heq]
    by_cases hc : args.cycleId = c
    · subst hc
      exact Or.inr ⟨⟨rfl, by simp [accepted, hres, Except.toOption]⟩, hfree, by simp⟩
    · exact Or.inl ⟨fun h => hc h.1, Table.row_insert_of_ne _ (Ne.symm hc) _⟩

/-- A correction either is refused or of another cycle, or assigns the columns of the row. -/
lemma patch_row (py : Py) (settings : Settings) (countries : CountryVocabulary)
    (scholarshipId : ScholarshipId) (cycleId : CycleId) (changes : UpdateCycleRequest) (db : Db)
    (c : CycleId) :
    (¬ (cycleId = c ∧ accepted py db (.patch countries scholarshipId cycleId changes)) ∧
      (exec py settings db (.patch countries scholarshipId cycleId changes)).cycles.row c =
        db.cycles.row c) ∨
    ((cycleId = c ∧ accepted py db (.patch countries scholarshipId cycleId changes)) ∧
      ∃ (r : ScholarshipCycle) (columns : CycleColumns), db.cycles.row c = some r ∧
        (exec py settings db (.patch countries scholarshipId cycleId changes)).cycles.row c =
          some (columns.assign r) ∧
        columns.officialCycleUrl = changes.officialCycleUrl.newUrl r.officialCycleUrl ∧
        columns.publicStatus = changes.publicStatus.newStatus r.publicStatus) := by
  cases hres : updateCycleRoute py countries scholarshipId cycleId changes db with
  | error e =>
    refine Or.inl ⟨?_, by rw [exec, hres, orUnchanged]⟩
    simp [accepted, hres, Except.toOption]
  | ok db' =>
    obtain ⟨r, columns, hr, -, -, heq, hurl, hstatus, -, -⟩ := updateCycleRoute_ok hres
    have hexec : exec py settings db (.patch countries scholarshipId cycleId changes) = db' := by
      rw [exec, hres, orUnchanged]
    rw [hexec, heq]
    by_cases hc : cycleId = c
    · subst hc
      refine Or.inr ⟨⟨rfl, by simp [accepted, hres, Except.toOption]⟩, r, columns, hr, ?_, hurl,
        hstatus⟩
      simp [hr]
    · exact Or.inl ⟨fun h => hc h.1, Table.row_modify_of_ne _ (Ne.symm hc) _⟩

/-- The flag is not set on an open cycle. -/
def FlagClear (r : ScholarshipCycle) : Prop :=
  r.publicStatus = .openVerified → r.autoDowngraded = false

lemma FlagClear.renewRow {r : ScholarshipCycle} (h : FlagClear r) (now : Instant)
    (p : Option PageId) : FlagClear { renewRow now r r with sourcePageId := p } := by
  intro hopen
  rw [ScholarshipFinder.renewRow] at hopen ⊢
  split
  · rfl
  · next hnot =>
    rw [if_neg hnot] at hopen
    exact h hopen

/-- The scheduled jobs leave the flag off open cycles. -/
lemma FlagClear.move {c : CycleId} {db : Db} {step : Step} {r r' : ScholarshipCycle}
    (h : FlagClear r) (hmove : RowMove py settings c db step r r') : FlagClear r' := by
  cases hmove with
  | idle p _ _ => exact h
  | refreshed _ _ =>
    intro hopen
    obtain ⟨hwas, hflag⟩ := refreshRow_stays_open hopen
    rw [hflag, h hwas]
  | renewed p _ _ _ => exact h.renewRow _ p

/-- The database, with the sessions of the sweeps that run. -/
abbrev Service := Pool ℕ Db Session

/-- An atomic step. -/
inductive Action
  /-- An operation that nothing interrupts: a request or a tick, which is one transaction, or
  a turn as a whole. -/
  | single (step : Step)
  /-- The scan of a sweep for due cycles, in the session `i`. -/
  | scan (i : ℕ)
  /-- The first transaction of a turn. -/
  | startTurn (i : ℕ) (sourceId : SourceId) (now : Instant) (cycleId : CycleId) (fetch : Fetch)
  /-- The next transaction of the turn in progress. -/
  | resumeTurn (i : ℕ)
  /-- The session ends, with its sweep or because the worker stops. -/
  | close (i : ℕ)

variable (py settings) in
/-- The effect of an atomic step. -/
def perform (s : Service) : Action → Service
  | .single step => { s with shared := exec py settings s.shared step }
  | .scan i => s.stepAt i fun session db => (session.scan db, db)
  | .startTurn i sourceId now cycleId fetch => s.stepAt i fun session db =>
    match session.stage with
    | .idle => session.startTurn py settings sourceId now cycleId fetch db
    | _ => (session, db)
  | .resumeTurn i => s.stepAt i fun session db => session.resumeTurn py settings db
  | .close i => s.stepAt i fun _ db => (Session.fresh, db)

/-- Where nothing comes between its transactions, and the session holds the cycle as it is
stored, a turn is one step of the system above. -/
theorem run_transactions {s : Service} {i : ℕ} {sourceId : SourceId} {now : Instant}
    {c : CycleId} {fetch : Fetch} (hidle : (s.proc i).stage = .idle)
    (hloaded : ∀ held ∈ (s.proc i).loaded c, s.shared.cycles.row c = some held) :
    (run (perform py settings) s
        [.startTurn i sourceId now c fetch, .resumeTurn i, .resumeTurn i]).shared =
      exec py settings s.shared (.turn sourceId now c fetch) := by
  have hended := recheckCycle_eq_transactions py settings sourceId now fetch hidle hloaded
  rw [exec, ← hended.2]
  simp only [run_cons, run_nil, perform, Pool.stepAt, Function.update_self, hidle]
  rfl

end ScholarshipFinder
