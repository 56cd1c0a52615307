import ScholarshipFinder.Sample

/-!
# Withdrawal and the sweeps

A withdrawn scholarship is out of reach of every operation that is one transaction, and of the
first transaction of a turn, which checks that the cycle is still published.  The further
transactions of a turn do not check it again.  `withdrawal_is_terminal` says that this is the
only gap: withdrawal is terminal in every run in which no scholarship is withdrawn while a
turn for one of its cycles is between two transactions.
-/

namespace ScholarshipFinder

open Lib

variable {py : Py} {settings : Settings} {c : CycleId} {db db' : Db}

/-- The scholarship is withdrawn. -/
def Withdrawn (db : Db) (scholarshipId : ScholarshipId) : Prop :=
  ∃ s, db.scholarships.row scholarshipId = some s ∧ s.lifecycleState = .withdrawn

/-- What a step leaves of the cycles of withdrawn scholarships: they stay withdrawn, are
neither renewed nor opened, and get no review task. -/
def KeepsWithdrawn (db db' : Db) : Prop :=
  ∀ c r, db.cycles.row c = some r → Withdrawn db r.scholarshipId →
    ∃ r', db'.cycles.row c = some r' ∧ Withdrawn db' r'.scholarshipId ∧
      r'.lastVerifiedAt = r.lastVerifiedAt ∧
      (r'.publicStatus = .openVerified → r.publicStatus = .openVerified) ∧
      ∀ task ∈ db'.tasks, task.cycleId = some c → task ∈ db.tasks

/-- A withdrawal is committed only when no turn for a cycle of the scholarship is between two
of its transactions. -/
def WithdrawsBetweenTurns (s : Service) (a : Action) : Prop :=
  ∀ scholarshipId, a = .single (.withdraw scholarshipId) → ∀ i, ∀ turn ∈ (s.proc i).stage.turn,
    ∀ r, s.shared.cycles.row turn.cycleId = some r → r.scholarshipId ≠ scholarshipId

/-- The turn that the session has in progress is for a cycle that is not withdrawn. -/
def LiveTurn (session : Session) (db : Db) : Prop :=
  ∀ turn ∈ session.stage.turn,
    ∃ r, db.cycles.row turn.cycleId = some r ∧ ¬ Withdrawn db r.scholarshipId

lemma not_withdrawn_of_isPublished {r : ScholarshipCycle} (h : db.isPublished r) :
    ¬ Withdrawn db r.scholarshipId := by
  rintro ⟨s, hs, hwithdrawn⟩
  have hpub : s.lifecycleState = .published := by simpa [Db.isPublished, hs] using h
  rw [hwithdrawn] at hpub
  cases hpub

/-- Scholarships are withdrawn by their state alone. -/
lemma withdrawn_congr (h : db'.scholarships = db.scholarships) (scholarshipId : ScholarshipId) :
    Withdrawn db' scholarshipId ↔ Withdrawn db scholarshipId := by
  rw [Withdrawn, Withdrawn, h]

lemma KeepsWithdrawn.refl (db : Db) : KeepsWithdrawn db db :=
  fun _ r hr hwithdrawn => ⟨r, hr, hwithdrawn, rfl, id, fun _ h _ => h⟩

/-! ## Transactions of a turn -/

/-- A transaction of a turn for a live cycle does not touch the withdrawn ones. -/
lemma OwnTransaction.keepsWithdrawn (h : OwnTransaction c db db')
    (hlive : ∃ r, db.cycles.row c = some r ∧ ¬ Withdrawn db r.scholarshipId) :
    KeepsWithdrawn db db' := by
  obtain ⟨live, hlive, hnot⟩ := hlive
  intro j r hr hwithdrawn
  have hj : j ≠ c := by
    rintro rfl
    rw [hr, Option.some.injEq] at hlive
    exact hnot (hlive ▸ hwithdrawn)
  have hkept := (withdrawn_congr h.scholarships r.scholarshipId).mpr hwithdrawn
  refine ⟨r, (h.other j hj).trans hr, hkept, rfl, id, ?_⟩
  intro task htask hcycle
  rcases h.tasks task htask with hold | hown
  · exact hold
  · rw [hcycle, Option.some.injEq] at hown
    exact absurd hown hj

/-- It keeps every turn in progress live. -/
lemma OwnTransaction.liveTurn (h : OwnTransaction c db db') {session : Session}
    (hlive : LiveTurn session db) : LiveTurn session db' := by
  intro turn hturn
  obtain ⟨r, hr, hnot⟩ := hlive turn hturn
  have howner : ∃ r', db'.cycles.row turn.cycleId = some r' ∧
      r'.scholarshipId = r.scholarshipId := by
    by_cases hc : turn.cycleId = c
    · subst hc
      exact h.owner r hr
    · exact ⟨r, (h.other _ hc).trans hr, rfl⟩
  obtain ⟨r', hr', hid⟩ := howner
  refine ⟨r', hr', ?_⟩
  rw [withdrawn_congr h.scholarships, hid]
  exact hnot

/-! ## Operations that nothing interrupts -/

/-- No operation deletes a cycle or gives it to another scholarship. -/
lemma exec_owner (py : Py) (settings : Settings) (step : Step) {r : ScholarshipCycle}
    (hr : db.cycles.row c = some r) :
    ∃ r', (exec py settings db step).cycles.row c = some r' ∧
      r'.scholarshipId = r.scholarshipId := by
  cases step with
  | publish args now =>
    rcases publish_row py settings args now db c with ⟨-, hrow⟩ | ⟨-, hnone, -⟩
    · exact ⟨r, hrow.trans hr, rfl⟩
    · rw [hr] at hnone
      cases hnone
  | patch countries sid cid changes =>
    rcases patch_row py settings countries sid cid changes db c with
      ⟨-, hrow⟩ | ⟨-, r₀, columns, hr₀, hrow, -, -⟩
    · exact ⟨r, hrow.trans hr, rfl⟩
    · rw [hr, Option.some.injEq] at hr₀
      exact ⟨_, hrow, by rw [hr₀]; rfl⟩
  | withdraw sid =>
    rw [exec]
    cases hres : withdrawScholarship sid db with
    | error e => exact ⟨r, hr, rfl⟩
    | ok db' =>
      obtain ⟨-, -, -, -, hrows⟩ := withdrawScholarship_ok hres
      refine ⟨_, by rw [orUnchanged, hrows, hr, Option.map_some], ?_⟩
      split <;> rfl
  | tick limit now =>
    obtain ⟨r', hr', hmove⟩ := rowMove_of_automatic py settings
      (rfl : (Step.tick limit now).automatic = true) hr
    exact ⟨r', hr', hmove.owner⟩
  | turn sourceId now cycleId fetch =>
    obtain ⟨r', hr', hmove⟩ := rowMove_of_automatic py settings
      (rfl : (Step.turn sourceId now cycleId fetch).automatic = true) hr
    exact ⟨r', hr', hmove.owner⟩

/-- A withdrawal is for good. -/
lemma exec_withdrawn (py : Py) (settings : Settings) (step : Step)
    {scholarshipId : ScholarshipId} (h : Withdrawn db scholarshipId) :
    Withdrawn (exec py settings db step) scholarshipId := by
  cases step with
  | publish args now =>
    rw [exec]
    cases hres : publishCycle args now db with
    | error e => exact h
    | ok db' =>
      obtain ⟨-, ⟨s₀, hs₀, hnot⟩, rfl⟩ := publishCycle_ok hres
      obtain ⟨s, hs, hwithdrawn⟩ := h
      have hne : scholarshipId ≠ args.scholarshipId := by
        rintro rfl
        rw [hs, Option.some.injEq] at hs₀
        exact hnot (hs₀ ▸ hwithdrawn)
      exact ⟨s, (Table.row_modify_of_ne _ hne _).trans hs, hwithdrawn⟩
  | patch countries sid cid changes =>
    rw [exec]
    cases hres : updateCycleRoute py countries sid cid changes db with
    | error e => exact h
    | ok db' =>
      obtain ⟨row, columns, -, -, -, rfl, -⟩ := updateCycleRoute_ok hres
      exact h
  | withdraw sid =>
    rw [exec]
    cases hres : withdrawScholarship sid db with
    | error e => exact h
    | ok db' =>
      obtain ⟨hscholarships, -⟩ := withdrawScholarship_ok hres
      obtain ⟨s, hs, hwithdrawn⟩ := h
      rw [orUnchanged, Withdrawn, hscholarships]
      by_cases hid : scholarshipId = sid
      · subst hid
        exact ⟨_, by rw [Table.row_modify_self, hs, Option.map_some], rfl⟩
      · exact ⟨s, (Table.row_modify_of_ne _ hid _).trans hs, hwithdrawn⟩
  | tick limit now => exact h
  | turn sourceId now cycleId fetch =>
    have hframe := recheckCycle_frame py settings sourceId now cycleId fetch db
    exact (withdrawn_congr hframe.scholarships _).mpr h

/-- Only `withdraw_scholarship` withdraws. -/
lemma withdrawn_of_exec {step : Step} {scholarshipId : ScholarshipId}
    (h : Withdrawn (exec py settings db step) scholarshipId) :
    Withdrawn db scholarshipId ∨ step = .withdraw scholarshipId := by
  cases step with
  | publish args now =>
    rw [exec] at h
    cases hres : publishCycle args now db with
    | error e =>
      rw [hres] at h
      exact Or.inl h
    | ok db' =>
      obtain ⟨-, -, rfl⟩ := publishCycle_ok hres
      rw [hres] at h
      obtain ⟨s, hs, hwithdrawn⟩ := h
      by_cases hid : scholarshipId = args.scholarshipId
      · subst hid
        -- the scholarship is published
        simp only [orUnchanged, Table.row_modify_self, Option.map_eq_some_iff] at hs
        obtain ⟨s₀, -, rfl⟩ := hs
        cases hwithdrawn
      · exact Or.inl ⟨s, (Table.row_modify_of_ne _ hid _).symm.trans hs, hwithdrawn⟩
  | patch countries sid cid changes =>
    rw [exec] at h
    cases hres : updateCycleRoute py countries sid cid changes db with
    | error e =>
      rw [hres] at h
      exact Or.inl h
    | ok db' =>
      obtain ⟨row, columns, -, -, -, rfl, -⟩ := updateCycleRoute_ok hres
      rw [hres] at h
      exact Or.inl h
  | withdraw sid =>
    rw [exec] at h
    cases hres : withdrawScholarship sid db with
    | error e =>
      rw [hres] at h
      exact Or.inl h
    | ok db' =>
      obtain ⟨hscholarships, -⟩ := withdrawScholarship_ok hres
      rw [hres, orUnchanged, Withdrawn, hscholarships] at h
      by_cases hid : scholarshipId = sid
      · exact Or.inr (by rw [hid])
      · rw [Table.row_modify_of_ne _ hid] at h
        exact Or.inl h
  | tick limit now => exact Or.inl h
  | turn sourceId now cycleId fetch =>
    have hframe := recheckCycle_frame py settings sourceId now cycleId fetch db
    exact Or.inl ((withdrawn_congr hframe.scholarships _).mp h)

/-- The cycle of a withdrawn scholarship is out of reach of a step that leaves its row and
the tasks alone. -/
lemma keepsWithdrawn_of_row {step : Step}
    (hrow : ∀ c r, db.cycles.row c = some r → Withdrawn db r.scholarshipId →
      (exec py settings db step).cycles.row c = some r)
    (htasks : (exec py settings db step).tasks = db.tasks) :
    KeepsWithdrawn db (exec py settings db step) := by
  intro c r hr hwithdrawn
  refine ⟨r, hrow c r hr hwithdrawn, exec_withdrawn py settings step hwithdrawn, rfl, id, ?_⟩
  intro task htask _
  rwa [htasks] at htask

/-- Withdrawal is terminal for every operation that nothing interrupts. -/
theorem exec_keepsWithdrawn (py : Py) (settings : Settings) (db : Db) (step : Step) :
    KeepsWithdrawn db (exec py settings db step) := by
  cases step with
  | publish args now =>
    refine keepsWithdrawn_of_row ?_ ?_
    · intro c r hr _
      rcases publish_row py settings args now db c with ⟨-, hrow⟩ | ⟨-, hnone, -⟩
      · exact hrow.trans hr
      · rw [hr] at hnone
        cases hnone
    · rw [exec]
      cases hres : publishCycle args now db with
      | error e => rfl
      | ok db' =>
        obtain ⟨-, -, rfl⟩ := publishCycle_ok hres
        rfl
  | patch countries sid cid changes =>
    rw [exec]
    cases hres : updateCycleRoute py countries sid cid changes db with
    | error e => exact KeepsWithdrawn.refl db
    | ok db' =>
      obtain ⟨row, columns, hrow, hid, ⟨s₀, hs₀, hnot⟩, rfl, -⟩ := updateCycleRoute_ok hres
      intro c r hr hwithdrawn
      have hne : c ≠ cid := by
        rintro rfl
        obtain ⟨s, hs, hstate⟩ := hwithdrawn
        rw [hr, Option.some.injEq] at hrow
        rw [hrow, hid, hs₀, Option.some.injEq] at hs
        exact hnot (hs ▸ hstate)
      exact ⟨r, (Table.row_modify_of_ne _ hne _).trans hr, hwithdrawn, rfl, id, fun _ h _ => h⟩
  | withdraw sid =>
    intro c r hr hwithdrawn
    have hkept := exec_withdrawn py settings (.withdraw sid) hwithdrawn
    rw [exec] at hkept ⊢
    cases hres : withdrawScholarship sid db with
    | error e => exact ⟨r, hr, hwithdrawn, rfl, id, fun _ h _ => h⟩
    | ok db' =>
      obtain ⟨-, -, htasks, -, hrows⟩ := withdrawScholarship_ok hres
      rw [hres, orUnchanged] at hkept
      rw [orUnchanged, hrows, hr, Option.map_some, htasks]
      refine ⟨_, rfl, ?_, ?_, ?_, fun _ h _ => h⟩
      · split <;> exact hkept
      · split <;> rfl
      · -- a withdrawal closes its cycles
        split
        · intro hopen
          cases hopen
        · exact id
  | tick limit now =>
    refine keepsWithdrawn_of_row ?_ rfl
    intro c r hr hwithdrawn
    rcases tick_row py settings limit now db c with ⟨-, -, hpub⟩ | ⟨-, hrow⟩
    · exact absurd hwithdrawn (not_withdrawn_of_isPublished (hpub r hr))
    · exact hrow.trans hr
  | turn sourceId now cycleId fetch =>
    rw [exec]
    rcases own_recheckCycle py settings sourceId now cycleId fetch db with
      hskipped | ⟨⟨row, hrow, hpub⟩, hown⟩
    · rw [hskipped]
      exact KeepsWithdrawn.refl db
    · exact hown.keepsWithdrawn ⟨row, hrow, not_withdrawn_of_isPublished hpub⟩

/-- An operation keeps a turn in progress live, unless it withdraws its scholarship. -/
lemma LiveTurn.exec {session : Session} (hlive : LiveTurn session db) {step : Step}
    (hstep : ∀ scholarshipId, step = .withdraw scholarshipId → ∀ turn ∈ session.stage.turn,
      ∀ r, db.cycles.row turn.cycleId = some r → r.scholarshipId ≠ scholarshipId) :
    LiveTurn session (exec py settings db step) := by
  intro turn hturn
  obtain ⟨r, hr, hnot⟩ := hlive turn hturn
  obtain ⟨r', hr', hid⟩ := exec_owner py settings step hr
  refine ⟨r', hr', fun hwithdrawn => ?_⟩
  rw [hid] at hwithdrawn
  rcases withdrawn_of_exec hwithdrawn with hold | hstep'
  · exact hnot hold
  · exact hstep _ hstep' turn hturn r hr rfl

/-! ## Steps of a session -/

/-- A step of a session that leaves the withdrawn cycles alone, and the turns in progress
live. -/
structure SafeStep (db : Db) (after : Session × Db) : Prop where
  keeps : KeepsWithdrawn db after.2
  live : LiveTurn after.1 after.2
  others : ∀ session, LiveTurn session db → LiveTurn session after.2

lemma liveTurn_of_idle {session : Session} (hidle : session.stage = .idle) (db : Db) :
    LiveTurn session db := by
  intro turn hturn
  rw [hidle] at hturn
  cases hturn

/-- A step that does not write. -/
lemma SafeStep.of_live {session : Session} (hlive : LiveTurn session db) :
    SafeStep db (session, db) where
  keeps := KeepsWithdrawn.refl db
  live := hlive
  others := fun _ h => h

/-- A transaction of a turn for a live cycle. -/
lemma TurnTransaction.safe {after : Session × Db} (h : TurnTransaction c db after)
    (hlive : ∃ r, db.cycles.row c = some r ∧ ¬ Withdrawn db r.scholarshipId) :
    SafeStep db after where
  keeps := h.own.keepsWithdrawn hlive
  live := by
    intro turn hturn
    obtain ⟨r, hr, hnot⟩ := hlive
    obtain ⟨r', hr', hid⟩ := h.own.owner r hr
    rw [h.turn turn hturn]
    refine ⟨r', hr', ?_⟩
    rw [withdrawn_congr h.own.scholarships, hid]
    exact hnot
  others := fun _ => h.own.liveTurn

/-- The first transaction of a turn checks that the cycle is published. -/
lemma safe_startTurn {session : Session} (hidle : session.stage = .idle) (sourceId : SourceId)
    (now : Instant) (c : CycleId) (fetch : Fetch) (db : Db) :
    SafeStep db (session.startTurn py settings sourceId now c fetch db) := by
  rcases startTurn_spec py settings session sourceId now c fetch db with
    hskipped | ⟨⟨row, hrow, hpub⟩, hstart⟩
  · rw [hskipped]
    exact SafeStep.of_live (liveTurn_of_idle hidle db)
  · exact hstart.safe ⟨row, hrow, not_withdrawn_of_isPublished hpub⟩

/-- The further ones do not, and rely on its still being live. -/
lemma safe_resumeTurn {session : Session} (hlive : LiveTurn session db) :
    SafeStep db (session.resumeTurn py settings db) := by
  cases hturn : session.stage.turn with
  | none =>
    rw [resumeTurn_of_no_turn hturn]
    exact SafeStep.of_live hlive
  | some turn => exact (resumeTurn_spec py settings hturn db).safe (hlive turn hturn)

/-! ## Runs -/

lemma SafeStep.stepAt {s : Service} (hlive : s.Holds LiveTurn) {i : ℕ}
    {f : Session → Db → Session × Db} (h : SafeStep s.shared (f (s.proc i) s.shared)) :
    KeepsWithdrawn s.shared (s.stepAt i f).shared ∧ (s.stepAt i f).Holds LiveTurn :=
  ⟨h.keeps, hlive.stepAt h.live h.others⟩

/-- One atomic step, where the turns in progress are for cycles that are not withdrawn. -/
theorem perform_keepsWithdrawn {s : Service} (hlive : s.Holds LiveTurn) {a : Action}
    (hwithdraws : WithdrawsBetweenTurns s a) :
    KeepsWithdrawn s.shared (perform py settings s a).shared ∧
      (perform py settings s a).Holds LiveTurn := by
  cases a with
  | single step =>
    refine ⟨exec_keepsWithdrawn py settings s.shared step, fun i => (hlive i).exec ?_⟩
    rintro scholarshipId rfl
    exact hwithdraws scholarshipId rfl i
  | scan i => exact SafeStep.stepAt hlive (SafeStep.of_live (hlive i))
  | startTurn i sourceId now cycleId fetch =>
    refine SafeStep.stepAt hlive ?_
    split
    · next hidle => exact safe_startTurn hidle sourceId now cycleId fetch s.shared
    · exact SafeStep.of_live (hlive i)
  | resumeTurn i => exact SafeStep.stepAt hlive (safe_resumeTurn (hlive i))
  | close i => exact SafeStep.stepAt hlive (SafeStep.of_live (liveTurn_of_idle rfl s.shared))

/-- In every interleaving of requests, ticks and the transactions of sweeps in which no
scholarship is withdrawn in the middle of a turn for one of its cycles, no step renews or
opens a cycle of a withdrawn scholarship or opens a review task for it. -/
theorem withdrawal_is_terminal {s : Service} (hidle : ∀ i, (s.proc i).stage = .idle)
    {actions : List Action} (h : EachStep (perform py settings) WithdrawsBetweenTurns s actions) :
    EachStep (perform py settings)
      (fun s a => KeepsWithdrawn s.shared (perform py settings s a).shared) s actions :=
  h.imp_of_invariant (I := Pool.Holds LiveTurn)
    (fun _ _ hlive hwithdraws => (perform_keepsWithdrawn hlive hwithdraws).2)
    (fun _ _ hlive hwithdraws => (perform_keepsWithdrawn hlive hwithdraws).1)
    (fun i => liveTurn_of_idle (hidle i) s.shared)

/-- A cycle that was downgraded for staleness, with no sweep running. -/
def downgraded : Service where
  shared := Sample.db { Sample.cycle with publicStatus := .statusUnknown, autoDowngraded := true }
  proc := fun _ => Session.fresh

/-- It is observed once; then its scholarship is withdrawn while the next sweep is between
the commit of the page it fetched and the commit of its decision. -/
def midTurnWithdrawal : List Action := [
  .single (.turn 1 (Sample.start + 720 * hour) 1 (Sample.answer 200 [49])),
  .scan 0,
  .startTurn 0 1 (Sample.start + 721 * hour) 1 (Sample.answer 200 [49]),
  .single (.withdraw 1),
  .resumeTurn 0]

/-- The sweep renews the withdrawn cycle and opens it. -/
theorem withdrawn_cycle_reopened :
    (∀ i, (downgraded.proc i).stage = .idle) ∧
      Withdrawn (run (perform Sample.py {}) downgraded (midTurnWithdrawal.take 4)).shared 1 ∧
      ((run (perform Sample.py {}) downgraded midTurnWithdrawal).shared.cycles.row 1).map
          (fun row => (row.publicStatus, row.lastVerifiedAt)) =
        some (.openVerified, some (Sample.start + 721 * hour)) ∧
      ¬ EachStep (perform Sample.py {})
        (fun s a => KeepsWithdrawn s.shared (perform Sample.py {} s a).shared) downgraded
        midTurnWithdrawal := by
  refine ⟨fun _ => rfl, ⟨_, rfl, rfl⟩, rfl, ?_⟩
  rintro ⟨-, -, -, -, hlast, -⟩
  obtain ⟨r', hr', -, hverified, -⟩ := hlast 1 _ rfl ⟨_, rfl, rfl⟩
  cases hr'
  exact absurd hverified (by decide)

/-- A withdrawal after the turn stays in force. -/
theorem withdrawal_after_turn_is_terminal :
    EachStep (perform Sample.py {})
      (fun s a => KeepsWithdrawn s.shared (perform Sample.py {} s a).shared) downgraded [
        .startTurn 0 1 (Sample.start + 720 * hour) 1 (Sample.answer 200 [49]),
        .resumeTurn 0,
        .single (.withdraw 1),
        .startTurn 0 1 (Sample.start + 721 * hour) 1 (Sample.answer 200 [49])] := by
  refine withdrawal_is_terminal (fun _ => rfl) ⟨?_, ?_, ?_, ?_, trivial⟩
  · rintro scholarshipId ⟨⟩
  · rintro scholarshipId ⟨⟩
  · rintro scholarshipId - i turn hturn
    by_cases hi : i = 0
    · subst hi
      cases hturn
    · simp [perform, Pool.stepAt, Function.update_of_ne hi, downgraded, Session.fresh,
        Stage.turn] at hturn
  · rintro scholarshipId ⟨⟩

end ScholarshipFinder
