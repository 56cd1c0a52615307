import ScholarshipFinder.Domain.Publication

/-!
# Publishing, correcting and withdrawing (`infra/publication.py`, `infra/withdrawals.py`)

Every operation here is one transaction of its request: it either raises and leaves the
database as it was, or answers the database to commit.  Audit rows and analytics events are
left out, nothing here reads them.
-/

namespace ScholarshipFinder

open Lib

/-- Another cycle of the scholarship already has this key and segment. -/
def identityTaken (db : Db) (scholarshipId : ScholarshipId) (key segment : String)
    (except : Option CycleId) : Bool :=
  db.cycles.keys.any fun cycleId =>
    some cycleId ≠ except && (db.cycles.row cycleId).any fun row =>
      row.scholarshipId = scholarshipId && row.providerCycleKey = key &&
        row.applicantSegment = segment

/-- The arguments of `publish_cycle`, with the key the new row gets. -/
structure PublishArgs where
  cycleId : CycleId
  scholarshipId : ScholarshipId
  providerCycleKey : String
  applicantSegment : String
  officialCycleUrl : String
  publicStatus : PublicStatus
  facts : Json
  statusValidUntil : Option Instant
  lastVerifiedAt : Option Instant

/-- The row that `publish_cycle` inserts at `now`. -/
def PublishArgs.newRow (args : PublishArgs) (now : Instant) : ScholarshipCycle where
  scholarshipId := args.scholarshipId
  providerCycleKey := args.providerCycleKey
  applicantSegment := args.applicantSegment
  officialCycleUrl := args.officialCycleUrl
  publicStatus := args.publicStatus
  statusValidUntil := args.statusValidUntil
  lastVerifiedAt := args.lastVerifiedAt
  facts := args.facts
  sourcePageId := none
  autoDowngraded := false
  createdAt := now

/-- Publish one application cycle; refuses only a withdrawn scholarship. -/
def publishCycle (args : PublishArgs) (now : Instant) (db : Db) : Except PyErr Db :=
  match db.scholarships.row args.scholarshipId with
  | none => lookupError "Scholarship not found"
  | some scholarship =>
    if scholarship.lifecycleState = .withdrawn then
      valueError "Cannot publish a withdrawn scholarship"
    else if identityTaken db args.scholarshipId args.providerCycleKey args.applicantSegment
        none then
      valueError "A cycle with this key and segment is already published"
    else if (db.cycles.row args.cycleId).isSome then
      .error ⟨.integrityError, "duplicate key value violates unique constraint"⟩
    else
      .ok { db with
        cycles := db.cycles.insert args.cycleId (args.newRow now)
        scholarships := db.scholarships.modify args.scholarshipId fun s =>
          { s with lifecycleState := .published } }

/-- Return one cycle, locked, ready to be corrected. -/
def loadCycleForUpdate (scholarshipId : ScholarshipId) (cycleId : CycleId) (db : Db) :
    Except PyErr ScholarshipCycle :=
  match db.scholarships.row scholarshipId with
  | none => lookupError "Scholarship not found"
  | some scholarship =>
    if scholarship.lifecycleState = .withdrawn then
      valueError "Cannot update a cycle of a withdrawn scholarship"
    else
      match db.cycles.row cycleId with
      | none => lookupError "Cycle not found"
      | some cycle =>
        if cycle.scholarshipId = scholarshipId then .ok cycle else lookupError "Cycle not found"

/-- The columns that `update_cycle` assigns. -/
structure CycleColumns where
  providerCycleKey : String
  applicantSegment : String
  officialCycleUrl : String
  publicStatus : PublicStatus
  facts : Json
  statusValidUntil : Option Instant
  lastVerifiedAt : Option Instant

/-- The assignments of `update_cycle`; every other column keeps its value. -/
def CycleColumns.assign (columns : CycleColumns) (row : ScholarshipCycle) : ScholarshipCycle :=
  { row with
    providerCycleKey := columns.providerCycleKey
    applicantSegment := columns.applicantSegment
    officialCycleUrl := columns.officialCycleUrl
    publicStatus := columns.publicStatus
    statusValidUntil := columns.statusValidUntil
    lastVerifiedAt := columns.lastVerifiedAt
    facts := columns.facts }

/-- Apply a correction to one published cycle. -/
def updateCycle (cycleId : CycleId) (cycle : ScholarshipCycle) (columns : CycleColumns) (db : Db) :
    Except PyErr Db :=
  let identityChanged := columns.providerCycleKey ≠ cycle.providerCycleKey ∨
    columns.applicantSegment ≠ cycle.applicantSegment
  if identityChanged ∧ identityTaken db cycle.scholarshipId columns.providerCycleKey
      columns.applicantSegment (some cycleId) then
    valueError "A cycle with this key and segment is already published"
  else .ok { db with cycles := db.cycles.modify cycleId columns.assign }

/-- Withdraw a scholarship and every cycle under it. -/
def withdrawScholarship (scholarshipId : ScholarshipId) (db : Db) : Except PyErr Db :=
  match db.scholarships.row scholarshipId with
  | none => lookupError "Scholarship not found"
  | some scholarship =>
    if scholarship.lifecycleState = .withdrawn then
      valueError "Scholarship is already withdrawn"
    else
      let cycleIds := db.cycles.keys.filter fun cycleId =>
        (db.cycles.row cycleId).any fun row => row.scholarshipId = scholarshipId
      .ok { db with
        scholarships := db.scholarships.modify scholarshipId fun s =>
          { s with lifecycleState := .withdrawn }
        cycles := cycleIds.foldl (fun cycles cycleId => cycles.modify cycleId fun row =>
          { row with publicStatus := .statusUnknown, statusValidUntil := none }) db.cycles }

/-! ## What an accepted operation writes -/

/-- An accepted publication inserts a row under a key that was free, for a scholarship that
is not withdrawn. -/
theorem publishCycle_ok {args : PublishArgs} {now : Instant} {db db' : Db}
    (h : publishCycle args now db = .ok db') :
    db.cycles.row args.cycleId = none ∧
      (∃ s, db.scholarships.row args.scholarshipId = some s ∧ s.lifecycleState ≠ .withdrawn) ∧
      db' = { db with
        cycles := db.cycles.insert args.cycleId (args.newRow now)
        scholarships := db.scholarships.modify args.scholarshipId fun s =>
          { s with lifecycleState := .published } } := by
  rw [publishCycle] at h
  cases hs : db.scholarships.row args.scholarshipId with
  | none => simp [hs, lookupError] at h
  | some s =>
    simp only [hs] at h
    split at h
    · simp [valueError] at h
    · next hstate =>
      split at h
      · simp [valueError] at h
      · split at h
        · simp at h
        · next hfree =>
          rw [Except.ok.injEq] at h
          refine ⟨?_, ⟨s, rfl, hstate⟩, h.symm⟩
          simpa using hfree

lemma loadCycleForUpdate_ok {scholarshipId : ScholarshipId} {cycleId : CycleId} {db : Db}
    {cycle : ScholarshipCycle} (h : loadCycleForUpdate scholarshipId cycleId db = .ok cycle) :
    db.cycles.row cycleId = some cycle ∧ cycle.scholarshipId = scholarshipId ∧
      ∃ s, db.scholarships.row scholarshipId = some s ∧ s.lifecycleState ≠ .withdrawn := by
  rw [loadCycleForUpdate] at h
  cases hs : db.scholarships.row scholarshipId with
  | none => simp [hs, lookupError] at h
  | some s =>
    simp only [hs] at h
    split at h
    · simp [valueError] at h
    · next hstate =>
      cases hc : db.cycles.row cycleId with
      | none => simp [hc, lookupError] at h
      | some row =>
        simp only [hc] at h
        split at h
        · next hid =>
          rw [Except.ok.injEq] at h
          subst h
          exact ⟨rfl, hid, s, rfl, hstate⟩
        · simp [lookupError] at h

lemma updateCycle_ok {cycleId : CycleId} {cycle : ScholarshipCycle} {columns : CycleColumns}
    {db db' : Db} (h : updateCycle cycleId cycle columns db = .ok db') :
    db' = { db with cycles := db.cycles.modify cycleId columns.assign } := by
  rw [updateCycle] at h
  split at h
  · simp [valueError] at h
  · rw [Except.ok.injEq] at h
    exact h.symm

/-- An accepted withdrawal takes the scholarship out of the listing and closes its cycles. -/
theorem withdrawScholarship_ok {scholarshipId : ScholarshipId} {db db' : Db}
    (h : withdrawScholarship scholarshipId db = .ok db') :
    db'.scholarships = db.scholarships.modify scholarshipId (fun s =>
        { s with lifecycleState := .withdrawn }) ∧
      db'.pages = db.pages ∧ db'.tasks = db.tasks ∧ db'.cycles.keys = db.cycles.keys ∧
      ∀ c, db'.cycles.row c = (db.cycles.row c).map fun row =>
        if row.scholarshipId = scholarshipId then
          { row with publicStatus := .statusUnknown, statusValidUntil := none }
        else row := by
  rw [withdrawScholarship] at h
  cases hs : db.scholarships.row scholarshipId with
  | none => simp [hs, lookupError] at h
  | some s =>
    simp only [hs] at h
    split at h
    · simp [valueError] at h
    · rw [Except.ok.injEq] at h
      subst h
      refine ⟨rfl, rfl, rfl, by simp, fun c => ?_⟩
      -- the loop closes each cycle of the scholarship once
      rw [Table.row_foldl_modify (db.cycles.nodup.filter _)]
      cases hc : db.cycles.row c with
      | none => simp
      | some row =>
        have hmem : c ∈ db.cycles.keys := by simp [db.cycles.mem_keys, hc]
        by_cases hid : row.scholarshipId = scholarshipId <;> simp [hmem, hc, hid]

end ScholarshipFinder
