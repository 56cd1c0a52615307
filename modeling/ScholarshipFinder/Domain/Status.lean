import ScholarshipFinder.Domain.Models

/-!
# Read-time status (`domain/status.py`)

A stored `open_verified` is re-evaluated on every read: a deadline that has passed, or a
validity window that has run out, turns it into `status_unknown`.
-/

namespace ScholarshipFinder

variable (py : Py)

/-- UTC+14, the first time zone to finish a given calendar date. -/
def failClosedTz : Zone := Zone.fixed (14 * hour)

/-- `if timezone: try: ZoneInfo(timezone) except ZoneInfoNotFoundError`, with what is done
with the zone and what is done without one. -/
def withZone {α : Type} (timezone : Option String) (found : Zone → Except PyErr α)
    (missing : Except PyErr α) : Except PyErr α :=
  match timezone with
  | none => missing
  | some tz =>
    if tz = "" then missing
    else
      match py.zoneInfo tz with
      | .ok zone => found zone
      | .error e => if e.cls = .zoneInfoNotFoundError then missing else .error e

/-- The UTC instant after which a deadline is treated as passed. -/
def deadlineCutoff (deadlineAt : DateTime) (precision : DeadlinePrecision)
    (timezone : Option String) : Except PyErr Instant :=
  match precision with
  | .datetime =>
    match deadlineAt.offset with
    | some offset => .ok (deadlineAt.wall - offset)
    | none =>
      withZone py timezone (fun zone => zone.toUtc deadlineAt.wall) (.ok deadlineAt.wall)
  | .date =>
    withZone py timezone (fun zone => zone.toUtc deadlineAt.endOfDay)
      (failClosedTz.toUtc deadlineAt.endOfDay)

/-- A deadline as the status functions take it: the instant or date, its precision and the
provider's time zone. -/
structure Deadline where
  deadlineAt : Option DateTime
  precision : DeadlinePrecision
  timezone : Option String
deriving DecidableEq, Repr

/-- The cutoff of a deadline, if there is one. -/
def Deadline.cutoff (d : Deadline) : Except PyErr (Option Instant) :=
  match d.deadlineAt with
  | none => .ok none
  | some deadlineAt => (deadlineCutoff py deadlineAt d.precision d.timezone).map some

/-- Re-evaluate time-sensitive status on read; never keep an expired Open now result. -/
def evaluatePublicStatus (storedStatus : PublicStatus) (deadline : Deadline)
    (statusValidUntil : Option Instant) (now : Instant) : Except PyErr PublicStatus :=
  if storedStatus = .openVerified then do
    let cutoff ← deadline.cutoff py
    if cutoff.any (· ≤ now) then return .statusUnknown
    if statusValidUntil.any (· ≤ now) then return .statusUnknown
    return storedStatus
  else .ok storedStatus

/-- The display-only refinement of a status. -/
inductive StatusDetail
  | closingSoon
  | opened
  | likelyToOpen
  | statusUnknown
deriving DecidableEq, Repr

def closingSoonWindowDays : ℤ := 14

/-- Refine an already re-evaluated status for display. -/
def evaluateStatusDetail (status : PublicStatus) (deadline : Deadline) (now : Instant) :
    Except PyErr StatusDetail :=
  match status with
  | .openVerified => do
    let cutoff ← deadline.cutoff py
    if cutoff.any (· - now ≤ closingSoonWindowDays * day) then return .closingSoon
    return .opened
  | .expectedToReopen => .ok .likelyToOpen
  | .statusUnknown => .ok .statusUnknown

variable {py}

lemma evaluatePublicStatus_of_ne {status : PublicStatus} (h : status ≠ .openVerified)
    (d : Deadline) (v : Option Instant) (now : Instant) :
    evaluatePublicStatus py status d v now = .ok status := by
  simp [evaluatePublicStatus, h]

/-- The read-time status of an open cycle, once its cutoff is known. -/
lemma evaluatePublicStatus_openVerified {d : Deadline} {cutoff : Option Instant}
    (hcut : d.cutoff py = .ok cutoff) (v : Option Instant) (now : Instant) :
    evaluatePublicStatus py .openVerified d v now =
      .ok (if cutoff.any (· ≤ now) ∨ v.any (· ≤ now) then .statusUnknown else .openVerified) := by
  simp only [evaluatePublicStatus, if_true, hcut]
  by_cases h1 : cutoff.any (· ≤ now) = true
  · simp [h1, bind, Except.bind, pure, Except.pure]
  · by_cases h2 : v.any (· ≤ now) = true <;>
      simp [h1, h2, bind, Except.bind, pure, Except.pure]

/-- A cycle reads as open exactly when it is stored so and neither its deadline nor its
validity window has run out. -/
theorem evaluatePublicStatus_eq_openVerified_iff {status : PublicStatus} {d : Deadline}
    {v : Option Instant} {now : Instant} :
    evaluatePublicStatus py status d v now = .ok .openVerified ↔
      status = .openVerified ∧
        ∃ cutoff, d.cutoff py = .ok cutoff ∧ (∀ c ∈ cutoff, now < c) ∧ (∀ u ∈ v, now < u) := by
  by_cases hs : status = .openVerified
  · subst hs
    cases hcut : d.cutoff py with
    | error e => simp [evaluatePublicStatus, hcut, bind, Except.bind]
    | ok cutoff =>
      rw [evaluatePublicStatus_openVerified hcut]
      cases cutoff <;> cases v <;> simp
  · rw [evaluatePublicStatus_of_ne hs]
    simp [hs]

end ScholarshipFinder
