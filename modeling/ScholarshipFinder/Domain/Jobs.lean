import ScholarshipFinder.Python

/-!
# The transitions of a job (`domain/jobs.py`)

The time that the source takes from the clock is a parameter; the sums of an instant and a
delay are far from the end of the calendar.
-/

namespace ScholarshipFinder

inductive JobState
  | queued
  | running
  | retryWait
  | completed
  | failedReview
deriving DecidableEq, Repr

def retryableKinds : List String :=
  ["fetch_source_page", "extract_candidate", "dispatch_outbox", "refresh_status", "reverify_due",
    "sweep_due_jobs", "auto_approve_sweep", "reconcile_stuck_jobs"]

structure JobTransition where
  state : JobState
  attempts : ℕ
  nextAttemptAt : Option Instant
  error : Option String
deriving DecidableEq, Repr

/-- How long a claim is held before a sweeper may reclaim it. -/
def leaseSeconds : ℤ := 900

/-- `claim_job` -/
def claimJob (state : JobState) (attempts : ℕ) (now : Instant) (nextAttemptAt : Option Instant) :
    Except PyErr JobTransition :=
  if state ≠ .queued ∧ state ≠ .retryWait then valueError "Job is not claimable"
  else if nextAttemptAt.any (now < ·) then valueError "Job is not due yet"
  else .ok ⟨.running, attempts + 1, none, none⟩

/-- `lease_expiry` -/
def leaseExpiry (now : Instant) : Instant := now + leaseSeconds * second

/-- `is_lease_expired` -/
def isLeaseExpired (leaseExpiresAt : Option Instant) (now : Instant) : Bool :=
  leaseExpiresAt.any (· ≤ now)

/-- `finish_job` -/
def finishJob : JobTransition := ⟨.completed, 0, none, none⟩

/-- `error[:1000]` -/
def safeError (error : String) : String := String.ofList (error.toList.take 1000)

/-- The failure of a job of this kind, after so many attempts, is retried. -/
def retries (kind : String) (attempts : ℕ) : Bool := kind ∈ retryableKinds ∧ attempts < 5

/-- `fail_job` -/
def failJob (kind : String) (attempts : ℕ) (error : String) (now : Instant) : JobTransition :=
  if retries kind attempts then
    let delay := min (60 * 2 ^ (attempts - 1)) 21600
    ⟨.retryWait, attempts, some (now + delay * second), some (safeError error)⟩
  else ⟨.failedReview, attempts, none, some (safeError error)⟩

/-- A claim succeeds on a job that waits and is due. -/
lemma claimJob_eq_ok_iff {state : JobState} {attempts : ℕ} {now : Instant}
    {nextAttemptAt : Option Instant} {transition : JobTransition} :
    claimJob state attempts now nextAttemptAt = .ok transition ↔
      (state = .queued ∨ state = .retryWait) ∧ (∀ due ∈ nextAttemptAt, due ≤ now) ∧
        transition = ⟨.running, attempts + 1, none, none⟩ := by
  have hany : nextAttemptAt.any (now < ·) = true ↔ ¬ ∀ due ∈ nextAttemptAt, due ≤ now := by
    cases nextAttemptAt <;> simp
  unfold claimJob
  by_cases hstate : state = .queued ∨ state = .retryWait
  · rw [if_neg (by rcases hstate with h | h <;> simp [h])]
    by_cases hdue : ∀ due ∈ nextAttemptAt, due ≤ now
    · rw [if_neg (by rw [hany]; exact not_not_intro hdue)]
      simp only [Except.ok.injEq]
      exact ⟨fun h => ⟨hstate, hdue, h.symm⟩, fun h => h.2.2.symm⟩
    · rw [if_pos (hany.mpr hdue)]
      exact ⟨fun h => by simp [valueError] at h, fun h => absurd h.2.1 hdue⟩
  · rw [if_pos (by simpa using hstate)]
    exact ⟨fun h => by simp [valueError] at h, fun h => absurd h.1 hstate⟩

/-- A failure is put off to a later time or left to a reviewer, and the attempts are not
counted again. -/
lemma failJob_state (kind : String) (attempts : ℕ) (error : String) (now : Instant) :
    (failJob kind attempts error now).state =
      if retries kind attempts then .retryWait else .failedReview := by
  rw [failJob]
  split <;> rfl

lemma failJob_nextAttemptAt_isSome (kind : String) (attempts : ℕ) (error : String)
    (now : Instant) :
    (failJob kind attempts error now).nextAttemptAt.isSome = retries kind attempts := by
  rw [failJob]
  split
  · next h => rw [h]; rfl
  · next h => simp [h]

end ScholarshipFinder
