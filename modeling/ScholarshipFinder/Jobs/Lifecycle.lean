import ScholarshipFinder.Jobs.History

/-!
# The life of a job

What the queue decides by is five columns of the row of a job.  On these a job is claimed,
finished and put off; `Lifecycle.Valid` is what these moves keep.  A session whose copy of a job
agrees with the row in the five columns makes such a move (`flush_lifecycle`).
-/

namespace ScholarshipFinder

open Lib

/-- The columns the queue decides by. -/
structure Lifecycle where
  kind : String
  state : JobState
  attempts : ℕ
  nextAttemptAt : Option Instant
  leaseExpiresAt : Option Instant
deriving DecidableEq

namespace Lifecycle

def claim (l : Lifecycle) (transition : JobTransition) (now : Instant) : Lifecycle :=
  { l with
    state := transition.state
    attempts := transition.attempts
    leaseExpiresAt := some (leaseExpiry now) }

def finish (l : Lifecycle) : Lifecycle :=
  { l with state := .completed, nextAttemptAt := none, leaseExpiresAt := none }

def putOff (l : Lifecycle) (error : String) (now : Instant) : Lifecycle :=
  { l with
    state := (failJob l.kind l.attempts error now).state
    nextAttemptAt := (failJob l.kind l.attempts error now).nextAttemptAt
    leaseExpiresAt := none }

/-- The job is done, or left to a reviewer. -/
def IsFinal (l : Lifecycle) : Prop := l.state = .completed ∨ l.state = .failedReview

/-- How often a job of this kind is claimed at most. -/
def claimLimit (kind : String) : ℕ := if kind ∈ retryableKinds then 5 else 1

/-- A job that was claimed so often. -/
structure Valid (claims : ℕ) (l : Lifecycle) : Prop where
  attempts : l.attempts = claims
  lease : l.leaseExpiresAt.isSome ↔ l.state = .running
  due : l.state = .retryWait → l.nextAttemptAt.isSome
  unclaimed : l.state = .queued → l.attempts = 0
  retried : l.state = .retryWait → retries l.kind l.attempts
  bounded : l.attempts ≤ claimLimit l.kind

variable {l : Lifecycle} {n : ℕ} {now : Instant}

/-- A claim is made of a job that waits, and there is a claim left. -/
lemma Valid.claim (h : l.Valid n) {transition : JobTransition}
    (hclaim : claimJob l.state l.attempts now l.nextAttemptAt = .ok transition) :
    (l.claim transition now).Valid (n + 1) := by
  obtain ⟨hstate, -, rfl⟩ := claimJob_eq_ok_iff.mp hclaim
  have hattempts : l.attempts + 1 ≤ claimLimit l.kind := by
    rw [claimLimit]
    rcases hstate with hqueued | hwaiting
    · rw [h.unclaimed hqueued]
      split <;> decide
    · have hretries := h.retried hwaiting
      rw [retries, decide_eq_true_eq] at hretries
      rw [if_pos hretries.1]
      exact hretries.2
  refine ⟨?_, ?_, nofun, nofun, nofun, hattempts⟩
  · show l.attempts + 1 = n + 1
    rw [h.attempts]
  · exact ⟨fun _ => rfl, fun _ => rfl⟩

lemma Valid.finish (h : l.Valid n) : l.finish.Valid n where
  attempts := h.attempts
  lease := ⟨nofun, nofun⟩
  due := nofun
  unclaimed := nofun
  retried := nofun
  bounded := h.bounded

/-- A job that is put off is not running. -/
lemma putOff_not_running (l : Lifecycle) (error : String) (now : Instant) :
    (l.putOff error now).state ≠ .running := by
  have hstate : (l.putOff error now).state =
      if retries l.kind l.attempts then .retryWait else .failedReview :=
    failJob_state _ _ _ _
  rw [hstate]
  split <;> exact nofun

lemma Valid.putOff (h : l.Valid n) (error : String) (now : Instant) :
    (l.putOff error now).Valid n := by
  have hstate : (l.putOff error now).state =
      if retries l.kind l.attempts then .retryWait else .failedReview :=
    failJob_state _ _ _ _
  have hdue : (l.putOff error now).nextAttemptAt.isSome = retries l.kind l.attempts :=
    failJob_nextAttemptAt_isSome _ _ _ _
  refine ⟨h.attempts, ⟨nofun, ?_⟩, ?_, ?_, ?_, h.bounded⟩
  · exact fun hrunning => absurd hrunning (putOff_not_running l error now)
  · rw [hstate, hdue]
    intro hwait
    by_contra hno
    rw [if_neg hno] at hwait
    cases hwait
  · rw [hstate]
    split <;> exact nofun
  · rw [hstate]
    intro hwait
    by_contra hno
    have hnot : ¬ retries l.kind l.attempts := hno
    rw [if_neg hnot] at hwait
    cases hwait

end Lifecycle

/-! ## The rows -/

namespace ProcessingJob

def lifecycle (job : ProcessingJob) : Lifecycle :=
  ⟨job.kind, job.state, job.attempts, job.nextAttemptAt, job.leaseExpiresAt⟩

variable {loaded new stored : ProcessingJob}

/-- A copy that agrees with the row stores what the session has made of it. -/
lemma flush_lifecycle (h : loaded.lifecycle = stored.lifecycle) (hkind : new.kind = loaded.kind) :
    (loaded.flush new stored).lifecycle = new.lifecycle := by
  simp only [lifecycle, Lifecycle.mk.injEq] at h
  obtain ⟨hk, hs, ha, hn, hl⟩ := h
  simp only [lifecycle, flush, hs, ha, hn, hl, writeBack_fresh, hkind, hk]

lemma claimed_lifecycle (job : ProcessingJob) (transition : JobTransition) (now : Instant) :
    (job.claimed transition now).lifecycle = job.lifecycle.claim transition now := rfl

lemma complete_lifecycle (job : ProcessingJob) :
    job.complete.lifecycle = job.lifecycle.finish := rfl

lemma fail_lifecycle (job : ProcessingJob) (error : String) (now : Instant) :
    (job.fail error now).lifecycle = job.lifecycle.putOff error now := rfl

end ProcessingJob

/-! ## Copies that agree with the table -/

variable {ι : Type} [DecidableEq ι]

/-- The session of the worker has no object of the job, or one that agrees with the row. -/
def agrees (workers : Workers ι) (i : ι) (id : JobId) : Bool :=
  match (workers.proc i).loaded id, workers.shared.rows.row id with
  | some job, some row => job.lifecycle = row.lifecycle
  | _, _ => true

/-- An object on which a claim succeeds agrees with the row. -/
def readsCommitted (workers : Workers ι) (s : JobStep ι) : Bool :=
  match s.op with
  | .claim id =>
    agrees workers s.worker id || ((workers.proc s.worker).loaded id).all fun job =>
      !(claimJob job.state job.attempts s.now job.nextAttemptAt).isOk
  | _ => true

variable {workers : Workers ι} {s : JobStep ι} {id : JobId} {row : ProcessingJob}

omit [DecidableEq ι] in
lemma viewed_of_agrees (h : agrees workers s.worker id)
    (hrow : workers.shared.rows.row id = some row) :
    (viewed workers s id row).lifecycle = row.lifecycle := by
  rw [viewed]
  cases hcopy : (workers.proc s.worker).loaded id with
  | none => rfl
  | some job => simpa [agrees, hcopy, hrow] using h

/-- A claim of the job as it is stored. -/
lemma claimAt_of_readsCommitted (h : readsCommitted workers s) {transition : JobTransition}
    (hclaim : claimAt workers s = some (id, transition))
    (hallowed : claimJob (viewed workers s id row).state (viewed workers s id row).attempts s.now
      (viewed workers s id row).nextAttemptAt = .ok transition)
    (hrow : workers.shared.rows.row id = some row) :
    (viewed workers s id row).lifecycle = row.lifecycle := by
  obtain ⟨i, now, op⟩ := s
  cases op with
  | claim j =>
    rcases claim_cases workers (s := ⟨i, now, .claim j⟩) rfl with
      ⟨hnone, -⟩ | ⟨stored, transition', -, hsome, -⟩
    · rw [hnone] at hclaim
      cases hclaim
    · have hid : id = j := by
        rw [hsome] at hclaim
        exact (Prod.mk.inj (Option.some.inj hclaim)).1.symm
      subst hid
      rw [readsCommitted] at h
      simp only [Bool.or_eq_true] at h
      rcases h with hagrees | hrefused
      · exact viewed_of_agrees hagrees hrow
      · cases hcopy : (workers.proc i).loaded id with
        | none => simp [viewed, hcopy]
        | some job =>
          rw [viewed] at hallowed
          simp only [hcopy, Option.getD_some] at hallowed
          simp [hcopy, hallowed, Except.isOk, Except.toBool] at hrefused
  | _ => cases hclaim

/-- What is stored of a job, as far as the queue decides by it. -/
def storedLife (workers : Workers ι) (id : JobId) : Option Lifecycle :=
  (workers.shared.rows.row id).map (·.lifecycle)

/-- A claim that reads what is committed claims the job as it is stored. -/
lemma claims_lifecycle (h : readsCommitted workers s) {transition : JobTransition}
    (hclaim : claimAt workers s = some (id, transition)) :
    ∃ l, storedLife workers id = some l ∧
      claimJob l.state l.attempts s.now l.nextAttemptAt = .ok transition ∧
      storedLife (jobStep workers s) id = some (l.claim transition s.now) := by
  obtain ⟨row, transition', hrow, hclaim', hallowed⟩ := claims_row (claims_of_claimAt hclaim)
  obtain rfl : transition = transition' :=
    (Prod.mk.inj (Option.some.inj (hclaim.symm.trans hclaim'))).2
  have hagree := claimAt_of_readsCommitted h hclaim hallowed hrow
  refine ⟨row.lifecycle, by rw [storedLife, hrow, Option.map_some], ?_, ?_⟩
  · rw [← hagree]
    exact hallowed
  · obtain ⟨row', hrow', hchange⟩ := jobStep_row (s := s) hrow
    rw [storedLife, hrow', Option.map_some]
    cases hchange with
    | kept hnot _ _ =>
      rw [claims_of_claimAt hclaim] at hnot
      cases hnot
    | @claimed transition'' hclaim'' _ =>
      obtain rfl : transition = transition'' :=
        (Prod.mk.inj (Option.some.inj (hclaim.symm.trans hclaim''))).2
      have hkind : ((viewed workers s id row).claimed transition s.now).kind =
        (viewed workers s id row).kind := rfl
      rw [ProcessingJob.flush_lifecycle hagree hkind, ProcessingJob.claimed_lifecycle, hagree]
    | recorded hrec =>
      rw [recordedAt_of_claims (claims_of_claimAt hclaim)] at hrec
      cases hrec
    | reconciled hmem _ =>
      rw [reconciledAt_of_claims (claims_of_claimAt hclaim)] at hmem
      cases hmem

/-- A job that is completed or running is not claimed. -/
lemma not_claimable {l : Lifecycle} {transition : JobTransition} {now : Instant}
    (h : claimJob l.state l.attempts now l.nextAttemptAt = .ok transition) :
    ¬ l.IsFinal ∧ l.state ≠ .running := by
  obtain ⟨hstate | hstate, -⟩ := claimJob_eq_ok_iff.mp h <;>
    simp [Lifecycle.IsFinal, hstate]

/-- The row of a job that is claimed as it is stored, before and after. -/
lemma claims_stored (h : readsCommitted workers s) {transition : JobTransition}
    (hclaim : claimAt workers s = some (id, transition))
    (hrow : workers.shared.rows.row id = some row) :
    ¬ row.lifecycle.IsFinal ∧ row.state ≠ .running ∧
      claimJob row.state row.attempts s.now row.nextAttemptAt = .ok transition := by
  obtain ⟨l, hl, hallowed, -⟩ := claims_lifecycle h hclaim
  rw [storedLife, hrow, Option.map_some, Option.some.injEq] at hl
  subst hl
  obtain ⟨hfinal, hrunning⟩ := not_claimable hallowed
  exact ⟨hfinal, hrunning, hallowed⟩

/-- A job that is claimed as it is stored is running afterwards, under the lease of the claim. -/
lemma claims_running (h : readsCommitted workers s) (hclaims : claims workers s id) :
    ∃ row, (jobStep workers s).shared.rows.row id = some row ∧ row.state = .running ∧
      row.leaseExpiresAt = some (leaseExpiry s.now) := by
  obtain ⟨-, transition, -, hclaim, -⟩ := claims_row hclaims
  obtain ⟨l, -, hallowed, hnew⟩ := claims_lifecycle h hclaim
  obtain ⟨-, -, htransition⟩ := claimJob_eq_ok_iff.mp hallowed
  rw [storedLife, Option.map_eq_some_iff] at hnew
  obtain ⟨row, hrow, hlife⟩ := hnew
  refine ⟨row, hrow, ?_, ?_⟩
  · have hstate : row.state = (l.claim transition s.now).state := congrArg Lifecycle.state hlife
    rw [hstate, htransition]
    rfl
  · exact congrArg Lifecycle.leaseExpiresAt hlife

end ScholarshipFinder
