import Mathlib

/-!
# Units of work

A session on a store collects writes, and a commit makes them durable together or not at all.
The store refuses a transaction whose rows would not meet its constraints; a refusal, or any other
error of the store, discards what the session has written and leaves the session unusable until it
is rolled back.
-/

namespace Lib

variable {K R : Type*} {accepts : (K → Option R) → Bool}

/-- A store with one session on it. -/
structure UnitOfWork (K R : Type*) (accepts : (K → Option R) → Bool) where
  /-- The rows that are durable. -/
  stored : K → Option R
  /-- What the session has written and not committed; a row that is deleted is written as `none`. -/
  written : K → Option (Option R)
  /-- The session can be used. -/
  active : Bool
  /-- The durable rows meet the constraints. -/
  sound : accepts stored = true

namespace UnitOfWork

/-- A new session. -/
def start (stored : K → Option R) (sound : accepts stored = true) : UnitOfWork K R accepts where
  stored := stored
  written := fun _ => none
  active := true
  sound := sound

/-- The rows as the session has them: its own writes over the durable rows. -/
def view (u : UnitOfWork K R accepts) (k : K) : Option R := (u.written k).getD (u.stored k)

/-- The session writes a row. -/
def write [DecidableEq K] (u : UnitOfWork K R accepts) (k : K) (row : Option R) :
    UnitOfWork K R accepts :=
  { u with written := Function.update u.written k (some row) }

/-- An error of the store. -/
def fail (u : UnitOfWork K R accepts) : UnitOfWork K R accepts :=
  { u with written := fun _ => none, active := false }

def rollback (u : UnitOfWork K R accepts) : UnitOfWork K R accepts :=
  { u with written := fun _ => none, active := true }

/-- A transaction of another session is committed. -/
def others (u : UnitOfWork K R accepts) (stored : K → Option R) : UnitOfWork K R accepts :=
  if h : accepts stored = true then { u with stored := stored, sound := h } else u

/-- The writes are sent to the store, which may refuse them. -/
def flush (u : UnitOfWork K R accepts) : UnitOfWork K R accepts :=
  if u.active = true ∧ accepts u.view = true then u else u.fail

def commit (u : UnitOfWork K R accepts) : UnitOfWork K R accepts :=
  if h : u.active = true ∧ accepts u.view = true then
    { stored := u.view, written := fun _ => none, active := true, sound := h.2 }
  else u.fail

/-- The commit succeeds. -/
def commits (u : UnitOfWork K R accepts) : Bool := u.active && accepts u.view

variable {u : UnitOfWork K R accepts}

/-- Nothing that the session has written differs from what is stored. -/
def Settled (u : UnitOfWork K R accepts) : Prop :=
  ∀ k row, u.written k = some row → u.stored k = row

lemma settled_iff : u.Settled ↔ u.view = u.stored := by
  constructor
  · intro h
    ext1 k
    rw [view]
    cases hk : u.written k with
    | none => rfl
    | some row => exact (h k row hk).symm
  · intro h k row hk
    rw [← h, view, hk]
    rfl

/-- A session that has written nothing. -/
lemma settled_of_written (h : ∀ k, u.written k = none) : u.Settled := by
  intro k row hk
  rw [h k] at hk
  cases hk

lemma commit_stored : u.commit.stored = if u.commits then u.view else u.stored := by
  rw [commit]
  split
  · next h => simp [commits, h]
  · next h =>
    have hnot : u.commits = false := by
      simpa [commits] using h
    rw [hnot]
    rfl

lemma commit_active (h : u.commits = true) : u.commit.active = true := by
  rw [commits, Bool.and_eq_true] at h
  rw [commit, dif_pos h]

/-- A commit of an active session succeeds if there is nothing new to store. -/
lemma commits_of_settled (hactive : u.active = true) (h : u.Settled) : u.commits = true := by
  rw [commits, hactive, settled_iff.mp h, u.sound]
  rfl

/-- A commit that succeeds leaves the durable rows alone exactly if there is nothing new. -/
theorem commit_stored_eq_iff (h : u.commits = true) :
    u.commit.stored = u.stored ↔ u.Settled := by
  rw [commit_stored, if_pos h, settled_iff]

end UnitOfWork

end Lib
