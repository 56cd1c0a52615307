import Mathlib

/-!
# Writing back from a copy

A session that works on a copy of a stored row writes back the columns whose value it has
changed in the copy, and no others.  What it then stores in a column depends on three values:
the one it loaded, the one it made of it, and the one that is stored by now.
-/

namespace Lib

variable {α : Type*} [DecidableEq α] {loaded new stored : α}

/-- What a column holds after a flush. -/
def writeBack (loaded new stored : α) : α := if new = loaded then stored else new

/-- A column that the session has not changed is left alone. -/
@[simp] lemma writeBack_self (loaded stored : α) : writeBack loaded loaded stored = stored :=
  if_pos rfl

/-- A copy that is up to date writes what the session made of it. -/
@[simp] lemma writeBack_fresh (stored new : α) : writeBack stored new stored = new := by
  by_cases h : new = stored
  · rw [writeBack, if_pos h, h]
  · rw [writeBack, if_neg h]

lemma writeBack_of_ne (h : new ≠ loaded) (stored : α) : writeBack loaded new stored = new :=
  if_neg h

/-- A column that holds the new value already holds it afterwards. -/
@[simp] lemma writeBack_done (loaded new : α) : writeBack loaded new new = new := by
  rw [writeBack, ite_self]

/-- The column either has its new value or is left alone, as the session left it alone. -/
lemma writeBack_cases (loaded new stored : α) :
    writeBack loaded new stored = new ∨ new = loaded ∧ writeBack loaded new stored = stored := by
  by_cases h : new = loaded
  · exact Or.inr ⟨h, if_pos h⟩
  · exact Or.inl (if_neg h)

end Lib
