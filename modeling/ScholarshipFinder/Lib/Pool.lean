import Mathlib

/-!
# Processes over a shared state

A pool is a shared state with processes beside it, each of which has a local state of its
own.  One step of the pool lets one process run atomically on its local state and the shared
one.  An assertion of each process about the shared state survives such a step if the process
that runs establishes its own, and no other process notices.
-/

namespace Lib

/-- Processes with local states `τ` over a shared state `σ`. -/
structure Pool (ι σ τ : Type*) where
  shared : σ
  proc : ι → τ

namespace Pool

variable {ι σ τ : Type*} [DecidableEq ι]

/-- One atomic step of the process `i`. -/
def stepAt (s : Pool ι σ τ) (i : ι) (f : τ → σ → τ × σ) : Pool ι σ τ where
  shared := (f (s.proc i) s.shared).2
  proc := Function.update s.proc i (f (s.proc i) s.shared).1

/-- The assertion `J` holds of every process. -/
def Holds (J : τ → σ → Prop) (s : Pool ι σ τ) : Prop := ∀ i, J (s.proc i) s.shared

/-- The rule of interference: the process that runs establishes its own assertion, and the
step keeps the assertion of any process that stands still. -/
theorem Holds.stepAt {J : τ → σ → Prop} {s : Pool ι σ τ} (h : s.Holds J) {i : ι}
    {f : τ → σ → τ × σ} (hown : J (f (s.proc i) s.shared).1 (f (s.proc i) s.shared).2)
    (hstable : ∀ t, J t s.shared → J t (f (s.proc i) s.shared).2) : (s.stepAt i f).Holds J := by
  intro j
  by_cases hj : j = i
  · subst hj
    have hproc : (s.stepAt j f).proc j = (f (s.proc j) s.shared).1 := Function.update_self _ _ _
    rw [hproc]
    exact hown
  · have hproc : (s.stepAt i f).proc j = s.proc j := Function.update_of_ne hj _ _
    rw [hproc]
    exact hstable _ (h j)

omit [DecidableEq ι] in
/-- A step on the shared state alone. -/
theorem Holds.shared {J : τ → σ → Prop} {s : Pool ι σ τ} (h : s.Holds J) {d : σ}
    (hstable : ∀ t, J t s.shared → J t d) : Holds J { s with shared := d } :=
  fun i => hstable _ (h i)

end Pool

end Lib
