import Mathlib

/-!
# Runs of a step function

A deterministic system is a function `step : σ → ι → σ`; a run feeds it a list of inputs.
`EachStep` says that a two-place condition (the state before a step and the step's input)
holds at every step of a run, which serves both for the conditions a run has to meet and
for the laws its steps are to obey.  A history variable is a value that is updated along
the run from what the system does, and that the system itself never reads.
-/

namespace Lib

variable {σ ι γ : Type*}

/-- The state after a list of inputs. -/
def run (step : σ → ι → σ) (s : σ) (is : List ι) : σ := is.foldl step s

/-- The condition `C` holds at every step of the run from `s`. -/
def EachStep (step : σ → ι → σ) (C : σ → ι → Prop) : σ → List ι → Prop
  | _, [] => True
  | s, i :: is => C s i ∧ EachStep step C (step s i) is

/-- Of a condition that can be decided, it can be decided whether a run meets it. -/
instance EachStep.decidable (step : σ → ι → σ) (C : σ → ι → Prop) [∀ s i, Decidable (C s i)] :
    ∀ s is, Decidable (EachStep step C s is)
  | _, [] => isTrue trivial
  | s, i :: is =>
    have : Decidable (EachStep step C (step s i) is) := EachStep.decidable step C (step s i) is
    inferInstanceAs (Decidable (C s i ∧ EachStep step C (step s i) is))

section

variable {step : σ → ι → σ}

@[simp] lemma run_nil (s : σ) : run step s [] = s := rfl

@[simp] lemma run_cons (s : σ) (i : ι) (is : List ι) :
    run step s (i :: is) = run step (step s i) is := rfl

lemma run_append (s : σ) (is js : List ι) :
    run step s (is ++ js) = run step (run step s is) js :=
  List.foldl_append

/-- A predicate that every admitted step preserves holds at the end of every run whose
steps are all admitted, by their inputs (`A`) and by the states they meet (`C`). -/
theorem run_invariant {I : σ → Prop} {A : ι → Prop} {C : σ → ι → Prop}
    (hstep : ∀ s i, A i → I s → C s i → I (step s i)) {s : σ} {is : List ι}
    (hA : ∀ i ∈ is, A i) (hs : I s) (hC : EachStep step C s is) : I (run step s is) := by
  induction is generalizing s with
  | nil => exact hs
  | cons i is ih =>
    have hi := hA i List.mem_cons_self
    have hrest := fun j hj => hA j (List.mem_cons_of_mem i hj)
    exact ih hrest (hstep s i hi hs hC.1) hC.2

/-- A condition that holds along a run holds along its beginnings. -/
lemma EachStep.take {C : σ → ι → Prop} {s : σ} {is : List ι} (h : EachStep step C s is) (k : ℕ) :
    EachStep step C s (is.take k) := by
  induction is generalizing s k with
  | nil => rw [List.take_nil]; trivial
  | cons i is ih =>
    cases k with
    | zero => trivial
    | succ k => exact ⟨h.1, ih h.2 k⟩

/-- A law that follows from the condition of each step alone. -/
theorem EachStep.imp {A : ι → Prop} {C P : σ → ι → Prop} (hlaw : ∀ s i, A i → C s i → P s i)
    {s : σ} {is : List ι} (hA : ∀ i ∈ is, A i) (hC : EachStep step C s is) :
    EachStep step P s is := by
  induction is generalizing s with
  | nil => trivial
  | cons i is ih =>
    have hi := hA i List.mem_cons_self
    have hrest := fun j hj => hA j (List.mem_cons_of_mem i hj)
    exact ⟨hlaw s i hi hC.1, ih hrest hC.2⟩

/-- The rule of laws: where an admitted step from a state of the invariant obeys the law
and keeps the invariant, a run of admitted steps obeys the law throughout. -/
theorem EachStep.imp_of_invariant {I : σ → Prop} {C P : σ → ι → Prop}
    (hstep : ∀ s i, I s → C s i → I (step s i)) (hlaw : ∀ s i, I s → C s i → P s i)
    {s : σ} {is : List ι} (hs : I s) (hC : EachStep step C s is) : EachStep step P s is := by
  induction is generalizing s with
  | nil => trivial
  | cons i is ih => exact ⟨hlaw s i hs hC.1, ih (hstep s i hs hC.1) hC.2⟩

/-- Two laws agree along a run if they agree in the states of an invariant that the first of
them preserves. -/
theorem eachStep_congr_of_invariant {I : σ → Prop} {P C : σ → ι → Prop} {A : ι → Prop}
    (hiff : ∀ s i, A i → I s → (P s i ↔ C s i)) (hstep : ∀ s i, A i → I s → P s i → I (step s i))
    {s : σ} {is : List ι} (hA : ∀ i ∈ is, A i) (hs : I s) :
    EachStep step P s is ↔ EachStep step C s is := by
  induction is generalizing s with
  | nil => exact Iff.rfl
  | cons i is ih =>
    have hi := hA i List.mem_cons_self
    have hrest := fun hP : P s i =>
      ih (fun j hj => hA j (List.mem_cons_of_mem i hj)) (hstep s i hi hs hP)
    constructor
    · intro h
      exact ⟨(hiff s i hi hs).mp h.1, (hrest h.1).mp h.2⟩
    · intro h
      have hP := (hiff s i hi hs).mpr h.1
      exact ⟨hP, (hrest hP).mpr h.2⟩

/-- A run without conditions. -/
lemma eachStep_true (step : σ → ι → σ) (s : σ) (is : List ι) :
    EachStep step (fun _ _ => True) s is := by
  induction is generalizing s with
  | nil => trivial
  | cons i is ih => exact ⟨trivial, ih _⟩

end

/-! ## Some step of a run -/

/-- The condition `C` holds at some step of the run from `s`. -/
def SomeStep (step : σ → ι → σ) (C : σ → ι → Prop) : σ → List ι → Prop
  | _, [] => False
  | s, i :: is => C s i ∨ SomeStep step C (step s i) is

section

variable {step : σ → ι → σ}

/-- Conditions that agree wherever a law of the run holds are met by the same runs. -/
theorem someStep_congr {H C C' : σ → ι → Prop} (hiff : ∀ s i, H s i → (C s i ↔ C' s i))
    {s : σ} {is : List ι} (hH : EachStep step H s is) :
    SomeStep step C s is ↔ SomeStep step C' s is := by
  induction is generalizing s with
  | nil => exact Iff.rfl
  | cons i is ih => exact or_congr (hiff s i hH.1) (ih hH.2)

/-- A step at which the condition is met, in a run that obeys a law. -/
theorem SomeStep.exists {H C : σ → ι → Prop} {s : σ} {is : List ι} (hH : EachStep step H s is)
    (hC : SomeStep step C s is) : ∃ t i, H t i ∧ C t i := by
  induction is generalizing s with
  | nil => exact hC.elim
  | cons i is ih =>
    rcases hC with hC | hC
    · exact ⟨s, i, hH.1, hC⟩
    · exact ih hH.2 hC

end

/-! ## History variables -/

/-- The step function `step`, with a history variable beside the state. -/
def withHistory (step : σ → ι → σ) (record : γ → σ → ι → γ) (p : σ × γ) (i : ι) : σ × γ :=
  (step p.1 i, record p.2 p.1 i)

/-- A law that does not look at the history variable. -/
lemma eachStep_withHistory_fst {step : σ → ι → σ} {record : γ → σ → ι → γ} {C : σ → ι → Prop}
    {p : σ × γ} {is : List ι} :
    EachStep (withHistory step record) (fun q i => C q.1 i) p is ↔ EachStep step C p.1 is := by
  induction is generalizing p with
  | nil => exact Iff.rfl
  | cons i is ih => exact and_congr_right fun _ => ih

end Lib
