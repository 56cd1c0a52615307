import Mathlib

/-!
# Computations whose exceptions are handled

A computation is handled if it answers a value with some property or raises an exception of a kind
that its caller handles.  `Handled` is the weakest condition for that, so it goes through a sequence
of computations from the last to the first.  `Guarded` is the condition of a sequence of checks on
the inputs, each of which can break or refuse; a sequence of computations that make these checks is
handled exactly if the checks are passed so.
-/

namespace Lib

variable {ε : Type*} {α β : Type} {R : ε → Prop}

/-- The computation answers a value with the property `Q`, or raises an exception in `R`. -/
def Handled (R : ε → Prop) (x : Except ε α) (Q : α → Prop) : Prop :=
  match x with
  | .ok a => Q a
  | .error e => R e

@[simp] lemma handled_ok (a : α) (Q : α → Prop) : Handled R (.ok a) Q ↔ Q a := Iff.rfl

@[simp] lemma handled_error (e : ε) (Q : α → Prop) : Handled R (.error e) Q ↔ R e := Iff.rfl

/-- The property that the second computation needs is what the first has to answer. -/
lemma handled_bind (x : Except ε α) (f : α → Except ε β) (Q : β → Prop) :
    Handled R (x >>= f) Q ↔ Handled R x fun a => Handled R (f a) Q := by
  cases x with
  | ok a => exact Iff.rfl
  | error e => exact Iff.rfl

/-- Only the property of the value that is answered counts. -/
lemma handled_congr {x : Except ε α} {Q Q' : α → Prop} (h : ∀ a, x = .ok a → (Q a ↔ Q' a)) :
    Handled R x Q ↔ Handled R x Q' := by
  cases x with
  | ok a => exact h a rfl
  | error e => exact Iff.rfl

/-- Checks in their order, each as the condition under which it breaks and the one under which it
refuses: none breaks before one refuses, and if all pass then `last` holds. -/
def Guarded : List (Prop × Prop) → Prop → Prop
  | [], last => last
  | (breaks, refuses) :: checks, last => ¬ breaks ∧ (refuses ∨ Guarded checks last)

lemma guarded_append (checks checks' : List (Prop × Prop)) (last : Prop) :
    Guarded (checks ++ checks') last ↔ Guarded checks (Guarded checks' last) := by
  induction checks with
  | nil => exact Iff.rfl
  | cons check checks ih => exact and_congr_right fun _ => or_congr_right ih

lemma guarded_congr {checks : List (Prop × Prop)} {last last' : Prop} (h : last ↔ last') :
    Guarded checks last ↔ Guarded checks last' := by
  rw [propext h]

/-- A computation that makes a check: it raises what is not handled where the check breaks, raises
what is handled where it refuses, and answers where it passes. -/
structure Checks (R : ε → Prop) (x : Except ε α) (breaks refuses : Prop) : Prop where
  ok : ∀ a, x = .ok a → ¬ breaks ∧ ¬ refuses
  error : ∀ e, x = .error e → (breaks ∧ ¬ R e) ∨ (¬ breaks ∧ refuses ∧ R e)

/-- The rule of one check. -/
theorem Checks.handled_iff {x : Except ε α} {breaks refuses : Prop}
    (h : Checks R x breaks refuses) {Q : α → Prop} {rest : Prop}
    (hrest : ∀ a, x = .ok a → (Q a ↔ rest)) :
    Handled R x Q ↔ ¬ breaks ∧ (refuses ∨ rest) := by
  cases hx : x with
  | ok a =>
    obtain ⟨hbreaks, hrefuses⟩ := h.ok a hx
    rw [handled_ok, hrest a hx]
    exact ⟨fun hQ => ⟨hbreaks, .inr hQ⟩, fun hP => hP.2.resolve_left hrefuses⟩
  | error e =>
    rw [handled_error]
    rcases h.error e hx with ⟨hbreaks, hR⟩ | ⟨hbreaks, hrefuses, hR⟩
    · exact iff_of_false hR fun hP => hP.1 hbreaks
    · exact iff_of_true hR ⟨hbreaks, .inl hrefuses⟩

/-- A check that raises what is handled where a condition holds. -/
lemma checks_refuse {refuses : Prop} [Decidable refuses] {e : ε} (he : R e) :
    Checks R (if refuses then Except.error e else .ok ()) False refuses where
  ok := by
    intro a h
    split at h
    · cases h
    · next hrefuses => exact ⟨not_false, hrefuses⟩
  error := by
    intro e' h
    split at h
    · next hrefuses =>
      obtain rfl := Except.error.inj h
      exact .inr ⟨not_false, hrefuses, he⟩
    · cases h

end Lib
