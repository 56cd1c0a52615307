import Mathlib

/-!
# Normalization form KD

A text is decomposed character by character, and then the marks, which are the characters of a
combining class other than zero, are brought into the order of their classes within each run.
Marks of one class keep their order, and no mark passes a character that is not one.
-/

namespace Lib

/-- The data of the characters. -/
structure Decomposition where
  /-- the full decomposition, canonical and compatible -/
  decompose : Char → List Char
  /-- the canonical combining class -/
  combiningClass : Char → ℕ

namespace Decomposition

variable (data : Decomposition)

def isMark (c : Char) : Bool := data.combiningClass c ≠ 0

/-- Put a mark before the first character that is not a mark of a smaller class. -/
def place (mark : Char) : List Char → List Char
  | [] => [mark]
  | c :: text =>
    if data.isMark c && data.combiningClass c < data.combiningClass mark then
      c :: place mark text
    else mark :: c :: text

/-- The canonical order. -/
def reorder (text : List Char) : List Char :=
  text.foldr (fun c text => if data.isMark c then data.place c text else c :: text) []

def nfkd (text : List Char) : List Char := data.reorder (text.flatMap data.decompose)

example : (Decomposition.mk (fun c => if c = 'é' then ['e', '1'] else [c])
    (fun c => if c = '1' then 230 else if c = '2' then 220 else 0)).nfkd "é2".toList =
      "e21".toList := by
  decide

/-! ## What is not a mark keeps its place -/

lemma filter_place {mark : Char} (hmark : data.isMark mark = true) (text : List Char) :
    (data.place mark text).filter (!data.isMark ·) = text.filter (!data.isMark ·) := by
  induction text with
  | nil => simp [place, hmark]
  | cons c text ih =>
    rw [place]
    split
    · rw [List.filter_cons, List.filter_cons, ih]
    · simp [hmark]

lemma filter_reorder (text : List Char) :
    (data.reorder text).filter (!data.isMark ·) = text.filter (!data.isMark ·) := by
  induction text with
  | nil => rfl
  | cons c text ih =>
    rw [reorder, List.foldr_cons, ← reorder]
    split
    · next hmark => rw [data.filter_place hmark, ih, List.filter_cons_of_neg (by simp [hmark])]
    · rw [List.filter_cons, List.filter_cons, ih]

/-- Without its marks, a normalised text is the characters' decompositions without theirs. -/
theorem filter_nfkd (text : List Char) : (data.nfkd text).filter (!data.isMark ·) =
    text.flatMap fun c => (data.decompose c).filter (!data.isMark ·) := by
  rw [nfkd, filter_reorder, List.filter_flatMap]

end Decomposition

end Lib
