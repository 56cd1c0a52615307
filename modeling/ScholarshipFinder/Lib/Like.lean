import Mathlib

/-!
# Patterns of `LIKE`

A pattern is read as a list of items: a character, any one character, or any text.  A backslash
makes a character of what follows it, and nothing follows the last one.  A text without wildcards
and escapes matches itself only.  A pattern that has one matches a text of its own making, which is
another text.
-/

namespace Lib.Like

inductive Item
  | char (c : Char)
  | one
  | any
deriving DecidableEq, Repr

/-- The wildcards and the escape character. -/
def isMeta (c : Char) : Bool := c = '%' || c = '_' || c = '\\'

def itemOf (c : Char) : Item :=
  if c = '%' then .any else if c = '_' then .one else .char c

/-- The items of a pattern, which may not end in the escape character. -/
def items : List Char → Option (List Item)
  | [] => some []
  | [c] => if c = '\\' then none else some [itemOf c]
  | c :: d :: pattern =>
    if c = '\\' then (items pattern).map (.char d :: ·)
    else (items (d :: pattern)).map (itemOf c :: ·)

/-- What an item may leave of a text. -/
def Item.rests : Item → List Char → List (List Char)
  | .char c, d :: text => if c = d then [text] else []
  | .one, _ :: text => [text]
  | .any, text => text.tails
  | _, [] => []

/-- The items match the whole text. -/
def matchesItems : List Item → List Char → Bool
  | [], text => text.isEmpty
  | item :: rest, text => (item.rests text).any (matchesItems rest)

example : (items "100\\% _ward%".toList).map (matchesItems · "100% Award 2".toList) =
    some true := by
  decide

variable {s t pattern : List Char} {c : Char}

/-! ## Texts without wildcards -/

lemma itemOf_plain (hc : isMeta c = false) : itemOf c = .char c := by
  simp only [isMeta, Bool.or_eq_false_iff, decide_eq_false_iff_not] at hc
  rw [itemOf, if_neg hc.1.1, if_neg hc.1.2]

lemma ne_escape (hc : isMeta c = false) : c ≠ '\\' := by
  rintro rfl
  cases hc

lemma items_plain (hs : ∀ c ∈ s, isMeta c = false) : items s = some (s.map .char) := by
  fun_induction items s with
  | case1 => rfl
  | case2 => exact absurd rfl (ne_escape (hs _ (by simp)))
  | case3 c hc => rw [itemOf_plain (hs c (by simp))]; rfl
  | case4 => exact absurd rfl (ne_escape (hs _ (by simp)))
  | case5 c d pattern hc ih =>
    rw [itemOf_plain (hs c (by simp)), ih fun e he => hs e (List.mem_cons_of_mem c he)]
    rfl

lemma matchesItems_chars : matchesItems (s.map .char) t = true ↔ t = s := by
  induction s generalizing t with
  | nil => simp [matchesItems]
  | cons c s ih =>
    cases t with
    | nil => simp [matchesItems, Item.rests]
    | cons d t =>
      rw [List.map_cons, matchesItems, Item.rests]
      by_cases hcd : c = d
      · subst hcd
        simp [ih]
      · rw [if_neg hcd]
        simp [Ne.symm hcd]

/-! ## The text that a pattern makes -/

/-- A character for an item that is not the one it is written with. -/
def Item.sample : Item → Char
  | .char c => c
  | .one => '%'
  | .any => '_'

lemma matchesItems_sample (pat : List Item) : matchesItems pat (pat.map Item.sample) = true := by
  induction pat with
  | nil => rfl
  | cons item pat ih =>
    rw [List.map_cons, matchesItems, List.any_eq_true]
    refine ⟨pat.map Item.sample, ?_, ih⟩
    cases item with
    | char c => simp [Item.sample, Item.rests]
    | one => simp [Item.rests]
    | any => simp [Item.rests]

lemma sample_itemOf_eq_iff : (itemOf c).sample = c ↔ c ≠ '%' ∧ c ≠ '_' := by
  unfold itemOf
  split_ifs with hany hone
  · simp [Item.sample, hany]
  · simp [Item.sample, hone]
  · simp [Item.sample, hany, hone]

lemma length_items {pat : List Item} (h : items pattern = some pat) :
    pat.length ≤ pattern.length := by
  fun_induction items pattern generalizing pat with
  | case1 => cases h; rfl
  | case2 => cases h
  | case3 => cases h; rfl
  | case4 d pattern ih =>
    obtain ⟨pat, hpat, rfl⟩ := Option.map_eq_some_iff.mp h
    have hle := ih hpat
    simp only [List.length_cons]
    omega
  | case5 c d pattern hc ih =>
    obtain ⟨pat, hpat, rfl⟩ := Option.map_eq_some_iff.mp h
    have hle := ih hpat
    simp only [List.length_cons] at hle ⊢
    omega

/-- A pattern with a wildcard or an escape is not the text that it makes. -/
lemma plain_of_sample_eq {pat : List Item} (h : items pattern = some pat)
    (hsame : pat.map Item.sample = pattern) : ∀ c ∈ pattern, isMeta c = false := by
  fun_induction items pattern generalizing pat with
  | case1 => simp
  | case2 => cases h
  | case3 c hc =>
    cases h
    rw [List.map_singleton, List.cons.injEq, sample_itemOf_eq_iff] at hsame
    simp [isMeta, hc, hsame.1]
  | case4 d pattern ih =>
    obtain ⟨pat, hpat, rfl⟩ := Option.map_eq_some_iff.mp h
    have hle := length_items hpat
    have hlength := congrArg List.length hsame
    simp only [List.length_map, List.length_cons] at hlength
    omega
  | case5 c d pattern hc ih =>
    obtain ⟨pat, hpat, rfl⟩ := Option.map_eq_some_iff.mp h
    rw [List.map_cons, List.cons.injEq, sample_itemOf_eq_iff] at hsame
    intro e he
    rcases List.mem_cons.mp he with rfl | he
    · simp [isMeta, hc, hsame.1]
    · exact ih hpat hsame.2 e he

/-- The characters of the text are those of the pattern, and wildcards. -/
lemma mem_sample {pat : List Item} (h : items pattern = some pat) (hc : c ∈ pat.map Item.sample) :
    c ∈ pattern ∨ isMeta c = true := by
  have hitem : ∀ d, (itemOf d).sample = d ∨ isMeta (itemOf d).sample = true := by
    intro d
    unfold itemOf
    split_ifs
    · exact Or.inr rfl
    · exact Or.inr rfl
    · exact Or.inl rfl
  fun_induction items pattern generalizing pat with
  | case1 => cases h; cases hc
  | case2 => cases h
  | case3 d hd =>
    cases h
    obtain rfl := List.mem_singleton.mp hc
    rcases hitem d with hsame | hmeta
    · exact Or.inl (by simp [hsame])
    · exact Or.inr hmeta
  | case4 d pattern ih =>
    obtain ⟨pat, hpat, rfl⟩ := Option.map_eq_some_iff.mp h
    rcases List.mem_cons.mp hc with rfl | hc
    · exact Or.inl (by simp)
    · exact (ih hpat hc).imp_left fun hmem => by simp [hmem]
  | case5 d e pattern hd ih =>
    obtain ⟨pat, hpat, rfl⟩ := Option.map_eq_some_iff.mp h
    rcases List.mem_cons.mp hc with rfl | hc
    · rcases hitem d with hsame | hmeta
      · exact Or.inl (by simp [hsame])
      · exact Or.inr hmeta
    · exact (ih hpat hc).imp_left fun hmem => List.mem_cons_of_mem d hmem

end Lib.Like
