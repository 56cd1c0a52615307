import ScholarshipFinder.Lib.Pattern

/-!
# Words

The matches of a repeated class of characters are the maximal runs of the class.  A character
outside the class ends one word and begins the next, so a text with such a character has the words
of the two parts.  This needs an equation of the matcher for each first character; the rest goes by
the length of the text.
-/

namespace Lib.Pattern

variable {p q : Char → Bool} {s t : List Char} {c : Char}

/-! ## Equations -/

lemma reach_head_takeWhile {before cs : List Char} :
    (reach p before cs).head? =
      some ⟨(cs.takeWhile p).reverse ++ before, cs.dropWhile p⟩ := by
  induction cs generalizing before with
  | nil => rfl
  | cons c cs ih =>
    rw [reach]
    by_cases hc : p c = true
    · rw [if_pos hc, List.head?_append, ih, Option.some_or, List.takeWhile_cons_of_pos hc,
        List.dropWhile_cons_of_pos hc, List.reverse_cons, List.append_assoc]
      rfl
    · rw [if_neg hc, List.takeWhile_cons_of_neg hc, List.dropWhile_cons_of_neg hc]
      rfl

lemma matchAt_many1 {before cs : List Char} (hc : p c = true) :
    (many1 p).matchAt ⟨before, c :: cs⟩ = some (c :: cs.takeWhile p) := by
  have hends : (many1 p).ends ⟨before, c :: cs⟩ = reach p (c :: before) cs := by
    simp only [many1, ends, if_pos hc, List.flatMap_cons, List.flatMap_nil, List.append_nil]
  have hlength : (c :: cs).length - (cs.dropWhile p).length =
      (c :: cs.takeWhile p).length := by
    have hsum := congrArg List.length (List.takeWhile_append_dropWhile (p := p) (l := cs))
    rw [List.length_append] at hsum
    simp only [List.length_cons]
    omega
  have htake : c :: cs = (c :: cs.takeWhile p) ++ cs.dropWhile p := by
    rw [List.cons_append, List.takeWhile_append_dropWhile]
  have hbetween : (c :: cs).take (c :: cs.takeWhile p).length = c :: cs.takeWhile p := by
    conv_lhs => rw [htake]
    exact List.take_left
  rw [matchAt, hends, reach_head_takeWhile, Option.map_some, between]
  dsimp only
  rw [hlength, hbetween]

/-- The match does not depend on what is before it. -/
lemma findFrom_many1_before {before before' cs : List Char} (k : ℕ) :
    findFrom (many1 p) before k cs = findFrom (many1 p) before' 0 (cs.drop k) := by
  induction cs generalizing before before' k with
  | nil => simp [findFrom]
  | cons c cs ih =>
    cases k with
    | succ k =>
      rw [findFrom, List.drop_succ_cons]
      exact ih k
    | zero =>
      rw [List.drop_zero, findFrom, findFrom]
      by_cases hc : p c = true
      · rw [matchAt_many1 hc, matchAt_many1 hc]
        dsimp only
        rw [@ih _ before' _, @ih _ before' _]
      · rw [matchAt_many1_none (by simpa using hc), matchAt_many1_none (by simpa using hc)]
        exact ih 0

lemma drop_takeWhile : s.drop (s.takeWhile p).length = s.dropWhile p := by
  induction s with
  | nil => rfl
  | cons c s ih =>
    by_cases hc : p c = true
    · rwa [List.takeWhile_cons_of_pos hc, List.dropWhile_cons_of_pos hc, List.length_cons,
        List.drop_succ_cons]
    · rw [List.takeWhile_cons_of_neg hc, List.dropWhile_cons_of_neg hc]
      rfl

@[simp] lemma findAll_nil : findAll (many1 p) [] = [] := rfl

/-- A word is found up to its end. -/
lemma findAll_cons_of_pos (hc : p c = true) : findAll (many1 p) (c :: s) =
    (c :: s.takeWhile p) :: findAll (many1 p) (s.dropWhile p) := by
  rw [findAll, findFrom, matchAt_many1 hc]
  dsimp only
  rw [List.length_cons, Nat.add_sub_cancel, @findFrom_many1_before p _ [], drop_takeWhile, findAll]

lemma findAll_cons_of_neg (hc : p c = false) :
    findAll (many1 p) (c :: s) = findAll (many1 p) s := by
  rw [findAll, findFrom, matchAt_many1_none hc]
  exact @findFrom_many1_before p _ [] s 0

lemma replaceFrom_many1_before {f : List Char → List Char} {before before' cs : List Char}
    (k : ℕ) : replaceFrom (many1 p) f before k cs =
      replaceFrom (many1 p) f before' 0 (cs.drop k) := by
  induction cs generalizing before before' k with
  | nil => simp [replaceFrom]
  | cons c cs ih =>
    cases k with
    | succ k =>
      rw [replaceFrom, List.drop_succ_cons]
      exact ih k
    | zero =>
      rw [List.drop_zero, replaceFrom, replaceFrom]
      by_cases hc : p c = true
      · rw [matchAt_many1 hc, matchAt_many1 hc]
        dsimp only
        rw [@ih _ before' _, @ih _ before' _]
      · rw [matchAt_many1_none (by simpa using hc), matchAt_many1_none (by simpa using hc)]
        dsimp only
        rw [@ih _ (c :: before') 0, List.drop_zero]

/-- A run is replaced as a whole. -/
lemma replaceAll_cons_of_pos {f : List Char → List Char} (hc : p c = true) :
    replaceAll (many1 p) f (c :: s) =
      f (c :: s.takeWhile p) ++ replaceAll (many1 p) f (s.dropWhile p) := by
  rw [replaceAll, replaceFrom, matchAt_many1 hc]
  dsimp only
  rw [List.length_cons, Nat.add_sub_cancel, @replaceFrom_many1_before p f _ [], drop_takeWhile, replaceAll]

lemma replaceAll_cons_of_neg {f : List Char → List Char} (hc : p c = false) :
    replaceAll (many1 p) f (c :: s) = c :: replaceAll (many1 p) f s := by
  rw [replaceAll, replaceFrom, matchAt_many1_none hc]
  exact congrArg (c :: ·) (@replaceFrom_many1_before p f _ [] s 0)

/-! ## Words of the parts of a text -/

lemma mem_of_findAll {word : List Char} (h : word ∈ findAll (many1 p) s) :
    word ≠ [] ∧ ∀ c ∈ word, p c = true := by
  induction hlength : s.length using Nat.strong_induction_on generalizing s with
  | _ n ih =>
    cases s with
    | nil => cases h
    | cons c s =>
      by_cases hc : p c = true
      · rw [findAll_cons_of_pos hc, List.mem_cons] at h
        rcases h with rfl | h
        · refine ⟨by simp, fun d hd => ?_⟩
          rcases List.mem_cons.mp hd with rfl | hd
          · exact hc
          · exact List.mem_takeWhile_imp hd
        · refine ih _ ?_ h rfl
          have hle := List.length_dropWhile_le p s
          rw [← hlength, List.length_cons]
          omega
      · rw [findAll_cons_of_neg (by simpa using hc)] at h
        exact ih s.length (by rw [← hlength]; simp) h rfl

/-- A character outside the class separates words. -/
lemma findAll_append_cons (hc : p c = false) : findAll (many1 p) (s ++ c :: t) =
    findAll (many1 p) s ++ findAll (many1 p) t := by
  induction hlength : s.length using Nat.strong_induction_on generalizing s with
  | _ n ih =>
    cases s with
    | nil => rw [List.nil_append, findAll_cons_of_neg hc]; rfl
    | cons d s =>
      by_cases hd : p d = true
      · have htake : (s ++ c :: t).takeWhile p = s.takeWhile p := by
          rw [List.takeWhile_append, List.takeWhile_cons_of_neg (by simp [hc]), List.append_nil]
          split
          · next hall => exact ((List.takeWhile_prefix p).eq_of_length hall).symm
          · rfl
        have hdrop : (s ++ c :: t).dropWhile p = s.dropWhile p ++ c :: t := by
          rw [List.dropWhile_append]
          split
          · next hnil =>
            rw [List.isEmpty_iff.mp hnil, List.dropWhile_cons_of_neg (by simp [hc])]
            rfl
          · rfl
        have hle := List.length_dropWhile_le p s
        rw [List.cons_append, findAll_cons_of_pos hd, htake, hdrop,
          ih _ (by rw [← hlength, List.length_cons]; omega) rfl, findAll_cons_of_pos hd,
          List.cons_append]
      · have hd' : p d = false := by simpa using hd
        rw [List.cons_append, findAll_cons_of_neg hd', ih s.length (by rw [← hlength]; simp) rfl,
          findAll_cons_of_neg hd']

/-- A run of such characters does, too. -/
lemma findAll_append_run {run : List Char} (hne : run ≠ []) (hrun : ∀ c ∈ run, p c = false) :
    findAll (many1 p) (s ++ run ++ t) = findAll (many1 p) s ++ findAll (many1 p) t := by
  obtain ⟨c, rest, rfl⟩ := List.exists_cons_of_ne_nil hne
  have hrest : ∀ rest : List Char, (∀ c ∈ rest, p c = false) →
      findAll (many1 p) (rest ++ t) = findAll (many1 p) t := by
    intro rest h
    induction rest with
    | nil => rfl
    | cons d rest ih =>
      rw [List.cons_append, findAll_cons_of_neg (h d List.mem_cons_self)]
      exact ih fun e he => h e (List.mem_cons_of_mem d he)
  rw [List.append_assoc, List.cons_append, findAll_append_cons (hrun c List.mem_cons_self),
    hrest rest fun d hd => hrun d (List.mem_cons_of_mem c hd)]

/-- The words of a smaller class are found in the words of the greater one. -/
lemma findAll_flatMap (hpq : ∀ c, p c = true → q c = true) :
    findAll (many1 p) s = (findAll (many1 q) s).flatMap (findAll (many1 p)) := by
  induction hlength : s.length using Nat.strong_induction_on generalizing s with
  | _ n ih =>
    cases s with
    | nil => rfl
    | cons c s =>
      by_cases hc : q c = true
      · have hle := List.length_dropWhile_le q s
        have hrest := @ih (s.dropWhile q).length (by rw [← hlength, List.length_cons]; omega)
          (s.dropWhile q) rfl
        have hsplit : c :: s = (c :: s.takeWhile q) ++ s.dropWhile q := by
          rw [List.cons_append, List.takeWhile_append_dropWhile]
        rw [findAll_cons_of_pos hc, List.flatMap_cons, ← hrest]
        nth_rewrite 1 [hsplit]
        -- the word ends where the text ends or at a character outside both classes
        cases hend : s.dropWhile q with
        | nil => simp
        | cons d rest =>
          have hd : q d = false := by
            have hhead := List.head?_dropWhile_not q s
            rw [hend] at hhead
            simpa using hhead
          have hd' : p d = false := by
            by_contra hp
            rw [Bool.not_eq_false] at hp
            rw [hpq d hp] at hd
            cases hd
          rw [findAll_append_cons hd', findAll_cons_of_neg hd']
      · have hc' : q c = false := by simpa using hc
        have hp : p c = false := by
          by_contra hp
          rw [Bool.not_eq_false] at hp
          exact hc (hpq c hp)
        rw [findAll_cons_of_neg hp, findAll_cons_of_neg hc']
        exact ih s.length (by rw [← hlength]; simp) rfl

/-! ## Joining words -/

/-- The first and the last character of what words are joined to are characters of the class. -/
lemma ends_intercalate {words : List (List Char)} {d : Char}
    (hwords : ∀ word ∈ words, word ≠ [] ∧ ∀ c ∈ word, p c = true) (hne : words ≠ []) :
    [d].intercalate words ≠ [] ∧ (∀ c ∈ ([d].intercalate words).head?, p c = true) ∧
      ∀ c ∈ ([d].intercalate words).getLast?, p c = true := by
  induction words with
  | nil => exact absurd rfl hne
  | cons word words ih =>
    obtain ⟨hword, hall⟩ := hwords word List.mem_cons_self
    have hhead : ∀ c ∈ word.head?, p c = true := fun c hc => hall c (List.mem_of_mem_head? hc)
    cases words with
    | nil =>
      rw [List.intercalate_singleton]
      exact ⟨hword, hhead, fun c hc => hall c (List.mem_of_getLast? hc)⟩
    | cons next words =>
      obtain ⟨hrest, -, hlast⟩ :=
        ih (fun word hword => hwords word (List.mem_cons_of_mem _ hword)) (List.cons_ne_nil _ _)
      rw [List.intercalate_cons_cons]
      refine ⟨by simp [hword], ?_, ?_⟩
      · rw [List.append_assoc, List.head?_append_of_ne_nil _ hword]
        exact hhead
      · rw [List.getLast?_append_of_ne_nil _ hrest]
        exact hlast

/-- With each gap replaced by one character, a text is its words joined by it, perhaps after one
such character and before another. -/
lemma replaceAll_gaps {d : Char} : ∃ trail : List Char, (trail = [] ∨ trail = [d]) ∧
    replaceAll (many1 fun c => !p c) (fun _ => [d]) s =
      (if s.head?.all p then [] else [d]) ++ [d].intercalate (findAll (many1 p) s) ++ trail ∧
    (findAll (many1 p) s = [] → trail = []) := by
  induction hlength : s.length using Nat.strong_induction_on generalizing s with
  | _ n ih =>
    cases s with
    | nil => exact ⟨[], Or.inl rfl, rfl, fun _ => rfl⟩
    | cons c s =>
      by_cases hc : p c = true
      · -- a word, and then a gap or the end
        have hword : ∀ word rest : List Char, (∀ c ∈ word, p c = true) →
            replaceAll (many1 fun c => !p c) (fun _ => [d]) (word ++ rest) =
              word ++ replaceAll (many1 fun c => !p c) (fun _ => [d]) rest := by
          intro word rest hall
          induction word with
          | nil => rfl
          | cons e word ih' =>
            rw [List.cons_append, replaceAll_cons_of_neg (by simp [hall e]),
              ih' fun c hc => hall c (List.mem_cons_of_mem e hc), List.cons_append]
        have hall : ∀ e ∈ c :: s.takeWhile p, p e = true := by
          intro e he
          rcases List.mem_cons.mp he with rfl | he
          · exact hc
          · exact List.mem_takeWhile_imp he
        have hsplit : c :: s = (c :: s.takeWhile p) ++ s.dropWhile p := by
          rw [List.cons_append, List.takeWhile_append_dropWhile]
        have hle := List.length_dropWhile_le p s
        obtain ⟨trail, htrail, hrest, hnone⟩ :=
          @ih (s.dropWhile p).length (by rw [← hlength, List.length_cons]; omega)
            (s.dropWhile p) rfl
        have hreplace : replaceAll (many1 fun c => !p c) (fun _ => [d]) (c :: s) =
            (c :: s.takeWhile p) ++
              replaceAll (many1 fun c => !p c) (fun _ => [d]) (s.dropWhile p) := by
          conv_lhs => rw [hsplit]
          exact hword _ _ hall
        have hfirst : (c :: s).head?.all p = true := hc
        rw [hreplace, hrest, findAll_cons_of_pos hc, if_pos hfirst, List.nil_append]
        cases hend : s.dropWhile p with
        | nil =>
          rw [hend] at hnone
          refine ⟨[], Or.inl rfl, ?_, fun h => by cases h⟩
          rw [hnone rfl]
          simp [findAll, findFrom]
        | cons e rest =>
          have he : ¬ (e :: rest).head?.all p = true := by
            have hhead := List.head?_dropWhile_not p s
            rw [hend] at hhead
            simpa using hhead
          rw [hend] at hnone
          rw [if_neg he]
          cases hwords : findAll (many1 p) (e :: rest) with
          | nil =>
            refine ⟨[d], Or.inr rfl, ?_, fun h => by cases h⟩
            rw [hnone hwords, List.intercalate_singleton, List.intercalate_nil, List.append_nil,
              List.append_nil]
          | cons word words =>
            refine ⟨trail, htrail, ?_, fun h => by cases h⟩
            rw [List.intercalate_cons_cons]
            simp only [List.append_assoc]
      · have hc' : p c = false := by simpa using hc
        have hskip : ∀ rest : List Char,
            findAll (many1 p) (rest.dropWhile fun c => !p c) = findAll (many1 p) rest := by
          intro rest
          induction rest with
          | nil => rfl
          | cons e rest ih' =>
            cases he : p e with
            | true => rw [List.dropWhile_cons_of_neg (by simp [he])]
            | false =>
              rw [List.dropWhile_cons_of_pos (by simp [he]), ih', findAll_cons_of_neg he]
        have hle := List.length_dropWhile_le (fun c => !p c) s
        obtain ⟨trail, htrail, hrest, hnone⟩ :=
          @ih (s.dropWhile fun c => !p c).length (by rw [← hlength, List.length_cons]; omega)
            (s.dropWhile fun c => !p c) rfl
        have hstart : (s.dropWhile fun c => !p c).head?.all p = true := by
          have hhead := List.head?_dropWhile_not (fun c => !p c) s
          cases hdrop : (s.dropWhile fun c => !p c).head? with
          | none => rfl
          | some e =>
            rw [hdrop] at hhead
            simpa using hhead
        rw [hskip] at hrest hnone
        refine ⟨trail, htrail, ?_, ?_⟩
        · have hfirst : ¬ (c :: s).head?.all p = true := hc
          rw [replaceAll_cons_of_pos (by simp [hc']), hrest, if_pos hstart, if_neg hfirst,
            findAll_cons_of_neg hc', List.nil_append, List.append_assoc]
        · rw [findAll_cons_of_neg hc']
          exact hnone

/-- Without the characters at both ends, it is its words joined. -/
theorem strip_replaceAll_gaps {d : Char} (hd : p d = false) :
    (((replaceAll (many1 fun c => !p c) (fun _ => [d]) s).dropWhile (· = d)).reverse.dropWhile
      (· = d)).reverse = [d].intercalate (findAll (many1 p) s) := by
  obtain ⟨trail, htrail, heq, hnone⟩ := @replaceAll_gaps p s d
  have hlead : ∀ rest : List Char, (∀ c ∈ rest.head?, p c = true) →
      ∀ lead : List Char, lead = [] ∨ lead = [d] →
        (lead ++ rest).dropWhile (· = d) = rest := by
    intro rest hrest lead hlead
    have hdrop : rest.dropWhile (· = d) = rest := by
      cases rest with
      | nil => rfl
      | cons c rest =>
        refine List.dropWhile_cons_of_neg ?_
        rw [decide_eq_true_eq]
        rintro rfl
        rw [hrest c rfl] at hd
        cases hd
    rcases hlead with rfl | rfl
    · exact hdrop
    · rw [List.singleton_append, List.dropWhile_cons_of_pos (by simp), hdrop]
  have hstart : (if s.head?.all p then [] else [d]) = [] ∨
      (if s.head?.all p then [] else [d]) = [d] := by
    split
    · exact Or.inl rfl
    · exact Or.inr rfl
  rw [heq, List.append_assoc]
  cases hwords : findAll (many1 p) s with
  | nil =>
    rw [hnone hwords, List.intercalate_nil, List.append_nil, hlead [] nofun _ hstart]
    rfl
  | cons word words =>
    obtain ⟨hne, hhead, hlast⟩ := @ends_intercalate p (word :: words) d
      (fun word' hword' => mem_of_findAll (hwords ▸ hword')) (List.cons_ne_nil _ _)
    rw [hlead _ (by rwa [List.head?_append_of_ne_nil _ hne]) _ hstart, List.reverse_append,
      hlead _ (by rwa [List.head?_reverse]) _ (by rcases htrail with rfl | rfl <;> simp),
      List.reverse_reverse]

/-! ## A word that stands by itself -/

/-- The word is in the text, and not inside a longer one. -/
def StandsIn (p : Char → Bool) (word s : List Char) : Prop := ∃ first rest,
  s = first ++ (word ++ rest) ∧ (∀ c ∈ first.getLast?, p c = false) ∧
    ∀ c ∈ rest.head?, p c = false

section Standing

variable {p : Char → Bool} {word s t : List Char}

lemma all_not_iff {c : Option Char} :
    (c.all fun d => !p d) = true ↔ ∀ d ∈ c, p d = false := by
  cases c with
  | none => simp
  | some c => simp

lemma standsIn_iff : StandsIn p word s ↔ ∃ i ∈ List.range (s.length + 1), word <+: s.drop i ∧
    ((s.take i).getLast?.all fun c => !p c) = true ∧
      ((s.drop (i + word.length)).head?.all fun c => !p c) = true := by
  simp only [all_not_iff]
  constructor
  · rintro ⟨first, rest, rfl, hfirst, hrest⟩
    refine ⟨first.length, List.mem_range.mpr (by simp), ?_, ?_, ?_⟩
    · rw [List.drop_left]
      exact List.prefix_append word rest
    · rwa [List.take_left]
    · rwa [← List.drop_drop, List.drop_left, List.drop_left]
  · rintro ⟨i, -, ⟨rest, hrest⟩, hfirst, hafter⟩
    refine ⟨s.take i, rest, ?_, hfirst, ?_⟩
    · rw [hrest, List.take_append_drop]
    · rwa [← List.drop_drop, ← hrest, List.drop_left] at hafter

instance : Decidable (StandsIn p word s) := decidable_of_iff' _ standsIn_iff

lemma not_standsIn_nil (hword : word ≠ []) : ¬ StandsIn p word [] := by
  rintro ⟨first, rest, h, -⟩
  have hnil := List.append_eq_nil_iff.mp h.symm
  exact hword (List.append_eq_nil_iff.mp hnil.2).1

/-- A word without the character stands by itself on one side of it. -/
theorem standsIn_append_cons {d : Char} (hd : p d = false) (hword : word ≠ [])
    (hmem : d ∉ word) :
    StandsIn p word (s ++ d :: t) ↔ StandsIn p word s ∨ StandsIn p word t := by
  constructor
  · rintro ⟨first, rest, h, hfirst, hrest⟩
    rcases List.append_eq_append_iff.mp h with ⟨x, rfl, hx⟩ | ⟨x, rfl, hx⟩
    · cases x with
      | nil =>
        obtain ⟨c, word, rfl⟩ := List.exists_cons_of_ne_nil hword
        obtain ⟨rfl, -⟩ := List.cons.inj hx
        exact absurd List.mem_cons_self hmem
      | cons c x =>
        obtain ⟨rfl, rfl⟩ := List.cons.inj hx
        refine Or.inr ⟨x, rest, rfl, fun e he => hfirst e ?_, hrest⟩
        rw [List.getLast?_append_of_ne_nil _ (List.cons_ne_nil _ _), List.getLast?_cons, he]
        rfl
    · rcases List.append_eq_append_iff.mp hx with ⟨y, rfl, hy⟩ | ⟨y, rfl, hy⟩
      · exact Or.inl ⟨first, y, rfl, hfirst, fun e he => hrest e (by
          rw [hy, List.head?_append, he]
          rfl)⟩
      · cases y with
        | nil => exact Or.inl ⟨first, [], by simp, hfirst, fun e he => by cases he⟩
        | cons c y =>
          obtain ⟨rfl, -⟩ := List.cons.inj hy
          exact absurd (List.mem_append_right x List.mem_cons_self) hmem
  · rintro (⟨first, rest, rfl, hfirst, hrest⟩ | ⟨first, rest, rfl, hfirst, hrest⟩)
    · refine ⟨first, rest ++ d :: t, by simp, hfirst, fun e he => ?_⟩
      cases rest with
      | nil =>
        obtain rfl := Option.some.inj he
        exact hd
      | cons c rest => exact hrest e he
    · refine ⟨s ++ d :: first, rest, by simp, fun e he => ?_, hrest⟩
      rw [List.getLast?_append_of_ne_nil _ (List.cons_ne_nil _ _), List.getLast?_cons] at he
      cases hlast : first.getLast? with
      | none =>
        rw [hlast] at he
        obtain rfl := Option.some.inj he
        exact hd
      | some c =>
        rw [hlast] at he
        exact hfirst e (by rw [hlast]; exact he)

end Standing

end Lib.Pattern
