import ScholarshipFinder.Lib.Pattern

/-!
# Spans of a text

The places where the matches of a pattern begin and end, and how spans that touch are put together.
-/

namespace Lib

/-- Where a part of a text begins and ends, in characters. -/
abbrev Span := ℕ × ℕ

/-- `text[start:end]` -/
def Span.slice (span : Span) (cs : List Char) : List Char := (cs.drop span.1).take (span.2 - span.1)

/-- The first span lies in the second one. -/
def Span.Inside (inner outer : Span) : Prop := outer.1 ≤ inner.1 ∧ inner.2 ≤ outer.2

/-- The character at the place is part of the span. -/
def Span.Has (span : Span) (p : ℕ) : Prop := span.1 ≤ p ∧ p < span.2

namespace Pattern

/-- The matches from a place on, as `findFrom` finds them. -/
def spansFrom (a : Pattern) : List Char → ℕ → List Char → List Span
  | _, _, [] => []
  | before, skip + 1, c :: cs => spansFrom a (c :: before) skip cs
  | before, 0, c :: cs =>
    match a.matchAt ⟨before, c :: cs⟩ with
    | none => spansFrom a (c :: before) 0 cs
    | some found => (before.length, before.length + found.length) ::
        spansFrom a (c :: before) (found.length - 1) cs

/-- `re.finditer` of a pattern that does not match the empty text. -/
def spans (a : Pattern) (cs : List Char) : List Span := spansFrom a [] 0 cs

end Pattern

/-- A span is joined to the last one if it begins in it or where it ends, and else follows it. -/
def absorb (windows : List Span) (span : Span) : List Span :=
  match windows.getLast? with
  | some last =>
    if span.1 ≤ last.2 then windows.dropLast ++ [(last.1, max last.2 span.2)]
    else windows ++ [span]
  | none => windows ++ [span]

/-- The spans one after the other. -/
def mergeSpans (spans : List Span) : List Span := spans.foldl absorb []

/-! ## Slices -/

variable {inner outer span : Span} {cs : List Char}

lemma Span.Inside.trans {middle : Span} (h : inner.Inside middle) (h' : middle.Inside outer) :
    inner.Inside outer :=
  ⟨h'.1.trans h.1, h.2.trans h'.2⟩

/-- What lies in a span stands in its part of the text. -/
lemma Span.Inside.slice_infix (h : inner.Inside outer) : inner.slice cs <:+: outer.slice cs := by
  have hslice : inner.slice cs =
      ((outer.slice cs).drop (inner.1 - outer.1)).take (inner.2 - inner.1) := by
    rw [Span.slice, Span.slice, List.drop_take, List.drop_drop, List.take_take,
      Nat.add_sub_cancel' h.1]
    congr 1
    have hend := h.2
    have hstart := h.1
    omega
  rw [hslice]
  exact ((List.take_prefix _ _).isInfix).trans (List.drop_suffix _ _).isInfix

/-- The characters at the places of a span. -/
lemma filterMap_range' {start length : ℕ} :
    (List.range' start length).filterMap (cs[·]?) = (cs.drop start).take length := by
  induction length generalizing start with
  | zero => rw [List.range'_zero, List.filterMap_nil, List.take_zero]
  | succ length ih =>
    rw [List.range'_succ]
    rcases lt_or_ge start cs.length with hlt | hge
    · rw [List.drop_eq_getElem_cons hlt, List.take_succ_cons, ← ih,
        List.filterMap_cons_some (List.getElem?_eq_getElem hlt)]
    · rw [List.filterMap_cons_none (List.getElem?_eq_none hge), ih,
        List.drop_of_length_le hge, List.drop_of_length_le (Nat.le_succ_of_le hge), List.take_nil,
        List.take_nil]

/-! ## The matches are the parts that are found -/

namespace Pattern

variable {a : Pattern} {before : List Char} {skip : ℕ}

lemma spansFrom_inside (h : span ∈ spansFrom a before skip cs) :
    before.length ≤ span.1 ∧ span.1 ≤ span.2 ∧ span.2 ≤ before.length + cs.length := by
  induction cs generalizing before skip with
  | nil => simp [spansFrom] at h
  | cons c cs ih =>
    have htail : ∀ {skip'}, span ∈ spansFrom a (c :: before) skip' cs →
        before.length ≤ span.1 ∧ span.1 ≤ span.2 ∧
          span.2 ≤ before.length + (c :: cs).length := by
      intro skip' hspan
      have hinside := ih hspan
      rw [List.length_cons] at hinside ⊢
      omega
    cases skip with
    | succ skip => exact htail h
    | zero =>
      rw [spansFrom] at h
      split at h
      · exact htail h
      · next found hfound =>
        rcases List.mem_cons.mp h with rfl | h
        · have hlength := (matchAt_prefixes hfound).length_le
          exact ⟨le_rfl, Nat.le_add_right _ _, Nat.add_le_add_left hlength _⟩
        · exact htail h

/-- A match lies in the text. -/
lemma spans_inside (h : span ∈ spans a cs) : span.1 ≤ span.2 ∧ span.2 ≤ cs.length := by
  have hinside := spansFrom_inside h
  rw [List.length_nil, Nat.zero_add] at hinside
  exact hinside.2

lemma findFrom_eq_slices : findFrom a before skip cs =
    (spansFrom a before skip cs).map fun span => span.slice (before.reverse ++ cs) := by
  induction cs generalizing before skip with
  | nil => simp [findFrom, spansFrom]
  | cons c cs ih =>
    have htext : (c :: before).reverse ++ cs = before.reverse ++ c :: cs := by
      rw [List.reverse_cons, List.append_assoc, List.singleton_append]
    cases skip with
    | succ skip => rw [findFrom, spansFrom, ih, htext]
    | zero =>
      rw [findFrom, spansFrom]
      cases hfound : a.matchAt ⟨before, c :: cs⟩ with
      | none =>
        dsimp only
        rw [ih, htext]
      | some found =>
        dsimp only
        have hslice : found =
            Span.slice (before.length, before.length + found.length) (before.reverse ++ c :: cs) := by
          rw [Span.slice, Nat.add_sub_cancel_left,
            List.drop_left' (List.length_reverse : before.reverse.length = before.length)]
          exact List.prefix_iff_eq_take.mp (matchAt_prefixes hfound)
        rw [ih, htext, List.map_cons, ← hslice]

/-- `re.findall` gives the parts of the text at the matches. -/
theorem findAll_eq_slices : findAll a cs = (spans a cs).map fun span => span.slice cs :=
  findFrom_eq_slices

end Pattern

/-! ## Merging -/

/-- Spans from left to right, with a gap between any two of them. -/
abbrev Apart (windows : List Span) : Prop := windows.Pairwise fun a b => a.2 < b.1

variable {windows spans : List Span}

lemma Apart.eq_or_lt {a b : Span} (h : Apart windows) (ha : a ∈ windows) (hb : b ∈ windows) :
    a = b ∨ a.2 < b.1 ∨ b.2 < a.1 :=
  List.Pairwise.forall_of_forall_of_flip (R := fun a b => a = b ∨ a.2 < b.1 ∨ b.2 < a.1)
    (fun _ _ => Or.inl rfl) (h.imp fun hgap => Or.inr (Or.inl hgap))
    (h.imp fun hgap => Or.inr (Or.inr hgap)) ha hb

/-- What there is to a span that is added. -/
lemma absorb_cases (windows : List Span) (span : Span) :
    (∃ before last, windows = before ++ [last] ∧ span.1 ≤ last.2 ∧
      absorb windows span = before ++ [(last.1, max last.2 span.2)]) ∨
    ((∀ last ∈ windows.getLast?, last.2 < span.1) ∧ absorb windows span = windows ++ [span]) := by
  rcases List.eq_nil_or_concat' windows with rfl | ⟨before, last, rfl⟩
  · exact Or.inr ⟨nofun, rfl⟩
  · have hlast : (before ++ [last]).getLast? = some last := List.getLast?_concat
    by_cases htouch : span.1 ≤ last.2
    · refine Or.inl ⟨before, last, rfl, htouch, ?_⟩
      rw [absorb, hlast]
      dsimp only
      rw [if_pos htouch, List.dropLast_concat]
    · refine Or.inr ⟨fun last' hlast' => ?_, ?_⟩
      · obtain rfl := Option.some_inj.mp (hlast.symm.trans hlast')
        exact not_le.mp htouch
      · rw [absorb, hlast]
        dsimp only
        rw [if_neg htouch]

/-- The windows are the places that the spans hold, in order. -/
structure Covers (windows spans : List Span) : Prop where
  apart : Apart windows
  ordered : ∀ window ∈ windows, window.1 < window.2
  starts : ∀ window ∈ windows, ∃ span ∈ spans, window.1 = span.1
  within : ∀ window ∈ windows, ∀ p, window.Has p → ∃ span ∈ spans, span.Has p
  inside : ∀ span ∈ spans, ∃ window ∈ windows, span.Inside window

lemma Covers.nil : Covers [] [] where
  apart := List.Pairwise.nil
  ordered := nofun
  starts := nofun
  within := nofun
  inside := nofun

/-- The last window ends last. -/
lemma Covers.ends_le {before : List Span} {last window : Span} (h : Covers (before ++ [last]) spans)
    (hwindow : window ∈ before ++ [last]) : window.2 ≤ last.2 := by
  rcases List.mem_append.mp hwindow with hbefore | hlast
  · have hgap := (List.pairwise_append.mp h.apart).2.2 window hbefore last (by simp)
    exact (hgap.trans (h.ordered last (by simp))).le
  · rw [List.mem_singleton.mp hlast]

/-- A span that touches the last window is joined to it. -/
lemma Covers.join {before : List Span} {last : Span} (h : Covers (before ++ [last]) spans)
    (hbegin : last.1 ≤ span.1) (htouch : span.1 ≤ last.2) :
    Covers (before ++ [(last.1, max last.2 span.2)]) (spans ++ [span]) := by
  obtain ⟨hbefore, -, hlast⟩ := List.pairwise_append.mp h.apart
  obtain ⟨horderedBefore, horderedLast⟩ := List.forall_mem_append.mp h.ordered
  obtain ⟨hstartsBefore, hstartsLast⟩ := List.forall_mem_append.mp h.starts
  obtain ⟨hwithinBefore, hwithinLast⟩ := List.forall_mem_append.mp h.within
  rw [List.forall_mem_singleton] at horderedLast hstartsLast hwithinLast
  constructor
  case apart =>
    refine List.pairwise_append.mpr ⟨hbefore, List.pairwise_singleton _ _, ?_⟩
    intro window hwindow joined hjoined
    rw [List.mem_singleton.mp hjoined]
    exact hlast window hwindow last (by simp)
  case ordered =>
    rw [List.forall_mem_append, List.forall_mem_singleton]
    exact ⟨horderedBefore, horderedLast.trans_le (le_max_left _ _)⟩
  case starts =>
    rw [List.forall_mem_append, List.forall_mem_singleton]
    refine ⟨fun window hwindow => ?_, ?_⟩
    · obtain ⟨span', hspan', heq⟩ := hstartsBefore window hwindow
      exact ⟨span', List.mem_append_left _ hspan', heq⟩
    · obtain ⟨span', hspan', heq⟩ := hstartsLast
      exact ⟨span', List.mem_append_left _ hspan', heq⟩
  case within =>
    rw [List.forall_mem_append, List.forall_mem_singleton]
    refine ⟨fun window hwindow p hp => ?_, fun p hp => ?_⟩
    · obtain ⟨span', hspan', hhas⟩ := hwithinBefore window hwindow p hp
      exact ⟨span', List.mem_append_left _ hspan', hhas⟩
    · -- a place of the joined window is in the old one or in the span
      rcases lt_or_ge p last.2 with hp' | hp'
      · obtain ⟨span', hspan', hhas⟩ := hwithinLast p ⟨hp.1, hp'⟩
        exact ⟨span', List.mem_append_left _ hspan', hhas⟩
      · refine ⟨span, by simp, htouch.trans hp', ?_⟩
        exact (lt_max_iff.mp hp.2).resolve_left (not_lt.mpr hp')
  case inside =>
    rw [List.forall_mem_append, List.forall_mem_singleton]
    refine ⟨fun span' hspan' => ?_, _, List.mem_append_right _ List.mem_cons_self, hbegin,
      le_max_right _ _⟩
    obtain ⟨window, hwindow, hinside⟩ := h.inside span' hspan'
    rcases List.mem_append.mp hwindow with hwindow | hwindow
    · exact ⟨window, List.mem_append_left _ hwindow, hinside⟩
    · rw [List.mem_singleton.mp hwindow] at hinside
      exact ⟨_, List.mem_append_right _ List.mem_cons_self, hinside.1,
        hinside.2.trans (le_max_left _ _)⟩

/-- A span after a gap is a window of its own. -/
lemma Covers.append (h : Covers windows spans) (hspan : span.1 < span.2)
    (hgap : ∀ window ∈ windows, window.2 < span.1) : Covers (windows ++ [span]) (spans ++ [span]) := by
  constructor
  case apart =>
    refine List.pairwise_append.mpr ⟨h.apart, List.pairwise_singleton _ _, ?_⟩
    intro window hwindow last hlast
    rw [List.mem_singleton.mp hlast]
    exact hgap window hwindow
  case ordered =>
    rw [List.forall_mem_append, List.forall_mem_singleton]
    exact ⟨h.ordered, hspan⟩
  case starts =>
    rw [List.forall_mem_append, List.forall_mem_singleton]
    refine ⟨fun window hwindow => ?_, span, by simp, rfl⟩
    obtain ⟨span', hspan', heq⟩ := h.starts window hwindow
    exact ⟨span', List.mem_append_left _ hspan', heq⟩
  case within =>
    rw [List.forall_mem_append, List.forall_mem_singleton]
    refine ⟨fun window hwindow p hp => ?_, fun p hp => ⟨span, by simp, hp⟩⟩
    obtain ⟨span', hspan', hhas⟩ := h.within window hwindow p hp
    exact ⟨span', List.mem_append_left _ hspan', hhas⟩
  case inside =>
    rw [List.forall_mem_append, List.forall_mem_singleton]
    refine ⟨fun span' hspan' => ?_, span, by simp, le_rfl, le_rfl⟩
    obtain ⟨window, hwindow, hinside⟩ := h.inside span' hspan'
    exact ⟨window, List.mem_append_left _ hwindow, hinside⟩

/-- A span that begins no earlier than the others is covered too. -/
lemma Covers.absorb (h : Covers windows spans) (hspan : span.1 < span.2)
    (hlater : ∀ earlier ∈ spans, earlier.1 ≤ span.1) :
    Covers (absorb windows span) (spans ++ [span]) := by
  rcases absorb_cases windows span with ⟨before, last, rfl, htouch, habsorb⟩ | ⟨hgap, habsorb⟩
  · obtain ⟨earlier, hearlier, heq⟩ := h.starts last (by simp)
    rw [habsorb]
    exact h.join (heq ▸ hlater earlier hearlier) htouch
  · rw [habsorb]
    refine h.append hspan fun window hwindow => ?_
    obtain ⟨before, last, rfl⟩ :=
      (List.eq_nil_or_concat' windows).resolve_left (List.ne_nil_of_mem hwindow)
    exact (h.ends_le hwindow).trans_lt (hgap last List.getLast?_concat)

/-- Spans in the order of their beginnings are covered by what they are merged to. -/
theorem covers_mergeSpans (hspans : ∀ span ∈ spans, span.1 < span.2)
    (hsorted : spans.Pairwise fun a b => a.1 ≤ b.1) : Covers (mergeSpans spans) spans := by
  induction spans using List.reverseRecOn with
  | nil => exact Covers.nil
  | append_singleton spans span ih =>
    obtain ⟨hearlier, -, hlater⟩ := List.pairwise_append.mp hsorted
    have hcovers := ih (fun span' hspan' => hspans span' (List.mem_append_left _ hspan')) hearlier
    rw [mergeSpans, List.foldl_append]
    exact hcovers.absorb (hspans span (by simp)) fun earlier hmem =>
      hlater earlier hmem span (by simp)

/-! ## The places of the windows -/

/-- The places of a text that a list of spans holds. -/
def held (spans : List Span) (p : ℕ) : Bool := spans.any fun span => span.1 ≤ p ∧ p < span.2

lemma held_eq_true {p : ℕ} : held spans p = true ↔ ∃ span ∈ spans, span.Has p := by
  rw [held, List.any_eq_true]
  simp only [decide_eq_true_eq, Span.Has]

variable {n : ℕ}

/-- The windows hold what the spans hold. -/
lemma Covers.held_eq (h : Covers windows spans) : held windows = held spans := by
  funext p
  rw [Bool.eq_iff_iff, held_eq_true, held_eq_true]
  constructor
  · rintro ⟨window, hwindow, hp⟩
    exact h.within window hwindow p hp
  · rintro ⟨span, hspan, hp⟩
    obtain ⟨window, hwindow, hinside⟩ := h.inside span hspan
    exact ⟨window, hwindow, hinside.1.trans hp.1, hp.2.trans_le hinside.2⟩

/-- A window ends where a span ends or before. -/
lemma Covers.stops_le (h : Covers windows spans) (hspans : ∀ span ∈ spans, span.2 ≤ n) :
    ∀ window ∈ windows, window.2 ≤ n := by
  intro window hwindow
  have hordered := h.ordered window hwindow
  obtain ⟨span, hspan, hhas⟩ :=
    h.within window hwindow (window.2 - 1) ⟨Nat.le_sub_one_of_lt hordered, by omega⟩
  have hspan' := hspans span hspan
  have hlast := hhas.2
  omega

/-- The places of the windows one after the other are the places that are held. -/
lemma Covers.places_eq (h : Covers windows spans) (hspans : ∀ span ∈ spans, span.2 ≤ n) :
    (windows.flatMap fun window => List.range' window.1 (window.2 - window.1)) =
      (List.range n).filter (held spans) := by
  refine List.Pairwise.eq_of_mem_iff (r := (· < ·)) ?_ (List.pairwise_lt_range.filter _) ?_
  · rw [List.pairwise_flatMap]
    refine ⟨fun window _ => List.pairwise_lt_range', h.apart.imp_of_mem ?_⟩
    intro a b ha hb hgap p hp q hq
    have hp' := List.mem_range'_1.mp hp
    have hq' := List.mem_range'_1.mp hq
    have hordered := h.ordered a ha
    omega
  · intro p
    rw [← h.held_eq, List.mem_flatMap, List.mem_filter, List.mem_range, held_eq_true]
    constructor
    · rintro ⟨window, hwindow, hp⟩
      have hp' := List.mem_range'_1.mp hp
      have hordered := h.ordered window hwindow
      have hstop := h.stops_le hspans window hwindow
      exact ⟨by omega, window, hwindow, hp'.1, by omega⟩
    · rintro ⟨-, window, hwindow, hp⟩
      have hstart := hp.1
      have hstop := hp.2
      exact ⟨window, hwindow, List.mem_range'_1.mpr ⟨hstart, by omega⟩⟩

/-- The parts of the text in the windows are its characters at the places that are held. -/
lemma Covers.slices_eq (h : Covers windows spans) (hspans : ∀ span ∈ spans, span.2 ≤ n) :
    (windows.flatMap fun window => window.slice cs) =
      ((List.range n).filter (held spans)).filterMap (cs[·]?) := by
  rw [← h.places_eq hspans, List.filterMap_flatMap]
  exact List.flatMap_congr fun window _ => filterMap_range'.symm

/-- A window begins at each place that is held after one that is not. -/
lemma Covers.starts_eq (h : Covers windows spans) (hspans : ∀ span ∈ spans, span.2 ≤ n) :
    windows.map Prod.fst =
      (List.range n).filter fun p => held spans p && (p == 0 || !held spans (p - 1)) := by
  refine List.Pairwise.eq_of_mem_iff (r := (· < ·)) ?_ (List.pairwise_lt_range.filter _) ?_
  · rw [List.pairwise_map]
    refine h.apart.imp_of_mem fun {a b} ha _ hgap => ?_
    exact (h.ordered a ha).trans hgap
  · intro p
    rw [List.mem_map, List.mem_filter, List.mem_range, Bool.and_eq_true, Bool.or_eq_true,
      beq_iff_eq, Bool.not_eq_true', ← Bool.not_eq_true, ← h.held_eq, held_eq_true, held_eq_true]
    constructor
    · rintro ⟨window, hwindow, rfl⟩
      have hordered := h.ordered window hwindow
      have hstop := h.stops_le hspans window hwindow
      refine ⟨by omega, ⟨window, hwindow, le_rfl, hordered⟩, ?_⟩
      rcases Nat.eq_zero_or_pos window.1 with hzero | hpos
      · exact Or.inl hzero
      · refine Or.inr ?_
        rintro ⟨other, hother, hhas⟩
        -- a window that holds the place before would touch this one
        rcases h.apart.eq_or_lt hother hwindow with rfl | hgap | hgap
        all_goals have hstart := hhas.1; have hend := hhas.2
        all_goals omega
    · rintro ⟨-, ⟨window, hwindow, hhas⟩, hfirst⟩
      refine ⟨window, hwindow, ?_⟩
      have hstart := hhas.1
      have hend := hhas.2
      rcases hfirst with hzero | hnot
      · omega
      · by_contra hne
        exact hnot ⟨window, hwindow, by omega, by omega⟩

end Lib
