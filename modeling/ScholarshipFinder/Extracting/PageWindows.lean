import ScholarshipFinder.Infra.CandidateExtraction

/-!
# The windows of a page keep its figures

Every amount and every date of a page lies in one of its windows, and what is sent of the windows
is cut between two characters.
-/

namespace ScholarshipFinder

open Lib

variable {py : PyText} {pageText : String} {maxBytes : ℕ}

/-- A match lies in one of the windows. -/
lemma exists_window {pattern : Pattern} (hpattern : pattern ∈ pagePatterns py) {found : Span}
    (hfound : found ∈ pattern.spans pageText.toList) :
    ∃ window ∈ pageWindows py pageText, found.Inside window := by
  have hmem : found ∈ pageMatches py pageText := mem_pageMatches.mpr ⟨pattern, hpattern, hfound⟩
  obtain ⟨window, hwindow, hinside⟩ :=
    covers_pageWindows.inside _ (List.mem_map_of_mem hmem)
  exact ⟨window, hwindow, (inside_windowAround (pageMatches_inside hmem).2).trans hinside⟩

lemma windowPageText_prefix :
    (windowPageText py pageText maxBytes).toList <+: pageText.toList ∨
      (windowPageText py pageText maxBytes).toList <+: (windowedText py pageText).toList := by
  rw [windowPageText]
  split
  · exact Or.inl cutBytes_prefix
  · exact Or.inr cutBytes_prefix

lemma byteLength_windowPageText_le : byteLength (windowPageText py pageText maxBytes) ≤ maxBytes := by
  rw [windowPageText]
  split <;> exact byteLength_cutBytes_le

/-- Each of the parts stands in what they are joined to. -/
lemma infix_intercalate {sep part : List Char} {parts : List (List Char)} (h : part ∈ parts) :
    part <:+: sep.intercalate parts := by
  induction parts with
  | nil => exact absurd h List.not_mem_nil
  | cons first parts ih =>
    cases parts with
    | nil => rw [List.intercalate_singleton, List.mem_singleton.mp h]
    | cons next parts =>
      rw [List.intercalate_cons_cons]
      rcases List.mem_cons.mp h with rfl | h
      · exact ⟨[], sep ++ sep.intercalate (next :: parts), by simp⟩
      · exact (ih h).trans (List.suffix_append _ _).isInfix

/-- A window is a part of the joined windows. -/
lemma slice_infix_windowedText {window : Span} (h : window ∈ pageWindows py pageText) :
    window.slice pageText.toList <:+: (windowedText py pageText).toList := by
  rw [windowedText, String.toList_intercalate, List.map_map]
  refine infix_intercalate (List.mem_map.mpr ⟨window, h, ?_⟩)
  rw [Function.comp_apply, String.toList_ofList]

/-- Where all windows fit, every match is in the result. -/
lemma mention_infix_windowPageText (hfits : byteLength (windowedText py pageText) ≤ maxBytes)
    {pattern : Pattern} (hpattern : pattern ∈ pagePatterns py) {mention : String}
    (hmention : mention ∈ mentions pattern pageText) :
    mention.toList <:+: (windowPageText py pageText maxBytes).toList := by
  rw [mentions, Pattern.findAll_eq_slices, List.map_map] at hmention
  obtain ⟨found, hfound, rfl⟩ := List.mem_map.mp hmention
  obtain ⟨window, hwindow, hinside⟩ := exists_window hpattern hfound
  have hmatches : ¬ (pageMatches py pageText).isEmpty := by
    have hmem : found ∈ pageMatches py pageText := mem_pageMatches.mpr ⟨pattern, hpattern, hfound⟩
    rw [List.isEmpty_iff]
    exact List.ne_nil_of_mem hmem
  rw [windowPageText, if_neg hmatches, cutBytes_of_le hfits, Function.comp_apply,
    String.toList_ofList]
  exact hinside.slice_infix.trans (slice_infix_windowedText hwindow)

/-- The windows stand apart and in order, hold every amount and every date, and what is sent of them
is UTF-8 of at most so many bytes.  It has every amount and every date if all windows fit. -/
theorem page_windows_keep_figures (py : PyText) (pageText : String) (maxBytes : ℕ) :
    (pageWindows py pageText).Pairwise (fun a b => a.2 < b.1) ∧
    (∀ window ∈ pageWindows py pageText, window.1 < window.2 ∧ window.2 ≤ pageText.length) ∧
    (∀ pattern ∈ [currencyAmountPattern py, monthNameDatePattern py],
      ∀ found ∈ pattern.spans pageText.toList,
        ∃ window ∈ pageWindows py pageText, window.1 ≤ found.1 ∧ found.2 ≤ window.2) ∧
    (Urlencoded.utf8 (windowPageText py pageText maxBytes).toList).length ≤ maxBytes ∧
    (Urlencoded.utf8 (windowPageText py pageText maxBytes).toList).toByteArray.IsValidUTF8 ∧
    ((windowPageText py pageText maxBytes).toList <+: pageText.toList ∨
      (windowPageText py pageText maxBytes).toList <+: (windowedText py pageText).toList) ∧
    ((Urlencoded.utf8 (windowedText py pageText).toList).length ≤ maxBytes →
      ∀ pattern ∈ [currencyAmountPattern py, monthNameDatePattern py],
        ∀ mention ∈ mentions pattern pageText,
          mention.toList <:+: (windowPageText py pageText maxBytes).toList) := by
  refine ⟨covers_pageWindows.apart, fun window hwindow => ⟨covers_pageWindows.ordered window hwindow,
    covers_pageWindows.stops_le stops_pageWindows window hwindow⟩,
    fun pattern hpattern found hfound => exists_window hpattern hfound,
    byteLength_windowPageText_le, ?_, windowPageText_prefix,
    fun hfits pattern hpattern mention hmention =>
      mention_infix_windowPageText hfits hpattern hmention⟩
  exact ByteArray.isValidUTF8_utf8Encode

end ScholarshipFinder
