import ScholarshipFinder.Infra.CandidateExtraction

/-!
# How many bytes the AI Router is sent

A text is cut to as many bytes as the whole object may have, so the object is small enough exactly
when the whole text is, with its quotes, its escapes, and the other field.
-/

namespace ScholarshipFinder

open Lib JsonText

/-- The bytes of a field of the object, `null` where there is no text. -/
def fieldSize (text : Option String) : ℕ := valueSize (text.map String.toList)

variable (py : PyText)

/-- Whether the place of a page is within the context of an amount or a date. -/
def nearFigure (pageText : String) (p : ℕ) : Bool :=
  (pagePatterns py).any fun pattern => (pattern.spans pageText.toList).any fun found =>
    found.1 ≤ p + windowContextChars ∧ p < found.2 + windowContextChars

/-- The bytes of the characters of a page that are near an amount or a date, and of a mark between
each two stretches of them; of all its characters if the page has neither. -/
def shownSize (pageText : String) : ℕ :=
  let places := List.range pageText.length
  let near := nearFigure py pageText
  if (pagePatterns py).all fun pattern => (pattern.spans pageText.toList).isEmpty then
    escapedSize pageText.toList
  else
    escapedSize ((places.filter near).filterMap (pageText.toList[·]?)) +
      5 * ((places.filter fun p => near p && (p == 0 || !near (p - 1))).length - 1)

variable {py} {text pageText : String} {maxBytes k : ℕ}

/-- Beside another field, a text that is cut to the limit is too long, cut or not. -/
lemma escapedSize_cutBytes_iff (hk : 4 ≤ k) :
    escapedSize (cutBytes text maxBytes).toList + k ≤ maxBytes ↔
      escapedSize text.toList + k ≤ maxBytes := by
  rcases le_or_gt (byteLength text) maxBytes with hfits | hlong
  · rw [cutBytes_of_le hfits]
  · have hcut := Utf8.le_length_utf8_fitting hlong
    have hcutSize := @length_utf8_le_escapedSize (cutBytes text maxBytes).toList
    have hsize := @length_utf8_le_escapedSize text.toList
    rw [toList_cutBytes] at hcutSize ⊢
    rw [byteLength] at hlong
    constructor
    · intro h
      omega
    · intro h
      omega

lemma sentBytes_pair {key key' : String} {value value' : Option String} :
    SourceData.sentBytes [(key, value), (key', value')] =
      escapedSize key.toList + escapedSize key'.toList + fieldSize value + fieldSize value' + 9 :=
  length_utf8_object

lemma fieldSize_some : fieldSize (some text) = escapedSize text.toList + 2 := rfl

lemma two_le_fieldSize {value : Option String} : 2 ≤ fieldSize value := by
  cases value with
  | none => decide
  | some text => exact Nat.le_add_left _ _

/-! ## The excerpt -/

lemma extractionSourceData_eq {rawTitle rawExcerpt : Option String} :
    extractionSourceData rawTitle rawExcerpt = [("raw_title", rawTitle),
      ("raw_excerpt", some (cutBytes (rawExcerpt.getD "") aiRouterSourceDataMaxBytes))] := by
  unfold extractionSourceData
  dsimp only
  split
  · rfl
  · next hfits => rw [cutBytes_of_le (not_lt.mp hfits)]

lemma extraction_fits_iff {rawTitle rawExcerpt : Option String} :
    (extractionSourceData rawTitle rawExcerpt).sentBytes ≤ 16 * 1024 ↔
      29 + fieldSize rawTitle + fieldSize (some (rawExcerpt.getD "")) ≤ 16 * 1024 := by
  have hkeys : escapedSize "raw_title".toList = 9 ∧ escapedSize "raw_excerpt".toList = 11 := by decide
  have htitle := @two_le_fieldSize rawTitle
  have hcut := @escapedSize_cutBytes_iff (rawExcerpt.getD "") aiRouterSourceDataMaxBytes
    (31 + fieldSize rawTitle) (by omega)
  rw [aiRouterSourceDataMaxBytes] at hcut
  rw [extractionSourceData_eq, sentBytes_pair, hkeys.1, hkeys.2, fieldSize_some, fieldSize_some,
    aiRouterSourceDataMaxBytes]
  omega

/-! ## The page -/

lemma pageMatches_isEmpty_iff : (pageMatches py pageText).isEmpty =
    (pagePatterns py).all fun pattern => (pattern.spans pageText.toList).isEmpty := by
  rw [Bool.eq_iff_iff, List.isEmpty_iff, List.all_eq_true, List.eq_nil_iff_forall_not_mem]
  constructor
  · intro h pattern hpattern
    rw [List.isEmpty_iff, List.eq_nil_iff_forall_not_mem]
    exact fun found hfound => h found (mem_pageMatches.mpr ⟨pattern, hpattern, hfound⟩)
  · intro h found hfound
    obtain ⟨pattern, hpattern, hmem⟩ := mem_pageMatches.mp hfound
    rw [List.isEmpty_iff.mp (h pattern hpattern)] at hmem
    exact absurd hmem List.not_mem_nil

/-- The windows hold the places of the text that are near a match. -/
lemma held_eq_nearFigure {p : ℕ} (hp : p < pageText.length) :
    held ((pageMatches py pageText).map (windowAround pageText.length)) p =
      nearFigure py pageText p := by
  rw [Bool.eq_iff_iff, held_eq_true, nearFigure, List.any_eq_true]
  constructor
  · rintro ⟨span, hspan, hstart, hstop⟩
    obtain ⟨found, hfound, rfl⟩ := List.mem_map.mp hspan
    obtain ⟨pattern, hpattern, hmem⟩ := mem_pageMatches.mp hfound
    refine ⟨pattern, hpattern, List.any_eq_true.mpr ⟨found, hmem, decide_eq_true ⟨?_, ?_⟩⟩⟩
    · exact Nat.le_add_of_sub_le hstart
    · exact (lt_min_iff.mp hstop).2
  · rintro ⟨pattern, hpattern, hany⟩
    obtain ⟨found, hmem, hnear⟩ := List.any_eq_true.mp hany
    obtain ⟨hstart, hstop⟩ := of_decide_eq_true hnear
    refine ⟨_, List.mem_map_of_mem (mem_pageMatches.mpr ⟨pattern, hpattern, hmem⟩), ?_, ?_⟩
    · exact Nat.sub_le_of_le_add hstart
    · exact lt_min hp hstop

/-- The joined windows take the bytes that are shown of a page. -/
lemma escapedSize_windowedText (h : ¬ (pageMatches py pageText).isEmpty = true) :
    escapedSize (windowedText py pageText).toList = shownSize py pageText := by
  have hslices := @Covers.slices_eq pageText.toList _ _ _ (@covers_pageWindows py pageText)
    stops_pageWindows
  have hstarts := (@covers_pageWindows py pageText).starts_eq stops_pageWindows
  have hnear : (List.range pageText.length).filter
      (held ((pageMatches py pageText).map (windowAround pageText.length))) =
        (List.range pageText.length).filter (nearFigure py pageText) :=
    List.filter_congr fun p hp => held_eq_nearFigure (List.mem_range.mp hp)
  have hcount : (pageWindows py pageText).length = ((List.range pageText.length).filter fun p =>
      nearFigure py pageText p && (p == 0 || !nearFigure py pageText (p - 1))).length := by
    rw [← List.length_map (f := Prod.fst), hstarts]
    refine congrArg List.length (List.filter_congr fun p hp => ?_)
    have hp' := List.mem_range.mp hp
    rw [held_eq_nearFigure hp', held_eq_nearFigure ((Nat.sub_le p 1).trans_lt hp')]
  have hmark : escapedSize " ... ".toList = 5 := by decide
  have hparts : ((pageWindows py pageText).map fun window =>
      String.ofList (window.slice pageText.toList)).map String.toList =
        (pageWindows py pageText).map fun window => window.slice pageText.toList := by
    rw [List.map_map]
    exact List.map_congr_left fun window _ => String.toList_ofList
  rw [windowedText, String.toList_intercalate, escapedSize_intercalate, hparts,
    ← escapedSize_flatten, ← List.flatMap_def, hslices, hnear, List.length_map, hcount, hmark,
    shownSize]
  rw [← pageMatches_isEmpty_iff, if_neg h, Nat.mul_comm 5]

lemma page_fits_iff {rawTitle : Option String} :
    (pageSourceData py rawTitle pageText).sentBytes ≤ 16 * 1024 ↔
      29 + fieldSize rawTitle + shownSize py pageText ≤ 16 * 1024 := by
  have hkeys : escapedSize "raw_title".toList = 9 ∧ escapedSize "page_text".toList = 9 := by decide
  have htitle := @two_le_fieldSize rawTitle
  have hshown : ∃ text, windowPageText py pageText aiRouterPageDataMaxBytes =
      cutBytes text aiRouterPageDataMaxBytes ∧
        escapedSize text.toList = shownSize py pageText := by
    rw [windowPageText]
    split
    · next hnone =>
      refine ⟨pageText, rfl, ?_⟩
      rw [shownSize]
      rw [← pageMatches_isEmpty_iff, if_pos hnone]
    · next hsome => exact ⟨windowedText py pageText, rfl, escapedSize_windowedText hsome⟩
  obtain ⟨text, htext, hsize⟩ := hshown
  have hcut := @escapedSize_cutBytes_iff text aiRouterPageDataMaxBytes (29 + fieldSize rawTitle)
    (by omega)
  rw [hsize, aiRouterPageDataMaxBytes] at hcut
  rw [pageSourceData, sentBytes_pair, hkeys.1, hkeys.2, htext, fieldSize_some,
    aiRouterPageDataMaxBytes]
  omega

/-- What is sent has at most 16 KiB exactly if the title and the excerpt, or the title and what is
shown of the page, do with their quotes, their escapes, and what stands around them. -/
theorem source_data_fits_iff (py : PyText) (rawTitle rawExcerpt : Option String)
    (pageText : String) :
    ((extractionSourceData rawTitle rawExcerpt).sentBytes ≤ 16 * 1024 ↔
      29 + fieldSize rawTitle + fieldSize (some (rawExcerpt.getD "")) ≤ 16 * 1024) ∧
    ((pageSourceData py rawTitle pageText).sentBytes ≤ 16 * 1024 ↔
      29 + fieldSize rawTitle + shownSize py pageText ≤ 16 * 1024) :=
  ⟨extraction_fits_iff, page_fits_iff⟩

/-- A title of 500 and an excerpt of 5000 characters, of three bytes each. -/
theorem wide_excerpt_too_long : ∃ title excerpt : String, title.length = 500 ∧
    excerpt.length = 5000 ∧
    ¬ (extractionSourceData (some title) (some excerpt)).sentBytes ≤ 16 * 1024 := by
  refine ⟨String.ofList (List.replicate 500 '奖'), String.ofList (List.replicate 5000 '学'), ?_, ?_,
    ?_⟩
  · rw [String.length_ofList, List.length_replicate]
  · rw [String.length_ofList, List.length_replicate]
  · have hchars : (Urlencoded.utf8 (escape '奖')).length = 3 ∧
        (Urlencoded.utf8 (escape '学')).length = 3 := by decide
    rw [extraction_fits_iff, Option.getD_some, fieldSize_some, fieldSize_some, String.toList_ofList,
      String.toList_ofList, escapedSize_replicate, escapedSize_replicate, hchars.1, hchars.2]
    omega

end ScholarshipFinder
