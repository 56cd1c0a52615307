import ScholarshipFinder.Domain.Extraction
import ScholarshipFinder.Lib.JsonText
import ScholarshipFinder.Lib.Spans

/-!
# What the AI Router is shown of a candidate (`infra/candidate_extraction.py`)

The excerpt of the feed, or the parts of the fetched page around figures and dates, each cut to so
many bytes.
-/

namespace ScholarshipFinder

open Lib

def aiRouterSourceDataMaxBytes : ℕ := 16 * 1024

def aiRouterPageDataMaxBytes : ℕ := 16 * 1024

def windowContextChars : ℕ := 150

/-- `text.encode()[:max_bytes].decode(errors="ignore")` -/
def cutBytes (text : String) (maxBytes : ℕ) : String :=
  String.ofList (Utf8.decodeIgnoring ((Urlencoded.utf8 text.toList).take maxBytes))

/-- `len(text.encode())` -/
def byteLength (text : String) : ℕ := (Urlencoded.utf8 text.toList).length

variable (py : PyText)

/-- The patterns of the figures and dates that a page is searched for. -/
def pagePatterns : List Pattern := [currencyAmountPattern py, monthNameDatePattern py]

/-- `matches`, in the order of the pairs -/
def pageMatches (pageText : String) : List Span :=
  ((pagePatterns py).flatMap fun pattern => pattern.spans pageText.toList).insertionSort
    fun a b => toLex a ≤ toLex b

/-- The match with its context, inside a text of the length. -/
def windowAround (length : ℕ) (found : Span) : Span :=
  (found.1 - windowContextChars, min length (found.2 + windowContextChars))

/-- `windows` -/
def pageWindows (pageText : String) : List Span :=
  mergeSpans ((pageMatches py pageText).map (windowAround pageText.length))

/-- `windowed` -/
def windowedText (pageText : String) : String :=
  " ... ".intercalate ((pageWindows py pageText).map fun window =>
    String.ofList (window.slice pageText.toList))

/-- `_window_page_text` -/
def windowPageText (pageText : String) (maxBytes : ℕ) : String :=
  if (pageMatches py pageText).isEmpty then cutBytes pageText maxBytes
  else cutBytes (windowedText py pageText) maxBytes

/-- A JSON object of texts, in the order of its keys. -/
abbrev SourceData := List (String × Option String)

/-- The object in the body of the request, as `httpx` writes it. -/
def SourceData.dumps (data : SourceData) : List Char :=
  JsonText.object (data.map fun field => (field.1.toList, field.2.map String.toList))

/-- How many bytes are sent of it. -/
def SourceData.sentBytes (data : SourceData) : ℕ := (Urlencoded.utf8 data.dumps).length

/-- The `source_data` of `try_ai_extraction`. -/
def extractionSourceData (rawTitle rawExcerpt : Option String) : SourceData :=
  let excerpt := rawExcerpt.getD ""
  let excerpt :=
    if aiRouterSourceDataMaxBytes < byteLength excerpt then
      cutBytes excerpt aiRouterSourceDataMaxBytes
    else excerpt
  [("raw_title", rawTitle), ("raw_excerpt", some excerpt)]

/-- The `source_data` of `try_ai_page_extraction`. -/
def pageSourceData (rawTitle : Option String) (pageText : String) : SourceData :=
  [("raw_title", rawTitle),
    ("page_text", some (windowPageText py pageText aiRouterPageDataMaxBytes))]

/-! ## Cutting -/

variable {py} {text pageText : String} {maxBytes : ℕ}

lemma toList_cutBytes : (cutBytes text maxBytes).toList = Utf8.fitting maxBytes text.toList := by
  rw [cutBytes, String.toList_ofList, Utf8.decodeIgnoring_take]

lemma byteLength_cutBytes_le : byteLength (cutBytes text maxBytes) ≤ maxBytes := by
  rw [byteLength, toList_cutBytes]
  exact Utf8.length_utf8_fitting

lemma cutBytes_prefix : (cutBytes text maxBytes).toList <+: text.toList := by
  rw [toList_cutBytes]
  exact Utf8.fitting_prefix

lemma cutBytes_of_le (h : byteLength text ≤ maxBytes) : cutBytes text maxBytes = text := by
  rw [← String.toList_inj, toList_cutBytes]
  exact Utf8.fitting_of_length_le h

/-! ## Windows -/

lemma mem_pageMatches {found : Span} : found ∈ pageMatches py pageText ↔
    ∃ pattern ∈ pagePatterns py, found ∈ pattern.spans pageText.toList := by
  rw [pageMatches, List.mem_insertionSort, List.mem_flatMap]

lemma pageMatches_inside {found : Span} (h : found ∈ pageMatches py pageText) :
    found.1 ≤ found.2 ∧ found.2 ≤ pageText.length := by
  obtain ⟨pattern, -, hfound⟩ := mem_pageMatches.mp h
  rw [← String.length_toList]
  exact Pattern.spans_inside hfound

/-- A page with a match is not empty. -/
lemma length_pos_of_mem_pageMatches {found : Span} (h : found ∈ pageMatches py pageText) :
    0 < pageText.length := by
  obtain ⟨pattern, -, hfound⟩ := mem_pageMatches.mp h
  rw [← String.length_toList, List.length_pos_iff]
  intro hnil
  rw [hnil] at hfound
  exact absurd hfound (by simp [Pattern.spans, Pattern.spansFrom])

lemma inside_windowAround {length : ℕ} {found : Span} (h : found.2 ≤ length) :
    found.Inside (windowAround length found) :=
  ⟨Nat.sub_le _ _, le_min h (Nat.le_add_right _ _)⟩

/-- The windows of a page cover the surroundings of its matches. -/
lemma covers_pageWindows : Covers (pageWindows py pageText)
    ((pageMatches py pageText).map (windowAround pageText.length)) := by
  refine covers_mergeSpans ?_ ?_
  · intro span hspan
    obtain ⟨found, hfound, rfl⟩ := List.mem_map.mp hspan
    have hinside := pageMatches_inside hfound
    have hlength := length_pos_of_mem_pageMatches hfound
    rw [windowAround, lt_min_iff, windowContextChars]
    dsimp only
    omega
  · have hsorted : (pageMatches py pageText).Pairwise fun a b => toLex a ≤ toLex b :=
      List.pairwise_insertionSort _ _
    rw [List.pairwise_map]
    refine hsorted.imp fun {a b} hle => Nat.sub_le_sub_right ?_ _
    rcases Prod.Lex.toLex_le_toLex.mp hle with hlt | heq
    · exact hlt.le
    · exact heq.1.le

lemma stops_pageWindows : ∀ span ∈ (pageMatches py pageText).map (windowAround pageText.length),
    span.2 ≤ pageText.length := by
  intro span hspan
  obtain ⟨found, -, rfl⟩ := List.mem_map.mp hspan
  exact min_le_left _ _

end ScholarshipFinder
