import ScholarshipFinder.Domain.FactMatching

/-!
# Extracting facts from text (`domain/extraction.py`)

What a reviewer would otherwise have to read prose to find.  Every mention is a literal part of
the text.
-/

namespace ScholarshipFinder

open Lib

def extractionVersion : String := "extract-v1"

/-- What `extract_candidate_facts` found in a text. -/
structure ExtractedFacts where
  version : String
  needsHumanReview : Bool
  fundingMentions : List String
  deadlineMentions : List String
  levelMentions : List String
  eligibilityPhrase : Option String
deriving DecidableEq, Repr

def currencyCodes : List String := ["GBP", "USD", "EUR", "CAD", "AUD", "NZD", "CHF", "JPY", "CNY",
  "INR", "ZAR", "SEK", "NOK", "DKK", "SGD", "HKD", "NGN", "KES", "GHS", "TRY", "BRL", "MXN", "PLN",
  "CZK", "HUF", "RON", "AED", "SAR"]

/-- The months, as the part that is always written and the part that may be left out. -/
def monthParts : List (String × String) := [("Jan", "uary"), ("Feb", "ruary"), ("Mar", "ch"),
  ("Apr", "il"), ("May", ""), ("Jun", "e"), ("Jul", "y"), ("Aug", "ust"), ("Sep", "tember"),
  ("Oct", "ober"), ("Nov", "ember"), ("Dec", "ember")]

def levelKeywords : List (String × List String) := [
  ("bachelors", ["bachelor's", "bachelors", "undergraduate", "bsc"]),
  ("doctorate", ["phd", "doctoral", "doctorate"]),
  ("masters", ["master's", "masters", "msc", "ma ", "mba"])]

def eligibilityPhrases : List String := ["all countries", "all nationalities",
  "international students", "citizens of", "residents of", "open to"]

/-- One pattern after the other. -/
def sequence : List Pattern → Pattern
  | [] => .empty
  | [a] => a
  | a :: as => .seq a (sequence as)

/-- `part in text` -/
def occursIn (part text : String) : Bool := text.toList.tails.any part.toList.isPrefixOf

variable (py : PyText)

/-- `\b` -/
def wordBoundary : Pattern := .boundary py.isword

/-- `CURRENCY_AMOUNT_PATTERN` -/
def currencyAmountPattern : Pattern :=
  let space := Pattern.opt (.char py.isspace)
  let amount := sequence [.char py.isdigit, .many fun c => py.isdigit c || c = ',',
    .opt (.seq (.char (· = '.')) (.many1 py.isdigit))]
  let code := Pattern.oneOf (currencyCodes.map fun code => .text (· = ·) code.toList)
  .oneOf [
    sequence [.char (charIn "£$€"), space, amount],
    sequence [wordBoundary py, code, space, amount],
    sequence [wordBoundary py, amount, space, code, wordBoundary py]]

/-- `_MONTHS`, in any case -/
def monthPattern : Pattern :=
  .oneOf (monthParts.map fun (head, tail) =>
    .seq (.text py.ignoreCase head.toList) (.opt (.text py.ignoreCase tail.toList)))

/-- `MONTH_NAME_DATE_PATTERN` -/
def monthNameDatePattern : Pattern :=
  let digit := Pattern.char py.isdigit
  let day := sequence [digit, .opt digit, .opt (ordinalSuffix py)]
  let year := Pattern.times py.isdigit 4
  let comma := Pattern.opt (.char (· = ','))
  let dash := Pattern.char (· = '-')
  let spaces := Pattern.many1 py.isspace
  sequence [wordBoundary py,
    .oneOf [
      sequence [monthPattern py, spaces, day, comma, spaces, year],
      sequence [day, spaces, monthPattern py, comma, spaces, year],
      sequence [year, dash, .times py.isdigit 2, dash, .times py.isdigit 2]],
    wordBoundary py]

/-- The parts of a text that a pattern matches. -/
def mentions (pattern : Pattern) (text : String) : List String :=
  (pattern.findAll text.toList).map String.ofList

/-- `" ".join(part for part in parts if part)` -/
def joinParts (parts : List (Option String)) : String :=
  " ".intercalate (parts.filterMap fun part => part.filter (· ≠ ""))

/-- Every field is a literal part of the text, or none. -/
def extractCandidateFacts (rawTitle rawExcerpt : Option String) : ExtractedFacts :=
  let text := joinParts [rawTitle, rawExcerpt]
  let lowered := py.lower text
  { version := extractionVersion
    needsHumanReview := true
    fundingMentions := mentions (currencyAmountPattern py) text
    deadlineMentions := mentions (monthNameDatePattern py) text
    -- the table lists the levels as `sorted` orders them
    levelMentions := (levelKeywords.filter fun (_, keywords) =>
      keywords.any (occursIn · lowered)).map Prod.fst
    eligibilityPhrase := eligibilityPhrases.find? (occursIn · lowered) }

/-- A mention stands in the text. -/
theorem mem_mentions_infix {pattern : Pattern} {text mention : String}
    (h : mention ∈ mentions pattern text) : mention.toList <:+: text.toList := by
  obtain ⟨found, hfound, rfl⟩ := List.mem_map.mp h
  rw [String.toList_ofList]
  exact Pattern.findAll_infix hfound

end ScholarshipFinder
