import ScholarshipFinder.Calendar
import ScholarshipFinder.Lib.Pattern

/-!
# Comparing raw facts (`domain/fact_matching.py`)

An amount or a deadline is read from the text that states it, and two of them agree only if both
can be read and are the same value.  `strptime` is the one of the standard library, in the `C`
locale.
-/

namespace ScholarshipFinder

open Lib

/-- Python, with the Unicode tables that patterns and numbers read. -/
structure PyText extends Py where
  /-- `str.isalnum`, of one character -/
  isalnum : Char → Bool
  /-- `str.isspace`, of one character -/
  isspace : Char → Bool
  /-- `unicodedata.decimal` -/
  decimal : Char → Option ℕ
  /-- whether `re.IGNORECASE` matches the first character with the second -/
  ignoreCase : Char → Char → Bool

namespace PyText

variable (py : PyText)

/-- `\d` -/
def isdigit (c : Char) : Bool := (py.decimal c).isSome

/-- `\w` -/
def isword (c : Char) : Bool := py.isalnum c || c = '_'

/-- `int(digits)`, of decimal digits -/
def number (digits : List Char) : ℕ := Nat.ofDigits 10 (digits.filterMap py.decimal).reverse

/-- `[\d,]+(?:\.\d+)?` -/
def figure : List Pattern :=
  [.many1 fun c => py.isdigit c || c = ',',
    .opt (.seq (.char (· = '.')) (.many1 py.isdigit))]

end PyText

/-- One of the characters of a text. -/
def charIn (s : String) (c : Char) : Bool := c ∈ s.toList

/-- `[A-Z]` -/
def isAsciiUpper (c : Char) : Bool := 'A' ≤ c ∧ c ≤ 'Z'

/-- `[A-Za-z]` -/
def isAsciiLetter (c : Char) : Bool := ('A' ≤ c && c ≤ 'Z') || ('a' ≤ c && c ≤ 'z')

variable (py : PyText)

/-! ## Amounts -/

/-- ISO codes normalised onto their symbol. -/
def currencyAliases : List (String × String) :=
  [("GBP", "£"), ("USD", "$"), ("EUR", "€")]

/-- The three forms of `_AMOUNT_PATTERN`, each with its groups. -/
def amountForms : List (List Pattern) :=
  let space := Pattern.opt (.char py.isspace)
  let code := Pattern.times isAsciiUpper 3
  [[.char (charIn "£$€"), space] ++ py.figure,
    [code, space] ++ py.figure,
    py.figure ++ [space, code]]

/-- The currency, the whole part and the fraction among the groups of a form. -/
def amountGroups : List (List Char) → Option (List Char × List Char × List Char)
  | [first, second, third, fourth] =>
    -- the currency is the last group of the third form only
    if first.any fun c => isAsciiUpper c || charIn "£$€" c then some (first, third, fourth)
    else some (fourth, first, second)
  | _ => none

/-- `Decimal(digits.replace(",", ""))`, if there is a digit. -/
def decimalOf (whole fraction : List Char) : Option ℚ :=
  let digits := (whole ++ fraction).filter py.isdigit
  if digits = [] then none
  else some (py.number digits / 10 ^ (fraction.filter py.isdigit).length)

/-- `"£13,000"` or `"EUR 992"` as currency and value. -/
def parseAmount (raw : String) : Option (String × ℚ) := do
  let found ← (amountForms py).findSome? fun form => Pattern.fullGroups form (py.strip raw).toList
  let (currency, whole, fraction) ← amountGroups found
  let value ← decimalOf py whole fraction
  let currency := String.ofList currency
  return ((currencyAliases.lookup currency).getD currency, value)

/-- `None` when either side cannot be read, which is not disagreement. -/
def amountsMatch (a b : String) : Option Bool := do
  let parsedA ← parseAmount py a
  let parsedB ← parseAmount py b
  return parsedA = parsedB

/-! ## Deadlines -/

/-- A calendar date, by the days since 0001-01-01. -/
abbrev Date := ℕ

def monthNames : List String := ["january", "february", "march", "april", "may", "june", "july",
  "august", "september", "october", "november", "december"]

def monthAbbreviations : List String := ["jan", "feb", "mar", "apr", "may", "jun", "jul", "aug",
  "sep", "oct", "nov", "dec"]

def isLeap (year : ℕ) : Bool := year % 4 = 0 ∧ (year % 100 ≠ 0 ∨ year % 400 = 0)

def daysInMonth (year month : ℕ) : ℕ :=
  if month = 2 then if isLeap year then 29 else 28
  else if month ∈ [4, 6, 9, 11] then 30 else 31

/-- `date(year, month, day)` -/
def dateOf (year month day : ℕ) : Option Date :=
  if 1 ≤ year ∧ year ≤ 9999 ∧ 1 ≤ month ∧ month ≤ 12 ∧ 1 ≤ day ∧ day ≤ daysInMonth year month then
    some ((daysBeforeYear year).toNat + daysBeforeMonth.getD (month - 1) 0 +
      (if 2 < month ∧ isLeap year then 1 else 0) + (day - 1))
  else none

/-- The directives of the accepted formats. -/
inductive Directive
  /-- `%B` -/
  | monthName
  /-- `%b` -/
  | monthAbbreviation
  /-- `%m` -/
  | month
  /-- `%d` -/
  | day
  /-- `%Y` -/
  | year
  | space
  | literal (c : Char)
deriving DecidableEq, Repr

/-- The pattern that `_strptime` compiles for a directive. -/
def Directive.pattern : Directive → Pattern
  | monthName => .oneOf (monthNames.map fun name => .text py.ignoreCase name.toList)
  | monthAbbreviation =>
    .oneOf (monthAbbreviations.map fun name => .text py.ignoreCase name.toList)
  | month =>
    .oneOf [.seq (.char (· = '1')) (.char (charIn "012")),
      .seq (.char (· = '0')) (.char (charIn "123456789")), .char (charIn "123456789")]
  | day =>
    .oneOf [.seq (.char (· = '3')) (.char (charIn "01")),
      .seq (.char (charIn "12")) (.char py.isdigit),
      .seq (.char (· = '0')) (.char (charIn "123456789")), .char (charIn "123456789"),
      .seq (.char (· = ' ')) (.char (charIn "123456789"))]
  | year => .times py.isdigit 4
  | space => .many1 py.isspace
  | literal c => .char (py.ignoreCase c)

/-- The year, month and day read so far. -/
structure DateParts where
  year : ℕ := 1900
  month : ℕ := 1
  day : ℕ := 1

/-- What the text of a directive says; a month that is in no list is a `ValueError`. -/
def Directive.read (parts : DateParts) (text : List Char) : Directive → Option DateParts
  | monthName => do
    let index ← monthNames.idxOf? (py.lower (String.ofList text))
    return { parts with month := index + 1 }
  | monthAbbreviation => do
    let index ← monthAbbreviations.idxOf? (py.lower (String.ofList text))
    return { parts with month := index + 1 }
  | month => some { parts with month := py.number text }
  | day => some { parts with day := py.number text }
  | year => some { parts with year := py.number text }
  | space => some parts
  | literal _ => some parts

/-- `datetime.strptime(text, format).date()`: the first match has to be the whole text. -/
def strptime (format : List Directive) (text : List Char) : Option Date := do
  let (groups, last) ← (Pattern.groups (format.map (·.pattern py)) ⟨[], text⟩).head?
  if last.after ≠ [] then none
  let parts ← (format.zip groups).foldlM (fun parts (directive, text) =>
    directive.read py parts text) ({} : DateParts)
  dateOf parts.year parts.month parts.day

/-- Both orders, abbreviated month names, and numbers only. -/
def deadlineFormats : List (List Directive) :=
  [[.monthName, .space, .day, .space, .year],
    [.day, .space, .monthName, .space, .year],
    [.monthAbbreviation, .space, .day, .space, .year],
    [.day, .space, .monthAbbreviation, .space, .year],
    [.year, .literal '-', .month, .literal '-', .day],
    [.day, .literal '/', .month, .literal '/', .year]]

/-- `(?:st|nd|rd|th)`, in any case -/
def ordinalSuffix : Pattern :=
  .oneOf (["st", "nd", "rd", "th"].map fun suffix => .text py.ignoreCase suffix.toList)

/-- `_ORDINAL_SUFFIX.sub(r"\1", raw.strip()).replace(",", "")` -/
def cleanedDeadline (raw : String) : List Char :=
  (Pattern.replaceAll (.seq (.many1 py.isdigit) (ordinalSuffix py)) (·.dropLast.dropLast)
    (py.strip raw).toList).filter (· ≠ ',')

/-- `"March 15, 2026"` or `"March 15th 2026"` as a date. -/
def parseDeadline (raw : String) : Option Date :=
  deadlineFormats.findSome? fun format => strptime py format (cleanedDeadline py raw)

/-- `None` when either side cannot be read. -/
def deadlinesMatch (a b : String) : Option Bool := do
  let parsedA ← parseDeadline py a
  let parsedB ← parseDeadline py b
  return parsedA = parsedB

end ScholarshipFinder
