import ScholarshipFinder.Domain.FactMatching

/-!
# What reading a fact raises (`domain/fact_matching.py`)

`parse_amount` and `parse_deadline` with the exceptions that `Decimal` and `strptime` raise, and the
clauses that catch them.
-/

namespace ScholarshipFinder

open Lib

/-- The exceptions of the standard library, on a text that is not what it reads. -/
inductive ReadError
  /-- `decimal.InvalidOperation` -/
  | invalidOperation
  | valueError
deriving DecidableEq, Repr

variable (py : PyText)

/-- `Decimal(digits.replace(",", ""))` -/
def decimalRaising (whole fraction : List Char) : Except ReadError ℚ :=
  let digits := (whole ++ fraction).filter py.isdigit
  if digits = [] then .error .invalidOperation
  else .ok (py.number digits / 10 ^ (fraction.filter py.isdigit).length)

/-- `parse_amount` -/
def parseAmountRaising (raw : String) : Except ReadError (Option (String × ℚ)) :=
  match ((amountForms py).findSome? fun form =>
      Pattern.fullGroups form (py.strip raw).toList).bind amountGroups with
  | none => .ok none
  | some (currency, whole, fraction) =>
    let currency := String.ofList currency
    match decimalRaising py whole fraction with
    | .ok value => .ok (some ((currencyAliases.lookup currency).getD currency, value))
    | .error .invalidOperation => .ok none
    | .error e => .error e

/-- `datetime.strptime(text, format).date()` -/
def strptimeRaising (format : List Directive) (text : List Char) : Except ReadError Date :=
  match (Pattern.groups (format.map (·.pattern py)) ⟨[], text⟩).head? with
  -- the text does not match the format
  | none => .error .valueError
  | some (groups, last) =>
    -- unconverted data remains
    if last.after ≠ [] then .error .valueError
    else
      match (format.zip groups).foldlM (fun parts (directive, text) =>
        directive.read py parts text) ({} : DateParts) with
      -- the month is not in the list
      | none => .error .valueError
      | some parts =>
        match dateOf parts.year parts.month parts.day with
        -- the day is out of range for the month
        | none => .error .valueError
        | some date => .ok date

/-- The loop over the formats. -/
def firstFormat (text : List Char) : List (List Directive) → Except ReadError (Option Date)
  | [] => .ok none
  | format :: formats =>
    match strptimeRaising py format text with
    | .ok date => .ok (some date)
    | .error .valueError => firstFormat text formats
    | .error e => .error e

/-- `parse_deadline` -/
def parseDeadlineRaising (raw : String) : Except ReadError (Option Date) :=
  firstFormat py (cleanedDeadline py raw) deadlineFormats

variable {py}

lemma decimalRaising_eq (whole fraction : List Char) : decimalRaising py whole fraction =
    (decimalOf py whole fraction).elim (.error .invalidOperation) .ok := by
  by_cases h : (whole ++ fraction).filter py.isdigit = []
  · simp only [decimalRaising, decimalOf, if_pos h, Option.elim_none]
  · simp only [decimalRaising, decimalOf, if_neg h, Option.elim_some]

lemma strptimeRaising_eq (format : List Directive) (text : List Char) :
    strptimeRaising py format text = (strptime py format text).elim (.error .valueError) .ok := by
  rw [strptimeRaising, strptime]
  cases (Pattern.groups (format.map (·.pattern py)) ⟨[], text⟩).head? with
  | none => rfl
  | some found =>
    obtain ⟨groups, last⟩ := found
    by_cases hlast : last.after ≠ []
    · simp [hlast]
    · simp only [Option.bind_eq_bind, Option.bind_some, if_neg hlast]
      cases (format.zip groups).foldlM (fun parts (directive, text) =>
          directive.read py parts text) ({} : DateParts) with
      | none => rfl
      | some parts =>
        simp only [Option.bind_some]
        cases dateOf parts.year parts.month parts.day <;> rfl

/-- `parse_amount` raises nothing. -/
theorem parseAmountRaising_eq (raw : String) :
    parseAmountRaising py raw = .ok (parseAmount py raw) := by
  rw [parseAmountRaising, parseAmount]
  cases hfound : (amountForms py).findSome? fun form =>
      Pattern.fullGroups form (py.strip raw).toList with
  | none => rfl
  | some found =>
    simp only [Option.bind_some, Option.bind_eq_bind]
    cases amountGroups found with
    | none => rfl
    | some groups =>
      obtain ⟨currency, whole, fraction⟩ := groups
      simp only [decimalRaising_eq, Option.bind_some]
      cases decimalOf py whole fraction <;> rfl

/-- `parse_deadline` raises nothing. -/
theorem parseDeadlineRaising_eq (raw : String) :
    parseDeadlineRaising py raw = .ok (parseDeadline py raw) := by
  rw [parseDeadlineRaising, parseDeadline]
  induction deadlineFormats with
  | nil => rfl
  | cons format formats ih =>
    rw [firstFormat, strptimeRaising_eq, List.findSome?_cons]
    cases strptime py format (cleanedDeadline py raw) with
    | none => exact ih
    | some date => rfl

end ScholarshipFinder
