import ScholarshipFinder.Domain.Facts

/-!
# The constraints of the `facts` column (`migrations/versions/0020_facts_contract_constraints.py`)

What the database admits as the facts of a cycle, whoever writes it.  A key that is absent is
`NULL` to both `->` and `->>`; a JSON null is `NULL` only to `->>`.
-/

namespace ScholarshipFinder

/-- `_ARRAY_FIELDS` -/
def arrayFields : List String := ["destinations", "levels", "field_names"]

/-- `facts->key IS NULL OR jsonb_typeof(facts->key) = 'array'` -/
def arrayOrAbsent : Option Json → Bool
  | none => true
  | some (.arr _) => true
  | _ => false

/-- `facts->>key IS NULL OR facts->>key IN literals` -/
def nullOrIn (literals : List String) : Option Json → Bool
  | none => true
  | some .null => true
  | some (.str s) => s ∈ literals
  | _ => false

/-- An integral number from 1 to 12; jsonb keeps the decimals of `5.0`. -/
def monthOrAbsent : Option Json → Bool
  | none => true
  | some (.int n) => 1 ≤ n ∧ n ≤ 12
  | some (.float text) => text ∈ (List.range 12).map fun n => toString (n + 1) ++ ".0"
  | _ => false

/-- `facts->>key IS NULL OR jsonb_typeof(facts->key) = 'string'` -/
def nullOrString : Option Json → Bool
  | none => true
  | some .null => true
  | some (.str _) => true
  | _ => false

/-- The check constraints on `facts`. -/
def factsColumnAdmits : Json → Bool
  | .obj items =>
    arrayFields.all (fun key => arrayOrAbsent (items.lookup key)) &&
      nullOrIn ["date", "datetime"] (items.lookup "deadline_precision") &&
      nullOrIn ["fully_funded", "partial_funding", "tuition_only", "stipend_only"]
        (items.lookup "funding_type") &&
      monthOrAbsent (items.lookup "expected_reopen_month") &&
      nullOrString (items.lookup "eligibility_note")
  | _ => false

end ScholarshipFinder
