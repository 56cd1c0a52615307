import ScholarshipFinder.Python

/-!
# Mapping harvested items (`domain/parsebot_harvest.py`, `domain/tavily_harvest.py`)

Each interface that is harvested has its own mapper.  All of them first read a title and an address,
and map nothing if either is missing.
-/

namespace ScholarshipFinder

/-- What a harvest calls of the runtime. -/
structure HarvestPy extends Py where
  /-- `datetime.fromtimestamp(value, tz=UTC)`, of a number -/
  fromtimestamp : Json → Except PyErr Instant
  /-- `str(HttpUrl(url))` -/
  httpUrl : String → Except PyErr String

structure HarvestedRecord where
  title : String
  url : String
  excerpt : Option String
  feedCreatedAt : Option Instant
deriving DecidableEq, Repr

/-- `raw.get(key)`, where a missing key answers `None` -/
def Json.field (raw : Json) (key : String) : Except PyErr Json :=
  return (← raw.get key).getD .null

variable (py : HarvestPy)

/-- `(value or "").strip()` -/
def strippedText (value : Json) : Except PyErr String :=
  if value.truthy then
    match value with
    | .str s => .ok (py.strip s)
    | _ => .error ⟨.attributeError, "object has no attribute 'strip'"⟩
  else .ok (py.strip "")

/-- `" | ".join(str(part) for part in parts if part) or None` -/
def joinedParts (parts : List Json) : Option String :=
  let text := " | ".intercalate ((parts.filter Json.truthy).map py.strOf)
  if text = "" then none else some text

/-- `", ".join(countries)` -/
def joinedCountries (countries : List Json) : Except PyErr String := do
  let names ← countries.mapM fun country =>
    match country with
    | .str s => .ok s
    | _ => .error ⟨.typeError, "sequence item: expected str instance"⟩
  return ", ".intercalate names

/-- What the mappers have in common; `rest` reads the excerpt and the time of the discovery. -/
def itemToRecord (titleKey urlKey : String)
    (rest : Json → Except PyErr (Option String × Option Instant)) (raw : Json) :
    Except PyErr (Option HarvestedRecord) := do
  let title ← strippedText py (← raw.field titleKey)
  let url ← strippedText py (← raw.field urlKey)
  if title = "" ∨ url = "" then return none
  let (excerpt, feedCreatedAt) ← rest raw
  return some { title, url, excerpt, feedCreatedAt }

/-- An excerpt of some fields, and the time of the harvest. -/
def fieldsExcerpt (keys : List String) (harvestedAt : Instant) (raw : Json) :
    Except PyErr (Option String × Option Instant) := do
  let parts ← keys.mapM raw.field
  return (joinedParts py parts, some harvestedAt)

/-- The excerpt of ScholarshipPortal. -/
def scholarshipExcerpt (harvestedAt : Instant) (raw : Json) :
    Except PyErr (Option String × Option Instant) := do
  let provider :=
    match ← raw.field "provider" with
    | .obj items => (items.lookup "name").getD .null
    | _ => .null
  let parts := [provider, ← raw.field "benefits", ← raw.field "deadline"]
  return (joinedParts py parts, some harvestedAt)

def scholarshipToRecord (raw : Json) (harvestedAt : Instant) :
    Except PyErr (Option HarvestedRecord) :=
  itemToRecord py "title" "url" (scholarshipExcerpt py harvestedAt) raw

/-- The time that PhDScanner gives; a truth value is an `int` too. -/
def createdTime (harvestedAt : Instant) (createdAt : Json) : Except PyErr Instant :=
  match createdAt with
  | .int _ | .float _ | .bool _ => py.fromtimestamp createdAt
  | _ => .ok harvestedAt

/-- The excerpt of PhDScanner. -/
def opportunityExcerpt (harvestedAt : Instant) (raw : Json) :
    Except PyErr (Option String × Option Instant) := do
  let (excerpt, _) ← fieldsExcerpt py ["university", "department", "category"] harvestedAt raw
  let feedCreatedAt ← createdTime py harvestedAt (← raw.field "created_at")
  return (excerpt, some feedCreatedAt)

def opportunityToRecord (raw : Json) (harvestedAt : Instant) :
    Except PyErr (Option HarvestedRecord) :=
  itemToRecord py "title" "opportunity_url" (opportunityExcerpt py harvestedAt) raw

/-- The excerpt of Mastersportal. -/
def mastersportalExcerpt (harvestedAt : Instant) (raw : Json) :
    Except PyErr (Option String × Option Instant) := do
  let amount ← raw.field "grant_amount"
  let currency ← raw.field "grant_currency"
  let amountText := if amount.truthy then
    .str (py.strip (py.strOf amount ++ " " ++ py.strOf currency)) else .null
  let grantDescription ← raw.field "grant_description"
  let description ← raw.field "description"
  let parts := [← raw.field "provider_name",
    if grantDescription.truthy then grantDescription else description,
    ← raw.field "deadline", amountText]
  return (joinedParts py parts, some harvestedAt)

def mastersportalToRecord (raw : Json) (harvestedAt : Instant) :
    Except PyErr (Option HarvestedRecord) :=
  itemToRecord py "title" "url" (mastersportalExcerpt py harvestedAt) raw

/-- `", ".join(countries) if isinstance(countries, list) and countries else None` -/
def countriesText (countries : Json) : Except PyErr Json :=
  match countries with
  | .arr (first :: others) => (joinedCountries (first :: others)).map .str
  | _ => .ok .null

/-- The excerpt of Opportunity Desk. -/
def opportunitydeskExcerpt (harvestedAt : Instant) (raw : Json) :
    Except PyErr (Option String × Option Instant) := do
  let countries ← countriesText (← raw.field "eligible_countries")
  let parts := [← raw.field "grant_amount", ← raw.field "deadline", countries]
  return (joinedParts py parts, some harvestedAt)

def opportunitydeskToRecord (raw : Json) (harvestedAt : Instant) :
    Except PyErr (Option HarvestedRecord) :=
  itemToRecord py "title" "application_url" (opportunitydeskExcerpt py harvestedAt) raw

def fastwebToRecord (raw : Json) (harvestedAt : Instant) : Except PyErr (Option HarvestedRecord) :=
  itemToRecord py "title" "detail_url"
    (fieldsExcerpt py ["provider", "award", "deadline"] harvestedAt) raw

def careeronestopToRecord (raw : Json) (harvestedAt : Instant) :
    Except PyErr (Option HarvestedRecord) :=
  itemToRecord py "name" "url"
    (fieldsExcerpt py ["organization", "purpose", "award_amount", "deadline"] harvestedAt) raw

/-- The excerpt of Tavily. -/
def tavilyExcerpt (harvestedAt : Instant) (raw : Json) :
    Except PyErr (Option String × Option Instant) := do
  let excerpt ← strippedText py (← raw.field "content")
  return (if excerpt = "" then none else some excerpt, some harvestedAt)

def tavilyResultToRecord (raw : Json) (harvestedAt : Instant) :
    Except PyErr (Option HarvestedRecord) :=
  itemToRecord py "title" "url" (tavilyExcerpt py harvestedAt) raw

/-- The interfaces that are harvested. -/
inductive HarvestApi
  | scholarshipportal
  | phdscanner
  | mastersportal
  | opportunitydesk
  | fastweb
  | careeronestop
  | tavily
deriving DecidableEq, Repr

/-- `to_record` -/
def HarvestApi.toRecord : HarvestApi → Json → Instant → Except PyErr (Option HarvestedRecord)
  | scholarshipportal => scholarshipToRecord py
  | phdscanner => opportunityToRecord py
  | mastersportal => mastersportalToRecord py
  | opportunitydesk => opportunitydeskToRecord py
  | fastweb => fastwebToRecord py
  | careeronestop => careeronestopToRecord py
  | tavily => tavilyResultToRecord py

end ScholarshipFinder
