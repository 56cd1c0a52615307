import Mathlib

/-!
# The Python values the service computes with

Exceptions, JSON values, and the `datetime` arithmetic of the standard library, as far as
the service uses them.  Instants and durations are counted in microseconds, the resolution
of `datetime`; an instant is counted from 0001-01-01T00:00 UTC, the first one a `datetime`
in UTC can hold.

What comes from outside the repository and that no result depends on (the tz database, the
string methods that need Unicode tables, `urllib.parse`, SHA-256) is a field of the record
`Py`, over which the whole development is parametric.
-/

namespace ScholarshipFinder

/-! ## Exceptions -/

/-- The exception classes that the service raises or tells apart in an `except` clause. -/
inductive ExcClass
  | valueError
  | typeError
  | attributeError
  | lookupError
  | overflowError
  | osError
  | zoneInfoNotFoundError
  | httpError
  | integrityError
  | other
deriving DecidableEq, Repr

/-- A raised exception. -/
structure PyErr where
  cls : ExcClass
  msg : String
deriving DecidableEq, Repr

/-- `raise ValueError(msg)` -/
def valueError {α : Type*} (msg : String) : Except PyErr α := .error ⟨.valueError, msg⟩

/-- `raise TypeError(msg)` -/
def typeError {α : Type*} (msg : String) : Except PyErr α := .error ⟨.typeError, msg⟩

/-- `raise LookupError(msg)` -/
def lookupError {α : Type*} (msg : String) : Except PyErr α := .error ⟨.lookupError, msg⟩

/-- `raise OverflowError(msg)` -/
def overflowError {α : Type*} (msg : String) : Except PyErr α := .error ⟨.overflowError, msg⟩

/-- A computation that does not raise has run both of its parts. -/
lemma exceptBind_ok {ε α β : Type} {x : Except ε α} {f : α → Except ε β} {b : β}
    (h : (x >>= f) = .ok b) : ∃ a, x = .ok a ∧ f a = .ok b := by
  cases x with
  | error e => cases h
  | ok a => exact ⟨a, rfl, h⟩

/-! ## Instants and durations -/

/-- An aware `datetime`, as microseconds since 0001-01-01T00:00 UTC. -/
abbrev Instant := ℤ

/-- A `timedelta`, in microseconds. -/
abbrev Timedelta := ℤ

def second : Timedelta := 1000000
def minute : Timedelta := 60 * second
def hour : Timedelta := 60 * minute
def day : Timedelta := 24 * hour

/-- `9999-12-31` has the ordinal 3652059: the microseconds a `datetime` can hold. -/
def maxMicros : ℤ := 3652059 * day

/-- `timedelta(hours=n)` or `timedelta(days=n)`, by the length of the unit. -/
def timedelta (unit : Timedelta) (n : ℤ) : Except PyErr Timedelta :=
  if (n * unit / day).natAbs ≤ 999999999 then .ok (n * unit)
  else overflowError "days must have magnitude <= 999999999"

/-- `datetime + timedelta`, on a `datetime` in UTC. -/
def addTimedelta (t : Instant) (d : Timedelta) : Except PyErr Instant :=
  if 0 ≤ t + d ∧ t + d < maxMicros then .ok (t + d) else overflowError "date value out of range"

/-- A `datetime`: the wall-clock reading in microseconds since 0001-01-01T00:00, and the
UTC offset if it carries one. -/
structure DateTime where
  wall : ℤ
  offset : Option Timedelta
deriving DecidableEq, Repr

/-- The wall-clock reading of the last second of the calendar date of `d`:
`datetime.combine(d.date(), time(23, 59, 59))`. -/
def DateTime.endOfDay (d : DateTime) : ℤ := d.wall / day * day + (day - second)

/-- A time zone: its UTC offset at a wall-clock reading (`fold` is 0 throughout). -/
abbrev Zone := ℤ → Timedelta

/-- `datetime.timezone(offset)` -/
def Zone.fixed (offset : Timedelta) : Zone := fun _ => offset

/-- `astimezone(UTC)` of a wall-clock reading in a zone. -/
def Zone.toUtc (z : Zone) (wall : ℤ) : Except PyErr Instant :=
  if 0 ≤ wall - z wall ∧ wall - z wall < maxMicros then .ok (wall - z wall)
  else overflowError "date value out of range"

/-- Days before each month of a common year, January first. -/
def daysBeforeMonth : List ℕ := [0, 31, 59, 90, 120, 151, 181, 212, 243, 273, 304, 334]

/-- `_ord2ymd`: the year, month and day of the `n`-th day from 0001-01-01 (the 0th). -/
def ord2ymd (n : ℕ) : ℕ × ℕ × ℕ :=
  let n400 := n / 146097
  let n := n % 146097
  let n100 := n / 36524
  let n := n % 36524
  let n4 := n / 1461
  let n := n % 1461
  let n1 := n / 365
  let n := n % 365
  let year := n400 * 400 + 1 + n100 * 100 + n4 * 4 + n1
  if n1 = 4 ∨ n100 = 4 then (year - 1, 12, 31)
  else
    let leap := n1 = 3 ∧ (n4 ≠ 24 ∨ n100 = 3)
    let before := fun m : ℕ => daysBeforeMonth.getD (m - 1) 0 + if 2 < m ∧ leap then 1 else 0
    let month := (n + 50) / 32
    let month := if n < before month then month - 1 else month
    (year, month, n - before month + 1)

/-- The year and month of an instant, in UTC. -/
def yearMonth (t : Instant) : ℕ × ℕ :=
  ((ord2ymd (t / day).toNat).1, (ord2ymd (t / day).toNat).2.1)

example : ord2ymd 738854 = (2023, 12, 1) ∧ ord2ymd 738944 = (2024, 2, 29) := by decide

/-! ## JSON -/

/-- A JSON value as `json.loads` gives it; a float is kept by its `repr`. -/
inductive Json
  | null
  | bool (b : Bool)
  | int (n : ℤ)
  | float (repr : String)
  | str (s : String)
  | arr (items : List Json)
  | obj (items : List (String × Json))
deriving Inhabited

namespace Json

/-- `bool(value)` -/
def truthy : Json → Bool
  | null => false
  | bool b => b
  | int n => n ≠ 0
  | float r => r ≠ "0.0" ∧ r ≠ "-0.0"
  | str s => s ≠ ""
  | arr xs => !xs.isEmpty
  | obj kvs => !kvs.isEmpty

/-- `value == s` for a string `s` -/
def eqStr (s : String) : Json → Bool
  | str t => t = s
  | _ => false

/-- `value.get(key)`: only a dict has it. -/
def get (value : Json) (key : String) : Except PyErr (Option Json) :=
  match value with
  | obj kvs => .ok (kvs.lookup key)
  | _ => .error ⟨.attributeError, "object has no attribute 'get'"⟩

/-- `value or {}` -/
def orEmpty (value : Json) : Json := if value.truthy then value else obj []

end Json

/-- `{**items, key: value}`, and `items[key] = value` -/
def setItem (items : List (String × Json)) (key : String) (value : Json) : List (String × Json) :=
  if (items.lookup key).isSome then
    items.map fun item => if item.1 = key then (key, value) else item
  else items ++ [(key, value)]

/-! ## The runtime -/

/-- `urllib.parse.SplitResult`, with the `port` property that may raise. -/
structure SplitResult where
  scheme : String
  netloc : String
  path : String
  query : String
  hostname : Option String
  port : Except PyErr (Option ℕ)

/-- The parts of the Python runtime that the service calls and this development does not
look into. -/
structure Py where
  /-- `zoneinfo.ZoneInfo` -/
  zoneInfo : String → Except PyErr Zone
  /-- `datetime.fromisoformat`, on a string -/
  fromisoformat : String → Except PyErr DateTime
  /-- `datetime.isoformat` -/
  isoformat : DateTime → String
  /-- `str.strip` -/
  strip : String → String
  /-- `str.lower` -/
  lower : String → String
  /-- `str.upper` -/
  upper : String → String
  /-- `str` of a JSON value that is not a string -/
  str : Json → String
  /-- `urllib.parse.urlsplit` -/
  urlsplit : String → Except PyErr SplitResult
  /-- `urllib.parse.parse_qsl`, with `keep_blank_values=True` -/
  parseQsl : String → Except PyErr (List (String × String))
  /-- `urllib.parse.urlencode` -/
  urlencode : List (String × String) → String
  /-- `urllib.parse.urlunsplit`, of scheme, netloc, path and query -/
  urlunsplit : String → String → String → String → String
  /-- `hashlib.sha256(content).hexdigest()` -/
  sha256 : List UInt8 → String

/-- `str(value)` -/
def Py.strOf (py : Py) : Json → String
  | .str s => s
  | value => py.str value

/-- Lower-case ASCII letters and underscores only, as in the codes of the vocabulary. -/
def isCode (s : String) : Bool := s.toList.all fun c => c.isLower || c == '_'

/-- What the service relies on of the string methods of Python. -/
structure Py.TextLaws (py : Py) : Prop where
  strip_code : ∀ s, isCode s → py.strip s = s
  lower_code : ∀ s, isCode s → py.lower s = s
  strip_strip : ∀ s, py.strip (py.strip s) = py.strip s
  strip_upper : ∀ s, py.strip (py.upper (py.strip s)) = py.upper (py.strip s)
  upper_upper : ∀ s, py.upper (py.upper s) = py.upper s

/-- What `datetime.fromisoformat` may do with a string: refuse it with a `ValueError`, or read
a timestamp that a `datetime` can hold. -/
structure Py.IsoLaws (py : Py) : Prop where
  refuse : ∀ s e, py.fromisoformat s = .error e → e.cls = .valueError
  range : ∀ s d, py.fromisoformat s = .ok d → 0 ≤ d.wall ∧ d.wall < maxMicros

/-- `datetime.fromisoformat` reads the text that `isoformat` writes for `d`. -/
structure Py.ReadsBack (py : Py) (d : DateTime) : Prop where
  read : py.fromisoformat (py.isoformat d) = .ok d
  text : py.isoformat d ≠ ""

/-- `sorted({...})` of strings: Python and Lean both order strings by code points. -/
def sortedSet (xs : List String) : List String := xs.dedup.insertionSort (· ≤ ·)

@[simp] lemma mem_sortedSet {xs : List String} {x : String} : x ∈ sortedSet xs ↔ x ∈ xs := by
  rw [sortedSet, List.mem_insertionSort, List.mem_dedup]

/-- A sorted set lists its members in strictly increasing order. -/
lemma pairwise_sortedSet (xs : List String) : (sortedSet xs).Pairwise (· < ·) := by
  have hle : (sortedSet xs).Pairwise (· ≤ ·) := List.pairwise_insertionSort _ _
  have hperm : (sortedSet xs).Perm xs.dedup := List.perm_insertionSort _ _
  have hne : (sortedSet xs).Pairwise (· ≠ ·) := hperm.nodup_iff.mpr (List.nodup_dedup xs)
  exact (hle.and hne).imp fun h => lt_of_le_of_ne h.1 h.2

/-- A list in strictly increasing order is its own sorted set. -/
lemma sortedSet_eq_self {xs : List String} (h : xs.Pairwise (· < ·)) : sortedSet xs = xs := by
  have hnodup : xs.Nodup := h.imp fun hlt => hlt.ne
  have hsorted : xs.Pairwise (· ≤ ·) := h.imp fun hlt => hlt.le
  rw [sortedSet, hnodup.dedup]
  exact hsorted.insertionSort_eq

@[simp] lemma sortedSet_sortedSet (xs : List String) : sortedSet (sortedSet xs) = sortedSet xs :=
  sortedSet_eq_self (pairwise_sortedSet xs)

@[simp] lemma sortedSet_eq_nil {xs : List String} : sortedSet xs = [] ↔ xs = [] := by
  simp only [List.eq_nil_iff_forall_not_mem, mem_sortedSet]

end ScholarshipFinder
