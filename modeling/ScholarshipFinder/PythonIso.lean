import ScholarshipFinder.Calendar
import ScholarshipFinder.Lib.Padded

/-!
# `datetime.isoformat` in the runtime

The text of a `datetime` is its clock reading to the second, in fields of a fixed width, and after
it the fraction of the second and the UTC offset, if there are any.  So texts are ordered as the
clock readings are, whatever the offsets, and then as the rest of the texts is.
-/

namespace ScholarshipFinder

open Lib Padded

namespace DateTime

/-- The year, month, day, hour, minute and second that the clock shows. -/
def clock (d : DateTime) : List ℕ :=
  let date := ord2ymd (d.wall / day).toNat
  [date.1, date.2.1, date.2.2, (d.wall % day / hour).toNat, (d.wall % hour / minute).toNat,
    (d.wall % minute / second).toNat]

/-- `"%04d-%02d-%02dT%02d:%02d:%02d"` -/
def clockForm : Form :=
  [(4, ['-']), (2, ['-']), (2, ['T']), (2, [':']), (2, [':']), (2, [])]

/-- `".%06d"`, of the microseconds if there are any. -/
def fractionText (micros : ℕ) : List Char := if micros = 0 then [] else '.' :: padded 6 micros

/-- `_format_offset` -/
def offsetText : Option Timedelta → List Char
  | none => []
  | some offset =>
    let size := |offset|
    (if offset < 0 then '-' else '+') ::
      (fields [(2, [':']), (2, [])] [(size / hour).toNat, (size % hour / minute).toNat] ++
        if size % minute = 0 then []
        else ':' :: (padded 2 (size % minute / second).toNat ++
          fractionText (size % second).toNat))

/-- What follows the seconds. -/
def restText (d : DateTime) : List Char :=
  fractionText (d.wall % second).toNat ++ offsetText d.offset

def isoText (d : DateTime) : String := String.ofList (fields clockForm d.clock ++ d.restText)

example : isoText ⟨738944 * day + 61 * minute + 5000, some (-5 * hour)⟩ =
    "2024-02-29T01:01:00.005000-05:00" := by
  decide +kernel

end DateTime

/-- The runtime, with `isoformat`. -/
def Py.withIsoformat (py : Py) : Py := { py with isoformat := DateTime.isoText }

/-! ## The fields of a clock reading -/

lemma monthDay_lt : ∀ k < 365, ∀ extra < 2,
    let before := fun m : ℕ => daysBeforeMonth.getD (m - 1) 0 + if 2 < m then extra else 0
    let month := if k < before ((k + 50) / 32) then (k + 50) / 32 - 1 else (k + 50) / 32
    month < 100 ∧ k - before month + 1 < 100 := by
  decide +kernel

lemma ord2ymd_monthDay (n : ℕ) : (ord2ymd n).2.1 < 100 ∧ (ord2ymd n).2.2 < 100 := by
  simp only [ord2ymd]
  split
  · exact ⟨by simp, by simp⟩
  · have hday : n % 146097 % 36524 % 1461 % 365 < 365 := Nat.mod_lt _ (by decide)
    generalize n % 146097 % 36524 % 1461 % 365 = k at hday
    by_cases hleap : n % 146097 % 36524 % 1461 / 365 = 3 ∧
        (n % 146097 % 36524 / 1461 ≠ 24 ∨ n % 146097 / 36524 = 3)
    · simpa only [hleap, and_true] using monthDay_lt k hday 1 (by decide)
    · simpa only [hleap, and_false, if_false, ite_self] using monthDay_lt k hday 0 (by decide)

lemma ord2ymd_year_lt {n : ℕ} (hn : n < 3652059) : (ord2ymd n).1 < 10000 := by
  obtain ⟨-, hlow, -⟩ := ord2ymd_year n
  by_contra hlate
  have hmono : daysBeforeYear 10000 ≤ daysBeforeYear (ord2ymd n).1 := by
    simp only [daysBeforeYear]
    omega
  have hten : daysBeforeYear 10000 = 3652059 := by decide
  omega

lemma DateTime.fits_clock {d : DateTime} (hlow : 0 ≤ d.wall) (hhigh : d.wall < maxMicros) :
    Fits clockForm d.clock := by
  have hday : (d.wall / day).toNat < 3652059 := by
    simp only [maxMicros, day, hour, minute, second] at hhigh ⊢
    omega
  obtain ⟨hmonth, hdate⟩ := ord2ymd_monthDay (d.wall / day).toNat
  have hhour : (d.wall % day / hour).toNat < 100 := by
    simp only [day, hour, minute, second]
    omega
  have hminute : (d.wall % hour / minute).toNat < 100 := by
    simp only [hour, minute, second]
    omega
  have hsecond : (d.wall % minute / second).toNat < 100 := by
    simp only [minute, second]
    omega
  exact .cons (ord2ymd_year_lt hday) (.cons hmonth (.cons hdate (.cons hhour (.cons hminute
    (.cons hsecond .nil)))))

/-- Texts are ordered as the clock readings, and then as what follows. -/
theorem isoText_lt_iff {d d' : DateTime} (hd : 0 ≤ d.wall ∧ d.wall < maxMicros)
    (hd' : 0 ≤ d'.wall ∧ d'.wall < maxMicros) : d.isoText < d'.isoText ↔
      d.clock < d'.clock ∨ d.clock = d'.clock ∧ d.restText < d'.restText := by
  rw [DateTime.isoText, DateTime.isoText, String.lt_iff_toList_lt, String.toList_ofList,
    String.toList_ofList]
  exact fields_append_lt_iff (d.fits_clock hd.1 hd.2) (d'.fits_clock hd'.1 hd'.2)

end ScholarshipFinder
