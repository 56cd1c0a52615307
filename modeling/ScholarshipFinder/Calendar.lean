import ScholarshipFinder.Python

/-!
# ISO weeks

The ISO year and week of a date, as `isocalendar` computes them.  Dates are counted from
0001-01-01, which is a Monday; `isoWeek_eq_iff` says that two dates have the same ISO year and
week exactly if they are in the same week.
-/

namespace ScholarshipFinder

/-- `_days_before_year` -/
def daysBeforeYear (year : ℤ) : ℤ :=
  (year - 1) * 365 + (year - 1) / 4 - (year - 1) / 100 + (year - 1) / 400

/-- `_isoweek1monday`: the ordinal of the Monday of the first week of a year. -/
def isoWeek1Monday (year : ℤ) : ℤ :=
  let firstday := daysBeforeYear year + 1
  let firstweekday := (firstday + 6) % 7
  if 3 < firstweekday then firstday - firstweekday + 7 else firstday - firstweekday

/-- The year and the week of `isocalendar`, of the `n`-th day from 0001-01-01. -/
def isoWeek (n : ℤ) : ℤ × ℤ :=
  let year : ℤ := (ord2ymd n.toNat).1
  let today := n + 1
  let week := (today - isoWeek1Monday year) / 7
  if week < 0 then (year - 1, (today - isoWeek1Monday (year - 1)) / 7 + 1)
  else if 52 ≤ week ∧ isoWeek1Monday (year + 1) ≤ today then (year + 1, 1)
  else (year, week + 1)

example : isoWeek 738520 = (2022, 52) ∧ isoWeek 738521 = (2023, 1) ∧
    isoWeek 739249 = (2025, 1) := by decide

/-! ## The calendar -/

lemma isoWeek1Monday_mod (year : ℤ) : (isoWeek1Monday year - 1) % 7 = 0 := by
  simp only [isoWeek1Monday]
  split <;> omega

/-- The first week has at least four days in the year. -/
lemma isoWeek1Monday_bounds (year : ℤ) :
    daysBeforeYear year - 2 ≤ isoWeek1Monday year ∧
      isoWeek1Monday year ≤ daysBeforeYear year + 4 := by
  simp only [isoWeek1Monday]
  split <;> omega

lemma daysBeforeYear_succ (year : ℤ) :
    daysBeforeYear year + 365 ≤ daysBeforeYear (year + 1) ∧
      daysBeforeYear (year + 1) ≤ daysBeforeYear year + 366 := by
  simp only [daysBeforeYear]
  omega

/-- A year has 52 or 53 weeks. -/
lemma isoWeek1Monday_succ (year : ℤ) :
    isoWeek1Monday year + 364 ≤ isoWeek1Monday (year + 1) ∧
      isoWeek1Monday (year + 1) ≤ isoWeek1Monday year + 371 := by
  have hthis := isoWeek1Monday_bounds year
  have hnext := isoWeek1Monday_bounds (year + 1)
  have hdays := daysBeforeYear_succ year
  have hmod := isoWeek1Monday_mod year
  have hmod' := isoWeek1Monday_mod (year + 1)
  omega

lemma isoWeek1Monday_mono {y z : ℤ} (h : y ≤ z) :
    isoWeek1Monday y + 364 * (z - y) ≤ isoWeek1Monday z := by
  induction z, h using Int.leInduction with
  | base => omega
  | succ z _ ih =>
    have hsucc := (isoWeek1Monday_succ z).1
    omega

/-- The days before a year, by its place in the cycles of 400, 100 and 4 years. -/
lemma daysBeforeYear_eq {a b c d : ℤ} (hb : 0 ≤ b ∧ b ≤ 3) (hc : 0 ≤ c ∧ c ≤ 24)
    (hd : 0 ≤ d ∧ d ≤ 3) :
    daysBeforeYear (400 * a + 100 * b + 4 * c + d + 1) =
      146097 * a + 36524 * b + 1461 * c + 365 * d := by
  have hfour : (400 * a + 100 * b + 4 * c + d) / 4 = 100 * a + 25 * b + c := by omega
  have hhundred : (400 * a + 100 * b + 4 * c + d) / 100 = 4 * a + b := by omega
  have hall : (400 * a + 100 * b + 4 * c + d) / 400 = a := by omega
  rw [daysBeforeYear, add_sub_cancel_right, hfour, hhundred, hall]
  ring

/-- The days up to the end of that year; it is a leap year if the fourth of its cycle, but not
in the last cycle of a century that is not the last of the four. -/
lemma daysBeforeYear_eq_next {a b c d : ℤ} (hb : 0 ≤ b ∧ b ≤ 3) (hc : 0 ≤ c ∧ c ≤ 24)
    (hd : 0 ≤ d ∧ d ≤ 3) :
    daysBeforeYear (400 * a + 100 * b + 4 * c + d + 1 + 1) =
      146097 * a + 36524 * b + 1461 * c + 365 * d +
        if d = 3 ∧ (c = 24 → b = 3) then 366 else 365 := by
  have hnext : ∀ a' b' c' d' : ℤ, (0 ≤ b' ∧ b' ≤ 3) → (0 ≤ c' ∧ c' ≤ 24) → (0 ≤ d' ∧ d' ≤ 3) →
      400 * a + 100 * b + 4 * c + d + 1 = 400 * a' + 100 * b' + 4 * c' + d' →
      daysBeforeYear (400 * a + 100 * b + 4 * c + d + 1 + 1) =
        146097 * a' + 36524 * b' + 1461 * c' + 365 * d' := by
    intro a' b' c' d' hb' hc' hd' heq
    rw [heq]
    exact daysBeforeYear_eq hb' hc' hd'
  by_cases hlast : d = 3
  · by_cases hcycle : c = 24
    · by_cases hcentury : b = 3
      · rw [hnext (a + 1) 0 0 0 (by omega) (by omega) (by omega) (by omega), if_pos (by omega)]
        omega
      · rw [hnext a (b + 1) 0 0 (by omega) (by omega) (by omega) (by omega), if_neg (by omega)]
        omega
    · rw [hnext a b (c + 1) 0 (by omega) (by omega) (by omega) (by omega), if_pos (by omega)]
      omega
  · rw [hnext a b c (d + 1) (by omega) (by omega) (by omega) (by omega), if_neg (by omega)]
    omega

/-- A day is in the year that `ord2ymd` computes. -/
lemma ord2ymd_year (n : ℕ) :
    1 ≤ (ord2ymd n).1 ∧ daysBeforeYear (ord2ymd n).1 ≤ n ∧
      n < daysBeforeYear ((ord2ymd n).1 + 1) := by
  -- the place of the year: the last day of a leap year, and of a cycle of 400 years, is special
  obtain ⟨a, b, c, d, hb, hc, hd, hyear, hlow, hhigh⟩ : ∃ a b c d : ℤ, (0 ≤ b ∧ b ≤ 3) ∧
      (0 ≤ c ∧ c ≤ 24) ∧ (0 ≤ d ∧ d ≤ 3) ∧
      ((ord2ymd n).1 : ℤ) = 400 * a + 100 * b + 4 * c + d + 1 ∧
      146097 * a + 36524 * b + 1461 * c + 365 * d ≤ n ∧
      (n : ℤ) < 146097 * a + 36524 * b + 1461 * c + 365 * d +
        if d = 3 ∧ (c = 24 → b = 3) then 366 else 365 := by
    have hyear : (ord2ymd n).1 =
        if n % 146097 % 36524 % 1461 / 365 = 4 ∨ n % 146097 / 36524 = 4 then
          n / 146097 * 400 + 1 + n % 146097 / 36524 * 100 + n % 146097 % 36524 / 1461 * 4 +
            n % 146097 % 36524 % 1461 / 365 - 1
        else
          n / 146097 * 400 + 1 + n % 146097 / 36524 * 100 + n % 146097 % 36524 / 1461 * 4 +
            n % 146097 % 36524 % 1461 / 365 := by
      simp only [ord2ymd]
      split <;> rfl
    rw [hyear]
    by_cases hcentury : n % 146097 / 36524 = 4
    · refine ⟨n / 146097, 3, 24, 3, by omega, by omega, by omega, ?_, by omega, ?_⟩
      · rw [if_pos (Or.inr hcentury)]
        omega
      · rw [if_pos (by omega)]
        omega
    · by_cases hleap : n % 146097 % 36524 % 1461 / 365 = 4
      · refine ⟨n / 146097, (n % 146097 / 36524 : ℕ), (n % 146097 % 36524 / 1461 : ℕ), 3, by omega,
          by omega, by omega, ?_, by omega, ?_⟩
        · rw [if_pos (Or.inl hleap)]
          omega
        · rw [if_pos ⟨rfl, by omega⟩]
          omega
      · refine ⟨n / 146097, (n % 146097 / 36524 : ℕ), (n % 146097 % 36524 / 1461 : ℕ),
          (n % 146097 % 36524 % 1461 / 365 : ℕ), by omega, by omega, by omega, ?_, by omega, ?_⟩
        · rw [if_neg (by omega)]
          omega
        · split <;> omega
  refine ⟨?_, ?_, ?_⟩
  · have ha : 0 ≤ a := by
      split at hhigh <;> omega
    omega
  · rw [hyear, daysBeforeYear_eq hb hc hd]
    exact hlow
  · rw [hyear, daysBeforeYear_eq_next hb hc hd]
    exact hhigh

/-! ## The week of a date -/

/-- The Monday of the week, between the first Mondays of the ISO year and of the next. -/
lemma isoWeek_spec {n : ℤ} (hn : 0 ≤ n) :
    0 ≤ (isoWeek n).1 ∧ isoWeek1Monday (isoWeek n).1 + 7 * ((isoWeek n).2 - 1) = n / 7 * 7 + 1 ∧
      1 ≤ (isoWeek n).2 ∧ n / 7 * 7 + 1 < isoWeek1Monday ((isoWeek n).1 + 1) := by
  obtain ⟨hone, hlow, hhigh⟩ := ord2ymd_year n.toNat
  rw [Int.toNat_of_nonneg hn] at hlow hhigh
  simp only [isoWeek]
  generalize (ord2ymd n.toNat).1 = y at *
  have hthis := isoWeek1Monday_bounds y
  have hmod := isoWeek1Monday_mod y
  have hsucc := isoWeek1Monday_succ y
  have hnext := isoWeek1Monday_bounds (y + 1)
  have hmod' := isoWeek1Monday_mod (y + 1)
  have hsucc' := isoWeek1Monday_succ (y + 1)
  have hpred := isoWeek1Monday_succ (y - 1)
  have hmod₀ := isoWeek1Monday_mod (y - 1)
  rw [sub_add_cancel] at hpred
  split
  · -- the first days of a year may be in the last week of the year before
    dsimp only
    rw [sub_add_cancel]
    refine ⟨?_, ?_, ?_, ?_⟩ <;> omega
  · split
    · -- the last days of a year may be in the first week of the next
      dsimp only
      refine ⟨?_, ?_, ?_, ?_⟩ <;> omega
    · dsimp only
      refine ⟨?_, ?_, ?_, ?_⟩ <;> omega

/-- The ISO year and week name the week. -/
theorem isoWeek_eq_iff {m n : ℤ} (hm : 0 ≤ m) (hn : 0 ≤ n) :
    isoWeek m = isoWeek n ↔ m / 7 = n / 7 := by
  obtain ⟨-, hmonday, hweek, hnext⟩ := isoWeek_spec hm
  obtain ⟨-, hmonday', hweek', hnext'⟩ := isoWeek_spec hn
  constructor
  · intro h
    rw [h] at hmonday
    omega
  · intro h
    rw [h] at hmonday hnext
    have hyear : (isoWeek m).1 = (isoWeek n).1 := by
      rcases lt_trichotomy (isoWeek m).1 (isoWeek n).1 with hlt | heq | hgt
      · have hmono := isoWeek1Monday_mono (Int.add_one_le_iff.mpr hlt)
        omega
      · exact heq
      · have hmono := isoWeek1Monday_mono (Int.add_one_le_iff.mpr hgt)
        omega
    ext
    · exact hyear
    · rw [hyear] at hmonday
      omega

/-- A week of the year has one or two digits. -/
lemma isoWeek_lt {n : ℤ} (hn : 0 ≤ n) : (isoWeek n).2 < 54 := by
  obtain ⟨-, hmonday, -, hnext⟩ := isoWeek_spec hn
  have hsucc := (isoWeek1Monday_succ (isoWeek n).1).2
  omega

end ScholarshipFinder
