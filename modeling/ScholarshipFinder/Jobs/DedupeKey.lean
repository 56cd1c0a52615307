import ScholarshipFinder.Api.Enqueue

/-!
# The keys of the schedules

The key that a delivery of a schedule is given names the period it is in: the ISO week, the
quarter of an hour or the hour, by the kind of the job.  A kind that is in none of the three sets
keeps the key that the body of its schedule carries.
-/

namespace ScholarshipFinder

/-- The kinds that the scripts `manage_*_schedule*.py` deliver. -/
def scheduledKinds : List String :=
  ["auto_approve_sweep", "dispatch_outbox", "refresh_status", "reverify_due", "sweep_due_jobs",
    "harvest_parsebot", "reconcile_stuck_jobs", "sync_countries", "harvest_tavily"]

/-- The kinds whose key is computed. -/
def recurringKinds : List String :=
  recurringWeeklyKinds ++ recurringQuarterHourKinds ++ recurringHourlyKinds

/-- The recurrence period that a time is in: that of the kind's set, or else that of the cron
expression of `manage_dispatch_outbox_schedule.py`, two minutes. -/
def period (kind : String) (now : Instant) : ℤ :=
  if kind ∈ recurringWeeklyKinds then now / day / 7
  else if kind ∈ recurringQuarterHourKinds then now / quarterHour
  else if kind ∈ recurringHourlyKinds then now / hour
  else now / (2 * minute)

/-- The key of a delivery of the schedule. -/
def scheduledKey (py : Py) (kind : String) (now : Instant) : String :=
  dedupeKeyAt py kind (scheduledPlaceholder kind) now

/-- A time that a `datetime` can hold, whose quarter of an hour and hour are written as
`fromisoformat` reads them. -/
structure Timely (py : Py) (now : Instant) : Prop where
  nonneg : 0 ≤ now
  quarter : py.ReadsBack (bucket quarterHour now)
  hour : py.ReadsBack (bucket hour now)

/-- Only the kinds that are in no set keep the key of the body. -/
lemma mem_recurringKinds_or {kind : String} (h : kind ∈ scheduledKinds) :
    kind ∈ recurringKinds ∨ kind = "dispatch_outbox" := by
  revert h
  simp only [scheduledKinds, List.mem_cons, List.not_mem_nil, or_false]
  rintro (rfl | rfl | rfl | rfl | rfl | rfl | rfl | rfl | rfl) <;> decide

lemma allowed_of_scheduled {kind : String} (h : kind ∈ scheduledKinds) :
    kind ∈ allowedJobKinds := by
  have hsub : ∀ kind ∈ scheduledKinds, kind ∈ allowedJobKinds := by decide
  exact hsub kind h

/-! ## What a key names -/

lemma pad2_inj {m n : ℕ} (hm : m < 54) (hn : n < 54) (h : pad2 m = pad2 n) : m = n := by
  -- read the digits back
  have hread : ∀ w < 54,
      (pad2 w).toList.foldl (fun acc c => 10 * acc + (c.toNat - 48)) 0 = w := by decide
  rw [← hread m hm, h, hread n hn]

/-- The digits of a number end at the dash. -/
lemma takeWhile_dash (n : ℕ) (rest : String) :
    (toString n ++ ("-W" ++ rest)).toList.takeWhile Char.isDigit = Nat.toDigits 10 n := by
  have hdigits : ∀ c ∈ Nat.toDigits 10 n, c.isDigit = true := fun c hc =>
    Nat.isDigit_of_mem_toDigits (by decide) (by decide) hc
  have hn : (toString n).toList = Nat.toDigits 10 n := Nat.toList_repr
  have hdash : ("-W" ++ rest).toList = '-' :: 'W' :: rest.toList := by
    rw [String.toList_append]
    rfl
  rw [String.toList_append, hn, hdash, List.takeWhile_append_of_pos hdigits,
    List.takeWhile_cons_of_neg (by decide), List.append_nil]

/-- The text of a year and a week determines both. -/
lemma yearWeek_inj {y y' w w' : ℕ} (hw : w < 54) (hw' : w' < 54)
    (h : toString y ++ ("-W" ++ pad2 w) = toString y' ++ ("-W" ++ pad2 w')) :
    y = y' ∧ w = w' := by
  have hyear : y = y' := by
    have hdigits := congrArg (fun s => s.toList.takeWhile Char.isDigit) h
    simp only [takeWhile_dash] at hdigits
    rw [← Nat.repr_inj, ← String.toList_inj, Nat.toList_repr, Nat.toList_repr, hdigits]
  subst hyear
  have hweek := (String.append_right_inj _).mp ((String.append_right_inj _).mp h)
  exact ⟨rfl, pad2_inj hw hw' hweek⟩

lemma weeklyDedupeKey_eq_iff (kind : String) {t t' : Instant} (ht : 0 ≤ t) (ht' : 0 ≤ t') :
    weeklyDedupeKey kind t = weeklyDedupeKey kind t' ↔ t / day / 7 = t' / day / 7 := by
  have hday : ∀ {u : ℤ}, 0 ≤ u → 0 ≤ u / day := fun hu => Int.ediv_nonneg hu (by decide)
  rw [← isoWeek_eq_iff (hday ht) (hday ht')]
  simp only [weeklyDedupeKey, String.append_right_inj]
  constructor
  · intro h
    obtain ⟨hyear, -, hweek, -⟩ := isoWeek_spec (hday ht)
    obtain ⟨hyear', -, hweek', -⟩ := isoWeek_spec (hday ht')
    have hlt := isoWeek_lt (hday ht)
    have hlt' := isoWeek_lt (hday ht')
    have hw : (isoWeek (t / day)).2.toNat < 54 := by omega
    have hw' : (isoWeek (t' / day)).2.toNat < 54 := by omega
    obtain ⟨hy, hw⟩ := yearWeek_inj hw hw' h
    ext <;> omega
  · intro h
    rw [h]

/-- The text of a bucket determines it. -/
lemma isoformat_bucket_inj {py : Py} {unit : Timedelta} (hunit : 0 < unit) {t t' : Instant}
    (ht : py.ReadsBack (bucket unit t)) (ht' : py.ReadsBack (bucket unit t')) :
    py.isoformat (bucket unit t) = py.isoformat (bucket unit t') ↔ t / unit = t' / unit := by
  constructor
  · intro h
    have hread := ht.read
    rw [h, ht'.read] at hread
    have hbucket : bucket unit t' = bucket unit t := Except.ok.inj hread
    have hwall : t' / unit * unit = t / unit * unit := congrArg DateTime.wall hbucket
    exact (Int.eq_of_mul_eq_mul_right hunit.ne' hwall).symm
  · intro h
    rw [bucket, bucket, h]

section

variable {py : Py} {kind : String} {t t' : Instant}

/-- The computed keys name the periods. -/
theorem scheduledKey_eq_iff (hkind : kind ∈ recurringKinds) (ht : Timely py t)
    (ht' : Timely py t') :
    scheduledKey py kind t = scheduledKey py kind t' ↔ period kind t = period kind t' := by
  simp only [scheduledKey, dedupeKeyAt, if_true, period]
  by_cases hweekly : kind ∈ recurringWeeklyKinds
  · simp only [hweekly, if_true]
    exact weeklyDedupeKey_eq_iff kind ht.nonneg ht'.nonneg
  · by_cases hquarter : kind ∈ recurringQuarterHourKinds
    · simp only [hweekly, hquarter, if_true, if_false, quarterHourDedupeKey,
        String.append_right_inj]
      exact isoformat_bucket_inj (by decide) ht.quarter ht'.quarter
    · have hhourly : kind ∈ recurringHourlyKinds := by
        simpa [recurringKinds, hweekly, hquarter] using hkind
      simp only [hweekly, hquarter, hhourly, if_true, if_false, hourlyDedupeKey,
        String.append_right_inj]
      exact isoformat_bucket_inj (by decide) ht.hour ht'.hour

/-- The key of the other kinds is always the same. -/
theorem scheduledKey_of_not_mem (hkind : kind ∉ recurringKinds) (now : Instant) :
    scheduledKey py kind now = scheduledPlaceholder kind := by
  simp only [recurringKinds, List.mem_append, not_or] at hkind
  simp [scheduledKey, dedupeKeyAt, hkind.1.1, hkind.1.2, hkind.2]

/-- In one period there is one key. -/
lemma scheduledKey_of_period (ht : Timely py t) (ht' : Timely py t')
    (h : period kind t = period kind t') : scheduledKey py kind t = scheduledKey py kind t' := by
  by_cases hkind : kind ∈ recurringKinds
  · exact (scheduledKey_eq_iff hkind ht ht').mpr h
  · rw [scheduledKey_of_not_mem hkind, scheduledKey_of_not_mem hkind]

end

end ScholarshipFinder
