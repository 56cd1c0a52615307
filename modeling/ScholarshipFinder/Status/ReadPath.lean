import ScholarshipFinder.Facts.Sanitised

/-!
# Reading a stored record

Search, the detail page and the due scan all derive the facts of a cycle, re-evaluate its
status, refine it for display and put the cycle into a bucket.  For a cycle that is not stored
as open nothing on this path can raise.  For an open one the deadline is converted to UTC, and
`readPath_iff` says exactly when that succeeds.
-/

namespace ScholarshipFinder

variable {py : Py}

variable (py) in
/-- The chain of a read: what it makes of the facts, the stored status and the stored window. -/
def readPath (facts : Json) (storedStatus : PublicStatus) (statusValidUntil : Option Instant)
    (now : Instant) (cfg : FreshnessConfig) :
    Except PyErr (PublicStatus × StatusDetail × FreshnessBucket) := do
  let derived ← deriveFacts py facts
  let status ← evaluatePublicStatus py storedStatus derived.deadline statusValidUntil now
  let detail ← evaluateStatusDetail py status derived.deadline now
  let bucket ← classifyBucket py storedStatus derived.deadline derived.expectedReopenMonth now cfg
  return (status, detail, bucket)

/-! ## When a cutoff can be computed -/

/-- The wall-clock reading, taken to UTC, stays within the calendar. -/
def Zone.InCalendar (zone : Zone) (wall : ℤ) : Prop :=
  0 ≤ wall - zone wall ∧ wall - zone wall < maxMicros

variable (py) in
/-- The key names a zone in which the reading stays within the calendar, or a zone that is not
found; it is not malformed. -/
def ZoneConverts (key : String) (wall : ℤ) : Prop :=
  (∀ zone, py.zoneInfo key = .ok zone → zone.InCalendar wall) ∧
    ∀ e, py.zoneInfo key = .error e → e.cls = .zoneInfoNotFoundError

lemma toUtc_ok_iff {zone : Zone} {wall : ℤ} :
    (∃ t, zone.toUtc wall = .ok t) ↔ zone.InCalendar wall := by
  rw [Zone.toUtc, Zone.InCalendar]
  by_cases h : 0 ≤ wall - zone wall ∧ wall - zone wall < maxMicros
  · rw [if_pos h]
    exact ⟨fun _ => h, fun _ => ⟨_, rfl⟩⟩
  · rw [if_neg h]
    refine ⟨?_, fun h' => absurd h' h⟩
    rintro ⟨t, ⟨⟩⟩

/-- A zone is looked up for a non-empty key, and only an unknown one is put up with. -/
lemma withZone_toUtc_ok_iff (py : Py) (timezone : Option String) (wall : ℤ)
    {missing : Except PyErr Instant} (hmissing : ∃ t, missing = .ok t) :
    (∃ t, withZone py timezone (fun zone => zone.toUtc wall) missing = .ok t) ↔
      ∀ key ∈ timezone, key ≠ "" → ZoneConverts py key wall := by
  unfold withZone
  cases timezone with
  | none => simpa using hmissing
  | some key =>
    by_cases hkey : key = ""
    · simpa [hkey] using hmissing
    · cases hzone : py.zoneInfo key with
      | ok zone => simp [hkey, hzone, ZoneConverts, toUtc_ok_iff]
      | error e =>
        by_cases hcls : e.cls = .zoneInfoNotFoundError
        · simpa [hkey, hzone, ZoneConverts, hcls] using hmissing
        · simp [hkey, hzone, ZoneConverts, hcls]

/-- The last second of a calendar date is within the calendar, even fourteen hours earlier. -/
lemma failClosed_ok {d : DateTime} (hlow : 0 ≤ d.wall) (hhigh : d.wall < maxMicros) :
    ∃ t, failClosedTz.toUtc d.endOfDay = .ok t := by
  rw [toUtc_ok_iff]
  simp only [Zone.InCalendar, failClosedTz, Zone.fixed, DateTime.endOfDay]
  norm_num [maxMicros, day, hour, minute, second] at *
  omega

variable (py) in
/-- Where a zone is asked about the deadline, it converts the reading that it is asked about:
that of an instant without an offset, or the end of a date. -/
def CutoffComputable (d : DateTime) (precision : DeadlinePrecision) (timezone : Option String) :
    Prop :=
  (precision = .datetime → d.offset = none →
    ∀ key ∈ timezone, key ≠ "" → ZoneConverts py key d.wall) ∧
  (precision = .date → ∀ key ∈ timezone, key ≠ "" → ZoneConverts py key d.endOfDay)

lemma deadlineCutoff_ok_iff {d : DateTime} (hlow : 0 ≤ d.wall) (hhigh : d.wall < maxMicros)
    (precision : DeadlinePrecision) (timezone : Option String) :
    (∃ t, deadlineCutoff py d precision timezone = .ok t) ↔
      CutoffComputable py d precision timezone := by
  cases precision with
  | datetime =>
    cases hoffset : d.offset with
    | some offset => simp [deadlineCutoff, CutoffComputable, hoffset]
    | none =>
      have hwall : ∃ t, Except.ok (ε := PyErr) d.wall = .ok t := ⟨_, rfl⟩
      have hzone := withZone_toUtc_ok_iff py timezone d.wall hwall
      simpa [deadlineCutoff, CutoffComputable, hoffset] using hzone
  | date =>
    have hzone := withZone_toUtc_ok_iff py timezone d.endOfDay (failClosed_ok hlow hhigh)
    simpa [deadlineCutoff, CutoffComputable] using hzone

/-! ## The stored facts -/

/-- The deadline is read from a non-empty text, and nothing else is an error. -/
lemma safeDeadlineAt_total (hiso : py.IsoLaws) (value : Option Json) :
    ∃ deadlineAt, safeDeadlineAt py value = .ok deadlineAt ∧
      ∀ d, deadlineAt = some d ↔
        ∃ s, value = some (.str s) ∧ s ≠ "" ∧ py.fromisoformat s = .ok d := by
  unfold safeDeadlineAt
  split
  · next s =>
    by_cases hs : s = ""
    · exact ⟨none, by rw [if_pos hs], by simp [hs]⟩
    · rw [if_neg hs]
      cases hread : py.fromisoformat s with
      | ok d => exact ⟨some d, rfl, by simp [hs, hread]⟩
      | error e =>
        have hcls := hiso.refuse s e hread
        exact ⟨none, by simp [hcls], by simp [hread]⟩
  · next hstr =>
    refine ⟨none, rfl, fun d => ?_⟩
    simp only [reduceCtorEq, false_iff]
    rintro ⟨s, hs, -⟩
    exact hstr s hs

/-- A JSON object can always be sanitised; its deadline keys are read as they stand. -/
theorem deriveFacts_obj (hiso : py.IsoLaws) (items : List (String × Json)) :
    ∃ f, deriveFacts py (.obj items) = .ok f ∧
      f.deadlinePrecision = clampPrecision (items.lookup "deadline_precision") ∧
      f.deadlineTimezone = stringOrNone (items.lookup "deadline_timezone") ∧
      ∀ d, f.deadlineAt = some d ↔
        ∃ s, items.lookup "deadline_at" = some (.str s) ∧ s ≠ "" ∧ py.fromisoformat s = .ok d := by
  obtain ⟨deadlineAt, hread, hiff⟩ := safeDeadlineAt_total hiso (items.lookup "deadline_at")
  simp only [deriveFacts, Json.get, bind, Except.bind, hread]
  exact ⟨_, rfl, rfl, rfl, hiff⟩

/-! ## The result -/

variable (py) in
/-- The stored deadline, if there is one that can be read, has a cutoff, and the width of the
near window is a `timedelta`. -/
def DeadlineReadable (items : List (String × Json)) (cfg : FreshnessConfig) : Prop :=
  ∀ s d, items.lookup "deadline_at" = some (.str s) → s ≠ "" → py.fromisoformat s = .ok d →
    cfg.nearDeadlineDays.natAbs ≤ 999999999 ∧
    CutoffComputable py d (clampPrecision (items.lookup "deadline_precision"))
      (stringOrNone (items.lookup "deadline_timezone"))

lemma timedelta_day_ok_iff {n : ℤ} : (∃ d, timedelta day n = .ok d) ↔ n.natAbs ≤ 999999999 := by
  have hday : n * day / day = n := Int.mul_ediv_cancel n (by decide)
  rw [timedelta, hday]
  by_cases h : n.natAbs ≤ 999999999
  · rw [if_pos h]
    exact ⟨fun _ => h, fun _ => ⟨_, rfl⟩⟩
  · rw [if_neg h]
    refine ⟨?_, fun h' => absurd h' h⟩
    rintro ⟨t, ⟨⟩⟩

/-- A status can be refined once the cutoff is known. -/
lemma evaluateStatusDetail_ok {d : Deadline} {cutoff : Option Instant}
    (hcut : d.cutoff py = .ok cutoff) (status : PublicStatus) (now : Instant) :
    ∃ detail, evaluateStatusDetail py status d now = .ok detail := by
  cases status with
  | openVerified =>
    simp only [evaluateStatusDetail, hcut, bind, Except.bind]
    split
    · exact ⟨_, rfl⟩
    · exact ⟨_, rfl⟩
  | expectedToReopen => exact ⟨_, rfl⟩
  | statusUnknown => exact ⟨_, rfl⟩

/-- The cutoff of a deadline is computed in the same way wherever the path needs it. -/
lemma readPath_open_iff {facts : Json} {f : DerivedFacts} (hf : deriveFacts py facts = .ok f)
    (statusValidUntil : Option Instant) (now : Instant) (cfg : FreshnessConfig) :
    (∃ r, readPath py facts .openVerified statusValidUntil now cfg = .ok r) ↔
      ∃ cutoff, f.deadline.cutoff py = .ok cutoff ∧
        (cutoff.isSome → ∃ near, timedelta day cfg.nearDeadlineDays = .ok near) := by
  cases hcut : f.deadline.cutoff py with
  | error e =>
    have heval : evaluatePublicStatus py .openVerified f.deadline statusValidUntil now =
        .error e := by
      simp [evaluatePublicStatus, hcut, bind, Except.bind]
    simp [readPath, hf, heval, bind, Except.bind]
  | ok cutoff =>
    have heval := evaluatePublicStatus_openVerified hcut statusValidUntil now
    obtain ⟨detail, hdetail⟩ := evaluateStatusDetail_ok hcut
      (if cutoff.any (· ≤ now) ∨ statusValidUntil.any (· ≤ now) then .statusUnknown
        else .openVerified) now
    have hbucket := classifyBucket_openVerified hcut f.expectedReopenMonth now cfg
    simp only [readPath, hf, heval, hdetail, bind, Except.bind]
    rw [hbucket]
    cases cutoff with
    | none => simp [pure, Except.pure]
    | some c =>
      cases hnear : timedelta day cfg.nearDeadlineDays <;> simp [Except.map, pure, Except.pure]

/-- A cycle that is not stored as open is read without a look at its deadline. -/
lemma readPath_of_ne {facts : Json} {f : DerivedFacts} (hf : deriveFacts py facts = .ok f)
    {storedStatus : PublicStatus} (hne : storedStatus ≠ .openVerified)
    (statusValidUntil : Option Instant) (now : Instant) (cfg : FreshnessConfig) :
    ∃ r, readPath py facts storedStatus statusValidUntil now cfg = .ok r := by
  have heval : evaluatePublicStatus py storedStatus f.deadline statusValidUntil now =
      .ok storedStatus := evaluatePublicStatus_of_ne hne _ _ _
  have hdetail : ∃ detail, evaluateStatusDetail py storedStatus f.deadline now = .ok detail := by
    cases storedStatus with
    | openVerified => exact absurd rfl hne
    | expectedToReopen => exact ⟨_, rfl⟩
    | statusUnknown => exact ⟨_, rfl⟩
  obtain ⟨detail, hdetail⟩ := hdetail
  have hbucket : classifyBucket py storedStatus f.deadline f.expectedReopenMonth now cfg =
      .ok (upcomingBucket storedStatus f.expectedReopenMonth now cfg) := by
    rw [classifyBucket, if_neg hne]
  simp only [readPath, hf, heval, hdetail, hbucket, bind, Except.bind]
  exact ⟨_, rfl⟩

/-- A read of a JSON object returns, unless the cycle is stored as open and its deadline is not
readable. -/
theorem readPath_iff (hiso : py.IsoLaws) (items : List (String × Json))
    (storedStatus : PublicStatus) (statusValidUntil : Option Instant) (now : Instant)
    (cfg : FreshnessConfig) :
    (∃ r, readPath py (.obj items) storedStatus statusValidUntil now cfg = .ok r) ↔
      (storedStatus = .openVerified → DeadlineReadable py items cfg) := by
  obtain ⟨f, hf, hprecision, htimezone, hdeadline⟩ := deriveFacts_obj hiso items
  by_cases hopen : storedStatus = .openVerified
  · subst hopen
    rw [readPath_open_iff hf]
    simp only [true_imp_iff]
    cases hat : f.deadlineAt with
    | none =>
      have hcut : f.deadline.cutoff py = .ok none := by
        simp [DerivedFacts.deadline, Deadline.cutoff, hat]
      refine ⟨fun _ s d hs hne hread => ?_, fun _ => ⟨none, hcut, by simp⟩⟩
      have hsome := (hdeadline d).mpr ⟨s, hs, hne, hread⟩
      rw [hat] at hsome
      cases hsome
    | some d =>
      obtain ⟨s, hs, hne, hread⟩ := (hdeadline d).mp hat
      obtain ⟨hlow, hhigh⟩ := hiso.range s d hread
      have hcut : f.deadline.cutoff py =
          (deadlineCutoff py d f.deadlinePrecision f.deadlineTimezone).map some := by
        simp [DerivedFacts.deadline, Deadline.cutoff, hat]
      have hiff : (∃ t, deadlineCutoff py d f.deadlinePrecision f.deadlineTimezone = .ok t) ↔
          CutoffComputable py d f.deadlinePrecision f.deadlineTimezone :=
        deadlineCutoff_ok_iff hlow hhigh _ _
      rw [hprecision, htimezone] at hiff
      constructor
      · rintro ⟨cutoff, hok, hnear⟩ s' d' hs' hne' hread'
        have hd : d' = d := by
          have hsome := (hdeadline d').mpr ⟨s', hs', hne', hread'⟩
          rw [hat] at hsome
          exact (Option.some.inj hsome).symm
        subst hd
        rw [hcut, hprecision, htimezone] at hok
        cases hc : deadlineCutoff py d' (clampPrecision (items.lookup "deadline_precision"))
            (stringOrNone (items.lookup "deadline_timezone")) with
        | error e =>
          rw [hc] at hok
          cases hok
        | ok t =>
          rw [hc] at hok
          cases hok
          exact ⟨timedelta_day_ok_iff.mp (hnear rfl), hiff.mp ⟨t, hc⟩⟩
      · intro hreadable
        obtain ⟨hnear, hcomputable⟩ := hreadable s d hs hne hread
        obtain ⟨t, ht⟩ := hiff.mpr hcomputable
        refine ⟨some t, ?_, fun _ => timedelta_day_ok_iff.mpr hnear⟩
        rw [hcut, hprecision, htimezone, ht]
        rfl
  · have hread := readPath_of_ne hf hopen statusValidUntil now cfg
    exact ⟨fun _ h => absurd h hopen, fun _ => hread⟩

namespace Sample

/-- 31 December 9999, a date without a time zone. -/
def lastDay : DateTime := ⟨3652058 * day, none⟩

def lastDayText : String := "9999-12-31T00:00:00"

/-- A runtime that knows this date and the winter time of New York. -/
def calendarPy : Py := { Sample.py with
  zoneInfo := fun key =>
    if key = "America/New_York" then .ok (Zone.fixed (-5 * hour))
    else .error ⟨.zoneInfoNotFoundError, "No time zone found"⟩
  fromisoformat := fun s =>
    if s = lastDayText then .ok lastDay else valueError "Invalid isoformat string"
  isoformat := fun d => if d = lastDay then lastDayText else "" }

/-- The programme of the sample, with this deadline. -/
def lastDayArguments : CycleArguments := { arguments with
  deadlineAt := some lastDay
  deadlinePrecision := .date
  deadlineTimezone := some "America/New_York" }

end Sample

/-- The builder accepts a deadline on the last day of the calendar in a zone behind UTC; no
read of the open cycle returns. -/
theorem last_day_unreadable :
    ∃ F, buildCycleFacts Sample.calendarPy Sample.countries Sample.lastDayArguments.toInputs =
        .ok F ∧
      readPath Sample.calendarPy F .openVerified none Sample.start (freshnessConfig {}) =
        .error ⟨.overflowError, "date value out of range"⟩ :=
  ⟨_, rfl, rfl⟩

/-- The publication of the sample is read. -/
theorem readPath_sample :
    ∃ r, readPath Sample.datedPy Sample.published .openVerified none Sample.start
      (freshnessConfig {}) = .ok r := by
  refine (readPath_iff Sample.isoLaws _ _ _ _ _).mpr ?_
  rintro - s d - - hread
  have hd := Sample.deadline_of_read hread
  refine ⟨by decide, fun _ hoffset => ?_, fun hdate => ?_⟩
  · rw [← hd] at hoffset
    cases hoffset
  · cases hdate

end ScholarshipFinder
