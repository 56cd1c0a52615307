import ScholarshipFinder.Domain.Status

/-!
# The freshness cadence table (`domain/freshness.py`)

A cycle is put into a bucket by its status and its deadline; the bucket decides how often
its official page is fetched again and how old its evidence may grow.
-/

namespace ScholarshipFinder

inductive FreshnessBucket
  | openFar
  | openNear
  | rollingOpen
  | upcomingNear
  | upcomingFar
  | expectedOrUnknown
  | closedArchive
deriving DecidableEq, Repr

structure FreshnessConfig where
  nearDeadlineDays : ℤ
  upcomingNearMonths : ℤ
  upcomingFarMonths : ℤ
  openFarFetchHours : ℤ
  openFarMaxAgeHours : ℤ
  openNearFetchHours : ℤ
  openNearMaxAgeHours : ℤ
  rollingFetchHours : ℤ
  rollingMaxAgeHours : ℤ
  upcomingNearFetchHours : ℤ
  upcomingFarFetchHours : ℤ
  upcomingMaxAgeHours : ℤ
  unknownFetchHours : ℤ
  unknownMaxAgeHours : ℤ
  closedFetchHours : ℤ
  closedMaxAgeHours : ℤ
deriving DecidableEq, Repr

/-- `_FETCH_HOURS_FIELD` -/
def fetchHours (cfg : FreshnessConfig) : FreshnessBucket → ℤ
  | .openFar => cfg.openFarFetchHours
  | .openNear => cfg.openNearFetchHours
  | .rollingOpen => cfg.rollingFetchHours
  | .upcomingNear => cfg.upcomingNearFetchHours
  | .upcomingFar => cfg.upcomingFarFetchHours
  | .expectedOrUnknown => cfg.unknownFetchHours
  | .closedArchive => cfg.closedFetchHours

/-- `_MAX_AGE_HOURS_FIELD` -/
def maxAgeHours (cfg : FreshnessConfig) : FreshnessBucket → ℤ
  | .openFar => cfg.openFarMaxAgeHours
  | .openNear => cfg.openNearMaxAgeHours
  | .rollingOpen => cfg.rollingMaxAgeHours
  | .upcomingNear => cfg.upcomingMaxAgeHours
  | .upcomingFar => cfg.upcomingMaxAgeHours
  | .expectedOrUnknown => cfg.unknownMaxAgeHours
  | .closedArchive => cfg.closedMaxAgeHours

def fetchInterval (bucket : FreshnessBucket) (cfg : FreshnessConfig) : Except PyErr Timedelta :=
  timedelta hour (fetchHours cfg bucket)

def maxEvidenceAge (bucket : FreshnessBucket) (cfg : FreshnessConfig) : Except PyErr Timedelta :=
  timedelta hour (maxAgeHours cfg bucket)

/-- The bucket of a cycle that is not stored as open, by the months until it reopens. -/
def upcomingBucket (publicStatus : PublicStatus) (expectedReopenMonth : Option ℕ)
    (now : Instant) (cfg : FreshnessConfig) : FreshnessBucket :=
  match publicStatus, expectedReopenMonth with
  | .expectedToReopen, some month =>
    let monthsUntilReopen : ℤ := (month - (yearMonth now).2) % 12
    if monthsUntilReopen ≤ cfg.upcomingNearMonths then .upcomingNear
    else if monthsUntilReopen ≤ cfg.upcomingFarMonths then .upcomingFar
    else .expectedOrUnknown
  | _, _ => .expectedOrUnknown

/-- Bucket one cycle into the cadence table. -/
def classifyBucket (py : Py) (publicStatus : PublicStatus) (deadline : Deadline)
    (expectedReopenMonth : Option ℕ) (now : Instant) (cfg : FreshnessConfig) :
    Except PyErr FreshnessBucket :=
  if publicStatus = .openVerified then do
    match ← deadline.cutoff py with
    | none => return .rollingOpen
    | some cutoff =>
      let near ← timedelta day cfg.nearDeadlineDays
      if cutoff - now ≤ near then return .openNear
      return .openFar
  else .ok (upcomingBucket publicStatus expectedReopenMonth now cfg)

def isReverifyDue (bucket : FreshnessBucket) (lastVerifiedAt : Option Instant) (now : Instant)
    (cfg : FreshnessConfig) : Except PyErr Bool :=
  match lastVerifiedAt with
  | none => .ok true
  | some verified => do
    let interval ← fetchInterval bucket cfg
    return interval ≤ now - verified

/-- The deterministic unchanged-evidence recheck rule: the same page fetched successfully,
the same hash, and status rules still pass. -/
def isUnchangedRecheck (previousHash : Option String) (newHash : String) (httpStatus : ℕ)
    (statusStillValid : Bool) : Bool :=
  previousHash.any fun previous =>
    200 ≤ httpStatus && httpStatus < 400 && newHash = previous && statusStillValid

variable {py : Py}

/-- The bucket of an open cycle, once its cutoff is known. -/
lemma classifyBucket_openVerified {d : Deadline} {cutoff : Option Instant}
    (hcut : d.cutoff py = .ok cutoff) (month : Option ℕ) (now : Instant)
    (cfg : FreshnessConfig) :
    classifyBucket py .openVerified d month now cfg =
      match cutoff with
      | none => .ok .rollingOpen
      | some c => (timedelta day cfg.nearDeadlineDays).map fun near =>
          if c - now ≤ near then .openNear else .openFar := by
  simp only [classifyBucket, if_true, hcut]
  cases cutoff with
  | none => rfl
  | some c =>
    cases hn : timedelta day cfg.nearDeadlineDays with
    | error e => rfl
    | ok near =>
      by_cases h : c - now ≤ near <;> simp [h, bind, Except.bind, pure, Except.pure, Except.map]

/-- A bucket can be given to an open cycle only when its cutoff can be computed. -/
lemma cutoff_of_classifyBucket {d : Deadline} {month : Option ℕ} {now : Instant}
    {cfg : FreshnessConfig} {bucket : FreshnessBucket}
    (h : classifyBucket py .openVerified d month now cfg = .ok bucket) :
    ∃ cutoff, d.cutoff py = .ok cutoff := by
  cases hcut : d.cutoff py with
  | ok cutoff => exact ⟨cutoff, rfl⟩
  | error e => simp [classifyBucket, hcut, bind, Except.bind] at h

end ScholarshipFinder
