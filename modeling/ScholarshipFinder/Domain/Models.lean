import ScholarshipFinder.Lib.Table
import ScholarshipFinder.Python

/-!
# The stored records

The tables the publication and freshness code reads and writes.  Primary keys are natural
numbers; a row does not repeat its own key.  Columns that none of that code reads (names,
slugs, award types, audit data) are left out.
-/

namespace ScholarshipFinder

open Lib

inductive RecordState
  | discovered
  | needsReview
  | published
  | withdrawn
deriving DecidableEq, Repr

inductive PublicStatus
  | openVerified
  | expectedToReopen
  | statusUnknown
deriving DecidableEq, Repr

/-- Whether a deadline is a calendar date or a precise instant. -/
inductive DeadlinePrecision
  | date
  | datetime
deriving DecidableEq, Repr

abbrev ScholarshipId := ℕ
abbrev CycleId := ℕ
abbrev SourceId := ℕ
abbrev PageId := ℕ

structure Scholarship where
  lifecycleState : RecordState
deriving DecidableEq, Repr

structure ScholarshipCycle where
  scholarshipId : ScholarshipId
  providerCycleKey : String
  applicantSegment : String
  officialCycleUrl : String
  publicStatus : PublicStatus
  statusValidUntil : Option Instant
  lastVerifiedAt : Option Instant
  facts : Json
  /-- The page that `reverify_due` re-fetches; null until its first encounter. -/
  sourcePageId : Option PageId
  /-- Set when `refresh_status` downgrades the cycle for evidence staleness. -/
  autoDowngraded : Bool
  createdAt : Instant

structure Source where
  name : String
  approvedDomains : List String
  active : Bool
deriving DecidableEq, Repr

structure SourcePage where
  sourceId : SourceId
  normalizedUrl : String
  normalizedContentHash : Option String
  lastAttemptedAt : Option Instant
  lastSuccessfulFetchAt : Option Instant
  httpStatus : Option ℕ
  finalUrl : Option String
  /-- Touched whenever a feed row reports this URL again. -/
  lastSeenAt : Option Instant := none
deriving DecidableEq, Repr

structure SourceSnapshot where
  pageId : PageId
  fetchedAt : Instant
  contentHash : String
  extractorVersion : String
  contentType : String
  byteLength : ℕ
deriving DecidableEq, Repr

inductive TaskState
  | opened
  | resolved
deriving DecidableEq, Repr

structure ReviewTask where
  cycleId : Option CycleId
  reason : String
  state : TaskState
  resolution : Option String
  draftRecommendation : Json

/-- The open, unresolved tasks, at most one of which a cycle may have
(`uq_review_tasks_open_per_cycle`). -/
def ReviewTask.live (task : ReviewTask) : Bool :=
  task.state = .opened ∧ task.resolution = none

/-- The database. -/
structure Db where
  scholarships : Table ScholarshipId Scholarship
  cycles : Table CycleId ScholarshipCycle
  sources : Table SourceId Source
  pages : Table PageId SourcePage
  snapshots : List SourceSnapshot
  tasks : List ReviewTask
  /-- `ResearchProviderUsage`: calls used, by provider and calendar month. -/
  usage : Table (String × ℕ × ℕ) ℕ

/-- `ScholarshipCycle.scholarship.has(lifecycle_state=RecordState.published)` -/
def Db.isPublished (db : Db) (cycle : ScholarshipCycle) : Bool :=
  (db.scholarships.row cycle.scholarshipId).any fun s => s.lifecycleState = .published

end ScholarshipFinder
