import ScholarshipFinder.Lib.Run
import ScholarshipFinder.Calendar
import ScholarshipFinder.Infra.Jobs
import ScholarshipFinder.Infra.Outbox

/-!
# The job route (`api/routes.py`, `_enqueue`; `infra/worker.py`, `execute_job`)

A delivery enqueues a job and runs it before it is acknowledged.  The body of a schedule is the
same at every delivery, so its dedupe key is computed here, from the time; that of any other
message is taken as it is.

A handler is what it makes of the outbox, and how it ends; the steps that it takes in the queue,
and those that other workers take meanwhile, are part of the delivery.  Only the dispatch of the
outbox is written out.
-/

namespace ScholarshipFinder

open Lib

/-! ## Keys -/

/-- `ALLOWED_JOB_KINDS` (`infra/qstash.py`) -/
def allowedJobKinds : List String :=
  ["import_feed", "fetch_source_page", "normalize_discovery", "link_canonical",
    "extract_candidate", "prepare_review", "refresh_status", "reverify_due", "dispatch_outbox",
    "reconcile_stuck_jobs", "sync_countries", "harvest_parsebot", "harvest_tavily",
    "sweep_due_jobs", "auto_approve_sweep"]

def recurringWeeklyKinds : List String := ["harvest_parsebot", "harvest_tavily", "sync_countries"]

def recurringQuarterHourKinds : List String :=
  ["refresh_status", "reverify_due", "sweep_due_jobs", "reconcile_stuck_jobs"]

def recurringHourlyKinds : List String := ["auto_approve_sweep"]

/-- `f"{n:02d}"` -/
def pad2 (n : ℕ) : String := if n < 10 then "0" ++ toString n else toString n

/-- `_weekly_dedupe_key` -/
def weeklyDedupeKey (kind : String) (now : Instant) : String :=
  let isoYear := (isoWeek (now / day)).1
  let week := (isoWeek (now / day)).2
  kind ++ ":" ++ (toString isoYear.toNat ++ ("-W" ++ pad2 week.toNat))

def quarterHour : Timedelta := 15 * minute

/-- The start of the quarter of an hour or of the hour, in UTC. -/
def bucket (unit : Timedelta) (now : Instant) : DateTime := ⟨now / unit * unit, some 0⟩

/-- `_quarter_hour_dedupe_key` -/
def quarterHourDedupeKey (py : Py) (kind : String) (now : Instant) : String :=
  kind ++ ":" ++ py.isoformat (bucket quarterHour now)

/-- `_hourly_dedupe_key` -/
def hourlyDedupeKey (py : Py) (kind : String) (now : Instant) : String :=
  kind ++ ":" ++ py.isoformat (bucket hour now)

/-- The key that the body of a schedule carries. -/
def scheduledPlaceholder (kind : String) : String := kind ++ ":scheduled"

/-- The key under which `_enqueue` enqueues. -/
def dedupeKeyAt (py : Py) (kind dedupeKey : String) (now : Instant) : String :=
  if dedupeKey = scheduledPlaceholder kind then
    if kind ∈ recurringWeeklyKinds then weeklyDedupeKey kind now
    else if kind ∈ recurringQuarterHourKinds then quarterHourDedupeKey py kind now
    else if kind ∈ recurringHourlyKinds then hourlyDedupeKey py kind now
    else dedupeKey
  else dedupeKey

/-! ## Execution -/

structure JobRequest where
  dedupeKey : String
  payload : Json := .obj []

structure JobResponse where
  jobId : JobId
  state : JobState
  created : Bool

structure HttpException where
  statusCode : ℕ
  detail : String

/-- The queue with its workers, and the outbox. -/
structure JobService (ι : Type) where
  queue : Workers ι
  outbox : Outbox

/-- A delivery, and what happens while it is handled. -/
structure Delivery (ι : Type) where
  worker : ι
  now : Instant
  settings : DispatchSettings
  send : List (EventId × OutboxEvent) → Except PyErr Unit
  /-- The steps in the queue while the handler runs, its own and those of others. -/
  meanwhile : List (JobStep ι)
  /-- A handler other than the dispatch of the outbox. -/
  handler : Outbox → Except String Unit × Outbox
  /-- What reading a column of an expired object raises. -/
  expired : String

/-- What became of a delivery; there is no response while it waits for a lock. -/
structure Handling where
  jobId : Option JobId
  created : Bool
  /-- The handler was entered. -/
  executed : Bool
  response : Option (Except HttpException JobResponse)

variable {ι : Type} [DecidableEq ι]

namespace Delivery

def step (d : Delivery ι) (op : JobOp) : JobStep ι := ⟨d.worker, d.now, op⟩

/-- The handler of a kind. -/
def handle (py : Py) (d : Delivery ι) (kind : String) (outbox : Outbox) :
    Except String Unit × Outbox :=
  if kind = "dispatch_outbox" then
    let (counts, outbox) := dispatchAnalyticsEvents py d.settings d.send d.now 100 outbox
    (match counts with
      | .ok _ => .ok ()
      | .error e => .error e.msg, outbox)
  else if kind = "import_feed" then (.error ("No worker handler for " ++ kind), outbox)
  else d.handler outbox

end Delivery

/-- A request begins with a new session of the worker. -/
def openSession (queue : Workers ι) (i : ι) : Workers ι :=
  queue.stepAt i fun _ store => (Worker.idle, store.release i)

/-- The handler is left; whatever executions it was in are over. -/
def leaveHandler (queue : Workers ι) (i : ι) (id : JobId) : Workers ι :=
  queue.stepAt i fun worker store => ({ worker with executing := [id] }, store)

/-- The end of `execute_job`: the outcome is recorded, unless the row is locked.  Recording a
failure reads the job, which raises if the object is expired. -/
def recordOutcome (d : Delivery ι) (id : JobId) (outcome : Except String Unit)
    (queue : Workers ι) : Option (Except String JobState) × Workers ι :=
  if queue.shared.free d.worker id then
    match outcome with
    | .ok _ => (some (.ok finishJob.state), jobStep queue (d.step .complete))
    | .error error =>
      (some (.error (if ((queue.proc d.worker).loaded id).isSome then error else d.expired)),
        jobStep queue (d.step (.fail error)))
  else (none, queue)

/-- `execute_job`, with whether the handler was entered. -/
def executeJob (py : Py) (d : Delivery ι) (id : JobId) (s : JobService ι) :
    Bool × Option (Except String JobState) × JobService ι :=
  match s.queue.shared.rows.row id with
  | none => (false, some (.error "Job not found"), s)
  | some row =>
    if s.queue.shared.free d.worker id then
      let job := ((s.queue.proc d.worker).loaded id).getD row
      let claimed := jobStep s.queue (d.step (.claim id))
      match claimJob job.state job.attempts d.now job.nextAttemptAt with
      | .error e => (false, some (.error e.msg), { s with queue := claimed })
      | .ok _ =>
        let (outcome, outbox) := d.handle py job.kind s.outbox
        let queue := leaveHandler (run jobStep claimed d.meanwhile) d.worker id
        let (result, queue) := recordOutcome d id outcome queue
        (true, result, ⟨queue, outbox⟩)
    else (false, none, s)

/-! ## The route -/

/-- `_enqueue` -/
def enqueue (py : Py) (kind : String) (request : JobRequest) (d : Delivery ι) (s : JobService ι) :
    Handling × JobService ι :=
  if kind ∉ allowedJobKinds then
    (⟨none, false, false, some (.error ⟨404, "Unknown job kind"⟩)⟩, s)
  else
    let key := dedupeKeyAt py kind request.dedupeKey d.now
    let found := s.queue.shared.rows.findKey fun job => job.dedupeKey = key
    let newId := s.queue.shared.rows.nextKey
    let id := found.getD newId
    let created := found.isNone
    let queue := jobStep (openSession s.queue d.worker)
      (d.step (.enqueue newId kind key request.payload))
    match (queue.proc d.worker).loaded id with
    -- the row was just committed
    | none => (⟨some id, created, false, none⟩, { s with queue := queue })
    | some job =>
      if job.isDue d.now then
        let (executed, result, s) := executeJob py d id { s with queue := queue }
        let respond : Except String JobState → Except HttpException JobResponse
          | .ok state => .ok ⟨id, state, created⟩
          | .error exc =>
            let lastError := (s.queue.shared.rows.row id).bind (·.lastError)
            let reason := (lastError.filter (· ≠ "")).getD exc
            .error ⟨502, "Job execution failed: " ++ reason⟩
        (⟨some id, created, executed, result.map respond⟩, s)
      else (⟨some id, created, false, some (.ok ⟨id, job.state, created⟩)⟩,
        { s with queue := queue })

/-- The body that the script of a schedule stores. -/
def scheduledBody (kind : String) : JobRequest := ⟨scheduledPlaceholder kind, .obj []⟩

end ScholarshipFinder
