import ScholarshipFinder.Jobs.DedupeKey
import ScholarshipFinder.Jobs.History

/-!
# The deliveries of a schedule

A schedule delivers one body again and again, and meanwhile the workers do whatever they do.  The
table keeps one row for each key, and the rows under the keys of the schedule are those of the
jobs that its deliveries were given; so a delivery finds a job exactly if an earlier one was given
the same key.
-/

namespace ScholarshipFinder

open Lib

variable {ι : Type} [DecidableEq ι] {py : Py} {kind : String}

/-! ## The keys of the table -/

/-- The keys are unique, and what is locked is a row. -/
structure Keyed (store : JobStore ι) : Prop where
  unique : ∀ id id' row row', store.rows.row id = some row → store.rows.row id' = some row' →
    row.dedupeKey = row'.dedupeKey → id = id'
  locked : ∀ id, store.lockedBy id ≠ none → ∃ row, store.rows.row id = some row

omit [DecidableEq ι] in
lemma keyed_noJobs : Keyed (noJobs ι).shared where
  unique := by
    intro id id' row row' hrow
    simp [noJobs, Table.empty] at hrow
  locked := by
    intro id hlocked
    exact absurd rfl hlocked

section

variable {queue : Workers ι} {s : JobStep ι} {id : JobId} {row : ProcessingJob}

/-- A row keeps its key. -/
lemma jobStep_keeps_key (hrow : queue.shared.rows.row id = some row) :
    ∃ row', (jobStep queue s).shared.rows.row id = some row' ∧
      row'.dedupeKey = row.dedupeKey := by
  obtain ⟨row', hrow', hchange⟩ := jobStep_row (s := s) hrow
  exact ⟨row', hrow', hchange.dedupeKey⟩

/-- The key of a row was its key before, or the row was enqueued under it. -/
lemma jobStep_key (hrow : (jobStep queue s).shared.rows.row id = some row) :
    (∃ old, queue.shared.rows.row id = some old ∧ old.dedupeKey = row.dedupeKey) ∨
      ∃ kind payload, s.op = .enqueue id kind row.dedupeKey payload ∧
        ∀ j old, queue.shared.rows.row j = some old → old.dedupeKey ≠ row.dedupeKey := by
  cases hold : queue.shared.rows.row id with
  | none =>
    right
    obtain ⟨kind, key, payload, hop, rfl, hfind⟩ := jobStep_enqueued hold hrow
    refine ⟨kind, payload, hop, ?_⟩
    intro j old hj
    simpa using Table.findKey_eq_none.mp hfind j old hj
  | some old =>
    left
    obtain ⟨row', hrow', hkey⟩ := jobStep_keeps_key (s := s) hold
    obtain rfl := Option.some.inj (hrow.symm.trans hrow')
    exact ⟨old, rfl, hkey.symm⟩

theorem Keyed.jobStep (h : Keyed queue.shared) (s : JobStep ι) :
    Keyed (ScholarshipFinder.jobStep queue s).shared where
  unique := by
    intro id id' row row' hrow hrow' hkey
    rcases jobStep_key hrow with ⟨old, hold, hold_key⟩ | ⟨kind, payload, hop, hnew⟩
    · rcases jobStep_key hrow' with ⟨old', hold', hold_key'⟩ | ⟨kind', payload', hop', hnew'⟩
      · exact h.unique id id' old old' hold hold' (by rw [hold_key, hkey, hold_key'])
      · exact absurd (hold_key.trans hkey) (hnew' id old hold)
    · rcases jobStep_key hrow' with ⟨old', hold', hold_key'⟩ | ⟨kind', payload', hop', hnew'⟩
      · exact absurd (hold_key'.trans hkey.symm) (hnew id' old' hold')
      · -- one step enqueues one job
        rw [hop] at hop'
        injection hop'
  locked := by
    intro id hlocked
    have hrow : ∃ row, queue.shared.rows.row id = some row := by
      rcases jobStep_lockedBy hlocked with hold | hrow
      · exact h.locked id hold
      · exact hrow
    obtain ⟨row, hrow⟩ := hrow
    obtain ⟨row', hrow', -⟩ := jobStep_keeps_key (s := s) hrow
    exact ⟨row', hrow'⟩

lemma Keyed.openSession (h : Keyed queue.shared) (i : ι) : Keyed (openSession queue i).shared where
  unique := h.unique
  locked := by
    intro id hlocked
    refine h.locked id ?_
    simp only [ScholarshipFinder.openSession, Pool.stepAt, JobStore.release] at hlocked
    split at hlocked
    · exact absurd rfl hlocked
    · exact hlocked

omit [DecidableEq ι] in
/-- The row under a key is the one that is found. -/
lemma Keyed.findKey {store : JobStore ι} (h : Keyed store) {key : String}
    (hrow : store.rows.row id = some row) (hkey : row.dedupeKey = key) :
    (store.rows.findKey fun job => job.dedupeKey = key) = some id := by
  cases hfind : store.rows.findKey fun job => job.dedupeKey = key with
  | none =>
    have hne := Table.findKey_eq_none.mp hfind id row hrow
    simp [hkey] at hne
  | some found =>
    obtain ⟨row', hrow', hkey'⟩ := Table.findKey_eq_some hfind
    have hkey' : row'.dedupeKey = key := by simpa using hkey'
    rw [h.unique found id row' row hrow' hrow (hkey'.trans hkey.symm)]

end

/-! ## The log of the deliveries -/

/-- The deliveries so far, with the jobs they were given, the latest first. -/
abbrev DeliveryLog := List (Instant × JobId)

/-- The rows under the keys of the schedule are those of the jobs in the log. -/
structure Logged (py : Py) (kind : String) (store : JobStore ι) (log : DeliveryLog) : Prop where
  timely : ∀ e ∈ log, Timely py e.1
  delivered : ∀ e ∈ log, ∃ row, store.rows.row e.2 = some row ∧
    row.dedupeKey = scheduledKey py kind e.1
  known : ∀ t, Timely py t → ∀ id row, store.rows.row id = some row →
    row.dedupeKey = scheduledKey py kind t → ∃ e ∈ log, e.2 = id

/-- The step does not enqueue under a key of the schedule. -/
def Foreign (py : Py) (kind : String) (s : JobStep ι) : Prop :=
  ∀ id kind' key payload, s.op = .enqueue id kind' key payload →
    ∀ t, Timely py t → key ≠ scheduledKey py kind t

section

variable {queue : Workers ι} {log : DeliveryLog}

theorem Logged.jobStep (h : Logged py kind queue.shared log) {s : JobStep ι}
    (hs : Foreign py kind s) :
    Logged py kind (ScholarshipFinder.jobStep queue s).shared log where
  timely := h.timely
  delivered := by
    intro e he
    obtain ⟨row, hrow, hkey⟩ := h.delivered e he
    obtain ⟨row', hrow', hkey'⟩ := jobStep_keeps_key (s := s) hrow
    exact ⟨row', hrow', hkey'.trans hkey⟩
  known := by
    intro t ht id row hrow hkey
    rcases jobStep_key hrow with ⟨old, hold, hold_key⟩ | ⟨kind', payload, hop, -⟩
    · exact h.known t ht id old hold (hold_key.trans hkey)
    · exact absurd hkey (hs _ _ _ _ hop t ht)

/-- The row that an enqueueing finds or makes. -/
lemma exists_row_enqueued (queue : Workers ι) {i : ι} {now : Instant} {kind' key : String}
    {payload : Json} :
    ∃ row, (ScholarshipFinder.jobStep queue
        ⟨i, now, .enqueue queue.shared.rows.nextKey kind' key payload⟩).shared.rows.row
          ((queue.shared.rows.findKey fun job => job.dedupeKey = key).getD
            queue.shared.rows.nextKey) = some row ∧ row.dedupeKey = key := by
  rw [jobStep_shared]
  simp only [JobStep.perform, enqueueJob]
  cases hfind : queue.shared.rows.findKey fun job => job.dedupeKey = key with
  | some found =>
    obtain ⟨row, hrow, hkey⟩ := Table.findKey_eq_some hfind
    exact ⟨row, hrow, by simpa using hkey⟩
  | none =>
    simp only [Table.row_nextKey, Option.isSome_none, Bool.false_eq_true, if_false]
    exact ⟨_, Table.row_insert_self _ _ _, rfl⟩

/-- The delivery is given the job under its key. -/
theorem Logged.enqueue (h : Logged py kind queue.shared log) {i : ι} {now : Instant}
    (hnow : Timely py now) (payload : Json) :
    Logged py kind (ScholarshipFinder.jobStep queue ⟨i, now,
        .enqueue queue.shared.rows.nextKey kind (scheduledKey py kind now) payload⟩).shared
      ((now, (queue.shared.rows.findKey fun job =>
        job.dedupeKey = scheduledKey py kind now).getD queue.shared.rows.nextKey) :: log) where
  timely := by
    intro e he
    rcases List.mem_cons.mp he with rfl | he
    · exact hnow
    · exact h.timely e he
  delivered := by
    intro e he
    rcases List.mem_cons.mp he with rfl | he
    · exact exists_row_enqueued queue
    · obtain ⟨row, hrow, hkey⟩ := h.delivered e he
      obtain ⟨row', hrow', hkey'⟩ := jobStep_keeps_key hrow
      exact ⟨row', hrow', hkey'.trans hkey⟩
  known := by
    intro t ht id row hrow hkey
    rcases jobStep_key hrow with ⟨old, hold, hold_key⟩ | ⟨kind', payload', hop, hnew⟩
    · obtain ⟨e, he, hid⟩ := h.known t ht id old hold (hold_key.trans hkey)
      exact ⟨e, List.mem_cons_of_mem _ he, hid⟩
    · injection hop with hid _ hkey' _
      refine ⟨_, List.mem_cons_self, ?_⟩
      -- no row had the key
      have hnone : (queue.shared.rows.findKey fun job =>
          job.dedupeKey = scheduledKey py kind now) = none := by
        rw [Table.findKey_eq_none, hkey']
        intro j old hj
        simpa using hnew j old hj
      rw [hnone]
      exact hid

omit [DecidableEq ι] in
/-- A delivery finds the job of those that were given its key. -/
lemma Logged.findKey_eq_some_iff (h : Logged py kind queue.shared log)
    (hkeyed : Keyed queue.shared) {now : Instant} (hnow : Timely py now) {id : JobId} :
    (queue.shared.rows.findKey fun job => job.dedupeKey = scheduledKey py kind now) = some id ↔
      ∃ e ∈ log, scheduledKey py kind e.1 = scheduledKey py kind now ∧ e.2 = id := by
  constructor
  · intro hfind
    obtain ⟨row, hrow, hkey⟩ := Table.findKey_eq_some hfind
    have hkey : row.dedupeKey = scheduledKey py kind now := by simpa using hkey
    obtain ⟨e, he, rfl⟩ := h.known now hnow id row hrow hkey
    obtain ⟨row', hrow', hkey'⟩ := h.delivered e he
    obtain rfl := Option.some.inj (hrow.symm.trans hrow')
    exact ⟨e, he, hkey'.symm.trans hkey, rfl⟩
  · rintro ⟨e, he, hsame, rfl⟩
    obtain ⟨row, hrow, hkey⟩ := h.delivered e he
    exact hkeyed.findKey hrow (hkey.trans hsame)

end

/-! ## One delivery -/

section

variable {I : Workers ι → Prop} {d : Delivery ι}

/-- The queue once the job of a delivery is there. -/
def enqueued (d : Delivery ι) (kind key : String) (payload : Json) (queue : Workers ι) :
    Workers ι :=
  jobStep (openSession queue d.worker)
    (d.step (.enqueue queue.shared.rows.nextKey kind key payload))

/-- What the steps of an execution keep, the execution keeps. -/
theorem executeJob_keeps (id : JobId) {s : JobService ι}
    (hown : ∀ queue op, (∀ id kind key payload, op ≠ .enqueue id kind key payload) → I queue →
      I (jobStep queue (d.step op)))
    (hothers : ∀ queue, ∀ step ∈ d.meanwhile, I queue → I (jobStep queue step))
    (hleave : ∀ queue id, I queue → I (leaveHandler queue d.worker id)) (hs : I s.queue) :
    I (executeJob py d id s).2.2.queue := by
  have hmeanwhile : ∀ (steps : List (JobStep ι)) queue, (∀ step ∈ steps, step ∈ d.meanwhile) →
      I queue → I (run jobStep queue steps) := by
    intro steps
    induction steps with
    | nil => exact fun _ _ h => h
    | cons step steps ih =>
      intro queue hmem h
      rw [run_cons]
      exact ih _ (fun s hs => hmem s (List.mem_cons_of_mem _ hs))
        (hothers queue step (hmem step List.mem_cons_self) h)
  have hrecord : ∀ queue id outcome, I queue → I (recordOutcome d id outcome queue).2 := by
    intro queue id outcome h
    cases outcome with
    | ok _ =>
      simp only [recordOutcome]
      split
      · exact hown _ .complete (by simp) h
      · exact h
    | error error =>
      simp only [recordOutcome]
      split
      · exact hown _ (.fail error) (by simp) h
      · exact h
  rw [executeJob]
  split
  · exact hs
  · split
    · have hclaim := hown s.queue (.claim id) (by simp) hs
      dsimp only
      split
      · exact hclaim
      · have hrun := hleave _ id (hmeanwhile d.meanwhile _ (fun _ h => h) hclaim)
        exact hrecord _ id _ hrun
    · exact hs

/-- So does a delivery, once the job is there. -/
theorem enqueue_keeps (request : JobRequest) {s : JobService ι} (hkind : kind ∈ allowedJobKinds)
    (hown : ∀ queue op, (∀ id kind key payload, op ≠ .enqueue id kind key payload) → I queue →
      I (jobStep queue (d.step op)))
    (hothers : ∀ queue, ∀ step ∈ d.meanwhile, I queue → I (jobStep queue step))
    (hleave : ∀ queue id, I queue → I (leaveHandler queue d.worker id))
    (hs : I (enqueued d kind (dedupeKeyAt py kind request.dedupeKey d.now) request.payload
      s.queue)) :
    I (enqueue py kind request d s).2.queue := by
  rw [enqueue, if_neg (not_not_intro hkind)]
  dsimp only
  split
  · exact hs
  · split
    · exact executeJob_keeps _ hown hothers hleave hs
    · exact hs

/-- A delivery names the job that it found or made. -/
lemma enqueue_jobId (py : Py) (request : JobRequest) (d : Delivery ι) (s : JobService ι)
    (hkind : kind ∈ allowedJobKinds) :
    (enqueue py kind request d s).1.jobId = some ((s.queue.shared.rows.findKey fun job =>
        job.dedupeKey = dedupeKeyAt py kind request.dedupeKey d.now).getD
          s.queue.shared.rows.nextKey) ∧
      (enqueue py kind request d s).1.created = (s.queue.shared.rows.findKey fun job =>
        job.dedupeKey = dedupeKeyAt py kind request.dedupeKey d.now).isNone := by
  rw [enqueue, if_neg (not_not_intro hkind)]
  dsimp only
  split
  · exact ⟨rfl, rfl⟩
  · split <;> exact ⟨rfl, rfl⟩

section

variable {queue : Workers ι} {key : String}

/-- The job that a delivery has found, in the table and in the session. -/
lemma enqueued_found (d : Delivery ι) (kind : String) (payload : Json) {id : JobId}
    {row : ProcessingJob}
    (hfind : (queue.shared.rows.findKey fun job => job.dedupeKey = key) = some id)
    (hrow : queue.shared.rows.row id = some row) :
    (enqueued d kind key payload queue).shared.rows = queue.shared.rows ∧
      ((enqueued d kind key payload queue).proc d.worker).loaded id = some row := by
  refine ⟨?_, ?_⟩
  · simp [enqueued, jobStep, Pool.stepAt, openSession, Delivery.step, JobStep.perform, enqueueJob,
      JobStore.release, hfind]
  · simp [enqueued, jobStep, Pool.stepAt, openSession, Delivery.step, JobStep.perform, enqueueJob,
      JobStore.release, Worker.load, Worker.idle, hfind, hrow]

/-- The job that a delivery has made; nobody else has a lock on it. -/
lemma enqueued_new (d : Delivery ι) (kind : String) (payload : Json) (hkeyed : Keyed queue.shared)
    (hfind : (queue.shared.rows.findKey fun job => job.dedupeKey = key) = none) :
    let job : ProcessingJob := { kind := kind, dedupeKey := key, payload := payload }
    (enqueued d kind key payload queue).shared.rows.row queue.shared.rows.nextKey = some job ∧
      ((enqueued d kind key payload queue).proc d.worker).loaded queue.shared.rows.nextKey =
        some job ∧
      (enqueued d kind key payload queue).shared.free d.worker queue.shared.rows.nextKey =
        true := by
  have hunlocked : queue.shared.lockedBy queue.shared.rows.nextKey = none := by
    by_contra hlocked
    obtain ⟨row, hrow⟩ := hkeyed.locked _ hlocked
    rw [Table.row_nextKey] at hrow
    cases hrow
  refine ⟨?_, ?_, ?_⟩
  · simp [enqueued, jobStep, Pool.stepAt, openSession, Delivery.step, JobStep.perform, enqueueJob,
      JobStore.release, hfind]
  · simp [enqueued, jobStep, Pool.stepAt, openSession, Delivery.step, JobStep.perform, enqueueJob,
      JobStore.release, Worker.load, Worker.idle, hfind]
  · simp [enqueued, jobStep, Pool.stepAt, openSession, Delivery.step, JobStep.perform, enqueueJob,
      JobStore.release, JobStore.free, hfind, hunlocked]

end

/-- A delivery that finds no job executes the one that it makes. -/
lemma enqueue_new (py : Py) (request : JobRequest) (d : Delivery ι) {s : JobService ι}
    (hkind : kind ∈ allowedJobKinds) (hkeyed : Keyed s.queue.shared)
    (hfind : (s.queue.shared.rows.findKey fun job =>
      job.dedupeKey = dedupeKeyAt py kind request.dedupeKey d.now) = none) :
    let execution := executeJob py d s.queue.shared.rows.nextKey
      ⟨enqueued d kind (dedupeKeyAt py kind request.dedupeKey d.now) request.payload s.queue,
        s.outbox⟩
    (enqueue py kind request d s).1.executed = execution.1 ∧
      (enqueue py kind request d s).2 = execution.2.2 := by
  obtain ⟨-, hloaded, -⟩ := enqueued_new d kind request.payload hkeyed hfind
  simp only [enqueued] at hloaded
  rw [enqueue, if_neg (not_not_intro hkind)]
  simp only [hfind, Option.getD_none, hloaded]
  rw [if_pos (by simp [ProcessingJob.isDue])]
  exact ⟨rfl, rfl⟩

/-- A job that a delivery has made is executed. -/
lemma enqueue_executed (py : Py) (request : JobRequest) (d : Delivery ι) {s : JobService ι}
    (hkind : kind ∈ allowedJobKinds) (hkeyed : Keyed s.queue.shared)
    (hfind : (s.queue.shared.rows.findKey fun job =>
      job.dedupeKey = dedupeKeyAt py kind request.dedupeKey d.now) = none) :
    (enqueue py kind request d s).1.executed = true := by
  obtain ⟨hrow, hloaded, hfree⟩ := enqueued_new d kind request.payload hkeyed hfind
  rw [(enqueue_new py request d hkind hkeyed hfind).1]
  simp [executeJob, hrow, hfree, hloaded, claimJob]

end

/-! ## Runs -/

/-- A step of the service: the schedule delivers its body, or a worker takes a step. -/
inductive ServiceStep (ι : Type)
  | deliver (d : Delivery ι)
  | other (s : JobStep ι)

/-- The service after a step, under the schedule of a kind. -/
def serviceStep (py : Py) (kind : String) (s : JobService ι) : ServiceStep ι → JobService ι
  | .deliver d => (enqueue py kind (scheduledBody kind) d s).2
  | .other step => { s with queue := jobStep s.queue step }

/-- The log after a step. -/
def logStep (py : Py) (kind : String) (log : DeliveryLog) (s : JobService ι) :
    ServiceStep ι → DeliveryLog
  | .deliver d =>
    match (enqueue py kind (scheduledBody kind) d s).1.jobId with
    | some id => (d.now, id) :: log
    | none => log
  | .other _ => log

/-- One step, with the log. -/
def scheduleStep (ι : Type) [DecidableEq ι] (py : Py) (kind : String) :
    JobService ι × DeliveryLog → ServiceStep ι → JobService ι × DeliveryLog :=
  withHistory (serviceStep py kind) (logStep py kind)

/-- Where every run begins. -/
def scheduleStart (ι : Type) (outbox : Outbox) : JobService ι × DeliveryLog :=
  (⟨noJobs ι, outbox⟩, [])

/-- The deliveries are made in the time of a `datetime`, and nothing else enqueues under the keys
of the schedule. -/
def ServiceStep.Admissible (py : Py) (kind : String) : ServiceStep ι → Prop
  | .deliver d => Timely py d.now ∧ ∀ step ∈ d.meanwhile, Foreign py kind step
  | .other step => Foreign py kind step

/-- A delivery is given the job of the earlier deliveries in its period; if there was none, a new
job is made and executed. -/
def Recurs (py : Py) (kind : String) (p : JobService ι × DeliveryLog) : ServiceStep ι → Prop
  | .deliver d =>
    let handling := (enqueue py kind (scheduledBody kind) d p.1).1
    (∀ e ∈ p.2, period kind e.1 = period kind d.now → handling.jobId = some e.2) ∧
      ((∀ e ∈ p.2, period kind e.1 ≠ period kind d.now) →
        handling.created = true ∧ handling.executed = true)
  | .other _ => True

/-- The kind is in one of the three sets; or there was no delivery before, or one in the same
period. -/
def MayRecur (kind : String) (p : JobService ι × DeliveryLog) : ServiceStep ι → Prop
  | .deliver d =>
    kind ∈ recurringKinds ∨ p.2 = [] ∨ ∃ e ∈ p.2, period kind e.1 = period kind d.now
  | .other _ => True

/-- What every run keeps. -/
structure ScheduleInvariant (py : Py) (kind : String) (p : JobService ι × DeliveryLog) :
    Prop where
  keyed : Keyed p.1.queue.shared
  logged : Logged py kind p.1.queue.shared p.2

omit [DecidableEq ι] in
lemma scheduleInvariant_start (py : Py) (kind : String) (outbox : Outbox) :
    ScheduleInvariant py kind (scheduleStart ι outbox) where
  keyed := keyed_noJobs
  logged :=
    { timely := nofun
      delivered := nofun
      known := by
        intro t ht id row hrow
        simp [scheduleStart, noJobs, Table.empty] at hrow }

section

variable {p : JobService ι × DeliveryLog}

theorem ScheduleInvariant.step (hkind : kind ∈ scheduledKinds) (h : ScheduleInvariant py kind p)
    {step : ServiceStep ι} (hstep : step.Admissible py kind) :
    ScheduleInvariant py kind (scheduleStep ι py kind p step) := by
  obtain ⟨s, log⟩ := p
  obtain ⟨hkeyed, hlogged⟩ := h
  cases step with
  | other step => exact ⟨hkeyed.jobStep step, hlogged.jobStep hstep⟩
  | deliver d =>
    obtain ⟨htimely, hforeign⟩ := hstep
    have hallowed := allowed_of_scheduled hkind
    obtain ⟨hid, -⟩ := enqueue_jobId py (scheduledBody kind) d s hallowed
    have hlog : logStep py kind log s (.deliver d) = (d.now, (s.queue.shared.rows.findKey
        fun job => job.dedupeKey = scheduledKey py kind d.now).getD
          s.queue.shared.rows.nextKey) :: log := by
      rw [logStep, hid]
      rfl
    -- the two invariants of the queue, at the log that the delivery leaves
    have hkeeps : ∀ I : Workers ι → Prop,
        (∀ queue step, Foreign py kind step → I queue → I (jobStep queue step)) →
        (∀ queue id, I queue → I (leaveHandler queue d.worker id)) →
        I (enqueued d kind (scheduledKey py kind d.now) (.obj []) s.queue) →
        I (enqueue py kind (scheduledBody kind) d s).2.queue := by
      intro I hI hleave hs
      refine enqueue_keeps (scheduledBody kind) hallowed ?_ ?_ hleave hs
      · intro queue op hop hqueue
        exact hI queue _ (fun id kind' key payload heq => absurd heq (hop id kind' key payload))
          hqueue
      · exact fun queue step hmem => hI queue step (hforeign step hmem)
    refine ⟨?_, ?_⟩
    · exact hkeeps (fun queue => Keyed queue.shared) (fun _ step _ h => h.jobStep step)
        (fun _ _ h => h) ((hkeyed.openSession d.worker).jobStep _)
    · have hopen : Logged py kind (openSession s.queue d.worker).shared log :=
        ⟨hlogged.timely, hlogged.delivered, hlogged.known⟩
      show Logged py kind (enqueue py kind (scheduledBody kind) d s).2.queue.shared
        (logStep py kind log s (.deliver d))
      rw [hlog]
      exact hkeeps (fun queue => Logged py kind queue.shared _) (fun _ _ hs h => h.jobStep hs)
        (fun _ _ h => h) (hopen.enqueue htimely (.obj []))

/-- A delivery recurs as it should exactly if its kind is in one of the sets, or there is no
earlier period to recur after. -/
theorem recurs_iff (hkind : kind ∈ scheduledKinds) {step : ServiceStep ι}
    (hstep : step.Admissible py kind) (h : ScheduleInvariant py kind p) :
    Recurs py kind p step ↔ MayRecur kind p step := by
  obtain ⟨s, log⟩ := p
  obtain ⟨hkeyed, hlogged⟩ := h
  cases step with
  | other step => exact Iff.rfl
  | deliver d =>
    obtain ⟨htimely, -⟩ := hstep
    have hallowed := allowed_of_scheduled hkind
    obtain ⟨hid, hcreated⟩ := enqueue_jobId py (scheduledBody kind) d s hallowed
    have hexecuted := enqueue_executed py (scheduledBody kind) d hallowed hkeyed
    have hsame : ∀ e ∈ log, scheduledKey py kind e.1 = scheduledKey py kind d.now →
        (s.queue.shared.rows.findKey fun job => job.dedupeKey = scheduledKey py kind d.now) =
          some e.2 :=
      fun e he hkey => (hlogged.findKey_eq_some_iff hkeyed htimely).mpr ⟨e, he, hkey, rfl⟩
    constructor
    · rintro ⟨-, hfresh⟩
      rcases mem_recurringKinds_or hkind with hrecurring | rfl
      · exact Or.inl hrecurring
      · right
        by_contra hnot
        rw [not_or, not_exists] at hnot
        obtain ⟨hne, hother⟩ := hnot
        obtain ⟨hnew, -⟩ := hfresh fun e he hperiod => hother e ⟨he, hperiod⟩
        -- an earlier delivery had the same key
        obtain ⟨e, he⟩ := List.exists_mem_of_ne_nil log hne
        have hkey : scheduledKey py "dispatch_outbox" e.1 =
            scheduledKey py "dispatch_outbox" d.now := by
          rw [scheduledKey_of_not_mem (by decide), scheduledKey_of_not_mem (by decide)]
        have hfind := hsame e he hkey
        rw [scheduledKey] at hfind
        rw [hcreated, scheduledBody, hfind] at hnew
        cases hnew
    · intro hmay
      refine ⟨?_, ?_⟩
      · intro e he hperiod
        have hkey := scheduledKey_of_period (hlogged.timely e he) htimely hperiod
        have hfind := hsame e he hkey
        rw [scheduledKey] at hfind
        rw [hid, scheduledBody, hfind]
        rfl
      · intro hother
        have hnone : (s.queue.shared.rows.findKey fun job =>
            job.dedupeKey = scheduledKey py kind d.now) = none := by
          rw [Option.eq_none_iff_forall_ne_some]
          intro id hfind
          obtain ⟨e, he, hkey, -⟩ := (hlogged.findKey_eq_some_iff hkeyed htimely).mp hfind
          rcases hmay with hrecurring | hnil | ⟨e', he', hperiod⟩
          · have hperiod := (scheduledKey_eq_iff hrecurring (hlogged.timely e he) htimely).mp hkey
            exact hother e he hperiod
          · simp only at hnil
            rw [hnil] at he
            exact List.not_mem_nil he
          · exact hother e' he' hperiod
        refine ⟨?_, hexecuted hnone⟩
        rw [scheduledKey] at hnone
        rw [hcreated, scheduledBody, hnone]
        rfl

/-- A run recurs as it should exactly if its kind is in one of the sets, or all its deliveries are
in one period. -/
theorem run_recurs_iff (hkind : kind ∈ scheduledKinds) (outbox : Outbox)
    {steps : List (ServiceStep ι)} (hsteps : ∀ step ∈ steps, step.Admissible py kind) :
    EachStep (scheduleStep ι py kind) (Recurs py kind) (scheduleStart ι outbox) steps ↔
      EachStep (scheduleStep ι py kind) (MayRecur kind) (scheduleStart ι outbox) steps := by
  refine eachStep_congr_of_invariant ?_ ?_ hsteps (scheduleInvariant_start py kind outbox)
  · intro p step hstep h
    exact recurs_iff hkind hstep h
  · intro p step hstep h _
    exact h.step hkind hstep

end

end ScholarshipFinder
