import ScholarshipFinder.Jobs.Recurrence
import ScholarshipFinder.Sample

/-!
# Scheduled work recurs

The deliveries of a schedule recur exactly if the kind is in one of the three sets of the route.
`dispatch_outbox` is in none: its first delivery dispatches one batch, and every later one is
answered with the job that is completed.
-/

namespace ScholarshipFinder

open Lib

variable {ι : Type} [DecidableEq ι] {py : Py} {kind : String}

/-! ## The deliveries of the dispatcher -/

/-- The execution of a new job whose handler succeeds, and which is left alone meanwhile. -/
lemma executeJob_ok {d : Delivery ι} (hmeanwhile : d.meanwhile = []) {id : JobId}
    {s : JobService ι} {job : ProcessingJob} {outbox : Outbox} (hstate : job.state = .queued)
    (hdue : job.nextAttemptAt = none) (hrow : s.queue.shared.rows.row id = some job)
    (hloaded : (s.queue.proc d.worker).loaded id = some job)
    (hfree : s.queue.shared.free d.worker id = true)
    (hhandle : d.handle py job.kind s.outbox = (.ok (), outbox)) :
    (executeJob py d id s).2.2.outbox = outbox ∧
      ∃ row, (executeJob py d id s).2.2.queue.shared.rows.row id = some row ∧
        row.state = .completed ∧ row.dedupeKey = job.dedupeKey := by
  have hclaim : claimJob job.state job.attempts d.now job.nextAttemptAt =
      .ok ⟨.running, job.attempts + 1, none, none⟩ := by
    rw [claimJob_eq_ok_iff, hstate, hdue]
    simp
  have hrelease : ((s.queue.shared.write id (job.flush (job.claimed
      ⟨.running, job.attempts + 1, none, none⟩ d.now) job)).release d.worker).free d.worker id =
        true := free_release hfree
  simp only [executeJob, hrow, hfree, hloaded, hclaim, hhandle, hmeanwhile, run_nil,
    Option.getD_some, if_true, recordOutcome, leaveHandler, jobStep, Pool.stepAt, Delivery.step,
    JobStep.perform, claimJobForExecution, completeJob, Function.update_self, hrelease]
  refine ⟨trivial, ?_⟩
  have hstored : ((s.queue.shared.write id (job.flush (job.claimed
      ⟨.running, job.attempts + 1, none, none⟩ d.now) job)).release d.worker).rows.row id =
        some (job.flush (job.claimed ⟨.running, job.attempts + 1, none, none⟩ d.now) job) :=
    write_row_self hrow _
  simp only [hstored, Worker.hold, Function.update_self, Option.getD_some]
  refine ⟨_, write_row_self hstored _, ?_, rfl⟩
  simp [ProcessingJob.flush, ProcessingJob.complete, ProcessingJob.claimed, finishJob, hstate,
    writeBack]

omit [DecidableEq ι] in
/-- A dispatch that is accepted ends well. -/
lemma handle_dispatch {d : Delivery ι} (hsends : d.settings.sends py = true)
    (hsend : ∀ batch, d.send batch = .ok ()) (outbox : Outbox) :
    d.handle py "dispatch_outbox" outbox = (.ok (),
      (dispatchAnalyticsEvents py d.settings d.send d.now 100 outbox).2) := by
  have hok : (dispatchAnalyticsEvents py d.settings d.send d.now 100 outbox).1 =
      .ok ⟨0, (claimPendingEvents destinationAnalytics 100 outbox).length, none⟩ := by
    simp only [dispatchAnalyticsEvents, hsends, hsend, not_true_eq_false, if_false]
    split
    · next hempty =>
      rw [List.isEmpty_iff] at hempty
      simp [hempty]
    · rfl
  simp only [Delivery.handle, if_true, hok]

/-- The deliveries of the outbox are over: the job under their key is completed. -/
def DispatchDone (queue : Workers ι) : Prop :=
  ∃ id row, (queue.shared.rows.findKey fun job =>
      job.dedupeKey = scheduledPlaceholder "dispatch_outbox") = some id ∧
    queue.shared.rows.row id = some row ∧ row.state = .completed

/-- The dispatcher is on, and the service accepts every batch. -/
structure Delivery.Accepted (py : Py) (d : Delivery ι) : Prop where
  alone : d.meanwhile = []
  sends : d.settings.sends py = true
  send : ∀ batch, d.send batch = .ok ()

/-- The first delivery dispatches one batch. -/
lemma deliver_first {d : Delivery ι} (hd : d.Accepted py) {s : JobService ι}
    (hkeyed : Keyed s.queue.shared)
    (hfind : (s.queue.shared.rows.findKey fun job =>
      job.dedupeKey = scheduledPlaceholder "dispatch_outbox") = none) :
    (serviceStep py "dispatch_outbox" s (.deliver d)).outbox =
        (dispatchAnalyticsEvents py d.settings d.send d.now 100 s.outbox).2 ∧
      DispatchDone (serviceStep py "dispatch_outbox" s (.deliver d)).queue := by
  have hkey : dedupeKeyAt py "dispatch_outbox" (scheduledBody "dispatch_outbox").dedupeKey d.now =
      scheduledPlaceholder "dispatch_outbox" := scheduledKey_of_not_mem (by decide) d.now
  obtain ⟨hrow, hloaded, hfree⟩ := enqueued_new d "dispatch_outbox" (.obj []) hkeyed hfind
  obtain ⟨houtbox, row, hrow', hstate, hrowkey⟩ := executeJob_ok (s := ⟨enqueued d
    "dispatch_outbox" (scheduledPlaceholder "dispatch_outbox") (.obj []) s.queue, s.outbox⟩)
      hd.alone rfl rfl hrow hloaded hfree (handle_dispatch hd.sends hd.send s.outbox)
  have hexecute : serviceStep py "dispatch_outbox" s (.deliver d) =
      (executeJob py d s.queue.shared.rows.nextKey ⟨enqueued d "dispatch_outbox"
        (scheduledPlaceholder "dispatch_outbox") (.obj []) s.queue, s.outbox⟩).2.2 := by
    have hallowed : "dispatch_outbox" ∈ allowedJobKinds := by decide
    have hnew := (enqueue_new py (scheduledBody "dispatch_outbox") d hallowed hkeyed
      (by rw [hkey, hfind])).2
    rw [hkey] at hnew
    exact hnew
  have hkeyed' : Keyed (serviceStep py "dispatch_outbox" s (.deliver d)).queue.shared := by
    rw [hexecute]
    exact executeJob_keeps (I := fun queue => Keyed queue.shared) _ (fun _ _ _ h => h.jobStep _)
      (fun _ _ _ h => h.jobStep _) (fun _ _ h => h) ((hkeyed.openSession d.worker).jobStep _)
  rw [hexecute] at hkeyed' ⊢
  exact ⟨houtbox, _, row, hkeyed'.findKey hrow' hrowkey, hrow', hstate⟩

variable (py) in
/-- A later one does nothing. -/
lemma deliver_later (d : Delivery ι) {s : JobService ι} (hdone : DispatchDone s.queue) :
    (serviceStep py "dispatch_outbox" s (.deliver d)).outbox = s.outbox ∧
      DispatchDone (serviceStep py "dispatch_outbox" s (.deliver d)).queue := by
  obtain ⟨id, row, hfind, hrow, hstate⟩ := hdone
  have hkey : dedupeKeyAt py "dispatch_outbox" (scheduledPlaceholder "dispatch_outbox") d.now =
      scheduledPlaceholder "dispatch_outbox" := scheduledKey_of_not_mem (by decide) d.now
  obtain ⟨hrows, hloaded⟩ := enqueued_found d "dispatch_outbox" (.obj []) hfind hrow
  have hnot : row.isDue d.now = false := by simp [ProcessingJob.isDue, hstate]
  have hrest : serviceStep py "dispatch_outbox" s (.deliver d) = ⟨enqueued d "dispatch_outbox"
      (scheduledPlaceholder "dispatch_outbox") (.obj []) s.queue, s.outbox⟩ := by
    simp only [enqueued] at hloaded
    rw [serviceStep, enqueue, if_neg (by decide)]
    simp only [hkey, hfind, Option.getD_some, scheduledBody, hloaded, hnot]
    rfl
  rw [hrest]
  refine ⟨rfl, id, row, ?_, ?_, hstate⟩
  · rw [hrows, hfind]
  · rw [hrows, hrow]

/-- All the later ones together do nothing. -/
lemma deliver_rest (ds : List (Delivery ι)) {s : JobService ι} (hdone : DispatchDone s.queue) :
    (run (serviceStep py "dispatch_outbox") s (ds.map .deliver)).outbox = s.outbox := by
  induction ds generalizing s with
  | nil => rfl
  | cons d ds ih =>
    obtain ⟨houtbox, hdone'⟩ := deliver_later py d hdone
    rw [List.map_cons, run_cons, ih hdone', houtbox]

/-- However often the dispatcher is delivered, no event is pending afterwards exactly if all fit
in the first batch. -/
theorem dispatch_deliveries_iff (outbox : Outbox) {ds : List (Delivery ι)} (hds : ds ≠ [])
    (haccepted : ∀ d ∈ ds, d.Accepted py) :
    (run (serviceStep py "dispatch_outbox") ⟨noJobs ι, outbox⟩
        (ds.map .deliver)).outbox.pending destinationAnalytics = [] ↔
      (outbox.pending destinationAnalytics).length ≤ 100 := by
  obtain ⟨d, ds, rfl⟩ := List.exists_cons_of_ne_nil hds
  have hd := haccepted d List.mem_cons_self
  obtain ⟨houtbox, hdone⟩ := deliver_first (s := ⟨noJobs ι, outbox⟩) hd keyed_noJobs
    (Table.findKey_eq_none.mpr nofun)
  rw [List.map_cons, run_cons, deliver_rest ds hdone, houtbox]
  exact pending_dispatch_eq_nil hd.sends hd.send

/-! ## The schedules -/

/-- A schedule recurs exactly as long as its kind is in one of the sets, or its deliveries are all
in one period; and the dispatcher leaves no event pending exactly if they fit in one batch. -/
theorem schedules_recur_iff (ι : Type) [DecidableEq ι] (py : Py) (outbox : Outbox) :
    (∀ kind ∈ scheduledKinds, ∀ steps : List (ServiceStep ι),
      (∀ step ∈ steps, step.Admissible py kind) →
        (EachStep (scheduleStep ι py kind) (Recurs py kind) (scheduleStart ι outbox) steps ↔
          EachStep (scheduleStep ι py kind) (MayRecur kind) (scheduleStart ι outbox) steps)) ∧
      ∀ ds : List (Delivery ι), ds ≠ [] → (∀ d ∈ ds, d.Accepted py) →
        ((run (serviceStep py "dispatch_outbox") ⟨noJobs ι, outbox⟩
            (ds.map .deliver)).outbox.pending destinationAnalytics = [] ↔
          (outbox.pending destinationAnalytics).length ≤ 100) := by
  refine ⟨?_, ?_⟩
  · intro kind hkind steps hsteps
    exact run_recurs_iff hkind outbox hsteps
  · intro ds hds haccepted
    exact dispatch_deliveries_iff outbox hds haccepted

/-- A delivery to one worker, who is left alone; the dispatcher is on, and every batch is
accepted. -/
def Sample.deliveryAt (now : Instant) : Delivery (Fin 1) where
  worker := Fin.last 0
  now := now
  settings := { environment := "production", posthogApiKey := some "phc_key" }
  send := fun _ => .ok ()
  meanwhile := []
  handler := fun outbox => (.ok (), outbox)
  expired := ""

/-- The second delivery of the dispatcher, two minutes after the first, is answered with the job
that is completed. -/
theorem dispatch_not_repeated :
    ¬ EachStep (scheduleStep (Fin 1) Sample.py "dispatch_outbox")
      (Recurs Sample.py "dispatch_outbox") (scheduleStart (Fin 1) Outbox.empty)
      [.deliver (Sample.deliveryAt Sample.start),
        .deliver (Sample.deliveryAt (Sample.start + 2 * minute))] := by
  rintro ⟨-, ⟨-, hfresh⟩, -⟩
  obtain ⟨hcreated, -⟩ := hfresh (by decide)
  exact absurd hcreated (by decide)

/-- Deliveries of `refresh_status` in two quarters of an hour, and of the dispatcher for one
event. -/
theorem schedules_recur_sample :
    EachStep (scheduleStep (Fin 1) Sample.clockPy "refresh_status")
        (Recurs Sample.clockPy "refresh_status") (scheduleStart (Fin 1) Outbox.empty)
        [.deliver (Sample.deliveryAt Sample.start),
          .deliver (Sample.deliveryAt (Sample.start + 5 * minute)),
          .deliver (Sample.deliveryAt (Sample.start + 15 * minute))] ∧
      (run (serviceStep Sample.clockPy "dispatch_outbox")
          ⟨noJobs (Fin 1), enqueueAnalyticsEvent 1 "event" "key" [] Outbox.empty⟩
          ([Sample.deliveryAt Sample.start].map .deliver)).outbox.pending
            destinationAnalytics = [] := by
  have hquarter : ∀ t : Instant, bucket quarterHour t = Sample.midnight ∨
      bucket quarterHour t = Sample.quarterPast →
        Sample.clockPy.ReadsBack (bucket quarterHour t) := by
    rintro t (h | h)
    · rw [h]
      exact Sample.readsBack_midnight
    · rw [h]
      exact Sample.readsBack_quarterPast
  have hhour : ∀ t : Instant, bucket hour t = Sample.midnight →
      Sample.clockPy.ReadsBack (bucket hour t) := by
    intro t h
    rw [h]
    exact Sample.readsBack_midnight
  refine ⟨((schedules_recur_iff (Fin 1) Sample.clockPy Outbox.empty).1 "refresh_status" (by decide)
    _ ?_).mpr ⟨Or.inl (by decide), Or.inl (by decide), Or.inl (by decide), trivial⟩,
    ((schedules_recur_iff (Fin 1) Sample.clockPy _).2 [Sample.deliveryAt Sample.start] (by decide)
      ?_).mpr (by decide)⟩
  · intro step hstep
    simp only [List.mem_cons, List.not_mem_nil, or_false] at hstep
    rcases hstep with rfl | rfl | rfl
    · exact ⟨⟨by decide, hquarter _ (by decide), hhour _ (by decide)⟩, nofun⟩
    · exact ⟨⟨by decide, hquarter _ (by decide), hhour _ (by decide)⟩, nofun⟩
    · exact ⟨⟨by decide, hquarter _ (by decide), hhour _ (by decide)⟩, nofun⟩
  · intro d hd
    obtain rfl := List.mem_singleton.mp hd
    exact ⟨rfl, rfl, fun _ => rfl⟩

end ScholarshipFinder
