import ScholarshipFinder.Lib.Run
import ScholarshipFinder.Infra.Execution
import ScholarshipFinder.Jobs.History

/-!
# What a failed job leaves behind

A failure is recorded by a commit of the session that the handler has worked in.  So it makes
durable what the handler has written since its last commit; and it is not recorded at all if the
session cannot be used, or does not have the job any more.
-/

namespace ScholarshipFinder

open Lib

variable {ι K R : Type} [DecidableEq ι] [DecidableEq K] {accepts : (K → Option R) → Bool}

/-- The handler of a job has been entered: the claim is committed, and the session has nothing
else. -/
structure Entered (i : ι) (id : JobId) (row : ProcessingJob) (e : Execution ι K R accepts) :
    Prop where
  executing : e.worker.executing.head? = some id
  loaded : e.worker.loaded id = some row
  stored : e.store.rows.row id = some row
  running : row.state = .running
  free : e.store.free i id = true
  active : e.rows.active = true

/-- While the handler runs: the row of its job is left alone, and the session has the job as it is
stored or not at all. -/
structure InHandler (i : ι) (id : JobId) (row : ProcessingJob) (e : Execution ι K R accepts) :
    Prop where
  executing : e.worker.executing.head? = some id
  copy : ∀ job, e.worker.loaded id = some job → job = row
  stored : e.store.rows.row id = some row
  free : e.store.free i id = true
  usable : e.rows.active = false → e.worker.loaded id = none

/-- The commit that records the failure changes no other row, and the failure is recorded. -/
structure OnlyRecords (id : JobId) (error : String) (now : Instant)
    (e e' : Execution ι K R accepts) : Prop where
  rows : e'.rows.stored = e.rows.stored
  jobs : ∀ j, j ≠ id → e'.store.rows.row j = e.store.rows.row j
  record : e'.store.rows.row id = (e.store.rows.row id).map (·.fail error now)

/-- The session has the job, and nothing that it has written differs from what is stored. -/
def Untouched (id : JobId) (e : Execution ι K R accepts) : Prop :=
  (e.worker.loaded id).isSome ∧ e.rows.Settled

variable {i : ι} {id : JobId} {row : ProcessingJob} {e : Execution ι K R accepts}

omit [DecidableEq K] in
lemma Entered.inHandler (h : Entered i id row e) : InHandler i id row e where
  executing := h.executing
  copy := by
    intro job hjob
    exact Option.some.inj (hjob.symm.trans h.loaded)
  stored := h.stored
  free := h.free
  usable := by
    intro hinactive
    rw [h.active] at hinactive
    cases hinactive

omit [DecidableEq K] in
/-- An answer of the database leaves the job alone; if it was an error, the session loses it. -/
lemma InHandler.answer (h : InHandler i id row e) (rows : UnitOfWork K R accepts) :
    InHandler i id row (e.answer i rows) := by
  rw [Execution.answer]
  split
  · next hactive =>
    exact ⟨h.executing, h.copy, h.stored, h.free, fun hnot => by simp [hactive] at hnot⟩
  · exact ⟨h.executing, nofun, h.stored, free_release h.free, fun _ => rfl⟩

theorem InHandler.perform (h : InHandler i id row e) (op : HandlerOp K R) :
    InHandler i id row (e.perform i op) := by
  cases op with
  | write k new => exact ⟨h.executing, h.copy, h.stored, h.free, h.usable⟩
  | flush => exact h.answer _
  | commit =>
    have hreleased : InHandler i id row { e with store := e.store.release i } :=
      ⟨h.executing, h.copy, h.stored, free_release h.free, h.usable⟩
    exact hreleased.answer _
  | rollback => exact ⟨h.executing, nofun, h.stored, free_release h.free, nofun⟩
  | databaseError => exact h.answer _
  | loadJob j =>
    rw [Execution.perform]
    split
    · next hactive =>
      refine ⟨h.executing, ?_, h.stored, h.free, fun hnot => by simp [hactive] at hnot⟩
      intro job hjob
      rcases load_cases hjob with hjob | hjob
      · exact h.copy job hjob
      · exact Option.some.inj (hjob.symm.trans h.stored)
    · exact h
  | others rows =>
    refine ⟨h.executing, h.copy, h.stored, h.free, fun hinactive => h.usable ?_⟩
    simp only [Execution.perform, UnitOfWork.others] at hinactive
    split at hinactive <;> exact hinactive

/-- A run of the handler. -/
theorem InHandler.run (h : InHandler i id row e) (ops : List (HandlerOp K R)) :
    InHandler i id row (run (Execution.perform i) e ops) :=
  run_invariant (A := fun _ => True) (C := fun _ _ => True) (fun _ op _ h _ => h.perform op)
    (fun _ _ => trivial) h (eachStep_true _ _ _)

/-- The record of a failure, in the columns of an up-to-date copy. -/
lemma flush_fail (row : ProcessingJob) (error : String) (now : Instant) :
    row.flush (row.fail error now) row = row.fail error now := by
  simp only [ProcessingJob.flush, writeBack_fresh]
  rfl

lemma fail_ne_of_running (hrunning : row.state = .running) (error : String) (now : Instant) :
    row ≠ row.fail error now := by
  intro h
  have hstate : (failJob row.kind row.attempts error now).state = .running := by
    rw [← hrunning]
    exact (congrArg ProcessingJob.state h).symm
  rw [failJob_state] at hstate
  split at hstate <;> cases hstate

omit [DecidableEq K] in
/-- An answer of the database leaves the table of jobs alone. -/
lemma answer_rows (i : ι) (e : Execution ι K R accepts) (rows : UnitOfWork K R accepts) :
    (e.answer i rows).store.rows = e.store.rows := by
  rw [Execution.answer]
  split <;> rfl

omit [DecidableEq K] in
/-- The record of a failure does nothing else exactly if the handler has left the session with
nothing to store, and with the job. -/
theorem InHandler.onlyRecords_iff (h : InHandler i id row e) (hrunning : row.state = .running)
    (now : Instant) (error : String) :
    OnlyRecords id error now e (e.recordFailure i now error) ↔ Untouched id e := by
  have hexecuting := h.executing
  obtain ⟨rest, hexec⟩ : ∃ rest, e.worker.executing = id :: rest := by
    cases hexec : e.worker.executing with
    | nil => simp [hexec] at hexecuting
    | cons j rest =>
      rw [hexec, List.head?_cons] at hexecuting
      exact ⟨rest, by rw [Option.some.inj hexecuting]⟩
  have hnot : e.store.rows.row id ≠ (e.store.rows.row id).map (·.fail error now) := by
    rw [h.stored, Option.map_some]
    exact fun heq => fail_ne_of_running hrunning error now (Option.some.inj heq)
  rw [Untouched, Execution.recordFailure, hexec]
  simp only [h.free, if_true]
  cases hjob : e.worker.loaded id with
  | none =>
    -- the record is not written
    simp only [Option.isSome_none, Bool.false_eq_true, if_false, false_and, iff_false]
    exact fun hrecord => hnot hrecord.record
  | some job =>
    obtain rfl := h.copy job hjob
    simp only [Option.isSome_some, if_true, true_and]
    have hactive : e.rows.active = true := by
      by_contra hinactive
      have hnone := h.usable (by simpa using hinactive)
      rw [hjob] at hnone
      cases hnone
    cases hcommits : e.rows.commits with
    | false =>
      -- the database refuses what the handler has written
      have hunsettled : ¬ e.rows.Settled := by
        intro hsettled
        rw [UnitOfWork.commits_of_settled hactive hsettled] at hcommits
        cases hcommits
      simp only [Bool.false_eq_true, if_false, hunsettled, iff_false]
      intro hrecord
      have hrow := hrecord.record
      rw [answer_rows] at hrow
      exact hnot hrow
    | true =>
      simp only [if_true]
      have hstore : (failJobForExecution i now error e.worker e.store).2.rows =
          (e.store.write id (job.fail error now)).rows := by
        simp only [failJobForExecution, hexec, hjob, h.stored, h.free, if_true, flush_fail]
        rfl
      constructor
      · intro hrecord
        exact (UnitOfWork.commit_stored_eq_iff hcommits).mp hrecord.rows
      · intro hsettled
        refine ⟨(UnitOfWork.commit_stored_eq_iff hcommits).mpr hsettled, ?_, ?_⟩
        · intro j hj
          rw [hstore, write_row_of_ne hj]
        · rw [hstore, write_row_self h.stored, h.stored, Option.map_some]

omit [DecidableEq K] in
/-- A claim enters the handler, in a session that has the job as it is stored. -/
lemma entered_enter {now : Instant} {transition : JobTransition}
    (hcopy : ∀ job, e.worker.loaded id = some job → job = row)
    (hrow : e.store.rows.row id = some row) (hfree : e.store.free i id = true)
    (hclaim : claimJob row.state row.attempts now row.nextAttemptAt = .ok transition)
    (hcommits : e.rows.commits = true) :
    Entered i id (row.claimed transition now) (e.enter i now id) := by
  have hjob : (e.worker.loaded id).getD row = row := by
    cases hloaded : e.worker.loaded id with
    | none => rfl
    | some job => exact hcopy job hloaded
  have hflush : row.flush (row.claimed transition now) row = row.claimed transition now := by
    simp only [ProcessingJob.flush, writeBack_fresh]
    rfl
  obtain ⟨-, -, htransition⟩ := claimJob_eq_ok_iff.mp hclaim
  simp only [Execution.enter, claimJobForExecution, hrow, hfree, hjob, hclaim, hflush, if_true]
  refine ⟨rfl, ?_, write_row_self hrow _, ?_, free_release hfree, UnitOfWork.commit_active hcommits⟩
  · exact Function.update_self _ _ _
  · rw [htransition]
    rfl

/-- Wherever the handler of a job raises, the record of the failure does nothing else exactly if
the handler has left the session with nothing to store, and with the job. -/
theorem failure_only_records_iff {now : Instant} {transition : JobTransition}
    (hcopy : ∀ job, e.worker.loaded id = some job → job = row)
    (hrow : e.store.rows.row id = some row) (hfree : e.store.free i id = true)
    (hclaim : claimJob row.state row.attempts now row.nextAttemptAt = .ok transition)
    (hcommits : e.rows.commits = true) (ops : List (HandlerOp K R)) (later : Instant)
    (error : String) :
    OnlyRecords id error later (run (Execution.perform i) (e.enter i now id) ops)
        ((run (Execution.perform i) (e.enter i now id) ops).recordFailure i later error) ↔
      Untouched id (run (Execution.perform i) (e.enter i now id) ops) := by
  have hentered := entered_enter hcopy hrow hfree hclaim hcommits
  exact (hentered.inHandler.run ops).onlyRecords_iff hentered.running later error

/-! ## `extract_candidate` -/

namespace Sample

/-- The job of one discovery, whose row has no facts yet; of the row, the column
`extracted_facts`. -/
def extraction : Execution (Fin 1) ℕ Json (fun _ => true) :=
  let queue := jobStep (noJobs (Fin 1)) ⟨0, 0, .enqueue 1 "extract_candidate"
    "extract_candidate:1" (.obj [("discovery_id", .str "00000000-0000-0000-0000-000000000001")])⟩
  ⟨queue.proc 0, queue.shared, UnitOfWork.start (fun id => if id = 1 then some .null else none) rfl⟩

/-- The row of the job. -/
def extractionJob : ProcessingJob where
  kind := "extract_candidate"
  dedupeKey := "extract_candidate:1"
  payload := .obj [("discovery_id", .str "00000000-0000-0000-0000-000000000001")]

/-- What `extract_candidate_facts` finds in the title "Award". -/
def extractedFacts : Json := .obj [
  ("extraction_version", .str "extract-v1"),
  ("needs_human_review", .bool true),
  ("funding_mentions", .arr []),
  ("deadline_mentions", .arr []),
  ("level_mentions", .arr []),
  ("eligibility_phrase", .null)]

/-- The handler raises after these steps. -/
def raised (ops : List (HandlerOp ℕ Json)) : Execution (Fin 1) ℕ Json (fun _ => true) :=
  run (Execution.perform 0) (extraction.enter 0 second 1) ops

/-- `extract_and_store_facts` sets the facts; then the answer of the AI Router has no
`request_id`, and `try_ai_extraction` lets the `KeyError` through. -/
def extractCandidate : List (HandlerOp ℕ Json) := [.write 1 (some extractedFacts)]

end Sample

/-- The facts of a failed extraction are stored; and if the connection is lost, the failure is
not recorded, and the job is left running. -/
theorem failed_extraction_stored :
    ¬ OnlyRecords 1 "'request_id'" (2 * second) (Sample.raised Sample.extractCandidate)
        ((Sample.raised Sample.extractCandidate).recordFailure 0 (2 * second) "'request_id'") ∧
      ((Sample.raised (Sample.extractCandidate ++ [.databaseError])).recordFailure 0 (2 * second)
        "connection is closed").store.rows.row 1 =
          some (Sample.extractionJob.claimed ⟨.running, 1, none, none⟩ second) := by
  refine ⟨?_, rfl⟩
  intro hrecord
  have hfacts : some Sample.extractedFacts = some Json.null := congrFun hrecord.rows 1
  cases hfacts

/-- A discovery that is not there: the query finds nothing, and the handler raises. -/
theorem missing_discovery_only_records :
    OnlyRecords 1 "Discovery not found" (2 * second) (Sample.raised [.flush])
      ((Sample.raised [.flush]).recordFailure 0 (2 * second) "Discovery not found") := by
  have hcopy : ∀ job, Sample.extraction.worker.loaded 1 = some job → job = Sample.extractionJob := by
    intro job hjob
    exact (Option.some.inj hjob).symm
  exact (failure_only_records_iff hcopy rfl rfl rfl rfl [.flush] (2 * second)
    "Discovery not found").mpr ⟨rfl, UnitOfWork.settled_of_written fun _ => rfl⟩

end ScholarshipFinder
