import ScholarshipFinder.Platform.Integrity

/-!
# What the Agent has reported

The Agent delivers its reports at least once.  Evidence that it delivers again is recognised,
whatever the platform has done in between: the answer counts every claim as known, and nothing is
written.  A claim keeps the value that it was first recorded with.  Of the runs of one discovery and
version, the last report is stored, under the id of the first.
-/

namespace ScholarshipFinder

open Lib

variable {cfg : PlatformConfig} {p : Platform}

/-! ## Evidence -/

/-- The rows of the evidence stay as they are. -/
def EvidenceKept (before after : EvidenceTable) : Prop :=
  ∀ key row, before.row key = some row → after.row key = some row

lemma platformStep_evidenceKept (p : Platform) (step : PlatformStep) :
    EvidenceKept p.shared.evidence (platformStep cfg p step).shared.evidence := by
  intro key row hrow
  rcases @platformStep_evidence cfg p step with heq | ⟨discoveryId, payload, counts, rfl, hattach⟩
  · rw [heq, hrow]
  · obtain ⟨-, -, hrows, -⟩ := attachEvidence_ok_iff.mp hattach
    rw [← hrows]
    exact Table.row_foldl_addNew_of_some hrow

/-- Discoveries and evidence stay, whatever runs. -/
lemma run_keeps (p : Platform) (steps : List PlatformStep) :
    (∀ id, (p.shared.discovery id).isSome →
      ((run (platformStep cfg) p steps).shared.discovery id).isSome) ∧
    EvidenceKept p.shared.evidence (run (platformStep cfg) p steps).shared.evidence := by
  refine run_invariant (I := fun q : Platform =>
    (∀ id, (p.shared.discovery id).isSome → (q.shared.discovery id).isSome) ∧
      EvidenceKept p.shared.evidence q.shared.evidence) (A := fun _ => True) (C := fun _ _ => True)
    (fun q step _ hq _ => ?_) (fun _ _ => trivial) ⟨fun _ h => h, fun _ _ h => h⟩
    (eachStep_true _ _ _)
  have hwrites := @platformStep_writes cfg q step
  exact ⟨fun id hid => hwrites.refers.discoveries id (hq.1 id hid),
    fun key row hrow => platformStep_evidenceKept q step key row (hq.2 key row hrow)⟩

/-- A discovery that is stored has a context. -/
lemma isSome_loadDiscoveryContext {store : PlatformStore} {id : DiscoveryId} :
    (loadDiscoveryContext store.toIntakeStore id).isSome ↔ (store.discovery id).isSome := by
  constructor
  · intro h
    obtain ⟨context, hcontext⟩ := Option.isSome_iff_exists.mp h
    obtain ⟨-, hrow, -⟩ := loadDiscoveryContext_eq_some.mp hcontext
    rw [hrow]
    rfl
  · intro h
    obtain ⟨row, hrow, -⟩ :=
      store.toAgentStore.loadDiscoveryContext_isSome (store.toAgentStore.mem_ids.mpr h)
    rw [hrow]
    rfl

/-- Evidence that was taken once is recognised when it is delivered again, after any steps.  The
answer to the first delivery counts the rows that it has added. -/
theorem evidence_redelivered (cfg : PlatformConfig) (p : Platform) (discoveryId : DiscoveryId)
    (payload : EvidenceSubmissionRequest) (counts : ℕ × ℕ) (evidence : EvidenceTable)
    (steps : List PlatformStep)
    (h : attachEvidence cfg.evidenceColumns p.shared.toIntakeStore discoveryId payload
      p.shared.evidence = .ok (counts, evidence)) :
    counts.1 + counts.2 = payload.evidence.length ∧
      evidence.keys.length = p.shared.evidence.keys.length + counts.1 ∧
      EvidenceKept evidence
        (run (platformStep cfg) p (.attach discoveryId payload :: steps)).shared.evidence ∧
      attachEvidence cfg.evidenceColumns
        (run (platformStep cfg) p (.attach discoveryId payload :: steps)).shared.toIntakeStore
        discoveryId payload
        (run (platformStep cfg) p (.attach discoveryId payload :: steps)).shared.evidence =
          .ok ((0, payload.evidence.length),
            (run (platformStep cfg) p (.attach discoveryId payload :: steps)).shared.evidence) := by
  obtain ⟨hcontext, hcolumns, hrows, hcounts⟩ := attachEvidence_ok_iff.mp h
  obtain ⟨hdiscoveries, hkept⟩ := @run_keeps cfg (platformStep cfg p (.attach discoveryId payload))
    steps
  have hattached :
      (platformStep cfg p (.attach discoveryId payload)).shared.evidence = evidence := by
    show orKept ((attachEvidence _ _ _ _ _).map Prod.snd) p.shared.evidence = evidence
    rw [h]
    rfl
  rw [hattached] at hkept
  have hlength : (evidenceRows discoveryId payload).length = payload.evidence.length :=
    List.length_map _
  have hle : ((evidenceRows discoveryId payload).foldl Table.addNew (0, p.shared.evidence)).1 ≤
      0 + (evidenceRows discoveryId payload).length := Table.fst_foldl_addNew_le
  have hgrowth : ((evidenceRows discoveryId payload).foldl Table.addNew
        (0, p.shared.evidence)).2.keys.length + 0 = p.shared.evidence.keys.length +
      ((evidenceRows discoveryId payload).foldl Table.addNew (0, p.shared.evidence)).1 :=
    Table.length_keys_foldl_addNew
  rw [hrows] at hgrowth
  refine ⟨?_, ?_, hkept, ?_⟩
  · rw [hcounts]
    dsimp only at hle ⊢
    omega
  · rw [hcounts]
    dsimp only at hgrowth ⊢
    omega
  -- every key of the submission is there
  have hpresent : ∀ entry ∈ evidenceRows discoveryId payload,
      ((run (platformStep cfg) p (.attach discoveryId payload :: steps)).shared.evidence.row
        entry.1).isSome := by
    intro entry hentry
    have hadded := Table.isSome_row_foldl_addNew (p := (0, p.shared.evidence)) hentry
    rw [hrows] at hadded
    obtain ⟨row, hrow⟩ := Option.isSome_iff_exists.mp hadded
    rw [run_cons, hkept entry.1 row hrow]
    rfl
  refine attachEvidence_ok_iff.mpr ⟨?_, hcolumns, ?_, ?_⟩
  · rw [isSome_loadDiscoveryContext] at hcontext ⊢
    exact hdiscoveries discoveryId hcontext
  · rw [Table.foldl_addNew_of_present hpresent]
  · rw [Table.foldl_addNew_of_present hpresent]
    rfl

namespace Sample

/-- One claim about the award. -/
def awardEvidence : EvidenceSubmissionRequest where
  workflowRunId := "run-1"
  workflowVersion := "v1"
  promptVersion := none
  model := none
  evidence := [{
    claimPath := "amount"
    value := .str "$13,000"
    sourceUrl := awardUrl
    sourceType := .officialPage
    excerpt := none
    observedAt := start
    fetchMethod := none
    confidence := none }]

/-- The platform after the evidence has arrived and the award was approved. -/
def informedPlatform : Platform :=
  run (platformStep platformConfig) platform (.attach 2 awardEvidence :: approvalRun)

end Sample

/-- The claim is known when it arrives again. -/
theorem award_redelivered :
    (attachEvidence Sample.platformConfig.evidenceColumns
      Sample.informedPlatform.shared.toIntakeStore 2 Sample.awardEvidence
      Sample.informedPlatform.shared.evidence).toOption.map Prod.fst = some (0, 1) := by
  obtain ⟨-, -, -, hagain⟩ := evidence_redelivered Sample.platformConfig Sample.platform 2
    Sample.awardEvidence (1, 0) _ Sample.approvalRun rfl
  rw [Sample.informedPlatform, hagain]
  rfl

/-! ## Runs -/

/-- What a run reports. -/
def AgentRun.report (run : AgentRun) : AgentRunRequest where
  discoveryId := run.discoveryId
  workflowVersion := run.workflowVersion
  agentOutcome := run.agentOutcome
  promptVersion := run.promptVersion
  model := run.model
  recommendation := run.recommendation
  correlationId := run.correlationId

/-- The row is the run of this discovery and version. -/
def AgentRun.isOf (id : DiscoveryId) (version : String) (run : AgentRun) : Bool :=
  run.discoveryId = id ∧ run.workflowVersion = version

/-- The stored report of a discovery and version. -/
def reportOf (runs : Table RunId AgentRun) (id : DiscoveryId) (version : String) :
    Option AgentRunRequest :=
  (runs.findKey (AgentRun.isOf id version)).bind fun runId => (runs.row runId).map AgentRun.report

/-- No discovery and version has two runs. -/
def RunsApart (runs : Table RunId AgentRun) : Prop :=
  ∀ a b runA runB, runs.row a = some runA → runs.row b = some runB →
    runA.discoveryId = runB.discoveryId → runA.workflowVersion = runB.workflowVersion → a = b

/-- The last of the reports of a discovery and version. -/
def lastReport (reports : List AgentRunRequest) (id : DiscoveryId) (version : String) :
    Option AgentRunRequest :=
  (reports.filter fun report => report.discoveryId = id ∧ report.workflowVersion = version).getLast?

/-- One step of the platform, with the list of the reports that were accepted. -/
def reportedStep (cfg : PlatformConfig) :
    Platform × List AgentRunRequest → PlatformStep → Platform × List AgentRunRequest :=
  withHistory (platformStep cfg) fun reports p step => reports ++ (acceptedReport p step).toList

/-- A report is stored for its own discovery and version, and for no other; the ids stay. -/
structure ReportsOn (before after : Table RunId AgentRun) (report : AgentRunRequest) : Prop where
  reports : ∀ id version, reportOf after id version =
    if report.discoveryId = id ∧ report.workflowVersion = version then some report
    else reportOf before id version
  apart : RunsApart before → RunsApart after
  ids : ∀ runId run, before.row runId = some run → ∃ run', after.row runId = some run' ∧
    run'.discoveryId = run.discoveryId ∧ run'.workflowVersion = run.workflowVersion

lemma AgentRun.isOf_iff {id : DiscoveryId} {version : String} {run : AgentRun} :
    run.isOf id version = true ↔ run.discoveryId = id ∧ run.workflowVersion = version := by
  rw [isOf, decide_eq_true_eq]

/-- The report of a run that is there replaces the one before. -/
lemma reportsOn_modify {runs : Table RunId AgentRun} {report : AgentRunRequest} {runId : RunId}
    {f : AgentRun → AgentRun}
    (hfind : runs.findKey (AgentRun.isOf report.discoveryId report.workflowVersion) = some runId)
    (hf : ∀ run, run.isOf report.discoveryId report.workflowVersion = true →
      (f run).report = report)
    (hkeys : ∀ run, (f run).discoveryId = run.discoveryId ∧
      (f run).workflowVersion = run.workflowVersion) :
    ReportsOn runs (runs.modify runId f) report := by
  obtain ⟨stored, hstored, hof⟩ := Table.findKey_eq_some hfind
  have hsame : ∀ id version run, (f run).isOf id version = run.isOf id version := by
    intro id version run
    rw [AgentRun.isOf, AgentRun.isOf, (hkeys run).1, (hkeys run).2]
  refine ⟨fun id version => ?_, fun hapart a b runA runB hA hB hid hversion => ?_,
    fun other run hrow => ?_⟩
  · rw [reportOf, Table.findKey_modify _ _ (hsame id version)]
    split
    · next hpair =>
      rw [← hpair.1, ← hpair.2, hfind, Option.bind_some, Table.row_modify_self, hstored,
        Option.map_some, Option.map_some, hf stored hof]
    · next hpair =>
      rw [reportOf]
      cases hother : runs.findKey (AgentRun.isOf id version) with
      | none => rfl
      | some other =>
        obtain ⟨run, hrow, hrun⟩ := Table.findKey_eq_some hother
        have hne : other ≠ runId := by
          rintro rfl
          obtain rfl := Option.some.inj (hrow.symm.trans hstored)
          obtain ⟨rfl, rfl⟩ := AgentRun.isOf_iff.mp hrun
          obtain ⟨hid, hversion⟩ := AgentRun.isOf_iff.mp hof
          exact hpair ⟨hid.symm, hversion.symm⟩
        rw [Option.bind_some, Option.bind_some, Table.row_modify_of_ne _ hne]
  · have hrow : ∀ {k run}, (runs.modify runId f).row k = some run →
        ∃ old, runs.row k = some old ∧ run.discoveryId = old.discoveryId ∧
          run.workflowVersion = old.workflowVersion := by
      intro k run hk
      rw [Table.row_modify] at hk
      split at hk
      · obtain ⟨old, hold, rfl⟩ := Option.map_eq_some_iff.mp hk
        exact ⟨old, hold, hkeys old⟩
      · exact ⟨run, hk, rfl, rfl⟩
    obtain ⟨oldA, holdA, hidA, hversionA⟩ := hrow hA
    obtain ⟨oldB, holdB, hidB, hversionB⟩ := hrow hB
    exact hapart a b oldA oldB holdA holdB (hidA.symm.trans (hid.trans hidB))
      (hversionA.symm.trans (hversion.trans hversionB))
  · rw [Table.row_modify]
    split
    · exact ⟨f run, by rw [hrow]; rfl, hkeys run⟩
    · exact ⟨run, hrow, rfl, rfl⟩

/-- The report of the first run of a discovery and version is inserted. -/
lemma reportsOn_insert {runs : Table RunId AgentRun} {report : AgentRunRequest} {runId : RunId}
    {run : AgentRun} (hfree : runs.row runId = none)
    (hfind : runs.findKey (AgentRun.isOf report.discoveryId report.workflowVersion) = none)
    (hrun : run.report = report) : ReportsOn runs (runs.insert runId run) report := by
  subst hrun
  change runs.findKey (AgentRun.isOf run.discoveryId run.workflowVersion) = none at hfind
  have hnone := Table.findKey_eq_none.mp hfind
  refine ⟨fun id version => ?_, fun hapart a b runA runB hA hB hid hversion => ?_,
    fun other stored hrow => ⟨stored, Table.row_insert_of_some hfree hrow _, rfl, rfl⟩⟩
  · split
    · next hpair =>
      have hpair' : run.isOf id version = true := AgentRun.isOf_iff.mpr hpair
      obtain ⟨hid, hversion⟩ := hpair
      change run.discoveryId = id at hid
      change run.workflowVersion = version at hversion
      subst hid hversion
      rw [reportOf, Table.findKey_insert_of_none hfree hfind, if_pos hpair', Option.bind_some,
        Table.row_insert_self]
      rfl
    · next hpair =>
      have hpair' : ¬ run.isOf id version = true := fun h => hpair (AgentRun.isOf_iff.mp h)
      rw [reportOf, reportOf]
      cases hother : runs.findKey (AgentRun.isOf id version) with
      | none =>
        rw [Table.findKey_insert_of_none hfree hother, if_neg hpair']
        rfl
      | some other =>
        obtain ⟨stored, hstored, -⟩ := Table.findKey_eq_some hother
        rw [Table.findKey_insert_of_some hfree hother, Option.bind_some, Option.bind_some,
          Table.row_insert_of_some hfree hstored, hstored]
  · have hclash : ∀ {k stored}, runs.row k = some stored → stored.discoveryId = run.discoveryId →
        stored.workflowVersion = run.workflowVersion → False := by
      intro k stored hk hid hversion
      have hfalse := hnone k stored hk
      rw [AgentRun.isOf_iff.mpr ⟨hid, hversion⟩] at hfalse
      cases hfalse
    rw [Table.row_insert] at hA hB
    split at hA
    · next heq =>
      obtain rfl := Option.some.inj hA
      split at hB
      · next heq' => exact heq.trans heq'.symm
      · exact (hclash hB hid.symm hversion.symm).elim
    · split at hB
      · obtain rfl := Option.some.inj hB
        exact (hclash hA hid hversion).elim
      · exact hapart a b runA runB hA hB hid hversion

theorem recordRun_reportsOn {store after : AgentStore} {payload : AgentRunRequest} {runId : RunId}
    {now : Instant} (h : store.recordRun payload runId now = .ok after) :
    ReportsOn store.runs after.runs payload := by
  unfold AgentStore.recordRun at h
  split at h
  · next existing hfind =>
    cases h
    refine reportsOn_modify hfind (fun run hof => ?_) fun _ => ⟨rfl, rfl⟩
    obtain ⟨hid, hversion⟩ := AgentRun.isOf_iff.mp hof
    rw [AgentRun.report, hid, hversion]
  · next hfind =>
    split at h
    · cases h
    · next hadmits =>
      cases h
      rw [not_or] at hadmits
      exact reportsOn_insert (by simpa using hadmits.2) hfind rfl

/-- What is stored of the runs. -/
structure RunsReported (start runs : Table RunId AgentRun) (reports : List AgentRunRequest) :
    Prop where
  reports : ∀ id version, reportOf runs id version =
    (lastReport reports id version).or (reportOf start id version)
  apart : RunsApart runs
  ids : ∀ runId run, start.row runId = some run → ∃ run', runs.row runId = some run' ∧
    run'.discoveryId = run.discoveryId ∧ run'.workflowVersion = run.workflowVersion

lemma lastReport_append (reports : List AgentRunRequest) (report : AgentRunRequest)
    (id : DiscoveryId) (version : String) :
    lastReport (reports ++ [report]) id version =
      if report.discoveryId = id ∧ report.workflowVersion = version then some report
      else lastReport reports id version := by
  rw [lastReport, List.filter_append, List.filter_singleton]
  split
  · next hpair => rw [decide_eq_true hpair, cond_true, List.getLast?_concat]
  · next hpair =>
    rw [decide_eq_false hpair, cond_false, List.append_nil]
    rfl

lemma RunsReported.step {start : Table RunId AgentRun} {reports : List AgentRunRequest}
    (h : RunsReported start p.shared.runs reports) (step : PlatformStep) :
    RunsReported start (platformStep cfg p step).shared.runs
      (reports ++ (acceptedReport p step).toList) := by
  rcases @platformStep_runs cfg p step with
    ⟨hnone, heq⟩ | ⟨payload, runId, now, after, rfl, hrecord, heq⟩
  · rw [hnone, heq, Option.toList_none, List.append_nil]
    exact h
  · have hstored := recordRun_reportsOn hrecord
    have haccepted : acceptedReport p (.recordRun payload runId now) = some payload := by
      rw [acceptedReport, hrecord]
    rw [heq, haccepted]
    refine ⟨fun id version => ?_, hstored.apart h.apart, fun other run hrow => ?_⟩
    · rw [hstored.reports, Option.toList_some, lastReport_append]
      split
      · rfl
      · exact h.reports id version
    · obtain ⟨run', hrun', hid, hversion⟩ := h.ids other run hrow
      obtain ⟨run'', hrun'', hid', hversion'⟩ := hstored.ids other run' hrun'
      exact ⟨run'', hrun'', hid'.trans hid, hversion'.trans hversion⟩

/-- Of the runs of one discovery and version, the last report that was accepted is stored, in one
row, whatever else the platform does. -/
theorem platform_lastReports (cfg : PlatformConfig) (p : Platform) (steps : List PlatformStep)
    (h : RunsApart p.shared.runs) :
    RunsReported p.shared.runs (run (reportedStep cfg) (p, []) steps).1.shared.runs
      (run (reportedStep cfg) (p, []) steps).2 := by
  have hstart : RunsReported p.shared.runs p.shared.runs [] :=
    ⟨fun _ _ => rfl, h, fun _ run hrow => ⟨run, hrow, rfl, rfl⟩⟩
  exact run_invariant (I := fun q : Platform × List AgentRunRequest =>
    RunsReported p.shared.runs q.1.shared.runs q.2) (A := fun _ => True) (C := fun _ _ => True)
    (fun _ step _ hq _ => hq.step step) (fun _ _ => trivial) hstart (eachStep_true _ _ _)

namespace Sample

/-- A report of the award, with this outcome. -/
def awardReport (outcome : String) : AgentRunRequest where
  discoveryId := 2
  workflowVersion := "v1"
  agentOutcome := outcome
  promptVersion := none
  model := none
  recommendation := none
  correlationId := none

/-- Two reports of one run, with the approval of the award between them. -/
def reportRun : List PlatformStep :=
  .recordRun (awardReport "started") 1 start :: approvalRun ++
    [.recordRun (awardReport "finished") 2 start]

end Sample

/-- The second report replaces the first one. -/
theorem reportRun_reported :
    (run (reportedStep Sample.platformConfig) (Sample.platform, []) Sample.reportRun).2.map
        (·.agentOutcome) = ["started", "finished"] ∧
      RunsReported Table.empty
        (run (reportedStep Sample.platformConfig) (Sample.platform, [])
          Sample.reportRun).1.shared.runs
        (run (reportedStep Sample.platformConfig) (Sample.platform, []) Sample.reportRun).2 :=
  ⟨by decide +kernel, platform_lastReports Sample.platformConfig Sample.platform Sample.reportRun
    (by rintro a b runA runB ⟨⟩)⟩

end ScholarshipFinder
