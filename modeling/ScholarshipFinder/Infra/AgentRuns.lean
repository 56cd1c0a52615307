import ScholarshipFinder.Api.UpdateCycle
import ScholarshipFinder.Infra.AgentIntegration
import ScholarshipFinder.Intake.Growth
import ScholarshipFinder.Lib.Keyset
import ScholarshipFinder.Lib.Upsert

/-!
# The work intake of the Agent (`infra/agent_integration.py`, `api/agent_routes.py`)

The Agent reads the discoveries in pages, by their id, and records one run for each discovery and
version of its workflow.  It submits evidence for them, at least once: a submission inserts a row
for each of its claims, and a row whose key is there already is left alone.
-/

namespace ScholarshipFinder

open Lib

abbrev RunId := ℕ

structure AgentRun where
  discoveryId : DiscoveryId
  workflowVersion : String
  agentOutcome : String
  promptVersion : Option String
  model : Option String
  recommendation : Option Json
  correlationId : Option String
  updatedAt : Instant

/-- The database with the runs of the Agent. -/
structure AgentStore extends IntakeStore where
  runs : Table RunId AgentRun

/-- The body of a recorded run. -/
structure AgentRunRequest where
  discoveryId : DiscoveryId
  workflowVersion : String
  agentOutcome : String
  promptVersion : Option String
  model : Option String
  recommendation : Option Json
  correlationId : Option String

namespace AgentStore

/-- The discovery has a run of this version (`uq_agent_runs_discovery_workflow`). -/
def isRun (store : AgentStore) (version : String) (id : DiscoveryId) : Bool :=
  (store.runs.findKey fun run =>
    run.discoveryId = id ∧ run.workflowVersion = version).isSome

/-- `order_by(Discovery.discovery_id)` -/
def ids (store : AgentStore) : List DiscoveryId :=
  store.discovered.discoveries.keys.insertionSort (· ≤ ·)

/-- `list_discoveries`: the discoveries above `after`, in the order of their ids. -/
def listDiscoveries (store : AgentStore) (limit : ℕ) (after : Option DiscoveryId)
    (workflowVersion : Option String) (unprocessedOnly : Bool) : List DiscoveryContext :=
  let rows := store.ids.filterMap (loadDiscoveryContext store.toIntakeStore)
  (rows.filter fun row => Before after row.discoveryId ∧
    ∀ version ∈ workflowVersion, unprocessedOnly = true → version ≠ "" →
      store.isRun version row.discoveryId = false).take limit

/-- `record_run`: one row for each discovery and version, updated in place. -/
def recordRun (store : AgentStore) (payload : AgentRunRequest) (runId : RunId) (now : Instant) :
    Except PyErr AgentStore :=
  match store.runs.findKey fun run => run.discoveryId = payload.discoveryId ∧
      run.workflowVersion = payload.workflowVersion with
  | some existing =>
    .ok { store with runs := store.runs.modify existing fun run =>
      { run with
        agentOutcome := payload.agentOutcome
        promptVersion := payload.promptVersion
        model := payload.model
        recommendation := payload.recommendation
        correlationId := payload.correlationId
        updatedAt := now } }
  | none =>
    if store.discovery payload.discoveryId = none ∨ (store.runs.row runId).isSome then refused
    else
      .ok { store with runs := store.runs.insert runId {
        discoveryId := payload.discoveryId
        workflowVersion := payload.workflowVersion
        agentOutcome := payload.agentOutcome
        promptVersion := payload.promptVersion
        model := payload.model
        recommendation := payload.recommendation
        correlationId := payload.correlationId
        updatedAt := now } }

end AgentStore

structure AgentDiscoveryListResponse where
  items : List DiscoveryContext
  nextCursor : Option DiscoveryId

/-- `read_discoveries` -/
def readDiscoveries (store : AgentStore) (limit : ℕ) (after : Option DiscoveryId)
    (workflowVersion : Option String) (unprocessedOnly : Bool) :
    Except RouteErr AgentDiscoveryListResponse :=
  if unprocessedOnly = true ∧ workflowVersion.all (· = "") then
    .error (.http 422 "workflow_version is required when unprocessed_only is true")
  else
    let items := store.listDiscoveries limit after workflowVersion unprocessedOnly
    .ok ⟨items,
      if items.length = limit then items.getLast?.map (·.discoveryId) else none⟩

/-! ## What a page lists -/

namespace AgentStore

variable (store : AgentStore) {limit : ℕ} {after : Option DiscoveryId} {version : String}

lemma pairwise_ids : store.ids.Pairwise (· < ·) := by
  have hperm := store.discovered.discoveries.keys.perm_insertionSort (· ≤ ·)
  have hle : store.ids.Pairwise (· ≤ ·) := List.pairwise_insertionSort _ _
  have hne : store.ids.Pairwise (· ≠ ·) :=
    hperm.nodup_iff.mpr store.discovered.discoveries.nodup
  exact (hle.and hne).imp fun h => lt_of_le_of_ne h.1 h.2

lemma mem_ids {id : DiscoveryId} : id ∈ store.ids ↔ (store.discovery id).isSome := by
  rw [ids, List.mem_insertionSort, store.discovered.discoveries.mem_keys]
  rfl

/-- A stored discovery is read with its page and its source. -/
lemma loadDiscoveryContext_isSome {id : DiscoveryId} (h : id ∈ store.ids) :
    ∃ row, loadDiscoveryContext store.toIntakeStore id = some row ∧ row.discoveryId = id := by
  obtain ⟨d, hd⟩ := Option.isSome_iff_exists.mp (store.mem_ids.mp h)
  obtain ⟨page, hpage⟩ := Option.isSome_iff_exists.mp (store.discovered.discovery_page id d hd)
  obtain ⟨source, hsource⟩ :=
    Option.isSome_iff_exists.mp (store.discovered.page_source _ page hpage)
  refine ⟨⟨id, d, page, page.sourceId, source⟩, ?_, rfl⟩
  simp only [loadDiscoveryContext, hd, hpage, hsource, Option.bind_eq_bind, Option.bind_some]
  rfl

/-- The ids that have no run of a version. -/
def unprocessed (version : String) : List DiscoveryId :=
  store.ids.filter fun id => store.isRun version id = false

variable {store}

lemma mem_unprocessed {id : DiscoveryId} :
    id ∈ store.unprocessed version ↔
      (store.discovery id).isSome ∧ store.isRun version id = false := by
  rw [unprocessed, List.mem_filter, mem_ids, decide_eq_true_eq]

lemma pairwise_unprocessed : (store.unprocessed version).Pairwise (· < ·) :=
  store.pairwise_ids.sublist List.filter_sublist

/-- A page of unprocessed work is a keyset page of the ids without a run. -/
theorem map_listDiscoveries (hversion : version ≠ "") :
    (store.listDiscoveries limit after (some version) true).map (·.discoveryId) =
      keysetPage limit after (store.unprocessed version) := by
  have hrows : ∀ l : List DiscoveryId, (∀ id ∈ l, id ∈ store.ids) →
      (l.filterMap (loadDiscoveryContext store.toIntakeStore)).map (·.discoveryId) = l := by
    intro l hl
    induction l with
    | nil => rfl
    | cons id l ih =>
      obtain ⟨row, hrow, hid⟩ := store.loadDiscoveryContext_isSome (hl id List.mem_cons_self)
      rw [List.filterMap_cons_some hrow, List.map_cons, hid,
        ih fun j hj => hl j (List.mem_cons_of_mem id hj)]
  have hpred : ∀ row : DiscoveryContext,
      (decide (Before after row.discoveryId ∧ ∀ v ∈ some version, true = true → v ≠ "" →
        store.isRun v row.discoveryId = false)) =
      ((fun id : DiscoveryId => decide (Before after id) &&
        decide (store.isRun version id = false)) ∘ DiscoveryContext.discoveryId) row := by
    intro row
    rw [Function.comp_apply, ← Bool.decide_and]
    refine decide_eq_decide.mpr (and_congr_right fun _ => ?_)
    simp [hversion]
  rw [listDiscoveries, keysetPage, unprocessed, List.filter_filter, List.map_take,
    List.filter_congr fun row _ => hpred row, ← List.filter_map, hrows _ fun id hid => hid]

/-- A page of unprocessed work, and the key of the next one. -/
theorem readDiscoveries_ok (hversion : version ≠ "") :
    ∃ response, readDiscoveries store limit after (some version) true = .ok response ∧
      response.items.map (·.discoveryId) =
        keysetPage limit after (store.unprocessed version) ∧
      response.nextCursor =
        nextKey limit (keysetPage limit after (store.unprocessed version)) := by
  have hmap := @map_listDiscoveries store limit after version hversion
  refine ⟨_, if_neg (by simp [hversion]), hmap, ?_⟩
  rw [nextKey, ← hmap, List.length_map, List.getLast?_map]

end AgentStore

/-! ## Evidence -/

/-- `SourceType` -/
inductive EvidenceSource
  | officialPage
  | officialDocument
  | aggregator
  | marketplace
  | blogList
  | searchResult
deriving DecidableEq, Repr

inductive FetchMethod
  | direct
  | jina
deriving DecidableEq, Repr

inductive Confidence
  | explicit
  | inferred
  | absent
deriving DecidableEq, Repr

structure EvidenceItem where
  claimPath : String
  value : Json
  sourceUrl : String
  sourceType : EvidenceSource
  excerpt : Option String
  observedAt : Instant
  fetchMethod : Option FetchMethod
  confidence : Option Confidence

structure EvidenceSubmissionRequest where
  workflowRunId : String
  workflowVersion : String
  promptVersion : Option String
  model : Option String
  evidence : List EvidenceItem

/-- `uq_discovery_evidence_claim` -/
structure EvidenceKey where
  discoveryId : DiscoveryId
  claimPath : String
  sourceUrl : String
  workflowRunId : String
deriving DecidableEq, Repr

/-- The other columns of a claim. -/
structure DiscoveryEvidence where
  value : Json
  sourceType : EvidenceSource
  excerpt : Option String
  observedAt : Instant
  fetchMethod : Option FetchMethod
  confidence : Option Confidence
  workflowVersion : String
  promptVersion : Option String
  model : Option String

/-- The table of the claims, under their unique keys. -/
abbrev EvidenceTable := Table EvidenceKey DiscoveryEvidence

/-- The row of a claim. -/
def evidenceRow (discoveryId : DiscoveryId) (payload : EvidenceSubmissionRequest)
    (item : EvidenceItem) : EvidenceKey × DiscoveryEvidence :=
  ({ discoveryId := discoveryId
     claimPath := item.claimPath
     sourceUrl := item.sourceUrl
     workflowRunId := payload.workflowRunId },
   { value := item.value
     sourceType := item.sourceType
     excerpt := item.excerpt
     observedAt := item.observedAt
     fetchMethod := item.fetchMethod
     confidence := item.confidence
     workflowVersion := payload.workflowVersion
     promptVersion := payload.promptVersion
     model := payload.model })

/-- The rows of a submission. -/
def evidenceRows (discoveryId : DiscoveryId) (payload : EvidenceSubmissionRequest) :
    List (EvidenceKey × DiscoveryEvidence) :=
  payload.evidence.map (evidenceRow discoveryId payload)

/-- `record_evidence`: how many claims are new, how many were there, and the table.  The columns
refuse a row, or take it. -/
def recordEvidence (columns : EvidenceKey × DiscoveryEvidence → Bool) (discoveryId : DiscoveryId)
    (payload : EvidenceSubmissionRequest) (evidence : EvidenceTable) :
    Except PyErr ((ℕ × ℕ) × EvidenceTable) :=
  let rows := evidenceRows discoveryId payload
  if rows.all columns then
    let (recorded, evidence) := rows.foldl Table.addNew (0, evidence)
    .ok ((recorded, rows.length - recorded), evidence)
  else refused

/-- `attach_evidence` -/
def attachEvidence (columns : EvidenceKey × DiscoveryEvidence → Bool) (store : IntakeStore)
    (discoveryId : DiscoveryId) (payload : EvidenceSubmissionRequest) (evidence : EvidenceTable) :
    Except RouteErr ((ℕ × ℕ) × EvidenceTable) :=
  if (loadDiscoveryContext store discoveryId).isNone then
    .error (.http 404 "No such discovery")
  else
    match recordEvidence columns discoveryId payload evidence with
    | .ok result => .ok result
    | .error e => .error (.unhandled e)

/-! ## What a submission of evidence inserts -/

variable {columns : EvidenceKey × DiscoveryEvidence → Bool} {store : IntakeStore}
  {discoveryId : DiscoveryId} {payload : EvidenceSubmissionRequest}
  {evidence evidence' : EvidenceTable} {counts : ℕ × ℕ}

/-- A submission that is taken adds the rows of the new keys, and counts the new claims and the
others. -/
theorem attachEvidence_ok_iff :
    attachEvidence columns store discoveryId payload evidence = .ok (counts, evidence') ↔
      (loadDiscoveryContext store discoveryId).isSome ∧
        (∀ row ∈ evidenceRows discoveryId payload, columns row = true) ∧
        ((evidenceRows discoveryId payload).foldl Table.addNew (0, evidence)).2 = evidence' ∧
        counts = (((evidenceRows discoveryId payload).foldl Table.addNew (0, evidence)).1,
          payload.evidence.length -
            ((evidenceRows discoveryId payload).foldl Table.addNew (0, evidence)).1) := by
  rw [attachEvidence, recordEvidence]
  by_cases hnone : (loadDiscoveryContext store discoveryId).isNone
  · rw [if_pos hnone]
    refine iff_of_false (fun h => by cases h) ?_
    rintro ⟨hsome, -⟩
    rw [Option.isNone_iff_eq_none] at hnone
    rw [hnone] at hsome
    cases hsome
  · rw [if_neg hnone]
    have hsome : (loadDiscoveryContext store discoveryId).isSome := by
      rwa [← Option.not_isNone, Bool.not_eq_true', ← Bool.not_eq_true]
    by_cases hcolumns : (evidenceRows discoveryId payload).all columns
    · have hlength : (evidenceRows discoveryId payload).length = payload.evidence.length :=
        List.length_map _
      rw [if_pos hcolumns, hlength]
      rw [List.all_eq_true] at hcolumns
      constructor
      · intro h
        obtain ⟨rfl, rfl⟩ := Prod.mk.inj (Except.ok.inj h)
        exact ⟨hsome, hcolumns, rfl, rfl⟩
      · rintro ⟨-, -, rfl, rfl⟩
        rfl
    · rw [if_neg hcolumns]
      rw [List.all_eq_true] at hcolumns
      exact iff_of_false (fun h => by cases h) fun h => hcolumns h.2.1

end ScholarshipFinder
