import ScholarshipFinder.Infra.Linking
import ScholarshipFinder.Intake.Growth

/-!
# The runs of the linker

`Linked` lists the ways in which a run of `link_discovery` ends.  A run writes one discovery: the
mark of a duplicate, the scholarship, the facts and the state, and no other column of it.
-/

namespace ScholarshipFinder

open Lib

namespace IntakeStore

variable {py : IntakePy} {store before after : IntakeStore} {id : DiscoveryId}

/-! ## Rows -/

lemma amend_discovery (store : IntakeStore) (id other : DiscoveryId) {f : Discovery → Discovery}
    (hf : ∀ d, (f d).sourcePageId = d.sourcePageId) :
    (store.amend id f hf).discovery other =
      if other = id then (store.discovery other).map f else store.discovery other :=
  Table.row_modify _ _ _ _

/-- The row of the discovery that was written. -/
lemma amend_discovery_self {f : Discovery → Discovery}
    (hf : ∀ d, (f d).sourcePageId = d.sourcePageId) {d : Discovery}
    (h : store.discovery id = some d) : (store.amend id f hf).discovery id = some (f d) := by
  rw [amend_discovery, if_pos rfl, h]
  rfl

/-- What the insert of a task makes of the store. -/
inductive TaskInserted (taskId : TaskId) (discoveryId : DiscoveryId) (reason : String)
    (priority : ℤ) (now : Instant) (before : IntakeStore) : Option TaskId → IntakeStore → Prop
  | found {existing : TaskId} (h : before.liveTask discoveryId = some existing) :
    TaskInserted taskId discoveryId reason priority now before none before
  | inserted (hnone : before.liveTask discoveryId = none) (hfree : before.tasks.row taskId = none)
      (hdiscovery : (before.discovery discoveryId).isSome) :
    TaskInserted taskId discoveryId reason priority now before (some taskId)
      { before with tasks := before.tasks.insert taskId {
        discoveryId := some discoveryId
        state := .opened
        resolution := none
        draftRecommendation := none
        reason := reason
        priority := priority
        createdAt := now } }

lemma insertTask_ok {taskId : TaskId} {reason : String} {priority : ℤ} {now : Instant}
    {inserted : Option TaskId}
    (h : store.insertTask taskId id reason priority now = .ok (inserted, after)) :
    TaskInserted taskId id reason priority now store inserted after := by
  unfold insertTask at h
  split at h
  · next found hfound =>
    cases h
    exact .found hfound
  · next hnone =>
    split at h
    · next hadmits =>
      cases h
      exact .inserted hnone hadmits.1 hadmits.2
    · cases h

/-- Tasks and jobs were added, and nothing else was written. -/
structure Tasked (id : DiscoveryId) (before after : IntakeStore) : Prop where
  discovered : after.discovered = before.discovered
  shells : after.shells = before.shells
  /-- The discovery has an open task now. -/
  live : ∃ taskId task, after.tasks.row taskId = some task ∧ task.discoveryId = some id ∧
    task.live = true
  tasks : ∀ taskId task, before.tasks.row taskId = some task →
    after.tasks.row taskId = some task
  /-- At most one task was added: an open one of this discovery, which had none. -/
  added : ∃ new : Option TaskId, ∀ taskId task, after.tasks.row taskId = some task →
    before.tasks.row taskId = some task ∨
      new = some taskId ∧ task.discoveryId = some id ∧ task.live = true ∧
        before.liveTask id = none

lemma TaskInserted.tasked {taskId : TaskId} {reason : String} {priority : ℤ} {now : Instant}
    {inserted : Option TaskId}
    (h : TaskInserted taskId id reason priority now before inserted after) :
    Tasked id before after := by
  cases h with
  | found hfound =>
    obtain ⟨task, htask, hlive⟩ := Table.findKey_eq_some hfound
    rw [Bool.and_eq_true, decide_eq_true_eq] at hlive
    exact ⟨rfl, rfl, ⟨_, task, htask, hlive⟩, fun _ _ h => h, none, fun _ _ h => .inl h⟩
  | inserted hnone hfree hdiscovery =>
    refine ⟨rfl, rfl, ⟨taskId, _, Table.row_insert_self _ _ _, rfl, rfl⟩, ?_, some taskId, ?_⟩
    · intro other task htask
      exact Table.row_insert_of_some hfree htask _
    · intro other task htask
      rw [Table.row_insert] at htask
      split at htask
      · next heq =>
        obtain rfl := Option.some.inj htask
        exact .inr ⟨congrArg some heq.symm, rfl, rfl, hnone⟩
      · exact .inl htask

/-- A write to the jobs alone. -/
lemma Tasked.jobs {middle : IntakeStore} (h : Tasked id before middle)
    (hreviews : after.toReviewStore = middle.toReviewStore) : Tasked id before after where
  discovered := by rw [hreviews, h.discovered]
  shells := by rw [hreviews, h.shells]
  live := by rw [hreviews]; exact h.live
  tasks := by rw [hreviews]; exact h.tasks
  added := by rw [hreviews]; exact h.added

lemma insertJob_reviews {jobId : JobId} {kind dedupeKey : String} {payload : Json}
    (h : store.insertJob jobId kind dedupeKey payload = .ok after) :
    after.toReviewStore = store.toReviewStore := by
  obtain ⟨-, -, rfl⟩ := insertJob_ok h
  rfl

lemma addReviewTaskOnce_ok {reason : String} {priority : ℤ} {answers : LinkAnswers}
    (h : store.addReviewTaskOnce id reason priority answers = .ok after) :
    Tasked id store after := by
  obtain ⟨⟨inserted, tasked⟩, hinserted, h⟩ := exceptBind_ok h
  have htasked := (insertTask_ok hinserted).tasked
  cases inserted with
  | none =>
    cases h
    exact htasked
  | some taskId =>
    refine htasked.jobs ?_
    dsimp only at h
    unfold enqueueOnce at h
    split at h
    · cases h
      rfl
    · exact insertJob_reviews h

/-! ## The ends of a run -/

/-- How a run ends. -/
inductive Linked (py : IntakePy) (id : DiscoveryId) (before : IntakeStore) :
    Except PyErr LinkOutcome → IntakeStore → Prop
  | missing (hrow : before.discovery id = none) :
    Linked py id before (lookupError "Discovery not found") before
  | duplicate {d : Discovery} {originalId : DiscoveryId} {facts : ExtractedFacts}
      (hrow : before.discovery id = some d) (horiginal : before.originalOf id d = some originalId) :
    Linked py id before (.ok .duplicatePending)
      (before.amend id (Discovery.markDuplicate originalId facts) fun _ => rfl)
  /-- The database refuses the pattern or a row. -/
  | refused {d : Discovery} {e : PyErr} (hrow : before.discovery id = some d)
      (hnone : before.originalOf id d = none) : Linked py id before (.error e) before
  | linked {d : Discovery} {scholarshipId : ScholarshipId} (hrow : before.discovery id = some d)
      (hnone : before.originalOf id d = none)
      (hnamed : before.namedLike py (d.rawTitle.getD "") before.shells.keys = .ok [scholarshipId]) :
    Linked py id before (.ok .linked)
      (before.amend id (Discovery.linkTo scholarshipId) fun _ => rfl)
  /-- The facts are assigned when the router raises. -/
  | interrupted {d : Discovery} {e : PyErr} {facts : ExtractedFacts}
      (hrow : before.discovery id = some d) (hnone : before.originalOf id d = none) :
    Linked py id before (.error e)
      (before.amend id (Discovery.extract facts) fun _ => rfl)
  | queued {d : Discovery} {decision : LinkDecision} {facts : ExtractedFacts}
      {candidates : List ScholarshipId} {after : IntakeStore}
      (hrow : before.discovery id = some d) (hnone : before.originalOf id d = none)
      (hnamed : before.namedLike py (d.rawTitle.getD "") before.shells.keys = .ok candidates)
      (hdecision : decision = decideLink candidates) (hother : decision.outcome ≠ .linked)
      (htasked : Tasked id
        (before.amend id (Discovery.queueAs (queuedState decision) facts) fun _ => rfl) after) :
    Linked py id before (.ok decision.outcome) after

/-- A decision names a scholarship exactly if it links. -/
lemma decideLink_scholarshipId {candidates : List ScholarshipId} {scholarshipId : ScholarshipId} :
    (decideLink candidates).scholarshipId = some scholarshipId ↔ candidates = [scholarshipId] := by
  unfold decideLink
  split
  · simp
  · simp
  · next hsome hnone =>
    refine iff_of_false (by simp) fun h => hsome scholarshipId h

lemma decideLink_outcome_of_none {candidates : List ScholarshipId}
    (h : (decideLink candidates).scholarshipId = none) :
    (decideLink candidates).outcome ≠ .linked := by
  unfold decideLink at h ⊢
  split
  · cases h
  · simp
  · simp

theorem linkDiscovery_linked (py : IntakePy) (id : DiscoveryId) (answers : LinkAnswers)
    (store : IntakeStore) :
    Linked py id store (store.linkDiscovery py id answers).1
      (store.linkDiscovery py id answers).2 := by
  unfold linkDiscovery
  split
  · next hrow => exact .missing hrow
  · next d hrow =>
    dsimp only
    split
    · next originalId horiginal => exact .duplicate hrow horiginal
    · next hnone =>
      split
      · exact .refused hrow hnone
      · next candidates hnamed =>
        split
        · next scholarshipId hscholarship =>
          rw [decideLink_scholarshipId] at hscholarship
          subst hscholarship
          exact .linked hrow hnone hnamed
        · next hother =>
          split
          · exact .interrupted hrow hnone
          · split
            · exact .refused hrow hnone
            · next queued hqueued =>
              exact .queued hrow hnone hnamed rfl (decideLink_outcome_of_none hother)
                (addReviewTaskOnce_ok hqueued)

/-! ## What a run writes -/

/-- The columns with which a discovery was created, and the key, are the same. -/
structure SameOrigin (d d' : Discovery) : Prop where
  page : d'.sourcePageId = d.sourcePageId
  title : d'.rawTitle = d.rawTitle
  excerpt : d'.rawExcerpt = d.rawExcerpt
  hash : d'.contentHash = d.contentHash
  key : d'.normalizedIdentityKey = d.normalizedIdentityKey
  split : d'.splitFromDiscoveryId = d.splitFromDiscoveryId
  supersedes : d'.supersedesDiscoveryId = d.supersedesDiscoveryId

lemma SameOrigin.refl (d : Discovery) : SameOrigin d d :=
  ⟨rfl, rfl, rfl, rfl, rfl, rfl, rfl⟩

lemma SameOrigin.trans {d d' d'' : Discovery} (h : SameOrigin d d') (h' : SameOrigin d' d'') :
    SameOrigin d d'' where
  page := h'.page.trans h.page
  title := h'.title.trans h.title
  excerpt := h'.excerpt.trans h.excerpt
  hash := h'.hash.trans h.hash
  key := h'.key.trans h.key
  split := h'.split.trans h.split
  supersedes := h'.supersedes.trans h.supersedes

variable {result : Except PyErr LinkOutcome}

/-- No discovery is added. -/
lemma Linked.keys (h : Linked py id before result after) :
    after.discovered.discoveries.keys = before.discovered.discoveries.keys := by
  cases h with
  | missing | refused => rfl
  | duplicate | linked | interrupted => exact Table.keys_modify _ _ _
  | queued hrow hnone hnamed hdecision hother htasked =>
    rw [htasked.discovered]
    exact Table.keys_modify _ _ _

/-- The pages and what is published are the same. -/
lemma Linked.db (h : Linked py id before result after) :
    after.discovered.db = before.discovered.db := by
  cases h with
  | missing | refused | duplicate | linked | interrupted => rfl
  | queued hrow hnone hnamed hdecision hother htasked =>
    rw [htasked.discovered]
    rfl

/-- No task is removed. -/
lemma Linked.tasks (h : Linked py id before result after) {taskId : TaskId} {task : DiscoveryTask}
    (hrow : before.tasks.row taskId = some task) : after.tasks.row taskId = some task := by
  cases h with
  | missing | refused | duplicate | linked | interrupted => exact hrow
  | queued _ _ _ _ _ htasked => exact htasked.tasks taskId task hrow

/-- A run writes the row of its discovery: the mark if there is an original, and no column that
the discovery was created with. -/
theorem Linked.rows (h : Linked py id before result after) :
    ∃ f : Discovery → Discovery, (∀ d, SameOrigin d (f d)) ∧
      (∀ other, after.discovery other =
        if other = id then (before.discovery other).map f else before.discovery other) ∧
      ∀ d, before.discovery id = some d → (f d).duplicateOfDiscoveryId =
        (before.originalOf id d).or d.duplicateOfDiscoveryId := by
  have hid : ∀ other, before.discovery other =
      if other = id then (before.discovery other).map (fun d => d) else before.discovery other := by
    intro other
    rw [Option.map_id', ite_self]
  cases h with
  | missing hrow =>
    refine ⟨fun d => d, .refl, hid, fun d hd => ?_⟩
    rw [hrow] at hd
    cases hd
  | duplicate hrow horiginal =>
    refine ⟨Discovery.markDuplicate _ _, fun _ => ⟨rfl, rfl, rfl, rfl, rfl, rfl, rfl⟩,
      fun other => amend_discovery _ _ _ _, fun d hd => ?_⟩
    obtain rfl := Option.some.inj (hrow.symm.trans hd)
    rw [horiginal]
    rfl
  | refused hrow hnone =>
    refine ⟨fun d => d, .refl, hid, fun d hd => ?_⟩
    obtain rfl := Option.some.inj (hrow.symm.trans hd)
    rw [hnone]
    rfl
  | linked hrow hnone hnamed =>
    refine ⟨Discovery.linkTo _, fun _ => ⟨rfl, rfl, rfl, rfl, rfl, rfl, rfl⟩,
      fun other => amend_discovery _ _ _ _, fun d hd => ?_⟩
    obtain rfl := Option.some.inj (hrow.symm.trans hd)
    rw [hnone]
    rfl
  | interrupted hrow hnone =>
    refine ⟨Discovery.extract _, fun _ => ⟨rfl, rfl, rfl, rfl, rfl, rfl, rfl⟩,
      fun other => amend_discovery _ _ _ _, fun d hd => ?_⟩
    obtain rfl := Option.some.inj (hrow.symm.trans hd)
    rw [hnone]
    rfl
  | @queued d' decision facts _ _ hrow hnone hnamed hdecision hother htasked =>
    refine ⟨Discovery.queueAs (queuedState decision) facts, fun _ => ⟨rfl, rfl, rfl, rfl, rfl, rfl, rfl⟩,
      fun other => ?_, fun d hd => ?_⟩
    · rw [ReviewStore.discovery, htasked.discovered]
      exact amend_discovery _ _ _ _
    · obtain rfl := Option.some.inj (hrow.symm.trans hd)
      rw [hnone]
      rfl

/-! ## The original -/

/-- `e` is earlier than a discovery, of another page, with its key, and not marked. -/
structure Precedes (store : IntakeStore) (id : DiscoveryId) (d : Discovery)
    (other : DiscoveryId) : Prop where
  earlier : other < id
  row : ∃ key e, d.normalizedIdentityKey = some key ∧ key ≠ "" ∧ store.discovery other = some e ∧
    e.normalizedIdentityKey = some key ∧ e.sourcePageId ≠ d.sourcePageId ∧
    e.duplicateOfDiscoveryId = none

lemma isOriginal_iff {key : String} {pageId : PageId} {e : Discovery} :
    isOriginal key pageId e = true ↔ e.normalizedIdentityKey = some key ∧
      e.sourcePageId ≠ pageId ∧ e.duplicateOfDiscoveryId = none := by
  simp only [isOriginal, Bool.and_eq_true, decide_eq_true_eq, and_assoc]

/-- The candidates for the original of a discovery with this key. -/
lemma mem_precedents {d : Discovery} {key : String} (hkey : d.normalizedIdentityKey = some key)
    (hne : key ≠ "") {other : DiscoveryId} :
    other ∈ store.discovered.discoveries.keys.filter (fun other =>
      other < id && (store.discovery other).any (isOriginal key d.sourcePageId)) ↔
        Precedes store id d other := by
  rw [List.mem_filter, Bool.and_eq_true, decide_eq_true_eq, Option.any_eq_true]
  constructor
  · rintro ⟨-, hlt, e, hrow, horiginal⟩
    obtain ⟨hsame, hpage, hnone⟩ := isOriginal_iff.mp horiginal
    exact ⟨hlt, key, e, hkey, hne, hrow, hsame, hpage, hnone⟩
  · rintro ⟨hlt, key', e, hkey', -, hrow, hsame, hpage, hnone⟩
    obtain rfl : key = key' := Option.some.inj (hkey.symm.trans hkey')
    refine ⟨?_, hlt, e, hrow, isOriginal_iff.mpr ⟨hsame, hpage, hnone⟩⟩
    rw [store.discovered.discoveries.mem_keys]
    exact Option.isSome_iff_exists.mpr ⟨e, hrow⟩

/-- The original is the earliest that precedes. -/
theorem originalOf_precedes {d : Discovery} {originalId : DiscoveryId}
    (h : store.originalOf id d = some originalId) : Precedes store id d originalId := by
  unfold originalOf at h
  split at h
  · cases h
  · next key hkey =>
    split at h
    · cases h
    · next hne => exact (mem_precedents hkey hne).mp (List.min?_mem h)

/-- Where there is no original, nothing precedes. -/
theorem not_precedes_of_originalOf {d : Discovery} (h : store.originalOf id d = none)
    (other : DiscoveryId) : ¬ Precedes store id d other := by
  intro hprecedes
  obtain ⟨key, e, hkey, hne, -⟩ := hprecedes.row
  rw [originalOf, hkey] at h
  dsimp only at h
  rw [if_neg hne, List.min?_eq_none_iff] at h
  exact List.ne_nil_of_mem ((mem_precedents hkey hne).mpr hprecedes) h

end IntakeStore

end ScholarshipFinder
