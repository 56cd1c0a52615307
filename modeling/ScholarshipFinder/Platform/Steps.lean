import ScholarshipFinder.Platform.Writes

/-!
# What each step of the platform writes

A reviewer decides and publishes, an attempt does both by itself, and the sweeps write the cycles.
`platformStep_writes` gives the writes of every step, with its effect.
-/

namespace ScholarshipFinder

open Lib

/-! ## Decisions and attempts -/

section

variable {before after store : ReviewStore} {taskId : TaskId} {scholarshipId : ScholarshipId}

/-- A decision writes no task but its own, which it resolves. -/
lemma resolved_tasks {copy : DiscoveryTask} {reason : String} (hopened : copy.state = .opened)
    (htasks : after.tasks = before.tasks.modify taskId (resolveTask copy reason)) :
    TasksOn before after none ∧ ∀ other task about, after.tasks.row other = some task →
      task.discoveryId = some about →
      ∃ old, before.tasks.row other = some old ∧ old.discoveryId = some about := by
  refine ⟨⟨⟨none, fun other task hrow hstate => ?_⟩, fun other task draft hrow hdraft => ?_⟩,
    fun other task about hrow habout => ?_⟩
  · rw [htasks, Table.row_modify] at hrow
    split at hrow
    · obtain ⟨stored, hstored, rfl⟩ := Option.map_eq_some_iff.mp hrow
      rw [resolveTask_state hopened] at hstate
      cases hstate
    · exact .inl ⟨task, hrow, hstate, rfl, rfl⟩
  · rw [htasks, Table.row_modify] at hrow
    split at hrow
    · obtain ⟨stored, hstored, rfl⟩ := Option.map_eq_some_iff.mp hrow
      exact .inr ⟨stored, hstored, rfl, hdraft⟩
    · exact .inr ⟨task, hrow, rfl, hdraft⟩
  · rw [htasks, Table.row_modify] at hrow
    split at hrow
    · obtain ⟨stored, hstored, rfl⟩ := Option.map_eq_some_iff.mp hrow
      exact ⟨stored, hstored, habout⟩
    · exact ⟨task, hrow, habout⟩

/-- What the database has checked of a scholarship that it takes. -/
lemma insertShell_admitted {shell : ScholarshipShell}
    (h : insertShell scholarshipId shell before = .ok after) :
    (∀ id other, before.shells.row id = some other → other.slug ≠ shell.slug) ∧
      (before.providers.row shell.providerId).isSome := by
  simp only [insertShell] at h
  split at h
  · cases h
  next hadmits =>
  rw [not_or, not_or, not_or] at hadmits
  obtain ⟨htaken, -, hprovider, -⟩ := hadmits
  refine ⟨fun id other hrow hslug => htaken ?_,
    by simpa [Option.isSome_iff_ne_none] using hprovider⟩
  refine List.any_eq_true.mpr ⟨id, (before.shells.mem_keys id).mpr (by rw [hrow]; rfl), ?_⟩
  rw [hrow]
  exact decide_eq_true hslug

/-- The scholarship of an approval. -/
lemma approveTask_admitted {py : Py} {request : ReviewDecisionRequest} {task : DiscoveryTask}
    {view : DiscoveryId → Option Discovery}
    (h : approveTask py scholarshipId request task view before = .ok after) :
    ∃ shell, after.shells = before.shells.insert scholarshipId shell ∧
      after.providers = before.providers ∧
      (∀ id other, before.shells.row id = some other → other.slug ≠ shell.slug) ∧
      (before.providers.row shell.providerId).isSome := by
  unfold approveTask at h
  split at h
  swap
  · cases h
  obtain ⟨awardType, -, h⟩ := exceptBind_ok h
  split at h
  · cases h
  obtain ⟨inserted, hinsert, h⟩ := exceptBind_ok h
  cases h
  have hadmitted := insertShell_admitted hinsert
  obtain ⟨-, rfl⟩ := insertShell_ok hinsert
  exact ⟨_, rfl, rfl, hadmitted⟩

/-- A decision resolves its task, and an approval creates a scholarship from the discovery of the
task, as the session has it. -/
theorem decideReview_writes {py : Py} {request : ReviewDecisionRequest}
    {task : Option DiscoveryTask} {view : DiscoveryId → Option Discovery}
    {created : Option ScholarshipId} (byAttempt : Bool)
    (h : decideReview py scholarshipId taskId request task view before = .ok (created, after)) :
    (created = none ∧ Writes before after {}) ∨
      ∃ copy discoveryId, task = some copy ∧ copy.discoveryId = some discoveryId ∧
        created = some scholarshipId ∧
        Writes before after
          { creation := some ⟨scholarshipId, discoveryId, taskId, byAttempt⟩ } := by
  obtain ⟨copy, rfl, hopened, hcreated, htasks⟩ := decideReview_ok h
  obtain ⟨htasksOn, habout⟩ := resolved_tasks hopened htasks
  unfold decideReview at h
  simp only [hopened, ne_eq, not_true_eq_false, if_false] at h
  cases hdecision : request.decision with
  | reject =>
    simp only [hdecision] at h
    cases h
    refine .inl ⟨rfl, .kept rfl (.refl _) (fun _ h => h) rfl,
      ⟨fun _ h => h, fun _ d h => ⟨d, h, .refl d⟩, ?_, ?_, ?_, ?_⟩, htasksOn, .refl _⟩
    · exact fun other d hnone hrow => by cases hnone.symm.trans hrow
    · exact fun other d _ hrow hid => .inl ⟨d, hrow, hid⟩
    · exact fun other d _ hrow hmem => .inl ⟨d, hrow, hmem⟩
    · exact fun other task about hrow hid => .inl (habout other task about hrow hid)
  | approve =>
    simp only [hdecision] at h
    obtain ⟨approved, happrove, h⟩ := exceptBind_ok h
    cases h
    obtain ⟨shell, hshells, hproviders, hslug, hprovider⟩ := approveTask_admitted happrove
    obtain ⟨discoveryId, discovery, hid, -, happroves⟩ := approveTask_ok happrove
    have hrow : ∀ other, approved.discovery other = if other = discoveryId then
        (before.discovery other).map (linkDiscovery discovery scholarshipId)
        else before.discovery other := happroves.discovery
    refine .inr ⟨copy, discoveryId, rfl, hid, rfl, ?_, ⟨?_, ?_, ?_, ?_, ?_, ?_⟩, htasksOn, ?_⟩
    · exact .created _ shell happroves.free hslug hprovider hshells (by rw [happroves.db])
        (by rw [happroves.db]) hproviders happroves.autoApproved
    · intro id hsome
      obtain ⟨old, hold⟩ := Option.isSome_iff_exists.mp hsome
      show (approved.shells.row id).isSome
      rw [hshells, Table.row_insert_of_some happroves.free hold]
      rfl
    · intro id d hd
      show ∃ d', approved.discovery id = some d' ∧ _
      rw [hrow, hd]
      split
      · exact ⟨_, rfl, rfl, rfl, rfl⟩
      · exact ⟨d, rfl, .refl d⟩
    · intro id d hnone hd
      change approved.discovery id = some d at hd
      rw [hrow, hnone] at hd
      split at hd
      · cases hd
      · cases hd
    · intro id d linked hd hlinked
      change approved.discovery id = some d at hd
      show _ ∨ (approved.shells.row linked).isSome
      rw [hrow] at hd
      split at hd
      · obtain ⟨stored, hstored, rfl⟩ := Option.map_eq_some_iff.mp hd
        rcases writeBack_cases discovery.canonicalScholarshipId (some scholarshipId)
          stored.canonicalScholarshipId with heq | ⟨-, heq⟩
        · obtain rfl : scholarshipId = linked := Option.some.inj (heq.symm.trans hlinked)
          rw [hshells, Table.row_insert_self]
          exact .inr rfl
        · exact .inl ⟨stored, hstored, heq.symm.trans hlinked⟩
      · exact .inl ⟨d, hd, hlinked⟩
    · intro id d other hd hmem
      change approved.discovery id = some d at hd
      rw [hrow] at hd
      split at hd
      · obtain ⟨stored, hstored, rfl⟩ := Option.map_eq_some_iff.mp hd
        exact .inl ⟨stored, hstored, hmem⟩
      · exact .inl ⟨d, hd, hmem⟩
    · exact fun other task about hrow hid => .inl (habout other task about hrow hid)
    · exact (PagesOn.of_eq (by rw [happroves.db]) (by rw [happroves.db])
        (by rw [happroves.db])).collects

/-- Another cycle has this identity, or not. -/
lemma identityTaken_eq_false {db : Db} {key segment : String} {except : Option CycleId} :
    identityTaken db scholarshipId key segment except = false ↔
      ∀ c, some c ≠ except → db.identityOf c ≠ some (scholarshipId, key, segment) := by
  rw [identityTaken, List.any_eq_false]
  constructor
  · intro h c hc hidentity
    obtain ⟨row, hrow, heq⟩ := Option.map_eq_some_iff.mp hidentity
    refine h c ((db.cycles.mem_keys c).mpr (by rw [hrow]; rfl)) ?_
    obtain ⟨rfl, hrest⟩ := Prod.mk.inj heq
    obtain ⟨rfl, rfl⟩ := Prod.mk.inj hrest
    simp [hc, hrow]
  · intro h c _ htaken
    rw [Bool.and_eq_true, decide_eq_true_eq, Option.any_eq_true] at htaken
    obtain ⟨hc, row, hrow, hsame⟩ := htaken
    rw [Bool.and_eq_true, Bool.and_eq_true, decide_eq_true_eq, decide_eq_true_eq,
      decide_eq_true_eq] at hsame
    refine h c hc ?_
    rw [Db.identityOf, hrow, Option.map_some, ScholarshipCycle.identity, hsame.1.1, hsame.1.2,
      hsame.2]

lemma publishCycle_identity {args : PublishArgs} {now : Instant} {db db' : Db}
    (h : publishCycle args now db = .ok db') (c : CycleId) :
    db.identityOf c ≠ some (args.newRow now).identity := by
  have htaken : identityTaken db args.scholarshipId args.providerCycleKey args.applicantSegment
      none = false := by
    unfold publishCycle at h
    split at h
    · cases h
    · split at h
      · cases h
      · split at h
        · cases h
        · next htaken => simpa using htaken
  exact identityTaken_eq_false.mp htaken c (by simp)

/-- A publication, by a reviewer or by an attempt. -/
lemma published_writes {args : PublishArgs} {now : Instant} {db : Db} (byAttempt : Bool)
    (h : publishCycle args now before.discovered.db = .ok db)
    (hdb : after.discovered.db = db)
    (hdiscoveries : after.discovered.discoveries = before.discovered.discoveries)
    (hshells : after.shells = before.shells) (htasks : after.tasks = before.tasks)
    (hproviders : after.providers = before.providers)
    (hauto : after.autoApproved = before.autoApproved ++ if byAttempt then [args.cycleId] else []) :
    Writes before after { publication := some ⟨args.cycleId, args.scholarshipId, byAttempt⟩ } := by
  have hidentity := publishCycle_identity h
  obtain ⟨hfree, hlive, rfl⟩ := publishCycle_ok h
  refine ⟨?_, .of_eq hshells hdiscoveries htasks, .of_eq htasks,
    (PagesOn.of_eq (by rw [hdb]) (by rw [hdb]) (by rw [hdb])).collects⟩
  exact .published _ (args.newRow now) rfl hfree hidentity hlive hshells (by rw [hdb]; rfl)
    (by rw [hdb]) hproviders hauto

variable {py : ApprovalPy} {settings : ApprovalSettings} {answers : AttemptAnswers}

lemma markEvaluated_writes (store : ReviewStore) (id : DiscoveryId) (now : Instant) :
    Writes store (store.markEvaluated id now) {} :=
  Writes.amend_kept (f := fun d => { d with autoReviewEvaluatedAt := some now }) (fun _ => rfl)
    (fun _ => ⟨rfl, rfl⟩) fun _ => ⟨rfl, rfl⟩

/-- The end of a transaction of gates writes at most the mark. -/
lemma stageAfter_writes {α : Type} {gate : Except PyErr (Gate α)}
    {next : α → AttemptStage × ReviewStore} (hnext : ∀ a, Writes store (next a).2 {}) :
    Writes store (stageAfter answers store gate next).2 {} := by
  unfold stageAfter
  split
  · exact hnext _
  · exact .refl store
  · exact markEvaluated_writes store _ _
  · exact .refl store

variable (py settings answers) in
/-- The effect of a transaction of an attempt. -/
def attemptEffect (step : AttemptStep) (stage : AttemptStage) (store : ReviewStore) : Effect :=
  match step, stage with
  | .decide, .verified attempt _ =>
    match (attemptStep py settings answers step stage store).1 with
    | .decided _ _ scholarshipId =>
      { creation := attempt.task.discoveryId.map fun id =>
          ⟨scholarshipId, id, attempt.taskId, true⟩ }
    | _ => {}
  | .publish, .decided attempt derived scholarshipId =>
    match publishApproved py answers attempt derived scholarshipId store with
    | .ok _ => { publication := some ⟨answers.cycleId, scholarshipId, true⟩ }
    | .error _ => {}
  | _, _ => {}

lemma publishApproved_writes {attempt : Attempt} {derived : DerivedCycleFacts}
    (h : publishApproved py answers attempt derived scholarshipId store = .ok after) :
    Writes store after { publication := some ⟨answers.cycleId, scholarshipId, true⟩ } := by
  unfold publishApproved at h
  split at h
  · cases h
  · next facts hfacts =>
    split at h
    · cases h
    · next db hdb =>
      cases h
      have hpublished : Writes store
          { store.withDb db (publishCycle_pages hdb).1 (publishCycle_pages hdb).2 with
            autoApproved := store.autoApproved ++ [answers.cycleId] }
          { publication := some ⟨answers.cycleId, scholarshipId, true⟩ } :=
        published_writes true hdb rfl rfl rfl rfl rfl rfl
      -- the mark comes last, and writes neither the catalogue nor a reference
      have hmark := markEvaluated_writes
        { store.withDb db (publishCycle_pages hdb).1 (publishCycle_pages hdb).2 with
          autoApproved := store.autoApproved ++ [answers.cycleId] } attempt.discoveryId
        answers.evaluatedAt
      have hcollects := hpublished.collects
      refine ⟨?_, ⟨hmark.refers.shells, hmark.refers.items, ?_, hmark.refers.canonical,
        hmark.refers.lineage, hmark.refers.tasks⟩, ⟨hmark.tasks.opened, hmark.tasks.drafts⟩,
        ⟨hcollects.pages, hcollects.sources, hcollects.snapshots⟩⟩
      swap
      · intro id d hnone hd
        obtain ⟨sourceId, hsource, hactive⟩ := hmark.refers.entered id d hnone hd
        refine ⟨sourceId, hsource, ?_⟩
        have hsources : db.sources = store.discovered.db.sources := (publishCycle_pages hdb).2
        change (db.sources.row sourceId).any (·.active) = true at hactive
        rwa [hsources] at hactive
      cases hpublished.catalogue with
      | published publication row hid hfree hidentity hlive hshells hscholarships hcycles
          hproviders hauto =>
        exact .published _ row hid hfree hidentity hlive hshells hscholarships hcycles hproviders
          hauto

/-- A transaction of an attempt. -/
theorem attemptStep_writes (step : AttemptStep) (stage : AttemptStage) (store : ReviewStore) :
    Writes store (attemptStep py settings answers step stage store).2
      (attemptEffect py settings answers step stage store) := by
  have hkept : ∀ step stage, attemptStep py settings answers step stage store = (stage, store) →
      Writes store (attemptStep py settings answers step stage store).2 {} := by
    intro step stage h
    rw [h]
    exact .refl store
  cases step with
  | start taskId =>
    cases stage with
    | idle => exact stageAfter_writes fun _ => .refl store
    | fetching | verified | decided => exact hkept _ _ rfl
  | verify =>
    cases stage with
    | fetching attempt =>
      exact stageAfter_writes fun _ => .of_eq rfl (.refl _) rfl rfl (fun _ h => h) rfl (.refl _)
    | idle | verified | decided => exact hkept _ _ rfl
  | decide =>
    cases stage with
    | verified attempt page =>
      have hstep : attemptStep py settings answers .decide (.verified attempt page) store =
          stageAfter answers store (closingGates py settings answers attempt page store)
            fun admission => stageDecided attempt admission.derived store
              (decideAttempt py answers attempt admission store) := rfl
      rw [attemptEffect, hstep]
      cases hclosing : closingGates py settings answers attempt page store with
      | error e => exact .refl store
      | ok gate =>
        cases gate with
        | stopped reason => exact .refl store
        | deferred id reason => exact markEvaluated_writes store _ _
        | passed admission =>
          dsimp only [stageAfter]
          cases hdecided : decideAttempt py answers attempt admission store with
          | error e => exact .refl store
          | ok result =>
            obtain ⟨created, decided⟩ := result
            -- the request of an attempt approves, which answers a scholarship
            obtain rfl := decideAttempt_some (closingGates_passed hclosing).decision hdecided
            rcases decideReview_writes true hdecided with ⟨hnone, -⟩ |
              ⟨copy, discoveryId, hcopy, hid, -, hwrites⟩
            · cases hnone
            · obtain ⟨stored, -, rfl⟩ := Option.map_eq_some_iff.mp hcopy
              dsimp only [stageDecided]
              rw [hid]
              exact hwrites
    | idle | fetching | decided => exact hkept _ _ rfl
  | publish =>
    cases stage with
    | decided attempt derived scholarshipId =>
      rw [attemptEffect, attemptStep]
      cases hpublished : publishApproved py answers attempt derived scholarshipId store with
      | error e => exact .refl store
      | ok published => exact publishApproved_writes hpublished
    | idle | fetching | verified => exact hkept _ _ rfl
  | abandon => exact .refl store

end

/-! ## The cycles -/

section

variable {py : Py} {settings : Settings} {R : Db → Db → Prop} {db base db' : Db} {now : Instant}
  {c : CycleId} {cycle : ScholarshipCycle} {session : Session}

/-- A relation that every write of a verdict stands in. -/
structure VerdictClosed (R : Db → Db → Prop) : Prop where
  refl : ∀ db, R db db
  trans : ∀ {db middle db'}, R db middle → R middle db' → R db db'
  tasks : ∀ db tasks, R db { db with tasks := tasks }
  renewed : ∀ c now cycle db, R db { db with cycles := db.cycles.modify c (renewRow now cycle) }

/-- A relation that every write of a turn stands in. -/
structure TurnClosed (py : Py) (R : Db → Db → Prop) : Prop extends VerdictClosed R where
  link : ∀ {sourceId c cycle db p page linked},
    getOrCreateSourcePage py sourceId c cycle db = .ok (p, page, linked) → R db linked
  usage : ∀ db usage, R db { db with usage := usage }
  stored : ∀ p fetch fetched extractorVersion db,
    R db (storeFetched py p fetch fetched extractorVersion db)

namespace VerdictClosed

lemma settle (hbase : R db base) {result : Except PyErr (Outcome × Db)}
    (hresult : ∀ outcome db', result = .ok (outcome, db') → R db db') :
    R db (session.settle now c cycle result base).2 := by
  rcases result with e | ⟨_ | _ | _, db'⟩
  · exact hbase
  · exact hresult _ db' rfl
  · exact hresult _ db' rfl
  · exact hresult _ db' rfl

lemma deferOrFlag (h : VerdictClosed R) {cfg : FreshnessConfig} {reason : String}
    {outcome : Outcome} (hdefer : deferOrFlag py cfg now c cycle reason db = .ok (outcome, db')) :
    R db db' := by
  rcases deferOrFlag_spec hdefer with ⟨-, rfl⟩ | ⟨-, draft, rfl⟩
  · exact h.refl _
  · obtain ⟨tasks, heq⟩ := openCycleReviewTask_eq c reason draft db
    rw [heq]
    exact h.tasks db tasks

lemma compareHashes (h : VerdictClosed R) {cfg : FreshnessConfig} {previous : Option String}
    {page : SourcePage} {outcome : Outcome}
    (hcompare : compareHashes py cfg now c cycle previous page db = .ok (outcome, db')) :
    R db db' := by
  unfold ScholarshipFinder.compareHashes at hcompare
  dsimp only at hcompare
  split at hcompare
  · obtain ⟨derived, -, hcompare⟩ := exceptBind_ok hcompare
    obtain ⟨cutoff, -, hcompare⟩ := exceptBind_ok hcompare
    split at hcompare
    · cases hcompare
      exact h.renewed c now cycle db
    · split at hcompare
      · cases hcompare
        obtain ⟨tasks, heq⟩ := openCycleReviewTask_eq c _ _ db
        rw [heq]
        exact h.tasks db tasks
      · cases hcompare
        exact h.refl db
  · exact h.deferOrFlag hcompare

lemma giveUp (h : VerdictClosed R) (hbase : R db base) (hdb : R db db') :
    R db (session.giveUp py settings now c cycle base db').2 :=
  settle hbase fun _ _ hdefer => h.trans hdb (h.deferOrFlag hdefer)

end VerdictClosed

namespace TurnClosed

lemma persist (h : TurnClosed py R) {turn : Pending} (hbase : R db base) (hdb : R db db')
    (result : Except PyErr (FetchedSource × String)) :
    R db (session.persist py settings turn result base db').2 := by
  rcases result with e | ⟨fetched, extractorVersion⟩
  · exact h.giveUp hbase hdb
  · exact h.trans hdb (h.stored _ _ _ _ _)

theorem startTurn (h : TurnClosed py R) (session : Session) (sourceId : SourceId) (now : Instant)
    (c : CycleId) (fetch : Fetch) (db : Db) :
    R db (session.startTurn py settings sourceId now c fetch db).2 := by
  rw [Session.startTurn]
  split
  · exact h.refl db
  · split
    · dsimp only
      split
      · exact h.giveUp (h.refl db) (h.refl db)
      · next p page linked hget =>
        have hlink := h.link hget
        split
        · exact h.giveUp (h.refl db) hlink
        · split
          · split
            · obtain ⟨allowed, usage, hreserve⟩ := reserveCall_spec "jina"
                settings.jinaMonthlyCallLimit fetch.reservedAt (Tx.start linked)
              rw [hreserve]
              exact h.trans hlink (h.usage linked usage)
            · exact h.persist (h.refl db) hlink _
          · exact h.giveUp (h.refl db) hlink
    · exact h.refl db

theorem resumeTurn (h : TurnClosed py R) (session : Session) (db : Db) :
    R db (session.resumeTurn py settings db).2 := by
  rw [Session.resumeTurn]
  split
  · exact h.refl db
  · exact h.persist (h.refl db) (h.refl db) _
  · split
    · exact h.refl db
    · exact VerdictClosed.settle (h.refl db) fun _ _ hcompare => h.compareHashes hcompare

end TurnClosed

/-- A row whose key columns are kept. -/
lemma sameCatalogue_modify {f : ScholarshipCycle → ScholarshipCycle}
    (hf : ∀ row, (f row).identity = row.identity) (db : Db) (c : CycleId) :
    SameCatalogue db { db with cycles := db.cycles.modify c f } := by
  refine ⟨rfl, Table.keys_modify _ _ _, fun other => ?_⟩
  rw [Db.identityOf, Db.identityOf, Table.row_modify]
  split
  · rw [Option.map_map]
    exact congrArg (Option.map · _) (funext hf)
  · rfl

theorem turnClosed_sameCatalogue (py : Py) : TurnClosed py SameCatalogue where
  refl := .refl
  trans := SameCatalogue.trans
  link := by
    intro sourceId c cycle db p page linked hget
    have htouch := (getOrCreateSourcePage_ok hget).touch
    refine ⟨htouch.scholarships, htouch.keys, fun other => ?_⟩
    rw [Db.identityOf, Db.identityOf]
    by_cases hc : other = c
    · subst hc
      cases hrow : db.cycles.row other with
      | none => rw [htouch.missing hrow]
      | some row =>
        obtain ⟨p, hp, -⟩ := htouch.row row hrow
        rw [hp]
        rfl
    · rw [htouch.other other hc]
  usage := fun _ _ => ⟨rfl, rfl, fun _ => rfl⟩
  stored := fun _ _ _ _ _ => ⟨rfl, rfl, fun _ => rfl⟩
  tasks := fun _ _ => ⟨rfl, rfl, fun _ => rfl⟩
  renewed := by
    intro c now cycle db
    refine sameCatalogue_modify (fun row => ?_) db c
    rw [renewRow]
    split <;> rfl

lemma sameCatalogue_refresh (py : Py) (settings : Settings) (limit : Option ℕ) (now : Instant)
    (db : Db) : SameCatalogue db (refreshDueStatuses py settings limit now db).2 where
  scholarships := rfl
  keys := (refreshDueStatuses_listing py settings limit now db).keys
  identities := by
    intro c
    rw [Db.identityOf, Db.identityOf, refreshDueStatuses_row]
    split
    · rw [Option.map_map]
      refine congrArg (Option.map · _) (funext fun row => ?_)
      obtain ⟨validUntil, status, flag, heq⟩ := refreshRow_eq py (freshnessConfig settings) now row
      rw [Function.comp_apply, heq]
      rfl
    · rfl

/-- The identity that a correction gives to its cycle is its own. -/
lemma updateCycleRoute_identity {countries : CountryVocabulary} {scholarshipId : ScholarshipId}
    {changes : UpdateCycleRequest}
    (h : updateCycleRoute py countries scholarshipId c changes db = .ok db') :
    ∃ (row : ScholarshipCycle) (columns : CycleColumns), db.cycles.row c = some row ∧
      db' = { db with cycles := db.cycles.modify c columns.assign } ∧
      ((columns.assign row).identity = row.identity ∨ ∀ other, other ≠ c →
        db.identityOf other ≠ some (columns.assign row).identity) := by
  rw [updateCycleRoute] at h
  split at h
  · cases h
  obtain ⟨row, hload, h⟩ := exceptBind_ok h
  obtain ⟨facts, -, h⟩ := exceptBind_ok h
  obtain ⟨key, -, h⟩ := exceptBind_ok h
  obtain ⟨segment, -, h⟩ := exceptBind_ok h
  have hrow := (loadCycleForUpdate_ok (mapErr_ok hload)).1
  have hupdate := mapErr_ok h
  refine ⟨row, _, hrow, updateCycle_ok hupdate, ?_⟩
  unfold updateCycle at hupdate
  dsimp only at hupdate
  split at hupdate
  · cases hupdate
  next hadmits =>
  rw [not_and_or] at hadmits
  rcases hadmits with hsame | hfree
  · rw [not_or, not_not, not_not] at hsame
    refine .inl ?_
    show (row.scholarshipId, key, segment) = (row.scholarshipId, _, _)
    rw [hsame.1, hsame.2]
  · refine .inr fun other hother => ?_
    rw [Bool.not_eq_true] at hfree
    exact identityTaken_eq_false.mp hfree other (by simpa using hother)

end

/-! ## What a turn collects -/

/-- The page whose fetch has been let in. -/
def Stage.held : Stage → Option PageId
  | .reserved turn _ => some turn.pageId
  | _ => none

section

variable {py : Py} {settings : Settings} {db db' : Db} {c : CycleId} {cycle : ScholarshipCycle}
  {resumed : Option PageId}

lemma verdictClosed_pagesOn : VerdictClosed PagesOn where
  refl := .refl
  trans := PagesOn.trans
  tasks := fun _ _ => .of_eq rfl rfl rfl
  renewed := fun _ _ _ _ => .of_eq rfl rfl rfl

/-- The link of a cycle may insert its page. -/
lemma getOrCreateSourcePage_pagesOn {sourceId : SourceId} {p : PageId} {page : SourcePage}
    (h : getOrCreateSourcePage py sourceId c cycle db = .ok (p, page, db')) : PagesOn db db' := by
  have hfound := getOrCreateSourcePage_ok h
  refine ⟨fun q id hq => ?_, hfound.touch.sources, ?_⟩
  · by_cases hqp : q = p
    · subst hqp
      rcases hfound.before with hsame | ⟨hnone, -⟩
      · rwa [Db.sourceOf, hfound.stored, ← hsame]
      · rw [Db.sourceOf, hnone] at hq
        cases hq
    · rwa [Db.sourceOf, hfound.others q hqp]
  · unfold getOrCreateSourcePage at h
    split at h
    · cases h
      rfl
    · obtain ⟨url, -, h⟩ := exceptBind_ok h
      dsimp only at h
      split at h
      · cases h
        rfl
      · cases h
        rfl

lemma storeFetched_collects {p : PageId} {fetch : Fetch} {fetched : FetchedSource}
    {extractorVersion : String} (h : resumed = some p ∨
      ∃ id, db.sourceOf p = some id ∧ db.isActive id = true) :
    CollectsOn db (storeFetched py p fetch fetched extractorVersion db) resumed := by
  have hpages : ∀ q id, db.sourceOf q = some id →
      (storeFetched py p fetch fetched extractorVersion db).sourceOf q = some id := by
    intro q id hq
    rw [Db.sourceOf, storeFetched, Table.row_modify]
    split
    · rw [Option.map_map]
      exact hq
    · exact hq
  refine ⟨hpages, fun id hid => ⟨hid, fun hon => hon⟩, some _, rfl, fun snapshot hmem => ?_⟩
  obtain rfl := Option.some.inj hmem
  rcases h with hheld | ⟨id, hid, hon⟩
  · exact .inl hheld
  · exact .inr ⟨id, hpages p id hid, hon⟩

/-- A page is fetched where its source is active; otherwise the turn does not go on. -/
theorem startTurn_collects (session : Session) (sourceId : SourceId) (now : Instant) (c : CycleId)
    (fetch : Fetch) (db : Db) :
    CollectsOn db (session.startTurn py settings sourceId now c fetch db).2 none ∧
      ((session.startTurn py settings sourceId now c fetch db).1.stage = session.stage ∨
        ∀ p, (session.startTurn py settings sourceId now c fetch db).1.stage.held = some p →
          ∃ id, (session.startTurn py settings sourceId now c fetch db).2.sourceOf p = some id ∧
            db.isActive id = true) := by
  have hidle : ∀ cycle base db' p, (session.giveUp py settings now c cycle base db').1.stage.held ≠
      some p := by
    intro cycle base db' p hheld
    have hended : Ended (session.giveUp py settings now c cycle base db') _ := ended_settle _ base
    rw [hended.1] at hheld
    cases hheld
  rw [Session.startTurn]
  split
  · exact ⟨.refl db, .inl rfl⟩
  · split
    · dsimp only
      split
      · exact ⟨(verdictClosed_pagesOn.giveUp (.refl db) (.refl db)).collects,
          .inr fun p hp => absurd hp (hidle _ _ _ p)⟩
      · next p page linked hget =>
        have hlinked := getOrCreateSourcePage_pagesOn hget
        -- a turn that is given up leaves the link, or nothing
        have hgiveUp : ∀ cycle, CollectsOn db
            (session.giveUp py settings now c cycle db linked).2 none :=
          fun cycle => (verdictClosed_pagesOn.giveUp (.refl db) hlinked).collects
        split
        · exact ⟨hgiveUp _, .inr fun p hp => absurd hp (hidle _ _ _ p)⟩
        · split
          · next hactive =>
            have hof : linked.sourceOf p = some page.sourceId := by
              rw [Db.sourceOf, (getOrCreateSourcePage_ok hget).stored, Option.map_some]
            have hon : db.isActive page.sourceId = true := by
              rw [← hlinked.isActive]
              exact hactive
            split
            · obtain ⟨allowed, usage, hreserve⟩ := reserveCall_spec "jina"
                settings.jinaMonthlyCallLimit fetch.reservedAt (Tx.start linked)
              rw [hreserve]
              have hreserved : PagesOn linked { linked with usage := usage } := .of_eq rfl rfl rfl
              refine ⟨(hlinked.trans hreserved).collects, .inr fun q hq => ?_⟩
              obtain rfl := Option.some.inj hq
              exact ⟨page.sourceId, hof, hon⟩
            · rcases rawResult fetch with e | ⟨fetched, extractorVersion⟩
              · exact ⟨hgiveUp _, .inr fun p hp => absurd hp (hidle _ _ _ p)⟩
              · exact ⟨.after_pages hlinked
                  (storeFetched_collects (.inr ⟨page.sourceId, hof, hactive⟩)),
                  .inr fun p hp => by cases hp⟩
          · exact ⟨hgiveUp _, .inr fun p hp => absurd hp (hidle _ _ _ p)⟩
    · exact ⟨.refl db, .inl rfl⟩

/-- The fetch that was let in is persisted whatever became of its source. -/
theorem resumeTurn_collects (session : Session) (db : Db) :
    CollectsOn db (session.resumeTurn py settings db).2 session.stage.held ∧
      (session.resumeTurn py settings db).1.stage.held = none := by
  rw [Session.resumeTurn]
  split
  · next hidle => exact ⟨.refl db, by rw [hidle]; rfl⟩
  · next turn allowed hreserved =>
    rcases readerResult turn.normalizedUrl turn.fetch allowed with e | ⟨fetched, extractorVersion⟩
    · have hended : Ended (session.giveUp py settings turn.now turn.cycleId turn.cycle db db) _ :=
        ended_settle _ db
      exact ⟨(verdictClosed_pagesOn.giveUp (.refl db) (.refl db)).collects,
        congrArg Stage.held hended.1⟩
    · exact ⟨storeFetched_collects (.inl (by rw [hreserved]; rfl)), rfl⟩
  · next turn hpersisted =>
    split
    · exact ⟨.refl db, rfl⟩
    · refine ⟨(VerdictClosed.settle (.refl db) fun outcome db' hcompare =>
        verdictClosed_pagesOn.compareHashes hcompare).collects, ?_⟩
      exact congrArg Stage.held (ended_settle _ db).1

end

/-! ## A database that is committed -/

section

variable {store : PlatformStore} {db : Db}

/-- Where the pages and the sources are the same, no foreign key is broken. -/
lemma admits_of_pages (hpages : db.pages = store.discovered.db.pages)
    (hsources : db.sources = store.discovered.db.sources) : store.discovered.Admits db := by
  refine ⟨fun id _ page hpage => ?_, fun id _ d hd => ?_⟩
  · rw [hsources]
    exact store.discovered.page_source id page (by rw [← hpages]; exact hpage)
  · rw [hpages]
    exact store.discovered.discovery_page id d hd

lemma commitDb_of_pages (hpages : db.pages = store.discovered.db.pages)
    (hsources : db.sources = store.discovered.db.sources) :
    store.commitDb db = store.withDiscovered
      (store.discovered.commit db (admits_of_pages hpages hsources)) :=
  dif_pos _

/-- A database with the same catalogue may be committed or refused. -/
lemma commitDb_writes (h : SameCatalogue store.discovered.db db)
    (hcollects : CollectsOn store.discovered.db db none) :
    Writes store.toReviewStore (store.commitDb db).toReviewStore {} := by
  unfold PlatformStore.commitDb
  split
  · exact .of_eq rfl h rfl rfl (fun _ h => h) rfl hcollects
  · exact .refl _

lemma commitTurn_writes {turn : Session × Db} {resumed : Option PageId}
    (h : SameCatalogue store.discovered.db turn.2)
    (hcollects : CollectsOn store.discovered.db turn.2 resumed) :
    Writes store.toReviewStore (store.commitTurn turn).2.toReviewStore { resumed := resumed } := by
  unfold PlatformStore.commitTurn
  split
  · exact .of_eq rfl h rfl rfl (fun _ h => h) rfl hcollects
  · exact .refl _

end

/-! ## Every step -/

section

variable (cfg : PlatformConfig)

/-- The effect of a step. -/
def effectOf (p : Platform) : PlatformStep → Effect
  | .prepare taskId =>
    match p.shared.toIntakeStore.prepareReview cfg.py p.shared.vocabulary.names taskId with
    | .ok _ => { prepared := some taskId }
    | .error _ => {}
  | .decide scholarshipId taskId request =>
    let created := do
      let decided ← (decideRequest cfg.py.toApprovalPy scholarshipId taskId request
        p.shared.toReviewStore).toOption
      let created ← decided.1
      let task ← p.shared.tasks.row taskId
      let discoveryId ← task.discoveryId
      return ⟨created, discoveryId, taskId, false⟩
    { creation := created }
  | .publish args now =>
    match publishCycle args now p.shared.discovered.db with
    | .ok _ => { publication := some ⟨args.cycleId, args.scholarshipId, false⟩ }
    | .error _ => {}
  | .attempt worker step answers =>
    attemptEffect cfg.py.toApprovalPy cfg.approval
      { answers with countries := p.shared.vocabulary } step (p.proc worker).attempt
      p.shared.toReviewStore
  | .resumeTurn worker => { resumed := (p.proc worker).sweep.stage.held }
  | _ => {}

variable {cfg} {store : PlatformStore} {p : Platform}

lemma withIntake_writes {result : Except PyErr IntakeStore}
    (h : ∀ after, result = .ok after → Writes store.toReviewStore after.toReviewStore {}) :
    Writes store.toReviewStore
      (store.withIntake (orKept result store.toIntakeStore)).toReviewStore {} := by
  cases result with
  | error e => exact .refl _
  | ok after => exact h after rfl

lemma withReview_writes {result : Except PyErr ReviewStore}
    (h : ∀ after, result = .ok after → Writes store.toReviewStore after {}) :
    Writes store.toReviewStore
      (store.withReview (orKept result store.toReviewStore)).toReviewStore {} := by
  cases result with
  | error e => exact .refl _
  | ok after => exact h after rfl

/-- Sources of which none that is known becomes active. -/
lemma collectsOn_sources {db : Db} {sources : Table SourceId Source}
    (h : ∀ id source, db.sources.row id = some source →
      ∃ source', sources.row id = some source' ∧ (source'.active = true → source.active = true)) :
    CollectsOn db { db with sources := sources } none := by
  refine ⟨fun _ _ hp => hp, fun id hid => ?_, none, (List.append_nil _).symm, fun _ h => by cases h⟩
  obtain ⟨source, hsource⟩ := Option.isSome_iff_exists.mp hid
  obtain ⟨source', hsource', hactive⟩ := h id source hsource
  rw [Db.isActive, Db.isActive, hsource']
  exact ⟨rfl, by rw [hsource]; exact hactive⟩

lemma createSource_writes {py : Py} {review after : ReviewStore} {sourceId : SourceId}
    {request : SourceCreateRequest} (h : review.createSource py sourceId request = .ok after) :
    Writes review after {} := by
  obtain ⟨hfree, source, grade, hsources, rfl⟩ := createSource_ok h
  exact .of_eq rfl ⟨rfl, rfl, fun _ => rfl⟩ rfl rfl (fun _ h => h) rfl
    (collectsOn_sources fun id old hold => ⟨old, Table.row_insert_of_some hfree hold _, fun h => h⟩)

lemma modifySource_writes {review after : ReviewStore} {sourceId : SourceId} {f : Source → Source}
    (hf : ∀ source, (f source).active = true → source.active = true)
    (h : review.modifySource sourceId f = .ok after) : Writes review after {} := by
  obtain ⟨hsources, rfl⟩ := modifySource_ok h
  refine .of_eq rfl ⟨rfl, rfl, fun _ => rfl⟩ rfl rfl (fun _ h => h) rfl
    (collectsOn_sources fun id source hsource => ?_)
  rw [Table.row_modify, hsource]
  split
  · exact ⟨f source, rfl, hf source⟩
  · exact ⟨source, rfl, fun h => h⟩

lemma exceptMap_ok {ε α β : Type} {f : α → β} {x : Except ε α} {b : β} (h : x.map f = .ok b) :
    ∃ a, x = .ok a ∧ f a = b := by
  cases x with
  | error e => cases h
  | ok a => exact ⟨a, rfl, Except.ok.inj h⟩

lemma recordRun_reviews {agents after : AgentStore} {payload : AgentRunRequest} {runId : RunId}
    {now : Instant} (h : agents.recordRun payload runId now = .ok after) :
    after.toReviewStore = agents.toReviewStore := by
  unfold AgentStore.recordRun at h
  split at h
  · cases h
    rfl
  · split at h
    · cases h
    · cases h
      rfl

lemma withdrawScholarship_sources {scholarshipId : ScholarshipId} {db db' : Db}
    (h : withdrawScholarship scholarshipId db = .ok db') :
    db'.sources = db.sources ∧ db'.snapshots = db.snapshots := by
  unfold withdrawScholarship at h
  split at h
  · cases h
  · split at h
    · cases h
    · cases h
      exact ⟨rfl, rfl⟩

variable (cfg) in
lemma publish_writes (args : PublishArgs) (now : Instant) :
    Writes p.shared.toReviewStore (operate cfg p.shared (.publish args now)).toReviewStore
      (effectOf cfg p (.publish args now)) := by
  have heq : operate cfg p.shared (.publish args now) = p.shared.commitDb
      (orKept (publishCycle args now p.shared.discovered.db) p.shared.discovered.db) := rfl
  rw [heq, effectOf]
  cases h : publishCycle args now p.shared.discovered.db with
  | error e => exact commitDb_writes (.refl _) (.refl _)
  | ok db =>
    obtain ⟨hpages, hsources⟩ := publishCycle_pages h
    show Writes _ (p.shared.commitDb db).toReviewStore _
    rw [commitDb_of_pages hpages hsources]
    exact published_writes false h rfl rfl rfl rfl rfl (List.append_nil _).symm

variable (cfg) in
lemma correct_writes (scholarshipId : ScholarshipId) (c : CycleId) (changes : UpdateCycleRequest) :
    Writes store.toReviewStore
      (operate cfg store (.correct scholarshipId c changes)).toReviewStore {} := by
  have heq : operate cfg store (.correct scholarshipId c changes) =
      store.commitDb (orKept (updateCycleRoute cfg.py.toPy store.vocabulary scholarshipId c changes
        store.discovered.db) store.discovered.db) := rfl
  rw [heq]
  cases h : updateCycleRoute cfg.py.toPy store.vocabulary scholarshipId c changes
      store.discovered.db with
  | error e => exact commitDb_writes (.refl _) (.refl _)
  | ok db =>
    obtain ⟨row, columns, hrow, hdb, hidentity⟩ := updateCycleRoute_identity h
    have hpages : PagesOn store.discovered.db db := by
      rw [hdb]
      exact .of_eq rfl rfl rfl
    rw [orKept, commitDb_of_pages (by rw [hdb]) (by rw [hdb])]
    refine ⟨.corrected c row (columns.assign row) hrow rfl hidentity rfl ?_ ?_ (fun other => ?_) rfl
      rfl, .of_eq rfl rfl rfl, .of_eq rfl, hpages.collects⟩
    · show db.scholarships = _
      rw [hdb]
    · show db.cycles.keys = _
      rw [hdb, Table.keys_modify]
    show db.cycles.row other = _
    rw [hdb, Table.row_modify]
    split
    · next hother => rw [hother, hrow, Option.map_some]
    · rfl

variable (cfg) in
lemma withdraw_writes (scholarshipId : ScholarshipId) :
    Writes store.toReviewStore (operate cfg store (.withdraw scholarshipId)).toReviewStore {} := by
  have heq : operate cfg store (.withdraw scholarshipId) =
      store.commitDb (orKept (withdrawScholarship scholarshipId store.discovered.db)
        store.discovered.db) := rfl
  rw [heq]
  cases h : withdrawScholarship scholarshipId store.discovered.db with
  | error e => exact commitDb_writes (.refl _) (.refl _)
  | ok db =>
    obtain ⟨hsources, hsnapshots⟩ := withdrawScholarship_sources h
    obtain ⟨hscholarships, hpages, -, hkeys, hrows⟩ := withdrawScholarship_ok h
    show Writes _ (store.commitDb db).toReviewStore {}
    rw [commitDb_of_pages hpages hsources]
    refine ⟨.withdrawn scholarshipId rfl hscholarships hkeys (fun c => ?_) rfl rfl,
      .of_eq rfl rfl rfl, .of_eq rfl, (PagesOn.of_eq hpages hsources hsnapshots).collects⟩
    show (db.cycles.row c).map _ = _
    rw [hrows, Option.map_map]
    refine congrArg (Option.map · _) (funext fun row => ?_)
    rw [Function.comp_apply]
    split <;> rfl

/-- One step of the platform. -/
theorem platformStep_writes (p : Platform) (step : PlatformStep) :
    Writes p.shared.toReviewStore (platformStep cfg p step).shared.toReviewStore
      (effectOf cfg p step) := by
  cases step with
  -- imports, submissions and tasks
  | importFeed runId startedAt finishedAt batch =>
    exact (importFeedRecords_intaken runId startedAt finishedAt batch _).writes
      (importFeedRecords_appended runId startedAt finishedAt batch _) fun id h => by cases h
  | submit startedAt parentId batch =>
    refine withIntake_writes fun after h => ?_
    obtain ⟨⟨response, submitted⟩, hsubmit, rfl⟩ := exceptMap_ok h
    rcases submitCandidates_intaken hsubmit with heq | ⟨hparent, hintaken⟩
    · show Writes _ submitted.toReviewStore {}
      rw [heq]
      exact .refl _
    · refine hintaken.writes (submitCandidates_appended hsubmit) fun id hid => ?_
      obtain rfl := Option.some.inj hid
      exact hparent
  | request discoveryId reason priority answers =>
    refine withIntake_writes fun after h => ?_
    obtain ⟨⟨result, requested⟩, hrequest, rfl⟩ := exceptMap_ok h
    exact requestReview_writes hrequest
  | normalize discoveryId =>
    refine withIntake_writes fun after h => ?_
    obtain ⟨key, rfl⟩ := normalizeJob_ok h
    exact Writes.amend_kept (f := fun d =>
      { d with normalizedIdentityKey := some key, processingState := .normalized })
      (fun _ => rfl) (fun _ => ⟨rfl, rfl⟩) fun _ => ⟨rfl, rfl⟩
  | link discoveryId answers =>
    exact (IntakeStore.linkDiscovery_linked cfg.py discoveryId answers _).writes
      (linkDiscovery_unlinked answers _)
  | prepare taskId =>
    show Writes _ (p.shared.withIntake (orKept _ p.shared.toIntakeStore)).toReviewStore
      (effectOf cfg p (.prepare taskId))
    rw [effectOf]
    cases h : p.shared.toIntakeStore.prepareReview cfg.py p.shared.vocabulary.names taskId with
    | error e => exact .refl _
    | ok after => exact prepareReview_writes h
  | decide scholarshipId taskId request =>
    show Writes _ (p.shared.withReview (orKept _ p.shared.toReviewStore)).toReviewStore
      (effectOf cfg p (.decide scholarshipId taskId request))
    rw [effectOf]
    cases h : decideRequest cfg.py.toApprovalPy scholarshipId taskId request
        p.shared.toReviewStore with
    | error e => exact .refl _
    | ok result =>
      obtain ⟨created, decided⟩ := result
      rcases decideReview_writes false h with ⟨rfl, hwrites⟩ |
        ⟨task, discoveryId, htask, hid, rfl, hwrites⟩
      · exact hwrites
      · have hcreated : (do
            let task ← p.shared.tasks.row taskId
            let discoveryId ← task.discoveryId
            return (⟨scholarshipId, discoveryId, taskId, false⟩ : Creation)) =
            some ⟨scholarshipId, discoveryId, taskId, false⟩ := by
          rw [htask, Option.bind_eq_bind, Option.bind_some, hid]
          rfl
        show Writes _ decided { creation := _ }
        rw [← hcreated] at hwrites
        exact hwrites
  | publish args now => exact publish_writes cfg args now
  | correct scholarshipId c changes => exact correct_writes cfg scholarshipId c changes
  | withdraw scholarshipId => exact withdraw_writes cfg scholarshipId
  | refresh limit now =>
    have hpages : PagesOn p.shared.discovered.db
        (refreshDueStatuses cfg.py.toPy cfg.settings limit now p.shared.discovered.db).2 :=
      .of_eq rfl rfl rfl
    exact commitDb_writes (sameCatalogue_refresh cfg.py.toPy cfg.settings limit now _)
      hpages.collects
  | createSource sourceId request =>
    exact withReview_writes fun after h => createSource_writes h
  | updateDomains sourceId approvedDomains =>
    refine withReview_writes fun after h => ?_
    obtain ⟨domains, -, h⟩ := exceptBind_ok h
    refine modifySource_writes ?_ h
    exact fun _ h => h
  | deactivate sourceId =>
    exact withReview_writes fun after h => modifySource_writes (fun _ h => by cases h) h
  | createProvider providerId request =>
    refine withReview_writes fun after h => ?_
    obtain ⟨hfree, provider, rfl⟩ := createProvider_ok h
    refine .of_eq rfl (.refl _) rfl rfl (fun id hid => ?_) rfl (.refl _)
    obtain ⟨row, hrow⟩ := Option.isSome_iff_exists.mp hid
    show ((p.shared.providers.insert providerId provider).row id).isSome
    rw [Table.row_insert_of_some hfree hrow]
    rfl
  -- tables of their own
  | attach | sync => exact .refl _
  | recordRun payload runId now =>
    have heq : (orKept (p.shared.toAgentStore.recordRun payload runId now)
        p.shared.toAgentStore).toReviewStore = p.shared.toReviewStore := by
      cases h : p.shared.toAgentStore.recordRun payload runId now with
      | error e => rfl
      | ok after => exact recordRun_reviews h
    show Writes p.shared.toReviewStore (orKept (p.shared.toAgentStore.recordRun payload runId now)
      p.shared.toAgentStore).toReviewStore {}
    rw [heq]
    exact .refl _
  -- workers
  | attempt worker step answers => exact attemptStep_writes step _ _
  | scan worker => exact commitTurn_writes (.refl _) (.refl _)
  | startTurn worker sourceId now cycleId fetch =>
    refine commitTurn_writes ?_ ?_
    · show SameCatalogue _ (beginTurn cfg sourceId now cycleId fetch _ _).2
      unfold beginTurn
      split
      · exact (turnClosed_sameCatalogue cfg.py.toPy).startTurn _ sourceId now cycleId fetch _
      · exact .refl _
    · show CollectsOn _ (beginTurn cfg sourceId now cycleId fetch _ _).2 none
      unfold beginTurn
      split
      · exact (startTurn_collects _ sourceId now cycleId fetch _).1
      · exact .refl _
  | resumeTurn worker =>
    exact commitTurn_writes ((turnClosed_sameCatalogue cfg.py.toPy).resumeTurn _ _)
      (resumeTurn_collects _ _).1
  | stop => exact .refl _

end

/-! ## The tables of the agent -/

section

variable {cfg : PlatformConfig} {store : PlatformStore} {p : Platform}

lemma commitDb_agent (db : Db) :
    (store.commitDb db).evidence = store.evidence ∧ (store.commitDb db).runs = store.runs := by
  unfold PlatformStore.commitDb
  split
  · exact ⟨rfl, rfl⟩
  · exact ⟨rfl, rfl⟩

lemma commitTurn_agent (turn : Session × Db) :
    (store.commitTurn turn).2.evidence = store.evidence ∧
      (store.commitTurn turn).2.runs = store.runs := by
  unfold PlatformStore.commitTurn
  split
  · exact ⟨rfl, rfl⟩
  · exact ⟨rfl, rfl⟩

/-- Evidence is written where it is attached. -/
theorem platformStep_evidence (p : Platform) (step : PlatformStep) :
    (platformStep cfg p step).shared.evidence = p.shared.evidence ∨
      ∃ discoveryId payload counts, step = .attach discoveryId payload ∧
        attachEvidence cfg.evidenceColumns p.shared.toIntakeStore discoveryId payload
          p.shared.evidence = .ok (counts, (platformStep cfg p step).shared.evidence) := by
  cases step with
  | attach discoveryId payload =>
    cases h : attachEvidence cfg.evidenceColumns p.shared.toIntakeStore discoveryId payload
        p.shared.evidence with
    | error e =>
      refine .inl ?_
      show (orKept ((attachEvidence _ _ _ _ _).map Prod.snd) p.shared.evidence) = _
      rw [h]
      rfl
    | ok attached =>
      obtain ⟨counts, evidence⟩ := attached
      refine .inr ⟨discoveryId, payload, counts, rfl, ?_⟩
      show _ = Except.ok (counts,
        orKept ((attachEvidence _ _ _ _ _).map Prod.snd) p.shared.evidence)
      rw [h]
      rfl
  | publish | correct | withdraw | refresh => exact .inl (commitDb_agent _).1
  | scan | startTurn | resumeTurn => exact .inl (commitTurn_agent _).1
  | _ => exact .inl rfl

/-- The report that a step accepts. -/
def acceptedReport (p : Platform) : PlatformStep → Option AgentRunRequest
  | .recordRun payload runId now =>
    match p.shared.toAgentStore.recordRun payload runId now with
    | .ok _ => some payload
    | .error _ => none
  | _ => none

/-- Runs are written where they are recorded. -/
theorem platformStep_runs (p : Platform) (step : PlatformStep) :
    acceptedReport p step = none ∧ (platformStep cfg p step).shared.runs = p.shared.runs ∨
      ∃ payload runId now after, step = .recordRun payload runId now ∧
        p.shared.toAgentStore.recordRun payload runId now = .ok after ∧
        (platformStep cfg p step).shared.runs = after.runs := by
  cases step with
  | recordRun payload runId now =>
    cases h : p.shared.toAgentStore.recordRun payload runId now with
    | error e =>
      refine .inl ⟨by rw [acceptedReport, h], ?_⟩
      show (orKept (p.shared.toAgentStore.recordRun payload runId now)
        p.shared.toAgentStore).runs = _
      rw [h]
      rfl
    | ok after =>
      refine .inr ⟨payload, runId, now, after, rfl, h, ?_⟩
      show (orKept (p.shared.toAgentStore.recordRun payload runId now)
        p.shared.toAgentStore).runs = _
      rw [h]
      rfl
  | publish | correct | withdraw | refresh => exact .inl ⟨rfl, (commitDb_agent _).2⟩
  | scan | startTurn | resumeTurn => exact .inl ⟨rfl, (commitTurn_agent _).2⟩
  | _ => exact .inl ⟨rfl, rfl⟩

end

end ScholarshipFinder
