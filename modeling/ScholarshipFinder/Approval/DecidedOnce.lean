import ScholarshipFinder.Infra.ReviewSessions
import ScholarshipFinder.Sample.Approvals

/-!
# One decision for each task

A task is to be resolved once, with at most one scholarship and one published cycle.  An attempt
decides by the state that it loaded before the fetch.  `decidedOnce_iff` shows that a run keeps the
law exactly if the task of every attempt that comes to its approval is still open then.
-/

namespace ScholarshipFinder

open Lib

variable {ι : Type}

/-- No task occurs twice. -/
structure DecisionHistory.AtMostOnce (h : DecisionHistory) : Prop where
  resolved : h.resolved.Nodup
  created : h.created.Nodup
  autoPublished : h.autoPublished.Nodup

/-- The attempt whose task is not decided yet. -/
def AttemptStage.undecided : AttemptStage → Option Attempt
  | .fetching attempt => some attempt
  | .verified attempt _ => some attempt
  | _ => none

section

variable [DecidableEq ι] (py : ApprovalPy) (settings : ApprovalSettings)

/-- When an attempt has passed its gates, and the database takes its scholarship, the task is still
open. -/
def DecidesOpen (p : Reviewing ι) (s : ReviewStep ι) : Prop :=
  ∀ worker answers attempt page admission store,
    s = .attempt worker .decide answers → p.proc worker = .verified attempt page →
    closingGates py settings answers attempt page p.shared = .ok (.passed admission) →
    approveTask py.toPy answers.scholarshipId admission.request attempt.task
      (attempt.view p.shared) p.shared = .ok store →
    ∃ row, p.shared.tasks.row attempt.taskId = some row ∧ row.state = .opened

/-- The step decides, creates from and publishes for tasks for which this was not done before. -/
structure FirstTime (q : Reviewing ι × DecisionHistory) (s : ReviewStep ι) : Prop where
  resolved : ∀ d, decisionAt py settings q.1 s = some d → d.1 ∉ q.2.resolved
  created : ∀ d, decisionAt py settings q.1 s = some d → d.2.isSome → d.1 ∉ q.2.created
  autoPublished : ∀ t, publicationAt py q.1 s = some t → t ∉ q.2.autoPublished

/-- The system with the history of its tasks. -/
def recordedStep (q : Reviewing ι × DecisionHistory) (s : ReviewStep ι) :
    Reviewing ι × DecisionHistory :=
  withHistory (reviewStep py settings) (DecisionHistory.record py settings) q s

end

/-! ## The law, step by step -/

variable [DecidableEq ι] {py : ApprovalPy} {settings : ApprovalSettings}
  {q : Reviewing ι × DecisionHistory} {s : ReviewStep ι}

omit [DecidableEq ι] in
lemma nodup_append_toList {α : Type} {l : List α} {o : Option α} :
    (l ++ o.toList).Nodup ↔ l.Nodup ∧ ∀ a, o = some a → a ∉ l := by
  cases o with
  | none => simp
  | some a => simp [List.nodup_append, List.forall_mem_ne']

omit [DecidableEq ι] in
/-- One more step keeps the law exactly if it does nothing for the second time. -/
lemma record_atMostOnce :
    (q.2.record py settings q.1 s).AtMostOnce ↔
      q.2.AtMostOnce ∧ FirstTime py settings q s := by
  constructor
  · rintro ⟨hresolved, hcreated, hpublished⟩
    obtain ⟨hr, hr'⟩ := nodup_append_toList.mp hresolved
    obtain ⟨hc, hc'⟩ := nodup_append_toList.mp hcreated
    obtain ⟨hp, hp'⟩ := nodup_append_toList.mp hpublished
    refine ⟨⟨hr, hc, hp⟩, fun d hd => hr' d.1 (by rw [hd]; rfl), fun d hd hsome => hc' d.1 ?_, hp'⟩
    obtain ⟨id, hid⟩ := Option.isSome_iff_exists.mp hsome
    rw [hd, Option.bind_some, hid]
    rfl
  · rintro ⟨⟨hr, hc, hp⟩, hfirst⟩
    refine ⟨nodup_append_toList.mpr ⟨hr, fun t ht => ?_⟩, nodup_append_toList.mpr ⟨hc, fun t ht => ?_⟩,
      nodup_append_toList.mpr ⟨hp, hfirst.autoPublished⟩⟩
    · obtain ⟨d, hd, rfl⟩ := Option.map_eq_some_iff.mp ht
      exact hfirst.resolved d hd
    · obtain ⟨d, hd, hcreated⟩ := Option.bind_eq_some_iff.mp ht
      obtain ⟨id, hid, rfl⟩ := Option.map_eq_some_iff.mp hcreated
      exact hfirst.created d hd (by rw [hid]; rfl)

/-- A run keeps the law exactly if each of its steps does. -/
lemma run_atMostOnce (is : List (ReviewStep ι)) :
    (run (recordedStep py settings) q is).2.AtMostOnce ↔
      q.2.AtMostOnce ∧ EachStep (recordedStep py settings) (FirstTime py settings) q is := by
  induction is generalizing q with
  | nil => exact (and_iff_left trivial).symm
  | cons s is ih =>
    rw [run_cons, ih]
    exact (and_congr_left' record_atMostOnce).trans and_assoc

/-! ## What a step does to the tasks -/

/-- Gates that do not let an attempt pass end it, and touch no task. -/
lemma stageAfter_cases {α : Type} (answers : AttemptAnswers) (store : ReviewStore)
    (gate : Except PyErr (Gate α)) (next : α → AttemptStage × ReviewStore) :
    (∃ a, gate = .ok (.passed a) ∧ stageAfter answers store gate next = next a) ∨
      ((∀ a, gate ≠ .ok (.passed a)) ∧ (stageAfter answers store gate next).1 = .idle ∧
        (stageAfter answers store gate next).2.tasks = store.tasks) := by
  unfold stageAfter
  split
  · next a => exact Or.inl ⟨a, rfl, rfl⟩
  · exact Or.inr ⟨by simp, rfl, rfl⟩
  · exact Or.inr ⟨by simp, rfl, rfl⟩
  · exact Or.inr ⟨by simp, rfl, rfl⟩

/-- A publication touches no task. -/
lemma publishApproved_tasks {answers : AttemptAnswers} {attempt : Attempt}
    {derived : DerivedCycleFacts} {scholarshipId : ScholarshipId} {store store' : ReviewStore}
    (h : publishApproved py answers attempt derived scholarshipId store = .ok store') :
    store'.tasks = store.tasks := by
  unfold publishApproved at h
  split at h
  · cases h
  split at h
  · cases h
  cases h
  rfl

/-- What holds of the tasks, and of the attempts on them, between two steps. -/
structure TasksInv (q : Reviewing ι × DecisionHistory) : Prop where
  resolved : ∀ t ∈ q.2.resolved, ∃ row, q.1.shared.tasks.row t = some row ∧ row.state = .resolved
  created : ∀ t ∈ q.2.created, t ∈ q.2.resolved
  autoPublished : ∀ t ∈ q.2.autoPublished, t ∈ q.2.resolved
  /-- An undecided attempt holds its task as open; if it is not open any more, it was decided. -/
  undecided : ∀ i attempt, (q.1.proc i).undecided = some attempt → attempt.task.state = .opened ∧
    ∃ row, q.1.shared.tasks.row attempt.taskId = some row ∧
      (row.state = .opened ∨ attempt.taskId ∈ q.2.resolved)
  /-- Between its last two transactions an attempt is the one that decided its task. -/
  decided : ∀ i attempt derived id, q.1.proc i = .decided attempt derived id →
    attempt.taskId ∈ q.2.resolved ∧ attempt.taskId ∉ q.2.autoPublished
  unique : ∀ i j attempt attempt' derived derived' id id',
    q.1.proc i = .decided attempt derived id → q.1.proc j = .decided attempt' derived' id' →
    attempt.taskId = attempt'.taskId → i = j

namespace TasksInv

omit [DecidableEq ι] in
/-- Before any step. -/
lemma start (store : ReviewStore) :
    TasksInv ((⟨store, fun _ => .idle⟩ : Reviewing ι), ({} : DecisionHistory)) where
  resolved := by simp
  created := by simp
  autoPublished := by simp
  undecided := by simp [AttemptStage.undecided]
  decided := by simp
  unique := by simp

/-- A step of an attempt that decides nothing and publishes nothing. -/
lemma move (h : TasksInv q) {i : ι} {stage : AttemptStage} {store : ReviewStore}
    (htasks : store.tasks = q.1.shared.tasks)
    (hundecided : ∀ attempt, stage.undecided = some attempt → attempt.task.state = .opened ∧
      ∃ row, q.1.shared.tasks.row attempt.taskId = some row ∧
        (row.state = .opened ∨ attempt.taskId ∈ q.2.resolved))
    (hdecided : ∀ attempt derived id, stage = .decided attempt derived id →
      q.1.proc i = .decided attempt derived id) :
    TasksInv ((⟨store, Function.update q.1.proc i stage⟩ : Reviewing ι), q.2) := by
  have hproc : ∀ j attempt derived id, Function.update q.1.proc i stage j =
      .decided attempt derived id → q.1.proc j = .decided attempt derived id := by
    intro j attempt derived id hj
    by_cases hij : j = i
    · subst hij
      rw [Function.update_self] at hj
      exact hdecided attempt derived id hj
    · rwa [Function.update_of_ne hij] at hj
  refine ⟨fun t ht => ?_, h.created, h.autoPublished, fun j attempt hj => ?_,
    fun j attempt derived id hj => h.decided j attempt derived id (hproc j attempt derived id hj),
    fun j k a a' d d' id id' hj hk => h.unique j k a a' d d' id id' (hproc j a d id hj)
      (hproc k a' d' id' hk)⟩
  · show ∃ row, store.tasks.row t = some row ∧ row.state = .resolved
    rw [htasks]
    exact h.resolved t ht
  · change (Function.update q.1.proc i stage j).undecided = some attempt at hj
    show _ ∧ ∃ row, store.tasks.row attempt.taskId = some row ∧ _
    rw [htasks]
    by_cases hij : j = i
    · subst hij
      rw [Function.update_self] at hj
      exact hundecided attempt hj
    · rw [Function.update_of_ne hij] at hj
      exact h.undecided j attempt hj

omit [DecidableEq ι] in
/-- A decision of a task that was not decided before. -/
lemma resolve (h : TasksInv q) {t : TaskId} {copy : DiscoveryTask} {reason : String}
    {store : ReviewStore} {created : List TaskId} (hcopy : copy.state = .opened)
    (hrow : ∃ row, q.1.shared.tasks.row t = some row)
    (htasks : store.tasks = q.1.shared.tasks.modify t (resolveTask copy reason))
    (hcreated : ∀ u ∈ created, u = t) :
    TasksInv ((⟨store, q.1.proc⟩ : Reviewing ι), { q.2 with
      resolved := q.2.resolved ++ [t], created := q.2.created ++ created }) := by
  -- a task other than this one has the row it had
  have hother : ∀ u, u ≠ t → store.tasks.row u = q.1.shared.tasks.row u := by
    intro u hu
    rw [htasks, Table.row_modify_of_ne _ hu]
  have hthis : ∃ row, store.tasks.row t = some row ∧ row.state = .resolved := by
    obtain ⟨row, hrow⟩ := hrow
    exact ⟨_, by rw [htasks, Table.row_modify_self, hrow, Option.map_some],
      resolveTask_state hcopy reason row⟩
  refine ⟨fun u hu => ?_, fun u hu => ?_, fun u hu => ?_, fun i attempt hi => ?_,
    fun i attempt derived id hi => ?_, h.unique⟩
  · by_cases hut : u = t
    · rw [hut]
      exact hthis
    · have hmem : u ∈ q.2.resolved := (List.mem_append.mp hu).resolve_right (by simpa using hut)
      show ∃ row, store.tasks.row u = some row ∧ _
      rw [hother u hut]
      exact h.resolved u hmem
  · rcases List.mem_append.mp hu with hu | hu
    · exact List.mem_append_left _ (h.created u hu)
    · rw [hcreated u hu]
      exact List.mem_append_right _ (List.mem_singleton.mpr rfl)
  · exact List.mem_append_left _ (h.autoPublished u hu)
  · obtain ⟨hopened, hstored⟩ := h.undecided i attempt hi
    refine ⟨hopened, ?_⟩
    by_cases hut : attempt.taskId = t
    · obtain ⟨row, hrow, -⟩ := hthis
      rw [hut]
      exact ⟨row, hrow, Or.inr (List.mem_append_right _ (List.mem_singleton.mpr rfl))⟩
    · obtain ⟨row, hrow, hstate⟩ := hstored
      exact ⟨row, (hother _ hut).trans hrow, hstate.imp_right (List.mem_append_left _)⟩
  · obtain ⟨hmem, hnot⟩ := h.decided i attempt derived id hi
    exact ⟨List.mem_append_left _ hmem, hnot⟩

/-- The attempt that has decided goes on to its publication. -/
lemma toDecided (h : TasksInv q) {i : ι} {attempt : Attempt} {derived : DerivedCycleFacts}
    {id : ScholarshipId} (hmem : attempt.taskId ∈ q.2.resolved)
    (hnot : attempt.taskId ∉ q.2.autoPublished)
    (hnone : ∀ j attempt' derived' id', q.1.proc j = .decided attempt' derived' id' →
      attempt'.taskId ≠ attempt.taskId) :
    TasksInv ((⟨q.1.shared, Function.update q.1.proc i (.decided attempt derived id)⟩ :
      Reviewing ι), q.2) := by
  refine ⟨h.resolved, h.created, h.autoPublished, fun j attempt' hj => ?_,
    fun j attempt' derived' id' hj => ?_, fun j k a a' d d' id₁ id₂ hj hk htask => ?_⟩
  · change (Function.update q.1.proc i _ j).undecided = some attempt' at hj
    by_cases hij : j = i
    · subst hij
      rw [Function.update_self] at hj
      cases hj
    · rw [Function.update_of_ne hij] at hj
      exact h.undecided j attempt' hj
  · change Function.update q.1.proc i _ j = _ at hj
    by_cases hij : j = i
    · subst hij
      rw [Function.update_self] at hj
      cases hj
      exact ⟨hmem, hnot⟩
    · rw [Function.update_of_ne hij] at hj
      exact h.decided j attempt' derived' id' hj
  · change Function.update q.1.proc i _ j = _ at hj
    change Function.update q.1.proc i _ k = _ at hk
    by_cases hij : j = i
    · by_cases hik : k = i
      · rw [hij, hik]
      · subst hij
        rw [Function.update_self] at hj
        rw [Function.update_of_ne hik] at hk
        cases hj
        exact absurd htask.symm (hnone k a' d' id₂ hk)
    · rw [Function.update_of_ne hij] at hj
      by_cases hik : k = i
      · subst hik
        rw [Function.update_self] at hk
        cases hk
        exact absurd htask (hnone j a d id₁ hj)
      · rw [Function.update_of_ne hik] at hk
        exact h.unique j k a a' d d' id₁ id₂ hj hk htask

/-- The attempt that has decided publishes. -/
lemma publish (h : TasksInv q) {i : ι} {attempt : Attempt} {derived : DerivedCycleFacts}
    {id : ScholarshipId} {store : ReviewStore} (hi : q.1.proc i = .decided attempt derived id)
    (htasks : store.tasks = q.1.shared.tasks) :
    TasksInv ((⟨store, Function.update q.1.proc i .idle⟩ : Reviewing ι), { q.2 with
      autoPublished := q.2.autoPublished ++ [attempt.taskId] }) := by
  have hmoved : TasksInv ((⟨store, Function.update q.1.proc i .idle⟩ : Reviewing ι), q.2) :=
    h.move htasks (by simp [AttemptStage.undecided]) (by simp)
  refine ⟨hmoved.resolved, hmoved.created, fun t ht => ?_, hmoved.undecided,
    fun j attempt' derived' id' hj => ?_, hmoved.unique⟩
  · rcases List.mem_append.mp ht with ht | ht
    · exact h.autoPublished t ht
    · rw [List.mem_singleton.mp ht]
      exact (h.decided i attempt derived id hi).1
  · obtain ⟨hmem, hnot⟩ := hmoved.decided j attempt' derived' id' hj
    refine ⟨hmem, fun hin => ?_⟩
    rcases List.mem_append.mp hin with hin | hin
    · exact hnot hin
    · -- only one attempt has decided this task, and it is idle now
      change Function.update q.1.proc i .idle j = _ at hj
      by_cases hij : j = i
      · subst hij
        rw [Function.update_self] at hj
        cases hj
      · rw [Function.update_of_ne hij] at hj
        exact hij (h.unique j i _ _ _ _ _ _ hj hi (List.mem_singleton.mp hin))

end TasksInv

/-! ## One step -/

omit [DecidableEq ι] in
lemma record_none (hd : decisionAt py settings q.1 s = none) (hp : publicationAt py q.1 s = none) :
    q.2.record py settings q.1 s = q.2 := by
  simp [DecisionHistory.record, hd, hp]

omit [DecidableEq ι] in
lemma record_decision {d : TaskId × Option ScholarshipId}
    (hd : decisionAt py settings q.1 s = some d) (hp : publicationAt py q.1 s = none) :
    q.2.record py settings q.1 s = { q.2 with
      resolved := q.2.resolved ++ [d.1]
      created := q.2.created ++ (d.2.map fun _ => d.1).toList } := by
  simp [DecisionHistory.record, hd, hp]

omit [DecidableEq ι] in
lemma record_publication {t : TaskId} (hd : decisionAt py settings q.1 s = none)
    (hp : publicationAt py q.1 s = some t) :
    q.2.record py settings q.1 s = { q.2 with autoPublished := q.2.autoPublished ++ [t] } := by
  simp [DecisionHistory.record, hd, hp]

/-- The scholarship of a decision, if there is one, is created from its task. -/
lemma mem_created {d : TaskId × Option ScholarshipId} {u : TaskId}
    (h : u ∈ (d.2.map fun _ => d.1).toList) : u = d.1 := by
  rw [Option.mem_toList, Option.map_eq_some_iff] at h
  obtain ⟨-, -, rfl⟩ := h
  rfl

namespace TasksInv

/-- A reviewer's decision. -/
lemma decideStep (h : TasksInv q) (scholarshipId : ScholarshipId) (taskId : TaskId)
    (request : ReviewDecisionRequest) :
    TasksInv (recordedStep py settings q (.decide scholarshipId taskId request)) := by
  simp only [recordedStep, withHistory]
  cases hdecide : decideRequest py scholarshipId taskId request q.1.shared with
  | error e =>
    rw [record_none (by simp [decisionAt, hdecide, Except.toOption]) rfl]
    simpa [reviewStep, hdecide, Except.map, Except.toOption] using h
  | ok result =>
    obtain ⟨copy, hrow, hcopy, -, htasks⟩ := decideReview_ok hdecide
    have hdecision : decisionAt py settings q.1 (.decide scholarshipId taskId request) =
        some (taskId, result.1) := by
      simp [decisionAt, hdecide, Except.toOption]
    rw [record_decision hdecision rfl]
    simp only [reviewStep, hdecide, Except.map, Except.toOption, Option.getD_some]
    exact h.resolve hcopy ⟨copy, hrow⟩ htasks fun u hu =>
      mem_created (d := (taskId, result.1)) hu

/-- An attempt that comes to its approval. -/
lemma approveStep (h : TasksInv q) {worker : ι} {answers : AttemptAnswers} {attempt : Attempt}
    {page : Verification} {admission : Admission}
    {result : Option ScholarshipId × ReviewStore}
    (hproc : q.1.proc worker = .verified attempt page)
    (hclosing : closingGates py settings answers attempt page q.1.shared =
      .ok (.passed admission))
    (hdecide : decideAttempt py answers attempt admission q.1.shared = .ok result)
    (hfirst : attempt.taskId ∉ q.2.resolved) :
    TasksInv (recordedStep py settings q (.attempt worker .decide answers)) := by
  obtain ⟨copy, hcopy, hopened, hresult, htasks⟩ := decideReview_ok hdecide
  obtain ⟨-, row, hrow, -⟩ := h.undecided worker attempt (by rw [hproc]; rfl)
  have hdecision : decisionAt py settings q.1 (.attempt worker .decide answers) =
      some (attempt.taskId, result.1) := by
    simp [decisionAt, hproc, hclosing, hdecide, Except.toOption]
  have hcreates : result.1 = some answers.scholarshipId := by
    rw [hresult, ReviewDecisionRequest.creates, (closingGates_passed hclosing).decision]
  have hstep : reviewStep py settings q.1 (.attempt worker .decide answers) =
      ⟨result.2, Function.update q.1.proc worker
        (.decided attempt admission.derived answers.scholarshipId)⟩ := by
    obtain ⟨approved, store⟩ := result
    obtain rfl : approved = some answers.scholarshipId := hcreates
    simp only [reviewStep, Pool.stepAt, attemptStep, stageAfter, stageDecided, hproc, hclosing,
      hdecide]
  have hresolved := h.resolve hopened ⟨row, hrow⟩ htasks fun u hu =>
    mem_created (d := (attempt.taskId, result.1)) hu
  simp only [recordedStep, withHistory]
  rw [record_decision hdecision rfl, hstep]
  -- nobody has decided this task before
  refine hresolved.toDecided (List.mem_append_right _ (List.mem_singleton.mpr rfl))
    (fun hin => hfirst (h.autoPublished _ hin)) fun j attempt' derived' id' hj htask => ?_
  have hmem := (h.decided j attempt' derived' id' hj).1
  rw [htask] at hmem
  exact hfirst hmem

end TasksInv

variable (py settings) in
/-- A transaction that decides nothing and publishes nothing: an attempt stays as it is, ends, opens,
or goes on with the page that it has fetched. -/
structure Quiet (p : Reviewing ι) (worker : ι) (step : AttemptStep) (answers : AttemptAnswers) :
    Prop where
  decision : decisionAt py settings p (.attempt worker step answers) = none
  publication : publicationAt py p (.attempt worker step answers) = none
  tasks : (attemptStep py settings answers step (p.proc worker) p.shared).2.tasks = p.shared.tasks
  undecided : ∀ attempt,
    (attemptStep py settings answers step (p.proc worker) p.shared).1.undecided = some attempt →
      (p.proc worker).undecided = some attempt ∨ attempt.Opened py settings p.shared
  decided : ∀ attempt derived id,
    (attemptStep py settings answers step (p.proc worker) p.shared).1 =
      .decided attempt derived id → p.proc worker = .decided attempt derived id

variable {p : Reviewing ι} {worker : ι} {step : AttemptStep} {answers : AttemptAnswers}

omit [DecidableEq ι] in
lemma Quiet.same
    (hstep : attemptStep py settings answers step (p.proc worker) p.shared =
      (p.proc worker, p.shared))
    (hd : decisionAt py settings p (.attempt worker step answers) = none)
    (hp : publicationAt py p (.attempt worker step answers) = none) :
    Quiet py settings p worker step answers where
  decision := hd
  publication := hp
  tasks := by rw [hstep]
  undecided := by
    intro attempt h
    rw [hstep] at h
    exact Or.inl h
  decided := by
    intro attempt derived id h
    rwa [hstep] at h

omit [DecidableEq ι] in
lemma Quiet.ended
    (hstage : (attemptStep py settings answers step (p.proc worker) p.shared).1 = .idle)
    (htasks : (attemptStep py settings answers step (p.proc worker) p.shared).2.tasks =
      p.shared.tasks)
    (hd : decisionAt py settings p (.attempt worker step answers) = none)
    (hp : publicationAt py p (.attempt worker step answers) = none) :
    Quiet py settings p worker step answers where
  decision := hd
  publication := hp
  tasks := htasks
  undecided := by
    intro attempt h
    rw [hstage] at h
    cases h
  decided := by
    intro attempt derived id h
    rw [hstage] at h
    cases h

omit [DecidableEq ι] in
/-- Every transaction of an attempt is quiet, or decides its task, or publishes for it. -/
theorem attempt_cases (py : ApprovalPy) (settings : ApprovalSettings) (p : Reviewing ι) (worker : ι) (step : AttemptStep)
    (answers : AttemptAnswers) : Quiet py settings p worker step answers ∨
      (∃ attempt page admission result, step = .decide ∧ p.proc worker = .verified attempt page ∧
        closingGates py settings answers attempt page p.shared = .ok (.passed admission) ∧
        decideAttempt py answers attempt admission p.shared = .ok result) ∨
      (∃ attempt derived id store, step = .publish ∧
        p.proc worker = .decided attempt derived id ∧
        publishApproved py answers attempt derived id p.shared = .ok store) := by
  cases step with
  | start taskId =>
    left
    cases hproc : p.proc worker with
    | idle =>
      have hstep : attemptStep py settings answers (.start taskId) (p.proc worker) p.shared =
          stageAfter answers p.shared (openingGates py settings answers taskId p.shared)
            fun attempt => (.fetching attempt, p.shared) := by
        rw [hproc]
        rfl
      rcases stageAfter_cases answers p.shared (openingGates py settings answers taskId p.shared)
          fun attempt => (.fetching attempt, p.shared) with
        ⟨attempt, hgate, hafter⟩ | ⟨-, hidle, htasks⟩
      · rw [hafter] at hstep
        refine ⟨rfl, rfl, by rw [hstep], fun attempt' h => ?_, fun attempt' derived id h => ?_⟩
        · rw [hstep] at h
          obtain rfl := Option.some.inj h
          exact Or.inr (openingGates_passed hgate).2
        · rw [hstep] at h
          cases h
      · rw [← hstep] at hidle htasks
        exact Quiet.ended hidle htasks rfl rfl
    | _ => exact Quiet.same (by rw [hproc]; rfl) rfl rfl
  | verify =>
    left
    cases hproc : p.proc worker with
    | fetching attempt =>
      have hstep : attemptStep py settings answers .verify (p.proc worker) p.shared =
          stageAfter answers p.shared (verifyPage py answers attempt) fun page =>
            (.verified attempt page, p.shared.recordVerification attempt.discoveryId) := by
        rw [hproc]
        rfl
      rcases stageAfter_cases answers p.shared (verifyPage py answers attempt) fun page =>
          (.verified attempt page, p.shared.recordVerification attempt.discoveryId) with
        ⟨page, -, hafter⟩ | ⟨-, hidle, htasks⟩
      · rw [hafter] at hstep
        refine ⟨rfl, rfl, by rw [hstep]; rfl, fun attempt' h => ?_, fun attempt' derived id h => ?_⟩
        · rw [hstep] at h
          rw [hproc]
          exact Or.inl h
        · rw [hstep] at h
          cases h
      · rw [← hstep] at hidle htasks
        exact Quiet.ended hidle htasks rfl rfl
    | _ => exact Quiet.same (by rw [hproc]; rfl) rfl rfl
  | decide =>
    cases hproc : p.proc worker with
    | verified attempt page =>
      have hstep : attemptStep py settings answers .decide (p.proc worker) p.shared =
          stageAfter answers p.shared (closingGates py settings answers attempt page p.shared)
            fun admission => stageDecided attempt admission.derived p.shared
              (decideAttempt py answers attempt admission p.shared) := by
        rw [hproc]
        rfl
      rcases stageAfter_cases answers p.shared
          (closingGates py settings answers attempt page p.shared) fun admission =>
            stageDecided attempt admission.derived p.shared
              (decideAttempt py answers attempt admission p.shared) with
        ⟨admission, hgate, hafter⟩ | ⟨hgate, hidle, htasks⟩
      · cases hdecide : decideAttempt py answers attempt admission p.shared with
        | ok result => exact Or.inr (Or.inl ⟨attempt, page, admission, result, rfl, rfl, hgate, hdecide⟩)
        | error e =>
          rw [hafter, hdecide] at hstep
          refine Or.inl (Quiet.ended (by rw [hstep]; rfl) (by rw [hstep]; rfl) ?_ rfl)
          simp [decisionAt, hproc, hgate, hdecide, Except.toOption]
      · rw [← hstep] at hidle htasks
        refine Or.inl (Quiet.ended hidle htasks ?_ rfl)
        simp only [decisionAt, hproc]
    | _ => exact Or.inl (Quiet.same (by rw [hproc]; rfl) (by simp [decisionAt, hproc]) rfl)
  | publish =>
    cases hproc : p.proc worker with
    | decided attempt derived id =>
      cases hpublish : publishApproved py answers attempt derived id p.shared with
      | ok store => exact Or.inr (Or.inr ⟨attempt, derived, id, store, rfl, rfl, hpublish⟩)
      | error e =>
        have hstep : attemptStep py settings answers .publish (p.proc worker) p.shared =
            (.idle, p.shared) := by
          rw [hproc]
          simp only [attemptStep, hpublish]
        refine Or.inl (Quiet.ended (by rw [hstep]) (by rw [hstep]) rfl ?_)
        simp [publicationAt, hproc, hpublish, Except.toOption]
    | _ => exact Or.inl (Quiet.same (by rw [hproc]; rfl) rfl (by simp [publicationAt, hproc]))
  | abandon => exact Or.inl (Quiet.ended rfl rfl rfl rfl)

namespace TasksInv

lemma quietStep (h : TasksInv q) (hquiet : Quiet py settings q.1 worker step answers) :
    TasksInv (recordedStep py settings q (.attempt worker step answers)) := by
  simp only [recordedStep, withHistory]
  rw [record_none hquiet.decision hquiet.publication]
  refine h.move hquiet.tasks (fun attempt hattempt => ?_) hquiet.decided
  rcases hquiet.undecided attempt hattempt with hsame | hopened
  · exact h.undecided worker attempt hsame
  · exact ⟨hopened.opened, attempt.task, hopened.task, Or.inl hopened.opened⟩

/-- A publication. -/
lemma publishStep (h : TasksInv q) {attempt : Attempt} {derived : DerivedCycleFacts}
    {id : ScholarshipId} {store : ReviewStore}
    (hproc : q.1.proc worker = .decided attempt derived id)
    (hpublish : publishApproved py answers attempt derived id q.1.shared = .ok store) :
    TasksInv (recordedStep py settings q (.attempt worker .publish answers)) := by
  have hpublication : publicationAt py q.1 (.attempt worker .publish answers) =
      some attempt.taskId := by
    simp [publicationAt, hproc, hpublish, Except.toOption]
  have hstep : reviewStep py settings q.1 (.attempt worker .publish answers) =
      ⟨store, Function.update q.1.proc worker .idle⟩ := by
    simp only [reviewStep, Pool.stepAt, attemptStep, hproc, hpublish]
  simp only [recordedStep, withHistory]
  rw [record_publication rfl hpublication, hstep]
  exact h.publish hproc (publishApproved_tasks hpublish)

/-- The invariant survives a step that does nothing for the second time. -/
theorem recordedStep (h : TasksInv q) (hfirst : FirstTime py settings q s) :
    TasksInv (ScholarshipFinder.recordedStep py settings q s) := by
  cases s with
  | decide scholarshipId taskId request => exact h.decideStep scholarshipId taskId request
  | attempt worker step answers =>
    rcases attempt_cases py settings q.1 worker step answers with hquiet |
      ⟨attempt, page, admission, result, rfl, hproc, hclosing, hdecide⟩ |
      ⟨attempt, derived, id, store, rfl, hproc, hpublish⟩
    · exact h.quietStep hquiet
    · have hdecision : decisionAt py settings q.1 (.attempt worker .decide answers) =
          some (attempt.taskId, result.1) := by
        simp [decisionAt, hproc, hclosing, hdecide, Except.toOption]
      exact h.approveStep hproc hclosing hdecide (hfirst.resolved _ hdecision)
    · exact h.publishStep hproc hpublish

omit [DecidableEq ι] in
/-- An attempt is decided exactly where its scholarship is accepted. -/
lemma decideAttempt_iff (h : TasksInv q) {attempt : Attempt} {page : Verification}
    {admission : Admission} (hproc : q.1.proc worker = .verified attempt page)
    (hclosing : closingGates py settings answers attempt page q.1.shared =
      .ok (.passed admission)) :
    (∃ result, decideAttempt py answers attempt admission q.1.shared = .ok result) ↔
      ∃ store, approveTask py.toPy answers.scholarshipId admission.request attempt.task
        (attempt.view q.1.shared) q.1.shared = .ok store := by
  obtain ⟨hopened, row, hrow, -⟩ := h.undecided worker attempt (by rw [hproc]; rfl)
  rw [decideAttempt, hrow, Option.map_some]
  exact decideReview_approve_iff hopened (closingGates_passed hclosing).decision

omit [DecidableEq ι] in
/-- In the states of the invariant, a step does nothing for the second time exactly if an attempt
that comes to its approval finds the task still open. -/
theorem firstTime_iff (h : TasksInv q) :
    FirstTime py settings q s ↔ DecidesOpen py settings q.1 s := by
  have hnot : ∀ t row, q.1.shared.tasks.row t = some row → row.state = .opened →
      t ∉ q.2.resolved := by
    intro t row hrow hopened hmem
    obtain ⟨row', hrow', hresolved⟩ := h.resolved t hmem
    obtain rfl : row = row' := Option.some.inj (hrow.symm.trans hrow')
    rw [hopened] at hresolved
    cases hresolved
  constructor
  · rintro hfirst worker answers attempt page admission store rfl hproc hclosing happrove
    obtain ⟨result, hdecide⟩ := (h.decideAttempt_iff hproc hclosing).mpr ⟨store, happrove⟩
    have hdecision : decisionAt py settings q.1 (.attempt worker .decide answers) =
        some (attempt.taskId, result.1) := by
      simp [decisionAt, hproc, hclosing, hdecide, Except.toOption]
    obtain ⟨-, row, hrow, hstate⟩ := h.undecided worker attempt (by rw [hproc]; rfl)
    exact ⟨row, hrow, hstate.resolve_right (hfirst.resolved _ hdecision)⟩
  · intro hopen
    have hresolved : ∀ d, decisionAt py settings q.1 s = some d → d.1 ∉ q.2.resolved := by
      intro d hd
      cases s with
      | decide scholarshipId taskId request =>
        obtain ⟨result, hresult, rfl⟩ := Option.map_eq_some_iff.mp hd
        cases hdecide : decideRequest py scholarshipId taskId request q.1.shared with
        | error e =>
          rw [hdecide] at hresult
          cases hresult
        | ok result =>
          obtain ⟨copy, hrow, hopened, -⟩ := decideReview_ok hdecide
          exact hnot taskId copy hrow hopened
      | attempt worker step answers =>
        rcases attempt_cases py settings q.1 worker step answers with hquiet |
          ⟨attempt, page, admission, result, rfl, hproc, hclosing, hdecide⟩ |
          ⟨attempt, derived, id, store, rfl, -, -⟩
        · rw [hquiet.decision] at hd
          cases hd
        · obtain ⟨store, happrove⟩ := (h.decideAttempt_iff hproc hclosing).mp ⟨result, hdecide⟩
          obtain ⟨row, hrow, hopened⟩ :=
            hopen worker answers attempt page admission store rfl hproc hclosing happrove
          simp only [decisionAt, hproc, hclosing, hdecide, Except.toOption, Option.map_some] at hd
          obtain rfl := Option.some.inj hd
          exact hnot _ row hrow hopened
        · cases hd
    refine ⟨hresolved, fun d hd _ hmem => hresolved d hd (h.created _ hmem), fun t ht => ?_⟩
    cases s with
    | decide scholarshipId taskId request => cases ht
    | attempt worker step answers =>
      rcases attempt_cases py settings q.1 worker step answers with hquiet |
        ⟨attempt, page, admission, result, rfl, -, -, -⟩ |
        ⟨attempt, derived, id, store, rfl, hproc, hpublish⟩
      · rw [hquiet.publication] at ht
        cases ht
      · cases ht
      · simp only [publicationAt, hproc, hpublish, Except.toOption, Option.map_some] at ht
        obtain rfl := Option.some.inj ht
        exact (h.decided worker attempt derived id hproc).2

end TasksInv

/-! ## Runs -/

/-- From any database, a run decides every task at most once, with one scholarship and one
published cycle at most, exactly if every attempt that comes to its approval finds the task still
open. -/
theorem decidedOnce_iff (py : ApprovalPy) (settings : ApprovalSettings) (store : ReviewStore)
    (is : List (ReviewStep ι)) :
    (run (recordedStep py settings) (⟨store, fun _ => .idle⟩, {}) is).2.AtMostOnce ↔
      EachStep (reviewStep py settings) (DecidesOpen py settings) ⟨store, fun _ => .idle⟩ is := by
  have hempty : DecisionHistory.AtMostOnce {} := ⟨List.nodup_nil, List.nodup_nil, List.nodup_nil⟩
  rw [run_atMostOnce, and_iff_right hempty]
  have hcongr : EachStep (recordedStep py settings) (FirstTime py settings)
        (⟨store, fun _ => .idle⟩, {}) is ↔
      EachStep (recordedStep py settings) (fun q s => DecidesOpen py settings q.1 s)
        (⟨store, fun _ => .idle⟩, {}) is :=
    eachStep_congr_of_invariant (A := fun _ => True) (I := TasksInv)
      (fun q s _ h => h.firstTime_iff) (fun q s _ h hfirst => h.recordedStep hfirst)
      (fun _ _ => trivial) (TasksInv.start store)
  exact hcongr.trans eachStep_withHistory_fst

namespace Sample

/-- What a reviewer sends who approves the award. -/
def humanApproval : ReviewDecisionRequest where
  decision := .approve
  providerId := some 1
  canonicalName := none
  officialHomeUrl := some awardUrl
  slug := some "masters-award"
  awardType := some "scholarship"
  reason := "Checked."

/-- The reviewer approves the award while an attempt on it fetches the page. -/
def approvedMeanwhile : List (ReviewStep Unit) :=
  [.attempt () (.start 1) approvalAnswers, .attempt () .verify approvalAnswers,
    .decide 3 1 humanApproval,
    .attempt () .decide approvalAnswers, .attempt () .publish approvalAnswers]

/-- The attempt then decides the task again, and publishes a second scholarship. -/
theorem decided_twice :
    ¬ ∀ (store : ReviewStore) (is : List (ReviewStep Unit)),
      (run (recordedStep approvalPy {}) (⟨store, fun _ => .idle⟩, {}) is).2.AtMostOnce := by
  intro h
  have hrun : (run (recordedStep approvalPy {}) (⟨approvalStore, fun _ => .idle⟩, {})
      approvedMeanwhile).2 = ⟨[1, 1], [1, 1], [1]⟩ := by decide +kernel
  have honce := (h approvalStore approvedMeanwhile).resolved
  rw [hrun] at honce
  exact absurd honce (by decide)

end Sample

end ScholarshipFinder
