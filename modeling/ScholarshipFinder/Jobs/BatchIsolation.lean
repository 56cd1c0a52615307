import ScholarshipFinder.Infra.Batch

/-!
# Jobs of one batch

A job that leaves the session with a rollback of an open transaction behind it takes the objects of
the jobs after it along: the loop cannot read their ids any more, and counts each of them as failed
without having run it.  So the batch keeps going exactly if no job that would succeed comes after
such a job.  A handler that raises an ordinary error is no such job: its failure is committed before
the rollback.
-/

namespace ScholarshipFinder

/-- Every job that does not fail runs once, and the counts are right. -/
structure Batch.KeepsGoing (batch : Batch) : Prop where
  runs : ∀ run ∈ batch.runs, run.succeeds = true → (executeDueJobs batch).ran.count run.jobId = 1
  completed : (executeDueJobs batch).completed = batch.runs.countP (·.succeeds)
  failed : (executeDueJobs batch).failed = batch.runs.countP (!·.succeeds)

/-- The jobs that the loop reaches before their objects are expired. -/
def reached : List JobRun → List JobRun
  | [] => []
  | run :: runs => run :: if run.expires then [] else reached runs

lemma reached_prefixes (runs : List JobRun) : reached runs <+: runs := by
  induction runs with
  | nil => exact List.prefix_rfl
  | cons run runs ih =>
    rw [reached, List.prefix_cons_inj]
    split
    · exact List.nil_prefix
    · exact ih

/-- The jobs reached are counted and run, those after them are not run. -/
theorem BatchResult.foldl_next_of_live {result : BatchResult}
    (hlive : result.session.expired = false) (husable : result.session.usable = true)
    (runs : List JobRun) :
    (runs.foldl next result).completed = result.completed + (reached runs).countP (·.succeeds) ∧
      (runs.foldl next result).ran =
        result.ran ++ ((reached runs).filter (·.claimable)).map (·.jobId) := by
  induction runs generalizing result with
  | nil => simp [reached]
  | cons run runs ih =>
    obtain ⟨hcompleted, -, hran, hexpired, husable'⟩ := next_of_live hlive husable run
    rw [List.foldl_cons, reached]
    have hcount : (result.next run).completed =
        result.completed + [run].countP (·.succeeds) := by
      rw [hcompleted]
      cases hsucceeds : run.succeeds <;> simp [hsucceeds]
    have hfilter : (result.next run).ran =
        result.ran ++ ([run].filter (·.claimable)).map (·.jobId) := by
      rw [hran]
      cases hclaimable : run.claimable <;> simp [hclaimable]
    cases hstop : run.expires with
    | true =>
      -- the loop goes on, but every id it wants to read is expired
      rw [hstop] at hexpired
      obtain ⟨hrest, -, hrest'⟩ := foldl_next_of_expired hexpired runs
      rw [hrest, hrest', hcount, hfilter]
      exact ⟨rfl, rfl⟩
    | false =>
      rw [hstop] at hexpired
      obtain ⟨hrest, hrest'⟩ := ih hexpired husable'
      have hcons : run :: reached runs = [run] ++ reached runs := rfl
      rw [hrest, hrest', hcount, hfilter, if_neg Bool.false_ne_true, hcons]
      constructor
      · rw [List.countP_append, add_assoc]
      · rw [List.filter_append, List.map_append, List.append_assoc]

/-- Every job is counted, as completed or as failed. -/
lemma BatchResult.foldl_next_total (runs : List JobRun) (result : BatchResult) :
    (runs.foldl next result).completed + (runs.foldl next result).failed =
      result.completed + result.failed + runs.length := by
  induction runs generalizing result with
  | nil => rfl
  | cons run runs ih =>
    have hone : (result.next run).completed + (result.next run).failed =
        result.completed + result.failed + 1 := by
      rw [next]
      split
      · dsimp only
        omega
      · obtain ⟨returned, session⟩ := result.session.executeJob run
        cases returned <;> simp <;> omega
    rw [List.foldl_cons, ih, hone, List.length_cons]
    omega

/-- No job that would succeed is left behind exactly if none comes after a job that expires. -/
lemma countP_reached_iff (runs : List JobRun) :
    (reached runs).countP (·.succeeds) = runs.countP (·.succeeds) ↔
      runs.Pairwise fun earlier later => earlier.expires = true → later.succeeds = false := by
  induction runs with
  | nil => simp [reached]
  | cons run runs ih =>
    rw [reached, List.countP_cons, List.countP_cons, Nat.add_right_cancel_iff,
      List.pairwise_cons]
    cases hstop : run.expires with
    | true =>
      rw [if_pos rfl, List.countP_nil, eq_comm, List.countP_eq_zero]
      constructor
      · intro hnone
        have hfalse : ∀ later ∈ runs, later.succeeds = false := by
          intro later hmem
          exact Bool.eq_false_iff.mpr (hnone later hmem)
        refine ⟨fun later hmem _ => hfalse later hmem, ?_⟩
        exact List.pairwise_of_forall_mem_list fun _ _ later hmem _ => hfalse later hmem
      · rintro ⟨hfalse, -⟩ later hmem
        exact Bool.eq_false_iff.mp (hfalse later hmem rfl)
    | false =>
      rw [if_neg Bool.false_ne_true, ih]
      constructor
      · exact fun h => ⟨fun _ _ hcontra => absurd hcontra Bool.false_ne_true, h⟩
      · exact fun h => h.2

/-- A job that succeeds is claimed. -/
lemma JobRun.claimable_of_succeeds {run : JobRun} (h : run.succeeds = true) :
    run.claimable = true := by
  rw [succeeds, Bool.and_eq_true, Bool.and_eq_true] at h
  exact h.1.1

/-- Where no job that would succeed comes after one that expires, the loop reaches each of
them. -/
lemma mem_reached {runs : List JobRun} {run : JobRun} (hmem : run ∈ runs)
    (hsucceeds : run.succeeds = true)
    (h : runs.Pairwise fun earlier later => earlier.expires = true → later.succeeds = false) :
    run ∈ reached runs := by
  induction runs with
  | nil => exact hmem
  | cons head runs ih =>
    obtain ⟨hhead, hrest⟩ := List.pairwise_cons.mp h
    rw [reached]
    rcases List.mem_cons.mp hmem with rfl | hmem
    · exact List.mem_cons_self
    · have hgoes : head.expires = false := by
        by_contra hstop
        rw [Bool.not_eq_false] at hstop
        rw [hhead run hmem hstop] at hsucceeds
        cases hsucceeds
      rw [hgoes]
      exact List.mem_cons_of_mem head (ih hmem hrest)

/-- A batch keeps going exactly if no job that would succeed comes after one that cannot be
claimed, that rolls the session back, or that has a flush fail. -/
theorem keepsGoing_iff (batch : Batch) :
    batch.KeepsGoing ↔
      batch.runs.Pairwise fun earlier later =>
        earlier.expires = true → later.succeeds = false := by
  obtain ⟨hcompleted, hran⟩ :=
    @BatchResult.foldl_next_of_live BatchResult.start rfl rfl batch.runs
  have htotal := BatchResult.foldl_next_total batch.runs BatchResult.start
  have hcompleted' : (executeDueJobs batch).completed =
      (reached batch.runs).countP (·.succeeds) := hcompleted.trans (Nat.zero_add _)
  rw [← countP_reached_iff]
  constructor
  · intro h
    exact hcompleted'.symm.trans h.completed
  · intro h
    refine ⟨?_, hcompleted'.trans h, ?_⟩
    · intro run hmem hsucceeds
      -- the ids of the jobs reached are distinct, as those of the batch are
      have hreached := mem_reached hmem hsucceeds ((countP_reached_iff _).mp h)
      have hin : run.jobId ∈ ((reached batch.runs).filter (·.claimable)).map (·.jobId) :=
        List.mem_map_of_mem (List.mem_filter.mpr
          ⟨hreached, JobRun.claimable_of_succeeds hsucceeds⟩)
      have hnodup : (((reached batch.runs).filter (·.claimable)).map (·.jobId)).Nodup := by
        refine batch.nodup.sublist (List.Sublist.map _ ?_)
        exact List.filter_sublist.trans (reached_prefixes _).sublist
      show (batch.runs.foldl BatchResult.next BatchResult.start).ran.count run.jobId = 1
      rw [hran]
      exact List.count_eq_one_of_mem hnodup hin
    · have hsum : (executeDueJobs batch).completed + (executeDueJobs batch).failed =
          0 + 0 + batch.runs.length := htotal
      have hparts : batch.runs.length = batch.runs.countP (·.succeeds) +
          batch.runs.countP fun run => decide ¬run.succeeds = true :=
        List.length_eq_countP_add_countP _
      have hnot : batch.runs.countP (fun run => decide ¬run.succeeds = true) =
          batch.runs.countP (!·.succeeds) := by
        congr 1
        funext run
        cases run.succeeds <;> rfl
      rw [hcompleted', h] at hsum
      rw [hnot] at hparts
      omega

/-- A handler that raises an ordinary error, and nothing else, leaves the batch alone. -/
theorem expires_eq_false_of_ordinary {run : JobRun} (hclaimable : run.claimable = true)
    (hops : ∀ op ∈ run.ops, op = .query ∨ op = .commit) : run.expires = false := by
  have hkept : ∀ (ops : List SessionOp) (s : SessionState),
      (∀ op ∈ ops, op = .query ∨ op = .commit) →
      (ops.foldl SessionState.perform s).expired = s.expired := by
    intro ops
    induction ops with
    | nil => exact fun _ _ => rfl
    | cons op ops ih =>
      intro s hall
      rw [List.foldl_cons, ih _ fun other hmem => hall other (List.mem_cons_of_mem op hmem)]
      rcases hall op List.mem_cons_self with rfl | rfl
      · rfl
      · rw [SessionState.perform, SessionState.commit]
        split <;> rfl
  rw [JobRun.expires, hclaimable, JobRun.handle, hkept run.ops _ hops]
  rfl

/-- A job that another worker has claimed in between, and a healthy one after it. -/
def Sample.claimedBatch : Batch where
  runs := [⟨1, false, [], none⟩, ⟨2, true, [.query], none⟩]
  nodup := by decide

/-- The healthy job does not run, and two failures are counted. -/
theorem claimed_job_stops_batch : ¬ ∀ batch : Batch, batch.KeepsGoing := by
  intro h
  have hran := (h Sample.claimedBatch).runs ⟨2, true, [.query], none⟩ (by decide) rfl
  exact absurd hran (by decide)

end ScholarshipFinder
