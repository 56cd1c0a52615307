import ScholarshipFinder.Reverify.Baseline

/-!
# When a change alarm is a false one

A sweep that is answered with a success and finds another hash on the page than it fetched
opens a review task for changed content.  The hash on the page is that of the last fetch
stored, which may have been an error page or a rendering of the fallback reader.
-/

namespace ScholarshipFinder

open Lib

variable (py : Py) (settings : Settings) (c : CycleId) (b : List UInt8)

/-- No change alarm is opened for the cycle. -/
def NoChangeAlarm (db : Db) (step : Step) : Prop :=
  ∀ task ∈ (exec py settings db step).tasks, task.cycleId = some c →
    task.reason = "reverify_content_changed" → task ∈ db.tasks

/-- The direct fetch was answered with a 2xx status. -/
def AnsweredOk (fetch : Fetch) (body : FetchedSource) : Prop :=
  fetch.direct = .ok body ∧ 200 ≤ body.statusCode ∧ body.statusCode < 300

/-- What the direct fetches for the cycle answer with a 2xx status is always `b`. -/
def AnswersAlways : Step → Prop
  | .turn _ _ cycleId fetch => cycleId = c → ∀ body, AnsweredOk fetch body → body.content = b
  | _ => True

/-- What stands on the page of the cycle when a sweep of it succeeds, and what that sweep
fetched unless it is a 2xx answer, hashes like `b`. -/
def GenuineContent (db : Db) (step : Step) : Prop :=
  ∀ sourceId now fetch, step = .turn sourceId now c fetch →
    ∀ previous new, observation py settings c db step = some (previous, new) →
      (∀ old ∈ previous, old = py.sha256 b) ∧
        (new = py.sha256 b ∨ ∃ body, AnsweredOk fetch body)

variable {py settings c b}

/-- A turn that is not decided opens no change alarm. -/
lemma Undecided.no_alarm {j : CycleId} {db db' : Db} {turn : Turn} (h : Undecided j db turn db')
    {task : ReviewTask} (htask : task ∈ db'.tasks)
    (hreason : task.reason = "reverify_content_changed") : task ∈ db.tasks := by
  cases h with
  | failed => exact htask
  | deferred => exact htask
  | @escalated reason draft hne =>
    rcases mem_openCycleReviewTask htask with hold | ⟨-, heq⟩
    · exact hold
    · exact absurd (heq.symm.trans hreason) hne

/-- A 2xx answer to the direct fetch is what the fetch brings. -/
lemma Brought.eq_of_answeredOk {fetch : Fetch} {body answered : FetchedSource}
    (h : Brought fetch body) (hok : AnsweredOk fetch answered) : body = answered := by
  obtain ⟨hdirect, -, hlt⟩ := hok
  cases h with
  | direct hbody =>
    rw [hdirect, Except.ok.injEq] at hbody
    exact hbody.symm
  | fallback _ failed =>
    have hge := failed answered hdirect
    omega

/-- A change alarm for the cycle comes from a sweep of it that is answered with a success
and finds another hash on its page. -/
theorem changeAlarm_opened {db : Db} {step : Step} (hauto : step.automatic) {task : ReviewTask}
    (htask : task ∈ (exec py settings db step).tasks) (hcycle : task.cycleId = some c)
    (hreason : task.reason = "reverify_content_changed") (hnew : task ∉ db.tasks) :
    ∃ sourceId now fetch old body, step = .turn sourceId now c fetch ∧ Brought fetch body ∧
      observation py settings c db step = some (some old, py.sha256 body.content) ∧
      old ≠ py.sha256 body.content := by
  cases step with
  | publish args now => cases hauto
  | patch countries sid cid changes => cases hauto
  | withdraw sid => cases hauto
  | tick limit now => exact absurd htask hnew
  | turn sourceId now j fetch =>
    rcases hres : recheckCycle py settings sourceId now j fetch db with ⟨turn, db'⟩
    rw [exec, hres] at htask
    rcases recheckCycle_spec hres with ⟨-, rfl⟩ | ⟨r, hr, hpub, hspec⟩
    · exact absurd htask hnew
    · cases hspec with
      | unfetched touch _ rest =>
        rw [← touch.tasks] at hnew
        exact absurd (rest.no_alarm htask hreason) hnew
      | @fetched p body _ db₁ _ hfetch store decision =>
        rw [← store.touch.tasks] at hnew
        cases decision with
        | renewed _ _ _ _ => exact absurd htask hnew
        | @changed old draft hold differs success =>
          -- the task is new, so it is the one that this turn opened
          rcases mem_openCycleReviewTask htask with hmem | ⟨hj, -⟩
          · exact absurd hmem hnew
          · rw [hcycle, Option.some.injEq] at hj
            subst hj
            refine ⟨sourceId, now, fetch, old, body, rfl, store.brought, ?_, differs⟩
            rw [observation_of_fetched hr hpub hfetch store success, hold]
        | undecided rest => exact absurd (rest.no_alarm htask hreason) hnew

/-- A sweep that finds and fetches the one content of the page raises no alarm. -/
lemma GenuineContent.no_alarm {db : Db} {step : Step} (hauto : step.automatic)
    (hstable : AnswersAlways c b step) (h : GenuineContent py settings c b db step) :
    NoChangeAlarm py settings c db step := by
  intro task htask hcycle hreason
  by_contra hnew
  obtain ⟨sourceId, now, fetch, old, body, rfl, hbrought, hobs, hdiffers⟩ :=
    changeAlarm_opened hauto htask hcycle hreason hnew
  obtain ⟨hold, hfetched⟩ := h sourceId now fetch rfl _ _ hobs
  have hbody : py.sha256 body.content = py.sha256 b := by
    rcases hfetched with heq | ⟨answered, hok⟩
    · exact heq
    · rw [hbrought.eq_of_answeredOk hok, hstable rfl answered hok]
  exact hdiffers ((hold old rfl).trans hbody.symm)

/-- In every run of ticks and sweeps in which the 2xx answers for the cycle are all the same,
and nothing else stands on its page or is fetched when a sweep of it succeeds, no change
alarm is opened for the cycle. -/
theorem no_false_alarm {db : Db} {steps : List Step} (hsteps : ∀ s ∈ steps, s.automatic = true)
    (hstable : ∀ s ∈ steps, AnswersAlways c b s)
    (hgenuine : EachStep (exec py settings) (GenuineContent py settings c b) db steps) :
    EachStep (exec py settings) (NoChangeAlarm py settings c) db steps :=
  hgenuine.imp (A := fun s => s.automatic = true ∧ AnswersAlways c b s)
    (fun _ _ h hstep => hstep.no_alarm h.1 h.2) (fun s hs => ⟨hsteps s hs, hstable s hs⟩)

/-- A call is observed; its server fails once with an error page, and then is back. -/
def outageRun : List Step := [
  .turn 1 (Sample.start + 24 * hour) 1 (Sample.answer 200 [49]),
  .turn 1 (Sample.start + 25 * hour) 1 (Sample.answer 503 [50]),
  .turn 1 (Sample.start + 26 * hour) 1 (Sample.answer 200 [49])]

/-- The page never changed, and the sweep after the outage raises the alarm. -/
theorem outage_raises_alarm :
    (∀ s ∈ outageRun, s.automatic = true) ∧ (∀ s ∈ outageRun, AnswersAlways 1 [49] s) ∧
      ¬ EachStep (exec Sample.py {}) (NoChangeAlarm Sample.py {} 1) (Sample.db Sample.cycle)
        outageRun := by
  refine ⟨by simp [outageRun, Step.automatic], ?_, ?_⟩
  · intro s hs
    simp only [outageRun, List.mem_cons, List.not_mem_nil, or_false] at hs
    rcases hs with rfl | rfl | rfl <;> rintro - body ⟨hbody, -, hlt⟩ <;> cases hbody
    · rfl
    · exact absurd hlt (by decide)
    · rfl
  · rintro ⟨-, -, hlast, -⟩
    exact absurd (hlast _ (List.mem_singleton.mpr rfl) rfl rfl) List.not_mem_nil

/-- A page that answers the same each time raises no alarm. -/
theorem steady_page_raises_no_alarm :
    EachStep (exec Sample.py {}) (NoChangeAlarm Sample.py {} 1) (Sample.db Sample.cycle) [
      .turn 1 (Sample.start + 24 * hour) 1 (Sample.answer 200 [49]),
      .turn 1 (Sample.start + 25 * hour) 1 (Sample.answer 200 [49])] := by
  refine no_false_alarm (b := [49]) (by simp [Step.automatic]) ?_ ⟨?_, ?_, trivial⟩
  · intro s hs
    simp only [List.mem_cons, List.not_mem_nil, or_false] at hs
    rcases hs with rfl | rfl <;> rintro - body ⟨hbody, -⟩ <;> cases hbody <;> rfl
  · rintro sourceId now fetch ⟨⟩ previous new hobs
    cases hobs
    exact ⟨fun old hold => (by cases hold), Or.inl rfl⟩
  · rintro sourceId now fetch ⟨⟩ previous new hobs
    cases hobs
    exact ⟨fun old hold => (by cases hold; rfl), Or.inl rfl⟩

end ScholarshipFinder
