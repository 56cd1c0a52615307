import ScholarshipFinder.Infra.AgentRuns
import ScholarshipFinder.Intake.Lineages
import ScholarshipFinder.Lib.Run
import ScholarshipFinder.Sample.Intake

/-!
# Walking through the work list

The Agent reads its work list page by page, each page above the last id of the one before.
Between two pages any runs may be recorded and any feeds and candidates taken in.  What is there
at the start is read, unless it has a run when its page is read.
-/

namespace ScholarshipFinder

open Lib

/-! ## The walk -/

/-- What may happen between two pages. -/
inductive AgentWrite
  | recordRun (payload : AgentRunRequest) (runId : RunId) (now : Instant)
  | intake (op : IntakeOp)

/-- One write; a run that is refused is rolled back. -/
def AgentStore.write (py : IntakePy) (store : AgentStore) : AgentWrite → AgentStore
  | .recordRun payload runId now =>
    match store.recordRun payload runId now with
    | .ok after => after
    | .error _ => store
  | .intake op => { store with toIntakeStore := intakeStep py store.toIntakeStore op }

/-- The writes before a page, and its size. -/
structure ReadStep where
  writes : List AgentWrite
  limit : ℕ
  one_le_limit : 1 ≤ limit
  limit_le : limit ≤ 200

/-- A page that was read: what was stored then, and the ids that were listed. -/
structure PageRead where
  store : AgentStore
  after : Option DiscoveryId
  items : List DiscoveryId
  next : Option DiscoveryId

/-- A walk, and where its next page starts unless it has ended. -/
structure WorkWalk where
  store : AgentStore
  /-- Oldest first. -/
  pages : List PageRead
  cursor : Option (Option DiscoveryId)

namespace WorkWalk

def start (store : AgentStore) : WorkWalk := ⟨store, [], some none⟩

variable (py : IntakePy) (version : String)

/-- The writes, and then the page at the cursor. -/
def step (w : WorkWalk) (r : ReadStep) : WorkWalk :=
  let store := run (AgentStore.write py) w.store r.writes
  match w.cursor with
  | none => { w with store := store }
  | some after =>
    match readDiscoveries store r.limit after (some version) true with
    | .error _ => { w with store := store }
    | .ok response =>
      { store := store
        pages := w.pages ++ [⟨store, after, response.items.map (·.discoveryId),
          response.nextCursor⟩]
        cursor := response.nextCursor.map some }

/-- The ids that were listed, in the order of the pages. -/
def visited (w : WorkWalk) : List DiscoveryId := w.pages.flatMap (·.items)

end WorkWalk

/-- The page on whose stretch of ids a discovery lies. -/
def PageRead.Covers (page : PageRead) (id : DiscoveryId) : Prop :=
  Before page.after id ∧ ∀ k ∈ page.next, id ≤ k

/-! ## One page -/

section

variable {py : IntakePy} {version : String} {store : AgentStore} {w : WorkWalk} {r : ReadStep}

/-- A discovery that is stored stays stored. -/
lemma AgentStore.write_discovery (py : IntakePy) (store : AgentStore) (op : AgentWrite)
    {id : DiscoveryId} (h : (store.discovery id).isSome) :
    ((store.write py op).discovery id).isSome := by
  cases op with
  | recordRun payload runId now =>
    unfold AgentStore.write
    dsimp only
    split
    · next after hrecord =>
      unfold AgentStore.recordRun at hrecord
      split at hrecord
      · obtain rfl := Except.ok.inj hrecord
        exact h
      · split at hrecord
        · cases hrecord
        · obtain rfl := Except.ok.inj hrecord
          exact h
    · exact h
  | intake op =>
    obtain ⟨d, hd⟩ := Option.isSome_iff_exists.mp h
    obtain ⟨parent, hcontinues⟩ : ∃ parent, Continues parent store.toIntakeStore
        (intakeStep py store.toIntakeStore op) := ⟨_, intakeStep_continues store.toIntakeStore op⟩
    obtain ⟨d', hd', -⟩ := hcontinues.rows id d hd
    exact Option.isSome_iff_exists.mpr ⟨d', hd'⟩

lemma AgentStore.run_discovery (py : IntakePy) (writes : List AgentWrite) {store : AgentStore}
    {id : DiscoveryId} (h : (store.discovery id).isSome) :
    ((run (AgentStore.write py) store writes).discovery id).isSome := by
  induction writes generalizing store with
  | nil => exact h
  | cons op writes ih => exact ih (store.write_discovery py op h)

/-- A step of a walk that has ended reads nothing. -/
lemma WorkWalk.step_ended (h : w.cursor = none) :
    w.step py version r = { w with store := run (AgentStore.write py) w.store r.writes } := by
  simp only [WorkWalk.step, h]

/-- A step of a walk reads the page at its cursor. -/
lemma WorkWalk.step_page (hversion : version ≠ "") {after : Option DiscoveryId}
    (h : w.cursor = some after) :
    let store := run (AgentStore.write py) w.store r.writes
    let items := keysetPage r.limit after (store.unprocessed version)
    w.step py version r =
      { store := store
        pages := w.pages ++ [⟨store, after, items, nextKey r.limit items⟩]
        cursor := (nextKey r.limit items).map some } := by
  intro store items
  obtain ⟨response, hread, hitems, hnext⟩ := @AgentStore.readDiscoveries_ok store r.limit after
    version hversion
  simp only [WorkWalk.step, h]
  change (match readDiscoveries store r.limit after (some version) true with
    | .error _ => _
    | .ok response => _) = _
  rw [hread]
  dsimp only
  rw [hitems, hnext]

/-! ## The invariant -/

/-- What holds of the pages read so far, of a walk over these ids. -/
structure WorkWalk.Sound (version : String) (ids : DiscoveryId → Prop) (w : WorkWalk) :
    Prop where
  sorted : w.visited.Pairwise (· < ·)
  /-- What was visited lies up to the cursor. -/
  upTo : ∀ after, w.cursor = some after → ∀ id ∈ w.visited, ∃ k, after = some k ∧ id ≤ k
  unprocessed : ∀ page ∈ w.pages, ∀ id ∈ page.items,
    (page.store.discovery id).isSome ∧ page.store.isRun version id = false
  kept : ∀ id, ids id → (w.store.discovery id).isSome
  /-- What lies up to the cursor was on a page. -/
  covered : ∀ id, ids id → (∀ after, w.cursor = some after → ¬ Before after id) →
    ∃ page ∈ w.pages, page.Covers id ∧
      (id ∈ page.items ∨ page.store.isRun version id = true)

lemma WorkWalk.sound_start (version : String) (store : AgentStore) :
    (WorkWalk.start store).Sound version fun id => (store.discovery id).isSome where
  sorted := List.Pairwise.nil
  upTo := fun _ _ id hid => absurd hid List.not_mem_nil
  unprocessed := fun page hpage => absurd hpage List.not_mem_nil
  kept := fun id hid => hid
  covered := by
    intro id _ hbefore
    refine absurd ?_ (hbefore none rfl)
    rintro k ⟨⟩

/-- A step keeps the invariant. -/
theorem WorkWalk.Sound.step (hversion : version ≠ "") {ids : DiscoveryId → Prop}
    (h : w.Sound version ids) : (w.step py version r).Sound version ids := by
  cases hcursor : w.cursor with
  | none =>
    rw [WorkWalk.step_ended hcursor]
    refine ⟨h.sorted, ?_, h.unprocessed, ?_, h.covered⟩
    · intro after hafter
      rw [hcursor] at hafter
      cases hafter
    · exact fun id hid => AgentStore.run_discovery py r.writes (h.kept id hid)
  | some after =>
    have hstep := @WorkWalk.step_page py version w r hversion after hcursor
    dsimp only at hstep
    set store := run (AgentStore.write py) w.store r.writes with hstore
    set items := keysetPage r.limit after (store.unprocessed version) with hitems
    rw [hstep]
    have hsorted : items.Pairwise (· < ·) := pairwise_keysetPage AgentStore.pairwise_unprocessed
    have hkept : ∀ id, ids id → (store.discovery id).isSome :=
      fun id hid => AgentStore.run_discovery py r.writes (h.kept id hid)
    constructor
    case sorted =>
      rw [WorkWalk.visited, List.flatMap_append, List.flatMap_singleton, List.pairwise_append]
      refine ⟨h.sorted, hsorted, fun i hi j hj => ?_⟩
      obtain ⟨k, rfl, hik⟩ := h.upTo after hcursor i hi
      exact lt_of_le_of_lt hik ((mem_keysetPage hj).2 k rfl)
    case upTo =>
      intro next hnext id hid
      obtain ⟨k, hk, rfl⟩ := Option.map_eq_some_iff.mp hnext
      refine ⟨k, rfl, ?_⟩
      rw [WorkWalk.visited, List.flatMap_append, List.flatMap_singleton] at hid
      rcases List.mem_append.mp hid with hold | hnew
      · obtain ⟨k', rfl, hle⟩ := h.upTo after hcursor id hold
        exact hle.trans ((mem_keysetPage (nextKey_mem hk)).2 k' rfl).le
      · exact le_nextKey hsorted hk hnew
    case unprocessed =>
      intro page hpage id hid
      rcases List.mem_append.mp hpage with hold | hnew
      · exact h.unprocessed page hold id hid
      · obtain rfl := List.mem_singleton.mp hnew
        exact AgentStore.mem_unprocessed.mp (mem_keysetPage hid).1
    case kept => exact hkept
    case covered =>
      intro id hid hbefore
      by_cases hnow : Before after id
      · -- the discovery lies on this page
        have hle : ∀ k ∈ nextKey r.limit items, id ≤ k := by
          intro k hk
          have hnot := hbefore (some k) (by rw [Option.mem_def.mp hk]; rfl)
          by_contra hlt
          refine hnot ?_
          rintro j ⟨⟩
          exact lt_of_not_ge hlt
        refine ⟨_, List.mem_append_right _ (List.mem_singleton_self _), ⟨hnow, hle⟩, ?_⟩
        cases hrun : store.isRun version id with
        | true => exact .inr rfl
        | false =>
          exact .inl (mem_keysetPage_of_le AgentStore.pairwise_unprocessed r.one_le_limit
            (AgentStore.mem_unprocessed.mpr ⟨hkept id hid, hrun⟩) hnow hle)
      · obtain ⟨page, hpage, hcovers⟩ := h.covered id hid fun a ha => by
          rw [hcursor] at ha
          obtain rfl := Option.some.inj ha
          exact hnow
        exact ⟨page, List.mem_append_left _ hpage, hcovers⟩

/-! ## The end -/

/-- The ids that lie before a walk. -/
def WorkWalk.ahead (w : WorkWalk) : List DiscoveryId :=
  match w.cursor with
  | none => []
  | some after => w.store.ids.filter (Before after ·)

/-- Without insertions, a page that is not the last one leaves fewer ids ahead. -/
theorem WorkWalk.ahead_step (hversion : version ≠ "")
    (hsame : (run (AgentStore.write py) w.store r.writes).ids = w.store.ids)
    (hcursor : (w.step py version r).cursor ≠ none) :
    (w.step py version r).ahead.length < w.ahead.length := by
  cases hw : w.cursor with
  | none =>
    rw [WorkWalk.step_ended hw] at hcursor
    exact absurd hw hcursor
  | some after =>
    have hstep := @WorkWalk.step_page py version w r hversion after hw
    dsimp only at hstep
    set store := run (AgentStore.write py) w.store r.writes with hstore
    rw [hstep] at hcursor ⊢
    cases hnext : nextKey r.limit (keysetPage r.limit after (store.unprocessed version)) with
    | none =>
      rw [hnext] at hcursor
      exact absurd rfl hcursor
    | some k =>
      have hk := mem_keysetPage (nextKey_mem hnext)
      have hmem : k ∈ w.store.ids := by
        rw [← hsame, AgentStore.mem_ids]
        exact (AgentStore.mem_unprocessed.mp hk.1).1
      -- what lies above the next key lies above this one, but the next key itself does not
      have hsub : w.store.ids.filter (Before (some k) ·) =
          (w.store.ids.filter (Before after ·)).filter (Before (some k) ·) := by
        rw [List.filter_filter]
        refine List.filter_congr fun i _ => ?_
        rw [← Bool.decide_and, decide_eq_decide]
        refine ⟨fun hi => ⟨hi, fun j hj => (hk.2 j hj).trans (hi k rfl)⟩, fun hi => hi.1⟩
      have hnot : ¬ decide (Before (some k) k) = true := by
        intro h
        exact lt_irrefl k (of_decide_eq_true h k rfl)
      simp only [WorkWalk.ahead, hw, Option.map_some, hsame, hsub]
      exact List.length_filter_lt_length_iff_exists.mpr
        ⟨k, List.mem_filter.mpr ⟨hmem, decide_eq_true hk.2⟩, hnot⟩

lemma WorkWalk.run_ended (steps : List ReadStep) (h : w.cursor = none) :
    (run (WorkWalk.step py version) w steps).cursor = none := by
  induction steps generalizing w with
  | nil => exact h
  | cons r steps ih =>
    rw [run_cons, WorkWalk.step_ended h]
    exact ih h

/-- The ids that a step without insertions leaves ahead are among those stored. -/
lemma WorkWalk.ahead_le (w : WorkWalk) : w.ahead.length ≤ w.store.ids.length := by
  unfold WorkWalk.ahead
  split
  · exact Nat.zero_le _
  · exact List.length_filter_le _ _

variable (py version) in
/-- Nothing is inserted before the page of this step. -/
def InsertsNothing (w : WorkWalk) (r : ReadStep) : Prop :=
  (run (AgentStore.write py) w.store r.writes).ids = w.store.ids

/-- A walk ends once insertions stop. -/
theorem WorkWalk.ends (hversion : version ≠ "") {steps : List ReadStep}
    (hsame : EachStep (WorkWalk.step py version) (InsertsNothing py) w steps)
    (hlong : w.ahead.length < steps.length) :
    (run (WorkWalk.step py version) w steps).cursor = none := by
  induction steps generalizing w with
  | nil => exact absurd hlong (Nat.not_lt_zero _)
  | cons r steps ih =>
    by_cases hend : (w.step py version r).cursor = none
    · exact WorkWalk.run_ended steps hend
    · have hless := WorkWalk.ahead_step hversion hsame.1 hend
      rw [List.length_cons] at hlong
      exact ih hsame.2 (by omega)

end

/-! ## The result -/

/-- The Agent's work list is complete. -/
theorem work_list_complete (py : IntakePy) {version : String} (hversion : version ≠ "")
    (store : AgentStore) (steps : List ReadStep) :
    let w := run (WorkWalk.step py version) (WorkWalk.start store) steps
    w.visited.Nodup ∧
      (∀ page ∈ w.pages, ∀ id ∈ page.items, page.store.isRun version id = false) ∧
      (∀ id, (store.discovery id).isSome →
        (∀ after, w.cursor = some after → ¬ Before after id) →
          ∃ page ∈ w.pages, page.Covers id ∧
            (id ∈ page.items ∨ page.store.isRun version id = true)) ∧
      ∀ more, EachStep (WorkWalk.step py version) (InsertsNothing py) w more →
        w.store.ids.length < more.length →
          (run (WorkWalk.step py version) w more).cursor = none := by
  intro w
  have hsound : w.Sound version fun id => (store.discovery id).isSome :=
    run_invariant (I := fun w : WorkWalk => w.Sound version fun id => (store.discovery id).isSome)
      (A := fun _ => True) (C := fun _ _ => True) (fun _ _ _ h _ => h.step hversion)
      (fun _ _ => trivial) (WorkWalk.sound_start version store) (eachStep_true _ _ _)
  refine ⟨hsound.sorted.imp fun h => h.ne, ?_, hsound.covered, ?_⟩
  · exact fun page hpage id hid => (hsound.unprocessed page hpage id hid).2
  · exact fun more hsame hlong => WorkWalk.ends hversion hsame (w.ahead_le.trans_lt hlong)

/-! ## A walk over two discoveries -/

/-- One discovery was imported, and has no run. -/
def importedWork : AgentStore where
  toIntakeStore := Sample.importedPage
  runs := Table.empty

def reviewed : AgentRunRequest where
  discoveryId := 1
  workflowVersion := "v1"
  agentOutcome := "submitted"
  promptVersion := none
  model := none
  recommendation := none
  correlationId := none

/-- The page of the imported discovery; then its run, its candidates, and the page that lists the
new one. -/
def reviewSteps : List ReadStep := [
  ⟨[], 1, le_rfl, by decide⟩,
  ⟨[.recordRun reviewed 1 Sample.start,
    .intake (.submit (Sample.start + 2 * day) 1 Sample.candidateBatch)], 1, le_rfl, by decide⟩]

/-- Steps before which nothing is written. -/
def quietSteps : List ReadStep := List.replicate 3 ⟨[], 1, le_rfl, by decide⟩

/-- Both discoveries are listed once, and the walk ends. -/
theorem work_list_of_import :
    (run (WorkWalk.step Sample.intakePy "v1") (WorkWalk.start importedWork) reviewSteps).visited =
        [1, 2] ∧
      (run (WorkWalk.step Sample.intakePy "v1") (run (WorkWalk.step Sample.intakePy "v1")
        (WorkWalk.start importedWork) reviewSteps) quietSteps).cursor = none := by
  have hwalk := work_list_complete Sample.intakePy (by decide : "v1" ≠ "") importedWork reviewSteps
  exact ⟨by decide +kernel, hwalk.2.2.2 quietSteps ⟨rfl, rfl, rfl, trivial⟩ (by decide +kernel)⟩

end ScholarshipFinder
