import ScholarshipFinder.Linking.Duplicates

/-!
# What becomes of every discovery

A run of the linker that completes marks its discovery, links it to a scholarship or gives it a
review task, and neither of the three is taken back.  So once every discovery has been linked, one
that is not marked has a place, and from a marked one the marks lead to smaller ids and end at one
that has.
-/

namespace ScholarshipFinder

open Lib IntakeStore

/-- The discovery is linked to a scholarship, or a review task has existed for it. -/
def Placed (store : IntakeStore) (id : DiscoveryId) : Prop :=
  (∃ d, store.discovery id = some d ∧ d.canonicalScholarshipId.isSome) ∨
    ∃ taskId task, store.tasks.row taskId = some task ∧ task.discoveryId = some id

/-- Every mark names an earlier discovery with the key of the one that is marked. -/
def MarksEarlier (store : IntakeStore) : Prop :=
  ∀ id d original, store.discovery id = some d → d.duplicateOfDiscoveryId = some original →
    original < id ∧ ∃ e, store.discovery original = some e ∧
      e.normalizedIdentityKey = d.normalizedIdentityKey

/-- The earliest discovery of a key that is not empty is not marked. -/
def EarliestUnmarked (store : IntakeStore) : Prop :=
  ∀ id d key, store.discovery id = some d → d.normalizedIdentityKey = some key → key ≠ "" →
    (∀ other e, store.discovery other = some e → e.normalizedIdentityKey = some key →
      id ≤ other) → d.duplicateOfDiscoveryId = none

/-- `duplicate_of_discovery_id` -/
def PointsTo (store : IntakeStore) (id original : DiscoveryId) : Prop :=
  ∃ d, store.discovery id = some d ∧ d.duplicateOfDiscoveryId = some original

/-- Marks lead to smaller ids, and from every discovery to one that is unmarked and has a place. -/
structure NothingLost (store : IntakeStore) : Prop where
  decreasing : ∀ id original, PointsTo store id original → original < id
  placed : ∀ id, (store.discovery id).isSome → ∃ last d,
    Relation.ReflTransGen (PointsTo store) id last ∧ store.discovery last = some d ∧
      d.duplicateOfDiscoveryId = none ∧ Placed store last
  earliest : EarliestUnmarked store

/-- One run of the linker. -/
def linkRun (py : IntakePy) (store : IntakeStore) (run : DiscoveryId × LinkAnswers) :
    IntakeStore :=
  (store.linkDiscovery py run.1 run.2).2

/-- The run ends without an error. -/
def Completes (py : IntakePy) (store : IntakeStore) (run : DiscoveryId × LinkAnswers) : Prop :=
  (store.linkDiscovery py run.1 run.2).1.isOk = true

instance (py : IntakePy) (store : IntakeStore) (run : DiscoveryId × LinkAnswers) :
    Decidable (Completes py store run) :=
  inferInstanceAs (Decidable (_ = true))

variable {py : IntakePy} {before after store : IntakeStore} {id other : DiscoveryId}
  {result : Except PyErr LinkOutcome}

/-! ## Marks -/

lemma MarksEarlier.earliestUnmarked (h : MarksEarlier store) : EarliestUnmarked store := by
  intro id d key hrow hkey hne hfirst
  cases hmark : d.duplicateOfDiscoveryId with
  | none => rfl
  | some original =>
    obtain ⟨hlt, e, he, hsame⟩ := h id d original hrow hmark
    exact absurd hlt (hfirst original e he (hsame.trans hkey)).not_gt

/-- Every row after a run comes from one before it. -/
lemma Marked.comesFrom (h : Marked id before after) {d' : Discovery}
    (hrow' : after.discovery other = some d') : ∃ d, before.discovery other = some d ∧
      SameOrigin d d' ∧ (d'.duplicateOfDiscoveryId = d.duplicateOfDiscoveryId ∨
        ∃ original, d'.duplicateOfDiscoveryId = some original ∧
          Precedes before other d original) := by
  by_cases heq : other = id
  · subst heq
    cases hrow : before.discovery other with
    | none =>
      rw [h.missing hrow] at hrow'
      cases hrow'
    | some d =>
      obtain ⟨d'', hrow'', horigin, hmark⟩ := h.row d hrow
      obtain rfl := Option.some.inj (hrow''.symm.trans hrow')
      refine ⟨d, rfl, horigin, ?_⟩
      rw [hmark]
      cases horiginal : before.originalOf other d with
      | none => exact .inl rfl
      | some original => exact .inr ⟨original, rfl, originalOf_precedes horiginal⟩
  · rw [h.others other heq] at hrow'
    exact ⟨d', hrow', .refl d', .inl rfl⟩

lemma Marked.goesOn (h : Marked id before after) {d : Discovery}
    (hrow : before.discovery other = some d) :
    ∃ d', after.discovery other = some d' ∧ SameOrigin d d' := by
  by_cases heq : other = id
  · subst heq
    obtain ⟨d', hrow', horigin, -⟩ := h.row d hrow
    exact ⟨d', hrow', horigin⟩
  · exact ⟨d, (h.others other heq).trans hrow, .refl d⟩

lemma Marked.marksEarlier (h : Marked id before after) (hmarks : MarksEarlier before) :
    MarksEarlier after := by
  intro other d' original hrow' hmark'
  obtain ⟨d, hrow, horigin, hcases⟩ := h.comesFrom hrow'
  have hold : original < other ∧ ∃ e, before.discovery original = some e ∧
      e.normalizedIdentityKey = d.normalizedIdentityKey := by
    rcases hcases with hsame | ⟨found, hfound, hprecedes⟩
    · exact hmarks other d original hrow (hsame.symm.trans hmark')
    · obtain rfl := Option.some.inj (hfound.symm.trans hmark')
      obtain ⟨key, e, hkey, -, he, hkey', -⟩ := hprecedes.row
      exact ⟨hprecedes.earlier, e, he, hkey'.trans hkey.symm⟩
  obtain ⟨hlt, e, he, hkey⟩ := hold
  obtain ⟨e', he', horigin'⟩ := h.goesOn he
  exact ⟨hlt, e', he', by rw [horigin'.key, hkey, horigin.key]⟩

/-! ## Places -/

/-- A run that completes leaves its discovery marked or gives it a place. -/
theorem linked_placed {outcome : LinkOutcome} (h : Linked py id before (.ok outcome) after)
    {d : Discovery} (hrow : after.discovery id = some d)
    (hunmarked : d.duplicateOfDiscoveryId = none) : Placed after id := by
  generalize hresult : (Except.ok outcome : Except PyErr LinkOutcome) = result at h
  cases h with
  | missing | refused | interrupted => cases hresult
  | duplicate hbefore horiginal =>
    obtain rfl := Option.some.inj ((amend_discovery_self _ hbefore).symm.trans hrow)
    cases hunmarked
  | linked hbefore hnone hnamed =>
    exact .inl ⟨_, amend_discovery_self _ hbefore, rfl⟩
  | queued hbefore hnone hnamed hdecision hother htasked =>
    obtain ⟨taskId, task, htask, hid, -⟩ := htasked.live
    exact .inr ⟨taskId, task, htask, hid⟩

/-- A scholarship that a discovery is linked to is at most replaced by another. -/
lemma linked_canonical (h : Linked py id before result after) {d : Discovery}
    (hrow : before.discovery other = some d) (hcanonical : d.canonicalScholarshipId.isSome) :
    ∃ d', after.discovery other = some d' ∧ d'.canonicalScholarshipId.isSome := by
  have hwritten : ∀ {f : Discovery → Discovery} (hf : ∀ d, (f d).sourcePageId = d.sourcePageId),
      (f d).canonicalScholarshipId.isSome →
      ∃ d', (before.amend id f hf).discovery other = some d' ∧
        d'.canonicalScholarshipId.isSome := by
    intro f hf hsome
    rw [amend_discovery, hrow]
    split
    · exact ⟨f d, rfl, hsome⟩
    · exact ⟨d, rfl, hcanonical⟩
  cases h with
  | missing | refused => exact ⟨d, hrow, hcanonical⟩
  | duplicate | interrupted => exact hwritten _ hcanonical
  | linked => exact hwritten _ rfl
  | queued _ _ _ _ _ htasked =>
    rw [ReviewStore.discovery, htasked.discovered]
    exact hwritten _ hcanonical

lemma linked_placed_later (h : Linked py id before result after) (hplaced : Placed before other) :
    Placed after other := by
  rcases hplaced with ⟨d, hrow, hcanonical⟩ | ⟨taskId, task, htask, hid⟩
  · exact .inl (linked_canonical h hrow hcanonical)
  · exact .inr ⟨taskId, task, h.tasks htask, hid⟩

/-- The discovery has a place unless it is marked. -/
def PlacedUnlessMarked (store : IntakeStore) (id : DiscoveryId) : Prop :=
  ∀ d, store.discovery id = some d → d.duplicateOfDiscoveryId = none → Placed store id

lemma linkRun_placed {run : DiscoveryId × LinkAnswers} (hok : Completes py store run) :
    PlacedUnlessMarked (linkRun py store run) run.1 := by
  intro d hrow hunmarked
  have hlinked := linkDiscovery_linked py run.1 run.2 store
  rw [Completes] at hok
  cases hresult : (store.linkDiscovery py run.1 run.2).1 with
  | error e =>
    rw [hresult] at hok
    cases hok
  | ok outcome =>
    rw [hresult] at hlinked
    exact linked_placed hlinked hrow hunmarked

lemma PlacedUnlessMarked.step {run : DiscoveryId × LinkAnswers}
    (h : PlacedUnlessMarked store id) : PlacedUnlessMarked (linkRun py store run) id := by
  intro d' hrow' hunmarked'
  obtain ⟨d, hrow, -, hcases⟩ := (linkDiscovery_marked py run.1 run.2 store).comesFrom hrow'
  rcases hcases with hsame | ⟨original, hmark, -⟩
  · exact linked_placed_later (linkDiscovery_linked py run.1 run.2 store)
      (h d hrow (hsame.symm.trans hunmarked'))
  · rw [hmark] at hunmarked'
    cases hunmarked'

/-! ## Every run -/

/-- Every discovery that was linked in the run has a place or is marked. -/
lemma run_placed {runs : List (DiscoveryId × LinkAnswers)}
    (hok : EachStep (linkRun py) (Completes py) store runs) (hmem : id ∈ runs.map Prod.fst) :
    PlacedUnlessMarked (run (linkRun py) store runs) id := by
  induction runs generalizing store with
  | nil => cases hmem
  | cons r runs ih =>
    rw [run_cons]
    rw [List.map_cons, List.mem_cons] at hmem
    rcases hmem with rfl | hmem
    · exact run_invariant (I := fun s => PlacedUnlessMarked s r.1) (A := fun _ => True)
        (C := fun _ _ => True) (fun s i _ hs _ => hs.step) (fun _ _ => trivial)
        (linkRun_placed hok.1) (eachStep_true _ _ _)
    · exact ih hok.2 hmem

lemma run_marksEarlier {runs : List (DiscoveryId × LinkAnswers)} (hmarks : MarksEarlier store) :
    MarksEarlier (run (linkRun py) store runs) :=
  run_invariant (I := MarksEarlier) (A := fun _ => True) (C := fun _ _ => True)
    (fun s r _ hs _ => (linkDiscovery_marked py r.1 r.2 s).marksEarlier hs) (fun _ _ => trivial)
    hmarks (eachStep_true _ _ _)

/-- A run adds no discovery. -/
lemma run_discovery_isSome {runs : List (DiscoveryId × LinkAnswers)}
    (h : ((run (linkRun py) store runs).discovery id).isSome) : (store.discovery id).isSome := by
  induction runs generalizing store with
  | nil => exact h
  | cons r runs ih =>
    obtain ⟨d', hrow'⟩ := Option.isSome_iff_exists.mp (ih h)
    obtain ⟨d, hrow, -⟩ := (linkDiscovery_marked py r.1 r.2 store).comesFrom hrow'
    exact Option.isSome_iff_exists.mpr ⟨d, hrow⟩

/-- From every discovery the marks lead to one that is not marked. -/
lemma MarksEarlier.path (h : MarksEarlier store) {d : Discovery}
    (hrow : store.discovery id = some d) : ∃ last d', Relation.ReflTransGen (PointsTo store) id last ∧
      store.discovery last = some d' ∧ d'.duplicateOfDiscoveryId = none := by
  induction id using Nat.strong_induction_on generalizing d with
  | _ id ih =>
    cases hmark : d.duplicateOfDiscoveryId with
    | none => exact ⟨id, d, .refl, hrow, hmark⟩
    | some original =>
      obtain ⟨hlt, e, he, -⟩ := h id d original hrow hmark
      obtain ⟨last, d', hpath, hend⟩ := ih original hlt he
      exact ⟨last, d', .head ⟨d, hrow, hmark⟩ hpath, hend⟩

/-- No award falls out of the queue, in whatever order and how often the discoveries are linked. -/
theorem no_award_lost (py : IntakePy) (store : IntakeStore)
    (runs : List (DiscoveryId × LinkAnswers)) (hmarks : MarksEarlier store)
    (hok : EachStep (linkRun py) (Completes py) store runs)
    (hcover : ∀ id, (store.discovery id).isSome → id ∈ runs.map Prod.fst) :
    NothingLost (run (linkRun py) store runs) ∧
      EachStep (linkRun py) (fun s r => EarliestUnmarked (linkRun py s r)) store runs := by
  have hafter := @run_marksEarlier py store runs hmarks
  refine ⟨⟨?_, ?_, hafter.earliestUnmarked⟩, ?_⟩
  · rintro id original ⟨d, hrow, hmark⟩
    exact (hafter id d original hrow hmark).1
  · intro id hid
    obtain ⟨d, hrow⟩ := Option.isSome_iff_exists.mp hid
    obtain ⟨last, d', hpath, hlast, hunmarked⟩ := hafter.path hrow
    have hstored := run_discovery_isSome (Option.isSome_iff_exists.mpr ⟨d', hlast⟩)
    exact ⟨last, d', hpath, hlast, hunmarked,
      run_placed hok (hcover last hstored) d' hlast hunmarked⟩
  · refine EachStep.imp_of_invariant (I := MarksEarlier) (C := fun _ _ => True)
      (fun s r hs _ => (linkDiscovery_marked py r.1 r.2 s).marksEarlier hs) (fun s r hs _ => ?_)
      hmarks (eachStep_true _ _ _)
    exact ((linkDiscovery_marked py r.1 r.2 s).marksEarlier hs).earliestUnmarked

/-- Three discoveries of one award, none of which is linked. -/
def reportedIntake : IntakeStore := intakeStep Sample.intakePy Sample.emptyIntake importReported

/-- The third before the first and the second, and again at the end. -/
def reportedRuns : List (DiscoveryId × LinkAnswers) :=
  [3, 1, 2, 3].map fun id => (id, Sample.linkAnswers id)

lemma reportedIntake_keys : reportedIntake.discovered.discoveries.keys = [1, 2, 3] := by
  decide +kernel

lemma reportedIntake_unmarked : reportedIntake.discovered.discoveries.keys.all (fun id =>
    (reportedIntake.discovery id).all fun d => d.duplicateOfDiscoveryId = none) = true := by
  decide +kernel

lemma mem_reportedIntake {id : DiscoveryId} (h : (reportedIntake.discovery id).isSome) :
    id ∈ [1, 2, 3] := by
  rw [← reportedIntake_keys, reportedIntake.discovered.discoveries.mem_keys]
  exact h

open Sample in
/-- All three discoveries have a place then, or are marked. -/
theorem reportedRuns_kept :
    NothingLost (run (linkRun intakePy) reportedIntake reportedRuns) ∧
      EachStep (linkRun intakePy) (fun s r => EarliestUnmarked (linkRun intakePy s r))
        reportedIntake reportedRuns := by
  refine no_award_lost intakePy reportedIntake reportedRuns ?_ (by decide +kernel) ?_
  · intro id d original hrow hmark
    have hsome : (reportedIntake.discovery id).isSome := Option.isSome_iff_exists.mpr ⟨d, hrow⟩
    have hall := List.all_eq_true.mp reportedIntake_unmarked id (by
      rw [reportedIntake_keys]
      exact mem_reportedIntake hsome)
    rw [hrow, Option.all_some, decide_eq_true_eq, hmark] at hall
    cases hall
  · intro id hsome
    have hmem := mem_reportedIntake hsome
    simp only [List.mem_cons, List.not_mem_nil, or_false] at hmem
    rcases hmem with rfl | rfl | rfl <;> decide

end ScholarshipFinder
