import ScholarshipFinder.Intake.Lineages
import ScholarshipFinder.Sample.Intake

/-!
# The marks of duplicates

A run of the linker may mark its discovery as a duplicate of an earlier one, of another page and
with the same key, that is not marked; marks are never taken back.  So marks lead to smaller ids,
and from every discovery to one that is not marked.  They need not lead there directly: the one
that is pointed to may get marked later, when discoveries of one page are linked out of order.
-/

namespace ScholarshipFinder

open Lib IntakeStore

/-- Every mark points to a discovery that is not marked. -/
def Star (store : IntakeStore) : Prop :=
  ∀ id d original, store.discovery id = some d → d.duplicateOfDiscoveryId = some original →
    ∃ e, store.discovery original = some e ∧ e.duplicateOfDiscoveryId = none

/-- A discovery that some earlier one precedes has no duplicates when it is linked. -/
def MarksLeaf (store : IntakeStore) : IntakeOp → Prop
  | .link id _ => ∀ d, store.discovery id = some d → (∃ other, Precedes store id d other) →
    ∀ other e, store.discovery other = some e → e.duplicateOfDiscoveryId ≠ some id
  | _ => True

variable {py : IntakePy} {before after store : IntakeStore} {id : DiscoveryId}

/-! ## The star -/

/-- New discoveries are not marked. -/
lemma Appended.star {parent : Option DiscoveryId} (h : Appended parent before after)
    (hstar : Star before) : Star after := by
  intro id d original hrow horiginal
  cases hstored : before.discovery id with
  | none =>
    have hmark := (h.new id d hstored hrow).2.2
    rw [hmark] at horiginal
    cases horiginal
  | some d' =>
    obtain rfl := Option.some.inj ((h.rows id d' hstored).symm.trans hrow)
    obtain ⟨e, he, hmark⟩ := hstar id d' original hstored horiginal
    exact ⟨e, h.rows original e he, hmark⟩

/-- What a run of the linker makes of the marks. -/
structure Marked (id : DiscoveryId) (before after : IntakeStore) : Prop where
  others : ∀ other, other ≠ id → after.discovery other = before.discovery other
  row : ∀ d, before.discovery id = some d → ∃ d', after.discovery id = some d' ∧ SameOrigin d d' ∧
    d'.duplicateOfDiscoveryId = (before.originalOf id d).or d.duplicateOfDiscoveryId
  missing : before.discovery id = none → after.discovery id = none

lemma linkDiscovery_marked (py : IntakePy) (id : DiscoveryId) (answers : LinkAnswers)
    (store : IntakeStore) : Marked id store (store.linkDiscovery py id answers).2 := by
  obtain ⟨f, horigin, hrows, hmark⟩ := (linkDiscovery_linked py id answers store).rows
  refine ⟨fun other hne => ?_, fun d hrow => ⟨f d, ?_, horigin d, hmark d hrow⟩, fun hnone => ?_⟩
  · rw [hrows, if_neg hne]
  · rw [hrows, if_pos rfl, hrow]
    rfl
  · rw [hrows, if_pos rfl, hnone]
    rfl

/-- An unmarked discovery stays so, unless it is linked and has an original. -/
lemma Marked.unmarked (h : Marked id before after) {other : DiscoveryId} {e : Discovery}
    (he : before.discovery other = some e) (hmark : e.duplicateOfDiscoveryId = none)
    (horiginal : other = id → before.originalOf id e = none) :
    ∃ e', after.discovery other = some e' ∧ e'.duplicateOfDiscoveryId = none := by
  by_cases heq : other = id
  · subst heq
    obtain ⟨e', he', -, hmark'⟩ := h.row e he
    refine ⟨e', he', ?_⟩
    rw [hmark', horiginal rfl, hmark]
    rfl
  · exact ⟨e, (h.others other heq).trans he, hmark⟩

theorem Marked.star_iff (h : Marked id before after) (hstar : Star before) :
    Star after ↔ ∀ d, before.discovery id = some d → (∃ other, Precedes before id d other) →
      ∀ other e, before.discovery other = some e → e.duplicateOfDiscoveryId ≠ some id := by
  constructor
  · rintro hafter d hrow ⟨preceding, hprecedes⟩ other e he hduplicate
    obtain ⟨d', hrow', -, hmark⟩ := h.row d hrow
    cases horiginal : before.originalOf id d with
    | none => exact not_precedes_of_originalOf horiginal preceding hprecedes
    | some original =>
      rw [horiginal] at hmark
      -- The discovery is marked now, so nothing may point to it.
      have hne : other ≠ id := by
        rintro rfl
        obtain ⟨e', he', hunmarked⟩ := hstar other e other he hduplicate
        obtain rfl := Option.some.inj (he.symm.trans he')
        rw [hduplicate] at hunmarked
        cases hunmarked
      obtain ⟨e', he', hunmarked⟩ :=
        hafter other e id ((h.others other hne).trans he) hduplicate
      obtain rfl := Option.some.inj (hrow'.symm.trans he')
      rw [hmark] at hunmarked
      cases hunmarked
  · intro hleaf other e original he hduplicate
    by_cases hother : other = id
    · subst hother
      cases hrow : before.discovery other with
      | none =>
        rw [h.missing hrow] at he
        cases he
      | some d =>
        obtain ⟨d', hrow', -, hmark⟩ := h.row d hrow
        obtain rfl := Option.some.inj (hrow'.symm.trans he)
        rw [hmark] at hduplicate
        cases horiginal : before.originalOf other d with
        | some found =>
          rw [horiginal] at hduplicate
          obtain rfl := Option.some.inj hduplicate
          have hprecedes := originalOf_precedes horiginal
          obtain ⟨key, e, -, -, he, -, -, hunmarked⟩ := hprecedes.row
          exact h.unmarked he hunmarked fun heq => absurd heq hprecedes.earlier.ne
        | none =>
          rw [horiginal, Option.none_or] at hduplicate
          obtain ⟨e', he', hunmarked⟩ := hstar other d original hrow hduplicate
          refine h.unmarked he' hunmarked fun heq => ?_
          subst heq
          obtain rfl := Option.some.inj (hrow.symm.trans he')
          exact horiginal
    · rw [h.others other hother] at he
      obtain ⟨e', he', hunmarked⟩ := hstar other e original he hduplicate
      refine h.unmarked he' hunmarked fun heq => ?_
      subst heq
      cases horiginal : before.originalOf original e' with
      | none => rfl
      | some found =>
        exact absurd hduplicate (hleaf e' he' ⟨found, originalOf_precedes horiginal⟩ other e he)

lemma intakeStep_star_iff {op : IntakeOp} (hstar : Star store) :
    Star (intakeStep py store op) ↔ MarksLeaf store op := by
  cases op with
  | importFeed runId startedAt finishedAt batch =>
    refine iff_of_true ?_ trivial
    exact (importFeedRecords_appended runId startedAt finishedAt batch store).star hstar
  | submit startedAt parentId batch =>
    refine iff_of_true ?_ trivial
    unfold intakeStep
    dsimp only
    split
    · next h => exact (submitCandidates_appended h).star hstar
    · exact hstar
  | link id answers => exact (linkDiscovery_marked py id answers store).star_iff hstar

/-- Duplicates form a star in every state exactly if no discovery that has duplicates is linked
while another one precedes it. -/
theorem duplicates_star_iff (py : IntakePy) (store : IntakeStore) (ops : List IntakeOp)
    (hstart : Star store) :
    EachStep (intakeStep py) (fun s op => Star (intakeStep py s op)) store ops ↔
      EachStep (intakeStep py) MarksLeaf store ops :=
  eachStep_congr_of_invariant (I := Star) (A := fun _ => True)
    (fun _ _ _ hs => intakeStep_star_iff hs) (fun _ _ _ _ hafter => hafter) (fun _ _ => trivial)
    hstart

/-! ## Discoveries of one page, out of order -/

lemma noDuplicates_of_keys (h : store.discovered.discoveries.keys.all fun other =>
    (store.discovery other).all fun e => e.duplicateOfDiscoveryId ≠ some id)
    (other : DiscoveryId) (e : Discovery) (he : store.discovery other = some e) :
    e.duplicateOfDiscoveryId ≠ some id := by
  rw [List.all_eq_true] at h
  have hall := h other (by
    rw [store.discovered.discoveries.mem_keys]
    exact Option.isSome_iff_exists.mpr ⟨e, he⟩)
  rw [he] at hall
  exact of_decide_eq_true hall

lemma emptyIntake_star : Star Sample.emptyIntake := by
  intro id d original hrow
  cases hrow

/-- Three discoveries of one award: the first and the third on one page. -/
def importReported : IntakeOp :=
  .importFeed 1 Sample.start (Sample.start + minute) Sample.reportedBatch

/-- A run of the linker. -/
def linkOf (id : DiscoveryId) : IntakeOp := .link id (Sample.linkAnswers id)

open Sample in
/-- In the order of their ids the second points to the first, and the third to none. -/
theorem reported_star :
    EachStep (intakeStep intakePy) (fun s op => Star (intakeStep intakePy s op)) emptyIntake
      [importReported, linkOf 2, linkOf 3] := by
  refine (duplicates_star_iff intakePy emptyIntake [importReported, linkOf 2, linkOf 3]
    emptyIntake_star).mpr ⟨trivial, fun d _ _ => ?_, fun d _ _ => ?_, trivial⟩
  · exact noDuplicates_of_keys (by decide +kernel)
  · exact noDuplicates_of_keys (by decide +kernel)

open Sample in
/-- The third points to the second, which gets marked after it. -/
theorem reported_chain :
    Star emptyIntake ∧
      ¬ Star (run (intakeStep intakePy) emptyIntake [importReported, linkOf 3, linkOf 2]) := by
  refine ⟨emptyIntake_star, fun h => ?_⟩
  have hthird : ((run (intakeStep intakePy) emptyIntake
      [importReported, linkOf 3, linkOf 2]).discovery 3).map (·.duplicateOfDiscoveryId) =
        some (some 2) := by decide +kernel
  have hsecond : ((run (intakeStep intakePy) emptyIntake
      [importReported, linkOf 3, linkOf 2]).discovery 2).map (·.duplicateOfDiscoveryId) =
        some (some 1) := by decide +kernel
  obtain ⟨d, hrow, hmark⟩ := Option.map_eq_some_iff.mp hthird
  obtain ⟨e, he, hunmarked⟩ := h 3 d 2 hrow hmark
  rw [he, Option.map_some, hunmarked] at hsecond
  cases hsecond

end ScholarshipFinder
