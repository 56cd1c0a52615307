import ScholarshipFinder.Platform.Steps
import ScholarshipFinder.Sample.Intake

/-!
# The integrity of the database

What holds of the tables together, in every state that the platform reaches.  The catalogue is
consistent: a scholarship has a slug of its own and a provider, a cycle has a key of its own and a
scholarship that a reviewer or an attempt has published, and a published scholarship has a cycle.
Every reference leads to a row, and no discovery has two open tasks.

A transaction of an attempt or of a sweep reads copies that are out of date; what it writes of them
does not break the integrity either.
-/

namespace ScholarshipFinder

open Lib

/-- The scholarships and their cycles are consistent. -/
structure CatalogueIntegrity (store : ReviewStore) : Prop where
  shells : ∀ id, (store.shells.row id).isSome = (store.discovered.db.scholarships.row id).isSome
  providers : ∀ id shell, store.shells.row id = some shell →
    (store.providers.row shell.providerId).isSome
  slugs : ∀ id id' shell shell', store.shells.row id = some shell →
    store.shells.row id' = some shell' → shell.slug = shell'.slug → id = id'
  cycles : ∀ c row, store.discovered.db.cycles.row c = some row →
    ∃ s, store.discovered.db.scholarships.row row.scholarshipId = some s ∧
      s.lifecycleState ≠ .needsReview
  identities : ∀ c c' identity, store.discovered.db.identityOf c = some identity →
    store.discovered.db.identityOf c' = some identity → c = c'
  published : ∀ id s, store.discovered.db.scholarships.row id = some s →
    s.lifecycleState = .published →
      ∃ c row, store.discovered.db.cycles.row c = some row ∧ row.scholarshipId = id
  autoApproved : ∀ c ∈ store.autoApproved, (store.discovered.db.cycles.row c).isSome

/-- What discoveries and tasks refer to is there. -/
structure ReferenceIntegrity (store : ReviewStore) : Prop where
  canonical : ∀ id d scholarshipId, store.discovery id = some d →
    d.canonicalScholarshipId = some scholarshipId → (store.shells.row scholarshipId).isSome
  lineage : ∀ id d other, store.discovery id = some d → other ∈ d.lineage →
    (store.discovery other).isSome
  tasks : ∀ taskId task id, store.tasks.row taskId = some task → task.discoveryId = some id →
    (store.discovery id).isSome

/-- The integrity of the database. -/
structure Integrity (store : PlatformStore) : Prop where
  catalogue : CatalogueIntegrity store.toReviewStore
  references : ReferenceIntegrity store.toReviewStore
  openOnce : OpenOnce store.toReviewStore
  evidence : ∀ key, (store.evidence.row key).isSome → (store.discovery key.discoveryId).isSome
  runs : ∀ runId run, store.runs.row runId = some run → (store.discovery run.discoveryId).isSome

/-! ## What the writes keep -/

section

variable {before after : ReviewStore} {creation : Option Creation}
  {publication : Option Publication} {prepared : Option TaskId}

lemma isSome_cycle_iff {db : Db} {c : CycleId} :
    (db.cycles.row c).isSome ↔ ∃ identity, db.identityOf c = some identity := by
  rw [Db.identityOf, ← Option.isSome_iff_exists, Option.isSome_map]

/-- The scholarship of a cycle is read off its identity. -/
lemma cycle_of_identityOf {db : Db} {c : CycleId} {identity : ScholarshipId × String × String}
    (h : db.identityOf c = some identity) :
    ∃ row, db.cycles.row c = some row ∧ row.scholarshipId = identity.1 := by
  obtain ⟨row, hrow, rfl⟩ := Option.map_eq_some_iff.mp h
  exact ⟨row, hrow, rfl⟩

/-- Where the cycles have the same identities, what depends on these is the same. -/
lemma CatalogueIntegrity.of_identities (h : CatalogueIntegrity before)
    (hshells : after.shells = before.shells)
    (hproviders : ∀ id, (before.providers.row id).isSome → (after.providers.row id).isSome)
    (hidentities : ∀ c, after.discovered.db.identityOf c = before.discovered.db.identityOf c)
    (hsame : ∀ id, (after.discovered.db.scholarships.row id).isSome =
      (before.discovered.db.scholarships.row id).isSome)
    (hreviewed : ∀ id s, before.discovered.db.scholarships.row id = some s →
      s.lifecycleState ≠ .needsReview →
        ∃ s', after.discovered.db.scholarships.row id = some s' ∧ s'.lifecycleState ≠ .needsReview)
    (hpublished : ∀ id s, after.discovered.db.scholarships.row id = some s →
      s.lifecycleState = .published → before.discovered.db.scholarships.row id = some s)
    (hauto : after.autoApproved = before.autoApproved) : CatalogueIntegrity after where
  shells := fun id => by rw [hshells, hsame, h.shells]
  providers := fun id shell hrow => hproviders _ (h.providers id shell (by rwa [← hshells]))
  slugs := by
    rw [hshells]
    exact h.slugs
  cycles := by
    intro c row hrow
    have hidentity : before.discovered.db.identityOf c = some row.identity := by
      rw [← hidentities, Db.identityOf, hrow]
      rfl
    obtain ⟨stored, hstored, hid⟩ := cycle_of_identityOf hidentity
    obtain ⟨s, hs, hstate⟩ := h.cycles c stored hstored
    rw [hid] at hs
    exact hreviewed _ s hs hstate
  identities := by
    intro c c' identity hc hc'
    rw [hidentities] at hc hc'
    exact h.identities c c' identity hc hc'
  published := by
    intro id s hs hstate
    obtain ⟨c, row, hrow, rfl⟩ := h.published id s (hpublished id s hs hstate) hstate
    have hidentity : after.discovered.db.identityOf c = some row.identity := by
      rw [hidentities, Db.identityOf, hrow]
      rfl
    obtain ⟨stored, hstored, hid⟩ := cycle_of_identityOf hidentity
    exact ⟨c, stored, hstored, hid⟩
  autoApproved := by
    intro c hc
    rw [hauto] at hc
    obtain ⟨identity, hidentity⟩ := isSome_cycle_iff.mp (h.autoApproved c hc)
    exact isSome_cycle_iff.mpr ⟨identity, by rw [hidentities, hidentity]⟩

lemma CatalogueIntegrity.created (h : CatalogueIntegrity before) {id : ScholarshipId}
    {shell : ScholarshipShell} (hfree : before.shells.row id = none)
    (hslug : ∀ other shell', before.shells.row other = some shell' → shell'.slug ≠ shell.slug)
    (hprovider : (before.providers.row shell.providerId).isSome)
    (hshells : after.shells = before.shells.insert id shell)
    (hscholarships : after.discovered.db.scholarships =
      before.discovered.db.scholarships.insert id ⟨.needsReview⟩)
    (hcycles : after.discovered.db.cycles = before.discovered.db.cycles)
    (hproviders : after.providers = before.providers)
    (hauto : after.autoApproved = before.autoApproved) : CatalogueIntegrity after := by
  have hnone : before.discovered.db.scholarships.row id = none := by
    have hshell := h.shells id
    rw [hfree] at hshell
    exact Option.isNone_iff_eq_none.mp (by rw [← Option.not_isSome, ← hshell]; rfl)
  have hkept : ∀ {other s}, before.discovered.db.scholarships.row other = some s →
      after.discovered.db.scholarships.row other = some s := by
    intro other s hs
    rw [hscholarships, Table.row_insert_of_some hnone hs]
  constructor
  · intro other
    rw [hshells, hscholarships, Table.row_insert, Table.row_insert]
    split
    · rfl
    · exact h.shells other
  · intro other shell' hrow
    rw [hshells, Table.row_insert] at hrow
    rw [hproviders]
    split at hrow
    · obtain rfl := Option.some.inj hrow
      exact hprovider
    · exact h.providers other shell' hrow
  · intro a b shellA shellB ha hb hsame
    rw [hshells, Table.row_insert] at ha hb
    split at ha
    · next heq =>
      obtain rfl := Option.some.inj ha
      split at hb
      · next heq' => exact heq.trans heq'.symm
      · exact absurd hsame.symm (hslug b shellB hb)
    · split at hb
      · obtain rfl := Option.some.inj hb
        exact absurd hsame (hslug a shellA ha)
      · exact h.slugs a b shellA shellB ha hb hsame
  · intro c row hrow
    rw [hcycles] at hrow
    obtain ⟨s, hs, hstate⟩ := h.cycles c row hrow
    exact ⟨s, hkept hs, hstate⟩
  · intro c c' identity hc hc'
    rw [Db.identityOf, hcycles] at hc hc'
    exact h.identities c c' identity hc hc'
  · intro other s hs hstate
    rw [hscholarships, Table.row_insert] at hs
    split at hs
    · obtain rfl := Option.some.inj hs
      cases hstate
    · rw [hcycles]
      exact h.published other s hs hstate
  · rw [hauto, hcycles]
    exact h.autoApproved

lemma CatalogueIntegrity.publish (h : CatalogueIntegrity before) {c : CycleId}
    {row : ScholarshipCycle} {added : List CycleId}
    (hfree : before.discovered.db.cycles.row c = none)
    (hidentity : ∀ other, before.discovered.db.identityOf other ≠ some row.identity)
    (hexists : (before.discovered.db.scholarships.row row.scholarshipId).isSome)
    (hshells : after.shells = before.shells)
    (hscholarships : after.discovered.db.scholarships =
      before.discovered.db.scholarships.modify row.scholarshipId fun s =>
        { s with lifecycleState := .published })
    (hcycles : after.discovered.db.cycles = before.discovered.db.cycles.insert c row)
    (hproviders : after.providers = before.providers) (hadded : added ⊆ [c])
    (hauto : after.autoApproved = before.autoApproved ++ added) : CatalogueIntegrity after := by
  have hrow : ∀ other, after.discovered.db.cycles.row other =
      if other = c then some row else before.discovered.db.cycles.row other := by
    intro other
    rw [hcycles, Table.row_insert]
  have hof : ∀ other, after.discovered.db.identityOf other =
      if other = c then some row.identity else before.discovered.db.identityOf other := by
    intro other
    rw [Db.identityOf, hrow]
    split <;> rfl
  have hstate : ∀ id s, before.discovered.db.scholarships.row id = some s →
      ∃ s', after.discovered.db.scholarships.row id = some s' ∧
        (s.lifecycleState ≠ .needsReview ∨ id = row.scholarshipId →
          s'.lifecycleState ≠ .needsReview) := by
    intro id s hs
    rw [hscholarships, Table.row_modify, hs]
    split
    · exact ⟨_, rfl, fun _ h => by cases h⟩
    · next hne => exact ⟨s, rfl, fun hor => hor.resolve_right hne⟩
  constructor
  · intro id
    rw [hshells, hscholarships, Table.isSome_row_modify, h.shells]
  · rw [hshells, hproviders]
    exact h.providers
  · rw [hshells]
    exact h.slugs
  · intro other stored hstored
    rw [hrow] at hstored
    split at hstored
    · obtain rfl := Option.some.inj hstored
      obtain ⟨s, hs⟩ := Option.isSome_iff_exists.mp hexists
      obtain ⟨s', hs', hpublished⟩ := hstate _ s hs
      exact ⟨s', hs', hpublished (.inr rfl)⟩
    · obtain ⟨s, hs, hreviewed⟩ := h.cycles other stored hstored
      obtain ⟨s', hs', hpublished⟩ := hstate _ s hs
      exact ⟨s', hs', hpublished (.inl hreviewed)⟩
  · intro a b identity ha hb
    rw [hof] at ha hb
    split at ha
    · next heq =>
      obtain rfl := Option.some.inj ha
      split at hb
      · next heq' => exact heq.trans heq'.symm
      · exact absurd hb (hidentity b)
    · split at hb
      · obtain rfl := Option.some.inj hb
        exact absurd ha (hidentity a)
      · exact h.identities a b identity ha hb
  · intro id s hs hpublished
    by_cases hid : id = row.scholarshipId
    · exact ⟨c, row, by rw [hrow, if_pos rfl], hid.symm⟩
    · rw [hscholarships, Table.row_modify_of_ne _ hid] at hs
      obtain ⟨other, stored, hstored, howner⟩ := h.published id s hs hpublished
      refine ⟨other, stored, ?_, howner⟩
      rw [hrow, if_neg (by rintro rfl; rw [hfree] at hstored; cases hstored), hstored]
  · intro other hother
    rw [hauto, List.mem_append] at hother
    rw [hrow]
    split
    · rfl
    · next hne =>
      rcases hother with hold | hnew
      · exact h.autoApproved other hold
      · exact absurd (List.mem_singleton.mp (hadded hnew)) hne

/-- No move breaks the catalogue. -/
theorem CatalogueMove.integrity (hmove : CatalogueMove before after creation publication)
    (h : CatalogueIntegrity before) : CatalogueIntegrity after := by
  cases hmove with
  | kept hshells hcatalogue hproviders hauto =>
    have hsame := hcatalogue.scholarships
    refine h.of_identities hshells hproviders hcatalogue.identities (fun id => by rw [hsame])
      (fun id s hs hstate => ⟨s, by rw [hsame, hs], hstate⟩) (fun id s hs _ => by rwa [← hsame])
      hauto
  | created creation shell hfree hslug hprovider hshells hscholarships hcycles hproviders hauto =>
    exact h.created hfree hslug hprovider hshells hscholarships hcycles hproviders hauto
  | published publication row hid hfree hidentity hlive hshells hscholarships hcycles hproviders
      hauto =>
    obtain ⟨s, hs, -⟩ := hlive
    refine h.publish hfree hidentity (by rw [hs]; rfl) hshells hscholarships hcycles hproviders ?_
      hauto
    split
    · exact List.Subset.refl _
    · exact List.nil_subset _
  | corrected c row row' hrow howner hidentity hshells hscholarships hkeys hcycles hproviders
      hauto =>
    have hof : ∀ other, after.discovered.db.identityOf other =
        if other = c then some row'.identity else before.discovered.db.identityOf other := by
      intro other
      rw [Db.identityOf, hcycles]
      split <;> rfl
    have hown : before.discovered.db.identityOf c = some row.identity := by
      rw [Db.identityOf, hrow]
      rfl
    -- the new identity is that of no other cycle
    have hapart : ∀ other, other ≠ c →
        before.discovered.db.identityOf other ≠ some row'.identity := by
      rcases hidentity with hsame | hfree
      · intro other hother htaken
        rw [hsame] at htaken
        exact hother (h.identities other c _ htaken hown)
      · exact hfree
    constructor
    · rw [hshells, hscholarships]
      exact h.shells
    · rw [hshells, hproviders]
      exact h.providers
    · rw [hshells]
      exact h.slugs
    · intro other stored hstored
      rw [hcycles] at hstored
      rw [hscholarships]
      split at hstored
      · obtain rfl := Option.some.inj hstored
        rw [howner]
        exact h.cycles c row hrow
      · exact h.cycles other stored hstored
    · intro a b identity ha hb
      rw [hof] at ha hb
      split at ha
      · next heq =>
        obtain rfl := Option.some.inj ha
        split at hb
        · next heq' => exact heq.trans heq'.symm
        · next hne => exact absurd hb (hapart b hne)
      · next hne =>
        split at hb
        · obtain rfl := Option.some.inj hb
          exact absurd ha (hapart a hne)
        · exact h.identities a b identity ha hb
    · intro id s hs hstate
      rw [hscholarships] at hs
      obtain ⟨other, stored, hstored, rfl⟩ := h.published id s hs hstate
      by_cases hother : other = c
      · subst hother
        obtain rfl := Option.some.inj (hrow.symm.trans hstored)
        exact ⟨other, row', by rw [hcycles, if_pos rfl], howner⟩
      · exact ⟨other, stored, by rw [hcycles, if_neg hother, hstored], rfl⟩
    · intro other hother
      rw [hauto] at hother
      rw [hcycles]
      split
      · rfl
      · exact h.autoApproved other hother
  | withdrawn id hshells hscholarships hkeys hidentities hproviders hauto =>
    refine h.of_identities hshells (fun _ hid => by rwa [hproviders]) hidentities (fun other => ?_)
      (fun other s hs hstate => ?_) (fun other s hs hstate => ?_) hauto
    · rw [hscholarships, Table.isSome_row_modify]
    · rw [hscholarships, Table.row_modify, hs]
      split
      · exact ⟨_, rfl, fun h => by cases h⟩
      · exact ⟨s, rfl, hstate⟩
    · rw [hscholarships, Table.row_modify] at hs
      split at hs
      · obtain ⟨stored, -, rfl⟩ := Option.map_eq_some_iff.mp hs
        cases hstate
      · exact hs

lemma RefersOn.integrity (hrefers : RefersOn before after) (h : ReferenceIntegrity before) :
    ReferenceIntegrity after where
  canonical := by
    intro id d scholarshipId hrow hid
    rcases hrefers.canonical id d scholarshipId hrow hid with ⟨old, hold, hid'⟩ | hthere
    · exact hrefers.shells _ (h.canonical id old scholarshipId hold hid')
    · exact hthere
  lineage := by
    intro id d other hrow hmem
    rcases hrefers.lineage id d other hrow hmem with ⟨old, hold, hmem'⟩ | hthere
    · exact hrefers.discoveries _ (h.lineage id old other hold hmem')
    · exact hthere
  tasks := by
    intro taskId task id hrow hid
    rcases hrefers.tasks taskId task id hrow hid with ⟨old, hold, hid'⟩ | hthere
    · exact hrefers.discoveries _ (h.tasks taskId old id hold hid')
    · exact hthere

/-- A new task is the only open one of its discovery. -/
lemma TasksOn.openOnce (htasks : TasksOn before after prepared) (h : OpenOnce before) :
    OpenOnce after := by
  obtain ⟨new, hopened⟩ := htasks.opened
  -- an open task of the discovery of the new one would have been open before
  have hclash : ∀ {id : DiscoveryId} {taskId task},
      (∀ other old, before.tasks.row other = some old → old.discoveryId = some id →
        old.live = false) →
      before.tasks.row taskId = some task → task.state = .opened → task.discoveryId ≠ some id := by
    intro id taskId task hlive hrow hstate hid
    have hdead := hlive taskId task hrow hid
    rw [DiscoveryTask.live, decide_eq_false_iff_not] at hdead
    exact hdead ⟨hstate, h.unresolved taskId task hrow hstate⟩
  constructor
  · intro taskId task hrow hstate
    rcases hopened taskId task hrow hstate with ⟨old, hold, hstate', -, hsame⟩ | ⟨-, hnone, -⟩
    · rw [← hsame]
      exact h.unresolved taskId old hold hstate'
    · exact hnone
  · intro a b taskA taskB id hrowA hrowB hidA hidB hstateA hstateB
    rcases hopened a taskA hrowA hstateA with
      ⟨oldA, holdA, hstateA', hsameA, -⟩ | ⟨hnewA, -, idA, hidA', hliveA⟩
    · rcases hopened b taskB hrowB hstateB with
        ⟨oldB, holdB, hstateB', hsameB, -⟩ | ⟨hnewB, -, idB, hidB', hliveB⟩
      · exact h.single a b oldA oldB id holdA holdB (hsameA.trans hidA) (hsameB.trans hidB) hstateA'
          hstateB'
      · obtain rfl := Option.some.inj (hidB'.symm.trans hidB)
        exact absurd (hsameA.trans hidA) (hclash hliveB holdA hstateA')
    · rcases hopened b taskB hrowB hstateB with
        ⟨oldB, holdB, hstateB', hsameB, -⟩ | ⟨hnewB, -, -⟩
      · obtain rfl := Option.some.inj (hidA'.symm.trans hidA)
        exact absurd (hsameB.trans hidB) (hclash hliveA holdB hstateB')
      · exact Option.some.inj (hnewA.symm.trans hnewB)

end

/-! ## Every run -/

section

variable {cfg : PlatformConfig} {p : Platform}

/-- A run that is recorded is one of a stored discovery. -/
lemma recordRun_refers {store after : AgentStore} {payload : AgentRunRequest} {newId : RunId}
    {now : Instant}
    (h : ∀ runId run, store.runs.row runId = some run → (store.discovery run.discoveryId).isSome)
    (hrecord : store.recordRun payload newId now = .ok after) (runId : RunId) (run : AgentRun)
    (hrun : after.runs.row runId = some run) : (store.discovery run.discoveryId).isSome := by
  unfold AgentStore.recordRun at hrecord
  split at hrecord
  · cases hrecord
    rw [Table.row_modify] at hrun
    split at hrun
    · obtain ⟨stored, hstored, rfl⟩ := Option.map_eq_some_iff.mp hrun
      exact h runId stored hstored
    · exact h runId run hrun
  · split at hrecord
    · cases hrecord
    · next hrefused =>
      cases hrecord
      rw [Table.row_insert] at hrun
      split at hrun
      · obtain rfl := Option.some.inj hrun
        exact Option.isSome_iff_ne_none.mpr (not_or.mp hrefused).1
      · exact h runId run hrun

theorem platformStep_integrity (h : Integrity p.shared) (step : PlatformStep) :
    Integrity (platformStep cfg p step).shared := by
  have hwrites := @platformStep_writes cfg p step
  have hkeeps := hwrites.refers.discoveries
  refine ⟨hwrites.catalogue.integrity h.catalogue, hwrites.refers.integrity h.references,
    hwrites.tasks.openOnce h.openOnce, fun key hkey => ?_, fun runId run hrun => ?_⟩
  · rcases platformStep_evidence p step with heq | ⟨discoveryId, payload, counts, rfl, hattach⟩
    · rw [heq] at hkey
      exact hkeeps _ (h.evidence key hkey)
    · obtain ⟨hcontext, -, hrows, -⟩ := attachEvidence_ok_iff.mp hattach
      obtain ⟨row, hrow⟩ := Option.isSome_iff_exists.mp hkey
      rw [← hrows] at hrow
      rcases Table.row_foldl_addNew_cases hrow with hold | ⟨-, hmem⟩
      · exact hkeeps _ (h.evidence key (by rw [hold]; rfl))
      · obtain ⟨item, -, heq⟩ := List.mem_map.mp hmem
        obtain rfl := congrArg Prod.fst heq
        obtain ⟨context, hcontext⟩ := Option.isSome_iff_exists.mp hcontext
        obtain ⟨-, hrow, -⟩ := loadDiscoveryContext_eq_some.mp hcontext
        refine hkeeps _ ?_
        show (p.shared.discovery discoveryId).isSome
        rw [hrow]
        rfl
  · rcases platformStep_runs p step with ⟨-, heq⟩ | ⟨payload, runId', now, after, rfl, hrecord, heq⟩
    · rw [heq] at hrun
      exact hkeeps _ (h.runs runId run hrun)
    · rw [heq] at hrun
      exact hkeeps _ (recordRun_refers h.runs hrecord runId run hrun)

/-- Every operation keeps the integrity of the database, however requests, jobs, attempts and sweeps
are interleaved. -/
theorem platform_integrity (cfg : PlatformConfig) (p : Platform) (steps : List PlatformStep)
    (h : Integrity p.shared) : Integrity (run (platformStep cfg) p steps).shared :=
  run_invariant (I := fun q : Platform => Integrity q.shared) (A := fun _ => True)
    (C := fun _ _ => True) (fun _ step _ hs _ => platformStep_integrity hs step)
    (fun _ _ => trivial) h (eachStep_true _ _ _)

end

namespace Sample

/-- Python and the settings; every column takes what it is given. -/
def platformConfig : PlatformConfig where
  py := intakePy
  settings := {}
  approval := {}
  countryColumns := ⟨fun _ => true, fun _ => true⟩
  evidenceColumns := fun _ => true

/-- The award and its report, with a task that nobody has prepared. -/
def platformStore : PlatformStore where
  discovered := { approvalStore.discovered with
    db := { approvalStore.discovered.db with scholarships := Table.empty } }
  authorityGrade := approvalStore.authorityGrade
  tasks := Table.empty.insert 1 { awardTask with draftRecommendation := none }
  providers := approvalStore.providers
  shells := Table.empty
  verifications := []
  autoApproved := []
  jobs := Table.empty
  crawlRuns := Table.empty
  quarantine := []
  runs := Table.empty
  evidence := Table.empty
  countries := Table.empty

def platform : Platform := ⟨platformStore, fun _ => ⟨.idle, Session.fresh⟩⟩

/-- The first worker takes its next transaction. -/
def attemptOf (step : AttemptStep) : PlatformStep := .attempt 0 step approvalAnswers

/-- The task is prepared, and an attempt approves it. -/
def approvalRun : List PlatformStep :=
  [.prepare 1, attemptOf (.start 1), attemptOf .verify, attemptOf .decide, attemptOf .publish]

lemma discovery_platformStore {id : DiscoveryId} {d : Discovery}
    (h : platformStore.discovery id = some d) : d = award ∨ d = echo := by
  simp only [ReviewStore.discovery, platformStore, approvalStore, Table.insert, Table.empty,
    Function.update_apply] at h
  split at h
  · exact .inl (Option.some.inj h).symm
  · split at h
    · exact .inr (Option.some.inj h).symm
    · cases h

lemma task_platformStore {taskId : TaskId} {task : DiscoveryTask}
    (h : platformStore.tasks.row taskId = some task) :
    taskId = 1 ∧ task = { awardTask with draftRecommendation := none } := by
  simp only [platformStore, Table.insert, Table.empty, Function.update_apply] at h
  split at h
  · next hid => exact ⟨hid, (Option.some.inj h).symm⟩
  · cases h

lemma integrity_platformStore : Integrity platformStore where
  catalogue := by
    constructor
    · exact fun _ => rfl
    · rintro id shell ⟨⟩
    · rintro id id' shell shell' ⟨⟩
    · rintro c row ⟨⟩
    · rintro c c' identity ⟨⟩
    · rintro id s ⟨⟩
    · rintro c ⟨⟩
  references := by
    refine ⟨fun id d scholarshipId hrow hid => ?_, fun id d other hrow hmem => ?_,
      fun taskId task id hrow hid => ?_⟩
    · rcases discovery_platformStore hrow with rfl | rfl <;> cases hid
    · rcases discovery_platformStore hrow with rfl | rfl <;> cases hmem
    · obtain ⟨rfl, rfl⟩ := task_platformStore hrow
      obtain rfl := Option.some.inj hid
      rfl
  openOnce := by
    refine ⟨fun taskId task hrow _ => ?_, fun a b taskA taskB id hrowA hrowB _ _ _ _ => ?_⟩
    · obtain ⟨rfl, rfl⟩ := task_platformStore hrow
      rfl
    · exact (task_platformStore hrowA).1.trans (task_platformStore hrowB).1.symm
  evidence := by
    rintro key ⟨⟩
  runs := by
    rintro runId run ⟨⟩

end Sample

/-- The award is approved, and the database is as it should be. -/
theorem approvalRun_integrity :
    (run (platformStep Sample.platformConfig) Sample.platform
      Sample.approvalRun).shared.autoApproved = [2] ∧
    Integrity (run (platformStep Sample.platformConfig) Sample.platform
      Sample.approvalRun).shared :=
  ⟨by decide +kernel, platform_integrity _ _ _ Sample.integrity_platformStore⟩

end ScholarshipFinder
