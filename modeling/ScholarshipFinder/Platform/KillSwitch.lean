import ScholarshipFinder.Platform.Integrity

/-!
# Deactivated sources

`Source.active` is the switch that stops what is collected from a source.  No operation turns it on
again.  Where it is off, an import quarantines the records of the source, a submission is refused,
and a turn of a sweep does not fetch its pages.  The check is made once for each fetch, so that a
turn whose fetch was let in before still persists it, with its next transaction.
-/

namespace ScholarshipFinder

open Lib

/-! ## The fetches that are let in -/

/-- The page whose fetch the worker is still to persist. -/
def PlatformWorker.held (worker : PlatformWorker) : Option PageId := worker.sweep.stage.held

section

variable {cfg : PlatformConfig} {p : Platform}

/-- A transaction of a sweep holds what it leaves in the session, unless it is refused. -/
lemma held_commitTurn (store : PlatformStore) (turn : Session × Db) (pageId : PageId)
    (h : (store.commitTurn turn).1.stage.held = some pageId) :
    turn.1.stage.held = some pageId ∧ (store.commitTurn turn).2.discovered.db = turn.2 := by
  unfold PlatformStore.commitTurn at h ⊢
  split at h
  · next hadmits =>
    rw [dif_pos hadmits]
    exact ⟨h, rfl⟩
  · cases h

/-- A worker holds what it held, or a page of a source that is active. -/
lemma held_platformStep (p : Platform) (step : PlatformStep) (w : ℕ) (pageId : PageId)
    (h : ((platformStep cfg p step).proc w).held = some pageId) :
    (p.proc w).held = some pageId ∨ ∃ id,
      (platformStep cfg p step).shared.discovered.db.sourceOf pageId = some id ∧
        p.shared.discovered.db.isActive id = true := by
  cases step with
  | attempt worker step answers =>
    refine .inl ?_
    change (Function.update p.proc worker _ w).held = some pageId at h
    rw [Function.update_apply] at h
    split at h
    · next heq => rwa [heq]
    · exact h
  | scan worker =>
    refine .inl ?_
    change (Function.update p.proc worker _ w).held = some pageId at h
    rw [Function.update_apply] at h
    split at h
    · next heq =>
      rw [heq]
      exact (held_commitTurn p.shared _ pageId h).1
    · exact h
  | startTurn worker sourceId now cycleId fetch =>
    change (Function.update p.proc worker _ w).held = some pageId at h
    rw [Function.update_apply] at h
    split at h
    · next heq =>
      obtain ⟨hheld, hdb⟩ := held_commitTurn p.shared _ pageId h
      have hshared : (platformStep cfg p (.startTurn worker sourceId now cycleId
          fetch)).shared.discovered.db = (beginTurn cfg sourceId now cycleId fetch
            (p.proc worker).sweep p.shared.discovered.db).2 := hdb
      rw [hshared, heq]
      unfold beginTurn at hheld ⊢
      split at hheld
      · next hidle =>
        rcases (startTurn_collects (p.proc worker).sweep sourceId now cycleId fetch
          p.shared.discovered.db).2 with hsame | hactive
        · rw [hsame, hidle] at hheld
          cases hheld
        · exact .inr (hactive pageId hheld)
      · exact .inl hheld
    · exact .inl h
  | resumeTurn worker =>
    refine .inl ?_
    change (Function.update p.proc worker _ w).held = some pageId at h
    rw [Function.update_apply] at h
    split at h
    · have hheld := (held_commitTurn p.shared _ pageId h).1
      rw [(resumeTurn_collects (p.proc worker).sweep p.shared.discovered.db).2] at hheld
      cases hheld
    · exact h
  | stop worker =>
    refine .inl ?_
    change (Function.update p.proc worker _ w).held = some pageId at h
    rw [Function.update_apply] at h
    split at h
    · cases h
    · exact h
  | _ => exact .inl h

lemma attemptEffect_resumed {py : ApprovalPy} {settings : ApprovalSettings}
    {answers : AttemptAnswers} (step : AttemptStep) (stage : AttemptStage) (store : ReviewStore) :
    (attemptEffect py settings answers step stage store).resumed = none := by
  unfold attemptEffect
  split
  · split <;> rfl
  · split <;> rfl
  · rfl

/-- A fetch that was let in before is persisted by the worker that holds it, which holds it no
more. -/
lemma resumed_platformStep {step : PlatformStep} {pageId : PageId}
    (h : (effectOf cfg p step).resumed = some pageId) :
    ∃ w, (p.proc w).held = some pageId ∧ ((platformStep cfg p step).proc w).held = none := by
  cases step with
  | prepare taskId =>
    rw [effectOf] at h
    split at h <;> cases h
  | publish args now =>
    rw [effectOf] at h
    split at h <;> cases h
  | attempt worker step answers =>
    rw [effectOf, attemptEffect_resumed] at h
    cases h
  | resumeTurn worker =>
    refine ⟨worker, h, ?_⟩
    show (Function.update p.proc worker _ worker).held = none
    rw [Function.update_self]
    cases hheld : PlatformWorker.held _ with
    | none => rfl
    | some q =>
      have hturn := (held_commitTurn p.shared _ q hheld).1
      rw [(resumeTurn_collects (p.proc worker).sweep p.shared.discovered.db).2] at hturn
      cases hturn
  | _ => cases h

end

/-! ## After the deactivation -/

/-- A source that was deactivated in `p`: no discovery has entered on its pages. -/
structure Off (id : SourceId) (p : Platform) (store : PlatformStore) : Prop where
  known : (store.discovered.db.sources.row id).isSome
  inactive : store.discovered.db.isActive id = false
  discoveries : ∀ other d, store.discovery other = some d →
    store.discovered.db.sourceOf d.sourcePageId = some id → (p.shared.discovery other).isSome

/-- What was collected since.  Every snapshot stands in `collected`, with the worker that held its
fetch in `p`, if it was such a one. -/
structure Deactivated (id : SourceId) (p : Platform) (store : PlatformStore)
    (collected : List (SourceSnapshot × Option ℕ)) : Prop extends Off id p store where
  snapshots : store.discovered.db.snapshots =
    p.shared.discovered.db.snapshots ++ collected.map Prod.fst
  held : ∀ snapshot worker, (snapshot, some worker) ∈ collected →
    (p.proc worker).held = some snapshot.pageId
  /-- A worker has persisted what it held once at most. -/
  once : (collected.filterMap Prod.snd).Nodup
  /-- The other snapshots are of other sources. -/
  others : ∀ snapshot, (snapshot, none) ∈ collected → ∃ other, other ≠ id ∧
    store.discovered.db.sourceOf snapshot.pageId = some other

/-- A worker that has not persisted what it held in `p` holds it still, and the others hold pages of
other sources. -/
def HoldsOthers (id : SourceId) (p q : Platform) (collected : List (SourceSnapshot × Option ℕ)) :
    Prop :=
  ∀ w pageId, (q.proc w).held = some pageId →
    ((p.proc w).held = some pageId ∧ w ∉ collected.filterMap Prod.snd) ∨
      ∃ other, other ≠ id ∧ q.shared.discovered.db.sourceOf pageId = some other

section

variable {cfg : PlatformConfig} {id : SourceId} {p q : Platform} {store : PlatformStore}
  {collected : List (SourceSnapshot × Option ℕ)}

lemma Off.ne (h : Off id p store) {other : SourceId}
    (hactive : store.discovered.db.isActive other = true) : other ≠ id := by
  rintro rfl
  rw [h.inactive] at hactive
  cases hactive

lemma Off.step (h : Off id p q.shared) (step : PlatformStep) :
    Off id p (platformStep cfg q step).shared := by
  have hwrites := @platformStep_writes cfg q step
  have hcollects := hwrites.collects
  refine ⟨(hcollects.sources id h.known).1, ?_, fun other d hd hof => ?_⟩
  · rw [← Bool.not_eq_true]
    exact fun hactive => h.ne ((hcollects.sources id h.known).2 hactive) rfl
  · cases hold : q.shared.discovery other with
    | none =>
      -- what enters is on a page of an active source
      obtain ⟨source, hsource, hactive⟩ := hwrites.refers.entered other d hold hd
      obtain rfl := Option.some.inj (hsource.symm.trans hof)
      exact absurd rfl (h.ne hactive)
    | some old =>
      obtain ⟨d', hd', hpage, -⟩ := hwrites.refers.items other old hold
      obtain rfl := Option.some.inj (hd'.symm.trans hd)
      -- its page was there, and belongs to the same source
      obtain ⟨page, hrow⟩ := Option.isSome_iff_exists.mp
        (q.shared.discovered.discovery_page other old hold)
      have hsource : q.shared.discovered.db.sourceOf old.sourcePageId = some page.sourceId := by
        rw [Db.sourceOf, hrow, Option.map_some]
      have hkept := hcollects.pages _ _ hsource
      rw [← hpage, hof] at hkept
      exact h.discoveries other old hold (by rw [hsource, Option.some.inj hkept])

lemma HoldsOthers.step (h : HoldsOthers id p q collected) (hoff : Off id p q.shared)
    (step : PlatformStep) : HoldsOthers id p (platformStep cfg q step) collected := by
  intro w pageId hheld
  have hpages := (@platformStep_writes cfg q step).collects.pages
  rcases held_platformStep q step w pageId hheld with hbefore | ⟨other, hof, hactive⟩
  · rcases h w pageId hbefore with hstart | ⟨other, hne, hof⟩
    · exact .inl hstart
    · exact .inr ⟨other, hne, hpages _ _ hof⟩
  · exact .inr ⟨other, hoff.ne hactive, hof⟩

/-- A snapshot of another source. -/
lemma HoldsOthers.other (h : HoldsOthers id p q collected) (snapshot : SourceSnapshot) :
    HoldsOthers id p q (collected ++ [(snapshot, none)]) := by
  intro w pageId hheld
  rw [List.filterMap_append]
  simpa using h w pageId hheld

/-- The snapshot of a worker that holds nothing any more. -/
lemma HoldsOthers.persisted (h : HoldsOthers id p q collected) (snapshot : SourceSnapshot)
    {worker : ℕ} (hdone : (q.proc worker).held = none) :
    HoldsOthers id p q (collected ++ [(snapshot, some worker)]) := by
  intro w pageId hheld
  rcases h w pageId hheld with ⟨hstart, hpending⟩ | hother
  · refine .inl ⟨hstart, ?_⟩
    rw [List.filterMap_append]
    refine fun hmem => (List.mem_append.mp hmem).elim hpending fun hw => ?_
    rw [List.mem_singleton.mp hw, hdone] at hheld
    cases hheld
  · exact .inr hother

/-- What holds of the pages of other sources holds after a step, which leaves every page with its
source. -/
lemma Deactivated.others_step (h : Deactivated id p q.shared collected) (step : PlatformStep)
    (snapshot : SourceSnapshot) (hmem : (snapshot, none) ∈ collected) : ∃ other, other ≠ id ∧
      (platformStep cfg q step).shared.discovered.db.sourceOf snapshot.pageId = some other := by
  obtain ⟨other, hne, hsource⟩ := h.others snapshot hmem
  exact ⟨other, hne, (@platformStep_writes cfg q step).collects.pages _ _ hsource⟩

/-- A step that adds a snapshot, of another source or of a worker that had not persisted what it
held. -/
lemma Deactivated.add (h : Deactivated id p q.shared collected) (step : PlatformStep)
    {snapshot : SourceSnapshot} {worker : Option ℕ}
    (hadds : (platformStep cfg q step).shared.discovered.db.snapshots =
      q.shared.discovered.db.snapshots ++ [snapshot])
    (hheld : ∀ w, worker = some w →
      (p.proc w).held = some snapshot.pageId ∧ w ∉ collected.filterMap Prod.snd)
    (hother : worker = none → ∃ other, other ≠ id ∧
      (platformStep cfg q step).shared.discovered.db.sourceOf snapshot.pageId = some other) :
    Deactivated id p (platformStep cfg q step).shared (collected ++ [(snapshot, worker)]) := by
  refine ⟨h.toOff.step step, ?_, fun snapshot' w hmem => ?_, ?_, fun snapshot' hmem => ?_⟩
  · rw [hadds, h.snapshots, List.map_append, List.append_assoc]
    rfl
  · rcases List.mem_append.mp hmem with hmem | hmem
    · exact h.held snapshot' w hmem
    · obtain ⟨rfl, hw⟩ := Prod.mk.inj (List.mem_singleton.mp hmem)
      exact (hheld w hw.symm).1
  · rw [List.filterMap_append]
    cases worker with
    | none => simpa using h.once
    | some w =>
      refine List.nodup_append.mpr ⟨h.once, List.nodup_singleton w, fun a ha b hb heq => ?_⟩
      rw [heq, List.mem_singleton.mp hb] at ha
      exact (hheld w rfl).2 ha
  · rcases List.mem_append.mp hmem with hmem | hmem
    · exact h.others_step step snapshot' hmem
    · obtain ⟨rfl, hw⟩ := Prod.mk.inj (List.mem_singleton.mp hmem)
      exact hother hw.symm

/-- A step adds at most one snapshot to what was collected. -/
theorem Deactivated.step (h : Deactivated id p q.shared collected)
    (hholds : HoldsOthers id p q collected) (step : PlatformStep) :
    ∃ collected, Deactivated id p (platformStep cfg q step).shared collected ∧
      HoldsOthers id p (platformStep cfg q step) collected := by
  have hcollects := (@platformStep_writes cfg q step).collects
  have hthen : HoldsOthers id p (platformStep cfg q step) collected := hholds.step h.toOff step
  obtain ⟨new, hnew, hof⟩ := hcollects.snapshots
  cases new with
  | none =>
    rw [Option.toList_none, List.append_nil] at hnew
    exact ⟨collected, ⟨h.toOff.step step, hnew.trans h.snapshots, h.held, h.once,
      h.others_step step⟩, hthen⟩
  | some snapshot =>
    have hanother : (∃ other, other ≠ id ∧ (platformStep cfg q step).shared.discovered.db.sourceOf
        snapshot.pageId = some other) → ∃ collected,
          Deactivated id p (platformStep cfg q step).shared collected ∧
          HoldsOthers id p (platformStep cfg q step) collected := fun hother =>
      ⟨_, h.add step hnew (fun _ hw => by cases hw) fun _ => hother,
        hthen.other snapshot⟩
    rcases hof snapshot rfl with hresumed | ⟨other, hsource, hactive⟩
    · obtain ⟨w, hheld, hdone⟩ := resumed_platformStep hresumed
      rcases hholds w _ hheld with ⟨hstart, hpending⟩ | ⟨other, hne, hsource⟩
      · -- the fetch was held in `p`
        refine ⟨_, h.add step hnew (fun w' hw => ?_) (fun hw => by cases hw),
          hthen.persisted snapshot hdone⟩
        obtain rfl := Option.some.inj hw
        exact ⟨hstart, hpending⟩
      · exact hanother ⟨other, hne, hcollects.pages _ _ hsource⟩
    · exact hanother ⟨other, h.ne hactive, hsource⟩

end

end ScholarshipFinder
