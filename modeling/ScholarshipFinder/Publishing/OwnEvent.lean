import ScholarshipFinder.Infra.PublishEvent
import ScholarshipFinder.Lib.Run
import ScholarshipFinder.Sample

/-!
# An event for every published cycle

The duplicate check of a publication compares the columns of the cycles, and the outbox compares
texts.  A correction frees the columns, and no text; and one text can be read as two pairs of a key
and a segment.  So a publication that the check accepts can find its text taken, and then its cycle
is published without an event.  Besides, the text may be too long for its column, and then the
publication fails.
-/

namespace ScholarshipFinder

open Lib

/-- The event announces this cycle. -/
def OutboxEvent.announces (event : OutboxEvent) (c : CycleId) : Bool :=
  event.eventType = scholarshipPublished &&
    (event.payload.lookup "cycle_id").any (Json.eqStr (uuidText c))

/-- The events that announce the cycle. -/
def Outbox.announcements (outbox : Outbox) (c : CycleId) : List EventId :=
  outbox.events.keys.filter fun id => (outbox.events.row id).any (·.announces c)

/-- Every cycle has exactly one event. -/
def EventStore.EachAnnounced (store : EventStore) : Prop :=
  ∀ c, (store.db.cycles.row c).isSome → (store.outbox.announcements c).length = 1

/-- What a step is to obey: a publication that the duplicate check accepts is not refused by the
write of its event, and after the step every cycle has exactly one event. -/
structure AnnouncesCycles (store : EventStore) (step : Publishing) : Prop where
  written : ∀ args now, step = .publish args now →
    (publishCycle args now store.db).toOption.isSome →
      (publishWithEvent args now store).toOption.isSome
  announced : (publishingStep store step).EachAnnounced

/-- The text of a publication that the duplicate check accepts is new, and fits its column. -/
def TextIsFree (store : EventStore) (step : Publishing) : Prop :=
  ∀ args now, step = .publish args now → (publishCycle args now store.db).toOption.isSome →
    store.outbox.hasKey args.eventKey = false ∧ args.eventKey.length ≤ dedupeKeyLimit

/-- Nothing is published yet. -/
structure EventStore.Unpublished (store : EventStore) : Prop where
  cycles : ∀ c, store.db.cycles.row c = none
  events : ∀ id event, store.outbox.events.row id = some event →
    event.eventType ≠ scholarshipPublished

/-- Every cycle has its event, and every event is of a cycle. -/
structure EventStore.Matched (store : EventStore) : Prop where
  announced : store.EachAnnounced
  ids : ∀ c, (store.db.cycles.row c).isSome → c < 2 ^ 128
  events : ∀ id event, store.outbox.events.row id = some event →
    event.eventType = scholarshipPublished →
      ∃ c, (store.db.cycles.row c).isSome ∧
        (event.payload.lookup "cycle_id") = some (.str (uuidText c))

variable {store : EventStore}

lemma EventStore.Unpublished.matched (h : store.Unpublished) : store.Matched where
  announced := by
    intro c hc
    rw [h.cycles c] at hc
    cases hc
  ids := by
    intro c hc
    rw [h.cycles c] at hc
    cases hc
  events := fun id event hrow htype => absurd htype (h.events id event hrow)

/-- No event announces a cycle that is not there. -/
lemma EventStore.Matched.announcements_eq_nil (h : store.Matched) {c : CycleId}
    (hc : c < 2 ^ 128) (hnone : store.db.cycles.row c = none) :
    store.outbox.announcements c = [] := by
  rw [Outbox.announcements, List.filter_eq_nil_iff]
  intro id _ hannounces
  obtain ⟨event, hrow, hannounces⟩ := (Option.any_eq_true _ _).mp hannounces
  rw [OutboxEvent.announces, Bool.and_eq_true, decide_eq_true_eq] at hannounces
  obtain ⟨c', hc', hpayload⟩ := h.events id event hrow hannounces.1
  have htext : uuidText c' = uuidText c := by
    have heq := hannounces.2
    rw [hpayload] at heq
    simpa [Json.eqStr] using heq
  have hsame : c' = c := uuidText_inj (h.ids c' hc') hc htext
  rw [hsame, hnone] at hc'
  cases hc'

/-- The announcements after an event was added. -/
lemma announcements_insert {outbox outbox' : Outbox} {event : OutboxEvent}
    (h : outbox'.events = outbox.events.insert outbox.events.nextKey event) (c : CycleId) :
    outbox'.announcements c = outbox.announcements c ++
      if event.announces c then [outbox.events.nextKey] else [] := by
  have hfresh : outbox.events.nextKey ∉ outbox.events.keys := by
    rw [outbox.events.mem_keys, Table.row_nextKey]
    simp
  have hkeys : outbox'.events.keys = outbox.events.keys ++ [outbox.events.nextKey] := by
    rw [h]
    exact if_neg hfresh
  rw [Outbox.announcements, Outbox.announcements, hkeys, List.filter_append]
  congr 1
  · refine List.filter_congr fun id hid => ?_
    have hne : id ≠ outbox.events.nextKey := fun heq => hfresh (heq ▸ hid)
    rw [h, Table.row_insert_of_ne _ hne]
  · rw [h, List.filter_singleton, Table.row_insert_self, Option.any_some]
    cases event.announces c <;> rfl

/-- The event of a publication announces its cycle and no other. -/
lemma newEvent_announces_iff {args : PublishArgs} {c : CycleId} (hargs : args.cycleId < 2 ^ 128)
    (hc : c < 2 ^ 128) :
    (newEvent scholarshipPublished args.eventKey args.eventPayload).announces c = true ↔
      c = args.cycleId := by
  have hlookup : args.eventPayload.lookup "cycle_id" = some (.str (uuidText args.cycleId)) := rfl
  rw [OutboxEvent.announces, newEvent, hlookup]
  simp only [decide_true, Bool.true_and, Option.any_some, Json.eqStr, decide_eq_true_eq]
  exact ⟨fun h => (uuidText_inj hargs hc h).symm, fun h => by rw [h]⟩

/-- A publication that writes its event keeps the store matched. -/
lemma EventStore.Matched.publish {args : PublishArgs} {now : Instant} {db : Db} {outbox : Outbox}
    (h : store.Matched) (hargs : args.cycleId < 2 ^ 128)
    (hpublish : publishCycle args now store.db = .ok db)
    (hevents : outbox.events = store.outbox.events.insert store.outbox.events.nextKey
      (newEvent scholarshipPublished args.eventKey args.eventPayload)) :
    EventStore.Matched ⟨db, outbox⟩ := by
  obtain ⟨hfree, -, rfl⟩ := publishCycle_ok hpublish
  have hrow : ∀ c, c ≠ args.cycleId →
      (store.db.cycles.insert args.cycleId (args.newRow now)).row c = store.db.cycles.row c :=
    fun c hc => Table.row_insert_of_ne _ hc _
  refine ⟨fun c hc => ?_, fun c hc => ?_, fun id event hid htype => ?_⟩
  · rw [announcements_insert hevents]
    by_cases heq : c = args.cycleId
    · -- the new cycle has the new event
      subst heq
      rw [h.announcements_eq_nil hargs hfree,
        if_pos ((newEvent_announces_iff hargs hargs).mpr rfl)]
      rfl
    · rw [hrow c heq] at hc
      rw [if_neg fun hnew => heq ((newEvent_announces_iff hargs (h.ids c hc)).mp hnew),
        List.append_nil]
      exact h.announced c hc
  · by_cases heq : c = args.cycleId
    · exact heq ▸ hargs
    · rw [hrow c heq] at hc
      exact h.ids c hc
  · rw [hevents] at hid
    by_cases heq : id = store.outbox.events.nextKey
    · rw [heq, Table.row_insert_self, Option.some.injEq] at hid
      refine ⟨args.cycleId, ?_, by rw [← hid]; rfl⟩
      rw [Table.row_insert_self]
      rfl
    · rw [Table.row_insert_of_ne _ heq] at hid
      obtain ⟨c, hc, hpayload⟩ := h.events id event hid htype
      have hne : c ≠ args.cycleId := by
        rintro rfl
        rw [hfree] at hc
        cases hc
      exact ⟨c, by rw [hrow c hne]; exact hc, hpayload⟩

/-- A correction keeps it matched too. -/
lemma EventStore.Matched.correct (h : store.Matched) (scholarshipId : ScholarshipId)
    (cycleId : CycleId) (columns : CycleColumns) :
    (publishingStep store (.correct scholarshipId cycleId columns)).Matched := by
  obtain ⟨houtbox, hrows⟩ :=
    @publishingStep_correct store scholarshipId cycleId columns
  refine ⟨fun c hc => ?_, fun c hc => ?_, fun id event hid htype => ?_⟩
  · rw [hrows] at hc
    rw [houtbox]
    exact h.announced c hc
  · rw [hrows] at hc
    exact h.ids c hc
  · rw [houtbox] at hid
    obtain ⟨c, hc, hpayload⟩ := h.events id event hid htype
    exact ⟨c, by rw [hrows]; exact hc, hpayload⟩

/-- From a matched store, a step obeys the law exactly if its text is free, and then the store is
matched again. -/
lemma announcesCycles_iff {step : Publishing} (huuid : step.HasUuids) (h : store.Matched) :
    (AnnouncesCycles store step ↔ TextIsFree store step) ∧
      (AnnouncesCycles store step → (publishingStep store step).Matched) := by
  cases step with
  | correct scholarshipId cycleId columns =>
    have hmatched := h.correct scholarshipId cycleId columns
    refine ⟨⟨fun _ => nofun, fun _ => ⟨nofun, hmatched.announced⟩⟩, fun _ => hmatched⟩
  | publish args now =>
    cases hpublish : publishCycle args now store.db with
    | error e =>
      have hnot : ∀ args' now', Publishing.publish args now = .publish args' now' →
          ¬ (publishCycle args' now' store.db).toOption.isSome := by
        rintro _ _ ⟨⟩ hsome
        rw [hpublish] at hsome
        cases hsome
      have hsame := publishingStep_refused hpublish
      refine ⟨⟨fun _ args' now' heq hsome => absurd hsome (hnot args' now' heq), fun _ => ?_⟩,
        fun _ => hsame.symm ▸ h⟩
      exact ⟨fun args' now' heq hsome => absurd hsome (hnot args' now' heq),
        hsame.symm ▸ h.announced⟩
    | ok db =>
      have haccepted : (publishCycle args now store.db).toOption.isSome := by
        rw [hpublish]
        rfl
      rcases publishWithEvent_cases hpublish with
        ⟨hlong, e, herror⟩ | ⟨-, htaken, hok⟩ | ⟨hshort, hfree, outbox, hok, hevents⟩
      · -- the text does not fit
        have hnot : ¬ AnnouncesCycles store (.publish args now) := by
          intro hlaw
          have hwritten := hlaw.written args now rfl haccepted
          rw [herror] at hwritten
          cases hwritten
        refine ⟨iff_of_false hnot fun hfree => ?_, fun hlaw => absurd hlaw hnot⟩
        exact absurd (hfree args now rfl haccepted).2 (not_le.mpr hlong)
      · -- the event is dropped
        have hnot : ¬ AnnouncesCycles store (.publish args now) := by
          intro hlaw
          obtain ⟨hnone, -, rfl⟩ := publishCycle_ok hpublish
          have hone := hlaw.announced args.cycleId
          simp only [publishingStep, hok] at hone
          rw [h.announcements_eq_nil huuid.2 hnone, Table.row_insert_self] at hone
          exact absurd (hone rfl) (by decide)
        refine ⟨iff_of_false hnot fun hfree => ?_, fun hlaw => absurd hlaw hnot⟩
        rw [(hfree args now rfl haccepted).1] at htaken
        cases htaken
      · have hmatched : (publishingStep store (.publish args now)).Matched := by
          simp only [publishingStep, hok]
          exact h.publish huuid.2 hpublish hevents
        refine ⟨iff_of_true ⟨?_, hmatched.announced⟩ ?_, fun _ => hmatched⟩
        · rintro _ _ ⟨⟩ -
          rw [hok]
          rfl
        · rintro _ _ ⟨⟩ -
          exact ⟨hfree, hshort⟩

/-- In every run, each step obeys the law exactly if the texts of the publications that the
duplicate check accepts are all new and fit their column. -/
theorem eachAnnounced_iff {start : EventStore} (hstart : start.Unpublished)
    {steps : List Publishing} (huuids : ∀ step ∈ steps, step.HasUuids) :
    EachStep publishingStep AnnouncesCycles start steps ↔
      EachStep publishingStep TextIsFree start steps :=
  eachStep_congr_of_invariant (I := EventStore.Matched)
    (fun _ _ huuid h => (announcesCycles_iff huuid h).1)
    (fun _ _ huuid h hstep => (announcesCycles_iff huuid h).2 hstep) huuids hstart.matched

/-! ## A key that is used again -/

/-- Before the first publication. -/
def Sample.eventStore : EventStore := ⟨Sample.unpublished, Outbox.empty⟩

/-- The first intake is published under a provisional key and renamed, and then the next intake is
published under that key. -/
def renamedRun : List Publishing := [
  .publish (Sample.publication none) Sample.start,
  .correct 1 1 ⟨"2023", "default", Sample.awardUrl, .openVerified, Sample.facts, none,
    some Sample.start⟩,
  .publish { Sample.publication none with cycleId := 2 } (Sample.start + day)]

lemma unpublished_eventStore : Sample.eventStore.Unpublished := ⟨fun _ => rfl, nofun⟩

lemma hasUuids_renamedRun : ∀ step ∈ renamedRun, step.HasUuids := by
  intro step hstep
  simp only [renamedRun, List.mem_cons, List.not_mem_nil, or_false] at hstep
  rcases hstep with rfl | rfl | rfl
  · exact ⟨by decide, by decide⟩
  · trivial
  · exact ⟨by decide, by decide⟩

/-- The second intake is published, and no event announces it. -/
theorem renamed_key_drops_event :
    Sample.eventStore.Unpublished ∧ (∀ step ∈ renamedRun, step.HasUuids) ∧
      ((run publishingStep Sample.eventStore renamedRun).db.cycles.row 2).isSome ∧
      (run publishingStep Sample.eventStore renamedRun).outbox.announcements 2 = [] ∧
      ¬ EachStep publishingStep AnnouncesCycles Sample.eventStore renamedRun := by
  have hnone : (run publishingStep Sample.eventStore renamedRun).outbox.announcements 2 = [] := by
    decide +kernel
  refine ⟨unpublished_eventStore, hasUuids_renamedRun, rfl, hnone, ?_⟩
  rintro ⟨-, -, hlast, -⟩
  have hone :
      ((run publishingStep Sample.eventStore renamedRun).outbox.announcements 2).length = 1 :=
    hlast.announced 2 rfl
  rw [hnone] at hone
  cases hone

/-- The same run, seen through its texts. -/
theorem eachAnnounced_renamedRun :
    EachStep publishingStep AnnouncesCycles Sample.eventStore renamedRun ↔
      EachStep publishingStep TextIsFree Sample.eventStore renamedRun :=
  eachAnnounced_iff unpublished_eventStore hasUuids_renamedRun

end ScholarshipFinder
