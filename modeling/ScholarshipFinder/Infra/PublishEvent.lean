import ScholarshipFinder.Infra.Outbox
import ScholarshipFinder.Infra.Publication
import ScholarshipFinder.Lib.Uuid

/-!
# The event of a publication (`infra/publication.py`)

`publish_cycle` records its analytics event in the transaction that inserts the cycle.  The key of
the event is a text made of the scholarship, the key and the segment of the cycle, in a column of
500 characters; an event whose key is taken is not written.
-/

namespace ScholarshipFinder

open Lib

/-- The database with its outbox. -/
structure EventStore where
  db : Db
  outbox : Outbox

/-- `OutboxEvent.dedupe_key: mapped_column(String(500), unique=True)` -/
def dedupeKeyLimit : ℕ := 500

/-- An event has the key already. -/
def Outbox.hasKey (outbox : Outbox) (dedupeKey : String) : Bool :=
  (outbox.events.findKey fun event => event.dedupeKey = dedupeKey).isSome

/-- The insert of `enqueue_analytics_event`, which the column may refuse. -/
def insertEvent (eventType dedupeKey : String) (payload : List (String × Json))
    (outbox : Outbox) : Except PyErr Outbox :=
  if dedupeKeyLimit < dedupeKey.length then
    .error ⟨.other, "value too long for type character varying(500)"⟩
  else .ok (enqueueAnalyticsEvent outbox.events.nextKey eventType dedupeKey payload outbox)

def scholarshipPublished : String := "scholarship_published"

/-- The key of the event of a publication. -/
def PublishArgs.eventKey (args : PublishArgs) : String :=
  "published:" ++ uuidText args.scholarshipId ++ ":" ++ args.providerCycleKey ++ ":" ++
    args.applicantSegment

/-- Its payload. -/
def PublishArgs.eventPayload (args : PublishArgs) : List (String × Json) := [
  ("scholarship_id", .str (uuidText args.scholarshipId)),
  ("cycle_id", .str (uuidText args.cycleId)),
  ("provider_cycle_key", .str args.providerCycleKey)]

/-- `publish_cycle`, to its last statement. -/
def publishWithEvent (args : PublishArgs) (now : Instant) (store : EventStore) :
    Except PyErr EventStore := do
  let db ← publishCycle args now store.db
  let outbox ← insertEvent scholarshipPublished args.eventKey args.eventPayload store.outbox
  return ⟨db, outbox⟩

/-- A correction of the columns of one cycle: `load_cycle_for_update`, then `update_cycle`.  It
records no event. -/
def correctCycle (scholarshipId : ScholarshipId) (cycleId : CycleId) (columns : CycleColumns)
    (store : EventStore) : Except PyErr EventStore := do
  let cycle ← loadCycleForUpdate scholarshipId cycleId store.db
  let db ← updateCycle cycleId cycle columns store.db
  return ⟨db, store.outbox⟩

/-- The two operations on the published cycles. -/
inductive Publishing
  | publish (args : PublishArgs) (now : Instant)
  | correct (scholarshipId : ScholarshipId) (cycleId : CycleId) (columns : CycleColumns)

/-- One request; if it raises, its transaction is rolled back. -/
def publishingStep (store : EventStore) : Publishing → EventStore
  | .publish args now =>
    match publishWithEvent args now store with
    | .ok store' => store'
    | .error _ => store
  | .correct scholarshipId cycleId columns =>
    match correctCycle scholarshipId cycleId columns store with
    | .ok store' => store'
    | .error _ => store

/-- The ids of a publication are UUIDs. -/
def Publishing.HasUuids : Publishing → Prop
  | .publish args _ => args.scholarshipId < 2 ^ 128 ∧ args.cycleId < 2 ^ 128
  | .correct .. => True

/-! ## What the two write -/

variable {store store' : EventStore} {args : PublishArgs} {now : Instant}

lemma eventKey_length (args : PublishArgs) :
    args.eventKey.length =
      48 + args.providerCycleKey.length + args.applicantSegment.length := by
  have hprefix : "published:".length = 10 := rfl
  have hcolon : ":".length = 1 := rfl
  simp only [PublishArgs.eventKey, String.length_append, length_uuidText, hprefix, hcolon]
  omega

/-- Two publications have one event key exactly if they are for one scholarship and their keys and
segments are the same text once they are joined by a colon. -/
theorem eventKey_eq_iff {args args' : PublishArgs} (hid : args.scholarshipId < 2 ^ 128)
    (hid' : args'.scholarshipId < 2 ^ 128) :
    args.eventKey = args'.eventKey ↔ args.scholarshipId = args'.scholarshipId ∧
      args.providerCycleKey ++ ":" ++ args.applicantSegment =
        args'.providerCycleKey ++ ":" ++ args'.applicantSegment := by
  have hkey : ∀ args : PublishArgs, args.eventKey.toList = "published:".toList ++
      ((uuidText args.scholarshipId).toList ++ (":".toList ++
        (args.providerCycleKey ++ ":" ++ args.applicantSegment).toList)) := by
    intro args
    simp only [PublishArgs.eventKey, String.toList_append, List.append_assoc]
  rw [← String.toList_inj, hkey, hkey, List.append_cancel_left_eq]
  constructor
  · intro h
    have hlength : (uuidText args.scholarshipId).toList.length =
        (uuidText args'.scholarshipId).toList.length := by
      rw [String.length_toList, String.length_toList, length_uuidText, length_uuidText]
    obtain ⟨huuid, hrest⟩ := List.append_inj h hlength
    rw [List.append_cancel_left_eq] at hrest
    exact ⟨uuidText_inj hid hid' (String.toList_inj.mp huuid), String.toList_inj.mp hrest⟩
  · rintro ⟨hscholarship, htext⟩
    rw [hscholarship, htext]

/-- An event whose key is taken is not written. -/
lemma enqueue_of_hasKey {outbox : Outbox} {id : EventId} {eventType key : String}
    {payload : List (String × Json)} (h : outbox.hasKey key = true) :
    enqueueAnalyticsEvent id eventType key payload outbox = outbox := by
  obtain ⟨found, hfound⟩ := Option.isSome_iff_exists.mp h
  rw [enqueueAnalyticsEvent, hfound]

/-- The row of a new event. -/
def newEvent (eventType key : String) (payload : List (String × Json)) : OutboxEvent where
  eventType := eventType
  destination := destinationAnalytics
  dedupeKey := key
  payload := payload

/-- Any other is. -/
lemma enqueue_of_not_hasKey {outbox : Outbox} {eventType key : String}
    {payload : List (String × Json)} (h : outbox.hasKey key = false) :
    (enqueueAnalyticsEvent outbox.events.nextKey eventType key payload outbox).events =
      outbox.events.insert outbox.events.nextKey (newEvent eventType key payload) := by
  have hnone : (outbox.events.findKey fun event => event.dedupeKey = key) = none :=
    Option.isNone_iff_eq_none.mp (by simpa [Outbox.hasKey] using h)
  rw [enqueueAnalyticsEvent, hnone]
  simp only [Table.row_nextKey, Option.isSome_none, Bool.false_eq_true, if_false]
  rfl

/-- A publication that the duplicate check accepts is refused by the write of its event, or its
event is dropped, or it is written. -/
theorem publishWithEvent_cases {db : Db} (h : publishCycle args now store.db = .ok db) :
    (dedupeKeyLimit < args.eventKey.length ∧ ∃ e, publishWithEvent args now store = .error e) ∨
    (args.eventKey.length ≤ dedupeKeyLimit ∧ store.outbox.hasKey args.eventKey = true ∧
      publishWithEvent args now store = .ok ⟨db, store.outbox⟩) ∨
    (args.eventKey.length ≤ dedupeKeyLimit ∧ store.outbox.hasKey args.eventKey = false ∧
      ∃ outbox, publishWithEvent args now store = .ok ⟨db, outbox⟩ ∧
        outbox.events = store.outbox.events.insert store.outbox.events.nextKey
          (newEvent scholarshipPublished args.eventKey args.eventPayload)) := by
  simp only [publishWithEvent, h, insertEvent, bind, Except.bind, pure, Except.pure]
  by_cases hlength : dedupeKeyLimit < args.eventKey.length
  · rw [if_pos hlength]
    exact Or.inl ⟨hlength, _, rfl⟩
  · rw [if_neg hlength]
    right
    cases hkey : store.outbox.hasKey args.eventKey with
    | true =>
      left
      refine ⟨not_lt.mp hlength, rfl, ?_⟩
      rw [enqueue_of_hasKey hkey]
    | false =>
      right
      exact ⟨not_lt.mp hlength, rfl, _, rfl, enqueue_of_not_hasKey hkey⟩

/-- A publication that the duplicate check refuses changes nothing. -/
lemma publishingStep_refused {e : PyErr} (h : publishCycle args now store.db = .error e) :
    publishingStep store (.publish args now) = store := by
  simp only [publishingStep, publishWithEvent, h, bind, Except.bind]

/-- A correction neither records an event nor adds a cycle. -/
lemma publishingStep_correct (scholarshipId : ScholarshipId) (cycleId : CycleId)
    (columns : CycleColumns) :
    (publishingStep store (.correct scholarshipId cycleId columns)).outbox = store.outbox ∧
      ∀ c, ((publishingStep store (.correct scholarshipId cycleId columns)).db.cycles.row c).isSome =
        (store.db.cycles.row c).isSome := by
  simp only [publishingStep, correctCycle, bind, Except.bind]
  cases hload : loadCycleForUpdate scholarshipId cycleId store.db with
  | error e => exact ⟨rfl, fun _ => rfl⟩
  | ok cycle =>
    dsimp only
    cases hupdate : updateCycle cycleId cycle columns store.db with
    | error e => exact ⟨rfl, fun _ => rfl⟩
    | ok db =>
      refine ⟨rfl, fun c => ?_⟩
      obtain rfl := updateCycle_ok hupdate
      by_cases hc : c = cycleId
      · subst hc
        simp [pure, Except.pure]
      · simp [pure, Except.pure, Table.row_modify_of_ne _ hc]

end ScholarshipFinder
