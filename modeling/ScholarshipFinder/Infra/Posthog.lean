import ScholarshipFinder.Domain.Urls
import ScholarshipFinder.Infra.PublishEvent

/-!
# PostHog batch ingestion (`infra/posthog_client.py`)

Events go to the `/batch/` endpoint, which accepts or rejects the batch as a whole.  `createdAt`
is the column of that name of `outbox_events`, which nothing writes after the insert.
-/

namespace ScholarshipFinder

open Lib

structure PosthogEvent where
  event : String
  distinctId : String
  properties : List (String × Json)
  timestamp : String
  /-- PostHog's own deduplication field. -/
  uuid : String

/-- The body of a request. -/
structure PosthogBatch where
  apiKey : String
  batch : List PosthogEvent

/-- A response, with what `raise_for_status` says of it unless it is a success. -/
structure HttpResponse where
  statusCode : ℕ
  refusal : String

/-- `_DISTINCT_ID_FIELD` -/
def distinctIdField : List (String × String) := [("scholarship_search_completed", "search_id")]

section

variable (py : Py)

/-- `f"system:{scholarship_id}" if scholarship_id else f"system:{event.event_id}"` -/
def systemId (id : EventId) (event : OutboxEvent) : String :=
  match event.payload.lookup "scholarship_id" with
  | none => "system:" ++ uuidText id
  | some value =>
    if value.truthy then "system:" ++ py.strOf value else "system:" ++ uuidText id

/-- `_distinct_id` -/
def distinctId (id : EventId) (event : OutboxEvent) : String :=
  match distinctIdField.lookup event.eventType with
  | none => systemId py id event
  | some field =>
    match event.payload.lookup field with
    | none => systemId py id event
    | some value => py.strOf value

variable (createdAt : EventId → Instant)

/-- `to_posthog_event` -/
def toPosthogEvent (row : EventId × OutboxEvent) : PosthogEvent where
  event := row.2.eventType
  distinctId := distinctId py row.1 row.2
  properties := row.2.payload
  timestamp := py.isoformat ⟨createdAt row.1, some 0⟩
  uuid := uuidText row.1

/-- `raise_for_status` -/
def raiseForStatus (response : HttpResponse) : Except PyErr Unit :=
  if 200 ≤ response.statusCode ∧ response.statusCode < 300 then .ok ()
  else .error ⟨.httpError, response.refusal⟩

/-- The request of a batch. -/
def batchRequest (apiKey host : String) (events : List (EventId × OutboxEvent)) :
    String × PosthogBatch :=
  (rstripSlashes host ++ "/batch/", ⟨apiKey, events.map (toPosthogEvent py createdAt)⟩)

/-- `send_batch`; `post` is the answer to a request. -/
def sendBatch (post : String × PosthogBatch → Except PyErr HttpResponse)
    (apiKey host : String) (events : List (EventId × OutboxEvent)) : Except PyErr Unit := do
  let response ← post (batchRequest py createdAt apiKey host events)
  raiseForStatus response

/-- What a dispatch is answered. -/
structure Dispatch where
  settings : DispatchSettings
  host : String
  post : String × PosthogBatch → Except PyErr HttpResponse
  now : Instant
  limit : ℕ

/-- A dispatch of the outbox to PostHog. -/
def Dispatch.run (d : Dispatch) (outbox : Outbox) : Except PyErr DispatchCounts × Outbox :=
  dispatchAnalyticsEvents py d.settings
    (sendBatch py createdAt d.post (d.settings.posthogApiKey.getD "") d.host) d.now d.limit outbox

/-- The rows that a dispatch sends. -/
def Dispatch.sent (d : Dispatch) (outbox : Outbox) : List (EventId × OutboxEvent) :=
  if d.settings.sends py then
    (claimPendingEvents destinationAnalytics d.limit outbox).filterMap fun id =>
      (outbox.events.row id).map (id, ·)
  else []

/-- The request that it makes. -/
def Dispatch.request (d : Dispatch) (outbox : Outbox) : Option (String × PosthogBatch) :=
  if (d.sent py outbox).isEmpty then none
  else some (batchRequest py createdAt (d.settings.posthogApiKey.getD "") d.host (d.sent py outbox))

end

/-! ## What is sent, and what becomes of it -/

section

variable {py : Py} {createdAt : EventId → Instant} {d : Dispatch} {outbox : Outbox} {id : EventId}
  {event : OutboxEvent}

lemma Dispatch.mem_sent : (id, event) ∈ d.sent py outbox ↔
    d.settings.sends py = true ∧ id ∈ claimPendingEvents destinationAnalytics d.limit outbox ∧
      outbox.events.row id = some event := by
  unfold Dispatch.sent
  split
  · next hsends =>
    rw [List.mem_filterMap]
    constructor
    · rintro ⟨i, hi, hrow⟩
      obtain ⟨e, he, heq⟩ := Option.map_eq_some_iff.mp hrow
      obtain ⟨rfl, rfl⟩ := Prod.mk.inj heq
      exact ⟨hsends, hi, he⟩
    · rintro ⟨-, hid, hrow⟩
      exact ⟨id, hid, by rw [hrow]; rfl⟩
  · next hsends =>
    exact ⟨fun h => absurd h List.not_mem_nil, fun h => absurd h.1 hsends⟩

/-- An event that is sent is pending. -/
lemma Dispatch.sent_pending (h : (id, event) ∈ d.sent py outbox) :
    outbox.events.row id = some event ∧ event.state = .pending := by
  obtain ⟨-, hclaim, hrow⟩ := mem_sent.mp h
  obtain ⟨e, he, hclaimable⟩ := Outbox.mem_pending.mp (List.mem_of_mem_take hclaim)
  obtain rfl := Option.some.inj (hrow.symm.trans he)
  exact ⟨hrow, ((Outbox.isClaimable_iff hrow).mp hclaimable).2⟩

/-- What is claimed is sent, if anything is. -/
lemma Dispatch.sent_isEmpty (hsends : d.settings.sends py = true) :
    (d.sent py outbox).isEmpty =
      (claimPendingEvents destinationAnalytics d.limit outbox).isEmpty := by
  rw [Dispatch.sent, if_pos hsends, Bool.eq_iff_iff, List.isEmpty_iff, List.isEmpty_iff,
    List.filterMap_eq_nil_iff]
  constructor
  · intro h
    rw [List.eq_nil_iff_forall_not_mem]
    intro id hid
    obtain ⟨event, hrow, -⟩ := Outbox.mem_pending.mp (List.mem_of_mem_take hid)
    have hnone := h id hid
    rw [hrow] at hnone
    cases hnone
  · intro h id hid
    rw [h] at hid
    exact absurd hid List.not_mem_nil

/-- The spec of a dispatch: without a request nothing changes; otherwise the answer to its one
request decides what becomes of all the rows that were sent. -/
theorem Dispatch.run_eq : (d.run py createdAt outbox).2 =
    match d.request py createdAt outbox with
    | none => outbox
    | some request =>
      let claimed := claimPendingEvents destinationAnalytics d.limit outbox
      match d.post request >>= raiseForStatus with
      | .ok _ => outbox.rewrite claimed (·.markDispatched d.now)
          fun event _ => event.live_markDispatched d.now
      | .error e =>
        if e.cls = .httpError then
          outbox.rewrite claimed (·.markFailed e.msg) fun event _ => event.live_markFailed e.msg
        else outbox := by
  unfold Dispatch.run dispatchAnalyticsEvents Dispatch.request
  dsimp only
  by_cases hsends : d.settings.sends py = true
  · rw [if_neg (not_not_intro hsends), Dispatch.sent_isEmpty hsends]
    by_cases hempty : (claimPendingEvents destinationAnalytics d.limit outbox).isEmpty = true
    · rw [if_pos hempty, if_pos hempty]
    · rw [if_neg hempty, if_neg hempty]
      have hsent : (claimPendingEvents destinationAnalytics d.limit outbox).filterMap
          (fun id => (outbox.events.row id).map (id, ·)) = d.sent py outbox :=
        (if_pos hsends).symm
      have hsend : d.post (batchRequest py createdAt (d.settings.posthogApiKey.getD "") d.host
          (d.sent py outbox)) >>= raiseForStatus =
          sendBatch py createdAt d.post (d.settings.posthogApiKey.getD "") d.host
            (d.sent py outbox) := rfl
      dsimp only
      rw [hsent, hsend]
      cases sendBatch py createdAt d.post (d.settings.posthogApiKey.getD "") d.host
          (d.sent py outbox) with
      | ok _ => rfl
      | error e =>
        dsimp only
        split <;> rfl
  · have hnil : d.sent py outbox = [] := if_neg hsends
    rw [if_pos hsends, hnil]
    rfl

end

end ScholarshipFinder
