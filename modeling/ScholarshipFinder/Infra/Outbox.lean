import ScholarshipFinder.Lib.Table
import ScholarshipFinder.Python

/-!
# The outbox (`infra/outbox.py`)

An analytics event is recorded beside the change it describes and delivered later.  A dispatch
takes the oldest pending events, sends them as one batch, and marks them all as dispatched or
counts one more failed attempt of each.  `send` is `send_batch`, with the key and the host of the
settings.
-/

namespace ScholarshipFinder

open Lib

abbrev EventId := ℕ

inductive OutboxState
  | pending
  | dispatched
  | deadLetter
deriving DecidableEq, Repr

structure OutboxEvent where
  eventType : String
  /-- Consumers filter on this. -/
  destination : String
  /-- Unique. -/
  dedupeKey : String
  payload : List (String × Json)
  state : OutboxState := .pending
  attempts : ℕ := 0
  dispatchedAt : Option Instant := none

/-- Analytics destination. -/
def destinationAnalytics : String := "posthog"

def maxDispatchAttempts : ℕ := 5

namespace OutboxEvent

/-- `mark_dispatched` -/
def markDispatched (event : OutboxEvent) (now : Instant) : OutboxEvent :=
  { event with state := .dispatched, dispatchedAt := some now }

/-- `mark_failed` -/
def markFailed (event : OutboxEvent) (error : String) : OutboxEvent :=
  { event with
    attempts := event.attempts + 1
    state := if maxDispatchAttempts ≤ event.attempts + 1 then .deadLetter else event.state
    payload := setItem event.payload "last_error" (.str (String.ofList (error.toList.take 500))) }

/-- The predicate of `claim_pending_events`. -/
def isClaimable (destination : String) (event : OutboxEvent) : Bool :=
  event.destination = destination ∧ event.state = .pending ∧ event.attempts < maxDispatchAttempts

/-- An event that is pending has an attempt left. -/
def Live (event : OutboxEvent) : Prop :=
  event.state = .pending → event.attempts < maxDispatchAttempts

lemma live_markDispatched (event : OutboxEvent) (now : Instant) :
    (event.markDispatched now).Live := nofun

lemma live_markFailed (event : OutboxEvent) (error : String) :
    (event.markFailed error).Live := by
  intro hpending
  simp only [OutboxEvent.markFailed] at hpending ⊢
  split at hpending
  · cases hpending
  · omega

end OutboxEvent

/-- The table of events. -/
structure Outbox where
  events : Table EventId OutboxEvent
  live : ∀ id event, events.row id = some event → event.Live

namespace Outbox

/-- Before the first event. -/
def empty : Outbox := ⟨Table.empty, nofun⟩

/-- Rewrite the events of a list. -/
def rewrite (outbox : Outbox) (ids : List EventId) (f : OutboxEvent → OutboxEvent)
    (hf : ∀ event : OutboxEvent, event.Live → (f event).Live) : Outbox where
  events := ids.foldl (fun events id => events.modify id f) outbox.events
  live := by
    induction ids generalizing outbox with
    | nil => exact outbox.live
    | cons i ids ih =>
      refine ih ⟨outbox.events.modify i f, ?_⟩
      intro id event hrow
      by_cases hid : id = i
      · subst hid
        rw [Table.row_modify_self, Option.map_eq_some_iff] at hrow
        obtain ⟨old, hold, rfl⟩ := hrow
        exact hf old (outbox.live id old hold)
      · rw [Table.row_modify_of_ne _ hid] at hrow
        exact outbox.live id event hrow

/-- The undelivered events for a destination, oldest first. -/
def pending (outbox : Outbox) (destination : String) : List EventId :=
  (outbox.events.keys.filter fun id =>
    (outbox.events.row id).any (·.isClaimable destination)).insertionSort (· ≤ ·)

end Outbox

/-- `enqueue_analytics_event`; `id` is the new primary key. -/
def enqueueAnalyticsEvent (id : EventId) (eventType dedupeKey : String)
    (payload : List (String × Json)) (outbox : Outbox) : Outbox :=
  match outbox.events.findKey fun event => event.dedupeKey = dedupeKey with
  | some _ => outbox
  | none =>
    if (outbox.events.row id).isSome then outbox
    else
      { events := outbox.events.insert id
          { eventType := eventType, destination := destinationAnalytics, dedupeKey := dedupeKey,
            payload := payload }
        live := by
          intro j event hrow
          by_cases hj : j = id
          · subst hj
            rw [Table.row_insert_self] at hrow
            obtain rfl := Option.some.inj hrow
            exact fun _ => Nat.zero_lt_succ 4
          · rw [Table.row_insert_of_ne _ hj] at hrow
            exact outbox.live j event hrow }

/-- `claim_pending_events` -/
def claimPendingEvents (destination : String) (limit : ℕ) (outbox : Outbox) : List EventId :=
  (outbox.pending destination).take limit

/-- The settings the dispatcher reads. -/
structure DispatchSettings where
  environment : String := "development"
  posthogApiKey : Option String := none
  posthogDispatchEnabled : Option Bool := none

def deployedEnvironments : List String := ["staging", "production"]

namespace DispatchSettings

/-- `is_deployed` -/
def isDeployed (py : Py) (settings : DispatchSettings) : Bool :=
  py.lower settings.environment ∈ deployedEnvironments

/-- `posthog_dispatch_active` -/
def posthogDispatchActive (py : Py) (settings : DispatchSettings) : Bool :=
  settings.posthogDispatchEnabled.getD (settings.isDeployed py)

/-- `posthog_dispatch_active and posthog_api_key` -/
def sends (py : Py) (settings : DispatchSettings) : Bool :=
  settings.posthogDispatchActive py && settings.posthogApiKey.any (· ≠ "")

end DispatchSettings

structure DispatchCounts where
  held : ℕ
  dispatched : ℕ
  failed : Option ℕ := none
deriving DecidableEq, Repr

/-- `dispatch_analytics_events` -/
def dispatchAnalyticsEvents (py : Py) (settings : DispatchSettings)
    (send : List (EventId × OutboxEvent) → Except PyErr Unit) (now : Instant) (limit : ℕ)
    (outbox : Outbox) : Except PyErr DispatchCounts × Outbox :=
  let events := claimPendingEvents destinationAnalytics limit outbox
  if ¬ settings.sends py then (.ok ⟨events.length, 0, none⟩, outbox)
  else if events.isEmpty then (.ok ⟨0, 0, none⟩, outbox)
  else
    let batch := events.filterMap fun id => (outbox.events.row id).map (id, ·)
    match send batch with
    | .error e =>
      if e.cls = .httpError then
        (.ok ⟨0, 0, some events.length⟩,
          outbox.rewrite events (·.markFailed e.msg) fun event _ => event.live_markFailed e.msg)
      else (.error e, outbox)
    | .ok _ =>
      (.ok ⟨0, events.length, none⟩,
        outbox.rewrite events (·.markDispatched now) fun event _ => event.live_markDispatched now)

/-! ## What a dispatch does -/

namespace Outbox

variable {outbox : Outbox} {destination : String} {id : EventId}

lemma mem_pending : id ∈ outbox.pending destination ↔
    ∃ event, outbox.events.row id = some event ∧ event.isClaimable destination = true := by
  rw [pending, List.mem_insertionSort, List.mem_filter, Option.any_eq_true,
    outbox.events.mem_keys]
  constructor
  · exact fun h => h.2
  · rintro ⟨event, hrow, hclaim⟩
    exact ⟨by rw [hrow]; rfl, event, hrow, hclaim⟩

lemma nodup_pending (outbox : Outbox) (destination : String) :
    (outbox.pending destination).Nodup :=
  (List.perm_insertionSort _ _).nodup_iff.mpr (outbox.events.nodup.filter _)

/-- Every pending event for the destination can be claimed. -/
lemma isClaimable_iff {event : OutboxEvent} (hrow : outbox.events.row id = some event) :
    event.isClaimable destination = true ↔
      event.destination = destination ∧ event.state = .pending := by
  simp only [OutboxEvent.isClaimable, decide_eq_true_eq]
  constructor
  · exact fun h => ⟨h.1, h.2.1⟩
  · exact fun h => ⟨h.1, h.2, outbox.live id event hrow h.2⟩

lemma row_rewrite {ids : List EventId} (hids : ids.Nodup) {f : OutboxEvent → OutboxEvent}
    {hf : ∀ event : OutboxEvent, event.Live → (f event).Live} :
    (outbox.rewrite ids f hf).events.row id =
      if id ∈ ids then (outbox.events.row id).map f else outbox.events.row id :=
  Table.row_foldl_modify hids _ f id

end Outbox

section

variable {py : Py} {settings : DispatchSettings}
  {send : List (EventId × OutboxEvent) → Except PyErr Unit} {now : Instant} {limit : ℕ}
  {outbox : Outbox} {id : EventId}

/-- A dispatch that is accepted leaves exactly the events pending that were not in its batch. -/
theorem mem_pending_dispatch (hsends : settings.sends py = true) (hsend : ∀ batch, send batch = .ok ()) :
    id ∈ (dispatchAnalyticsEvents py settings send now limit outbox).2.pending
        destinationAnalytics ↔
      id ∈ outbox.pending destinationAnalytics ∧
        id ∉ (outbox.pending destinationAnalytics).take limit := by
  simp only [dispatchAnalyticsEvents, hsends, hsend, not_true_eq_false, if_false]
  split
  · next hempty =>
    rw [claimPendingEvents, List.isEmpty_iff] at hempty
    simp [hempty]
  · have hnodup : (claimPendingEvents destinationAnalytics limit outbox).Nodup :=
      (outbox.nodup_pending _).sublist (List.take_sublist _ _)
    rw [Outbox.mem_pending, Outbox.row_rewrite hnodup]
    by_cases hmem : id ∈ claimPendingEvents destinationAnalytics limit outbox
    · rw [if_pos hmem]
      constructor
      · rintro ⟨event, hrow, hclaim⟩
        obtain ⟨old, -, rfl⟩ := Option.map_eq_some_iff.mp hrow
        simp [OutboxEvent.isClaimable, OutboxEvent.markDispatched] at hclaim
      · exact fun h => absurd hmem h.2
    · rw [if_neg hmem, ← Outbox.mem_pending]
      exact ⟨fun h => ⟨h, hmem⟩, fun h => h.1⟩

/-- It leaves none if they all fit in the batch. -/
theorem pending_dispatch_eq_nil (hsends : settings.sends py = true)
    (hsend : ∀ batch, send batch = .ok ()) :
    (dispatchAnalyticsEvents py settings send now limit outbox).2.pending
        destinationAnalytics = [] ↔
      (outbox.pending destinationAnalytics).length ≤ limit := by
  constructor
  · intro hnil
    by_contra hmore
    -- the first event beyond the batch is still pending
    have hlt : limit < (outbox.pending destinationAnalytics).length := by omega
    have hmem : (outbox.pending destinationAnalytics)[limit] ∈
        outbox.pending destinationAnalytics := List.getElem_mem hlt
    have hnot : (outbox.pending destinationAnalytics)[limit] ∉
        (outbox.pending destinationAnalytics).take limit := by
      intro hin
      obtain ⟨i, hi, heq⟩ := List.getElem_of_mem hin
      rw [List.getElem_take] at heq
      have hsame := (outbox.nodup_pending destinationAnalytics).getElem_inj_iff.mp heq
      rw [List.length_take] at hi
      omega
    have hleft : (outbox.pending destinationAnalytics)[limit] ∈
        (dispatchAnalyticsEvents py settings send now limit outbox).2.pending
          destinationAnalytics := (mem_pending_dispatch hsends hsend).mpr ⟨hmem, hnot⟩
    rw [hnil] at hleft
    exact List.not_mem_nil hleft
  · intro hfit
    rw [List.eq_nil_iff_forall_not_mem]
    intro id hid
    obtain ⟨hmem, hnot⟩ := (mem_pending_dispatch hsends hsend).mp hid
    rw [List.take_of_length_le hfit] at hnot
    exact hnot hmem

end

end ScholarshipFinder
