import ScholarshipFinder.Infra.Posthog
import ScholarshipFinder.Lib.Run
import ScholarshipFinder.Sample

/-!
# What becomes of an event

Every event that is enqueued is kept under its key, and it is sent until a batch with it is
accepted, or five were refused.  A refusal is noted in the payload itself, under `last_error`,
and the payload is what the next attempt sends.
-/

namespace ScholarshipFinder

open Lib

/-! ## Runs of the outbox -/

inductive OutboxOp
  | enqueue (eventType dedupeKey : String) (payload : List (String × Json))
  | dispatch (d : Dispatch)

/-- The outbox, with the key and the payload of everything that was enqueued, oldest first. -/
structure OutboxLog where
  outbox : Outbox
  written : List (String × List (String × Json))

namespace OutboxLog

def start : OutboxLog := ⟨Outbox.empty, []⟩

variable (py : Py) (createdAt : EventId → Instant)

/-- One operation; an insert that raises is rolled back. -/
def step (log : OutboxLog) : OutboxOp → OutboxLog
  | .enqueue eventType dedupeKey payload =>
    match insertEvent eventType dedupeKey payload log.outbox with
    | .ok outbox => ⟨outbox, log.written ++ [(dedupeKey, payload)]⟩
    | .error _ => log
  | .dispatch d => { log with outbox := (d.run py createdAt log.outbox).2 }

end OutboxLog

/-- Two dicts are equal. -/
def SameDict (items items' : List (String × Json)) : Prop :=
  ∀ key, items.lookup key = items'.lookup key

/-- An event is pending with an attempt left, delivered, or given up after the last attempt. -/
def OutboxEvent.Settles (event : OutboxEvent) : Prop :=
  event.state = .pending ∧ event.attempts < maxDispatchAttempts ∨
    event.state = .dispatched ∨
    event.state = .deadLetter ∧ event.attempts = maxDispatchAttempts

/-- What an event keeps of its enqueued payload. -/
structure OutboxEvent.Carries (event : OutboxEvent) (payload : List (String × Json)) : Prop where
  /-- Before the first failure, all of it. -/
  untried : event.attempts = 0 → event.payload = payload
  others : ∀ key, key ≠ "last_error" → event.payload.lookup key = payload.lookup key

/-! ## One event -/

/-- What a dispatch can do to an event. -/
inductive OutboxEvent.Becomes : OutboxEvent → OutboxEvent → Prop
  | kept (event : OutboxEvent) : Becomes event event
  | dispatched {event : OutboxEvent} (hpending : event.state = .pending) (now : Instant) :
    Becomes event (event.markDispatched now)
  | failed {event : OutboxEvent} (hpending : event.state = .pending) (error : String) :
    Becomes event (event.markFailed error)

section

variable {event event' : OutboxEvent}

/-- Setting a key leaves the other keys alone. -/
lemma lookup_setItem_of_ne {items : List (String × Json)} {key k : String} {value : Json}
    (h : k ≠ key) : (setItem items key value).lookup k = items.lookup k := by
  have hmap : ∀ l : List (String × Json),
      (l.map fun item => if item.1 = key then (key, value) else item).lookup k = l.lookup k := by
    intro l
    induction l with
    | nil => rfl
    | cons item l ih =>
      obtain ⟨j, v⟩ := item
      by_cases hj : j = key
      · have hkj : (k == j) = false := beq_false_of_ne (hj ▸ h)
        have hkkey : (k == key) = false := beq_false_of_ne h
        rw [List.map_cons, if_pos hj, List.lookup_cons, List.lookup_cons, hkj, hkkey]
        exact ih
      · rw [List.map_cons, if_neg hj, List.lookup_cons, List.lookup_cons, ih]
  unfold setItem
  split
  · exact hmap items
  · have hk : (k == key) = false := beq_false_of_ne h
    rw [List.lookup_append, List.lookup_cons, hk, List.lookup_nil, Option.or_none]

lemma OutboxEvent.Becomes.dedupeKey (h : event.Becomes event') :
    event'.dedupeKey = event.dedupeKey := by
  cases h <;> rfl

/-- An event that is not pending is not touched. -/
lemma OutboxEvent.Becomes.final (h : event.Becomes event') (hstate : event.state ≠ .pending) :
    event' = event := by
  cases h with
  | kept => rfl
  | dispatched hpending => exact absurd hpending hstate
  | failed hpending => exact absurd hpending hstate

lemma OutboxEvent.Settles.becomes (h : event.Settles) (hbecomes : event.Becomes event') :
    event'.Settles := by
  cases hbecomes with
  | kept => exact h
  | dispatched hpending now => exact .inr (.inl rfl)
  | failed hpending error =>
    -- the last attempt is the fifth
    have hleft : event.attempts < maxDispatchAttempts := by
      rcases h with ⟨-, hlt⟩ | hdispatched | ⟨hdead, -⟩
      · exact hlt
      · rw [hpending] at hdispatched
        cases hdispatched
      · rw [hpending] at hdead
        cases hdead
    by_cases hlast : maxDispatchAttempts ≤ event.attempts + 1
    · refine .inr (.inr ⟨if_pos hlast, ?_⟩)
      change event.attempts + 1 = maxDispatchAttempts
      omega
    · refine .inl ⟨(if_neg hlast).trans hpending, ?_⟩
      change event.attempts + 1 < maxDispatchAttempts
      omega

lemma OutboxEvent.Carries.becomes {payload : List (String × Json)} (h : event.Carries payload)
    (hbecomes : event.Becomes event') : event'.Carries payload := by
  cases hbecomes with
  | kept => exact h
  | dispatched hpending now => exact ⟨h.untried, h.others⟩
  | failed hpending error =>
    refine ⟨fun hzero => absurd hzero (Nat.succ_ne_zero _), fun key hkey => ?_⟩
    exact (lookup_setItem_of_ne hkey).trans (h.others key hkey)

/-- An event is sent as it was enqueued if the note of its failure is part of both. -/
lemma OutboxEvent.Carries.same_iff {payload : List (String × Json)} (h : event.Carries payload) :
    SameDict event.payload payload ↔
      event.attempts = 0 ∨ event.payload.lookup "last_error" = payload.lookup "last_error" := by
  constructor
  · exact fun hsame => .inr (hsame "last_error")
  · rintro (hzero | herror) key
    · rw [h.untried hzero]
    · by_cases hkey : key = "last_error"
      · rw [hkey, herror]
      · exact h.others key hkey

end

/-! ## One step -/

section

variable {py : Py} {createdAt : EventId → Instant} {log : OutboxLog} {outbox : Outbox}

variable (py createdAt outbox) in
/-- The rows after a dispatch. -/
lemma Dispatch.run_row (d : Dispatch) (id : EventId) :
    ((d.run py createdAt outbox).2.events.row id = none ∧ outbox.events.row id = none) ∨
      ∃ event event', outbox.events.row id = some event ∧
        (d.run py createdAt outbox).2.events.row id = some event' ∧ event.Becomes event' := by
  have hkept : (outbox.events.row id = none ∧ outbox.events.row id = none) ∨
      ∃ event event', outbox.events.row id = some event ∧
        outbox.events.row id = some event' ∧ event.Becomes event' := by
    cases hrow : outbox.events.row id with
    | none => exact .inl ⟨rfl, rfl⟩
    | some event => exact .inr ⟨event, event, rfl, rfl, .kept event⟩
  -- the claimed rows are rewritten, and they are pending
  have hclaimed : ∀ (f : OutboxEvent → OutboxEvent)
      (hf : ∀ event : OutboxEvent, event.Live → (f event).Live)
      (_ : ∀ event : OutboxEvent, event.state = .pending → event.Becomes (f event)),
      let after := outbox.rewrite (claimPendingEvents destinationAnalytics d.limit outbox) f hf
      (after.events.row id = none ∧ outbox.events.row id = none) ∨
      ∃ event event', outbox.events.row id = some event ∧
        after.events.row id = some event' ∧ event.Becomes event' := by
    intro f hf hbecomes after
    have hnodup : (claimPendingEvents destinationAnalytics d.limit outbox).Nodup :=
      (outbox.nodup_pending _).sublist (List.take_sublist _ _)
    rw [Outbox.row_rewrite hnodup]
    split
    · next hmem =>
      obtain ⟨event, hrow, hclaim⟩ := Outbox.mem_pending.mp (List.mem_of_mem_take hmem)
      have hpending := ((Outbox.isClaimable_iff hrow).mp hclaim).2
      exact .inr ⟨event, f event, hrow, by rw [hrow]; rfl, hbecomes event hpending⟩
    · exact hkept
  rw [Dispatch.run_eq]
  split
  · exact hkept
  · dsimp only
    split
    · exact hclaimed _ _ fun event hpending => .dispatched hpending d.now
    · split
      · exact hclaimed _ _ fun event hpending => .failed hpending _
      · exact hkept

/-- The outbox after an event was enqueued. -/
lemma insertEvent_ok {eventType dedupeKey : String} {payload : List (String × Json)}
    {outbox' : Outbox} (h : insertEvent eventType dedupeKey payload outbox = .ok outbox') :
    (outbox.hasKey dedupeKey = true ∧ outbox' = outbox) ∨
      (outbox.hasKey dedupeKey = false ∧ outbox'.events =
        outbox.events.insert outbox.events.nextKey (newEvent eventType dedupeKey payload)) := by
  unfold insertEvent at h
  split at h
  · cases h
  · obtain rfl := Except.ok.inj h
    cases hkey : outbox.hasKey dedupeKey with
    | true => exact .inl ⟨rfl, enqueue_of_hasKey hkey⟩
    | false => exact .inr ⟨rfl, enqueue_of_not_hasKey hkey⟩

lemma Outbox.hasKey_iff {key : String} : outbox.hasKey key = true ↔
    ∃ id event, outbox.events.row id = some event ∧ event.dedupeKey = key := by
  constructor
  · intro h
    obtain ⟨id, hid⟩ := Option.isSome_iff_exists.mp h
    obtain ⟨event, hrow, hkey⟩ := Table.findKey_eq_some hid
    exact ⟨id, event, hrow, of_decide_eq_true hkey⟩
  · rintro ⟨id, event, hrow, hkey⟩
    by_contra hnone
    rw [Outbox.hasKey, Bool.not_eq_true, Option.isSome_eq_false_iff, Option.isNone_iff_eq_none]
      at hnone
    have hne := Table.findKey_eq_none.mp hnone id event hrow
    exact of_decide_eq_false hne hkey

end

/-! ## The invariant -/

/-- What holds of the outbox after every run. -/
structure OutboxLog.Sound (log : OutboxLog) : Prop where
  enqueued : ∀ entry ∈ log.written, log.outbox.hasKey entry.1 = true
  unique : ∀ i j a b, log.outbox.events.row i = some a → log.outbox.events.row j = some b →
    a.dedupeKey = b.dedupeKey → i = j
  settles : ∀ id event, log.outbox.events.row id = some event → event.Settles
  carries : ∀ id event, log.outbox.events.row id = some event →
    ∃ payload, log.written.lookup event.dedupeKey = some payload ∧ event.Carries payload

namespace OutboxLog

variable {py : Py} {createdAt : EventId → Instant} {log : OutboxLog}

lemma sound_start : start.Sound where
  enqueued := fun _ h => absurd h List.not_mem_nil
  unique := by
    rintro i j a b ⟨⟩
  settles := by
    rintro id event ⟨⟩
  carries := by
    rintro id event ⟨⟩

/-- A dispatch keeps the invariant. -/
lemma Sound.dispatch (h : log.Sound) (d : Dispatch) :
    (log.step py createdAt (.dispatch d)).Sound := by
  -- every row comes from one of before, with the same key
  have hrow : ∀ id event', (d.run py createdAt log.outbox).2.events.row id = some event' →
      ∃ event, log.outbox.events.row id = some event ∧ event.Becomes event' := by
    intro id event' hid
    rcases d.run_row py createdAt log.outbox id with
      ⟨hnone, -⟩ | ⟨event, after, hbefore, hafter, hbecomes⟩
    · rw [hnone] at hid
      cases hid
    · obtain rfl := Option.some.inj (hid.symm.trans hafter)
      exact ⟨event, hbefore, hbecomes⟩
  constructor
  case enqueued =>
    intro entry hentry
    obtain ⟨id, event, hbefore, hkey⟩ := Outbox.hasKey_iff.mp (h.enqueued entry hentry)
    refine Outbox.hasKey_iff.mpr ?_
    rcases d.run_row py createdAt log.outbox id with
      ⟨-, hnone⟩ | ⟨event, after, hbefore', hafter, hbecomes⟩
    · rw [hnone] at hbefore
      cases hbefore
    · obtain rfl := Option.some.inj (hbefore.symm.trans hbefore')
      exact ⟨id, after, hafter, hbecomes.dedupeKey.trans hkey⟩
  case unique =>
    intro i j a b hi hj hkey
    obtain ⟨a', ha, hbecomesA⟩ := hrow i a hi
    obtain ⟨b', hb, hbecomesB⟩ := hrow j b hj
    exact h.unique i j a' b' ha hb
      (hbecomesA.dedupeKey.symm.trans (hkey.trans hbecomesB.dedupeKey))
  case settles =>
    intro id event' hid
    obtain ⟨event, hbefore, hbecomes⟩ := hrow id event' hid
    exact (h.settles id event hbefore).becomes hbecomes
  case carries =>
    intro id event' hid
    obtain ⟨event, hbefore, hbecomes⟩ := hrow id event' hid
    obtain ⟨payload, hwritten, hcarries⟩ := h.carries id event hbefore
    exact ⟨payload, by rw [hbecomes.dedupeKey]; exact hwritten, hcarries.becomes hbecomes⟩

/-- An insert keeps the invariant. -/
lemma Sound.enqueue (h : log.Sound) (eventType dedupeKey : String)
    (payload : List (String × Json)) :
    (log.step py createdAt (.enqueue eventType dedupeKey payload)).Sound := by
  unfold OutboxLog.step
  dsimp only
  split
  · next outbox hinsert =>
    -- a key that was written keeps its first payload
    have hlookup : ∀ key first, log.written.lookup key = some first →
        (log.written ++ [(dedupeKey, payload)]).lookup key = some first := by
      intro key first hfirst
      rw [List.lookup_append, hfirst, Option.some_or]
    rcases insertEvent_ok hinsert with ⟨hkey, rfl⟩ | ⟨hkey, hevents⟩
    · refine ⟨fun entry hentry => ?_, h.unique, h.settles, fun id event hid => ?_⟩
      · rcases List.mem_append.mp hentry with hold | hnew
        · exact h.enqueued entry hold
        · obtain rfl := List.mem_singleton.mp hnew
          exact hkey
      · obtain ⟨first, hfirst, hcarries⟩ := h.carries id event hid
        exact ⟨first, hlookup _ first hfirst, hcarries⟩
    · have hfree : ∀ id event, log.outbox.events.row id = some event →
          event.dedupeKey ≠ dedupeKey := by
        intro id event hid heq
        rw [Outbox.hasKey_iff.mpr ⟨id, event, hid, heq⟩] at hkey
        cases hkey
      have hrow : ∀ id event, outbox.events.row id = some event →
          log.outbox.events.row id = some event ∨
            (id = log.outbox.events.nextKey ∧ event = newEvent eventType dedupeKey payload) := by
        intro id event hid
        rw [hevents, Table.row_insert] at hid
        split at hid
        · next hnew => exact .inr ⟨hnew, (Option.some.inj hid).symm⟩
        · exact .inl hid
      constructor
      case enqueued =>
        intro entry hentry
        refine Outbox.hasKey_iff.mpr ?_
        rcases List.mem_append.mp hentry with hold | hnew
        · obtain ⟨id, event, hid, heq⟩ := Outbox.hasKey_iff.mp (h.enqueued entry hold)
          refine ⟨id, event, ?_, heq⟩
          rw [hevents]
          exact Table.row_insert_of_some (Table.row_nextKey _) hid _
        · obtain rfl := List.mem_singleton.mp hnew
          exact ⟨log.outbox.events.nextKey, newEvent eventType dedupeKey payload,
            by rw [hevents, Table.row_insert_self], rfl⟩
      case unique =>
        intro i j a b hi hj heq
        rcases hrow i a hi with hi | ⟨rfl, rfl⟩ <;> rcases hrow j b hj with hj | ⟨rfl, rfl⟩
        · exact h.unique i j a b hi hj heq
        · exact absurd heq (hfree i a hi)
        · exact absurd heq.symm (hfree j b hj)
        · rfl
      case settles =>
        intro id event hid
        rcases hrow id event hid with hid | ⟨-, rfl⟩
        · exact h.settles id event hid
        · exact .inl ⟨rfl, Nat.zero_lt_succ 4⟩
      case carries =>
        intro id event hid
        rcases hrow id event hid with hid | ⟨-, rfl⟩
        · obtain ⟨first, hfirst, hcarries⟩ := h.carries id event hid
          exact ⟨first, hlookup _ first hfirst, hcarries⟩
        · -- the key was not written before
          have hnone : log.written.lookup dedupeKey = none := by
            rw [List.lookup_eq_none_iff]
            intro entry hentry
            have hne : dedupeKey ≠ entry.1 := by
              intro heq
              rw [heq, h.enqueued entry hentry] at hkey
              cases hkey
            exact bne_iff_ne.mpr hne
          refine ⟨payload, ?_, fun _ => rfl, fun _ _ => rfl⟩
          change (log.written ++ [(dedupeKey, payload)]).lookup dedupeKey = some payload
          rw [List.lookup_append, hnone, Option.none_or, List.lookup_cons, beq_self_eq_true]
  · exact h

/-- An operation keeps the invariant. -/
theorem Sound.step (h : log.Sound) (op : OutboxOp) : (log.step py createdAt op).Sound := by
  cases op with
  | enqueue eventType dedupeKey payload => exact h.enqueue eventType dedupeKey payload
  | dispatch d => exact h.dispatch d

/-- An event stays, under its key, and is left alone once it is not pending. -/
lemma step_row (op : OutboxOp) {id : EventId} {event : OutboxEvent}
    (hrow : log.outbox.events.row id = some event) :
    ∃ event', (log.step py createdAt op).outbox.events.row id = some event' ∧
      event'.dedupeKey = event.dedupeKey ∧ (event.state ≠ .pending → event' = event) := by
  cases op with
  | enqueue eventType dedupeKey payload =>
    refine ⟨event, ?_, rfl, fun _ => rfl⟩
    unfold OutboxLog.step
    dsimp only
    split
    · next outbox hinsert =>
      rcases insertEvent_ok hinsert with ⟨-, rfl⟩ | ⟨-, hevents⟩
      · exact hrow
      · rw [hevents]
        exact Table.row_insert_of_some (Table.row_nextKey _) hrow _
    · exact hrow
  | dispatch d =>
    rcases d.run_row py createdAt log.outbox id with
      ⟨-, hnone⟩ | ⟨before, after, hbefore, hafter, hbecomes⟩
    · rw [hnone] at hrow
      cases hrow
    · obtain rfl := Option.some.inj (hrow.symm.trans hbefore)
      exact ⟨after, hafter, hbecomes.dedupeKey, hbecomes.final⟩

lemma run_row (ops : List OutboxOp) {id : EventId} {event : OutboxEvent}
    (hrow : log.outbox.events.row id = some event) :
    ∃ event', (run (step py createdAt) log ops).outbox.events.row id = some event' ∧
      event'.dedupeKey = event.dedupeKey ∧ (event.state ≠ .pending → event' = event) := by
  induction ops generalizing log event with
  | nil => exact ⟨event, hrow, rfl, fun _ => rfl⟩
  | cons op ops ih =>
    obtain ⟨middle, hmiddle, hkey, hfinal⟩ :=
      @step_row py createdAt log op id event hrow
    obtain ⟨after, hafter, hkey', hfinal'⟩ := ih hmiddle
    refine ⟨after, hafter, hkey'.trans hkey, fun hstate => ?_⟩
    obtain rfl := hfinal hstate
    exact hfinal' hstate

/-! ## What is sent -/

variable (py createdAt) in
/-- What a dispatch posts for each row is the payload that the row was enqueued with. -/
def SendsWritten (log : OutboxLog) : OutboxOp → Prop
  | .enqueue _ _ _ => True
  | .dispatch d => ∀ request ∈ d.request py createdAt log.outbox,
      List.Forall₂ (fun row sent => ∃ payload, log.written.lookup row.2.dedupeKey = some payload ∧
        SameDict sent.properties payload) (d.sent py log.outbox) request.2.batch

variable (py) in
/-- No row that a dispatch sends has failed before, unless its payload came with the note of that
failure. -/
def SendsUntried (log : OutboxLog) : OutboxOp → Prop
  | .enqueue _ _ _ => True
  | .dispatch d => ∀ row ∈ d.sent py log.outbox,
      row.2.attempts = 0 ∨ ∃ payload, log.written.lookup row.2.dedupeKey = some payload ∧
        row.2.payload.lookup "last_error" = payload.lookup "last_error"

lemma Sound.sends_iff (h : log.Sound) (op : OutboxOp) :
    log.SendsWritten py createdAt op ↔ log.SendsUntried py op := by
  cases op with
  | enqueue eventType dedupeKey payload => exact Iff.rfl
  | dispatch d =>
    have hrow : ∀ row ∈ d.sent py log.outbox,
        (∃ payload, log.written.lookup row.2.dedupeKey = some payload ∧
          SameDict (toPosthogEvent py createdAt row).properties payload) ↔
        (row.2.attempts = 0 ∨ ∃ payload, log.written.lookup row.2.dedupeKey = some payload ∧
          row.2.payload.lookup "last_error" = payload.lookup "last_error") := by
      rintro ⟨id, event⟩ hsent
      obtain ⟨payload, hwritten, hcarries⟩ := h.carries id event (Dispatch.sent_pending hsent).1
      constructor
      · rintro ⟨first, hfirst, hsame⟩
        obtain rfl := Option.some.inj (hwritten.symm.trans hfirst)
        exact (hcarries.same_iff.mp hsame).imp_right fun herror => ⟨payload, hwritten, herror⟩
      · rintro (hzero | ⟨first, hfirst, herror⟩)
        · exact ⟨payload, hwritten, hcarries.same_iff.mpr (.inl hzero)⟩
        · obtain rfl := Option.some.inj (hwritten.symm.trans hfirst)
          exact ⟨payload, hwritten, hcarries.same_iff.mpr (.inr herror)⟩
    unfold SendsWritten SendsUntried Dispatch.request
    dsimp only
    split
    · next hempty =>
      have hnil := List.isEmpty_iff.mp hempty
      rw [hnil]
      exact ⟨fun _ row hrow => absurd hrow List.not_mem_nil, fun _ request hrequest => by
        cases hrequest⟩
    · simp only [Option.mem_some_iff, forall_eq', batchRequest]
      rw [List.forall₂_map_right_iff, List.forall₂_same]
      exact forall₂_congr hrow

end OutboxLog

/-! ## The result -/

/-- Events are kept, and delivered as they were written until their first failure. -/
theorem events_delivered (py : Py) (createdAt : EventId → Instant) (ops : List OutboxOp) :
    let log := run (OutboxLog.step py createdAt) OutboxLog.start ops
    (∀ entry ∈ log.written, ∃! id, ∃ event, log.outbox.events.row id = some event ∧
      event.dedupeKey = entry.1) ∧
    (∀ id event, log.outbox.events.row id = some event → event.Settles) ∧
    (∀ earlier later, ops = earlier ++ later → ∀ id event,
      (run (OutboxLog.step py createdAt) OutboxLog.start earlier).outbox.events.row id =
        some event →
      ∃ event', log.outbox.events.row id = some event' ∧ event'.dedupeKey = event.dedupeKey ∧
        (event.state ≠ .pending → event' = event)) ∧
    (EachStep (OutboxLog.step py createdAt) (OutboxLog.SendsWritten py createdAt)
        OutboxLog.start ops ↔
      EachStep (OutboxLog.step py createdAt) (OutboxLog.SendsUntried py) OutboxLog.start ops) := by
  intro log
  have hsound : log.Sound :=
    run_invariant (I := OutboxLog.Sound) (A := fun _ => True) (C := fun _ _ => True)
      (fun _ op _ h _ => h.step op) (fun _ _ => trivial) OutboxLog.sound_start
      (eachStep_true _ _ _)
  refine ⟨fun entry hentry => ?_, hsound.settles, ?_, ?_⟩
  · obtain ⟨id, event, hrow, hkey⟩ := Outbox.hasKey_iff.mp (hsound.enqueued entry hentry)
    refine ⟨id, ⟨event, hrow, hkey⟩, ?_⟩
    rintro j ⟨other, hother, hkey'⟩
    exact hsound.unique j id other event hother hrow (hkey'.trans hkey.symm)
  · rintro earlier later rfl id event hrow
    have hrun : log = run (OutboxLog.step py createdAt)
        (run (OutboxLog.step py createdAt) OutboxLog.start earlier) later := run_append _ _ _
    rw [hrun]
    exact OutboxLog.run_row later hrow
  · exact eachStep_congr_of_invariant (I := OutboxLog.Sound) (A := fun _ => True)
      (fun _ op _ h => h.sends_iff op) (fun _ op _ h _ => h.step op) (fun _ _ => trivial)
      OutboxLog.sound_start

/-! ## An event that is sent twice -/

/-- A dispatch that is answered with a status. -/
def answeredWith (statusCode : ℕ) : Dispatch where
  settings := { posthogApiKey := some "key", posthogDispatchEnabled := some true }
  host := "https://us.i.posthog.com"
  post := fun _ => .ok ⟨statusCode, "Server error '500 Internal Server Error'"⟩
  now := Sample.start
  limit := 100

/-- One event; the batch with it is refused, and sent again. -/
def refusedOnce : List OutboxOp :=
  [.enqueue "thing" "fail-1" [("n", .int 1)], .dispatch (answeredWith 500), .dispatch (answeredWith 200)]

/-- The second attempt sends the text of the failure with the event. -/
theorem retry_sends_failure :
    ¬ EachStep (OutboxLog.step Sample.py fun _ => Sample.start)
      (OutboxLog.SendsWritten Sample.py fun _ => Sample.start) OutboxLog.start refusedOnce := by
  intro hsteps
  set log := run (OutboxLog.step Sample.py fun _ => Sample.start) OutboxLog.start
    (refusedOnce.take 2) with hlog
  have hsound : log.Sound :=
    (OutboxLog.sound_start.step (refusedOnce.get ⟨0, by decide⟩)).step
      (refusedOnce.get ⟨1, by decide⟩)
  have huntried : log.SendsUntried Sample.py (.dispatch (answeredWith 200)) :=
    (hsound.sends_iff _).mp hsteps.2.2.1
  have hsent : ((answeredWith 200).sent Sample.py log.outbox).map (fun row =>
      (row.2.attempts, row.2.dedupeKey, (row.2.payload.lookup "last_error").isSome)) =
        [(1, "fail-1", true)] := by
    decide +kernel
  obtain ⟨row, hrow, hcolumns⟩ := List.mem_map.mp (hsent ▸ List.mem_singleton_self _)
  obtain ⟨hattempts, hcolumns⟩ := Prod.mk.inj hcolumns
  obtain ⟨hkey, hnote⟩ := Prod.mk.inj hcolumns
  rcases huntried row hrow with hzero | ⟨payload, hwritten, herror⟩
  · rw [hzero] at hattempts
    cases hattempts
  · -- the payload was written without a note
    have hwritten' : log.written.lookup "fail-1" = some [("n", .int 1)] := rfl
    rw [hkey, hwritten'] at hwritten
    obtain rfl := Option.some.inj hwritten
    rw [herror] at hnote
    cases hnote

end ScholarshipFinder
