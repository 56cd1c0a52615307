import ScholarshipFinder.Infra.MatchExplanations
import ScholarshipFinder.Lib.Run
import ScholarshipFinder.Sample
import ScholarshipFinder.Sample.Cursors

/-!
# Whose facts an explanation is about

The cache follows the facts, but the idempotency key does not: once the Router has explained a
cycle to a profile, a call with new facts is answered with the explanation of the old ones.
-/

namespace ScholarshipFinder

open Lib

/-- A request that is about the cycle, the facts and the profile of a call. -/
structure ExecutePayload.AsksFor (payload : ExecutePayload) (call : ExplanationCall) : Prop where
  cycle : payload.correlationId = uuidText call.cycleId
  facts : payload.sourceData.lookup "facts" = some (.obj call.facts)
  profile : payload.sourceData.lookup "profile" = some (.obj call.profile)

/-- The answer to a call comes back. -/
def RouterExchange.isAnswered : RouterExchange → Bool
  | .answered _ => true
  | _ => false

/-- The key of the Router for a cached row. -/
def keyText (key : CycleId × String) : String :=
  "match_explanation:" ++ uuidText key.1 ++ ":" ++ key.2

section

variable (py : ExplanationPy)

/-- An answer that gives an explanation. -/
def RouterReply.Explains (reply : RouterReply) (explanation : String) : Prop :=
  ∃ response, reply.read = .ok response ∧ response.explanation py.toPy = .ok (some explanation)

/-- What a call returns was made by the Router from the facts of this very call. -/
def ExplainsPassed (store : ExplanationStore) (call : ExplanationCall) : Prop :=
  ∀ explanation, (getMatchExplanation py call store).1 = .ok (some explanation) →
    ∃ entry, (getMatchExplanation py call store).2.router (call.idempotencyKey py) = some entry ∧
      entry.reply.Explains py explanation ∧ entry.payload.AsksFor call

/-- The Router has given an explanation under this key to a request about something else, and the
call is answered from the cache or by the Router. -/
def Replays (store : ExplanationStore) (call : ExplanationCall) : Prop :=
  ∃ entry explanation, store.router (call.idempotencyKey py) = some entry ∧
    entry.reply.Explains py explanation ∧ ¬ entry.payload.AsksFor call ∧
    ((store.cached py call).isSome ∨
      call.settings.isConfigured = true ∧ call.exchange.isAnswered = true)

/-- A cached row holds the explanation of the first answer under its key. -/
def ExplanationStore.Sound (store : ExplanationStore) : Prop :=
  ∀ key row, store.explanations.row key = some row →
    ∃ entry, store.router (keyText key) = some entry ∧ entry.reply.Explains py row.explanation

/-- One call. -/
def explanationStep (store : ExplanationStore) (call : ExplanationCall) : ExplanationStore :=
  (getMatchExplanation py call store).2

end

/-! ## The Router -/

section

variable {py : ExplanationPy} {router : AIRouter} {store : ExplanationStore}
  {call : ExplanationCall}

lemma asksFor_request (call : ExplanationCall) : (call.request py).payload.AsksFor call :=
  ⟨rfl, rfl, rfl⟩

/-- Under the key of a request there is an answer, the first one. -/
lemma AIRouter.receive_self (payload : ExecutePayload) (fresh : RouterReply) :
    ∃ entry, (router.receive payload fresh).2 payload.idempotencyKey = some entry ∧
      (router.receive payload fresh).1 = entry.reply ∧
      (router payload.idempotencyKey = some entry ∨
        router payload.idempotencyKey = none ∧ entry.payload = payload) := by
  unfold AIRouter.receive
  split
  · next entry hentry => exact ⟨entry, hentry, rfl, .inl hentry⟩
  · next hnone => exact ⟨⟨payload, fresh⟩, Function.update_self _ _ _, rfl, .inr ⟨hnone, rfl⟩⟩

/-- What was answered stays answered. -/
lemma AIRouter.receive_of_some {payload : ExecutePayload} {fresh : RouterReply} {key : String}
    {entry : RouterEntry} (h : router key = some entry) :
    (router.receive payload fresh).2 key = some entry := by
  unfold AIRouter.receive
  split
  · exact h
  · next hnone =>
    have hne : key ≠ payload.idempotencyKey := by
      rintro rfl
      rw [hnone] at h
      cases h
    exact (Function.update_of_ne hne _ _).trans h

lemma AIRouter.execute_of_some {request : AIRouterRequest} {exchange : RouterExchange}
    {key : String} {entry : RouterEntry} (h : router key = some entry) :
    (router.execute request exchange).2 key = some entry := by
  cases exchange with
  | lost e => exact h
  | unanswered fresh e => exact receive_of_some h
  | answered fresh => exact receive_of_some h

/-! ## One call -/

variable (py call store) in
/-- The ends of a call. -/
inductive ExplanationEnd : Except PyErr (Option String) × ExplanationStore → Prop
  | cached {explanation : String} (hcached : store.cached py call = some explanation) :
    ExplanationEnd (.ok (some explanation), store)
  | off (hcached : store.cached py call = none) (hoff : ¬ call.settings.isConfigured = true) :
    ExplanationEnd (.ok none, store)
  | explained {fresh : RouterReply} {explanation : String}
    (hconfigured : call.settings.isConfigured = true) (hexchange : call.exchange = .answered fresh)
    (hexplains : (store.router.receive (call.request py).payload fresh).1.Explains py
      explanation) :
    ExplanationEnd (.ok (some explanation), ExplanationStore.record py { store with
      router := (store.router.receive (call.request py).payload fresh).2 } call explanation)
  | unexplained {result : Except PyErr (Option String)} (hcached : store.cached py call = none)
    (hresult : ∀ explanation, result ≠ .ok (some explanation))
    (hfresh : ∀ fresh explanation, call.exchange = .answered fresh →
      ¬ (store.router.receive (call.request py).payload fresh).1.Explains py explanation) :
    ExplanationEnd (result, { store with
      router := (store.router.execute (call.request py) call.exchange).2 })

lemma RouterReply.Explains.of_read {reply : RouterReply} {explanation : String}
    {response : AIRouterResponse} (h : reply.Explains py explanation)
    (hread : reply.read = .ok response) :
    response.explanation py.toPy = .ok (some explanation) := by
  obtain ⟨response', hread', hexplanation⟩ := h
  obtain rfl := Except.ok.inj (hread.symm.trans hread')
  exact hexplanation

/-- A call ends in one of these ways. -/
theorem getMatchExplanation_ends (py : ExplanationPy) (call : ExplanationCall)
    (store : ExplanationStore) :
    ExplanationEnd py store call (getMatchExplanation py call store) := by
  unfold getMatchExplanation
  split
  · next explanation hcached => exact .cached hcached
  · next hcached =>
    split
    · next hoff => exact .off hcached hoff
    · next hconfigured =>
      rw [not_not] at hconfigured
      dsimp only
      split
      · next e herror =>
        refine .unexplained hcached ?_ ?_
        · intro explanation h
          split at h <;> cases h
        · rintro fresh explanation hexchange ⟨response, hread, -⟩
          rw [hexchange] at herror
          cases hread.symm.trans herror
      · next response hread =>
        split
        · next e hexplanation =>
          refine .unexplained hcached (by rintro explanation ⟨⟩) ?_
          intro fresh explanation hexchange hexplains
          rw [hexchange] at hread
          cases (hexplains.of_read hread).symm.trans hexplanation
        · next hexplanation =>
          refine .unexplained hcached (by rintro explanation ⟨⟩) ?_
          intro fresh explanation hexchange hexplains
          rw [hexchange] at hread
          cases (hexplains.of_read hread).symm.trans hexplanation
        · next explanation hexplanation =>
          cases hexchange : call.exchange with
          | lost e =>
            rw [hexchange] at hread
            cases hread
          | unanswered fresh e =>
            rw [hexchange] at hread
            cases hread
          | answered fresh =>
            rw [hexchange] at hread
            exact .explained hconfigured hexchange ⟨response, hread, hexplanation⟩

/-- A call keeps the invariant. -/
lemma ExplanationStore.Sound.step (h : store.Sound py) (call : ExplanationCall) :
    (explanationStep py store call).Sound py := by
  have hends := getMatchExplanation_ends py call store
  unfold explanationStep
  generalize getMatchExplanation py call store = result at hends
  cases hends with
  | cached hcached => exact h
  | off hcached hoff => exact h
  | @explained fresh explanation hconfigured hexchange hexplains =>
    intro key row hrow
    change (store.explanations.insert (call.cacheKey py) _).row key = some row at hrow
    rw [Table.row_insert] at hrow
    split at hrow
    · -- the row of this call holds what the Router answered
      next hkey =>
      subst hkey
      obtain rfl := Option.some.inj hrow
      obtain ⟨entry, hentry, hreply, -⟩ :=
        @AIRouter.receive_self store.router (call.request py).payload fresh
      exact ⟨entry, hentry, hreply ▸ hexplains⟩
    · obtain ⟨entry, hentry, hrowExplains⟩ := h key row hrow
      exact ⟨entry, AIRouter.receive_of_some hentry, hrowExplains⟩
  | unexplained hcached hresult hfresh =>
    intro key row hrow
    obtain ⟨entry, hentry, hexplains⟩ := h key row hrow
    exact ⟨entry, AIRouter.execute_of_some hentry, hexplains⟩

/-- A cached explanation is the one the Router gave under the key of the call. -/
lemma ExplanationStore.Sound.cached (h : store.Sound py) {explanation : String}
    (hcached : store.cached py call = some explanation) :
    ∃ entry, store.router (call.idempotencyKey py) = some entry ∧
      entry.reply.Explains py explanation := by
  unfold ExplanationStore.cached at hcached
  split at hcached
  · cases hcached
  · next row hrow =>
    split at hcached
    · cases hcached
    · obtain rfl := Option.some.inj hcached
      exact h (call.cacheKey py) row hrow

/-- The explanation of a call is its own exactly when nothing is replayed. -/
lemma ExplanationStore.Sound.explainsPassed_iff (h : store.Sound py) (call : ExplanationCall) :
    ExplainsPassed py store call ↔ ¬ Replays py store call := by
  have hends := getMatchExplanation_ends py call store
  unfold ExplainsPassed
  generalize getMatchExplanation py call store = result at hends
  cases hends with
  | @cached explanation hcached =>
    obtain ⟨entry, hentry, hexplains⟩ := h.cached hcached
    constructor
    · rintro hown ⟨other, -, hother, -, hnot, -⟩
      obtain ⟨own, howned, -, hasks⟩ := hown explanation rfl
      obtain rfl := Option.some.inj (hother.symm.trans howned)
      exact hnot hasks
    · rintro hreplays found hfound
      obtain rfl := Option.some.inj (Except.ok.inj hfound)
      refine ⟨entry, hentry, hexplains, ?_⟩
      by_contra hnot
      exact hreplays ⟨entry, explanation, hentry, hexplains, hnot, .inl (by rw [hcached]; rfl)⟩
  | off hcached hoff =>
    constructor
    · rintro - ⟨entry, explanation, -, -, -, hsome | ⟨hconfigured, -⟩⟩
      · rw [hcached] at hsome
        cases hsome
      · exact hoff hconfigured
    · rintro - explanation ⟨⟩
  | @explained fresh explanation hconfigured hexchange hexplains =>
    obtain ⟨entry, hentry, hreply, hfirst⟩ :=
      @AIRouter.receive_self store.router (call.request py).payload fresh
    constructor
    · rintro hown ⟨other, -, hother, -, hnot, -⟩
      obtain ⟨own, howned, -, hasks⟩ := hown explanation rfl
      have hkept := @AIRouter.receive_of_some store.router (call.request py).payload fresh _ _
        hother
      obtain rfl := Option.some.inj (hkept.symm.trans howned)
      exact hnot hasks
    · rintro hreplays found hfound
      obtain rfl := Option.some.inj (Except.ok.inj hfound)
      refine ⟨entry, hentry, hreply ▸ hexplains, ?_⟩
      rcases hfirst with hfirst | ⟨-, hpayload⟩
      · by_contra hnot
        exact hreplays ⟨entry, explanation, hfirst, hreply ▸ hexplains, hnot,
          .inr ⟨hconfigured, by rw [hexchange]; rfl⟩⟩
      · rw [hpayload]
        exact asksFor_request call
  | unexplained hcached hresult hfresh =>
    constructor
    · rintro - ⟨entry, explanation, hentry, hexplains, -, hsome | ⟨-, hanswered⟩⟩
      · rw [hcached] at hsome
        cases hsome
      · -- the Router would have given its first answer
        cases hexchange : call.exchange with
        | lost e =>
          rw [hexchange] at hanswered
          cases hanswered
        | unanswered fresh e =>
          rw [hexchange] at hanswered
          cases hanswered
        | answered fresh =>
          obtain ⟨first, -, hreply, hfirst | ⟨hnone, -⟩⟩ :=
            @AIRouter.receive_self store.router (call.request py).payload fresh
          · obtain rfl := Option.some.inj (hentry.symm.trans hfirst)
            exact hfresh fresh explanation hexchange (hreply ▸ hexplains)
          · cases hentry.symm.trans hnone
    · exact fun _ explanation hsome => absurd hsome (hresult explanation)

end

/-! ## The result -/

/-- Along a run of calls, each with the facts of its moment, what is returned was made from these
facts exactly as long as nothing is replayed. -/
theorem explanations_of_passed_facts (py : ExplanationPy) (router : AIRouter)
    (calls : List ExplanationCall) :
    EachStep (explanationStep py) (ExplainsPassed py) ⟨Table.empty, router⟩ calls ↔
      EachStep (explanationStep py) (fun store call => ¬ Replays py store call)
        ⟨Table.empty, router⟩ calls := by
  have hstart : ExplanationStore.Sound py ⟨Table.empty, router⟩ := by
    rintro key row ⟨⟩
  exact eachStep_congr_of_invariant (I := ExplanationStore.Sound py) (A := fun _ => True)
    (fun _ call _ h => h.explainsPassed_iff call) (fun _ call _ h _ => h.step call)
    (fun _ _ => trivial) hstart

/-! ## A funding that changes -/

/-- The digests of the dicts that occur here. -/
def explanationDigests : List (String × String) := [
  ("\x7b\"field\":null,\"origin_country\":\"DE\",\"program_levels\":[\"masters\"]\x7d",
    "47aa044ba391c3b52ced6e5bf3f5189ea366a9f8c94146dcfa6c00361cac60fb"),
  ("\x7b\"destinations\":[\"DE\"],\"funding\":\"full\"\x7d",
    "39be9360602ae8176057da2e505a8f81c67f0dc78f3ac0f52268b07d16601611"),
  ("\x7b\"destinations\":[\"DE\"],\"funding\":\"partial\"\x7d",
    "68906d2694a59bd8531672274578921cc4d21672f3200f74516c5f18aa0def31")]

def explanationPy : ExplanationPy where
  toPy := { Sample.py with
    sha256 := fun content =>
      ((explanationDigests.find? fun e => e.1.toUTF8.toList = content).map Prod.snd).getD "" }
  dumpsSorted := fun value =>
    match value with
    | .obj items => String.ofList (Sample.jsonText (.obj (items.insertionSort (·.1 ≤ ·.1))))
    | _ => String.ofList (Sample.jsonText value)

/-- The answer of the Router to a new request. -/
def explained (explanation : String) : RouterReply where
  status := ⟨200, ""⟩
  body := .ok (.obj [("request_id", .str "req-1"), ("status", .str "completed"),
    ("output", .obj [("explanation", .str explanation)])])

/-- A call for a master's degree, with the funding of the moment. -/
def fundingCall (funding explanation : String) : ExplanationCall where
  cycleId := 1
  scholarshipName := "Award A"
  providerName := "Example University"
  facts := [("destinations", .arr [.str "DE"]), ("funding", .str funding)]
  originCountry := "DE"
  programLevels := ["masters"]
  field := none
  decision := ⟨.confirmed, 100, [], []⟩
  settings := ⟨true, some "https://router.example.org", some "pem", some "kid-1"⟩
  exchange := .answered (explained explanation)

def fullCall : ExplanationCall := fundingCall "full" "Your costs are covered."

def partialCall : ExplanationCall := fundingCall "partial" "A part is covered."

/-- The funding that a request was about. -/
def ExecutePayload.isFunding (payload : ExecutePayload) (funding : String) : Bool :=
  (payload.sourceData.lookup "facts").any fun facts =>
    (facts.get "funding").toOption.any fun value => value.any (Json.eqStr funding)

/-- The second call returns the explanation of the first funding. -/
theorem changed_facts_replay_explanation :
    ¬ EachStep (explanationStep explanationPy) (ExplainsPassed explanationPy)
      ⟨Table.empty, fun _ => none⟩ [fullCall, partialCall] := by
  rintro ⟨-, hsecond, -⟩
  set store := explanationStep explanationPy ⟨Table.empty, fun _ => none⟩ fullCall with hstore
  have hresult : (getMatchExplanation explanationPy partialCall store).1 =
      .ok (some "Your costs are covered.") := by
    decide +kernel
  have hfunding : ((getMatchExplanation explanationPy partialCall store).2.router
      (partialCall.idempotencyKey explanationPy)).map (·.payload.isFunding "partial") =
        some false := by
    decide +kernel
  obtain ⟨entry, hentry, -, hasks⟩ := hsecond "Your costs are covered." hresult
  rw [hentry, Option.map_some, ExecutePayload.isFunding, hasks.facts] at hfunding
  cases hfunding

end ScholarshipFinder
