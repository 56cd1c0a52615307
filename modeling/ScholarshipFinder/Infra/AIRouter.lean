import ScholarshipFinder.Core.Cursors
import ScholarshipFinder.Infra.Posthog

/-!
# The AI Router (`domain/ai_router.py`, `infra/ai_router_client.py`)

The client posts a request under an idempotency key, and the Router answers a key that it has
answered before with its first answer.  `AIRouter` is what the Router remembers: it is not part of
this repository, and nothing else is assumed of it.
-/

namespace ScholarshipFinder

open Lib

inductive AITask
  | scholarshipExtraction
  | matchExplanation
deriving DecidableEq, Repr

def AITask.value : AITask → String
  | .scholarshipExtraction => "scholarship_extraction"
  | .matchExplanation => "match_explanation"

structure AIRouterRequest where
  task : AITask
  taskVersion : String
  schemaVersion : ℕ
  productId : String
  featureId : String
  correlationId : String
  idempotencyKey : String
  sourceData : List (String × Json)
  journeyId : Option String := none
  sessionId : Option String := none
  handoffId : Option String := none

inductive AIRouterOutcome
  | completed
  | review
  | budgetExhausted
  | providerUnavailable
deriving DecidableEq, Repr

/-- `AIRouterOutcome(value)` -/
def AIRouterOutcome.ofJson : Json → Except PyErr AIRouterOutcome
  | .str "completed" => .ok .completed
  | .str "review" => .ok .review
  | .str "budget_exhausted" => .ok .budgetExhausted
  | .str "provider_unavailable" => .ok .providerUnavailable
  | _ => valueError "is not a valid AIRouterOutcome"

structure AIRouterResponse where
  requestId : Json
  outcome : AIRouterOutcome
  output : Json
  modelPolicyVersion : Json
  traceReference : Json

/-- What is sent of a request, without the version fields. -/
structure ExecutePayload where
  productId : String
  featureId : String
  task : String
  correlationId : String
  idempotencyKey : String
  sourceData : List (String × Json)
  journeyId : Option String
  sessionId : Option String
  handoffId : Option String

def AIRouterRequest.payload (request : AIRouterRequest) : ExecutePayload where
  productId := request.productId
  featureId := request.featureId
  task := request.task.value
  correlationId := request.correlationId
  idempotencyKey := request.idempotencyKey
  sourceData := request.sourceData
  journeyId := request.journeyId
  sessionId := request.sessionId
  handoffId := request.handoffId

/-- An answer of the Router: its status, and what `response.json()` makes of its body. -/
structure RouterReply where
  status : HttpResponse
  body : Except PyErr Json

/-- A key that was answered: the request that was answered, and the answer. -/
structure RouterEntry where
  payload : ExecutePayload
  reply : RouterReply

/-- What the Router remembers under each idempotency key. -/
abbrev AIRouter := String → Option RouterEntry

/-- A request reaches the Router, which would give the answer `fresh` to a new key. -/
def AIRouter.receive (router : AIRouter) (payload : ExecutePayload) (fresh : RouterReply) :
    RouterReply × AIRouter :=
  match router payload.idempotencyKey with
  | some entry => (entry.reply, router)
  | none => (fresh, Function.update router payload.idempotencyKey (some ⟨payload, fresh⟩))

/-- What becomes of a request on its way. -/
inductive RouterExchange
  /-- It is not signed, or does not arrive. -/
  | lost (e : PyErr)
  /-- It arrives, and the answer does not come back. -/
  | unanswered (fresh : RouterReply) (e : PyErr)
  | answered (fresh : RouterReply)

/-- The response that is read from an answer. -/
def RouterReply.read (reply : RouterReply) : Except PyErr AIRouterResponse := do
  raiseForStatus reply.status
  let body ← reply.body
  match body with
  | .obj items =>
    let requestId ← body.getItem "request_id"
    let status ← body.getItem "status"
    let outcome ← AIRouterOutcome.ofJson status
    return ⟨requestId, outcome, (items.lookup "output").getD .null,
      (items.lookup "model_policy_version").getD .null,
      (items.lookup "trace_reference").getD .null⟩
  | _ => valueError "AI Router response must be an object"

/-- `AIRouterClient.execute` -/
def AIRouter.execute (router : AIRouter) (request : AIRouterRequest) :
    RouterExchange → Except PyErr AIRouterResponse × AIRouter
  | .lost e => (.error e, router)
  | .unanswered fresh e => (.error e, (router.receive request.payload fresh).2)
  | .answered fresh =>
    let received := router.receive request.payload fresh
    (received.1.read, received.2)

end ScholarshipFinder
