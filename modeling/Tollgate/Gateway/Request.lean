import Tollgate.Gateway.Basic

/-!
# Requests

A request is resolved to a route, then authorized under the route's binding, then held against
the rate; what passes is recorded and answered by the backend or by its mock.  The first check
that fails decides, and leaves no trace.
-/

namespace Tollgate

/-- What a gateway looks at of an inbound request. -/
structure Request where
  path : String
  /-- An absent host is the same as an empty one. -/
  host : Option String := none
  method : String
  /-- The secret value that the caller presents. -/
  credential : Option String := none
  deriving DecidableEq, Repr

/-- What becomes of a request. -/
inductive Decision where
  /-- There is no route, or no canned response for a route with a mock. -/
  | notFound
  /-- The route is protected and the credential absent, unknown, or of another namespace. -/
  | unauthorized
  /-- The credential may not use this method on this path. -/
  | forbidden
  /-- The rate of the credential is exhausted. -/
  | rateLimited
  /-- A canned response answers. -/
  | mock (response : MockRoute)
  /-- The backend answers, under the path that it serves. -/
  | forward (route : Route) (path : String)
  deriving DecidableEq, Repr

namespace Decision

/-- The decision's word. -/
def word : Decision → String
  | notFound => "not_found"
  | unauthorized => "unauthorized"
  | forbidden => "forbidden"
  | rateLimited => "rate_limited"
  | mock _ => "mock"
  | forward .. => "forward"

end Decision

namespace Gateway

/-- The credential that a request presents, if it belongs to a namespace. -/
def caller? (gateway : Gateway) (space : String) (request : Request) : Option Credential :=
  (request.credential.bind gateway.keys.get?).filter (·.id.space = space)

/-- Authorize the caller of a route protected by a binding: the name of the credential to which
the request is attributed, or the decision that turns it away. -/
def authorize (gateway : Gateway) (route : Route) (binding : String) (request : Request)
    (path : String) (now : Instant) : Except ClockFault (Except Decision String) :=
  let binding : ResourceName := ⟨route.id.space, binding⟩
  if !gateway.grants.contains binding then .ok (.error .forbidden)
  else
    match gateway.caller? route.id.space request with
    | none => .ok (.error .unauthorized)
    | some caller =>
        match gateway.grants.get? binding caller.id.name path with
        | none => .ok (.error .forbidden)
        | some permission =>
            if !permission.rule.authorizes request.method then .ok (.error .forbidden)
            else
              match permission.rate with
              | none => .ok (.ok caller.id.name)
              | some rate =>
                  match gateway.traffic.violates rate ⟨route.id, caller.id.name⟩ now with
                  | .error fault => .error fault
                  | .ok true => .ok (.error .rateLimited)
                  | .ok false => .ok (.ok caller.id.name)

/-- The answer to a request that may pass. -/
def answer (gateway : Gateway) (route : Route) (path method : String) : Decision :=
  if route.mock then
    match gateway.mocks.get? ⟨route.id.space, route.backend⟩ path method with
    | some response => .mock response
    | none => .notFound
  else .forward route path

/-- Record a request that passed under a credential. -/
def recordPass (gateway : Gateway) (route : Route) (credential : String) (now : Instant) :
    Gateway :=
  { gateway with traffic := gateway.traffic.record ⟨route.id, credential⟩ now }

/-- Decide a request, and record it when it passes a protected route. -/
def handle (gateway : Gateway) (request : Request) (now : Instant) :
    Except ClockFault (Decision × Gateway) :=
  match gateway.routes.get? request.path (request.host.getD "") with
  | none => .ok (.notFound, gateway)
  | some route =>
      let path := route.forwardPath request.path
      match route.binding with
      | none => .ok (gateway.answer route path request.method, gateway)
      | some binding =>
          match gateway.authorize route binding request path now with
          | .error fault => .error fault
          | .ok (.error denied) => .ok (denied, gateway)
          | .ok (.ok credential) =>
              .ok (gateway.answer route path request.method,
                gateway.recordPass route credential now)

end Gateway

end Tollgate
