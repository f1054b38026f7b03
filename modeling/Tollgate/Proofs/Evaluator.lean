import Tollgate.Gateway.Request
import Tollgate.Proofs.LongestPrefix

/-!
# What a manifest says about requests

The lists of a manifest and the requests that passed so far decide the next request.  The
evaluator here scans these lists and has no store: what the last write of a store leaves behind is
the last item of a list, and a walk down a trie is the longest address on the way.
-/

namespace Tollgate

namespace Rate

/-- Whether a request at some time counts against the rate: without a unit all do, otherwise those
within one unit before `now`. -/
def covers (rate : Rate) (now time : Instant) : Bool :=
  match rate.unit with
  | none => true
  | some unit => now - unit.nanos < time

/-- Whether earlier requests use up the rate.  An amount below one sets no limit. -/
def exhausted (rate : Rate) (earlier : List Instant) (now : Instant) : Bool :=
  1 ≤ rate.amount.toInt ∧ rate.amount.toInt ≤ earlier.countP (rate.covers now)

end Rate

namespace PermissionEntry

/-- The rule in force on a path: the last rule of the longest subpath on the way, else the
default. -/
def ruleFor (entry : PermissionEntry) (path : String) : Rule :=
  match Path.longestPrefix? (entry.subpaths.map (Path.parts ·.path)) (Path.parts path) with
  | none => entry.defaultRule
  | some address =>
      match entry.subpaths.reverse.find? (Path.parts ·.path = address) with
      | none => entry.defaultRule
      | some subpath => subpath.rule

end PermissionEntry

namespace Binding

/-- The last entry for a credential. -/
def entryFor? (binding : Binding) (credential : String) : Option PermissionEntry :=
  binding.entries.reverse.find? (·.credential = credential)

end Binding

namespace MockTarget

/-- The first response to a method among those of the longest path on the way. -/
def responseTo? (target : MockTarget) (path method : String) : Option MockRoute := do
  let address ← Path.longestPrefix? (target.routes.map (Path.parts ·.path)) (Path.parts path)
  target.routes.find? fun route => Path.parts route.path = address ∧ route.serves method

end MockTarget

namespace Manifest

/-- The route of a request: at the deepest source path on the way, whatever host it belongs to, the
last route of the request's host. -/
def routeFor? (manifest : Manifest) (path host : String) : Option Route := do
  let address ← Path.longestPrefix? (manifest.routes.map (Path.parts ·.sourcePath))
    (Path.parts path)
  manifest.routes.reverse.find? fun route =>
    Path.parts route.sourcePath = address ∧ route.host = host

/-- The last binding of a name. -/
def bindingFor? (manifest : Manifest) (id : ResourceName) : Option Binding :=
  manifest.bindings.reverse.find? (·.id = id)

/-- The last credential that lists a value. -/
def holderOf? (manifest : Manifest) (value : String) : Option Credential :=
  manifest.credentials.reverse.find? (value ∈ ·.revisions)

/-- The last mock target of a name that has routes. -/
def mockTargetFor? (manifest : Manifest) (id : ResourceName) : Option MockTarget :=
  manifest.mockTargets.reverse.find? fun target => target.id = id ∧ target.routes ≠ []

/-- The times of the requests of a bucket. -/
def timesIn (earlier : List Arrival) (bucket : Bucket) : List Instant :=
  (earlier.filter (·.bucket = bucket)).map Arrival.time

/-- Admit the caller of a protected route, or say why not. -/
def admission (manifest : Manifest) (earlier : List Arrival) (route : Route) (binding : String)
    (request : Request) (path : String) (now : Instant) : Except Decision String :=
  match manifest.bindingFor? ⟨route.id.space, binding⟩ with
  | none => .error .forbidden
  | some binding =>
      match (request.credential.bind manifest.holderOf?).filter
          (·.id.space = route.id.space) with
      | none => .error .unauthorized
      | some caller =>
          match binding.entryFor? caller.id.name with
          | none => .error .forbidden
          | some entry =>
              if !(entry.ruleFor path).authorizes request.method then .error .forbidden
              else if entry.rate.any
                  (·.exhausted (timesIn earlier ⟨route.id, caller.id.name⟩) now) then
                .error .rateLimited
              else .ok caller.id.name

/-- What answers an admitted request. -/
def outcome (manifest : Manifest) (route : Route) (path method : String) : Decision :=
  if route.mock then
    match (manifest.mockTargetFor? ⟨route.id.space, route.backend⟩).bind
        (·.responseTo? path method) with
    | some response => .mock response
    | none => .notFound
  else .forward route path

/-- The decision on a request, given the earlier requests that passed authorization, and the
request itself if it does so too. -/
def verdict (manifest : Manifest) (earlier : List Arrival) (request : Request) (now : Instant) :
    Decision × Option Arrival :=
  match manifest.routeFor? request.path (request.host.getD "") with
  | none => (.notFound, none)
  | some route =>
      let path := route.forwardPath request.path
      match route.binding with
      | none => (manifest.outcome route path request.method, none)
      | some binding =>
          match manifest.admission earlier route binding request path now with
          | .error denied => (denied, none)
          | .ok credential =>
              (manifest.outcome route path request.method, some ⟨⟨route.id, credential⟩, now⟩)

/-- The decisions on a sequence of requests. -/
def verdicts (manifest : Manifest) : List Arrival → List (Request × Instant) → List Decision
  | _, [] => []
  | earlier, (request, now) :: rest =>
      let (decision, passed) := manifest.verdict earlier request now
      decision :: manifest.verdicts (earlier ++ passed.toList) rest

end Manifest

end Tollgate
