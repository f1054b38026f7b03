import Tollgate.Path
import Tollgate.Resource.Name

/-!
# Routes

A route maps requests below a source path, on one virtual host or on none, to a backend.
`forwardPath` gives the path under which the backend sees a request.
-/

namespace Tollgate

/-- A declarative mapping from an inbound path and virtual host to a backend. -/
structure Route where
  id : ResourceName
  sourcePath : String
  /-- An absent or empty host stands for requests that name no host. -/
  sourceHost : Option String := none
  targetPath : String := ""
  backend : String
  tls : Bool := false
  plugins : List String := []
  /-- The binding that authorizes callers; a route without one is public. -/
  binding : Option String := none
  /-- Whether `backend` names a mock target in the route's namespace. -/
  mock : Bool := false
  deriving DecidableEq, Repr, Inhabited

namespace Route

/-- The host that the route answers, empty for requests that name none. -/
def host (route : Route) : String :=
  route.sourceHost.getD ""

/-- Where the route lives in the trie: the segments of its source path. -/
def address (route : Route) : List String :=
  Path.normalizedSegments route.sourcePath

/-- Two routes have one owner when name, namespace and virtual host agree. -/
def sameOwner (route other : Route) : Bool :=
  route.id = other.id && route.host = other.host

/-- What a normalized request path has beyond a normalized source path.  The root source covers
every request whole; any other source must end where a segment ends. -/
def beyond? (source request : String) : Option (List Char) :=
  if source = "/" then some request.toList
  else
    match Path.behind? source.toList request.toList with
    | some [] => some []
    | some ('/' :: rest) => some ('/' :: rest)
    | _ => none

/-- The path that the backend sees: the target path with what the request has beyond the source
path, or the normalized request path when the source does not cover it. -/
def forwardPath (route : Route) (request : String) : String :=
  let request := Path.normalize request
  match beyond? (Path.normalize route.sourcePath) request with
  | none => request
  | some rest =>
      let target := Path.normalize route.targetPath
      if target = "/" then
        if rest = [] then "/" else String.ofList rest
      else target ++ String.ofList rest

end Route

end Tollgate
