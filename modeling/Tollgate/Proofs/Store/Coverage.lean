import Tollgate.Proofs.Forwarding
import Tollgate.Proofs.Store.RouteWrites

/-!
# Resolved routes cover their requests

A request is resolved by a walk along the raw path, and rewritten by a comparison of normalized
texts.  The walk ends at the address of the route that it finds, since every route stands in its
own slot, so the comparison finds the source as well, and both agree on what is left of the
request.
-/

namespace Tollgate

namespace Routes

variable {routes : Routes} {table : Table} {path host : String} {route : Route}

/-- The route that serves a path stands on the host that was asked for, and its source begins the
path. -/
theorem Represents.covers (represents : routes.Represents table)
    (resolved : routes.get? path host = some route) :
    route.host = host ∧ Path.parts route.sourcePath <+: Path.parts path := by
  obtain ⟨address, begins, held, _⟩ := represents.get?_eq_some_iff.mp resolved
  obtain ⟨home, sameHost⟩ := Prod.mk.inj (represents.housed (address, host) route held)
  refine ⟨sameHost, ?_⟩
  -- The address is that of the normalized source, while the walk is along the raw path.
  rw [← Path.normalizedSegments_eq_parts]
  change route.address <+: _
  rwa [home]

/-- After whatever writes, the route that serves a path on a host is a route of this host whose
source begins the path.  The rewriting finds this source in the path, and what permissions and
mocks are then matched on has the segments of the target, followed by those that the path has
beyond the source: these are the segments that any trie is walked by. -/
theorem resolved_covers (writes : List Write)
    (resolved : (empty.writeAll writes).get? path host = some route) :
    route.host = host ∧
      Path.normalizedSegments route.sourcePath <+: Path.normalizedSegments path ∧
      (Route.beyond? (Path.normalize route.sourcePath) (Path.normalize path)).isSome ∧
      Path.normalizedSegments (route.forwardPath path) =
        Path.normalizedSegments route.targetPath ++
          (Path.normalizedSegments path).drop (Path.normalizedSegments route.sourcePath).length ∧
      ∀ {α : Type} (trie : Trie α), trie.lookup (route.forwardPath path) =
        trie.deepest (Path.normalizedSegments route.targetPath ++
          (Path.normalizedSegments path).drop
            (Path.normalizedSegments route.sourcePath).length) := by
  simp only [Path.normalizedSegments_eq_parts]
  obtain ⟨sameHost, covered⟩ := (represents_empty.writeAll writes).covers resolved
  have walked := Route.parts_forwardPath covered
  refine ⟨sameHost, covered, Route.isSome_beyond?_iff.mpr covered, walked, ?_⟩
  intro α trie
  rw [Trie.lookup, walked, Route.forwardParts]

/-- A route for whatever host-less requests there are, and one that has moved below it. -/
def nestedMove : List Write :=
  [.set { id := ⟨"default", "all"⟩, sourcePath := "/", targetPath := "/svc", backend := "one" },
    .set { id := ⟨"default", "api"⟩, sourcePath := "/api", sourceHost := some "h",
           backend := "two" },
    .update
      { id := ⟨"default", "api"⟩, sourcePath := "/api", sourceHost := some "h", backend := "two" }
      { id := ⟨"default", "api"⟩, sourcePath := "api//v1/", sourceHost := some "h",
        targetPath := "/v2", backend := "two" }]

/-- The deeper route serves the request, whatever slashes it is written with. -/
theorem resolved_covers_nestedMove :
    ∃ route, (empty.writeAll nestedMove).get? "//api/v1//items/" "h" = some route ∧
      route.host = "h" ∧
      Path.normalizedSegments (route.forwardPath "//api/v1//items/") = ["v2", "items"] := by
  have resolved : (empty.writeAll nestedMove).get? "//api/v1//items/" "h" = some
      { id := ⟨"default", "api"⟩, sourcePath := "api//v1/", sourceHost := some "h",
        targetPath := "/v2", backend := "two" } := by decide +kernel
  obtain ⟨sameHost, _, _, rewritten, _⟩ := resolved_covers nestedMove resolved
  refine ⟨_, resolved, sameHost, ?_⟩
  rw [rewritten]
  decide +kernel

end Routes

end Tollgate
