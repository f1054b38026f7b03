import Tollgate.Dict
import Tollgate.Trie
import Tollgate.Store.Refusal

/-!
# Routes by path and host

A slot is a source path together with a host, and holds at most one route.  All slots of a path
share one trie node, so a request finds the deepest path that has any route and is then served
only by the slot of exactly its host: it never falls back to another host, nor to a shallower
path.
-/

namespace Tollgate

/-- The routes of a gateway, with their number. -/
structure Routes where
  slots : Trie (Dict String Route)
  count : Nat

namespace Routes

/-- No routes. -/
def empty : Routes :=
  ⟨.empty, 0⟩

instance : Inhabited Routes :=
  ⟨empty⟩

/-- The route in a slot. -/
def occupant? (routes : Routes) (address : List String) (host : String) : Option Route :=
  (routes.slots.get? address).bind (·.get? host)

/-- Fill a slot.  The count grows when the slot was free. -/
def fill (routes : Routes) (address : List String) (host : String) (route : Route) : Routes where
  slots :=
    match routes.slots.get? address with
    | some _ => routes.slots.modify (·.insert host route) address
    | none => (routes.slots.insert address (.singleton host route)).2
  count :=
    match routes.occupant? address host with
    | some _ => routes.count
    | none => routes.count + 1

/-- Clear a slot, and its trie node with the last host.  The route that was there comes along. -/
def clear (routes : Routes) (address : List String) (host : String) : Option Route × Routes :=
  match routes.slots.get? address with
  | none => (none, routes)
  | some hosts =>
      match hosts.get? host with
      | none => (none, routes)
      | some removed =>
          let slots :=
            if (hosts.erase host).isEmpty then (routes.slots.erase address).2
            else routes.slots.modify (·.erase host) address
          (some removed, ⟨slots, routes.count - 1⟩)

/-- Store a route in its slot, whoever holds it. -/
def set (routes : Routes) (route : Route) : Routes :=
  routes.fill route.address route.host route

/-- The refusal of a move into a slot that a route of another owner holds. -/
def conflict? (routes : Routes) (new : Route) : Option Refusal :=
  match routes.occupant? new.address new.host with
  | none => none
  | some occupant =>
      if occupant.sameOwner new then none
      else some (.slotTaken (Path.normalize new.sourcePath) new.host occupant.id)

/-- Whether the slot of a route is held by its own owner. -/
def holds (routes : Routes) (route : Route) : Bool :=
  match routes.occupant? route.address route.host with
  | none => false
  | some occupant => occupant.sameOwner route

/-- Move a route from its old slot to its new one.  The old slot is cleared only when it still
belongs to the old route's owner. -/
def update (routes : Routes) (old new : Route) : Except Refusal Routes :=
  match routes.conflict? new with
  | some refusal => .error refusal
  | none =>
      let freed := if routes.holds old then (routes.clear old.address old.host).2 else routes
      .ok (freed.set new)

/-- Clear the slot of a route. -/
def delete (routes : Routes) (route : Route) : Option Route × Routes :=
  routes.clear route.address route.host

/-- The route that serves a path on a host. -/
def get? (routes : Routes) (path host : String) : Option Route :=
  (routes.slots.lookup path).bind (·.get? host)

end Routes

end Tollgate
