import Tollgate.Spaces
import Tollgate.Trie
import Tollgate.Store.Refusal

/-!
# Canned responses by mock target

Each mock target has a trie of its own, whose nodes hold all canned responses of a path in the
target's order.  A query takes the deepest node on the way and the first response there that
serves the method; it does not climb when none does.
-/

namespace Tollgate

/-- The mock targets of a gateway. -/
structure Mocks where
  targets : Spaces (Trie (List MockRoute))

namespace Mocks

/-- No mock targets. -/
def empty : Mocks :=
  ⟨.empty⟩

instance : Inhabited Mocks :=
  ⟨empty⟩

/-- Append a canned response at the node of its path. -/
def place (responses : Trie (List MockRoute)) (route : MockRoute) : Trie (List MockRoute) :=
  let address := Path.normalizedSegments route.path
  match responses.get? address with
  | some _ => responses.modify (· ++ [route]) address
  | none => (responses.insert address [route]).2

/-- Load a mock target, in place of one with the same name; it must have a route. -/
def set (mocks : Mocks) (target : MockTarget) : Except Refusal Mocks :=
  if target.routes = [] then .error (.emptyMockTarget target.id)
  else .ok ⟨mocks.targets.insert target.id (target.routes.foldl place .empty)⟩

/-- The canned response of a target to a path and a method. -/
def get? (mocks : Mocks) (target : ResourceName) (path method : String) : Option MockRoute := do
  let responses ← mocks.targets.get? target
  let candidates ← responses.lookup path
  candidates.find? (·.serves method)

/-- Unload a mock target; tells whether it was loaded. -/
def delete (mocks : Mocks) (target : ResourceName) : Bool × Mocks :=
  (mocks.targets.contains target, ⟨mocks.targets.erase target⟩)

/-- Whether no mock target is loaded. -/
def isEmpty (mocks : Mocks) : Bool :=
  mocks.targets.isEmpty

end Mocks

end Tollgate
