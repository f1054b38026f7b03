import Tollgate.Store.Routes
import Tollgate.Store.Grants
import Tollgate.Store.Keyring
import Tollgate.Store.Mocks
import Tollgate.Store.Traffic

/-!
# The stores of a gateway, and how events change them

An event is applied to the store of its resource's kind.  A refused event changes nothing; a
batch goes on past refused events and counts them.
-/

namespace Tollgate

/-- Everything a gateway answers from. -/
structure Gateway where
  routes : Routes := .empty
  grants : Grants := .empty
  keys : Keyring := .empty
  mocks : Mocks := .empty
  traffic : Traffic := .empty

namespace Gateway

/-- A gateway without resources or traffic. -/
def fresh : Gateway :=
  {}

instance : Inhabited Gateway :=
  ⟨fresh⟩

/-- Load a resource. -/
def add (gateway : Gateway) : Resource → Except Refusal Gateway
  | .route route => .ok { gateway with routes := gateway.routes.set route }
  | .binding binding => .ok { gateway with grants := gateway.grants.set binding }
  | .credential credential => .ok { gateway with keys := gateway.keys.set credential }
  | .mockTarget target => do
      let mocks ← gateway.mocks.set target
      return { gateway with mocks }

/-- Replace a binding, dropping the old name when it changes. -/
def updateBinding (grants : Grants) (old new : Binding) : Grants :=
  let kept := if old.id = new.id then grants else (grants.delete old.id).2
  kept.set new

/-- Replace a mock target, dropping the old name when it changes and the new one was accepted. -/
def updateMock (mocks : Mocks) (old new : MockTarget) : Except Refusal Mocks := do
  let loaded ← mocks.set new
  return if old.id = new.id then loaded else (loaded.delete old.id).2

/-- Replace a resource by its next version. -/
def update (gateway : Gateway) : Resource → Resource → Except Refusal Gateway
  | .route old, .route new => do
      let routes ← gateway.routes.update old new
      return { gateway with routes }
  | .binding old, .binding new =>
      .ok { gateway with grants := updateBinding gateway.grants old new }
  | .credential old, .credential new =>
      .ok { gateway with keys := gateway.keys.update old new }
  | .mockTarget old, .mockTarget new => do
      let mocks ← updateMock gateway.mocks old new
      return { gateway with mocks }
  | old, new => .error (.kindMismatch old.kind new.kind)

/-- Unload a resource, whether it is there or not. -/
def delete (gateway : Gateway) : Resource → Except Refusal Gateway
  | .route route => .ok { gateway with routes := (gateway.routes.delete route).2 }
  | .binding binding => .ok { gateway with grants := (gateway.grants.delete binding.id).2 }
  | .credential credential => do
      let (_, keys) ← gateway.keys.delete credential
      return { gateway with keys }
  | .mockTarget target => .ok { gateway with mocks := (gateway.mocks.delete target.id).2 }

/-- Apply one event. -/
def apply (gateway : Gateway) : Event → Except Refusal Gateway
  | .added resource => gateway.add resource
  | .updated old new => gateway.update old new
  | .deleted resource => gateway.delete resource

/-- Apply events in turn, past those that are refused; their number comes along. -/
def applyAll (gateway : Gateway) : List Event → Nat × Gateway
  | [] => (0, gateway)
  | event :: rest =>
      match gateway.apply event with
      | .ok next => next.applyAll rest
      | .error _ =>
          let (refused, last) := gateway.applyAll rest
          (refused + 1, last)

/-- Load every resource of a manifest. -/
def loadAll (gateway : Gateway) (manifest : Manifest) : Nat × Gateway :=
  gateway.applyAll (manifest.resources.map .added)

end Gateway

end Tollgate
