import Tollgate.Proofs.Gateway.Run
import Tollgate.Proofs.Store.Grants
import Tollgate.Proofs.Store.Keyring
import Tollgate.Proofs.Store.RouteWrites

/-!
# What a run reaches

Requests change nothing but the traffic.  So every other store is, after a run, what the events of
the run made of it, in their order: routes stand in a table of slots, a name answers as the binding
that was last written under it, and a value leads to a credential that lists it.
-/

namespace Tollgate

namespace Gateway

/-- The event of a step, unless it is a request. -/
def Step.event? : Step → Option Event
  | .event change => some change
  | .request .. => none

/-- The events of a run, in their order. -/
def events (steps : List Step) : List Event :=
  steps.filterMap Step.event?

/-- A request changes nothing but the traffic. -/
theorem step_request (gateway : Gateway) (request : Request) (now : Instant) :
    ∃ traffic, gateway.step (.request request now) = { gateway with traffic } := by
  rw [step]
  cases resolved : gateway.routes.get? request.path (request.host.getD "") with
  | none =>
      simp only [handle, resolved]
      exact ⟨gateway.traffic, rfl⟩
  | some route =>
      cases guarded : route.binding with
      | none =>
          rw [handle_of_public resolved guarded]
          exact ⟨gateway.traffic, rfl⟩
      | some binding =>
          rw [handle_of_guarded resolved guarded]
          rcases gateway.authorize route binding request (route.forwardPath request.path) now with
            fault | denied | credential
          · exact ⟨gateway.traffic, rfl⟩
          · exact ⟨gateway.traffic, rfl⟩
          · exact ⟨_, rfl⟩

end Gateway

/-- After a run, a store that has no part in the traffic is what the events made of it. -/
theorem Store.state_run {σ α : Type} (store : Store σ α)
    (steady : ∀ gateway traffic, store.state { gateway with traffic } = store.state gateway)
    (gateway : Gateway) (steps : List Gateway.Step) :
    store.state (gateway.run steps) =
      Batch.final store.react (store.state gateway) (Gateway.events steps) := by
  induction steps generalizing gateway with
  | nil => rfl
  | cons step rest ih =>
      have onward : gateway.run (step :: rest) = (gateway.step step).run rest := rfl
      rw [onward, ih]
      cases step with
      | event event =>
          rw [Gateway.step, store.state_absorb]
          rfl
      | request request now =>
          obtain ⟨traffic, same⟩ := gateway.step_request request now
          rw [same, steady]
          rfl

namespace Gateway

variable (steps : List Step)

/-- The routes stand in the table that the writes of the events make. -/
theorem represents_run :
    (fresh.run steps).routes.Represents
      (Routes.Table.writeAll .empty ((events steps).filterMap Routes.writeOf?)) := by
  have reached : (fresh.run steps).routes = Batch.final Routes.answer .empty (events steps) :=
    Store.routes.state_run (fun _ _ => rfl) fresh steps
  rw [reached, Routes.final_eq_writeAll]
  exact Routes.represents_empty.writeAll _

/-- A name answers as the binding that stands under it. -/
theorem follows_run (id : ResourceName) :
    (fresh.run steps).grants.Follows id (Grants.standing? (events steps) id) := by
  have reached : (fresh.run steps).grants = Batch.final Store.grants.react .empty (events steps) :=
    Store.grants.state_run (fun _ _ => rfl) fresh steps
  rw [reached]
  exact Grants.follows_final (events steps) id

/-- The credentials are what the events made of them. -/
theorem keys_run (gateway : Gateway) :
    (gateway.run steps).keys = Batch.final Keyring.answer gateway.keys (events steps) :=
  Store.keys.state_run (fun _ _ => rfl) gateway steps

/-- A value leads to a credential that lists it. -/
theorem faithful_run : (fresh.run steps).keys.Faithful := by
  rw [keys_run]
  exact Keyring.faithful_final (events steps)

end Gateway

end Tollgate
