import Tollgate.Proofs.Gateway.Reached
import Tollgate.Proofs.Store.Mocks

/-!
# Namespaces apart

Bindings and mock targets are kept by namespace, but the values of credentials are not: whoever
registers a value takes it from its holder, and whoever drops it drops it for all.  So what happens
outside of a namespace may cost a caller its name there, and nothing else.
-/

namespace Tollgate

namespace Event

/-- An event about other resources than routes, none of them in a namespace. -/
def Outside (space : String) (event : Event) : Prop :=
  ∀ resource ∈ event.resources, resource.kind ≠ .route ∧ resource.id.space ≠ space

instance (space : String) (event : Event) : Decidable (event.Outside space) :=
  inferInstanceAs
    (Decidable (∀ resource ∈ event.resources, resource.kind ≠ .route ∧ resource.id.space ≠ space))

variable {space : String} {event : Event}

theorem Outside.ne (outside : event.Outside space) (name : String) :
    ∀ resource ∈ event.resources, resource.id ≠ ⟨space, name⟩ := by
  intro resource carried same
  apply (outside resource carried).2
  rw [same]

theorem Outside.concerns_route (outside : event.Outside space) :
    event.concerns .route = false :=
  decide_eq_false (outside event.resource event.resource_mem_resources).1

theorem names_of_carried {credential : Credential} {value : String}
    (carried : .credential credential ∈ event.resources)
    (listed : value ∈ credential.revisions) : event.names value = true := by
  rw [names, List.any_eq_true]
  exact ⟨_, carried, decide_eq_true listed⟩

end Event

/-- A value leads to a credential of a namespace. -/
def Keyring.LeadsInto (keys : Keyring) (space value : String) : Prop :=
  ∃ holder, keys.get? value = some holder ∧ holder.id.space = space

namespace Keyring

/-- Outside of a namespace events may take a value away from its holder there, if they name it, but
give it to nobody there. -/
theorem get?_final_of_outside (keys : Keyring) {events : List Event} {space : String}
    (outside : ∀ event ∈ events, event.Outside space) (value : String) :
    (Batch.final answer keys events).get? value = keys.get? value ∨
      (∃ event ∈ events, event.names value = true) ∧
        ¬(Batch.final answer keys events).LeadsInto space value := by
  apply Batch.final_keeps (motive := fun reached : Keyring =>
    reached.get? value = keys.get? value ∨
      (∃ event ∈ events, event.names value = true) ∧ ¬reached.LeadsInto space value) (.inl rfl)
  intro event member reached before
  have outcome := reached.outcome_absorb event value
  rw [LeadsInto]
  generalize (Batch.absorb answer reached event).get? value = after at outcome ⊢
  cases outcome with
  | kept => exact before
  | revoked named => exact .inr ⟨⟨event, member, named⟩, by simp⟩
  | issued credential carried listed =>
      refine .inr ⟨⟨event, member, Event.names_of_carried carried listed⟩, ?_⟩
      rintro ⟨holder, found, home⟩
      cases found
      exact (outside event member _ carried).2 home

end Keyring

namespace Gateway

/-- Two gateways have the same routes and traffic, and the same bindings and mock targets in a
namespace. -/
structure AgreesIn (space : String) (left right : Gateway) : Prop where
  routes : left.routes = right.routes
  traffic : left.traffic = right.traffic
  bindings : ∀ name,
    left.grants.bindings.get? ⟨space, name⟩ = right.grants.bindings.get? ⟨space, name⟩
  targets : ∀ name,
    left.mocks.targets.get? ⟨space, name⟩ = right.mocks.targets.get? ⟨space, name⟩

/-- What is applied outside of a namespace leaves it as it was, but for the credentials. -/
theorem agreesIn_applyAll (gateway : Gateway) {events : List Event} {space : String}
    (outside : ∀ event ∈ events, event.Outside space) :
    AgreesIn space (gateway.applyAll events).2 gateway where
  routes := by
    have untouched : events.filter (Event.concerns .route) = [] :=
      List.filter_eq_nil_iff.mpr fun event member => by
        rw [(outside event member).concerns_route]
        exact Bool.false_ne_true
    have reached := Store.routes.state_applyAll gateway events
    change _ = Batch.final _ _ (events.filter (Event.concerns .route)) at reached
    rw [untouched] at reached
    exact reached
  traffic := gateway.traffic_applyAll events
  bindings name := by
    have reached : (gateway.applyAll events).2.grants = _ :=
      Store.grants.state_applyAll_eq_final gateway events
    rw [reached]
    apply Batch.final_keeps (motive := fun grants : Grants =>
      grants.bindings.get? ⟨space, name⟩ = gateway.grants.bindings.get? ⟨space, name⟩) rfl
    intro event member grants same
    exact (grants.bindings_absorb_of_ne ((outside event member).ne name)).trans same
  targets name := by
    have reached : (gateway.applyAll events).2.mocks = _ :=
      Store.mocks.state_applyAll_eq_final gateway events
    rw [reached]
    apply Batch.final_keeps (motive := fun mocks : Mocks =>
      mocks.targets.get? ⟨space, name⟩ = gateway.mocks.targets.get? ⟨space, name⟩) rfl
    intro event member mocks same
    exact (mocks.targets_absorb_of_ne ((outside event member).ne name)).trans same

variable {left right : Gateway} {route : Route}

namespace AgreesIn

theorem contains_eq {space : String} (agrees : AgreesIn space left right) (name : String) :
    left.grants.contains ⟨space, name⟩ = right.grants.contains ⟨space, name⟩ := by
  rw [Grants.contains, Spaces.contains, agrees.bindings]
  rfl

theorem permission_eq {space : String} (agrees : AgreesIn space left right)
    (name credential path : String) :
    left.grants.get? ⟨space, name⟩ credential path =
      right.grants.get? ⟨space, name⟩ credential path := by
  rw [Grants.get?, agrees.bindings]
  rfl

theorem answer_eq (agrees : AgreesIn route.id.space left right) (path method : String) :
    left.answer route path method = right.answer route path method := by
  rw [answer, answer, Mocks.get?, Mocks.get?, agrees.targets]

/-- Where the caller is the same, it is admitted to the same. -/
theorem authorize_eq (agrees : AgreesIn route.id.space left right) {request : Request}
    (known : left.caller? route.id.space request = right.caller? route.id.space request)
    (name path : String) (now : Instant) :
    left.authorize route name request path now = right.authorize route name request path now := by
  simp only [authorize, known, agrees.contains_eq, agrees.permission_eq, agrees.traffic]

end AgreesIn

/-- What is applied outside of a namespace may make a stranger there of whoever presents a value
that it names.  Otherwise the caller is who it was. -/
theorem caller?_applyAll (gateway : Gateway) {events : List Event} {space : String}
    (outside : ∀ event ∈ events, event.Outside space) (request : Request) :
    (gateway.applyAll events).2.caller? space request = gateway.caller? space request ∨
      (gateway.applyAll events).2.caller? space request = none ∧
        ∃ value, request.credential = some value ∧
          ∃ event ∈ events, event.names value = true := by
  have reached : (gateway.applyAll events).2.keys = Batch.final Keyring.answer gateway.keys events :=
    Store.keys.state_applyAll_eq_final gateway events
  cases presented : request.credential with
  | none => simp [caller?, presented]
  | some value =>
      rcases gateway.keys.get?_final_of_outside outside value with same | ⟨named, nowhere⟩
      · left
        simp only [caller?, presented, Option.bind_some, reached, same]
      · right
        refine ⟨caller?_eq_none ?_, value, rfl, named⟩
        intro other holder shown held home
        rw [presented] at shown
        cases shown
        rw [reached] at held
        exact nowhere ⟨holder, held, home⟩

/-- The decision on a request. -/
def decision (gateway : Gateway) (request : Request) (now : Instant) :
    Except ClockFault Decision :=
  (gateway.handle request now).map Prod.fst

theorem decision_of_public {gateway : Gateway} {request : Request} {now : Instant}
    (resolved : gateway.routes.get? request.path (request.host.getD "") = some route)
    (unguarded : route.binding = none) :
    gateway.decision request now =
      .ok (gateway.answer route (route.forwardPath request.path) request.method) := by
  rw [decision, handle_of_public resolved unguarded]
  rfl

theorem decision_of_guarded {gateway : Gateway} {request : Request} {now : Instant}
    {name : String}
    (resolved : gateway.routes.get? request.path (request.host.getD "") = some route)
    (guarded : route.binding = some name) :
    gateway.decision request now =
      (gateway.authorize route name request (route.forwardPath request.path) now).map fun
        | .error denied => denied
        | .ok _ => gateway.answer route (route.forwardPath request.path) request.method := by
  rw [decision, handle_of_guarded resolved guarded]
  rcases gateway.authorize route name request (route.forwardPath request.path) now with
    fault | denied | credential
  · rfl
  · rfl
  · rfl

/-- What is applied outside of the namespace of a route, to other resources than routes, leaves the
decision on a request for the route as it was, except that a protected route may not know a caller
any more whose value is named.  Nothing that was turned away passes for it. -/
theorem decision_applyAll_outside {gateway : Gateway} {events : List Event} {request : Request}
    {route : Route}
    (resolved : gateway.routes.get? request.path (request.host.getD "") = some route)
    (outside : ∀ event ∈ events, event.Outside route.id.space) (now : Instant) :
    ((gateway.applyAll events).2.decision request now = gateway.decision request now ∨
      (gateway.applyAll events).2.decision request now = .ok .unauthorized ∧
        route.binding.isSome ∧
        ∃ value, request.credential = some value ∧
          ∃ event ∈ events, event.names value = true) ∧
      ∀ passage, (gateway.applyAll events).2.passage? request now = some passage →
        gateway.passage? request now = some passage := by
  have agrees := gateway.agreesIn_applyAll outside
  have callers := gateway.caller?_applyAll outside request
  generalize (gateway.applyAll events).2 = after at agrees callers ⊢
  have still : after.routes.get? request.path (request.host.getD "") = some route := by
    rw [agrees.routes, resolved]
  constructor
  · cases guarded : route.binding with
    | none =>
        left
        rw [decision_of_public resolved guarded, decision_of_public still guarded,
          agrees.answer_eq]
    | some name =>
        rw [decision_of_guarded resolved guarded, decision_of_guarded still guarded]
        rcases callers with known | ⟨stranger, named⟩
        · left
          rw [agrees.authorize_eq known]
          simp only [agrees.answer_eq]
        · rw [authorize_of_stranger stranger]
          cases bound : gateway.grants.contains ⟨route.id.space, name⟩ with
          | true =>
              right
              rw [agrees.contains_eq, bound]
              exact ⟨rfl, rfl, named⟩
          | false =>
              left
              rw [agrees.contains_eq, bound, authorize_of_unbound bound]
              rfl
  · intro passage passes
    obtain ⟨other, name, credential, again, guarded, admitted, rfl⟩ := passage?_eq_some_iff.mp passes
    rw [still] at again
    cases again
    rcases callers with known | ⟨stranger, _⟩
    · rw [agrees.authorize_eq known] at admitted
      rw [agrees.permission_eq]
      exact passage?_eq_some_iff.mpr ⟨route, name, credential, resolved, guarded, admitted, rfl⟩
    · rw [authorize_of_stranger stranger] at admitted
      cases admitted

/-- A protected route of one namespace. -/
def residence : Route :=
  { id := ⟨"default", "api"⟩, sourcePath := "/", backend := "one", binding := some "all" }

/-- A caller who may use the route. -/
def resident : List Step :=
  [.event (.added (.route residence)),
    .event (.added (.binding
      { id := ⟨"default", "all"⟩,
        entries := [{ credential := "alice", defaultRule := .global }] })),
    .event (.added (.credential ⟨⟨"default", "alice"⟩, ["secret"]⟩))]

/-- What another namespace does, with the same names; one of the events is refused. -/
def elsewhere : List Event :=
  [.added (.credential ⟨⟨"other", "alice"⟩, ["public"]⟩),
    .added (.binding { id := ⟨"other", "all"⟩ }),
    .added (.mockTarget ⟨⟨"other", "one"⟩, []⟩),
    .updated (.credential ⟨⟨"other", "alice"⟩, ["public"]⟩)
      (.credential ⟨⟨"other", "alice"⟩, ["hidden"]⟩),
    .deleted (.binding { id := ⟨"other", "all"⟩ })]

theorem decision_applyAll_outside_elsewhere :
    ((fresh.run resident).applyAll elsewhere).2.decision
        { path := "/items", method := "GET", credential := some "secret" } 0 =
      .ok (.forward residence "/items") := by
  have resolved : (fresh.run resident).routes.get? "/items" "" = some residence := by
    decide +kernel
  have silent : ∀ event ∈ elsewhere, event.names "secret" = false := by decide
  rcases (@decision_applyAll_outside (fresh.run resident) elsewhere
      { path := "/items", method := "GET", credential := some "secret" } residence resolved
      (by decide) 0).1 with same | ⟨_, _, value, presented, event, member, named⟩
  · rw [same]
    decide +kernel
  · cases presented
    rw [silent event member] at named
    contradiction

/-- A value that is registered elsewhere is lost to its holder. -/
example :
    ((fresh.run resident).applyAll
        [.added (.credential ⟨⟨"other", "mallory"⟩, ["secret"]⟩)]).2.decision
        { path := "/items", method := "GET", credential := some "secret" } 0 =
      .ok .unauthorized := by decide +kernel

end Gateway

end Tollgate
