import Tollgate.Proofs.Gateway.Stores
import Tollgate.Proofs.Store.Traffic

/-!
# Runs of a gateway

A run interleaves configuration events with requests.  What a run records is exactly what passed
authorization, in the order in which it did; events, public routes and requests that are turned
away leave the traffic as it was.
-/

namespace Tollgate

/-- Whether a decision turns a known route's caller away. -/
def Decision.isDenial : Decision → Bool
  | unauthorized => true
  | forbidden => true
  | rateLimited => true
  | _ => false

namespace Gateway

/-- A step of a run. -/
inductive Step where
  | event (event : Event)
  | request (request : Request) (now : Instant)
  deriving DecidableEq, Repr

/-- A request that passed authorization, with the rate that it passed under. -/
structure Passage extends Arrival where
  rate : Option Rate
  deriving DecidableEq, Repr

/-- What passes when a gateway handles a request. -/
def passage? (gateway : Gateway) (request : Request) (now : Instant) : Option Passage := do
  let route ← gateway.routes.get? request.path (request.host.getD "")
  let binding ← route.binding
  let path := route.forwardPath request.path
  match gateway.authorize route binding request path now with
  | .ok (.ok credential) =>
      let permission := gateway.grants.get? ⟨route.id.space, binding⟩ credential path
      some ⟨⟨⟨route.id, credential⟩, now⟩, permission.bind (·.rate)⟩
  | _ => none

/-- One step.  A refused event and a request that faults leave the gateway as it was. -/
def step (gateway : Gateway) : Step → Gateway
  | .event event => Batch.absorb apply gateway event
  | .request request now =>
      match gateway.handle request now with
      | .ok (_, next) => next
      | .error _ => gateway

/-- The gateway after some steps. -/
def run (gateway : Gateway) (steps : List Step) : Gateway :=
  steps.foldl step gateway

/-- What passes in one step. -/
def passed (gateway : Gateway) : Step → Option Passage
  | .event _ => none
  | .request request now => gateway.passage? request now

/-- What passes in a run, in order. -/
def passages (gateway : Gateway) : List Step → List Passage
  | [] => []
  | first :: rest => (gateway.passed first).toList ++ (gateway.step first).passages rest

namespace Step

/-- The time of a request. -/
def time? : Step → Option Instant
  | .event _ => none
  | .request _ now => some now

end Step

variable {gateway : Gateway}

@[simp]
theorem run_nil (gateway : Gateway) : gateway.run [] = gateway :=
  rfl

theorem run_append (gateway : Gateway) (first second : List Step) :
    gateway.run (first ++ second) = (gateway.run first).run second :=
  List.foldl_append

theorem passages_append (gateway : Gateway) (first second : List Step) :
    gateway.passages (first ++ second) =
      gateway.passages first ++ (gateway.run first).passages second := by
  induction first generalizing gateway with
  | nil => rfl
  | cons step rest ih =>
      rw [List.cons_append, passages, passages, ih, List.append_assoc]
      rfl

/-! ## What passes -/

/-- The caller of a request is the credential under the value that it presents, if that belongs to
the namespace. -/
theorem caller?_eq_some_iff {space : String} {request : Request} {holder : Credential} :
    gateway.caller? space request = some holder ↔
      ∃ value, request.credential = some value ∧ gateway.keys.get? value = some holder ∧
        holder.id.space = space := by
  rw [caller?, Option.filter_eq_some_iff, Option.bind_eq_some_iff, decide_eq_true_eq]
  constructor
  · rintro ⟨⟨value, presented, held⟩, home⟩
    exact ⟨value, presented, held, home⟩
  · rintro ⟨value, presented, held, home⟩
    exact ⟨⟨value, presented, held⟩, home⟩

/-- Whoever presents no value that leads into the namespace is a stranger there. -/
theorem caller?_eq_none {space : String} {request : Request}
    (nowhere : ∀ value holder, request.credential = some value →
      gateway.keys.get? value = some holder → holder.id.space ≠ space) :
    gateway.caller? space request = none := by
  rw [Option.eq_none_iff_forall_ne_some]
  intro holder found
  obtain ⟨value, presented, held, home⟩ := caller?_eq_some_iff.mp found
  exact nowhere value holder presented held home

/-- A caller is admitted exactly when the binding is loaded, the credential is known in the
route's namespace and may use the method on the path, and the rate is not used up. -/
theorem authorize_eq_ok_iff {route : Route} {binding : String} {request : Request} {path : String}
    {now : Instant} {credential : String} :
    gateway.authorize route binding request path now = .ok (.ok credential) ↔
      gateway.grants.contains ⟨route.id.space, binding⟩ = true ∧
        ∃ caller, gateway.caller? route.id.space request = some caller ∧
          caller.id.name = credential ∧
          ∃ permission,
            gateway.grants.get? ⟨route.id.space, binding⟩ credential path = some permission ∧
              permission.rule.authorizes request.method = true ∧
              ∀ rate, permission.rate = some rate →
                gateway.traffic.violates rate ⟨route.id, credential⟩ now = .ok false := by
  constructor
  · intro admitted
    simp only [authorize] at admitted
    split at admitted
    · cases admitted
    · next loaded =>
      refine ⟨by simpa using loaded, ?_⟩
      split at admitted
      · cases admitted
      · next caller known =>
        split at admitted
        · cases admitted
        · next permission granted =>
          split at admitted
          · cases admitted
          · next allowed =>
            split at admitted
            · next unlimited =>
              cases admitted
              refine ⟨caller, known, rfl, permission, granted, by simpa using allowed, ?_⟩
              intro rate limited
              rw [unlimited] at limited
              contradiction
            · next rate limited =>
              split at admitted
              · cases admitted
              · cases admitted
              · next passes =>
                cases admitted
                refine ⟨caller, known, rfl, permission, granted, by simpa using allowed, ?_⟩
                intro other same
                rw [limited] at same
                cases same
                exact passes
  · rintro ⟨loaded, caller, known, rfl, permission, granted, allowed, passes⟩
    simp only [authorize, loaded, known, granted, allowed, Bool.not_true, Bool.false_eq_true,
      if_false]
    cases limited : permission.rate with
    | none => rfl
    | some rate => simp only [passes rate limited]

/-- Who is admitted is never answered by a denial. -/
theorem isDenial_answer (gateway : Gateway) (route : Route) (path method : String) :
    (gateway.answer route path method).isDenial = false := by
  rw [answer]
  split
  · split <;> rfl
  · rfl

/-- A request for a public route is answered, and leaves no trace. -/
theorem handle_of_public {request : Request} {now : Instant} {route : Route}
    (resolved : gateway.routes.get? request.path (request.host.getD "") = some route)
    (unguarded : route.binding = none) :
    gateway.handle request now =
      .ok (gateway.answer route (route.forwardPath request.path) request.method, gateway) := by
  simp only [handle, resolved, unguarded]

/-- What a request for a protected route comes to, given whether its caller is admitted: one that
is turned away leaves no trace, any other is recorded. -/
def settle (gateway : Gateway) (route : Route) (request : Request) (now : Instant) :
    Except Decision String → Decision × Gateway
  | .error denied => (denied, gateway)
  | .ok credential =>
      (gateway.answer route (route.forwardPath request.path) request.method,
        gateway.recordPass route credential now)

/-- A request for a protected route comes to what the authorization of its caller says. -/
theorem handle_of_guarded {request : Request} {now : Instant} {route : Route} {binding : String}
    (resolved : gateway.routes.get? request.path (request.host.getD "") = some route)
    (guarded : route.binding = some binding) :
    gateway.handle request now =
      (gateway.authorize route binding request (route.forwardPath request.path) now).map
        (gateway.settle route request now) := by
  simp only [handle, resolved, guarded]
  cases gateway.authorize route binding request (route.forwardPath request.path) now with
  | error fault => rfl
  | ok outcome => cases outcome <;> rfl

/-- Without the binding nobody is admitted. -/
theorem authorize_of_unbound {route : Route} {name : String}
    (unbound : gateway.grants.contains ⟨route.id.space, name⟩ = false) (request : Request)
    (path : String) (now : Instant) :
    gateway.authorize route name request path now = .ok (.error .forbidden) := by
  simp only [authorize, unbound, Bool.not_false, if_true]

/-- A stranger is turned away, as unauthorized if there is a binding to go by. -/
theorem authorize_of_stranger {route : Route} {request : Request}
    (stranger : gateway.caller? route.id.space request = none)
    (name path : String) (now : Instant) :
    gateway.authorize route name request path now =
      .ok (.error (if gateway.grants.contains ⟨route.id.space, name⟩ then .unauthorized
        else .forbidden)) := by
  simp only [authorize, stranger]
  cases gateway.grants.contains ⟨route.id.space, name⟩ <;> rfl

/-- A stranger is turned away from every protected route. -/
theorem handle_of_stranger {request : Request} {now : Instant} {route : Route} {name : String}
    (resolved : gateway.routes.get? request.path (request.host.getD "") = some route)
    (guarded : route.binding = some name)
    (stranger : gateway.caller? route.id.space request = none) :
    gateway.handle request now =
      .ok (if gateway.grants.contains ⟨route.id.space, name⟩ then .unauthorized else .forbidden,
        gateway) := by
  rw [handle_of_guarded resolved guarded, authorize_of_stranger stranger]
  rfl

/-- A route that passes a request is protected, and admits its caller. -/
theorem passage?_eq_some_iff {request : Request} {now : Instant} {passage : Passage} :
    gateway.passage? request now = some passage ↔
      ∃ route binding credential,
        gateway.routes.get? request.path (request.host.getD "") = some route ∧
          route.binding = some binding ∧
          gateway.authorize route binding request (route.forwardPath request.path) now =
            .ok (.ok credential) ∧
          passage = ⟨⟨⟨route.id, credential⟩, now⟩,
            (gateway.grants.get? ⟨route.id.space, binding⟩ credential
              (route.forwardPath request.path)).bind (·.rate)⟩ := by
  constructor
  · intro passes
    rcases Option.bind_eq_some_iff.mp passes with ⟨route, resolved, afterRoute⟩
    rcases Option.bind_eq_some_iff.mp afterRoute with ⟨binding, guarded, afterBinding⟩
    simp only at afterBinding
    split at afterBinding
    · next credential admitted =>
      cases afterBinding
      exact ⟨route, binding, credential, resolved, guarded, admitted, rfl⟩
    · contradiction
  · rintro ⟨route, binding, credential, resolved, guarded, admitted, rfl⟩
    simp only [passage?, resolved, guarded, admitted, Option.bind_eq_bind, Option.bind_some]

/-- What passes under a rate has not used it up. -/
theorem violates_of_passage? {request : Request} {now : Instant} {passage : Passage} {rate : Rate}
    (passes : gateway.passage? request now = some passage) (limited : passage.rate = some rate) :
    passage.time = now ∧ gateway.traffic.violates rate passage.bucket now = .ok false := by
  rcases passage?_eq_some_iff.mp passes with ⟨route, binding, credential, _, _, admitted, rfl⟩
  rcases authorize_eq_ok_iff.mp admitted with ⟨_, _, _, _, permission, granted, _, unspent⟩
  rw [granted] at limited
  exact ⟨rfl, unspent rate limited⟩

theorem time_of_passage? {request : Request} {now : Instant} {passage : Passage}
    (passes : gateway.passage? request now = some passage) : passage.time = now := by
  rcases passage?_eq_some_iff.mp passes with ⟨_, _, _, _, _, _, rfl⟩
  rfl

/-! ## What is recorded -/

theorem traffic_absorb (gateway : Gateway) (event : Event) :
    (Batch.absorb apply gateway event).traffic = gateway.traffic := by
  refine Batch.absorb_keeps
    (motive := fun next : Gateway => next.traffic = gateway.traffic) rfl ?_
  intro next granted
  exact (apply_frame granted).2.2.2.2

/-- A step records what passes in it, and nothing else. -/
theorem traffic_step (gateway : Gateway) (step : Step) :
    (gateway.step step).traffic =
      gateway.traffic.add ((gateway.passed step).map Passage.toArrival) := by
  cases step with
  | event event => exact traffic_absorb gateway event
  | request request now =>
      simp only [Gateway.step, passed, handle, passage?]
      cases gateway.routes.get? request.path (request.host.getD "") with
      | none => rfl
      | some route =>
          cases guarded : route.binding with
          | none => simp [guarded, Traffic.add]
          | some binding =>
              simp only [guarded, Option.bind_eq_bind, Option.bind_some]
              cases gateway.authorize route binding request (route.forwardPath request.path)
                  now with
              | error fault => rfl
              | ok answer =>
                  cases answer with
                  | error denied => rfl
                  | ok credential => rfl

/-- After a run, a bucket has the times of what passed in it, behind what it had before. -/
theorem instants_run (gateway : Gateway) (steps : List Step) (bucket : Bucket) :
    (gateway.run steps).traffic.instants bucket =
      gateway.traffic.instants bucket ++
        ((gateway.passages steps).filter (·.bucket = bucket)).map (·.time) := by
  induction steps generalizing gateway with
  | nil => simp [passages]
  | cons step rest ih =>
      have onward : gateway.run (step :: rest) = (gateway.step step).run rest := rfl
      rw [onward, ih, traffic_step, Traffic.instants_add, passages, List.filter_append,
        List.map_append, List.append_assoc]
      congr 2
      cases gateway.passed step with
      | none => rfl
      | some passage => by_cases here : passage.bucket = bucket <;> simp [here]

/-- What passes does so at the time of its request. -/
theorem times_passages_sublist (gateway : Gateway) (steps : List Step) :
    ((gateway.passages steps).map (·.time)).Sublist (steps.filterMap Step.time?) := by
  induction steps generalizing gateway with
  | nil => exact List.Sublist.refl []
  | cons step rest ih =>
      rw [passages, List.map_append]
      cases step with
      | event event => exact ih (gateway.step (.event event))
      | request request now =>
          rw [List.filterMap_cons]
          cases passes : gateway.passage? request now with
          | none =>
              simp only [passed, passes]
              exact (ih _).cons now
          | some passage =>
              simp only [passed, passes, Step.time?]
              rw [Option.toList_some, List.map_singleton, time_of_passage? passes]
              exact (ih _).cons_cons now

end Gateway

end Tollgate
