import Tollgate.Proofs.Gateway.Run

/-!
# Accounts of traffic

A bucket is an account of the requests that were admitted to it: a request for a protected route
of the bucket's name whose caller was authorized under the bucket's credential, whatever answered
it then.  The account of a run has the times of these requests in their order, and no other step
of the run touches any account.
-/

namespace Tollgate

namespace Gateway

/-- A request with the gateway that meets it. -/
structure Call where
  gateway : Gateway
  request : Request
  now : Instant

/-- The requests of a run, each with the gateway that the earlier steps left. -/
def calls (gateway : Gateway) : List Step → List Call
  | [] => []
  | .event event :: rest => (gateway.step (.event event)).calls rest
  | .request request now :: rest =>
      ⟨gateway, request, now⟩ :: (gateway.step (.request request now)).calls rest

namespace Call

/-- The request is for a protected route of the bucket's name, and its caller is authorized under
the bucket's credential. -/
def Admitted (call : Call) (bucket : Bucket) : Prop :=
  ∃ route binding,
    call.gateway.routes.get? call.request.path (call.request.host.getD "") = some route ∧
      route.binding = some binding ∧ route.id = bucket.route ∧
      call.gateway.authorize route binding call.request
        (route.forwardPath call.request.path) call.now = .ok (.ok bucket.credential)

/-- What passes by the call, if anything does. -/
def passage? (call : Call) : Option Passage :=
  call.gateway.passage? call.request call.now

variable {call : Call} {bucket : Bucket}

/-- A request is admitted to the bucket in which it passes. -/
theorem admitted_iff_passage? :
    call.Admitted bucket ↔ ∃ passage, call.passage? = some passage ∧ passage.bucket = bucket := by
  constructor
  · rintro ⟨route, binding, resolved, guarded, named, admitted⟩
    have passes := passage?_eq_some_iff.mpr
      ⟨route, binding, bucket.credential, resolved, guarded, admitted, rfl⟩
    exact ⟨_, passes, by rw [named]⟩
  · rintro ⟨passage, passes, rfl⟩
    obtain ⟨route, binding, credential, resolved, guarded, admitted, rfl⟩ :=
      passage?_eq_some_iff.mp passes
    exact ⟨route, binding, resolved, guarded, rfl, admitted⟩

instance (call : Call) (bucket : Bucket) : Decidable (call.Admitted bucket) :=
  decidable_of_iff (call.passage?.any (·.bucket = bucket)) (by
    rw [admitted_iff_passage?, Option.any_eq_true]
    simp only [decide_eq_true_eq])

end Call

variable {gateway : Gateway} {request : Request} {now : Instant}

/-- What passes in a run passes by one of its requests. -/
theorem passages_eq_filterMap_calls (gateway : Gateway) (steps : List Step) :
    gateway.passages steps = (gateway.calls steps).filterMap Call.passage? := by
  induction steps generalizing gateway with
  | nil => rfl
  | cons step rest ih =>
      rw [passages, ih]
      cases step with
      | event event => rfl
      | request request now =>
          rw [calls, List.filterMap_cons, passed, Call.passage?]
          cases gateway.passage? request now <;> rfl

/-- The times of what passes in a bucket are those of the requests that are admitted to it. -/
theorem times_passages (calls : List Call) (bucket : Bucket) :
    ((calls.filterMap Call.passage?).filter (·.bucket = bucket)).map (·.time) =
      (calls.filter (·.Admitted bucket)).map Call.now := by
  induction calls with
  | nil => rfl
  | cons call rest ih =>
      rw [List.filterMap_cons]
      cases passes : call.passage? with
      | none =>
          have turnedAway : ¬call.Admitted bucket := by
            simp [Call.admitted_iff_passage?, passes]
          rw [List.filter_cons_of_neg (by simpa using turnedAway)]
          exact ih
      | some passage =>
          have time : passage.time = call.now := time_of_passage? passes
          have enters : call.Admitted bucket ↔ passage.bucket = bucket := by
            simp [Call.admitted_iff_passage?, passes]
          by_cases here : passage.bucket = bucket
          · simp [here, enters.mpr here, time, ih]
          · simp [here, mt enters.mp here, ih]

/-- What a step enters into the accounts: nothing, if it is an event, or a request without a route
or for a public one, or one that is turned away or faults; and its time in one bucket, if it is a
request that is admitted there. -/
inductive Enters (gateway : Gateway) : Step → Option Arrival → Prop where
  | event (event : Event) : Enters gateway (.event event) none
  | unresolved {request : Request} {now : Instant}
      (missing : gateway.routes.get? request.path (request.host.getD "") = none) :
      Enters gateway (.request request now) none
  | unguarded {request : Request} {now : Instant} {route : Route}
      (resolved : gateway.routes.get? request.path (request.host.getD "") = some route)
      (free : route.binding = none) : Enters gateway (.request request now) none
  | denied {request : Request} {now : Instant} {decision : Decision} {next : Gateway}
      (answered : gateway.handle request now = .ok (decision, next))
      (denial : decision.isDenial = true) : Enters gateway (.request request now) none
  | faulted {request : Request} {now : Instant} {fault : ClockFault}
      (faults : gateway.handle request now = .error fault) :
      Enters gateway (.request request now) none
  | admitted {request : Request} {now : Instant} {bucket : Bucket}
      (admitted : Call.Admitted ⟨gateway, request, now⟩ bucket) :
      Enters gateway (.request request now) (some ⟨bucket, now⟩)

/-- Who is not admitted is answered by a denial. -/
theorem isDenial_of_authorize {route : Route} {binding path : String} {decision : Decision}
    (refused : gateway.authorize route binding request path now = .ok (.error decision)) :
    decision.isDenial = true := by
  unfold authorize at refused
  grind [Decision.isDenial]

/-- What passes is answered, and recorded. -/
theorem handle_of_passage? {passage : Passage}
    (passes : gateway.passage? request now = some passage) :
    ∃ route, gateway.handle request now =
      .ok (gateway.answer route (route.forwardPath request.path) request.method,
        gateway.recordPass route passage.bucket.credential now) := by
  obtain ⟨route, binding, credential, resolved, guarded, admitted, rfl⟩ :=
    passage?_eq_some_iff.mp passes
  use route
  rw [handle_of_guarded resolved guarded, admitted]
  rfl

theorem passage?_of_denied {decision : Decision} {next : Gateway}
    (answered : gateway.handle request now = .ok (decision, next))
    (denial : decision.isDenial = true) : gateway.passage? request now = none := by
  cases passes : gateway.passage? request now with
  | none => rfl
  | some passage =>
      obtain ⟨route, handled⟩ := handle_of_passage? passes
      rw [handled] at answered
      cases answered
      rw [isDenial_answer] at denial
      contradiction

theorem passage?_of_faulted {fault : ClockFault}
    (faults : gateway.handle request now = .error fault) :
    gateway.passage? request now = none := by
  cases passes : gateway.passage? request now with
  | none => rfl
  | some passage =>
      obtain ⟨route, handled⟩ := handle_of_passage? passes
      rw [handled] at faults
      contradiction

theorem toArrival_of_passage? {passage : Passage}
    (passes : gateway.passage? request now = some passage) :
    passage.toArrival = ⟨passage.bucket, now⟩ := by
  rw [← time_of_passage? passes]

/-- A request that does not pass has no route, is for a public one, is turned away, or faults. -/
theorem enters_none_of_passage? (stopped : gateway.passage? request now = none) :
    gateway.Enters (.request request now) none := by
  cases resolved : gateway.routes.get? request.path (request.host.getD "") with
  | none => exact .unresolved resolved
  | some route =>
      cases guarded : route.binding with
      | none => exact .unguarded resolved guarded
      | some binding =>
          have handled := @handle_of_guarded gateway request now route binding resolved guarded
          cases checked : gateway.authorize route binding request
              (route.forwardPath request.path) now with
          | error fault =>
              rw [checked] at handled
              exact .faulted handled
          | ok outcome =>
              rw [checked] at handled
              cases outcome with
              | error decision => exact .denied handled (isDenial_of_authorize checked)
              | ok credential =>
                  have passes := passage?_eq_some_iff.mpr
                    ⟨route, binding, credential, resolved, guarded, checked, rfl⟩
                  rw [stopped] at passes
                  contradiction

/-- A step enters exactly what passes in it. -/
theorem enters_iff {step : Step} {entry : Option Arrival} :
    gateway.Enters step entry ↔ entry = (gateway.passed step).map Passage.toArrival := by
  constructor
  · intro enters
    cases enters with
    | event event => rfl
    | unresolved missing => simp [passed, passage?, missing]
    | unguarded resolved free => simp [passed, passage?, resolved, free]
    | denied answered denial => rw [passed, passage?_of_denied answered denial, Option.map_none]
    | faulted faults => rw [passed, passage?_of_faulted faults, Option.map_none]
    | @admitted request now bucket admitted =>
        obtain ⟨passage, passes, rfl⟩ := Call.admitted_iff_passage?.mp admitted
        change gateway.passage? request now = some passage at passes
        rw [passed, passes, Option.map_some, toArrival_of_passage? passes]
  · rintro rfl
    cases step with
    | event event => exact .event event
    | request request now =>
        rw [passed]
        cases passes : gateway.passage? request now with
        | none => exact enters_none_of_passage? passes
        | some passage =>
            rw [Option.map_some, toArrival_of_passage? passes]
            exact .admitted (Call.admitted_iff_passage?.mpr ⟨passage, passes, rfl⟩)

/-- After every run a bucket has the times of the requests that were admitted to it, in their
order and no others.  Whatever step comes next enters one thing and is recorded as that: an event,
a request without a route or for a public one, one that is turned away, and one that faults enter
nothing, and an admitted one enters its time in its bucket. -/
theorem accounts_run (steps : List Step) :
    (∀ bucket, (fresh.run steps).traffic.instants bucket =
        ((fresh.calls steps).filter (·.Admitted bucket)).map Call.now) ∧
      ∀ step, ∃ entry,
        (∀ other, (fresh.run steps).Enters step other ↔ other = entry) ∧
          ((fresh.run steps).step step).traffic = (fresh.run steps).traffic.add entry := by
  constructor
  · intro bucket
    rw [instants_run, passages_eq_filterMap_calls, times_passages]
    rfl
  · intro step
    exact ⟨_, fun other => enters_iff, traffic_step _ step⟩

/-- A caller whom no canned response answers is entered all the same, a stranger is not. -/
example :
    let route : Route :=
      { id := ⟨"n", "api"⟩, sourcePath := "/", backend := "none", binding := some "all",
        mock := true }
    let loads : List Step :=
      [.event (.added (.route route)),
        .event (.added (.binding
          { id := ⟨"n", "all"⟩, entries := [{ credential := "alice", defaultRule := .global }] })),
        .event (.added (.credential ⟨⟨"n", "alice"⟩, ["secret"]⟩))]
    let known : Request := { path := "/x", method := "GET", credential := some "secret" }
    ((fresh.run loads).handle known 5).map Prod.fst = .ok .notFound ∧
      (fresh.run (loads ++ [.request { known with credential := some "other" } 4,
        .request known 5])).traffic.instants ⟨⟨"n", "api"⟩, "alice"⟩ = [5] := by
  decide +kernel

end Gateway

end Tollgate
