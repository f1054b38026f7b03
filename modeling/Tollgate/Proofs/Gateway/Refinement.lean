import Tollgate.Proofs.Gateway.Loaded
import Tollgate.Proofs.Store.Traffic

/-!
# Loaded gateways decide as the evaluator

A gateway that was loaded with a manifest differs from the manifest only in how it finds things.
Its traffic holds, bucket by bucket, the times of the requests that passed, so one request is
decided as the evaluator decides it, and by induction so is every sequence in order of time.
-/

namespace Tollgate

namespace Gateway

/-- The decisions on a sequence of requests, each seen by the gateway that the earlier ones left. -/
def serve (gateway : Gateway) : List (Request × Instant) → Except ClockFault (List Decision)
  | [] => .ok []
  | (request, now) :: rest => do
      let (decision, next) ← gateway.handle request now
      let decisions ← next.serve rest
      return decision :: decisions

/-- A loaded gateway after some traffic. -/
def loadedWith (manifest : Manifest) (traffic : Traffic) : Gateway :=
  { loaded manifest with traffic }

theorem loadedWith_empty (manifest : Manifest) : loadedWith manifest .empty = loaded manifest := by
  have idle : (loaded manifest).traffic = .empty := traffic_applyAll fresh _
  rw [loadedWith, ← idle]

end Gateway

namespace Traffic

/-- The traffic holds the requests that passed, in their order, bucket by bucket. -/
def Records (traffic : Traffic) (earlier : List Arrival) : Prop :=
  ∀ bucket, traffic.instants bucket = Manifest.timesIn earlier bucket

theorem records_empty : empty.Records [] :=
  fun _ => rfl

theorem Records.add {traffic : Traffic} {earlier : List Arrival}
    (records : traffic.Records earlier) (passed : Option Arrival) :
    (traffic.add passed).Records (earlier ++ passed.toList) := by
  intro bucket
  rw [instants_add, records, Manifest.timesIn, Manifest.timesIn, List.filter_append,
    List.map_append]

end Traffic

namespace Gateway

variable {manifest : Manifest} {traffic : Traffic} {earlier : List Arrival} {now : Instant}

theorem caller?_loadedWith (space : String) (request : Request) :
    (loadedWith manifest traffic).caller? space request =
      (request.credential.bind manifest.holderOf?).filter (·.id.space = space) := by
  have holders : (loadedWith manifest traffic).keys.get? = manifest.holderOf? := by
    funext value
    exact Keyring.get?_loaded manifest value
  rw [caller?, holders]

/-- The rate check sees what passed. -/
theorem violates_loadedWith (records : traffic.Records earlier)
    (inOrder : (earlier.map Arrival.time).Pairwise (· ≤ ·))
    (late : Instant.earliest + RateUnit.week.nanos ≤ now) (rate : Rate) (bucket : Bucket) :
    (loadedWith manifest traffic).traffic.violates rate bucket now =
      .ok (rate.exhausted (Manifest.timesIn earlier bucket) now) := by
  change traffic.violates rate bucket now = _
  have bucketInOrder : (traffic.instants bucket).Pairwise (· ≤ ·) := by
    rw [records, Manifest.timesIn]
    exact inOrder.sublist (List.filter_sublist.map Arrival.time)
  rw [← records bucket]
  exact Traffic.violates_of_late bucketInOrder rate late

/-- The caller of a protected route is admitted as the evaluator says. -/
theorem authorize_loadedWith (records : traffic.Records earlier)
    (inOrder : (earlier.map Arrival.time).Pairwise (· ≤ ·))
    (late : Instant.earliest + RateUnit.week.nanos ≤ now)
    (route : Route) (binding : String) (request : Request) (path : String) :
    (loadedWith manifest traffic).authorize route binding request path now =
      .ok (manifest.admission earlier route binding request path now) := by
  have known : (loadedWith manifest traffic).grants.contains ⟨route.id.space, binding⟩ =
      (manifest.bindingFor? ⟨route.id.space, binding⟩).isSome :=
    Grants.contains_loaded manifest _
  have permits : ∀ credential,
      (loadedWith manifest traffic).grants.get? ⟨route.id.space, binding⟩ credential path =
        (manifest.bindingFor? ⟨route.id.space, binding⟩).bind (·.permits? credential path) :=
    fun credential => Grants.get?_loaded manifest _ credential path
  simp only [authorize, known, permits, caller?_loadedWith, Manifest.admission]
  cases manifest.bindingFor? ⟨route.id.space, binding⟩ with
  | none => rfl
  | some found =>
      simp only [Option.isSome_some, Bool.not_true, Bool.false_eq_true, if_false, Option.bind_some]
      cases (request.credential.bind manifest.holderOf?).filter (·.id.space = route.id.space) with
      | none => rfl
      | some caller =>
          simp only [Binding.permits?]
          cases found.entryFor? caller.id.name with
          | none => rfl
          | some entry =>
              simp only [Option.map_some]
              split
              · rfl
              · cases entry.rate with
                | none => rfl
                | some rate =>
                    simp only [violates_loadedWith records inOrder late, Option.any_some]
                    by_cases spent : rate.exhausted
                        (Manifest.timesIn earlier ⟨route.id, caller.id.name⟩) now = true
                    · simp only [spent, if_true]
                    · simp only [spent, Bool.false_eq_true, if_false]

theorem answer_loadedWith (route : Route) (path method : String) :
    (loadedWith manifest traffic).answer route path method =
      manifest.outcome route path method := by
  have responses : (loadedWith manifest traffic).mocks.get? ⟨route.id.space, route.backend⟩ path
      method = _ := Mocks.get?_loaded manifest _ path method
  unfold answer Manifest.outcome
  split
  · cases found : (manifest.mockTargetFor? ⟨route.id.space, route.backend⟩).bind
        (·.responseTo? path method) with
    | none => simp only [responses, found]
    | some response => simp only [responses, found]
  · rfl

/-- One request is decided as the evaluator says, and recorded if it passes. -/
theorem handle_loadedWith (records : traffic.Records earlier)
    (inOrder : (earlier.map Arrival.time).Pairwise (· ≤ ·))
    (late : Instant.earliest + RateUnit.week.nanos ≤ now) (request : Request) :
    (loadedWith manifest traffic).handle request now =
      .ok ((manifest.verdict earlier request now).1,
        loadedWith manifest (traffic.add (manifest.verdict earlier request now).2)) := by
  have resolved : (loadedWith manifest traffic).routes.get? request.path
      (request.host.getD "") = manifest.routeFor? request.path (request.host.getD "") :=
    Routes.get?_loaded manifest _ _
  rw [handle, Manifest.verdict, resolved]
  cases manifest.routeFor? request.path (request.host.getD "") with
  | none => rfl
  | some route =>
      simp only [answer_loadedWith, authorize_loadedWith records inOrder late]
      cases route.binding with
      | none => rfl
      | some binding =>
          simp only
          cases manifest.admission earlier route binding request (route.forwardPath request.path)
              now with
          | error denied => rfl
          | ok credential => rfl

/-- A request that passes does so at its own time. -/
theorem time_of_verdict {request : Request} {arrival : Arrival}
    (passed : (manifest.verdict earlier request now).2 = some arrival) : arrival.time = now := by
  unfold Manifest.verdict at passed
  split at passed
  · contradiction
  · split at passed
    · contradiction
    · dsimp only at passed
      split at passed
      · contradiction
      · cases passed
        rfl

theorem serve_loadedWith (records : traffic.Records earlier) {requests : List (Request × Instant)}
    (inOrder : (earlier.map Arrival.time ++ requests.map Prod.snd).Pairwise (· ≤ ·))
    (late : ∀ request ∈ requests, Instant.earliest + RateUnit.week.nanos ≤ request.2) :
    (loadedWith manifest traffic).serve requests = .ok (manifest.verdicts earlier requests) := by
  induction requests generalizing traffic earlier with
  | nil => rfl
  | cons first rest ih =>
      rcases first with ⟨request, now⟩
      rcases List.forall_mem_cons.mp late with ⟨firstLate, restLate⟩
      have earlierInOrder := (List.pairwise_append.mp inOrder).1
      have onward : ((earlier ++ (manifest.verdict earlier request now).2.toList).map
          Arrival.time ++ rest.map Prod.snd).Pairwise (· ≤ ·) := by
        refine inOrder.sublist ?_
        rw [List.map_append, List.append_assoc, List.map_cons]
        apply List.Sublist.append_left
        cases passed : (manifest.verdict earlier request now).2 with
        | none => exact List.sublist_cons_self now _
        | some arrival => simp [time_of_verdict passed]
      rw [serve, handle_loadedWith records earlierInOrder firstLate]
      have following := ih (records.add (manifest.verdict earlier request now).2) onward restLate
      change ((loadedWith manifest _).serve rest >>= fun decisions => _) = _
      rw [following]
      rfl

end Gateway

namespace Manifest

/-- A protected route that is served under another path. -/
def behindCallers : Route where
  id := ⟨"default", "api"⟩
  sourcePath := "api/"
  targetPath := "/two"
  backend := "two"
  binding := some "callers"

/-- Two routes share a slot, a third has the deeper path on another host, and the second entry of
the caller sets a rate. -/
def crowded : Manifest where
  routes :=
    [{ id := ⟨"default", "old"⟩, sourcePath := "/api", backend := "one" }, behindCallers,
      { id := ⟨"default", "deep"⟩, sourcePath := "/api/v1", sourceHost := some "other",
        backend := "three" }]
  bindings :=
    [{ id := ⟨"default", "callers"⟩,
       entries :=
         [{ credential := "alice", defaultRule := .denyAll },
           { credential := "alice", defaultRule := .global, rate := some ⟨1, some .second⟩ }] }]
  credentials := [⟨⟨"default", "alice"⟩, ["first", "second"]⟩]

/-- A caller under two values, a path that another host shadows, and a window that has passed. -/
def crowd : List (Request × Instant) :=
  [({ path := "/api/v2", method := "GET", credential := some "first" }, 0),
    ({ path := "//api", method := "GET", credential := some "second" }, 999999999),
    ({ path := "/api/v1", method := "GET" }, 999999999),
    ({ path := "/api", method := "GET", credential := some "second" }, 1000000000)]

end Manifest

namespace Gateway

/-- A gateway loaded with a manifest decides every sequence of requests in order of time as the
evaluator does. -/
theorem serve_loaded (manifest : Manifest) {requests : List (Request × Instant)}
    (inOrder : (requests.map Prod.snd).Pairwise (· ≤ ·))
    (late : ∀ request ∈ requests, Instant.earliest + RateUnit.week.nanos ≤ request.2) :
    (loaded manifest).serve requests = .ok (manifest.verdicts [] requests) := by
  rw [← loadedWith_empty]
  exact serve_loadedWith Traffic.records_empty inOrder late

/-- The evaluator and the gateway agree on a crowded manifest. -/
theorem serve_crowded :
    (Manifest.crowd.map Prod.snd).Pairwise (· ≤ ·) ∧
      (∀ request ∈ Manifest.crowd, Instant.earliest + RateUnit.week.nanos ≤ request.2) ∧
      (loaded .crowded).serve Manifest.crowd = .ok (Manifest.crowded.verdicts [] Manifest.crowd) ∧
      Manifest.crowded.verdicts [] Manifest.crowd =
        [.forward Manifest.behindCallers "/two/v2", .rateLimited, .notFound,
          .forward Manifest.behindCallers "/two"] :=
  ⟨by decide, by decide, serve_loaded .crowded (by decide) (by decide), by decide +kernel⟩

end Gateway

end Tollgate
