import Tollgate.Proofs.Gateway.Reached

/-!
# Mediation

A request for a protected route passes through the checks in one order: whether the binding is
loaded, whether the caller is known in the namespace of the route, whether the binding has an entry
for the caller, whether the rule in force on the forwarded path allows the method, and whether the
rate is used up.  What the checks look at is what the events of the run have left behind.
-/

namespace Tollgate

/-- A request presents a value that leads to a credential of a namespace, which lists it. -/
def Keyring.Identifies (keys : Keyring) (space : String) (request : Request)
    (holder : Credential) : Prop :=
  ∃ value, request.credential = some value ∧ keys.get? value = some holder ∧
    value ∈ holder.revisions ∧ holder.id.space = space

namespace Gateway

/-- What the checks come to on a request for a route, given the binding that stands under the name
which protects the route: the first check that fails decides. -/
inductive Screening (gateway : Gateway) (standing : Option Binding) (route : Route)
    (request : Request) (now : Instant) : Except Decision String → Prop where
  | unbound (absent : standing = none) :
      Screening gateway standing route request now (.error .forbidden)
  | unknown {binding : Binding} (bound : standing = some binding)
      (stranger : ∀ holder, ¬gateway.keys.Identifies route.id.space request holder) :
      Screening gateway standing route request now (.error .unauthorized)
  | unlisted {binding : Binding} {holder : Credential} (bound : standing = some binding)
      (known : gateway.keys.Identifies route.id.space request holder)
      (unlisted : binding.entryFor? holder.id.name = none) :
      Screening gateway standing route request now (.error .forbidden)
  | disallowed {binding : Binding} {holder : Credential} {entry : PermissionEntry}
      (bound : standing = some binding)
      (known : gateway.keys.Identifies route.id.space request holder)
      (listed : binding.entryFor? holder.id.name = some entry)
      (denied :
        (entry.ruleFor (route.forwardPath request.path)).authorizes request.method = false) :
      Screening gateway standing route request now (.error .forbidden)
  | spent {binding : Binding} {holder : Credential} {entry : PermissionEntry} {rate : Rate}
      (bound : standing = some binding)
      (known : gateway.keys.Identifies route.id.space request holder)
      (listed : binding.entryFor? holder.id.name = some entry)
      (allowed : (entry.ruleFor (route.forwardPath request.path)).authorizes request.method = true)
      (limited : entry.rate = some rate)
      (exhausted : gateway.traffic.violates rate ⟨route.id, holder.id.name⟩ now = .ok true) :
      Screening gateway standing route request now (.error .rateLimited)
  | passes {binding : Binding} {holder : Credential} {entry : PermissionEntry}
      (bound : standing = some binding)
      (known : gateway.keys.Identifies route.id.space request holder)
      (listed : binding.entryFor? holder.id.name = some entry)
      (allowed : (entry.ruleFor (route.forwardPath request.path)).authorizes request.method = true)
      (unspent : ∀ rate, entry.rate = some rate →
        gateway.traffic.violates rate ⟨route.id, holder.id.name⟩ now = .ok false) :
      Screening gateway standing route request now (.ok holder.id.name)

variable {gateway : Gateway} {standing : Option Binding} {route : Route} {name : String}
  {request : Request} {now : Instant}

theorem identifies_iff_caller? (faithful : gateway.keys.Faithful) {space : String}
    {holder : Credential} :
    gateway.keys.Identifies space request holder ↔
      gateway.caller? space request = some holder := by
  rw [caller?_eq_some_iff]
  constructor
  · rintro ⟨value, presented, held, _, home⟩
    exact ⟨value, presented, held, home⟩
  · rintro ⟨value, presented, held, home⟩
    exact ⟨value, presented, held, faithful value holder held, home⟩

/-- Authorization answers what the checks come to. -/
theorem Screening.authorize_eq (faithful : gateway.keys.Faithful)
    (follows : gateway.grants.Follows ⟨route.id.space, name⟩ standing)
    {outcome : Except Decision String}
    (screening : gateway.Screening standing route request now outcome) :
    gateway.authorize route name request (route.forwardPath request.path) now = .ok outcome := by
  have loaded := follows.loaded
  have permits := follows.permits
  cases screening with
  | unbound absent =>
      rw [absent] at loaded
      exact authorize_of_unbound loaded _ _ _
  | unknown bound stranger =>
      have nobody : gateway.caller? route.id.space request = none := by
        rw [Option.eq_none_iff_forall_ne_some]
        intro holder found
        exact stranger holder ((identifies_iff_caller? faithful).mpr found)
      simp [authorize, loaded, bound, nobody]
  | unlisted bound known unlisted =>
      have found := (identifies_iff_caller? faithful).mp known
      simp [authorize, loaded, permits, bound, found, Binding.permits?, unlisted]
  | disallowed bound known listed denied =>
      have found := (identifies_iff_caller? faithful).mp known
      simp [authorize, loaded, permits, bound, found, Binding.permits?, listed, denied]
  | spent bound known listed allowed limited exhausted =>
      have found := (identifies_iff_caller? faithful).mp known
      simp [authorize, loaded, permits, bound, found, Binding.permits?, listed, allowed, limited,
        exhausted]
  | @passes binding holder entry bound known listed allowed unspent =>
      have found := (identifies_iff_caller? faithful).mp known
      cases limited : entry.rate with
      | none =>
          simp [authorize, loaded, permits, bound, found, Binding.permits?, listed, allowed,
            limited]
      | some rate =>
          have passes := unspent rate limited
          simp [authorize, loaded, permits, bound, found, Binding.permits?, listed, allowed,
            limited, passes]

/-- The checks let a request through exactly when the decision on it is no denial. -/
theorem Screening.isDenial_settle {outcome : Except Decision String}
    (screening : gateway.Screening standing route request now outcome) :
    (gateway.settle route request now outcome).1.isDenial = false ↔
      ∃ credential, outcome = .ok credential := by
  cases outcome with
  | error denied =>
      have turnedAway : denied.isDenial = true := by cases screening <;> rfl
      simp [settle, turnedAway]
  | ok credential => simp [settle, isDenial_answer]

/-- The checks come to something, while the windows of all rates are in the calendar. -/
theorem exists_screening (late : Instant.earliest + RateUnit.week.nanos ≤ now)
    (gateway : Gateway) (standing : Option Binding) (route : Route) (request : Request) :
    ∃ outcome, gateway.Screening standing route request now outcome := by
  cases bound : standing with
  | none => exact ⟨_, .unbound rfl⟩
  | some binding =>
      by_cases stranger : ∀ holder, ¬gateway.keys.Identifies route.id.space request holder
      · exact ⟨_, .unknown rfl stranger⟩
      · push Not at stranger
        obtain ⟨holder, known⟩ := stranger
        cases listed : binding.entryFor? holder.id.name with
        | none => exact ⟨_, .unlisted rfl known listed⟩
        | some entry =>
            cases allowed :
                (entry.ruleFor (route.forwardPath request.path)).authorizes request.method with
            | false => exact ⟨_, .disallowed rfl known listed allowed⟩
            | true =>
                cases limited : entry.rate with
                | none => exact ⟨_, .passes rfl known listed allowed (by simp [limited])⟩
                | some rate =>
                    obtain ⟨spent, check⟩ := gateway.traffic.exists_violates_of_late rate
                      ⟨route.id, holder.id.name⟩ late
                    cases spent with
                    | true => exact ⟨_, .spent rfl known listed allowed limited check⟩
                    | false =>
                        exact ⟨_, .passes rfl known listed allowed (by simp [limited, check])⟩

/-- After whatever run, the checks on a request for a protected route come to one outcome, against
the binding that was last written under the name that protects the route.  The request is answered
and recorded if they admit its caller; otherwise it gets the decision of the first check that fails,
and nothing changes.  So the decision is no denial exactly when they admit its caller.  The rate is
checked by a count of the recorded traffic, as far as it is in order of time or the rate has no
window. -/
theorem handle_screened (steps : List Step) {request : Request} {now : Instant} {route : Route}
    {name : String} (late : Instant.earliest + RateUnit.week.nanos ≤ now)
    (resolved :
      (fresh.run steps).routes.get? request.path (request.host.getD "") = some route)
    (guarded : route.binding = some name) :
    (∃ outcome,
      (∀ other, (fresh.run steps).Screening
          (Grants.standing? (events steps) ⟨route.id.space, name⟩) route request now other ↔
            other = outcome) ∧
        (fresh.run steps).handle request now =
          .ok ((fresh.run steps).settle route request now outcome) ∧
        (((fresh.run steps).settle route request now outcome).1.isDenial = false ↔
          ∃ credential, outcome = .ok credential)) ∧
      ∀ rate bucket,
        rate.unit = none ∨ ((fresh.run steps).traffic.instants bucket).Pairwise (· ≤ ·) →
          (fresh.run steps).traffic.violates rate bucket now =
            .ok (rate.exhausted ((fresh.run steps).traffic.instants bucket) now) := by
  constructor
  · obtain ⟨outcome, screening⟩ := exists_screening late (fresh.run steps)
      (Grants.standing? (events steps) ⟨route.id.space, name⟩) route request
    have answers (other : Except Decision String)
        (screening : (fresh.run steps).Screening
          (Grants.standing? (events steps) ⟨route.id.space, name⟩) route request now other) :=
      screening.authorize_eq (faithful_run steps) (follows_run steps ⟨route.id.space, name⟩)
    refine ⟨outcome, ?_, ?_, screening.isDenial_settle⟩
    · intro other
      constructor
      · intro also
        have same := (answers other also).symm.trans (answers outcome screening)
        exact Except.ok.inj same
      · rintro rfl
        exact screening
    · rw [handle_of_guarded resolved guarded, answers outcome screening]
      rfl
  · rintro rate bucket (quota | inOrder)
    · exact Traffic.violates_of_quota _ quota bucket now
    · exact Traffic.violates_of_late inOrder rate late

/-- What is left to a caller by the last entry for it: to read what is not below one place. -/
def reading : PermissionEntry :=
  { credential := "alice", defaultRule := .granular ["GET"],
    subpaths := [⟨"/v1/admin", .denyAll⟩], rate := some ⟨2, some .minute⟩ }

/-- A route that is served under another path than it is requested. -/
def rewritten : Route :=
  { id := ⟨"default", "api"⟩, sourcePath := "/api", targetPath := "/v1", backend := "one",
    binding := some "readers" }

/-- A request to read a path. -/
def toRead (path : String) : Request where
  path := path
  method := "GET"
  credential := some "secret"

/-- The credential of the caller. -/
def reader : Credential :=
  ⟨⟨"default", "alice"⟩, ["secret"]⟩

/-- A binding that lists its caller twice. -/
def readers : Binding where
  id := ⟨"default", "readers"⟩
  entries := [{ credential := "alice", defaultRule := .global }, reading]

/-- The caller has read once. -/
def visits : List Step :=
  [.event (.added (.route rewritten)), .event (.added (.binding readers)),
    .event (.added (.credential reader)), .request (toRead "/api/items") 0]

/-- The caller has read twice. -/
def revisits : List Step :=
  visits ++ [.request (toRead "/api/items") 1]

/-- The rule is that of the last entry, on the path under which the request would be served.  A
second read within the minute passes, a third does not. -/
theorem handle_screened_visits :
    (fresh.run visits).handle (toRead "/api/admin/keys") 1 = .ok (.forbidden, fresh.run visits) ∧
      (fresh.run visits).handle (toRead "/api/items") 1 =
        .ok (.forward rewritten "/v1/items",
          (fresh.run visits).recordPass rewritten "alice" 1) ∧
      (fresh.run revisits).handle (toRead "/api/items") 2 =
        .ok (.rateLimited, fresh.run revisits) := by
  have served : rewritten.forwardPath "/api/items" = "/v1/items" := by decide +kernel
  have allowed :
      (reading.ruleFor (rewritten.forwardPath "/api/items")).authorizes "GET" = true := by
    decide +kernel
  have bound : Grants.standing? (events visits) ⟨"default", "readers"⟩ = some readers := rfl
  have listed : readers.entryFor? "alice" = some reading := rfl
  have known (path : String) :
      (fresh.run visits).keys.Identifies "default" (toRead path) reader :=
    ⟨"secret", rfl, by decide +kernel, List.mem_singleton_self _, rfl⟩
  refine ⟨?_, ?_, ?_⟩
  · obtain ⟨⟨outcome, only, handled, _⟩, _⟩ := @handle_screened visits (toRead "/api/admin/keys") 1
      rewritten "readers" (by decide) (by decide +kernel) rfl
    have denied := (only (.error .forbidden)).mp
      (.disallowed bound (known _) listed (by decide +kernel))
    rw [handled, ← denied]
    rfl
  · obtain ⟨⟨outcome, only, handled, _⟩, _⟩ := @handle_screened visits (toRead "/api/items") 1
      rewritten "readers" (by decide) (by decide +kernel) rfl
    have unspent : ∀ rate, reading.rate = some rate →
        (fresh.run visits).traffic.violates rate ⟨rewritten.id, "alice"⟩ 1 = .ok false := by
      rintro _ ⟨⟩
      decide +kernel
    have admitted := (only (.ok "alice")).mp
      (@Screening.passes _ _ _ _ _ readers reader reading bound (known _) listed allowed unspent)
    rw [handled, ← admitted, ← served]
    rfl
  · obtain ⟨⟨outcome, only, handled, _⟩, _⟩ := @handle_screened revisits (toRead "/api/items") 2
      rewritten "readers" (by decide) (by decide +kernel) rfl
    have still :
        (fresh.run revisits).keys.Identifies "default" (toRead "/api/items") reader :=
      ⟨"secret", rfl, by decide +kernel, List.mem_singleton_self _, rfl⟩
    have exhausted : (fresh.run revisits).traffic.violates ⟨2, some .minute⟩
        ⟨rewritten.id, "alice"⟩ 2 = .ok true := by decide +kernel
    have limited := (only (.error .rateLimited)).mp
      (.spent rfl still listed allowed rfl exhausted)
    rw [handled, ← limited]
    rfl

end Gateway

end Tollgate
