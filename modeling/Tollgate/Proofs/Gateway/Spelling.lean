import Tollgate.Proofs.Gateway.Run
import Tollgate.Proofs.Segments

/-!
# Spellings of a request

Slashes that cut off nothing, the case of a method's letters and an empty host are matters of
spelling.  Each stage of a decision reads a path through its parts and a method through its
lowered letters, so two spellings of a request are decided alike and leave the same gateway.
-/

namespace Tollgate

section Path

variable {path other : String}

theorem Path.parts_congr (same : normalizedSegments path = normalizedSegments other) :
    parts path = parts other := by
  rw [← normalizedSegments_eq_parts, same, normalizedSegments_eq_parts]

/-- A trie is walked by the segments of a path alone. -/
theorem Trie.lookup_congr {α : Type}
    (same : Path.normalizedSegments path = Path.normalizedSegments other) (trie : Trie α) :
    trie.lookup path = trie.lookup other := by
  rw [Trie.lookup, Trie.lookup, Path.parts_congr same]

/-- What the backend sees of a path comes from its segments alone. -/
theorem Route.forwardPath_congr
    (same : Path.normalizedSegments path = Path.normalizedSegments other) (route : Route) :
    route.forwardPath path = route.forwardPath other := by
  rw [Route.forwardPath, Route.forwardPath, Path.normalize_eq_iff.mpr same]

end Path

section Method

variable {method other : String}

theorem sameLetters_congr (alike : sameLetters method other = true) (verb : String) :
    sameLetters verb method = sameLetters verb other := by
  rw [sameLetters, sameLetters, of_decide_eq_true alike]

theorem Rule.authorizes_congr (alike : sameLetters method other = true) (rule : Rule) :
    rule.authorizes method = rule.authorizes other := by
  cases rule with
  | global => rfl
  | granular verbs =>
      rw [Rule.authorizes, Rule.authorizes]
      simp only [sameLetters_congr alike]

theorem MockRoute.serves_congr (alike : sameLetters method other = true) (route : MockRoute) :
    route.serves method = route.serves other := by
  rw [MockRoute.serves, MockRoute.serves]
  simp only [sameLetters_congr alike]

theorem Mocks.get?_congr (alike : sameLetters method other = true) (mocks : Mocks)
    (target : ResourceName) (path : String) :
    mocks.get? target path method = mocks.get? target path other := by
  rw [Mocks.get?, Mocks.get?]
  simp only [MockRoute.serves_congr alike]

end Method

/-- Two spellings of one request: the paths have the same segments, the methods the same letters,
an absent host is as good as an empty one, and the credential is the same. -/
structure Request.Respells (request other : Request) : Prop where
  segments : Path.normalizedSegments request.path = Path.normalizedSegments other.path
  host : request.host.getD "" = other.host.getD ""
  method : sameLetters request.method other.method = true
  credential : request.credential = other.credential

namespace Gateway

variable {gateway : Gateway} {request other : Request}

theorem get?_respelled (respells : request.Respells other) (routes : Routes) :
    routes.get? request.path (request.host.getD "") =
      routes.get? other.path (other.host.getD "") := by
  rw [Routes.get?, Routes.get?, Trie.lookup_congr respells.segments, respells.host]

theorem authorize_respelled (respells : request.Respells other) (route : Route)
    (binding path : String) (now : Instant) :
    gateway.authorize route binding request path now =
      gateway.authorize route binding other path now := by
  have caller : gateway.caller? route.id.space request = gateway.caller? route.id.space other := by
    rw [caller?, caller?, respells.credential]
  rw [authorize, authorize, caller]
  simp only [Rule.authorizes_congr respells.method]

theorem answer_respelled (respells : request.Respells other) (route : Route) (path : String) :
    gateway.answer route path request.method = gateway.answer route path other.method := by
  rw [answer, answer, Mocks.get?_congr respells.method]

/-- A gateway handles two spellings of a request alike. -/
theorem handle_congr (respells : request.Respells other) (now : Instant) :
    gateway.handle request now = gateway.handle other now := by
  rw [handle, handle, get?_respelled respells]
  simp only [Route.forwardPath_congr respells.segments, authorize_respelled respells,
    answer_respelled respells]

/-- Two spellings of a step: the same event, or two spellings of a request at the same time. -/
inductive Step.Respells : Step → Step → Prop where
  | event (event : Event) : Respells (.event event) (.event event)
  | request {request other : Request} (respells : request.Respells other) (now : Instant) :
      Respells (.request request now) (.request other now)

theorem step_congr {first second : Step} (respells : first.Respells second) :
    gateway.step first = gateway.step second := by
  cases respells with
  | event event => rfl
  | request respells now => rw [step, step, handle_congr respells]

/-- Two spellings of a run reach the same gateway. -/
theorem run_congr {steps others : List Step} (respells : List.Forall₂ Step.Respells steps others) :
    gateway.run steps = gateway.run others := by
  induction respells generalizing gateway with
  | nil => rfl
  | @cons first second rest others respells _ ih =>
      change (gateway.step first).run rest = (gateway.step second).run others
      rw [step_congr respells, ih]

/-- Two spellings of a request at the same time get the same decision and leave the same gateway,
whatever the gateway that meets them, and also at the end of two runs whose earlier steps differ in
their spelling. -/
theorem handle_respelled {request other : Request} (respells : request.Respells other)
    (now : Instant) :
    (∀ gateway : Gateway, gateway.handle request now = gateway.handle other now) ∧
      ∀ (gateway : Gateway) (steps others : List Step),
        List.Forall₂ Step.Respells steps others →
          (gateway.run steps).handle request now = (gateway.run others).handle other now := by
  constructor
  · intro gateway
    exact handle_congr respells now
  · intro gateway steps others alike
    rw [run_congr alike, handle_congr respells]

/-- A protected route whose binding has a rule for a subpath, and one call a minute. -/
def metered : Manifest where
  routes :=
    [{ id := ⟨"default", "api"⟩, sourcePath := "/api", targetPath := "v2", backend := "one",
       binding := some "callers" }]
  bindings :=
    [{ id := ⟨"default", "callers"⟩,
       entries :=
         [{ credential := "alice", defaultRule := .denyAll,
            subpaths := [⟨"/v2/items", .granular ["GET"]⟩], rate := some ⟨1, some .minute⟩ }] }]
  credentials := [⟨⟨"default", "alice"⟩, ["secret"]⟩]

/-- A request for the subpath. -/
def tidy : Request :=
  { path := "/api/items", method := "GET", credential := some "secret" }

/-- The request in another spelling. -/
def untidy : Request :=
  { path := "api//items/", host := some "", method := "Get", credential := some "secret" }

/-- Under either spelling the subpath's rule admits the first call, and the rate stops the second
one. -/
theorem handle_respelled_metered :
    (∀ gateway : Gateway, gateway.handle untidy 1 = gateway.handle tidy 1) ∧
      (((fresh.loadAll metered).2.run [.request tidy 0]).handle untidy 1 =
        ((fresh.loadAll metered).2.run [.request untidy 0]).handle tidy 1) ∧
      ((fresh.loadAll metered).2.handle untidy 0).map Prod.fst =
        .ok (.forward (metered.routes.head (by decide)) "/v2/items") ∧
      (((fresh.loadAll metered).2.run [.request untidy 0]).handle tidy 1).map Prod.fst =
        .ok .rateLimited := by
  have respells : untidy.Respells tidy :=
    ⟨by decide +kernel, by decide, by decide +kernel, by decide⟩
  have back : tidy.Respells untidy :=
    ⟨by decide +kernel, by decide, by decide +kernel, by decide⟩
  obtain ⟨anywhere, later⟩ := handle_respelled respells 1
  exact ⟨anywhere, later _ _ _ (.cons (.request back 0) .nil), by decide +kernel,
    by decide +kernel⟩

end Gateway

end Tollgate
