import Tollgate.Proofs.Gateway.Reached

/-!
# Revocation

A value that an event drops leads nowhere from then on, until an event issues it again.  Whatever
happens in between, whoever presents it is a stranger, whom no protected route lets through and who
leaves no trace.
-/

namespace Tollgate

namespace Gateway

/-- Between the event that drops a value and the first that issues it, the value leads nowhere. -/
theorem get?_of_dropped (before after : List Step) {event : Event} {value : String}
    (dropped : event.drops value = true)
    (unissued : ∀ later ∈ events after, later.issues value = false) :
    (fresh.run (before ++ .event event :: after)).keys.get? value = none := by
  have history : events (before ++ .event event :: after) =
      events before ++ event :: events after := by
    rw [events, List.filterMap_append]
    rfl
  rw [keys_run, history, Batch.final_append, Batch.final_cons]
  exact Keyring.get?_final_of_unissued (Keyring.get?_absorb_of_drops _ dropped) unissued

variable {gateway : Gateway} {request : Request} {route : Route} {name : String} {now : Instant}

/-- Whoever presents a value that leads nowhere is a stranger in every namespace. -/
theorem caller?_of_unknown {value : String} (presented : request.credential = some value)
    (unknown : gateway.keys.get? value = none) (space : String) :
    gateway.caller? space request = none := by
  apply caller?_eq_none
  intro other holder shown held
  rw [presented] at shown
  cases shown
  rw [unknown] at held
  contradiction

theorem passage?_of_stranger (stranger : ∀ space, gateway.caller? space request = none) :
    gateway.passage? request now = none := by
  rw [Option.eq_none_iff_forall_ne_some]
  intro passage passes
  obtain ⟨route, name, _, _, _, admitted, _⟩ := passage?_eq_some_iff.mp passes
  rw [authorize_of_stranger (stranger route.id.space)] at admitted
  cases admitted

/-- The request of a stranger changes nothing. -/
theorem step_of_stranger (stranger : ∀ space, gateway.caller? space request = none) :
    gateway.step (.request request now) = gateway := by
  rw [step]
  cases resolved : gateway.routes.get? request.path (request.host.getD "") with
  | none => simp only [handle, resolved]
  | some route =>
      cases guarded : route.binding with
      | none => rw [handle_of_public resolved guarded]
      | some name => rw [handle_of_stranger resolved guarded (stranger route.id.space)]

/-- In every run a value leads only to a credential that lists it.  After an event that drops a
value, and as long as none issues it, no request that presents the value passes or is recorded, and
every protected route turns it away, whatever else is applied and requested meanwhile. -/
theorem revoked_stays_out :
    (∀ steps value credential, (fresh.run steps).keys.get? value = some credential →
        value ∈ credential.revisions) ∧
      ∀ (before after : List Step) (event : Event) (value : String),
        event.drops value = true → (∀ later ∈ events after, later.issues value = false) →
          ∀ (request : Request) (now : Instant), request.credential = some value →
            (fresh.run (before ++ .event event :: after)).passage? request now = none ∧
              (fresh.run (before ++ .event event :: after)).step (.request request now) =
                fresh.run (before ++ .event event :: after) ∧
              ∀ route name,
                (fresh.run (before ++ .event event :: after)).routes.get? request.path
                    (request.host.getD "") = some route →
                  route.binding = some name →
                    (fresh.run (before ++ .event event :: after)).handle request now =
                      .ok (if (fresh.run (before ++ .event event :: after)).grants.contains
                            ⟨route.id.space, name⟩ then .unauthorized else .forbidden,
                        fresh.run (before ++ .event event :: after)) := by
  constructor
  · intro steps
    exact faithful_run steps
  · intro before after event value dropped unissued request now presented
    have unknown := get?_of_dropped before after dropped unissued
    have stranger := caller?_of_unknown presented unknown
    refine ⟨passage?_of_stranger stranger, step_of_stranger stranger, ?_⟩
    intro route name resolved guarded
    exact handle_of_stranger resolved guarded (stranger route.id.space)

/-- A route for two callers. -/
def twoCallers : Route :=
  { id := ⟨"default", "api"⟩, sourcePath := "/", backend := "one", binding := some "all" }

/-- The two callers share a value. -/
def sharing : List Step :=
  [.event (.added (.route twoCallers)),
    .event (.added (.binding
      { id := ⟨"default", "all"⟩,
        entries := [{ credential := "alice", defaultRule := .global },
          { credential := "bob", defaultRule := .global }] })),
    .event (.added (.credential ⟨⟨"default", "alice"⟩, ["shared", "own", "shared"]⟩)),
    .event (.added (.credential ⟨⟨"default", "bob"⟩, ["shared"]⟩)),
    .request { path := "/", method := "GET", credential := some "shared" } 0]

/-- The first caller gives the shared value up. -/
def parting : Event :=
  .updated (.credential ⟨⟨"default", "alice"⟩, ["shared", "own", "shared"]⟩)
    (.credential ⟨⟨"default", "alice"⟩, ["own", "new"]⟩)

/-- Later the second one gives it up as well. -/
def parted : List Step :=
  [.event (.updated (.credential ⟨⟨"default", "bob"⟩, ["shared"]⟩)
    (.credential ⟨⟨"default", "bob"⟩, ["last", "last"]⟩))]

/-- The shared value went with the first rotation, for both. -/
theorem revoked_stays_out_sharing :
    (fresh.run (sharing ++ .event parting :: parted)).handle
        { path := "/", method := "GET", credential := some "shared" } 2 =
      .ok (.unauthorized, fresh.run (sharing ++ .event parting :: parted)) := by
  obtain ⟨_, _, turnedAway⟩ := revoked_stays_out.2 sharing parted parting "shared" (by decide)
    (by decide) { path := "/", method := "GET", credential := some "shared" } 2 rfl
  have bound : (fresh.run (sharing ++ .event parting :: parted)).grants.contains
      ⟨twoCallers.id.space, "all"⟩ = true := by decide +kernel
  have denied := turnedAway twoCallers "all" (by decide +kernel) rfl
  rwa [if_pos bound] at denied

end Gateway

end Tollgate
