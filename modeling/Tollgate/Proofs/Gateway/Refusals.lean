import Tollgate.Proofs.Gateway.Reached
import Tollgate.Proofs.Gateway.Writes
import Tollgate.Proofs.Store.Mocks

/-!
# Refused events

An event is refused for one of a few causes, each of which can be read off the event and the routes
that are held.  A refused event leaves no trace.
-/

namespace Tollgate

/-- An addition or a deletion that no gateway grants: of a mock target without responses, or of a
credential without revisions. -/
def Event.isBare : Event → Bool
  | .added (.mockTarget target) => target.routes = []
  | .deleted (.credential credential) => credential.revisions = []
  | _ => false

namespace Gateway

/-- Why a gateway refuses an event. -/
inductive Refuses (gateway : Gateway) : Event → Refusal → Prop where
  | addedBare {target : MockTarget} (bare : target.routes = []) :
      Refuses gateway (.added (.mockTarget target)) (.emptyMockTarget target.id)
  | updatedBare {old new : MockTarget} (bare : new.routes = []) :
      Refuses gateway (.updated (.mockTarget old) (.mockTarget new)) (.emptyMockTarget new.id)
  | slotTaken {old new occupant : Route}
      (held : gateway.routes.occupant? new.address new.host = some occupant)
      (other : occupant.id ≠ new.id) :
      Refuses gateway (.updated (.route old) (.route new))
        (.slotTaken (Path.normalize new.sourcePath) new.host occupant.id)
  | noRevisions {credential : Credential} (bare : credential.revisions = []) :
      Refuses gateway (.deleted (.credential credential)) (.noRevisions credential.id)
  | kindMismatch {old new : Resource} (differ : old.kind ≠ new.kind) :
      Refuses gateway (.updated old new) (.kindMismatch old.kind new.kind)

private theorem map_eq_error_iff {α β : Type} {change : α → β} {answer : Except Refusal α}
    {refusal : Refusal} : answer.map change = .error refusal ↔ answer = .error refusal := by
  cases answer with
  | ok value => exact ⟨fun granted => (nomatch granted), fun granted => (nomatch granted)⟩
  | error cause =>
      constructor
      · intro same
        exact congrArg Except.error (Except.error.inj same)
      · intro same
        exact congrArg Except.error (Except.error.inj same)

variable {gateway : Gateway} {table : Routes.Table} {refusal : Refusal}

theorem add_eq_error_iff {resource : Resource} :
    gateway.apply (.added resource) = .error refusal ↔
      gateway.Refuses (.added resource) refusal := by
  constructor
  · intro refused
    rw [apply_eq] at refused
    cases resource with
    | mockTarget target =>
        obtain ⟨bare, rfl⟩ := (Mocks.set_eq_error_iff _).mp (map_eq_error_iff.mp refused)
        exact .addedBare bare
    | _ => cases refused
  · intro refuses
    cases refuses with
    | addedBare bare =>
        rw [apply_eq]
        exact map_eq_error_iff.mpr ((Mocks.set_eq_error_iff _).mpr ⟨bare, rfl⟩)

theorem delete_eq_error_iff {resource : Resource} :
    gateway.apply (.deleted resource) = .error refusal ↔
      gateway.Refuses (.deleted resource) refusal := by
  constructor
  · intro refused
    rw [apply_eq] at refused
    cases resource with
    | credential credential =>
        have denied := map_eq_error_iff.mp (map_eq_error_iff.mp refused)
        obtain ⟨bare, rfl⟩ := Keyring.delete_eq_error_iff.mp denied
        exact .noRevisions bare
    | _ => cases refused
  · intro refuses
    cases refuses with
    | noRevisions bare =>
        rw [apply_eq]
        exact map_eq_error_iff.mpr
          (map_eq_error_iff.mpr (Keyring.delete_eq_error_iff.mpr ⟨bare, rfl⟩))

theorem add_refused_iff {resource : Resource} :
    (∃ refusal, gateway.apply (.added resource) = .error refusal) ↔
      (Event.added resource).isBare = true := by
  constructor
  · rintro ⟨refusal, refused⟩
    cases add_eq_error_iff.mp refused with
    | addedBare bare => exact decide_eq_true bare
  · intro bare
    cases resource with
    | mockTarget target => exact ⟨_, add_eq_error_iff.mpr (.addedBare (of_decide_eq_true bare))⟩
    | _ => cases bare

theorem delete_refused_iff {resource : Resource} :
    (∃ refusal, gateway.apply (.deleted resource) = .error refusal) ↔
      (Event.deleted resource).isBare = true := by
  constructor
  · rintro ⟨refusal, refused⟩
    cases delete_eq_error_iff.mp refused with
    | noRevisions bare => exact decide_eq_true bare
  · intro bare
    cases resource with
    | credential credential =>
        exact ⟨_, delete_eq_error_iff.mpr (.noRevisions (of_decide_eq_true bare))⟩
    | _ => cases bare

/-- A batch with one event for each resource counts those that are bare. -/
theorem applyAll_map_fst {eventOf : Resource → Event}
    (telling : ∀ (gateway : Gateway) (resource : Resource),
      (∃ refusal, gateway.apply (eventOf resource) = .error refusal) ↔
        (eventOf resource).isBare = true)
    (gateway : Gateway) (resources : List Resource) :
    (gateway.applyAll (resources.map eventOf)).1 =
      resources.countP fun resource => (eventOf resource).isBare := by
  have shown : ∀ event ∈ resources.map eventOf, ∀ gateway : Gateway,
      (∃ refusal, gateway.apply event = .error refusal) ↔ event.isBare = true := by
    intro event member gateway
    obtain ⟨resource, _, rfl⟩ := List.mem_map.mp member
    exact telling gateway resource
  rw [applyAll_eq, refused, Batch.refused_eq_filter shown, ← List.countP_eq_length_filter,
    List.countP_map]
  rfl

/-- A load counts the mock targets without responses. -/
theorem loadAll_fst (gateway : Gateway) (manifest : Manifest) :
    (gateway.loadAll manifest).1 = manifest.mockTargets.countP (·.routes = []) := by
  rw [loadAll, applyAll_map_fst fun _ _ => add_refused_iff, Manifest.resources]
  simp [List.countP_map, Function.comp_def, Event.isBare]

/-- Dropping every resource of a manifest counts the credentials without revisions. -/
theorem applyAll_deleted_fst (gateway : Gateway) (manifest : Manifest) :
    (gateway.applyAll (manifest.resources.map .deleted)).1 =
      manifest.credentials.countP (·.revisions = []) := by
  rw [applyAll_map_fst fun _ _ => delete_refused_iff, Manifest.resources]
  simp [List.countP_map, Function.comp_def, Event.isBare]

theorem apply_moved (gateway : Gateway) (old new : Route) :
    gateway.apply (.updated (.route old) (.route new)) =
      (gateway.routes.update old new).map ({ gateway with routes := · }) := by
  rw [apply, update]
  cases gateway.routes.update old new <;> rfl

theorem update_eq_error_iff (represents : gateway.routes.Represents table) {old new : Resource} :
    gateway.apply (.updated old new) = .error refusal ↔
      gateway.Refuses (.updated old new) refusal := by
  constructor
  · intro refused
    cases old <;> cases new
    case route.route old new =>
      rw [apply_moved, map_eq_error_iff] at refused
      obtain ⟨occupant, held, other, rfl⟩ := (represents.update_eq_error_iff old).mp refused
      exact .slotTaken held other
    case mockTarget.mockTarget old new =>
      rw [apply_eq] at refused
      have denied : updateMock gateway.mocks old new = .error refusal :=
        map_eq_error_iff.mp refused
      obtain ⟨bare, rfl⟩ := (Mocks.updateMock_eq_error_iff _ old).mp denied
      exact .updatedBare bare
    case binding.binding => cases refused
    case credential.credential => cases refused
    all_goals
      cases refused
      exact .kindMismatch nofun
  · intro refuses
    cases refuses with
    | @updatedBare old new bare =>
        have denied := (Mocks.updateMock_eq_error_iff gateway.mocks old).mpr ⟨bare, rfl⟩
        rw [apply_eq]
        exact map_eq_error_iff.mpr denied
    | @slotTaken old new occupant held other =>
        rw [apply_moved, map_eq_error_iff]
        exact (represents.update_eq_error_iff old).mpr ⟨occupant, held, other, rfl⟩
    | kindMismatch differ =>
        cases old <;> cases new
        case route.route => exact absurd rfl differ
        case binding.binding => exact absurd rfl differ
        case credential.credential => exact absurd rfl differ
        case mockTarget.mockTarget => exact absurd rfl differ
        all_goals rfl

/-- A gateway refuses an event exactly for its causes. -/
theorem apply_eq_error_iff (represents : gateway.routes.Represents table) (event : Event) :
    gateway.apply event = .error refusal ↔ gateway.Refuses event refusal := by
  cases event with
  | added resource => exact add_eq_error_iff
  | updated old new => exact update_eq_error_iff represents
  | deleted resource => exact delete_eq_error_iff

/-- Whatever was applied and requested before, an event is refused exactly for its causes.  Carried
out write by write, a refused event leaves the gateway as it found it, and any other leaves it as
applied. -/
theorem refused_without_trace (steps : List Step) (event : Event) :
    (∀ refusal, (fresh.run steps).apply event = .error refusal ↔
        (fresh.run steps).Refuses event refusal) ∧
      (enact event).perform (fresh.run steps) =
        match (fresh.run steps).apply event with
        | .ok next => (.ok (), next)
        | .error refusal => (.error refusal, fresh.run steps) := by
  constructor
  · intro refusal
    exact apply_eq_error_iff (represents_run steps) event
  · rw [realizes_enact event (fresh.run steps)]
    dsimp only
    cases (fresh.run steps).apply event <;> rfl

end Gateway

end Tollgate
