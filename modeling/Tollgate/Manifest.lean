import Tollgate.Resource.Route
import Tollgate.Resource.Binding
import Tollgate.Resource.Credential
import Tollgate.Resource.Mock

/-!
# Manifests and the changes between them

A manifest lists the resources of every kind.  `Manifest.diff` derives the events that lead from
one manifest to the next: resources are matched by kind, namespace and name, removals come before
everything else, and a resource that stays as it is causes no event.
-/

namespace Tollgate

/-- The kinds of resource. -/
inductive Kind where
  | route
  | binding
  | credential
  | mockTarget
  deriving DecidableEq, Repr

namespace Kind

/-- The kind's word. -/
def word : Kind → String
  | route => "route"
  | binding => "binding"
  | credential => "credential"
  | mockTarget => "mock_target"

/-- The kind with this word. -/
def ofWord? (word : String) : Option Kind :=
  [route, binding, credential, mockTarget].find? (·.word = word)

end Kind

/-- A resource of any kind. -/
inductive Resource where
  | route (route : Route)
  | binding (binding : Binding)
  | credential (credential : Credential)
  | mockTarget (target : MockTarget)
  deriving DecidableEq, Repr

namespace Resource

/-- The kind of a resource. -/
def kind : Resource → Kind
  | route _ => .route
  | binding _ => .binding
  | credential _ => .credential
  | mockTarget _ => .mockTarget

/-- The namespace and name of a resource. -/
def id : Resource → ResourceName
  | route r => r.id
  | binding b => b.id
  | credential c => c.id
  | mockTarget m => m.id

/-- What a resource is matched by. -/
def key (resource : Resource) : Kind × ResourceName :=
  (resource.kind, resource.id)

end Resource

/-- A change of the configuration; it carries whole resources. -/
inductive Event where
  | added (resource : Resource)
  | updated (old new : Resource)
  | deleted (resource : Resource)
  deriving DecidableEq, Repr

namespace Event

/-- The resource that the event leaves behind, or takes away. -/
def resource : Event → Resource
  | added resource => resource
  | updated _ new => new
  | deleted resource => resource

end Event

/-- A complete configuration. -/
structure Manifest where
  routes : List Route := []
  bindings : List Binding := []
  credentials : List Credential := []
  mockTargets : List MockTarget := []
  deriving DecidableEq, Repr, Inhabited

namespace Manifest

/-- The manifest without resources. -/
def empty : Manifest :=
  {}

/-- All resources, kind by kind, in the order of their lists. -/
def resources (manifest : Manifest) : List Resource :=
  manifest.routes.map .route ++ manifest.bindings.map .binding
    ++ manifest.credentials.map .credential ++ manifest.mockTargets.map .mockTarget

/-- The number of resources. -/
def size (manifest : Manifest) : Nat :=
  manifest.routes.length + manifest.bindings.length + manifest.credentials.length
    + manifest.mockTargets.length

/-- Open every credential; the first that does not open gives the fault. -/
def reveal (sealed : Manifest) (decrypt : Decryptor) : Except SealFault Manifest := do
  let credentials ← sealed.credentials.mapM decrypt
  return { sealed with credentials }

/-- The last resource of a list with a given key. -/
def lastWith? (key : Kind × ResourceName) (resources : List Resource) : Option Resource :=
  resources.reverse.find? (·.key = key)

/-- Removals for all resources whose key the next manifest lacks. -/
def removals (previous next : Manifest) : List Event :=
  (previous.resources.filter fun resource =>
    !(next.resources.any (·.key = resource.key))).map .deleted

/-- What becomes of one resource of the next manifest: an addition when its key is new, an update
when the previous resource with the key differs, and nothing otherwise. -/
def arrival (previous : Manifest) (resource : Resource) : Option Event :=
  match lastWith? resource.key previous.resources with
  | none => some (.added resource)
  | some old => if old = resource then none else some (.updated old resource)

/-- The events that lead from one manifest to the next. -/
def diff (previous next : Manifest) : List Event :=
  removals previous next ++ next.resources.filterMap (arrival previous)

theorem mapM_reveal_eq_ok_iff {sealed opened : List Credential} :
    sealed.mapM Credential.reveal = .ok opened ↔
      opened = sealed ∧ ∀ credential ∈ sealed, "" ∉ credential.revisions := by
  induction sealed generalizing opened with
  | nil =>
      simp only [List.mapM_nil, pure, Except.pure, Except.ok.injEq]
      constructor
      · rintro rfl
        exact ⟨rfl, fun _ member => nomatch member⟩
      · rintro ⟨rfl, _⟩
        rfl
  | cons first rest ih =>
      rw [List.mapM_cons, List.forall_mem_cons]
      cases head : first.reveal with
      | error fault =>
          have blank : "" ∈ first.revisions := by
            by_cases member : "" ∈ first.revisions
            · exact member
            · rw [Credential.reveal_eq_ok_iff.2 ⟨rfl, member⟩] at head
              contradiction
          simp [bind, Except.bind, blank]
      | ok value =>
          obtain ⟨rfl, kept⟩ := Credential.reveal_eq_ok_iff.1 head
          cases tail : rest.mapM Credential.reveal with
          | error fault =>
              have missed : ¬∀ credential ∈ rest, "" ∉ credential.revisions := by
                intro all
                rw [ih.2 ⟨rfl, all⟩] at tail
                contradiction
              simp [bind, Except.bind, missed]
          | ok values =>
              obtain ⟨rfl, all⟩ := ih.1 tail
              simp only [bind, Except.bind, pure, Except.pure, Except.ok.injEq]
              constructor
              · rintro rfl
                exact ⟨rfl, kept, all⟩
              · rintro ⟨rfl, _⟩
                rfl

/-- A manifest in plain text opens exactly when no revision is blank, and then it is what it
was. -/
theorem reveal_eq_ok_iff {sealed opened : Manifest} :
    sealed.reveal Credential.reveal = .ok opened ↔
      opened = sealed ∧ ∀ credential ∈ sealed.credentials, "" ∉ credential.revisions := by
  unfold reveal
  cases credentials : sealed.credentials.mapM Credential.reveal with
  | error fault =>
      have missed : ¬∀ credential ∈ sealed.credentials, "" ∉ credential.revisions := by
        intro all
        rw [mapM_reveal_eq_ok_iff.2 ⟨rfl, all⟩] at credentials
        contradiction
      simp [bind, Except.bind, missed]
  | ok values =>
      obtain ⟨rfl, all⟩ := mapM_reveal_eq_ok_iff.1 credentials
      simp only [bind, Except.bind, pure, Except.pure, Except.ok.injEq]
      constructor
      · rintro rfl
        exact ⟨rfl, all⟩
      · rintro ⟨rfl, _⟩
        rfl

@[simp]
theorem length_resources (manifest : Manifest) :
    manifest.resources.length = manifest.size := by
  simp [resources, size, Nat.add_assoc]

end Manifest

end Tollgate
