import Tollgate.Proofs.Batch

/-!
# Sections of a manifest

A manifest lists the resources of each kind by themselves.  A section says which list that is, and
how its items stand among all resources.  The events between two manifests are, kind by kind, the
changes between the two lists.
-/

namespace Tollgate

namespace Event

/-- The resources that an event carries. -/
def resources : Event → List Resource
  | added resource => [resource]
  | updated old new => [old, new]
  | deleted resource => [resource]

theorem resource_mem_resources (event : Event) : event.resource ∈ event.resources := by
  cases event with
  | added resource => exact List.mem_singleton_self resource
  | updated old new => exact List.mem_cons_of_mem old (List.mem_singleton_self new)
  | deleted resource => exact List.mem_singleton_self resource

/-- Whether the resource that an event leaves behind, or takes away, is of a kind. -/
def concerns (kind : Kind) (event : Event) : Bool :=
  event.resource.kind = kind

end Event

namespace Manifest

private theorem filter_kind_map {α : Type} (wrap : α → Resource) (found : Kind)
    (ofKind : ∀ item, (wrap item).kind = found) (items : List α) (kind : Kind) :
    (items.map wrap).filter (·.kind = kind) = if found = kind then items.map wrap else [] := by
  split
  · next same =>
    apply List.filter_eq_self.mpr
    simp [ofKind, same]
  · next differs =>
    apply List.filter_eq_nil_iff.mpr
    simp [ofKind, differs]

/-- The resources of one kind, in their order. -/
theorem filter_kind (manifest : Manifest) (kind : Kind) :
    manifest.resources.filter (·.kind = kind) =
      match kind with
      | .route => manifest.routes.map .route
      | .binding => manifest.bindings.map .binding
      | .credential => manifest.credentials.map .credential
      | .mockTarget => manifest.mockTargets.map .mockTarget := by
  rw [resources, List.filter_append, List.filter_append, List.filter_append,
    filter_kind_map Resource.route .route fun _ => rfl,
    filter_kind_map Resource.binding .binding fun _ => rfl,
    filter_kind_map Resource.credential .credential fun _ => rfl,
    filter_kind_map Resource.mockTarget .mockTarget fun _ => rfl]
  cases kind <;> simp

end Manifest

/-- The list of a manifest that holds the resources of one kind. -/
structure Section (α : Type) where
  kind : Kind
  items : Manifest → List α
  wrap : α → Resource
  unwrap? : Resource → Option α
  name : α → ResourceName
  key_wrap : ∀ item, (wrap item).key = (kind, name item)
  unwrap?_wrap : ∀ item, unwrap? (wrap item) = some item
  unwrap?_isSome : ∀ resource, (unwrap? resource).isSome ↔ resource.kind = kind
  resources_of_kind : ∀ manifest,
    manifest.resources.filter (·.kind = kind) = (items manifest).map wrap

namespace Section

/-- The routes of a manifest. -/
def routes : Section Route where
  kind := .route
  items := Manifest.routes
  wrap := .route
  unwrap?
    | .route route => some route
    | _ => none
  name := Route.id
  key_wrap _ := rfl
  unwrap?_wrap _ := rfl
  unwrap?_isSome resource := by cases resource <;> simp [Resource.kind]
  resources_of_kind manifest := manifest.filter_kind _

/-- The bindings of a manifest. -/
def bindings : Section Binding where
  kind := .binding
  items := Manifest.bindings
  wrap := .binding
  unwrap?
    | .binding binding => some binding
    | _ => none
  name := Binding.id
  key_wrap _ := rfl
  unwrap?_wrap _ := rfl
  unwrap?_isSome resource := by cases resource <;> simp [Resource.kind]
  resources_of_kind manifest := manifest.filter_kind _

/-- The credentials of a manifest. -/
def credentials : Section Credential where
  kind := .credential
  items := Manifest.credentials
  wrap := .credential
  unwrap?
    | .credential credential => some credential
    | _ => none
  name := Credential.id
  key_wrap _ := rfl
  unwrap?_wrap _ := rfl
  unwrap?_isSome resource := by cases resource <;> simp [Resource.kind]
  resources_of_kind manifest := manifest.filter_kind _

/-- The mock targets of a manifest. -/
def mockTargets : Section MockTarget where
  kind := .mockTarget
  items := Manifest.mockTargets
  wrap := .mockTarget
  unwrap?
    | .mockTarget target => some target
    | _ => none
  name := MockTarget.id
  key_wrap _ := rfl
  unwrap?_wrap _ := rfl
  unwrap?_isSome resource := by cases resource <;> simp [Resource.kind]
  resources_of_kind manifest := manifest.filter_kind _

variable {α : Type} (part : Section α)

theorem wrap_injective {left right : α} (same : part.wrap left = part.wrap right) :
    left = right := by
  have unwrapped := congrArg part.unwrap? same
  rw [part.unwrap?_wrap, part.unwrap?_wrap] at unwrapped
  exact Option.some.inj unwrapped

theorem unwrap?_eq_none {resource : Resource} (foreign : resource.kind ≠ part.kind) :
    part.unwrap? resource = none := by
  rw [← Option.not_isSome_iff_eq_none, part.unwrap?_isSome]
  exact foreign

variable [DecidableEq α]

/-- What becomes of one item of the next list: an addition when its name is new, an update when
the previous item of the name differs, and nothing otherwise. -/
def arrival (previous : List α) (item : α) : Option Event :=
  match previous.reverse.find? (part.name · = part.name item) with
  | none => some (.added (part.wrap item))
  | some old => if old = item then none else some (.updated (part.wrap old) (part.wrap item))

omit [DecidableEq α] in
/-- The items whose name the next list lacks. -/
def gone (previous next : List α) : List α :=
  previous.filter fun old => part.name old ∉ next.map part.name

/-- The events that lead from one list to the next: removals first, then what arrives. -/
def changes (previous next : List α) : List Event :=
  (part.gone previous next).map (fun old => .deleted (part.wrap old)) ++
    next.filterMap (part.arrival previous)

omit [DecidableEq α] in
/-- Looking for a key among all resources is looking for a name in the section. -/
theorem find?_key (resources : List Resource) (items : List α)
    (ofKind : resources.filter (·.kind = part.kind) = items.map part.wrap) (item : α) :
    resources.find? (·.key = (part.wrap item).key) =
      (items.find? (part.name · = part.name item)).map part.wrap := by
  have narrowed : resources.find? (·.key = (part.wrap item).key) =
      (resources.filter (·.kind = part.kind)).find? (·.key = (part.wrap item).key) := by
    rw [List.find?_filter]
    congr 1
    funext resource
    rw [part.key_wrap, Resource.key]
    by_cases same : resource.kind = part.kind <;> simp [same]
  rw [narrowed, ofKind, List.find?_map]
  congr 2
  funext other
  simp [part.key_wrap]

omit [DecidableEq α] in
theorem any_key (manifest : Manifest) (item : α) :
    manifest.resources.any (·.key = (part.wrap item).key) =
      decide (part.name item ∈ (part.items manifest).map part.name) := by
  rw [← List.isSome_find?, part.find?_key _ _ (part.resources_of_kind manifest), Option.isSome_map,
    List.isSome_find?, Bool.eq_iff_iff]
  simp

omit [DecidableEq α] in
theorem lastWith?_key (manifest : Manifest) (item : α) :
    Manifest.lastWith? (part.wrap item).key manifest.resources =
      ((part.items manifest).reverse.find? (part.name · = part.name item)).map part.wrap := by
  apply part.find?_key
  rw [List.filter_reverse, part.resources_of_kind, List.map_reverse]

/-- Among the events between two manifests, what arrives in a section. -/
theorem arrival_wrap (previous : Manifest) (item : α) :
    Manifest.arrival previous (part.wrap item) = part.arrival (part.items previous) item := by
  rw [Manifest.arrival, part.lastWith?_key, arrival]
  cases (part.items previous).reverse.find? (part.name · = part.name item) with
  | none => rfl
  | some old =>
      by_cases same : old = item
      · simp [same]
      · have differs : part.wrap old ≠ part.wrap item := fun equal =>
          same (part.wrap_injective equal)
        simp [same, differs]

theorem resource_of_arrival {previous : Manifest} {resource : Resource} {event : Event}
    (arrives : previous.arrival resource = some event) : event.resource = resource := by
  unfold Manifest.arrival at arrives
  split at arrives
  · cases arrives
    rfl
  · split at arrives
    · contradiction
    · cases arrives
      rfl

omit [DecidableEq α] in
theorem filter_removals (previous next : Manifest) :
    (Manifest.removals previous next).filter (Event.concerns part.kind) =
      (part.gone (part.items previous) (part.items next)).map
        fun old => .deleted (part.wrap old) := by
  calc (Manifest.removals previous next).filter (Event.concerns part.kind)
      = ((previous.resources.filter (·.kind = part.kind)).filter fun resource =>
          !next.resources.any (·.key = resource.key)).map .deleted := by
        rw [Manifest.removals, List.filter_map, List.filter_filter, List.filter_filter]
        congr 2
        funext resource
        exact Bool.and_comm _ _
    _ = ((part.items previous).filter fun old =>
          !next.resources.any (·.key = (part.wrap old).key)).map
            fun old => .deleted (part.wrap old) := by
        rw [part.resources_of_kind, List.filter_map, List.map_map]
        rfl
    _ = _ := by
        simp only [part.any_key, gone, decide_not]

theorem filter_arrivals (previous next : Manifest) :
    (next.resources.filterMap previous.arrival).filter (Event.concerns part.kind) =
      (part.items next).filterMap (part.arrival (part.items previous)) := by
  calc (next.resources.filterMap previous.arrival).filter (Event.concerns part.kind)
      = (next.resources.filter (·.kind = part.kind)).filterMap previous.arrival := by
        rw [List.filter_filterMap, List.filterMap_filter]
        congr 1
        funext resource
        cases arrives : previous.arrival resource with
        | none => simp
        | some event =>
            rw [Option.filter_some, Event.concerns, resource_of_arrival arrives]
    _ = _ := by
        rw [part.resources_of_kind, List.filterMap_map]
        congr 1
        funext item
        exact part.arrival_wrap previous item

/-- Of the events between two manifests, those of one kind are the changes of its section. -/
theorem filter_diff (previous next : Manifest) :
    (previous.diff next).filter (Event.concerns part.kind) =
      part.changes (part.items previous) (part.items next) := by
  rw [Manifest.diff, List.filter_append, part.filter_removals, part.filter_arrivals, changes]

omit [DecidableEq α] in
/-- Of the events that load a manifest, those of one kind add the items of its section. -/
theorem filter_added (manifest : Manifest) :
    (manifest.resources.map Event.added).filter (Event.concerns part.kind) =
      (part.items manifest).map fun item => .added (part.wrap item) := by
  rw [List.filter_map]
  change (manifest.resources.filter (·.kind = part.kind)).map Event.added = _
  rw [part.resources_of_kind, List.map_map]
  rfl

end Section

end Tollgate
