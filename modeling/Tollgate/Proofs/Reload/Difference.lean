import Tollgate.Proofs.Reload.Basic
import Mathlib.Data.List.Perm.Subperm

/-!
# Events between manifests

With distinct keys a manifest is a map from keys to resources.  The events between two manifests are
their differences as maps: each key that the maps answer differently has one event, which finds the
resource of the first map and leaves that of the second, and no other key has any.
-/

namespace Tollgate

/-! ## Resources by key -/

namespace Manifest

variable {manifest previous next : Manifest} {resource : Resource} {key : Kind × ResourceName}

theorem lastWith?_eq_none_iff {resources : List Resource} :
    lastWith? key resources = none ↔ key ∉ resources.map Resource.key := by
  simp [lastWith?]

theorem of_lastWith?_eq_some {resources : List Resource}
    (found : lastWith? key resources = some resource) :
    resource ∈ resources ∧ resource.key = key :=
  ⟨List.mem_reverse.mp (List.mem_of_find?_eq_some found), by simpa using List.find?_some found⟩

/-- Resources that agree in kind, namespace and name are equal. -/
def OneOfEach (manifest : Manifest) : Prop :=
  ∀ first ∈ manifest.resources, ∀ second ∈ manifest.resources,
    first.key = second.key → first = second

/-- Distinct keys leave no two resources to agree. -/
theorem DistinctKeys.oneOfEach (distinct : manifest.DistinctKeys) : manifest.OneOfEach :=
  fun _ first _ second same => List.inj_on_of_nodup_map distinct first second same

/-- With one resource of each key, that one is the last of its key. -/
theorem OneOfEach.lastWith? (single : manifest.OneOfEach) (member : resource ∈ manifest.resources) :
    lastWith? resource.key manifest.resources = some resource := by
  cases found : Manifest.lastWith? resource.key manifest.resources with
  | none => exact absurd (List.mem_map_of_mem member) (lastWith?_eq_none_iff.mp found)
  | some other =>
      obtain ⟨present, same⟩ := of_lastWith?_eq_some found
      rw [single other present resource member same]

/-- The resources of a manifest under their keys; of one key the last counts. -/
def byKey (manifest : Manifest) : Dict (Kind × ResourceName) Resource :=
  .ofList (manifest.resources.map fun resource => (resource.key, resource))

theorem get?_byKey (manifest : Manifest) (key : Kind × ResourceName) :
    manifest.byKey.get? key = lastWith? key manifest.resources := by
  rw [byKey, Dict.get?_ofList, ← List.map_reverse, List.find?_map, Option.map_map]
  exact Option.map_id'

theorem get?_byKey_eq_none_iff :
    manifest.byKey.get? key = none ↔ key ∉ manifest.resources.map Resource.key := by
  rw [get?_byKey, lastWith?_eq_none_iff]

/-- With one resource of each key, that one stands under its key. -/
theorem OneOfEach.get?_byKey_eq_some_iff (single : manifest.OneOfEach) :
    manifest.byKey.get? key = some resource ↔
      resource ∈ manifest.resources ∧ resource.key = key := by
  rw [get?_byKey]
  constructor
  · exact of_lastWith?_eq_some
  · rintro ⟨member, rfl⟩
    exact single.lastWith? member

/-! ## Events for differences -/

/-- What can stand among the events between two manifests: the deletion of a resource whose key is
gone, the addition of one whose key is new, and the update of one that differs under its key. -/
inductive Between (previous next : Manifest) : Event → Prop where
  | deleted {resource : Resource} (known : resource ∈ previous.resources)
      (left : resource.key ∉ next.resources.map Resource.key) :
      Between previous next (.deleted resource)
  | added {resource : Resource} (present : resource ∈ next.resources)
      (unknown : resource.key ∉ previous.resources.map Resource.key) :
      Between previous next (.added resource)
  | updated {old new : Resource} (known : old ∈ previous.resources)
      (present : new ∈ next.resources) (same : old.key = new.key) (differs : old ≠ new) :
      Between previous next (.updated old new)

variable {event : Event}

theorem mem_removals_iff :
    event ∈ previous.removals next ↔
      ∃ resource ∈ previous.resources, resource.key ∉ next.resources.map Resource.key ∧
        .deleted resource = event := by
  simp [removals, and_assoc]

theorem between_of_arrival (present : resource ∈ next.resources)
    (arrives : previous.arrival resource = some event) : Between previous next event := by
  unfold arrival at arrives
  split at arrives
  · next missed =>
    cases arrives
    exact .added present (lastWith?_eq_none_iff.mp missed)
  · next old found =>
    split at arrives
    · contradiction
    · next differs =>
      cases arrives
      obtain ⟨known, same⟩ := of_lastWith?_eq_some found
      exact .updated known present same differs

theorem between_of_mem (member : event ∈ previous.diff next) : Between previous next event := by
  rcases List.mem_append.mp member with removal | arrival
  · obtain ⟨resource, known, left, rfl⟩ := mem_removals_iff.mp removal
    exact .deleted known left
  · obtain ⟨resource, present, arrives⟩ := List.mem_filterMap.mp arrival
    exact between_of_arrival present arrives

/-- With distinct keys before, every difference has its event. -/
theorem mem_diff_iff (keysBefore : previous.DistinctKeys) :
    event ∈ previous.diff next ↔ Between previous next event := by
  constructor
  · exact between_of_mem
  · intro between
    cases between with
    | deleted known left =>
        exact List.mem_append_left _ (mem_removals_iff.mpr ⟨_, known, left, rfl⟩)
    | @added resource present unknown =>
        have arrives : previous.arrival resource = some (.added resource) := by
          rw [arrival, lastWith?_eq_none_iff.mpr unknown]
        exact List.mem_append_right _ (List.mem_filterMap.mpr ⟨resource, present, arrives⟩)
    | @updated old new known present same differs =>
        have arrives : previous.arrival new = some (.updated old new) := by
          rw [arrival, ← same, keysBefore.oneOfEach.lastWith? known]
          exact if_neg differs
        exact List.mem_append_right _ (List.mem_filterMap.mpr ⟨new, present, arrives⟩)

theorem arrival_eq_none_iff :
    previous.arrival resource = none ↔
      lastWith? resource.key previous.resources = some resource := by
  rw [arrival]
  cases lastWith? resource.key previous.resources with
  | none => simp
  | some old => simp [eq_comm]

theorem removals_self (manifest : Manifest) : manifest.removals manifest = [] := by
  rw [removals, List.map_eq_nil_iff, List.filter_eq_nil_iff]
  intro resource member
  simpa using ⟨resource, member, rfl⟩

/-- Between a manifest and itself there are events exactly when two of its resources differ under
one key. -/
theorem diff_self_eq_nil_iff : manifest.diff manifest = [] ↔ manifest.OneOfEach := by
  rw [diff, removals_self, List.nil_append, List.filterMap_eq_nil_iff]
  simp only [arrival_eq_none_iff]
  constructor
  · intro last first firstMember second secondMember same
    have found := last first firstMember
    rw [same, last second secondMember] at found
    exact (Option.some.inj found).symm
  · intro single resource member
    exact single.lastWith? member

end Manifest

namespace Event

/-- The key that an event is about. -/
def key (event : Event) : Kind × ResourceName :=
  event.resource.key

/-- The resource that an event finds under its key. -/
def before? : Event → Option Resource
  | .added _ => none
  | .updated old _ => some old
  | .deleted resource => some resource

/-- The resource that an event leaves under its key. -/
def after? : Event → Option Resource
  | .added resource => some resource
  | .updated _ new => some new
  | .deleted _ => none

/-- Carry out an event on resources under their keys, if it finds there what it should. -/
def replay? (map : Dict (Kind × ResourceName) Resource) (event : Event) :
    Option (Dict (Kind × ResourceName) Resource) :=
  if map.get? event.key = event.before? then
    match event.after? with
    | some resource => some (map.insert event.key resource)
    | none => some (map.erase event.key)
  else none

/-- Carry out events one after the other, as long as each finds what it should. -/
def replayAll? (map : Dict (Kind × ResourceName) Resource) (events : List Event) :
    Option (Dict (Kind × ResourceName) Resource) :=
  events.foldlM replay? map

variable {map last : Dict (Kind × ResourceName) Resource} {event : Event} {events : List Event}

theorem get?_of_replay? (replayed : event.replay? map = some last)
    (key : Kind × ResourceName) :
    last.get? key = if key = event.key then event.after? else map.get? key := by
  unfold replay? at replayed
  split at replayed
  · split at replayed
    · next left =>
      cases replayed
      rw [Dict.get?_insert, left]
    · next left =>
      cases replayed
      rw [Dict.get?_erase, left]
  · contradiction

theorem exists_replay? (fits : map.get? event.key = event.before?) :
    ∃ last, event.replay? map = some last := by
  rw [replay?, if_pos fits]
  split <;> exact ⟨_, rfl⟩

/-- A replay changes nothing under keys that it has no event for. -/
theorem get?_of_replayAll? (replayed : replayAll? map events = some last)
    {key : Kind × ResourceName} (foreign : key ∉ events.map Event.key) :
    last.get? key = map.get? key := by
  induction events generalizing map with
  | nil =>
      cases replayed
      rfl
  | cons event rest ih =>
      rw [List.map_cons, List.mem_cons, not_or] at foreign
      rw [replayAll?, List.foldlM_cons] at replayed
      obtain ⟨next, replayed, onward⟩ := Option.bind_eq_some_iff.mp replayed
      rw [ih onward foreign.2, get?_of_replay? replayed, if_neg foreign.1]

/-- Events with distinct keys that each find in the map what they should can be replayed, and leave
what they should. -/
theorem exists_replayAll? (distinct : (events.map Event.key).Nodup)
    (fits : ∀ event ∈ events, map.get? event.key = event.before?) :
    ∃ last, replayAll? map events = some last ∧
      ∀ event ∈ events, last.get? event.key = event.after? := by
  induction events generalizing map with
  | nil => exact ⟨map, rfl, fun _ member => nomatch member⟩
  | cons event rest ih =>
      rw [List.map_cons, List.nodup_cons] at distinct
      rw [List.forall_mem_cons] at fits
      obtain ⟨next, replayed⟩ := exists_replay? fits.1
      have onward : ∀ other ∈ rest, next.get? other.key = other.before? := by
        intro other member
        have apart : other.key ≠ event.key := fun same =>
          distinct.1 (same ▸ List.mem_map_of_mem member)
        rw [get?_of_replay? replayed, if_neg apart]
        exact fits.2 other member
      obtain ⟨last, replayedAll, leaves⟩ := ih distinct.2 onward
      refine ⟨last, ?_, List.forall_mem_cons.mpr ⟨?_, leaves⟩⟩
      · rw [replayAll?, List.foldlM_cons]
        exact Option.bind_eq_some_iff.mpr ⟨next, replayed, replayedAll⟩
      · rw [get?_of_replayAll? replayedAll distinct.1, get?_of_replay? replayed, if_pos rfl]

end Event

namespace Manifest

variable {previous next : Manifest} {event : Event} {key : Kind × ResourceName}

/-- An event finds the resource of the manifest before under its key, and leaves that of the
manifest after. -/
theorem Between.get?_byKey (between : Between previous next event)
    (before : previous.OneOfEach) (after : next.OneOfEach) :
    previous.byKey.get? event.key = event.before? ∧
      next.byKey.get? event.key = event.after? := by
  cases between with
  | deleted known left =>
      exact ⟨before.get?_byKey_eq_some_iff.mpr ⟨known, rfl⟩, get?_byKey_eq_none_iff.mpr left⟩
  | added present unknown =>
      exact ⟨get?_byKey_eq_none_iff.mpr unknown, after.get?_byKey_eq_some_iff.mpr ⟨present, rfl⟩⟩
  | updated known present same differs =>
      exact ⟨before.get?_byKey_eq_some_iff.mpr ⟨known, same⟩,
        after.get?_byKey_eq_some_iff.mpr ⟨present, rfl⟩⟩

theorem Between.before?_ne_after? (between : Between previous next event) :
    event.before? ≠ event.after? := by
  cases between with
  | deleted => exact Option.some_ne_none _
  | added => exact (Option.some_ne_none _).symm
  | updated _ _ _ differs => exact fun same => differs (Option.some.inj same)

/-- A key without an event is answered alike before and after. -/
theorem get?_byKey_of_unchanged (before : previous.OneOfEach) (after : next.OneOfEach)
    (unchanged : ∀ event, Between previous next event → event.key ≠ key) :
    previous.byKey.get? key = next.byKey.get? key := by
  cases held : previous.byKey.get? key with
  | none =>
      cases holds : next.byKey.get? key with
      | none => rfl
      | some new =>
          obtain ⟨present, rfl⟩ := after.get?_byKey_eq_some_iff.mp holds
          exact absurd rfl (unchanged _ (.added present (get?_byKey_eq_none_iff.mp held)))
  | some old =>
      obtain ⟨known, rfl⟩ := before.get?_byKey_eq_some_iff.mp held
      cases holds : next.byKey.get? old.key with
      | none => exact absurd rfl (unchanged _ (.deleted known (get?_byKey_eq_none_iff.mp holds)))
      | some new =>
          obtain ⟨present, same⟩ := after.get?_byKey_eq_some_iff.mp holds
          by_cases kept : old = new
          · rw [kept]
          · exact absurd same (unchanged _ (.updated known present same.symm kept))

/-- Events of one kind between manifests are about different names. -/
theorem pairwise_id_filter_diff (keysBefore : previous.DistinctKeys)
    (keysAfter : next.DistinctKeys) (kind : Kind) :
    ((previous.diff next).filter (Event.concerns kind)).Pairwise fun first second =>
      first.resource.id ≠ second.resource.id := by
  have ofSection {α : Type} [DecidableEq α] (part : Section α) :
      ((previous.diff next).filter (Event.concerns part.kind)).Pairwise fun first second =>
        first.resource.id ≠ second.resource.id := by
    rw [part.filter_diff]
    exact part.changes_pairwise (part.nodup_names keysBefore) (part.nodup_names keysAfter)
  cases kind with
  | route => exact ofSection .routes
  | binding => exact ofSection .bindings
  | credential => exact ofSection .credentials
  | mockTarget => exact ofSection .mockTargets

/-- No two events between manifests are about one key. -/
theorem nodup_keys_diff (keysBefore : previous.DistinctKeys) (keysAfter : next.DistinctKeys) :
    ((previous.diff next).map Event.key).Nodup := by
  rw [List.Nodup, List.pairwise_map, List.pairwise_iff_forall_sublist]
  intro first second within same
  -- two events of one key are of one kind
  have kinds : first.resource.kind = second.resource.kind := congrArg Prod.fst same
  have narrowed := within.filter (Event.concerns second.resource.kind)
  rw [List.filter_eq_self.mpr (by simp [Event.concerns, kinds])] at narrowed
  have apart := pairwise_id_filter_diff keysBefore keysAfter second.resource.kind
  exact List.pairwise_iff_forall_sublist.mp apart narrowed (congrArg Prod.snd same)

/-- What arrives stands in the order of the next manifest. -/
theorem arrivals_sublist (previous next : Manifest) :
    ((next.resources.filterMap previous.arrival).map Event.resource).Sublist next.resources := by
  have kept : (next.resources.filterMap previous.arrival).map Event.resource =
      next.resources.filter fun resource => (previous.arrival resource).isSome := by
    rw [List.map_filterMap, ← List.filterMap_eq_filter]
    congr 1
    funext resource
    cases arrives : previous.arrival resource with
    | none => simp [Option.guard, arrives]
    | some event => simp [Option.guard, arrives, Section.resource_of_arrival arrives]
  rw [kept]
  exact List.filter_sublist

/-- Events lead from one manifest to the next exactly: there is one for each difference and no
other, deletions come first, and what follows them stands in the order of the next manifest. -/
structure Exact (previous next : Manifest) (events : List Event) : Prop where
  members : ∀ event, event ∈ events ↔ Between previous next event
  keys : (events.map Event.key).Nodup
  order : ∃ (gone : List Resource) (arrivals : List Event),
    events = gone.map .deleted ++ arrivals ∧ (∀ resource, .deleted resource ∉ arrivals) ∧
    (arrivals.map Event.resource).Sublist
      (next.routes.map .route ++ next.bindings.map .binding ++
        next.credentials.map .credential ++ next.mockTargets.map .mockTarget)
  /-- Each event finds what it should, and in the end every key is answered as after. -/
  replays : ∃ last, Event.replayAll? previous.byKey events = some last ∧
    ∀ key, last.get? key = next.byKey.get? key
  /-- No fewer events lead there. -/
  least : ∀ others last, Event.replayAll? previous.byKey others = some last →
    (∀ key, last.get? key = next.byKey.get? key) → events.length ≤ others.length

theorem diff_replays (keysBefore : previous.DistinctKeys) (keysAfter : next.DistinctKeys) :
    ∃ last, Event.replayAll? previous.byKey (previous.diff next) = some last ∧
      ∀ key, last.get? key = next.byKey.get? key := by
  have turns (event : Event) (member : event ∈ previous.diff next) :=
    (between_of_mem member).get?_byKey keysBefore.oneOfEach keysAfter.oneOfEach
  obtain ⟨last, replayed, leaves⟩ := Event.exists_replayAll?
    (nodup_keys_diff keysBefore keysAfter) fun event member => (turns event member).1
  refine ⟨last, replayed, fun key => ?_⟩
  by_cases touched : key ∈ (previous.diff next).map Event.key
  · obtain ⟨event, member, rfl⟩ := List.mem_map.mp touched
    rw [leaves event member, (turns event member).2]
  · rw [Event.get?_of_replayAll? replayed touched]
    apply get?_byKey_of_unchanged keysBefore.oneOfEach keysAfter.oneOfEach
    rintro event between rfl
    exact touched (List.mem_map_of_mem ((mem_diff_iff keysBefore).mpr between))

theorem diff_least (keysBefore : previous.DistinctKeys) (keysAfter : next.DistinctKeys)
    {others : List Event} {last : Dict (Kind × ResourceName) Resource}
    (replayed : Event.replayAll? previous.byKey others = some last)
    (reaches : ∀ key, last.get? key = next.byKey.get? key) :
    (previous.diff next).length ≤ others.length := by
  have needed : (previous.diff next).map Event.key ⊆ others.map Event.key := by
    intro key touched
    obtain ⟨event, member, rfl⟩ := List.mem_map.mp touched
    by_contra foreign
    have between := between_of_mem member
    obtain ⟨finds, leaves⟩ := between.get?_byKey keysBefore.oneOfEach keysAfter.oneOfEach
    apply between.before?_ne_after?
    rw [← finds, ← leaves, ← reaches, Event.get?_of_replayAll? replayed foreign]
  simpa using (List.subperm_of_subset (nodup_keys_diff keysBefore keysAfter) needed).length_le

/-- With distinct keys on both sides, the events between two manifests are exact. -/
theorem diff_exact (keysBefore : previous.DistinctKeys) (keysAfter : next.DistinctKeys) :
    Exact previous next (previous.diff next) where
  members event := mem_diff_iff keysBefore
  keys := nodup_keys_diff keysBefore keysAfter
  order := by
    refine ⟨_, next.resources.filterMap previous.arrival, rfl, ?_, arrivals_sublist previous next⟩
    intro resource arrived
    obtain ⟨_, present, arrives⟩ := List.mem_filterMap.mp arrived
    obtain rfl := Section.resource_of_arrival arrives
    cases between_of_arrival present arrives with
    | deleted _ left => exact left (List.mem_map_of_mem present)
  replays := diff_replays keysBefore keysAfter
  least _ _ replayed reaches := diff_least keysBefore keysAfter replayed reaches

/-- A manifest with a route, a binding and a credential of one name. -/
def namesakes : Manifest where
  routes := [{ id := ⟨"n", "a"⟩, sourcePath := "/", backend := "b" }]
  bindings := [{ id := ⟨"n", "a"⟩ }]
  credentials := [{ id := ⟨"n", "a"⟩, revisions := ["k"] }]

/-- The same route beside another binding of the name, and a mock target of the name in place of the
credential. -/
def laterNamesakes : Manifest where
  routes := namesakes.routes
  bindings := [{ id := ⟨"n", "a"⟩, entries := [{ credential := "a", defaultRule := .global }] }]
  mockTargets := [{ id := ⟨"n", "a"⟩ }]

/-- A shared name does not mix up the resources of different kinds. -/
theorem diff_exact_namesakes :
    namesakes.DistinctKeys ∧ laterNamesakes.DistinctKeys ∧
      Exact namesakes laterNamesakes (namesakes.diff laterNamesakes) ∧
      namesakes.diff laterNamesakes =
        [.deleted (.credential { id := ⟨"n", "a"⟩, revisions := ["k"] }),
          .updated (.binding { id := ⟨"n", "a"⟩ })
            (.binding { id := ⟨"n", "a"⟩,
                        entries := [{ credential := "a", defaultRule := .global }] }),
          .added (.mockTarget { id := ⟨"n", "a"⟩ })] := by
  have before : namesakes.DistinctKeys := by decide +kernel
  have after : laterNamesakes.DistinctKeys := by decide +kernel
  exact ⟨before, after, diff_exact before after, by decide +kernel⟩

end Manifest

end Tollgate
