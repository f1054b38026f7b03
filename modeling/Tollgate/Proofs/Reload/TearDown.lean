import Tollgate.Proofs.Gateway.Refusals
import Tollgate.Proofs.Reload.Basic

/-!
# Tearing down a manifest

The events from a manifest to the empty one drop each of its resources once.  Resources may have
taken each other's slots, names and values before; still every place that one of them could have
taken is cleared by the drop of that one, so nothing is left.  Only credentials without revisions
are refused, and these hold no place.
-/

namespace Tollgate

/-- Between a manifest and the empty one every resource is dropped. -/
theorem Manifest.diff_empty (manifest : Manifest) :
    manifest.diff .empty = manifest.resources.map .deleted := by
  simp [diff, removals, resources, empty]

theorem Section.changes_nil {α : Type} [DecidableEq α] (part : Section α) (items : List α) :
    part.changes items [] = items.map fun item => .deleted (part.wrap item) := by
  simp [changes, gone]

namespace Store

variable {σ α : Type} (store : Store σ α)

/-- Dropping items one after the other; one that is refused leaves the state as it was. -/
def drain (state : σ) (items : List α) : σ :=
  Batch.final store.react state (items.map fun item => .deleted (store.part.wrap item))

/-- A torn down store was filled with the items of its section and then drained of them. -/
theorem state_tornDown [DecidableEq α] (manifest : Manifest) :
    store.state ((Gateway.loaded manifest).applyAll (manifest.diff .empty)).2 =
      store.drain (store.fill (store.state .fresh) (store.part.items manifest))
        (store.part.items manifest) := by
  have nothing : store.part.items .empty = [] := by
    have none := store.part.resources_of_kind .empty
    exact List.map_eq_nil_iff.mp none.symm
  rw [state_diff, state_loaded, nothing, Section.changes_nil, drain]

/-- An answer that no foreign item brings about and every item of its own takes away is blank when
the store was filled and drained. -/
theorem answer_drain_fill {β : Type} (answer : σ → Option β) (concerns : α → Prop)
    [DecidablePred concerns]
    (spares : ∀ state item, ¬concerns item →
      answer (Batch.absorb store.react state (.added (store.part.wrap item))) = answer state)
    (clears : ∀ state item,
      answer (Batch.absorb store.react state (.deleted (store.part.wrap item))) =
        if concerns item then none else answer state)
    (items : List α) {state : σ} (blank : answer state = none) :
    answer (store.drain (store.fill state items) items) = none := by
  rw [drain, fill, Batch.final, Batch.final, List.foldl_map, List.foldl_map]
  exact foldl_put_take _ _ answer concerns spares clears items blank

end Store

/-! ## Store by store -/

namespace Routes

variable {routes : Routes} {table : Table}

/-- Routes that represent nothing are none, down to the last node. -/
theorem Represents.eq_empty (represents : routes.Represents table)
    (silent : ∀ slot, table.get? slot = none) : routes = .empty := by
  have bare : ∀ address, routes.slots.get? address = none := by
    intro address
    cases found : routes.slots.get? address with
    | none => rfl
    | some hosts =>
        obtain ⟨host, answered⟩ := represents.inhabited address hosts found
        rw [represents.get?_of_slots found, silent] at answered
        contradiction
  have slots : routes.slots = .empty := represents.canonical.eq_empty bare
  have count : routes.count = 0 := by
    rw [represents.counted, Dict.eq_empty silent]
    rfl
  rcases routes with ⟨_, _⟩
  subst slots count
  rfl

/-- Filling and draining come down to writes. -/
theorem drain_fill_eq_writeAll (items : List Route) :
    Store.routes.drain (Store.routes.fill .empty items) items =
      empty.writeAll (items.map .set ++ items.map .delete) := by
  have writes :
      ((items.map fun item => Event.added (.route item)) ++
        items.map fun item => Event.deleted (.route item)).filterMap writeOf? =
      items.map .set ++ items.map .delete := by
    simp [List.filterMap_append, List.filterMap_map, Function.comp_def, writeOf?]
  rw [Store.drain, Store.fill, ← Batch.final_append, ← writes]
  exact final_eq_writeAll _ _

theorem drain_fill (items : List Route) :
    Store.routes.drain (Store.routes.fill .empty items) items = .empty := by
  rw [drain_fill_eq_writeAll]
  apply (represents_empty.writeAll _).eq_empty
  intro slot
  rw [Table.writeAll, List.foldl_append, List.foldl_map, List.foldl_map]
  apply foldl_put_take _ _ (fun table : Table => table.get? slot) (·.slot = slot)
  · intro table route foreign
    rw [Table.write, Dict.get?_insert, if_neg (Ne.symm foreign)]
  · intro table route
    rw [Table.write, Dict.get?_erase]
    simp only [@eq_comm _ slot]
  · exact Dict.get?_empty slot

end Routes

theorem Grants.drain_fill (items : List Binding) :
    Store.grants.drain (Store.grants.fill .empty items) items = .empty := by
  have silent : ∀ id,
      (Store.grants.drain (Store.grants.fill .empty items) items).bindings.get? id = none := by
    intro id
    apply Store.grants.answer_drain_fill (·.bindings.get? id) (·.id = id)
    · intro grants binding foreign
      exact grants.bindings_absorb_of_ne (List.forall_mem_singleton.mpr foreign)
    · intro grants binding
      change (grants.bindings.erase binding.id).get? id = _
      simp only [Spaces.get?_erase, @eq_comm _ id]
    · exact Spaces.get?_empty id
  exact congrArg Grants.mk (Spaces.eq_empty silent)

theorem Keyring.drain_fill (items : List Credential) :
    Store.keys.drain (Store.keys.fill .empty items) items = .empty := by
  have silent : ∀ value,
      (Store.keys.drain (Store.keys.fill .empty items) items).values.get? value = none := by
    intro value
    apply Store.keys.answer_drain_fill (·.get? value) (value ∈ ·.revisions)
    · intro keys credential foreign
      exact (keys.get?_set credential value).trans (if_neg foreign)
    · intro keys credential
      exact keys.get?_absorb_deleted credential value
    · exact Keyring.get?_empty value
  exact congrArg Keyring.mk (Dict.eq_empty silent)

theorem Mocks.drain_fill (items : List MockTarget) :
    Store.mocks.drain (Store.mocks.fill .empty items) items = .empty := by
  have silent : ∀ id,
      (Store.mocks.drain (Store.mocks.fill .empty items) items).targets.get? id = none := by
    intro id
    apply Store.mocks.answer_drain_fill (·.targets.get? id) (·.id = id)
    · intro mocks target foreign
      exact mocks.targets_absorb_of_ne (List.forall_mem_singleton.mpr foreign)
    · intro mocks target
      change (mocks.targets.erase target.id).get? id = _
      simp only [Spaces.get?_erase, @eq_comm _ id]
    · exact Spaces.get?_empty id
  exact congrArg Mocks.mk (Spaces.eq_empty silent)

namespace Gateway

/-- Wherever a run has led, a deletion that removes a route takes one off a count that has one to
give. -/
theorem count_delete_run (steps : List Step) (route : Route) {removed : Route}
    (found : ((fresh.run steps).routes.delete route).1 = some removed) :
    ((fresh.run steps).routes.delete route).2.count + 1 = (fresh.run steps).routes.count := by
  have represents := represents_run steps
  exact represents.count_clear ((represents.clear_fst route.address route.host).symm.trans found)

/-- No store of the gateway has anything in it: no route is counted and no trie node is left, no
namespace is kept for bindings or mock targets, and no value for credentials. -/
structure Vacant (gateway : Gateway) : Prop where
  routeCount : gateway.routes.count = 0
  slots : gateway.routes.slots.isEmpty = true
  nodes : gateway.routes.slots.nodeCount = 0
  bindings : gateway.grants.isEmpty = true
  credentials : gateway.keys.size = 0
  mockTargets : gateway.mocks.isEmpty = true

theorem vacant_fresh : fresh.Vacant :=
  ⟨rfl, rfl, rfl, rfl, rfl, rfl⟩

/-- A torn down gateway is the one that nothing was ever loaded into. -/
theorem applyAll_diff_empty (manifest : Manifest) :
    ((loaded manifest).applyAll (manifest.diff .empty)).2 = fresh := by
  have routes : ((loaded manifest).applyAll (manifest.diff .empty)).2.routes = .empty :=
    (Store.routes.state_tornDown manifest).trans (Routes.drain_fill manifest.routes)
  have grants : ((loaded manifest).applyAll (manifest.diff .empty)).2.grants = .empty :=
    (Store.grants.state_tornDown manifest).trans (Grants.drain_fill manifest.bindings)
  have keys : ((loaded manifest).applyAll (manifest.diff .empty)).2.keys = .empty :=
    (Store.keys.state_tornDown manifest).trans (Keyring.drain_fill manifest.credentials)
  have mocks : ((loaded manifest).applyAll (manifest.diff .empty)).2.mocks = .empty :=
    (Store.mocks.state_tornDown manifest).trans (Mocks.drain_fill manifest.mockTargets)
  have traffic : ((loaded manifest).applyAll (manifest.diff .empty)).2.traffic = .empty :=
    (traffic_applyAll _ _).trans (traffic_applyAll fresh _)
  generalize ((loaded manifest).applyAll (manifest.diff .empty)).2 = left at *
  rcases left with ⟨_, _, _, _, _⟩
  subst routes grants keys mocks traffic
  rfl

/-- Whatever a manifest lists, how often, and in each other's places: loaded and torn down again it
leaves nothing behind, and what is refused on the way down are its credentials without
revisions. -/
theorem tornDown_vacant (manifest : Manifest) :
    ((loaded manifest).applyAll (manifest.diff .empty)).2 = fresh ∧
      ((loaded manifest).applyAll (manifest.diff .empty)).2.Vacant ∧
      ((loaded manifest).applyAll (manifest.diff .empty)).1 =
        manifest.credentials.countP (·.revisions = []) := by
  rw [applyAll_diff_empty]
  refine ⟨rfl, vacant_fresh, ?_⟩
  rw [Manifest.diff_empty, applyAll_deleted_fst]

/-- Four routes on one branch, two of them in one slot; two bindings of one name; a value with two
holders and a credential without any; and a mock target that is refused. -/
def tangled : Manifest where
  routes :=
    [{ id := ⟨"n", "a"⟩, sourcePath := "/x/y/z", backend := "b" },
      { id := ⟨"n", "b"⟩, sourcePath := "x/y/z/", backend := "b" },
      { id := ⟨"n", "a"⟩, sourcePath := "/x/y/z", sourceHost := some "h", backend := "b" },
      { id := ⟨"n", "c"⟩, sourcePath := "/x/y/w", backend := "b" }]
  bindings := [{ id := ⟨"n", "all"⟩ }, { id := ⟨"n", "all"⟩ }]
  credentials := [⟨⟨"n", "a"⟩, ["one", "two"]⟩, ⟨⟨"m", "a"⟩, ["two"]⟩, ⟨⟨"n", "b"⟩, []⟩]
  mockTargets := [⟨⟨"n", "b"⟩, []⟩]

example :
    (loaded tangled).routes.count = 3 ∧ (loaded tangled).routes.slots.nodeCount = 4 ∧
      (loaded tangled).keys.size = 2 ∧
      ((loaded tangled).applyAll (tangled.diff .empty)).1 = 1 ∧
      ((loaded tangled).applyAll (tangled.diff .empty)).2.routes.slots.nodeCount = 0 := by
  decide +kernel

end Gateway

end Tollgate
