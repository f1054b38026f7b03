import Tollgate.Proofs.Gateway.Stores
import Tollgate.Proofs.Store.Grants
import Tollgate.Proofs.Store.Keyring
import Tollgate.Proofs.Store.Mocks
import Tollgate.Proofs.Store.RouteWrites

/-!
# Loaded gateways

A load adds the resources of a manifest one after the other.  In every store the last item that
concerns an answer decides it, so the answers of a loaded gateway are those of the evaluator.
-/

namespace Tollgate

namespace Gateway

/-- A fresh gateway with the resources of a manifest. -/
def loaded (manifest : Manifest) : Gateway :=
  (fresh.loadAll manifest).2

end Gateway

namespace Store

variable {σ α : Type} (store : Store σ α)

/-- Adding items one after the other; one that is refused leaves the state as it was. -/
def fill (state : σ) (items : List α) : σ :=
  Batch.final store.react state (items.map fun item => .added (store.part.wrap item))

theorem fill_cons (state : σ) (item : α) (rest : List α) :
    store.fill state (item :: rest) =
      store.fill (Batch.absorb store.react state (.added (store.part.wrap item))) rest :=
  rfl

theorem state_loadAll_eq_fill (gateway : Gateway) (manifest : Manifest) :
    store.state (gateway.loadAll manifest).2 =
      store.fill (store.state gateway) (store.part.items manifest) :=
  store.state_loadAll gateway manifest

theorem state_loaded (manifest : Manifest) :
    store.state (Gateway.loaded manifest) =
      store.fill (store.state .fresh) (store.part.items manifest) :=
  store.state_loadAll_eq_fill .fresh manifest

/-- The last added item that concerns an answer decides it. -/
theorem answer_fill {β : Type} (answer : σ → β) (concerns : α → Prop) [DecidablePred concerns]
    (written : α → β)
    (law : ∀ state item, answer (Batch.absorb store.react state (.added (store.part.wrap item))) =
      if concerns item then written item else answer state)
    (state : σ) (items : List α) :
    answer (store.fill state items) =
      ((items.reverse.find? (concerns ·)).map written).getD (answer state) := by
  rw [fill, Batch.final, List.foldl_map]
  exact foldl_last_write _ answer concerns written law items state

end Store

/-! ## Routes -/

namespace Routes

/-- Put routes into their slots, one after the other. -/
def Table.fill (table : Table) (items : List Route) : Table :=
  items.foldl (fun table item => table.insert item.slot item) table

/-- Of the routes of one slot the last stays. -/
theorem Table.get?_fill (table : Table) (items : List Route) (slot : List String × String) :
    (table.fill items).get? slot =
      (items.reverse.find? (·.slot = slot)).or (table.get? slot) := by
  have written := foldl_last_write (fun (table : Table) item => table.insert item.slot item)
    (·.get? slot) (·.slot = slot) some
    (fun table item => by simp only [Dict.get?_insert, @eq_comm _ slot]) items table
  rw [Table.fill, written]
  cases items.reverse.find? (·.slot = slot) <;> rfl

variable {routes : Routes} {table : Table}

theorem Represents.fill (represents : routes.Represents table) (items : List Route) :
    (Store.routes.fill routes items).Represents (table.fill items) := by
  induction items generalizing routes table with
  | nil => exact represents
  | cons item rest ih =>
      have entered : Batch.absorb Store.routes.react routes (.added (Store.routes.part.wrap item)) =
          routes.set item := Batch.absorb_of_ok (answer_added routes item)
      rw [Store.fill_cons, entered]
      exact ih (represents.set item)

theorem Represents.loadAll {gateway : Gateway} (represents : gateway.routes.Represents table)
    (manifest : Manifest) :
    (gateway.loadAll manifest).2.routes.Represents (table.fill manifest.routes) := by
  have loaded : (gateway.loadAll manifest).2.routes =
      Store.routes.fill gateway.routes manifest.routes :=
    Store.routes.state_loadAll_eq_fill gateway manifest
  rw [loaded]
  exact represents.fill manifest.routes

/-- A loaded store has the last route of each slot. -/
theorem represents_loaded (manifest : Manifest) :
    (Gateway.loaded manifest).routes.Represents (Table.fill .empty manifest.routes) :=
  Represents.loadAll represents_empty manifest

theorem get?_fill_empty (items : List Route) (slot : List String × String) :
    (Table.fill .empty items).get? slot = items.reverse.find? (·.slot = slot) := by
  rw [Table.get?_fill, Dict.get?_empty, Option.or_none]

/-- A loaded gateway routes as the manifest says. -/
theorem get?_loaded (manifest : Manifest) (path host : String) :
    (Gateway.loaded manifest).routes.get? path host = manifest.routeFor? path host := by
  have used : ∀ address, address ∈ manifest.routes.map (Path.parts ·.sourcePath) ↔
      ∃ host, ((Table.fill .empty manifest.routes).get? (address, host)).isSome := by
    intro address
    simp only [get?_fill_empty, List.find?_isSome, List.mem_map, List.mem_reverse, Route.slot,
      Route.address, Path.normalizedSegments_eq_parts, decide_eq_true_eq, Prod.mk.injEq]
    constructor
    · rintro ⟨route, member, here⟩
      exact ⟨route.host, route, member, here, rfl⟩
    · rintro ⟨_, route, member, here, _⟩
      exact ⟨route, member, here⟩
  rw [(represents_loaded manifest).get?_eq used, Manifest.routeFor?]
  congr 1
  funext address
  rw [get?_fill_empty]
  simp only [Route.slot, Route.address, Path.normalizedSegments_eq_parts, Prod.mk.injEq]

end Routes

/-! ## Bindings -/

namespace Grants

/-- Of the bindings of one name the last answers. -/
theorem get?_fill (grants : Grants) (items : List Binding) (id : ResourceName)
    (credential path : String) :
    (Store.grants.fill grants items).get? id credential path =
      ((items.reverse.find? (·.id = id)).map (·.permits? credential path)).getD
        (grants.get? id credential path) :=
  Store.grants.answer_fill (·.get? id credential path) (·.id = id) (·.permits? credential path)
    (fun grants binding => grants.get?_set binding id credential path) grants items

theorem contains_fill (grants : Grants) (items : List Binding) (id : ResourceName) :
    (Store.grants.fill grants items).contains id =
      ((items.reverse.find? (·.id = id)).map fun _ => true).getD (grants.contains id) :=
  Store.grants.answer_fill (·.contains id) (·.id = id) (fun _ => true)
    (fun grants binding => grants.contains_set binding id) grants items

theorem grants_loaded (manifest : Manifest) :
    (Gateway.loaded manifest).grants = Store.grants.fill .empty manifest.bindings :=
  Store.grants.state_loaded manifest

/-- A loaded gateway permits what the last binding of a name does. -/
theorem get?_loaded (manifest : Manifest) (id : ResourceName) (credential path : String) :
    (Gateway.loaded manifest).grants.get? id credential path =
      (manifest.bindingFor? id).bind (·.permits? credential path) := by
  rw [grants_loaded, get?_fill, get?_empty, Manifest.bindingFor?]
  cases manifest.bindings.reverse.find? (·.id = id) <;> rfl

theorem contains_loaded (manifest : Manifest) (id : ResourceName) :
    (Gateway.loaded manifest).grants.contains id = (manifest.bindingFor? id).isSome := by
  rw [grants_loaded, contains_fill, contains_empty, Manifest.bindingFor?]
  cases manifest.bindings.reverse.find? (·.id = id) <;> rfl

end Grants

/-! ## Credentials -/

namespace Keyring

/-- Of the credentials that list a value, the last is the one it leads to. -/
theorem get?_fill (keys : Keyring) (items : List Credential) (value : String) :
    (Store.keys.fill keys items).get? value =
      ((items.reverse.find? (value ∈ ·.revisions)).map some).getD (keys.get? value) :=
  Store.keys.answer_fill (·.get? value) (value ∈ ·.revisions) some
    (fun keys credential => keys.get?_set credential value) keys items

theorem keys_loaded (manifest : Manifest) :
    (Gateway.loaded manifest).keys = Store.keys.fill .empty manifest.credentials :=
  Store.keys.state_loaded manifest

/-- In a loaded gateway a value leads to the last credential that lists it. -/
theorem get?_loaded (manifest : Manifest) (value : String) :
    (Gateway.loaded manifest).keys.get? value = manifest.holderOf? value := by
  rw [keys_loaded, get?_fill, get?_empty, Manifest.holderOf?]
  cases manifest.credentials.reverse.find? (value ∈ ·.revisions) <;> rfl

end Keyring

/-! ## Mock targets -/

namespace Mocks

theorem get?_absorb_added (mocks : Mocks) (target : MockTarget) (id : ResourceName)
    (path method : String) :
    (Batch.absorb Store.mocks.react mocks (.added (.mockTarget target))).get? id path method =
      if target.id = id ∧ target.routes ≠ [] then target.responseTo? path method
      else mocks.get? id path method := by
  by_cases bare : target.routes = []
  · have refused : Store.mocks.react mocks (.added (.mockTarget target)) =
        .error (.emptyMockTarget target.id) := mocks.set_of_bare bare
    simp only [Batch.absorb, refused, bare, ne_eq, not_true, and_false, if_false]
  · rcases get?_set bare mocks with ⟨loaded, granted, answers⟩
    have accepted : Store.mocks.react mocks (.added (.mockTarget target)) = .ok loaded := granted
    rw [Batch.absorb_of_ok accepted, answers]
    simp only [bare, ne_eq, not_false_iff, and_true]

/-- Of the targets of one name that have responses, the last answers. -/
theorem get?_fill (mocks : Mocks) (items : List MockTarget) (id : ResourceName)
    (path method : String) :
    (Store.mocks.fill mocks items).get? id path method =
      ((items.reverse.find? fun target => target.id = id ∧ target.routes ≠ []).map
        (·.responseTo? path method)).getD (mocks.get? id path method) :=
  Store.mocks.answer_fill (·.get? id path method)
    (fun target => target.id = id ∧ target.routes ≠ []) (·.responseTo? path method)
    (fun mocks target => mocks.get?_absorb_added target id path method) mocks items

theorem mocks_loaded (manifest : Manifest) :
    (Gateway.loaded manifest).mocks = Store.mocks.fill .empty manifest.mockTargets :=
  Store.mocks.state_loaded manifest

/-- A loaded gateway answers as the last target of a name that has responses. -/
theorem get?_loaded (manifest : Manifest) (id : ResourceName) (path method : String) :
    (Gateway.loaded manifest).mocks.get? id path method =
      (manifest.mockTargetFor? id).bind (·.responseTo? path method) := by
  rw [mocks_loaded, get?_fill, get?_empty, Manifest.mockTargetFor?]
  cases manifest.mockTargets.reverse.find? fun target => target.id = id ∧ target.routes ≠ [] <;>
    rfl

end Mocks

end Tollgate
