import Tollgate.Proofs.Reload.Basic

/-!
# Reloading what is stored by name

Bindings and mock targets are stored under their names.  A question about a name is answered by the
last granted event of that name.  So after a reload without refusals every item of the next
manifest answers for its name, and no other name is answered.
-/

namespace Tollgate

/-- A question that a store answers by name, with what an item answers for its own and what is
answered where no item is. -/
structure Store.Query {σ α : Type} (store : Store σ α) (β : Type) where
  answer : σ → ResourceName → β
  written : α → β
  blank : β
  added : ∀ {state next item}, store.react state (.added (store.part.wrap item)) = .ok next →
    ∀ id, answer next id = if store.part.name item = id then written item else answer state id
  updated : ∀ {state next old new}, store.part.name old = store.part.name new →
    store.react state (.updated (store.part.wrap old) (store.part.wrap new)) = .ok next →
      ∀ id, answer next id = if store.part.name new = id then written new else answer state id
  deleted : ∀ {state next old}, store.react state (.deleted (store.part.wrap old)) = .ok next →
    ∀ id, answer next id = if store.part.name old = id then blank else answer state id

namespace Store.Query

variable {σ α β : Type} {store : Store σ α} (query : store.Query β)
variable {previous next : List α} {event : Event} {id : ResourceName}

/-- A change, granted or not, leaves the answers for other names. -/
theorem answer_absorb_of_ne (change : store.part.Change previous next event)
    (apart : event.resource.id ≠ id) (state : σ) :
    query.answer (Batch.absorb store.react state event) id = query.answer state id := by
  cases granted : store.react state event with
  | error refusal => simp only [Batch.absorb, granted]
  | ok changed =>
      rw [Batch.absorb_of_ok granted]
      cases change with
      | gone old =>
          rw [Event.resource, store.part.id_wrap] at apart
          rw [query.deleted granted, if_neg apart]
      | new item =>
          rw [Event.resource, store.part.id_wrap] at apart
          rw [query.added granted, if_neg apart]
      | changed old new _ _ same =>
          rw [Event.resource, store.part.id_wrap] at apart
          rw [query.updated same granted, if_neg apart]

/-- The store answers as a list of items does. -/
structure Shows (state : σ) (items : List α) : Prop where
  listed : ∀ item ∈ items, query.answer state (store.part.name item) = query.written item
  unlisted : ∀ id, id ∉ items.map store.part.name → query.answer state id = query.blank

variable {query}

/-- Stores that show one list answer alike. -/
theorem Shows.congr {left right : σ} {items : List α} (shows : query.Shows left items)
    (shown : query.Shows right items) (id : ResourceName) :
    query.answer left id = query.answer right id := by
  by_cases listed : id ∈ items.map store.part.name
  · rcases List.mem_map.mp listed with ⟨item, member, rfl⟩
    rw [shows.listed item member, shown.listed item member]
  · rw [shows.unlisted id listed, shown.unlisted id listed]

variable [DecidableEq α]

/-- Changes of other names, granted or not, leave the answer for a name. -/
theorem answer_final_of_ne (query : store.Query β) {events : List Event}
    (drawn : events ⊆ store.part.changes previous next)
    (apart : ∀ event ∈ events, event.resource.id ≠ id) (state : σ) :
    query.answer (Batch.final store.react state events) id = query.answer state id := by
  apply Batch.final_keeps (motive := fun current => query.answer current id = query.answer state id)
    rfl
  intro event member current kept
  rw [query.answer_absorb_of_ne (store.part.change_of_mem (drawn member)) (apart event member),
    kept]

/-- When all changes are granted, the one change of a name settles the answer for it. -/
theorem answer_final_of_change (query : store.Query β)
    (namesBefore : (previous.map store.part.name).Nodup)
    (namesAfter : (next.map store.part.name).Nodup) {state : σ}
    (granted : Batch.refused store.react state (store.part.changes previous next) = [])
    (change : store.part.Change previous next event) {value : β}
    (settles : ∀ {before after}, store.react before event = .ok after →
      query.answer after event.resource.id = value) :
    query.answer (Batch.final store.react state (store.part.changes previous next))
      event.resource.id = value := by
  rcases List.append_of_mem (store.part.mem_changes_of_change namesBefore change) with
    ⟨first, last, split⟩
  -- the changes behind this one concern other names
  have later : ∀ other ∈ last, other.resource.id ≠ event.resource.id := by
    have pairwise := store.part.changes_pairwise namesBefore namesAfter
    rw [split, List.pairwise_append, List.pairwise_cons] at pairwise
    exact fun other behind => (pairwise.2.1.1 other behind).symm
  have drawn : last ⊆ store.part.changes previous next := by
    rw [split]
    exact fun other behind => List.mem_append_right _ (List.mem_cons_of_mem _ behind)
  rw [split, Batch.refused_append, List.append_eq_nil_iff] at granted
  cases reaction : store.react (Batch.final store.react state first) event with
  | error refusal =>
      rw [Batch.refused_cons_of_error reaction] at granted
      exact absurd granted.2 (List.cons_ne_nil _ _)
  | ok after =>
      rw [split, Batch.final_append, Batch.final_cons, Batch.absorb_of_ok reaction,
        query.answer_final_of_ne drawn later]
      exact settles reaction

/-- After changes that are all granted, the store shows the next list. -/
theorem Shows.reload {state : σ} (shows : query.Shows state previous)
    (namesBefore : (previous.map store.part.name).Nodup)
    (namesAfter : (next.map store.part.name).Nodup)
    (granted : Batch.refused store.react state (store.part.changes previous next) = []) :
    query.Shows (Batch.final store.react state (store.part.changes previous next)) next where
  listed new present := by
    by_cases unchanged : new ∈ previous
    · rw [query.answer_final_of_ne (List.Subset.refl _), shows.listed new unchanged]
      intro event member
      exact (store.part.change_of_mem member).id_ne _ namesBefore namesAfter unchanged present
    · rw [← store.part.id_wrap new]
      by_cases known : store.part.name new ∈ previous.map store.part.name
      · rcases List.mem_map.mp known with ⟨old, before, same⟩
        have differs : old ≠ new := fun equal => unchanged (equal ▸ before)
        apply query.answer_final_of_change namesBefore namesAfter granted
          (.changed old new before present same differs)
        intro _ _ reaction
        exact (query.updated same reaction _).trans (if_pos (store.part.id_wrap new).symm)
      · apply query.answer_final_of_change namesBefore namesAfter granted
          (.new new present known)
        intro _ _ reaction
        exact (query.added reaction _).trans (if_pos (store.part.id_wrap new).symm)
  unlisted id absent := by
    by_cases known : id ∈ previous.map store.part.name
    · rcases List.mem_map.mp known with ⟨old, before, rfl⟩
      rw [← store.part.id_wrap old]
      apply query.answer_final_of_change namesBefore namesAfter granted (.gone old before absent)
      intro _ _ reaction
      exact (query.deleted reaction _).trans (if_pos (store.part.id_wrap old).symm)
    · rw [query.answer_final_of_ne (List.Subset.refl _), shows.unlisted id known]
      rintro event member rfl
      exact (store.part.change_of_mem member).id_mem.elim known absent

/-- A gateway that shows a manifest shows the next one after a reload without refusals. -/
theorem Shows.applyAll {gateway : Gateway} {previous next : Manifest}
    (shows : query.Shows (store.state gateway) (store.part.items previous))
    (keysBefore : previous.DistinctKeys) (keysAfter : next.DistinctKeys)
    (granted : (gateway.applyAll (previous.diff next)).1 = 0) :
    query.Shows (store.state (gateway.applyAll (previous.diff next)).2)
      (store.part.items next) := by
  rw [store.state_diff]
  exact shows.reload (store.part.nodup_names keysBefore) (store.part.nodup_names keysAfter)
    (store.refused_changes_of_granted granted)

end Store.Query

/-! ## Bindings -/

namespace Grants

variable {grants next : Grants} {old new : Binding}

theorem eq_set_of_added (granted : Store.grants.react grants (.added (.binding new)) = .ok next) :
    next = grants.set new :=
  (Except.ok.inj granted).symm

theorem eq_set_of_updated (same : old.id = new.id)
    (granted : Store.grants.react grants (.updated (.binding old) (.binding new)) = .ok next) :
    next = grants.set new := by
  have replaced : Gateway.updateBinding grants old new = next := Except.ok.inj granted
  rw [← replaced, Gateway.updateBinding, if_pos same]

theorem eq_delete_of_deleted
    (granted : Store.grants.react grants (.deleted (.binding old)) = .ok next) :
    next = (grants.delete old.id).2 :=
  (Except.ok.inj granted).symm

/-- What a binding permits a credential on a path. -/
def permission (credential path : String) : Store.grants.Query (Option Permission) where
  answer grants id := grants.get? id credential path
  written binding := binding.permits? credential path
  blank := none
  added granted _ := eq_set_of_added granted ▸ get?_set ..
  updated same granted _ := eq_set_of_updated same granted ▸ get?_set ..
  deleted granted _ := eq_delete_of_deleted granted ▸ get?_delete ..

/-- Whether a binding is loaded. -/
def presence : Store.grants.Query Bool where
  answer grants id := grants.contains id
  written _ := true
  blank := false
  added granted _ := eq_set_of_added granted ▸ contains_set ..
  updated same granted _ := eq_set_of_updated same granted ▸ contains_set ..
  deleted granted _ := eq_delete_of_deleted granted ▸ contains_delete ..

variable {manifest : Manifest}

theorem bindingFor?_of_mem (names : (manifest.bindings.map Binding.id).Nodup) {binding : Binding}
    (member : binding ∈ manifest.bindings) : manifest.bindingFor? binding.id = some binding := by
  apply Section.bindings.find?_name _ (List.mem_reverse.mpr member) rfl
  rw [List.map_reverse]
  exact List.nodup_reverse.mpr names

theorem bindingFor?_of_notMem {id : ResourceName}
    (absent : id ∉ manifest.bindings.map Binding.id) : manifest.bindingFor? id = none := by
  rw [Manifest.bindingFor?, List.find?_eq_none]
  intro binding member same
  exact absent (List.mem_map.mpr ⟨binding, List.mem_reverse.mp member, of_decide_eq_true same⟩)

/-- A loaded gateway shows the bindings of the manifest. -/
theorem permission_shows_loaded (names : (manifest.bindings.map Binding.id).Nodup)
    (credential path : String) :
    (permission credential path).Shows (Gateway.loaded manifest).grants manifest.bindings where
  listed binding member := by
    change (Gateway.loaded manifest).grants.get? binding.id credential path = _
    rw [get?_loaded, bindingFor?_of_mem names member]
    rfl
  unlisted id absent := by
    change (Gateway.loaded manifest).grants.get? id credential path = _
    rw [get?_loaded, bindingFor?_of_notMem absent]
    rfl

theorem presence_shows_loaded (names : (manifest.bindings.map Binding.id).Nodup) :
    presence.Shows (Gateway.loaded manifest).grants manifest.bindings where
  listed binding member := by
    change (Gateway.loaded manifest).grants.contains binding.id = _
    rw [contains_loaded, bindingFor?_of_mem names member]
    rfl
  unlisted id absent := by
    change (Gateway.loaded manifest).grants.contains id = _
    rw [contains_loaded, bindingFor?_of_notMem absent]
    rfl

end Grants

/-! ## Mock targets -/

namespace Mocks

variable {mocks next : Mocks} {old new : MockTarget}

theorem set_of_added
    (granted : Store.mocks.react mocks (.added (.mockTarget new)) = .ok next) :
    mocks.set new = .ok next :=
  granted

theorem set_of_updated (same : old.id = new.id)
    (granted : Store.mocks.react mocks (.updated (.mockTarget old) (.mockTarget new)) = .ok next) :
    mocks.set new = .ok next := by
  have replaced : Gateway.updateMock mocks old new = .ok next := granted
  rw [← replaced, Gateway.updateMock]
  cases mocks.set new with
  | error refusal => rfl
  | ok loaded => simp only [same, if_true, bind, Except.bind, pure, Except.pure]

theorem eq_delete_of_deleted
    (granted : Store.mocks.react mocks (.deleted (.mockTarget old)) = .ok next) :
    next = (mocks.delete old.id).2 :=
  (Except.ok.inj granted).symm

/-- An accepted target answers for its name, and leaves the other names. -/
theorem get?_of_set (granted : mocks.set new = .ok next) (id : ResourceName)
    (path method : String) :
    next.get? id path method =
      if new.id = id then new.responseTo? path method else mocks.get? id path method := by
  have useful : new.routes ≠ [] := by
    intro bare
    rw [set_of_bare bare] at granted
    contradiction
  obtain ⟨loaded, accepted, answers⟩ := get?_set useful mocks
  rw [granted] at accepted
  cases accepted
  exact answers id path method

/-- The canned response of a target to a method on a path. -/
def response (path method : String) : Store.mocks.Query (Option MockRoute) where
  answer mocks id := mocks.get? id path method
  written target := target.responseTo? path method
  blank := none
  added granted id := get?_of_set (set_of_added granted) id path method
  updated same granted id := get?_of_set (set_of_updated same granted) id path method
  deleted granted _ := eq_delete_of_deleted granted ▸ get?_delete ..

variable {manifest : Manifest}

/-- A loaded gateway shows the mock targets of the manifest; those without responses, which are
refused, have no answer anyway. -/
theorem response_shows_loaded (names : (manifest.mockTargets.map MockTarget.id).Nodup)
    (path method : String) :
    (response path method).Shows (Gateway.loaded manifest).mocks manifest.mockTargets where
  listed target member := by
    change (Gateway.loaded manifest).mocks.get? target.id path method =
      target.responseTo? path method
    rw [get?_loaded]
    have unique : ∀ other, manifest.mockTargetFor? target.id = some other → other = target := by
      intro other found
      have named : other.id = target.id ∧ other.routes ≠ [] := by
        simpa using List.find?_some found
      exact List.inj_on_of_nodup_map names
        (List.mem_reverse.mp (List.mem_of_find?_eq_some found)) member named.1
    cases found : manifest.mockTargetFor? target.id with
    | some other => rw [unique other found, Option.bind_some]
    | none =>
        have bare : target.routes = [] := by
          by_contra useful
          exact List.find?_eq_none.mp found target (List.mem_reverse.mpr member) (by simp [useful])
        rw [Option.bind_none, responseTo?_of_bare bare]
  unlisted id absent := by
    change (Gateway.loaded manifest).mocks.get? id path method = none
    have missed : manifest.mockTargetFor? id = none := by
      rw [Manifest.mockTargetFor?, List.find?_eq_none]
      intro target member found
      have named : target.id = id ∧ target.routes ≠ [] := by simpa using found
      exact absent (List.mem_map.mpr ⟨target, List.mem_reverse.mp member, named.1⟩)
    rw [get?_loaded, missed, Option.bind_none]

end Mocks

end Tollgate
