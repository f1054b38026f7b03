import Tollgate.Proofs.Evaluator
import Tollgate.Proofs.Gateway.Stores

/-!
# The answers of compiled bindings

A compiled binding answers as its list of entries read from the end: the last entry of a credential
counts, and in it the last rule of the longest subpath on the way.
-/

namespace Tollgate

namespace Grant

private theorem get?_subpaths (entry : PermissionEntry) (address : List String) :
    (ofEntry entry).subpaths.get? address =
      (entry.subpaths.reverse.find? (Path.parts ·.path = address)).map SubpathRule.rule := by
  have compiled := Trie.get?_foldl_insert (fun subpath => Path.normalizedSegments subpath.path)
    SubpathRule.rule entry.subpaths .empty address
  simp only [Path.normalizedSegments_eq_parts, Trie.get?_empty, Option.or_none] at compiled
  simp only [ofEntry, Path.normalizedSegments_eq_parts, compiled]

/-- A compiled entry has the rules of the entry. -/
theorem ruleAt_ofEntry (entry : PermissionEntry) (path : String) :
    (ofEntry entry).ruleAt path = entry.ruleFor path := by
  have stored : ∀ address, ((ofEntry entry).subpaths.get? address).isSome ↔
      address ∈ entry.subpaths.map (Path.parts ·.path) := by
    intro address
    rw [get?_subpaths, Option.isSome_map, List.find?_isSome]
    simp
  rw [ruleAt, Trie.lookup_eq_bind _ stored, PermissionEntry.ruleFor]
  cases Path.longestPrefix? (entry.subpaths.map (Path.parts ·.path)) (Path.parts path) with
  | none => rfl
  | some address =>
      simp only [Option.bind_some, get?_subpaths]
      cases entry.subpaths.reverse.find? (Path.parts ·.path = address) <;> rfl

end Grant

namespace Binding

/-- What a binding permits a credential on a path. -/
def permits? (binding : Binding) (credential path : String) : Option Permission :=
  (binding.entryFor? credential).map fun entry => ⟨entry.ruleFor path, entry.rate⟩

end Binding

namespace Grants

@[simp]
theorem get?_empty (id : ResourceName) (credential path : String) :
    empty.get? id credential path = none :=
  rfl

@[simp]
theorem contains_empty (id : ResourceName) : empty.contains id = false :=
  rfl

/-- Loading a binding lets its name answer as the binding does. -/
theorem get?_set (grants : Grants) (binding : Binding) (id : ResourceName)
    (credential path : String) :
    (grants.set binding).get? id credential path =
      if binding.id = id then binding.permits? credential path
      else grants.get? id credential path := by
  by_cases same : binding.id = id
  · subst same
    have entries : (Dict.ofList (binding.entries.map fun entry =>
          (entry.credential, Grant.ofEntry entry))).get? credential =
        (binding.entryFor? credential).map Grant.ofEntry := by
      rw [Dict.get?_ofList, ← List.map_reverse, List.find?_map, Option.map_map]
      rfl
    rw [if_pos rfl, get?, set, Spaces.get?_insert, if_pos rfl, Option.bind_eq_bind,
      Option.bind_some, entries, Binding.permits?]
    cases binding.entryFor? credential with
    | none => rfl
    | some entry =>
        change some (Permission.mk ((Grant.ofEntry entry).ruleAt path) entry.rate) = _
        rw [Grant.ruleAt_ofEntry]
        rfl
  · rw [if_neg same, get?, set, Spaces.get?_insert, if_neg (Ne.symm same)]
    rfl

/-- Unloading a binding lets its name answer nothing. -/
theorem get?_delete (grants : Grants) (removed id : ResourceName) (credential path : String) :
    (grants.delete removed).2.get? id credential path =
      if removed = id then none else grants.get? id credential path := by
  rw [delete, get?, Spaces.get?_erase]
  by_cases same : removed = id
  · rw [if_pos same.symm, if_pos same]
    rfl
  · rw [if_neg (Ne.symm same), if_neg same]
    rfl

theorem contains_set (grants : Grants) (binding : Binding) (id : ResourceName) :
    (grants.set binding).contains id = if binding.id = id then true else grants.contains id := by
  rw [contains, Spaces.contains, set, Spaces.get?_insert]
  by_cases same : binding.id = id
  · simp [same]
  · simp only [if_neg same, if_neg (Ne.symm same)]
    rfl

theorem contains_delete (grants : Grants) (removed id : ResourceName) :
    (grants.delete removed).2.contains id = if removed = id then false else grants.contains id := by
  rw [delete, contains, Spaces.contains, Spaces.get?_erase]
  by_cases same : removed = id
  · rw [if_pos same.symm, if_pos same]
    rfl
  · rw [if_neg (Ne.symm same), if_neg same]
    rfl

/-! ## Events -/

/-- What an event leaves under the name of a binding: the binding that it writes there or nothing,
if it concerns the name at all. -/
def leaves? (id : ResourceName) : Event → Option (Option Binding)
  | .added (.binding binding) => if binding.id = id then some (some binding) else none
  | .updated (.binding old) (.binding new) =>
      if new.id = id then some (some new) else if old.id = id then some none else none
  | .deleted (.binding binding) => if binding.id = id then some none else none
  | _ => none

/-- The binding that was most recently written under a name, unless it was taken away since. -/
def standing? (events : List Event) (id : ResourceName) : Option Binding :=
  (events.reverse.findSome? (leaves? id)).join

theorem standing?_concat (events : List Event) (event : Event) (id : ResourceName) :
    standing? (events ++ [event]) id = (leaves? id event).getD (standing? events id) := by
  rw [standing?, List.reverse_append, List.reverse_singleton, List.singleton_append,
    List.findSome?_cons]
  cases leaves? id event <;> rfl

/-- A name answers as a binding does, or as an unknown name. -/
structure Follows (grants : Grants) (id : ResourceName) (binding? : Option Binding) : Prop where
  loaded : grants.contains id = binding?.isSome
  permits : ∀ credential path,
    grants.get? id credential path = binding?.bind (·.permits? credential path)

variable {grants : Grants} {id : ResourceName} {standing : Option Binding}

theorem follows_empty (id : ResourceName) : empty.Follows id none where
  loaded := rfl
  permits _ _ := rfl

theorem Follows.set (follows : grants.Follows id standing) (binding : Binding) :
    (grants.set binding).Follows id (if binding.id = id then some binding else standing) where
  loaded := by
    rw [contains_set, follows.loaded]
    split <;> rfl
  permits credential path := by
    rw [get?_set, follows.permits]
    split <;> rfl

theorem Follows.delete (follows : grants.Follows id standing) (removed : ResourceName) :
    (grants.delete removed).2.Follows id (if removed = id then none else standing) where
  loaded := by
    rw [contains_delete, follows.loaded]
    split <;> rfl
  permits credential path := by
    rw [get?_delete, follows.permits]
    split <;> rfl

/-- Replacing a binding gives up its old name and takes the new one. -/
theorem Follows.updateBinding (follows : grants.Follows id standing) (old new : Binding) :
    (Gateway.updateBinding grants old new).Follows id
      (if new.id = id then some new else if old.id = id then none else standing) := by
  rw [Gateway.updateBinding]
  split
  · next kept =>
    have replaced := follows.set new
    by_cases here : new.id = id
    · rwa [if_pos here] at replaced ⊢
    · rw [if_neg here] at replaced ⊢
      rwa [kept, if_neg here]
  · exact (follows.delete old.id).set new

/-- An event leaves a name as it says, or as it was. -/
theorem Follows.absorb (follows : grants.Follows id standing) (event : Event) :
    (Batch.absorb Store.grants.react grants event).Follows id
      ((leaves? id event).getD standing) := by
  cases event with
  | added resource =>
      cases resource
      case binding binding =>
        rw [leaves?, apply_ite (Option.getD · standing)]
        exact follows.set binding
      all_goals exact follows
  | updated old new =>
      cases old <;> cases new
      case binding.binding old new =>
        rw [leaves?, apply_ite (Option.getD · standing), apply_ite (Option.getD · standing)]
        exact follows.updateBinding old new
      all_goals exact follows
  | deleted resource =>
      cases resource
      case binding binding =>
        rw [leaves?, apply_ite (Option.getD · standing)]
        exact follows.delete binding.id
      all_goals exact follows

/-- After some events every name answers as the binding that stands under it. -/
theorem follows_final (events : List Event) (id : ResourceName) :
    (Batch.final Store.grants.react .empty events).Follows id (standing? events id) := by
  induction events using List.reverseRecOn with
  | nil => exact follows_empty id
  | append_singleton events event ih =>
      rw [Batch.final_append, standing?_concat]
      exact ih.absorb event

/-- An event leaves what is compiled under a name that none of its resources has. -/
theorem bindings_absorb_of_ne (grants : Grants) {event : Event} {id : ResourceName}
    (apart : ∀ resource ∈ event.resources, resource.id ≠ id) :
    (Batch.absorb Store.grants.react grants event).bindings.get? id = grants.bindings.get? id := by
  have set (grants : Grants) (binding : Binding) (other : binding.id ≠ id) :
      (grants.set binding).bindings.get? id = grants.bindings.get? id := by
    rw [Grants.set, Spaces.get?_insert, if_neg (Ne.symm other)]
  have delete (removed : Binding) (other : removed.id ≠ id) :
      (grants.delete removed.id).2.bindings.get? id = grants.bindings.get? id := by
    rw [Grants.delete, Spaces.get?_erase, if_neg (Ne.symm other)]
  cases event with
  | added resource =>
      cases resource
      case binding binding => exact set grants binding (apart _ (List.mem_singleton_self _))
      all_goals rfl
  | updated old new =>
      cases old <;> cases new
      case binding.binding old new =>
        have newApart := apart (.binding new) (List.mem_cons_of_mem _ (List.mem_singleton_self _))
        change (Gateway.updateBinding grants old new).bindings.get? id = _
        rw [Gateway.updateBinding, set _ new newApart]
        split
        · rfl
        · exact delete old (apart _ List.mem_cons_self)
      all_goals rfl
  | deleted resource =>
      cases resource
      case binding binding => exact delete binding (apart _ (List.mem_singleton_self _))
      all_goals rfl

end Grants

end Tollgate
