import Tollgate.Proofs.Evaluator
import Tollgate.Proofs.Gateway.Stores

/-!
# The answers of mock targets

A loaded target answers as its list of responses: those of the longest path on the way, in their
order.  A target without responses is refused and leaves the store as it was.
-/

namespace Tollgate

namespace Mocks

@[simp]
theorem get?_empty (id : ResourceName) (path method : String) : empty.get? id path method = none :=
  rfl

/-- A response is appended to those of its path. -/
theorem get?_place (responses : Trie (List MockRoute)) (route : MockRoute)
    (address : List String) :
    (place responses route).get? address =
      if Path.parts route.path = address then some ((responses.get? address).getD [] ++ [route])
      else responses.get? address := by
  simp only [place, Path.normalizedSegments_eq_parts]
  cases held : responses.get? (Path.parts route.path) with
  | none =>
      simp only [Trie.get?_insert, @eq_comm _ address]
      split
      · next here => rw [← here, held, Option.getD_none, List.nil_append]
      · rfl
  | some others =>
      simp only [Trie.get?_modify, @eq_comm _ address]
      split
      · next here => rw [← here, held, Option.map_some, Option.getD_some]
      · rfl

/-- The node of an address has the responses of that address, in their order. -/
theorem get?_foldl_place (routes : List MockRoute) (address : List String) :
    (routes.foldl place .empty).get? address =
      if routes.filter (Path.parts ·.path = address) = [] then none
      else some (routes.filter (Path.parts ·.path = address)) := by
  induction routes using List.reverseRecOn with
  | nil => simp
  | append_singleton routes route ih =>
      rw [List.foldl_append, List.foldl_cons, List.foldl_nil, get?_place, ih, List.filter_append]
      by_cases here : Path.parts route.path = address
      · by_cases first : routes.filter (Path.parts ·.path = address) = []
        · simp [here, first]
        · rw [if_neg first, if_pos here]
          simp [here]
      · simp [here]

/-- A target answers as its list of responses. -/
theorem lookup_foldl_place (target : MockTarget) (path method : String) :
    ((target.routes.foldl place .empty).lookup path).bind (·.find? (·.serves method)) =
      target.responseTo? path method := by
  have stored : ∀ address, ((target.routes.foldl place .empty).get? address).isSome ↔
      address ∈ target.routes.map (Path.parts ·.path) := by
    intro address
    rw [get?_foldl_place]
    constructor
    · intro present
      split at present
      · contradiction
      · next used =>
        rcases List.exists_mem_of_ne_nil _ used with ⟨route, member⟩
        rcases List.mem_filter.mp member with ⟨listed, here⟩
        exact List.mem_map.mpr ⟨route, listed, of_decide_eq_true here⟩
    · intro member
      rcases List.mem_map.mp member with ⟨route, listed, here⟩
      rw [if_neg]
      · rfl
      · exact List.ne_nil_of_mem (List.mem_filter.mpr ⟨listed, decide_eq_true here⟩)
  rw [Trie.lookup_eq_bind _ stored, MockTarget.responseTo?, Option.bind_assoc]
  congr 1
  funext address
  rw [get?_foldl_place]
  have narrowed : (target.routes.filter (Path.parts ·.path = address)).find? (·.serves method) =
      target.routes.find? fun route => Path.parts route.path = address ∧ route.serves method := by
    rw [List.find?_filter]
    congr 1
    funext route
    rw [Bool.eq_iff_iff]
    simp
  rw [← narrowed]
  split
  · next missing => rw [missing]; rfl
  · rfl

theorem responseTo?_of_bare {target : MockTarget} (bare : target.routes = [])
    (path method : String) : target.responseTo? path method = none := by
  have missed : Path.longestPrefix? [] (Path.parts path) = none :=
    Path.longestPrefix?_eq_none_iff.mpr fun _ member => nomatch member
  rw [MockTarget.responseTo?, bare, List.map_nil, missed]
  rfl

theorem set_of_bare {target : MockTarget} (bare : target.routes = []) (mocks : Mocks) :
    mocks.set target = .error (.emptyMockTarget target.id) := by
  rw [set, if_pos bare]

/-- Loading a target with responses lets its name answer as the target does. -/
theorem get?_set {target : MockTarget} (useful : target.routes ≠ []) (mocks : Mocks) :
    ∃ loaded, mocks.set target = .ok loaded ∧
      ∀ id path method, loaded.get? id path method =
        if target.id = id then target.responseTo? path method else mocks.get? id path method := by
  refine ⟨_, by rw [set, if_neg useful], ?_⟩
  intro id path method
  by_cases same : target.id = id
  · subst same
    rw [if_pos rfl, ← lookup_foldl_place, get?, Spaces.get?_insert, if_pos rfl]
    rfl
  · rw [if_neg same, get?, Spaces.get?_insert, if_neg (Ne.symm same)]
    rfl

/-- Unloading a target lets its name answer nothing. -/
theorem get?_delete (mocks : Mocks) (removed id : ResourceName) (path method : String) :
    (mocks.delete removed).2.get? id path method =
      if removed = id then none else mocks.get? id path method := by
  rw [delete, get?, Spaces.get?_erase]
  by_cases same : removed = id
  · rw [if_pos same.symm, if_pos same]
    rfl
  · rw [if_neg (Ne.symm same), if_neg same]
    rfl

theorem set_eq_error_iff (mocks : Mocks) {target : MockTarget} {refusal : Refusal} :
    mocks.set target = .error refusal ↔
      target.routes = [] ∧ refusal = .emptyMockTarget target.id := by
  rw [set]
  split
  · next bare => simp [bare, eq_comm]
  · next useful => simp [useful]

theorem updateMock_eq_error_iff (mocks : Mocks) (old : MockTarget) {new : MockTarget}
    {refusal : Refusal} :
    Gateway.updateMock mocks old new = .error refusal ↔
      new.routes = [] ∧ refusal = .emptyMockTarget new.id := by
  rw [← set_eq_error_iff mocks, Gateway.updateMock]
  cases mocks.set new with
  | ok loaded => exact ⟨fun granted => (nomatch granted), fun granted => (nomatch granted)⟩
  | error refusal => rfl

/-! ## Events -/

theorem targets_of_set {mocks loaded : Mocks} {target : MockTarget}
    (granted : mocks.set target = .ok loaded) {id : ResourceName} (other : target.id ≠ id) :
    loaded.targets.get? id = mocks.targets.get? id := by
  rw [set] at granted
  split at granted
  · contradiction
  · cases granted
    rw [Spaces.get?_insert, if_neg (Ne.symm other)]

theorem targets_delete_of_ne (mocks : Mocks) {removed id : ResourceName} (other : removed ≠ id) :
    (mocks.delete removed).2.targets.get? id = mocks.targets.get? id := by
  rw [delete, Spaces.get?_erase, if_neg (Ne.symm other)]

theorem targets_of_updateMock {mocks next : Mocks} {old new : MockTarget}
    (granted : Gateway.updateMock mocks old new = .ok next) {id : ResourceName}
    (oldOther : old.id ≠ id) (newOther : new.id ≠ id) :
    next.targets.get? id = mocks.targets.get? id := by
  rw [Gateway.updateMock] at granted
  cases accepted : mocks.set new with
  | error refusal =>
      rw [accepted] at granted
      contradiction
  | ok loaded =>
      rw [accepted] at granted
      cases granted
      rw [← targets_of_set accepted newOther]
      split
      · rfl
      · exact loaded.targets_delete_of_ne oldOther

/-- An event leaves what is stored under a name that none of its resources has. -/
theorem targets_absorb_of_ne (mocks : Mocks) {event : Event} {id : ResourceName}
    (apart : ∀ resource ∈ event.resources, resource.id ≠ id) :
    (Batch.absorb Store.mocks.react mocks event).targets.get? id = mocks.targets.get? id := by
  refine Batch.absorb_keeps
    (motive := fun next : Mocks => next.targets.get? id = mocks.targets.get? id)
    rfl fun next granted => ?_
  cases event with
  | added resource =>
      cases resource
      case mockTarget target => exact targets_of_set granted (apart _ (List.mem_singleton_self _))
      all_goals exact congrArg (·.targets.get? id) (Except.ok.inj granted).symm
  | updated old new =>
      cases old <;> cases new
      case mockTarget.mockTarget old new =>
        exact targets_of_updateMock granted (apart _ List.mem_cons_self)
          (apart _ (List.mem_cons_of_mem _ (List.mem_singleton_self _)))
      all_goals cases granted
      all_goals rfl
  | deleted resource =>
      cases resource
      case mockTarget target =>
        cases granted
        exact mocks.targets_delete_of_ne (apart _ (List.mem_singleton_self _))
      all_goals exact congrArg (·.targets.get? id) (Except.ok.inj granted).symm

end Mocks

end Tollgate
