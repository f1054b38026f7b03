import Tollgate.Proofs.Gateway.Writes
import Tollgate.Proofs.Store.Grants
import Tollgate.Proofs.Store.Mocks

/-!
# Writes by name

Bindings and mock targets are stored under their names, and compiled into tries on the way in.
Whatever the writes, a name answers as the item that the last write about it has put there.  The
compiled item answers as its lists do: of entries for one credential and rules for one address the
last counts, of responses at one address the first that serves the method.
-/

namespace Tollgate

universe u v w

section Lists

variable {α : Type u}

/-- The first item of a list with a property. -/
def FirstWith (property : α → Prop) (items : List α) (item : α) : Prop :=
  property item ∧
    ∃ earlier later, items = earlier ++ item :: later ∧ ∀ other ∈ earlier, ¬property other

/-- The last item of a list with a property. -/
def LastWith (property : α → Prop) (items : List α) (item : α) : Prop :=
  property item ∧
    ∃ earlier later, items = earlier ++ item :: later ∧ ∀ other ∈ later, ¬property other

variable {property : α → Prop} [DecidablePred property] {items : List α} {item : α}

theorem find?_eq_some_iff_firstWith :
    items.find? (property ·) = some item ↔ FirstWith property items item := by
  rw [List.find?_eq_some_iff_append, FirstWith]
  simp

theorem find?_reverse_eq_some_iff_lastWith :
    items.reverse.find? (property ·) = some item ↔ LastWith property items item := by
  rw [find?_eq_some_iff_firstWith, FirstWith, LastWith]
  refine and_congr_right fun _ => ?_
  constructor
  · rintro ⟨earlier, later, split, others⟩
    refine ⟨later.reverse, earlier.reverse, ?_, fun other member => ?_⟩
    · rw [← items.reverse_reverse, split]
      simp
    · exact others other (List.mem_reverse.mp member)
  · rintro ⟨earlier, later, rfl, others⟩
    refine ⟨later.reverse, earlier.reverse, by simp, fun other member => ?_⟩
    exact others other (List.mem_reverse.mp member)

/-- An answer that was not there before the writes comes from the last one that concerns it. -/
theorem foldl_eq_iff_lastWith {σ : Type v} {β : Type w} (write : σ → α → σ) (answer : σ → β)
    (written : α → β)
    (law : ∀ state item,
      answer (write state item) = if property item then written item else answer state)
    {state : σ} {value : β} (fresh : answer state ≠ value) :
    answer (items.foldl write state) = value ↔
      ∃ item, LastWith property items item ∧ written item = value := by
  rw [foldl_last_write write answer property written law]
  simp only [← find?_reverse_eq_some_iff_lastWith]
  cases items.reverse.find? (property ·) with
  | none => simp [fresh]
  | some last => simp

end Lists

/-- A write to a store by name: an item is put under its name, or a name is given up. -/
inductive NamedWrite (α : Type) where
  | set (item : α)
  | delete (id : ResourceName)

namespace NamedWrite

variable {α : Type}

/-- The name that a write is about. -/
def about (name : α → ResourceName) : NamedWrite α → ResourceName
  | set item => name item
  | delete id => id

/-- The item that a write leaves under its name. -/
def item? : NamedWrite α → Option α
  | set item => some item
  | delete _ => none

theorem exists_item?_iff {left : NamedWrite α → Prop} {right : α → Prop} :
    (∃ write, left write ∧ ∃ item, write.item? = some item ∧ right item) ↔
      ∃ item, left (.set item) ∧ right item := by
  constructor
  · rintro ⟨write, holds, item, leaves, fits⟩
    cases write with
    | set other =>
        cases leaves
        exact ⟨item, holds, fits⟩
    | delete id => contradiction
  · rintro ⟨item, holds, fits⟩
    exact ⟨.set item, holds, item, rfl, fits⟩

end NamedWrite

/-! ## Bindings -/

namespace PermissionEntry

/-- The rule in force on a path: the last rule of the longest subpath on the way, or the default
when no subpath is. -/
inductive Governs (entry : PermissionEntry) (path : String) : Rule → Prop where
  | default
      (astray : ∀ subpath ∈ entry.subpaths,
        ¬Path.normalizedSegments subpath.path <+: Path.parts path) :
      Governs entry path entry.defaultRule
  | subpath (subpath : SubpathRule)
      (last : LastWith
        (Path.normalizedSegments ·.path = Path.normalizedSegments subpath.path) entry.subpaths
        subpath)
      (begins : Path.normalizedSegments subpath.path <+: Path.parts path)
      (longest : ∀ other ∈ entry.subpaths,
        Path.normalizedSegments other.path <+: Path.parts path →
          (Path.normalizedSegments other.path).length ≤
            (Path.normalizedSegments subpath.path).length) :
      Governs entry path subpath.rule

variable {entry : PermissionEntry} {path : String} {rule : Rule}

theorem governs_ruleFor (entry : PermissionEntry) (path : String) :
    entry.Governs path (entry.ruleFor path) := by
  rw [ruleFor]
  split
  · next missed =>
    rw [Path.longestPrefix?_eq_none_iff, List.forall_mem_map] at missed
    refine .default fun subpath member => ?_
    rw [Path.normalizedSegments_eq_parts]
    exact missed subpath member
  · next address found =>
    obtain ⟨member, begins, longest⟩ := Path.longestPrefix?_eq_some_iff.mp found
    rw [List.forall_mem_map] at longest
    split
    · next unlisted =>
      obtain ⟨subpath, listed, rfl⟩ := List.mem_map.mp member
      have missed := List.find?_eq_none.mp unlisted subpath (List.mem_reverse.mpr listed)
      exact absurd (decide_eq_true rfl) missed
    · next subpath last =>
      have here : Path.parts subpath.path = address := by simpa using List.find?_some last
      subst here
      refine .subpath subpath ?_ ?_ ?_
      all_goals simp only [Path.normalizedSegments_eq_parts]
      · exact find?_reverse_eq_some_iff_lastWith.mp last
      · exact begins
      · exact longest

theorem Governs.ruleFor_eq (governs : entry.Governs path rule) : entry.ruleFor path = rule := by
  cases governs with
  | default astray =>
      simp only [Path.normalizedSegments_eq_parts] at astray
      have missed : Path.longestPrefix? (entry.subpaths.map (Path.parts ·.path))
          (Path.parts path) = none := by
        rw [Path.longestPrefix?_eq_none_iff, List.forall_mem_map]
        exact astray
      rw [ruleFor, missed]
  | subpath subpath last begins longest =>
      simp only [Path.normalizedSegments_eq_parts] at last begins longest
      have listed := find?_reverse_eq_some_iff_lastWith.mpr last
      have found : Path.longestPrefix? (entry.subpaths.map (Path.parts ·.path))
          (Path.parts path) = some (Path.parts subpath.path) := by
        rw [Path.longestPrefix?_eq_some_iff, List.forall_mem_map]
        refine ⟨List.mem_map.mpr ⟨subpath, ?_, rfl⟩, begins, longest⟩
        exact List.mem_reverse.mp (List.mem_of_find?_eq_some listed)
      simp only [ruleFor, found, listed]

/-- The scan for a rule finds the one in force. -/
theorem governs_iff : entry.Governs path rule ↔ entry.ruleFor path = rule := by
  constructor
  · exact Governs.ruleFor_eq
  · rintro rfl
    exact governs_ruleFor entry path

end PermissionEntry

theorem Binding.permits?_eq_some_iff {binding : Binding} {credential path : String}
    {permission : Permission} :
    binding.permits? credential path = some permission ↔
      ∃ entry, LastWith (·.credential = credential) binding.entries entry ∧
        entry.Governs path permission.rule ∧ permission.rate = entry.rate := by
  rcases permission with ⟨rule, rate⟩
  rw [permits?, Option.map_eq_some_iff]
  simp only [entryFor?, find?_reverse_eq_some_iff_lastWith, PermissionEntry.governs_iff,
    Permission.mk.injEq, @eq_comm _ rate]

namespace Grants

/-- The store after a write. -/
def write (grants : Grants) : NamedWrite Binding → Grants
  | .set binding => grants.set binding
  | .delete id => (grants.delete id).2

/-- The store after writes one after the other. -/
def writeAll (grants : Grants) (writes : List (NamedWrite Binding)) : Grants :=
  writes.foldl write grants

variable (writes : List (NamedWrite Binding)) (id : ResourceName)

theorem get?_writeAll {credential path : String} {permission : Permission} :
    (empty.writeAll writes).get? id credential path = some permission ↔
      ∃ binding, LastWith (·.about Binding.id = id) writes (.set binding) ∧
        binding.permits? credential path = some permission := by
  have law (grants : Grants) (write : NamedWrite Binding) :
      (grants.write write).get? id credential path =
        if write.about Binding.id = id then write.item?.bind (·.permits? credential path)
        else grants.get? id credential path := by
    cases write with
    | set binding => exact grants.get?_set binding id credential path
    | delete removed => exact grants.get?_delete removed id credential path
  rw [writeAll, foldl_eq_iff_lastWith write (·.get? id credential path) _ law (by simp)]
  simp only [Option.bind_eq_some_iff, NamedWrite.exists_item?_iff]

theorem contains_writeAll :
    (empty.writeAll writes).contains id = true ↔
      ∃ binding, LastWith (·.about Binding.id = id) writes (.set binding) := by
  have law (grants : Grants) (write : NamedWrite Binding) :
      (grants.write write).contains id =
        if write.about Binding.id = id then write.item?.isSome else grants.contains id := by
    cases write with
    | set binding => exact grants.contains_set binding id
    | delete removed => exact grants.contains_delete removed id
  rw [writeAll, foldl_eq_iff_lastWith write (·.contains id) _ law (by simp)]
  simpa only [Option.isSome_iff_exists, and_true] using
    @NamedWrite.exists_item?_iff _ (LastWith (·.about Binding.id = id) writes) fun _ => True

/-- After whatever writes a name answers a credential exactly when the last write about the name
set a binding with an entry for the credential.  The answer is the rate of the last such entry,
whatever the path, with the rule of the entry that is in force on the path.  The name is contained,
and deleted, exactly when the last write about it set a binding, and the store is empty exactly
when that holds of no name. -/
theorem writeAll_permits :
    (∀ credential path permission,
        (empty.writeAll writes).get? id credential path = some permission ↔
          ∃ binding entry, LastWith (·.about Binding.id = id) writes (.set binding) ∧
            LastWith (·.credential = credential) binding.entries entry ∧
            entry.Governs path permission.rule ∧ permission.rate = entry.rate) ∧
      (∀ credential path,
        (empty.writeAll writes).get? id credential path = none ↔
          ¬∃ binding entry, LastWith (·.about Binding.id = id) writes (.set binding) ∧
            LastWith (·.credential = credential) binding.entries entry) ∧
      ((empty.writeAll writes).contains id = true ↔
        ∃ binding, LastWith (·.about Binding.id = id) writes (.set binding)) ∧
      (((empty.writeAll writes).delete id).1 = true ↔
        ∃ binding, LastWith (·.about Binding.id = id) writes (.set binding)) ∧
      ((empty.writeAll writes).isEmpty = true ↔
        ¬∃ other binding, LastWith (·.about Binding.id = other) writes (.set binding)) := by
  have answers : ∀ credential path permission,
      (empty.writeAll writes).get? id credential path = some permission ↔
        ∃ binding entry, LastWith (·.about Binding.id = id) writes (.set binding) ∧
          LastWith (·.credential = credential) binding.entries entry ∧
          entry.Governs path permission.rule ∧ permission.rate = entry.rate := by
    intro credential path permission
    rw [get?_writeAll]
    simp only [Binding.permits?_eq_some_iff, ← exists_and_left]
  refine ⟨answers, ?_, contains_writeAll writes id, contains_writeAll writes id, ?_⟩
  · intro credential path
    rw [← Option.not_isSome_iff_eq_none, Option.isSome_iff_exists]
    simp only [answers]
    refine not_congr ⟨?_, ?_⟩
    · rintro ⟨_, binding, entry, stands, last, _⟩
      exact ⟨binding, entry, stands, last⟩
    · rintro ⟨binding, entry, stands, last⟩
      exact ⟨⟨entry.ruleFor path, entry.rate⟩, binding, entry, stands, last,
        entry.governs_ruleFor path, rfl⟩
  · rw [isEmpty, Spaces.isEmpty_eq_true_iff, not_exists]
    refine forall_congr' fun other => ?_
    rw [← contains_writeAll, Bool.not_eq_true]
    rfl

end Grants

/-! ## Mock targets -/

namespace MockTarget

/-- The response of a target to a method on a path: of all its responses at the longest address on
the way, whatever methods these serve, the first that serves the method. -/
structure Answers (target : MockTarget) (path method : String) (response : MockRoute) : Prop where
  begins : Path.normalizedSegments response.path <+: Path.parts path
  longest : ∀ other ∈ target.routes, Path.normalizedSegments other.path <+: Path.parts path →
    (Path.normalizedSegments other.path).length ≤
      (Path.normalizedSegments response.path).length
  first : FirstWith
    (fun other => Path.normalizedSegments other.path = Path.normalizedSegments response.path ∧
      ∃ verb ∈ other.methods, sameLetters verb method = true)
    target.routes response

/-- The scan for a response finds the one that answers. -/
theorem responseTo?_eq_some_iff {target : MockTarget} {path method : String}
    {response : MockRoute} :
    target.responseTo? path method = some response ↔ target.Answers path method response := by
  rw [responseTo?, Option.bind_eq_bind, Option.bind_eq_some_iff]
  simp only [find?_eq_some_iff_firstWith, Path.longestPrefix?_eq_some_iff, List.forall_mem_map]
  constructor
  · rintro ⟨address, ⟨_, begins, longest⟩, first⟩
    obtain ⟨rfl, _⟩ := first.1
    refine ⟨?_, ?_, ?_⟩
    all_goals simp only [Path.normalizedSegments_eq_parts]
    · exact begins
    · exact longest
    · simpa only [MockRoute.serves, List.any_eq_true] using first
  · rintro ⟨begins, longest, first⟩
    simp only [Path.normalizedSegments_eq_parts] at begins longest first
    obtain ⟨earlier, later, split, _⟩ := first.2
    have listed : response ∈ target.routes := by simp [split]
    refine ⟨Path.parts response.path, ⟨List.mem_map.mpr ⟨response, listed, rfl⟩, begins, longest⟩,
      ?_⟩
    simpa only [MockRoute.serves, List.any_eq_true] using first

end MockTarget

namespace Mocks

/-- The store after a write; a refused target leaves it as it was. -/
def write (mocks : Mocks) : NamedWrite MockTarget → Mocks
  | .set target => (mocks.set target).toOption.getD mocks
  | .delete id => (mocks.delete id).2

/-- The store after writes one after the other. -/
def writeAll (mocks : Mocks) (writes : List (NamedWrite MockTarget)) : Mocks :=
  writes.foldl write mocks

/-- Whether a write counts for a name: it is about the name, and it does not set a target without
routes. -/
def counts (id : ResourceName) : NamedWrite MockTarget → Bool
  | .set target => target.id = id ∧ target.routes ≠ []
  | .delete removed => removed = id

theorem targets_write (mocks : Mocks) (write : NamedWrite MockTarget) (id : ResourceName) :
    (mocks.write write).targets.get? id =
      if counts id write then write.item?.map (·.routes.foldl place .empty)
      else mocks.targets.get? id := by
  cases write with
  | set target =>
      rw [Mocks.write, set]
      by_cases bare : target.routes = []
      · simp [bare, counts, Except.toOption]
      · simp [bare, counts, Except.toOption, NamedWrite.item?, Spaces.get?_insert, eq_comm]
  | delete removed =>
      simp [Mocks.write, delete, counts, NamedWrite.item?, Spaces.get?_erase, eq_comm]

variable (writes : List (NamedWrite MockTarget))

theorem targets_writeAll (id : ResourceName) {responses : Trie (List MockRoute)} :
    (empty.writeAll writes).targets.get? id = some responses ↔
      ∃ target, LastWith (counts id ·) writes (.set target) ∧
        target.routes.foldl place .empty = responses := by
  have law (mocks : Mocks) (write : NamedWrite MockTarget) := mocks.targets_write write id
  rw [writeAll, foldl_eq_iff_lastWith write (·.targets.get? id) _ law (by simp [empty])]
  simp only [Option.map_eq_some_iff, NamedWrite.exists_item?_iff]

theorem contains_writeAll (id : ResourceName) :
    (empty.writeAll writes).targets.contains id = true ↔
      ∃ target, LastWith (counts id ·) writes (.set target) := by
  rw [Spaces.contains, Option.isSome_iff_exists]
  simp only [targets_writeAll]
  constructor
  · rintro ⟨_, target, stands, _⟩
    exact ⟨target, stands⟩
  · rintro ⟨target, stands⟩
    exact ⟨_, target, stands, rfl⟩

/-- After whatever writes a name answers as the target that the last write which counts for it has
set.  The nodes of the target have all its routes, those of one address in their order.  The name is
deleted exactly when it has a target, and the store is empty exactly when no name has.  Carried out
write by write, a refused target leaves the store as it found it. -/
theorem writeAll_responds :
    (∀ id path method response,
        (empty.writeAll writes).get? id path method = some response ↔
          ∃ target, LastWith (counts id ·) writes (.set target) ∧
            target.Answers path method response) ∧
      (∀ id target, LastWith (counts id ·) writes (.set target) →
        ∃ responses, (empty.writeAll writes).targets.get? id = some responses ∧
          ∀ address, (responses.get? address).getD [] =
            target.routes.filter (Path.normalizedSegments ·.path = address)) ∧
      (∀ id, ((empty.writeAll writes).delete id).1 = true ↔
        ∃ target, LastWith (counts id ·) writes (.set target)) ∧
      ((empty.writeAll writes).isEmpty = true ↔
        ¬∃ id target, LastWith (counts id ·) writes (.set target)) ∧
      ∀ target, (load target).perform (empty.writeAll writes) =
        if target.routes = [] then
          (.error (.emptyMockTarget target.id), empty.writeAll writes)
        else (.ok (), (empty.writeAll writes).write (.set target)) := by
  refine ⟨?_, ?_, contains_writeAll writes, ?_, ?_⟩
  · intro id path method response
    rw [get?, Option.bind_eq_bind, Option.bind_eq_some_iff]
    simp only [targets_writeAll, ← MockTarget.responseTo?_eq_some_iff, ← lookup_foldl_place]
    constructor
    · rintro ⟨_, ⟨target, stands, rfl⟩, found⟩
      exact ⟨target, stands, found⟩
    · rintro ⟨target, stands, found⟩
      exact ⟨_, ⟨target, stands, rfl⟩, found⟩
  · intro id target stands
    refine ⟨_, (targets_writeAll writes id).mpr ⟨target, stands, rfl⟩, fun address => ?_⟩
    simp only [get?_foldl_place, Path.normalizedSegments_eq_parts]
    split
    · next missing => rw [missing, Option.getD_none]
    · rw [Option.getD_some]
  · rw [isEmpty, Spaces.isEmpty_eq_true_iff, not_exists]
    refine forall_congr' fun id => ?_
    rw [← contains_writeAll, Bool.not_eq_true]
  · intro target
    rw [realizes_load target (empty.writeAll writes), write]
    by_cases bare : target.routes = []
    · simp only [set_of_bare bare, bare, if_true]
    · simp only [set, bare, if_false]
      rfl

example :
    let routes : List MockRoute :=
      [{ path := "/", methods := ["PUT"] }, { path := "/x", methods := ["POST"] },
        { path := "x/", methods := ["get"] }]
    let mocks := empty.writeAll [.set ⟨⟨"n", "a"⟩, routes⟩, .set ⟨⟨"n", "a"⟩, []⟩]
    mocks.get? ⟨"n", "a"⟩ "/x/y" "GET" = routes[2]? ∧
      mocks.get? ⟨"n", "a"⟩ "/x/y" "PUT" = none := by
  decide +kernel

end Mocks

end Tollgate
