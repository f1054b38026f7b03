import Tollgate.Store.Routes
import Tollgate.Proofs.Dictionary
import Tollgate.Proofs.LongestPrefix

/-!
# The slots of a route store

A store of routes stands for a table from slots to routes.  Each write acts on the table as a
write of a map, and a request is answered from the slots of the deepest address that has any.  A
trie node without a host would hide shallower addresses; the relation excludes it.
-/

namespace Tollgate

/-- The slot of a route: the address of its source path, and its host. -/
def Route.slot (route : Route) : List String × String :=
  (route.address, route.host)

namespace Routes

/-- A table from slots to routes. -/
abbrev Table :=
  Dict (List String × String) Route

/-- Take a route out of its slot, if the slot holds a route of that name. -/
def Table.vacate (table : Table) (route : Route) : Table :=
  if (table.get? route.slot).any (·.id = route.id) then table.erase route.slot else table

/-- Vacating takes a route of that name out of the slot, and nothing else. -/
theorem Table.get?_vacate (table : Table) (old : Route) (slot : List String × String)
    (route : Route) :
    (table.vacate old).get? slot = some route ↔
      table.get? slot = some route ∧ ¬(slot = old.slot ∧ route.id = old.id) := by
  rw [vacate]
  split
  · next owned =>
    rw [Dict.get?_erase]
    by_cases here : slot = old.slot
    · subst here
      rw [if_pos rfl]
      constructor
      · intro impossible
        contradiction
      · rintro ⟨held, other⟩
        rw [held] at owned
        exact absurd ⟨rfl, by simpa using owned⟩ other
    · simp [here]
  · next foreign =>
    constructor
    · intro held
      refine ⟨held, ?_⟩
      rintro ⟨rfl, named⟩
      rw [held] at foreign
      exact foreign (by simp [named])
    · exact And.left

/-- The addresses at which a table has a route, for whatever host. -/
def Table.addresses (table : Table) : List (List String) :=
  table.entries.map (·.1.1)

theorem Table.mem_addresses (table : Table) {address : List String} :
    address ∈ table.addresses ↔ ∃ host, (table.get? (address, host)).isSome := by
  constructor
  · intro member
    rcases List.mem_map.mp member with ⟨⟨⟨_, host⟩, route⟩, entry, rfl⟩
    exact ⟨host, Option.isSome_of_mem (Dict.get?_eq_some_iff.mpr entry)⟩
  · rintro ⟨host, answered⟩
    rcases Option.isSome_iff_exists.mp answered with ⟨route, found⟩
    exact List.mem_map.mpr ⟨_, Dict.get?_eq_some_iff.mp found, rfl⟩

/-- The store holds the routes of the table, each in its own slot. -/
structure Represents (routes : Routes) (table : Table) : Prop where
  canonical : routes.slots.Canonical
  occupant : ∀ address host, routes.occupant? address host = table.get? (address, host)
  inhabited : ∀ address hosts,
    routes.slots.get? address = some hosts → ∃ host, (hosts.get? host).isSome
  housed : ∀ slot route, table.get? slot = some route → route.slot = slot
  counted : routes.count = table.size

theorem represents_empty : Represents .empty .empty where
  canonical := Trie.canonical_empty
  occupant address host := by simp [occupant?, empty]
  inhabited address hosts found := by simp [empty] at found
  housed slot route found := by simp at found
  counted := rfl

variable {routes : Routes} {table : Table}

namespace Represents

/-- What a node holds is what the table has under its address. -/
theorem get?_of_slots (represents : routes.Represents table) {address : List String}
    {hosts : Dict String Route} (found : routes.slots.get? address = some hosts) (host : String) :
    hosts.get? host = table.get? (address, host) := by
  rw [← represents.occupant, occupant?, found, Option.bind_some]

theorem get?_of_slots_eq_none (represents : routes.Represents table) {address : List String}
    (vacant : routes.slots.get? address = none) (host : String) :
    table.get? (address, host) = none := by
  rw [← represents.occupant, occupant?, vacant, Option.bind_none]

/-- After a fill, the node of the address has the new host as well. -/
theorem slots_fill (represents : routes.Represents table) (address : List String) (host : String)
    (route : Route) (other : List String) :
    ∃ hosts : Dict String Route,
      (∀ name, hosts.get? name =
        if name = host then some route else table.get? (address, name)) ∧
      (routes.fill address host route).slots.get? other =
        if other = address then some hosts else routes.slots.get? other := by
  cases found : routes.slots.get? address with
  | none =>
      refine ⟨.singleton host route, ?_, ?_⟩
      · intro name
        rw [Dict.singleton, Dict.get?_insert, represents.get?_of_slots_eq_none found]
        rfl
      · simp only [fill, found, Trie.get?_insert]
  | some hosts =>
      refine ⟨hosts.insert host route, ?_, ?_⟩
      · intro name
        rw [Dict.get?_insert, represents.get?_of_slots found]
      · simp only [fill, found, Trie.get?_modify]
        split
        · next same => simp [same, found]
        · rfl

theorem canonical_fill (represents : routes.Represents table) (address : List String)
    (host : String) (route : Route) : (routes.fill address host route).slots.Canonical := by
  simp only [fill]
  cases routes.slots.get? address with
  | none => exact represents.canonical.insert address _
  | some hosts => exact represents.canonical.modify _ address

theorem count_fill (represents : routes.Represents table) (address : List String) (host : String)
    (route : Route) :
    (routes.fill address host route).count = (table.insert (address, host) route).size := by
  simp only [fill, represents.occupant, represents.counted]
  cases held : table.get? (address, host) with
  | none => exact (Dict.size_insert_of_get?_eq_none held route).symm
  | some old => exact (Dict.size_insert_of_get?_eq_some held route).symm

/-- Storing a route overwrites its slot. -/
theorem set (represents : routes.Represents table) (route : Route) :
    (routes.set route).Represents (table.insert route.slot route) where
  canonical := represents.canonical_fill route.address route.host route
  occupant address host := by
    obtain ⟨hosts, answers, node⟩ :=
      represents.slots_fill route.address route.host route address
    rw [Routes.set, occupant?, node, Dict.get?_insert, Route.slot]
    by_cases here : address = route.address
    · subst address
      simp [answers]
    · rw [if_neg here, ← occupant?, represents.occupant, if_neg]
      rintro ⟨⟩
      exact here rfl
  inhabited address hosts found := by
    obtain ⟨held, answers, node⟩ :=
      represents.slots_fill route.address route.host route address
    rw [Routes.set, node] at found
    split at found
    · cases found
      exact ⟨route.host, by simp [answers]⟩
    · exact represents.inhabited address hosts found
  housed slot other found := by
    rw [Dict.get?_insert] at found
    split at found
    · next same =>
      cases found
      exact same.symm
    · exact represents.housed slot other found
  counted := represents.count_fill route.address route.host route

/-- Clearing a vacant slot changes nothing. -/
theorem clear_of_get?_eq_none (represents : routes.Represents table) {address : List String}
    {host : String} (vacant : table.get? (address, host) = none) :
    (routes.clear address host).2 = routes := by
  cases found : routes.slots.get? address with
  | none => simp only [clear, found]
  | some hosts =>
      rw [← represents.get?_of_slots found] at vacant
      simp only [clear, found, vacant]

/-- A table with the same answers is represented as well. -/
theorem congr (represents : routes.Represents table) {other : Table}
    (same : ∀ slot, other.get? slot = table.get? slot) : routes.Represents other where
  canonical := represents.canonical
  occupant address host := (represents.occupant address host).trans (same _).symm
  inhabited := represents.inhabited
  housed slot route found := represents.housed slot route ((same slot).symm.trans found)
  counted := represents.counted.trans (Dict.size_congr same).symm

/-- Clearing a held slot leaves the other hosts of its node, and no node without a host. -/
theorem slots_clear (represents : routes.Represents table) {address : List String} {host : String}
    {removed : Route} (held : table.get? (address, host) = some removed) :
    ∃ hosts : Dict String Route,
      (∀ name, hosts.get? name = if name = host then none else table.get? (address, name)) ∧
      (∀ other, (routes.clear address host).2.slots.get? other =
        if other = address then (if hosts.isEmpty then none else some hosts)
        else routes.slots.get? other) ∧
      (routes.clear address host).2.slots.Canonical ∧
      (routes.clear address host).2.count = routes.count - 1 := by
  cases found : routes.slots.get? address with
  | none =>
      rw [represents.get?_of_slots_eq_none found] at held
      contradiction
  | some hosts =>
      have answer := held
      rw [← represents.get?_of_slots found] at answer
      refine ⟨hosts.erase host, ?_, ?_, ?_, ?_⟩
      · intro name
        rw [Dict.get?_erase, represents.get?_of_slots found]
      · intro other
        simp only [clear, found, answer]
        by_cases hollow : (hosts.erase host).isEmpty = true
        · simp only [hollow, if_true]
          exact represents.canonical.get?_erase address other
        · simp only [hollow, if_false, Bool.false_eq_true, Trie.get?_modify]
          split
          · next same => simp [same, found]
          · rfl
      · simp only [clear, found, answer]
        split
        · exact represents.canonical.erase address
        · exact represents.canonical.modify _ address
      · simp only [clear, found, answer]

/-- Clearing a slot takes it out of the table. -/
theorem clear (represents : routes.Represents table) (address : List String) (host : String) :
    (routes.clear address host).2.Represents (table.erase (address, host)) := by
  cases held : table.get? (address, host) with
  | none =>
      rw [represents.clear_of_get?_eq_none held]
      apply represents.congr
      intro slot
      rw [Dict.get?_erase]
      split
      · next same => rw [same, held]
      · rfl
  | some removed =>
      rcases represents.slots_clear held with ⟨hosts, answers, nodes, canonical, count⟩
      refine ⟨canonical, ?_, ?_, ?_, ?_⟩
      · intro other name
        rw [occupant?, nodes, Dict.get?_erase]
        simp only [Prod.mk.injEq]
        by_cases here : other = address
        · subst other
          rw [if_pos rfl]
          by_cases hollow : hosts.isEmpty = true
          · have silent := Dict.isEmpty_eq_true_iff.mp hollow name
            rw [answers] at silent
            simp [hollow, silent]
          · simp [hollow, answers]
        · rw [if_neg here, ← occupant?, represents.occupant]
          simp [here]
      · intro other held found
        rw [nodes] at found
        split at found
        · split at found
          · contradiction
          · next useful =>
            cases found
            by_contra barren
            apply useful
            apply Dict.isEmpty_eq_true_iff.mpr
            intro name
            by_contra answered
            exact barren ⟨name, Option.isSome_iff_ne_none.mpr answered⟩
        · exact represents.inhabited other held found
      · intro slot route found
        rw [Dict.get?_erase] at found
        split at found
        · contradiction
        · exact represents.housed slot route found
      · rw [count, represents.counted, Dict.size_erase_of_get?_eq_some held]

/-- A removal takes one off a count that has one to give. -/
theorem count_clear (represents : routes.Represents table) {address : List String} {host : String}
    {removed : Route} (held : table.get? (address, host) = some removed) :
    (routes.clear address host).2.count + 1 = routes.count := by
  rcases represents.slots_clear held with ⟨_, _, _, _, count⟩
  have positive : 0 < table.size := List.length_pos_of_mem (Dict.get?_eq_some_iff.mp held)
  rw [count, represents.counted]
  omega

/-- In a slot of its host, a route has the owner of another exactly when it has its name. -/
theorem sameOwner_eq (represents : routes.Represents table) {route occupant : Route}
    (held : table.get? route.slot = some occupant) :
    occupant.sameOwner route = decide (occupant.id = route.id) := by
  have home : occupant.host = route.host :=
    congrArg Prod.snd (represents.housed route.slot occupant held)
  simp only [Route.sameOwner, home, decide_true, Bool.and_true]

/-- A move is refused exactly when its target slot holds a route with another name. -/
theorem conflict?_eq (represents : routes.Represents table) (new : Route) :
    routes.conflict? new =
      match table.get? new.slot with
      | none => none
      | some occupant =>
          if occupant.id = new.id then none
          else some (.slotTaken (Path.normalize new.sourcePath) new.host occupant.id) := by
  have holder : routes.occupant? new.address new.host = table.get? new.slot :=
    represents.occupant new.address new.host
  unfold conflict?
  cases held : table.get? new.slot with
  | none => simp only [holder, held]
  | some occupant => simp only [holder, held, represents.sameOwner_eq held, decide_eq_true_eq]

theorem holds_eq (represents : routes.Represents table) (route : Route) :
    routes.holds route = (table.get? route.slot).any (·.id = route.id) := by
  have holder : routes.occupant? route.address route.host = table.get? route.slot :=
    represents.occupant route.address route.host
  unfold holds
  cases held : table.get? route.slot with
  | none => simp only [holder, held, Option.any_none]
  | some occupant => simp only [holder, held, represents.sameOwner_eq held, Option.any_some]

/-- A move into a slot of another name is refused. -/
theorem update_of_taken (represents : routes.Represents table) (old : Route) {new occupant : Route}
    (held : table.get? new.slot = some occupant) (other : occupant.id ≠ new.id) :
    routes.update old new =
      .error (.slotTaken (Path.normalize new.sourcePath) new.host occupant.id) := by
  have refused := represents.conflict?_eq new
  simp only [held, other, if_false] at refused
  unfold Routes.update
  rw [refused]

/-- Any other move vacates the old slot, if it still belongs to the route, and fills the new. -/
theorem update_of_free (represents : routes.Represents table) (old : Route) {new : Route}
    (free : ∀ occupant, table.get? new.slot = some occupant → occupant.id = new.id) :
    ∃ moved, routes.update old new = .ok moved ∧
      moved.Represents ((table.vacate old).insert new.slot new) := by
  have granted : routes.conflict? new = none := by
    rw [represents.conflict?_eq]
    split
    · rfl
    · next occupant held => rw [if_pos (free occupant held)]
  have moves : routes.update old new = .ok
      (Routes.set (if routes.holds old then (routes.clear old.address old.host).2 else routes)
        new) := by
    unfold Routes.update
    rw [granted]
  refine ⟨_, moves, ?_⟩
  apply set
  rw [represents.holds_eq, Table.vacate]
  split
  · exact represents.clear old.address old.host
  · exact represents

/-- Among routes that stand in their slots, a move is refused exactly when a route of another name
holds the new slot. -/
theorem update_eq_error_iff (represents : routes.Represents table) (old : Route) {new : Route}
    {refusal : Refusal} :
    routes.update old new = .error refusal ↔
      ∃ occupant, routes.occupant? new.address new.host = some occupant ∧ occupant.id ≠ new.id ∧
        refusal = .slotTaken (Path.normalize new.sourcePath) new.host occupant.id := by
  rw [represents.occupant]
  constructor
  · intro refused
    by_cases free : ∀ occupant, table.get? new.slot = some occupant → occupant.id = new.id
    · obtain ⟨moved, granted, _⟩ := represents.update_of_free old free
      rw [granted] at refused
      contradiction
    · push Not at free
      obtain ⟨occupant, held, other⟩ := free
      rw [represents.update_of_taken old held other] at refused
      exact ⟨occupant, held, other, (Except.error.inj refused).symm⟩
  · rintro ⟨occupant, held, other, rfl⟩
    exact represents.update_of_taken old held other

/-- A request is answered from the deepest address with a slot, by the slot of its host. -/
theorem get?_eq (represents : routes.Represents table) {addresses : List (List String)}
    (used : ∀ address, address ∈ addresses ↔ ∃ host, (table.get? (address, host)).isSome)
    (path host : String) :
    routes.get? path host =
      (Path.longestPrefix? addresses (Path.parts path)).bind
        fun address => table.get? (address, host) := by
  have stored : ∀ address, (routes.slots.get? address).isSome ↔ address ∈ addresses := by
    intro address
    rw [used]
    constructor
    · intro present
      rcases Option.isSome_iff_exists.mp present with ⟨hosts, found⟩
      rcases represents.inhabited address hosts found with ⟨name, answered⟩
      exact ⟨name, by rwa [← represents.get?_of_slots found]⟩
    · rintro ⟨name, answered⟩
      by_contra vacant
      rw [Option.not_isSome_iff_eq_none] at vacant
      rw [represents.get?_of_slots_eq_none vacant] at answered
      contradiction
  rw [Routes.get?, Trie.lookup_eq_bind _ stored, Option.bind_assoc]
  congr 1
  funext address
  exact represents.occupant address host

/-- A request is answered by the table's route at its host and the longest prefix of its path
that has a route for some host. -/
theorem get?_eq_some_iff (represents : routes.Represents table) {path host : String}
    {route : Route} :
    routes.get? path host = some route ↔
      ∃ address, address <+: Path.parts path ∧ table.get? (address, host) = some route ∧
        ∀ other name, other <+: Path.parts path → (table.get? (other, name)).isSome →
          other.length ≤ address.length := by
  rw [represents.get?_eq fun _ => table.mem_addresses, Option.bind_eq_some_iff]
  constructor
  · rintro ⟨address, deepest, found⟩
    obtain ⟨_, begins, longest⟩ := Path.longestPrefix?_eq_some_iff.mp deepest
    refine ⟨address, begins, found, ?_⟩
    intro other name otherBegins answered
    exact longest other (table.mem_addresses.mpr ⟨name, answered⟩) otherBegins
  · rintro ⟨address, begins, found, longest⟩
    refine ⟨address, Path.longestPrefix?_eq_some_iff.mpr ⟨?_, begins, ?_⟩, found⟩
    · exact table.mem_addresses.mpr ⟨host, Option.isSome_of_mem found⟩
    · intro other member otherBegins
      obtain ⟨name, answered⟩ := table.mem_addresses.mp member
      exact longest other name otherBegins answered

/-- A route in its slot answers at its own source path and host. -/
theorem get?_sourcePath (represents : routes.Represents table) {route : Route}
    (held : table.get? route.slot = some route) :
    routes.get? route.sourcePath route.host = some route := by
  apply represents.get?_eq_some_iff.mpr
  refine ⟨Path.parts route.sourcePath, List.prefix_rfl, ?_, fun _ _ begins _ => begins.length_le⟩
  rw [← Path.normalizedSegments_eq_parts]
  exact held

/-- Clearing a slot hands back what it held. -/
theorem clear_fst (represents : routes.Represents table) (address : List String) (host : String) :
    (routes.clear address host).1 = table.get? (address, host) := by
  cases found : routes.slots.get? address with
  | none =>
      rw [represents.get?_of_slots_eq_none found]
      simp only [Routes.clear, found]
  | some hosts =>
      rw [← represents.get?_of_slots found]
      cases held : hosts.get? host <;> simp only [Routes.clear, found, held]

/-- Stores of tables with the same answers serve alike, and hold equally many routes. -/
theorem get?_congr (represents : routes.Represents table) {others : Routes} {other : Table}
    (represented : others.Represents other) (same : ∀ slot, other.get? slot = table.get? slot) :
    (∀ path host, others.get? path host = routes.get? path host) ∧ others.count = routes.count := by
  have alike := represented.congr fun slot => (same slot).symm
  constructor
  · intro path host
    rw [represents.get?_eq fun _ => table.mem_addresses,
      alike.get?_eq fun _ => table.mem_addresses]
  · rw [alike.counted, represents.counted]

end Represents

end Routes

end Tollgate
