import Mathlib.Data.Finset.Card
import Tollgate.Proofs.Trie

/-!
# The nodes of a trie

A trie in canonical form has no node without a value at it or below it.  So its nodes are the ways
to its values: below the root there are as many as the stored addresses have non-empty prefixes,
and two tries in canonical form that give the same answers are one.
-/

namespace Tollgate

universe u

namespace Path

/-- The distinct non-empty prefixes of some addresses. -/
def prefixes (addresses : List (List String)) : Finset (List String) :=
  (addresses.flatMap List.inits).toFinset.erase []

theorem mem_prefixes {addresses : List (List String)} {address : List String} :
    address ∈ prefixes addresses ↔ address ≠ [] ∧ ∃ longer ∈ addresses, address <+: longer := by
  simp [prefixes]

end Path

namespace Trie

variable {α : Type u}

/-- The node at an address, with all that is below it. -/
def node? (trie : Trie α) : List String → Option (Trie α)
  | [] => some trie
  | segment :: rest => (trie.branches.child? segment).bind (·.node? rest)

theorem get?_cons (trie : Trie α) (segment : String) (rest : List String) :
    trie.get? (segment :: rest) = (trie.branches.child? segment).bind (·.get? rest) := by
  rw [get?]
  cases trie.branches.child? segment <;> rfl

/-- A value is found from the node of any address on the way to it. -/
theorem get?_append (trie : Trie α) (address rest : List String) :
    trie.get? (address ++ rest) = (trie.node? address).bind (·.get? rest) := by
  induction address generalizing trie with
  | nil => rfl
  | cons segment address ih =>
      rw [List.cons_append, get?, node?]
      cases trie.branches.child? segment with
      | none => rfl
      | some child => exact ih child

/-- A node counts for something when it has a value or a child. -/
theorem isEmpty_eq_false_iff {trie : Trie α} :
    trie.isEmpty = false ↔
      trie.value.isSome ∨ ∃ segment, (trie.branches.child? segment).isSome := by
  rcases trie with ⟨value, branches⟩
  cases branches with
  | nil => simp [isEmpty, Branches.isNil]
  | cons first held below others =>
      have reached : ((Branches.cons first held below others).child? first).isSome := by
        simp [Branches.child?]
      exact ⟨fun _ => .inr ⟨first, reached⟩, fun _ => by simp [isEmpty, Branches.isNil]⟩

theorem Canonical.isEmpty_eq_true_iff {trie : Trie α} (canonical : trie.Canonical) :
    trie.isEmpty = true ↔ ∀ address, trie.get? address = none := by
  constructor
  · exact get?_of_isEmpty
  · intro silent
    rw [canonical.eq_empty silent]
    rfl

/-- A node that counts for something leads to a value. -/
theorem Canonical.exists_get? {trie : Trie α} (canonical : trie.Canonical)
    (used : trie.isEmpty = false) : ∃ address, (trie.get? address).isSome := by
  by_contra silent
  rw [Bool.eq_false_iff, ne_eq, canonical.isEmpty_eq_true_iff] at used
  apply used
  intro address
  rw [← Option.not_isSome_iff_eq_none]
  exact fun held => silent ⟨address, held⟩

theorem Canonical.node? {trie : Trie α} (canonical : trie.Canonical) {segment : String}
    {rest : List String} {node : Trie α} (found : trie.node? (segment :: rest) = some node) :
    node.Canonical ∧ node.isEmpty = false := by
  induction rest generalizing trie segment with
  | nil =>
      obtain ⟨child, here, same⟩ := Option.bind_eq_some_iff.mp found
      cases same
      exact Branches.Canonical.child canonical here
  | cons next rest ih =>
      obtain ⟨child, here, deeper⟩ := Option.bind_eq_some_iff.mp found
      exact ih (Branches.Canonical.child canonical here).1 deeper

/-- The nodes below the root are those on the way to a stored value. -/
theorem Canonical.isSome_node?_iff {trie : Trie α} (canonical : trie.Canonical)
    (segment : String) (rest : List String) :
    (trie.node? (segment :: rest)).isSome ↔
      ∃ address, (trie.get? address).isSome ∧ segment :: rest <+: address := by
  constructor
  · intro present
    obtain ⟨node, found⟩ := Option.isSome_iff_exists.mp present
    obtain ⟨canonicalNode, used⟩ := canonical.node? found
    obtain ⟨deeper, stored⟩ := canonicalNode.exists_get? used
    refine ⟨segment :: rest ++ deeper, ?_, List.prefix_append _ _⟩
    rw [get?_append, found]
    exact stored
  · rintro ⟨_, stored, deeper, rfl⟩
    rw [get?_append] at stored
    exact Option.isSome_of_isSome_bind stored

end Trie

namespace Branches

variable {α : Type u}

/-! ## Counting -/

/-- The addresses of all nodes below. -/
def addresses : Branches α → List (List String)
  | nil => []
  | cons segment _ below rest =>
      ([segment] :: below.addresses.map (segment :: ·)) ++ rest.addresses

theorem length_addresses (branches : Branches α) :
    branches.addresses.length = branches.nodeCount := by
  induction branches with
  | nil => rfl
  | cons segment value below rest ihBelow ihRest =>
      rw [addresses, List.length_append, List.length_cons, List.length_map, ihBelow, ihRest,
        nodeCount, Nat.add_comm below.nodeCount]

theorem nil_notMem_addresses (branches : Branches α) : [] ∉ branches.addresses := by
  induction branches with
  | nil => exact List.not_mem_nil
  | cons segment value below rest _ ih => simp [addresses, ih]

/-- The addresses are those at which there is a node. -/
theorem Canonical.mem_addresses {branches : Branches α} (canonical : branches.Canonical)
    (segment : String) (rest : List String) :
    segment :: rest ∈ branches.addresses ↔
      ((branches.child? segment).bind (·.node? rest)).isSome := by
  induction branches generalizing segment rest with
  | nil => simp [addresses]
  | cons first value below others ihBelow ihOthers =>
      have single := canonical.child?_first
      rcases canonical with ⟨_, _, canonicalBelow, canonicalOthers⟩
      simp only [addresses, List.mem_append, List.mem_cons, List.mem_map, child?,
        ihOthers canonicalOthers]
      by_cases here : segment = first
      · subst first
        cases rest with
        | nil => simp [single, Trie.node?]
        | cons next rest => simp [single, Trie.node?, ihBelow canonicalBelow]
      · simp [here, Ne.symm here]

/-- No node is listed twice. -/
theorem Canonical.nodup_addresses {branches : Branches α} (canonical : branches.Canonical) :
    branches.addresses.Nodup := by
  induction branches with
  | nil => exact List.nodup_nil
  | cons first value below others ihBelow ihOthers =>
      have single := canonical.child?_first
      rcases canonical with ⟨_, _, canonicalBelow, canonicalOthers⟩
      have inside : (below.addresses.map (first :: ·)).Nodup :=
        (ihBelow canonicalBelow).map List.cons_injective
      have rooted : [first] ∉ below.addresses.map (first :: ·) := by
        simpa using below.nil_notMem_addresses
      have apart : ∀ address ∈ [first] :: below.addresses.map (first :: ·),
          address ∉ others.addresses := by
        intro address member listed
        have led : ∃ rest, address = first :: rest := by
          rcases List.mem_cons.mp member with rfl | deeper
          · exact ⟨[], rfl⟩
          · obtain ⟨rest, _, rfl⟩ := List.mem_map.mp deeper
            exact ⟨rest, rfl⟩
        obtain ⟨rest, rfl⟩ := led
        simp [canonicalOthers.mem_addresses, single] at listed
      exact List.nodup_append'.mpr
        ⟨List.nodup_cons.mpr ⟨rooted, inside⟩, ihOthers canonicalOthers, apart⟩

/-! ## One shape -/

/-- No segment with a child is before the first one. -/
theorem Canonical.first_le {first segment : String} {value : Option α} {below others : Branches α}
    (canonical : (cons first value below others).Canonical)
    (present : ((cons first value below others).child? segment).isSome) :
    first = segment ∨ first < segment := by
  rw [child?] at present
  split at present
  · next same => exact .inl same.symm
  · exact .inr (canonical.1 segment present)

/-- A segment has a child exactly when a value is stored there or below. -/
theorem Canonical.isSome_child?_iff {branches : Branches α} (canonical : branches.Canonical)
    (segment : String) :
    (branches.child? segment).isSome ↔
      ∃ rest, ((branches.child? segment).bind (·.get? rest)).isSome := by
  constructor
  · intro present
    obtain ⟨child, found⟩ := Option.isSome_iff_exists.mp present
    obtain ⟨canonicalChild, used⟩ := canonical.child found
    obtain ⟨rest, stored⟩ := Trie.Canonical.exists_get? canonicalChild used
    exact ⟨rest, by simpa [found] using stored⟩
  · rintro ⟨rest, stored⟩
    exact Option.isSome_of_isSome_bind stored

/-- Children in canonical form are known by the values below them. -/
theorem Canonical.ext {left right : Branches α} (canonicalLeft : left.Canonical)
    (canonicalRight : right.Canonical)
    (same : ∀ segment rest,
      (left.child? segment).bind (·.get? rest) = (right.child? segment).bind (·.get? rest)) :
    left = right := by
  induction left generalizing right with
  | nil =>
      cases right with
      | nil => rfl
      | cons first value below others =>
          have present := canonicalRight.isSome_child?_iff first
          simp only [← same] at present
          simp [child?] at present
  | cons first value below others ihBelow ihOthers =>
      have present : ∀ segment,
          ((cons first value below others).child? segment).isSome ↔
            (right.child? segment).isSome := by
        intro segment
        simp only [canonicalLeft.isSome_child?_iff, canonicalRight.isSome_child?_iff, same]
      cases right with
      | nil => simpa [child?] using present first
      | cons head held under siblings =>
          -- Both sides have a child under either first segment, so neither is before the other.
          have lead : first = head := by
            have forth := canonicalRight.first_le ((present first).mp (by simp [child?]))
            have back := canonicalLeft.first_le ((present head).mpr (by simp [child?]))
            rcases forth with rfl | less
            · rfl
            · exact back.resolve_right (String.lt_asymm less)
          subst head
          have child : ∀ rest,
              (Trie.mk value below).get? rest = (Trie.mk held under).get? rest := by
            intro rest
            simpa [child?] using same first rest
          have valued : value = held := child []
          have nested : below = under := by
            apply ihBelow canonicalLeft.2.2.1 canonicalRight.2.2.1
            intro segment rest
            simpa only [Trie.get?_cons] using child (segment :: rest)
          have later : others = siblings := by
            apply ihOthers canonicalLeft.2.2.2 canonicalRight.2.2.2
            intro segment rest
            by_cases here : segment = first
            · rw [here, canonicalLeft.child?_first, canonicalRight.child?_first]
            · simpa [child?, here] using same segment rest
          rw [valued, nested, later]

end Branches

namespace Trie

variable {α : Type u}

/-- Below the root there are as many nodes as the stored addresses have non-empty prefixes. -/
theorem Canonical.nodeCount_eq {trie : Trie α} (canonical : trie.Canonical)
    {addresses : List (List String)}
    (stored : ∀ address, (trie.get? address).isSome ↔ address ∈ addresses) :
    trie.nodeCount = (Path.prefixes addresses).card := by
  have listed : trie.branches.addresses.toFinset = Path.prefixes addresses := by
    ext address
    rw [List.mem_toFinset, Path.mem_prefixes]
    cases address with
    | nil => simp [Branches.nil_notMem_addresses]
    | cons segment rest =>
        rw [Branches.Canonical.mem_addresses canonical, ← Trie.node?, canonical.isSome_node?_iff]
        simp [stored]
  rw [← listed, List.toFinset_card_of_nodup (Branches.Canonical.nodup_addresses canonical),
    Branches.length_addresses, nodeCount]

/-- Two tries in canonical form that answer alike are one. -/
theorem Canonical.ext {trie other : Trie α} (canonical : trie.Canonical)
    (canonicalOther : other.Canonical)
    (same : ∀ address, trie.get? address = other.get? address) : trie = other := by
  have valued : trie.value = other.value := same []
  have nested : trie.branches = other.branches := by
    apply Branches.Canonical.ext canonical canonicalOther
    intro segment rest
    simpa only [get?_cons] using same (segment :: rest)
  rcases trie with ⟨value, branches⟩
  rw [Trie.mk.injEq]
  exact ⟨valued, nested⟩

end Trie

end Tollgate
