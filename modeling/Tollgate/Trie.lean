import Tollgate.Path

/-!
# Tries over path segments

A trie keeps values under lists of segments.  Each node may hold a value and has its children in
ascending order of their segments, so that a trie is determined by its shape alone.  `lookup`
resolves a path to the deepest value on the way, and `erase` takes away every node that is left
without value and without children.
-/

namespace Tollgate

universe u v

/-- The children of a node: each child's segment, value and own children, then the other children
in ascending order. -/
inductive Branches (α : Type u) where
  | nil
  | cons (segment : String) (value : Option α) (below : Branches α) (rest : Branches α)
  deriving DecidableEq, Repr

/-- A trie is a root node: its value and its children. -/
structure Trie (α : Type u) where
  value : Option α
  branches : Branches α
  deriving DecidableEq, Repr

namespace Branches

variable {α : Type u}

/-- The child under a segment. -/
def child? (segment : String) : Branches α → Option (Trie α)
  | nil => none
  | cons other value below rest =>
      if segment = other then some ⟨value, below⟩ else rest.child? segment

/-- Put a child under a segment, in place of the one that stands there. -/
def put (segment : String) (child : Trie α) : Branches α → Branches α
  | nil => cons segment child.value child.branches nil
  | cons other value below rest =>
      if segment = other then cons segment child.value child.branches rest
      else if segment < other then
        cons segment child.value child.branches (cons other value below rest)
      else cons other value below (rest.put segment child)

/-- Take away the child under a segment. -/
def drop (segment : String) : Branches α → Branches α
  | nil => nil
  | cons other value below rest =>
      if segment = other then rest else cons other value below (rest.drop segment)

/-- The number of nodes, at any depth. -/
def nodeCount : Branches α → Nat
  | nil => 0
  | cons _ _ below rest => 1 + below.nodeCount + rest.nodeCount

/-- Whether there are no children. -/
def isNil : Branches α → Bool
  | nil => true
  | cons .. => false

@[simp]
theorem child?_nil (segment : String) : (nil : Branches α).child? segment = none :=
  rfl

@[simp]
theorem child?_put_self (segment : String) (child : Trie α) (branches : Branches α) :
    (branches.put segment child).child? segment = some child := by
  induction branches with
  | nil => simp [put, child?]
  | cons other value below rest _ ih =>
      unfold put
      split
      · simp [child?]
      · split
        · simp [child?]
        · simp_all [child?]

theorem child?_put_of_ne {segment other : String} (distinct : other ≠ segment) (child : Trie α)
    (branches : Branches α) :
    (branches.put segment child).child? other = branches.child? other := by
  induction branches with
  | nil => simp [put, child?, distinct]
  | cons found value below rest _ ih =>
      unfold put
      split
      · simp_all [child?]
      · split
        · simp [child?, distinct]
        · simp [child?, ih]

end Branches

namespace Trie

variable {α : Type u}

/-- The trie that holds nothing. -/
def empty : Trie α :=
  ⟨none, .nil⟩

instance : Inhabited (Trie α) :=
  ⟨empty⟩

/-- Whether the root has neither value nor children. -/
def isEmpty (trie : Trie α) : Bool :=
  trie.value.isNone && trie.branches.isNil

/-- The number of nodes below the root. -/
def nodeCount (trie : Trie α) : Nat :=
  trie.branches.nodeCount

/-- The value stored at exactly these segments. -/
def get? (trie : Trie α) : List String → Option α
  | [] => trie.value
  | segment :: rest =>
      match trie.branches.child? segment with
      | none => none
      | some child => child.get? rest

/-- Store a value, with the nodes on the way; the value that it displaces comes along. -/
def insert (trie : Trie α) : List String → α → Option α × Trie α
  | [], value => (trie.value, { trie with value := some value })
  | segment :: rest, value =>
      let (displaced, child) := ((trie.branches.child? segment).getD empty).insert rest value
      (displaced, { trie with branches := trie.branches.put segment child })

/-- Change the value stored at exactly these segments, if there is one. -/
def modify (change : α → α) (trie : Trie α) : List String → Trie α
  | [] => { trie with value := trie.value.map change }
  | segment :: rest =>
      match trie.branches.child? segment with
      | none => trie
      | some child =>
          { trie with branches := trie.branches.put segment (child.modify change rest) }

/-- Remove the value stored at exactly these segments, and on the way back every node that is left
empty.  The root stays. -/
def erase (trie : Trie α) : List String → Option α × Trie α
  | [] => (trie.value, { trie with value := none })
  | segment :: rest =>
      match trie.branches.child? segment with
      | none => (none, trie)
      | some child =>
          let (removed, child) := child.erase rest
          let branches :=
            if child.isEmpty then trie.branches.drop segment
            else trie.branches.put segment child
          (removed, { trie with branches := branches })

/-- The value of the deepest node with one, walking down these segments as far as there are
nodes. -/
def deepest (trie : Trie α) : List String → Option α
  | [] => trie.value
  | segment :: rest =>
      match trie.branches.child? segment with
      | none => trie.value
      | some child => (child.deepest rest).or trie.value

/-- Resolve a path by its non-empty parts. -/
def lookup (trie : Trie α) (path : String) : Option α :=
  trie.deepest (Path.parts path)

@[simp]
theorem get?_empty (segments : List String) : (empty : Trie α).get? segments = none := by
  cases segments <;> rfl

@[simp]
theorem isEmpty_empty : (empty : Trie α).isEmpty = true :=
  rfl

/-- What was stored is found again. -/
@[simp]
theorem get?_insert_self (trie : Trie α) (segments : List String) (value : α) :
    (trie.insert segments value).2.get? segments = some value := by
  induction segments generalizing trie with
  | nil => rfl
  | cons segment rest ih => simp [insert, get?, ih]

/-- Storing hands back what was stored there before. -/
@[simp]
theorem insert_fst (trie : Trie α) (segments : List String) (value : α) :
    (trie.insert segments value).1 = trie.get? segments := by
  induction segments generalizing trie with
  | nil => rfl
  | cons segment rest ih =>
      simp only [insert, get?, ih]
      cases trie.branches.child? segment <;> simp

/-- Removing hands back what was stored there. -/
theorem erase_fst (trie : Trie α) (segments : List String) :
    (trie.erase segments).1 = trie.get? segments := by
  induction segments generalizing trie with
  | nil => rfl
  | cons segment rest ih =>
      rw [erase, get?]
      cases trie.branches.child? segment with
      | none => rfl
      | some child => exact ih child

end Trie

end Tollgate
