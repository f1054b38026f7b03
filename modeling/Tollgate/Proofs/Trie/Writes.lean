import Tollgate.Proofs.LongestPrefix
import Tollgate.Proofs.Segments
import Tollgate.Proofs.Trie.Nodes

/-!
# Writes to a trie

A sequence of writes acts on a trie as on a flat map from addresses to values.  The map knows no
nodes; a trie that grew from nothing answers as the map that grew with it, has the nodes that the
stored addresses call for and no others, and resolves a path to the longest address on the way.
-/

namespace Tollgate

universe u

namespace Trie

variable {α : Type u}

/-- A write at an address: a value is stored, removed, or changed in place. -/
inductive Write (α : Type u) where
  | insert (address : List String) (value : α)
  | erase (address : List String)
  | modify (change : α → α) (address : List String)

/-- The address that a write is about. -/
def Write.address : Write α → List String
  | .insert address _ => address
  | .erase address => address
  | .modify _ address => address

/-- The trie after a write. -/
def write (trie : Trie α) : Write α → Trie α
  | .insert address value => (trie.insert address value).2
  | .erase address => (trie.erase address).2
  | .modify change address => trie.modify change address

/-- The trie after writes one after the other. -/
def writeAll (trie : Trie α) (writes : List (Write α)) : Trie α :=
  writes.foldl write trie

/-- The flat map after a write. -/
def Write.enter (map : Dict (List String) α) : Write α → Dict (List String) α
  | .insert address value => map.insert address value
  | .erase address => map.erase address
  | .modify change address =>
      match map.get? address with
      | none => map
      | some value => map.insert address (change value)

/-- What writes one after the other leave in a flat map. -/
def contents (writes : List (Write α)) : Dict (List String) α :=
  writes.foldl Write.enter .empty

theorem Write.get?_enter_of_ne (write : Write α) (map : Dict (List String) α)
    {other : List String} (apart : other ≠ write.address) :
    (write.enter map).get? other = map.get? other := by
  cases write with
  | insert address value => exact (map.get?_insert address other value).trans (if_neg apart)
  | erase address => exact (map.get?_erase address other).trans (if_neg apart)
  | modify change address =>
      rw [enter]
      cases map.get? address with
      | none => rfl
      | some value =>
          exact (map.get?_insert address other (change value)).trans (if_neg apart)

/-- A trie in canonical form with the answers of a map. -/
structure Mirrors (trie : Trie α) (map : Dict (List String) α) : Prop where
  canonical : trie.Canonical
  answers : ∀ address, trie.get? address = map.get? address

theorem mirrors_empty : (empty : Trie α).Mirrors .empty where
  canonical := canonical_empty
  answers := get?_empty

namespace Mirrors

variable {trie : Trie α} {map : Dict (List String) α}

/-- A write to a trie is the same write to the map. -/
theorem write (mirrors : trie.Mirrors map) (write : Write α) :
    (trie.write write).Mirrors (write.enter map) := by
  rcases mirrors with ⟨canonical, answers⟩
  cases write with
  | insert address value =>
      refine ⟨canonical.insert address value, fun other => ?_⟩
      rw [Trie.write, get?_insert, Write.enter, Dict.get?_insert, answers]
  | erase address =>
      refine ⟨canonical.erase address, fun other => ?_⟩
      rw [Trie.write, canonical.get?_erase, Write.enter, Dict.get?_erase, answers]
  | modify change address =>
      refine ⟨canonical.modify change address, fun other => ?_⟩
      rw [Trie.write, get?_modify, answers, Write.enter]
      cases held : map.get? address with
      | none =>
          split
          · next here => rw [here, held, Option.map_none]
          · rfl
      | some value =>
          rw [Dict.get?_insert]
          split
          · next here => rw [here, held, Option.map_some]
          · rfl

/-- The stored addresses are the keys of the map. -/
theorem stored (mirrors : trie.Mirrors map) (address : List String) :
    (trie.get? address).isSome ↔ address ∈ map.entries.map Prod.fst := by
  rw [mirrors.answers, Option.isSome_iff_exists]
  simp [Dict.get?_eq_some_iff]

/-- A write away from the segments of a path does not show in its lookup. -/
theorem lookup_write_of_astray (mirrors : trie.Mirrors map) (write : Write α) {path : String}
    (astray : ¬write.address <+: Path.parts path) :
    (trie.write write).lookup path = trie.lookup path := by
  have same : ∀ address, address <+: Path.parts path →
      (trie.write write).get? address = trie.get? address := by
    intro address begins
    rw [(mirrors.write write).answers, mirrors.answers, write.get?_enter_of_ne]
    rintro rfl
    exact astray begins
  apply Option.ext
  intro value
  rw [lookup_eq_some_iff (mirrors.write write).stored, lookup_eq_some_iff mirrors.stored]
  refine exists_congr fun address => and_congr_right fun begins => ?_
  rw [same address begins]
  refine and_congr_right fun _ => forall₂_congr fun other otherBegins => ?_
  rw [same other otherBegins]

end Mirrors

/-- A trie that grew from nothing answers as the map that grew with it. -/
theorem mirrors_writeAll (writes : List (Write α)) :
    (empty.writeAll writes).Mirrors (contents writes) := by
  induction writes using List.reverseRecOn with
  | nil => exact mirrors_empty
  | append_singleton writes last ih =>
      rw [writeAll, contents, List.foldl_concat, List.foldl_concat]
      exact ih.write last

/-- After whatever writes, at whatever addresses, a trie answers as the flat map: to a query, with
what the next write displaces or removes, and after a change in place.  Every node below the root
has a value or a child, there are as many of them as the stored addresses have non-empty prefixes,
and the trie is empty exactly when nothing is stored.  Writes that leave the same map behind leave
the same trie behind. -/
theorem writeAll_mirrors_map (writes : List (Write α)) :
    (∀ address, (empty.writeAll writes).get? address = (contents writes).get? address) ∧
      (∀ address value,
        ((empty.writeAll writes).insert address value).1 = (contents writes).get? address) ∧
      (∀ address, ((empty.writeAll writes).erase address).1 = (contents writes).get? address) ∧
      (∀ change address other,
        ((empty.writeAll writes).modify change address).get? other =
          if other = address then ((contents writes).get? other).map change
          else (contents writes).get? other) ∧
      (∀ segment rest node, (empty.writeAll writes).node? (segment :: rest) = some node →
        node.value.isSome ∨ ∃ next, (node.branches.child? next).isSome) ∧
      (empty.writeAll writes).nodeCount =
        (Path.prefixes ((contents writes).entries.map Prod.fst)).card ∧
      ((empty.writeAll writes).isEmpty = true ↔
        ∀ address, (contents writes).get? address = none) ∧
      ∀ others : List (Write α),
        (∀ address, (contents others).get? address = (contents writes).get? address) →
          empty.writeAll others = empty.writeAll writes := by
  have mirrors := mirrors_writeAll writes
  have canonical := mirrors.canonical
  have answers := mirrors.answers
  refine ⟨answers, ?_, ?_, ?_, ?_, canonical.nodeCount_eq mirrors.stored, ?_, ?_⟩
  · intro address value
    rw [insert_fst, answers]
  · intro address
    rw [erase_fst, answers]
  · intro change address other
    rw [get?_modify, answers]
  · intro segment rest node found
    exact isEmpty_eq_false_iff.mp (canonical.node? found).2
  · rw [canonical.isEmpty_eq_true_iff]
    simp only [answers]
  · intro others same
    obtain ⟨canonicalOther, answersOther⟩ := mirrors_writeAll others
    apply canonicalOther.ext canonical
    intro address
    rw [answersOther, same, answers]

/-- Writes at the root, at empty segments and across a slash, with chains that are pruned again. -/
def grown : List (Write Nat) :=
  [.insert ["a", "b", "c"] 1, .insert [] 2, .insert ["a", ""] 3, .modify (· + 4) ["a", ""],
    .erase ["a", "b", "c"], .erase ["a", "x"], .insert ["u/v"] 5, .modify (· * 2) ["q"],
    .insert ["a", "b"] 6]

/-- What they leave behind, stored at once. -/
def regrown : List (Write Nat) :=
  [.insert [] 2, .insert ["a", ""] 7, .insert ["u/v"] 5, .insert ["a", "b"] 6]

/-- Both leave the same trie behind, in which one node has children alone. -/
theorem writeAll_mirrors_map_regrown :
    (∀ address, (contents regrown).get? address = (contents grown).get? address) ∧
      empty.writeAll regrown = empty.writeAll grown ∧
      (empty.writeAll grown).nodeCount = 4 ∧
      ∃ node, (empty.writeAll grown).node? ["a"] = some node ∧ node.value.isNone ∧
        ∃ next, (node.branches.child? next).isSome := by
  have same : contents regrown = contents grown := by rfl
  have alike : ∀ address, (contents regrown).get? address = (contents grown).get? address := by
    intro address
    rw [same]
  obtain ⟨_, _, _, _, useful, counted, _, determined⟩ := writeAll_mirrors_map grown
  have found : (empty.writeAll grown).node? ["a"] =
      some ⟨none, .cons "" (some 7) .nil (.cons "b" (some 6) .nil .nil)⟩ := by
    decide +kernel
  refine ⟨alike, determined regrown alike, counted.trans (by decide +kernel), _, found, rfl, ?_⟩
  exact (useful "a" [] _ found).resolve_left (by simp)

/-- After whatever writes, at whatever addresses, a path leads to the value at the longest prefix of
its words that holds one, and nowhere exactly when no prefix does.  An address with an empty segment
or with a slash in a segment is never such a prefix, and no write at it shows in any lookup. -/
theorem lookup_writeAll (writes : List (Write α)) (path : String) :
    (∀ value, (empty.writeAll writes).lookup path = some value ↔
        ∃ address, address <+: Path.words path ∧
          (empty.writeAll writes).get? address = some value ∧
          ∀ other, other <+: Path.words path → ((empty.writeAll writes).get? other).isSome →
            other.length ≤ address.length) ∧
      ((empty.writeAll writes).lookup path = none ↔
        ∀ address, address <+: Path.words path → (empty.writeAll writes).get? address = none) ∧
      ∀ write : Write α, (∃ segment ∈ write.address, segment = "" ∨ '/' ∈ segment.toList) →
        ¬write.address <+: Path.words path ∧
          ((empty.writeAll writes).write write).lookup path =
            (empty.writeAll writes).lookup path := by
  have mirrors := mirrors_writeAll writes
  rw [← Path.parts_eq_words]
  refine ⟨fun value => lookup_eq_some_iff mirrors.stored, lookup_eq_none_iff mirrors.stored, ?_⟩
  rintro write ⟨segment, member, flawed⟩
  have astray : ¬write.address <+: Path.parts path := by
    intro begins
    obtain ⟨nonempty, whole⟩ := Path.part_spells (begins.subset member)
    rcases flawed with blank | slashed
    · exact nonempty (by rw [blank]; rfl)
    · exact whole slashed
  exact ⟨astray, mirrors.lookup_write_of_astray write astray⟩

/-- A path across `a` and `b` finds the value there; one beside the stored addresses falls back to
the root, and neither sees what is written across a slash or at an empty segment. -/
theorem lookup_writeAll_grown :
    (empty.writeAll grown).lookup "//a/b//c" = some 6 ∧
      (empty.writeAll grown).lookup "u/v/w" = some 2 ∧
      ((empty.writeAll grown).write (.erase ["a", ""])).lookup "/a//b" =
        (empty.writeAll grown).lookup "/a//b" ∧
      ((empty.writeAll grown).write (.insert ["u/v", "w"] 8)).lookup "u/v/w" = some 2 := by
  have deep : (empty.writeAll grown).lookup "//a/b//c" = some 6 := by
    decide +kernel
  have root : (empty.writeAll grown).lookup "u/v/w" = some 2 := by
    decide +kernel
  have blank := (lookup_writeAll grown "/a//b").2.2 (.erase ["a", ""]) ⟨"", by decide, .inl rfl⟩
  have slashed := (lookup_writeAll grown "u/v/w").2.2 (.insert ["u/v", "w"] 8)
    ⟨"u/v", by decide, .inr (by decide)⟩
  exact ⟨deep, root, blank.2, slashed.2.trans root⟩

end Trie

end Tollgate
