import Tollgate.Proofs.Segments
import Tollgate.Proofs.Trie

/-!
# Spellings and addresses

A path is written into a trie under the segments of its normal spelling and looked up by a walk
along the raw text.  Both are the words between its slashes, so the spellings of one path share an
address and the normal spelling stands for all of them.
-/

namespace Tollgate

universe u

/-- The segments of a path are its words, and the normal spelling reads back as them.  It is its own
normal spelling, begins with a slash, doubles none and ends in one for the root alone.  Two paths
share it exactly when they have the same segments; then a value that is stored at the segments of
one is what the other leads to, whatever else the trie holds. -/
theorem Path.normalize_addresses (path : String) :
    normalizedSegments path = words path ∧
      segments (normalize path) = words path ∧
      normalize (normalize path) = normalize path ∧
      (∃ rest, (normalize path).toList = '/' :: rest) ∧
      ¬['/', '/'] <:+: (normalize path).toList ∧
      "" ∉ segments (normalize path) ∧
      ((normalize path).toList.getLast? = some '/' ↔ normalize path = "/") ∧
      ∀ other : String,
        (normalize path = normalize other ↔
          normalizedSegments path = normalizedSegments other) ∧
        (normalize path = normalize other → ∀ {α : Type u} (trie : Trie α) (value : α),
          (trie.insert (normalizedSegments path) value).2.lookup other = some value) := by
  have read : normalizedSegments path = parts path := normalizedSegments_eq_parts path
  have cut : parts path = words path := parts_eq_words path
  refine ⟨read.trans cut, read.trans cut, normalize_normalize path, exists_toList_normalize path,
    not_doubled_normalize path, ?_, normalize_ends_in_slash_iff path, ?_⟩
  · intro blank
    have listed : "" ∈ parts path := read ▸ blank
    exact (part_spells listed).1 rfl
  · refine fun other => ⟨normalize_eq_iff, fun same α trie value => ?_⟩
    rw [Trie.lookup, read, parts_eq_of_normalize_eq same]
    exact Trie.deepest_of_get? (trie.get?_insert_self (parts other) value)

/-- Two spellings with idle slashes meet. -/
theorem Path.normalize_addresses_respelled :
    normalize "//api///v1/" = normalize "api/v1" ∧
      (((Trie.empty : Trie Nat).insert (normalizedSegments "//api///v1/") 1).2.lookup "api/v1" =
        some 1) := by
  have same : normalize "//api///v1/" = normalize "api/v1" := by
    decide +kernel
  have addresses := normalize_addresses "//api///v1/"
  exact ⟨same, (addresses.2.2.2.2.2.2.2 "api/v1").2 same .empty 1⟩

end Tollgate
