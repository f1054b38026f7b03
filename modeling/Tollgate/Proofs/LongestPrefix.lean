import Tollgate.Proofs.Segments
import Tollgate.Proofs.Trie
import Mathlib.Data.List.Induction

/-!
# Longest stored prefixes

Which of some addresses a path belongs to is said here without a trie: the longest one that the
path begins with.  A trie whose addresses these are resolves the path to the value of that one.
-/

namespace Tollgate

universe u

namespace Path

/-- The longest of some addresses that a path begins with. -/
def longestPrefix? (addresses : List (List String)) (path : List String) : Option (List String) :=
  path.inits.reverse.find? (· ∈ addresses)

theorem longestPrefix?_eq_none_iff {addresses : List (List String)} {path : List String} :
    longestPrefix? addresses path = none ↔ ∀ address ∈ addresses, ¬address <+: path := by
  simp only [longestPrefix?, List.find?_eq_none, List.mem_reverse, List.mem_inits,
    decide_eq_true_eq]
  constructor
  · intro missed address member begins
    exact missed address begins member
  · intro missed address begins member
    exact missed address member begins

theorem longestPrefix?_concat (addresses : List (List String)) (path : List String)
    (segment : String) :
    longestPrefix? addresses (path ++ [segment]) =
      if path ++ [segment] ∈ addresses then some (path ++ [segment])
      else longestPrefix? addresses path := by
  have shape : (path ++ [segment]).inits.reverse =
      (path ++ [segment]) :: path.inits.reverse := by
    simp [List.inits_append]
  rw [longestPrefix?, shape, List.find?_cons]
  by_cases member : path ++ [segment] ∈ addresses
  · simp [member]
  · simp [member, longestPrefix?]

theorem longestPrefix?_spec {addresses : List (List String)} {path address : List String}
    (found : longestPrefix? addresses path = some address) :
    address ∈ addresses ∧ address <+: path ∧
      ∀ other ∈ addresses, other <+: path → other.length ≤ address.length := by
  induction path using List.reverseRecOn with
  | nil =>
      have here : [] ∈ addresses ∧ [] = address := by
        simpa [longestPrefix?, List.find?_cons_eq_some] using found
      rcases here with ⟨member, rfl⟩
      refine ⟨member, List.prefix_rfl, ?_⟩
      intro other _ begins
      exact begins.length_le
  | append_singleton path segment ih =>
      rw [longestPrefix?_concat] at found
      split at found
      · next member =>
        cases found
        refine ⟨member, List.prefix_rfl, ?_⟩
        intro other _ begins
        exact begins.length_le
      · next absent =>
        rcases ih found with ⟨member, begins, longest⟩
        refine ⟨member, begins.trans (List.prefix_append path [segment]), ?_⟩
        intro other otherMember otherBegins
        rcases List.prefix_concat_iff.mp otherBegins with rfl | shorter
        · exact absurd otherMember absent
        · exact longest other otherMember shorter

/-- The longest prefix is the one address on the path that no other exceeds. -/
theorem longestPrefix?_eq_some_iff {addresses : List (List String)} {path address : List String} :
    longestPrefix? addresses path = some address ↔
      address ∈ addresses ∧ address <+: path ∧
        ∀ other ∈ addresses, other <+: path → other.length ≤ address.length := by
  constructor
  · exact longestPrefix?_spec
  · rintro ⟨member, begins, longest⟩
    cases found : longestPrefix? addresses path with
    | none => exact absurd begins (longestPrefix?_eq_none_iff.mp found address member)
    | some other =>
        rcases longestPrefix?_spec found with ⟨otherMember, otherBegins, otherLongest⟩
        have lengths : other.length = address.length :=
          Nat.le_antisymm (longest other otherMember otherBegins)
            (otherLongest address member begins)
        have shorter : other <+: address :=
          List.prefix_of_prefix_length_le otherBegins begins lengths.le
        rw [shorter.eq_of_length lengths]

end Path

namespace Trie

variable {α : Type u}

private theorem findSome?_eq_bind_find? (answer : List String → Option α)
    (candidates : List (List String)) :
    candidates.findSome? answer =
      (candidates.find? fun candidate => (answer candidate).isSome).bind answer := by
  induction candidates with
  | nil => rfl
  | cons candidate rest ih =>
      rw [List.findSome?_cons, List.find?_cons]
      cases answered : answer candidate with
      | none => simpa using ih
      | some value => simp [answered]

/-- A path resolves to the value at its longest stored prefix. -/
theorem lookup_eq_bind (trie : Trie α) {addresses : List (List String)}
    (stored : ∀ address, (trie.get? address).isSome ↔ address ∈ addresses) (path : String) :
    trie.lookup path = (Path.longestPrefix? addresses (Path.parts path)).bind trie.get? := by
  rw [lookup, deepest_eq_findSome?, findSome?_eq_bind_find?, Path.longestPrefix?]
  have same : (fun candidate => (trie.get? candidate).isSome) =
      fun candidate => decide (candidate ∈ addresses) := by
    funext candidate
    rw [Bool.eq_iff_iff, stored, decide_eq_true_eq]
  rw [same]

theorem lookup_eq_some_iff {trie : Trie α} {addresses : List (List String)}
    (stored : ∀ address, (trie.get? address).isSome ↔ address ∈ addresses) {path : String}
    {value : α} :
    trie.lookup path = some value ↔
      ∃ address, address <+: Path.parts path ∧ trie.get? address = some value ∧
        ∀ other, other <+: Path.parts path → (trie.get? other).isSome →
          other.length ≤ address.length := by
  rw [trie.lookup_eq_bind stored, Option.bind_eq_some_iff]
  simp only [Path.longestPrefix?_eq_some_iff, ← stored]
  constructor
  · rintro ⟨address, ⟨_, begins, longest⟩, found⟩
    exact ⟨address, begins, found, fun other begins held => longest other held begins⟩
  · rintro ⟨address, begins, found, longest⟩
    refine ⟨address, ⟨Option.isSome_of_mem found, begins, ?_⟩, found⟩
    exact fun other held begins => longest other begins held

theorem lookup_eq_none_iff {trie : Trie α} {addresses : List (List String)}
    (stored : ∀ address, (trie.get? address).isSome ↔ address ∈ addresses) {path : String} :
    trie.lookup path = none ↔
      ∀ address, address <+: Path.parts path → trie.get? address = none := by
  rw [trie.lookup_eq_bind stored]
  cases found : Path.longestPrefix? addresses (Path.parts path) with
  | none =>
      rw [Option.bind_none]
      refine iff_of_true rfl fun address begins => ?_
      rw [← Option.not_isSome_iff_eq_none, stored]
      exact fun member => Path.longestPrefix?_eq_none_iff.mp found address member begins
  | some deepest =>
      obtain ⟨member, begins, _⟩ := Path.longestPrefix?_spec found
      have held : trie.get? deepest ≠ none := by
        rw [← Option.isSome_iff_ne_none, stored]
        exact member
      rw [Option.bind_some]
      exact iff_of_false held fun silent => held (silent deepest begins)

end Trie

end Tollgate
