import Tollgate.Resource.Name

/-!
# Credentials

A credential has any number of revisions, each a secret value that identifies its holder.  A
sealed credential opens only when none of them is empty, so that no blank value ever
authenticates.
-/

namespace Tollgate

/-- A credential with its revision values, all of them valid at once. -/
structure Credential where
  id : ResourceName
  revisions : List String := []
  deriving DecidableEq, Repr, Inhabited

/-- The revision of a credential that does not open, by its position. -/
structure SealFault where
  credential : ResourceName
  position : Nat
  deriving DecidableEq, Repr

namespace SealFault

/-- The text of the fault. -/
def message (fault : SealFault) : String :=
  "cannot decrypt revision " ++ toString fault.position ++ " of credential "
    ++ fault.credential.text ++ ": empty value"

end SealFault

/-- A way to open a sealed credential, or to say which of its revisions does not open. -/
abbrev Decryptor :=
  Credential → Except SealFault Credential

namespace Credential

/-- Open a credential whose values are sealed in plain text: the first empty one is refused. -/
def reveal (sealed : Credential) : Except SealFault Credential :=
  match sealed.revisions.findIdx? (· = "") with
  | some position => .error ⟨sealed.id, position⟩
  | none => .ok sealed

theorem reveal_eq_ok_iff {sealed opened : Credential} :
    sealed.reveal = .ok opened ↔ opened = sealed ∧ "" ∉ sealed.revisions := by
  unfold reveal
  split
  · next position found =>
    obtain ⟨inside, empty, _⟩ := List.findIdx?_eq_some_iff_getElem.1 found
    have member : "" ∈ sealed.revisions := by
      simpa [of_decide_eq_true empty] using List.getElem_mem inside
    simp [member]
  · next none =>
    simp only [List.findIdx?_eq_none_iff, decide_eq_false_iff_not] at none
    simp only [Except.ok.injEq]
    exact ⟨fun same => ⟨same.symm, fun member => none _ member rfl⟩, fun h => h.1.symm⟩

end Credential

end Tollgate
