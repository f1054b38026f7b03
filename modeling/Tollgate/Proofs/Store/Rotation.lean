import Tollgate.Proofs.Store.Keyring

/-!
# Rotations

A rotation is meant to come to the difference between two sets of values: what the new version
lists leads to it, what only the old version lists leads nowhere, and all else stays.  The walk
behind it takes one occurrence at a time, so a value that the old version lists more often than
the new one is dropped with its last occurrence, although the new version lists it.
-/

namespace Tollgate

namespace Keyring

/-- The keyring after a replacement of one version of a credential by the next, if only the sets of
their values count. -/
structure Exchanges (before after : Keyring) (old new : Credential) : Prop where
  issued : ∀ value ∈ new.revisions, after.get? value = some new
  dropped : ∀ value ∈ old.revisions, value ∉ new.revisions → after.get? value = none
  kept : ∀ value, value ∉ old.revisions → value ∉ new.revisions →
    after.get? value = before.get? value

variable (keys : Keyring) {old new : Credential} {value : String}

/-- A value of the new version leads to it, unless the old version lists it more often. -/
theorem get?_update_of_listed (listed : value ∈ new.revisions) :
    (keys.update old new).get? value =
      if old.revisions.count value ≤ new.revisions.count value then some new else none := by
  rw [get?_update, if_pos listed]
  by_cases enough : old.revisions.count value ≤ new.revisions.count value
  · rw [if_pos enough, if_neg (Nat.not_lt.mpr enough)]
  · rw [if_neg enough, if_pos (Nat.lt_of_not_le enough)]

/-- Any other value is dropped when the old version lists it, and stays as it was otherwise. -/
theorem get?_update_of_unlisted (unlisted : value ∉ new.revisions) :
    (keys.update old new).get? value =
      if value ∈ old.revisions then none else keys.get? value := by
  rw [get?_update, if_neg unlisted, List.count_eq_zero.mpr unlisted]
  simp only [List.count_pos_iff]

variable (old new)

/-- An update comes to the difference of the two sets of values exactly when the old version lists
no value of the new one more often than the new one does. -/
theorem update_exchanges_iff :
    keys.Exchanges (keys.update old new) old new ↔
      ∀ value ∈ new.revisions, old.revisions.count value ≤ new.revisions.count value := by
  constructor
  · intro exchanges value listed
    have issued := exchanges.issued value listed
    rw [get?_update_of_listed keys listed] at issued
    by_contra more
    rw [if_neg more] at issued
    contradiction
  · intro enough
    refine ⟨?_, ?_, ?_⟩
    · intro value listed
      rw [get?_update_of_listed keys listed, if_pos (enough value listed)]
    · intro value member unlisted
      rw [get?_update_of_unlisted keys unlisted, if_pos member]
    · intro value absent unlisted
      rw [get?_update_of_unlisted keys unlisted, if_neg absent]

/-- A value that one version lists twice and the next one once is lost. -/
theorem update_loses_repeated :
    ¬∀ (keys : Keyring) (old new : Credential), keys.Exchanges (keys.update old new) old new := by
  intro claim
  have exchanges := claim (empty.set ⟨⟨"default", "a"⟩, ["x", "x"]⟩)
    ⟨⟨"default", "a"⟩, ["x", "x"]⟩ ⟨⟨"default", "a"⟩, ["x"]⟩
  have listed : "x" ∈ (⟨⟨"default", "a"⟩, ["x"]⟩ : Credential).revisions := List.mem_singleton_self _
  have issued := exchanges.issued "x" listed
  rw [get?_update_of_listed _ listed, if_neg (by decide)] at issued
  contradiction

end Keyring

end Tollgate
