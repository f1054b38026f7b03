import Tollgate.Dict
import Tollgate.Store.Refusal

/-!
# Credentials by value

Each revision value of a credential leads to the credential.  A rotation walks the sorted old and
new values side by side: a value in both is refreshed in place and never missing in between, a
value in the old list alone is dropped, and one in the new list alone is added.
-/

namespace Tollgate

/-- The credentials of a gateway by their revision values. -/
structure Keyring where
  values : Dict String Credential

namespace Keyring

/-- No credentials. -/
def empty : Keyring :=
  ⟨.empty⟩

instance : Inhabited Keyring :=
  ⟨empty⟩

/-- Let a value lead to a credential. -/
def register (keys : Keyring) (value : String) (credential : Credential) : Keyring :=
  ⟨keys.values.insert value credential⟩

/-- Let a value lead nowhere. -/
def revoke (keys : Keyring) (value : String) : Keyring :=
  ⟨keys.values.erase value⟩

/-- Register every revision of a credential. -/
def set (keys : Keyring) (credential : Credential) : Keyring :=
  credential.revisions.foldl (fun keys value => keys.register value credential) keys

/-- Values in ascending order, repetitions kept. -/
def ascending (values : List String) : List String :=
  values.mergeSort (· ≤ ·)

/-- Walk two ascending lists of values side by side, one occurrence at a time, dropping what only
the old one has and registering what the new one has. -/
def rotate (keys : Keyring) (credential : Credential) : List String → List String → Keyring
  | [], [] => keys
  | old :: olds, [] => (keys.revoke old).rotate credential olds []
  | [], new :: news => (keys.register new credential).rotate credential [] news
  | old :: olds, new :: news =>
      if old = new then (keys.register new credential).rotate credential olds news
      else if old < new then (keys.revoke old).rotate credential olds (new :: news)
      else (keys.register new credential).rotate credential (old :: olds) news

/-- Replace a credential by its next version. -/
def update (keys : Keyring) (old new : Credential) : Keyring :=
  keys.rotate new (ascending old.revisions) (ascending new.revisions)

/-- The credential that a value identifies. -/
def get? (keys : Keyring) (value : String) : Option Credential :=
  keys.values.get? value

/-- Revoke values in turn; the first credential found under one of them comes along. -/
def revokeAll (keys : Keyring) : List String → Option Credential × Keyring
  | [] => (none, keys)
  | value :: rest =>
      let (later, remaining) := (keys.revoke value).revokeAll rest
      ((keys.get? value).or later, remaining)

/-- Remove every revision of a credential, which must have one. -/
def delete (keys : Keyring) (credential : Credential) :
    Except Refusal (Option Credential × Keyring) :=
  if credential.revisions = [] then .error (.noRevisions credential.id)
  else .ok (keys.revokeAll credential.revisions)

/-- The number of registered values. -/
def size (keys : Keyring) : Nat :=
  keys.values.size

end Keyring

end Tollgate
