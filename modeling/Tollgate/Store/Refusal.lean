import Tollgate.Manifest

/-!
# Refused writes

Misses are never errors: looking up or deleting what is not there finds nothing.  A write is
refused only for the causes below, and leaves every store as it was.
-/

namespace Tollgate

/-- Why a store refuses a write. -/
inductive Refusal where
  /-- A route would move into a slot that another route holds. -/
  | slotTaken (path host : String) (owner : ResourceName)
  /-- A mock target without routes. -/
  | emptyMockTarget (target : ResourceName)
  /-- The removal of a credential without revisions. -/
  | noRevisions (credential : ResourceName)
  /-- An update that pairs resources of different kinds. -/
  | kindMismatch (old new : Kind)
  deriving DecidableEq, Repr

namespace Refusal

/-- The text of a refusal. -/
def message : Refusal → String
  | slotTaken path host owner =>
      "route slot " ++ path ++ " (host '" ++ host ++ "') is owned by " ++ owner.text
  | emptyMockTarget target => "mock target " ++ target.text ++ " has no routes"
  | noRevisions credential => "credential " ++ credential.text ++ " has no revisions"
  | kindMismatch old new => "cannot update a " ++ old.word ++ " with a " ++ new.word

end Refusal

end Tollgate
