import Tollgate.Source.Load

/-!
# Sources

A source stands for the manifest file of a gateway, together with the way to open the credentials
in it.  It keeps the manifest that it took in last, so that a reload yields the events that lead
from there to what the file says now.  A reload that fails leaves the source as it was.
-/

namespace Tollgate

/-- A manifest file, and what was last taken from it. -/
structure Source where
  path : String
  decrypt : Decryptor := Credential.reveal
  current : Manifest := .empty
  /-- Whether somebody receives the signals of its changes. -/
  isWatched : Bool := false

namespace Source

/-- A source for a path, which has to name a file in a directory that is there.  The file itself
may be missing. -/
def start (files : Files) (path : String) : Except LoadFault Source :=
  if (Files.name? path).isNone then .error (.nameless path)
  else if files.has (Files.parent path) then .ok { path }
  else .error .unwatched

/-- The manifest that the file holds. -/
def load (source : Source) (files : Files) : Except LoadFault Manifest :=
  files.manifest source.decrypt source.path

/-- Take in the manifest that the file holds, and tell what has changed. -/
def reload (source : Source) (files : Files) : Except LoadFault (List Event × Source) := do
  let next ← source.load files
  return (source.current.diff next, { source with current := next })

/-- Ask for the signals of changes.  Only who asks first receives them. -/
def watch (source : Source) : Bool × Source :=
  (!source.isWatched, { source with isWatched := true })

end Source

end Tollgate
