import Tollgate.Document.Format
import Tollgate.Document.Lenient
import Tollgate.Schema.Decode

/-!
# Loading manifests and settings

A file is read as a document, the document as a manifest or as settings, and the credentials of a
manifest are opened.  The first of these steps that fails gives the fault.
-/

namespace Tollgate

/-- Why nothing was loaded. -/
inductive LoadFault where
  /-- There is no such file, or it is no table of its format. -/
  | unreadable (path : String)
  /-- The document is of the wrong shape. -/
  | misshapen (path : String)
  /-- A credential does not open. -/
  | closed (path : String) (fault : SealFault)
  /-- The path names no file. -/
  | nameless (path : String)
  /-- There is no directory to watch. -/
  | unwatched
  deriving DecidableEq, Repr

namespace LoadFault

/-- The text of the fault. -/
def message : LoadFault → String
  | unreadable path => "Failed to build config from " ++ path
  | misshapen path => "Failed to deserialize " ++ path
  | closed path _ => "Failed to decrypt credentials in " ++ path
  | nameless path => "Invalid manifest path: " ++ path
  | unwatched => "Failed to watch manifest directory"

/-- The text of what lies behind the fault. -/
def cause? : LoadFault → Option String
  | closed _ fault => some fault.message
  | _ => none

/-- The text of the fault with its cause. -/
def report (fault : LoadFault) : String :=
  match fault.cause? with
  | none => fault.message
  | some cause => fault.message ++ ": " ++ cause

end LoadFault

namespace Files

/-- Load the file at a path with a decoder. -/
def load {α : Type} (files : Files) (decode : Document → Option α) (path : String) :
    Except LoadFault α :=
  match files.document? path with
  | none => .error (.unreadable path)
  | some document =>
      match decode document with
      | none => .error (.misshapen path)
      | some value => .ok value

/-- Load settings. -/
def settings (files : Files) (path : String) : Except LoadFault Settings :=
  files.load Document.lenient.settings? path

/-- Load a manifest, its credentials still sealed. -/
def sealedManifest (files : Files) (path : String) : Except LoadFault Manifest :=
  files.load Document.lenient.manifest? path

/-- Load a manifest and open its credentials. -/
def manifest (files : Files) (decrypt : Decryptor) (path : String) :
    Except LoadFault Manifest := do
  let sealed ← files.sealedManifest path
  match sealed.reveal decrypt with
  | .ok opened => return opened
  | .error fault => throw (.closed path fault)

end Files

end Tollgate
