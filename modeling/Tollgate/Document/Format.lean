import Tollgate.Document.Ini
import Tollgate.Document.OfJson
import Tollgate.Document.Toml.Reader
import Tollgate.Document.Yaml.Reader
import Tollgate.Files

/-!
# Formats of documents

The extension of a file's name tells its format, in this very case; a file whose extension tells
nothing is read as YAML.
-/

namespace Tollgate

/-- The formats of documents. -/
inductive Format where
  | yaml
  | json
  | toml
  | ini
  deriving DecidableEq, Repr

namespace Format

/-- The extensions of a format. -/
def extensions : Format → List String
  | yaml => ["yaml", "yml"]
  | json => ["json"]
  | toml => ["toml"]
  | ini => ["ini"]

/-- The format that an extension tells. -/
def ofExtension? (extension : String) : Option Format :=
  [yaml, json, toml, ini].find? (·.extensions.contains extension)

/-- The format of the file at a path. -/
def ofPath (path : String) : Format :=
  ((Files.extension? path).bind ofExtension?).getD yaml

/-- A text without the mark of its byte order. -/
def unmarked (text : String) : String :=
  match text.toList with
  | '\uFEFF' :: rest => String.ofList rest
  | _ => text

/-- Read a text of a format. -/
def read? (format : Format) (text : String) : Option Document :=
  match format with
  | yaml => Document.readYaml? (unmarked text)
  | json => Document.readJson? (unmarked text)
  | toml => Document.readToml? (unmarked text)
  | ini => Document.readIni? (unmarked text)

end Format

/-- The paths at which a document may lie: where there is no file at the path itself, one counts
whose name has an extension of the format besides. -/
def Files.documentPaths (path : String) : List String :=
  let others := if (name? path).isSome then (Format.ofPath path).extensions else []
  path :: others.map (beside path)

/-- The text of the document at a path. -/
def Files.documentText? (files : Files) (path : String) : Option String :=
  (documentPaths path).findSome? files.text?

/-- The document at a path, if it is a table; the keys at its top are taken as paths. -/
def Files.document? (files : Files) (path : String) : Option Document := do
  match ← (Format.ofPath path).read? (← files.documentText? path) with
  | .table entries => return (Document.table entries).expand
  | _ => none

end Tollgate
