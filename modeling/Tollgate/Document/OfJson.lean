import Tollgate.Document.Basic
import Tollgate.Json.Reader
import Tollgate.Schema.Strict

/-!
# JSON documents

Of a repeated key the last value stays.  A document must be whole, down to the numbers and strings
that nothing asks for.
-/

namespace Tollgate.Document

/-- A number: an integer of 64 bits, else a double. -/
def ofNumber (number : Json.Number) : Document :=
  match number.word?, number.float? with
  | some value, _ => .int value
  | none, some value => .float value
  | none, none => .null

mutual

/-- The document that a whole value denotes. -/
def ofJson : Json → Document
  | .null => .null
  | .bool value => .bool value
  | .number value => ofNumber value
  | .string value => .text (value.getD "")
  | .array elements => .list (ofElements elements)
  | .object members => tableOf (ofMembers members)

/-- The documents that elements denote. -/
def ofElements : List Json → List Document
  | [] => []
  | element :: rest => ofJson element :: ofElements rest

/-- The entries that members denote. -/
def ofMembers : List (Option String × Json) → List (String × Document)
  | [] => []
  | (key, value) :: rest => (key.getD "", ofJson value) :: ofMembers rest

end

/-- Read a JSON document. -/
def readJson? (text : String) : Option Document := do
  let value ← Json.read? text
  if value.isWhole && value.height ≤ Json.heightLimit then return ofJson value else none

end Tollgate.Document
