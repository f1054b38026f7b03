import Tollgate.Decimal.Reader
import Tollgate.Document.Basic

/-!
# Nodes of YAML

Plain scalars denote what the core schema says; quoted and block scalars, and scalars with a tag of
no known meaning, are texts.  The keys of a table are scalars other than null, and no key stands
twice.
-/

namespace Tollgate.Document.Yaml

/-- What a scalar denotes.  A real keeps its text, by which it serves as a key. -/
inductive Scalar where
  | null
  | bool (value : Bool)
  | int (value : Int)
  | real (text : String)
  | text (value : String)
  deriving DecidableEq, Repr

/-- A node: a scalar, a list or a table. -/
inductive Node where
  | scalar (value : Scalar)
  | list (items : List Node)
  | table (entries : List (Scalar × Node))
  deriving Inhabited

/-- The node of nothing at all. -/
def Node.null : Node :=
  .scalar .null

/-- What a tag asks of a plain scalar. -/
inductive Tag where
  /-- A tag of the core schema, by its name. -/
  | core (name : String)
  /-- Any other tag. -/
  | other
  deriving DecidableEq, Repr

/-- Whether a number fits 64 bits with a sign. -/
def fits64 (value : Int) : Bool :=
  -Int.pow 2 63 ≤ value && value < Int.pow 2 63

/-- An integer to a base behind the mark of the base; a sign may stand before the digits. -/
def based? (base : Nat) (chars : List Char) : Option Int := do
  let value? (c : Char) : Option Nat :=
    let digit :=
      if c.isDigit then c.toNat - '0'.toNat
      else if 'a' ≤ c ∧ c ≤ 'f' then c.toNat - 'a'.toNat + 10
      else if 'A' ≤ c ∧ c ≤ 'F' then c.toNat - 'A'.toNat + 10
      else base
    if digit < base then some digit else none
  let (negative, digits) :=
    match chars with
    | '-' :: rest => (true, rest)
    | '+' :: rest => (false, rest)
    | rest => (false, rest)
  if digits = [] then none
  let values ← digits.mapM value?
  let value : Int := (values.foldl (fun value digit => value * base + digit) 0 : Nat)
  let value := if negative then -value else value
  if fits64 value then return value else none

/-- The integer that a plain scalar writes. -/
def int? (text : String) : Option Int :=
  let decimal (text : String) : Option Int := (Text.int? text).filter fits64
  let marked : Option Int :=
    match text.toList with
    | '0' :: 'x' :: digits => based? 16 digits
    | '0' :: 'o' :: digits => based? 8 digits
    | '+' :: digits => decimal (String.ofList digits)
    | _ => none
  marked.or (decimal text)

/-- The words for numbers that are not finite. -/
def boundless : List String :=
  [".inf", ".Inf", ".INF", "+.inf", "+.Inf", "+.INF", "-.inf", "-.Inf", "-.INF",
    ".nan", ".NaN", ".NAN"]

/-- Whether a plain scalar writes a real. -/
def isReal (text : String) : Bool :=
  boundless.contains text || (text.any Char.isDigit && (Decimal.read? text).isSome)

/-- What a plain scalar without tag denotes. -/
def plain (text : String) : Scalar :=
  if text = "" ∨ text = "~" ∨ text = "null" then .null
  else if text = "true" then .bool true
  else if text = "false" then .bool false
  else
    match int? text with
    | some value => .int value
    | none => if isReal text then .real text else .text text

/-- What a plain scalar denotes under a tag; one that does not fit its tag denotes nothing. -/
def tagged (text : String) : Option Tag → Scalar
  | none => plain text
  | some (.core name) =>
      if name = "bool" then
        if text = "true" then .bool true else if text = "false" then .bool false else .null
      else if name = "int" then
        match (Text.int? text).filter fits64 with
        | some value => .int value
        | none => .null
      else if name = "float" then if isReal text then .real text else .null
      else if name = "null" then .null
      else .text text
  | some .other => .text text

/-- The key that a node serves as. -/
def Scalar.key? : Scalar → Option String
  | .null => none
  | .bool value => some (if value then "true" else "false")
  | .int value => some (toString value)
  | .real written => some written
  | .text value => some value

/-- The document that a scalar denotes.  Numbers that are not finite are refused. -/
def Scalar.document? : Scalar → Option Document
  | .null => some .null
  | .bool value => some (.bool value)
  | .int value => some (.int value)
  | .real written => (Decimal.read? written).map .float
  | .text value => some (.text value)

mutual

/-- The document that a node denotes. -/
def Node.document? : Node → Option Document
  | .scalar value => value.document?
  | .list items => (itemDocuments? items).map .list
  | .table entries => (entryDocuments? entries).map tableOf

/-- The documents that items denote. -/
def itemDocuments? : List Node → Option (List Document)
  | [] => some []
  | item :: rest => do return (← item.document?) :: (← itemDocuments? rest)

/-- The entries that keys and nodes denote. -/
def entryDocuments? : List (Scalar × Node) → Option (List (String × Document))
  | [] => some []
  | (key, node) :: rest => do
      return (← key.key?, ← node.document?) :: (← entryDocuments? rest)

end

/-- Add an entry behind the others, unless its key is none or stands there already. -/
def extend? (entries : List (Scalar × Node)) (key value : Node) :
    Option (List (Scalar × Node)) :=
  match key with
  | .scalar key =>
      if key.key?.isNone ∨ entries.any (·.1 = key) then none else some (entries ++ [(key, value)])
  | _ => none

end Tollgate.Document.Yaml
