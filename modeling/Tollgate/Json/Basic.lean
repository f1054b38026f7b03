/-!
# JSON values

A value keeps what its text says: members in their order and with their repetitions, and numbers
digit by digit, so that nothing is rounded before it is known what a number is for.  A string
literal may escape half of a surrogate pair; such a literal is well formed but denotes no text.
-/

namespace Tollgate

namespace Json

/-- A number as it is written, up to the spelling of its exponent. -/
structure Number where
  negative : Bool := false
  whole : Nat
  fraction : List (Fin 10) := []
  exponent : Option Int := none
  deriving DecidableEq, Repr

end Json

/-- A JSON value.  A string or key is `none` when it denotes no text. -/
inductive Json where
  | null
  | bool (value : Bool)
  | number (value : Json.Number)
  | string (text : Option String)
  | array (elements : List Json)
  | object (members : List (Option String × Json))
  deriving Inhabited, Repr

namespace Json

/-- The number with the value of an integer. -/
def Number.ofInt (value : Int) : Number where
  negative := value < 0
  whole := value.natAbs

/-- A string literal. -/
def text (value : String) : Json :=
  .string (some value)

/-- An integer literal. -/
def integer (value : Int) : Json :=
  .number (.ofInt value)

/-- A list of string literals. -/
def texts (values : List String) : Json :=
  .array (values.map text)

/-- An object whose keys are texts. -/
def record (members : List (String × Json)) : Json :=
  .object (members.map fun member => (some member.1, member.2))

/-- A value that may be absent. -/
def optional {α : Type} (encode : α → Json) : Option α → Json
  | none => .null
  | some value => encode value

mutual

/-- How many arrays and objects stand around the innermost value. -/
def height : Json → Nat
  | .array elements => 1 + heightOfElements elements
  | .object members => 1 + heightOfMembers members
  | _ => 0

/-- The height of the tallest element. -/
def heightOfElements : List Json → Nat
  | [] => 0
  | element :: rest => max element.height (heightOfElements rest)

/-- The height of the tallest member. -/
def heightOfMembers : List (Option String × Json) → Nat
  | [] => 0
  | (_, value) :: rest => max value.height (heightOfMembers rest)

end

end Json

end Tollgate
