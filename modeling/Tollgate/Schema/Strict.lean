import Tollgate.Json.Number
import Tollgate.Json.Reader
import Tollgate.Schema.Reading

/-!
# The strict reading of JSON

Nothing is converted: a number is no text, a number with a fraction is no integer, and `null`
stands only for an absent option.  What no field asks for only has to be well formed, except
inside a rule, whose parts are all kept until its type is known.
-/

namespace Tollgate.Json

/-- The greatest number of arrays and objects around a value that is kept as a whole. -/
def heightLimit : Nat := 127

mutual

/-- Whether every string, key and number of a value denotes something. -/
def isWhole : Json → Bool
  | .number value => value.isFinite
  | .string value => value.isSome
  | .array elements => areWholeElements elements
  | .object members => areWholeMembers members
  | _ => true

/-- Whether all elements are whole. -/
def areWholeElements : List Json → Bool
  | [] => true
  | element :: rest => element.isWhole && areWholeElements rest

/-- Whether all members are whole. -/
def areWholeMembers : List (Option String × Json) → Bool
  | [] => true
  | (key, value) :: rest => key.isSome && value.isWhole && areWholeMembers rest

end

/-- A value with the number of arrays and objects around it. -/
structure Nested where
  depth : Nat
  value : Json

namespace Nested

/-- A value that stands alone. -/
def top (value : Json) : Nested :=
  ⟨0, value⟩

/-- The text of a string literal. -/
def text? (nested : Nested) : Option String :=
  match nested.value with
  | .string value => value
  | _ => none

/-- The elements of an array. -/
def elements? (nested : Nested) : Option (List Nested) :=
  match nested.value with
  | .array elements => some (elements.map (⟨nested.depth + 1, ·⟩))
  | _ => none

/-- The members of an object whose keys all denote texts. -/
def members? (nested : Nested) : Option (List (String × Nested)) :=
  match nested.value with
  | .object members =>
      members.mapM fun (key, value) => key.map ((·, ⟨nested.depth + 1, value⟩))
  | _ => none

/-- The alternative that a value names: by a string, or by the key of a lone member that is
`null`. -/
def choice? (nested : Nested) : Option String :=
  match nested.value with
  | .string value => value
  | .object [(key, .null)] => key
  | _ => none

end Nested

/-- The strict reading. -/
def strict : Reading Nested where
  isNull nested :=
    match nested.value with
    | .null => true
    | _ => false
  text? := Nested.text?
  flag? nested :=
    match nested.value with
    | .bool value => some value
    | _ => none
  signed? nested :=
    match nested.value with
    | .number value => value.integer?
    | _ => none
  unsigned? nested :=
    match nested.value with
    | .number value => value.integer?.bind fun value => if value < 0 then none else some value.toNat
    | _ => none
  elements? := Nested.elements?
  members? := Nested.members?
  word? := Nested.text?
  choice? := Nested.choice?
  isSettled nested :=
    nested.value.isWhole && nested.depth + nested.value.height ≤ heightLimit
  exact := true

/-- Read a text strictly. -/
def parse? {α : Type} (decode : Nested → Option α) (text : String) : Option α :=
  (read? text).bind fun value => decode (.top value)

end Tollgate.Json
