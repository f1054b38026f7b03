import Tollgate.Decimal.Shortest
import Tollgate.Document.Basic
import Tollgate.Schema.Reading
import Tollgate.Text.Decimal

/-!
# The lenient reading of documents

Scalars are converted to what a field asks for: numbers and truth values to texts, words and
numbers to truth values, and texts, truth values and rounded decimals to integers.  Lists and
tables are never made from scalars, and `null` stands only for an absent option.
-/

namespace Tollgate.Document

/-- The truth value that a word stands for, in any ASCII case. -/
def wordFlag? (word : String) : Option Bool :=
  let word := word.toLower
  if word = "true" ∨ word = "yes" ∨ word = "on" then some true
  else if word = "false" ∨ word = "no" ∨ word = "off" then some false
  else none

/-- A value as a text. -/
def text? : Document → Option String
  | .text value => some value
  | .int value => some (toString value)
  | .float value => some (Decimal.text value)
  | .bool value => some (if value then "true" else "false")
  | _ => none

/-- A value as a truth value: any number but zero is true. -/
def flag? : Document → Option Bool
  | .bool value => some value
  | .int value => some (value ≠ 0)
  | .float value => some (value != 0)
  | .text value =>
      if value = "1" then some true
      else if value = "0" then some false
      else wordFlag? value
  | _ => none

/-- A value as a signed integer.  A half is rounded away from zero, and a decimal beyond 64 bits
becomes the nearest 64-bit integer. -/
def signed? : Document → Option Int
  | .int value => some value
  | .float value => some value.round.toInt64.toInt
  | .bool value => some value.toInt
  | .text value =>
      match wordFlag? value with
      | some flag => some flag.toInt
      | none => Text.int? value
  | _ => none

/-- A value as an unsigned integer, likewise; the text of one has no minus sign. -/
def unsigned? : Document → Option Nat
  | .int value => if value < 0 then none else some value.toNat
  | .float value => some value.round.toUInt64.toNat
  | .bool value => some value.toNat
  | .text value =>
      match wordFlag? value with
      | some flag => some flag.toNat
      | none =>
          if value.startsWith "-" then none
          else (Text.int? value).map Int.toNat
  | _ => none

/-- The lenient reading. -/
def lenient : Reading Document where
  isNull
    | .null => true
    | _ => false
  text? := text?
  flag? := flag?
  signed? := signed?
  unsigned? := unsigned?
  elements?
    | .list items => some items
    | _ => none
  members?
    | .table entries => some entries
    | _ => none
  word?
    | .text value => some value
    | _ => none
  choice?
    | .text value => some value
    | .table [(key, _)] => some key
    | _ => none
  isSettled _ := true
  exact := false

end Tollgate.Document
