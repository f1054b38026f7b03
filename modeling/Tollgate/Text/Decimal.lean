/-!
# Decimal digits

Digits are the ten ASCII digits.
-/

namespace Tollgate.Text

/-- The value of a decimal digit. -/
def digitValue (c : Char) : Nat :=
  c.toNat - '0'.toNat

/-- The number that decimal digits write. -/
def decimalValue (digits : List Char) : Nat :=
  digits.foldl (fun value c => value * 10 + digitValue c) 0

/-- A number in decimal digits, with zeros before it up to a width. -/
def padded (width value : Nat) : String :=
  let digits := Nat.toDigits 10 value
  String.ofList (List.replicate (width - digits.length) '0' ++ digits)

/-- The integer that a text writes in decimal digits behind at most one sign, and nothing else. -/
def int? (text : String) : Option Int :=
  let digits (chars : List Char) : Option Nat :=
    if chars ≠ [] ∧ chars.all Char.isDigit then some (decimalValue chars) else none
  match text.toList with
  | '-' :: rest => (digits rest).map fun value => -value
  | '+' :: rest => (digits rest).map fun value => value
  | chars => (digits chars).map fun value => value

end Tollgate.Text
