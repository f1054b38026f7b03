import Tollgate.Text.Decimal

/-!
# Reading decimals

A decimal has digits, perhaps a point, and perhaps an exponent; at least one digit stands next to
the point.  It denotes the nearest double.
-/

namespace Tollgate.Decimal

/-- Digits times a power of ten, as the nearest double.  Beyond the range of doubles the power does
not matter any more. -/
def toFloat (digits : Nat) (power : Int) : Float :=
  let length : Int := (Nat.toDigits 10 digits).length
  if digits = 0 ∨ length + power < -400 then 0
  else if 400 < length + power then 1 / 0
  else
    match power with
    | .ofNat up => Float.ofScientific digits false up
    | .negSucc down => Float.ofScientific digits true (down + 1)

/-- The exponent that a text has from here to its end. -/
def exponent? : List Char → Option Int
  | [] => some 0
  | c :: rest =>
      if c = 'e' ∨ c = 'E' then Text.int? (String.ofList rest) else none

/-- A decimal without sign. -/
def unsigned? (text : List Char) : Option Float := do
  let whole := text.takeWhile Char.isDigit
  let (fraction, rest) :=
    match text.dropWhile Char.isDigit with
    | '.' :: rest => (rest.takeWhile Char.isDigit, rest.dropWhile Char.isDigit)
    | rest => ([], rest)
  let exponent ← exponent? rest
  if whole = [] ∧ fraction = [] then none
  return toFloat (Text.decimalValue (whole ++ fraction)) (exponent - fraction.length)

/-- A decimal with or without sign. -/
def read? (text : String) : Option Float :=
  match text.toList with
  | '-' :: rest => (unsigned? rest).map fun value => -value
  | '+' :: rest => unsigned? rest
  | rest => unsigned? rest

end Tollgate.Decimal
