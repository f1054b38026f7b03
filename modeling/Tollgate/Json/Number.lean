import Tollgate.Json.Basic

/-!
# What JSON numbers stand for

A number without fraction and exponent is an integer as long as it fits 64 bits; every other
number is a double.  The double is computed from the leading digits that fit an unsigned 64-bit
word, scaled by a power of ten.
-/

namespace Tollgate.Json.Number

/-- The least signed 64-bit integer. -/
def least64 : Int := -9223372036854775808

/-- One more than the greatest unsigned 64-bit integer. -/
def bound64 : Nat := 18446744073709551616

/-- The integer that a number is written as.  Minus zero is a double. -/
def integer? (number : Number) : Option Int :=
  if number.fraction ≠ [] ∨ number.exponent ≠ none then none
  else if number.negative then
    if number.whole = 0 then none else some (-number.whole)
  else some number.whole

/-- The integer that a number is written as, if it fits 64 bits with or without sign. -/
def word? (number : Number) : Option Int :=
  number.integer?.filter fun value => least64 ≤ value && value < bound64

/-- Append digits to a significand as long as it fits an unsigned 64-bit word; the digits that do
not fit any more come along. -/
def absorb (significand : Nat) : List Nat → Nat × List Nat
  | [] => (significand, [])
  | digit :: rest =>
      if significand * 10 + digit < bound64 then absorb (significand * 10 + digit) rest
      else (significand, digit :: rest)

/-- Ten to a power up to 308, as a double. -/
def powerOfTen (exponent : Nat) : Float :=
  Float.ofScientific 1 false exponent

/-- Divide by ten to a power of any size, in steps that doubles can hold.  Three steps bring every
64-bit significand down to zero. -/
def scaleDown : (fuel : Nat) → Float → Nat → Float
  | 0, value, exponent => if exponent ≤ 308 then value / powerOfTen exponent else value
  | fuel + 1, value, exponent =>
      if exponent ≤ 308 then value / powerOfTen exponent
      else scaleDown fuel (value / powerOfTen 308) (exponent - 308)

/-- Ten to an exponent, times a significand; there is no result beyond the range of doubles. -/
def scale? (significand : Nat) (exponent : Int) : Option Float :=
  let value := Float.ofScientific significand false 0
  match exponent with
  | .ofNat up =>
      if significand = 0 then some value
      else if 308 < up then none
      else
        let scaled := value * powerOfTen up
        if scaled.isInf then none else some scaled
  | .negSucc down => some (scaleDown 3 value (down + 1))

/-- The double that a number denotes, if it is finite. -/
def float? (number : Number) : Option Float := do
  let digits := (Nat.toDigits 10 number.whole).map fun c => c.toNat - '0'.toNat
  let (whole, beyond) := absorb 0 digits
  let (significand, left) := absorb whole (number.fraction.map (·.val))
  let used : Int := (number.fraction.length - left.length : Nat)
  let value ← scale? significand (beyond.length - used + number.exponent.getD 0)
  return if number.negative then -value else value

/-- Whether a number denotes a 64-bit integer or a finite double. -/
def isFinite (number : Number) : Bool :=
  number.word?.isSome || number.float?.isSome

@[simp]
theorem integer?_ofInt (value : Int) : (ofInt value).integer? = some value := by
  cases value with
  | ofNat n =>
      have unsigned : ¬Int.ofNat n < 0 := Int.not_lt.2 (Int.natCast_nonneg n)
      simp only [integer?, ofInt, unsigned, decide_false]
      rfl
  | negSucc n =>
      have signed : Int.negSucc n < 0 := Int.negSucc_lt_zero n
      simp only [integer?, ofInt, signed, decide_true]
      rfl

end Tollgate.Json.Number
