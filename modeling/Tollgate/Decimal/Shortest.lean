/-!
# Shortest decimals

A double stands for every real that rounds to it.  Its decimal text has the fewest digits that
still name one of those reals, and of the decimals with so many digits the nearest.  The grid of
decimals is refined digit by digit until one of the two grid points next to the value lies inside
the interval; all arithmetic is exact.
-/

namespace Tollgate.Decimal

/-- A finite double apart from its sign: a whole number of units, each two to the exponent. -/
structure Binary where
  mantissa : Nat
  exponent : Int
  deriving DecidableEq, Repr

namespace Binary

/-- The parts of a finite double, from its bits. -/
def ofBits (bits : UInt64) : Binary :=
  let mantissa : Nat := bits.toNat % Nat.pow 2 52
  let exponent : Nat := bits.toNat / Nat.pow 2 52 % Nat.pow 2 11
  if exponent = 0 then ⟨mantissa, -1074⟩ else ⟨mantissa + Nat.pow 2 52, (exponent : Int) - 1075⟩

/-- The factor that takes quarters of a unit to multiples of ten to the `power`, as a fraction. -/
def scale (value : Binary) (power : Int) : Nat × Nat :=
  let binary := value.exponent - 2
  (Nat.pow 2 binary.toNat * Nat.pow 10 (-power).toNat,
    Nat.pow 2 (-binary).toNat * Nat.pow 10 power.toNat)

/-- Whether `candidate` times ten to the `power` rounds to the value.  The ends of the interval
belong to it when the mantissa is even; below a power of two the interval is half as wide. -/
def covers (value : Binary) (power : Int) (candidate : Nat) : Bool :=
  let (up, down) := value.scale power
  let low := 4 * value.mantissa - (if value.mantissa = Nat.pow 2 52 then 1 else 2)
  let high := 4 * value.mantissa + 2
  if value.mantissa % 2 = 0 then low * up ≤ candidate * down ∧ candidate * down ≤ high * up
  else low * up < candidate * down ∧ candidate * down < high * up

/-- The decimal on the grid of ten to the `power` that rounds to the value, if there is one; of
two the nearer. -/
def onGrid? (value : Binary) (power : Int) : Option Nat :=
  let (up, down) := value.scale power
  let below := 4 * value.mantissa * up / down
  match value.covers power below, value.covers power (below + 1) with
  | true, true =>
      if 2 * (4 * value.mantissa * up) ≤ (2 * below + 1) * down then some below
      else some (below + 1)
  | true, false => some below
  | false, true => some (below + 1)
  | false, false => none

/-- Refine the grid until it has a decimal that rounds to the value. -/
def refine (value : Binary) : (fuel : Nat) → Int → Nat × Int
  | 0, power => (0, power)
  | fuel + 1, power =>
      match value.onGrid? power with
      | some digits => (digits, power)
      | none => value.refine fuel (power - 1)

/-- The digits of the shortest decimal, and the power of ten that they count. -/
def shortest (value : Binary) : Nat × Int :=
  if value.mantissa = 0 then (0, 0)
  else
    let magnitude := (value.mantissa.log2 : Int) + value.exponent
    value.refine 24 ((magnitude * 30103).fdiv 100000 + 2)

end Binary

/-- Digits times a power of ten, written out without exponent. -/
def positional (digits : Nat) (power : Int) : String :=
  let text := Nat.toDigits 10 digits
  match power with
  | .ofNat zeros => String.ofList (text ++ List.replicate zeros '0')
  | .negSucc places =>
      let places := places + 1
      let text := List.replicate (places + 1 - text.length) '0' ++ text
      String.ofList
        (text.take (text.length - places) ++ '.' :: text.drop (text.length - places))

/-- Digits without the zeros at their end. -/
def stripZeros : (fuel : Nat) → Nat → Int → Nat × Int
  | 0, digits, power => (digits, power)
  | fuel + 1, digits, power =>
      if digits ≠ 0 ∧ digits % 10 = 0 then stripZeros fuel (digits / 10) (power + 1)
      else (digits, power)

/-- The text of a double: its shortest decimal written out. -/
def text (value : Float) : String :=
  if value.isNaN then "NaN"
  else
    let bits := value.toBits
    let magnitude :=
      if value.isInf then "inf"
      else
        let (digits, power) := (Binary.ofBits bits).shortest
        let (digits, power) := stripZeros 20 digits power
        positional digits power
    if bits.toNat < Nat.pow 2 63 then magnitude else "-" ++ magnitude

end Tollgate.Decimal
