import Tollgate.Json.Basic
import Tollgate.Text.Decimal

/-!
# Reading JSON

The reader accepts exactly the JSON grammar: no comments, no trailing commas, no control
characters in strings, and only blanks around the value.  Each function takes what is left of the
text and returns what it read with what is then left.
-/

namespace Tollgate.Json

/-- The blanks of the grammar. -/
def isBlank (c : Char) : Bool :=
  c = ' ' || c = '\t' || c = '\n' || c = '\r'

/-- What is left behind the blanks. -/
def skipBlank (text : List Char) : List Char :=
  text.dropWhile isBlank

/-- The value of a hexadecimal digit. -/
def hexValue? (c : Char) : Option Nat :=
  if '0' ≤ c ∧ c ≤ '9' then some (c.toNat - '0'.toNat)
  else if 'a' ≤ c ∧ c ≤ 'f' then some (c.toNat - 'a'.toNat + 10)
  else if 'A' ≤ c ∧ c ≤ 'F' then some (c.toNat - 'A'.toNat + 10)
  else none

/-- The number that hexadecimal digits write. -/
def hexNumber? (digits : List Char) : Option Nat :=
  digits.foldlM (fun value c => (hexValue? c).map (value * 16 + ·)) 0

/-- The character that a backslash and a letter stand for. -/
def escaped? (letter : Char) : Option Char :=
  if letter = '"' ∨ letter = '\\' ∨ letter = '/' then some letter
  else if letter = 'b' then some '\x08'
  else if letter = 'f' then some '\x0c'
  else if letter = 'n' then some '\n'
  else if letter = 'r' then some '\r'
  else if letter = 't' then some '\t'
  else none

/-- One place of a string literal: a character, or a 16-bit unit that is escaped by its number. -/
inductive Place where
  | char (c : Char)
  | unit (value : Nat)
  deriving DecidableEq, Repr

/-- The places of a string literal up to its closing quote. -/
def places? : List Char → Option (List Place × List Char)
  | [] => none
  | c :: rest =>
      if c = '"' then some ([], rest)
      else if c = '\\' then
        match rest with
        | [] => none
        | letter :: rest =>
            if letter = 'u' then
              match rest with
              | a :: b :: c :: d :: rest => do
                  let value ← hexNumber? [a, b, c, d]
                  let (places, rest) ← places? rest
                  return (.unit value :: places, rest)
              | _ => none
            else do
              let meant ← escaped? letter
              let (places, rest) ← places? rest
              return (.char meant :: places, rest)
      else if c.toNat < 32 then none
      else do
        let (places, rest) ← places? rest
        return (.char c :: places, rest)

/-- The characters that places denote: two units that form a surrogate pair are one character, and
half a pair denotes nothing. -/
def Place.chars? : List Place → Option (List Char)
  | [] => some []
  | .char c :: rest => (chars? rest).map (c :: ·)
  | .unit value :: rest =>
      if 0xD800 ≤ value ∧ value < 0xDC00 then
        match rest with
        | .unit low :: rest =>
            if 0xDC00 ≤ low ∧ low < 0xE000 then
              (chars? rest).map
                (Char.ofNat (0x10000 + (value - 0xD800) * 0x400 + (low - 0xDC00)) :: ·)
            else none
        | _ => none
      else if 0xDC00 ≤ value ∧ value < 0xE000 then none
      else (chars? rest).map (Char.ofNat value :: ·)

/-- A string literal behind its opening quote. -/
def string? (text : List Char) : Option (Option String × List Char) := do
  let (places, rest) ← places? text
  return ((Place.chars? places).map String.ofList, rest)

/-- A decimal digit as a number below ten. -/
def digit (c : Char) : Fin 10 :=
  Fin.ofNat 10 (Text.digitValue c)

/-- The leading decimal digits, at least one. -/
def digits? (text : List Char) : Option (List Char × List Char) :=
  match text.takeWhile Char.isDigit with
  | [] => none
  | digits => some (digits, text.dropWhile Char.isDigit)

/-- The integer part of a number; a leading zero stands alone. -/
def whole? : List Char → Option (Nat × List Char)
  | '0' :: rest => some (0, rest)
  | text => (digits? text).map fun (digits, rest) => (Text.decimalValue digits, rest)

/-- The fraction of a number, if there is one. -/
def fraction? : List Char → Option (List (Fin 10) × List Char)
  | '.' :: rest => (digits? rest).map fun (digits, rest) => (digits.map digit, rest)
  | text => some ([], text)

/-- The exponent of a number, if there is one. -/
def exponent? : List Char → Option (Option Int × List Char)
  | c :: rest =>
      if c = 'e' ∨ c = 'E' then
        match rest with
        | '-' :: rest => (digits? rest).map fun (digits, rest) => (some (-Text.decimalValue digits), rest)
        | '+' :: rest => (digits? rest).map fun (digits, rest) => (some (Text.decimalValue digits), rest)
        | rest => (digits? rest).map fun (digits, rest) => (some (Text.decimalValue digits), rest)
      else some (none, c :: rest)
  | [] => some (none, [])

/-- A number. -/
def number? (text : List Char) : Option (Number × List Char) := do
  let (negative, text) :=
    match text with
    | '-' :: rest => (true, rest)
    | text => (false, text)
  let (whole, text) ← whole? text
  let (fraction, text) ← fraction? text
  let (exponent, text) ← exponent? text
  return (⟨negative, whole, fraction, exponent⟩, text)

mutual

/-- A value, with blanks before it.  Every call inside it has less fuel. -/
def value? : (fuel : Nat) → List Char → Option (Json × List Char)
  | 0, _ => none
  | fuel + 1, text =>
      match skipBlank text with
      | '{' :: rest =>
          match skipBlank rest with
          | '}' :: rest => some (.object [], rest)
          | rest => (members? fuel rest).map fun (members, rest) => (.object members, rest)
      | '[' :: rest =>
          match skipBlank rest with
          | ']' :: rest => some (.array [], rest)
          | rest => (elements? fuel rest).map fun (elements, rest) => (.array elements, rest)
      | '"' :: rest => (string? rest).map fun (value, rest) => (.string value, rest)
      | 'n' :: 'u' :: 'l' :: 'l' :: rest => some (.null, rest)
      | 't' :: 'r' :: 'u' :: 'e' :: rest => some (.bool true, rest)
      | 'f' :: 'a' :: 'l' :: 's' :: 'e' :: rest => some (.bool false, rest)
      | rest => (number? rest).map fun (value, rest) => (.number value, rest)

/-- The elements of an array that has some, up to its closing bracket. -/
def elements? : (fuel : Nat) → List Char → Option (List Json × List Char)
  | 0, _ => none
  | fuel + 1, text => do
      let (element, rest) ← value? fuel text
      match skipBlank rest with
      | ',' :: rest =>
          let (elements, rest) ← elements? fuel rest
          return (element :: elements, rest)
      | ']' :: rest => return ([element], rest)
      | _ => none

/-- The members of an object that has some, up to its closing brace. -/
def members? : (fuel : Nat) → List Char → Option (List (Option String × Json) × List Char)
  | 0, _ => none
  | fuel + 1, text => do
      let (key, rest) ←
        match skipBlank text with
        | '"' :: rest => string? rest
        | _ => none
      let (value, rest) ←
        match skipBlank rest with
        | ':' :: rest => value? fuel rest
        | _ => none
      match skipBlank rest with
      | ',' :: rest =>
          let (members, rest) ← members? fuel rest
          return ((key, value) :: members, rest)
      | '}' :: rest => return ([(key, value)], rest)
      | _ => none

end

/-- Read a whole text.  A value never needs more than two calls a character. -/
def read? (text : String) : Option Json := do
  let chars := text.toList
  let (value, rest) ← value? (2 * chars.length + 2) chars
  if skipBlank rest = [] then return value else none

end Tollgate.Json
