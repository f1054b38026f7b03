import Tollgate.Json.Basic

/-!
# Writing JSON

Values are written without blanks.  A text escapes quotes, backslashes and control characters, and
nothing else.
-/

namespace Tollgate.Json

/-- A hexadecimal digit. -/
def hexDigit (value : Nat) : Char :=
  "0123456789abcdef".toList.getD value '0'

/-- A character inside a string literal. -/
def writeChar (c : Char) : List Char :=
  if c = '"' then ['\\', '"']
  else if c = '\\' then ['\\', '\\']
  else if c = '\n' then ['\\', 'n']
  else if c = '\r' then ['\\', 'r']
  else if c = '\t' then ['\\', 't']
  else if c = '\x08' then ['\\', 'b']
  else if c = '\x0c' then ['\\', 'f']
  else if c.toNat < 32 then
    ['\\', 'u', '0', '0', hexDigit (c.toNat / 16), hexDigit (c.toNat % 16)]
  else [c]

/-- A string literal.  What denotes no text is written as half of a surrogate pair. -/
def writeString : Option String → List Char
  | some text => '"' :: (text.toList.flatMap writeChar ++ ['"'])
  | none => "\"\\ud800\"".toList

/-- An integer in decimal digits. -/
def writeInt (value : Int) : List Char :=
  if value < 0 then '-' :: Nat.toDigits 10 value.natAbs else Nat.toDigits 10 value.natAbs

/-- A number. -/
def writeNumber (number : Number) : List Char :=
  let sign := if number.negative then ['-'] else []
  let fraction :=
    if number.fraction = [] then []
    else '.' :: number.fraction.flatMap fun digit => Nat.toDigits 10 digit.val
  let exponent :=
    match number.exponent with
    | none => []
    | some exponent => 'e' :: writeInt exponent
  sign ++ Nat.toDigits 10 number.whole ++ fraction ++ exponent

mutual

/-- The text of a value. -/
def write : Json → List Char
  | .null => "null".toList
  | .bool true => "true".toList
  | .bool false => "false".toList
  | .number value => writeNumber value
  | .string value => writeString value
  | .array elements => '[' :: (writeElements elements ++ [']'])
  | .object members => '{' :: (writeMembers members ++ ['}'])

/-- Elements with commas between them. -/
def writeElements : List Json → List Char
  | [] => []
  | [element] => element.write
  | element :: next :: rest => element.write ++ ',' :: writeElements (next :: rest)

/-- Members with commas between them. -/
def writeMembers : List (Option String × Json) → List Char
  | [] => []
  | [(key, value)] => writeString key ++ ':' :: value.write
  | (key, value) :: next :: rest =>
      writeString key ++ ':' :: (value.write ++ ',' :: writeMembers (next :: rest))

end

/-- The text of a value as a string. -/
def render (value : Json) : String :=
  String.ofList value.write

end Tollgate.Json
