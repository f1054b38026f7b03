import Tollgate.Decimal.Reader
import Tollgate.Document.Basic
import Tollgate.Json.Reader
import Tollgate.Timestamp

/-!
# Scalars and keys of TOML

Each function takes what is left of the text and returns what it read with what is then left.
Dates and times become texts in their normal spelling.
-/

namespace Tollgate.Document.Toml

/-- The blanks within a line. -/
def isBlank (c : Char) : Bool :=
  c = ' ' || c = '\t'

/-- What is left behind the blanks of a line. -/
def skipBlank (text : List Char) : List Char :=
  text.dropWhile isBlank

/-- Control characters may not stand in a document; the tab may. -/
def isControl (c : Char) : Bool :=
  (c.toNat < 32 && c ≠ '\t') || c.toNat = 127

/-- What is left behind the end of a line, or behind the end of the text. -/
def lineEnd? : List Char → Option (List Char)
  | [] => some []
  | '\n' :: rest => some rest
  | '\r' :: '\n' :: rest => some rest
  | _ => none

/-- What is left behind a comment, if there is one: the end of its line. -/
def skipComment? : List Char → Option (List Char)
  | '#' :: rest =>
      let comment := rest.takeWhile fun c => !isControl c
      match rest.drop comment.length with
      | [] => some []
      | '\n' :: rest => some ('\n' :: rest)
      | '\r' :: '\n' :: rest => some ('\n' :: rest)
      | _ => none
  | other => some other

/-! ## Strings -/

/-- A character escaped by its number in so many hexadecimal digits. -/
def codePoint? (width : Nat) (text : List Char) : Option (Char × List Char) := do
  let digits := text.take width
  if digits.length < width then none
  let code ← Json.hexNumber? digits
  if code < 0xD800 ∨ (0xE000 ≤ code ∧ code < 0x110000) then
    return (Char.ofNat code, text.drop width)
  else none

/-- The character that stands behind a backslash. -/
def escaped? : List Char → Option (Char × List Char)
  | 'u' :: rest => codePoint? 4 rest
  | 'U' :: rest => codePoint? 8 rest
  | '/' :: _ => none
  | c :: rest => (Json.escaped? c).map (·, rest)
  | [] => none

/-- A basic string on one line, behind its opening quote. -/
def basic? : (fuel : Nat) → List Char → Option (List Char × List Char)
  | 0, _ => none
  | _, [] => none
  | _ + 1, '"' :: rest => some ([], rest)
  | fuel + 1, '\\' :: rest => do
      let (c, rest) ← escaped? rest
      let (chars, rest) ← basic? fuel rest
      return (c :: chars, rest)
  | fuel + 1, c :: rest =>
      if isControl c then none
      else do
        let (chars, rest) ← basic? fuel rest
        return (c :: chars, rest)

/-- A literal string on one line, behind its opening quote. -/
def literal? : List Char → Option (List Char × List Char)
  | [] => none
  | '\'' :: rest => some ([], rest)
  | c :: rest =>
      if isControl c then none
      else do
        let (chars, rest) ← literal? rest
        return (c :: chars, rest)

/-- The closing quotes of a string over several lines.  One or two quotes before them belong to the
string. -/
def closing? (quote : Char) (text : List Char) : Option (List Char × List Char) :=
  let quotes := (text.takeWhile (· = quote)).length
  if quotes < 3 then none
  else
    let inside := min (quotes - 3) 2
    some (List.replicate inside quote, text.drop (inside + 3))

/-- Whether a backslash ends its line. -/
def isLineContinuation (text : List Char) : Bool :=
  match skipBlank text with
  | '\n' :: _ => true
  | '\r' :: '\n' :: _ => true
  | _ => false

/-- A string over several lines, behind its opening quotes.  A backslash at the end of a line joins
it with the next text. -/
def multiLine? (quote : Char) : (fuel : Nat) → List Char → Option (List Char × List Char)
  | 0, _ => none
  | _, [] => none
  | fuel + 1, c :: rest =>
      match closing? quote (c :: rest) with
      | some closed => some closed
      | none =>
          if c = '\\' ∧ quote = '"' then
            if isLineContinuation rest then
              multiLine? quote fuel
                (rest.dropWhile fun c => isBlank c || c = '\n' || c = '\r')
            else do
              let (c, rest) ← escaped? rest
              let (chars, rest) ← multiLine? quote fuel rest
              return (c :: chars, rest)
          else if c = '\r' then
            match rest with
            | '\n' :: _ => multiLine? quote fuel rest
            | _ => none
          else if isControl c ∧ c ≠ '\n' then none
          else do
            let (chars, rest) ← multiLine? quote fuel rest
            return (c :: chars, rest)

/-- A string over several lines; a line break right behind the opening quotes does not count. -/
def multiLineString? (quote : Char) (text : List Char) : Option (List Char × List Char) :=
  let body :=
    match text with
    | '\n' :: rest => rest
    | '\r' :: '\n' :: rest => rest
    | _ => text
  multiLine? quote (body.length + 1) body

/-- A string of any kind. -/
def string? : List Char → Option (List Char × List Char)
  | '"' :: '"' :: '"' :: rest => multiLineString? '"' rest
  | '\'' :: '\'' :: '\'' :: rest => multiLineString? '\'' rest
  | '"' :: rest => basic? (rest.length + 1) rest
  | '\'' :: rest => literal? rest
  | _ => none

/-! ## Keys -/

/-- The characters of a bare key. -/
def isKeyChar (c : Char) : Bool :=
  c.isAlphanum || c = '_' || c = '-'

/-- One key: bare, or a string on one line. -/
def key? (text : List Char) : Option (String × List Char) :=
  match text with
  | '"' :: rest => (basic? (rest.length + 1) rest).map fun (chars, rest) => (String.ofList chars, rest)
  | '\'' :: rest => (literal? rest).map fun (chars, rest) => (String.ofList chars, rest)
  | _ =>
      match text.takeWhile isKeyChar with
      | [] => none
      | key => some (String.ofList key, text.dropWhile isKeyChar)

/-- Keys with dots between them. -/
def keys? : (fuel : Nat) → List Char → Option (List String × List Char)
  | 0, _ => none
  | fuel + 1, chars => do
      let (key, rest) ← key? (skipBlank chars)
      match skipBlank rest with
      | '.' :: rest =>
          let (keys, rest) ← keys? fuel rest
          return (key :: keys, rest)
      | rest => return ([key], rest)

/-! ## Numbers -/

/-- The digits of a number without the underscores between them. -/
def plainDigits? (isDigit : Char → Bool) : List Char → Option (List Char)
  | [] => none
  | [c] => if isDigit c then some [c] else none
  | c :: '_' :: rest =>
      if isDigit c then (plainDigits? isDigit rest).map (c :: ·) else none
  | c :: rest => if isDigit c then (plainDigits? isDigit rest).map (c :: ·) else none

/-- A number to a base, behind the mark of the base. -/
def based? (base : Nat) (digits : List Char) : Option Int := do
  let digits ← plainDigits? (fun c => (Json.hexValue? c).any (· < base)) digits
  let values ← digits.mapM Json.hexValue?
  let value : Nat := values.foldl (fun value digit => value * base + digit) 0
  if value < Nat.pow 2 63 then return value else none

/-- Decimal digits of an integer: no zero before other digits. -/
def whole? (text : List Char) : Option (List Char) := do
  let digits ← plainDigits? Char.isDigit text
  if 1 < digits.length ∧ digits.head? = some '0' then none else return digits

/-- The sign of a number, and the rest. -/
def sign : List Char → Bool × List Char
  | '-' :: rest => (true, rest)
  | '+' :: rest => (false, rest)
  | rest => (false, rest)

/-- An integer of 64 bits. -/
def integer? (token : List Char) : Option Int :=
  match token with
  | '0' :: 'x' :: digits => based? 16 digits
  | '0' :: 'o' :: digits => based? 8 digits
  | '0' :: 'b' :: digits => based? 2 digits
  | _ => do
      let (negative, rest) := sign token
      let digits ← whole? rest
      let value : Int := Text.decimalValue digits
      let value := if negative then -value else value
      if -Int.pow 2 63 ≤ value ∧ value < Int.pow 2 63 then return value else none

/-- A decimal with a fraction, an exponent or both. -/
def float? (token : List Char) : Option Float := do
  let (negative, rest) := sign token
  let magnitude : Float ←
    if rest = "inf".toList then some (1 / 0)
    else if rest = "nan".toList then some (0 / 0)
    else do
      let isMark (c : Char) : Bool := c = '.' || c = 'e' || c = 'E'
      let whole ← whole? (rest.takeWhile fun c => !isMark c)
      let tail := rest.dropWhile fun c => !isMark c
      let (fraction, tail) ←
        match tail with
        | '.' :: tail => do
            let fraction ← plainDigits? Char.isDigit (tail.takeWhile fun c => !isMark c)
            some (fraction, tail.dropWhile fun c => !isMark c)
        | tail => some ([], tail)
      let exponent ←
        match tail with
        | [] => some 0
        | c :: tail =>
            if c = '.' then none
            else do
              let (down, digits) := sign tail
              let digits ← plainDigits? Char.isDigit digits
              let value : Int := Text.decimalValue digits
              some (if down then -value else value)
      some (Decimal.toFloat (Text.decimalValue (whole ++ fraction)) (exponent - fraction.length))
  return if negative then -magnitude else magnitude

/-! ## Dates and times -/

/-- So many digits as a number. -/
def fixed? (width : Nat) (text : List Char) : Option (Nat × List Char) :=
  let digits := text.take width
  if digits.length = width ∧ digits.all Char.isDigit then
    some (Text.decimalValue digits, text.drop width)
  else none

/-- What is left behind a mark. -/
def mark? (mark : Char) : List Char → Option (List Char)
  | c :: rest => if c = mark then some rest else none
  | [] => none

/-- A date that exists. -/
def date? (text : List Char) : Option (String × List Char) := do
  let (year, text) ← fixed? 4 text
  let (month, text) ← fixed? 2 (← mark? '-' text)
  let (date, text) ← fixed? 2 (← mark? '-' text)
  if month = 0 ∨ 12 < month ∨ date = 0 ∨ Timestamp.daysIn year month < date then none
  return (Text.padded 4 year ++ "-" ++ Text.padded 2 month ++ "-" ++ Text.padded 2 date, text)

/-- A fraction of a second, cut to nine digits and then to those that count. -/
def fractionText? : List Char → Option (String × List Char)
  | '.' :: rest =>
      let digits := rest.takeWhile Char.isDigit
      if digits = [] then none
      else
        let kept := ((digits.take 9).reverse.dropWhile (· = '0')).reverse
        some (if kept = [] then "" else String.ofList ('.' :: kept), rest.drop digits.length)
  | rest => some ("", rest)

/-- A time of day. -/
def time? (text : List Char) : Option (String × List Char) := do
  let (hour, text) ← fixed? 2 text
  let (minute, text) ← fixed? 2 (← mark? ':' text)
  let (second, text) ← fixed? 2 (← mark? ':' text)
  let (fraction, text) ← fractionText? text
  if 23 < hour ∨ 59 < minute ∨ 60 < second then none
  return (Text.padded 2 hour ++ ":" ++ Text.padded 2 minute ++ ":" ++ Text.padded 2 second
    ++ fraction, text)

/-- The offset of a time, if there is one. -/
def offset? : List Char → Option (String × List Char)
  | [] => some ("", [])
  | c :: rest =>
      if c = 'Z' ∨ c = 'z' then some ("Z", rest)
      else if c = '+' ∨ c = '-' then do
        let (hour, rest) ← fixed? 2 rest
        let (minute, rest) ← fixed? 2 (← mark? ':' rest)
        if 23 < hour ∨ 59 < minute then none
        return (c.toString ++ Text.padded 2 hour ++ ":" ++ Text.padded 2 minute, rest)
      else some ("", c :: rest)

/-- A date, a time, or both with or without an offset. -/
def moment? (token : List Char) : Option String := do
  let (moment, rest) ←
    match date? token with
    | none => time? token
    | some (date, []) => some (date, [])
    | some (date, c :: rest) => do
        if c ≠ 'T' ∧ c ≠ 't' ∧ c ≠ ' ' then none
        let (time, rest) ← time? rest
        let (offset, rest) ← offset? rest
        some (date ++ "T" ++ time ++ offset, rest)
  if rest = [] then return moment else none

/-! ## Tokens -/

/-- The characters that end an unquoted scalar. -/
def endsToken (c : Char) : Bool :=
  c = ',' || c = ']' || c = '}' || c = '#' || c = '\n' || c = '\r' || c = '=' || isBlank c

/-- An unquoted scalar.  A blank between a date and a time belongs to it. -/
def token (text : List Char) : List Char × List Char :=
  let first := text.takeWhile fun c => !endsToken c
  let rest := text.drop first.length
  match date? first, rest with
  | some (_, []), ' ' :: c :: tail =>
      if c.isDigit then
        let second := (c :: tail).takeWhile fun c => !endsToken c
        (first ++ ' ' :: second, (c :: tail).drop second.length)
      else (first, rest)
  | _, _ => (first, rest)

/-- What an unquoted scalar denotes. -/
def ofToken? (token : List Char) : Option Document :=
  if token = "true".toList then some (.bool true)
  else if token = "false".toList then some (.bool false)
  else
    match integer? token with
    | some value => some (.int value)
    | none =>
        match float? token with
        | some value => some (.float value)
        | none => (moment? token).map .text

end Tollgate.Document.Toml
