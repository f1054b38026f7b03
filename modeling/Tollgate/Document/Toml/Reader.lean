import Tollgate.Document.Toml.Scalar
import Tollgate.Document.Toml.Table

/-!
# Reading TOML

A document is a sequence of lines: headers, which tell where the following keys belong, and keys
with their values.
-/

namespace Tollgate.Document.Toml

/-- What is left behind blanks, line breaks and comments. -/
def skipLines? : (fuel : Nat) → List Char → Option (List Char)
  | 0, _ => none
  | fuel + 1, chars =>
      match skipBlank chars with
      | '#' :: rest => (skipComment? ('#' :: rest)).bind (skipLines? fuel)
      | '\n' :: rest => skipLines? fuel rest
      | '\r' :: '\n' :: rest => skipLines? fuel rest
      | rest => some rest

mutual

/-- A value of any kind. -/
def value? : (fuel : Nat) → List Char → Option (Document × List Char)
  | 0, _ => none
  | fuel + 1, chars =>
      match chars with
      | '[' :: rest => do
          let (items, rest) ← items? fuel rest
          return (.list items, rest)
      | '{' :: rest =>
          match skipBlank rest with
          | '}' :: rest => some (.table [], rest)
          | rest => do
              let (entries, rest) ← inline? fuel [] rest
              return (.table (documentsOf entries), rest)
      | '"' :: _ => (string? chars).map fun (chars, rest) => (.text (String.ofList chars), rest)
      | '\'' :: _ => (string? chars).map fun (chars, rest) => (.text (String.ofList chars), rest)
      | _ => do
          let (first, rest) := token chars
          let value ← ofToken? first
          return (value, rest)

/-- The items of a list up to its closing bracket; a comma may follow the last. -/
def items? : (fuel : Nat) → List Char → Option (List Document × List Char)
  | 0, _ => none
  | fuel + 1, chars => do
      match ← skipLines? (chars.length + 1) chars with
      | ']' :: rest => return ([], rest)
      | chars =>
          let (item, rest) ← value? fuel chars
          match ← skipLines? (rest.length + 1) rest with
          | ',' :: rest =>
              let (items, rest) ← items? fuel rest
              return (item :: items, rest)
          | ']' :: rest => return ([item], rest)
          | _ => none

/-- The entries of a table in a line, up to its closing brace. -/
def inline? : (fuel : Nat) → Entries → List Char → Option (Entries × List Char)
  | 0, _, _ => none
  | fuel + 1, entries, chars => do
      let (keys, rest) ← keys? (chars.length + 1) chars
      let rest ← mark? '=' rest
      let (value, rest) ← value? fuel (skipBlank rest)
      let entries ← assign? value keys entries
      match skipBlank rest with
      | ',' :: rest => inline? fuel entries rest
      | '}' :: rest => return (entries, rest)
      | _ => none

end

/-- What is left behind the end of a line that says no more. -/
def finishLine? (text : List Char) : Option (List Char) :=
  (skipComment? (skipBlank text)).bind lineEnd?

/-- Read lines into a table, below the header that was read last. -/
def lines? : (fuel : Nat) → List String → Entries → List Char → Option Entries
  | 0, _, _, _ => none
  | fuel + 1, header, entries, chars => do
      match ← skipLines? (chars.length + 1) chars with
      | [] => return entries
      | '[' :: '[' :: rest =>
          let (header, rest) ← keys? (rest.length + 1) rest
          let rest ← mark? ']' (← mark? ']' rest)
          let entries ← atHeader? openNext? header entries
          lines? fuel header entries (← finishLine? rest)
      | '[' :: rest =>
          let (header, rest) ← keys? (rest.length + 1) rest
          let rest ← mark? ']' rest
          let entries ← atHeader? openTable? header entries
          lines? fuel header entries (← finishLine? rest)
      | chars =>
          let (keys, rest) ← keys? (chars.length + 1) chars
          let rest ← mark? '=' rest
          let (value, rest) ← value? (2 * rest.length + 2) (skipBlank rest)
          let entries ← assignBelow? keys value header entries
          lines? fuel header entries (← finishLine? rest)

end Toml

/-- Read a TOML document. -/
def readToml? (text : String) : Option Document :=
  let chars := text.toList
  (Toml.lines? (chars.length + 1) [] [] chars).map fun entries =>
    .table (Toml.documentsOf entries)

end Tollgate.Document
