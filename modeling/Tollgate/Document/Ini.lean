import Tollgate.Document.Basic
import Tollgate.Json.Reader
import Tollgate.Text.Blank

/-!
# Reading INI

Keys and values stand on lines, `key = value` or `key: value`, and belong to the section whose
header came last; those before any header belong to the document itself.  All values are texts.
-/

namespace Tollgate.Document.Ini

/-- The characters that a backslash stands before. -/
def escaped? : List Char → Option (List Char × List Char)
  | [] => none
  | 'x' :: a :: b :: c :: d :: rest =>
      match Json.hexNumber? [a, b, c, d] with
      | some code =>
          if code < 0xD800 ∨ 0xE000 ≤ code then some ([Char.ofNat code], rest) else none
      | none => none
  | c :: rest =>
      if c = 'x' then none
      else if c = '0' then some (['\x00'], rest)
      else if c = 'a' then some (['\x07'], rest)
      else if c = 'b' then some (['\x08'], rest)
      else if c = 't' then some (['\t'], rest)
      else if c = 'r' then some (['\r'], rest)
      else if c = 'n' then some (['\n'], rest)
      else if c = '\n' then some ([], rest)
      else some ([c], rest)

/-- A text up to the first character that ends it, which stays.  Where there is none the text ends
with the document, if that is allowed. -/
def until? (ends : Char → Bool) (mayFinish : Bool) :
    (fuel : Nat) → List Char → Option (List Char × List Char)
  | 0, _ => none
  | _, [] => if mayFinish then some ([], []) else none
  | fuel + 1, c :: rest =>
      if ends c then some ([], c :: rest)
      else if c = '\\' then do
        let (first, rest) ← escaped? rest
        let (chars, rest) ← until? ends mayFinish fuel rest
        return (first ++ chars, rest)
      else do
        let (chars, rest) ← until? ends mayFinish fuel rest
        return (c :: chars, rest)

/-- Whether a character ends a line. -/
def isLineEnd (c : Char) : Bool :=
  c = '\n' || c = '\r'

/-- The rest of a line, without the blanks around it. -/
def line? (text : List Char) : Option (List Char × List Char) :=
  (until? isLineEnd true (text.length + 1) text).map fun (chars, rest) => (Text.trim chars, rest)

/-- A value in quotes, with what follows it on its line. -/
def quoted? (quote : Char) (text : List Char) : Option (List Char × List Char) := do
  let (chars, rest) ← until? (· = quote) false (text.length + 1) text
  let (tail, rest) ← line? (rest.drop 1)
  return (chars ++ tail, rest)

/-- A value, behind the mark that separates it from its key. -/
def value? (text : List Char) : Option (List Char × List Char) :=
  match text.dropWhile fun c => Text.isBlank c && !isLineEnd c with
  | '"' :: rest => quoted? '"' rest
  | '\'' :: rest => quoted? '\'' rest
  | rest => line? rest

/-- The sections read so far, the last one first; the document itself has no name. -/
abbrev Sections := List (Option String × List (String × Document))

/-- Enter a value into the section that was opened last. -/
def enter (key value : String) : Sections → Sections
  | [] => [(none, [(key, .text value)])]
  | (name, entries) :: rest => (name, put key (.text value) entries) :: rest

/-- Read lines.  `fresh` tells that nothing but line breaks stands before the text. -/
def lines? : (fuel : Nat) → (fresh : Bool) → Sections → List Char → Option Sections
  | 0, _, _, _ => none
  | fuel + 1, fresh, sections, chars =>
      let blanks := chars.takeWhile Text.isBlank
      let onNewLine := (fresh && blanks = []) || blanks.getLast? = some '\n'
      match chars.drop blanks.length with
      | [] => some sections
      | c :: rest =>
          if c = ';' ∨ c = '#' then
            if onNewLine then lines? fuel false sections (rest.dropWhile fun c => !isLineEnd c)
            else none
          else if c = '[' then do
            let (name, rest) ← until? (· = ']') false (rest.length + 1) rest
            let name := String.ofList (Text.trim name)
            lines? fuel false ((some name, []) :: sections) (rest.drop 1)
          else if c = '=' ∨ c = ':' then none
          else do
            let (key, rest) ← until? (fun c => c = '=' || c = ':') false (rest.length + 2) (c :: rest)
            let (value, rest) ← value? (rest.drop 1)
            let key := String.ofList (Text.trim key)
            if key = "" then none
            lines? fuel false (enter key (String.ofList value) sections) rest

end Ini

/-- Read an INI document.  Of a repeated section the last stays. -/
def readIni? (text : String) : Option Document :=
  let chars := text.toList
  (Ini.lines? (chars.length + 1) true [] chars).map fun sections =>
    tableOf (sections.reverse.flatMap fun (name, entries) =>
      match name with
      | none => entries
      | some name => [(name, .table entries)])

end Tollgate.Document
