import Tollgate.Document.Toml.Scalar
import Tollgate.Document.Yaml.Cursor

/-!
# Scalars of YAML

A scalar is plain, quoted, or a block of lines.  Plain and quoted scalars may go on over lines,
which are folded; a block keeps its lines or folds them, as its header says.
-/

namespace Tollgate.Document.Yaml

/-! ## Quoted scalars -/

/-- A single-quoted scalar behind its opening quote; a quote in it is written twice. -/
def singleQuoted? (indent : Int) : (fuel : Nat) → Cursor → Option (List Char × Cursor)
  | 0, _ => none
  | fuel + 1, cursor => do
      let (gap, next) := cursor.gap indent
      if 0 < gap.breaks ∧ (next.isAtEnd ∨ next.column < indent) then none
      match next.rest with
      | [] => none
      | '\'' :: '\'' :: _ =>
          let (chars, last) ← singleQuoted? indent fuel (next.advance 2)
          return (gap.folded ++ '\'' :: chars, last)
      | '\'' :: _ => return (gap.folded, next.advance 1)
      | c :: _ =>
          let (chars, last) ← singleQuoted? indent fuel (next.advance 1)
          return (gap.folded ++ c :: chars, last)

/-- The character that stands behind a backslash, and how many characters it is written in. -/
def escaped? : List Char → Option (Char × Nat)
  | [] => none
  | c :: rest =>
      let numbered (width : Nat) : Option (Char × Nat) :=
        (Toml.codePoint? width rest).map fun (c, _) => (c, width + 1)
      if c = 'x' then numbered 2
      else if c = 'u' then numbered 4
      else if c = 'U' then numbered 8
      else
        let table : List (Char × Char) :=
          [('0', '\x00'), ('a', '\x07'), ('b', '\x08'), ('t', '\t'), ('\t', '\t'), ('n', '\n'),
            ('v', '\x0b'), ('f', '\x0c'), ('r', '\r'), ('e', '\x1b'), (' ', ' '), ('"', '"'),
            ('/', '/'), ('\\', '\\'), ('N', '\u0085'), ('_', '\u00a0'), ('L', '\u2028'),
            ('P', '\u2029')]
        (table.lookup c).map (·, 1)

/-- A double-quoted scalar behind its opening quote.  A backslash at the end of a line joins it
with the next. -/
def doubleQuoted? (indent : Int) : (fuel : Nat) → Cursor → Option (List Char × Cursor)
  | 0, _ => none
  | fuel + 1, cursor => do
      let (gap, next) := cursor.gap indent
      if 0 < gap.breaks ∧ (next.isAtEnd ∨ next.column < indent) then none
      match next.rest with
      | [] => none
      | '"' :: _ => return (gap.folded, next.advance 1)
      | '\\' :: '\n' :: _ =>
          let (joint, after) := (next.advance 1).gap indent
          if after.isAtEnd ∨ after.column < indent then none
          let (chars, last) ← doubleQuoted? indent fuel after
          return (gap.folded ++ List.replicate (joint.breaks - 1) '\n' ++ chars, last)
      | '\\' :: rest =>
          let (c, width) ← escaped? rest
          let (chars, last) ← doubleQuoted? indent fuel (next.advance (width + 1))
          return (gap.folded ++ c :: chars, last)
      | c :: _ =>
          let (chars, last) ← doubleQuoted? indent fuel (next.advance 1)
          return (gap.folded ++ c :: chars, last)

/-! ## Plain scalars -/

/-- Whether a plain scalar may begin here. -/
def startsPlain (inFlow : Bool) : List Char → Bool
  | [] => false
  | c :: rest =>
      if c = '-' then !startsBlank rest && !(inFlow && rest.head?.any isFlow)
      else if c = '?' ∨ c = ':' then !startsBlank rest
      else
        !(isFlow c || startsBlank [c] || c = '#' || c = '&' || c = '*' || c = '!' || c = '\''
          || c = '"' || c = '%' || c = '@' || c = '\x60' || (!inFlow && (c = '|' || c = '>')))

/-- What a line of a plain scalar has, up to a comment, a key mark, or an indicator of the brackets
around it.  Blanks at its end do not count. -/
def plainRun (inFlow : Bool) : List Char → List Char
  | [] => []
  | c :: rest =>
      if c = '\n' then []
      else if isBlank c then
        if rest.head? = some '#' then []
        else
          match plainRun inFlow rest with
          | [] => []
          | run => c :: run
      else if c = ':' ∧ (startsBlank rest ∨ (inFlow ∧ rest.head?.any isFlow)) then []
      else if inFlow ∧ isFlow c then []
      else c :: plainRun inFlow rest

/-- The further lines of a plain scalar. -/
def plainTail? (inFlow : Bool) (indent : Int) : (fuel : Nat) → Cursor → Option (List Char × Cursor)
  | 0, _ => none
  | fuel + 1, cursor =>
      let (gap, next) := cursor.gap (indent + 1)
      let isOutside := if inFlow then next.column < indent else next.column < indent + 1
      let run := plainRun inFlow next.rest
      if gap.breaks = 0 ∨ next.isAtEnd ∨ next.rest.head? = some '#' then some ([], cursor)
      else if gap.tabbed then none
      else if isOutside ∨ run = [] then some ([], cursor)
      else do
        let (tail, last) ← plainTail? inFlow indent fuel (next.advance run.length)
        return (gap.folded ++ run ++ tail, last)

/-! ## Blocks -/

/-- What becomes of the line breaks at the end of a block. -/
inductive Chomping where
  | strip
  | clip
  | keep
  deriving DecidableEq, Repr

/-- The header of a block: its chomping and its indentation, both optional and in any order. -/
def blockHeader? : List Char → Option (Chomping × Option Nat × List Char)
  | '+' :: rest => some (chomped .keep rest)
  | '-' :: rest => some (chomped .strip rest)
  | c :: rest =>
      if c.isDigit then
        if c = '0' then none
        else
          let width := some (Text.digitValue c)
          match rest with
          | '+' :: rest => some (.keep, width, rest)
          | '-' :: rest => some (.strip, width, rest)
          | rest => some (.clip, width, rest)
      else some (.clip, none, c :: rest)
  | [] => some (.clip, none, [])
where
  /-- The rest of a header that begins with its chomping. -/
  chomped (chomping : Chomping) : List Char → Chomping × Option Nat × List Char
    | c :: rest =>
        if '1' ≤ c ∧ c ≤ '9' then (chomping, some (Text.digitValue c), rest)
        else (chomping, none, c :: rest)
    | [] => (chomping, none, [])

/-- Cut a text into lines. -/
def linesOf (text : List Char) : List (List Char) :=
  match text with
  | [] => [[]]
  | c :: rest =>
      match linesOf rest with
      | [] => [[c]]
      | line :: lines => if c = '\n' then [] :: line :: lines else (c :: line) :: lines

/-- The number of spaces that a line begins with. -/
def spaces (line : List Char) : Nat :=
  (line.takeWhile (· = ' ')).length

/-- A line without the indentation of its block, if it has it or has nothing else. -/
def blockLine? (width : Nat) (line : List Char) : Option (List Char) :=
  if width ≤ spaces line then some (line.drop width)
  else if spaces line = line.length then some []
  else none

/-- The leading lines of a block. -/
def blockLines (width : Nat) : List (List Char) → List (List Char)
  | [] => []
  | line :: lines =>
      match blockLine? width line with
      | none => []
      | some content =>
          if width = 0 ∧ ({ rest := line, column := 0, fresh := true, anchors := [] : Cursor}).isAtMarker then []
          else content :: blockLines width lines

/-- Join the lines of a block.  Folding makes a space of the break between two lines of text, and
drops one of several breaks there; the breaks next to a line that begins with a blank stay. -/
def joinBlock (folds : Bool) (empties : Nat) (previous : Option (List Char)) :
    List (List Char) → List Char
  | [] => []
  | [] :: lines => joinBlock folds (empties + 1) previous lines
  | line :: lines =>
      let isIndented (line : List Char) : Bool := line.head?.any isBlank
      let joint :=
        match previous with
        | none => List.replicate empties '\n'
        | some before =>
            if folds ∧ !isIndented before ∧ !isIndented line then
              if empties = 0 then [' '] else List.replicate empties '\n'
            else List.replicate (empties + 1) '\n'
      joint ++ line ++ joinBlock folds 0 (some line) lines

/-- A block behind its indicator.  Without a width in its header its first line with content sets
the indentation, and no empty line before it may be longer. -/
def block? (folds : Bool) (indent : Int) (cursor : Cursor) : Option (List Char × Cursor) := do
  let (chomping, width, afterHeader) ← blockHeader? cursor.rest
  let commentOrBreak := afterHeader.dropWhile isBlank
  let isComment := commentOrBreak.head? = some '#' ∧ startsBlank afterHeader
  if !(isComment ∨ startsBlank commentOrBreak) then none
  match commentOrBreak.dropWhile (· ≠ '\n') with
  | [] => return ([], { cursor with rest := [], fresh := false })
  | _ :: body =>
      let lines := linesOf body
      let isEmpty (line : List Char) : Bool := spaces line = line.length
      let leading := lines.takeWhile isEmpty
      let first := (lines.drop leading.length).head?
      let found := (leading.map spaces).foldl max ((first.map spaces).getD 0)
      let width :=
        match width with
        | some width => (max indent 0).toNat + width
        | none =>
            let width := max found (indent + 1).toNat
            if 0 < indent then max width 1 else width
      match first with
      | none =>
          let breaks := leading.length - 1
          let text :=
            match chomping with
            | .strip => []
            | .clip => ['\n']
            | .keep => List.replicate (max breaks 1) '\n'
          return (text, { cursor with rest := [], column := 0, fresh := true })
      | some line =>
          if spaces line < width ∧ indent < spaces line then none
          let inside := blockLines width lines
          let atEnd := inside.length = lines.length
          -- The last line of the text has no line break behind it.
          let lastLine := lines.getLast?.getD []
          let unbroken := atEnd ∧ width < lastLine.length
          let content := if atEnd ∧ ¬unbroken then inside.dropLast else inside
          let filled := (content.reverse.dropWhile (· = [])).reverse
          let text := joinBlock folds 0 none content
          let finish :=
            (if filled = [] ∨ unbroken then [] else ['\n'])
              ++ if atEnd ∧ max width 1 ≤ lastLine.length then ['\n'] else []
          let finish :=
            match chomping with
            | .strip => []
            | .clip => finish
            | .keep => finish ++ List.replicate (content.length - filled.length) '\n'
          let left := List.intercalate ['\n'] (lines.drop inside.length)
          return (text ++ finish, { cursor with rest := left, column := 0, fresh := true })

end Tollgate.Document.Yaml
