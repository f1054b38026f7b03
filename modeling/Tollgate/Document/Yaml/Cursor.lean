import Tollgate.Document.Yaml.Node

/-!
# Cursors

A cursor stands before what is left of a text, and knows its column and whether only blanks stand
before it on its line.  It also carries the nodes that were given names so far.
-/

namespace Tollgate.Document.Yaml

/-- The blanks within a line. -/
def isBlank (c : Char) : Bool :=
  c = ' ' || c = '\t'

/-- The characters with a meaning inside brackets and braces. -/
def isFlow (c : Char) : Bool :=
  c = ',' || c = '[' || c = ']' || c = '{' || c = '}'

/-- Whether a text begins with a blank or a line break, or is at its end. -/
def startsBlank : List Char → Bool
  | [] => true
  | c :: _ => isBlank c || c = '\n'

/-- A place in a text. -/
structure Cursor where
  rest : List Char
  column : Nat
  fresh : Bool
  anchors : List (String × Node)

namespace Cursor

/-- The start of a text.  All line breaks are line feeds from here on. -/
def start (text : List Char) : Cursor :=
  let rec unify : List Char → List Char
    | '\r' :: '\n' :: rest => '\n' :: unify rest
    | '\r' :: rest => '\n' :: unify rest
    | c :: rest => c :: unify rest
    | [] => []
  ⟨(unify text).takeWhile (· ≠ '\x00'), 0, true, []⟩

/-- The place so many characters further on the same line. -/
def advance (cursor : Cursor) (count : Nat) : Cursor :=
  { cursor with rest := cursor.rest.drop count, column := cursor.column + count, fresh := false }

/-- The place behind the blanks of a line. -/
def skipInline (cursor : Cursor) : Cursor :=
  let blanks := (cursor.rest.takeWhile isBlank).length
  { cursor with rest := cursor.rest.drop blanks, column := cursor.column + blanks }

/-- Whether a line with `---` or `...` begins here. -/
def isAtMarker (cursor : Cursor) : Bool :=
  cursor.column = 0 &&
    match cursor.rest with
    | '-' :: '-' :: '-' :: rest => startsBlank rest
    | '.' :: '.' :: '.' :: rest => startsBlank rest
    | _ => false

/-- Whether a document has ended. -/
def isAtEnd (cursor : Cursor) : Bool :=
  cursor.rest.isEmpty || cursor.isAtMarker

/-- Whether an indicator with a blank behind it stands here. -/
def isAtIndicator (indicator : Char) (cursor : Cursor) : Bool :=
  match cursor.rest with
  | c :: rest => c = indicator && startsBlank rest
  | [] => false

/-- The place behind the colon at a cursor.  Tabs alone do not set a word off from it. -/
def behindColon? (cursor : Cursor) : Option Cursor :=
  let next := cursor.advance 1
  let blanks := next.rest.takeWhile isBlank
  let isWord (c : Char) : Bool := c.isAlphanum || c = '_' || c = '-'
  let isTabbed := blanks.head? = some '\t' && blanks.all (· = '\t')
  if isTabbed && (next.rest.drop blanks.length).head?.any isWord then none else some next

/-- The place behind the dash at a cursor.  No tab stands between it and another dash. -/
def behindDash? (cursor : Cursor) : Option Cursor :=
  let next := cursor.advance 1
  let blanks := next.rest.takeWhile isBlank
  if blanks.contains '\t' && (next.advance blanks.length).isAtIndicator '-' then none
  else some next

/-- Whether a line has no content. -/
def isBlankLine (line : List Char) : Bool :=
  match line.dropWhile isBlank with
  | [] => true
  | c :: _ => c = '\n' || c = '#'

/-- Pass over blanks, line breaks and comments.  A comment stands behind a blank or at the start of
its line, and no tab stands left of the indentation of a line with content. -/
def skipFrom (indent : Int) (inComment behindBlank : Bool) :
    List Char → (column : Nat) → (fresh : Bool) → Option (List Char × Nat × Bool)
  | [], column, fresh => some ([], column, fresh)
  | c :: rest, column, fresh =>
      if c = '\n' then skipFrom indent false true rest 0 true
      else if inComment then skipFrom indent true behindBlank rest (column + 1) fresh
      else if c = ' ' then skipFrom indent false true rest (column + 1) fresh
      else if c = '\t' then
        if fresh ∧ column < indent ∧ !isBlankLine rest then none
        else skipFrom indent false true rest (column + 1) fresh
      else if c = '#' then
        if behindBlank ∨ fresh then skipFrom indent true behindBlank rest (column + 1) fresh
        else none
      else some (c :: rest, column, fresh)

/-- The next place with content. -/
def skip? (indent : Int) (cursor : Cursor) : Option Cursor :=
  (skipFrom indent false false cursor.rest cursor.column cursor.fresh).map
    fun (rest, column, fresh) => { cursor with rest, column, fresh }

/-- The next place with content inside brackets and braces, which keep to the indentation of the
block around them. -/
def skipFlow? (indent : Int) (cursor : Cursor) : Option Cursor := do
  let cursor ← cursor.skip? indent
  if cursor.isAtEnd ∨ (cursor.fresh ∧ cursor.column < indent) then none else return cursor

/-- A stretch of blanks, or of line breaks with the blanks around them. -/
structure Gap where
  blanks : List Char
  breaks : Nat
  /-- Whether a tab stands left of the indentation. -/
  tabbed : Bool

/-- Measure the gap at a cursor, and go to its end. -/
def gapFrom (indent : Int) (blanks : List Char) (breaks : Nat) (tabbed : Bool) :
    List Char → (column : Nat) → Gap × List Char × Nat
  | [], column => (⟨blanks.reverse, breaks, tabbed⟩, [], column)
  | c :: rest, column =>
      if c = '\n' then gapFrom indent [] (breaks + 1) false rest 0
      else if isBlank c then
        gapFrom indent (c :: blanks) breaks
          (tabbed || (c = '\t' && 0 < breaks && column < indent)) rest (column + 1)
      else (⟨blanks.reverse, breaks, tabbed⟩, c :: rest, column)

/-- The gap at a cursor, and the place behind it. -/
def gap (indent : Int) (cursor : Cursor) : Gap × Cursor :=
  let (gap, rest, column) := gapFrom indent [] 0 false cursor.rest cursor.column
  (gap, { cursor with rest, column, fresh := 0 < gap.breaks })

/-- What a gap with line breaks contributes to a scalar: one break is a space, and of more breaks
all but the first are kept. -/
def Gap.folded (gap : Gap) : List Char :=
  if gap.breaks = 0 then gap.blanks
  else if gap.breaks = 1 then [' ']
  else List.replicate (gap.breaks - 1) '\n'

end Cursor

end Tollgate.Document.Yaml
