import Tollgate.Document.Yaml.Scalar

/-!
# Reading YAML

Blocks are read by indentation: `indent` is the column of the innermost list or table around a
node, and whatever belongs to the node stands to the right of it.  A list may also stand in the
very column of the table whose value it is.  Inside brackets and braces indentation hardly counts.
-/

namespace Tollgate.Document.Yaml

/-- The name and the tag that stand before a node. -/
structure Properties where
  anchor : Option String := none
  tag : Option Tag := none

namespace Properties

/-- Whether there are none. -/
def isEmpty (properties : Properties) : Bool :=
  properties.anchor.isNone && properties.tag.isNone

/-- Remember a node under its name. -/
def register (properties : Properties) (node : Node) (cursor : Cursor) : Cursor :=
  match properties.anchor with
  | none => cursor
  | some name => { cursor with anchors := (name, node) :: cursor.anchors }

end Properties

/-- The characters of a name or a tag from here on. -/
def nameRun (text : List Char) : List Char :=
  text.takeWhile fun c => !(isBlank c || c = '\n' || isFlow c)

/-- The tag behind an exclamation mark, and the length of its text. -/
def tag? (text : List Char) : Option (Tag × Nat) :=
  match text with
  | '<' :: rest =>
      let uri := rest.takeWhile (· ≠ '>')
      if uri.length = rest.length ∨ uri = [] then none else some (.other, uri.length + 2)
  | '!' :: rest =>
      let name := nameRun rest
      if name = [] then none else some (.core (String.ofList name), name.length + 1)
  | _ =>
      let name := nameRun text
      if name.contains '!' then none else some (.other, name.length)

/-- The properties at a cursor, with blanks or line breaks behind each. -/
def properties? (indent : Int) (cursor : Cursor) : Option (Properties × Cursor) := do
  let (first, cursor) ← property? {} cursor
  let (second, last) ← property? first (← cursor.skip? indent)
  if (second.anchor, second.tag) = (first.anchor, first.tag) then return (first, cursor)
  else return (second, last)
where
  /-- One property, if there is one, added to those found before. -/
  property? (found : Properties) (cursor : Cursor) : Option (Properties × Cursor) :=
    match cursor.rest with
    | '&' :: rest =>
        let name := nameRun rest
        if found.anchor.isSome ∨ name = [] then none
        else
          let named := { found with anchor := some (String.ofList name) }
          some (named, named.register .null (cursor.advance (name.length + 1)))
    | '!' :: rest =>
        match found.tag, tag? rest with
        | none, some (tag, length) =>
            let last := cursor.advance (length + 1)
            if startsBlank last.rest ∨ last.rest.head?.any isFlow then
              some ({ found with tag := some tag }, last)
            else none
        | _, _ => none
    | _ => some (found, cursor)

/-- The node that an alias at the cursor stands for. -/
def alias? (cursor : Cursor) : Option (Node × Cursor) :=
  let name := nameRun (cursor.rest.drop 1)
  (cursor.anchors.lookup (String.ofList name)).map (·, cursor.advance (name.length + 1))

/-- A quoted scalar at the cursor. -/
def quoted? (indent : Int) (cursor : Cursor) : Option (Node × Cursor) := do
  let read := if cursor.rest.head? = some '"' then doubleQuoted? else singleQuoted?
  let (chars, last) ← read indent (cursor.rest.length + 1) (cursor.advance 1)
  return (.scalar (.text (String.ofList chars)), last)

/-- Whether what stands between two places is on one line. -/
def isOneLine (first last : Cursor) : Bool :=
  !(first.rest.take (first.rest.length - last.rest.length)).contains '\n'

/-- Whether a colon inside brackets marks a key: it has a blank or an indicator behind it, or it
stands right behind a quoted or bracketed key. -/
def isFlowMark (adjacent : Bool) (cursor : Cursor) : Bool :=
  match cursor.rest with
  | ':' :: rest => adjacent || startsBlank rest || rest.head?.any isFlow
  | _ => false

/-- Whether a node inside brackets begins like a quoted or bracketed one. -/
def isEnclosed (cursor : Cursor) : Bool :=
  match cursor.rest with
  | c :: _ => c = '"' || c = '\'' || c = '[' || c = '{'
  | [] => false

/-! ## Inside brackets and braces -/

mutual

/-- A node inside brackets or braces; there may be none before an indicator. -/
def flowNode? : (fuel : Nat) → (indent : Int) → Cursor → Option (Node × Cursor)
  | 0, _, _ => none
  | fuel + 1, indent, start => do
      let (found, cursor) ← properties? indent start
      let cursor ← cursor.skipFlow? indent
      let (node, last) ←
        match cursor.rest with
        | '[' :: _ => flowList? fuel indent [] (cursor.advance 1)
        | '{' :: _ => flowTable? fuel indent [] (cursor.advance 1)
        | '"' :: _ => quoted? indent cursor
        | '\'' :: _ => quoted? indent cursor
        | '*' :: _ => alias? cursor
        | _ =>
            let isNothing := cursor.rest.head?.any isFlow || isFlowMark false cursor
            if isNothing then some (.scalar (tagged "" found.tag), cursor)
            else if startsPlain true cursor.rest then do
              let run := plainRun true cursor.rest
              let (tail, last) ←
                plainTail? true indent (cursor.rest.length + 1) (cursor.advance run.length)
              some (.scalar (tagged (String.ofList (run ++ tail)) found.tag), last)
            else none
      return (node, found.register node last)

/-- The value behind a key inside brackets or braces. -/
def flowValue? : (fuel : Nat) → (indent : Int) → Cursor → Option (Node × Cursor)
  | 0, _, _ => none
  | fuel + 1, indent, cursor => do
      flowNode? fuel indent (← cursor.skipFlow? indent)

/-- A key with its value, if it has one.  A question mark may stand before the key. -/
def flowPair? :
    (fuel : Nat) → (indent : Int) → Cursor → Option (Node × Option Node × Cursor)
  | 0, _, _ => none
  | fuel + 1, indent, start => do
      let isExplicit := start.isAtIndicator '?'
      let cursor ← if isExplicit then (start.advance 1).skipFlow? indent else some start
      let (key, last) ← flowNode? fuel indent cursor
      let next ← last.skipFlow? indent
      let adjacent := isEnclosed cursor && next.rest.length == last.rest.length
      if isFlowMark adjacent next then
        let (value, last) ← flowValue? fuel indent (← next.behindColon?)
        return (key, some value, last)
      else return (key, if isExplicit then some .null else none, last)

/-- The items of a list in brackets, behind the opening bracket or a comma. -/
def flowList? :
    (fuel : Nat) → (indent : Int) → List Node → Cursor → Option (Node × Cursor)
  | 0, _, _, _ => none
  | fuel + 1, indent, items, start => do
      let cursor ← start.skipFlow? indent
      match cursor.rest with
      | ']' :: _ => return (.list items.reverse, cursor.advance 1)
      | ',' :: _ => none
      | _ =>
          let (key, value, last) ← flowPair? fuel indent cursor
          let item ←
            match value with
            | none => some key
            | some value => (extend? [] key value).map .table
          let next ← last.skipFlow? indent
          match next.rest with
          | ',' :: _ => flowList? fuel indent (item :: items) (next.advance 1)
          | ']' :: _ => return (.list (item :: items).reverse, next.advance 1)
          | _ => none

/-- The entries of a table in braces, behind the opening brace or a comma. -/
def flowTable? :
    (fuel : Nat) → (indent : Int) → List (Scalar × Node) → Cursor → Option (Node × Cursor)
  | 0, _, _, _ => none
  | fuel + 1, indent, entries, start => do
      let cursor ← start.skipFlow? indent
      match cursor.rest with
      | '}' :: _ => return (.table entries, cursor.advance 1)
      | ',' :: _ => none
      | _ =>
          let (key, value, last) ← flowPair? fuel indent cursor
          let entries ← extend? entries key (value.getD .null)
          let next ← last.skipFlow? indent
          match next.rest with
          | ',' :: _ => flowTable? fuel indent entries (next.advance 1)
          | '}' :: _ => return (.table entries, next.advance 1)
          | _ => none

end

/-! ## Blocks -/

/-- A node that stands on its own and may be a key: an alias, a quoted scalar, or brackets. -/
def enclosed? (indent : Int) (cursor : Cursor) : Option (Node × Cursor) :=
  match cursor.rest with
  | '*' :: _ => alias? cursor
  | '"' :: _ => quoted? indent cursor
  | '\'' :: _ => quoted? indent cursor
  | _ => flowNode? (4 * cursor.rest.length + 4) indent cursor

/-- Whether a node begins here that stands on its own. -/
def startsEnclosed (cursor : Cursor) : Bool :=
  isEnclosed cursor || cursor.rest.head? = some '*'

/-- The place behind the mark of a key whose text ends at the cursor. -/
def keyMark? (cursor : Cursor) : Option Cursor :=
  let next := cursor.skipInline
  if next.isAtIndicator ':' then next.behindColon? else none

/-- A key on one line with its mark, behind its properties. -/
def key? (indent : Int) (found : Properties) (cursor : Cursor) : Option (Node × Cursor) := do
  if startsEnclosed cursor then
    let (key, last) ← enclosed? indent cursor
    if !isOneLine cursor last then none
    return (key, found.register key (← keyMark? last))
  else if startsPlain false cursor.rest then
    let run := plainRun false cursor.rest
    let key := Node.scalar (tagged (String.ofList run) found.tag)
    return (key, found.register key (← keyMark? (cursor.advance run.length)))
  else none

/-- A block of lines at the cursor, behind its properties. -/
def blockNode? (folds : Bool) (indent : Int) (found : Properties) (cursor : Cursor) :
    Option (Node × Cursor) := do
  let (chars, last) ← block? folds indent (cursor.advance 1)
  let node := Node.scalar (.text (String.ofList chars))
  return (node, found.register node last)

/-- Whether a node has ended at a line: the document has, or the line stands left of it. -/
def endsBefore (column : Nat) (cursor : Cursor) : Bool :=
  cursor.isAtEnd || (cursor.fresh && cursor.column < column)

mutual

/-- The node behind an indicator or at the start of a document.  `opens` tells whether a list or
table may begin on the same line, and `beside` whether a list may stand in the column of the table
around it. -/
def node? :
    (fuel : Nat) → (indent : Int) → (opens beside : Bool) → Cursor → Option (Node × Cursor)
  | 0, _, _, _, _ => none
  | fuel + 1, indent, opens, beside, start => do
      let isOutside (cursor : Cursor) : Bool :=
        cursor.isAtEnd || (cursor.fresh && cursor.column ≤ indent &&
          !(beside && cursor.column = indent && cursor.isAtIndicator '-'))
      let cursor ← start.skip? indent
      let opens := opens || cursor.fresh
      if isOutside cursor then return (.null, cursor)
      let (found, behind) ← properties? indent cursor
      if found.isEmpty then content? fuel indent opens cursor.column {} cursor
      else
        let next ← behind.skip? indent
        if isOutside next then
          let node := Node.scalar (tagged "" found.tag)
          return (node, found.register node next)
        else if next.fresh then
          let (node, last) ← content? fuel indent true next.column { tag := found.tag } next
          return (node, found.register node last)
        else content? fuel indent opens cursor.column found next

/-- A node behind its properties.  `column` is where a table would stand whose first key begins
here. -/
def content? :
    (fuel : Nat) → (indent : Int) → (opens : Bool) → (column : Nat) → Properties → Cursor →
      Option (Node × Cursor)
  | 0, _, _, _, _, _ => none
  | fuel + 1, indent, opens, column, found, cursor => do
      if cursor.isAtIndicator '-' then
        if opens ∧ found.anchor.isNone then list? fuel column [] cursor else none
      else if cursor.isAtIndicator '?' ∨ cursor.isAtIndicator ':' then
        if opens ∧ found.anchor.isNone then keyed? fuel column [] cursor else none
      else
        match cursor.rest with
        | '|' :: _ => blockNode? false indent found cursor
        | '>' :: _ => blockNode? true indent found cursor
        | _ =>
            match key? indent found cursor with
            | some (key, last) =>
                if opens then value? fuel column [] key last else none
            | none =>
                if startsEnclosed cursor then do
                  let (node, last) ← enclosed? indent cursor
                  return (node, found.register node last)
                else if startsPlain false cursor.rest then do
                  let run := plainRun false cursor.rest
                  let (tail, last) ←
                    plainTail? false indent (cursor.rest.length + 1) (cursor.advance run.length)
                  let node := Node.scalar (tagged (String.ofList (run ++ tail)) found.tag)
                  return (node, found.register node last)
                else none

/-- The items of a list, from the indicator of one on. -/
def list? : (fuel : Nat) → (column : Nat) → List Node → Cursor → Option (Node × Cursor)
  | 0, _, _, _ => none
  | fuel + 1, column, items, cursor => do
      let (item, last) ← node? fuel column true false (← cursor.behindDash?)
      let next ← last.skip? column
      if next.fresh ∧ next.column = column ∧ next.isAtIndicator '-' ∧ !next.isAtEnd then
        list? fuel column (item :: items) next
      else if endsBefore column next ∨ (next.fresh ∧ next.column = column) then
        return (.list (item :: items).reverse, next)
      else none

/-- The value of a key and the entries behind it, from the key's mark on. -/
def value? :
    (fuel : Nat) → (column : Nat) → List (Scalar × Node) → Node → Cursor → Option (Node × Cursor)
  | 0, _, _, _, _ => none
  | fuel + 1, column, entries, key, cursor => do
      let (value, last) ← node? fuel column false true cursor
      entries? fuel column (← extend? entries key value) last

/-- The further entries of a table. -/
def entries? :
    (fuel : Nat) → (column : Nat) → List (Scalar × Node) → Cursor → Option (Node × Cursor)
  | 0, _, _, _ => none
  | fuel + 1, column, entries, cursor => do
      let next ← cursor.skip? column
      if endsBefore column next then return (.table entries, next)
      else if next.fresh ∧ next.column = column then keyed? fuel column entries next
      else none

/-- An entry of a table and those behind it.  A question mark may stand before the key. -/
def keyed? :
    (fuel : Nat) → (column : Nat) → List (Scalar × Node) → Cursor → Option (Node × Cursor)
  | 0, _, _, _ => none
  | fuel + 1, column, entries, cursor => do
      if cursor.isAtIndicator '?' then
        let (key, last) ← node? fuel column true false (cursor.advance 1)
        let next ← last.skip? column
        if next.fresh ∧ next.column = column ∧ next.isAtIndicator ':' then
          let (value, last) ← node? fuel column true true (← next.behindColon?)
          entries? fuel column (← extend? entries key value) last
        else entries? fuel column (← extend? entries key .null) last
      else if cursor.isAtIndicator '-' then none
      else
        let (found, behind) ← properties? column cursor
        let behind ← behind.skip? column
        let (key, last) ← key? column found behind
        value? fuel column entries key last

end

/-! ## Documents -/

/-- The place behind the directives of a document. -/
def skipDirectives? : (fuel : Nat) → Cursor → Option Cursor
  | 0, _ => none
  | fuel + 1, cursor => do
      let next ← cursor.skip? (-1)
      if next.column = 0 ∧ next.rest.head? = some '%' then
        let rest := next.rest.dropWhile (· ≠ '\n')
        let last ← skipDirectives? fuel { next with rest }
        if last.isAtMarker then return last else none
      else return next

/-- The documents of a text. -/
def documents? : (fuel : Nat) → Cursor → Option (List Node)
  | 0, _ => none
  | fuel + 1, cursor => do
      let start ← skipDirectives? (cursor.rest.length + 1) cursor
      match start.rest with
      | [] => return []
      | c :: _ =>
          if start.isAtMarker ∧ c = '.' then
            documents? fuel (start.advance 3)
          else
            let isMarked := start.isAtMarker
            let body := if isMarked then start.advance 3 else start
            let (node, last) ← node? (4 * body.rest.length + 8) (-1) (!isMarked) false body
            let last ← last.skip? (-1)
            if last.isAtEnd then
              let rest ← documents? fuel { last with anchors := [] }
              return node :: rest
            else none

end Yaml

/-- Read a YAML text of at most one document.  A text without any is an empty table. -/
def readYaml? (text : String) : Option Document := do
  let cursor := Yaml.Cursor.start text.toList
  match ← Yaml.documents? (cursor.rest.length + 2) cursor with
  | [] => return .table []
  | [node] => node.document?
  | _ => none

end Tollgate.Document
