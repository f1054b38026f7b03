import Tollgate.Document.Basic

/-!
# Tables of TOML

A table is defined once: by its header, by a dotted key, or in a line as a value.  Headers may
open tables inside those that are there, and a table that so far was only passed through may
still be defined by its header.
-/

namespace Tollgate.Document.Toml

/-- How a table came to be. -/
inductive Origin where
  /-- A header passed through it. -/
  | passed
  /-- Its own header. -/
  | header
  /-- A dotted key passed through it. -/
  | dotted
  deriving DecidableEq, Repr

/-- A table under construction, or a finished value, or the tables of a repeated header. -/
inductive Node where
  | value (document : Document)
  | table (origin : Origin) (entries : List (String × Node))
  | tables (items : List (List (String × Node)))
  deriving Inhabited

/-- The entries of a table under construction. -/
abbrev Entries := List (String × Node)

/-- Put a node under a key: in place of the one there, or behind all others. -/
def place (key : String) (node : Node) : Entries → Entries
  | [] => [(key, node)]
  | entry :: rest => if entry.1 = key then (key, node) :: rest else entry :: place key node rest

/-- Apply a change to the last of several tables. -/
def changeLast? (change : Entries → Option Entries) : List Entries → Option (List Entries)
  | [] => none
  | [last] => (change last).map ([·])
  | first :: rest => (changeLast? change rest).map (first :: ·)

/-- Follow a header to its last key, and change what is there. -/
def atHeader? (change : Option Node → Option Node) : List String → Entries → Option Entries
  | [], _ => none
  | [key], entries => (change (entries.lookup key)).map (place key · entries)
  | key :: rest, entries =>
      match entries.lookup key with
      | none =>
          (atHeader? change rest []).map fun inner => place key (.table .passed inner) entries
      | some (.table origin inner) =>
          (atHeader? change rest inner).map fun inner => place key (.table origin inner) entries
      | some (.tables items) =>
          (changeLast? (atHeader? change rest) items).map fun items =>
            place key (.tables items) entries
      | some (.value _) => none

/-- Open the table of a header. -/
def openTable? : Option Node → Option Node
  | none => some (.table .header [])
  | some (.table .passed inner) => some (.table .header inner)
  | some _ => none

/-- Open the next table of a repeated header. -/
def openNext? : Option Node → Option Node
  | none => some (.tables [[]])
  | some (.tables items) => some (.tables (items ++ [[]]))
  | some _ => none

/-- Give a value to dotted keys below a table.  A table that was passed through by a header may be
passed through again, but not filled. -/
def assign? (value : Document) : List String → Entries → Option Entries
  | [], _ => none
  | [key], entries =>
      match entries.lookup key with
      | none => some (place key (.value value) entries)
      | some _ => none
  | key :: rest, entries =>
      match entries.lookup key with
      | none => (assign? value rest []).map fun inner => place key (.table .dotted inner) entries
      | some (.table .dotted inner) =>
          (assign? value rest inner).map fun inner => place key (.table .dotted inner) entries
      | some (.table .passed inner) =>
          if rest.length = 1 then none
          else
            (assign? value rest inner).map fun inner => place key (.table .passed inner) entries
      | some _ => none

/-- Give a value to keys below the table of a header. -/
def assignBelow? (keys : List String) (value : Document) (header : List String)
    (entries : Entries) : Option Entries :=
  if header = [] then assign? value keys entries
  else
    let change : Option Node → Option Node
      | some (.table origin inner) => (assign? value keys inner).map (.table origin)
      | some (.tables items) => (changeLast? (assign? value keys) items).map .tables
      | _ => none
    atHeader? change header entries

mutual

/-- The document of a node. -/
def Node.document : Node → Document
  | .value document => document
  | .table _ entries => .table (documentsOf entries)
  | .tables items => .list (tablesOf items)

/-- The documents of entries. -/
def documentsOf : List (String × Node) → List (String × Document)
  | [] => []
  | (key, node) :: rest => (key, node.document) :: documentsOf rest

/-- The documents of several tables. -/
def tablesOf : List (List (String × Node)) → List Document
  | [] => []
  | entries :: rest => .table (documentsOf entries) :: tablesOf rest

end

end Tollgate.Document.Toml
