/-!
# Documents

What a configuration file says, whatever its format: scalars, lists, and tables whose keys are
distinct.  The keys at the top of a file may be written as paths, such as `routes[0].name`; a
value is put where its path leads, and a table is merged into what is already there.
-/

namespace Tollgate

/-- The content of a configuration file. -/
inductive Document where
  | null
  | bool (value : Bool)
  | int (value : Int)
  | float (value : Float)
  | text (value : String)
  | list (items : List Document)
  | table (entries : List (String × Document))
  deriving Inhabited, Repr

namespace Document

/-- Put a value under a key: in place of the one there, or behind all others. -/
def put (key : String) (value : Document) :
    List (String × Document) → List (String × Document)
  | [] => [(key, value)]
  | entry :: rest => if entry.1 = key then (key, value) :: rest else entry :: put key value rest

/-- A table of entries put in one after the other, so that of one key the last stays. -/
def tableOf (entries : List (String × Document)) : Document :=
  .table (entries.foldl (fun table entry => put entry.1 entry.2 table) [])

/-- The entries of a table; nothing else has any. -/
def entries : Document → List (String × Document)
  | .table entries => entries
  | _ => []

/-- The items of a list; nothing else has any. -/
def items : Document → List Document
  | .list items => items
  | _ => []

mutual

/-- Lay a value over another: tables are merged, and anything else takes the other's place. -/
def laidOver : Document → Document → Document
  | .table entries, below => .table (entriesOver entries below.entries)
  | value, _ => value

/-- Lay entries over those of a table. -/
def entriesOver : List (String × Document) → List (String × Document) →
    List (String × Document)
  | [], below => below
  | (key, value) :: rest, below =>
      entriesOver rest (put key (value.laidOver ((below.lookup key).getD .null)) below)

end

/-! ## Paths -/

/-- One step of a path below its first key. -/
inductive Step where
  | key (name : String)
  | index (position : Int)
  deriving DecidableEq, Repr

/-- The characters of the keys of a path. -/
def isKeyChar (c : Char) : Bool :=
  c.isAlphanum || c = '_' || c = '-'

/-- The position that the digits in brackets give, counted from the end when negative. -/
def position? (chars : List Char) : Option Int :=
  let (negative, digits) :=
    match chars with
    | '-' :: rest => (true, rest)
    | rest => (false, rest)
  if digits = [] ∨ !digits.all Char.isDigit then none
  else
    let value := digits.foldl (fun value c => value * 10 + (c.toNat - '0'.toNat)) 0
    if value < Int.pow 2 63 then some (if negative then -value else value) else none

/-- The steps that a text spells. -/
def steps? : (fuel : Nat) → List Char → Option (List Step)
  | _, [] => some []
  | 0, _ => none
  | fuel + 1, '.' :: rest =>
      match rest.takeWhile isKeyChar with
      | [] => none
      | key => (steps? fuel (rest.dropWhile isKeyChar)).map (.key (String.ofList key) :: ·)
  | fuel + 1, '[' :: rest =>
      match position? (rest.takeWhile (· ≠ ']')), rest.dropWhile (· ≠ ']') with
      | some position, ']' :: rest => (steps? fuel rest).map (.index position :: ·)
      | _, _ => none
  | _, _ => none

/-- A key as a path.  A text that spells no path is a key as it is. -/
def pathOfKey (key : String) : String × List Step :=
  let chars := key.toList
  match chars.takeWhile isKeyChar, steps? chars.length (chars.dropWhile isKeyChar) with
  | [], _ => (key, [])
  | _, none => (key, [])
  | first, some steps => (String.ofList first, steps)

/-- Put a value where steps lead, making tables and lists on the way.  A position before the first
item makes room before it, one behind the last item behind it. -/
def assign (value : Document) : List Step → Document → Document
  | [], target => value.laidOver target
  | .key name :: rest, target =>
      let inner := (target.entries.lookup name).getD .null
      .table (put name (assign value rest inner) target.entries)
  | .index position :: rest, target =>
      let length : Int := target.items.length
      let missing := (-(length + position)).toNat
      let (items, index) :=
        if 0 ≤ position then
          (target.items ++ List.replicate (position.toNat + 1 - target.items.length) .null,
            position.toNat)
        else if 0 ≤ length + position then (target.items, (length + position).toNat)
        else (List.replicate missing .null ++ target.items, 0)
      .list (items.modify index (assign value rest))

/-- A document whose top keys are taken as paths.  Where the paths of two keys overlap, the order in
which they are assigned shows.  Here it is the order of the document, but no document is promised
any order of its top keys. -/
def expand (document : Document) : Document :=
  document.entries.foldl
    (fun whole entry =>
      let (first, steps) := pathOfKey entry.1
      assign entry.2 (.key first :: steps) whole)
    (.table [])

end Document

end Tollgate
