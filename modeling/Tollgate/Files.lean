import Tollgate.Path

/-!
# Files and their names

`Files` is what can be seen of a disk at one time.  The name of a file is the last piece of its
path that says where to go; empty pieces and lone dots say nothing.
-/

namespace Tollgate

/-- What stands at a path. -/
inductive FileEntry where
  | directory
  | file (text : String)
  deriving DecidableEq, Repr

/-- What stands at every path. -/
structure Files where
  find? : String → Option FileEntry

namespace Files

/-- Nothing at all. -/
def empty : Files :=
  ⟨fun _ => none⟩

instance : Inhabited Files :=
  ⟨empty⟩

/-- The files of a list, and nothing else; of one path the first entry counts. -/
def ofList (entries : List (String × FileEntry)) : Files :=
  ⟨fun path => entries.lookup path⟩

/-- Whether anything stands at a path. -/
def has (files : Files) (path : String) : Bool :=
  (files.find? path).isSome

/-- The text of the file at a path. -/
def text? (files : Files) (path : String) : Option String :=
  match files.find? path with
  | some (.file text) => some text
  | _ => none

/-! ## Names -/

/-- Whether a piece of a path leads nowhere else. -/
def isIdle (piece : List Char) : Bool :=
  piece = [] || piece = ['.']

/-- The pieces of a path from the last one on, without those that lead nowhere behind it. -/
def descent (path : String) : List (List Char) :=
  (Path.pieces path.toList).reverse.dropWhile isIdle

/-- Write pieces, the last one first, with slashes between them. -/
def spelling (pieces : List (List Char)) : String :=
  String.ofList (List.intercalate ['/'] pieces.reverse)

/-- The name of the file at a path.  A path that ends at a root or goes up has none. -/
def name? (path : String) : Option (List Char) :=
  match descent path with
  | [] => none
  | last :: _ => if last = ['.', '.'] then none else some last

/-- The directory that the file at a path lies in. -/
def parent (path : String) : String :=
  match (descent path).tail.dropWhile isIdle with
  | [] => if path.toList.head? = some '/' then "/" else "."
  | pieces => spelling pieces

/-- The extension of the file at a path: what stands behind the last dot of its name, unless the
name begins with that dot. -/
def extension? (path : String) : Option String :=
  (name? path).bind fun name =>
    let behind := name.reverse.takeWhile (· ≠ '.')
    if behind.length + 1 < name.length then some (String.ofList behind.reverse) else none

/-- The path of the file whose name has one more extension. -/
def beside (path extension : String) : String :=
  spelling (descent path) ++ "." ++ extension

end Files

end Tollgate
