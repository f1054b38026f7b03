/-!
# Paths

A path is a text cut at its slashes.  Everything keyed by a path is keyed by its non-empty pieces,
so that leading, repeated and trailing slashes never matter; `normalize` writes those pieces in
one spelling, and `segments` reads them back from it.
-/

namespace Tollgate.Path

/-- Cut a text at every slash.  A text with `n` slashes has `n + 1` pieces. -/
def pieces : List Char → List (List Char)
  | [] => [[]]
  | c :: rest =>
      if c = '/' then [] :: pieces rest
      else
        match pieces rest with
        | [] => [[c]]
        | first :: others => (c :: first) :: others

/-- The non-empty pieces of a path, in order. -/
def parts (path : String) : List String :=
  ((pieces path.toList).filter (· ≠ [])).map String.ofList

/-- Write every part behind a slash. -/
def spell (parts : List String) : List Char :=
  parts.flatMap fun part => '/' :: part.toList

/-- The one spelling of a path: a slash before each part, and a lone slash for no parts at all. -/
def normalize (path : String) : String :=
  match parts path with
  | [] => "/"
  | first :: others => String.ofList (spell (first :: others))

/-- The segments that a path spells out: one leading slash is dropped, and what remains is cut at
its slashes.  Empty segments are kept, so `/a/` has a second, empty one. -/
def segments (path : String) : List String :=
  let body :=
    match path.toList with
    | '/' :: rest => rest
    | chars => chars
  if body = [] then [] else (pieces body).map String.ofList

/-- The segments of the normal spelling of a path. -/
def normalizedSegments (path : String) : List String :=
  segments (normalize path)

/-- The rest of a text behind its beginning. -/
def behind? : (beginning text : List Char) → Option (List Char)
  | [], text => some text
  | _ :: _, [] => none
  | b :: beginning, c :: text => if b = c then behind? beginning text else none

theorem pieces_ne_nil (text : List Char) : pieces text ≠ [] := by
  cases text with
  | nil => simp [pieces]
  | cons c rest =>
      unfold pieces
      split
      · simp
      · split <;> simp

@[simp]
theorem pieces_nil : pieces [] = [[]] :=
  rfl

@[simp]
theorem pieces_slash (rest : List Char) : pieces ('/' :: rest) = [] :: pieces rest := by
  simp [pieces]

@[simp]
theorem spell_nil : spell [] = [] :=
  rfl

@[simp]
theorem spell_cons (part : String) (parts : List String) :
    spell (part :: parts) = '/' :: (part.toList ++ spell parts) := by
  simp [spell]

@[simp]
theorem behind?_nil (text : List Char) : behind? [] text = some text := by
  cases text <;> rfl

theorem behind?_eq_some_iff {beginning text rest : List Char} :
    behind? beginning text = some rest ↔ text = beginning ++ rest := by
  induction beginning generalizing text with
  | nil => simp [eq_comm]
  | cons b beginning ih =>
      cases text with
      | nil => simp [behind?]
      | cons c text =>
          by_cases same : b = c
          · simp [behind?, same, ih]
          · simp [behind?, same, Ne.symm same]

end Tollgate.Path
