import Tollgate.Resource.Name
import Tollgate.Resource.Binding

/-!
# Mock targets

A mock target answers in a backend's place with canned responses.  Header lists are kept in
ascending order of their names, one value a name, so that equal headers are equal lists.
-/

namespace Tollgate

/-- Response headers in ascending order of their names. -/
structure Headers where
  entries : List (String × String) := []
  ascending : entries.Pairwise fun a b => a.1 < b.1 := by exact .nil
  deriving DecidableEq, Repr

namespace Headers

/-- No headers. -/
def empty : Headers :=
  {}

instance : Inhabited Headers :=
  ⟨empty⟩

/-- Enter a header into an ascending list, in place of one with the same name. -/
def place (name value : String) : List (String × String) → List (String × String)
  | [] => [(name, value)]
  | entry :: rest =>
      if name = entry.1 then (name, value) :: rest
      else if name < entry.1 then (name, value) :: entry :: rest
      else entry :: place name value rest

theorem mem_place {name value : String} {entries : List (String × String)}
    {entry : String × String} (found : entry ∈ place name value entries) :
    entry = (name, value) ∨ entry ∈ entries := by
  induction entries with
  | nil => simpa [place] using found
  | cons first rest ih =>
      unfold place at found
      split at found
      · rcases List.mem_cons.1 found with here | there
        · exact .inl here
        · exact .inr (List.mem_cons_of_mem _ there)
      · split at found
        · simpa using found
        · rcases List.mem_cons.1 found with here | there
          · exact .inr (by simp [here])
          · exact (ih there).imp id (List.mem_cons_of_mem _)

theorem place_ascending {entries : List (String × String)}
    (ascending : entries.Pairwise fun a b => a.1 < b.1) (name value : String) :
    (place name value entries).Pairwise fun a b => a.1 < b.1 := by
  induction entries with
  | nil => simp [place]
  | cons first rest ih =>
      obtain ⟨below, tail⟩ := List.pairwise_cons.1 ascending
      unfold place
      split
      · next same => exact List.pairwise_cons.2 ⟨fun entry h => same ▸ below entry h, tail⟩
      · split
        · next before =>
          refine List.pairwise_cons.2 ⟨fun entry h => ?_, ascending⟩
          rcases List.mem_cons.1 h with rfl | h
          · exact before
          · exact String.lt_trans before (below entry h)
        · next differs before =>
          refine List.pairwise_cons.2 ⟨fun entry h => ?_, ih tail⟩
          rcases mem_place h with rfl | h
          · exact Std.lt_of_le_of_ne (String.not_lt.1 before) (Ne.symm differs)
          · exact below entry h

/-- Enter a header, in place of one with the same name. -/
def insert (headers : Headers) (name value : String) : Headers :=
  ⟨place name value headers.entries, place_ascending headers.ascending name value⟩

/-- Enter a list of headers one after the other, so that of one name the last stays. -/
def ofList (headers : List (String × String)) : Headers :=
  headers.foldl (fun all header => all.insert header.1 header.2) {}

end Headers

/-- A canned response. -/
structure MockRoute where
  path : String
  status : UInt16 := 200
  methods : List String := []
  headers : Headers := {}
  body : String := ""
  deriving DecidableEq, Repr, Inhabited

namespace MockRoute

/-- Whether a canned response answers a method; one without methods answers none. -/
def serves (route : MockRoute) (method : String) : Bool :=
  route.methods.any (sameLetters · method)

end MockRoute

/-- A named list of canned responses. -/
structure MockTarget where
  id : ResourceName
  routes : List MockRoute := []
  deriving DecidableEq, Repr, Inhabited

end Tollgate
