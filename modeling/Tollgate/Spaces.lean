import Tollgate.Dict
import Tollgate.Resource.Name

/-!
# Dictionaries by namespace

What has a namespace and a name is kept on two levels: a dictionary of the namespaces, and for each
of them one of the names there.  A namespace comes with its first name and goes with its last, so
none is kept without names.
-/

namespace Tollgate

universe u

/-- A finite map from namespaces and names to `α`. -/
structure Spaces (α : Type u) where
  spaces : Dict String (Dict String α)
  inhabited : ∀ space names, spaces.get? space = some names → names.isEmpty = false

namespace Spaces

variable {α : Type u}

/-- The map without namespaces. -/
def empty : Spaces α :=
  ⟨.empty, nofun⟩

instance : Inhabited (Spaces α) :=
  ⟨empty⟩

/-- Whether there is no namespace. -/
def isEmpty (map : Spaces α) : Bool :=
  map.spaces.isEmpty

/-- The value under a name. -/
def get? (map : Spaces α) (id : ResourceName) : Option α :=
  (map.spaces.get? id.space).bind (·.get? id.name)

/-- Whether there is a value under a name. -/
def contains (map : Spaces α) (id : ResourceName) : Bool :=
  (map.get? id).isSome

/-- Put a value under a name, in place of the one that stands there. -/
def insert (map : Spaces α) (id : ResourceName) (value : α) : Spaces α where
  spaces :=
    map.spaces.insert id.space (((map.spaces.get? id.space).getD .empty).insert id.name value)
  inhabited := by
    intro space names found
    rw [Dict.get?_insert] at found
    split at found
    · cases found
      rfl
    · exact map.inhabited space names found

/-- Take away the value under a name, and with the last name its namespace. -/
def erase (map : Spaces α) (id : ResourceName) : Spaces α :=
  match map.spaces.get? id.space with
  | none => map
  | some names =>
      if deserted : (names.erase id.name).isEmpty then
        { spaces := map.spaces.erase id.space
          inhabited := by
            intro space names found
            rw [Dict.get?_erase] at found
            split at found
            · contradiction
            · exact map.inhabited space names found }
      else
        { spaces := map.spaces.insert id.space (names.erase id.name)
          inhabited := by
            intro space others found
            rw [Dict.get?_insert] at found
            split at found
            · cases found
              exact Bool.eq_false_iff.mpr deserted
            · exact map.inhabited space others found }

end Spaces

end Tollgate
