/-!
# Dictionaries

A finite map as a list of entries no two of which share a key.  Its laws are those of `get?`,
`insert`, `erase` and `size`; the order of the entries shows in none of them.
-/

namespace Tollgate

universe u v

/-- A finite map from `κ` to `α`. -/
structure Dict (κ : Type u) (α : Type v) where
  entries : List (κ × α)
  distinct : entries.Pairwise fun a b => a.1 ≠ b.1

namespace Dict

variable {κ : Type u} {α : Type v}

/-- The map without entries. -/
def empty : Dict κ α :=
  ⟨[], .nil⟩

instance : Inhabited (Dict κ α) :=
  ⟨empty⟩

/-- The number of entries. -/
def size (dict : Dict κ α) : Nat :=
  dict.entries.length

/-- Whether there is no entry. -/
def isEmpty (dict : Dict κ α) : Bool :=
  dict.entries.isEmpty

variable [DecidableEq κ]

/-- The value under a key. -/
def get? (dict : Dict κ α) (key : κ) : Option α :=
  dict.entries.lookup key

/-- Whether there is a value under a key. -/
def contains (dict : Dict κ α) (key : κ) : Bool :=
  (dict.get? key).isSome

/-- Take away the entry under a key. -/
def erase (dict : Dict κ α) (key : κ) : Dict κ α :=
  ⟨dict.entries.filter (·.1 ≠ key), dict.distinct.filter _⟩

/-- Put a value under a key, in place of the one that stands there. -/
def insert (dict : Dict κ α) (key : κ) (value : α) : Dict κ α where
  entries := (key, value) :: (dict.erase key).entries
  distinct := by
    refine List.pairwise_cons.2 ⟨fun entry found => ?_, (dict.erase key).distinct⟩
    have kept := (List.mem_filter.1 found).2
    exact fun same => by simp [← same] at kept

/-- A single entry. -/
def singleton (key : κ) (value : α) : Dict κ α :=
  empty.insert key value

/-- Enter a list of pairs one after the other, so that of one key the last stays. -/
def ofList (pairs : List (κ × α)) : Dict κ α :=
  pairs.foldl (fun dict pair => dict.insert pair.1 pair.2) empty

@[simp]
theorem get?_empty (key : κ) : (empty : Dict κ α).get? key = none :=
  rfl

private theorem lookup_filter_ne (entries : List (κ × α)) (key other : κ) :
    (entries.filter (·.1 ≠ key)).lookup other =
      if other = key then none else entries.lookup other := by
  induction entries with
  | nil => simp
  | cons entry rest ih =>
      obtain ⟨found, value⟩ := entry
      by_cases removed : found = key
      · rw [List.filter_cons_of_neg (by simp [removed]), ih, List.lookup_cons]
        by_cases same : other = key
        · simp [same]
        · rw [if_neg same, if_neg same, show (other == found) = false by simpa [removed] using same]
      · rw [List.filter_cons_of_pos (by simp [removed]), List.lookup_cons, List.lookup_cons, ih]
        by_cases same : other = found
        · simp [same, removed]
        · rw [show (other == found) = false by simpa using same]

theorem get?_erase (dict : Dict κ α) (key other : κ) :
    (dict.erase key).get? other = if other = key then none else dict.get? other :=
  lookup_filter_ne dict.entries key other

theorem get?_insert (dict : Dict κ α) (key other : κ) (value : α) :
    (dict.insert key value).get? other = if other = key then some value else dict.get? other := by
  rw [get?, insert, List.lookup_cons]
  by_cases same : other = key
  · simp [same]
  · rw [show (other == key) = false by simpa using same, if_neg same]
    exact (get?_erase dict key other).trans (if_neg same)

end Dict

end Tollgate
