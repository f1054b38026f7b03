import Tollgate.Resource.Name

/-!
# Bindings

A binding says, credential by credential, what its holder may do: a default rule, rules for
subpaths that take its place below them, and a rate.
-/

namespace Tollgate

/-- Whether two texts agree up to the case of ASCII letters. -/
def sameLetters (a b : String) : Bool :=
  a.toList.map Char.toLower = b.toList.map Char.toLower

/-- An authorization rule. -/
inductive Rule where
  /-- Every method is allowed. -/
  | global
  /-- Only the listed methods are allowed; an empty list allows none. -/
  | granular (verbs : List String)
  deriving DecidableEq, Repr, Inhabited

namespace Rule

/-- The rule that allows no method. -/
def denyAll : Rule :=
  .granular []

/-- Whether a rule allows a method. -/
def authorizes : Rule → String → Bool
  | global, _ => true
  | granular verbs, method => verbs.any (sameLetters · method)

end Rule

/-- The unit of a rate's window. -/
inductive RateUnit where
  | second
  | minute
  | hour
  | day
  | week
  deriving DecidableEq, Repr, Inhabited

namespace RateUnit

/-- The length of the window in seconds. -/
def seconds : RateUnit → Nat
  | second => 1
  | minute => 60
  | hour => 60 * 60
  | day => 24 * 60 * 60
  | week => 7 * 24 * 60 * 60

/-- The length of the window in nanoseconds. -/
def nanos (unit : RateUnit) : Int :=
  1000000000 * unit.seconds

/-- The unit's word. -/
def word : RateUnit → String
  | second => "second"
  | minute => "minute"
  | hour => "hour"
  | day => "day"
  | week => "week"

/-- The unit with this word. -/
def ofWord? (word : String) : Option RateUnit :=
  [second, minute, hour, day, week].find? (·.word = word)

@[simp]
theorem ofWord?_word (unit : RateUnit) : ofWord? unit.word = some unit := by
  cases unit <;> decide

end RateUnit

/-- How much traffic a credential may cause.  An amount below one sets no limit; without a unit
the amount is a quota on all traffic ever recorded. -/
structure Rate where
  amount : Int64 := 0
  unit : Option RateUnit := none
  deriving DecidableEq, Repr, Inhabited

/-- A rule for everything below a path. -/
structure SubpathRule where
  path : String
  rule : Rule
  deriving DecidableEq, Repr, Inhabited

/-- What one credential may do under a binding. -/
structure PermissionEntry where
  credential : String
  defaultRule : Rule
  subpaths : List SubpathRule := []
  rate : Option Rate := none
  deriving DecidableEq, Repr, Inhabited

/-- A named list of permission entries. -/
structure Binding where
  id : ResourceName
  entries : List PermissionEntry := []
  deriving DecidableEq, Repr, Inhabited

namespace Binding

/-- The first entry for a credential. -/
def permission? (binding : Binding) (credential : String) : Option PermissionEntry :=
  binding.entries.find? (·.credential = credential)

end Binding

end Tollgate
