/-!
# Names of resources

Every resource lives in a namespace and has a name there.
-/

namespace Tollgate

/-- A resource's namespace (`space`) and its name in it. -/
structure ResourceName where
  space : String
  name : String
  deriving DecidableEq, Repr, Inhabited

namespace ResourceName

/-- The name as messages show it: namespace, slash, name. -/
def text (id : ResourceName) : String :=
  id.space ++ "/" ++ id.name

end ResourceName

end Tollgate
