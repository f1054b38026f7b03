import Tollgate.Spaces
import Tollgate.Trie
import Tollgate.Resource.Binding

/-!
# Grants by binding and credential

Each binding is kept compiled: its entries by credential, and the subpath rules of an entry in a
trie.  Of several entries for one credential the last counts, and so does the last of several
rules for one subpath.
-/

namespace Tollgate

/-- A permission entry with its subpath rules in a trie. -/
structure Grant where
  defaultRule : Rule
  subpaths : Trie Rule
  rate : Option Rate

namespace Grant

/-- Compile a permission entry. -/
def ofEntry (entry : PermissionEntry) : Grant where
  defaultRule := entry.defaultRule
  subpaths :=
    entry.subpaths.foldl
      (fun rules subpath => (rules.insert (Path.normalizedSegments subpath.path) subpath.rule).2)
      .empty
  rate := entry.rate

/-- The rule in force on a path: that of the deepest subpath, else the default. -/
def ruleAt (grant : Grant) (path : String) : Rule :=
  (grant.subpaths.lookup path).getD grant.defaultRule

end Grant

/-- The answer to a permission query. -/
structure Permission where
  rule : Rule
  rate : Option Rate
  deriving DecidableEq, Repr

/-- The grants of every loaded binding, by credential. -/
structure Grants where
  bindings : Spaces (Dict String Grant)

namespace Grants

/-- No bindings. -/
def empty : Grants :=
  ⟨.empty⟩

instance : Inhabited Grants :=
  ⟨empty⟩

/-- Load a binding, in place of one with the same name. -/
def set (grants : Grants) (binding : Binding) : Grants :=
  let entries := binding.entries.map fun entry => (entry.credential, Grant.ofEntry entry)
  ⟨grants.bindings.insert binding.id (.ofList entries)⟩

/-- What a credential may do under a binding on a path.  Nothing is found when the binding has no
entry for the credential, which differs from an entry that denies every method. -/
def get? (grants : Grants) (binding : ResourceName) (credential path : String) :
    Option Permission := do
  let entries ← grants.bindings.get? binding
  let grant ← entries.get? credential
  return ⟨grant.ruleAt path, grant.rate⟩

/-- Whether a binding is loaded. -/
def contains (grants : Grants) (binding : ResourceName) : Bool :=
  grants.bindings.contains binding

/-- Unload a binding; tells whether it was loaded. -/
def delete (grants : Grants) (binding : ResourceName) : Bool × Grants :=
  (grants.contains binding, ⟨grants.bindings.erase binding⟩)

/-- Whether no binding is loaded. -/
def isEmpty (grants : Grants) : Bool :=
  grants.bindings.isEmpty

end Grants

end Tollgate
