/-!
# Settings of the process
-/

namespace Tollgate

/-- What the process is told besides its manifest. -/
structure Settings where
  /-- A filter for log lines. -/
  logLevel : String := "info"
  /-- Log lines as JSON. -/
  jsonLogs : Bool := false
  /-- Where the manifest lies. -/
  manifestPath : Option String := none
  /-- The quiet time between reloads. -/
  debounceMillis : UInt64 := 2000
  deriving DecidableEq, Repr, Inhabited

end Tollgate
