import Tollgate.Command.Run

/-!
# The program

Reads the files that a command looks at, runs the command on what was read, and prints what it
leaves behind.
-/

namespace Tollgate

/-- See what stands at a path.  What is there but cannot be read counts as a directory. -/
def seeAt (path : String) : IO (Option FileEntry) := do
  match ← (IO.FS.readFile path).toBaseIO with
  | .ok text => return some (.file text)
  | .error _ =>
      match ← (IO.FS.realPath path).toBaseIO with
      | .ok _ => return some .directory
      | .error _ => return none

/-- See what stands at some paths. -/
def seeAll (paths : List String) : IO Files := do
  let entries ← paths.filterMapM fun path => do
    return (← seeAt path).map ((path, ·))
  return Files.ofList entries

/-- See all that a command looks at: what is seen first may name what is to be seen next. -/
def seeFor (command : Command) : IO Files := do
  let first ← seeAll (command.paths .empty)
  seeAll (command.paths first)

/-- Print what a command leaves behind. -/
def report (outcome : Outcome) : IO UInt32 := do
  for line in outcome.output do
    IO.println line
  for line in outcome.errors do
    IO.eprintln line
  return outcome.code.toUInt32

/-- Look at the files again and again, and keep the gateway in step with them. -/
partial def keepWatching (pause : UInt32) (command : Command) (watch : Watch) : IO UInt32 := do
  IO.sleep pause
  keepWatching pause command (watch.refresh (← seeFor command))

end Tollgate

open Tollgate in
/-- Run the command that the arguments give. -/
def main (arguments : List String) : IO UInt32 := do
  match Command.ofArguments arguments with
  | .error usage => report usage.outcome
  | .ok command =>
      match command.run (← seeFor command) with
      | .error outcome => report outcome
      | .ok (settings, watch) => keepWatching settings.debounceMillis.toUInt32 command watch
