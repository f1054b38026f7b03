import Tollgate.Gateway.Basic
import Tollgate.Source.Basic

/-!
# Watching a source

A watch keeps a gateway in step with a source: the events of every reload are applied to it, and a
reload that fails changes nothing.
-/

namespace Tollgate

/-- A gateway with the source that feeds it. -/
structure Watch where
  source : Source
  gateway : Gateway := .fresh

namespace Watch

/-- Reload the source and apply what has changed.  The number of refused events comes along. -/
def refresh? (watch : Watch) (files : Files) : Except LoadFault (Nat × Watch) := do
  let (events, source) ← watch.source.reload files
  let (refused, gateway) := watch.gateway.applyAll events
  return (refused, { source, gateway })

/-- Reload the source, if that is possible. -/
def refresh (watch : Watch) (files : Files) : Watch :=
  match watch.refresh? files with
  | .ok (_, next) => next
  | .error _ => watch

/-- What comes of a watch while its files change. -/
def run (watch : Watch) (history : List Files) : Watch :=
  history.foldl refresh watch

@[simp]
theorem run_nil (watch : Watch) : watch.run [] = watch :=
  rfl

@[simp]
theorem run_cons (watch : Watch) (files : Files) (history : List Files) :
    watch.run (files :: history) = (watch.refresh files).run history :=
  rfl

end Watch

end Tollgate
