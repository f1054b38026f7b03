import Tollgate.Command.Arguments
import Tollgate.Source.Watch

/-!
# Running commands

A command sees the files and yields lines for its two outputs and an exit code.  Only a watch goes
on after that.
-/

namespace Tollgate

/-- What a command leaves behind. -/
structure Outcome where
  code : UInt8 := 0
  output : List String := []
  errors : List String := []
  deriving DecidableEq, Repr

namespace Command

/-- A command that failed. -/
def failed (output errors : List String) : Outcome :=
  { code := 1, output, errors }

/-- The lines of a fault that ends a command. -/
def faultLines (fault : LoadFault) : List String :=
  ["Error: " ++ fault.report]

/-- The summary of a loaded manifest. -/
def summary (manifest : Manifest) (gateway : Gateway) : List String :=
  let row (label : String) (count : Nat) : String :=
    "   • " ++ label ++ ": " ++ toString count
  ["", "📋 Manifest Summary:",
    row "Routes" manifest.routes.length,
    row "Bindings" manifest.bindings.length,
    row "Credentials" manifest.credentials.length,
    row "Mock targets" manifest.mockTargets.length,
    row "Distinct credential values" gateway.keys.size,
    ""]

/-- What to do about refused resources. -/
def advice : List String :=
  ["", "💡 Common fixes:",
    "   • Give every route a unique (sourcePath, sourceVirtualHost)",
    "   • Give every mock target at least one route",
    "   • List at least one revision for every credential"]

/-- The verdict on a manifest: it is accepted when a fresh gateway refuses none of its resources. -/
def verdict (manifest : Manifest) : Outcome :=
  let (refused, gateway) := Gateway.fresh.loadAll manifest
  let parsed := "✅ Manifest parsing: OK" :: summary manifest gateway
  if refused = 0 then
    { output := parsed ++ ["🎉 Manifest is valid and ready to use!"] }
  else
    failed (parsed ++ advice)
      ["❌ " ++ toString refused ++ " resource(s) were rejected by the stores (see log above)"]

/-- Check a manifest. -/
def runCheck (files : Files) (path : String) : Outcome :=
  let heading := "🔍 Checking manifest: " ++ path
  if !files.has path then
    failed [heading] ["❌ Error: Manifest '" ++ path ++ "' not found"]
  else
    match Source.start files path with
    | .error fault => failed [heading] (faultLines fault)
    | .ok source =>
        match source.load files with
        | .error fault =>
            failed [heading] ["❌ Manifest parsing failed:", "   " ++ fault.report]
        | .ok manifest =>
            let outcome := verdict manifest
            { outcome with output := heading :: outcome.output }

/-- The line that tells a decision. -/
def decisionLine : Decision → String
  | .forward route path =>
      let scheme := if route.tls then "https" else "http"
      "➡️  forward via " ++ route.id.text ++ ": " ++ scheme ++ "://" ++ route.backend ++ path
  | .mock response => "🧪 mock " ++ toString response.status ++ ": " ++ response.body
  | denied => "⛔ " ++ denied.word

/-- Resolve a request.  A gateway without traffic answers the same at any time, so any will do. -/
def runResolve (files : Files) (path : String) (request : Request) : Outcome :=
  match (Source.start files path).bind (·.load files) with
  | .error fault => failed [] (faultLines fault)
  | .ok manifest =>
      let (refused, gateway) := Gateway.fresh.loadAll manifest
      let errors :=
        if refused = 0 then []
        else ["⚠️  " ++ toString refused ++ " resource(s) in " ++ path ++ " were rejected"]
      match gateway.handle request 0 with
      | .error fault => failed [] (errors ++ [fault.message])
      | .ok (decision, _) => { output := [decisionLine decision], errors }

/-- The settings that a watch goes by; a missing file leaves them at their defaults. -/
def watchSettings (files : Files) (path : String) : Except LoadFault Settings :=
  if files.has path then files.settings path else .ok {}

/-- The path of the manifest to watch. -/
def watchPath? (settings : Settings) (manifest : Option String) : Option String :=
  manifest.or settings.manifestPath

/-- Begin a watch; what keeps it from beginning ends the command. -/
def startWatch (files : Files) (settingsPath : String) (manifest : Option String) :
    Except Outcome (Settings × Watch) :=
  match watchSettings files settingsPath with
  | .error fault => .error (failed [] (faultLines fault))
  | .ok settings =>
      match watchPath? settings manifest with
      | none =>
          .error (failed [] ["Error: No manifest given: pass --manifest or set manifest_path"])
      | some path =>
          match (Source.start files path).bind fun source =>
              Watch.refresh? { source } files with
          | .error fault => .error (failed [] (faultLines fault))
          | .ok (_, begun) => .ok (settings, begun)

/-- How the program is used. -/
def usage : List String :=
  ["Usage: kroute [-s SETTINGS] [check [-m MANIFEST] | watch [-m MANIFEST]",
    "  | resolve [-m MANIFEST] [--host HOST] [-X METHOD] [-c CREDENTIAL] PATH]"]

/-- What arguments that give no command leave behind. -/
def Usage.outcome : Usage → Outcome
  | .help => { output := usage }
  | .version => { output := ["kroute 0.1.0"] }
  | .fault => { code := 2, errors := usage }

/-- Run a command until it ends, or until its watch begins. -/
def run (files : Files) : Command → Except Outcome (Settings × Watch)
  | .check manifest => .error (runCheck files manifest)
  | .resolve manifest request => .error (runResolve files manifest request)
  | .watch settings manifest => startWatch files settings manifest

/-- The paths at which a command looks, as far as the files seen so far tell. -/
def paths (files : Files) : Command → List String
  | .check manifest => around manifest
  | .resolve manifest _ => around manifest
  | .watch settings manifest =>
      let named :=
        match watchSettings files settings with
        | .ok found => (watchPath? found manifest).toList
        | .error _ => []
      around settings ++ named.flatMap around
where
  /-- The paths that matter to a file and its directory. -/
  around (path : String) : List String :=
    Files.parent path :: Files.documentPaths path

end Command

end Tollgate
