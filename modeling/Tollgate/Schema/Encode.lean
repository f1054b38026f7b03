import Tollgate.Json.Basic
import Tollgate.Schema.Decode

/-!
# Encoding resources

Every resource is written with all of its fields, under the names by which the decoders know
them.
-/

namespace Tollgate

open Json

/-- A route as JSON. -/
def Route.toJson (route : Route) : Json :=
  record
    [("name", text route.id.name),
      ("namespace", text route.id.space),
      ("sourcePath", text route.sourcePath),
      ("sourceVirtualHost", Json.optional text route.sourceHost),
      ("targetPath", text route.targetPath),
      ("targetBackend", text route.backend),
      ("targetSsl", .bool route.tls),
      ("plugins", texts route.plugins),
      ("binding", Json.optional text route.binding),
      ("mock", .bool route.mock)]

/-- A rule as JSON. -/
def Rule.toJson : Rule → Json
  | .global => record [("type", text "global")]
  | .granular verbs => record [("type", text "granular"), ("verbs", texts verbs)]

/-- A unit as JSON. -/
def RateUnit.toJson (unit : RateUnit) : Json :=
  text unit.word

/-- A rate as JSON. -/
def Rate.toJson (rate : Rate) : Json :=
  record
    [("amount", integer rate.amount.toInt), ("unit", Json.optional RateUnit.toJson rate.unit)]

/-- A rule for a subpath as JSON. -/
def SubpathRule.toJson (subpath : SubpathRule) : Json :=
  record [("path", text subpath.path), ("rule", subpath.rule.toJson)]

/-- A permission entry as JSON. -/
def PermissionEntry.toJson (entry : PermissionEntry) : Json :=
  record
    [("credentialName", text entry.credential),
      ("defaultRule", entry.defaultRule.toJson),
      ("subpaths", .array (entry.subpaths.map SubpathRule.toJson)),
      ("rate", Json.optional Rate.toJson entry.rate)]

/-- A binding as JSON. -/
def Binding.toJson (binding : Binding) : Json :=
  record
    [("name", text binding.id.name),
      ("namespace", text binding.id.space),
      ("credentials", .array (binding.entries.map PermissionEntry.toJson))]

/-- A credential as JSON. -/
def Credential.toJson (credential : Credential) : Json :=
  record
    [("name", text credential.id.name),
      ("namespace", text credential.id.space),
      ("revisions", texts credential.revisions)]

/-- Headers as JSON. -/
def Headers.toJson (headers : Headers) : Json :=
  record (headers.entries.map fun header => (header.1, text header.2))

/-- A canned response as JSON. -/
def MockRoute.toJson (route : MockRoute) : Json :=
  record
    [("path", text route.path),
      ("statusCode", integer route.status.toNat),
      ("methods", texts route.methods),
      ("headers", route.headers.toJson),
      ("body", text route.body)]

/-- A mock target as JSON. -/
def MockTarget.toJson (target : MockTarget) : Json :=
  record
    [("name", text target.id.name),
      ("namespace", text target.id.space),
      ("routes", .array (target.routes.map MockRoute.toJson))]

/-- A manifest as JSON. -/
def Manifest.toJson (manifest : Manifest) : Json :=
  record
    [("routes", .array (manifest.routes.map Route.toJson)),
      ("bindings", .array (manifest.bindings.map Binding.toJson)),
      ("credentials", .array (manifest.credentials.map Credential.toJson)),
      ("mockTargets", .array (manifest.mockTargets.map MockTarget.toJson))]

/-- Settings as JSON. -/
def Settings.toJson (settings : Settings) : Json :=
  record
    [("log_level", text settings.logLevel),
      ("json_logs", .bool settings.jsonLogs),
      ("manifest_path", Json.optional text settings.manifestPath),
      ("reload_debounce_ms", integer settings.debounceMillis.toNat)]

/-- A point of traffic as JSON. -/
def TrafficPoint.toJson (point : TrafficPoint) : Json :=
  record
    [("namespace", text point.bucket.route.space),
      ("routeName", text point.bucket.route.name),
      ("credentialName", text point.bucket.credential),
      ("timestamp", text point.timestamp.text)]

/-- The value of a resource of any kind as JSON. -/
def Resource.toJson : Resource → Json
  | .route value => value.toJson
  | .binding value => value.toJson
  | .credential value => value.toJson
  | .mockTarget value => value.toJson

end Tollgate
