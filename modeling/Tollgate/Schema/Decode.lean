import Tollgate.Manifest
import Tollgate.Schema.Reading
import Tollgate.Settings
import Tollgate.Store.Traffic
import Tollgate.Timestamp

/-!
# Decoding resources

The fields of every resource, their order and their defaults.  A rule is told apart by its type
before anything else of it is read; its fields are never converted.
-/

namespace Tollgate

/-- One accepted request as it is written in a document. -/
structure TrafficPoint where
  bucket : Bucket
  timestamp : Timestamp
  deriving DecidableEq, Repr

/-- A point as it is recorded. -/
def TrafficPoint.arrival (point : TrafficPoint) : Arrival where
  bucket := point.bucket
  time := point.timestamp.instant

namespace Reading

variable {τ : Type} (reading : Reading τ)

/-- Namespace and name among the fields of a resource. -/
def resourceName? (fields : Fields τ) : Option ResourceName := do
  let name ← fields.required "name" reading.text?
  let space ← fields.required "namespace" reading.text?
  return ⟨space, name⟩

/-- A 16-bit status. -/
def status? (value : τ) : Option UInt16 :=
  (reading.unsigned? value).bind fun status =>
    if status < UInt16.size then some (UInt16.ofNat status) else none

/-- A signed 64-bit amount. -/
def amount? (value : τ) : Option Int64 :=
  (reading.signed? value).bind fun amount =>
    if Int64.minValue.toInt ≤ amount ∧ amount ≤ Int64.maxValue.toInt then
      some (Int64.ofInt amount)
    else none

/-- A number of milliseconds in an unsigned 64-bit word. -/
def millis? (value : τ) : Option UInt64 :=
  (reading.unsigned? value).bind fun millis =>
    if millis < UInt64.size then some (UInt64.ofNat millis) else none

/-- A route. -/
def route? (value : τ) : Option Route := do
  let fields ← reading.fields?
    ["name", "namespace", "sourcePath", "sourceVirtualHost", "targetPath", "targetBackend",
      "targetSsl", "plugins", "binding", "mock"] value
  let id ← reading.resourceName? fields
  let sourcePath ← fields.required "sourcePath" reading.text?
  let sourceHost ← fields.withDefault "sourceVirtualHost" none (reading.option? reading.text?)
  let targetPath ← fields.withDefault "targetPath" "" reading.text?
  let backend ← fields.required "targetBackend" reading.text?
  let tls ← fields.withDefault "targetSsl" false reading.flag?
  let plugins ← fields.withDefault "plugins" [] reading.texts?
  let binding ← fields.withDefault "binding" none (reading.option? reading.text?)
  let mock ← fields.withDefault "mock" false reading.flag?
  return { id, sourcePath, sourceHost, targetPath, backend, tls, plugins, binding, mock }

/-- The methods of a granular rule; they are words, never converted. -/
def verbs? (value : τ) : Option (List String) :=
  reading.list? reading.word? value

/-- A rule from its members, or from a list that begins with its type. -/
def rule? (value : τ) : Option Rule :=
  if reading.isSettled value then
    match reading.members? value with
    | some members => do
        let fields ← reading.fields? ["type"] value
        let type ← fields.required "type" reading.word?
        if type = "global" then return .global
        else if type = "granular" then
          let known := members.filter (·.1 = "verbs")
          match known with
          | [] => return .granular []
          | [(_, verbs)] => return .granular (← reading.verbs? verbs)
          | _ => none
        else none
    | none => do
        match ← reading.elements? value with
        | [] => none
        | first :: rest =>
            let type ← reading.word? first
            if type = "global" then if rest.isEmpty then return .global else none
            else if type = "granular" then
              match rest with
              | [] => return .granular []
              | [verbs] => return .granular (← reading.verbs? verbs)
              | _ => none
            else none
  else none

/-- A unit of time. -/
def rateUnit? (value : τ) : Option RateUnit :=
  (reading.choice? value).bind RateUnit.ofWord?

/-- A rate. -/
def rate? (value : τ) : Option Rate := do
  let fields ← reading.fields? ["amount", "unit"] value
  let amount ← fields.withDefault "amount" 0 reading.amount?
  let unit ← fields.withDefault "unit" none (reading.option? reading.rateUnit?)
  return { amount, unit }

/-- A rule for a subpath. -/
def subpathRule? (value : τ) : Option SubpathRule := do
  let fields ← reading.fields? ["path", "rule"] value
  let path ← fields.required "path" reading.text?
  let rule ← fields.required "rule" reading.rule?
  return { path, rule }

/-- A permission entry. -/
def permission? (value : τ) : Option PermissionEntry := do
  let fields ← reading.fields? ["credentialName", "defaultRule", "subpaths", "rate"] value
  let credential ← fields.required "credentialName" reading.text?
  let defaultRule ← fields.required "defaultRule" reading.rule?
  let subpaths ← fields.withDefault "subpaths" [] (reading.list? reading.subpathRule?)
  let rate ← fields.withDefault "rate" none (reading.option? reading.rate?)
  return { credential, defaultRule, subpaths, rate }

/-- A binding. -/
def binding? (value : τ) : Option Binding := do
  let fields ← reading.fields? ["name", "namespace", "credentials"] value
  let id ← reading.resourceName? fields
  let entries ← fields.withDefault "credentials" [] (reading.list? reading.permission?)
  return { id, entries }

/-- A credential. -/
def credential? (value : τ) : Option Credential := do
  let fields ← reading.fields? ["name", "namespace", "revisions"] value
  let id ← reading.resourceName? fields
  let revisions ← fields.withDefault "revisions" [] reading.texts?
  return { id, revisions }

/-- Response headers; of a repeated name the last value stays. -/
def headers? (value : τ) : Option Headers := do
  let members ← reading.members? value
  let entries ← members.mapM fun (name, value) => (reading.text? value).map (name, ·)
  return .ofList entries

/-- A canned response. -/
def mockRoute? (value : τ) : Option MockRoute := do
  let fields ← reading.fields? ["path", "statusCode", "methods", "headers", "body"] value
  let path ← fields.required "path" reading.text?
  let status ← fields.withDefault "statusCode" 200 reading.status?
  let methods ← fields.withDefault "methods" [] reading.texts?
  let headers ← fields.withDefault "headers" .empty reading.headers?
  let body ← fields.withDefault "body" "" reading.text?
  return { path, status, methods, headers, body }

/-- A mock target. -/
def mockTarget? (value : τ) : Option MockTarget := do
  let fields ← reading.fields? ["name", "namespace", "routes"] value
  let id ← reading.resourceName? fields
  let routes ← fields.withDefault "routes" [] (reading.list? reading.mockRoute?)
  return { id, routes }

/-- A manifest. -/
def manifest? (value : τ) : Option Manifest := do
  let fields ← reading.fields? ["routes", "bindings", "credentials", "mockTargets"] value
  let routes ← fields.withDefault "routes" [] (reading.list? reading.route?)
  let bindings ← fields.withDefault "bindings" [] (reading.list? reading.binding?)
  let credentials ← fields.withDefault "credentials" [] (reading.list? reading.credential?)
  let mockTargets ← fields.withDefault "mockTargets" [] (reading.list? reading.mockTarget?)
  return { routes, bindings, credentials, mockTargets }

/-- The settings of the process. -/
def settings? (value : τ) : Option Settings := do
  let fields ← reading.fields?
    ["log_level", "json_logs", "manifest_path", "reload_debounce_ms"] value
  let logLevel ← fields.withDefault "log_level" "info" reading.text?
  let jsonLogs ← fields.withDefault "json_logs" false reading.flag?
  let manifestPath ← fields.withDefault "manifest_path" none (reading.option? reading.text?)
  let debounceMillis ← fields.withDefault "reload_debounce_ms" 2000 reading.millis?
  return { logLevel, jsonLogs, manifestPath, debounceMillis }

/-- A point of traffic. -/
def trafficPoint? (value : τ) : Option TrafficPoint := do
  let fields ← reading.fields? ["namespace", "routeName", "credentialName", "timestamp"] value
  let space ← fields.required "namespace" reading.text?
  let name ← fields.required "routeName" reading.text?
  let credential ← fields.required "credentialName" reading.text?
  let timestamp ← fields.required "timestamp" fun value =>
    (reading.text? value).bind Timestamp.read?
  return { bucket := ⟨⟨space, name⟩, credential⟩, timestamp }

/-- A point that is read outside leap seconds is recorded at a representable instant. -/
theorem time_of_trafficPoint? {value : τ} {point : TrafficPoint}
    (read : reading.trafficPoint? value = some point)
    (unleaped : point.timestamp.nano < 1000000000) :
    Instant.earliest ≤ point.arrival.time ∧ point.arrival.time ≤ Instant.latest := by
  simp only [trafficPoint?, Fields.required, Option.bind_eq_bind, Option.bind_eq_some_iff] at read
  obtain ⟨_, _, _, _, _, _, _, _, _, ⟨_, _, text, _, timed⟩, same⟩ := read
  cases same
  exact Timestamp.instant_of_read? timed unleaped

end Reading

end Tollgate
