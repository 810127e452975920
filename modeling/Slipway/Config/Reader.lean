import Slipway.Config
import Slipway.Json.Record
import Slipway.Yaml.Record

/-
  Reading a configuration from YAML, from JSON, and from a file with the environment on top. The
  fields have the same names in all forms. Absent fields have their defaults and unknown ones are
  passed over.
-/

namespace Slipway

namespace Telemetry

def fieldNames : List String := ["logLevel", "json", "jaeger", "serviceName"]

def ofYaml? (d : Yaml.Document) (n : Yaml.Node) : Option Telemetry := do
  let fields ← d.record? fieldNames n
  let get {α : Type} (name : String) (default : α) (read : Yaml.Node → Option α) : Option α :=
    match fields.lookup name with
    | some n => read n
    | none => some default
  pure {
    logLevel := ← get "logLevel" ({} : Telemetry).logLevel d.text?
    json := ← get "json" false d.bool?
    jaeger := ← get "jaeger" false d.bool?
    serviceName := ← get "serviceName" ({} : Telemetry).serviceName d.text? }

def ofJson? (j : Json) : Option Telemetry := do
  let f ← Json.record? fieldNames j
  pure {
    logLevel := ← Json.defaulted ({} : Telemetry).logLevel Json.string? (f "logLevel")
    json := ← Json.defaulted false Json.bool? (f "json")
    jaeger := ← Json.defaulted false Json.bool? (f "jaeger")
    serviceName := ← Json.defaulted ({} : Telemetry).serviceName Json.string? (f "serviceName") }

end Telemetry

namespace Config

def fieldNames : List String := [
  "namespace", "forceBuild", "defaultImageTag", "defaultGitRef", "defaultContextDir",
  "gitSourceSecret", "binaryBaseImage", "defaultDockerfile", "createRoute", "routeDomain",
  "servicePort", "mavenLocalRepository", "telemetry"]

def ofYaml? (d : Yaml.Document) (n : Yaml.Node) : Option Config := do
  let fields ← d.record? fieldNames n
  let get {α : Type} (name : String) (default : α) (read : Yaml.Node → Option α) : Option α :=
    match fields.lookup name with
    | some n => read n
    | none => some default
  let text (name : String) (default : Config → String) := get name (default {}) d.text?
  let optional (name : String) := get name none (d.optional? d.text?)
  pure {
    targetNamespace := ← optional "namespace"
    forceBuild := ← get "forceBuild" false d.bool?
    defaultImageTag := ← text "defaultImageTag" (·.defaultImageTag)
    defaultGitRef := ← text "defaultGitRef" (·.defaultGitRef)
    defaultContextDir := ← text "defaultContextDir" (·.defaultContextDir)
    gitSourceSecret := ← optional "gitSourceSecret"
    binaryBaseImage := ← text "binaryBaseImage" (·.binaryBaseImage)
    defaultDockerfile := ← text "defaultDockerfile" (·.defaultDockerfile)
    createRoute := ← get "createRoute" false d.bool?
    routeDomain := ← optional "routeDomain"
    servicePort := ← get "servicePort" ({} : Config).servicePort d.int32?
    mavenLocalRepository := ← optional "mavenLocalRepository"
    telemetry := ← get "telemetry" {} (Telemetry.ofYaml? d) }

/-- Reads YAML text. Text without a document stands for the defaults. -/
def parseYaml (s : String) : Result Config :=
  if (Text.nonBlank? s).isNone then .ok {}
  else match Yaml.Document.ofText? s with
    | none => .error .badYaml
    | some d =>
      match d.root with
      | none => .ok {}
      | some n =>
        match ofYaml? d n with
        | some c => .ok c
        | none => .error .badYaml

def ofJson? (j : Json) : Option Config := do
  let f ← Json.record? fieldNames j
  let text (name : String) (default : Config → String) :=
    Json.defaulted (default {}) Json.string? (f name)
  let optional (name : String) := Json.optional Json.string? (f name)
  pure {
    targetNamespace := ← optional "namespace"
    forceBuild := ← Json.defaulted false Json.bool? (f "forceBuild")
    defaultImageTag := ← text "defaultImageTag" (·.defaultImageTag)
    defaultGitRef := ← text "defaultGitRef" (·.defaultGitRef)
    defaultContextDir := ← text "defaultContextDir" (·.defaultContextDir)
    gitSourceSecret := ← optional "gitSourceSecret"
    binaryBaseImage := ← text "binaryBaseImage" (·.binaryBaseImage)
    defaultDockerfile := ← text "defaultDockerfile" (·.defaultDockerfile)
    createRoute := ← Json.defaulted false Json.bool? (f "createRoute")
    routeDomain := ← optional "routeDomain"
    servicePort := ← Json.defaulted ({} : Config).servicePort Json.int32? (f "servicePort")
    mavenLocalRepository := ← optional "mavenLocalRepository"
    telemetry := ← Json.defaulted {} Telemetry.ofJson? (f "telemetry") }

def toJson (c : Config) : Json :=
  let optional := Json.ofOption Json.string
  .object [
    ("namespace", optional c.targetNamespace),
    ("forceBuild", .bool c.forceBuild),
    ("defaultImageTag", .string c.defaultImageTag),
    ("defaultGitRef", .string c.defaultGitRef),
    ("defaultContextDir", .string c.defaultContextDir),
    ("gitSourceSecret", optional c.gitSourceSecret),
    ("binaryBaseImage", .string c.binaryBaseImage),
    ("defaultDockerfile", .string c.defaultDockerfile),
    ("createRoute", .bool c.createRoute),
    ("routeDomain", optional c.routeDomain),
    ("servicePort", Json.ofInt32 c.servicePort),
    ("mavenLocalRepository", optional c.mavenLocalRepository),
    ("telemetry", .object [
      ("logLevel", .string c.telemetry.logLevel),
      ("json", .bool c.telemetry.json),
      ("jaeger", .bool c.telemetry.jaeger),
      ("serviceName", .string c.telemetry.serviceName)])]

/-- The configuration in a file, or the defaults, with the environment on top. -/
def load (files : Files) (lookup : String → Option String) (path : Option String) :
    Result Config := do
  let c ← match path with
    | some path => do
      parseYaml (← (files.readText path).mapError fun e => .config (.unreadableFile path e))
    | none => pure {}
  c.applyOverrides lookup

end Config

end Slipway
