import Slipway.Resource.Phase
import Slipway.Resource.Reference

/-
  Builds: where the source comes from, how an image is made of it, and where the image goes.
-/

namespace Slipway

inductive SourceType where
  | git
  | dockerfile
  | binary
  | other
  deriving DecidableEq, Repr

namespace SourceType

def name : SourceType → String
  | git => "Git"
  | dockerfile => "Dockerfile"
  | binary => "Binary"
  | other => "Other"

/-- A name that is not known is taken for another type. -/
def ofName (s : String) : SourceType :=
  match s with
  | "Git" => git
  | "Dockerfile" => dockerfile
  | "Binary" => binary
  | _ => other

def read? (j : Json) : Option SourceType := (Json.variant? j).map ofName

def toJson (t : SourceType) : Json := .string t.name

end SourceType

structure GitSource where
  uri : String
  branch : Option String := none
  deriving DecidableEq, Repr

namespace GitSource

def read? (j : Json) : Option GitSource := do
  let f ← Json.record? ["uri", "ref"] j
  pure {
    uri := ← Json.required Json.string? (f "uri")
    branch := ← Json.optional Json.string? (f "ref") }

def toJson (s : GitSource) : Json := Json.ofMembers [
  Json.member "uri" (.string s.uri),
  Json.memberOf "ref" .string s.branch]

end GitSource

/-- Source that is uploaded when the build starts. -/
structure BinarySource where
  asFile : Option String := none
  deriving DecidableEq, Repr

namespace BinarySource

def read? (j : Json) : Option BinarySource := do
  let f ← Json.record? ["asFile"] j
  pure { asFile := ← Json.optional Json.string? (f "asFile") }

def toJson (s : BinarySource) : Json := Json.ofMembers [Json.memberOf "asFile" .string s.asFile]

end BinarySource

structure BuildSource where
  sourceType : Option SourceType := none
  git : Option GitSource := none
  contextDir : Option String := none
  dockerfile : Option String := none
  binary : Option BinarySource := none
  sourceSecret : Option LocalReference := none
  deriving DecidableEq, Repr

namespace BuildSource

def fieldNames : List String :=
  ["type", "git", "contextDir", "dockerfile", "binary", "sourceSecret"]

def read? (j : Json) : Option BuildSource := do
  let f ← Json.record? fieldNames j
  pure {
    sourceType := ← Json.optional SourceType.read? (f "type")
    git := ← Json.optional GitSource.read? (f "git")
    contextDir := ← Json.optional Json.string? (f "contextDir")
    dockerfile := ← Json.optional Json.string? (f "dockerfile")
    binary := ← Json.optional BinarySource.read? (f "binary")
    sourceSecret := ← Json.optional LocalReference.read? (f "sourceSecret") }

def toJson (s : BuildSource) : Json := Json.ofMembers [
  Json.memberOf "type" SourceType.toJson s.sourceType,
  Json.memberOf "git" GitSource.toJson s.git,
  Json.memberOf "contextDir" .string s.contextDir,
  Json.memberOf "dockerfile" .string s.dockerfile,
  Json.memberOf "binary" BinarySource.toJson s.binary,
  Json.memberOf "sourceSecret" LocalReference.toJson s.sourceSecret]

end BuildSource

inductive StrategyType where
  | docker
  | source
  | other
  deriving DecidableEq, Repr

namespace StrategyType

def name : StrategyType → String
  | docker => "Docker"
  | source => "Source"
  | other => "Other"

/-- A name that is not known is taken for another type. -/
def ofName (s : String) : StrategyType :=
  match s with
  | "Docker" => docker
  | "Source" => source
  | _ => other

def read? (j : Json) : Option StrategyType := (Json.variant? j).map ofName

def toJson (t : StrategyType) : Json := .string t.name

end StrategyType

/-- A build by the instructions of a Dockerfile. -/
structure DockerStrategy where
  image : Option ObjectReference := none
  env : List Variable := []
  forcePull : Option Bool := none
  deriving DecidableEq, Repr

namespace DockerStrategy

def read? (j : Json) : Option DockerStrategy := do
  let f ← Json.record? ["from", "env", "forcePull"] j
  pure {
    image := ← Json.optional ObjectReference.read? (f "from")
    env := ← Json.defaulted [] (Json.listOf? Variable.read?) (f "env")
    forcePull := ← Json.optional Json.bool? (f "forcePull") }

def toJson (s : DockerStrategy) : Json := Json.ofMembers [
  Json.memberOf "from" ObjectReference.toJson s.image,
  Json.memberOfList "env" Variable.toJson s.env,
  Json.memberOf "forcePull" .bool s.forcePull]

end DockerStrategy

/-- A build by a builder image that takes the source in. -/
structure SourceStrategy where
  image : ObjectReference := {}
  env : List Variable := []
  forcePull : Option Bool := none
  deriving DecidableEq, Repr

namespace SourceStrategy

def read? (j : Json) : Option SourceStrategy := do
  let f ← Json.record? ["from", "env", "forcePull"] j
  pure {
    image := ← Json.defaulted {} ObjectReference.read? (f "from")
    env := ← Json.defaulted [] (Json.listOf? Variable.read?) (f "env")
    forcePull := ← Json.optional Json.bool? (f "forcePull") }

def toJson (s : SourceStrategy) : Json := Json.ofMembers [
  Json.member "from" s.image.toJson,
  Json.memberOfList "env" Variable.toJson s.env,
  Json.memberOf "forcePull" .bool s.forcePull]

end SourceStrategy

structure BuildStrategy where
  strategyType : Option StrategyType := none
  docker : Option DockerStrategy := none
  source : Option SourceStrategy := none
  deriving DecidableEq, Repr

namespace BuildStrategy

def read? (j : Json) : Option BuildStrategy := do
  let f ← Json.record? ["type", "dockerStrategy", "sourceStrategy"] j
  pure {
    strategyType := ← Json.optional StrategyType.read? (f "type")
    docker := ← Json.optional DockerStrategy.read? (f "dockerStrategy")
    source := ← Json.optional SourceStrategy.read? (f "sourceStrategy") }

def toJson (s : BuildStrategy) : Json := Json.ofMembers [
  Json.memberOf "type" StrategyType.toJson s.strategyType,
  Json.memberOf "dockerStrategy" DockerStrategy.toJson s.docker,
  Json.memberOf "sourceStrategy" SourceStrategy.toJson s.source]

/-- The environment of whichever strategy is there. -/
def env (s : BuildStrategy) : List Variable :=
  match s.docker, s.source with
  | some d, _ => d.env
  | none, some s => s.env
  | none, none => []

/-- The value of the first variable of a name. -/
def envValue (s : BuildStrategy) (name : String) : Option String :=
  (s.env.find? (·.name = name)).bind (·.value)

end BuildStrategy

structure BuildOutput where
  target : Option ObjectReference := none
  deriving DecidableEq, Repr

namespace BuildOutput

def read? (j : Json) : Option BuildOutput := do
  let f ← Json.record? ["to"] j
  pure { target := ← Json.optional ObjectReference.read? (f "to") }

def toJson (o : BuildOutput) : Json := Json.ofMembers [
  Json.memberOf "to" ObjectReference.toJson o.target]

end BuildOutput

/-- What a build does. -/
structure BuildRecipe where
  source : BuildSource := {}
  strategy : BuildStrategy := {}
  output : BuildOutput := {}
  deriving DecidableEq, Repr

namespace BuildRecipe

def read? (j : Json) : Option BuildRecipe := do
  let f ← Json.record? ["source", "strategy", "output"] j
  pure {
    source := ← Json.defaulted {} BuildSource.read? (f "source")
    strategy := ← Json.defaulted {} BuildStrategy.read? (f "strategy")
    output := ← Json.defaulted {} BuildOutput.read? (f "output") }

def toJson (r : BuildRecipe) : Json := .object [
  ("source", r.source.toJson), ("strategy", r.strategy.toJson), ("output", r.output.toJson)]

end BuildRecipe

/-- What the builds that a build configuration starts do, and where they run. -/
structure BuildConfigSpec where
  recipe : BuildRecipe := {}
  serviceAccount : Option String := none
  nodeSelector : Option Attributes := none
  deriving DecidableEq, Repr

namespace BuildConfigSpec

def fieldNames : List String := ["source", "strategy", "output", "serviceAccount", "nodeSelector"]

def read? (j : Json) : Option BuildConfigSpec := do
  let f ← Json.record? fieldNames j
  pure {
    recipe := {
      source := ← Json.defaulted {} BuildSource.read? (f "source")
      strategy := ← Json.defaulted {} BuildStrategy.read? (f "strategy")
      output := ← Json.defaulted {} BuildOutput.read? (f "output") }
    serviceAccount := ← Json.optional Json.string? (f "serviceAccount")
    nodeSelector := ← Json.optional Json.attributes? (f "nodeSelector") }

def toJson (s : BuildConfigSpec) : Json := Json.ofMembers [
  Json.member "source" s.recipe.source.toJson,
  Json.member "strategy" s.recipe.strategy.toJson,
  Json.member "output" s.recipe.output.toJson,
  Json.memberOf "serviceAccount" .string s.serviceAccount,
  Json.memberOf "nodeSelector" Json.ofAttributes s.nodeSelector]

end BuildConfigSpec

namespace BuildPhase

def read? (j : Json) : Option BuildPhase := (Json.variant? j).bind ofName?

def toJson (p : BuildPhase) : Json := .string p.name

end BuildPhase

structure BuildStatus where
  phase : BuildPhase := .new
  message : Option String := none
  outputImage : Option String := none
  deriving DecidableEq, Repr

namespace BuildStatus

def read? (j : Json) : Option BuildStatus := do
  let f ← Json.record? ["phase", "message", "outputDockerImageReference"] j
  pure {
    phase := ← Json.defaulted .new BuildPhase.read? (f "phase")
    message := ← Json.optional Json.string? (f "message")
    outputImage := ← Json.optional Json.string? (f "outputDockerImageReference") }

def toJson (s : BuildStatus) : Json := Json.ofMembers [
  Json.member "phase" s.phase.toJson,
  Json.memberOf "message" .string s.message,
  Json.memberOf "outputDockerImageReference" .string s.outputImage]

end BuildStatus

/-! ## Image streams -/

/-- The place that builds push their images to. -/
structure ImageStreamSpec where
  /-- Whether pods may name the tags of the stream as images, if that is said. -/
  localLookup : Option Bool := none
  deriving DecidableEq, Repr

namespace ImageStreamSpec

def readLookup? (j : Json) : Option Bool := do
  let f ← Json.record? ["local"] j
  Json.required Json.bool? (f "local")

def read? (j : Json) : Option ImageStreamSpec := do
  let f ← Json.record? ["lookupPolicy"] j
  pure { localLookup := ← Json.optional readLookup? (f "lookupPolicy") }

def toJson (s : ImageStreamSpec) : Json := Json.ofMembers [
  Json.memberOf "lookupPolicy" (fun b => .object [("local", .bool b)]) s.localLookup]

end ImageStreamSpec

structure ImageStreamStatus where
  repository : Option String := none
  deriving DecidableEq, Repr

namespace ImageStreamStatus

def read? (j : Json) : Option ImageStreamStatus := do
  let f ← Json.record? ["dockerImageRepository"] j
  pure { repository := ← Json.optional Json.string? (f "dockerImageRepository") }

def toJson (s : ImageStreamStatus) : Json := Json.ofMembers [
  Json.memberOf "dockerImageRepository" .string s.repository]

end ImageStreamStatus

end Slipway
