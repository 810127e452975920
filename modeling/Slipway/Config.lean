import Slipway.Failure
import Slipway.Text.Cut

/-
  The configuration of the deployer. Every field has a default; a few can be set by environment
  variables. A configuration is checked before it is used.
-/

namespace Slipway

/-- How the deployer reports on itself. -/
structure Telemetry where
  logLevel : String := "info"
  json : Bool := false
  jaeger : Bool := false
  serviceName : String := "ph-deployer"
  deriving DecidableEq, Repr

/-- The Dockerfile of a build that asks for one and gives none. -/
def bundledDockerfile : String :=
  "FROM registry.access.redhat.com/ubi9/openjdk-17-runtime:latest\n" ++
  "COPY *.jar /deployments/app.jar\n" ++
  "EXPOSE 8080\n" ++
  "ENTRYPOINT [\"java\", \"-jar\", \"/deployments/app.jar\"]\n"

structure Config where
  /-- The namespace to deploy into; without one the client's own. -/
  targetNamespace : Option String := none
  /-- Builds even what is built already, unless a request says otherwise. -/
  forceBuild : Bool := false
  defaultImageTag : String := "latest"
  defaultGitRef : String := "master"
  /-- The directory of a source tree that is built. -/
  defaultContextDir : String := "src/main/docker"
  gitSourceSecret : Option String := none
  /-- The image that builds uploaded artifacts. -/
  binaryBaseImage : String := "registry.access.redhat.com/ubi9/openjdk-17:latest"
  defaultDockerfile : String := bundledDockerfile
  createRoute : Bool := false
  routeDomain : Option String := none
  servicePort : Int32 := 8080
  mavenLocalRepository : Option String := none
  telemetry : Telemetry := {}
  deriving DecidableEq, Repr

namespace Config

def namespaceVariable : String := "PH_DEPLOYER_NAMESPACE"
def forceBuildVariable : String := "PH_DEPLOYER_FORCE_BUILD"
def gitSourceSecretVariable : String := "PH_DEPLOYER_GIT_SOURCE_SECRET"
def mavenLocalRepositoryVariable : String := "PH_DEPLOYER_MAVEN_LOCAL_REPOSITORY"

/-- Images need a tag, and a port is a number from 1 to 65535. -/
def validate (c : Config) : Result Config :=
  if (Text.nonBlank? c.defaultImageTag).isNone then .error (.config .emptyImageTag)
  else if 1 ≤ c.servicePort ∧ c.servicePort ≤ 65535 then .ok c
  else .error (.config (.badServicePort c.servicePort))

def parseForceBuild (value : String) : Result Bool :=
  match Text.asciiLower value with
  | "true" => .ok true
  | "false" => .ok false
  | other => .error (.config (.variableNotBoolean forceBuildVariable other))

/-- Environment variables that are not blank take the place of what the configuration says. -/
def applyOverrides (lookup : String → Option String) (c : Config) : Result Config := do
  let given (name : String) : Option String := (lookup name).bind Text.nonBlank?
  let forceBuild ← match given forceBuildVariable with
    | some value => parseForceBuild value
    | none => pure c.forceBuild
  validate { c with
    targetNamespace := (given namespaceVariable).or c.targetNamespace
    forceBuild
    gitSourceSecret := (given gitSourceSecretVariable).or c.gitSourceSecret
    mavenLocalRepository := (given mavenLocalRepositoryVariable).or c.mavenLocalRepository }

end Config

end Slipway
