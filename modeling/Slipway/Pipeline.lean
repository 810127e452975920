import Slipway.BuildHistory
import Slipway.BuildPlan
import Slipway.Bundle
import Slipway.Reconcile

/-
  The first half of every deployment: an image that is there already, one that an earlier build
  made or will make, or a new build.
-/

namespace Slipway

/-- What a deployer works with. -/
structure Deployer where
  config : Config
  resolver : Resolver
  files : Files
  targetNamespace : String

/-- How what follows a build comes about: the platform reacts to the image, or the build is
    watched. -/
inductive CompletionMode where
  | trigger
  | watch
  deriving DecidableEq, Repr

def CompletionMode.name : CompletionMode → String
  | trigger => "Trigger"
  | watch => "Watch"

inductive PipelineState where
  | notBuilt
  | building (build : String) (mode : CompletionMode)
  | buildReused (image : String)
  | deployed (image : String)
  deriving DecidableEq, Repr

def PipelineState.display : PipelineState → String
  | notBuilt => "NotBuilt"
  | building build mode => "Building(" ++ build ++ ", " ++ mode.name ++ ")"
  | buildReused image => "BuildReused(" ++ image ++ ")"
  | deployed image => "Deployed(" ++ image ++ ")"

/-- What came of the first half. -/
inductive Prepared where
  | noBuild (image : String)
  | reused (build image : String)
  /-- A build runs and will push to a tag. -/
  | submitted (build : Build) (imageStreamTag : String)

namespace Prepared

def state (mode : CompletionMode) : Prepared → PipelineState
  | noBuild image => .deployed image
  | reused _ image => .buildReused image
  | submitted build _ => .building build.name mode

/-- Where the containers have their image from. -/
def imageSource : Prepared → ImageSource
  | submitted _ tag => .trigger tag
  | reused _ image => .image image
  | noBuild image => .image image

end Prepared

namespace Deployer

/-- What an earlier build amounts to: it is followed while it runs, and its image is used when it
    has come to an end. -/
def ofEarlier (build : Build) (tag : String) : Prepared :=
  if build.phase.isTerminal then .reused build.name (build.builtImage tag)
  else .submitted build tag

/-- Starts a build of a plan. What is not in source control is uploaded. -/
def startBuild (plan : BuildPlan) (id : AppId) (fileName : String) (content : Bytes) :
    Action Build :=
  match plan with
  | .dockerfile _ => Action.ask (.submitBinaryBuild id.text fileName content)
  | .upload _ => Action.ask (.submitBinaryBuild id.text fileName content)
  | .git .. => Action.ask (.instantiateBuild id.text)
  | .image _ => Action.ask (.instantiateBuild id.text)

/-- Sets up and starts a build. -/
def build (d : Deployer) (r : Request) (id : AppId) (labels : Attributes) (content : Bytes)
    (tag : String) : Action Prepared := do
  match ← Action.ofResult ((BuildPlan.choose d.files d.config r).run d.resolver r.artifact).1 with
  | .image reference => pure (.noBuild reference)
  | plan =>
    let _ ← Reconcile.reconcile (Bundle.imageStream id labels)
    let bc ← Action.ofResult (plan.buildConfig id labels (Fingerprint.of content) tag r)
    let _ ← Reconcile.reconcile bc
    pure (.submitted (← startBuild plan id r.artifact.fileName content) tag)

/-- Sees to it that there is an image, or will be. -/
def prepare (d : Deployer) (r : Request) (id : AppId) (labels : Attributes) : Action Prepared :=
  match r.artifact with
  | .image reference => pure (.noBuild reference)
  | artifact => do
    let content ← Action.ofResult (d.resolver.bytes artifact)
    let tag := BuildPlan.outputTag d.config r id
    let builds ← Action.list .build (Labels.appSelector id)
    match ← Action.ofResult
        (BuildHistory.toReuse? r d.config builds (Fingerprint.of content)) with
    | some earlier => pure (ofEarlier earlier tag)
    | none => d.build r id labels content tag

end Deployer

end Slipway
