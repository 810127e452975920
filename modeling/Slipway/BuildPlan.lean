import Slipway.Artifact.Resolver
import Slipway.Config
import Slipway.Fingerprint
import Slipway.Labels
import Slipway.Resource

/-
  How the image of a request is made, and the build configuration for it. The choice is a dialogue
  with the resolver of artifacts: an `Inquiry` asks for no more than the choice needs.
-/

namespace Slipway

inductive BuildPlan where
  /-- The artifact is an image already. -/
  | image (reference : String)
  | git (uri branch contextDir : String) (secret : Option String)
  | dockerfile (contents : String)
  /-- The artifact is uploaded and put onto a base image. -/
  | upload (baseImage : String)
  deriving DecidableEq, Repr

/-- Questions about an artifact, each followed by what depends on its answer. -/
inductive Inquiry (α : Type) where
  | done (result : Result α)
  | sourceControl (next : Option SourceControl → Inquiry α)
  | file (path : String) (next : Option Bytes → Inquiry α)

namespace Inquiry

/-- The result with the answers of a resolver, and the number of questions asked. A question that
    cannot be answered ends the inquiry. -/
def run (resolver : Resolver) (a : ArtifactRef) : Inquiry α → Result α × Nat
  | done result => (result, 0)
  | sourceControl next =>
    match resolver.sourceControl a with
    | .ok answer => let (result, n) := (next answer).run resolver a; (result, n + 1)
    | .error e => (.error e, 1)
  | file path next =>
    match resolver.file a path with
    | .ok answer => let (result, n) := (next answer).run resolver a; (result, n + 1)
    | .error e => (.error e, 1)

end Inquiry

namespace BuildPlan

def sourceType? : BuildPlan → Option SourceType
  | image _ => none
  | git .. => some .git
  | dockerfile _ => some .dockerfile
  | upload _ => some .binary

def strategyType? : BuildPlan → Option StrategyType
  | image _ => none
  | git .. => some .docker
  | dockerfile _ => some .docker
  | upload _ => some .source

/-- Puts the user of the secure shell in the place of everything up to the last `@`. -/
def normalizeGitUri (uri : String) : String :=
  match Text.cutLast '@' uri.toList with
  | some (_, rest) => "ssh://git@" ++ String.ofList rest
  | none => uri

def secret (c : Config) (r : Request) : Option String :=
  (r.nonEmptyProperty Keys.gitSecret).or c.gitSourceSecret

/-- The path that a Dockerfile has inside an artifact. -/
def packedDockerfile (c : Config) : String :=
  String.ofList (Text.stripEnd (· == '/') c.defaultContextDir.toList) ++ "/Dockerfile"

/-- A property that asks for a Dockerfile: blank for the configured one, else the path of a file
    or the text itself. -/
def ofDockerfileProperty (files : Files) (c : Config) (value : String) : Result BuildPlan :=
  if value = "" then .ok (dockerfile c.defaultDockerfile)
  else if files.isFile value then
    match files.readText value with
    | .ok text => .ok (dockerfile text)
    | .error e => .error (.dockerfileUnreadable value e)
  else .ok (dockerfile value)

/-- The choice where nothing is known of the source. -/
def withoutSource (files : Files) (c : Config) (r : Request) : Result BuildPlan :=
  match r.property Keys.dockerfile with
  | some value => ofDockerfileProperty files c value
  | none => .ok (upload c.binaryBaseImage)

/-- The first rule that applies decides: an image is used as it is; a given source is built; the
    source that is stamped into the artifact is built if a Dockerfile is packed there too; a
    Dockerfile that is asked for is used; all else is uploaded onto the base image. -/
def choose (files : Files) (c : Config) (r : Request) : Inquiry BuildPlan :=
  match r.artifact with
  | .image reference => .done (.ok (image reference))
  | _ =>
    match r.nonEmptyProperty Keys.gitUri with
    | some uri =>
      let branch := (r.nonEmptyProperty Keys.gitRef).getD c.defaultGitRef
      let contextDir := (r.nonEmptyProperty Keys.gitDockerfilePath).getD c.defaultContextDir
      .done (.ok (git uri branch contextDir (secret c r)))
    | none =>
      .sourceControl fun
        | none => .done (withoutSource files c r)
        | some source => .file (packedDockerfile c) fun
          | none => .done (withoutSource files c r)
          | some _ => .done (.ok (git (normalizeGitUri source.uri)
              (source.tag.getD c.defaultGitRef) c.defaultContextDir (secret c r)))

def imageTag (c : Config) (r : Request) : String :=
  (r.nonEmptyProperty Keys.imageTag).getD c.defaultImageTag

/-- The tag of the image stream that every build of an application pushes to. -/
def outputTag (c : Config) (r : Request) (id : AppId) : String := id.text ++ ":" ++ imageTag c r

/-! ## The build configuration -/

/-- The variable by which a build is found again. -/
def marker (fp : Fingerprint) : Variable :=
  { name := Labels.fingerprintVariable, value := some fp.text }

def dockerStrategy (fp : Fingerprint) : BuildStrategy :=
  { strategyType := some .docker, docker := some { env := [marker fp] } }

/-- What a build is made from and how. An image needs no build. -/
def sourceAndStrategy (fileName : String) (fp : Fingerprint) :
    BuildPlan → Result (BuildSource × BuildStrategy)
  | image reference => .error (.config (.imageNeedsNoBuild reference))
  | git uri branch contextDir secret => .ok
    ({ sourceType := some .git
       git := some { uri, branch := some branch }
       contextDir := some contextDir
       sourceSecret := secret.map LocalReference.mk }, dockerStrategy fp)
  | dockerfile contents => .ok
    ({ sourceType := some .dockerfile
       dockerfile := some contents
       binary := some { asFile := some fileName } }, dockerStrategy fp)
  | upload baseImage => .ok
    ({ sourceType := some .binary
       binary := some { asFile := some fileName } },
     { strategyType := some .source
       source := some { image := ObjectReference.dockerImage baseImage, env := [marker fp] } })

/-- An empty map is left out. -/
def nonEmptyMap (d : Attributes) : Option Attributes := if d.isEmpty then none else some d

/-- The build configuration of a plan. It starts no builds of its own accord. -/
def buildConfig (plan : BuildPlan) (id : AppId) (labels : Attributes) (fp : Fingerprint)
    (outputTag : String) (r : Request) : Result BuildConfig := do
  let (source, strategy) ← plan.sourceAndStrategy r.artifact.fileName fp
  let nodeSelector ← r.nodeSelector
  let spec : BuildConfigSpec := {
    recipe := {
      source, strategy, output := { target := some (ObjectReference.imageStreamTag outputTag) } }
    serviceAccount := r.nonEmptyProperty Keys.serviceAccount
    nodeSelector := nonEmptyMap nodeSelector }
  pure (Resource.new (Metadata.ofLabels id.text labels) spec)

end BuildPlan

end Slipway
