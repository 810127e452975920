import Slipway.Archive.Zip
import Slipway.Artifact
import Slipway.Artifact.Properties

/-
  Access to the content of artifacts: their bytes, the files packed into them, and the place in
  source control that they were built from.
-/

namespace Slipway

/-- Where the source of an artifact is kept, and the tag or commit it was built from. -/
structure SourceControl where
  uri : String
  tag : Option String
  deriving DecidableEq, Repr

/-- Reads what a build stamped into its artifact. The first tag that is not blank counts, else
    the commit. -/
def SourceControl.ofProperties? (properties : Attributes) : Option SourceControl := do
  let uri ← (properties.get? "git.remote.origin.url").filter (· ≠ "")
  let tagged := (properties.get? "git.tags").bind fun tags =>
    (Text.split ',' tags).findSome? Text.nonBlank?
  let commit := (properties.get? "git.commit.id").bind Text.nonBlank?
  pure ⟨uri, tagged.or commit⟩

/-- What can be asked of artifacts. -/
structure Resolver where
  bytes : ArtifactRef → Result Bytes
  sourceControl : ArtifactRef → Result (Option SourceControl)
  file : ArtifactRef → String → Result (Option Bytes)

namespace Resolver

/-- A resolver for which every artifact has the same content. -/
def constant (content : Bytes) (metadata : Option SourceControl) (packed : Dict Bytes) :
    Resolver where
  bytes _ := .ok content
  sourceControl _ := .ok metadata
  file _ path := .ok (packed.get? path)

/-- The path of an artifact, with the coordinates looked up in a local repository. -/
def locate (repository : Option String) : ArtifactRef → Result String
  | .file path => .ok path
  | .maven coordinates =>
    match repository with
    | some root => .ok (FilePath.push root coordinates.repositoryPath)
    | none => .error (.config (.noRepository coordinates.display))
  | .image image => .error (.config (.imageHasNoBytes image))

def localBytes (files : Files) (repository : Option String) (a : ArtifactRef) :
    Result Bytes := do
  let path ← locate repository a
  (files.read path).mapError (.artifactUnreadable path)

/-- A file packed into an artifact. An image or a file that is no archive has none. -/
def packedFile (files : Files) (repository : Option String) (a : ArtifactRef) (path : String) :
    Result (Option Bytes) := do
  if a.isImage then pure none
  else
    let content ← localBytes files repository a
    let unreadable := Failure.archiveUnreadable a.display
    match ← (Zip.ofBytes content).mapError unreadable with
    | none => pure none
    | some archive => (archive.file path).mapError unreadable

/-- Where builds put the properties of the source they were made from. -/
def stampPaths : List String :=
  ["git.properties", "BOOT-INF/classes/git.properties", "WEB-INF/classes/git.properties"]

/-- The first of the paths that leads to a packed file decides. -/
def stampAt (file : String → Result (Option Bytes)) :
    List String → Result (Option SourceControl)
  | [] => .ok none
  | path :: paths => do
    match ← file path with
    | some content =>
      pure (SourceControl.ofProperties? (Properties.parse (Utf8.decodeLossy content)))
    | none => stampAt file paths

/-- Artifacts on the local file system and in a local repository. -/
def ofFiles (files : Files) (repository : Option String) : Resolver where
  bytes := localBytes files repository
  sourceControl a := stampAt (packedFile files repository a) stampPaths
  file := packedFile files repository

end Resolver

end Slipway
