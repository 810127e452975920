import Slipway.Failure
import Slipway.FilePath

/-
  References to deployable artifacts: a container image, which needs no build, coordinates in a
  Maven repository, or a file. `parse` reads a reference and `display` writes it.
-/

namespace Slipway

/-- The coordinates `group:artifact[:extension[:classifier]]:version`. -/
structure MavenCoordinates where
  group : String
  artifact : String
  extension : String
  classifier : Option String
  version : String
  deriving DecidableEq, Repr

namespace MavenCoordinates

/-- Three to five parts, none of them empty. -/
def parse (s : String) : Result MavenCoordinates :=
  let parts := Text.split ':' s
  if parts.any (· == "") then .error (.config (.emptyCoordinate s))
  else match parts with
    | [g, a, v] => .ok ⟨g, a, "jar", none, v⟩
    | [g, a, e, v] => .ok ⟨g, a, e, none, v⟩
    | [g, a, e, c, v] => .ok ⟨g, a, e, some c, v⟩
    | _ => .error (.config (.coordinateCount s))

def display (m : MavenCoordinates) : String :=
  let classifier := match m.classifier with
    | some c => ":" ++ c
    | none => ""
  m.group ++ ":" ++ m.artifact ++ ":" ++ m.extension ++ classifier ++ ":" ++ m.version

def fileName (m : MavenCoordinates) : String :=
  let classifier := match m.classifier with
    | some c => "-" ++ c
    | none => ""
  m.artifact ++ "-" ++ m.version ++ classifier ++ "." ++ m.extension

/-- Where the artifact lies below the root of a repository. -/
def repositoryPath (m : MavenCoordinates) : String :=
  [m.artifact, m.version, m.fileName].foldl FilePath.push
    (FilePath.ofParts (Text.split '.' m.group))

end MavenCoordinates

inductive ArtifactRef where
  | image (reference : String)
  | maven (coordinates : MavenCoordinates)
  | file (path : String)
  deriving DecidableEq, Repr

namespace ArtifactRef

/-- What follows a scheme, written with two slashes or without. -/
def afterScheme? (scheme : String) (cs : List Char) : Option String :=
  match Text.dropStart? (scheme ++ "://").toList cs with
  | some rest => some (String.ofList rest)
  | none => (Text.dropStart? (scheme ++ ":").toList cs).map String.ofList

def parse (s : String) : Result ArtifactRef :=
  let s := Text.trim s
  let cs := s.toList
  if s = "" then .error (.config .emptyArtifact)
  else match afterScheme? "docker" cs with
    | some reference => .ok (.image reference)
    | none =>
      match afterScheme? "maven" cs with
      | some coordinates => (MavenCoordinates.parse coordinates).map .maven
      | none => .ok (.file ((afterScheme? "file" cs).getD s))

def display : ArtifactRef → String
  | image reference => "docker:" ++ reference
  | maven coordinates => "maven://" ++ coordinates.display
  | file path => "file:" ++ path

def isImage : ArtifactRef → Bool
  | image _ => true
  | _ => false

/-- The name under which the artifact is uploaded to a build. -/
def fileName : ArtifactRef → String
  | image reference => (Text.split '/' reference).getLastD reference
  | maven coordinates => coordinates.fileName
  | file path => (FilePath.fileName? path).getD "artifact"

end ArtifactRef

end Slipway
