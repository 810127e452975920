import Slipway.FileTree
import Slipway.Kind
import Slipway.Request.Keys
import Slipway.Resource.Phase
import Slipway.Text.Decimal

/-
  What can go wrong, by cause, and the text of each cause.
-/

namespace Slipway

/-- A request, a configuration or an artifact reference that makes no sense. -/
inductive ConfigFault where
  | emptyArtifact
  | emptyCoordinate (text : String)
  | coordinateCount (text : String)
  | notBoolean (key value : String)
  | badCount (value : String)
  | badPair (entry key : String) (separator : Char)
  | badNodePort (value : String)
  | tooManyInstances (count : UInt32) (app : String)
  | imageNeedsNoBuild (image : String)
  | imageHasNoBytes (image : String)
  | noRepository (coordinates : String)
  | variableNotBoolean (name value : String)
  | emptyImageTag
  | badServicePort (port : Int32)
  | unreadableFile (path : String) (cause : FileError)
  | custom (text : String)
  deriving DecidableEq, Repr

def ConfigFault.message : ConfigFault → String
  | emptyArtifact => "Artifact reference must not be empty"
  | emptyCoordinate text => "Invalid Maven coordinates '" ++ text ++ "'"
  | coordinateCount text =>
    "Invalid Maven coordinates '" ++ text ++
      "': expected group:artifact[:extension[:classifier]]:version"
  | notBoolean key value => "'" ++ key ++ "' must be true or false, got '" ++ value ++ "'"
  | badCount value =>
    "'" ++ Keys.count ++ "' must be an integer between 0 and 2147483647, got '" ++ value ++ "'"
  | badPair entry key separator =>
    "Invalid entry '" ++ entry ++ "' in '" ++ key ++ "': expected name" ++
      String.singleton separator ++ "value"
  | badNodePort value =>
    "'" ++ Keys.createNodePort ++ "' must be true, false or a port number, got '" ++ value ++ "'"
  | tooManyInstances count app =>
    "Instance count " ++ Text.decimal count.toNat ++ " of '" ++ app ++ "' exceeds 2147483647"
  | imageNeedsNoBuild image => "Image '" ++ image ++ "' does not need a BuildConfig"
  | imageHasNoBytes image =>
    "Container image '" ++ image ++ "' has no artifact bytes to resolve"
  | noRepository coordinates =>
    "No Maven repository configured to resolve '" ++ coordinates ++ "'"
  | variableNotBoolean name value =>
    name ++ " must be true or false, got '" ++ value ++ "'"
  | emptyImageTag => "defaultImageTag must not be empty"
  | badServicePort port =>
    "servicePort must be between 1 and 65535, got " ++ Text.signedDecimal port.toInt
  | unreadableFile path cause =>
    "Cannot read config file '" ++ path ++ "': " ++ cause.message
  | custom text => text

/-- Why an entry of an archive could not be read, or the archive not be opened. -/
inductive ArchiveFault where
  | truncated
  | encrypted
  | unsupportedMethod
  | corruptData
  | badChecksum
  deriving DecidableEq, Repr

/-- The text of a fault, then that of what caused it: a fault of the archive's form has no cause,
    one of its content has. -/
def ArchiveFault.chain : ArchiveFault → List String
  | truncated => ofContent "failed to fill whole buffer"
  | encrypted => ["unsupported Zip archive: Password required to decrypt file"]
  | unsupportedMethod => ["unsupported Zip archive: Compression method not supported"]
  | corruptData => ofContent "corrupt deflate stream"
  | badChecksum => ofContent "Invalid checksum"
where
  ofContent (cause : String) : List String := ["i/o error: " ++ cause, cause]

/-- The platform's own account of a failed call. -/
structure ApiStatus where
  status : String
  message : String
  reason : String
  code : Nat
  deriving DecidableEq, Repr

/-- A call to the cluster API that failed. -/
inductive ApiFault where
  | status (s : ApiStatus)
  | noName
  | badUri
  | unreachable
  | unreadable
  deriving DecidableEq, Repr

/-- A string in quotation marks, its special characters escaped. -/
def quoted (s : String) : String :=
  String.ofList ('"' :: (s.toList.flatMap fun c =>
    if c = '"' then ['\\', '"']
    else if c = '\\' then ['\\', '\\']
    else if c = '\n' then ['\\', 'n']
    else if c = '\r' then ['\\', 'r']
    else if c = '\t' then ['\\', 't']
    else [c]) ++ ['"'])

/-- The text of a failed call, then that of what caused it, and so on. -/
def ApiFault.chain : ApiFault → List String
  | status s =>
    let short := s.message ++ ": " ++ s.reason
    let full := "ErrorResponse \x7b status: " ++ quoted s.status ++ ", message: " ++
      quoted s.message ++ ", reason: " ++ quoted s.reason ++ ", code: " ++
      Text.decimal s.code ++ " \x7d"
    ["ApiError: " ++ short ++ " (" ++ full ++ ")", short]
  | noName =>
    let cause := "failed to validate request: A non-empty name is required"
    ["Failed to build request: " ++ cause, cause]
  | badUri =>
    let cause := "failed to build request: invalid uri character"
    ["Failed to build request: " ++ cause, cause, "invalid uri character"]
  | unreachable =>
    ["ServiceError: client error (Connect)", "client error (Connect)", "tcp connect error",
      "Network is unreachable (os error 101)"]
  | unreadable => ["Error deserializing response"]

inductive Failure where
  | config (fault : ConfigFault)
  | artifactUnreadable (path : String) (cause : FileError)
  | archiveUnreadable (artifact : String) (cause : ArchiveFault)
  | dockerfileUnreadable (path : String) (cause : FileError)
  | alreadyExists (kind : Kind) (name : String)
  | notFound (kind : Kind) (name : String)
  | api (fault : ApiFault)
  | watch
  | wait
  | buildFailed (name : String) (phase : BuildPhase) (message : String)
  | watchClosed (selector build : String)
  | watchCancelled (selector : String)
  | malformed
  | badYaml
  deriving DecidableEq, Repr

namespace Failure

/-- The text of a failure, then that of what caused it, and so on. -/
def chain : Failure → List String
  | config fault => ["Configuration error: " ++ fault.message]
  | artifactUnreadable path cause =>
    ["Failed to read artifact '" ++ path ++ "': " ++ cause.message, cause.message]
  | archiveUnreadable artifact cause =>
    below ("Failed to inspect artifact archive '" ++ artifact ++ "'") cause.chain
  | dockerfileUnreadable path cause =>
    ["Failed to read Dockerfile '" ++ path ++ "': " ++ cause.message, cause.message]
  | alreadyExists kind name => [kind.name ++ " '" ++ name ++ "' already exists"]
  | notFound kind name => [kind.name ++ " '" ++ name ++ "' was not found"]
  | api fault => below "Kubernetes API error" fault.chain
  | watch => ["Watch error"]
  | wait => ["Failed waiting on resource"]
  | buildFailed name phase message =>
    ["Build '" ++ name ++ "' ended in phase " ++ phase.name ++ ": " ++ message]
  | watchClosed selector build =>
    ["Watch on '" ++ selector ++ "' closed before build '" ++ build ++
      "' reached a terminal phase"]
  | watchCancelled selector => ["Watch on '" ++ selector ++ "' was cancelled"]
  | malformed => ["Failed to (de)serialize resource"]
  | badYaml => ["Failed to parse configuration file"]
where
  /-- What went wrong, with the text of its cause, and the causes below it. -/
  below (what : String) (causes : List String) : List String :=
    (what ++ ": " ++ causes.headD "") :: causes

def message (f : Failure) : String := f.chain.headD ""

/-- True when the platform reported a name conflict. -/
def isConflict : Failure → Bool
  | alreadyExists _ _ => true
  | _ => false

end Failure

/-- A result, or why there is none. -/
abbrev Result (α : Type u) := Except Failure α

end Slipway
