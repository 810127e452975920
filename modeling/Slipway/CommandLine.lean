import Slipway.CommandLine.Reading
import Slipway.Request

/-
  The command line: which command it names, and with what.
-/

namespace Slipway

namespace CommandLine

/-- A request as it is given on a command line. -/
structure RequestForm where
  name : String
  group : Option String
  artifact : String
  properties : List (String × String)
  args : List String
  deriving DecidableEq, Repr

/-- An application or a task by the name and the group that it was given. -/
structure NameForm where
  name : String
  group : Option String
  deriving DecidableEq, Repr

inductive Command where
  | deploy (r : RequestForm)
  | launch (r : RequestForm) (detach : Bool)
  | undeploy (n : NameForm)
  | status (n : NameForm)
  | taskStatus (n : NameForm)
  | cancel (n : NameForm)
  deriving DecidableEq, Repr

/-- The request of a form. Of two properties of one key the last counts, and the group of its own
    option before any. -/
def RequestForm.request (f : RequestForm) : Result Request := do
  let artifact ← ArtifactRef.parse f.artifact
  let properties : Attributes := Dict.ofList f.properties
  pure {
    name := f.name
    artifact
    properties := match f.group with
      | some g => properties.insert Keys.group g
      | none => properties
    args := f.args }

/-- The id that deploying or launching derives from the same name and group. -/
def NameForm.appId (f : NameForm) : AppId := AppId.ofParts f.name f.group

namespace Arguments

def requestForm? (a : Arguments) : Option RequestForm := do
  pure {
    name := ← a.name
    group := a.group
    artifact := ← a.artifact
    properties := a.properties
    args := a.operands }

def nameForm? (a : Arguments) : Option NameForm := do
  pure { name := ← a.operands.head?, group := a.group }

def command? (a : Arguments) : Verb → Option Command
  | .deploy => a.requestForm?.map .deploy
  | .launch => a.requestForm?.map fun f => .launch f a.detach
  | .undeploy => a.nameForm?.map .undeploy
  | .status => a.nameForm?.map .status
  | .taskStatus => a.nameForm?.map .taskStatus
  | .cancel => a.nameForm?.map .cancel

end Arguments

end CommandLine

structure CommandLine where
  config : Option String
  command : CommandLine.Command
  deriving DecidableEq, Repr

namespace CommandLine

/-- Reads the words after the name of the program. The configuration may be given on either
    level; the one of the command counts. -/
def parse (words : List String) : Except Misuse CommandLine := do
  let (r, found) ← Reading.program {} words
  match found with
  | some (v, ws) =>
    let own ← Reading.command v ws
    match own.command? v with
    | none => throw .missingArgument
    | some command =>
      let r ← r.resolve
      pure { config := own.config.or r.arguments.config, command }
  | none =>
    let r ← r.resolve
    throw (if r.arguments = {} then .empty else .noCommand)

end CommandLine

end Slipway
