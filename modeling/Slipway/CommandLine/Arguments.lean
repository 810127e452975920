import Slipway.Text.Blank
import Slipway.Text.Cut

/-
  What is given on a command line, and what can be wrong with it.
-/

namespace Slipway.CommandLine

/-- Why a command line does not name a command to carry out. -/
inductive Misuse where
  | help
  | version
  /-- Nothing is given at all. -/
  | empty
  | noCommand
  | unknownCommand
  | unknownArgument
  /-- A value is missing, or is empty where it must not be. -/
  | noValue
  | badValue (message : String)
  /-- A switch is given a value. -/
  | unwantedValue
  | repeated
  | missingArgument
  deriving DecidableEq, Repr

/-- The options that take a value. -/
inductive Setting where
  | config
  | name
  | group
  | artifact
  | property
  deriving DecidableEq, Repr

inductive Switch where
  | help
  | version
  | detach
  deriving DecidableEq, Repr

structure Arguments where
  config : Option String := none
  name : Option String := none
  group : Option String := none
  artifact : Option String := none
  properties : List (String × String) := []
  detach : Bool := false
  operands : List String := []
  deriving DecidableEq, Repr

namespace Arguments

/-- A property as `key=value`. The key is not blank and loses the blanks around it. -/
def readProperty (raw : String) : Except Misuse (String × String) :=
  match Text.cutFirst '=' raw.toList with
  | some (key, value) =>
    match Text.nonBlank? (String.ofList key) with
    | some key => .ok (key, String.ofList value)
    | none => .error (.badValue ("expected key=value, got '" ++ raw ++ "'"))
  | none => .error (.badValue ("expected key=value, got '" ++ raw ++ "'"))

/-- The value of an option that can be given once. -/
def once (current : Option String) (value : String) : Except Misuse (Option String) :=
  if current.isSome then .error .repeated else .ok (some value)

/-- Adds the value of an option. -/
def set (a : Arguments) (setting : Setting) (value : String) : Except Misuse Arguments :=
  match setting with
  | .config => do
    let config ← once a.config value
    if value = "" then throw .noValue
    pure { a with config }
  | .name => do pure { a with name := ← once a.name value }
  | .group => do pure { a with group := ← once a.group value }
  | .artifact => do pure { a with artifact := ← once a.artifact value }
  | .property => do pure { a with properties := a.properties ++ [← readProperty value] }

/-- Turns on a switch. Some put an end to reading. -/
def turnOn (a : Arguments) : Switch → Except Misuse Arguments
  | .help => .error .help
  | .version => .error .version
  | .detach => if a.detach then .error .repeated else .ok { a with detach := true }

end Arguments

end Slipway.CommandLine
