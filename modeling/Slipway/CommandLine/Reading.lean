import Slipway.CommandLine.Arguments
import Slipway.CommandLine.Word

/-
  Reading a command line word by word. It has two levels, the program and one of its commands;
  each has its own options and operands. The value of an option is taken in when the next option
  or operand is, or at the end; until then a word that is not known counts as the first fault.
-/

namespace Slipway.CommandLine

inductive Verb where
  | deploy
  | launch
  | undeploy
  | status
  | taskStatus
  | cancel
  deriving DecidableEq, Repr

namespace Verb

def all : List Verb := [deploy, launch, undeploy, status, taskStatus, cancel]

def name : Verb → String
  | deploy => "deploy"
  | launch => "launch"
  | undeploy => "undeploy"
  | status => "status"
  | taskStatus => "task-status"
  | cancel => "cancel"

def ofName? (s : String) : Option Verb := all.find? fun v => v.name == s

theorem ofName?_name (v : Verb) : ofName? v.name = some v := by cases v <;> decide

end Verb

inductive Level where
  | program
  | command (v : Verb)
  deriving DecidableEq, Repr

/-- What a long option is. -/
inductive LongOption where
  | setting (s : Setting)
  | switch (s : Switch)
  deriving DecidableEq, Repr

/-- The operands of a level. -/
inductive Operands where
  /-- The name of a command. -/
  | command
  /-- The one name of an application or a task. -/
  | one
  /-- Any number, after a divider. -/
  | afterDivider
  deriving DecidableEq, Repr

namespace Level

def operands : Level → Operands
  | program => .command
  | command .deploy | command .launch => .afterDivider
  | command _ => .one

/-- The options of a level, by name. -/
def longOptions (l : Level) : List (String × LongOption) :=
  [("config", .setting .config), ("help", .switch .help)] ++
  match l with
  | program => [("version", .switch .version)]
  | command .deploy => request
  | command .launch => request ++ [("detach", .switch .detach)]
  | command _ => [("group", .setting .group)]
where
  request : List (String × LongOption) :=
    [("name", .setting .name), ("group", .setting .group), ("artifact", .setting .artifact),
      ("property", .setting .property)]

def shortOption? : Level → Char → Option Switch
  | _, 'h' => some .help
  | program, 'V' => some .version
  | _, _ => none

end Level

/-- What has been read on one level. -/
structure Reading where
  arguments : Arguments := {}
  /-- The option that was read last, and the value that followed it. -/
  pending : Option (Setting × Option String) := none
  divided : Bool := false
  deriving DecidableEq, Repr

namespace Reading

/-- Whether the next word is the value of an option. -/
def awaitsValue (r : Reading) : Bool :=
  match r.pending with
  | some (_, none) => true
  | _ => false

/-- Takes in the value of the last option. -/
def resolve (r : Reading) : Except Misuse Reading :=
  match r.pending with
  | none => .ok r
  | some (_, none) => .error .noValue
  | some (s, some value) => do
    pure { r with arguments := ← r.arguments.set s value, pending := none }

def turnOn (r : Reading) (s : Switch) : Except Misuse Reading := do
  let r ← r.resolve
  pure { r with arguments := ← r.arguments.turnOn s }

def set (r : Reading) (s : Setting) : Option String → Except Misuse Reading
  | none => do pure { ← r.resolve with pending := some (s, none) }
  | some value => do
    let r ← r.resolve
    pure { r with arguments := ← r.arguments.set s value }

def addOperand (r : Reading) (word : String) : Except Misuse Reading := do
  let r ← r.resolve
  pure { r with arguments := { r.arguments with operands := r.arguments.operands ++ [word] } }

/-- Takes a word that is neither an option nor the value of one. -/
def operand (l : Level) (r : Reading) (word : String) : Except Misuse Reading :=
  match l.operands with
  | .command =>
    if r.divided && ((Verb.ofName? word).isSome || word == "help") then .error .unknownArgument
    else .error .unknownCommand
  | .one => if r.arguments.operands.isEmpty then r.addOperand word else .error .unknownArgument
  | .afterDivider => if r.divided then r.addOperand word else .error .unknownArgument

/-- Takes one word of a level. -/
def word (l : Level) (r : Reading) (w : String) : Except Misuse Reading :=
  if r.divided then r.operand l w
  else
    match Word.ofText w with
    | .divider => .ok { r with divided := true }
    | .long name value =>
      match l.longOptions.lookup name with
      | none => .error .unknownArgument
      | some (.setting s) => r.set s value
      | some (.switch s) => if value.isSome then .error .unwantedValue else r.turnOn s
    | .short letter =>
      match l.shortOption? letter with
      | none => .error .unknownArgument
      | some s => r.turnOn s
    | .plain text =>
      match r.pending with
      | some (s, none) => .ok { r with pending := some (s, some text) }
      | _ => r.operand l text

/-- Reads all words of a command. -/
def command (v : Verb) (words : List String) : Except Misuse Arguments := do
  let r ← words.foldlM (word (.command v)) {}
  pure (← r.resolve).arguments

/-- Help can be asked for with the name of a command. -/
def helpOn : List String → Misuse
  | [] => .help
  | [w] => if (Verb.ofName? w).isSome || w == "help" then .help else .unknownCommand
  | _ => .unknownCommand

/-- Reads the words up to the name of a command, and tells that command and the words after it. -/
def program (r : Reading) : List String → Except Misuse (Reading × Option (Verb × List String))
  | [] => .ok (r, none)
  | w :: ws =>
    if r.divided || r.awaitsValue then do program (← r.word .program w) ws
    else
      match Verb.ofName? w with
      | some v => .ok (r, some (v, ws))
      | none => if w = "help" then .error (helpOn ws) else do program (← r.word .program w) ws

end Reading

end Slipway.CommandLine
