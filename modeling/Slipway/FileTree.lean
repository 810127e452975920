import Slipway.Bytes.Utf8
import Slipway.Dict
import Slipway.Text.Cut

/-
  The files that a run can see: a tree of directories below the working directory, and how a path
  leads through it. Nothing lies outside of the tree.
-/

namespace Slipway

/-- Why a file could not be read. -/
inductive FileError where
  | missing
  | notDirectory
  | isDirectory
  | nameTooLong
  | nulInName
  | notText
  deriving DecidableEq, Repr

def FileError.message : FileError → String
  | missing => "No such file or directory (os error 2)"
  | notDirectory => "Not a directory (os error 20)"
  | isDirectory => "Is a directory (os error 21)"
  | nameTooLong => "File name too long (os error 36)"
  | nulInName => "file name contained an unexpected NUL byte"
  | notText => "stream did not contain valid UTF-8"

inductive FileTree where
  | file (content : Bytes)
  | directory (entries : List (String × FileTree))

namespace FileTree

instance : Inhabited FileTree := ⟨directory []⟩

def empty : FileTree := directory []

/-- Puts a node at a path of components, making the directories on the way. A directory that is
    already there stays. -/
def put (node : FileTree) : List String → FileTree → FileTree
  | [], directory entries =>
    match node with
    | directory _ => directory entries
    | file content => file content
  | [], file _ => node
  | name :: rest, tree =>
    let entries := match tree with
      | directory entries => entries
      | file _ => []
    let child := (entries.lookup name).getD empty
    directory ((name, put node rest child) :: entries.filter (·.1 ≠ name))

/-- The nodes from the working directory down to where a path leads, innermost first. -/
def walk : List FileTree → List String → Except FileError (List FileTree)
  | here, [] => .ok here
  | here, c :: cs =>
    match here with
    | [] => .error .missing
    | file _ :: _ => .error .notDirectory
    | directory entries :: up =>
      if c = "" ∨ c = "." then walk here cs
      else if c = ".." then (if up.isEmpty then .error .missing else walk up cs)
      else if 255 < (Utf8.encode c).length then .error .nameTooLong
      else match entries.lookup c with
        | none => .error .missing
        | some node => walk (node :: here) cs

def find (tree : FileTree) (path : String) : Except FileError FileTree :=
  if path.toList.contains (Char.ofNat 0) then .error .nulInName
  else if path = "" then .error .missing
  else if 4095 < (Utf8.encode path).length then .error .nameTooLong
  else if Text.startsWith "/" path then .error .missing
  else do
    match ← walk [tree] (Text.split '/' path) with
    | [] => .error .missing
    | node :: _ => .ok node

end FileTree

/-- Read access to files. -/
structure Files where
  read : String → Except FileError Bytes
  isFile : String → Bool

namespace Files

def ofTree (tree : FileTree) : Files where
  read path := do
    match ← tree.find path with
    | .file content => .ok content
    | .directory _ => .error .isDirectory
  isFile path :=
    match tree.find path with
    | .ok (.file _) => true
    | _ => false

/-- Files that were read beforehand. There are no others. -/
def ofReadings (readings : List (String × Except FileError Bytes)) : Files where
  read path := (readings.lookup path).getD (.error .missing)
  isFile path :=
    match readings.lookup path with
    | some (.ok _) => true
    | _ => false

def readText (files : Files) (path : String) : Except FileError String := do
  match Utf8.decode? (← files.read path) with
  | some s => .ok s
  | none => .error .notText

end Files

end Slipway
