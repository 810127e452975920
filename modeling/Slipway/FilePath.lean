import Slipway.Text.Cut

/-
  File paths as text: joining and the last component. An absolute path replaces what it is joined
  to; joining the empty path only makes sure that a separator ends the text.
-/

namespace Slipway.FilePath

/-- `base` with `part` joined to it. -/
def push (base part : String) : String :=
  if Text.startsWith "/" part then part
  else if base = "" ∨ base.toList.getLast? = some '/' then base ++ part
  else base ++ "/" ++ part

/-- The parts joined one after the other, beginning with the empty path. -/
def ofParts (parts : List String) : String := parts.foldl push ""

/-- The components that name something: no empty one, and no dot but at the very beginning. -/
def components (path : String) : List String :=
  match Text.split '/' path with
  | [] => []
  | first :: rest =>
    let rest := rest.filter fun c => c ≠ "" ∧ c ≠ "."
    if first = "" then rest else first :: rest

/-- The last component, where it is the name of an entry. -/
def fileName? (path : String) : Option String :=
  match (components path).getLast? with
  | some name => if name = "." ∨ name = ".." then none else some name
  | none => none

end Slipway.FilePath
