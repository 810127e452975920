import Slipway.Text.Cut

/-
  The words of a command line by their form.
-/

namespace Slipway.CommandLine

inductive Word where
  /-- Two dashes alone: all words that follow are operands. -/
  | divider
  /-- Two dashes and a name, with the value after an equals sign if there is one. -/
  | long (name : String) (value : Option String)
  /-- One dash and letters, of which the first decides. -/
  | short (letter : Char)
  | plain (text : String)
  deriving DecidableEq, Repr

def Word.ofText (s : String) : Word :=
  match s.toList with
  | ['-', '-'] => divider
  | '-' :: '-' :: cs =>
    match Text.cutFirst '=' cs with
    | some (name, value) => long (String.ofList name) (some (String.ofList value))
    | none => long (String.ofList cs) none
  | '-' :: c :: _ => short c
  | _ => plain s

end Slipway.CommandLine
