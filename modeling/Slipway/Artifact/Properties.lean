import Slipway.Dict
import Slipway.Text.Cut

/-
  Property files, one `name=value` or `name: value` to a line. Blank lines and lines that begin
  with `#` or `!` are passed over. A backslash takes its meaning from the character behind it.
-/

namespace Slipway.Properties

/-- What stands before and after the first separator that no backslash escapes. -/
def cutSeparator : List Char → Option (List Char × List Char)
  | [] => none
  | ['\\'] => none
  | '\\' :: c :: cs => (cutSeparator cs).map fun (a, b) => ('\\' :: c :: a, b)
  | c :: cs =>
    if c = '=' ∨ c = ':' then some ([], cs)
    else (cutSeparator cs).map fun (a, b) => (c :: a, b)

/-- Drops every backslash that escapes something, and one at the very end. -/
def unescape : List Char → List Char
  | [] => []
  | ['\\'] => []
  | '\\' :: c :: cs => c :: unescape cs
  | c :: cs => c :: unescape cs

def isComment : List Char → Bool
  | '#' :: _ => true
  | '!' :: _ => true
  | _ => false

def parseLine (cs : List Char) : Option (String × String) :=
  (cutSeparator cs).map fun (k, v) =>
    (String.ofList (unescape (Text.strip Text.isBlank k)),
      String.ofList (unescape (Text.strip Text.isBlank v)))

/-- The properties in a text; of one name the last counts. -/
def parse (s : String) : Attributes :=
  let lines := (s.toList.splitOn '\n').map (Text.strip Text.isBlank)
  Dict.ofList ((lines.filter fun l => !l.isEmpty && !isComment l).filterMap parseLine)

end Slipway.Properties
