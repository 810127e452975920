import Slipway.Text.Hexadecimal
import Slipway.Yaml.Cursor

/-
  The text of scalars. A line break inside a quoted, plain or folded scalar counts as one space,
  and of several breaks in a row all but the first are kept.
-/

namespace Slipway.Yaml

/-- White space between two stretches of text: the blanks before the first line break, and the
    line breaks. Blanks at the beginning of a line count for nothing. -/
structure Gap where
  blanks : List Char := []
  breaks : List Char := []

/-- What a gap amounts to. -/
def Gap.joined (g : Gap) : List Char :=
  match g.breaks with
  | [] => g.blanks
  | ['\n'] => [' ']
  | '\n' :: more => more
  | breaks => breaks

/-- Reads a gap. `broken` says that a line has been ended in it. Then a tab may stand from the
    column `indent` on only. -/
def readGap (indent : Nat) : Nat → Bool → Gap → Cursor → Option (Gap × Cursor)
  | 0, _, g, c => some (g, c)
  | fuel + 1, broken, g, c =>
    match c.lineBreak? with
    | some (b, next) => readGap indent fuel true ⟨g.blanks, g.breaks ++ [b]⟩ next
    | none =>
      match c.rest with
      | d :: _ =>
        if isBlankChar d then
          if broken && d == '\t' && c.column < indent then none
          else readGap indent fuel broken
            (if broken then g else ⟨g.blanks ++ [d], g.breaks⟩) c.next
        else some (g, c)
      | [] => some (g, c)

/-! ## Quoted scalars -/

def simpleEscape? : Char → Option Char
  | '0' => some (Char.ofNat 0)
  | 'a' => some (Char.ofNat 7)
  | 'b' => some (Char.ofNat 8)
  | 't' => some '\t'
  | '\t' => some '\t'
  | 'n' => some '\n'
  | 'v' => some (Char.ofNat 11)
  | 'f' => some (Char.ofNat 12)
  | 'r' => some '\r'
  | 'e' => some (Char.ofNat 27)
  | ' ' => some ' '
  | '"' => some '"'
  | '/' => some '/'
  | '\\' => some '\\'
  | 'N' => some '\u0085'
  | '_' => some '\u00a0'
  | 'L' => some '\u2028'
  | 'P' => some '\u2029'
  | _ => none

/-- The number of hexadecimal digits behind an escape that gives a character by number. -/
def escapeWidth? : Char → Option Nat
  | 'x' => some 2
  | 'u' => some 4
  | 'U' => some 8
  | _ => none

/-- The character for which an escape stands that begins with `d`, and the place behind it. The
    cursor stands before the backslash. -/
def escape? (d : Char) (c : Cursor) : Option (Char × Cursor) :=
  match escapeWidth? d with
  | none => (simpleEscape? d).map fun e => (e, c.advance 2)
  | some width => do
    let ds := (c.rest.drop 2).take width
    if ds.length < width then none
    else
      let e ← Text.scalar? (← Text.hexValue? ds)
      pure (e, c.advance (2 + width))

/-- The rest of a quoted scalar, from behind the opening quotation mark to behind the closing
    one. `acc` holds the text so far, last character first. -/
def readQuoted (double : Bool) : Nat → List Char → Cursor → Option (String × Cursor)
  | 0, _, _ => none
  | fuel + 1, acc, c =>
    if c.atDocumentMarker then none
    else match c.rest with
      | [] => none
      | d :: ds =>
        if d = '\'' ∧ !double then
          if ds.head? = some '\'' then readQuoted double fuel ('\'' :: acc) (c.advance 2)
          else some (String.ofList acc.reverse, c.next)
        else if d = '"' ∧ double then some (String.ofList acc.reverse, c.next)
        else if d = '\\' ∧ double then
          match c.next.lineBreak? with
          | some (_, next) => do
            let (g, c) ← readGap 0 (next.rest.length + 1) true {} next
            readQuoted double fuel (g.breaks.reverse ++ acc) c
          | none => do
            let (e, c) ← escape? (← ds.head?) c
            readQuoted double fuel (e :: acc) c
        else if isBlankChar d || isBreak d then do
          let (g, c) ← readGap 0 (c.rest.length + 1) false {} c
          readQuoted double fuel (g.joined.reverse ++ acc) c
        else readQuoted double fuel (d :: acc) c.next

/-! ## Plain scalars -/

def isFlowIndicator (c : Char) : Bool :=
  c == ',' || c == '[' || c == ']' || c == '{' || c == '}'

/-- Whether a plain scalar ends before this text. -/
def endsPlain (inFlow : Bool) : List Char → Bool
  | [] => true
  | c :: cs => (c == ':' && atGap cs) || (inFlow && isFlowIndicator c)

/-- A colon in a flow collection that neither ends the scalar nor belongs to it. -/
def badColon (inFlow : Bool) : List Char → Bool
  | ':' :: c :: _ => inFlow && (isFlowIndicator c || c == '?')
  | _ => false

/-- The characters of a plain scalar up to white space or its end. -/
def readWord (inFlow : Bool) : Nat → List Char → Cursor → Option (List Char × Cursor)
  | 0, acc, c => some (acc, c)
  | fuel + 1, acc, c =>
    match c.rest with
    | [] => some (acc, c)
    | d :: _ =>
      if isBlankChar d || isBreak d then some (acc, c)
      else if badColon inFlow c.rest then none
      else if endsPlain inFlow c.rest then some (acc, c)
      else readWord inFlow fuel (d :: acc) c.next

/-- A plain scalar from its first character on, and whether the place behind it is on a later
    line. In block context it goes on as long as lines are indented by `indent` or more. -/
def readPlain (inFlow : Bool) (indent : Nat) :
    Nat → List Char → Gap → Bool → Cursor → Option (String × Bool × Cursor)
  | 0, _, _, _, _ => none
  | fuel + 1, acc, g, broken, c =>
    if c.atDocumentMarker || c.rest.head? == some '#' then
      some (String.ofList acc.reverse, broken, c)
    else do
      let (word, next) ← readWord inFlow (c.rest.length + 1) [] c
      let acc := if word.isEmpty then acc else word ++ g.joined.reverse ++ acc
      let broken := if word.isEmpty then broken else false
      let g : Gap := if word.isEmpty then g else {}
      match next.rest with
      | [] => some (String.ofList acc.reverse, broken, next)
      | d :: _ =>
        if isBlankChar d || isBreak d then do
          let (g, after) ← readGap indent (next.rest.length + 1) broken g next
          let broken := !g.breaks.isEmpty
          if !inFlow && after.column < indent then some (String.ofList acc.reverse, broken, after)
          else readPlain inFlow indent fuel acc g broken after
        else some (String.ofList acc.reverse, broken, next)

/-! ## Block scalars -/

inductive Chomping where
  | strip
  | clip
  | keep
  deriving DecidableEq, Repr

def chomping? : Char → Option Chomping
  | '+' => some .keep
  | '-' => some .strip
  | _ => none

/-- An indentation indicator, which is not 0. -/
def indentDigit? (c : Char) : Option Nat :=
  if '1' ≤ c ∧ c ≤ '9' then some (c.toNat - 48) else none

/-- The indicators behind the one that begins a block scalar, in either order. -/
def readHeader (c : Cursor) : Chomping × Option Nat × Cursor :=
  match c.rest with
  | a :: rest =>
    match chomping? a, indentDigit? a with
    | some ch, _ =>
      match rest.head?.bind indentDigit? with
      | some n => (ch, some n, c.advance 2)
      | none => (ch, none, c.next)
    | none, some n =>
      match rest.head?.bind chomping? with
      | some ch => (ch, some n, c.advance 2)
      | none => (.clip, some n, c.next)
    | none, none => (.clip, none, c)
  | [] => (.clip, none, c)

/-- The empty lines at the beginning of a block scalar or between its lines, and the greatest
    column seen. An unknown indentation is taken to be without limit. -/
def readEmptyLines (indent : Option Nat) :
    Nat → Nat → List Char → Cursor → Option (Nat × List Char × Cursor)
  | 0, widest, breaks, c => some (widest, breaks, c)
  | fuel + 1, widest, breaks, c =>
    let below (column : Nat) : Bool := match indent with
      | some n => decide (column < n)
      | none => true
    let spaces := (c.rest.takeWhile (· == ' ')).length
    let c := c.advance (match indent with
      | some n => min spaces (n - c.column)
      | none => spaces)
    let widest := max widest c.column
    if below c.column && c.rest.head? == some '\t' then none
    else match c.lineBreak? with
      | some (b, next) => readEmptyLines indent fuel widest (breaks ++ [b]) next
      | none => some (widest, breaks, c)

/-- The lines of a block scalar. `last` is the break that ended the line before, and `blank` says
    that it began with a blank; `empties` are the empty lines since. -/
def readLines (folded : Bool) (indent : Nat) :
    Nat → List Char → List Char → Bool → List Char → Cursor →
    Option (List Char × List Char × List Char × Cursor)
  | 0, _, _, _, _, _ => none
  | fuel + 1, acc, last, blank, empties, c =>
    if c.column ≠ indent ∨ c.atEnd then some (acc, last, empties, c)
    else do
      let blankNow := c.rest.head?.any isBlankChar
      let joint :=
        if folded && last == ['\n'] && !blank && !blankNow then
          (if empties.isEmpty then [' '] else [])
        else last
      let (line, c) := c.span fun d => !isBreak d
      let acc := line.reverse ++ empties.reverse ++ joint.reverse ++ acc
      let (last, c) := match c.lineBreak? with
        | some (b, next) => ([b], next)
        | none => ([], c)
      let (_, empties, c) ← readEmptyLines (some indent) (c.rest.length + 1) 0 [] c
      readLines folded indent fuel acc last blankNow empties c

/-- A block scalar, from behind its first indicator, inside a block of the given indentation. -/
def readBlock (folded : Bool) (parent : Int) (c : Cursor) : Option (String × Cursor) := do
  let (chomping, increment, c) := readHeader c
  let c := c.skipBlanks.skipComment
  if !endsOr isBreak c.rest then none
  else
    let c := c.skipLineBreak
    let given := increment.map fun n => if 0 ≤ parent then parent.toNat + n else n
    let (widest, empties, c) ← readEmptyLines given (c.rest.length + 1) 0 [] c
    let indent := given.getD (max (max widest (parent + 1).toNat) 1)
    let (acc, last, empties, c) ←
      readLines folded indent (c.rest.length + 1) [] [] false empties c
    let text := acc.reverse ++ match chomping with
      | .strip => []
      | .clip => last
      | .keep => last ++ empties
    some (String.ofList text, c)

end Slipway.Yaml
