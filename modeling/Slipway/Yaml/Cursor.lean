/-
  A place in a text: what lies ahead of it, and its line and column.
-/

namespace Slipway.Yaml

structure Cursor where
  rest : List Char
  index : Nat := 0
  line : Nat := 0
  column : Nat := 0

/-- The characters that end a line: line feed, carriage return, next line, and the line and
    paragraph separators. -/
def isBreak (c : Char) : Bool :=
  c == '\n' || c == '\r' || c == '\u0085' || c == '\u2028' || c == '\u2029'

def isBlankChar (c : Char) : Bool := c == ' ' || c == '\t'

/-- True at the end of the text and before a character that satisfies `p`. -/
def endsOr (p : Char → Bool) : List Char → Bool
  | [] => true
  | c :: _ => p c

/-- True before white space and at the end of the text. -/
def atGap (cs : List Char) : Bool := endsOr (fun c => isBlankChar c || isBreak c) cs

namespace Cursor

def atEnd (c : Cursor) : Bool := c.rest.isEmpty

def next (c : Cursor) : Cursor :=
  { c with rest := c.rest.tail, index := c.index + 1, column := c.column + 1 }

def advance (c : Cursor) : Nat → Cursor
  | 0 => c
  | n + 1 => c.next.advance n

/-- The characters from here on that satisfy `p`, which line breaks must not, and the place
    behind them. -/
def span (c : Cursor) (p : Char → Bool) : List Char × Cursor :=
  let cs := c.rest.takeWhile p
  (cs, c.advance cs.length)

def skipBlanks (c : Cursor) : Cursor := (c.span isBlankChar).2

def skipComment (c : Cursor) : Cursor :=
  match c.rest with
  | '#' :: _ => (c.span fun d => !isBreak d).2
  | _ => c

/-- The beginning of the line that follows `n` characters of a line break. -/
def newLine (c : Cursor) (n : Nat) : Cursor :=
  { rest := c.rest.drop n, index := c.index + n, line := c.line + 1, column := 0 }

/-- The line break here, if there is one. All of them count as a line feed but the line and
    paragraph separators, which stand for themselves. -/
def lineBreak? (c : Cursor) : Option (Char × Cursor) :=
  match c.rest with
  | '\r' :: '\n' :: _ => some ('\n', c.newLine 2)
  | d :: _ =>
    if d = '\u2028' ∨ d = '\u2029' then some (d, c.newLine 1)
    else if isBreak d then some ('\n', c.newLine 1)
    else none
  | [] => none

def skipLineBreak (c : Cursor) : Cursor :=
  match c.lineBreak? with
  | some (_, c) => c
  | none => c

/-- True at the beginning of a line that holds three given characters and then a gap. -/
def atMarker (c : Cursor) (d : Char) : Bool :=
  c.column == 0 && c.rest.take 3 == [d, d, d] && atGap (c.rest.drop 3)

/-- True before a marker that starts or ends a document. -/
def atDocumentMarker (c : Cursor) : Bool := c.atMarker '-' || c.atMarker '.'

end Cursor

end Slipway.Yaml
