import Slipway.Text.Decimal
import Slipway.Text.Hexadecimal
import Slipway.Yaml.ScalarText
import Slipway.Yaml.Token

/-
  From text to tokens. That a scalar is the key of a mapping shows only at the colon behind it, so
  the place of each possible key is remembered and the key's token is put there later.
-/

namespace Slipway.Yaml

/-- A place that may turn out to be the beginning of a key: the number of tokens before it, where
    it is in the text, and whether nothing but a key may stand there. -/
structure KeyPlace where
  position : Nat
  required : Bool
  line : Nat
  index : Nat
  column : Nat

structure Scanner where
  cursor : Cursor
  tokens : Array Token := #[]
  /-- The column of the innermost block collection, −1 if there is none, and those around it. -/
  indent : Int := -1
  indents : List Int := []
  keyAllowed : Bool := true
  /-- The possible key of the innermost flow collection, and those of the levels around it. -/
  key : Option KeyPlace := none
  outerKeys : List (Option KeyPlace) := []

namespace Scanner

def inFlow (s : Scanner) : Bool := !s.outerKeys.isEmpty

def push (s : Scanner) (t : Token) : Scanner := { s with tokens := s.tokens.push t }

def insertAt (s : Scanner) (position : Nat) (t : Token) : Scanner :=
  let ts := s.tokens.toList
  { s with tokens := (ts.take position ++ t :: ts.drop position).toArray }

/-- Begins a block collection at a column, unless one of that column or a greater is open. -/
def openBlock (s : Scanner) (column position : Nat) (t : Token) : Scanner :=
  if s.inFlow ∨ (column : Int) ≤ s.indent then s
  else { s.insertAt position t with indent := column, indents := s.indent :: s.indents }

/-- Ends the block collections whose column is greater. -/
def closeBlocks (column : Int) : List Int → Scanner → Scanner
  | outer, s =>
    if s.inFlow ∨ s.indent ≤ column then s
    else match outer with
      | [] => s
      | i :: outer => closeBlocks column outer { s.push .blockEnd with indent := i, indents := outer }

def unindent (s : Scanner) (column : Int) : Scanner := closeBlocks column s.indents s

/-- Gives up the possible key of this level; a required one must not be lost. -/
def dropKey (s : Scanner) : Option Scanner :=
  match s.key with
  | some k => if k.required then none else some { s with key := none }
  | none => some s

def saveKey (s : Scanner) : Option Scanner :=
  if s.keyAllowed then do
    let required := !s.inFlow && s.indent == (s.cursor.column : Int)
    let s ← s.dropKey
    let place : KeyPlace :=
      ⟨s.tokens.size, required, s.cursor.line, s.cursor.index, s.cursor.column⟩
    pure { s with key := some place }
  else some s

/-- A key is on one line and at most 1024 characters long. -/
def isStale (c : Cursor) (k : KeyPlace) : Bool := k.line < c.line || k.index + 1024 < c.index

def dropStaleKey (c : Cursor) : Option KeyPlace → Option (Option KeyPlace)
  | some k => if isStale c k then (if k.required then none else some none) else some (some k)
  | none => some none

def dropStaleKeys (s : Scanner) : Option Scanner := do
  let key ← dropStaleKey s.cursor s.key
  let outer ← s.outerKeys.mapM (dropStaleKey s.cursor)
  pure { s with key, outerKeys := outer }

/-- Skips blanks, comments and line breaks. A tab may not indent a line of a block. -/
def skipGap : Nat → Scanner → Scanner
  | 0, s => s
  | fuel + 1, s =>
    let tabs := s.inFlow || !s.keyAllowed
    let c := (s.cursor.span fun d => d == ' ' || (tabs && d == '\t')).2.skipComment
    match c.lineBreak? with
    | some (_, c) => skipGap fuel { s with cursor := c, keyAllowed := s.keyAllowed || !s.inFlow }
    | none => { s with cursor := c }

/-! ## Tokens -/

def isWordChar (c : Char) : Bool :=
  ('0' ≤ c && c ≤ '9') || ('A' ≤ c && c ≤ 'Z') || ('a' ≤ c && c ≤ 'z') || c == '_' || c == '-'

/-- A token of `width` characters that is no key and ends what was begun on the line. -/
def plainToken (s : Scanner) (width : Nat) (keyAllowed : Bool) (t : Token) : Option Scanner := do
  let s ← s.dropKey
  pure { s.push t with cursor := s.cursor.advance width, keyAllowed }

def fetchFlowStart (s : Scanner) (t : Token) : Option Scanner := do
  let s ← s.saveKey
  pure { s.push t with
    cursor := s.cursor.next, keyAllowed := true, key := none, outerKeys := s.key :: s.outerKeys }

def fetchFlowEnd (s : Scanner) (t : Token) : Option Scanner := do
  let s ← s.plainToken 1 false t
  match s.outerKeys with
  | k :: outer => pure { s with key := k, outerKeys := outer }
  | [] => pure s

def fetchBlockEntry (s : Scanner) : Option Scanner := do
  if !s.inFlow && !s.keyAllowed then none
  else (s.openBlock s.cursor.column s.tokens.size .blockSequenceStart).plainToken 1 true .blockEntry

def fetchKey (s : Scanner) : Option Scanner := do
  if !s.inFlow && !s.keyAllowed then none
  else
    (s.openBlock s.cursor.column s.tokens.size .blockMappingStart).plainToken 1 (!s.inFlow) .key

/-- At a colon the possible key of this level becomes one. -/
def fetchValue (s : Scanner) : Option Scanner :=
  match s.key with
  | some k =>
    let s := (s.insertAt k.position .key).openBlock k.column k.position .blockMappingStart
    some { s.push .value with cursor := s.cursor.next, key := none, keyAllowed := false }
  | none =>
    if !s.inFlow && !s.keyAllowed then none
    else
      let s := s.openBlock s.cursor.column s.tokens.size .blockMappingStart
      some { s.push .value with cursor := s.cursor.next, keyAllowed := !s.inFlow }

/-- True where the name of an anchor may end. -/
def endsName (cs : List Char) : Bool :=
  endsOr (fun c => isBlankChar c || isBreak c || "?:,]\x7d%@`".toList.contains c) cs

def fetchNamed (s : Scanner) (t : String → Token) : Option Scanner := do
  let s ← s.saveKey
  let (name, c) := s.cursor.next.span isWordChar
  if name.isEmpty || !endsName c.rest then none
  else some { s.push (t (String.ofList name)) with cursor := c, keyAllowed := false }

def isUriChar (verbatim : Bool) (c : Char) : Bool :=
  isWordChar c || ";/?:@&=+$.!~*'()".toList.contains c ||
    (verbatim && (c == ',' || c == '[' || c == ']'))

/-- How many bytes the UTF-8 form has that begins with this one. -/
def utf8Width? (b : Nat) : Option Nat :=
  if b < 0x80 then some 1
  else if 0xC0 ≤ b ∧ b < 0xE0 then some 2
  else if 0xE0 ≤ b ∧ b < 0xF0 then some 3
  else if 0xF0 ≤ b ∧ b < 0xF8 then some 4
  else none

/-- Takes `n` further bytes of an escaped character, each with its top bits 10. -/
def escapedBytes? (value : Nat) : Nat → List Char → Option (Nat × List Char)
  | 0, cs => some (value, cs)
  | n + 1, '%' :: a :: b :: cs => do
    let byte ← Text.hexValue? [a, b]
    if 0x80 ≤ byte ∧ byte < 0xC0 then escapedBytes? (value * 64 + (byte - 0x80)) n cs else none
  | _ + 1, _ => none

/-- The rest of a tag, with its escaped characters resolved. -/
def readUri (verbatim : Bool) : Nat → List Char → Cursor → Option (List Char × Cursor)
  | 0, _, _ => none
  | fuel + 1, acc, c =>
    match c.rest with
    | '%' :: a :: b :: cs => do
      let lead ← Text.hexValue? [a, b]
      let width ← utf8Width? lead
      let bits := if width = 1 then lead else lead % (2 ^ (7 - width))
      let (value, rest) ← escapedBytes? bits (width - 1) cs
      let d ← Text.scalar? value
      readUri verbatim fuel (d :: acc) (c.advance (c.rest.length - rest.length))
    | d :: _ =>
      if d = '%' then none
      else if isUriChar verbatim d then readUri verbatim fuel (d :: acc) c.next
      else some (acc.reverse, c)
    | [] => some (acc.reverse, c)

/-- The handle of a tag: an exclamation mark, or a word between two. -/
def readHandle (c : Cursor) : List Char × Cursor :=
  let (word, after) := c.next.span isWordChar
  match after.rest with
  | '!' :: _ => ('!' :: word ++ ['!'], after.next)
  | _ => ('!' :: word, after)

def readTag (c : Cursor) : Option (Token × Cursor) :=
  match c.rest with
  | _ :: '<' :: _ => do
    let c := c.advance 2
    let (uri, c) ← readUri true (c.rest.length + 1) [] c
    if uri.isEmpty || c.rest.head? != some '>' then none
    else some (.tag "" (String.ofList uri), c.next)
  | _ => do
    let (handle, c) := readHandle c
    if handle.length ≠ 1 ∧ handle.getLast? = some '!' then
      let (suffix, c) ← readUri false (c.rest.length + 1) [] c
      if suffix.isEmpty then none
      else some (.tag (String.ofList handle) (String.ofList suffix), c)
    else
      let (suffix, c) ← readUri false (c.rest.length + 1) (handle.drop 1).reverse c
      some (if suffix.isEmpty then .tag "" "!" else .tag "!" (String.ofList suffix), c)

def fetchTag (s : Scanner) : Option Scanner := do
  let s ← s.saveKey
  let (t, c) ← readTag s.cursor
  if atGap c.rest || (s.inFlow && c.rest.head? == some ',') then
    some { s.push t with cursor := c, keyAllowed := false }
  else none

def fetchBlockScalar (s : Scanner) (folded : Bool) : Option Scanner := do
  let s ← s.dropKey
  let (text, c) ← readBlock folded s.indent s.cursor.next
  some { s.push (.scalar text (if folded then .folded else .literal)) with
    cursor := c, keyAllowed := true }

def fetchQuoted (s : Scanner) (double : Bool) : Option Scanner := do
  let s ← s.saveKey
  let (text, c) ← readQuoted double (s.cursor.rest.length + 1) [] s.cursor.next
  some { s.push (.scalar text .quoted) with cursor := c, keyAllowed := false }

def fetchPlain (s : Scanner) : Option Scanner := do
  let s ← s.saveKey
  let (text, broken, c) ←
    readPlain s.inFlow (s.indent + 1).toNat (s.cursor.rest.length + 1) [] {} false s.cursor
  some { s.push (.scalar text .plain) with cursor := c, keyAllowed := broken }

/-! ## Directives -/

/-- A part of a version: up to nine digits. -/
def readVersionPart (c : Cursor) : Option (Nat × Cursor) := do
  let (ds, c) := c.span fun d => '0' ≤ d && d ≤ '9'
  if 9 < ds.length then none else pure (← Text.digitsValue? ds, c)

def readDirective (c : Cursor) : Option (Token × Cursor) := do
  let (name, c) := c.next.span isWordChar
  if name.isEmpty || !atGap c.rest then none
  else if name = "YAML".toList then
    let (major, c) ← readVersionPart c.skipBlanks
    if c.rest.head? ≠ some '.' then none
    else
      let (minor, c) ← readVersionPart c.next
      some (.version major minor, c)
  else if name = "TAG".toList then
    let c := c.skipBlanks
    if c.rest.head? ≠ some '!' then none
    else
      let (handle, c) := readHandle c
      if handle.length ≠ 1 ∧ handle.getLast? ≠ some '!' then none
      else if !endsOr isBlankChar c.rest || c.atEnd then none
      else
        let c := c.skipBlanks
        let (uri, c) ← readUri true (c.rest.length + 1) [] c
        if uri.isEmpty || !atGap c.rest then none
        else some (.tagDirective (String.ofList handle) (String.ofList uri), c)
  else none

def fetchDirective (s : Scanner) : Option Scanner := do
  let s ← (s.unindent (-1)).dropKey
  let (t, c) ← readDirective s.cursor
  let c := c.skipBlanks.skipComment
  if endsOr isBreak c.rest then
    some { s.push t with cursor := c.skipLineBreak, keyAllowed := false }
  else none

/-! ## The whole text -/

def isIndicator (c : Char) : Bool := "-?:,[]\x7b\x7d#&*!|>'\"%@`".toList.contains c

/-- Whether a plain scalar may begin with the character `d` before `ds`. -/
def startsPlain (inFlow : Bool) (d : Char) (ds : List Char) : Bool :=
  !(isBlankChar d || isBreak d || isIndicator d) ||
    (d == '-' && !endsOr isBlankChar ds) ||
    (!inFlow && (d == '?' || d == ':') && !atGap ds)

/-- The token at the cursor, which is not at the end of the text. -/
def fetchToken (s : Scanner) (d : Char) (ds : List Char) : Option Scanner :=
  let flow := s.inFlow
  let gap := atGap ds
  if s.cursor.column = 0 ∧ d = '%' then s.fetchDirective
  else if s.cursor.atMarker '-' then (s.unindent (-1)).plainToken 3 false .documentStart
  else if s.cursor.atMarker '.' then (s.unindent (-1)).plainToken 3 false .documentEnd
  else if d = '[' then s.fetchFlowStart .flowSequenceStart
  else if d = '{' then s.fetchFlowStart .flowMappingStart
  else if d = ']' then s.fetchFlowEnd .flowSequenceEnd
  else if d = '}' then s.fetchFlowEnd .flowMappingEnd
  else if d = ',' then s.plainToken 1 true .flowEntry
  else if d = '-' ∧ gap then s.fetchBlockEntry
  else if d = '?' ∧ (flow ∨ gap) then s.fetchKey
  else if d = ':' ∧ (flow ∨ gap) then s.fetchValue
  else if d = '*' then s.fetchNamed .alias
  else if d = '&' then s.fetchNamed .anchor
  else if d = '!' then s.fetchTag
  else if d = '|' ∧ !flow then s.fetchBlockScalar false
  else if d = '>' ∧ !flow then s.fetchBlockScalar true
  else if d = '\'' then s.fetchQuoted false
  else if d = '"' then s.fetchQuoted true
  else if startsPlain flow d ds then s.fetchPlain
  else none

/-- All tokens. Every token but the ends of blocks takes a character or more. -/
def run : Nat → Scanner → Option (List Token)
  | 0, _ => none
  | fuel + 1, s => do
    let s ← (skipGap (s.cursor.rest.length + 1) s).dropStaleKeys
    match s.cursor.rest with
    | [] => do
      let s ← (s.unindent (-1)).dropKey
      pure s.tokens.toList
    | d :: ds => run fuel (← (s.unindent s.cursor.column).fetchToken d ds)

end Scanner

/-- The characters that may stand in a text. -/
def isPrintable (c : Char) : Bool :=
  let n := c.toNat
  n == 9 || n == 10 || n == 13 || (0x20 ≤ n && n ≤ 0x7E) || n == 0x85 ||
    (0xA0 ≤ n && n ≤ 0xD7FF) || (0xE000 ≤ n && n ≤ 0xFFFD && n != 0xFEFF) || 0x10000 ≤ n

/-- The tokens of a text, which may begin with a byte order mark. -/
def Token.ofText? (s : String) : Option (List Token) :=
  let cs := match s.toList with
    | '\ufeff' :: cs => cs
    | cs => cs
  if cs.all isPrintable then Scanner.run (cs.length + 1) { cursor := { rest := cs } } else none

end Slipway.Yaml
