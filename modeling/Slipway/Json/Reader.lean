import Slipway.Json
import Slipway.Text.Cut
import Slipway.Text.Decimal
import Slipway.Text.Hexadecimal

/-
  Reading JSON text. The whole text is one value with JSON white space around it. Of two fields
  of one name the later counts. Every call of the reader is made on a text that is shorter than
  the one before, so the length of the text bounds the depth of the recursion.
-/

namespace Slipway.Json

/-- Why a text is not one JSON value. -/
inductive ReadFault where
  /-- The text ends before the value does. -/
  | cut
  | malformed
  deriving DecidableEq, Repr

/-- What is read from the beginning of a text comes with the rest of the text. -/
abbrev Reading := Except ReadFault

def isSpace (c : Char) : Bool := c = ' ' || c = '\n' || c = '\r' || c = '\t'

def skipSpace (cs : List Char) : List Char := cs.dropWhile isSpace

/-- The fault of a text that goes on with these characters, none of which were expected. -/
def faultAt : List Char → ReadFault
  | [] => .cut
  | _ :: _ => .malformed

/-- Reads `word`, which stands for `value`. -/
def readWord (word : String) (value : Json) (cs : List Char) : Reading (Json × List Char) :=
  match Text.dropStart? word.toList cs with
  | some rest => .ok (value, rest)
  | none =>
    match Text.dropStart? cs word.toList with
    | some _ => .error .cut
    | none => .error .malformed

/-! ## Strings -/

def simpleEscape? : Char → Option Char
  | '"' => some '"'
  | '\\' => some '\\'
  | '/' => some '/'
  | 'b' => some (Char.ofNat 8)
  | 'f' => some (Char.ofNat 12)
  | 'n' => some '\n'
  | 'r' => some '\r'
  | 't' => some '\t'
  | _ => none

def isHighSurrogate (n : Nat) : Bool := 0xD800 ≤ n && n < 0xDC00

def isLowSurrogate (n : Nat) : Bool := 0xDC00 ≤ n && n < 0xE000

/-- The character of a pair of surrogates. -/
def ofSurrogates? (high low : Nat) : Option Char :=
  if isLowSurrogate low then
    Text.scalar? (0x10000 + (high - 0xD800) * 0x400 + (low - 0xDC00))
  else none

def orMalformed : Option α → Reading α
  | some a => .ok a
  | none => .error .malformed

/-- The rest of a string after its opening quotation mark, and what follows the closing one.
    `acc` holds the characters read so far, last first. -/
def readString (acc : List Char) : List Char → Reading (String × List Char)
  | '"' :: cs => .ok (String.ofList acc.reverse, cs)
  | '\\' :: 'u' :: a :: b :: c :: d :: cs => do
    let n ← orMalformed (Text.hexValue? [a, b, c, d])
    if isHighSurrogate n then
      match cs with
      | '\\' :: 'u' :: a :: b :: c :: d :: cs =>
        let low ← orMalformed (Text.hexValue? [a, b, c, d])
        readString ((← orMalformed (ofSurrogates? n low)) :: acc) cs
      | ['\\', 'u', _, _, _] | ['\\', 'u', _, _] | ['\\', 'u', _] | ['\\', 'u'] | ['\\'] | [] =>
        .error .cut
      | _ => .error .malformed
    else readString ((← orMalformed (Text.scalar? n)) :: acc) cs
  | '\\' :: 'u' :: _ => .error .cut
  | '\\' :: c :: cs => do readString ((← orMalformed (simpleEscape? c)) :: acc) cs
  | ['\\'] => .error .cut
  | c :: cs => if c.toNat < 32 then .error .malformed else readString (c :: acc) cs
  | [] => .error .cut

/-! ## Numbers -/

/-- One digit or more. -/
def readDigits (cs : List Char) : Reading (List Char × List Char) :=
  match cs.takeWhile Text.isDigit with
  | [] => .error (faultAt cs)
  | ds => .ok (ds, cs.dropWhile Text.isDigit)

/-- The characters of a fraction, if there is one. -/
def readFraction : List Char → Reading (List Char × List Char)
  | '.' :: cs => do
    let (ds, cs) ← readDigits cs
    .ok ('.' :: ds, cs)
  | cs => .ok ([], cs)

/-- The characters of an exponent, if there is one. -/
def readExponent : List Char → Reading (List Char × List Char)
  | e :: cs =>
    if e = 'e' ∨ e = 'E' then do
      let (sign, cs) := match cs with
        | '+' :: r => (['+'], r)
        | '-' :: r => (['-'], r)
        | r => ([], r)
      let (ds, cs) ← readDigits cs
      .ok (e :: sign ++ ds, cs)
    else .ok ([], e :: cs)
  | [] => .ok ([], [])

def readNumber (negative : Bool) (cs : List Char) : Reading (Json × List Char) := do
  let (ds, cs) ← readDigits cs
  let n ← orMalformed (Text.digitsValue? ds)
  if ds.length ≠ 1 ∧ ds.head? = some '0' then throw .malformed
  let (fraction, cs) ← readFraction cs
  let (exponent, cs) ← readExponent cs
  if fraction.isEmpty ∧ exponent.isEmpty ∧ ¬ (negative ∧ n = 0) then
    .ok (int (if negative then -(n : Int) else n), cs)
  else
    let sign := if negative then ['-'] else []
    .ok (real (String.ofList (sign ++ ds ++ fraction ++ exponent)), cs)

/-! ## Values -/

mutual

def readValue : Nat → List Char → Reading (Json × List Char)
  | 0, _ => .error .malformed
  | fuel + 1, cs =>
    match skipSpace cs with
    | 'n' :: cs => readWord "ull" null cs
    | 't' :: cs => readWord "rue" (bool true) cs
    | 'f' :: cs => readWord "alse" (bool false) cs
    | '"' :: cs => do
      let (s, cs) ← readString [] cs
      .ok (string s, cs)
    | '[' :: cs =>
      match skipSpace cs with
      | ']' :: cs => .ok (array [], cs)
      | cs => readItems fuel [] cs
    | '{' :: cs =>
      match skipSpace cs with
      | '}' :: cs => .ok (object [], cs)
      | cs => readFields fuel [] cs
    | '-' :: cs => readNumber true cs
    | cs => readNumber false cs

/-- The items from here to the closing bracket; `acc` holds those before, last first. -/
def readItems : Nat → List Json → List Char → Reading (Json × List Char)
  | 0, _, _ => .error .malformed
  | fuel + 1, acc, cs => do
    let (j, cs) ← readValue fuel cs
    match skipSpace cs with
    | ',' :: cs => readItems fuel (j :: acc) cs
    | ']' :: cs => .ok (array (j :: acc).reverse, cs)
    | cs => .error (faultAt cs)

/-- The fields from here to the closing brace, added to those before. -/
def readFields : Nat → List (String × Json) → List Char → Reading (Json × List Char)
  | 0, _, _ => .error .malformed
  | fuel + 1, acc, cs =>
    match skipSpace cs with
    | '"' :: cs => do
      let (k, cs) ← readString [] cs
      match skipSpace cs with
      | ':' :: cs =>
        let (j, cs) ← readValue fuel cs
        match skipSpace cs with
        | ',' :: cs => readFields fuel (setField k j acc) cs
        | '}' :: cs => .ok (object (setField k j acc), cs)
        | cs => .error (faultAt cs)
      | cs => .error (faultAt cs)
    | cs => .error (faultAt cs)

end

def read (s : String) : Reading Json := do
  let cs := s.toList
  let (j, rest) ← readValue (cs.length + 1) cs
  if (skipSpace rest).isEmpty then .ok j else .error .malformed

def read? (s : String) : Option Json := (read s).toOption

end Slipway.Json
