import Slipway.Calendar
import Slipway.Text.Blank
import Slipway.Text.Cut
import Slipway.Text.Decimal

/-
  Points in time. They are read with an offset and with fractions of a second, compared exactly,
  and written in universal time without fractions.
-/

namespace Slipway

namespace Timestamp

def daySeconds : Int := 86400

def least : Int := Calendar.daysOf ⟨-262143, 1, 1⟩ * daySeconds

def most : Int := Calendar.daysOf ⟨262142, 12, 31⟩ * daySeconds + (daySeconds - 1)

end Timestamp

/-- Seconds since the beginning of 1970, and nanoseconds. A leap second is counted as part of the
    second before it, whose nanoseconds then go on beyond a thousand million. -/
structure Timestamp where
  seconds : Int
  nanos : Nat
  inRange : Timestamp.least ≤ seconds ∧ seconds ≤ Timestamp.most
  deriving DecidableEq, Repr

namespace Timestamp

def compare (a b : Timestamp) : Ordering :=
  (Ord.compare a.seconds b.seconds).then (Ord.compare a.nanos b.nanos)

theorem least_eq : least = -8334601228800 := by decide

theorem most_eq : most = 8210266876799 := by decide

/-- The given number of seconds after the beginning of the year 2025. -/
def in2025 (seconds : Nat) (h : seconds < 31536000) : Timestamp :=
  ⟨1735689600 + seconds, 0, by rw [least_eq, most_eq]; omega⟩

def ofSeconds? (seconds : Int) (nanos : Nat) : Option Timestamp :=
  if h : least ≤ seconds ∧ seconds ≤ most then some ⟨seconds, nanos, h⟩ else none

/-- The same second without its fraction. -/
def wholeSeconds (t : Timestamp) : Timestamp :=
  if 1000000000 ≤ t.nanos then ⟨t.seconds, 1000000000, t.inRange⟩ else ⟨t.seconds, 0, t.inRange⟩

/-! ## Writing -/

/-- A year of the first ten thousand has four digits; any other has a sign and four or more. -/
def yearText (year : Int) : List Char :=
  if 0 ≤ year ∧ year ≤ 9999 then Text.paddedDigits 4 year.toNat
  else (if year < 0 then '-' else '+') :: Text.paddedDigits 4 year.natAbs

def text (t : Timestamp) : String :=
  let date := Calendar.dateOf (t.seconds / daySeconds)
  let time := (t.seconds % daySeconds).toNat
  let leap := t.nanos / 1000000000
  let two := Text.paddedDigits 2
  String.ofList (yearText date.year ++ '-' :: two date.month ++ '-' :: two date.day ++
    'T' :: two (time / 3600) ++ ':' :: two (time / 60 % 60) ++ ':' :: two (time % 60 + leap) ++
    ['Z'])

/-! ## Reading -/

def skipBlanks (cs : List Char) : List Char := cs.dropWhile Text.isBlank

/-- A number of one digit or more, and of `most` at the most. -/
def number? (most : Nat) (cs : List Char) : Option (Nat × List Char) := do
  let ds := (cs.take most).takeWhile Text.isDigit
  pure (← Text.digitsValue? ds, cs.drop ds.length)

def numberBetween? (least most : Nat) (cs : List Char) : Option (Nat × List Char) := do
  let (n, cs) ← number? 2 (skipBlanks cs)
  if least ≤ n ∧ n ≤ most then some (n, cs) else none

/-- A year has up to four digits, or a sign and any number of them. -/
def year? (cs : List Char) : Option (Int × List Char) :=
  match skipBlanks cs with
  | '-' :: cs => (number? cs.length cs).map fun (n, cs) => (-(n : Int), cs)
  | '+' :: cs => (number? cs.length cs).map fun (n, cs) => ((n : Int), cs)
  | cs => (number? 4 cs).map fun (n, cs) => ((n : Int), cs)

/-- What follows a given character, with blanks allowed before it. -/
def after? (c : Char) (cs : List Char) : Option (List Char) :=
  match skipBlanks cs with
  | d :: cs => if d = c then some cs else none
  | [] => none

/-- Nine digits of a fraction count; those behind them are passed over. -/
def fraction? : List Char → Option (Nat × List Char)
  | '.' :: cs =>
    let ds := (cs.take 9).takeWhile Text.isDigit
    (Text.digitsValue? ds).map fun n =>
      (n * Nat.pow 10 (9 - ds.length), (cs.drop ds.length).dropWhile Text.isDigit)
  | cs => some (0, cs)

/-- An offset from universal time in seconds. -/
def offset? (cs : List Char) : Option (Int × List Char) :=
  match cs with
  | 'Z' :: cs => some (0, cs)
  | 'z' :: cs => some (0, cs)
  | c :: h₁ :: h₂ :: cs => do
    let negative ← if c = '+' then some false
      else if c = '-' ∨ c = '\u2212' then some true else none
    let hours ← Text.digitsValue? [h₁, h₂]
    match cs.dropWhile fun c => c == ':' || Text.isBlank c with
    | m₁ :: m₂ :: cs =>
      let minutes ← Text.digitsValue? [m₁, m₂]
      if minutes < 60 ∧ hours < 24 then
        let seconds : Int := hours * 3600 + minutes * 60
        some (if negative then -seconds else seconds, cs)
      else none
    | _ => none
  | _ => none

def zone? (cs : List Char) : Option (Int × List Char) :=
  if Text.asciiLower (String.ofList (cs.take 3)) = "utc" then some (0, cs.drop 3)
  else offset? cs

/-- Reads a date, a time of day with optional fraction, and an offset. The second 60 stands for a
    leap second. -/
def parse? (s : String) : Option Timestamp := do
  let (year, cs) ← year? s.toList
  let (month, cs) ← numberBetween? 1 12 (← after? '-' cs)
  let (day, cs) ← numberBetween? 1 31 (← after? '-' cs)
  let cs ← match cs with
    | c :: cs => if c = 't' ∨ c = 'T' ∨ c = ' ' then some cs else none
    | [] => none
  let (hour, cs) ← numberBetween? 0 23 cs
  let (minute, cs) ← numberBetween? 0 59 (← after? ':' cs)
  let (second, cs) ← numberBetween? 0 60 (← after? ':' cs)
  let (nanos, cs) ← fraction? cs
  let (offset, cs) ← zone? (skipBlanks cs)
  let date : Calendar.Date := ⟨year, month, day⟩
  let time := hour * 3600 + minute * 60 + min second 59
  let nanos := if second = 60 then nanos + 1000000000 else nanos
  let wall ← ofSeconds? (Calendar.daysOf date * daySeconds + time) nanos
  if date.Valid ∧ (skipBlanks cs).isEmpty then ofSeconds? (wall.seconds - offset) nanos else none

end Timestamp

end Slipway
