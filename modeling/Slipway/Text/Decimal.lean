/-
  Decimal numerals: writing a natural number, and reading one with an optional sign.
  `digitsValue?_digits`: reading what was written gives the number back.
-/

namespace Slipway.Text

def digitChar (n : Nat) : Char := Char.ofNat (48 + n)

def isDigit (c : Char) : Bool := '0' ≤ c && c ≤ '9'

def digitValue? (c : Char) : Option Nat :=
  if '0' ≤ c ∧ c ≤ '9' then some (c.toNat - 48) else none

/-- The digits of a number, most significant first. -/
def digits (n : Nat) : List Char :=
  if n < 10 then [digitChar n] else digits (n / 10) ++ [digitChar (n % 10)]

def decimal (n : Nat) : String := String.ofList (digits n)

def signedDecimal (n : Int) : String :=
  if n < 0 then String.ofList ('-' :: digits n.natAbs) else decimal n.natAbs

/-- The digits of a number with zeros before them up to a width. -/
def paddedDigits (width n : Nat) : List Char :=
  let ds := digits n
  List.replicate (width - ds.length) '0' ++ ds

/-- Continues a numeral whose digits so far are worth `acc`. -/
def digitsFrom? (acc : Nat) : List Char → Option Nat
  | [] => some acc
  | c :: cs => do digitsFrom? (acc * 10 + (← digitValue? c)) cs

/-- The value of a numeral: one digit or more and nothing else. -/
def digitsValue? : List Char → Option Nat
  | [] => none
  | cs => digitsFrom? 0 cs

/-- A numeral with an optional plus sign and a value of at most `limit`. -/
def unsigned? (limit : Nat) (s : String) : Option Nat := do
  let n ← match s.toList with
    | '+' :: cs => digitsValue? cs
    | cs => digitsValue? cs
  if n ≤ limit then some n else none

/-- A numeral with an optional sign and a value from `least` to `most`. -/
def signed? (least most : Int) (s : String) : Option Int := do
  let n ← match s.toList with
    | '+' :: cs => (digitsValue? cs).map Int.ofNat
    | '-' :: cs => (digitsValue? cs).map fun n => -(Int.ofNat n)
    | cs => (digitsValue? cs).map Int.ofNat
  if least ≤ n ∧ n ≤ most then some n else none

def word32? (s : String) : Option UInt32 :=
  (unsigned? (UInt32.size - 1) s).map UInt32.ofNat

def int32? (s : String) : Option Int32 :=
  (signed? Int32.minValue.toInt Int32.maxValue.toInt s).map Int32.ofInt

theorem digitValue?_digitChar {n : Nat} (h : n < 10) : digitValue? (digitChar n) = some n := by
  match n, h with
  | 0, _ | 1, _ | 2, _ | 3, _ | 4, _ | 5, _ | 6, _ | 7, _ | 8, _ | 9, _ => rfl

theorem digitsFrom?_append (acc : Nat) (xs ys : List Char) :
    digitsFrom? acc (xs ++ ys) = (digitsFrom? acc xs).bind fun n => digitsFrom? n ys := by
  induction xs generalizing acc with
  | nil => rfl
  | cons c cs ih =>
    cases hc : digitValue? c with
    | none => simp [digitsFrom?, hc]
    | some d => simp [digitsFrom?, hc, ih]

theorem digits_ne_nil (n : Nat) : digits n ≠ [] := by
  unfold digits
  split <;> simp

theorem digitsFrom?_digits (n : Nat) : digitsFrom? 0 (digits n) = some n := by
  induction n using digits.induct with
  | case1 n h => simp [digits, h, digitsFrom?, digitValue?_digitChar h]
  | case2 n h ih =>
    rw [digits, if_neg h, digitsFrom?_append, ih]
    have hm : n % 10 < 10 := Nat.mod_lt _ (by decide)
    simp only [Option.bind_some, digitsFrom?, digitValue?_digitChar hm, Option.bind_eq_bind,
      Option.some.injEq]
    omega

theorem digitsValue?_digits (n : Nat) : digitsValue? (digits n) = some n := by
  have h := digits_ne_nil n
  cases hd : digits n with
  | nil => exact absurd hd h
  | cons c cs => simpa [digitsValue?, hd] using hd ▸ digitsFrom?_digits n

end Slipway.Text
