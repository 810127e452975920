/-
  Hexadecimal digits in letters of either case, and characters by number.
  `hexDigitValue?_hexDigit`, `hexDigitValue?_upperHexDigit`: a digit that was written reads as its
  number.
-/

namespace Slipway.Text

def hexDigit (n : Nat) : Char :=
  if n < 10 then Char.ofNat (48 + n) else Char.ofNat (87 + n)

def upperHexDigit (n : Nat) : Char :=
  if n < 10 then Char.ofNat (48 + n) else Char.ofNat (55 + n)

def hexDigitValue? (c : Char) : Option Nat :=
  if '0' ≤ c ∧ c ≤ '9' then some (c.toNat - 48)
  else if 'a' ≤ c ∧ c ≤ 'f' then some (c.toNat - 87)
  else if 'A' ≤ c ∧ c ≤ 'F' then some (c.toNat - 55)
  else none

/-- The value of a row of digits; that of none is 0. -/
def hexValue? (cs : List Char) : Option Nat :=
  cs.foldlM (fun n c => (hexDigitValue? c).map (n * 16 + ·)) 0

/-- The character of a scalar value; surrogates have none. -/
def scalar? (n : Nat) : Option Char :=
  if h : n.isValidChar then some (Char.ofNatAux n h) else none

theorem hexDigitValue?_hexDigit {n : Nat} (h : n < 16) : hexDigitValue? (hexDigit n) = some n := by
  have all : ∀ i : Fin 16, hexDigitValue? (hexDigit i.val) = some i.val := by decide
  exact all ⟨n, h⟩

theorem hexDigitValue?_upperHexDigit {n : Nat} (h : n < 16) :
    hexDigitValue? (upperHexDigit n) = some n := by
  have all : ∀ i : Fin 16, hexDigitValue? (upperHexDigit i.val) = some i.val := by decide
  exact all ⟨n, h⟩

end Slipway.Text
