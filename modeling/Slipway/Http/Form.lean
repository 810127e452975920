import Slipway.Bytes.Utf8
import Slipway.Text.Hexadecimal

/-
  Parameters of a request as they stand in its target. Letters, digits, and `*`, `-`, `.` and `_`
  are kept, a space becomes a plus sign, and any other byte a percent sign and two digits.
-/

namespace Slipway.Form

def isPlain (b : UInt8) : Bool :=
  (48 ≤ b && b ≤ 57) || (65 ≤ b && b ≤ 90) || (97 ≤ b && b ≤ 122) ||
    b == 42 || b == 45 || b == 46 || b == 95

def encodeByte (b : UInt8) : List Char :=
  if isPlain b then [Char.ofNat b.toNat]
  else if b = 32 then ['+']
  else ['%', Text.upperHexDigit (b.toNat / 16), Text.upperHexDigit (b.toNat % 16)]

def encode (s : String) : String := String.ofList ((Utf8.encode s).flatMap encodeByte)

def pair (p : String × String) : String := encode p.1 ++ "=" ++ encode p.2

/-- Parameters, each led by the sign that parts it from what stands before it. -/
def following (ps : List (String × String)) : String :=
  String.join (ps.map fun p => "&" ++ pair p)

end Slipway.Form
