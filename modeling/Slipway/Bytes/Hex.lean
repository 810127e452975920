import Slipway.Bytes.Utf8
import Slipway.Text.Hexadecimal

/-
  Bytes as lower-case hexadecimal text, two digits each; reading takes either case.
-/

namespace Slipway.Hex

def encode (bs : Bytes) : String :=
  String.ofList (bs.flatMap fun b => [Text.hexDigit (b.toNat / 16), Text.hexDigit (b.toNat % 16)])

def decodeChars? : List Char → Option Bytes
  | [] => some []
  | [_] => none
  | a :: b :: cs => do
    let n := (← Text.hexDigitValue? a) * 16 + (← Text.hexDigitValue? b)
    pure (UInt8.ofNat n :: (← decodeChars? cs))

def decode? (s : String) : Option Bytes := decodeChars? s.toList

end Slipway.Hex
