/-
  The target of a request: a path and a query. What may stand in one is told character by
  character; a fragment is left out.
-/

namespace Slipway

structure Target where
  path : String
  query : String
  deriving DecidableEq, Repr

namespace Target

/-- The characters that may stand in a path: no control characters and no blank, and none of
    the two angle brackets and the grave accent. -/
def isPathChar (c : Char) : Bool :=
  let n := c.toNat
  n == 0x21 || n == 0x22 || (0x24 ≤ n && n ≤ 0x3b) || n == 0x3d || (0x40 ≤ n && n ≤ 0x5f) ||
    0x61 ≤ n

/-- The characters that may stand in a query: the same, but for the quotation mark, which may
    not, and for the question mark and the grave accent, which may. -/
def isQueryChar (c : Char) : Bool :=
  let n := c.toNat
  n == 0x21 || (0x24 ≤ n && n ≤ 0x3b) || n == 0x3d || 0x3f ≤ n

/-- The number of bytes that a target may have. -/
def maxSize : Nat := 65534

/-- Takes a target apart at its first question mark. -/
def parse? (s : String) : Option Target :=
  let cs := s.toList.takeWhile (· ≠ '#')
  let path := cs.takeWhile (· ≠ '?')
  let query := (cs.dropWhile (· ≠ '?')).drop 1
  if s.utf8ByteSize ≤ maxSize && path.all isPathChar && query.all isQueryChar then
    some ⟨String.ofList path, String.ofList query⟩
  else none

end Target

end Slipway
