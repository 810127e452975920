/-
  Bytes, and UTF-8 read from them. `Utf8.decode?` accepts exactly well-formed UTF-8;
  `Utf8.decodeLossy` puts U+FFFD in the place of each longest stretch that begins a character
  but does not finish one, and of each byte that begins none.
-/

namespace Slipway

abbrev Bytes := List UInt8

namespace Utf8

def encode (s : String) : Bytes := s.toList.flatMap String.utf8EncodeChar

/-- How many bytes follow a lead byte, and the range of the first of them. -/
def lead? (b : Nat) : Option (Nat × Nat × Nat) :=
  if 0xC2 ≤ b ∧ b ≤ 0xDF then some (1, 0x80, 0xBF)
  else if b = 0xE0 then some (2, 0xA0, 0xBF)
  else if b = 0xED then some (2, 0x80, 0x9F)
  else if 0xE1 ≤ b ∧ b ≤ 0xEF then some (2, 0x80, 0xBF)
  else if b = 0xF0 then some (3, 0x90, 0xBF)
  else if 0xF1 ≤ b ∧ b ≤ 0xF3 then some (3, 0x80, 0xBF)
  else if b = 0xF4 then some (3, 0x80, 0x8F)
  else none

/-- What the bytes at the beginning of a non-empty sequence are. -/
inductive Chunk where
  | char (c : Char) (size : Nat)
  | broken (size : Nat)

def Chunk.size : Chunk → Nat
  | char _ n => n
  | broken n => n

def Chunk.char? : Chunk → Option Char
  | char c _ => some c
  | broken _ => none

/-- Takes the bytes that follow a lead byte: how many were taken, and the value if all were. -/
def trail (value taken : Nat) : Nat → Nat → Nat → Bytes → Chunk
  | 0, _, _, _ => .char (Char.ofNat value) taken
  | _ + 1, _, _, [] => .broken taken
  | n + 1, low, high, b :: bs =>
    if low ≤ b.toNat ∧ b.toNat ≤ high then
      trail (value * 64 + (b.toNat - 0x80)) (taken + 1) n 0x80 0xBF bs
    else .broken taken

def chunk (b : UInt8) (bs : Bytes) : Chunk :=
  if b.toNat < 0x80 then .char (Char.ofNat b.toNat) 1
  else match lead? b.toNat with
    | none => .broken 1
    | some (n, low, high) =>
      let bits := if n = 1 then b.toNat - 0xC0 else if n = 2 then b.toNat - 0xE0 else b.toNat - 0xF0
      trail bits 1 n low high bs

/-- The chunks of a sequence. The length bounds their number, as each takes a byte or more. -/
def chunks : Nat → Bytes → List Chunk
  | 0, _ => []
  | _, [] => []
  | fuel + 1, b :: bs => chunk b bs :: chunks fuel ((b :: bs).drop (chunk b bs).size)

def decode? (bs : Bytes) : Option String :=
  ((chunks bs.length bs).mapM Chunk.char?).map String.ofList

def decodeLossy (bs : Bytes) : String :=
  String.ofList ((chunks bs.length bs).map fun c => c.char?.getD (Char.ofNat 0xFFFD))

end Utf8

end Slipway
