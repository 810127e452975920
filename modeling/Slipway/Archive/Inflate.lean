import Slipway.Bytes.Utf8

/-
  Decompression of DEFLATE data. The input is taken bit by bit, least significant bit of a byte
  first. Input that ends too early still yields what was decompressed before: `Inflated.truncated`.
-/

namespace Slipway.Inflate

def byteBits (b : UInt8) : List Bool := (List.range 8).map fun i => b.toNat.testBit i

def bitsOf (bs : Bytes) : List Bool := bs.flatMap byteBits

/-- Why decompression stopped before its end. -/
inductive Stop where
  | truncated
  | corrupt
  deriving DecidableEq, Repr

/-- The next `n` bits as a number, the first bit being the least significant. -/
def takeBits : Nat → List Bool → Except Stop (Nat × List Bool)
  | 0, bits => .ok (0, bits)
  | _ + 1, [] => .error .truncated
  | n + 1, b :: bits => do
    let (rest, bits) ← takeBits n bits
    .ok (b.toNat + 2 * rest, bits)

/-- A prefix code: how many symbols have codes of 1, 2, … bits, and the symbols by code. -/
structure Code where
  counts : List Nat
  symbols : Array Nat

def maxCodeLength : Nat := 15

/-- The canonical code in which symbol `i` has a code of `lengths[i]` bits, or none for 0. A code
    must use up all bit patterns unless it has at most one symbol. -/
def Code.ofLengths? (lengths : List Nat) : Option Code :=
  let sizes := (List.range maxCodeLength).map (· + 1)
  let counts := sizes.map fun n => lengths.count n
  let indexed := lengths.zipIdx
  let symbols := sizes.flatMap fun n => (indexed.filter (·.1 = n)).map (·.2)
  let left := counts.foldl (fun (left : Int) (n : Nat) => 2 * left - n) 1
  let excess := (counts.foldl (fun (acc : Int × Bool) (n : Nat) =>
    let left : Int := 2 * acc.1 - n
    (left, acc.2 || left < 0)) (1, false)).2
  if excess then none
  else if left ≠ 0 ∧ 1 < symbols.length then none
  else some ⟨counts, symbols.toArray⟩

/-- Follows the bits through the codes of growing length. `code` is the pattern so far, `first`
    the first code of this length and `index` the place of its symbol. -/
def Code.decodeFrom (symbols : Array Nat) (code first index : Nat) :
    List Nat → List Bool → Except Stop (Nat × List Bool)
  | [], _ => .error .corrupt
  | _ :: _, [] => .error .truncated
  | count :: counts, b :: bits =>
    let code := code + b.toNat
    if code < first + count then
      match symbols[index + (code - first)]? with
      | some s => .ok (s, bits)
      | none => .error .corrupt
    else decodeFrom symbols (2 * code) (2 * (first + count)) (index + count) counts bits

def Code.decode (c : Code) (bits : List Bool) : Except Stop (Nat × List Bool) :=
  decodeFrom c.symbols 0 0 0 c.counts bits

/-- The base value and the number of further bits of each length symbol from 257 on. -/
def lengthBase : Array (Nat × Nat) := #[
  (3, 0), (4, 0), (5, 0), (6, 0), (7, 0), (8, 0), (9, 0), (10, 0), (11, 1), (13, 1), (15, 1),
  (17, 1), (19, 2), (23, 2), (27, 2), (31, 2), (35, 3), (43, 3), (51, 3), (59, 3), (67, 4),
  (83, 4), (99, 4), (115, 4), (131, 5), (163, 5), (195, 5), (227, 5), (258, 0)]

/-- The base value and the number of further bits of each distance symbol. -/
def distanceBase : Array (Nat × Nat) := #[
  (1, 0), (2, 0), (3, 0), (4, 0), (5, 1), (7, 1), (9, 2), (13, 2), (17, 3), (25, 3), (33, 4),
  (49, 4), (65, 5), (97, 5), (129, 6), (193, 6), (257, 7), (385, 7), (513, 8), (769, 8),
  (1025, 9), (1537, 9), (2049, 10), (3073, 10), (4097, 11), (6145, 11), (8193, 12), (12289, 12),
  (16385, 13), (24577, 13)]

/-- A symbol's value: its base and the further bits. -/
def extended (table : Array (Nat × Nat)) (symbol : Nat) (bits : List Bool) : Except Stop (Nat × List Bool) :=
  match table[symbol]? with
  | none => .error .corrupt
  | some (base, n) => do
    let (more, bits) ← takeBits n bits
    .ok (base + more, bits)

/-- Appends `n` bytes, each equal to the one `distance` places before it. -/
def copyBack (distance : Nat) : Nat → Array UInt8 → Array UInt8
  | 0, out => out
  | n + 1, out => copyBack distance n (out.push (out.getD (out.size - distance) 0))

/-- What was decompressed, and how it ended. -/
inductive Inflated where
  | finished (out : Array UInt8)
  | truncated (out : Array UInt8)
  | corrupt

/-- What a block leads to: more input, or a stop with what is there by then. -/
inductive Block where
  | done (out : Array UInt8) (bits : List Bool)
  | stopped (s : Stop) (out : Array UInt8)

/-- A compressed block. Every symbol takes a bit or more, so the input bounds their number. -/
def codedBlock (literals distances : Code) : Nat → Array UInt8 → List Bool → Block
  | 0, out, _ => .stopped .corrupt out
  | fuel + 1, out, bits =>
    match literals.decode bits with
    | .error s => .stopped s out
    | .ok (symbol, bits) =>
      if symbol < 256 then
        codedBlock literals distances fuel (out.push (UInt8.ofNat symbol)) bits
      else if symbol = 256 then .done out bits
      else
        let reference : Except Stop ((Nat × Nat) × List Bool) := do
          let (length, bits) ← extended lengthBase (symbol - 257) bits
          let (symbol, bits) ← distances.decode bits
          let (distance, bits) ← extended distanceBase symbol bits
          if out.size < distance then .error .corrupt else .ok ((length, distance), bits)
        match reference with
        | .error s => .stopped s out
        | .ok ((length, distance), bits) =>
          codedBlock literals distances fuel (copyBack distance length out) bits

/-- Copies `n` bytes of a stored block. -/
def storedBytes : Nat → Array UInt8 → List Bool → Block
  | 0, out, bits => .done out bits
  | n + 1, out, bits =>
    match takeBits 8 bits with
    | .error s => .stopped s out
    | .ok (b, bits) => storedBytes n (out.push (UInt8.ofNat b)) bits

/-- A stored block begins at the next byte with its length and the complement of it. -/
def storedBlock (out : Array UInt8) (bits : List Bool) : Block :=
  let header : Except Stop (Nat × List Bool) := do
    let (n, bits) ← takeBits 16 (bits.drop (bits.length % 8))
    let (complement, bits) ← takeBits 16 bits
    if n + complement = 65535 then .ok (n, bits) else .error .corrupt
  match header with
  | .error s => .stopped s out
  | .ok (n, bits) => storedBytes n out bits

def fixedLiterals? : Option Code :=
  Code.ofLengths? (List.replicate 144 8 ++ List.replicate 112 9 ++ List.replicate 24 7 ++
    List.replicate 8 8)

def fixedDistances? : Option Code := Code.ofLengths? (List.replicate 32 5)

/-- The order in which the lengths of the code-length code are given. -/
def codeLengthOrder : List Nat :=
  [16, 17, 18, 0, 8, 7, 9, 6, 10, 5, 11, 4, 12, 3, 13, 2, 14, 1, 15]

def takeLengths : Nat → List Bool → Except Stop (List Nat × List Bool)
  | 0, bits => .ok ([], bits)
  | n + 1, bits => do
    let (length, bits) ← takeBits 3 bits
    let (rest, bits) ← takeLengths n bits
    .ok (length :: rest, bits)

/-- The code lengths of a block, `missing` more of them; `acc` holds those before, last first. -/
def codeLengths (c : Code) : Nat → Nat → List Nat → List Bool → Except Stop (List Nat × List Bool)
  | 0, _, _, _ => .error .corrupt
  | _ + 1, 0, acc, bits => .ok (acc.reverse, bits)
  | fuel + 1, missing + 1, acc, bits => do
    let (symbol, bits) ← c.decode bits
    if symbol < 16 then codeLengths c fuel missing (symbol :: acc) bits
    else
      let (length, count, bits) ←
        if symbol = 16 then
          match acc with
          | [] => throw .corrupt
          | last :: _ => do
            let (n, bits) ← takeBits 2 bits
            pure (last, n + 3, bits)
        else if symbol = 17 then do
          let (n, bits) ← takeBits 3 bits
          pure (0, n + 3, bits)
        else do
          let (n, bits) ← takeBits 7 bits
          pure (0, n + 11, bits)
      if missing + 1 < count then .error .corrupt
      else codeLengths c fuel (missing + 1 - count) (List.replicate count length ++ acc) bits

/-- The two codes at the beginning of a block that brings its own. -/
def dynamicCodes (bits : List Bool) : Except Stop ((Code × Code) × List Bool) := do
  let (literalCount, bits) ← takeBits 5 bits
  let (distanceCount, bits) ← takeBits 5 bits
  let (lengthCount, bits) ← takeBits 4 bits
  let (literalCount, distanceCount) := (literalCount + 257, distanceCount + 1)
  if 286 < literalCount ∨ 30 < distanceCount then .error .corrupt
  else
    let (given, bits) ← takeLengths (lengthCount + 4) bits
    let lengths := (List.range 19).map fun symbol => ((codeLengthOrder.zip given).lookup symbol).getD 0
    match Code.ofLengths? lengths with
    | none => .error .corrupt
    | some c =>
      let total := literalCount + distanceCount
      let (lengths, bits) ← codeLengths c (total + 1) total [] bits
      match Code.ofLengths? (lengths.take literalCount),
          Code.ofLengths? (lengths.drop literalCount) with
      | some literals, some distances => .ok ((literals, distances), bits)
      | _, _ => .error .corrupt

def block (kind : Nat) (out : Array UInt8) (bits : List Bool) : Block :=
  if kind = 0 then storedBlock out bits
  else if kind = 1 then
    match fixedLiterals?, fixedDistances? with
    | some literals, some distances => codedBlock literals distances (bits.length + 1) out bits
    | _, _ => .stopped .corrupt out
  else if kind = 2 then
    match dynamicCodes bits with
    | .error s => .stopped s out
    | .ok ((literals, distances), bits) =>
      codedBlock literals distances (bits.length + 1) out bits
  else .stopped .corrupt out

def stoppedAs (out : Array UInt8) : Stop → Inflated
  | .truncated => .truncated out
  | .corrupt => .corrupt

/-- Block after block until one is marked as the last. -/
def blocks : Nat → Array UInt8 → List Bool → Inflated
  | 0, _, _ => .corrupt
  | fuel + 1, out, bits =>
    match takeBits 3 bits with
    | .error s => stoppedAs out s
    | .ok (header, bits) =>
      match block (header / 2) out bits with
      | .stopped s out => stoppedAs out s
      | .done out bits => if header % 2 = 1 then .finished out else blocks fuel out bits

def inflate (bs : Bytes) : Inflated :=
  let bits := bitsOf bs
  blocks (bits.length + 1) #[] bits

end Slipway.Inflate
