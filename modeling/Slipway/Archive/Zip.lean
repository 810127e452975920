import Slipway.Archive.Crc32
import Slipway.Archive.Inflate
import Slipway.Dict
import Slipway.Failure

/-
  Reading zip archives. The directory of an archive lies at its end; bytes before the archive and
  a comment behind it are allowed for. What has no readable directory is no archive.
-/

namespace Slipway.Zip

/-- Bytes in little-endian order. -/
def number (data : Array UInt8) (position size : Nat) : Option Nat :=
  if position + size ≤ data.size then
    some ((List.range size).foldr (fun i n => (data.getD (position + i) 0).toNat + 256 * n) 0)
  else none

def slice (data : Array UInt8) (position size : Nat) : Bytes :=
  (data.extract position (position + size)).toList

structure Entry where
  name : String
  encrypted : Bool
  method : Nat
  checksum : Nat
  size : Nat
  content : Nat
  deriving DecidableEq, Repr

structure Archive where
  data : Array UInt8
  entries : Dict Entry

def endSignature : Nat := 0x06054b50
def directorySignature : Nat := 0x02014b50
def localSignature : Nat := 0x04034b50

/-- The characters that the bytes from 128 on stand for in a name that is not UTF-8. -/
def highCharacters : String :=
  "ÇüéâäàåçêëèïîìÄÅÉæÆôöòûùÿÖÜ¢£¥₧ƒáíóúñÑªº¿⌐¬½¼¡«»░▒▓│┤╡╢╖╕╣║╗╝╜╛┐└┴┬├─┼╞╟╚╔╩╦╠═╬╧╨╤╥╙╘╒╓╫╪┘┌█▄▌▐▀αßΓπΣσµτΦΘΩδ∞φε∩≡±≥≤⌠⌡÷≈°∙·√ⁿ²■\u00A0"

def plainName (bs : Bytes) : String :=
  String.ofList (bs.map fun b =>
    if b.toNat < 128 then Char.ofNat b.toNat
    else highCharacters.toList.getD (b.toNat - 128) '?')

/-- Where the directory is, and by how much every position in it is shifted. -/
structure Directory where
  position : Nat
  shift : Nat
  count : Nat
  deriving DecidableEq, Repr

/-- An entry of the directory, and where the next one begins. Its content has to begin before the
    directory does. -/
def readEntry (data : Array UInt8) (dir : Directory) (p : Nat) : Option (Entry × Nat) := do
  guard ((← number data p 4) = directorySignature)
  let flags ← number data (p + 8) 2
  let method ← number data (p + 10) 2
  let checksum ← number data (p + 16) 4
  let size ← number data (p + 20) 4
  let nameSize ← number data (p + 28) 2
  let extraSize ← number data (p + 30) 2
  let commentSize ← number data (p + 32) 2
  let offset ← number data (p + 42) 4
  let next := p + 46 + nameSize + extraSize + commentSize
  guard (next ≤ data.size)
  let header := offset + dir.shift
  guard (header < dir.position)
  guard ((← number data header 4) = localSignature)
  let content := header + 30 + (← number data (header + 26) 2) + (← number data (header + 28) 2)
  guard (content ≤ dir.position)
  let bs := slice data (p + 46) nameSize
  let name := if flags.testBit 11 then Utf8.decodeLossy bs else plainName bs
  pure (⟨name, flags.testBit 0, method, checksum, size, content⟩, next)

def readEntries (data : Array UInt8) (dir : Directory) : Nat → Nat → Option (List Entry)
  | 0, _ => some []
  | n + 1, p => do
    let (e, p) ← readEntry data dir p
    pure (e :: (← readEntries data dir n p))

/-- What an end record at a position amounts to. -/
inductive EndRecord where
  | cut
  | invalid (inConsistent : Bool)
  | found (disks : Bool) (dir : Directory)

/-- The first position in a range that holds a directory entry. -/
def findDirectory (data : Array UInt8) (start stop : Nat) : Option Nat :=
  ((List.range (stop - start)).map (start + ·)).find? fun p =>
    p + 4 ≤ stop && number data p 4 == some directorySignature

/-- Reads the end record at `p`. In an archive with entries the first one found from the stated
    position on tells by how much the archive is shifted. -/
def readEnd (data : Array UInt8) (p : Nat) : EndRecord :=
  match number data (p + 4) 2, number data (p + 6) 2, number data (p + 8) 2,
      number data (p + 10) 2, number data (p + 16) 4, number data (p + 20) 2 with
  | some disk, some dirDisk, some here, some total, some offset, some commentSize =>
    if data.size < p + 22 + commentSize then .invalid false
    else if total = 0 then .found (disk = dirDisk) ⟨offset + (p - offset), p - offset, here⟩
    else if p ≤ offset then .invalid true
    else match findDirectory data offset p with
      | some q => .found (disk = dirDisk) ⟨q, q - offset, here⟩
      | none => .invalid true
  | _, _, _, _, _, _ => .cut

/-- The positions of end records, the last first. -/
def endPositions (data : Array UInt8) : List Nat :=
  ((List.range data.size).filter fun p => number data p 4 == some endSignature).reverse

/-- What is known of the end records tried so far. -/
inductive Tried where
  | nothing
  | cut
  | invalid

/-- Tries one end record after the other. If none leads to a readable directory, the file is no
    archive, except that a record cut off by the end of the file is a fault. -/
def openFrom (data : Array UInt8) : List Nat → Tried → Except ArchiveFault (Option Archive)
  | [], .cut => .error .truncated
  | [], _ => .ok none
  | p :: ps, tried =>
    match readEnd data p with
    | .cut => openFrom data ps (match tried with
      | .nothing => .cut
      | t => t)
    | .invalid inConsistent => openFrom data ps (match inConsistent, tried with
      | false, .cut => .cut
      | _, _ => .invalid)
    | .found disks dir =>
      match if disks then readEntries data dir dir.count dir.position else none with
      | some entries => .ok (some ⟨data, Dict.ofList (entries.map fun e => (e.name, e))⟩)
      | none => openFrom data ps .nothing

/-- The archive in a file, if it is one. -/
def ofBytes (bs : Bytes) : Except ArchiveFault (Option Archive) :=
  let data := bs.toArray
  openFrom data (endPositions data) .nothing

def decompress (method : Nat) (raw : Bytes) : Except ArchiveFault Bytes :=
  if method = 0 then .ok raw
  else if method = 8 then
    match Inflate.inflate raw with
    | .finished out => .ok out.toList
    | .truncated out => .ok out.toList
    | .corrupt => .error .corruptData
  else .error .unsupportedMethod

/-- The content of an entry, checked against its checksum. -/
def Archive.contents (a : Archive) (e : Entry) : Except ArchiveFault Bytes := do
  if e.encrypted then throw .encrypted
  let bs ← decompress e.method (slice a.data e.content e.size)
  if (Crc32.checksum bs).toNat = e.checksum then pure bs else throw .badChecksum

/-- The content of the entry of a name, or none. -/
def Archive.file (a : Archive) (name : String) : Except ArchiveFault (Option Bytes) :=
  match a.entries.get? name with
  | none => .ok none
  | some e => (a.contents e).map some

end Slipway.Zip
