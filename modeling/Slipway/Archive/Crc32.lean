import Slipway.Bytes.Utf8

/-
  The CRC-32 checksum of a byte sequence (polynomial 0xEDB88320, reflected).
-/

namespace Slipway.Crc32

/-- Divides out one bit. -/
def bitStep (r : UInt32) : UInt32 :=
  if r &&& 1 = 1 then (r >>> 1) ^^^ 0xEDB88320 else r >>> 1

def byteStep (r : UInt32) (b : UInt8) : UInt32 :=
  let r := r ^^^ b.toUInt32
  bitStep (bitStep (bitStep (bitStep (bitStep (bitStep (bitStep (bitStep r)))))))

def checksum (bs : Bytes) : UInt32 := bs.foldl byteStep 0xFFFFFFFF ^^^ 0xFFFFFFFF

end Slipway.Crc32
