import Slipway.Digest.Sha256

/-
  Fingerprints of artifacts: equal content has an equal fingerprint, whatever it is called.
-/

namespace Slipway

structure Fingerprint where
  text : String
  deriving DecidableEq, Repr

/-- The fingerprint of content: its SHA-256 digest in hexadecimal. -/
def Fingerprint.of (content : Bytes) : Fingerprint := ⟨Sha256.hexDigest content⟩

end Slipway
