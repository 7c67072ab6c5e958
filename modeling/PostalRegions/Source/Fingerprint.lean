import PostalRegions.Digest.Sha256

/-!
# Fingerprints of source lists

The list of additional archives is part of what makes a snapshot reusable.  A snapshot carries a
short fingerprint of it.
-/

namespace PostalRegions

def fingerprintSize : Nat :=
  8

/-- The fingerprint of a list of addresses: the start of the hash of the list joined by commas.
The empty list has an empty fingerprint. -/
def fingerprint (addresses : List String) : String :=
  if addresses.isEmpty then ""
  else
    let joined := String.intercalate "," addresses
    Digest.hex ((Digest.sha256 joined.toUTF8.data.toList).take fingerprintSize)

end PostalRegions
