/-!
# Numbers in bytes

Whole numbers stored with the least significant byte first, read at a place in a byte string.
-/

namespace PostalRegions.Archive

/-- The byte at a place; beyond the end there are zeros. -/
def byteAt (bytes : ByteArray) (place : Nat) : Nat :=
  if h : place < bytes.size then bytes[place].toNat else 0

def word16 (bytes : ByteArray) (place : Nat) : Nat :=
  byteAt bytes place + 256 * byteAt bytes (place + 1)

def word32 (bytes : ByteArray) (place : Nat) : Nat :=
  word16 bytes place + 65536 * word16 bytes (place + 2)

def slice? (bytes : ByteArray) (place count : Nat) : Option ByteArray :=
  if place + count ≤ bytes.size then some (bytes.extract place (place + count)) else none

end PostalRegions.Archive
