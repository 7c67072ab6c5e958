/-!
# Checksums

The 32-bit cyclic redundancy check of archive entries, one table look-up for each byte.
-/

namespace PostalRegions.Archive

def checksumShift (value : UInt32) : UInt32 :=
  if value % 2 = 1 then (value >>> 1) ^^^ 0xEDB88320 else value >>> 1

def checksumOfByte (byte : UInt32) : UInt32 :=
  (List.range 8).foldl (fun value _ => checksumShift value) byte

def checksumTable : Array UInt32 :=
  Array.ofFn fun index : Fin 256 => checksumOfByte index.val.toUInt32

def checksumStep (value : UInt32) (byte : UInt8) : UInt32 :=
  checksumTable[((value ^^^ byte.toUInt32) &&& 0xFF).toNat]?.getD 0 ^^^ (value >>> 8)

def checksum (bytes : ByteArray) : UInt32 :=
  bytes.foldl checksumStep 0xFFFFFFFF ^^^ 0xFFFFFFFF

end PostalRegions.Archive
