import PostalRegions.Archive.Bytes
import PostalRegions.Archive.CodePage437
import PostalRegions.Text.Encoding

/-!
# The directory of an archive

An archive ends with a record that tells where its directory of entries lies.  Bytes in front of
the archive and behind its end record do no harm: the directory is looked for from the announced
place on, and the distance to the place where it is found shifts all offsets.  Of several end
records the last one with a complete directory counts.
-/

namespace PostalRegions.Archive

def endSignature : Nat :=
  0x06054B50

def directorySignature : Nat :=
  0x02014B50

structure EndRecord where
  place : Nat
  disk : Nat
  directoryDisk : Nat
  entriesOnDisk : Nat
  entries : Nat
  directoryOffset : Nat
deriving Repr

inductive Packing where
  | stored
  | deflated
deriving DecidableEq, Repr

def Packing.ofNumber? : Nat → Option Packing
  | 0 => some .stored
  | 8 => some .deflated
  | _ => none

/-- An entry of the directory; `place` is where its local header starts. -/
structure DirectoryEntry where
  name : String
  isEncrypted : Bool
  packing : Option Packing
  checksum : Nat
  packedSize : Nat
  size : Nat
  place : Nat
deriving Repr

/-- The end record at a place, if one starts there and its comment is complete. -/
def EndRecord.at? (bytes : ByteArray) (place : Nat) : Option EndRecord :=
  if word32 bytes place = endSignature ∧ place + 22 ≤ bytes.size ∧
      place + 22 + word16 bytes (place + 20) ≤ bytes.size then
    some
      { place := place
        disk := word16 bytes (place + 4)
        directoryDisk := word16 bytes (place + 6)
        entriesOnDisk := word16 bytes (place + 8)
        entries := word16 bytes (place + 10)
        directoryOffset := word32 bytes (place + 16) }
  else none

/-- The end records of an archive, the last one first. -/
def endRecords (bytes : ByteArray) : List EndRecord :=
  (List.range bytes.size).reverse.filterMap (EndRecord.at? bytes)

namespace EndRecord

/-- Where the directory starts: at the first directory entry from the announced place on.  An
empty directory stands right in front of the end record. -/
def directoryPlace? (bytes : ByteArray) (record : EndRecord) : Option Nat :=
  if record.entries = 0 then some (max record.directoryOffset record.place)
  else
    (List.range' record.directoryOffset (record.place - record.directoryOffset)).find?
      fun place => word32 bytes place == directorySignature

end EndRecord

/-- The name of an entry, in UTF-8 if the entry says so. -/
def entryName (flags : Nat) (bytes : ByteArray) : String :=
  if flags / 2048 % 2 = 1 then Text.decodeLossy bytes else ofCodePage437 bytes

/-- So many directory entries from a place on, if they are all complete.  `shift` is the distance
of the archive from the start of the bytes. -/
def directoryEntries (bytes : ByteArray) (shift : Nat) : Nat → Nat → Option (List DirectoryEntry)
  | 0, _ => some []
  | count + 1, place => do
    guard (place + 46 ≤ bytes.size)
    guard (word32 bytes place = directorySignature)
    let flags := word16 bytes (place + 8)
    let nameLength := word16 bytes (place + 28)
    let furtherLength := word16 bytes (place + 30) + word16 bytes (place + 32)
    let name ← slice? bytes (place + 46) nameLength
    let next := place + 46 + nameLength + furtherLength
    guard (next ≤ bytes.size)
    let others ← directoryEntries bytes shift count next
    let entry : DirectoryEntry :=
      { name := entryName flags name
        isEncrypted := flags % 2 = 1
        packing := Packing.ofNumber? (word16 bytes (place + 10))
        checksum := word32 bytes (place + 16)
        packedSize := word32 bytes (place + 20)
        size := word32 bytes (place + 24)
        place := word32 bytes (place + 42) + shift }
    return entry :: others

/-- The directory that an end record announces, if it is complete. -/
def EndRecord.directory? (bytes : ByteArray) (record : EndRecord) :
    Option (List DirectoryEntry) := do
  guard (record.disk = record.directoryDisk)
  let place ← record.directoryPlace? bytes
  directoryEntries bytes (place - record.directoryOffset) record.entriesOnDisk place

/-- The entries after one more: an entry replaces an earlier one of the same name. -/
def withEntry (entries : List DirectoryEntry) (entry : DirectoryEntry) : List DirectoryEntry :=
  if entries.any (·.name == entry.name) then
    entries.map fun earlier => if earlier.name == entry.name then entry else earlier
  else entries ++ [entry]

def directory? (bytes : ByteArray) : Option (List DirectoryEntry) :=
  ((endRecords bytes).findSome? (EndRecord.directory? bytes)).map fun entries =>
    entries.foldl withEntry []

def isReadable (bytes : ByteArray) : Bool :=
  (directory? bytes).isSome

end PostalRegions.Archive
