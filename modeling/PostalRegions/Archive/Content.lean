import PostalRegions.Archive.Checksum
import PostalRegions.Archive.Directory
import PostalRegions.Archive.Inflate

/-!
# The tables in an archive

The delimited tables among the entries of an archive, as text.  An entry that cannot be unpacked,
that is too large or whose checksum is wrong is left out; only an unreadable directory makes the
archive as a whole unreadable.
-/

namespace PostalRegions.Archive

def localSignature : Nat :=
  0x04034B50

def sizeLimit : Nat :=
  100 * 1024 * 1024

namespace DirectoryEntry

/-- The packed bytes of an entry, as far as they are there, if its local header is. -/
def packed? (bytes : ByteArray) (entry : DirectoryEntry) : Option ByteArray :=
  if entry.place + 30 ≤ bytes.size ∧ word32 bytes entry.place = localSignature then
    let start := entry.place + 30 + word16 bytes (entry.place + 26) +
      word16 bytes (entry.place + 28)
    some (bytes.extract start (start + entry.packedSize))
  else none

def unpack? (packing : Packing) (packed : ByteArray) : Option ByteArray :=
  match packing with
  | .stored => if packed.size ≤ sizeLimit then some packed else none
  | .deflated => (inflate sizeLimit packed).toOption

def content? (bytes : ByteArray) (entry : DirectoryEntry) : Option ByteArray := do
  guard (!entry.isEncrypted)
  guard (entry.size ≤ sizeLimit)
  let packing ← entry.packing
  let content ← unpack? packing (← entry.packed? bytes)
  guard ((Archive.checksum content).toNat = entry.checksum)
  return content

end DirectoryEntry

structure ArchiveTable where
  name : String
  text : String
deriving DecidableEq, Repr

/-- The ends of the names of tables, in small letters. -/
def tableSuffixes : List String :=
  [".csv", ".tsv", ".txt"]

def isTableName (name : String) : Bool :=
  let lower := name.toList.map Char.toLower
  tableSuffixes.any fun ending => ending.toList.isSuffixOf lower

def DirectoryEntry.table? (bytes : ByteArray) (entry : DirectoryEntry) : Option ArchiveTable :=
  if isTableName entry.name then
    (entry.content? bytes).map fun content => ⟨entry.name, Text.decode content⟩
  else none

/-- The tables in an archive, if the bytes are one. -/
def tables? (bytes : ByteArray) : Option (List ArchiveTable) :=
  (directory? bytes).map fun entries => entries.filterMap (DirectoryEntry.table? bytes)

theorem tables?_isSome (bytes : ByteArray) : (tables? bytes).isSome = isReadable bytes := by
  simp [tables?, isReadable]

end PostalRegions.Archive
