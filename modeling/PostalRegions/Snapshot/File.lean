import PostalRegions.Snapshot.Store

/-!
# Snapshot files as bytes

How the tables of a snapshot are written into a file, and read from it again.  A cell that is
there is written behind its length, so that no text needs to be escaped, and a confidence is
written as the bits of its float.
-/

namespace PostalRegions.SnapshotFile

def signature : ByteArray :=
  "postal regions snapshot\n".toUTF8

/-- Reads a value off the front of a text; answers it together with the rest. -/
abbrev Reader (α : Type) := List Char → Option (α × List Char)

/-! ## Numbers and cells -/

def numberEnd : Char :=
  ':'

def absentMark : Char :=
  '-'

def presentMark : Char :=
  '+'

def writeNumber (value : Nat) : List Char :=
  Nat.toDigits 10 value ++ [numberEnd]

def readNumber : Reader Nat := fun text =>
  let digits := text.takeWhile Char.isDigit
  match text.dropWhile Char.isDigit with
  | mark :: rest =>
    if digits.isEmpty || mark != numberEnd then none
    else some (digits.foldl (fun value c => 10 * value + (c.toNat - '0'.toNat)) 0, rest)
  | [] => none

def writeText (value : String) : List Char :=
  writeNumber value.toList.length ++ value.toList

def readText : Reader String := fun text => do
  let (length, rest) ← readNumber text
  if rest.length < length then none
  else some (String.ofList (rest.take length), rest.drop length)

def writeFloat (value : Float) : List Char :=
  writeNumber value.toBits.toNat

def readFloat : Reader Float := fun text => do
  let (bits, rest) ← readNumber text
  return (Float.ofBits bits.toUInt64, rest)

def writeOption {α : Type} (write : α → List Char) : Option α → List Char
  | none => [absentMark]
  | some value => presentMark :: write value

def readOption {α : Type} (read : Reader α) : Reader (Option α)
  | [] => none
  | mark :: rest =>
    if mark = absentMark then some (none, rest)
    else if mark = presentMark then (read rest).map fun (value, rest) => (some value, rest)
    else none

/-! ## Rows -/

def writeMetadataRow (row : MetadataRow) : List Char :=
  writeOption writeText row.key ++ writeOption writeText row.value

def readMetadataRow : Reader MetadataRow := fun text => do
  let (key, text) ← readOption readText text
  let (value, text) ← readOption readText text
  return (⟨key, value⟩, text)

def writeExactRow (row : ExactRow) : List Char :=
  writeOption writeText row.country ++ writeOption writeText row.code ++
    writeOption writeText row.region

def readExactRow : Reader ExactRow := fun text => do
  let (country, text) ← readOption readText text
  let (code, text) ← readOption readText text
  let (region, text) ← readOption readText text
  return (⟨country, code, region⟩, text)

def writeEstimateRow (row : EstimateRow Float) : List Char :=
  writeOption writeText row.country ++ writeOption writeText row.code ++
    writeOption writeText row.level1 ++ writeOption writeText row.level2 ++
    writeOption writeText row.level3 ++ writeOption writeFloat row.confidence1 ++
    writeOption writeFloat row.confidence2 ++ writeOption writeFloat row.confidence3

def readEstimateRow : Reader (EstimateRow Float) := fun text => do
  let (country, text) ← readOption readText text
  let (code, text) ← readOption readText text
  let (level1, text) ← readOption readText text
  let (level2, text) ← readOption readText text
  let (level3, text) ← readOption readText text
  let (confidence1, text) ← readOption readFloat text
  let (confidence2, text) ← readOption readFloat text
  let (confidence3, text) ← readOption readFloat text
  return (⟨country, code, level1, level2, level3, confidence1, confidence2, confidence3⟩, text)

/-! ## Tables -/

def writeRows {ρ : Type} (write : ρ → List Char) (rows : List ρ) : List Char :=
  writeNumber rows.length ++ rows.flatMap write

def readRowsFrom {ρ : Type} (read : Reader ρ) : Nat → Reader (List ρ)
  | 0, text => some ([], text)
  | count + 1, text => do
    let (row, text) ← read text
    let (rows, text) ← readRowsFrom read count text
    return (row :: rows, text)

def readRows {ρ : Type} (read : Reader ρ) : Reader (List ρ) := fun text => do
  let (count, text) ← readNumber text
  readRowsFrom read count text

def writeDatabase (database : Database Float) : List Char :=
  writeOption (writeRows writeMetadataRow) database.metadata ++
    writeOption (writeRows writeExactRow) database.exact ++
    writeOption (writeRows writeEstimateRow) database.estimates

/-- Reads the three tables; nothing may follow them. -/
def readDatabase (text : List Char) : Option (Database Float) := do
  let (metadata, text) ← readOption (readRows readMetadataRow) text
  let (exact, text) ← readOption (readRows readExactRow) text
  let (estimates, text) ← readOption (readRows readEstimateRow) text
  if text.isEmpty then some ⟨metadata, exact, estimates⟩ else none

/-! ## Files -/

def write : Content Float → ByteArray
  | .plain bytes => bytes
  | .database database =>
    signature ++ (String.ofList (writeDatabase database)).toUTF8

def tables? (bytes : ByteArray) : Option (Database Float) :=
  let length := signature.size
  if (bytes.extract 0 length).data = signature.data then
    (String.fromUTF8? (bytes.extract length bytes.size)).bind fun text => readDatabase text.toList
  else none

def read (bytes : ByteArray) : Content Float :=
  match tables? bytes with
  | some database => .database database
  | none => .plain bytes

end PostalRegions.SnapshotFile
